import Mathlib
import Moqtap.EgressCeilings

/-!
What the egress queues of one session keep in step with each other: the byte
counter of each, the gauge that adds them up, and the demand they declare with
the scheduler they share (`charge`, `credit`, `clear`, the teardown drain and
`Drop` of `PendingQueue` in `moqtap-proxy`'s `egress.rs`).

A call on one queue moves the gauge and the demand by what that queue's own share
moves, whatever the others hold (`Accounts`), so the totals hold over any number
of queues and any order of calls (`accounts_kept`).
-/

namespace Moqtap.Egress

open Shape (Scheduler SchedState)
open Runs

/-! ## The counters -/

/-- What the queues of a session share: the scheduler's state and the gauge. -/
structure Shared where
  state : SchedState
  gauge : ℕ
  discarding : Bool

/-- A queue with its own byte counter. -/
structure CountedQueue extends ArmedQueue where
  queuedBytes : ℕ
  deriving DecidableEq, Repr

namespace CountedQueue

def new (config : EgressConfig) (shaper : Option Shaper) : CountedQueue :=
  { ArmedQueue.new config shaper with queuedBytes := 0 }

variable (scheduler : Scheduler) (enabled : Bool) (queue : CountedQueue) (shared : Shared)

def charge (bytes : ℕ) : CountedQueue × Shared :=
  ({ queue with queuedBytes := queue.queuedBytes + bytes }, { shared with gauge := shared.gauge + bytes })

/-- No more than was charged. -/
def credit (bytes : ℕ) : CountedQueue × Shared :=
  let bytes := min bytes queue.queuedBytes
  ({ queue with queuedBytes := queue.queuedBytes - bytes }, { shared with gauge := shared.gauge - bytes })

/-- A call that leaves the counters alone. -/
def lift (call : ArmedQueue → SchedState → ArmedQueue × SchedState) : CountedQueue × Shared :=
  let (armed, state) := call queue.toArmedQueue shared.state
  ({ queue with toArmedQueue := armed }, { shared with state := state })

def syncShapeDemand : CountedQueue × Shared := queue.lift shared (ArmedQueue.syncShapeDemand scheduler)

def push (unit : Pending) (now : ℕ) : CountedQueue × Shared :=
  let (queue, shared) := queue.charge shared unit.len
  queue.lift shared fun armed state => armed.push scheduler state unit now

def clear : CountedQueue × Shared :=
  let (queue, shared) := queue.credit shared queue.queuedBytes
  queue.lift shared (ArmedQueue.clear scheduler)

/-- The head goes: off the counters, and the next one is armed and declared. -/
def popFront (unit : Pending) (rest : List Pending) : CountedQueue × Shared :=
  let (queue, shared) := ({ queue with q := rest } : CountedQueue).credit shared unit.len
  ({ queue with toArmedQueue := queue.armHead } : CountedQueue).syncShapeDemand scheduler shared

/-- Everything queued is replaced by the reset, which is not counted: it has no bytes. -/
def expireHead (now : ℕ) : Expiry → CountedQueue × Shared
  | .deliver => queue.lift shared fun armed state => armed.expireHead scheduler state now .deliver
  | .resetStream code =>
    let (queue, shared) := ({ queue with shapeReport := some .expired } : CountedQueue).clear scheduler shared
    let queue : CountedQueue := { queue with q := [.terminal (.reset code) now] }
    ({ queue with toArmedQueue := queue.armHead }, shared)

/-- The expiry the head is decided by, where it has outlived its clamp. -/
def headExpiry (now : ℕ) : Option Expiry :=
  match queue.shaper, queue.q.head? with
  | some shaper, some head =>
    match head.shape with
    | some tag => if !head.item.isTerminal && decide (tag.expiresAt ≤ now) then some shaper.onExpiry else none
    | none => none
  | _, _ => none

def shapingGrantsHead (now : ℕ) : Bool × CountedQueue × Shared :=
  match queue.headExpiry now with
  | some expiry => (true, queue.expireHead scheduler shared now expiry)
  | none =>
    let (lets, armed, state) := queue.toArmedQueue.shapingGrantsHead scheduler enabled shared.state now
    (lets, { queue with toArmedQueue := armed }, { shared with state := state })

def popNextDue (now : ℕ) (opened : ℕ → Bool) : Option Pending × CountedQueue × Shared :=
  if queue.q.head?.any (·.isDue now opened) then
    let asked : CountedQueue := { queue with shapeGate := none, shapeParked := false }
    match asked.shapingGrantsHead scheduler enabled shared now with
    | (false, queue, shared) => (none, queue, shared)
    | (true, queue, shared) =>
      match queue.q with
      | [] => (none, queue, shared)
      | unit :: rest => (some unit, queue.popFront scheduler shared unit rest)
  else (none, queue, shared)

/-- The teardown drain's loop; a failed write leaves its unit and what is behind it. -/
def drainLoop : ℕ → CountedQueue → Shared → Sink → DrainOutcome × CountedQueue × Shared × Sink
  | 0, queue, shared, sink => (.complete, queue, shared, sink)
  | fuel + 1, queue, shared, sink =>
    match queue.q with
    | [] => (.complete, queue, shared, sink)
    | unit :: rest =>
      match writeUnit unit sink with
      | (some (.terminated forwarded code), sink) =>
        let (queue, shared) := queue.clear scheduler shared
        (.terminated forwarded code, queue, shared, sink)
      | (some _, sink) =>
        let (queue, shared) := queue.popFront scheduler shared unit rest
        drainLoop fuel queue shared sink
      | (none, sink) => (.writeFailed, queue, shared, sink)

/-- Every turn takes a unit off the queue, so its length is fuel enough. -/
def drainIgnoringReleaseTimes (sink : Sink) : DrainOutcome × CountedQueue × Shared × Sink :=
  if shared.discarding then (.discarded, queue, shared, sink)
  else drainLoop scheduler queue.len queue shared sink

/-- What a queue that goes away takes with it. -/
def drop : Shared :=
  let state :=
    match queue.shaper, queue.shapeDemand with
    | some _, some row => scheduler.withdrawDemand shared.state row
    | _, _ => shared.state
  (queue.credit { shared with state := state } queue.queuedBytes).2

end CountedQueue

/-! ## One queue's share -/

variable {scheduler : Scheduler} {enabled : Bool} {queue queue' : CountedQueue} {shared shared' : Shared} {now : ℕ}
  {opened : ℕ → Bool} {bytes : ℕ} {demand : ℕ → ℕ}

/-- What the queue adds to the demand of a class. -/
def CountedQueue.declares (queue : CountedQueue) (index : ℕ) : ℕ :=
  if queue.shapeDemand = some (.rule index) then 1 else 0

/-- The totals are what the other queues hold, `bytes` and `demand`, and this queue's share. -/
structure Accounts (scheduler : Scheduler) (bytes : ℕ) (demand : ℕ → ℕ) (queue : CountedQueue)
    (shared : Shared) : Prop where
  gauge : shared.gauge = bytes + queue.queuedBytes
  demand : ∀ index < scheduler.profile.classes.length,
    shared.state.demand index = demand index + queue.declares index

theorem credit_accounts (accounts : Accounts scheduler bytes demand queue shared) (amount : ℕ) :
    Accounts scheduler bytes demand (queue.credit shared amount).1 (queue.credit shared amount).2 := by
  have gauge := accounts.gauge
  constructor
  · dsimp only [CountedQueue.credit]
    omega
  · exact accounts.demand

theorem classBucket_none {index : ℕ} (unknown : scheduler.classBucket index = none) :
    scheduler.profile.classes.length ≤ index := by
  unfold Scheduler.classBucket at unknown
  exact List.getElem?_eq_none_iff.mp (Option.map_eq_none_iff.mp unknown)

theorem withdrawDemand_demand (state : SchedState) (row : Class) {index : ℕ}
    (known : index < scheduler.profile.classes.length) :
    (scheduler.withdrawDemand state row).demand index =
      state.demand index - if row = .rule index then 1 else 0 := by
  unfold Scheduler.withdrawDemand
  cases row with
  | default => rfl
  | unshapeable => rfl
  | rule other =>
    dsimp only
    by_cases same : other = index
    · subst same
      cases charges : scheduler.classBucket other with
      | none => exact absurd known (Nat.not_lt.mpr (classBucket_none charges))
      | some bucket =>
        rw [if_pos rfl]
        exact Function.update_self ..
    · have differs : Class.rule other ≠ .rule index := fun rule => same (Class.rule.inj rule)
      rw [if_neg differs, Nat.sub_zero]
      cases scheduler.classBucket other with
      | none => rfl
      | some bucket => exact Function.update_of_ne (Ne.symm same) ..

theorem declareDemand_demand (state : SchedState) (row : Class) {index : ℕ}
    (known : index < scheduler.profile.classes.length) :
    (scheduler.declareDemand state row).demand index =
      state.demand index + if row = .rule index then 1 else 0 := by
  unfold Scheduler.declareDemand
  cases row with
  | default => rfl
  | unshapeable => rfl
  | rule other =>
    dsimp only
    by_cases same : other = index
    · subst same
      rw [if_pos known, if_pos rfl]
      exact Function.update_self ..
    · have differs : Class.rule other ≠ .rule index := fun rule => same (Class.rule.inj rule)
      rw [if_neg differs, Nat.add_zero]
      split_ifs
      · exact Function.update_of_ne (Ne.symm same) ..
      · rfl

/-- A declaration replaces the one before it. -/
theorem sync_accounts (accounts : Accounts scheduler bytes demand queue shared) :
    Accounts scheduler bytes demand (queue.syncShapeDemand scheduler shared).1
      (queue.syncShapeDemand scheduler shared).2 := by
  obtain ⟨gauge, declared⟩ := accounts
  unfold CountedQueue.syncShapeDemand CountedQueue.lift ArmedQueue.syncShapeDemand
  dsimp only
  split_ifs with shaped same
  · exact ⟨gauge, declared⟩
  · constructor
    case gauge =>
      cases queue.headRow with
      | none => exact gauge
      | some row => exact gauge
    case demand =>
      intro index known
      have share := declared index known
      unfold CountedQueue.declares at share ⊢
      cases held : queue.shapeDemand with
      | none =>
        simp only [held, reduceCtorEq, if_false, Nat.add_zero] at share
        cases wanted : queue.headRow with
        | none => simpa using share
        | some row =>
          dsimp only
          rw [declareDemand_demand _ row known, share]
          simp
      | some old =>
        simp only [held, Option.some_inj] at share
        have withdrawn : (scheduler.withdrawDemand shared.state old).demand index = demand index := by
          rw [withdrawDemand_demand _ _ known, share]
          omega
        cases wanted : queue.headRow with
        | none => simpa using withdrawn
        | some row =>
          dsimp only
          rw [declareDemand_demand _ row known, withdrawn]
          simp
  · exact ⟨gauge, declared⟩

/-! ## One queue -/

/-- What a queue keeps of itself. -/
structure CountedQueue.Sound (queue : CountedQueue) : Prop where
  counted : queue.queuedBytes = (queue.q.map Pending.len).sum
  armed : queue.headDeadline.isSome = true ↔ queue.q ≠ []
  declared : queue.shapeDemand = queue.headRow
  untagged : queue.isShaped = false → ∀ unit ∈ queue.q, unit.shape = none

/-- The same before the head's row is declared. -/
structure CountedQueue.Ready (queue : CountedQueue) : Prop where
  counted : queue.queuedBytes = (queue.q.map Pending.len).sum
  armed : queue.headDeadline.isSome = true ↔ queue.q ≠ []
  undeclared : queue.isShaped = false → queue.shapeDemand = none
  untagged : queue.isShaped = false → ∀ unit ∈ queue.q, unit.shape = none

theorem headRow_unshaped (untagged : ∀ unit ∈ queue.q, unit.shape = none) : queue.headRow = none := by
  unfold ArmedQueue.headRow
  cases front : queue.q with
  | nil => rfl
  | cons head rest => simp [untagged head (by simp [front])]

theorem CountedQueue.Sound.undeclared (sound : queue.Sound) (unshaped : queue.isShaped = false) :
    queue.shapeDemand = none :=
  sound.declared.trans (headRow_unshaped (sound.untagged unshaped))

theorem sync_sound (ready : queue.Ready) (shared : Shared) : (queue.syncShapeDemand scheduler shared).1.Sound := by
  unfold CountedQueue.syncShapeDemand CountedQueue.lift
  obtain ⟨demand, synced, declared⟩ := @sync_demand scheduler queue.toArmedQueue shared.state
  dsimp only
  constructor
  case counted =>
    rw [synced]
    exact ready.counted
  case armed =>
    rw [synced]
    exact ready.armed
  case declared =>
    cases shaped : queue.isShaped with
    | true =>
      rw [synced]
      exact declared shaped
    | false =>
      have idle : queue.toArmedQueue.syncShapeDemand scheduler shared.state = (queue.toArmedQueue, shared.state) :=
        sync_idle fun absent => by simp [shaped] at absent
      rw [idle]
      exact (ready.undeclared shaped).trans (headRow_unshaped (ready.untagged shaped)).symm
  case untagged =>
    rw [synced]
    exact ready.untagged

/-- One call keeps the queue sound and moves the totals by its own share. -/
structure Keeps (scheduler : Scheduler) (queue : CountedQueue) (shared : Shared) (queue' : CountedQueue)
    (shared' : Shared) : Prop where
  sound : queue'.Sound
  accounts : ∀ {bytes demand}, Accounts scheduler bytes demand queue shared →
    Accounts scheduler bytes demand queue' shared'

theorem Accounts.congr (accounts : Accounts scheduler bytes demand queue shared)
    (counted : queue'.queuedBytes = queue.queuedBytes) (declared : queue'.shapeDemand = queue.shapeDemand) :
    Accounts scheduler bytes demand queue' shared := by
  obtain ⟨gauge, total⟩ := accounts
  constructor
  · rw [counted]
    exact gauge
  · unfold CountedQueue.declares at total ⊢
    rw [declared]
    exact total

theorem armHead_armed (queue : ArmedQueue) : queue.armHead.headDeadline.isSome = true ↔ queue.q ≠ [] := by
  unfold ArmedQueue.armHead
  cases queue.q with
  | nil => simp
  | cons head rest => simp

theorem push_keeps (sound : queue.Sound) (shared : Shared) {unit : Pending} (fresh : unit.shape = none) (now : ℕ) :
    Keeps scheduler queue shared (queue.push scheduler shared unit now).1
      (queue.push scheduler shared unit now).2 := by
  let pushed : ArmedQueue := { queue.toArmedQueue with toPendingQueue := queue.toPendingQueue.push unit now }
  let armed : ArmedQueue := if queue.q.isEmpty then pushed.armHead else pushed
  have synced : queue.push scheduler shared unit now =
      ({ (queue.charge shared unit.len).1 with toArmedQueue := armed } : CountedQueue).syncShapeDemand scheduler
        (queue.charge shared unit.len).2 := rfl
  have beneath : armed.toPendingQueue = queue.toPendingQueue.push unit now := by
    dsimp only [armed]
    split
    · rfl
    · rfl
  have demand : armed.shapeDemand = queue.shapeDemand := by
    dsimp only [armed]
    split
    · rfl
    · rfl
  rw [synced]
  constructor
  case sound =>
    apply sync_sound
    constructor
    case counted =>
      dsimp only [CountedQueue.charge]
      rw [beneath, PendingQueue.push, List.map_append, List.sum_append, sound.counted]
      split
      · simp [Pending.len]
      · simp
    case armed =>
      dsimp only [armed]
      cases front : queue.q with
      | nil => exact armHead_armed pushed
      | cons head rest =>
        have waiting : queue.q ≠ [] := by simp [front]
        have grown : pushed.q ≠ [] := by simp [pushed, PendingQueue.push]
        exact iff_of_true (sound.armed.mpr waiting) grown
    case undeclared =>
      dsimp only
      rw [beneath, demand]
      exact sound.undeclared
    case untagged =>
      dsimp only
      rw [beneath]
      intro unshaped other member
      rcases List.mem_append.mp member with old | new
      · exact sound.untagged unshaped other old
      · rw [List.mem_singleton.mp new]
        have plain : queue.toPendingQueue.isShaped ≠ true := Bool.eq_false_iff.mp unshaped
        rw [if_neg plain]
        exact fresh
  case accounts =>
    intro bytes others accounts
    apply sync_accounts
    constructor
    · have gauge := accounts.gauge
      dsimp only [CountedQueue.charge]
      omega
    · have total := accounts.demand
      unfold CountedQueue.declares at total ⊢
      dsimp only
      rw [demand]
      exact total

theorem clear_keeps (sound : queue.Sound) (shared : Shared) :
    Keeps scheduler queue shared (queue.clear scheduler shared).1 (queue.clear scheduler shared).2 := by
  let emptied : ArmedQueue :=
    { queue.toArmedQueue with q := [], headDeadline := none, shapeGate := none, shapeParked := false }
  have synced : queue.clear scheduler shared =
      ({ (queue.credit shared queue.queuedBytes).1 with toArmedQueue := emptied } : CountedQueue).syncShapeDemand
        scheduler (queue.credit shared queue.queuedBytes).2 := rfl
  rw [synced]
  constructor
  case sound =>
    apply sync_sound
    constructor
    case counted => simp [CountedQueue.credit, emptied]
    case armed => simp [emptied]
    case undeclared => exact sound.undeclared
    case untagged => exact nofun
  case accounts =>
    intro bytes others accounts
    exact sync_accounts ((credit_accounts accounts _).congr rfl rfl)

theorem popFront_keeps (shared : Shared) {unit : Pending} {rest : List Pending}
    (counted : queue.queuedBytes = ((unit :: rest).map Pending.len).sum)
    (undeclared : queue.isShaped = false → queue.shapeDemand = none)
    (untagged : queue.isShaped = false → ∀ unit ∈ rest, unit.shape = none) :
    Keeps scheduler queue shared (queue.popFront scheduler shared unit rest).1
      (queue.popFront scheduler shared unit rest).2 := by
  unfold CountedQueue.popFront
  constructor
  case sound =>
    apply sync_sound
    constructor
    case counted =>
      simp [ArmedQueue.armHead, counted]
    case armed => exact armHead_armed _
    case undeclared => exact undeclared
    case untagged => exact untagged
  case accounts =>
    intro bytes others accounts
    have left : Accounts scheduler bytes others ({ queue with q := rest } : CountedQueue) shared :=
      accounts.congr rfl rfl
    exact sync_accounts ((credit_accounts left unit.len).congr rfl rfl)

/-! ## Releases -/

theorem acquire_demand (state : SchedState) (row : Class) (amount : ℕ) :
    (scheduler.acquire enabled state row amount now).2.demand = state.demand := by
  cases enabled with
  | false => rfl
  | true =>
    cases row with
    | default => rfl
    | unshapeable => rfl
    | rule index =>
      cases charges : scheduler.classBucket index with
      | none => rw [Shape.Waking.acquire_unasked charges]
      | some bucket =>
        rcases @Shape.Waking.acquire_cases _ state _ _ amount now charges with
          ⟨-, asked⟩ | ⟨-, -, asked⟩ | ⟨-, -, -, asked⟩
        · rw [asked]
          exact (Shape.Waking.park_frame state index).2.2.1
        · rw [asked]
          exact (Shape.Waking.chargeBucket_frame ..).2.2
        · rw [asked]
          exact (Shape.Waking.chargeBucket_frame ..).2.2

theorem Keeps.trans {middle : CountedQueue} {between : Shared} (first : Keeps scheduler queue shared middle between)
    (second : Keeps scheduler middle between queue' shared') : Keeps scheduler queue shared queue' shared' :=
  ⟨second.sound, fun accounts => second.accounts (first.accounts accounts)⟩

/-- What changes neither the units nor their head's deadline nor the demand. -/
theorem keeps_frame (sound : queue.Sound) (state : SchedState) (same : state.demand = shared.state.demand)
    (report : Option ShapeReport) (gate : Option Shape.Gate) (parked : Bool) :
    Keeps scheduler queue shared
      { queue with shapeReport := report, shapeGate := gate, shapeParked := parked }
      { shared with state := state } := by
  constructor
  · exact ⟨sound.counted, sound.armed, sound.declared, sound.untagged⟩
  · rintro bytes others ⟨gauge, total⟩
    refine ⟨gauge, ?_⟩
    dsimp only
    rw [same]
    exact total

theorem parkHead_keeps (sound : queue.Sound) (waiting : queue.q ≠ []) (instant : ℕ) (gate : Option Shape.Gate) :
    Keeps scheduler queue shared
      (queue.lift shared fun armed state => armed.parkHead scheduler state instant gate).1
      (queue.lift shared fun armed state => armed.parkHead scheduler state instant gate).2 := by
  let parked : ArmedQueue :=
    { queue.toArmedQueue with shapeGate := gate, shapeParked := true, headDeadline := some instant }
  have synced : (queue.lift shared fun armed state => armed.parkHead scheduler state instant gate) =
      ({ queue with toArmedQueue := parked } : CountedQueue).syncShapeDemand scheduler shared := rfl
  rw [synced]
  constructor
  case sound =>
    apply sync_sound
    exact ⟨sound.counted, iff_of_true rfl waiting, sound.undeclared, sound.untagged⟩
  case accounts =>
    intro bytes others accounts
    exact sync_accounts (accounts.congr rfl rfl)

theorem clear_empty (queue : CountedQueue) (shared : Shared) : (queue.clear scheduler shared).1.q = [] := by
  unfold CountedQueue.clear CountedQueue.lift ArmedQueue.clear
  exact congrArg PendingQueue.q (sync_queue ..)

/-- The reset that takes everything's place has no bytes and no row. -/
theorem reset_keeps (sound : queue.Sound) (empty : queue.q = []) (code now : ℕ) :
    Keeps scheduler queue shared
      { queue with q := [.terminal (.reset code) now], headDeadline := some now } shared := by
  constructor
  case sound =>
    constructor
    case counted =>
      dsimp only
      rw [sound.counted, empty]
      rfl
    case armed => simp
    case declared =>
      apply sound.declared.trans
      unfold ArmedQueue.headRow
      rw [empty]
      rfl
    case untagged =>
      intro _ unit member
      rw [List.mem_singleton.mp member]
      rfl
  case accounts => exact fun accounts => accounts.congr rfl rfl

theorem expireHead_keeps (sound : queue.Sound) (now : ℕ) (expiry : Expiry) :
    Keeps scheduler queue shared (queue.expireHead scheduler shared now expiry).1
      (queue.expireHead scheduler shared now expiry).2 := by
  cases expiry with
  | deliver => exact keeps_frame sound shared.state rfl _ queue.shapeGate queue.shapeParked
  | resetStream code =>
    have reported := @keeps_frame scheduler queue shared sound shared.state rfl (some .expired) queue.shapeGate
      queue.shapeParked
    have cleared := reported.trans (@clear_keeps scheduler _ reported.sound shared)
    exact cleared.trans (reset_keeps cleared.sound (clear_empty ..) code now)

theorem shapingGrantsHead_keeps (sound : queue.Sound) (now : ℕ) :
    Keeps scheduler queue shared (queue.shapingGrantsHead scheduler enabled shared now).2.1
      (queue.shapingGrantsHead scheduler enabled shared now).2.2 := by
  have stays : Keeps scheduler queue shared queue shared :=
    keeps_frame sound shared.state rfl queue.shapeReport queue.shapeGate queue.shapeParked
  unfold CountedQueue.shapingGrantsHead
  cases expires : queue.headExpiry now with
  | some expiry => exact expireHead_keeps sound now expiry
  | none =>
    unfold ArmedQueue.shapingGrantsHead
    unfold CountedQueue.headExpiry at expires
    cases shaper : queue.shaper with
    | none => exact stays
    | some shaper' =>
      cases front : queue.q with
      | nil => exact stays
      | cons head rest =>
        have waiting : queue.q ≠ [] := by simp [front]
        rw [shaper, front] at expires
        dsimp only [List.head?_cons] at expires ⊢
        cases tagged : head.shape with
        | none => exact stays
        | some tag =>
          rw [tagged] at expires
          dsimp only at expires ⊢
          cases simple : head.item.isTerminal with
          | true => exact stays
          | false =>
            rw [simple] at expires
            have young : ¬ tag.expiresAt ≤ now := by
              intro old
              simp [old] at expires
            rw [if_neg Bool.false_ne_true, if_neg young]
            have kept := @acquire_demand scheduler enabled now shared.state tag.row head.len
            rcases asked : scheduler.acquire enabled shared.state tag.row head.len now with ⟨answer, after⟩
            rw [asked] at kept
            have charged (report : Option ShapeReport) : Keeps scheduler queue shared
                { queue with shapeReport := report } { shared with state := after } :=
              keeps_frame sound after kept report queue.shapeGate queue.shapeParked
            have parks (report : Option ShapeReport) (instant : ℕ) (gate : Option Shape.Gate) :=
              (charged report).trans (parkHead_keeps (charged report).sound waiting instant gate)
            cases answer with
            | now => exact charged queue.shapeReport
            | later instant => exact parks queue.shapeReport _ none
            | never => exact parks queue.shapeReport _ none
            | largerThanBurst burstBytes unitBytes => exact parks _ _ none
            | starved gate => exact parks queue.shapeReport _ (some gate)

theorem popNextDue_keeps (sound : queue.Sound) (now : ℕ) (opened : ℕ → Bool) :
    Keeps scheduler queue shared (queue.popNextDue scheduler enabled shared now opened).2.1
      (queue.popNextDue scheduler enabled shared now opened).2.2 := by
  unfold CountedQueue.popNextDue
  split_ifs
  · have asked := @keeps_frame scheduler queue shared sound shared.state rfl queue.shapeReport none false
    have granted := asked.trans (@shapingGrantsHead_keeps scheduler enabled _ shared asked.sound now)
    revert granted
    dsimp only
    generalize ({ queue with shapeGate := none, shapeParked := false } : CountedQueue).shapingGrantsHead scheduler
      enabled shared now = answer
    obtain ⟨lets, after, reached⟩ := answer
    intro granted
    cases lets with
    | false => exact granted
    | true =>
      dsimp only
      cases front : after.q with
      | nil => exact granted
      | cons unit rest =>
        have sound := granted.sound
        apply granted.trans
        apply popFront_keeps
        · rw [← front]
          exact sound.counted
        · exact sound.undeclared
        · intro unshaped other member
          exact sound.untagged unshaped other (by simp [front, member])
  · exact keeps_frame sound shared.state rfl queue.shapeReport queue.shapeGate queue.shapeParked

theorem drainLoop_keeps (fuel : ℕ) (sound : queue.Sound) (sink : Sink) :
    Keeps scheduler queue shared (CountedQueue.drainLoop scheduler fuel queue shared sink).2.1
      (CountedQueue.drainLoop scheduler fuel queue shared sink).2.2.1 := by
  induction fuel generalizing queue shared sink with
  | zero => exact keeps_frame sound shared.state rfl queue.shapeReport queue.shapeGate queue.shapeParked
  | succ fuel ih =>
    have stays : Keeps scheduler queue shared queue shared :=
      keeps_frame sound shared.state rfl queue.shapeReport queue.shapeGate queue.shapeParked
    unfold CountedQueue.drainLoop
    cases front : queue.q with
    | nil => exact stays
    | cons unit rest =>
      have popped : Keeps scheduler queue shared (queue.popFront scheduler shared unit rest).1
          (queue.popFront scheduler shared unit rest).2 := by
        apply popFront_keeps
        · rw [← front]
          exact sound.counted
        · exact sound.undeclared
        · intro unshaped other member
          exact sound.untagged unshaped other (by simp [front, member])
      dsimp only
      rcases writeUnit unit sink with ⟨outcome, sink⟩
      cases outcome with
      | none => exact stays
      | some written =>
        cases written with
        | bytes count => exact popped.trans (ih popped.sound sink)
        | nothing => exact popped.trans (ih popped.sound sink)
        | terminated forwarded code => exact clear_keeps sound shared

theorem teardown_keeps (sound : queue.Sound) (sink : Sink) :
    Keeps scheduler queue shared (queue.drainIgnoringReleaseTimes scheduler shared sink).2.1
      (queue.drainIgnoringReleaseTimes scheduler shared sink).2.2.1 := by
  unfold CountedQueue.drainIgnoringReleaseTimes
  split_ifs
  · exact keeps_frame sound shared.state rfl queue.shapeReport queue.shapeGate queue.shapeParked
  · exact drainLoop_keeps _ sound sink

/-- A queue that goes away takes its whole share with it. -/
theorem drop_settles (sound : queue.Sound) (accounts : Accounts scheduler bytes demand queue shared) :
    (queue.drop scheduler shared).gauge = bytes ∧
      ∀ index < scheduler.profile.classes.length, (queue.drop scheduler shared).state.demand index = demand index := by
  obtain ⟨gauge, total⟩ := accounts
  constructor
  · simp [CountedQueue.drop, CountedQueue.credit, gauge]
  intro index known
  have share := total index known
  unfold CountedQueue.declares at share
  unfold CountedQueue.drop CountedQueue.credit
  dsimp only
  cases shaper : queue.shaper with
  | none =>
    have none := sound.undeclared (congrArg Option.isSome shaper)
    simpa [none] using share
  | some shaper' =>
    cases declared : queue.shapeDemand with
    | none => simpa [declared] using share
    | some row =>
      simp only [declared, Option.some_inj] at share
      dsimp only
      rw [withdrawDemand_demand _ _ known, share]
      omega

/-! ## A session's queues -/

/-- The live queues of a session, and what they share. -/
structure QueueSession where
  queues : List CountedQueue
  shared : Shared
  enabled : Bool

inductive SessionEvent
  | opens (config : EgressConfig) (shaper : Option Shaper)
  | tagUnit (n : ℕ) (row : Class)
  | push (n : ℕ) (unit : Pending) (now : ℕ)
  | pop (n : ℕ) (now : ℕ) (opened : ℕ → Bool)
  | takeReport (n : ℕ)
  | clear (n : ℕ)
  | drain (n : ℕ) (sink : Sink)
  | drops (n : ℕ)
  /-- A close has spent its drain window. -/
  | discards
  | paces (enabled : Bool)

namespace QueueSession

variable (scheduler : Scheduler) (session : QueueSession)

def call (n : ℕ) (call : CountedQueue → Shared → CountedQueue × Shared) : QueueSession :=
  match session.queues[n]? with
  | none => session
  | some queue =>
    let (queue, shared) := call queue session.shared
    { session with queues := session.queues.set n queue, shared := shared }

def after : SessionEvent → QueueSession
  | .opens config shaper => { session with queues := session.queues ++ [.new config shaper] }
  | .tagUnit n row => session.call n fun queue shared => ({ queue with toArmedQueue := queue.tagUnit row }, shared)
  | .push n unit now => session.call n fun queue shared => queue.push scheduler shared unit now
  | .pop n now opened =>
    session.call n fun queue shared => (queue.popNextDue scheduler session.enabled shared now opened).2
  | .takeReport n =>
    session.call n fun queue shared => ({ queue with toArmedQueue := queue.takeShapeReport.2 }, shared)
  | .clear n => session.call n fun queue shared => queue.clear scheduler shared
  | .drain n sink =>
    session.call n fun queue shared =>
      let (_, queue, shared, _) := queue.drainIgnoringReleaseTimes scheduler shared sink
      (queue, shared)
  | .drops n =>
    match session.queues[n]? with
    | none => session
    | some queue =>
      { session with queues := session.queues.eraseIdx n, shared := queue.drop scheduler session.shared }
  | .discards => { session with shared := { session.shared with discarding := true } }
  | .paces enabled => { session with enabled := enabled }

end QueueSession

/-- A session before its first queue. -/
def NoQueues (scheduler : Scheduler) (session : QueueSession) : Prop :=
  ∃ created enabled, session =
    { queues := [], shared := { state := scheduler.build created, gauge := 0, discarding := false }, enabled := enabled }

/-- A unit is built without a tag: only `push` tags it. -/
def Calls (scheduler : Scheduler) (session : QueueSession) (event : SessionEvent) (session' : QueueSession) : Prop :=
  (match event with
    | .push _ unit _ => unit.shape = none
    | _ => True) ∧ session' = session.after scheduler event

/-- Demand and bytes as the queues stand. -/
structure Mirrors (scheduler : Scheduler) (session : QueueSession) : Prop where
  demand : ∀ index < scheduler.profile.classes.length,
    session.shared.state.demand index =
      session.queues.countP fun queue => (queue.q.head?.bind Pending.shape).map ShapeTag.row = some (.rule index)
  gauge : session.shared.gauge = (session.queues.map CountedQueue.queuedBytes).sum
  counted : ∀ queue ∈ session.queues, queue.queuedBytes = (queue.q.map Pending.len).sum
  armed : ∀ queue ∈ session.queues, queue.headDeadline.isSome = true ↔ queue.q ≠ []

/-- Every queue sound, and the totals the sums of their shares. -/
structure Held (scheduler : Scheduler) (session : QueueSession) : Prop where
  sound : ∀ queue ∈ session.queues, queue.Sound
  gauge : session.shared.gauge = (session.queues.map CountedQueue.queuedBytes).sum
  demand : ∀ index < scheduler.profile.classes.length,
    session.shared.state.demand index = (session.queues.map fun queue => queue.declares index).sum

variable {session session' : QueueSession} {event : SessionEvent}

theorem queues_split {n : ℕ} (found : session.queues[n]? = some queue) :
    session.queues = session.queues.take n ++ queue :: session.queues.drop (n + 1) ∧
      ∀ other, session.queues.set n other = session.queues.take n ++ other :: session.queues.drop (n + 1) := by
  obtain ⟨inside, here⟩ := List.getElem?_eq_some_iff.mp found
  have replaced (other : CountedQueue) :
      session.queues.set n other = session.queues.take n ++ other :: session.queues.drop (n + 1) := by
    rw [List.set_eq_take_append_cons_drop, if_pos inside]
  refine ⟨?_, replaced⟩
  rw [← replaced, ← here, List.set_getElem_self]

/-- The totals as one queue's share and everyone else's. -/
theorem Held.share (held : Held scheduler session) {before after : List CountedQueue}
    (split : session.queues = before ++ queue :: after) :
    Accounts scheduler ((before ++ after).map CountedQueue.queuedBytes).sum
      (fun index => ((before ++ after).map fun queue => queue.declares index).sum) queue session.shared := by
  constructor
  · rw [held.gauge, split]
    simp only [List.map_append, List.map_cons, List.sum_append, List.sum_cons]
    omega
  · intro index known
    rw [held.demand index known, split]
    simp only [List.map_append, List.map_cons, List.sum_append, List.sum_cons]
    omega

theorem call_held (held : Held scheduler session) (n : ℕ)
    {call : CountedQueue → Shared → CountedQueue × Shared}
    (keeps : ∀ queue shared, queue.Sound → Keeps scheduler queue shared (call queue shared).1 (call queue shared).2) :
    Held scheduler (session.call n call) := by
  unfold QueueSession.call
  cases found : session.queues[n]? with
  | none => exact held
  | some queue =>
    obtain ⟨split, replaced⟩ := queues_split found
    have kept := keeps queue session.shared (held.sound queue (List.mem_of_getElem? found))
    have accounts := kept.accounts (held.share split)
    dsimp only
    rw [replaced]
    constructor
    case sound =>
      intro other member
      rcases List.mem_append.mp member with before | behind
      · exact held.sound other (List.mem_of_mem_take before)
      · rcases List.mem_cons.mp behind with rfl | after
        · exact kept.sound
        · exact held.sound other (List.mem_of_mem_drop after)
    case gauge =>
      dsimp only
      rw [accounts.gauge]
      simp only [List.map_append, List.map_cons, List.sum_append, List.sum_cons]
      omega
    case demand =>
      intro index known
      dsimp only
      rw [accounts.demand index known]
      simp only [List.map_append, List.map_cons, List.sum_append, List.sum_cons]
      omega

theorem drops_held (held : Held scheduler session) (n : ℕ) : Held scheduler (session.after scheduler (.drops n)) := by
  unfold QueueSession.after
  dsimp only
  cases found : session.queues[n]? with
  | none => exact held
  | some queue =>
    obtain ⟨split, -⟩ := queues_split found
    obtain ⟨gauge, demand⟩ := drop_settles (held.sound queue (List.mem_of_getElem? found)) (held.share split)
    dsimp only
    rw [List.eraseIdx_eq_take_drop_succ]
    constructor
    case sound =>
      intro other member
      rcases List.mem_append.mp member with before | after
      · exact held.sound other (List.mem_of_mem_take before)
      · exact held.sound other (List.mem_of_mem_drop after)
    case gauge => exact gauge
    case demand => exact demand

theorem noQueues_held (fresh : NoQueues scheduler session) : Held scheduler session := by
  obtain ⟨created, enabled, rfl⟩ := fresh
  constructor
  · simp
  · simp
  · simp [Scheduler.build]

theorem new_sound (config : EgressConfig) (shaper : Option Shaper) : (CountedQueue.new config shaper).Sound :=
  ⟨rfl, by simp [CountedQueue.new, ArmedQueue.new, PendingQueue.new], rfl, nofun⟩

theorem calls_held (held : Held scheduler session) (calls : Calls scheduler session event session') :
    Held scheduler session' := by
  obtain ⟨fresh, rfl⟩ := calls
  cases event with
  | opens config shaper =>
    constructor
    case sound =>
      intro queue member
      rcases List.mem_append.mp member with old | new
      · exact held.sound queue old
      · rw [List.mem_singleton.mp new]
        exact new_sound config shaper
    case gauge => simp [QueueSession.after, CountedQueue.new, held.gauge]
    case demand =>
      intro index known
      dsimp only [QueueSession.after]
      rw [List.map_append, List.sum_append]
      exact held.demand index known
  | tagUnit n row =>
    dsimp only [QueueSession.after]
    refine call_held held n fun queue shared sound => ?_
    exact ⟨⟨sound.counted, sound.armed, sound.declared, sound.untagged⟩, fun accounts => accounts.congr rfl rfl⟩
  | push n unit now => exact call_held held n fun queue shared sound => push_keeps sound shared fresh now
  | pop n now opened => exact call_held held n fun queue shared sound => popNextDue_keeps sound now opened
  | takeReport n =>
    dsimp only [QueueSession.after]
    refine call_held held n fun queue shared sound => ?_
    exact keeps_frame sound shared.state rfl none queue.shapeGate queue.shapeParked
  | clear n => exact call_held held n fun queue shared sound => clear_keeps sound shared
  | drain n sink =>
    dsimp only [QueueSession.after]
    refine call_held held n fun queue shared sound => ?_
    exact teardown_keeps sound sink
  | drops n => exact drops_held held n
  | discards => exact ⟨held.sound, held.gauge, held.demand⟩
  | paces enabled => exact ⟨held.sound, held.gauge, held.demand⟩

/-- A sound queue declares the row of its front unit. -/
theorem declares_sum {queues : List CountedQueue} (sound : ∀ queue ∈ queues, queue.Sound) (index : ℕ) :
    (queues.map fun queue => queue.declares index).sum =
      queues.countP fun queue => (queue.q.head?.bind Pending.shape).map ShapeTag.row = some (.rule index) := by
  induction queues with
  | nil => rfl
  | cons queue rest ih =>
    have declared := (sound queue List.mem_cons_self).declared
    have others := ih fun other member => sound other (List.mem_cons_of_mem _ member)
    unfold ArmedQueue.headRow at declared
    rw [List.map_cons, List.sum_cons, others, List.countP_cons]
    unfold CountedQueue.declares
    simp [declared, Nat.add_comm]

theorem Held.mirrors (held : Held scheduler session) : Mirrors scheduler session := by
  constructor
  case demand =>
    intro index known
    rw [held.demand index known]
    exact declares_sum held.sound index
  case gauge => exact held.gauge
  case counted => exact fun queue member => (held.sound queue member).counted
  case armed => exact fun queue member => (held.sound queue member).armed

/-- **Demand and bytes are what the queues hold**, after every call. -/
theorem accounts_kept {history : List SessionEvent}
    (run : Run (NoQueues scheduler) (Calls scheduler) history session) : Mirrors scheduler session := by
  have held : Held scheduler session := run.always (fun _ => noQueues_held) fun _ _ _ => calls_held
  exact held.mirrors

/-- A shaped queue with a byte of its only class, beside an empty one. -/
def twoQueues : QueueSession :=
  let start : QueueSession :=
    { queues := [], shared := { state := stoppedClass.build 0, gauge := 0, discarding := false }, enabled := true }
  let config : EgressConfig := { maxPendingBytes := 1, maxHold := 5 }
  let shaper : Shaper := { maxHold := some 3, onExpiry := .deliver, blockingDepth := none }
  (((start.after stoppedClass (.opens config (some shaper))).after stoppedClass (.opens config none)).after stoppedClass
    (.tagUnit 0 (.rule 0))).after stoppedClass (.push 0 (.bytes [7] 0) 0)

theorem twoQueues_mirrored :
    twoQueues.shared.gauge = 1 ∧ twoQueues.shared.state.demand 0 = 1 ∧
      ∀ queue ∈ twoQueues.queues, queue.headDeadline.isSome = true ↔ queue.q ≠ [] := by
  have run : Run (NoQueues stoppedClass) (Calls stoppedClass)
      [.push 0 (.bytes [7] 0) 0, .tagUnit 0 (.rule 0), .opens { maxPendingBytes := 1, maxHold := 5 } none,
        .opens { maxPendingBytes := 1, maxHold := 5 }
          (some { maxHold := some 3, onExpiry := .deliver, blockingDepth := none })] twoQueues :=
    .step (.step (.step (.step (.start ⟨0, true, rfl⟩) ⟨trivial, rfl⟩) ⟨trivial, rfl⟩) ⟨trivial, rfl⟩) ⟨rfl, rfl⟩
  have mirrors := accounts_kept run
  exact ⟨mirrors.gauge, mirrors.demand 0 (by decide), mirrors.armed⟩

/-! ## The queue beneath -/

theorem push_armed (scheduler : Scheduler) (queue : CountedQueue) (shared : Shared) (unit : Pending) (now : ℕ) :
    ((queue.push scheduler shared unit now).1.toArmedQueue, (queue.push scheduler shared unit now).2.state) =
      queue.toArmedQueue.push scheduler shared.state unit now := rfl

theorem expireHead_armed (queue : CountedQueue) (shared : Shared) (now : ℕ) (expiry : Expiry) :
    ((queue.expireHead scheduler shared now expiry).1.toArmedQueue, (queue.expireHead scheduler shared now expiry).2.state) =
      queue.toArmedQueue.expireHead scheduler shared.state now expiry := by
  cases expiry with
  | deliver => rfl
  | resetStream code => rfl

theorem shapingGrantsHead_armed (queue : CountedQueue) (shared : Shared) (now : ℕ) :
    ((queue.shapingGrantsHead scheduler enabled shared now).1,
        (queue.shapingGrantsHead scheduler enabled shared now).2.1.toArmedQueue,
        (queue.shapingGrantsHead scheduler enabled shared now).2.2.state) =
      queue.toArmedQueue.shapingGrantsHead scheduler enabled shared.state now := by
  unfold CountedQueue.shapingGrantsHead
  cases expires : queue.headExpiry now with
  | none => rfl
  | some expiry =>
    apply (congrArg (Prod.mk true) (expireHead_armed queue shared now expiry)).trans
    unfold CountedQueue.headExpiry at expires
    unfold ArmedQueue.shapingGrantsHead
    cases shaper : queue.shaper with
    | none => simp [shaper] at expires
    | some shaper' =>
      cases front : queue.q.head? with
      | none => simp [front] at expires
      | some head =>
        rw [shaper, front] at expires
        dsimp only at expires ⊢
        cases tagged : head.shape with
        | none => simp [tagged] at expires
        | some tag =>
          simp only [tagged, Option.ite_none_right_eq_some, Bool.and_eq_true, Bool.not_eq_eq_eq_not, Bool.not_true,
            decide_eq_true_eq, Option.some_inj] at expires
          obtain ⟨⟨simple, old⟩, rfl⟩ := expires
          dsimp only
          rw [simple, if_neg Bool.false_ne_true, if_pos old]

/-- A pop of the counted queue is one of the armed queue beneath it. -/
theorem popNextDue_armed (scheduler : Scheduler) (enabled : Bool) (queue : CountedQueue) (shared : Shared) (now : ℕ)
    (opened : ℕ → Bool) :
    let out := queue.popNextDue scheduler enabled shared now opened
    (out.1, out.2.1.toArmedQueue, out.2.2.state) =
      queue.toArmedQueue.popNextDue scheduler enabled shared.state now opened := by
  unfold CountedQueue.popNextDue ArmedQueue.popNextDue
  split_ifs
  · dsimp only
    rw [← shapingGrantsHead_armed ({ queue with shapeGate := none, shapeParked := false } : CountedQueue) shared now]
    generalize ({ queue with shapeGate := none, shapeParked := false } : CountedQueue).shapingGrantsHead scheduler
      enabled shared now = answer
    obtain ⟨lets, after, reached⟩ := answer
    cases lets with
    | false => rfl
    | true =>
      dsimp only
      cases after.q with
      | nil => rfl
      | cons unit rest => rfl
  · rfl

end Moqtap.Egress
