import Mathlib
import Moqtap.ShapeWaking

/-!
What the head of an egress queue waits on: the deadline and the gate that
`PendingQueue` of `moqtap-proxy`'s `egress.rs` arms for its `head_release`, and
the demand it declares with the session's scheduler.

Beneath it is the queue of the units alone (`popNextDue_queue`, `push_queue`).
A pop waits, parks the head on an instant the scheduler named and its clamp
bounds, or lets a unit go (`popNextDue_cases`).  The counters are left out.
-/

namespace Moqtap.Egress

open Shape (Scheduler SchedState)

/-- The gate a release is raced against: a hook's, or a discipline's. -/
inductive ReleaseGate
  | hold (gate : ℕ)
  | shape (gate : Shape.Gate)
  deriving DecidableEq, Repr

structure Release where
  deadline : ℕ
  gate : Option ReleaseGate
  deriving DecidableEq, Repr

/-- What a shaped release has the pipe report. -/
inductive ShapeReport
  | clamped (requested : Option ℕ) (applied : ℕ)
  | expired
  | burstBelowUnit (row : Class) (burstBytes unitBytes : ℕ)
  deriving DecidableEq, Repr

/-- The queue with what it has armed for its head. -/
structure ArmedQueue extends PendingQueue where
  headDeadline : Option ℕ
  shapeGate : Option Shape.Gate
  /-- The shaper is holding the head back: only its own gate may wake the stream. -/
  shapeParked : Bool
  shapeDemand : Option Class
  shapeReport : Option ShapeReport
  deriving DecidableEq, Repr

namespace ArmedQueue

def new (config : EgressConfig) (shaper : Option Shaper) : ArmedQueue :=
  { PendingQueue.new config shaper with
    headDeadline := none
    shapeGate := none
    shapeParked := false
    shapeDemand := none
    shapeReport := none }

def tagUnit (queue : ArmedQueue) (row : Class) : ArmedQueue := { queue with unitClass := row }

def headRelease (queue : ArmedQueue) : Option Release :=
  match queue.q.head?, queue.headDeadline with
  | some head, some deadline =>
    some
      { deadline := deadline
        gate := if queue.shapeParked then queue.shapeGate.map .shape else head.gate.map .hold }
  | _, _ => none

def armHead (queue : ArmedQueue) : ArmedQueue :=
  { queue with headDeadline := queue.q.head?.map Pending.dueAt }

def armHeadAt (queue : ArmedQueue) (instant : ℕ) : ArmedQueue :=
  { queue with headDeadline := some instant }

/-- The row of the head, which is the one demand is declared for. -/
def headRow (queue : ArmedQueue) : Option Class :=
  (queue.q.head?.bind Pending.shape).map ShapeTag.row

variable (scheduler : Scheduler) (enabled : Bool)

def syncShapeDemand (queue : ArmedQueue) (state : SchedState) : ArmedQueue × SchedState :=
  if queue.isShaped then
    let want := queue.headRow
    if want = queue.shapeDemand then (queue, state)
    else
      let state :=
        match queue.shapeDemand with
        | some old => scheduler.withdrawDemand state old
        | none => state
      match want with
      | some row => ({ queue with shapeDemand := some row }, scheduler.declareDemand state row)
      | none => ({ queue with shapeDemand := none }, state)
  else (queue, state)

def push (queue : ArmedQueue) (state : SchedState) (unit : Pending) (now : ℕ) :
    ArmedQueue × SchedState :=
  let pushed : ArmedQueue := { queue with toPendingQueue := queue.toPendingQueue.push unit now }
  (if queue.q.isEmpty then pushed.armHead else pushed).syncShapeDemand scheduler state

def clear (queue : ArmedQueue) (state : SchedState) : ArmedQueue × SchedState :=
  let cleared : ArmedQueue :=
    { queue with q := [], headDeadline := none, shapeGate := none, shapeParked := false }
  cleared.syncShapeDemand scheduler state

def parkHead (queue : ArmedQueue) (state : SchedState) (instant : ℕ) (gate : Option Shape.Gate) :
    ArmedQueue × SchedState :=
  let parked : ArmedQueue := { queue with shapeGate := gate, shapeParked := true }
  (parked.armHeadAt instant).syncShapeDemand scheduler state

/-- The head has outlived its clamp; it may be popped either way. -/
def expireHead (queue : ArmedQueue) (state : SchedState) (now : ℕ) :
    Expiry → ArmedQueue × SchedState
  | .deliver => ({ queue with shapeReport := some (.clamped none queue.shapeHold) }, state)
  | .resetStream code =>
    let (queue, state) :=
      ({ queue with shapeReport := some .expired } : ArmedQueue).clear scheduler state
    (({ queue with q := [.terminal (.reset code) now] } : ArmedQueue).armHead, state)

def shapingGrantsHead (queue : ArmedQueue) (state : SchedState) (now : ℕ) :
    Bool × ArmedQueue × SchedState :=
  match queue.shaper, queue.q.head? with
  | some shaper, some head =>
    match head.shape with
    | none => (true, queue, state)
    | some tag =>
      if head.item.isTerminal then (true, queue, state)
      else if tag.expiresAt ≤ now then (true, queue.expireHead scheduler state now shaper.onExpiry)
      else
        match scheduler.acquire enabled state tag.row head.len now with
        | (.now, state) => (true, queue, state)
        | (.later instant, state) =>
          (false, queue.parkHead scheduler state (min instant tag.expiresAt) none)
        -- no instant is named: the clamp is the deadline
        | (.never, state) => (false, queue.parkHead scheduler state tag.expiresAt none)
        | (.largerThanBurst burstBytes unitBytes, state) =>
          let queue : ArmedQueue :=
            { queue with shapeReport := some (.burstBelowUnit tag.row burstBytes unitBytes) }
          (false, queue.parkHead scheduler state tag.expiresAt none)
        | (.starved gate, state) =>
          (false, queue.parkHead scheduler state tag.expiresAt (some gate))
  | _, _ => (true, queue, state)

/-- `opened` says which of the hooks' gates have been released. -/
def popNextDue (queue : ArmedQueue) (state : SchedState) (now : ℕ) (opened : ℕ → Bool) :
    Option Pending × ArmedQueue × SchedState :=
  if queue.q.head?.any (·.isDue now opened) then
    -- a gate kept from the last refusal would be one nobody releases
    let asked : ArmedQueue := { queue with shapeGate := none, shapeParked := false }
    match asked.shapingGrantsHead scheduler enabled state now with
    | (false, queue, state) => (none, queue, state)
    | (true, queue, state) =>
      match queue.q with
      | [] => (none, queue, state)
      | unit :: rest =>
        (some unit, (({ queue with q := rest } : ArmedQueue).armHead).syncShapeDemand scheduler state)
  else (none, queue, state)

def takeShapeReport (queue : ArmedQueue) : Option ShapeReport × ArmedQueue :=
  (queue.shapeReport, { queue with shapeReport := none })

end ArmedQueue

/-! ## Demand -/

variable {scheduler : Scheduler} {enabled : Bool} {queue : ArmedQueue} {state : SchedState} {now : ℕ}
  {opened : ℕ → Bool}

/-- The shaped queue has declared demand for its head's row, and for no other. -/
def ArmedQueue.Declared (queue : ArmedQueue) : Prop :=
  queue.isShaped = true → queue.shapeDemand = queue.headRow

theorem sync_demand (queue : ArmedQueue) (state : SchedState) :
    ∃ demand, (queue.syncShapeDemand scheduler state).1 = { queue with shapeDemand := demand } ∧
      (queue.isShaped = true → demand = queue.headRow) := by
  unfold ArmedQueue.syncShapeDemand
  by_cases shaped : queue.isShaped = true
  · rw [if_pos shaped]
    by_cases same : queue.headRow = queue.shapeDemand
    · rw [if_pos same]
      exact ⟨queue.shapeDemand, rfl, fun _ => same.symm⟩
    · rw [if_neg same]
      refine ⟨queue.headRow, ?_, fun _ => rfl⟩
      cases queue.headRow with
      | none => rfl
      | some row => rfl
  · rw [if_neg shaped]
    exact ⟨queue.shapeDemand, rfl, fun absent => absurd absent shaped⟩

theorem sync_queue (queue : ArmedQueue) (state : SchedState) :
    (queue.syncShapeDemand scheduler state).1.toPendingQueue = queue.toPendingQueue := by
  obtain ⟨demand, synced, -⟩ := @sync_demand scheduler queue state
  rw [synced]

theorem sync_declared (queue : ArmedQueue) (state : SchedState) :
    (queue.syncShapeDemand scheduler state).1.Declared := by
  obtain ⟨demand, synced, declared⟩ := @sync_demand scheduler queue state
  rw [synced]
  exact declared

theorem sync_idle (declared : queue.Declared) : queue.syncShapeDemand scheduler state = (queue, state) := by
  unfold ArmedQueue.syncShapeDemand
  by_cases shaped : queue.isShaped = true
  · rw [if_pos shaped]
    exact if_pos (declared shaped).symm
  · exact if_neg shaped

theorem sync_minted (minted : Shape.Waking.Minted state) (queue : ArmedQueue) :
    Shape.Waking.Minted (queue.syncShapeDemand scheduler state).2 := by
  have withdrawn : Shape.Waking.Minted
      (match queue.shapeDemand with
        | some old => scheduler.withdrawDemand state old
        | none => state) := by
    cases queue.shapeDemand with
    | none => exact minted
    | some old => exact Shape.Waking.step_minted minted (.withdrawDemand old)
  unfold ArmedQueue.syncShapeDemand
  by_cases shaped : queue.isShaped = true
  · rw [if_pos shaped]
    by_cases same : queue.headRow = queue.shapeDemand
    · rw [if_pos same]
      exact minted
    · rw [if_neg same]
      dsimp only
      cases queue.headRow with
      | none => exact withdrawn
      | some row => exact Shape.Waking.step_minted withdrawn (.declareDemand row)
  · rw [if_neg shaped]
    exact minted

theorem acquire_minted (minted : Shape.Waking.Minted state) (row : Class) (bytes now : ℕ) :
    Shape.Waking.Minted (scheduler.acquire enabled state row bytes now).2 := by
  cases enabled with
  | false => exact minted
  | true => exact Shape.Waking.step_minted minted (.acquire row bytes now)

/-! ## What the scheduler names -/

theorem charge_later {limit burst bytes instant : ℕ} {bucket : TokenBucket.BucketState}
    {rate : Option ℕ} (later : (TokenBucket.charge limit bucket rate burst bytes now).1 = .later instant) :
    now < instant := by
  cases rate with
  | none => exact nomatch later
  | some rate =>
    have asked : TokenBucket.answer limit rate burst bucket ⟨bytes, now⟩ = .later instant := later
    obtain ⟨flows, short, -, deadline⟩ := TokenBucket.answer_later asked
    dsimp only at short deadline
    rw [TokenBucket.refill_last] at deadline
    have waits : 0 < (TokenBucket.nano * bytes -
        (TokenBucket.refill bucket rate (TokenBucket.nano * burst) now).tokens) ⌈/⌉ rate := by
      rw [Nat.ceilDiv_eq_add_pred_div]
      apply Nat.div_pos
      · omega
      · exact flows
    have reached : now ≤ max bucket.last now := Nat.le_max_right ..
    omega

theorem chargeBucket_later {index bucket bytes instant : ℕ}
    (later : (scheduler.chargeBucket state index bucket bytes now).1 = .later instant) :
    now < instant := by
  unfold Scheduler.chargeBucket at later
  cases configured : scheduler.profile.buckets[bucket]? with
  | none =>
    rw [configured] at later
    exact nomatch later
  | some config =>
    rw [configured] at later
    dsimp only at later
    cases charged : (TokenBucket.charge scheduler.limit (state.buckets bucket) config.rateBps
        config.burstBytes bytes now).1 with
    | now =>
      rw [charged] at later
      exact nomatch later
    | later deadline =>
      rw [charged] at later
      cases later
      exact charge_later charged
    | never =>
      rw [charged] at later
      exact nomatch later
    | largerThanBurst burstBytes unitBytes =>
      rw [charged] at later
      exact nomatch later

/-- An instant the scheduler names is still to come. -/
theorem acquire_later {row : Class} {bytes instant : ℕ}
    (later : (scheduler.acquire enabled state row bytes now).1 = .later instant) : now < instant := by
  cases enabled with
  | false => exact nomatch later
  | true =>
    cases row with
    | default => exact nomatch later
    | unshapeable => exact nomatch later
    | rule index =>
      cases charges : scheduler.classBucket index with
      | none =>
        rw [Shape.Waking.acquire_unasked charges] at later
        exact nomatch later
      | some bucket =>
        rcases @Shape.Waking.acquire_cases _ state _ _ bytes now charges with
          ⟨-, asked⟩ | ⟨-, -, asked⟩ | ⟨-, -, -, asked⟩
        · rw [asked] at later
          exact nomatch later
        · rw [asked] at later
          exact chargeBucket_later later
        · rw [asked] at later
          exact chargeBucket_later later

theorem park_holds (state : SchedState) (index : ℕ) :
    (Scheduler.park state index).2.parked index = some (Scheduler.park state index).1 := by
  unfold Scheduler.park
  cases parked : state.parked index with
  | some gate => exact parked
  | none => exact Function.update_self ..

/-- A gate the scheduler names is closed. -/
theorem acquire_starved (minted : Shape.Waking.Minted state) {row : Class} {bytes : ℕ} {gate : Shape.Gate}
    (starved : (scheduler.acquire enabled state row bytes now).1 = .starved gate) :
    (scheduler.acquire enabled state row bytes now).2.released gate = false := by
  have kept : Shape.Waking.Minted (scheduler.acquire enabled state row bytes now).2 :=
    acquire_minted minted row bytes now
  cases enabled with
  | false => exact nomatch starved
  | true =>
    cases row with
    | default => exact nomatch starved
    | unshapeable => exact nomatch starved
    | rule index =>
      cases charges : scheduler.classBucket index with
      | none =>
        rw [Shape.Waking.acquire_unasked charges] at starved
        exact nomatch starved
      | some bucket =>
        rcases @Shape.Waking.acquire_cases _ state _ _ bytes now charges with
          ⟨-, asked⟩ | ⟨-, -, asked⟩ | ⟨-, -, -, asked⟩
        · rw [asked] at starved kept ⊢
          cases starved
          exact kept.closed (park_holds state index)
        · rw [asked] at starved
          exact absurd starved ((Shape.Waking.chargeBucket_cases ..).1 gate)
        · rw [asked] at starved
          exact absurd starved ((Shape.Waking.chargeBucket_cases ..).1 gate)

/-! ## One pop -/

/-- Everything the shaper can say of a head that is due. -/
inductive Grants (scheduler : Scheduler) (enabled : Bool) (queue : ArmedQueue) (state : SchedState)
    (head : Pending) (now : ℕ) : Bool → ArmedQueue → SchedState → Prop
  | grants {report : Option ShapeReport} {after : SchedState}
      (reported : report = some .expired → queue.shapeReport = some .expired)
      (charged : after = state ∨ ∃ row bytes, after = (scheduler.acquire enabled state row bytes now).2) :
      Grants scheduler enabled queue state head now true { queue with shapeReport := report } after
  | replaces {code : ℕ} {tag : ShapeTag} (tagged : head.shape = some tag) (old : tag.expiresAt ≤ now) :
      Grants scheduler enabled queue state head now true
        (({ ((({ queue with shapeReport := some .expired } : ArmedQueue).clear scheduler state).1) with
              q := [.terminal (.reset code) now] } : ArmedQueue).armHead)
        (({ queue with shapeReport := some .expired } : ArmedQueue).clear scheduler state).2
  | parks {tag : ShapeTag} {instant : ℕ} {gate : Option Shape.Gate} {report : Option ShapeReport}
      {answer : Shape.Acquire} {after : SchedState}
      (shaped : queue.isShaped = true) (tagged : head.shape = some tag)
      (simple : head.item.isTerminal = false) (young : now < tag.expiresAt)
      (asked : scheduler.acquire enabled state tag.row head.len now = (answer, after))
      (ahead : now < instant) (clamped : instant ≤ tag.expiresAt)
      (refused : answer ≠ .now) (starved : ∀ held, gate = some held → answer = .starved held) :
      Grants scheduler enabled queue state head now false
        (({ queue with shapeReport := report } : ArmedQueue).parkHead scheduler after instant gate).1
        (({ queue with shapeReport := report } : ArmedQueue).parkHead scheduler after instant gate).2

theorem shapingGrantsHead_cases {head : Pending} {rest : List Pending} (front : queue.q = head :: rest) :
    Grants scheduler enabled queue state head now (queue.shapingGrantsHead scheduler enabled state now).1
      (queue.shapingGrantsHead scheduler enabled state now).2.1
      (queue.shapingGrantsHead scheduler enabled state now).2.2 := by
  have stays : Grants scheduler enabled queue state head now true queue state :=
    @Grants.grants scheduler enabled queue state head now queue.shapeReport state id (.inl rfl)
  unfold ArmedQueue.shapingGrantsHead
  rw [front, List.head?_cons]
  cases shaper : queue.shaper with
  | none => exact stays
  | some shaper' =>
    dsimp only
    cases tagged : head.shape with
    | none => exact stays
    | some tag =>
      dsimp only
      cases simple : head.item.isTerminal with
      | true => exact stays
      | false =>
        rw [if_neg Bool.false_ne_true]
        by_cases old : tag.expiresAt ≤ now
        · rw [if_pos old]
          cases shaper'.onExpiry with
          | deliver => exact .grants nofun (.inl rfl)
          | resetStream code => exact .replaces tagged old
        · rw [if_neg old]
          have young : now < tag.expiresAt := Nat.lt_of_not_le old
          have shaped : queue.isShaped = true := by
            unfold PendingQueue.isShaped
            rw [shaper]
            rfl
          rcases asked : scheduler.acquire enabled state tag.row head.len now with ⟨answer, after⟩
          cases answer with
          | now =>
            refine .grants id (.inr ⟨tag.row, head.len, ?_⟩)
            rw [asked]
          | later instant =>
            have ahead : now < instant := acquire_later (congrArg Prod.fst asked)
            exact .parks shaped tagged simple young asked (lt_min ahead young) (min_le_right ..)
              nofun nofun
          | never => exact .parks shaped tagged simple young asked young le_rfl nofun nofun
          | largerThanBurst burstBytes unitBytes =>
            exact .parks shaped tagged simple young asked young le_rfl nofun nofun
          | starved gate =>
            refine .parks shaped tagged simple young asked young le_rfl nofun ?_
            rintro held ⟨⟩
            rfl

/-- Everything one pop can do: nothing, park the head, let it go, or put a reset in the
queue's place. -/
inductive Pops (scheduler : Scheduler) (enabled : Bool) (queue : ArmedQueue) (state : SchedState)
    (now : ℕ) (opened : ℕ → Bool) : Option Pending → ArmedQueue → SchedState → Prop
  | idle (empty : queue.q = []) : Pops scheduler enabled queue state now opened none queue state
  | waits {head : Pending} {rest : List Pending} (front : queue.q = head :: rest)
      (early : head.isDue now opened = false) :
      Pops scheduler enabled queue state now opened none queue state
  | parks {head : Pending} {rest : List Pending} {tag : ShapeTag} {instant : ℕ}
      {gate : Option Shape.Gate} {report : Option ShapeReport} {demand : Option Class}
      {answer : Shape.Acquire} {after reached : SchedState}
      (front : queue.q = head :: rest) (due : head.isDue now opened = true)
      (shaped : queue.isShaped = true) (tagged : head.shape = some tag)
      (simple : head.item.isTerminal = false) (young : now < tag.expiresAt)
      (asked : scheduler.acquire enabled state tag.row head.len now = (answer, after))
      (ahead : now < instant) (clamped : instant ≤ tag.expiresAt)
      (refused : answer ≠ .now) (starved : ∀ held, gate = some held → answer = .starved held)
      (declared : demand = queue.headRow) (minted : Shape.Waking.Minted state → Shape.Waking.Minted reached)
      (closed : queue.Declared → Shape.Waking.Minted state → ∀ held, gate = some held →
        reached.released held = false) :
      Pops scheduler enabled queue state now opened none
        { queue with
          headDeadline := some instant, shapeGate := gate, shapeParked := true, shapeDemand := demand,
          shapeReport := report }
        reached
  | goes {head : Pending} {rest : List Pending} {report : Option ShapeReport} {demand : Option Class}
      {reached : SchedState} (front : queue.q = head :: rest) (due : head.isDue now opened = true)
      (reported : report = some .expired → queue.shapeReport = some .expired)
      (declared : queue.isShaped = true → demand = (rest.head?.bind Pending.shape).map ShapeTag.row)
      (minted : Shape.Waking.Minted state → Shape.Waking.Minted reached) :
      Pops scheduler enabled queue state now opened (some head)
        { queue with
          q := rest, headDeadline := rest.head?.map Pending.dueAt, shapeGate := none, shapeParked := false,
          shapeDemand := demand, shapeReport := report }
        reached
  | expires {head : Pending} {rest : List Pending} {code : ℕ} {tag : ShapeTag} {demand : Option Class}
      {reached : SchedState} (front : queue.q = head :: rest) (due : head.isDue now opened = true)
      (tagged : head.shape = some tag) (old : tag.expiresAt ≤ now)
      (declared : queue.isShaped = true → demand = none)
      (minted : Shape.Waking.Minted state → Shape.Waking.Minted reached) :
      Pops scheduler enabled queue state now opened (some (.terminal (.reset code) now))
        { queue with
          q := [], headDeadline := none, shapeGate := none, shapeParked := false, shapeDemand := demand,
          shapeReport := some .expired }
        reached

theorem popNextDue_cases (scheduler : Scheduler) (enabled : Bool) (queue : ArmedQueue) (state : SchedState)
    (now : ℕ) (opened : ℕ → Bool) :
    Pops scheduler enabled queue state now opened (queue.popNextDue scheduler enabled state now opened).1
      (queue.popNextDue scheduler enabled state now opened).2.1
      (queue.popNextDue scheduler enabled state now opened).2.2 := by
  unfold ArmedQueue.popNextDue
  cases front : queue.q with
  | nil => exact .idle front
  | cons head rest =>
    cases due : head.isDue now opened with
    | false =>
      rw [if_neg (by simp [due])]
      exact .waits front due
    | true =>
      rw [if_pos (by simp [due])]
      dsimp only
      have asked : ({ queue with shapeGate := none, shapeParked := false } : ArmedQueue).q = head :: rest :=
        front
      have granted := @shapingGrantsHead_cases scheduler enabled _ state now head rest asked
      revert granted
      generalize ({ queue with shapeGate := none, shapeParked := false } : ArmedQueue).shapingGrantsHead
        scheduler enabled state now = answer
      obtain ⟨lets, after, reached⟩ := answer
      dsimp only
      intro granted
      cases granted with
      | @grants report after reported charged =>
        have minted : Shape.Waking.Minted state → Shape.Waking.Minted reached := by
          intro minted
          rcases charged with rfl | ⟨row, bytes, rfl⟩
          · exact minted
          · exact acquire_minted minted row bytes now
        dsimp only
        rw [front]
        dsimp only
        obtain ⟨demand, synced, declared⟩ := @sync_demand scheduler
          (({ queue with
              q := rest, shapeGate := none, shapeParked := false, shapeReport := report } : ArmedQueue).armHead)
          reached
        rw [synced]
        exact .goes front due reported declared fun start => sync_minted (minted start) _
      | @replaces code tag tagged old =>
        obtain ⟨demand, cleared, declared⟩ := @sync_demand scheduler
          ({ queue with
              q := [], headDeadline := none, shapeGate := none, shapeParked := false,
              shapeReport := some .expired } : ArmedQueue) state
        have emptied : (({ queue with
              shapeGate := none, shapeParked := false, shapeReport := some .expired } : ArmedQueue).clear
            scheduler state).1 =
            { queue with
                q := [], headDeadline := none, shapeGate := none, shapeParked := false,
                shapeDemand := demand, shapeReport := some .expired } := cleared
        rw [emptied]
        dsimp only [ArmedQueue.armHead]
        obtain ⟨last, synced, declared⟩ := @sync_demand scheduler
          ({ queue with
              q := [], headDeadline := none, shapeGate := none, shapeParked := false,
              shapeDemand := demand, shapeReport := some .expired } : ArmedQueue)
          (({ queue with
              shapeGate := none, shapeParked := false, shapeReport := some .expired } : ArmedQueue).clear
            scheduler state).2
        rw [List.head?_nil, Option.map_none, synced]
        refine .expires front due tagged old declared fun start => sync_minted ?_ _
        exact sync_minted start _
      | @parks tag instant gate report answer after shaped tagged simple young asked ahead clamped refused
          starved =>
        unfold ArmedQueue.parkHead ArmedQueue.armHeadAt
        dsimp only
        have charged : after = (scheduler.acquire enabled state tag.row head.len now).2 := by rw [asked]
        -- the head has not changed, so neither has what is declared
        have closed : queue.Declared → Shape.Waking.Minted state → ∀ held, gate = some held →
            (({ queue with
              headDeadline := some instant, shapeGate := gate, shapeParked := true,
              shapeReport := report } : ArmedQueue).syncShapeDemand scheduler after).2.released held = false := by
          intro declared start held named
          have same : ({ queue with
              headDeadline := some instant, shapeGate := gate, shapeParked := true,
              shapeReport := report } : ArmedQueue).Declared := declared
          rw [sync_idle same, charged]
          exact acquire_starved start (by rw [asked]; exact starved held named)
        obtain ⟨demand, synced, declared⟩ := @sync_demand scheduler
          ({ queue with
              headDeadline := some instant, shapeGate := gate, shapeParked := true,
              shapeReport := report } : ArmedQueue) after
        rw [synced]
        refine .parks front due shaped tagged simple young asked ahead clamped refused starved (declared shaped)
          (fun start => sync_minted ?_ _) closed
        rw [charged]
        exact acquire_minted start ..

/-! ## The queue beneath -/

/-- The answer without its gate. -/
def answerOf : Shape.Acquire → Acquire
  | .now => .now
  | .later instant => .later instant
  | .never => .never
  | .largerThanBurst burstBytes unitBytes => .largerThanBurst burstBytes unitBytes
  | .starved _ => .starved

/-- What the scheduler answers a pop that asks it about this head. -/
def headAnswer (scheduler : Scheduler) (enabled : Bool) (state : SchedState) (now : ℕ) (head : Pending) :
    Acquire :=
  match head.shape with
  | some tag => answerOf (scheduler.acquire enabled state tag.row head.len now).1
  | none => .now

theorem push_queue (queue : ArmedQueue) (state : SchedState) (unit : Pending) (now : ℕ) :
    (queue.push scheduler state unit now).1.toPendingQueue = queue.toPendingQueue.push unit now := by
  unfold ArmedQueue.push
  rw [sync_queue]
  split
  · rfl
  · rfl

/-- A push arms the head where the unit becomes it. -/
theorem push_arms (queue : ArmedQueue) (state : SchedState) (unit : Pending) (now : ℕ) :
    ∃ demand, (queue.push scheduler state unit now).1 =
      { queue with
        toPendingQueue := queue.toPendingQueue.push unit now
        headDeadline := if queue.q.isEmpty then some unit.dueAt else queue.headDeadline
        shapeDemand := demand } := by
  unfold ArmedQueue.push
  dsimp only
  obtain ⟨demand, synced, -⟩ := @sync_demand scheduler
    (if queue.q.isEmpty then
      ({ queue with toPendingQueue := queue.toPendingQueue.push unit now } : ArmedQueue).armHead
    else { queue with toPendingQueue := queue.toPendingQueue.push unit now }) state
  refine ⟨demand, synced.trans ?_⟩
  cases front : queue.q with
  | nil =>
    simp only [List.isEmpty_nil, if_true, ArmedQueue.armHead, PendingQueue.push, front, List.nil_append,
      List.head?_cons, Option.map_some]
    split
    · rfl
    · rfl
  | cons head rest => rfl

theorem push_declared (queue : ArmedQueue) (state : SchedState) (unit : Pending) (now : ℕ) :
    (queue.push scheduler state unit now).1.Declared := by
  unfold ArmedQueue.push
  exact sync_declared _ _

theorem push_minted (minted : Shape.Waking.Minted state) (queue : ArmedQueue) (unit : Pending) (now : ℕ) :
    Shape.Waking.Minted (queue.push scheduler state unit now).2 := by
  unfold ArmedQueue.push
  exact sync_minted minted _

theorem parkHead_queue (queue : ArmedQueue) (state : SchedState) (instant : ℕ) (gate : Option Shape.Gate) :
    (queue.parkHead scheduler state instant gate).1.toPendingQueue = queue.toPendingQueue := by
  unfold ArmedQueue.parkHead
  rw [sync_queue]
  rfl

theorem shapingGrantsHead_queue {head : Pending} {rest : List Pending} (front : queue.q = head :: rest) :
    queue.toPendingQueue.shapingGrantsHead head now (headAnswer scheduler enabled state now head) =
      ((queue.shapingGrantsHead scheduler enabled state now).1,
        (queue.shapingGrantsHead scheduler enabled state now).2.1.toPendingQueue) := by
  unfold PendingQueue.shapingGrantsHead ArmedQueue.shapingGrantsHead headAnswer
  rw [front, List.head?_cons]
  cases shaper : queue.shaper with
  | none => rfl
  | some shaper' =>
    dsimp only
    cases head.shape with
    | none => rfl
    | some tag =>
      dsimp only
      split_ifs
      · rfl
      · cases shaper'.onExpiry with
        | deliver => rfl
        | resetStream code =>
          unfold ArmedQueue.expireHead ArmedQueue.clear ArmedQueue.armHead
          dsimp only
          rw [sync_queue, ← shaper]
      · rcases scheduler.acquire enabled state tag.row head.len now with ⟨answer, after⟩
        cases answer with
        | now => rfl
        | later instant => exact congrArg (Prod.mk false) (parkHead_queue ..).symm
        | never => exact congrArg (Prod.mk false) (parkHead_queue ..).symm
        | largerThanBurst burstBytes unitBytes =>
          dsimp only
          rw [parkHead_queue]
          rfl
        | starved gate => exact congrArg (Prod.mk false) (parkHead_queue ..).symm

/-- A pop of the armed queue is one of the queue beneath it, given what the scheduler
answers. -/
theorem popNextDue_queue (scheduler : Scheduler) (enabled : Bool) (queue : ArmedQueue) (state : SchedState)
    (now : ℕ) (opened : ℕ → Bool) :
    queue.toPendingQueue.popNextDue now opened
        ((queue.q.head?.map (headAnswer scheduler enabled state now)).getD .now) =
      ((queue.popNextDue scheduler enabled state now opened).1,
        (queue.popNextDue scheduler enabled state now opened).2.1.toPendingQueue) := by
  unfold PendingQueue.popNextDue ArmedQueue.popNextDue
  cases front : queue.q with
  | nil => rfl
  | cons head rest =>
    cases due : head.isDue now opened with
    | false =>
      rw [if_neg (by simp [due])]
      simp [due]
    | true =>
      rw [if_pos (by simp [due])]
      have asked : ({ queue with shapeGate := none, shapeParked := false } : ArmedQueue).q = head :: rest :=
        front
      have granted := @shapingGrantsHead_queue scheduler enabled _ state now head rest asked
      dsimp only [List.head?_cons, Option.map_some, Option.getD_some]
      rw [if_pos due, granted]
      generalize ({ queue with shapeGate := none, shapeParked := false } : ArmedQueue).shapingGrantsHead
        scheduler enabled state now = answer
      obtain ⟨lets, after, reached⟩ := answer
      cases lets with
      | false => rfl
      | true =>
        dsimp only
        cases left : after.q with
        | nil =>
          have emptied : ({ after.toPendingQueue with q := [] } : PendingQueue) = after.toPendingQueue := by
            rw [← left]
          exact congrArg (Prod.mk none) emptied
        | cons unit units =>
          dsimp only
          rw [sync_queue]
          rfl

end Moqtap.Egress
