import Mathlib
import Moqtap.EgressCeilings

/-!
The order in which an egress queue lets its units go, when it does, and what is
paid for them.

A pop takes the front or, where the front expired under a profile that resets,
replaces everything by one reset (`popNextDue_settles`).  The scheduler's buckets
change at a pop and at no other call of the queue: a refusal only brings them up
to date, and a grant takes the unit's length once (`acquire_settles`).
-/

namespace Moqtap.Egress

open Shape (Scheduler SchedState)
open Runs

/-! ## Buckets -/

/-- Every bucket as it was, or brought up to `now`. -/
def Rested (scheduler : Scheduler) (before after : SchedState) (now : ℕ) : Prop :=
  ∀ bucket, after.buckets bucket = before.buckets bucket ∨
    ∃ config rate, scheduler.profile.buckets[bucket]? = some config ∧ config.rateBps = some rate ∧
      after.buckets bucket =
        TokenBucket.refill (before.buckets bucket) rate (TokenBucket.nano * config.burstBytes) now

/-- One debit of `bytes` from the bucket of the class, which has a rate. -/
def Debited (scheduler : Scheduler) (before after : SchedState) (index bytes now : ℕ) : Prop :=
  ∃ bucket config rate, scheduler.classBucket index = some bucket ∧
    scheduler.profile.buckets[bucket]? = some config ∧ config.rateBps = some rate ∧
    let held := TokenBucket.refill (before.buckets bucket) rate (TokenBucket.nano * config.burstBytes) now
    TokenBucket.nano * bytes ≤ held.tokens ∧
      after.buckets =
        Function.update before.buckets bucket ⟨held.tokens - TokenBucket.nano * bytes, held.last⟩

/-- The class charges a bucket without a rate. -/
def Unlimited (scheduler : Scheduler) (index : ℕ) : Prop :=
  ∃ bucket config, scheduler.classBucket index = some bucket ∧
    scheduler.profile.buckets[bucket]? = some config ∧ config.rateBps = none

/-- What a grant costs. -/
def Paid (scheduler : Scheduler) (before after : SchedState) (index bytes now : ℕ) : Prop :=
  Debited scheduler before after index bytes now ∨
    Unlimited scheduler index ∧ after.buckets = before.buckets

/-- Every class of the profile charges a bucket the profile has. -/
def Configured (scheduler : Scheduler) : Prop :=
  ∀ index < scheduler.profile.classes.length, ∃ bucket config,
    scheduler.classBucket index = some bucket ∧ scheduler.profile.buckets[bucket]? = some config

variable {scheduler : Scheduler} {enabled : Bool} {queue : ArmedQueue} {state before : SchedState} {now : ℕ}
  {opened : ℕ → Bool}

theorem rested_of_same (same : state.buckets = before.buckets) : Rested scheduler before state now :=
  fun bucket => .inl (congrFun same bucket)

theorem chargeBucket_settles {index bucket bytes : ℕ} {config : Shape.BucketConfig}
    (charges : scheduler.classBucket index = some bucket)
    (configured : scheduler.profile.buckets[bucket]? = some config) :
    ((scheduler.chargeBucket state index bucket bytes now).1 = .now ∧
      Paid scheduler state (scheduler.chargeBucket state index bucket bytes now).2 index bytes now) ∨
    ((scheduler.chargeBucket state index bucket bytes now).1 ≠ .now ∧
      Rested scheduler state (scheduler.chargeBucket state index bucket bytes now).2 now) := by
  have spent (state : SchedState) : (scheduler.spend state index).buckets = state.buckets := by
    unfold Scheduler.spend
    split
    · rfl
    · rfl
  unfold Scheduler.chargeBucket
  rw [configured]
  dsimp only
  cases limited : config.rateBps with
  | none =>
    refine .inl ⟨rfl, .inr ⟨⟨bucket, config, charges, configured, limited⟩, ?_⟩⟩
    exact (spent _).trans (Function.update_eq_self ..)
  | some rate =>
    have held := TokenBucket.charge_cases scheduler.limit rate config.burstBytes (state.buckets bucket) ⟨bytes, now⟩
    unfold TokenBucket.answer TokenBucket.step at held
    dsimp only at held
    generalize TokenBucket.charge scheduler.limit (state.buckets bucket) (some rate) config.burstBytes bytes now =
      charged at held ⊢
    obtain ⟨grant, left⟩ := charged
    rcases held with ⟨granted, covered, rfl⟩ | ⟨refused, -, rfl⟩
    · cases granted
      exact .inl ⟨rfl, .inl ⟨bucket, config, rate, charges, configured, limited, covered, spent _⟩⟩
    · have rested (after : SchedState)
          (brought : after.buckets = Function.update state.buckets bucket
            (TokenBucket.refill (state.buckets bucket) rate (TokenBucket.nano * config.burstBytes) now)) :
          Rested scheduler state after now := by
        intro other
        rw [brought]
        by_cases same : other = bucket
        · subst same
          exact .inr ⟨config, rate, configured, limited, Function.update_self ..⟩
        · exact .inl (Function.update_of_ne same ..)
      right
      cases grant with
      | now => exact absurd rfl refused
      | later instant =>
        dsimp only
        exact ⟨nofun, rested _ rfl⟩
      | never =>
        dsimp only
        exact ⟨nofun, rested _ rfl⟩
      | largerThanBurst burstBytes unitBytes =>
        dsimp only
        exact ⟨nofun, rested _ rfl⟩

/-- **What one question costs.** -/
theorem acquire_settles (configured : Configured scheduler) {index bytes : ℕ}
    (known : index < scheduler.profile.classes.length) :
    ((scheduler.acquire true state (.rule index) bytes now).1 = .now ∧
      Paid scheduler state (scheduler.acquire true state (.rule index) bytes now).2 index bytes now) ∨
    ((scheduler.acquire true state (.rule index) bytes now).1 ≠ .now ∧
      Rested scheduler state (scheduler.acquire true state (.rule index) bytes now).2 now) := by
  obtain ⟨bucket, config, charges, found⟩ := configured index known
  rcases @Shape.Waking.acquire_cases _ state _ _ bytes now charges with
    ⟨-, asked⟩ | ⟨-, -, asked⟩ | ⟨-, -, -, asked⟩
  · rw [asked]
    refine .inr ⟨nofun, rested_of_same ?_⟩
    unfold Scheduler.park
    split
    · rfl
    · rfl
  · rw [asked]
    exact chargeBucket_settles charges found
  · rw [asked]
    exact chargeBucket_settles charges found

theorem sync_buckets (queue : ArmedQueue) (state : SchedState) :
    (queue.syncShapeDemand scheduler state).2.buckets = state.buckets := by
  have withdrawn (row : Class) : (scheduler.withdrawDemand state row).buckets = state.buckets := by
    unfold Scheduler.withdrawDemand
    split
    · split
      · rfl
      · rfl
    · rfl
  have declared (state : SchedState) (row : Class) : (scheduler.declareDemand state row).buckets = state.buckets := by
    unfold Scheduler.declareDemand
    split
    · split_ifs
      · rfl
      · rfl
    · rfl
  unfold ArmedQueue.syncShapeDemand
  dsimp only
  split_ifs
  · rfl
  · cases queue.shapeDemand with
    | none =>
      cases queue.headRow with
      | none => rfl
      | some row => exact declared ..
    | some old =>
      cases queue.headRow with
      | none => exact withdrawn old
      | some row => exact (declared ..).trans (withdrawn old)
  · rfl

/-! ## One pop -/

def Class.Known (scheduler : Scheduler) (row : Class) : Prop :=
  ∀ index, row = .rule index → index < scheduler.profile.classes.length

/-- The class whose bucket a grant of this head is charged to: it is the shaper's to
pace, not a terminal, and younger than its clamp. -/
def ArmedQueue.pacedBy (queue : ArmedQueue) (enabled : Bool) (head : Pending) (now : ℕ) : Option ℕ :=
  match head.shape with
  | some { row := .rule index, expiresAt := expiresAt } =>
    if queue.isShaped && enabled && !head.item.isTerminal && decide (now < expiresAt) then some index else none
  | _ => none

/-- What letting the head go takes from the buckets. -/
def Costs (scheduler : Scheduler) (before after : SchedState) (bytes now : ℕ) : Option ℕ → Prop
  | some index => Paid scheduler before after index bytes now
  | none => after.buckets = before.buckets

/-- The front expired under a profile that resets the stream. -/
structure Expires (queue : ArmedQueue) (now : ℕ) (opened : ℕ → Bool) (code : ℕ) : Prop where
  resets : queue.shaper.map Shaper.onExpiry = some (.resetStream code)
  front : ∃ head tag, queue.q.head? = some head ∧ head.isDue now opened = true ∧ head.item.isTerminal = false ∧
    head.shape = some tag ∧ tag.expiresAt ≤ now

/-- What the shaper decides of a head that is due. -/
inductive Decides (scheduler : Scheduler) (enabled : Bool) (queue : ArmedQueue) (state : SchedState)
    (head : Pending) (now : ℕ) : Bool → ArmedQueue → SchedState → Prop
  | refuses {after : ArmedQueue} {reached : SchedState} (same : after.toPendingQueue = queue.toPendingQueue)
      (rested : Rested scheduler state reached now) :
      Decides scheduler enabled queue state head now false after reached
  | lets {after : ArmedQueue} {reached : SchedState} (same : after.toPendingQueue = queue.toPendingQueue)
      (costs : Costs scheduler state reached head.len now (queue.pacedBy enabled head now)) :
      Decides scheduler enabled queue state head now true after reached
  | replaces {after : ArmedQueue} {reached : SchedState} {code : ℕ} {tag : ShapeTag}
      (resets : queue.shaper.map Shaper.onExpiry = some (.resetStream code))
      (simple : head.item.isTerminal = false) (tagged : head.shape = some tag) (old : tag.expiresAt ≤ now)
      (same : after.toPendingQueue = { queue.toPendingQueue with q := [.terminal (.reset code) now] })
      (kept : reached.buckets = state.buckets) :
      Decides scheduler enabled queue state head now true after reached

theorem pacedBy_eq_some {head : Pending} {index : ℕ} :
    queue.pacedBy enabled head now = some index ↔
      ∃ tag, head.shape = some tag ∧ tag.row = .rule index ∧ queue.isShaped = true ∧ enabled = true ∧
        head.item.isTerminal = false ∧ now < tag.expiresAt := by
  unfold ArmedQueue.pacedBy
  cases head.shape with
  | none => simp
  | some tag =>
    obtain ⟨row, expiresAt⟩ := tag
    cases row with
    | default => simp
    | unshapeable => simp
    | rule other =>
      simp
      tauto

theorem pacedBy_none {head : Pending}
    (unpaced : ∀ tag index, head.shape = some tag → tag.row = .rule index → queue.isShaped = true → enabled = true →
      head.item.isTerminal = false → ¬ now < tag.expiresAt) : queue.pacedBy enabled head now = none := by
  apply Option.eq_none_iff_forall_ne_some.mpr
  intro index paced
  obtain ⟨tag, tagged, row, shaped, on, simple, young⟩ := pacedBy_eq_some.mp paced
  exact unpaced tag index tagged row shaped on simple young

theorem Rested.congr {after reached : SchedState} (rested : Rested scheduler before after now)
    (same : reached.buckets = after.buckets) : Rested scheduler before reached now := by
  intro bucket
  rw [same]
  exact rested bucket

theorem Costs.congr {after reached : SchedState} {bytes : ℕ} {paced : Option ℕ}
    (costs : Costs scheduler before after bytes now paced) (same : reached.buckets = after.buckets) :
    Costs scheduler before reached bytes now paced := by
  cases paced with
  | none => exact same.trans costs
  | some index =>
    rcases costs with ⟨bucket, config, rate, charges, configured, limited, covered, left⟩ | ⟨unlimited, kept⟩
    · exact .inl ⟨bucket, config, rate, charges, configured, limited, covered, same.trans left⟩
    · exact .inr ⟨unlimited, same.trans kept⟩

/-- A head nobody paces goes for nothing. -/
theorem decides_free {head : Pending} {after : ArmedQueue} (same : after.toPendingQueue = queue.toPendingQueue)
    (unpaced : queue.pacedBy enabled head now = none) :
    Decides scheduler enabled queue state head now true after state := by
  refine .lets same ?_
  rw [unpaced]
  rfl

/-- A refusal parks the head and takes nothing. -/
theorem decides_parked {head : Pending} {after : SchedState} (rested : Rested scheduler state after now)
    (report : Option ShapeReport) (instant : ℕ) (gate : Option Shape.Gate) :
    Decides scheduler enabled queue state head now false
      (({ queue with shapeReport := report } : ArmedQueue).parkHead scheduler after instant gate).1
      (({ queue with shapeReport := report } : ArmedQueue).parkHead scheduler after instant gate).2 :=
  .refuses (parkHead_queue ..) (rested.congr (sync_buckets ..))

theorem shapingGrantsHead_decides (configured : Configured scheduler) {head : Pending} {rest : List Pending}
    (front : queue.q = head :: rest)
    (known : queue.isShaped = true → ∀ tag, head.shape = some tag → tag.row.Known scheduler) :
    Decides scheduler enabled queue state head now (queue.shapingGrantsHead scheduler enabled state now).1
      (queue.shapingGrantsHead scheduler enabled state now).2.1
      (queue.shapingGrantsHead scheduler enabled state now).2.2 := by
  unfold ArmedQueue.shapingGrantsHead
  rw [front, List.head?_cons]
  cases shaper : queue.shaper with
  | none =>
    have unshaped : queue.isShaped = false := congrArg Option.isSome shaper
    exact decides_free rfl (pacedBy_none fun _ _ _ _ shaped => by simp [unshaped] at shaped)
  | some shaper' =>
    have shaped : queue.isShaped = true := congrArg Option.isSome shaper
    dsimp only
    cases tagged : head.shape with
    | none => exact decides_free rfl (pacedBy_none fun _ _ found => by simp [tagged] at found)
    | some tag =>
      obtain ⟨row, expiresAt⟩ := tag
      dsimp only
      cases simple : head.item.isTerminal with
      | true => exact decides_free rfl (pacedBy_none fun _ _ _ _ _ _ plain => by simp [simple] at plain)
      | false =>
        rw [if_neg Bool.false_ne_true]
        by_cases old : expiresAt ≤ now
        · rw [if_pos old]
          have late : ¬ now < expiresAt := not_lt.mpr old
          cases expiry : shaper'.onExpiry with
          | deliver =>
            refine decides_free rfl (pacedBy_none fun tag index found _ _ _ _ => ?_)
            cases tagged.symm.trans found
            exact late
          | resetStream code =>
            have resets : queue.shaper.map Shaper.onExpiry = some (.resetStream code) := by
              rw [shaper]
              exact congrArg some expiry
            refine .replaces resets simple tagged old ?_ (sync_buckets ..)
            unfold ArmedQueue.expireHead ArmedQueue.clear ArmedQueue.armHead
            dsimp only
            rw [sync_queue]
        · rw [if_neg old]
          have young : now < expiresAt := Nat.lt_of_not_le old
          cases enabled with
          | false => exact decides_free rfl (pacedBy_none nofun)
          | true =>
            cases row with
            | default =>
              refine decides_free rfl (pacedBy_none fun tag index found rules _ _ _ => ?_)
              cases tagged.symm.trans found
              exact nomatch rules
            | unshapeable =>
              refine decides_free rfl (pacedBy_none fun tag index found rules _ _ _ => ?_)
              cases tagged.symm.trans found
              exact nomatch rules
            | rule index =>
              have settles := @acquire_settles scheduler state now configured index head.len
                (known shaped _ tagged index rfl)
              rcases asked : scheduler.acquire true state (.rule index) head.len now with ⟨answer, after⟩
              rw [asked] at settles
              rcases settles with ⟨granted, paid⟩ | ⟨refused, rested⟩
              · cases granted
                refine .lets rfl ?_
                have paced : queue.pacedBy true head now = some index :=
                  pacedBy_eq_some.mpr ⟨_, tagged, rfl, shaped, rfl, simple, young⟩
                rw [paced]
                exact paid
              · cases answer with
                | now => exact absurd rfl refused
                | later instant => exact decides_parked rested _ _ none
                | never => exact decides_parked rested _ _ none
                | largerThanBurst burstBytes unitBytes => exact decides_parked rested _ _ none
                | starved gate => exact decides_parked rested _ _ (some gate)

/-- Everything one pop can do to the units and to the buckets. -/
inductive Settles (scheduler : Scheduler) (enabled : Bool) (queue : ArmedQueue) (state : SchedState) (now : ℕ)
    (opened : ℕ → Bool) : Option Pending → ArmedQueue → SchedState → Prop
  | refuses {after : ArmedQueue} {reached : SchedState} (same : after.toPendingQueue = queue.toPendingQueue)
      (rested : Rested scheduler state reached now) :
      Settles scheduler enabled queue state now opened none after reached
  | goes {head : Pending} {rest : List Pending} {after : ArmedQueue} {reached : SchedState}
      (front : queue.q = head :: rest) (due : head.isDue now opened = true)
      (left : after.toPendingQueue = { queue.toPendingQueue with q := rest })
      (costs : Costs scheduler state reached head.len now (queue.pacedBy enabled head now)) :
      Settles scheduler enabled queue state now opened (some head) after reached
  | expires {code : ℕ} {after : ArmedQueue} {reached : SchedState} (expires : Expires queue now opened code)
      (left : after.toPendingQueue = { queue.toPendingQueue with q := [] }) (kept : reached.buckets = state.buckets) :
      Settles scheduler enabled queue state now opened (some (.terminal (.reset code) now)) after reached

theorem popNextDue_settles (configured : Configured scheduler)
    (known : queue.isShaped = true → ∀ unit ∈ queue.q, ∀ tag, unit.shape = some tag → tag.row.Known scheduler) :
    Settles scheduler enabled queue state now opened (queue.popNextDue scheduler enabled state now opened).1
      (queue.popNextDue scheduler enabled state now opened).2.1
      (queue.popNextDue scheduler enabled state now opened).2.2 := by
  unfold ArmedQueue.popNextDue
  cases front : queue.q with
  | nil => exact .refuses rfl (rested_of_same rfl)
  | cons head rest =>
    cases due : head.isDue now opened with
    | false =>
      rw [if_neg (by simp [due])]
      exact .refuses rfl (rested_of_same rfl)
    | true =>
      rw [if_pos (by simp [due])]
      dsimp only
      have asked : ({ queue with shapeGate := none, shapeParked := false } : ArmedQueue).q = head :: rest := front
      have decides := @shapingGrantsHead_decides scheduler enabled _ state now configured head rest asked
        fun shaped tag tagged => known shaped head (by simp [front]) tag tagged
      revert decides
      generalize ({ queue with shapeGate := none, shapeParked := false } : ArmedQueue).shapingGrantsHead
        scheduler enabled state now = answer
      obtain ⟨lets, after, reached⟩ := answer
      dsimp only
      intro decides
      cases decides with
      | refuses same rested => exact .refuses same rested
      | lets same costs =>
        have line : after.q = head :: rest := (congrArg PendingQueue.q same).trans front
        dsimp only
        rw [line]
        refine .goes front due ?_ ?_
        · rw [sync_queue]
          exact congrArg (fun queue : PendingQueue => { queue with q := rest }) same
        · exact costs.congr (sync_buckets ..)
      | @replaces after reached code tag resets simple tagged old same kept =>
        have line : after.q = [.terminal (.reset code) now] := congrArg PendingQueue.q same
        dsimp only
        rw [line]
        refine .expires ⟨resets, head, tag, by rw [front]; rfl, due, simple, tagged, old⟩ ?_ ?_
        · rw [sync_queue]
          exact congrArg (fun queue : PendingQueue => { queue with q := [] }) same
        · exact (sync_buckets ..).trans kept

/-! ## Runs -/

/-- A queue and the scheduler it shares, with every unit pushed so far as it was
queued, and what became of those that have left, in that order. -/
structure Served where
  queue : ArmedQueue
  state : SchedState
  opened : ℕ → Bool
  enabled : Bool
  clock : ℕ
  pushed : List Pending
  fates : List Fate

inductive ServeEvent
  | tagUnit (row : Class)
  | push (unit : Pending) (now : ℕ)
  | pop (now : ℕ)
  | takeReport
  /-- A call another queue makes of the scheduler. -/
  | other (call : Shape.Call)
  /-- A hook releases a gate. -/
  | opens (gate : ℕ)
  /-- Pacing is switched. -/
  | paces (enabled : Bool)

namespace Served

variable (scheduler : Scheduler) (served : Served)

def pop (now : ℕ) : Option Pending × ArmedQueue × SchedState :=
  served.queue.popNextDue scheduler served.enabled served.state now served.opened

/-- The front leaves with a pop, or everything queued where a reset is popped in its place. -/
def departing : Option Pending → List Fate
  | none => []
  | some unit =>
    if served.queue.q.head? = some unit then [.popped unit]
    else List.replicate served.queue.q.length (.replaced unit)

def after : ServeEvent → Served
  | .tagUnit row => { served with queue := served.queue.tagUnit row }
  | .push unit now =>
    let (queue, state) := served.queue.push scheduler served.state unit now
    { served with
      queue := queue
      state := state
      clock := now
      pushed := served.pushed ++ [served.queue.tagged unit now] }
  | .pop now =>
    let (popped, queue, state) := served.pop scheduler now
    { served with queue := queue, state := state, clock := now, fates := served.fates ++ served.departing popped }
  | .takeReport => { served with queue := served.queue.takeShapeReport.2 }
  | .other call => { served with state := (scheduler.step served.state call).2 }
  | .opens gate => { served with opened := Function.update served.opened gate true }
  | .paces enabled => { served with enabled := enabled }

end Served

/-- A fresh queue on a scheduler whose profile is valid. -/
def Opens (scheduler : Scheduler) (config : EgressConfig) (shaper : Option Shaper) (served : Served) : Prop :=
  (∃ buckets classes depth discipline,
    Shape.ShapeProfile.tryNew buckets classes depth discipline = .ok scheduler.profile) ∧
  ∃ created opened enabled clock,
    served =
      { queue := .new config shaper
        state := scheduler.build created
        opened := opened
        enabled := enabled
        clock := clock
        pushed := []
        fates := [] }

/-- Instants do not go back, and a queue is told of classes the profile has. -/
def Serves (scheduler : Scheduler) (served : Served) (event : ServeEvent) (served' : Served) : Prop :=
  (match event with
    | .push _ now => served.clock ≤ now
    | .pop now => served.clock ≤ now
    | .tagUnit row => row.Known scheduler
    | _ => True) ∧ served' = served.after scheduler event

/-- What has left is what was pushed, in order, and the queue is the rest of it. -/
structure InOrder (scheduler : Scheduler) (shaper : Option Shaper) (served : Served) : Prop where
  configured : Configured scheduler
  shaped : served.queue.shaper = shaper
  known : served.queue.unitClass.Known scheduler
  tags : served.queue.isShaped = true → ∀ unit ∈ served.pushed, ∀ tag, unit.shape = some tag → tag.row.Known scheduler
  line : served.queue.q = served.pushed.drop served.fates.length
  fated : served.fates.length ≤ served.pushed.length
  named : ∀ (n : ℕ) (unit : Pending), served.fates[n]? = some (.popped unit) → served.pushed[n]? = some unit
  replaced : ∀ (n : ℕ) (reset : Pending), served.fates[n]? = some (.replaced reset) →
    ∃ code instant, reset = .terminal (.reset code) instant ∧ shaper.map Shaper.onExpiry = some (.resetStream code)

variable {config : EgressConfig} {shaper : Option Shaper} {served served' : Served} {event : ServeEvent}

theorem opens_inOrder (opens : Opens scheduler config shaper served) : InOrder scheduler shaper served := by
  obtain ⟨⟨buckets, classes, depth, discipline, valid⟩, created, opened, enabled, clock, rfl⟩ := opens
  exact
    { configured := fun index known => Shape.tryNew_configured valid known
      shaped := rfl
      known := nofun
      tags := nofun
      line := rfl
      fated := le_rfl
      named := nofun
      replaced := nofun }

/-- A pop keeps the order where what leaves is the front of the queue. -/
theorem InOrder.departs (inOrder : InOrder scheduler shaper served) {queue : ArmedQueue} {left : List Fate}
    (same : queue.toPendingQueue = { served.queue.toPendingQueue with q := served.queue.q.drop left.length })
    (fits : left.length ≤ served.queue.q.length)
    (named : ∀ (n : ℕ) (unit : Pending), left[n]? = some (.popped unit) → served.queue.q[n]? = some unit)
    (replaced : ∀ (n : ℕ) (reset : Pending), left[n]? = some (.replaced reset) →
      ∃ code instant, reset = .terminal (.reset code) instant ∧
        shaper.map Shaper.onExpiry = some (.resetStream code)) (state : SchedState) (now : ℕ) :
    InOrder scheduler shaper
      { served with queue := queue, state := state, clock := now, fates := served.fates ++ left } := by
  have waiting : served.queue.q.length = served.pushed.length - served.fates.length := by
    rw [inOrder.line, List.length_drop]
  have fated := inOrder.fated
  constructor
  case configured => exact inOrder.configured
  case shaped => exact (congrArg PendingQueue.shaper same).trans inOrder.shaped
  case known =>
    have row : queue.unitClass = served.queue.unitClass := by rw [same]
    dsimp only
    rw [row]
    exact inOrder.known
  case tags =>
    have paced : queue.isShaped = served.queue.isShaped := by
      rw [same]
      rfl
    dsimp only
    rw [paced]
    exact inOrder.tags
  case line =>
    dsimp only
    rw [same, List.length_append, ← List.drop_drop, inOrder.line]
  case fated =>
    dsimp only
    rw [List.length_append]
    omega
  case named =>
    intro n unit found
    rcases Nat.lt_or_ge n served.fates.length with before | after
    · rw [List.getElem?_append_left before] at found
      exact inOrder.named n unit found
    · rw [List.getElem?_append_right after] at found
      have front := named _ unit found
      rw [inOrder.line, List.getElem?_drop, Nat.add_sub_cancel' after] at front
      exact front
  case replaced =>
    intro n reset found
    rcases Nat.lt_or_ge n served.fates.length with before | after
    · rw [List.getElem?_append_left before] at found
      exact inOrder.replaced n reset found
    · rw [List.getElem?_append_right after] at found
      exact replaced _ reset found

theorem InOrder.queued (inOrder : InOrder scheduler shaper served) :
    served.queue.isShaped = true →
      ∀ unit ∈ served.queue.q, ∀ tag, unit.shape = some tag → tag.row.Known scheduler := by
  intro shaped unit member
  rw [inOrder.line] at member
  exact inOrder.tags shaped unit (List.mem_of_mem_drop member)

theorem served_settles (inOrder : InOrder scheduler shaper served) (now : ℕ) :
    Settles scheduler served.enabled served.queue served.state now served.opened (served.pop scheduler now).1
      (served.pop scheduler now).2.1 (served.pop scheduler now).2.2 :=
  popNextDue_settles inOrder.configured inOrder.queued

theorem pop_inOrder (inOrder : InOrder scheduler shaper served) (now : ℕ) :
    InOrder scheduler shaper (served.after scheduler (.pop now)) := by
  have settles := served_settles inOrder now
  unfold Served.after
  dsimp only
  generalize served.pop scheduler now = outcome at settles ⊢
  obtain ⟨popped, queue, state⟩ := outcome
  dsimp only at settles ⊢
  cases settles with
  | refuses same rested =>
    have none : served.departing .none = [] := rfl
    rw [none]
    exact inOrder.departs same (Nat.zero_le _) (by simp) (by simp) state now
  | @goes head rest after reached front due left costs =>
    have leaves : served.departing (some head) = [.popped head] := if_pos (by rw [front, List.head?_cons])
    rw [leaves]
    refine inOrder.departs ?_ ?_ ?_ ?_ state now
    · rw [left, front]
      rfl
    · rw [front]
      exact Nat.le_add_left ..
    · intro n unit found
      rw [front]
      match n, found with
      | 0, found =>
        cases found
        rfl
    · intro n reset found
      match n, found with
      | 0, found => exact nomatch found
  | @expires code after reached expires left kept =>
    obtain ⟨head, tag, front, -, -, tagged, -⟩ := expires.front
    have other : served.queue.q.head? ≠ some (.terminal (.reset code) now) := by
      rw [front]
      rintro ⟨⟩
      cases tagged
    rw [Served.departing, if_neg other]
    refine inOrder.departs ?_ ?_ ?_ ?_ state now
    · rw [left, List.length_replicate, List.drop_length]
    · rw [List.length_replicate]
    · intro n unit found
      rw [List.getElem?_replicate] at found
      split_ifs at found
      exact nomatch found
    · intro n reset found
      rw [List.getElem?_replicate] at found
      split_ifs at found
      cases found
      have resets := expires.resets
      rw [inOrder.shaped] at resets
      exact ⟨code, now, rfl, resets⟩

theorem serves_inOrder (inOrder : InOrder scheduler shaper served) (serves : Serves scheduler served event served') :
    InOrder scheduler shaper served' := by
  obtain ⟨admits, rfl⟩ := serves
  cases event with
  | tagUnit row => exact { inOrder with known := admits }
  | push unit now =>
    have pushed := @push_queue scheduler served.queue served.state unit now
    unfold Served.after
    dsimp only
    generalize served.queue.push scheduler served.state unit now = reached at pushed ⊢
    obtain ⟨queue, state⟩ := reached
    dsimp only at pushed ⊢
    have paced : queue.isShaped = served.queue.isShaped := by
      rw [pushed]
      rfl
    constructor
    case configured => exact inOrder.configured
    case shaped =>
      dsimp only
      rw [pushed]
      exact inOrder.shaped
    case known =>
      dsimp only
      rw [pushed]
      exact inOrder.known
    case tags =>
      dsimp only
      rw [paced]
      intro shaped queued member tag tagged
      rcases List.mem_append.mp member with old | new
      · exact inOrder.tags shaped queued old tag tagged
      · have own : queued.shape = some { row := served.queue.unitClass, expiresAt := now + served.queue.shapeHold } := by
          rw [List.mem_singleton.mp new]
          exact congrArg Pending.shape (if_pos shaped)
        cases own.symm.trans tagged
        exact inOrder.known
    case line =>
      dsimp only
      rw [pushed, List.drop_append_of_le_length inOrder.fated, ← inOrder.line]
      rfl
    case fated =>
      dsimp only
      rw [List.length_append]
      exact inOrder.fated.trans (Nat.le_add_right ..)
    case named =>
      intro n popped found
      have left : n < served.fates.length := (List.getElem?_eq_some_iff.mp found).1
      dsimp only
      rw [List.getElem?_append_left (left.trans_le inOrder.fated)]
      exact inOrder.named n popped found
    case replaced => exact inOrder.replaced
  | pop now => exact pop_inOrder inOrder now
  | takeReport => exact { inOrder with }
  | other call => exact { inOrder with }
  | opens gate => exact { inOrder with }
  | paces enabled => exact { inOrder with }

theorem run_inOrder {history : List ServeEvent}
    (run : Run (Opens scheduler config shaper) (Serves scheduler) history served) :
    InOrder scheduler shaper served :=
  run.always (fun _ => opens_inOrder) fun _ _ _ => serves_inOrder

/-! ## Releases -/

/-- A pop of the queue at `now`, with the units and buckets it leaves. -/
structure PopSettled (scheduler : Scheduler) (served : Served) (now : ℕ) (popped : Option Pending)
    (reached : SchedState) : Prop where
  due : ∀ unit, popped = some unit → unit.dueAt ≤ now ∨ ∃ gate, unit.gate = some gate ∧ served.opened gate = true
  refused : popped = none → Rested scheduler served.state reached now
  /-- Paid for once, or too old to be held back, or of a class nothing is configured to hold back. -/
  paid : ∀ unit, popped = some unit → served.queue.isShaped = true → served.enabled = true →
    unit.item.isTerminal = false → ∀ tag index, unit.shape = some tag → tag.row = .rule index →
      Debited scheduler served.state reached index unit.len now ∨
      reached.buckets = served.state.buckets ∧ (tag.expiresAt ≤ now ∨ Unlimited scheduler index)
  free : ∀ unit, popped = some unit → served.queue.pacedBy served.enabled unit now = none →
    reached.buckets = served.state.buckets

/-- What the queue's own calls do to the scheduler's buckets. -/
def EventSettled (scheduler : Scheduler) (served : Served) (event : ServeEvent) : Prop :=
  match event with
  | .pop now => PopSettled scheduler served now (served.pop scheduler now).1 (served.pop scheduler now).2.2
  | .other _ => True
  | event => (served.after scheduler event).state.buckets = served.state.buckets

theorem pop_settled (inOrder : InOrder scheduler shaper served) (now : ℕ) :
    PopSettled scheduler served now (served.pop scheduler now).1 (served.pop scheduler now).2.2 := by
  have settles := served_settles inOrder now
  revert settles
  generalize served.pop scheduler now = outcome
  obtain ⟨popped, queue, reached⟩ := outcome
  dsimp only
  intro settles
  cases settles with
  | refuses same rested => exact ⟨nofun, fun _ => rested, nofun, nofun⟩
  | @goes head rest after reached front due left costs =>
    constructor
    case due =>
      rintro unit ⟨⟩
      rcases Bool.or_eq_true_iff.mp due with reached | released
      · exact .inl (of_decide_eq_true reached)
      · exact .inr ((Option.any_eq_true _ _).mp released)
    case refused => exact nofun
    case paid =>
      rintro unit ⟨⟩ shaped paced simple tag index tagged row
      by_cases old : tag.expiresAt ≤ now
      · have unpaced : served.queue.pacedBy served.enabled head now = none := by
          apply pacedBy_none
          intro other index found _ _ _ _
          cases tagged.symm.trans found
          exact not_lt.mpr old
        rw [unpaced] at costs
        exact .inr ⟨costs, .inl old⟩
      · rw [pacedBy_eq_some.mpr ⟨tag, tagged, row, shaped, paced, simple, Nat.lt_of_not_le old⟩] at costs
        rcases costs with debited | ⟨unlimited, kept⟩
        · exact .inl debited
        · exact .inr ⟨kept, .inr unlimited⟩
    case free =>
      rintro unit ⟨⟩ unpaced
      rw [unpaced] at costs
      exact costs
  | @expires code after reached expires left kept =>
    constructor
    case due =>
      rintro unit ⟨⟩
      exact .inl le_rfl
    case refused => exact nofun
    case paid =>
      rintro unit ⟨⟩ _ _ simple
      exact nomatch simple
    case free => exact fun _ _ _ => kept

/-- **Units leave in order, none before its time, and each is paid for once.** -/
theorem order_and_release {history : List ServeEvent}
    (run : Run (Opens scheduler config shaper) (Serves scheduler) history served) :
    (served.fates.length ≤ served.pushed.length ∧
      served.queue.q = served.pushed.drop served.fates.length ∧
      (∀ (n : ℕ) (unit : Pending), served.fates[n]? = some (.popped unit) → served.pushed[n]? = some unit) ∧
      ∀ (n : ℕ) (reset : Pending), served.fates[n]? = some (.replaced reset) →
        ∃ code instant, reset = .terminal (.reset code) instant ∧
          shaper.map Shaper.onExpiry = some (.resetStream code)) ∧
    ∀ event, EventSettled scheduler served event := by
  have inOrder := run_inOrder run
  refine ⟨⟨inOrder.fated, inOrder.line, inOrder.named, inOrder.replaced⟩, fun event => ?_⟩
  cases event with
  | tagUnit row => rfl
  | push unit now =>
    apply (sync_buckets ..).trans
    rfl
  | pop now => exact pop_settled inOrder now
  | takeReport => rfl
  | other call => trivial
  | opens gate => rfl
  | paces enabled => rfl

/-- One class, on a bucket of this rate. -/
def oneClass (rateBps : Option ℕ) : Scheduler :=
  { profile :=
      { buckets := [{ name := "media", rateBps := rateBps, burstBytes := 4 }]
        classes := [{ name := "video", bucket := "media" }]
        queue := {}
        discipline := .fifo }
    limit := 1000 }

/-- A byte of the class, queued at the start and younger than its clamp. -/
def queuedByte (rateBps : Option ℕ) : Served :=
  let start : Served :=
    { queue := .new { maxPendingBytes := 1, maxHold := 5 }
        (some { maxHold := some 3, onExpiry := .deliver, blockingDepth := none })
      state := (oneClass rateBps).build 0
      opened := fun _ => false
      enabled := true
      clock := 0
      pushed := []
      fates := [] }
  (start.after (oneClass rateBps) (.tagUnit (.rule 0))).after (oneClass rateBps) (.push (.bytes [7] 0) 0)

theorem queuedByte_runs (rateBps : Option ℕ) :
    Run (Opens (oneClass rateBps) { maxPendingBytes := 1, maxHold := 5 }
        (some { maxHold := some 3, onExpiry := .deliver, blockingDepth := none }))
      (Serves (oneClass rateBps)) [.push (.bytes [7] 0) 0, .tagUnit (.rule 0)] (queuedByte rateBps) := by
  have valid : Shape.ShapeProfile.tryNew (oneClass rateBps).profile.buckets (oneClass rateBps).profile.classes {} .fifo =
      .ok (oneClass rateBps).profile := rfl
  refine .step (.step (.start ⟨⟨_, _, _, _, valid⟩, 0, fun _ => false, true, 0, rfl⟩) ⟨?_, rfl⟩) ⟨le_rfl, rfl⟩
  rintro index ⟨⟩
  exact Nat.one_pos

/-- With a rate, the byte goes and is paid for. -/
theorem queuedByte_paid :
    ((queuedByte (some 1)).pop (oneClass (some 1)) 0).1.map Pending.len = some 1 ∧
      Debited (oneClass (some 1)) (queuedByte (some 1)).state
        ((queuedByte (some 1)).pop (oneClass (some 1)) 0).2.2 0 1 0 := by
  have settled := (order_and_release (queuedByte_runs (some 1))).2 (.pop 0)
  refine ⟨by decide, ?_⟩
  rcases settled.paid _ rfl rfl rfl rfl _ 0 rfl rfl with debited | ⟨-, old | ⟨bucket, config, charges, found, limited⟩⟩
  · exact debited
  · exact absurd old (by decide)
  · cases charges
    cases found
    exact nomatch limited

/-- Without a rate, the byte goes before its clamp and nothing is taken. -/
theorem unlimited_undebited :
    ∃ history served, Run (Opens (oneClass none) { maxPendingBytes := 1, maxHold := 5 }
        (some { maxHold := some 3, onExpiry := .deliver, blockingDepth := none }))
      (Serves (oneClass none)) history served ∧ served.queue.isShaped = true ∧ served.enabled = true ∧
      ∃ unit tag, (served.pop (oneClass none) 0).1 = some unit ∧ unit.item.isTerminal = false ∧
        unit.shape = some tag ∧ tag.row = .rule 0 ∧ ¬ tag.expiresAt ≤ 0 ∧
        ¬ Debited (oneClass none) served.state (served.pop (oneClass none) 0).2.2 0 unit.len 0 := by
  refine ⟨_, queuedByte none, queuedByte_runs none, rfl, rfl, _, _, rfl, rfl, rfl, rfl, by decide, ?_⟩
  rintro ⟨bucket, config, rate, charges, found, limited, -⟩
  cases charges
  cases found
  exact nomatch limited

end Moqtap.Egress
