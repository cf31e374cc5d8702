import Mathlib
import Moqtap.EgressArming
import Moqtap.Runs

/-!
Nothing is held past its ceiling, and no armed head wakes its stream for nothing.

A queue is pushed to and popped while other queues ask the same scheduler and
hooks open gates, at instants that do not go back.  What is queued is what was
pushed and has not left, in order (`Kept.line`), so every head is older than what
is behind it and a pop past its ceiling lets it go (`pop_late`): a run loses one
unit to each such pop (`run_departs`).
-/

namespace Moqtap.Egress

open Shape (Scheduler SchedState)
open Runs

/-! ## Deadlines -/

/-- A release deadline, and what `max_hold` made of the request. -/
structure Deferral where
  releaseAt : ℕ
  requested : ℕ
  applied : ℕ
  deriving DecidableEq, Repr

def deferBy (arrivedAt by' : ℕ) (config : EgressConfig) : Deferral :=
  let applied := min by' config.maxHold
  { releaseAt := arrivedAt + applied, requested := by', applied := applied }

def holdCeiling (arrivedAt : ℕ) (config : EgressConfig) : ℕ := arrivedAt + config.maxHold

/-- How the deadline of a unit pushed at `now` was made. -/
inductive Scheduled (config : EgressConfig) (now : ℕ) (unit : Pending) : Prop
  | delayed (arrivedAt by' : ℕ) (arrived : arrivedAt ≤ now)
      (due : unit.dueAt = (deferBy arrivedAt by' config).releaseAt)
  | held (arrivedAt : ℕ) (arrived : arrivedAt ≤ now) (due : unit.dueAt = holdCeiling arrivedAt config)
  | immediate (due : unit.dueAt ≤ now)

/-- No unit pushed at `pushedAt` waits longer than this. -/
def PendingQueue.ceiling (queue : PendingQueue) (pushedAt : ℕ) : ℕ :=
  pushedAt + max queue.config.maxHold queue.shapeHold

/-- The unit as `push` queues it. -/
def PendingQueue.tagged (queue : PendingQueue) (unit : Pending) (now : ℕ) : Pending :=
  if queue.isShaped then
    { unit with shape := some { row := queue.unitClass, expiresAt := now + queue.shapeHold } }
  else unit

/-! ## Runs -/

/-- What became of a unit that is no longer queued. -/
inductive Fate
  | popped (unit : Pending)
  | replaced (reset : Pending)
  deriving DecidableEq, Repr

/-- A queue and the scheduler it shares, with every unit pushed so far, when, and
what became of those that have left. -/
structure Paced where
  queue : ArmedQueue
  state : SchedState
  opened : ℕ → Bool
  clock : ℕ
  pushes : List (Pending × ℕ)
  fates : List Fate

inductive PaceEvent
  | tagUnit (row : Class)
  | push (unit : Pending) (now : ℕ)
  | pop (now : ℕ)
  /-- A call another queue makes of the scheduler. -/
  | other (call : Shape.Call)
  /-- A hook releases a gate. -/
  | opens (gate : ℕ)
  deriving DecidableEq, Repr

namespace Paced

/-- What leaves with one pop: the head, or everything queued where it expired. -/
def departing (paced : Paced) (popped : Option Pending) (report : Option ShapeReport) : List Fate :=
  match popped with
  | none => []
  | some unit =>
    if report = some .expired then List.replicate paced.queue.q.length (.replaced unit)
    else [.popped unit]

def after (scheduler : Scheduler) (paced : Paced) : PaceEvent → Paced
  | .tagUnit row => { paced with queue := paced.queue.tagUnit row }
  | .push unit now =>
    let (queue, state) := paced.queue.push scheduler paced.state unit now
    { paced with
      queue := queue
      state := state
      clock := now
      pushes := paced.pushes ++ [(paced.queue.tagged unit now, now)] }
  | .pop now =>
    let (popped, queue, state) := paced.queue.popNextDue scheduler true paced.state now paced.opened
    let (report, queue) := queue.takeShapeReport
    { paced with
      queue := queue
      state := state
      clock := now
      fates := paced.fates ++ paced.departing popped report }
  | .other call => { paced with state := (scheduler.step paced.state call).2 }
  | .opens gate => { paced with opened := Function.update paced.opened gate true }

end Paced

/-- A fresh queue on a scheduler with pacing on. -/
def Begins (scheduler : Scheduler) (config : EgressConfig) (shaper : Option Shaper) (paced : Paced) : Prop :=
  ∃ created opened clock,
    paced =
      { queue := .new config shaper
        state := scheduler.build created
        opened := opened
        clock := clock
        pushes := []
        fates := [] }

/-- Instants do not go back, and a unit is pushed with a deadline of its own. -/
def Admits (paced : Paced) : PaceEvent → Prop
  | .push unit now => paced.clock ≤ now ∧ Scheduled paced.queue.config now unit
  | .pop now => paced.clock ≤ now
  | _ => True

def Paces (scheduler : Scheduler) (paced : Paced) (event : PaceEvent) (paced' : Paced) : Prop :=
  Admits paced event ∧ paced' = paced.after scheduler event

/-- How many pops of a run come at `instant` or later. -/
def popsFrom (instant : ℕ) (events : List PaceEvent) : ℕ :=
  events.countP fun event =>
    match event with
    | .pop now => instant ≤ now
    | _ => false

/-- A gate nobody has released yet. -/
def Closed (state : SchedState) (opened : ℕ → Bool) : ReleaseGate → Prop
  | .hold gate => opened gate = false
  | .shape gate => state.released gate = false

/-! ## The invariant -/

structure Kept (config : EgressConfig) (shaper : Option Shaper) (paced : Paced) : Prop where
  configured : paced.queue.config = config
  shaped : paced.queue.shaper = shaper
  minted : Shape.Waking.Minted paced.state
  declared : paced.queue.Declared
  silent : paced.queue.shapeReport = none
  line : paced.queue.q = (paced.pushes.drop paced.fates.length).map Prod.fst
  fated : paced.fates.length ≤ paced.pushes.length
  /-- What was popped is what was pushed, and what was not went with a reset. -/
  named : ∀ (n : ℕ) (unit : Pending), paced.fates[n]? = some (.popped unit) →
    (paced.pushes[n]?).map Prod.fst = some unit
  abandoned : ∀ (n : ℕ) (reset : Pending), paced.fates[n]? = some (.replaced reset) →
    ∃ code, reset.item = .terminal (.reset code)
  ordered : paced.pushes.Pairwise fun earlier later => earlier.2 ≤ later.2
  timed : ∀ pushed ∈ paced.pushes, pushed.2 ≤ paced.clock ∧ pushed.1.dueAt ≤ pushed.2 + config.maxHold ∧
    (paced.queue.isShaped = true → ∃ tag, pushed.1.shape = some tag ∧
      tag.expiresAt = pushed.2 + paced.queue.shapeHold)
  /-- Only a head that is due is parked. -/
  parked : paced.queue.shapeParked = true →
    ∃ head rest, paced.queue.q = head :: rest ∧ head.isDue paced.clock paced.opened = true
  armed : paced.queue.shapeParked = false → paced.queue.headDeadline = paced.queue.q.head?.map Pending.dueAt
  awake : paced.queue.q ≠ [] → paced.queue.headDeadline.isSome = true

variable {scheduler : Scheduler} {config : EgressConfig} {shaper : Option Shaper} {paced paced' : Paced}
  {event : PaceEvent}

theorem begins_kept (begins : Begins scheduler config shaper paced) : Kept config shaper paced := by
  obtain ⟨created, opened, clock, rfl⟩ := begins
  exact
    { configured := rfl
      shaped := rfl
      minted := Shape.Waking.build_minted created
      declared := fun _ => rfl
      silent := rfl
      line := rfl
      fated := le_rfl
      named := nofun
      abandoned := nofun
      ordered := .nil
      timed := nofun
      parked := nofun
      armed := fun _ => rfl
      awake := fun some => absurd rfl some }

theorem isDue_mono {unit : Pending} {now later : ℕ} {opened opened' : ℕ → Bool} (onward : now ≤ later)
    (stays : ∀ gate, opened gate = true → opened' gate = true) (due : unit.isDue now opened = true) :
    unit.isDue later opened' = true := by
  unfold Pending.isDue at due ⊢
  rcases Bool.or_eq_true_iff.mp due with reached | released
  · have past : unit.dueAt ≤ later := (of_decide_eq_true reached).trans onward
    rw [decide_eq_true past, Bool.true_or]
  · cases held : unit.gate with
    | none =>
      rw [held] at released
      cases released
    | some gate =>
      rw [held] at released
      rw [Option.any_some, stays gate released, Bool.or_true]

theorem tagged_dueAt (queue : PendingQueue) (unit : Pending) (now : ℕ) :
    (queue.tagged unit now).dueAt = unit.dueAt := by
  unfold PendingQueue.tagged
  split
  · rfl
  · rfl

theorem scheduled_dueAt {unit : Pending} {now : ℕ} (scheduled : Scheduled config now unit) :
    unit.dueAt ≤ now + config.maxHold := by
  cases scheduled with
  | delayed arrivedAt by' arrived due =>
    have applied : min by' config.maxHold ≤ config.maxHold := min_le_right ..
    rw [due, deferBy]
    exact Nat.add_le_add arrived applied
  | held arrivedAt arrived due =>
    rw [due, holdCeiling]
    exact Nat.add_le_add_right arrived _
  | immediate due => exact due.trans (Nat.le_add_right ..)

theorem push_kept (kept : Kept config shaper paced) {unit : Pending} {now : ℕ}
    (admits : Admits paced (.push unit now)) :
    Kept config shaper (paced.after scheduler (.push unit now)) := by
  obtain ⟨onward, scheduled⟩ := admits
  rw [kept.configured] at scheduled
  obtain ⟨demand, pushed⟩ := @push_arms scheduler paced.queue paced.state unit now
  have declared := @push_declared scheduler paced.queue paced.state unit now
  have minted := @push_minted scheduler _ kept.minted paced.queue unit now
  unfold Paced.after
  dsimp only
  generalize paced.queue.push scheduler paced.state unit now = reached at pushed declared minted ⊢
  obtain ⟨queue, state⟩ := reached
  dsimp only at pushed declared minted ⊢
  have line : queue.q = paced.queue.q ++ [paced.queue.tagged unit now] := by
    rw [pushed]
    rfl
  constructor
  case configured => exact (congrArg (fun queue => queue.config) pushed).trans kept.configured
  case shaped => exact (congrArg (fun queue => queue.shaper) pushed).trans kept.shaped
  case minted => exact minted
  case declared => exact declared
  case silent => exact (congrArg ArmedQueue.shapeReport pushed).trans kept.silent
  case line =>
    rw [line, kept.line, List.drop_append_of_le_length kept.fated, List.map_append]
    rfl
  case fated =>
    rw [List.length_append]
    exact kept.fated.trans (Nat.le_add_right ..)
  case named =>
    intro n popped found
    have left : n < paced.fates.length := (List.getElem?_eq_some_iff.mp found).1
    rw [List.getElem?_append_left (left.trans_le kept.fated)]
    exact kept.named n popped found
  case abandoned => exact kept.abandoned
  case ordered =>
    refine List.pairwise_append.mpr ⟨kept.ordered, List.pairwise_singleton .., ?_⟩
    intro earlier old later new
    rw [List.mem_singleton.mp new]
    exact (kept.timed earlier old).1.trans onward
  case timed =>
    rw [pushed]
    intro unit' member
    rcases List.mem_append.mp member with old | new
    · obtain ⟨past, due, tagged⟩ := kept.timed unit' old
      exact ⟨past.trans onward, due, tagged⟩
    · rw [List.mem_singleton.mp new]
      refine ⟨le_rfl, ?_, fun shaped => ⟨_, congrArg Pending.shape (if_pos shaped), rfl⟩⟩
      rw [tagged_dueAt]
      exact scheduled_dueAt scheduled
  case parked =>
    intro parked
    rw [pushed] at parked
    obtain ⟨head, rest, front, due⟩ := kept.parked parked
    rw [line, front]
    exact ⟨head, _, rfl, isDue_mono onward (fun _ => id) due⟩
  case armed =>
    intro free
    rw [line]
    rw [pushed] at free ⊢
    cases front : paced.queue.q with
    | nil => exact congrArg some (tagged_dueAt ..).symm
    | cons head rest =>
      have armed := kept.armed free
      rw [front] at armed
      exact armed
  case awake =>
    intro _
    rw [pushed]
    cases front : paced.queue.q with
    | nil => rfl
    | cons head rest => exact kept.awake (by simp [front])

/-- A pop keeps the invariant where what leaves is the front of the queue. -/
theorem Kept.departs (kept : Kept config shaper paced) {now : ℕ} (onward : paced.clock ≤ now)
    {queue : ArmedQueue} {state : SchedState} {left : List Fate} (minted : Shape.Waking.Minted state)
    (declared : queue.Declared) (silent : queue.shapeReport = none)
    (configured : queue.config = paced.queue.config) (shaped : queue.shaper = paced.queue.shaper)
    (fits : left.length ≤ paced.queue.q.length) (line : queue.q = paced.queue.q.drop left.length)
    (named : ∀ (n : ℕ) (unit : Pending), left[n]? = some (.popped unit) → paced.queue.q[n]? = some unit)
    (abandoned : ∀ (n : ℕ) (reset : Pending), left[n]? = some (.replaced reset) →
      ∃ code, reset.item = .terminal (.reset code))
    (parked : queue.shapeParked = true →
      ∃ head rest, queue.q = head :: rest ∧ head.isDue now paced.opened = true)
    (armed : queue.shapeParked = false → queue.headDeadline = queue.q.head?.map Pending.dueAt)
    (awake : queue.q ≠ [] → queue.headDeadline.isSome = true) :
    Kept config shaper
      { paced with queue := queue, state := state, clock := now, fates := paced.fates ++ left } := by
  have remaining : paced.queue.q.length = paced.pushes.length - paced.fates.length := by
    rw [kept.line, List.length_map, List.length_drop]
  have fated := kept.fated
  constructor
  case configured => exact configured.trans kept.configured
  case shaped => exact shaped.trans kept.shaped
  case minted => exact minted
  case declared => exact declared
  case silent => exact silent
  case line =>
    dsimp only
    rw [line, kept.line, List.length_append, ← List.map_drop, List.drop_drop]
  case fated =>
    dsimp only
    rw [List.length_append]
    omega
  case named =>
    intro n unit found
    rcases Nat.lt_or_ge n paced.fates.length with before | now
    · rw [List.getElem?_append_left before] at found
      exact kept.named n unit found
    · rw [List.getElem?_append_right now] at found
      have front := named _ unit found
      rw [kept.line, List.getElem?_map, List.getElem?_drop, Nat.add_sub_cancel' now] at front
      exact front
  case abandoned =>
    intro n reset found
    rcases Nat.lt_or_ge n paced.fates.length with before | now
    · rw [List.getElem?_append_left before] at found
      exact kept.abandoned n reset found
    · rw [List.getElem?_append_right now] at found
      exact abandoned _ reset found
  case ordered => exact kept.ordered
  case timed =>
    intro pushed member
    obtain ⟨past, due, tagged⟩ := kept.timed pushed member
    refine ⟨past.trans onward, due, fun paces => ?_⟩
    have same : queue.isShaped = paced.queue.isShaped := congrArg Option.isSome shaped
    have holds : queue.shapeHold = paced.queue.shapeHold := by
      unfold PendingQueue.shapeHold
      rw [shaped, configured]
    dsimp only at paces ⊢
    rw [same] at paces
    rw [holds]
    exact tagged paces
  case parked => exact parked
  case armed => exact armed
  case awake => exact awake

theorem pop_kept (kept : Kept config shaper paced) {now : ℕ} (onward : Admits paced (.pop now)) :
    Kept config shaper (paced.after scheduler (.pop now)) := by
  have quiet : ({ paced.queue with shapeReport := none } : ArmedQueue) = paced.queue := by
    rw [← kept.silent]
  have stays : Kept config shaper
      { paced with
        queue := { paced.queue with shapeReport := none }
        clock := now
        fates := paced.fates ++ [] } := by
    rw [quiet]
    refine kept.departs onward kept.minted kept.declared kept.silent rfl rfl (Nat.zero_le _) rfl nofun nofun
      (fun parked => ?_) kept.armed kept.awake
    obtain ⟨head, rest, front, due⟩ := kept.parked parked
    exact ⟨head, rest, front, isDue_mono onward (fun _ => id) due⟩
  have pops := popNextDue_cases scheduler true paced.queue paced.state now paced.opened
  unfold Paced.after
  dsimp only
  generalize paced.queue.popNextDue scheduler true paced.state now paced.opened = answer at pops ⊢
  obtain ⟨popped, queue, state⟩ := answer
  dsimp only at pops ⊢
  unfold ArmedQueue.takeShapeReport Paced.departing
  cases pops with
  | idle empty => exact stays
  | waits front early => exact stays
  | parks front due shaped tagged simple young asked ahead clamped refused starved declared minted closed =>
    exact kept.departs onward (minted kept.minted) (fun _ => declared) rfl rfl rfl (Nat.zero_le _) rfl nofun
      nofun (fun _ => ⟨_, _, front, due⟩) nofun (fun _ => rfl)
  | @goes head rest report demand reached front due reported declared minted =>
    have unexpired : report ≠ some .expired := by
      intro expired
      have reported := reported expired
      rw [kept.silent] at reported
      cases reported
    dsimp only
    rw [if_neg unexpired]
    refine kept.departs onward (minted kept.minted) declared rfl rfl rfl ?_ ?_ ?_ ?_ nofun (fun _ => rfl) ?_
    · rw [front]
      exact Nat.succ_le_succ (Nat.zero_le _)
    · rw [front]
      rfl
    · intro n unit found
      rw [front]
      cases n with
      | zero =>
        cases found
        rfl
      | succ n => cases found
    · intro n reset found
      cases n with
      | zero => cases found
      | succ n => cases found
    · intro some
      cases rest with
      | nil => exact absurd rfl some
      | cons next rest => rfl
  | @expires head rest code tag demand reached front due tagged old declared minted =>
    dsimp only
    rw [if_pos rfl]
    refine kept.departs onward (minted kept.minted) declared rfl rfl rfl ?_ ?_ ?_ ?_ nofun (fun _ => rfl) ?_
    · rw [List.length_replicate]
    · rw [List.length_replicate, List.drop_length]
    · intro n unit found
      have same := List.eq_of_mem_replicate (List.mem_of_getElem? found)
      cases same
    · intro n reset found
      have same := List.eq_of_mem_replicate (List.mem_of_getElem? found)
      cases same
      exact ⟨code, rfl⟩
    · exact fun some => absurd rfl some

theorem step_kept (kept : Kept config shaper paced) (steps : Paces scheduler paced event paced') :
    Kept config shaper paced' := by
  obtain ⟨admits, rfl⟩ := steps
  cases event with
  | push unit now => exact push_kept kept admits
  | pop now => exact pop_kept kept admits
  | tagUnit row => exact { kept with }
  | other call => exact { kept with minted := Shape.Waking.step_minted kept.minted call }
  | opens gate =>
    refine { kept with parked := fun parked => ?_ }
    obtain ⟨head, rest, front, due⟩ := kept.parked parked
    refine ⟨head, rest, front, isDue_mono le_rfl (fun other released => ?_) due⟩
    by_cases same : other = gate
    · rw [same]
      exact Function.update_self ..
    · exact (Function.update_of_ne same ..).trans released

theorem run_kept {history : List PaceEvent}
    (run : Run (Begins scheduler config shaper) (Paces scheduler) history paced) :
    Kept config shaper paced :=
  run.always (fun _ begins => begins_kept begins) fun _ _ _ kept steps => step_kept kept steps

/-! ## One pop -/

/-- The head is the oldest unit that has not left. -/
theorem Kept.head (kept : Kept config shaper paced) {head : Pending} {rest : List Pending}
    (front : paced.queue.q = head :: rest) :
    ∃ pushedAt, paced.pushes[paced.fates.length]? = some (head, pushedAt) := by
  have line := kept.line
  rw [front] at line
  have first := congrArg List.head? line
  rw [List.head?_cons, List.head?_map, List.head?_drop] at first
  obtain ⟨⟨unit, pushedAt⟩, found, rfl⟩ := Option.map_eq_some_iff.mp first.symm
  exact ⟨pushedAt, found⟩

/-- What an unshaped or a shaped head is bounded by. -/
theorem Kept.bounds (kept : Kept config shaper paced) {n pushedAt : ℕ} {unit : Pending}
    (found : paced.pushes[n]? = some (unit, pushedAt)) :
    pushedAt ≤ paced.clock ∧ unit.dueAt ≤ paced.queue.ceiling pushedAt ∧
      (paced.queue.isShaped = true → ∀ tag, unit.shape = some tag →
        tag.expiresAt ≤ paced.queue.ceiling pushedAt) := by
  obtain ⟨past, due, tagged⟩ := kept.timed _ (List.mem_of_getElem? found)
  have configured := kept.configured
  have longer := le_max_left config.maxHold paced.queue.shapeHold
  have clamp := le_max_right config.maxHold paced.queue.shapeHold
  unfold PendingQueue.ceiling
  rw [configured]
  dsimp only at due tagged
  refine ⟨past, by omega, fun shaped tag carried => ?_⟩
  obtain ⟨own, carries, expires⟩ := tagged shaped
  rw [carried] at carries
  cases carries
  omega

/-- A pop that comes after the head's ceiling lets it go. -/
theorem pop_late (kept : Kept config shaper paced) {now pushedAt : ℕ} {head : Pending}
    (found : paced.pushes[paced.fates.length]? = some (head, pushedAt))
    (late : paced.queue.ceiling pushedAt ≤ now) :
    paced.fates.length < (paced.after scheduler (.pop now)).fates.length := by
  obtain ⟨-, due, clamp⟩ := kept.bounds found
  have front : ∃ rest, paced.queue.q = head :: rest := by
    rw [kept.line]
    obtain ⟨queued, same⟩ := List.getElem?_eq_some_iff.mp found
    rw [List.drop_eq_getElem_cons queued, List.map_cons, same]
    exact ⟨_, rfl⟩
  obtain ⟨rest, front⟩ := front
  have pops := popNextDue_cases scheduler true paced.queue paced.state now paced.opened
  unfold Paced.after
  dsimp only
  generalize paced.queue.popNextDue scheduler true paced.state now paced.opened = answer at pops ⊢
  obtain ⟨popped, queue, state⟩ := answer
  dsimp only at pops ⊢
  rw [List.length_append]
  unfold Paced.departing ArmedQueue.takeShapeReport
  cases pops with
  | idle empty =>
    rw [front] at empty
    cases empty
  | waits front' early =>
    rw [front] at front'
    cases front'
    unfold Pending.isDue at early
    rw [decide_eq_true (due.trans late), Bool.true_or] at early
    cases early
  | parks front' _ shaped tagged _ young =>
    rw [front] at front'
    cases front'
    exact absurd (clamp shaped _ tagged) (by omega)
  | goes =>
    dsimp only
    split
    · rw [front, List.length_replicate, List.length_cons]
      omega
    · exact Nat.lt_succ_self _
  | expires =>
    dsimp only
    rw [if_pos rfl, front, List.length_replicate, List.length_cons]
    omega

/-- What a pop that lets nothing go has armed. -/
theorem pop_refused (kept : Kept config shaper paced) {now : ℕ} (onward : paced.clock ≤ now)
    {queue : ArmedQueue} {state : SchedState}
    (refused : paced.queue.popNextDue scheduler true paced.state now paced.opened = (none, queue, state))
    {head : Pending} {rest : List Pending} (front : queue.q = head :: rest) :
    ∃ pushedAt release, paced.pushes[paced.fates.length]? = some (head, pushedAt) ∧
      queue.headRelease = some release ∧ now < release.deadline ∧
      release.deadline ≤ paced.queue.ceiling pushedAt ∧
      ∀ gate, release.gate = some gate → Closed state paced.opened gate := by
  have pops := popNextDue_cases scheduler true paced.queue paced.state now paced.opened
  rw [refused] at pops
  dsimp only at pops
  cases pops with
  | idle empty =>
    rw [front] at empty
    cases empty
  | waits front' early =>
    rw [front] at front'
    cases front'
    obtain ⟨pushedAt, found⟩ := kept.head front
    obtain ⟨-, due, -⟩ := kept.bounds found
    obtain ⟨later, shut⟩ := Bool.or_eq_false_iff.mp early
    have free : paced.queue.shapeParked = false := by
      apply Bool.eq_false_iff.mpr
      intro parked
      obtain ⟨head', rest', front', ready⟩ := kept.parked parked
      rw [front] at front'
      cases front'
      exact absurd (isDue_mono onward (fun _ => id) ready) (by rw [early]; exact Bool.false_ne_true)
    refine ⟨pushedAt, { deadline := head.dueAt, gate := head.gate.map .hold }, found, ?_,
      Nat.lt_of_not_le (of_decide_eq_false later), due, ?_⟩
    · have armed := kept.armed free
      unfold ArmedQueue.headRelease
      rw [armed, front, free]
      rfl
    · intro gate named
      obtain ⟨held, carries, rfl⟩ := Option.map_eq_some_iff.mp named
      rw [carries] at shut
      exact shut
  | @parks head' rest' tag instant gate report demand answer after reached front' due shaped tagged simple
      young asked ahead clamped answered starved declared minted closed =>
    rw [front] at front'
    cases front'
    obtain ⟨pushedAt, found⟩ := kept.head front
    obtain ⟨-, -, clamp⟩ := kept.bounds found
    refine ⟨pushedAt, { deadline := instant, gate := gate.map .shape }, found, ?_, ahead,
      clamped.trans (clamp shaped tag tagged), ?_⟩
    · unfold ArmedQueue.headRelease
      rw [front]
      rfl
    · intro named carries
      obtain ⟨held, carried, rfl⟩ := Option.map_eq_some_iff.mp carries
      exact closed kept.declared kept.minted held carried

/-! ## Runs of pops -/

theorem after_grows (event : PaceEvent) :
    paced.pushes <+: (paced.after scheduler event).pushes ∧
      paced.fates.length ≤ (paced.after scheduler event).fates.length := by
  cases event with
  | tagUnit row => exact ⟨List.prefix_rfl, le_rfl⟩
  | push unit now => exact ⟨List.prefix_append .., le_rfl⟩
  | pop now =>
    refine ⟨List.prefix_rfl, ?_⟩
    unfold Paced.after
    dsimp only
    rw [List.length_append]
    exact Nat.le_add_right ..
  | other call => exact ⟨List.prefix_rfl, le_rfl⟩
  | opens gate => exact ⟨List.prefix_rfl, le_rfl⟩

/-- The ceiling is the queue's for the whole run. -/
theorem Kept.same_ceiling (kept : Kept config shaper paced) (kept' : Kept config shaper paced') (pushedAt : ℕ) :
    paced'.queue.ceiling pushedAt = paced.queue.ceiling pushedAt := by
  unfold PendingQueue.ceiling PendingQueue.shapeHold
  rw [kept.configured, kept'.configured, kept.shaped, kept'.shaped]

theorem popsFrom_cons (instant : ℕ) (event : PaceEvent) (events : List PaceEvent) :
    popsFrom instant (event :: events) = popsFrom instant events ∨
      ∃ now, event = .pop now ∧ instant ≤ now ∧
        popsFrom instant (event :: events) = popsFrom instant events + 1 := by
  unfold popsFrom
  cases event with
  | pop now =>
    by_cases late : instant ≤ now
    · exact .inr ⟨now, rfl, late, by simp [late]⟩
    · exact .inl (by simp [late])
  | tagUnit row => exact .inl (by simp)
  | push unit now => exact .inl (by simp)
  | other call => exact .inl (by simp)
  | opens gate => exact .inl (by simp)

/-- The head is no younger than a unit behind it, so its ceiling is past too. -/
theorem pop_ahead (kept : Kept config shaper paced) {n pushedAt now : ℕ} {unit : Pending}
    (found : paced.pushes[n]? = some (unit, pushedAt)) (queued : paced.fates.length ≤ n)
    (late : paced.queue.ceiling pushedAt ≤ now) :
    paced.fates.length < (paced.after scheduler (.pop now)).fates.length := by
  obtain ⟨inside, same⟩ := List.getElem?_eq_some_iff.mp found
  have within : paced.fates.length < paced.pushes.length := queued.trans_lt inside
  have older : paced.pushes[paced.fates.length].2 ≤ pushedAt := by
    rcases Nat.eq_or_lt_of_le queued with own | ahead
    · subst own
      rw [same]
    · have ordered := List.pairwise_iff_getElem.mp kept.ordered _ _ within inside ahead
      rw [same] at ordered
      exact ordered
  apply pop_late kept (List.getElem?_eq_getElem within)
  exact (Nat.add_le_add_right older _).trans late

/-- As long as a unit is queued, every pop past its ceiling takes one from in front
of it. -/
theorem run_departs (kept : Kept config shaper paced) {n pushedAt : ℕ} {unit : Pending}
    (found : paced.pushes[n]? = some (unit, pushedAt)) {later : List PaceEvent}
    (run : Run (· = paced) (Paces scheduler) later paced') :
    Kept config shaper paced' ∧ paced'.pushes[n]? = some (unit, pushedAt) ∧
      (n < paced'.fates.length ∨
        paced.fates.length + popsFrom (paced.queue.ceiling pushedAt) later ≤ paced'.fates.length) := by
  induction run with
  | start first =>
    rw [first]
    exact ⟨kept, found, .inr le_rfl⟩
  | @step events middle last event run steps ih =>
    obtain ⟨keeps, still, gone⟩ := ih
    have keeps' := step_kept keeps steps
    obtain ⟨admits, rfl⟩ := steps
    obtain ⟨pushes, fates⟩ := @after_grows scheduler middle event
    have kept' : (middle.after scheduler event).pushes[n]? = some (unit, pushedAt) := by
      obtain ⟨inside, same⟩ := List.getElem?_eq_some_iff.mp still
      obtain ⟨rest, grown⟩ := pushes
      rw [← grown, List.getElem?_append_left inside]
      exact still
    refine ⟨keeps', kept', ?_⟩
    rcases gone with gone | counted
    · exact .inl (gone.trans_le fates)
    rcases popsFrom_cons (paced.queue.ceiling pushedAt) event events with uncounted | ⟨now, rfl, late, counts⟩
    · rw [uncounted]
      exact .inr (counted.trans fates)
    · rcases Nat.lt_or_ge n middle.fates.length with before | queued
      · exact .inl (before.trans_le fates)
      · rw [← kept.same_ceiling keeps] at late
        have lets := @pop_ahead scheduler _ _ _ keeps _ _ _ _ still queued late
        exact .inr (by omega)

/-- A unit past its ceiling, with a pop for each unit in front of it and one for itself. -/
theorem run_leaves (kept : Kept config shaper paced) {n pushedAt : ℕ} {unit : Pending}
    (found : paced.pushes[n]? = some (unit, pushedAt)) {later : List PaceEvent}
    (run : Run (· = paced) (Paces scheduler) later paced')
    (enough : n < paced.fates.length + popsFrom (paced.queue.ceiling pushedAt) later) :
    paced'.fates[n]? = some (.popped unit) ∨
      ∃ reset code, paced'.fates[n]? = some (.replaced reset) ∧ reset.item = .terminal (.reset code) := by
  obtain ⟨kept', still, departed⟩ := run_departs kept found run
  have gone : n < paced'.fates.length := by omega
  cases fate : paced'.fates[n] with
  | popped other =>
    have known : paced'.fates[n]? = some (.popped other) := by rw [List.getElem?_eq_getElem gone, fate]
    have named := kept'.named n other known
    rw [still] at named
    cases named
    exact .inl known
  | replaced reset =>
    have known : paced'.fates[n]? = some (.replaced reset) := by rw [List.getElem?_eq_getElem gone, fate]
    obtain ⟨code, item⟩ := kept'.abandoned n reset known
    exact .inr ⟨reset, code, known, item⟩

/-- A full queue holds something, so something is armed. -/
theorem full_armed (kept : Kept config shaper paced) (bytes : 0 < config.maxPendingBytes)
    (depth : ∀ limit, shaper.bind Shaper.blockingDepth = some limit → 0 < limit.bytes ∧ 0 < limit.objects)
    (full : paced.queue.acceptsMore = false) : paced.queue.headRelease.isSome = true := by
  have waiting : paced.queue.q ≠ [] := by
    intro empty
    unfold PendingQueue.acceptsMore PendingQueue.queuedBytes PendingQueue.len at full
    rw [empty, kept.configured, kept.shaped] at full
    cases limits : shaper.bind Shaper.blockingDepth with
    | none => simp [limits, bytes, maxPendingUnits] at full
    | some limit =>
      obtain ⟨some, slots⟩ := depth limit limits
      simp [limits, bytes, maxPendingUnits, some, slots] at full
  have armed := kept.awake waiting
  unfold ArmedQueue.headRelease
  cases front : paced.queue.q with
  | nil => exact absurd front waiting
  | cons head rest =>
    obtain ⟨deadline, found⟩ := Option.isSome_iff_exists.mp armed
    rw [found]
    rfl

/-- **Nothing is held past its ceiling and nothing spins.** -/
theorem ceilings_kept {history : List PaceEvent} (bytes : 0 < config.maxPendingBytes)
    (depth : ∀ limit, shaper.bind Shaper.blockingDepth = some limit → 0 < limit.bytes ∧ 0 < limit.objects)
    (run : Run (Begins scheduler config shaper) (Paces scheduler) history paced) :
    (∀ (n pushedAt : ℕ) (unit : Pending), paced.pushes[n]? = some (unit, pushedAt) →
      ∀ (later : List PaceEvent) (paced' : Paced), Run (· = paced) (Paces scheduler) later paced' →
        n < paced.fates.length + popsFrom (paced.queue.ceiling pushedAt) later →
          paced'.fates[n]? = some (.popped unit) ∨
            ∃ reset code, paced'.fates[n]? = some (.replaced reset) ∧
              reset.item = .terminal (.reset code)) ∧
    (paced.queue.acceptsMore = false → paced.queue.headRelease.isSome = true) ∧
    (∀ (now : ℕ) (queue : ArmedQueue) (state : SchedState), paced.clock ≤ now →
      paced.queue.popNextDue scheduler true paced.state now paced.opened = (none, queue, state) →
      ∀ (head : Pending) (rest : List Pending), queue.q = head :: rest →
        ∃ pushedAt release, paced.pushes[paced.fates.length]? = some (head, pushedAt) ∧
          queue.headRelease = some release ∧ now < release.deadline ∧
          release.deadline ≤ paced.queue.ceiling pushedAt ∧
          ∀ gate, release.gate = some gate → Closed state paced.opened gate) := by
  have kept := run_kept run
  refine ⟨?_, full_armed kept bytes depth, ?_⟩
  · intro n pushedAt unit found later paced' continued enough
    exact run_leaves kept found continued enough
  · intro now queue state onward refused head rest front
    exact pop_refused kept onward refused front

/-- A class whose bucket never holds anything. -/
def stoppedClass : Scheduler :=
  { profile :=
      { buckets := [{ name := "media", rateBps := some 0, burstBytes := 0 }]
        classes := [{ name := "video", bucket := "media" }]
        queue := {}
        discipline := .fifo }
    limit := 1000 }

/-- One byte of it, queued at the start. -/
def stoppedByte : Paced :=
  let start : Paced :=
    { queue := .new { maxPendingBytes := 1, maxHold := 5 }
        (some { maxHold := some 3, onExpiry := .deliver, blockingDepth := some { objects := 1, bytes := 1 } })
      state := stoppedClass.build 0
      opened := fun _ => false
      clock := 0
      pushes := []
      fates := [] }
  (start.after stoppedClass (.tagUnit (.rule 0))).after stoppedClass (.push (.bytes [7] 0) 0)

/-- The byte is refused and waits for its clamp, and has left once its ceiling is past. -/
theorem stoppedByte_leaves :
    (∃ release, (stoppedByte.queue.popNextDue stoppedClass true stoppedByte.state 0 stoppedByte.opened).2.1.headRelease =
      some release ∧ 0 < release.deadline ∧ release.deadline ≤ 5) ∧
    stoppedByte.queue.acceptsMore = false ∧ stoppedByte.queue.headRelease.isSome = true ∧
    ∃ fate, (stoppedByte.after stoppedClass (.pop 5)).fates[0]? = some fate := by
  have run : Run (Begins stoppedClass { maxPendingBytes := 1, maxHold := 5 }
      (some { maxHold := some 3, onExpiry := .deliver, blockingDepth := some { objects := 1, bytes := 1 } }))
      (Paces stoppedClass) [.push (.bytes [7] 0) 0, .tagUnit (.rule 0)] stoppedByte :=
    .step (.step (.start ⟨0, fun _ => false, 0, rfl⟩) ⟨trivial, rfl⟩) ⟨⟨le_rfl, .immediate le_rfl⟩, rfl⟩
  obtain ⟨leaves, armed, refused⟩ := ceilings_kept (by decide) (by rintro limit ⟨⟩; decide) run
  have full : stoppedByte.queue.acceptsMore = false := by decide
  obtain ⟨pushedAt, release, found, waits, ahead, clamped, -⟩ := refused 0 _ _ le_rfl rfl _ _ rfl
  cases found
  refine ⟨⟨release, waits, ahead, clamped⟩, full, armed full, ?_⟩
  have popped : Run (· = stoppedByte) (Paces stoppedClass) [.pop 5] (stoppedByte.after stoppedClass (.pop 5)) :=
    .step (.start rfl) ⟨Nat.zero_le 5, rfl⟩
  rcases leaves 0 0 _ rfl _ _ popped (by decide) with popped | ⟨reset, code, replaced, -⟩
  · exact ⟨_, popped⟩
  · exact ⟨_, replaced⟩

end Moqtap.Egress
