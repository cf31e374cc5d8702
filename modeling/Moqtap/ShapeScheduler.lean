import Mathlib
import Moqtap.EgressQueue
import Moqtap.TokenBucket

/-!
The session-scoped shaper of `moqtap-proxy`: the profile as validated
(`shape/mod.rs`), the token buckets, the discipline that arbitrates between the
classes of one bucket, and the demand it arbitrates over (`shape/scheduler.rs`).

Tables indexed by class are functions of the index.  A gate is known by the
number of gates made before it.  Pacing can be switched off from outside, so
`acquire` takes the switch as it reads it.
-/

namespace Moqtap.Shape

open TokenBucket (BucketState)

/-! ## Profiles -/

inductive ProxySide
  | clientToProxy
  | proxyToRelay
  | relayToProxy
  | proxyToClient
  deriving DecidableEq, Repr

/-- Inclusive ranges, disjoint and ascending. -/
structure RangeSet where
  ranges : List (ℕ × ℕ)
  deriving DecidableEq, Repr

def RangeSet.isEmpty (set : RangeSet) : Bool := set.ranges.isEmpty

/-- What the profile's validation reads of a matcher. -/
structure Matcher where
  side : Option ProxySide := none
  trackAlias : Option RangeSet := none
  groupId : Option RangeSet := none
  subgroupId : Option RangeSet := none
  objectId : Option RangeSet := none
  priority : Option (ℕ × ℕ) := none
  everyNth : Option (ℕ × ℕ) := none
  deriving DecidableEq, Repr

/-- The key that can never match, as it is spelled on the matcher. -/
def Matcher.inertKey (matcher : Matcher) : Option String :=
  let emptySet (set : Option RangeSet) : Bool := set.any RangeSet.isEmpty
  if emptySet matcher.trackAlias then some "track_alias"
  else if emptySet matcher.groupId then some "group_id"
  else if emptySet matcher.subgroupId then some "subgroup_id"
  else if emptySet matcher.objectId then some "object_id"
  else if matcher.priority.any fun range => range.2 < range.1 then some "priority"
  else if matcher.everyNth.any fun nth => nth.1 = 0 then some "every_nth"
  else none

/-- No rate is an unlimited one. -/
structure BucketConfig where
  name : String
  rateBps : Option ℕ
  burstBytes : ℕ
  deriving DecidableEq, Repr

structure ClassRule where
  name : String
  matcher : Matcher := {}
  bucket : String
  priority : ℕ := 0
  weight : ℕ := 0
  deriving DecidableEq, Repr

structure QueueConfig where
  depthBytes : ℕ := 1024 * 1024
  depthObjects : ℕ := 256
  deriving DecidableEq, Repr

inductive Discipline
  | fifo
  | strictPriority
  | weightedRoundRobin
  deriving DecidableEq, Repr

inductive ShapeError
  | duplicateClassName (name : String)
  | unknownBucket (rule bucket : String)
  | egressSideInMatcher (rule : String)
  | zeroWeight (rule : String)
  | emptyQueue
  | noClasses
  | inertMatcher (rule key : String)
  deriving DecidableEq, Repr

structure ShapeProfile where
  buckets : List BucketConfig
  classes : List ClassRule
  queue : QueueConfig
  discipline : Discipline
  deriving DecidableEq, Repr

namespace ShapeProfile

/-- The loop of `try_new`, `seen` being the names so far. -/
def checkClasses (buckets : List BucketConfig) (discipline : Discipline) (seen : List String) :
    List ClassRule → Except ShapeError Unit
  | [] => .ok ()
  | rule :: rules =>
    if rule.name ∈ seen then .error (.duplicateClassName rule.name)
    else if !buckets.any (·.name = rule.bucket) then
      .error (.unknownBucket rule.name rule.bucket)
    else if rule.matcher.side = some .proxyToClient ∨ rule.matcher.side = some .proxyToRelay then
      .error (.egressSideInMatcher rule.name)
    else if discipline = .weightedRoundRobin ∧ rule.weight = 0 then .error (.zeroWeight rule.name)
    else
      match rule.matcher.inertKey with
      | some key => .error (.inertMatcher rule.name key)
      | none => checkClasses buckets discipline (rule.name :: seen) rules

def tryNew (buckets : List BucketConfig) (classes : List ClassRule) (queue : QueueConfig)
    (discipline : Discipline) : Except ShapeError ShapeProfile :=
  if queue.depthBytes = 0 ∨ queue.depthObjects = 0 then .error .emptyQueue
  else if classes.isEmpty then .error .noClasses
  else
    match checkClasses buckets discipline [] classes with
    | .error error => .error error
    | .ok () =>
      .ok { buckets := buckets, classes := classes, queue := queue, discipline := discipline }

end ShapeProfile

/-! ## The scheduler -/

/-- The gate a starved class waits on. -/
structure Gate where
  id : ℕ
  deriving DecidableEq, Repr

inductive Acquire
  | now
  | later (instant : ℕ)
  | never
  | largerThanBurst (burstBytes unitBytes : ℕ)
  | starved (gate : Gate)
  deriving DecidableEq, Repr

/-- The scheduler's mutable half, and the gates it has made. -/
structure SchedState where
  buckets : ℕ → BucketState
  demand : ℕ → ℕ
  credits : ℕ → ℕ
  parked : ℕ → Option Gate
  made : ℕ
  released : Gate → Bool

/-- What a scheduler is built with.  `limit` is where the platform's clock
ends. -/
structure Scheduler where
  profile : ShapeProfile
  limit : ℕ

namespace Scheduler

variable (scheduler : Scheduler)

/-- The bucket each class charges: the first of its name. -/
def classBucket (index : ℕ) : Option ℕ :=
  scheduler.profile.classes[index]?.map fun rule =>
    (scheduler.profile.buckets.findIdx? (·.name = rule.bucket)).getD 0

def weight (index : ℕ) : ℕ := (scheduler.profile.classes[index]?.map (·.weight)).getD 0

def priority (index : ℕ) : ℕ := (scheduler.profile.classes[index]?.map (·.priority)).getD 0

/-- Every bucket full as of `now`. -/
def build (now : ℕ) : SchedState :=
  { buckets := fun bucket =>
      .new ((scheduler.profile.buckets[bucket]?.map (·.burstBytes)).getD 0) now
    demand := fun _ => 0
    credits := scheduler.weight
    parked := fun _ => none
    made := 0
    released := fun _ => false }

/-- The classes of `bucket` but this one that hold something to send. -/
def rivals (state : SchedState) (index bucket : ℕ) : List ℕ :=
  (List.range scheduler.profile.classes.length).filter fun j =>
    j ≠ index ∧ scheduler.classBucket j = some bucket ∧ 0 < state.demand j

/-- Release every class parked on `bucket`. -/
def wakeBucket (state : SchedState) (bucket : ℕ) : SchedState :=
  { state with
    parked := fun j => if scheduler.classBucket j = some bucket then none else state.parked j
    released := fun gate =>
      state.released gate ||
        (List.range scheduler.profile.classes.length).any fun j =>
          scheduler.classBucket j = some bucket ∧ state.parked j = some gate }

/-- Every class of `bucket` has its weight of releases again. -/
def refillCredits (state : SchedState) (bucket : ℕ) : SchedState :=
  { state with
    credits := fun j =>
      if scheduler.classBucket j = some bucket then scheduler.weight j else state.credits j }

/-- One gate for as long as the class stays parked. -/
def park (state : SchedState) (index : ℕ) : Gate × SchedState :=
  match state.parked index with
  | some gate => (gate, state)
  | none =>
    (⟨state.made⟩,
      { state with
        parked := Function.update state.parked index (some ⟨state.made⟩)
        made := state.made + 1 })

/-- Whether the discipline holds the class back, and the gate to wait on. -/
def disciplineHolds (state : SchedState) (index bucket : ℕ) : Option Gate × SchedState :=
  let parked :=
    let (gate, state) := park state index
    (some gate, state)
  match scheduler.profile.discipline with
  | .fifo => (none, state)
  | .strictPriority =>
    if (scheduler.rivals state index bucket).any (scheduler.priority · > scheduler.priority index)
    then parked
    else (none, state)
  | .weightedRoundRobin =>
    if state.credits index > 0 then (none, state)
    else if (scheduler.rivals state index bucket).any (state.credits · > 0) then parked
    else (none, scheduler.wakeBucket (scheduler.refillCredits state bucket) bucket)

/-- A release comes off the class's credits under weighted round robin. -/
def spend (state : SchedState) (index : ℕ) : SchedState :=
  if scheduler.profile.discipline = .weightedRoundRobin then
    { state with credits := Function.update state.credits index (state.credits index - 1) }
  else state

/-- The bucket's answer to a class the discipline lets through. -/
def chargeBucket (state : SchedState) (index bucket bytes now : ℕ) : Acquire × SchedState :=
  match scheduler.profile.buckets[bucket]? with
  -- unreachable: `try_new` refuses a class that names no bucket
  | none => (.now, state)
  | some config =>
    let (grant, charged) :=
      TokenBucket.charge scheduler.limit (state.buckets bucket) config.rateBps config.burstBytes
        bytes now
    let state := { state with buckets := Function.update state.buckets bucket charged }
    match grant with
    | .now => (.now, scheduler.spend state index)
    | .later instant => (.later instant, state)
    | .never => (.never, state)
    | .largerThanBurst burstBytes unitBytes => (.largerThanBurst burstBytes unitBytes, state)

/-- Ask whether a unit of `row` may go at `now`.  The discipline is asked before
the bucket, whose debit is not refundable. -/
def acquire (enabled : Bool) (state : SchedState) (row : Egress.Class) (bytes now : ℕ) :
    Acquire × SchedState :=
  if !enabled then (.now, state)
  else
    match row with
    | .default => (.now, state)
    | .unshapeable => (.now, state)
    | .rule index =>
      match scheduler.classBucket index with
      | none => (.now, state)
      | some bucket =>
        match scheduler.disciplineHolds state index bucket with
        | (some gate, state) => (.starved gate, state)
        | (none, state) => scheduler.chargeBucket state index bucket bytes now

/-- One stream queue more holds an unreleased head of the class. -/
def declareDemand (state : SchedState) (row : Egress.Class) : SchedState :=
  match row with
  | .rule index =>
    if index < scheduler.profile.classes.length then
      { state with demand := Function.update state.demand index (state.demand index + 1) }
    else state
  | _ => state

/-- Undo one declaration, and wake whatever it was holding back. -/
def withdrawDemand (state : SchedState) (row : Egress.Class) : SchedState :=
  match row with
  | .rule index =>
    match scheduler.classBucket index with
    | none => state
    | some bucket =>
      scheduler.wakeBucket
        { state with demand := Function.update state.demand index (state.demand index - 1) } bucket
  | _ => state

end Scheduler

/-! ## Runs -/

/-- A call made of the scheduler by one of its queues. -/
inductive Call
  | declareDemand (row : Egress.Class)
  | withdrawDemand (row : Egress.Class)
  | acquire (row : Egress.Class) (bytes now : ℕ)
  deriving DecidableEq, Repr

namespace Scheduler

variable (scheduler : Scheduler)

/-- One call with pacing on: what `acquire` answers, and the state after. -/
def step (state : SchedState) : Call → Option Acquire × SchedState
  | .declareDemand row => (none, scheduler.declareDemand state row)
  | .withdrawDemand row => (none, scheduler.withdrawDemand state row)
  | .acquire row bytes now =>
    let (answer, state) := scheduler.acquire true state row bytes now
    (some answer, state)

/-- The state a run of calls ends in. -/
def after (state : SchedState) (calls : List Call) : SchedState :=
  calls.foldl (fun state call => (scheduler.step state call).2) state

end Scheduler

/-! ## A profile as validated -/

theorem checkClasses_rule {buckets : List BucketConfig} {discipline : Discipline} {seen : List String}
    {rules : List ClassRule} (checked : ShapeProfile.checkClasses buckets discipline seen rules = .ok ()) :
    ∀ rule ∈ rules, buckets.any (·.name = rule.bucket) ∧ (discipline = .weightedRoundRobin → 0 < rule.weight) := by
  induction rules generalizing seen with
  | nil => exact fun _ member => absurd member List.not_mem_nil
  | cons rule rules ih =>
    unfold ShapeProfile.checkClasses at checked
    split_ifs at checked with known named side weighed
    cases inert : rule.matcher.inertKey with
    | some key =>
      rw [inert] at checked
      exact nomatch checked
    | none =>
      rw [inert] at checked
      intro other member
      rcases List.mem_cons.mp member with rfl | later
      · exact ⟨by simpa using named, fun weighted => Nat.pos_of_ne_zero fun zero => weighed ⟨weighted, zero⟩⟩
      · exact ih checked other later

/-- The bucket a class charges is one of the profile's. -/
theorem checked_configured {scheduler : Scheduler} {seen : List String}
    (checked : ShapeProfile.checkClasses scheduler.profile.buckets scheduler.profile.discipline seen
      scheduler.profile.classes = .ok ())
    {index bucket : ℕ} (charges : scheduler.classBucket index = some bucket) :
    ∃ config, scheduler.profile.buckets[bucket]? = some config := by
  obtain ⟨rule, found, first⟩ := Option.map_eq_some_iff.mp charges
  obtain ⟨named, -⟩ := checkClasses_rule checked rule (List.mem_of_getElem? found)
  rw [← List.findIdx?_isSome] at named
  obtain ⟨place, placed⟩ := Option.isSome_iff_exists.mp named
  obtain ⟨bound, -, -⟩ := List.findIdx?_eq_some_iff_getElem.mp placed
  rw [placed, Option.getD_some] at first
  subst first
  exact ⟨_, List.getElem?_eq_getElem bound⟩

/-- Every class of a valid profile charges a bucket. -/
theorem tryNew_configured {scheduler : Scheduler} {buckets : List BucketConfig} {classes : List ClassRule}
    {queue : QueueConfig} {discipline : Discipline}
    (valid : ShapeProfile.tryNew buckets classes queue discipline = .ok scheduler.profile)
    {index : ℕ} (known : index < scheduler.profile.classes.length) :
    ∃ bucket config, scheduler.classBucket index = some bucket ∧
      scheduler.profile.buckets[bucket]? = some config := by
  obtain ⟨profile, limit⟩ := scheduler
  unfold ShapeProfile.tryNew at valid
  split_ifs at valid
  split at valid
  · exact nomatch valid
  rename_i checked
  cases valid
  have charges := congrArg (Option.map fun rule : ClassRule =>
    (buckets.findIdx? (·.name = rule.bucket)).getD 0) (List.getElem?_eq_getElem known)
  obtain ⟨config, configured⟩ := @checked_configured
    { profile := { buckets := buckets, classes := classes, queue := queue, discipline := discipline }, limit := limit }
    _ checked _ _ charges
  exact ⟨_, config, charges, configured⟩

end Moqtap.Shape
