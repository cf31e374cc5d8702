import Mathlib
import Moqtap.Pcg32

/-!
The impairment models of `quinn-netem`: ticks, probabilities, the delay
sampler, the byte bucket and the bounded byte queue, and the profiles a
direction is armed with (`lib.rs`, `model.rs`, `dist/mod.rs`, `queue.rs`,
`profile.rs`).

Integers are natural numbers, saturated where the code saturates.  The three
distribution tables are a parameter (`DistTables`).
-/

namespace Moqtap.Netem

/-! ## Ticks

A tick is a number of nanoseconds since the profile was armed. -/

/-- `u64::MAX`, where tick arithmetic saturates. -/
def u64Max : ℕ := 2 ^ 64 - 1

/-- `Tick::saturating_add_ns`. -/
def saturatingAddNs (tick ns : ℕ) : ℕ := min (tick + ns) u64Max

/-- `Tick::since`. -/
def since (tick earlier : ℕ) : ℕ := tick - earlier

/-- `div_ceil`. -/
def divCeil (value by_ : ℕ) : ℕ := (by_ - 1 + value) / by_

theorem divCeil_eq (value by_ : ℕ) : divCeil value by_ = value ⌈/⌉ by_ := by
  rw [divCeil, Nat.ceilDiv_eq_add_pred_div]
  rcases Nat.eq_zero_or_pos by_ with rfl | positive
  · rw [Nat.div_zero, Nat.div_zero]
  · congr 1
    omega

/-- Nano-bytes per byte. -/
def nano : ℕ := 1000000000

/-! ## The byte bucket -/

/-- What the bucket says about one datagram. -/
inductive RateGrant
  | now
  | later (at_ : ℕ)
  | never
  deriving DecidableEq, Repr

/-- Nano-bytes spent out of the burst and not yet refilled, as of `last`. -/
structure BucketState where
  deficit : ℕ := 0
  last : ℕ := 0
  deriving DecidableEq, Repr

namespace BucketState

/-- Take `bytes` for a datagram scheduled at a `later` tick. -/
def reserve (state : BucketState) (bytes : UInt32) : BucketState :=
  { state with deficit := state.deficit + nano * bytes.toNat }

/-- The refill at the head of `charge`. -/
def refilled (state : BucketState) (rateBps : ℕ) (now : ℕ) : BucketState :=
  if since now state.last > 0 then
    { deficit := state.deficit - since now state.last * rateBps, last := now }
  else state

/-- How long the bucket takes to hold enough, before any saturation. -/
def waitNs (state : BucketState) (rateBps burstBytes : ℕ) (bytes : UInt32) : ℕ :=
  divCeil (state.deficit - (nano * burstBytes - nano * bytes.toNat)) rateBps

end BucketState

/-- Charge `bytes` against the bucket at `now`. -/
def charge (state : BucketState) (rateBps burstBytes : ℕ) (bytes : UInt32) (now : ℕ) :
    RateGrant × BucketState :=
  let state := state.refilled rateBps now
  let cap := nano * burstBytes
  let need := nano * bytes.toNat
  let held := cap - state.deficit
  if held ≥ need then (.now, { state with deficit := state.deficit + need })
  else if rateBps = 0 ∨ need > cap then (.never, state)
  else
    let waitNs := min (state.waitNs rateBps burstBytes bytes) u64Max
    (.later (saturatingAddNs state.last waitNs), state)

/-! ## The bounded byte queue -/

/-- What the queue says about one datagram. -/
inductive Admission
  | queued
  | tailDropped
  | neverFits
  deriving DecidableEq, Repr

/-- Occupancy in nano-bytes, as of `last`. -/
structure QueueState where
  backlog : ℕ := 0
  last : ℕ := 0
  deriving DecidableEq, Repr

namespace QueueState

/-- On-wire bytes queued, rounded up. -/
def backlogBytes (state : QueueState) : ℕ := min (divCeil state.backlog nano) u64Max

/-- Take back the occupancy of a datagram the bucket refused for good. -/
def withdraw (state : QueueState) (bytes : UInt32) : QueueState :=
  { state with backlog := state.backlog - nano * bytes.toNat }

/-- The drain at the head of `offer`. -/
def drained (state : QueueState) (rateBps : ℕ) (now : ℕ) : QueueState :=
  if since now state.last > 0 then
    { backlog := state.backlog - since now state.last * rateBps, last := now }
  else state

end QueueState

/-- Offer `bytes` to the queue at `now`. -/
def offer (state : QueueState) (rateBps thresholdBytes : ℕ) (bytes : UInt32) (now : ℕ) :
    Admission × QueueState :=
  let state := state.drained rateBps now
  let cap := nano * thresholdBytes
  let need := nano * bytes.toNat
  if need > cap then (.neverFits, state)
  else if state.backlog + need > cap then (.tailDropped, state)
  else (.queued, { state with backlog := state.backlog + need })

/-! ## Delay samples -/

/-- `i64::MAX`. -/
def i64Max : ℤ := 2 ^ 63 - 1

/-- `i64` saturation. -/
def saturatingI64 (value : ℤ) : ℤ := max (-2 ^ 63) (min value i64Max)

/-- `u64` nanoseconds as `i64`. -/
def saturatingNs (ns : ℕ) : ℤ := min (ns : ℤ) i64Max

def tableScale : ℤ := 8192

def tableLen : ℕ := 4096

/-- A table of scaled quantiles, `[i16; TABLE_LEN]`. -/
abbrev DistTable := Fin tableLen → ℤ

/-- The three committed tables of `dist/tables.rs`. -/
structure DistTables where
  normal : DistTable
  pareto : DistTable
  paretonormal : DistTable

/-- Tables of nothing but zeros. -/
def flatTables : DistTables :=
  { normal := fun _ => 0, pareto := fun _ => 0, paretonormal := fun _ => 0 }

/-- One delay sample: `muNs` displaced by `sigmaNs` worth of `dist`. -/
def tabledist (muNs sigmaNs : ℤ) (rnd : UInt32) (dist : Option DistTable) : ℤ :=
  if sigmaNs ≤ 0 then muNs
  else
    match dist with
    | none =>
      let span := saturatingI64 (sigmaNs * 2)
      saturatingI64 (saturatingI64 ((rnd.toNat : ℤ).tmod span + muNs) - sigmaNs)
    | some table =>
      let t := table ⟨rnd.toNat % tableLen, Nat.mod_lt _ (by decide)⟩
      let x := sigmaNs.tmod tableScale * t
      let x := x + if x ≥ 0 then tableScale / 2 else -(tableScale / 2)
      saturatingI64
        (saturatingI64 (x.tdiv tableScale + saturatingI64 (sigmaNs.tdiv tableScale * t)) + muNs)

/-- The state of the correlation filter. -/
structure CorrState where
  last : UInt32 := 0
  deriving DecidableEq, Repr

/-- One correlated draw. -/
def crandom (state : CorrState) (rho : UInt8) (draw : UInt32) : UInt32 × CorrState :=
  let next := UInt32.ofNat
    ((draw.toNat * (256 - rho.toNat) + state.last.toNat * rho.toNat) / 256)
  (next, { last := next })

/-- A probability as a numerator over `2 ^ 32`. -/
structure Prob where
  numerator : ℕ
  deriving DecidableEq, Repr

def Prob.hits (p : Prob) (draw : UInt32) : Bool := draw.toNat < p.numerator

/-- How datagrams are selected for loss. -/
inductive LossModel
  | bernoulli (p : Prob)
  | gilbertElliott (p r h oneMinusK : Prob)
  | pattern (indices : List ℕ)
  | everyNth (n : ℕ)
  deriving DecidableEq, Repr

/-- How long a datagram is held. -/
inductive DelayModel
  | fixed (meanNs : ℕ)
  | uniform (meanNs jitterNs : ℕ) (rho : UInt8)
  | normal (meanNs sigmaNs : ℕ) (rho : UInt8)
  | pareto (meanNs sigmaNs : ℕ) (rho : UInt8)
  | paretoNormal (meanNs sigmaNs : ℕ) (rho : UInt8)
  deriving DecidableEq, Repr

/-- The arm of `sample_delay` that draws: one word, through the filter and the
distribution. -/
def sampleJittered (rng : Pcg32) (corr : CorrState) (meanNs spreadNs : ℕ) (rho : UInt8)
    (dist : Option DistTable) : ℤ × Pcg32 × CorrState :=
  let (draw, rng) := rng.nextU32
  let (rnd, corr) := crandom corr rho draw
  (tabledist (saturatingNs meanNs) (saturatingNs spreadNs) rnd dist, rng, corr)

/-- One delay sample, in nanoseconds.  A fixed delay draws nothing. -/
def sampleDelay (tables : DistTables) (rng : Pcg32) (corr : CorrState) :
    DelayModel → ℤ × Pcg32 × CorrState
  | .fixed meanNs => (saturatingNs meanNs, rng, corr)
  | .uniform meanNs jitterNs rho => sampleJittered rng corr meanNs jitterNs rho none
  | .normal meanNs sigmaNs rho => sampleJittered rng corr meanNs sigmaNs rho tables.normal
  | .pareto meanNs sigmaNs rho => sampleJittered rng corr meanNs sigmaNs rho tables.pareto
  | .paretoNormal meanNs sigmaNs rho =>
    sampleJittered rng corr meanNs sigmaNs rho tables.paretonormal

/-! ## Profiles -/

structure ReorderModel where
  gap : ℕ
  p : Prob
  deriving DecidableEq, Repr

structure DupModel where
  p : Prob
  deriving DecidableEq, Repr

structure CorruptModel where
  p : Prob
  deriving DecidableEq, Repr

/-- A token bucket with a bounded byte queue in front of it. -/
structure RateModel where
  bps : ℕ
  burstBytes : ℕ
  queueBytes : ℕ
  deriving DecidableEq, Repr

/-- Half-open, `[atNs, atNs + forNs)`. -/
structure Window where
  atNs : ℕ
  forNs : ℕ
  deriving DecidableEq, Repr

/-- A profile that replaces the current one at a tick. -/
structure TimelineStep (Profile : Type) where
  atNs : ℕ
  profile : Profile

/-- Everything one direction's engine is configured with. -/
structure DirectionProfile where
  rate : Option RateModel := none
  delay : Option DelayModel := none
  loss : Option LossModel := none
  reorder : Option ReorderModel := none
  dup : Option DupModel := none
  corrupt : Option CorruptModel := none
  mtuBlackhole : Option ℕ := none
  blackouts : List Window := []
  timeline : List (TimelineStep DirectionProfile) := []

/-- Why a profile was refused: the variants a direction can be refused with. -/
inductive ProfileError
  | reorderWithoutDelay
  | reorderGapZero
  | everyNthZero
  | timelineNotIncreasing
  | timelineStepAtZero
  | nestedTimeline
  | blackoutZeroLength
  | rateQueueBelowDatagram (queueBytes minWireBytes : ℕ)
  | rateWithZeroBps
  | rateBurstBelowDatagram (burstBytes minWireBytes : ℕ)
  deriving DecidableEq, Repr

def assumedPathWireBytes : ℕ := 1500

namespace DirectionProfile

/-- The largest on-wire datagram this direction can be asked to forward. -/
def largestOnWireDatagram (profile : DirectionProfile) : ℕ :=
  profile.mtuBlackhole.getD assumedPathWireBytes

/-- `validate_models` on the rate model. -/
def validateRate (minWireBytes : ℕ) : Option RateModel → Except ProfileError Unit
  | none => pure ()
  | some rate => do
    if rate.bps = 0 then throw .rateWithZeroBps
    if rate.queueBytes < minWireBytes then
      throw (.rateQueueBelowDatagram rate.queueBytes minWireBytes)
    if rate.burstBytes < minWireBytes then
      throw (.rateBurstBelowDatagram rate.burstBytes minWireBytes)

/-- `validate_models` on the reorder model. -/
def validateReorder (delay : Option DelayModel) : Option ReorderModel → Except ProfileError Unit
  | none => pure ()
  | some reorder => do
    if delay.isNone then throw .reorderWithoutDelay
    if reorder.gap = 0 then throw .reorderGapZero

def validateModels (profile : DirectionProfile) : Except ProfileError Unit := do
  validateRate profile.largestOnWireDatagram profile.rate
  if profile.loss = some (.everyNth 0) then throw .everyNthZero
  validateReorder profile.delay profile.reorder
  if profile.blackouts.any (·.forNs = 0) then throw .blackoutZeroLength

/-- The loop of `validate` over the steps, `previous` being the tick of the
step before. -/
def validateTimeline (previous : Option ℕ) :
    List (TimelineStep DirectionProfile) → Except ProfileError Unit
  | [] => pure ()
  | step :: steps => do
    if previous = none ∧ step.atNs = 0 then throw .timelineStepAtZero
    if previous.any (step.atNs ≤ ·) then throw .timelineNotIncreasing
    if !step.profile.timeline.isEmpty then throw .nestedTimeline
    step.profile.validateModels
    validateTimeline (some step.atNs) steps

def validate (profile : DirectionProfile) : Except ProfileError Unit := do
  profile.validateModels
  validateTimeline none profile.timeline

/-- Sort and deduplicate a pattern's indices. -/
def normalise (direction : DirectionProfile) : DirectionProfile :=
  match direction.loss with
  | some (.pattern indices) =>
    { direction with loss := some (.pattern (indices.mergeSort (· ≤ ·)).eraseReps) }
  | _ => direction

/-- `normalise_patterns`. -/
def normalisePatterns (profile : DirectionProfile) : DirectionProfile :=
  let profile := profile.normalise
  { profile with
    timeline := profile.timeline.map fun step => { step with profile := step.profile.normalise } }

end DirectionProfile

end Moqtap.Netem
