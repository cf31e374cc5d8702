import Moqtap.NetemModels

/-!
The impairment engine for one direction, `quinn-netem`'s `engine.rs`.

`Impairer.decide` takes one datagram through the stages in the code's order:
blackout, MTU black hole, loss and rate (`upstream`), which can drop it, and
delay, reorder, duplication and corruption (`downstream`), which cannot.
Counters are unbounded naturals.
-/

namespace Moqtap.Netem

/-- Which way a datagram is travelling. -/
inductive Direction
  | downlink
  | uplink
  deriving DecidableEq, Repr

/-- This direction's six stream ids, in model order. -/
def streamIds : Direction → UInt64 × UInt64 × UInt64 × UInt64 × UInt64 × UInt64
  | .downlink => (0, 1, 2, 3, 4, 5)
  | .uplink => (8, 9, 10, 11, 12, 13)

inductive Verdict
  | pass
  | delay
  | reorder
  | drop
  deriving DecidableEq, Repr

inductive DropCause
  | notDropped
  | loss
  | blackout
  | mtu
  | rateQueueFull
  | rateOversize
  deriving DecidableEq, Repr

structure CorruptSite where
  byteOffset : UInt32
  bit : UInt8
  deriving DecidableEq, Repr

/-- What the engine decided about one datagram. -/
structure Decision where
  verdict : Verdict
  cause : DropCause
  release : ℕ
  duplicate : Option ℕ
  corrupt : Option CorruptSite
  queueBacklogBytes : ℕ
  deriving DecidableEq, Repr

/-- The burst-loss chain's two states. -/
inductive GilbertState
  | good
  | bad
  deriving DecidableEq, Repr

/-- One generator per model, and the state that belongs with a generator. -/
structure Streams where
  loss : Pcg32
  delay : Pcg32
  reorder : Pcg32
  dup : Pcg32
  corrupt : Pcg32
  rateQueue : Pcg32
  delayCorr : CorrState
  gilbert : GilbertState
  deriving DecidableEq, Repr

/-- All six generators of one direction, from one seed. -/
def Streams.seeded (seed : UInt64) (direction : Direction) : Streams :=
  let (loss, delay, reorder, dup, corrupt, rateQueue) := streamIds direction
  { loss := .seeded seed loss
    delay := .seeded seed delay
    reorder := .seeded seed reorder
    dup := .seeded seed dup
    corrupt := .seeded seed corrupt
    rateQueue := .seeded seed rateQueue
    delayCorr := {}
    gilbert := .good }

structure Counters where
  seen : ℕ := 0
  passed : ℕ := 0
  delayed : ℕ := 0
  reordered : ℕ := 0
  duplicated : ℕ := 0
  corrupted : ℕ := 0
  droppedLoss : ℕ := 0
  droppedBlackout : ℕ := 0
  droppedMtu : ℕ := 0
  droppedQueueFull : ℕ := 0
  droppedRateOversize : ℕ := 0
  wireBytesIn : ℕ := 0
  wireBytesOut : ℕ := 0
  backlogMax : ℕ := 0
  deriving DecidableEq, Repr

namespace Counters

/-- The counter a decision is counted in. -/
def counted (counters : Counters) (decision : Decision) : Counters :=
  match decision.verdict with
  | .pass => { counters with passed := counters.passed + 1 }
  | .delay => { counters with delayed := counters.delayed + 1 }
  | .reorder => { counters with reordered := counters.reordered + 1 }
  | .drop =>
    match decision.cause with
    | .loss => { counters with droppedLoss := counters.droppedLoss + 1 }
    | .blackout => { counters with droppedBlackout := counters.droppedBlackout + 1 }
    | .mtu => { counters with droppedMtu := counters.droppedMtu + 1 }
    | .rateQueueFull => { counters with droppedQueueFull := counters.droppedQueueFull + 1 }
    | .rateOversize => { counters with droppedRateOversize := counters.droppedRateOversize + 1 }
    -- unreachable: a drop always carries a cause
    | .notDropped => counters

/-- Fold one finished decision into the counters. -/
def finish (counters : Counters) (wireBytes : UInt32) (decision : Decision) : Counters :=
  let counters := counters.counted decision
  let counters :=
    if decision.verdict ≠ .drop then
      { counters with wireBytesOut := counters.wireBytesOut + wireBytes.toNat }
    else counters
  { counters with backlogMax := max counters.backlogMax decision.queueBacklogBytes }

end Counters

/-- The engine for one direction. -/
structure Impairer where
  profile : DirectionProfile
  direction : Direction
  streams : Streams
  bucket : BucketState
  queue : QueueState
  counters : Counters

/-- The profile in force at `now`: the last step whose tick has passed.  The
ticks are increasing, so the steps that have landed are a prefix. -/
def activeProfile (profile : DirectionProfile) (now : ℕ) : DirectionProfile :=
  match (profile.timeline.takeWhile fun step => step.atNs ≤ now).getLast? with
  | none => profile
  | some step => step.profile

/-- `at <= now && now < at + for_`, written so that nothing overflows. -/
def windowContains (window : Window) (now : ℕ) : Bool :=
  now ≥ window.atNs ∧ now - window.atNs < window.forNs

/-- One step of the burst-loss chain: the departing state's parameter decides. -/
def gilbertStep (chain : GilbertState) (p r h oneMinusK : Prob)
    (transitionDraw decisionDraw : UInt32) : Bool × GilbertState :=
  match chain with
  | .good => (oneMinusK.hits decisionDraw, if p.hits transitionDraw then .bad else .good)
  | .bad => (h.hits decisionDraw, if r.hits transitionDraw then .good else .bad)

/-- Whether the loss model selects this datagram.  A pattern's indices were
sorted when the engine was built, so the code's binary search is membership. -/
def lossSelects (model : LossModel) (seq : ℕ) (rng : Pcg32) (chain : GilbertState) :
    Bool × Pcg32 × GilbertState :=
  match model with
  | .bernoulli p =>
    let (draw, rng) := rng.nextU32
    (p.hits draw, rng, chain)
  | .gilbertElliott p r h oneMinusK =>
    let (transitionDraw, rng) := rng.nextU32
    let (decisionDraw, rng) := rng.nextU32
    let (lost, chain) := gilbertStep chain p r h oneMinusK transitionDraw decisionDraw
    (lost, rng, chain)
  | .pattern indices => (indices.contains seq, rng, chain)
  | .everyNth n => (n ≠ 0 ∧ seq % n = n - 1, rng, chain)

/-- A dropped datagram's decision. -/
def dropped (cause : DropCause) (now : ℕ) (queue : QueueState) : Decision :=
  { verdict := .drop
    cause := cause
    release := now
    duplicate := none
    corrupt := none
    queueBacklogBytes := queue.backlogBytes }

/-- The largest link-layer overhead of a datagram. -/
def maxHeaderWireBytes : UInt32 := 48

/-- The byte rate of a model configured in bits. -/
def RateModel.bytesPerSecond (rate : RateModel) : ℕ := divCeil rate.bps 8

namespace Impairer

/-- Arm one direction. -/
def new (profile : DirectionProfile) (seed : UInt64) (direction : Direction) :
    Except ProfileError Impairer := do
  profile.validate
  pure
    { profile := profile.normalisePatterns
      direction := direction
      streams := .seeded seed direction
      bucket := {}
      queue := {}
      counters := {} }

/-! ## What can drop a datagram -/

/-- Stage 4: the loss model, where one is armed. -/
def lossStage (engine : Impairer) (loss : Option LossModel) (seq : ℕ) : Bool × Impairer :=
  match loss with
  | none => (false, engine)
  | some model =>
    let (lost, rng, chain) := lossSelects model seq engine.streams.loss engine.streams.gilbert
    (lost, { engine with streams := { engine.streams with loss := rng, gilbert := chain } })

/-- Stage 5, behind the queue: the token bucket. -/
def chargeStage (engine : Impairer) (rate : RateModel) (wireBytes : UInt32) (now : ℕ) :
    Except DropCause ℕ × Impairer :=
  match charge engine.bucket rate.bytesPerSecond rate.burstBytes wireBytes now with
  | (.now, bucket) => (.ok now, { engine with bucket := bucket })
  | (.later tick, bucket) => (.ok tick, { engine with bucket := bucket.reserve wireBytes })
  | (.never, bucket) =>
    -- the queue admitted it a moment ago, so the occupancy comes back off
    (.error .rateOversize,
      { engine with bucket := bucket, queue := engine.queue.withdraw wireBytes })

/-- Stage 5 on one rate model: the bounded byte queue, then the token bucket. -/
def queueStage (engine : Impairer) (rate : RateModel) (wireBytes : UInt32) (now : ℕ) :
    Except DropCause ℕ × Impairer :=
  match offer engine.queue rate.bytesPerSecond rate.queueBytes wireBytes now with
  | (.queued, queue) => chargeStage { engine with queue := queue } rate wireBytes now
  | (.tailDropped, queue) => (.error .rateQueueFull, { engine with queue := queue })
  | (.neverFits, queue) => (.error .rateOversize, { engine with queue := queue })

/-- Stage 5: the rate model, where one is armed. -/
def rateStage (engine : Impairer) (rate : Option RateModel) (wireBytes : UInt32) (now : ℕ) :
    Except DropCause ℕ × Impairer :=
  match rate with
  | none => (.ok now, engine)
  | some rate => engine.queueStage rate wireBytes now

/-- Stages 2 to 5: why the datagram is dropped, or the tick it may leave at. -/
def upstream (engine : Impairer) (active : DirectionProfile) (seq : ℕ) (wireBytes : UInt32)
    (now : ℕ) : Except DropCause ℕ × Impairer :=
  if active.blackouts.any (windowContains · now) then (.error .blackout, engine)
  else if active.mtuBlackhole.any (wireBytes.toNat > ·) then (.error .mtu, engine)
  else
    match engine.lossStage active.loss seq with
    | (true, engine) => (.error .loss, engine)
    | (false, engine) => engine.rateStage active.rate wireBytes now

/-! ## What cannot -/

/-- Stage 6: the release tick displaced by a sample, and never before `now`. -/
def delayStage (tables : DistTables) (engine : Impairer) (delay : Option DelayModel)
    (now release : ℕ) : ℕ × Impairer :=
  match delay with
  | none => (max release now, engine)
  | some model =>
    let (ns, rng, corr) := sampleDelay tables engine.streams.delay engine.streams.delayCorr model
    let release :=
      if ns ≥ 0 then saturatingAddNs release ns.natAbs else release - ns.natAbs
    (max release now,
      { engine with streams := { engine.streams with delay := rng, delayCorr := corr } })

/-- Stage 7: a candidate that hits skips the delay. -/
def reorderStage (engine : Impairer) (delay : Option DelayModel) (reorder : Option ReorderModel)
    (seq : ℕ) (now release : ℕ) : Verdict × ℕ × Impairer :=
  let verdict := if release > now then Verdict.delay else .pass
  match delay, reorder with
  | some _, some model =>
    if model.gap ≠ 0 ∧ seq % model.gap = model.gap - 1 then
      let (draw, rng) := engine.streams.reorder.nextU32
      let engine := { engine with streams := { engine.streams with reorder := rng } }
      if model.p.hits draw then (.reorder, now, engine) else (verdict, release, engine)
    else (verdict, release, engine)
  | _, _ => (verdict, release, engine)

/-- Stage 8: one extra copy, released with the original. -/
def dupStage (engine : Impairer) (dup : Option DupModel) (wireBytes : UInt32) (release : ℕ) :
    Option ℕ × Impairer :=
  match dup with
  | none => (none, engine)
  | some model =>
    let (draw, rng) := engine.streams.dup.nextU32
    let engine := { engine with streams := { engine.streams with dup := rng } }
    if model.p.hits draw then
      (some release,
        { engine with
          counters :=
            { engine.counters with
              duplicated := engine.counters.duplicated + 1
              wireBytesOut := engine.counters.wireBytesOut + wireBytes.toNat } })
    else (none, engine)

/-- Stage 9: one draw for the hit, then two for the site. -/
def corruptStage (engine : Impairer) (corrupt : Option CorruptModel) (wireBytes : UInt32) :
    Option CorruptSite × Impairer :=
  match corrupt with
  | none => (none, engine)
  | some model =>
    let (draw, rng) := engine.streams.corrupt.nextU32
    let drawn := { engine with streams := { engine.streams with corrupt := rng } }
    if model.p.hits draw ∧ wireBytes > maxHeaderWireBytes then
      let (byteOffset, rng) := rng.nextBounded (wireBytes - maxHeaderWireBytes)
      let (bit, rng) := rng.nextBounded 8
      (some { byteOffset := byteOffset, bit := bit.toUInt8 },
        { engine with
          streams := { engine.streams with corrupt := rng }
          counters := { engine.counters with corrupted := engine.counters.corrupted + 1 } })
    else (none, drawn)

/-- Stages 6 to 9, for a datagram the rate model lets go at `release`. -/
def downstream (tables : DistTables) (engine : Impairer) (active : DirectionProfile) (seq : ℕ)
    (wireBytes : UInt32) (now release : ℕ) : Decision × Impairer :=
  let (release, engine) := engine.delayStage tables active.delay now release
  let (verdict, release, engine) :=
    engine.reorderStage active.delay active.reorder seq now release
  let (duplicate, engine) := engine.dupStage active.dup wireBytes release
  let (corrupt, engine) := engine.corruptStage active.corrupt wireBytes
  ({ verdict := verdict
     cause := .notDropped
     release := release
     duplicate := duplicate
     corrupt := corrupt
     queueBacklogBytes := engine.queue.backlogBytes }, engine)

/-- Every decision passes through the counters. -/
def finish (engine : Impairer) (wireBytes : UInt32) (decision : Decision) : Decision × Impairer :=
  (decision, { engine with counters := engine.counters.finish wireBytes decision })

/-- Count a datagram in. -/
def seen (engine : Impairer) (wireBytes : UInt32) : Impairer :=
  { engine with
    counters :=
      { engine.counters with
        seen := engine.counters.seen + 1
        wireBytesIn := engine.counters.wireBytesIn + wireBytes.toNat } }

/-- Decide what happens to one datagram. -/
def decide (tables : DistTables) (engine : Impairer) (seq : ℕ) (wireBytes : UInt32) (now : ℕ) :
    Decision × Impairer :=
  let active := activeProfile engine.profile now
  match (engine.seen wireBytes).upstream active seq wireBytes now with
  | (.error cause, engine) => engine.finish wireBytes (dropped cause now engine.queue)
  | (.ok release, engine) =>
    let (decision, engine) := engine.downstream tables active seq wireBytes now release
    engine.finish wireBytes decision

theorem decide_dropped {engine reached : Impairer} {wireBytes : UInt32} {seq now : ℕ}
    {tables : DistTables} {cause : DropCause}
    (refused : (engine.seen wireBytes).upstream (activeProfile engine.profile now) seq wireBytes now =
      (.error cause, reached)) :
    engine.decide tables seq wireBytes now =
      reached.finish wireBytes (dropped cause now reached.queue) := by
  simp only [Impairer.decide, refused]

theorem decide_passed {engine reached : Impairer} {wireBytes : UInt32} {seq now release : ℕ}
    {tables : DistTables}
    (passed : (engine.seen wireBytes).upstream (activeProfile engine.profile now) seq wireBytes now =
      (.ok release, reached)) :
    engine.decide tables seq wireBytes now =
      (reached.downstream tables (activeProfile engine.profile now) seq wireBytes now release).2.finish
        wireBytes
        (reached.downstream tables (activeProfile engine.profile now) seq wireBytes now release).1 := by
  simp only [Impairer.decide, passed]

/-- Take fresh generators, and keep the burst-loss chain where it is. -/
def withStreams (engine : Impairer) (fresh : Streams) : Impairer :=
  { engine with streams := { fresh with gilbert := engine.streams.gilbert } }

/-- Re-seed every generator and reset the correlation state.  The chain keeps
its state, as do bucket, queue and counters. -/
def reseed (engine : Impairer) (seed : UInt64) : Impairer :=
  engine.withStreams (.seeded seed engine.direction)

end Impairer

end Moqtap.Netem
