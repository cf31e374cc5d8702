import Moqtap.NetemEngine

/-!
Ablation readability: what two engines decide alike when their profiles agree
on some of the models.

Two engines armed with one seed take one sequence of calls.  `Tied` is what
holds between them after every step: the state of the stages that can drop a
datagram is the same, and so is the state of each later model the profiles
agree on.  Each stage keeps it (`upstream_tied`, `downstream_tied`), because a
stage draws from its own stream alone, and by what its own model and the
surviving datagrams say.
-/

namespace Moqtap.Netem.Ablation

/-- One call made of an engine. -/
inductive Op
  | decide (seq : ℕ) (wireBytes : UInt32) (now : ℕ)
  | reseed (seed : UInt64)

/-- One call: the decision it answers with, if any, and the engine after. -/
def apply (tables : DistTables) (engine : Impairer) : Op → Option Decision × Impairer
  | .decide seq wireBytes now =>
    let (decision, engine) := engine.decide tables seq wireBytes now
    (some decision, engine)
  | .reseed seed => (none, engine.reseed seed)

/-- The answers of a run, call by call. -/
def run (tables : DistTables) : Impairer → List Op → List (Option Decision)
  | _, [] => []
  | engine, op :: ops =>
    (apply tables engine op).1 :: run tables (apply tables engine op).2 ops

/-! ## Agreement of profiles -/

/-- The models that can drop a datagram. -/
def droppers (profile : DirectionProfile) :
    List Window × Option ℕ × Option LossModel × Option RateModel :=
  (profile.blackouts, profile.mtuBlackhole, profile.loss, profile.rate)

/-- Two profiles agree on `models`, as armed and at every step. -/
def AgreeOn {Models : Type} (models : DirectionProfile → Models) (p q : DirectionProfile) : Prop :=
  models p = models q ∧
    (p.timeline.map fun step => models step.profile) =
      (q.timeline.map fun step => models step.profile)

/-- Two profiles step at the same instants. -/
def SameInstants (p q : DirectionProfile) : Prop :=
  (p.timeline.map fun step => step.atNs) = (q.timeline.map fun step => step.atNs)

/-- The step in force is found by the instants alone, so profiles that agree on
`models` are in force with the same ones. -/
theorem AgreeOn.active {Models : Type} {models : DirectionProfile → Models}
    {p q : DirectionProfile} (agree : AgreeOn models p q) (instants : SameInstants p q) (now : ℕ) :
    models (activeProfile p now) = models (activeProfile q now) := by
  have landed : ∀ {steps others : List (TimelineStep DirectionProfile)},
      (steps.map fun step => models step.profile) = (others.map fun step => models step.profile) →
      (steps.map fun step => step.atNs) = (others.map fun step => step.atNs) →
      ((steps.takeWhile fun step => step.atNs ≤ now).getLast?.map fun step => models step.profile) =
        (others.takeWhile fun step => step.atNs ≤ now).getLast?.map
          fun step => models step.profile := by
    intro steps others sameModels sameTicks
    induction steps generalizing others with
    | nil =>
      cases others with
      | nil => rfl
      | cons _ _ => exact nomatch sameTicks
    | cons step steps ih =>
      cases others with
      | nil => exact nomatch sameTicks
      | cons other others =>
        simp only [List.map_cons, List.cons.injEq] at sameModels sameTicks
        have rest := ih sameModels.2 sameTicks.2
        simp only [List.takeWhile_cons, sameTicks.1]
        split
        · simp only [List.getLast?_cons, Option.map_some, Option.some.injEq]
          cases first : (steps.takeWhile fun step => step.atNs ≤ now).getLast? <;>
            cases second : (others.takeWhile fun step => step.atNs ≤ now).getLast? <;>
            simp_all
        · rfl
  have found := landed agree.2 instants
  unfold activeProfile
  cases first : (p.timeline.takeWhile fun step => step.atNs ≤ now).getLast? <;>
    cases second : (q.timeline.takeWhile fun step => step.atNs ≤ now).getLast? <;>
    simp_all [agree.1]

/-- Sorting the patterns keeps what profiles agree on. -/
theorem AgreeOn.normalised {Models : Type} {models : DirectionProfile → Models}
    {p q : DirectionProfile} (sorted : Models → Models)
    (commutes : ∀ profile, models profile.normalise = sorted (models profile))
    (untimed : ∀ profile timeline, models { profile with timeline := timeline } = models profile)
    (agree : AgreeOn models p q) : AgreeOn models p.normalisePatterns q.normalisePatterns := by
  have kept : ∀ profile : DirectionProfile, profile.normalise.timeline = profile.timeline := by
    intro profile
    unfold DirectionProfile.normalise
    split <;> rfl
  constructor
  · simp only [DirectionProfile.normalisePatterns, untimed, commutes, agree.1]
  · have sortedSteps := congrArg (List.map sorted) agree.2
    simp only [List.map_map] at sortedSteps
    simp only [DirectionProfile.normalisePatterns, kept, List.map_map]
    convert sortedSteps using 1 <;>
    · apply List.map_congr_left
      intro step _
      exact commutes step.profile

theorem SameInstants.normalised {p q : DirectionProfile} (instants : SameInstants p q) :
    SameInstants p.normalisePatterns q.normalisePatterns := by
  have kept : ∀ profile : DirectionProfile, profile.normalise.timeline = profile.timeline := by
    intro profile
    unfold DirectionProfile.normalise
    split <;> rfl
  simp only [SameInstants, DirectionProfile.normalisePatterns, kept, List.map_map]
  exact instants

/-! ## Tied engines -/

section

variable {doubled corrupted timed : Prop} {engine other : Impairer} {wireBytes : UInt32}
  {seq now : ℕ}

/-- What the profiles in force share. -/
structure ActiveAlike (doubled corrupted timed : Prop) (active standing : DirectionProfile) :
    Prop where
  droppers : droppers active = droppers standing
  dup : doubled → active.dup = standing.dup
  corrupt : corrupted → active.corrupt = standing.corrupt
  delay : timed → active.delay = standing.delay
  reorder : timed → active.reorder = standing.reorder

/-- What two engines share: the state of every stage that can drop a datagram,
and of each later model their profiles agree on. -/
structure Tied (doubled corrupted timed : Prop) (engine other : Impairer) : Prop where
  profiles : ∀ now, ActiveAlike doubled corrupted timed (activeProfile engine.profile now)
    (activeProfile other.profile now)
  direction : engine.direction = other.direction
  bucket : engine.bucket = other.bucket
  queue : engine.queue = other.queue
  loss : engine.streams.loss = other.streams.loss
  gilbert : engine.streams.gilbert = other.streams.gilbert
  dup : doubled → engine.streams.dup = other.streams.dup
  corrupt : corrupted → engine.streams.corrupt = other.streams.corrupt
  delay : timed → engine.streams.delay = other.streams.delay
  delayCorr : timed → engine.streams.delayCorr = other.streams.delayCorr
  reorder : timed → engine.streams.reorder = other.streams.reorder

/-! ## The stages that can drop -/

theorem lossStage_tied (tied : Tied doubled corrupted timed engine other)
    (loss : Option LossModel) :
    (engine.lossStage loss seq).1 = (other.lossStage loss seq).1 ∧
      Tied doubled corrupted timed (engine.lossStage loss seq).2 (other.lossStage loss seq).2 := by
  cases loss with
  | none => exact ⟨rfl, tied⟩
  | some model =>
    simp only [Impairer.lossStage, tied.loss, tied.gilbert]
    exact ⟨trivial, tied.profiles, tied.direction, tied.bucket, tied.queue, rfl, rfl, tied.dup, tied.corrupt,
      tied.delay, tied.delayCorr, tied.reorder⟩

theorem chargeStage_tied (tied : Tied doubled corrupted timed engine other) (rate : RateModel) :
    (engine.chargeStage rate wireBytes now).1 = (other.chargeStage rate wireBytes now).1 ∧
      Tied doubled corrupted timed (engine.chargeStage rate wireBytes now).2
        (other.chargeStage rate wireBytes now).2 := by
  obtain ⟨profiles, direction, bucket, queue, loss, gilbert, dup, corrupt, delay, delayCorr, reorder⟩ := tied
  unfold Impairer.chargeStage
  rw [bucket, queue]
  generalize charge other.bucket rate.bytesPerSecond rate.burstBytes wireBytes now = answer
  obtain ⟨grant, bucket'⟩ := answer
  cases grant with
  | now => exact ⟨rfl, profiles, direction, rfl, rfl, loss, gilbert, dup, corrupt, delay, delayCorr, reorder⟩
  | later tick =>
    exact ⟨rfl, profiles, direction, rfl, rfl, loss, gilbert, dup, corrupt, delay, delayCorr, reorder⟩
  | never => exact ⟨rfl, profiles, direction, rfl, rfl, loss, gilbert, dup, corrupt, delay, delayCorr, reorder⟩

theorem queueStage_tied (tied : Tied doubled corrupted timed engine other) (rate : RateModel) :
    (engine.queueStage rate wireBytes now).1 = (other.queueStage rate wireBytes now).1 ∧
      Tied doubled corrupted timed (engine.queueStage rate wireBytes now).2
        (other.queueStage rate wireBytes now).2 := by
  unfold Impairer.queueStage
  rw [tied.queue]
  generalize offer other.queue rate.bytesPerSecond rate.queueBytes wireBytes now = answer
  obtain ⟨admission, queue⟩ := answer
  have queued : Tied doubled corrupted timed { engine with queue := queue }
      { other with queue := queue } :=
    ⟨tied.profiles, tied.direction, tied.bucket, rfl, tied.loss, tied.gilbert, tied.dup, tied.corrupt, tied.delay,
      tied.delayCorr, tied.reorder⟩
  cases admission with
  | queued => exact chargeStage_tied queued rate
  | tailDropped => exact ⟨rfl, queued⟩
  | neverFits => exact ⟨rfl, queued⟩

/-- The same datagrams are dropped, for the same causes, and the rate model
names the same ticks. -/
theorem upstream_tied (tied : Tied doubled corrupted timed engine other)
    {active standing : DirectionProfile}
    (alike : ActiveAlike doubled corrupted timed active standing) :
    (engine.upstream active seq wireBytes now).1 = (other.upstream standing seq wireBytes now).1 ∧
      Tied doubled corrupted timed (engine.upstream active seq wireBytes now).2
        (other.upstream standing seq wireBytes now).2 := by
  obtain ⟨blackouts, mtu, loss, rate⟩ := by simpa only [droppers, Prod.mk.injEq] using alike.droppers
  unfold Impairer.upstream
  rw [blackouts, mtu, loss, rate]
  split
  · exact ⟨rfl, tied⟩
  split
  · exact ⟨rfl, tied⟩
  obtain ⟨sameLoss, after⟩ := @lossStage_tied _ _ _ _ _ seq tied standing.loss
  generalize engine.lossStage standing.loss seq = outcome at sameLoss after
  generalize other.lossStage standing.loss seq = outcome' at sameLoss after
  obtain ⟨lost, engine'⟩ := outcome
  obtain ⟨lost', other'⟩ := outcome'
  obtain rfl : lost = lost' := sameLoss
  cases lost with
  | true => exact ⟨rfl, after⟩
  | false =>
    unfold Impairer.rateStage
    cases standing.rate with
    | none => exact ⟨rfl, after⟩
    | some model => exact queueStage_tied after model

/-! ## The stages that cannot

Each changes its own streams alone, and changes them alike where they and its
model are alike. -/

theorem delayStage_frame (tables : DistTables) (delay : Option DelayModel) (release : ℕ) :
    ∃ rng corr, (engine.delayStage tables delay now release).2 =
      { engine with streams := { engine.streams with delay := rng, delayCorr := corr } } := by
  cases delay with
  | none => exact ⟨engine.streams.delay, engine.streams.delayCorr, rfl⟩
  | some model => exact ⟨_, _, rfl⟩

theorem delayStage_congr {tables : DistTables} {delay delay' : Option DelayModel} (release : ℕ)
    (alike : delay = delay') (rng : engine.streams.delay = other.streams.delay)
    (corr : engine.streams.delayCorr = other.streams.delayCorr) :
    (engine.delayStage tables delay now release).1 = (other.delayStage tables delay' now release).1 ∧
    (engine.delayStage tables delay now release).2.streams.delay =
      (other.delayStage tables delay' now release).2.streams.delay ∧
    (engine.delayStage tables delay now release).2.streams.delayCorr =
      (other.delayStage tables delay' now release).2.streams.delayCorr := by
  subst alike
  cases delay with
  | none => exact ⟨rfl, rng, corr⟩
  | some model =>
    simp only [Impairer.delayStage, rng, corr]
    exact ⟨trivial, trivial, trivial⟩

theorem delayStage_tied (tied : Tied doubled corrupted timed engine other) {tables : DistTables}
    {delay delay' : Option DelayModel} (release : ℕ) (alike : timed → delay = delay') :
    (timed → (engine.delayStage tables delay now release).1 =
      (other.delayStage tables delay' now release).1) ∧
    Tied doubled corrupted timed (engine.delayStage tables delay now release).2
      (other.delayStage tables delay' now release).2 := by
  have same := fun agreed : timed => @delayStage_congr engine other now tables _ _ release
    (alike agreed) (tied.delay agreed) (tied.delayCorr agreed)
  refine ⟨fun agreed => (same agreed).1, ?_⟩
  obtain ⟨rng, corr, framed⟩ := @delayStage_frame engine now tables delay release
  obtain ⟨rng', corr', framed'⟩ := @delayStage_frame other now tables delay' release
  rw [framed, framed'] at same ⊢
  exact ⟨tied.profiles, tied.direction, tied.bucket, tied.queue, tied.loss, tied.gilbert, tied.dup, tied.corrupt,
    fun agreed => (same agreed).2.1, fun agreed => (same agreed).2.2, tied.reorder⟩

theorem reorderStage_frame (delay : Option DelayModel) (reorder : Option ReorderModel)
    (release : ℕ) :
    ∃ rng, (engine.reorderStage delay reorder seq now release).2.2 =
      { engine with streams := { engine.streams with reorder := rng } } := by
  cases delay <;> cases reorder
  case some.some model =>
    unfold Impairer.reorderStage
    dsimp only
    split
    · exact ⟨_, by split <;> rfl⟩
    · exact ⟨engine.streams.reorder, rfl⟩
  all_goals exact ⟨engine.streams.reorder, rfl⟩

theorem reorderStage_congr {delay delay' : Option DelayModel}
    {reorder reorder' : Option ReorderModel} {release release' : ℕ} (sameDelay : delay = delay')
    (sameReorder : reorder = reorder') (sameRelease : release = release')
    (rng : engine.streams.reorder = other.streams.reorder) :
    (engine.reorderStage delay reorder seq now release).1 =
      (other.reorderStage delay' reorder' seq now release').1 ∧
    (engine.reorderStage delay reorder seq now release).2.1 =
      (other.reorderStage delay' reorder' seq now release').2.1 ∧
    (engine.reorderStage delay reorder seq now release).2.2.streams.reorder =
      (other.reorderStage delay' reorder' seq now release').2.2.streams.reorder := by
  subst sameDelay sameReorder sameRelease
  cases delay <;> cases reorder
  case some.some model =>
    simp only [Impairer.reorderStage, rng]
    split
    · split <;> exact ⟨rfl, rfl, rfl⟩
    · exact ⟨rfl, rfl, rng⟩
  all_goals exact ⟨rfl, rfl, rng⟩

theorem reorderStage_tied (tied : Tied doubled corrupted timed engine other)
    {delay delay' : Option DelayModel} {reorder reorder' : Option ReorderModel}
    {release release' : ℕ} (sameDelay : timed → delay = delay')
    (sameReorder : timed → reorder = reorder') (sameRelease : timed → release = release') :
    (timed → (engine.reorderStage delay reorder seq now release).1 =
        (other.reorderStage delay' reorder' seq now release').1 ∧
      (engine.reorderStage delay reorder seq now release).2.1 =
        (other.reorderStage delay' reorder' seq now release').2.1) ∧
    Tied doubled corrupted timed (engine.reorderStage delay reorder seq now release).2.2
      (other.reorderStage delay' reorder' seq now release').2.2 := by
  have same := fun agreed : timed => @reorderStage_congr engine other seq now _ _ _ _ _ _
    (sameDelay agreed) (sameReorder agreed) (sameRelease agreed) (tied.reorder agreed)
  refine ⟨fun agreed => ⟨(same agreed).1, (same agreed).2.1⟩, ?_⟩
  obtain ⟨rng, framed⟩ := @reorderStage_frame engine seq now delay reorder release
  obtain ⟨rng', framed'⟩ := @reorderStage_frame other seq now delay' reorder' release'
  rw [framed, framed'] at same ⊢
  exact ⟨tied.profiles, tied.direction, tied.bucket, tied.queue, tied.loss, tied.gilbert, tied.dup, tied.corrupt,
    tied.delay, tied.delayCorr, fun agreed => (same agreed).2.2⟩

theorem dupStage_frame (dup : Option DupModel) (release : ℕ) :
    ∃ rng counters, (engine.dupStage dup wireBytes release).2 =
      { engine with streams := { engine.streams with dup := rng }, counters := counters } := by
  cases dup with
  | none => exact ⟨engine.streams.dup, engine.counters, rfl⟩
  | some model =>
    unfold Impairer.dupStage
    dsimp only
    split
    · exact ⟨_, _, rfl⟩
    · exact ⟨_, engine.counters, rfl⟩

theorem dupStage_congr {dup dup' : Option DupModel} (release release' : ℕ) (alike : dup = dup')
    (rng : engine.streams.dup = other.streams.dup) :
    (engine.dupStage dup wireBytes release).1.isSome =
      (other.dupStage dup' wireBytes release').1.isSome ∧
    (engine.dupStage dup wireBytes release).2.streams.dup =
      (other.dupStage dup' wireBytes release').2.streams.dup := by
  subst alike
  cases dup with
  | none => exact ⟨rfl, rng⟩
  | some model =>
    simp only [Impairer.dupStage, rng]
    split <;> exact ⟨rfl, rfl⟩

theorem dupStage_tied (tied : Tied doubled corrupted timed engine other)
    {dup dup' : Option DupModel} (release release' : ℕ) (alike : doubled → dup = dup') :
    (doubled → (engine.dupStage dup wireBytes release).1.isSome =
      (other.dupStage dup' wireBytes release').1.isSome) ∧
    Tied doubled corrupted timed (engine.dupStage dup wireBytes release).2
      (other.dupStage dup' wireBytes release').2 := by
  have same := fun agreed : doubled => @dupStage_congr engine other wireBytes _ _ release release'
    (alike agreed) (tied.dup agreed)
  refine ⟨fun agreed => (same agreed).1, ?_⟩
  obtain ⟨rng, counters, framed⟩ := @dupStage_frame engine wireBytes dup release
  obtain ⟨rng', counters', framed'⟩ := @dupStage_frame other wireBytes dup' release'
  rw [framed, framed'] at same ⊢
  exact ⟨tied.profiles, tied.direction, tied.bucket, tied.queue, tied.loss, tied.gilbert,
    fun agreed => (same agreed).2, tied.corrupt, tied.delay, tied.delayCorr, tied.reorder⟩

theorem corruptStage_frame (corrupt : Option CorruptModel) :
    ∃ rng counters, (engine.corruptStage corrupt wireBytes).2 =
      { engine with streams := { engine.streams with corrupt := rng }, counters := counters } := by
  cases corrupt with
  | none => exact ⟨engine.streams.corrupt, engine.counters, rfl⟩
  | some model =>
    unfold Impairer.corruptStage
    dsimp only
    split
    · exact ⟨_, _, rfl⟩
    · exact ⟨_, engine.counters, rfl⟩

theorem corruptStage_congr {corrupt corrupt' : Option CorruptModel} (alike : corrupt = corrupt')
    (rng : engine.streams.corrupt = other.streams.corrupt) :
    (engine.corruptStage corrupt wireBytes).1 = (other.corruptStage corrupt' wireBytes).1 ∧
    (engine.corruptStage corrupt wireBytes).2.streams.corrupt =
      (other.corruptStage corrupt' wireBytes).2.streams.corrupt := by
  subst alike
  cases corrupt with
  | none => exact ⟨rfl, rng⟩
  | some model =>
    simp only [Impairer.corruptStage, rng]
    split <;> exact ⟨rfl, rfl⟩

theorem corruptStage_tied (tied : Tied doubled corrupted timed engine other)
    {corrupt corrupt' : Option CorruptModel} (alike : corrupted → corrupt = corrupt') :
    (corrupted → (engine.corruptStage corrupt wireBytes).1 =
      (other.corruptStage corrupt' wireBytes).1) ∧
    Tied doubled corrupted timed (engine.corruptStage corrupt wireBytes).2
      (other.corruptStage corrupt' wireBytes).2 := by
  have same := fun agreed : corrupted => @corruptStage_congr engine other wireBytes _ _
    (alike agreed) (tied.corrupt agreed)
  refine ⟨fun agreed => (same agreed).1, ?_⟩
  obtain ⟨rng, counters, framed⟩ := @corruptStage_frame engine wireBytes corrupt
  obtain ⟨rng', counters', framed'⟩ := @corruptStage_frame other wireBytes corrupt'
  rw [framed, framed'] at same ⊢
  exact ⟨tied.profiles, tied.direction, tied.bucket, tied.queue, tied.loss, tied.gilbert, tied.dup,
    fun agreed => (same agreed).2, tied.delay, tied.delayCorr, tied.reorder⟩

/-! ## One decision -/

/-- What two decisions share. -/
structure DecidedAlike (doubled corrupted timed : Prop) (decision decision' : Decision) : Prop where
  dropped : decision.verdict = .drop ↔ decision'.verdict = .drop
  cause : decision.cause = decision'.cause
  backlog : decision.queueBacklogBytes = decision'.queueBacklogBytes
  duplicate : doubled → decision.duplicate.isSome = decision'.duplicate.isSome
  corrupt : corrupted → decision.corrupt = decision'.corrupt
  verdict : timed → decision.verdict = decision'.verdict
  release : timed → decision.release = decision'.release

theorem reorderStage_stands (delay : Option DelayModel) (reorder : Option ReorderModel)
    (release : ℕ) : (engine.reorderStage delay reorder seq now release).1 ≠ .drop := by
  have either : (if release > now then Verdict.delay else .pass) ≠ .drop := by
    split <;> decide
  unfold Impairer.reorderStage
  dsimp only
  split
  · split
    · split
      · exact Verdict.noConfusion
      · exact either
    · exact either
  · exact either

theorem downstream_tied (tied : Tied doubled corrupted timed engine other) {tables : DistTables}
    {active standing : DirectionProfile}
    (alike : ActiveAlike doubled corrupted timed active standing) (release : ℕ) :
    DecidedAlike doubled corrupted timed
        (engine.downstream tables active seq wireBytes now release).1
        (other.downstream tables standing seq wireBytes now release).1 ∧
      Tied doubled corrupted timed
        (engine.downstream tables active seq wireBytes now release).2
        (other.downstream tables standing seq wireBytes now release).2 := by
  obtain ⟨delayed, tied⟩ := @delayStage_tied _ _ _ _ _ now tied tables _ _ release alike.delay
  obtain ⟨reordered, tied⟩ := @reorderStage_tied _ _ _ _ _ seq now tied _ _ _ _ _ _ alike.delay
    alike.reorder delayed
  obtain ⟨duplicated, tied⟩ := @dupStage_tied _ _ _ _ _ wireBytes tied _ _
    ((engine.delayStage tables active.delay now release).2.reorderStage active.delay active.reorder
      seq now (engine.delayStage tables active.delay now release).1).2.1
    ((other.delayStage tables standing.delay now release).2.reorderStage standing.delay
      standing.reorder seq now (other.delayStage tables standing.delay now release).1).2.1 alike.dup
  obtain ⟨sited, tied⟩ := @corruptStage_tied _ _ _ _ _ wireBytes tied _ _ alike.corrupt
  refine ⟨⟨?_, rfl, ?_, duplicated, sited, fun agreed => (reordered agreed).1,
    fun agreed => (reordered agreed).2⟩, tied⟩
  · exact iff_of_false (@reorderStage_stands _ seq now active.delay active.reorder _)
      (@reorderStage_stands _ seq now standing.delay standing.reorder _)
  · exact congrArg QueueState.backlogBytes tied.queue

theorem finish_tied (tied : Tied doubled corrupted timed engine other)
    (decision decision' : Decision) :
    Tied doubled corrupted timed (engine.finish wireBytes decision).2
      (other.finish wireBytes decision').2 :=
  ⟨tied.profiles, tied.direction, tied.bucket, tied.queue, tied.loss, tied.gilbert, tied.dup,
    tied.corrupt, tied.delay, tied.delayCorr, tied.reorder⟩

theorem seen_tied (tied : Tied doubled corrupted timed engine other) :
    Tied doubled corrupted timed (engine.seen wireBytes) (other.seen wireBytes) :=
  ⟨tied.profiles, tied.direction, tied.bucket, tied.queue, tied.loss, tied.gilbert, tied.dup,
    tied.corrupt, tied.delay, tied.delayCorr, tied.reorder⟩

theorem decide_tied (tied : Tied doubled corrupted timed engine other) {tables : DistTables} :
    DecidedAlike doubled corrupted timed (engine.decide tables seq wireBytes now).1
        (other.decide tables seq wireBytes now).1 ∧
      Tied doubled corrupted timed (engine.decide tables seq wireBytes now).2
        (other.decide tables seq wireBytes now).2 := by
  have alike := tied.profiles now
  obtain ⟨sameFate, after⟩ := @upstream_tied _ _ _ _ _ wireBytes seq now
    (@seen_tied _ _ _ _ _ wireBytes tied) _ _ alike
  cases staged : (engine.seen wireBytes).upstream (activeProfile engine.profile now) seq wireBytes now
    with
  | mk fate reached =>
    cases staged' : (other.seen wireBytes).upstream (activeProfile other.profile now) seq wireBytes
      now with
    | mk fate' reached' =>
      rw [staged, staged'] at sameFate after
      obtain rfl : fate = fate' := sameFate
      cases fate with
      | error cause =>
        rw [Impairer.decide_dropped staged, Impairer.decide_dropped staged']
        refine ⟨⟨Iff.rfl, rfl, ?_, fun _ => rfl, fun _ => rfl, fun _ => rfl, fun _ => rfl⟩,
          finish_tied after _ _⟩
        exact congrArg QueueState.backlogBytes after.queue
      | ok release =>
        obtain ⟨decided, after⟩ :=
          @downstream_tied _ _ _ _ _ wireBytes seq now after tables _ _ alike release
        rw [Impairer.decide_passed staged, Impairer.decide_passed staged']
        exact ⟨decided, finish_tied after _ _⟩

theorem withStreams_tied (tied : Tied doubled corrupted timed engine other) (fresh : Streams) :
    Tied doubled corrupted timed (engine.withStreams fresh) (other.withStreams fresh) :=
  ⟨tied.profiles, tied.direction, tied.bucket, tied.queue, rfl, tied.gilbert, fun _ => rfl,
    fun _ => rfl, fun _ => rfl, fun _ => rfl, fun _ => rfl⟩

theorem reseed_tied (tied : Tied doubled corrupted timed engine other) (seed : UInt64) :
    Tied doubled corrupted timed (engine.reseed seed) (other.reseed seed) := by
  rw [Impairer.reseed, Impairer.reseed, tied.direction]
  exact withStreams_tied tied _

/-- Tied engines answer a whole run alike. -/
theorem run_tied (tied : Tied doubled corrupted timed engine other) (tables : DistTables)
    (ops : List Op) :
    List.Forall₂ (Option.Rel (DecidedAlike doubled corrupted timed)) (run tables engine ops)
      (run tables other ops) := by
  induction ops generalizing engine other with
  | nil => exact .nil
  | cons op ops ih =>
    cases op with
    | decide seq wireBytes now =>
      obtain ⟨decided, after⟩ := @decide_tied _ _ _ _ _ wireBytes seq now tied tables
      exact .cons (.some decided) (ih after)
    | reseed seed => exact .cons .none (ih (reseed_tied tied seed))

end

/-! ## Engines as armed -/

theorem new_eq {profile : DirectionProfile} {seed : UInt64} {direction : Direction}
    {engine : Impairer} (armed : Impairer.new profile seed direction = .ok engine) :
    engine =
      { profile := profile.normalisePatterns, direction := direction,
        streams := .seeded seed direction, bucket := {}, queue := {}, counters := {} } := by
  unfold Impairer.new at armed
  cases checked : profile.validate with
  | error e =>
    rw [checked] at armed
    exact nomatch armed
  | ok _ =>
    rw [checked] at armed
    exact (Except.ok.inj armed).symm

/-- How sorting the patterns acts on the models that can drop. -/
def sortedDroppers :
    List Window × Option ℕ × Option LossModel × Option RateModel →
      List Window × Option ℕ × Option LossModel × Option RateModel
  | (blackouts, mtu, some (.pattern indices), rate) =>
    (blackouts, mtu, some (.pattern (indices.mergeSort (· ≤ ·)).eraseReps), rate)
  | models => models

theorem droppers_normalise (profile : DirectionProfile) :
    droppers profile.normalise = sortedDroppers (droppers profile) := by
  obtain ⟨rate, delay, loss, reorder, dup, corrupt, mtu, blackouts, timeline⟩ := profile
  cases loss with
  | none => rfl
  | some model => cases model <;> rfl

/-- A model that is not the loss model is left alone. -/
theorem normalise_keeps {Models : Type} {models : DirectionProfile → Models}
    (lossless : ∀ profile loss, models { profile with loss := loss } = models profile)
    (profile : DirectionProfile) : models profile.normalise = id (models profile) := by
  unfold DirectionProfile.normalise
  split
  · exact lossless profile _
  · rfl

section

variable {p q : DirectionProfile} {seed : UInt64} {direction : Direction} {engine other : Impairer}

/-- Engines armed with one seed start tied. -/
theorem new_tied (armed : Impairer.new p seed direction = .ok engine)
    (armed' : Impairer.new q seed direction = .ok other) (instants : SameInstants p q)
    (alike : AgreeOn droppers p q) :
    Tied (AgreeOn DirectionProfile.dup p q) (AgreeOn DirectionProfile.corrupt p q)
      (AgreeOn DirectionProfile.delay p q ∧ AgreeOn DirectionProfile.reorder p q)
      engine other := by
  rw [new_eq armed, new_eq armed']
  refine ⟨fun now => ⟨?_, fun agreed => ?_, fun agreed => ?_, fun agreed => ?_, fun agreed => ?_⟩,
    rfl, rfl, rfl, rfl, rfl, fun _ => rfl, fun _ => rfl, fun _ => rfl, fun _ => rfl, fun _ => rfl⟩
  · exact (alike.normalised sortedDroppers droppers_normalise fun _ _ => rfl).active
      instants.normalised now
  · exact (agreed.normalised id (normalise_keeps fun _ _ => rfl) fun _ _ => rfl).active
      instants.normalised now
  · exact (agreed.normalised id (normalise_keeps fun _ _ => rfl) fun _ _ => rfl).active
      instants.normalised now
  · exact (agreed.1.normalised id (normalise_keeps fun _ _ => rfl) fun _ _ => rfl).active
      instants.normalised now
  · exact (agreed.2.normalised id (normalise_keeps fun _ _ => rfl) fun _ _ => rfl).active
      instants.normalised now

/-- **Ablation readability.**  Two engines armed with one seed, over profiles
that step at the same instants and agree on the models that can drop, drop the
same datagrams for the same causes with the same backlogs; agreeing on
duplication too they duplicate the same, agreeing on corruption they corrupt
the same sites, and agreeing on delay and reorder they release at the same
ticks, whatever the other later models are. -/
theorem ablation_readable {tables : DistTables}
    (armed : Impairer.new p seed direction = .ok engine)
    (armed' : Impairer.new q seed direction = .ok other) (instants : SameInstants p q)
    (alike : AgreeOn droppers p q) (ops : List Op) :
    List.Forall₂
      (Option.Rel (DecidedAlike (AgreeOn DirectionProfile.dup p q)
        (AgreeOn DirectionProfile.corrupt p q)
        (AgreeOn DirectionProfile.delay p q ∧ AgreeOn DirectionProfile.reorder p q)))
      (run tables engine ops) (run tables other ops) := by
  apply run_tied
  exact new_tied armed armed' instants alike

end

/-- A lossy direction. -/
def lossy : DirectionProfile := { loss := some (.bernoulli ⟨2 ^ 31⟩) }

/-- The same with a copy of every datagram. -/
def doubling : DirectionProfile := { lossy with dup := some ⟨⟨2 ^ 32⟩⟩ }

theorem ablation_readable_doubling :
    ∃ engine other, Impairer.new lossy 1 .uplink = .ok engine ∧
      Impairer.new doubling 1 .uplink = .ok other ∧
      List.Forall₂
        (Option.Rel (DecidedAlike (AgreeOn DirectionProfile.dup lossy doubling)
          (AgreeOn DirectionProfile.corrupt lossy doubling)
          (AgreeOn DirectionProfile.delay lossy doubling ∧
            AgreeOn DirectionProfile.reorder lossy doubling)))
        (run flatTables engine [.decide 0 1200 0, .reseed 7, .decide 1 1200 5])
        (run flatTables other [.decide 0 1200 0, .reseed 7, .decide 1 1200 5]) := by
  have armed : Impairer.new lossy 1 .uplink = .ok _ := rfl
  have armed' : Impairer.new doubling 1 .uplink = .ok _ := rfl
  exact ⟨_, _, armed, armed', ablation_readable armed armed' rfl ⟨rfl, rfl⟩ _⟩

end Moqtap.Netem.Ablation
