import Moqtap.LeakyBucket
import Moqtap.NetemEngine

/-!
What a rate model lets through over a whole run.

The queue and the bucket are two leaky counters with clocks of their own.  With
one rate model armed throughout they hold the same level at every tick
(`InStep`, kept by `rateStage_cases`), so what the engine releases is a run of
one leaky counter (`run_scheduled`), and the order, the window and the longest
hold are that counter's.
-/

namespace Moqtap.Netem.Rate

open LeakyBucket

/-- One datagram offered to the engine. -/
structure Call where
  seq : ℕ
  wireBytes : UInt32
  now : ℕ

/-- What a datagram needs, in nano-bytes. -/
def Call.need (call : Call) : ℕ := nano * call.wireBytes.toNat

/-- The engine after one call. -/
def after (tables : DistTables) (engine : Impairer) (call : Call) : Impairer :=
  (engine.decide tables call.seq call.wireBytes call.now).2

/-- The decision of one call. -/
def decision (tables : DistTables) (engine : Impairer) (call : Call) : Decision :=
  (engine.decide tables call.seq call.wireBytes call.now).1

/-- The decisions of a run, each with its call. -/
def decisions (tables : DistTables) : Impairer → List Call → List (Call × Decision)
  | _, [] => []
  | engine, call :: calls =>
    (call, decision tables engine call) :: decisions tables (after tables engine call) calls

/-- The calls of a run whose datagram is released. -/
def released (tables : DistTables) (engine : Impairer) (calls : List Call) :
    List (Call × Decision) :=
  (decisions tables engine calls).filter fun (_, decision) => decision.verdict ≠ .drop

/-- The bytes released at ticks of `[a, b]`. -/
def bytesWithin (a b : ℕ) (released : List (Call × Decision)) : ℕ :=
  ((released.filter fun (_, decision) => a ≤ decision.release ∧ decision.release ≤ b).map
    fun (call, _) => call.wireBytes.toNat).sum

/-- How long the bucket makes a datagram wait, before any saturation. -/
def waitFor (rate : RateModel) (bucket : BucketState) (call : Call) : ℕ :=
  match (charge bucket rate.bytesPerSecond rate.burstBytes call.wireBytes call.now).1 with
  | .later _ =>
    (bucket.refilled rate.bytesPerSecond call.now).waitNs rate.bytesPerSecond rate.burstBytes
      call.wireBytes
  | _ => 0

/-- The tick each released datagram waits to is a `u64`. -/
def WaitsFit (tables : DistTables) (rate : RateModel) : Impairer → List Call → Prop
  | _, [] => True
  | engine, call :: calls =>
    ((decision tables engine call).verdict ≠ .drop →
      call.now + waitFor rate engine.bucket call < 2 ^ 64) ∧
    WaitsFit tables rate (after tables engine call) calls

instance decidableWaitsFit (tables : DistTables) (rate : RateModel) :
    ∀ engine calls, Decidable (WaitsFit tables rate engine calls)
  | _, [] => isTrue trivial
  | engine, call :: calls =>
    have := decidableWaitsFit tables rate (after tables engine call) calls
    inferInstanceAs (Decidable (_ ∧ _))

/-- A profile whose rate model is all that can hold a datagram. -/
structure RateOnly (rate : RateModel) (profile : DirectionProfile) : Prop where
  rated : profile.rate = some rate
  undelayed : profile.delay = none
  unreordered : profile.reorder = none
  undoubled : profile.dup = none
  standing : profile.timeline = []

/-! ## The queue and the bucket -/

/-- The queue holds what the bucket owes, brought up to the queue's clock. -/
structure InStep (rate : RateModel) (bucket : BucketState) (queue : QueueState) : Prop where
  behind : bucket.last ≤ queue.last
  level : queue.backlog = bucket.deficit - rate.bytesPerSecond * (queue.last - bucket.last)

theorem refilled_eq {state : BucketState} {rateBps : ℕ} {now : ℕ} (onward : state.last ≤ now) :
    state.refilled rateBps now =
      { deficit := state.deficit - rateBps * (now - state.last), last := now } := by
  unfold BucketState.refilled since
  split
  · rw [Nat.mul_comm]
  · have same : state.last = now := by omega
    rw [← same, Nat.sub_self, Nat.mul_zero, Nat.sub_zero]

theorem drained_eq {state : QueueState} {rateBps : ℕ} {now : ℕ} (onward : state.last ≤ now) :
    state.drained rateBps now =
      { backlog := state.backlog - rateBps * (now - state.last), last := now } := by
  unfold QueueState.drained since
  split
  · rw [Nat.mul_comm]
  · have same : state.last = now := by omega
    rw [← same, Nat.sub_self, Nat.mul_zero, Nat.sub_zero]

/-- What the bucket owes at `now`. -/
def owed (rate : RateModel) (bucket : BucketState) (now : ℕ) : ℕ :=
  bucket.deficit - rate.bytesPerSecond * (now - bucket.last)

theorem InStep.drained {rate : RateModel} {bucket : BucketState} {queue : QueueState} {now : ℕ}
    (inStep : InStep rate bucket queue) (onward : queue.last ≤ now) :
    queue.drained rate.bytesPerSecond now = { backlog := owed rate bucket now, last := now } := by
  rw [drained_eq onward, inStep.level, drained_twice inStep.behind onward, owed]

variable {rate : RateModel} {engine : Impairer} {wireBytes : UInt32} {now : ℕ}

/-- The bucket's answers, on what it owes at `now`. -/
theorem charge_cases {state : BucketState} (positive : 0 < rate.bytesPerSecond)
    (onward : state.last ≤ now) :
    (nano * wireBytes.toNat ≤ nano * rate.burstBytes - owed rate state now ∧
      charge state rate.bytesPerSecond rate.burstBytes wireBytes now =
        (.now, { deficit := owed rate state now + nano * wireBytes.toNat, last := now })) ∨
    (nano * rate.burstBytes < nano * wireBytes.toNat ∧
      charge state rate.bytesPerSecond rate.burstBytes wireBytes now =
        (.never, { deficit := owed rate state now, last := now })) ∨
    (0 < wireBytes.toNat ∧ nano * wireBytes.toNat ≤ nano * rate.burstBytes ∧
      nano * rate.burstBytes < owed rate state now + nano * wireBytes.toNat ∧
      charge state rate.bytesPerSecond rate.burstBytes wireBytes now =
        (.later (saturatingAddNs now (min ((state.refilled rate.bytesPerSecond now).waitNs
            rate.bytesPerSecond rate.burstBytes wireBytes) u64Max)),
          { deficit := owed rate state now, last := now })) := by
  have refill := @refilled_eq state rate.bytesPerSecond now onward
  unfold charge
  simp only [refill]
  rw [← owed]
  split
  · exact .inl ⟨‹_›, rfl⟩
  · right
    split
    · rename_i large
      rcases large with stopped | large
      · omega
      · exact .inl ⟨large, rfl⟩
    · rename_i low small
      rw [not_or, Nat.not_lt] at small
      refine .inr ⟨Nat.pos_of_ne_zero fun none => low ?_, small.2, by omega, rfl⟩
      rw [none, Nat.mul_zero]
      exact Nat.zero_le _

/-- The queue's answers, on what the bucket owes at `now`. -/
theorem offer_cases {bucket : BucketState} {queue : QueueState}
    (inStep : InStep rate bucket queue) (onward : queue.last ≤ now) :
    (∃ refusal, refusal ≠ .queued ∧
      offer queue rate.bytesPerSecond rate.queueBytes wireBytes now =
        (refusal, { backlog := owed rate bucket now, last := now })) ∨
    (owed rate bucket now + nano * wireBytes.toNat ≤ nano * rate.queueBytes ∧
      offer queue rate.bytesPerSecond rate.queueBytes wireBytes now =
        (.queued, { backlog := owed rate bucket now + nano * wireBytes.toNat, last := now })) := by
  unfold offer
  simp only [inStep.drained onward]
  split
  · exact .inl ⟨.neverFits, by decide, rfl⟩
  · split
    · exact .inl ⟨.tailDropped, by decide, rfl⟩
    · exact .inr ⟨Nat.le_of_not_lt ‹_›, rfl⟩

/-- Where the datagram is dropped, the bucket is the one found, or that one
brought up to date. -/
structure LeavesLevel (rate : RateModel) (found bucket : BucketState) (now : ℕ) : Prop where
  same : bucket = found ∨ bucket = { deficit := owed rate found now, last := now }

/-- Where the datagram is let go, at `release`, it is added to what the bucket
owes. -/
structure AddsLevel (rate : RateModel) (found bucket : BucketState) (wireBytes : UInt32)
    (now release : ℕ) : Prop where
  added : bucket = { deficit := owed rate found now + nano * wireBytes.toNat, last := now }
  queued : owed rate found now + nano * wireBytes.toNat ≤ nano * rate.queueBytes
  small : nano * wireBytes.toNat ≤ nano * rate.burstBytes
  answer : (release = now ∧ (0 < wireBytes.toNat →
      owed rate found now + nano * wireBytes.toNat ≤ nano * rate.burstBytes)) ∨
    (0 < wireBytes.toNat ∧
      (charge found rate.bytesPerSecond rate.burstBytes wireBytes now).1 = .later release ∧
      nano * rate.burstBytes < owed rate found now + nano * wireBytes.toNat ∧
      release = saturatingAddNs now (min
        ((found.refilled rate.bytesPerSecond now).waitNs rate.bytesPerSecond
          rate.burstBytes wireBytes) u64Max))

theorem nano_pos : 0 < nano := by norm_num [nano]

theorem inStep_level {level : ℕ} :
    InStep rate { deficit := level, last := now } { backlog := level, last := now } :=
  ⟨le_rfl, by rw [Nat.sub_self, Nat.mul_zero, Nat.sub_zero]⟩

theorem queueStage_queued {queue : QueueState}
    (offered : offer engine.queue rate.bytesPerSecond rate.queueBytes wireBytes now =
      (.queued, queue)) :
    engine.queueStage rate wireBytes now =
      Impairer.chargeStage { engine with queue := queue } rate wireBytes now := by
  rw [Impairer.queueStage, offered]

theorem queueStage_refused {refusal : Admission} {queue : QueueState} (refused : refusal ≠ .queued)
    (offered : offer engine.queue rate.bytesPerSecond rate.queueBytes wireBytes now =
      (refusal, queue)) :
    ∃ cause, engine.queueStage rate wireBytes now =
      (.error cause, { engine with queue := queue }) := by
  rw [Impairer.queueStage, offered]
  cases refusal with
  | queued => exact absurd rfl refused
  | tailDropped => exact ⟨_, rfl⟩
  | neverFits => exact ⟨_, rfl⟩

theorem chargeStage_now {bucket : BucketState}
    (charged : charge engine.bucket rate.bytesPerSecond rate.burstBytes wireBytes now =
      (.now, bucket)) :
    engine.chargeStage rate wireBytes now = (.ok now, { engine with bucket := bucket }) := by
  rw [Impairer.chargeStage, charged]

theorem chargeStage_later {bucket : BucketState} {tick : ℕ}
    (charged : charge engine.bucket rate.bytesPerSecond rate.burstBytes wireBytes now =
      (.later tick, bucket)) :
    engine.chargeStage rate wireBytes now =
      (.ok tick, { engine with bucket := bucket.reserve wireBytes }) := by
  rw [Impairer.chargeStage, charged]

theorem chargeStage_never {bucket : BucketState}
    (charged : charge engine.bucket rate.bytesPerSecond rate.burstBytes wireBytes now =
      (.never, bucket)) :
    engine.chargeStage rate wireBytes now = (.error .rateOversize,
      { engine with bucket := bucket, queue := engine.queue.withdraw wireBytes }) := by
  rw [Impairer.chargeStage, charged]

/-- The withdrawal takes back what the queue had just added. -/
theorem withdraw_eq {level : ℕ} :
    QueueState.withdraw { backlog := level + nano * wireBytes.toNat, last := now } wireBytes =
      { backlog := level, last := now } := by
  rw [QueueState.withdraw, Nat.add_sub_cancel]

/-- What the rate stage does to a queue and a bucket in step: it keeps them so,
at `now`, and drops the datagram or adds it to both. -/
theorem queueStage_cases (positive : 0 < rate.bytesPerSecond)
    (inStep : InStep rate engine.bucket engine.queue) (onward : engine.queue.last ≤ now) :
    ∃ result bucket queue,
      engine.queueStage rate wireBytes now =
        (result, { engine with bucket := bucket, queue := queue }) ∧
      InStep rate bucket queue ∧ queue.last = now ∧
      match result with
      | .error _ => LeavesLevel rate engine.bucket bucket now
      | .ok release => AddsLevel rate engine.bucket bucket wireBytes now release := by
  have behind : engine.bucket.last ≤ now := inStep.behind.trans onward
  rcases @offer_cases _ wireBytes _ _ _ inStep onward with
    ⟨refusal, refused, offered⟩ | ⟨room, offered⟩
  · obtain ⟨cause, dropped⟩ := queueStage_refused refused offered
    exact ⟨.error cause, engine.bucket, _, dropped, ⟨behind, rfl⟩, rfl, ⟨.inl rfl⟩⟩
  · rw [queueStage_queued offered]
    rcases @charge_cases _ wireBytes _ engine.bucket positive behind with
      ⟨held, charged⟩ | ⟨large, charged⟩ | ⟨some, small, above, charged⟩
    · refine ⟨.ok now, _, _, chargeStage_now charged, inStep_level, rfl,
        ⟨rfl, room, held.trans (Nat.sub_le ..), .inl ⟨rfl, fun some => ?_⟩⟩⟩
      have needs : 0 < nano * wireBytes.toNat := Nat.mul_pos nano_pos some
      omega
    · refine ⟨.error .rateOversize, _, _, chargeStage_never charged, ?_, rfl, ⟨.inr rfl⟩⟩
      rw [withdraw_eq]
      exact inStep_level
    · exact ⟨.ok _, _, _, chargeStage_later charged, inStep_level, rfl,
        ⟨rfl, room, small, .inr ⟨some, congrArg Prod.fst charged, above, rfl⟩⟩⟩

/-! ## One call -/

/-- The stages outside the rate model leave bucket, queue and profile alone. -/
theorem lossStage_frame (loss : Option LossModel) (seq : ℕ) :
    ∃ streams, (engine.lossStage loss seq).2 = { engine with streams := streams } := by
  cases loss with
  | none => exact ⟨engine.streams, rfl⟩
  | some model => exact ⟨_, rfl⟩

theorem corruptStage_frame (corrupt : Option CorruptModel) (wireBytes : UInt32) :
    ∃ streams counters, (engine.corruptStage corrupt wireBytes).2 =
      { engine with streams := streams, counters := counters } := by
  cases corrupt with
  | none => exact ⟨engine.streams, engine.counters, rfl⟩
  | some model =>
    unfold Impairer.corruptStage
    dsimp only
    split
    · exact ⟨_, _, rfl⟩
    · exact ⟨_, engine.counters, rfl⟩

/-- With no other model that holds a datagram, the release tick is the rate
model's. -/
theorem downstream_rateOnly {tables : DistTables} {active : DirectionProfile} {seq release : ℕ}
    (only : RateOnly rate active) :
    (engine.downstream tables active seq wireBytes now release).1.verdict ≠ .drop ∧
      (engine.downstream tables active seq wireBytes now release).1.release = max release now ∧
      ∃ streams counters, (engine.downstream tables active seq wireBytes now release).2 =
        { engine with streams := streams, counters := counters } := by
  simp only [Impairer.downstream, only.undelayed, only.unreordered, only.undoubled,
    Impairer.delayStage, Impairer.reorderStage, Impairer.dupStage]
  refine ⟨?_, trivial, corruptStage_frame active.corrupt wireBytes⟩
  split <;> decide

/-- What stages 2 to 5 do to a queue and a bucket in step. -/
theorem upstream_cases {active : DirectionProfile} {seq : ℕ} (only : RateOnly rate active)
    (positive : 0 < rate.bytesPerSecond) (inStep : InStep rate engine.bucket engine.queue)
    (onward : engine.queue.last ≤ now) :
    ∃ result streams bucket queue,
      engine.upstream active seq wireBytes now =
        (result, { engine with streams := streams, bucket := bucket, queue := queue }) ∧
      InStep rate bucket queue ∧ queue.last ≤ now ∧
      match result with
      | .error _ => LeavesLevel rate engine.bucket bucket now
      | .ok release => AddsLevel rate engine.bucket bucket wireBytes now release := by
  unfold Impairer.upstream
  split
  · exact ⟨.error .blackout, engine.streams, engine.bucket, engine.queue, rfl, inStep, onward,
      ⟨.inl rfl⟩⟩
  split
  · exact ⟨.error .mtu, engine.streams, engine.bucket, engine.queue, rfl, inStep, onward,
      ⟨.inl rfl⟩⟩
  obtain ⟨streams, framed⟩ := @lossStage_frame engine active.loss seq
  generalize staged : engine.lossStage active.loss seq = outcome at framed
  obtain ⟨lost, reached⟩ := outcome
  obtain rfl : reached = { engine with streams := streams } := framed
  cases lost with
  | true =>
    exact ⟨.error .loss, streams, engine.bucket, engine.queue, rfl, inStep, onward, ⟨.inl rfl⟩⟩
  | false =>
    obtain ⟨result, bucket, queue, rated, keeps, clock, answer⟩ :=
      @queueStage_cases rate { engine with streams := streams } wireBytes now positive inStep onward
    refine ⟨result, streams, bucket, queue, ?_, keeps, clock.le, answer⟩
    simp only [Impairer.rateStage, only.rated]
    exact rated

/-- What one call does: bucket and queue stay in step, and the datagram is
dropped or released as the level it is added to drains. -/
structure Shapes (tables : DistTables) (rate : RateModel) (engine : Impairer) (call : Call) :
    Prop where
  profile : (after tables engine call).profile = engine.profile
  inStep : InStep rate (after tables engine call).bucket (after tables engine call).queue
  clock : (after tables engine call).queue.last ≤ call.now
  answer :
    ((decision tables engine call).verdict = .drop ∧
      LeavesLevel rate engine.bucket (after tables engine call).bucket call.now) ∨
    ((decision tables engine call).verdict ≠ .drop ∧
      ∃ release, (decision tables engine call).release = max release call.now ∧
        AddsLevel rate engine.bucket (after tables engine call).bucket call.wireBytes call.now
          release)

theorem activeProfile_standing {profile : DirectionProfile} (standing : profile.timeline = []) :
    activeProfile profile now = profile := by
  simp only [activeProfile, standing, List.takeWhile_nil, List.getLast?_nil]

theorem decide_shapes {tables : DistTables} {call : Call} (only : RateOnly rate engine.profile)
    (positive : 0 < rate.bytesPerSecond) (inStep : InStep rate engine.bucket engine.queue)
    (onward : engine.queue.last ≤ call.now) : Shapes tables rate engine call := by
  obtain ⟨result, streams, bucket, queue, staged, keeps, clock, answer⟩ :=
    @upstream_cases rate (engine.seen call.wireBytes) call.wireBytes call.now engine.profile call.seq
      only positive inStep onward
  rw [← @activeProfile_standing call.now engine.profile only.standing] at staged
  cases result with
  | error cause =>
    have decided := @Impairer.decide_dropped engine _ call.wireBytes _ call.now tables _ staged
    have leaves : after tables engine call = _ := congrArg Prod.snd decided
    have answers : decision tables engine call = _ := congrArg Prod.fst decided
    constructor
    · rw [leaves]
      rfl
    · rw [leaves]
      exact keeps
    · rw [leaves]
      exact clock
    · rw [leaves, answers]
      exact .inl ⟨rfl, answer⟩
  | ok release =>
    have decided := @Impairer.decide_passed engine _ call.wireBytes _ call.now _ tables staged
    obtain ⟨stands, released, streams', counters, framed⟩ :=
      @downstream_rateOnly rate
        { engine.seen call.wireBytes with streams := streams, bucket := bucket, queue := queue }
        call.wireBytes call.now tables (activeProfile engine.profile call.now) call.seq release
        (by rwa [activeProfile_standing only.standing])
    rw [framed] at decided
    have leaves : after tables engine call = _ := congrArg Prod.snd decided
    have answers : decision tables engine call = _ := congrArg Prod.fst decided
    constructor
    · rw [leaves]
      rfl
    · rw [leaves]
      exact keeps
    · rw [leaves]
      exact clock
    · rw [leaves, answers]
      exact .inr ⟨stands, release, released, answer⟩

/-- How a released datagram stands in the schedule: one of no bytes leaves at
once, any other at the first tick its bytes fit the burst. -/
structure Leaves (rate : RateModel) (found : BucketState) (call : Call) (release : ℕ) : Prop where
  small : call.need ≤ nano * rate.burstBytes
  queued : owed rate found call.now + call.need ≤ nano * rate.queueBytes
  empty : call.wireBytes.toNat = 0 → release = call.now
  within : 0 < call.wireBytes.toNat →
    FirstWithin rate.bytesPerSecond (nano * rate.burstBytes) (owed rate found call.now + call.need)
      call.now release

/-- A tick the bucket names, when nothing saturates, is the first at which the
bytes fit. -/
theorem AddsLevel.leaves {found bucket : BucketState} {call : Call} {release : ℕ}
    (positive : 0 < rate.bytesPerSecond) (onward : found.last ≤ call.now)
    (adds : AddsLevel rate found bucket call.wireBytes call.now release)
    (fits : call.now + waitFor rate found call < 2 ^ 64) :
    Leaves rate found call (max release call.now) := by
  have small := adds.small
  rcases adds.answer with ⟨atOnce, room⟩ | ⟨some, waits, above, names⟩
  · rw [atOnce, max_self]
    exact ⟨adds.small, adds.queued, fun _ => rfl, fun some => firstWithin_now (room some)⟩
  · have waited : (found.refilled rate.bytesPerSecond call.now).waitNs rate.bytesPerSecond
        rate.burstBytes call.wireBytes =
        (owed rate found call.now + call.need - nano * rate.burstBytes) ⌈/⌉ rate.bytesPerSecond := by
      rw [refilled_eq onward, BucketState.waitNs, divCeil_eq, ← owed, Call.need]
      dsimp only
      congr 1
      omega
    simp only [waitFor, waits, waited] at fits
    rw [waited] at names
    have exact_ : release = call.now +
        (owed rate found call.now + call.need - nano * rate.burstBytes) ⌈/⌉ rate.bytesPerSecond := by
      rw [names, saturatingAddNs, u64Max]
      omega
    rw [exact_, max_eq_left (Nat.le_add_right ..)]
    exact ⟨adds.small, adds.queued, fun none => absurd none some.ne',
      fun _ => firstWithin_wait positive above⟩

/-! ## A whole run -/

/-- The datagrams of at least one byte, as grants of one leaky counter. -/
def grants (released : List (Call × Decision)) : List Grant :=
  (released.filter fun (call, _) => 0 < call.wireBytes.toNat).map fun (call, decision) =>
    { asked := call.now, need := call.need, release := decision.release }

/-- **A run is a schedule of one leaky counter.** -/
theorem run_scheduled {tables : DistTables} {calls : List Call} (positive : 0 < rate.bytesPerSecond)
    (only : RateOnly rate engine.profile) (inStep : InStep rate engine.bucket engine.queue)
    (onward : ∀ call ∈ calls, engine.queue.last ≤ call.now)
    (ticks : calls.Pairwise fun earlier later => earlier.now ≤ later.now)
    (fits : WaitsFit tables rate engine calls) :
    Scheduled rate.bytesPerSecond (nano * rate.burstBytes) engine.bucket.deficit engine.bucket.last
        (grants (released tables engine calls)) ∧
      ∀ call decision, (call, decision) ∈ released tables engine calls →
        ∃ found, Leaves rate found call decision.release := by
  induction calls generalizing engine with
  | nil => exact ⟨.nil, by simp [released, decisions]⟩
  | cons call calls ih =>
    obtain ⟨later, ticks⟩ := List.pairwise_cons.mp ticks
    obtain ⟨fit, fits⟩ := fits
    have reached := onward call List.mem_cons_self
    have behind : engine.bucket.last ≤ call.now := inStep.behind.trans reached
    have shapes := @decide_shapes rate engine tables call only positive inStep reached
    obtain ⟨scheduled, leaves⟩ := @ih (after tables engine call) (shapes.profile ▸ only) shapes.inStep
      (fun next member => shapes.clock.trans (later next member)) ticks fits
    unfold released decisions
    rcases shapes.answer with ⟨gone, ⟨same | updated⟩⟩ | ⟨stands, release, names, adds⟩
    · rw [List.filter_cons_of_neg (by simpa using gone)]
      rw [same] at scheduled
      exact ⟨scheduled, leaves⟩
    · rw [List.filter_cons_of_neg (by simpa using gone)]
      rw [updated] at scheduled
      exact ⟨scheduled.idle behind, leaves⟩
    · rw [List.filter_cons_of_pos (by simpa using stands)]
      have lets := adds.leaves positive behind (fit stands)
      rw [← names] at lets
      rw [adds.added] at scheduled
      refine ⟨?_, fun other decision member => ?_⟩
      · unfold grants
        by_cases some : 0 < call.wireBytes.toNat
        · rw [List.filter_cons_of_pos (by simpa using some)]
          exact .grant behind lets.small (lets.within some) scheduled
        · rw [List.filter_cons_of_neg (by simpa using some)]
          have none : call.wireBytes.toNat = 0 := Nat.eq_zero_of_not_pos some
          rw [none, Nat.mul_zero, Nat.add_zero] at scheduled
          exact scheduled.idle behind
      · rcases List.mem_cons.mp member with same | earlier
        · cases same
          exact ⟨_, lets⟩
        · exact leaves other decision earlier

/-! ## The engine as armed -/

theorem validateModels_rate {profile : DirectionProfile}
    (valid : profile.validate = .ok ()) (rated : profile.rate = some rate) :
    0 < rate.bytesPerSecond := by
  have models : profile.validateModels = .ok () := by
    unfold DirectionProfile.validate at valid
    cases checked : profile.validateModels with
    | error e =>
      rw [checked] at valid
      exact nomatch valid
    | ok _ => rfl
  have stops : rate.bps ≠ 0 := by
    intro zero
    simp only [DirectionProfile.validateModels, rated, DirectionProfile.validateRate, zero] at models
    exact nomatch models
  by_contra none
  have covers := le_smul_ceilDiv (show 0 < 8 by decide) (b := rate.bps)
  rw [RateModel.bytesPerSecond, divCeil_eq] at none
  rw [Nat.eq_zero_of_not_pos none] at covers
  exact stops (Nat.le_zero.mp covers)

theorem RateOnly.normalised {profile : DirectionProfile} (only : RateOnly rate profile) :
    RateOnly rate profile.normalisePatterns := by
  obtain ⟨rated, undelayed, unreordered, undoubled, standing⟩ := only
  unfold DirectionProfile.normalisePatterns DirectionProfile.normalise
  split
  · exact ⟨rated, undelayed, unreordered, undoubled, by simp only [standing, List.map_nil]⟩
  · exact ⟨rated, undelayed, unreordered, undoubled, by simp only [standing, List.map_nil]⟩

theorem releasedWithin_grants (a b : ℕ) (released : List (Call × Decision)) :
    releasedWithin a b (grants released) = nano * bytesWithin a b released := by
  induction released with
  | nil => rfl
  | cons entry released ih =>
    obtain ⟨call, decision⟩ := entry
    have counted : nano * bytesWithin a b ((call, decision) :: released) =
        (if a ≤ decision.release ∧ decision.release ≤ b then call.need else 0) +
          nano * bytesWithin a b released := by
      unfold bytesWithin Call.need
      split <;> simp_all [Nat.mul_add]
    rw [counted, ← ih]
    unfold grants
    by_cases some : 0 < call.wireBytes.toNat
    · rw [List.filter_cons_of_pos (by simpa using some), List.map_cons, releasedWithin_cons]
    · rw [List.filter_cons_of_neg (by simpa using some)]
      have none : call.need = 0 := by
        rw [Call.need, Nat.eq_zero_of_not_pos some, Nat.mul_zero]
      simp only [none, ite_self, Nat.zero_add]

/-- **What a rate model lets through.**  Datagrams of at least one byte are
released in the order they were offered; what is released within a window of
ticks is at most what the rate carries in it and one nanosecond more, above the
burst; and no datagram is held longer than the queue's depth beyond the burst
takes to drain. -/
theorem rate_shaped {tables : DistTables} {profile : DirectionProfile} {seed : UInt64}
    {direction : Direction} {calls : List Call}
    (armed : Impairer.new profile seed direction = .ok engine) (only : RateOnly rate profile)
    (ticks : calls.Pairwise fun earlier later => earlier.now ≤ later.now)
    (fits : WaitsFit tables rate engine calls) :
    (((released tables engine calls).filter fun (call, _) => 0 < call.wireBytes.toNat).Pairwise
      fun earlier later => earlier.2.release ≤ later.2.release) ∧
    (∀ a b, a ≤ b → nano * bytesWithin a b (released tables engine calls) ≤
      rate.bytesPerSecond * (b - a + 1) + nano * rate.burstBytes) ∧
    ∀ call decision, (call, decision) ∈ released tables engine calls →
      call.now ≤ decision.release ∧
      decision.release - call.now ≤
        (nano * (rate.queueBytes - rate.burstBytes)) ⌈/⌉ rate.bytesPerSecond ∧
      (rate.queueBytes ≤ rate.burstBytes → decision.release = call.now) := by
  have valid : profile.validate = .ok () := by
    unfold Impairer.new at armed
    cases checked : profile.validate with
    | error e =>
      rw [checked] at armed
      exact nomatch armed
    | ok _ => rfl
  have positive := validateModels_rate valid only.rated
  simp only [Impairer.new, valid] at armed
  obtain rfl := Except.ok.inj armed
  obtain ⟨scheduled, leaves⟩ :=
    run_scheduled positive only.normalised (@inStep_level rate 0 0) (fun _ _ => Nat.zero_le _)
      ticks fits
  refine ⟨?_, fun a b window => ?_, fun call decision member => ?_⟩
  · have ordered := scheduled.ordered
    rw [grants, List.pairwise_map] at ordered
    exact ordered
  · have bounded := scheduled.window window
    rw [releasedWithin_grants] at bounded
    omega
  · obtain ⟨found, lets⟩ := leaves call decision member
    rcases Nat.eq_zero_or_pos call.wireBytes.toNat with none | some
    · have atOnce := lets.empty none
      omega
    · have within := lets.within some
      have held := held_le positive within lets.queued
      rw [← Nat.mul_sub] at held
      refine ⟨within.later, held, fun shallow => ?_⟩
      rw [Nat.sub_eq_zero_of_le shallow, Nat.mul_zero, zero_ceilDiv] at held
      exact Nat.le_antisymm (by omega) within.later

/-- A thousand bytes a second, one datagram deep. -/
def slowLink : RateModel := { bps := 8000, burstBytes := 1500, queueBytes := 3000 }

/-- Two full datagrams and a third of no bytes, all at the same tick. -/
def overtaking : List Call := [⟨0, 1500, 0⟩, ⟨1, 1500, 0⟩, ⟨2, 0, 0⟩]

/-- A datagram of no bytes needs no tokens, and overtakes the one in wait. -/
theorem empty_datagram_overtakes :
    ∃ engine, Impairer.new { rate := some slowLink } 0 .downlink = .ok engine ∧
      (overtaking.Pairwise fun earlier later => earlier.now ≤ later.now) ∧
      WaitsFit flatTables slowLink engine overtaking ∧
      ¬ (released flatTables engine overtaking).Pairwise fun earlier later =>
        earlier.2.release ≤ later.2.release :=
  ⟨_, rfl, by decide, by decide +kernel, by decide +kernel⟩

theorem rate_shaped_slowLink :
    ∃ engine, Impairer.new { rate := some slowLink } 0 .downlink = .ok engine ∧
      ((released flatTables engine overtaking).filter fun (call, _) =>
        0 < call.wireBytes.toNat).length = 2 ∧
      ∀ a b, a ≤ b → nano * bytesWithin a b (released flatTables engine overtaking) ≤
        slowLink.bytesPerSecond * (b - a + 1) + nano * slowLink.burstBytes := by
  refine ⟨_, rfl, by decide +kernel, ?_⟩
  exact (@rate_shaped slowLink _ flatTables { rate := some slowLink } 0 .downlink overtaking rfl
    ⟨rfl, rfl, rfl, rfl, rfl⟩ (by decide) (by decide +kernel)).2.1

end Moqtap.Netem.Rate
