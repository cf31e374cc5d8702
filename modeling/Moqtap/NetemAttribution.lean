import Moqtap.NetemAblation
import Moqtap.NetemRate

/-!
What the engine reports of the datagrams it drops, over a whole run.

`upstream_refused` says what each cause was given for and what it leaves of the
queue, `decide_honest` carries that to one call, and `drops_attributed` to every
call of a run, with the balance of the counters (`decide_counted`).
-/

namespace Moqtap.Netem.Attribution

open Ablation Rate

/-- A call of `decide`, between the engine it found and the engine it left. -/
structure Entry where
  found : Impairer
  wireBytes : UInt32
  now : ℕ
  decision : Decision
  left : Impairer

/-- The entry of one call. -/
def entry (tables : DistTables) (engine : Impairer) (seq : ℕ) (wireBytes : UInt32) (now : ℕ) :
    Entry :=
  { found := engine
    wireBytes := wireBytes
    now := now
    decision := (engine.decide tables seq wireBytes now).1
    left := (engine.decide tables seq wireBytes now).2 }

/-- The calls of `decide` in a run. -/
def entries (tables : DistTables) : Impairer → List Op → List Entry
  | _, [] => []
  | engine, .decide seq wireBytes now :: ops =>
    entry tables engine seq wireBytes now ::
      entries tables (entry tables engine seq wireBytes now).left ops
  | engine, .reseed seed :: ops => entries tables (engine.reseed seed) ops

/-- The engine a run ends with. -/
def ending (tables : DistTables) : Impairer → List Op → Impairer
  | engine, [] => engine
  | engine, op :: ops => ending tables (apply tables engine op).2 ops

/-- The datagrams the counters give a fate. -/
def fates (counters : Counters) : ℕ :=
  counters.passed + counters.delayed + counters.reordered +
    (counters.droppedLoss + counters.droppedBlackout + counters.droppedMtu +
      counters.droppedQueueFull + counters.droppedRateOversize)

/-- The on-wire bytes of the datagrams released. -/
def releasedBytes (entries : List Entry) : ℕ :=
  ((entries.filter fun entry => entry.decision.verdict ≠ .drop).map
    fun entry => entry.wireBytes.toNat).sum

/-- The on-wire bytes of the extra copies. -/
def duplicatedBytes (entries : List Entry) : ℕ :=
  ((entries.filter fun entry => entry.decision.duplicate.isSome).map
    fun entry => entry.wireBytes.toNat).sum

/-- What a drop's cause says of the datagram, and what the drop leaves of the
queue. -/
structure Refused (active : DirectionProfile) (wireBytes : UInt32) (now : ℕ)
    (found left : QueueState) (cause : DropCause) : Prop where
  caused : cause ≠ .notDropped
  queue : left = found ∨
    ∃ rate, active.rate = some rate ∧ left = found.drained rate.bytesPerSecond now
  full : cause = .rateQueueFull → 0 < left.backlog ∧
    ∃ rate, active.rate = some rate ∧ wireBytes.toNat ≤ rate.queueBytes
  oversize : cause = .rateOversize → ∃ rate, active.rate = some rate ∧
    (rate.queueBytes < wireBytes.toNat ∨ rate.burstBytes < wireBytes.toNat)

/-- Every drop is attributed honestly, and nothing is scheduled in the past. -/
structure Honest (entry : Entry) : Prop where
  caused : entry.decision.verdict = .drop ↔ entry.decision.cause ≠ .notDropped
  full : entry.decision.cause = .rateQueueFull →
    0 < entry.decision.queueBacklogBytes ∧ 0 < entry.left.queue.backlog ∧
      ∃ rate, (activeProfile entry.found.profile entry.now).rate = some rate ∧
        entry.wireBytes.toNat ≤ rate.queueBytes
  oversize : entry.decision.cause = .rateOversize →
    ∃ rate, (activeProfile entry.found.profile entry.now).rate = some rate ∧
      (rate.queueBytes < entry.wireBytes.toNat ∨ rate.burstBytes < entry.wireBytes.toNat)
  backlog : entry.decision.verdict = .drop →
    entry.left.queue = entry.found.queue ∨
      ∃ rate, (activeProfile entry.found.profile entry.now).rate = some rate ∧
        entry.left.queue = entry.found.queue.drained rate.bytesPerSecond entry.now
  adds : entry.decision.verdict = .drop →
    entry.left.queue.backlog ≤ entry.found.queue.backlog
  release : entry.decision.verdict ≠ .drop → entry.now ≤ entry.decision.release
  duplicate : ∀ tick, entry.decision.duplicate = some tick →
    entry.decision.verdict ≠ .drop ∧ entry.now ≤ tick

/-- Every rate model that can be in force carries bytes. -/
def Flows (profile : DirectionProfile) : Prop :=
  ∀ now rate, (activeProfile profile now).rate = some rate → 0 < rate.bytesPerSecond

variable {engine : Impairer} {rate : RateModel} {active : DirectionProfile} {wireBytes : UInt32}
  {seq now release : ℕ} {tables : DistTables}

/-! ## The rate model's refusals -/

theorem drained_le (queue : QueueState) (rateBps : ℕ) :
    (queue.drained rateBps now).backlog ≤ queue.backlog := by
  unfold QueueState.drained
  split
  · exact Nat.sub_le ..
  · exact le_rfl

/-- The queue's answers.  It only counts in what it admits. -/
theorem offer_answers (queue : QueueState) :
    (rate.queueBytes < wireBytes.toNat ∧
      offer queue rate.bytesPerSecond rate.queueBytes wireBytes now =
        (.neverFits, queue.drained rate.bytesPerSecond now)) ∨
    (wireBytes.toNat ≤ rate.queueBytes ∧ 0 < (queue.drained rate.bytesPerSecond now).backlog ∧
      offer queue rate.bytesPerSecond rate.queueBytes wireBytes now =
        (.tailDropped, queue.drained rate.bytesPerSecond now)) ∨
    offer queue rate.bytesPerSecond rate.queueBytes wireBytes now =
      (.queued,
        { backlog := (queue.drained rate.bytesPerSecond now).backlog + nano * wireBytes.toNat
          last := (queue.drained rate.bytesPerSecond now).last }) := by
  unfold offer
  dsimp only
  split
  · rename_i large
    exact .inl ⟨Nat.lt_of_mul_lt_mul_left large, rfl⟩
  · rename_i small
    right
    split
    · rename_i crowded
      refine .inl ⟨Nat.le_of_mul_le_mul_left (Nat.le_of_not_lt small) nano_pos, ?_, rfl⟩
      omega
    · exact .inr rfl

/-- A bucket that refills refuses for good only what exceeds the burst. -/
theorem charge_never {bucket left : BucketState} (positive : 0 < rate.bytesPerSecond)
    (charged : charge bucket rate.bytesPerSecond rate.burstBytes wireBytes now = (.never, left)) :
    rate.burstBytes < wireBytes.toNat := by
  unfold charge at charged
  dsimp only at charged
  split at charged
  · exact nomatch charged
  split at charged
  · rename_i stops
    rcases stops with stopped | large
    · exact absurd stopped positive.ne'
    · exact Nat.lt_of_mul_lt_mul_left large
  · exact nomatch charged

/-- The bucket lets a datagram go, or refuses one that exceeds the burst and
takes it back out of the queue. -/
theorem chargeStage_answers (positive : 0 < rate.bytesPerSecond) :
    ∃ bucket,
      (∃ release, engine.chargeStage rate wireBytes now =
        (.ok release, { engine with bucket := bucket })) ∨
      (rate.burstBytes < wireBytes.toNat ∧ engine.chargeStage rate wireBytes now =
        (.error .rateOversize,
          { engine with bucket := bucket, queue := engine.queue.withdraw wireBytes })) := by
  generalize charged : charge engine.bucket rate.bytesPerSecond rate.burstBytes wireBytes now =
    answer
  obtain ⟨grant, bucket⟩ := answer
  cases grant with
  | now => exact ⟨_, .inl ⟨_, chargeStage_now charged⟩⟩
  | later tick => exact ⟨_, .inl ⟨_, chargeStage_later charged⟩⟩
  | never => exact ⟨_, .inr ⟨charge_never positive charged, chargeStage_never charged⟩⟩

/-- Stage 5 keeps the counters, and a refusal is honest: the withdrawal takes
back exactly what the queue had just counted in. -/
theorem queueStage_answers (rated : active.rate = some rate) (positive : 0 < rate.bytesPerSecond) :
    ∃ bucket queue, (engine.queueStage rate wireBytes now).2 =
        { engine with bucket := bucket, queue := queue } ∧
      ∀ cause, (engine.queueStage rate wireBytes now).1 = .error cause →
        Refused active wireBytes now engine.queue queue cause := by
  rcases @offer_answers rate wireBytes now engine.queue with
    ⟨large, offered⟩ | ⟨small, crowded, offered⟩ | offered
  · refine ⟨engine.bucket, _, by rw [Impairer.queueStage, offered], fun cause refused => ?_⟩
    rw [Impairer.queueStage, offered] at refused
    cases refused
    refine ⟨?_, .inr ⟨rate, rated, rfl⟩, ?_, fun _ => ⟨rate, rated, .inl large⟩⟩ <;> rintro ⟨⟩
  · refine ⟨engine.bucket, _, by rw [Impairer.queueStage, offered], fun cause refused => ?_⟩
    rw [Impairer.queueStage, offered] at refused
    cases refused
    refine ⟨?_, .inr ⟨rate, rated, rfl⟩, fun _ => ⟨crowded, rate, rated, small⟩, ?_⟩ <;> rintro ⟨⟩
  · rw [queueStage_queued offered]
    obtain ⟨bucket, ⟨release, charged⟩ | ⟨large, charged⟩⟩ :=
      @chargeStage_answers { engine with queue := _ } rate wireBytes now positive
    · rw [charged]
      refine ⟨_, _, rfl, ?_⟩
      rintro cause ⟨⟩
    · rw [charged]
      refine ⟨_, _, rfl, fun cause refused => ?_⟩
      cases refused
      refine ⟨?_, .inr ⟨rate, rated, ?_⟩, ?_, fun _ => ⟨rate, rated, .inr large⟩⟩
      · rintro ⟨⟩
      · simp only [QueueState.withdraw, Nat.add_sub_cancel]
      · rintro ⟨⟩

/-- A refusal that the rate model has no part in. -/
theorem refused_before {queue : QueueState} {cause : DropCause} (caused : cause ≠ .notDropped)
    (unfilled : cause ≠ .rateQueueFull) (sized : cause ≠ .rateOversize) :
    Refused active wireBytes now queue queue cause :=
  ⟨caused, .inl rfl, (absurd · unfilled), (absurd · sized)⟩

/-- **What stages 2 to 5 refuse.** -/
theorem upstream_refused
    (flows : ∀ rate, active.rate = some rate → 0 < rate.bytesPerSecond) :
    ∃ streams bucket queue, (engine.upstream active seq wireBytes now).2 =
        { engine with streams := streams, bucket := bucket, queue := queue } ∧
      ∀ cause, (engine.upstream active seq wireBytes now).1 = .error cause →
        Refused active wireBytes now engine.queue queue cause := by
  unfold Impairer.upstream
  split
  · refine ⟨_, _, _, rfl, fun cause refused => ?_⟩
    cases refused
    exact refused_before nofun nofun nofun
  split
  · refine ⟨_, _, _, rfl, fun cause refused => ?_⟩
    cases refused
    exact refused_before nofun nofun nofun
  obtain ⟨streams, framed⟩ := @lossStage_frame engine active.loss seq
  generalize engine.lossStage active.loss seq = outcome at framed
  obtain ⟨lost, reached⟩ := outcome
  obtain rfl : reached = { engine with streams := streams } := framed
  cases lost with
  | true =>
    refine ⟨_, _, _, rfl, fun cause refused => ?_⟩
    cases refused
    exact refused_before nofun nofun nofun
  | false =>
    cases rated : active.rate with
    | none => exact ⟨_, _, _, rfl, nofun⟩
    | some rate =>
      obtain ⟨bucket, queue, left, refusal⟩ :=
        @queueStage_answers { engine with streams := streams } rate active wireBytes now rated
          (flows rate rated)
      exact ⟨streams, bucket, queue, left, refusal⟩

/-! ## The datagrams released -/

/-- The on-wire bytes of an extra copy. -/
def copyBytes (wireBytes : UInt32) : Option ℕ → ℕ
  | none => 0
  | some _ => wireBytes.toNat

/-- Stages that drop nothing keep profile and queue, give no datagram a fate,
and count `out` bytes out. -/
structure Keeps (out : ℕ) (before after : Impairer) : Prop where
  profile : after.profile = before.profile
  queue : after.queue = before.queue
  seen : after.counters.seen = before.counters.seen
  fates : fates after.counters = fates before.counters
  bytes : after.counters.wireBytesOut = before.counters.wireBytesOut + out

theorem Keeps.trans {first second : ℕ} {before middle after : Impairer}
    (early : Keeps first before middle) (late : Keeps second middle after) :
    Keeps (first + second) before after where
  profile := late.profile.trans early.profile
  queue := late.queue.trans early.queue
  seen := late.seen.trans early.seen
  fates := late.fates.trans early.fates
  bytes := by rw [late.bytes, early.bytes, Nat.add_assoc]

/-- New draws count nothing. -/
theorem keeps_streams (streams : Streams) : Keeps 0 engine { engine with streams := streams } :=
  ⟨rfl, rfl, rfl, rfl, rfl⟩

theorem delayStage_keeps (delay : Option DelayModel) :
    now ≤ (engine.delayStage tables delay now release).1 ∧
      Keeps 0 engine (engine.delayStage tables delay now release).2 := by
  cases delay with
  | none => exact ⟨le_max_right .., keeps_streams _⟩
  | some model => exact ⟨le_max_right .., keeps_streams _⟩

/-- A reordered datagram leaves at `now`, any other keeps its tick. -/
theorem reorderStage_keeps (delay : Option DelayModel) (reorder : Option ReorderModel)
    (later : now ≤ release) :
    now ≤ (engine.reorderStage delay reorder seq now release).2.1 ∧
      Keeps 0 engine (engine.reorderStage delay reorder seq now release).2.2 := by
  constructor
  · unfold Impairer.reorderStage
    dsimp only
    split
    · split
      · split
        · exact le_rfl
        · exact later
      · exact later
    · exact later
  · obtain ⟨rng, drawn⟩ := @reorderStage_frame engine seq now delay reorder release
    rw [drawn]
    exact keeps_streams _

/-- The copy leaves with the original, and is counted out. -/
theorem dupStage_keeps (dup : Option DupModel) :
    (∀ tick, (engine.dupStage dup wireBytes release).1 = some tick → tick = release) ∧
      Keeps (copyBytes wireBytes (engine.dupStage dup wireBytes release).1) engine
        (engine.dupStage dup wireBytes release).2 := by
  cases dup with
  | none => exact ⟨nofun, keeps_streams _⟩
  | some model =>
    unfold Impairer.dupStage
    generalize engine.streams.dup.nextU32 = drawn
    obtain ⟨draw, rng⟩ := drawn
    dsimp only
    by_cases hit : model.p.hits draw
    · simp only [if_pos hit]
      exact ⟨fun _ same => (Option.some.inj same).symm, rfl, rfl, rfl, by simp only [fates], rfl⟩
    · simp only [if_neg hit]
      exact ⟨nofun, keeps_streams _⟩

theorem corruptStage_keeps (corrupt : Option CorruptModel) :
    Keeps 0 engine (engine.corruptStage corrupt wireBytes).2 := by
  cases corrupt with
  | none => exact keeps_streams _
  | some model =>
    unfold Impairer.corruptStage
    generalize engine.streams.corrupt.nextU32 = drawn
    obtain ⟨draw, rng⟩ := drawn
    dsimp only
    split
    · -- the site's draws loop, and are not to be evaluated
      generalize rng.nextBounded _ = site
      obtain ⟨byteOffset, rng⟩ := site
      dsimp only
      generalize rng.nextBounded 8 = site
      obtain ⟨bit, rng⟩ := site
      exact ⟨rfl, rfl, rfl, by simp only [fates], rfl⟩
    · exact keeps_streams _

/-- **What stages 6 to 9 decide.** -/
theorem downstream_stands :
    (engine.downstream tables active seq wireBytes now release).1.verdict ≠ .drop ∧
    (engine.downstream tables active seq wireBytes now release).1.cause = .notDropped ∧
    now ≤ (engine.downstream tables active seq wireBytes now release).1.release ∧
    (∀ tick, (engine.downstream tables active seq wireBytes now release).1.duplicate = some tick →
      now ≤ tick) ∧
    Keeps
      (copyBytes wireBytes
        (engine.downstream tables active seq wireBytes now release).1.duplicate)
      engine (engine.downstream tables active seq wireBytes now release).2 := by
  unfold Impairer.downstream
  dsimp only
  obtain ⟨later, held⟩ := @delayStage_keeps engine now release tables active.delay
  generalize engine.delayStage tables active.delay now release = delayed at later held
  have stands := @reorderStage_stands delayed.2 seq now active.delay active.reorder delayed.1
  obtain ⟨later, placed⟩ :=
    @reorderStage_keeps delayed.2 seq now delayed.1 active.delay active.reorder later
  generalize delayed.2.reorderStage active.delay active.reorder seq now delayed.1 = reordered
    at stands later placed
  obtain ⟨copy, doubled⟩ := @dupStage_keeps reordered.2.2 wireBytes reordered.2.1 active.dup
  generalize reordered.2.2.dupStage active.dup wireBytes reordered.2.1 = doubling at copy doubled
  have corrupted := @corruptStage_keeps doubling.2 wireBytes active.corrupt
  have whole := (held.trans placed).trans (doubled.trans corrupted)
  rw [Nat.zero_add, Nat.add_zero] at whole
  refine ⟨stands, rfl, later, fun tick copied => ?_, whole⟩
  rw [copy tick copied]
  exact later

/-! ## One call -/

/-- A decision that names the cause of its drop is given one fate. -/
theorem counted_fates (counters : Counters) {decision : Decision}
    (caused : decision.verdict = .drop → decision.cause ≠ .notDropped) :
    fates (counters.counted decision) = fates counters + 1 := by
  obtain ⟨verdict, cause, release, duplicate, corrupt, backlog⟩ := decision
  simp only [Counters.counted]
  cases verdict with
  | pass => simp only [fates]; omega
  | delay => simp only [fates]; omega
  | reorder => simp only [fates]; omega
  | drop =>
    cases cause with
    | notDropped => exact absurd rfl (caused rfl)
    | loss => simp only [fates]; omega
    | blackout => simp only [fates]; omega
    | mtu => simp only [fates]; omega
    | rateQueueFull => simp only [fates]; omega
    | rateOversize => simp only [fates]; omega

theorem counted_frame (counters : Counters) (decision : Decision) :
    (counters.counted decision).seen = counters.seen ∧
      (counters.counted decision).wireBytesOut = counters.wireBytesOut := by
  unfold Counters.counted
  split
  · exact ⟨rfl, rfl⟩
  · exact ⟨rfl, rfl⟩
  · exact ⟨rfl, rfl⟩
  · split <;> exact ⟨rfl, rfl⟩

/-- Every finished decision is counted once, and its bytes out unless it is a
drop. -/
theorem finish_counts (counters : Counters) {decision : Decision}
    (caused : decision.verdict = .drop → decision.cause ≠ .notDropped) :
    (counters.finish wireBytes decision).seen = counters.seen ∧
    fates (counters.finish wireBytes decision) = fates counters + 1 ∧
    (counters.finish wireBytes decision).wireBytesOut = counters.wireBytesOut +
      (if decision.verdict ≠ .drop then wireBytes.toNat else 0) := by
  obtain ⟨seen, out⟩ := counted_frame counters decision
  have given := counted_fates counters caused
  unfold Counters.finish
  generalize counters.counted decision = counted at seen out given
  dsimp only
  by_cases fate : decision.verdict ≠ .drop
  · rw [if_pos fate, if_pos fate]
    unfold fates at given ⊢
    exact ⟨seen, given, congrArg (· + wireBytes.toNat) out⟩
  · rw [if_neg fate, if_neg fate]
    unfold fates at given ⊢
    exact ⟨seen, given, out⟩

/-- The on-wire bytes of a datagram, if it is released. -/
def outBytes (entry : Entry) : ℕ :=
  if entry.decision.verdict ≠ .drop then entry.wireBytes.toNat else 0

/-- What one call adds to the counters. -/
structure Counted (entry : Entry) : Prop where
  profile : entry.left.profile = entry.found.profile
  seen : entry.left.counters.seen = entry.found.counters.seen + 1
  fates : fates entry.left.counters = fates entry.found.counters + 1
  bytes : entry.left.counters.wireBytesOut = entry.found.counters.wireBytesOut +
    (outBytes entry + copyBytes entry.wireBytes entry.decision.duplicate)

/-- What is queued rounds up to some bytes. -/
theorem backlogBytes_pos {queue : QueueState} (some : 0 < queue.backlog) :
    0 < queue.backlogBytes := by
  rw [QueueState.backlogBytes, divCeil_eq, lt_min_iff]
  constructor
  · by_contra none
    have covers := le_smul_ceilDiv nano_pos (b := queue.backlog)
    rw [Nat.eq_zero_of_not_pos none, smul_zero] at covers
    omega
  · norm_num [u64Max]

theorem Refused.backlog_le {found left : QueueState} {cause : DropCause}
    (refused : Refused active wireBytes now found left cause) : left.backlog ≤ found.backlog := by
  rcases refused.queue with same | ⟨rate, -, drained⟩
  · rw [same]
  · rw [drained]
    exact drained_le found rate.bytesPerSecond

/-- **One call attributes its drop honestly, and counts its datagram once.** -/
theorem decide_honest (flows : Flows engine.profile) :
    Honest (entry tables engine seq wireBytes now) ∧
      Counted (entry tables engine seq wireBytes now) := by
  obtain ⟨streams, bucket, queue, left, refusal⟩ :=
    @upstream_refused (engine.seen wireBytes) (activeProfile engine.profile now) wireBytes seq now
      (flows now)
  generalize staged : (engine.seen wireBytes).upstream (activeProfile engine.profile now) seq
    wireBytes now = outcome at left refusal
  obtain ⟨result, reached⟩ := outcome
  obtain rfl : reached = _ := left
  cases result with
  | error cause =>
    have refused := refusal cause rfl
    have decided := @Impairer.decide_dropped _ _ _ _ _ tables _ staged
    unfold entry
    rw [decided]
    obtain ⟨seen, given, out⟩ := @finish_counts wireBytes (engine.seen wireBytes).counters
      (dropped cause now queue) fun _ => refused.caused
    refine ⟨⟨⟨fun _ => refused.caused, fun _ => rfl⟩, fun full => ?_, refused.oversize,
      fun _ => refused.queue, fun _ => refused.backlog_le, fun stands => absurd rfl stands,
      fun _ => nofun⟩, rfl, seen, given, out⟩
    obtain ⟨some, fitted⟩ := refused.full full
    exact ⟨backlogBytes_pos some, some, fitted⟩
  | ok release =>
    have decided := @Impairer.decide_passed _ _ _ _ _ _ tables staged
    obtain ⟨stands, uncaused, later, copies, kept⟩ := @downstream_stands
      { engine.seen wireBytes with streams := streams, bucket := bucket, queue := queue }
      (activeProfile engine.profile now) wireBytes seq now release tables
    unfold entry
    rw [decided]
    generalize Impairer.downstream tables _ (activeProfile engine.profile now) seq wireBytes now
      release = passed at stands uncaused later copies kept
    obtain ⟨decision, reached⟩ := passed
    obtain ⟨seen, given, out⟩ :=
      @finish_counts wireBytes reached.counters decision fun drop => absurd drop stands
    refine ⟨⟨⟨(absurd · stands), (absurd uncaused ·)⟩, fun full => ?_, fun large => ?_,
      (absurd · stands), (absurd · stands), fun _ => later,
      fun tick copied => ⟨stands, copies tick copied⟩⟩,
      kept.profile, seen.trans kept.seen, given.trans (congrArg (· + 1) kept.fates), ?_⟩
    · exact nomatch uncaused.symm.trans full
    · exact nomatch uncaused.symm.trans large
    · rw [kept.bytes] at out
      exact out.trans (by rw [Nat.add_assoc, Nat.add_comm (copyBytes ..)]; rfl)

/-! ## A whole run -/

theorem entries_decide (ops : List Op) :
    entries tables engine (.decide seq wireBytes now :: ops) =
      entry tables engine seq wireBytes now ::
        entries tables (entry tables engine seq wireBytes now).left ops :=
  rfl

theorem ending_decide (ops : List Op) :
    ending tables engine (.decide seq wireBytes now :: ops) =
      ending tables (entry tables engine seq wireBytes now).left ops :=
  rfl

theorem entries_reseed (seed : UInt64) (ops : List Op) :
    entries tables engine (.reseed seed :: ops) = entries tables (engine.reseed seed) ops := by
  rw [entries]

theorem ending_reseed (seed : UInt64) (ops : List Op) :
    ending tables engine (.reseed seed :: ops) = ending tables (engine.reseed seed) ops := by
  rw [ending, apply]

theorem reseed_counters (seed : UInt64) : (engine.reseed seed).counters = engine.counters := by
  rw [Impairer.reseed, Impairer.withStreams]

theorem reseed_profile (seed : UInt64) : (engine.reseed seed).profile = engine.profile := by
  rw [Impairer.reseed, Impairer.withStreams]

/-- The counters balance, from any state on. -/
structure Balanced (before after : Counters) (entries : List Entry) : Prop where
  seen : after.seen = before.seen + entries.length
  fates : fates after = fates before + entries.length
  bytes : after.wireBytesOut =
    before.wireBytesOut + (releasedBytes entries + duplicatedBytes entries)

theorem releasedBytes_cons (entry : Entry) (entries : List Entry) :
    releasedBytes (entry :: entries) = outBytes entry + releasedBytes entries := by
  unfold releasedBytes outBytes
  by_cases stands : entry.decision.verdict ≠ .drop
  · rw [List.filter_cons_of_pos (by simpa using stands), if_pos stands, List.map_cons,
      List.sum_cons]
  · rw [List.filter_cons_of_neg (by simpa using stands), if_neg stands, Nat.zero_add]

theorem duplicatedBytes_cons (entry : Entry) (entries : List Entry) :
    duplicatedBytes (entry :: entries) =
      copyBytes entry.wireBytes entry.decision.duplicate + duplicatedBytes entries := by
  unfold duplicatedBytes
  cases copied : entry.decision.duplicate with
  | none => rw [List.filter_cons_of_neg (by simp [copied]), copyBytes, Nat.zero_add]
  | some tick =>
    rw [List.filter_cons_of_pos (by simp [copied]), copyBytes, List.map_cons, List.sum_cons]

theorem run_honest (flows : Flows engine.profile) (ops : List Op) :
    Balanced engine.counters (ending tables engine ops).counters (entries tables engine ops) ∧
      ∀ entry ∈ entries tables engine ops, Honest entry := by
  induction ops generalizing engine with
  | nil =>
    exact ⟨⟨(Nat.add_zero _).symm, (Nat.add_zero _).symm, (Nat.add_zero _).symm⟩,
      fun _ member => absurd member List.not_mem_nil⟩
  | cons op ops ih =>
    cases op with
    | reseed seed =>
      rw [entries_reseed, ending_reseed, ← reseed_counters seed]
      apply ih
      rw [reseed_profile]
      exact flows
    | decide seq wireBytes now =>
      obtain ⟨honest, counted⟩ := @decide_honest engine wireBytes seq now tables flows
      have found : (entry tables engine seq wireBytes now).found = engine := rfl
      rw [entries_decide, ending_decide]
      generalize entry tables engine seq wireBytes now = called at honest counted found
      subst found
      have flows : Flows called.left.profile := by
        rw [counted.profile]
        exact flows
      obtain ⟨balanced, rest⟩ := ih flows
      refine ⟨⟨?_, ?_, ?_⟩, fun other member => ?_⟩
      · rw [balanced.seen, counted.seen, List.length_cons, Nat.add_right_comm, Nat.add_assoc]
      · rw [balanced.fates, counted.fates, List.length_cons, Nat.add_right_comm, Nat.add_assoc]
      · rw [balanced.bytes, counted.bytes, releasedBytes_cons, duplicatedBytes_cons]
        omega
      · rcases List.mem_cons.mp member with rfl | later
        · exact honest
        · exact rest other later

/-! ## The engine as armed -/

/-- Each step of a validated timeline is valid as a profile of its own. -/
theorem validateTimeline_step {steps : List (TimelineStep DirectionProfile)} {previous : Option ℕ}
    (valid : DirectionProfile.validateTimeline previous steps = .ok ()) :
    ∀ step ∈ steps, step.profile.validate = .ok () := by
  induction steps generalizing previous with
  | nil => exact fun _ member => absurd member List.not_mem_nil
  | cons step steps ih =>
    unfold DirectionProfile.validateTimeline at valid
    dsimp only at valid
    split at valid
    · exact nomatch valid
    split at valid
    · exact nomatch valid
    split at valid
    · exact nomatch valid
    rename_i flat
    cases models : step.profile.validateModels with
    | error e =>
      rw [models] at valid
      exact nomatch valid
    | ok checked =>
      rw [models] at valid
      intro other member
      rcases List.mem_cons.mp member with rfl | later
      · have standing : other.profile.timeline = [] := by simpa using flat
        unfold DirectionProfile.validate
        rw [models, standing]
        rfl
      · exact ih valid other later

/-- What is in force is the profile itself or one of its steps. -/
theorem activeProfile_cases (profile : DirectionProfile) (now : ℕ) :
    activeProfile profile now = profile ∨
      ∃ step ∈ profile.timeline, activeProfile profile now = step.profile := by
  unfold activeProfile
  cases found : (profile.timeline.takeWhile fun step => step.atNs ≤ now).getLast? with
  | none => exact .inl rfl
  | some step =>
    have landed := List.mem_of_getLast? found
    exact .inr ⟨step, (List.takeWhile_prefix _).subset landed, rfl⟩

theorem normalise_rate (profile : DirectionProfile) : profile.normalise.rate = profile.rate :=
  normalise_keeps (fun _ _ => rfl) profile

theorem flows_normalised {profile : DirectionProfile} (valid : profile.validate = .ok ()) :
    Flows profile.normalisePatterns := by
  have steps : DirectionProfile.validateTimeline none profile.timeline = .ok () := by
    unfold DirectionProfile.validate at valid
    cases checked : profile.validateModels with
    | error e =>
      rw [checked] at valid
      exact nomatch valid
    | ok _ =>
      rw [checked] at valid
      exact valid
  intro now rate rated
  rcases activeProfile_cases profile.normalisePatterns now with base | ⟨step, member, landed⟩
  · rw [base] at rated
    exact validateModels_rate valid ((normalise_rate profile).symm.trans rated)
  · have timeline : profile.normalise.timeline = profile.timeline :=
      normalise_keeps (fun _ _ => rfl) profile
    simp only [DirectionProfile.normalisePatterns, timeline, List.mem_map] at member
    obtain ⟨armed, member, rfl⟩ := member
    rw [landed] at rated
    exact validateModels_rate (validateTimeline_step steps armed member)
      ((normalise_rate armed.profile).symm.trans rated)

theorem new_valid {profile : DirectionProfile} {seed : UInt64} {direction : Direction}
    (armed : Impairer.new profile seed direction = .ok engine) : profile.validate = .ok () := by
  unfold Impairer.new at armed
  cases checked : profile.validate with
  | error e =>
    rw [checked] at armed
    exact nomatch armed
  | ok _ => rfl

/-- Two datagrams fill a slow link's queue, a third finds it full, and one above
the burst is taken back out. -/
def crowding : List Op :=
  [.decide 0 1500 0, .decide 1 1500 0, .decide 2 1500 0, .reseed 7, .decide 3 2000 10000000000]

end Moqtap.Netem.Attribution
