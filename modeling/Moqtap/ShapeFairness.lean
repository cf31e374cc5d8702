import Mathlib
import Moqtap.ShapeScheduler

/-!
Weighted round robin shares a bucket by weight.

While two classes both hold something to send, a refill finds the credits of
both spent, so what either was granted is what its credits were short of whole
rounds (`Ledger`, kept by every call).  Two ledgers of the same rounds differ by
what is left of the rounds at either end (`ledgers_apart`).
-/

namespace Moqtap.Shape.Fairness

open Scheduler

variable {scheduler : Scheduler} {state : SchedState}

/-- A profile under weighted round robin, as validated. -/
structure Weighted (scheduler : Scheduler) : Prop where
  discipline : scheduler.profile.discipline = .weightedRoundRobin
  weighted : ∀ {index bucket}, scheduler.classBucket index = some bucket →
    0 < scheduler.weight index
  configured : ∀ {index bucket}, scheduler.classBucket index = some bucket →
    ∃ config, scheduler.profile.buckets[bucket]? = some config

/-- The round of `bucket` is over for the class that asks: it has no credit, and
no rival has one. -/
def roundOver (scheduler : Scheduler) (state : SchedState) (index bucket : ℕ) : Bool :=
  state.credits index = 0 ∧ ∀ j ∈ scheduler.rivals state index bucket, state.credits j = 0

/-- A call that starts a new round of `bucket`. -/
def refills (scheduler : Scheduler) (state : SchedState) (bucket : ℕ) : Call → Bool
  | .acquire (.rule index) _ _ =>
    scheduler.classBucket index = some bucket ∧ roundOver scheduler state index bucket
  | _ => false

/-- The units a run grants to a class. -/
def granted (scheduler : Scheduler) (index : ℕ) : SchedState → List Call → ℕ
  | _, [] => 0
  | state, call :: calls =>
    (match call with
      | .acquire row _ _ =>
        if row = .rule index ∧ (scheduler.step state call).1 = some .now then 1 else 0
      | _ => 0) +
    granted scheduler index (scheduler.step state call).2 calls

/-- The rounds of `bucket` a run starts. -/
def rounds (scheduler : Scheduler) (bucket : ℕ) : SchedState → List Call → ℕ
  | _, [] => 0
  | state, call :: calls =>
    (if refills scheduler state bucket call then 1 else 0) +
      rounds scheduler bucket (scheduler.step state call).2 calls

def asks : Call → Bool
  | .acquire _ _ _ => true
  | _ => false

/-- Whenever the scheduler is asked, the class holds something to send. -/
def Demanding (scheduler : Scheduler) (index : ℕ) : SchedState → List Call → Prop
  | _, [] => True
  | state, call :: calls =>
    (asks call → 0 < state.demand index) ∧
      Demanding scheduler index (scheduler.step state call).2 calls

instance decidableDemanding (scheduler : Scheduler) (index : ℕ) :
    ∀ state calls, Decidable (Demanding scheduler index state calls)
  | _, [] => isTrue trivial
  | state, call :: calls =>
    have := decidableDemanding scheduler index (scheduler.step state call).2 calls
    inferInstanceAs (Decidable (_ ∧ _))

/-! ## What a call does to the credits -/

theorem roundOver_iff {index bucket : ℕ} :
    roundOver scheduler state index bucket = true ↔
      state.credits index = 0 ∧
        ∀ j ∈ scheduler.rivals state index bucket, state.credits j = 0 := by
  rw [roundOver, decide_eq_true_iff]

theorem mem_rivals {index bucket j : ℕ} :
    j ∈ scheduler.rivals state index bucket ↔
      j < scheduler.profile.classes.length ∧ j ≠ index ∧
        scheduler.classBucket j = some bucket ∧ 0 < state.demand j := by
  simp only [rivals, List.mem_filter, List.mem_range, decide_eq_true_eq]

theorem park_credits (state : SchedState) (index : ℕ) :
    (park state index).2.credits = state.credits ∧
      (park state index).2.demand = state.demand := by
  unfold park
  split
  · exact ⟨rfl, rfl⟩
  · exact ⟨rfl, rfl⟩

/-- The credits the class is charged from: the round's, or those of a new one. -/
def dealt (scheduler : Scheduler) (state : SchedState) (index bucket : ℕ) : ℕ → ℕ :=
  if roundOver scheduler state index bucket then (scheduler.refillCredits state bucket).credits
  else state.credits

/-- The discipline holds back a class with no credit while a rival has one, and
otherwise deals a new round once the last is over. -/
theorem disciplineHolds_weighted (weighted : Weighted scheduler) {index bucket : ℕ}
    (charges : scheduler.classBucket index = some bucket) :
    (scheduler.disciplineHolds state index bucket).2.demand = state.demand ∧
    (scheduler.disciplineHolds state index bucket).2.credits =
      dealt scheduler state index bucket ∧
    ((scheduler.disciplineHolds state index bucket).1 = none →
      0 < dealt scheduler state index bucket index) := by
  unfold disciplineHolds dealt
  rw [weighted.discipline]
  dsimp only
  by_cases credit : state.credits index > 0
  · rw [if_pos credit, if_neg (fun ended => by
      rw [roundOver_iff] at ended
      omega)]
    exact ⟨rfl, rfl, fun _ => credit⟩
  · rw [if_neg credit]
    have spent : state.credits index = 0 := Nat.eq_zero_of_not_pos credit
    by_cases held : (scheduler.rivals state index bucket).any (state.credits · > 0)
    · have going : ¬ roundOver scheduler state index bucket = true := by
        rw [roundOver_iff]
        rintro ⟨-, none⟩
        obtain ⟨j, rival, some⟩ := List.any_eq_true.mp held
        rw [none j rival] at some
        exact absurd some (by decide)
      rw [if_pos held, if_neg going]
      obtain ⟨credits, demand⟩ := park_credits state index
      exact ⟨demand, credits, nofun⟩
    · have ended : roundOver scheduler state index bucket = true := by
        rw [roundOver_iff]
        refine ⟨spent, fun j rival => Nat.eq_zero_of_not_pos fun some => held ?_⟩
        exact List.any_eq_true.mpr ⟨j, rival, decide_eq_true some⟩
      rw [if_neg held, if_pos ended]
      refine ⟨rfl, rfl, fun _ => ?_⟩
      unfold refillCredits
      dsimp only
      rw [if_pos charges]
      exact weighted.weighted charges

/-- A unit the bucket grants costs a credit, and a refused one does not. -/
theorem chargeBucket_weighted (weighted : Weighted scheduler) {index bucket bytes now : ℕ}
    (charges : scheduler.classBucket index = some bucket) :
    (scheduler.chargeBucket state index bucket bytes now).2.demand = state.demand ∧
    (((scheduler.chargeBucket state index bucket bytes now).1 = .now ∧
        (scheduler.chargeBucket state index bucket bytes now).2.credits =
          Function.update state.credits index (state.credits index - 1)) ∨
      ((scheduler.chargeBucket state index bucket bytes now).1 ≠ .now ∧
        (scheduler.chargeBucket state index bucket bytes now).2.credits = state.credits)) := by
  obtain ⟨config, configured⟩ := weighted.configured charges
  unfold chargeBucket
  rw [configured]
  dsimp only
  generalize TokenBucket.charge scheduler.limit (state.buckets bucket) config.rateBps
    config.burstBytes bytes now = charged
  obtain ⟨grant, charged⟩ := charged
  cases grant with
  | now =>
    simp only [spend, if_pos weighted.discipline]
    exact ⟨trivial, .inl ⟨trivial, trivial⟩⟩
  | later instant => exact ⟨rfl, .inr ⟨nofun, rfl⟩⟩
  | never => exact ⟨rfl, .inr ⟨nofun, rfl⟩⟩
  | largerThanBurst burstBytes unitBytes => exact ⟨rfl, .inr ⟨nofun, rfl⟩⟩

theorem acquire_unknown {index bytes now : ℕ} (unknown : scheduler.classBucket index = none) :
    scheduler.acquire true state (.rule index) bytes now = (.now, state) := by
  unfold acquire
  rw [if_neg (by decide)]
  dsimp only
  rw [unknown]

/-- **What one question does to the credits.** -/
theorem acquire_weighted (weighted : Weighted scheduler) {index bucket bytes now : ℕ}
    (charges : scheduler.classBucket index = some bucket) :
    (scheduler.acquire true state (.rule index) bytes now).2.demand = state.demand ∧
    (((scheduler.acquire true state (.rule index) bytes now).1 = .now ∧
        0 < dealt scheduler state index bucket index ∧
        (scheduler.acquire true state (.rule index) bytes now).2.credits =
          Function.update (dealt scheduler state index bucket) index
            (dealt scheduler state index bucket index - 1)) ∨
      ((scheduler.acquire true state (.rule index) bytes now).1 ≠ .now ∧
        (scheduler.acquire true state (.rule index) bytes now).2.credits =
          dealt scheduler state index bucket)) := by
  obtain ⟨demand, credits, owed⟩ := @disciplineHolds_weighted _ state weighted _ _ charges
  unfold acquire
  rw [if_neg (by decide)]
  dsimp only
  rw [charges]
  dsimp only
  generalize scheduler.disciplineHolds state index bucket = answer at demand credits owed
  obtain ⟨gate, reached⟩ := answer
  cases gate with
  | some gate => exact ⟨demand, .inr ⟨nofun, credits⟩⟩
  | none =>
    dsimp only at demand credits owed ⊢
    rw [← credits, ← demand]
    rw [← credits] at owed
    obtain ⟨kept, ⟨now, paid⟩ | ⟨refused, unpaid⟩⟩ :=
      @chargeBucket_weighted _ reached weighted _ _ bytes now charges
    · exact ⟨kept, .inl ⟨now, owed rfl, paid⟩⟩
    · exact ⟨kept, .inr ⟨refused, unpaid⟩⟩

/-! ## Ledgers -/

/-- What a class was granted over `turns` rounds, between two counts of its
credits. -/
def Ledger (weight before spent turns after : ℕ) : Prop := spent + after = before + turns * weight

/-- A round that is over for one class of the bucket is over for every class that
holds something to send. -/
theorem roundOver_spent {index asker bucket : ℕ}
    (ended : roundOver scheduler state asker bucket = true)
    (charges : scheduler.classBucket index = some bucket) (demanding : 0 < state.demand index) :
    state.credits index = 0 := by
  obtain ⟨asking, others⟩ := roundOver_iff.mp ended
  by_cases own : index = asker
  · rw [own]
    exact asking
  · apply others index
    rw [mem_rivals]
    refine ⟨?_, own, charges, demanding⟩
    by_contra beyond
    rw [classBucket, List.getElem?_eq_none (Nat.le_of_not_lt beyond)] at charges
    exact nomatch charges

/-- A new round finds the credit of a class spent as long as the class holds
something to send, and leaves every other bucket's alone. -/
theorem dealt_ledger {index asker bucket asked bytes now : ℕ}
    (charges : scheduler.classBucket index = some bucket)
    (asks : scheduler.classBucket asker = some asked) (demanding : 0 < state.demand index) :
    dealt scheduler state asker asked index = state.credits index +
      (if refills scheduler state bucket (.acquire (.rule asker) bytes now) then 1 else 0) *
        scheduler.weight index := by
  unfold dealt refills
  by_cases ended : roundOver scheduler state asker asked = true
  · rw [if_pos ended]
    unfold refillCredits
    dsimp only
    by_cases same : asked = bucket
    · subst same
      rw [if_pos charges, if_pos (decide_eq_true ⟨asks, ended⟩), Nat.one_mul,
        roundOver_spent ended charges demanding, Nat.zero_add]
    · rw [if_neg fun found => same (Option.some.inj (found.symm.trans charges)),
        if_neg (by simp [asks, same]), Nat.zero_mul, Nat.add_zero]
  · rw [if_neg ended, if_neg, Nat.zero_mul, Nat.add_zero]
    rw [decide_eq_true_iff]
    rintro ⟨found, finished⟩
    rw [Option.some.inj (asks.symm.trans found)] at ended
    exact ended finished

/-- One question, in the ledger of a class of `bucket`. -/
theorem acquire_ledger (weighted : Weighted scheduler) {index asker bucket bytes now : ℕ}
    (charges : scheduler.classBucket index = some bucket) (demanding : 0 < state.demand index) :
    Ledger (scheduler.weight index) (state.credits index)
      (if asker = index ∧ (scheduler.acquire true state (.rule asker) bytes now).1 = .now
        then 1 else 0)
      (if refills scheduler state bucket (.acquire (.rule asker) bytes now) then 1 else 0)
      ((scheduler.acquire true state (.rule asker) bytes now).2.credits index) := by
  unfold Ledger
  cases asks : scheduler.classBucket asker with
  | none =>
    have other : asker ≠ index := by
      rintro rfl
      exact nomatch asks.symm.trans charges
    rw [acquire_unknown asks, if_neg (fun same => other same.1), if_neg (by simp [refills, asks])]
    dsimp only
    omega
  | some asked =>
    obtain ⟨-, ⟨goes, owed, paid⟩ | ⟨refused, unpaid⟩⟩ :=
      @acquire_weighted _ state weighted _ _ bytes now asks
    · rw [paid, ← @dealt_ledger _ _ index asker bucket asked bytes now charges asks demanding]
      by_cases own : asker = index
      · subst own
        rw [if_pos ⟨rfl, goes⟩, Function.update_self]
        omega
      · rw [if_neg (fun same => own same.1), Function.update_of_ne (Ne.symm own), Nat.zero_add]
    · rw [unpaid, ← @dealt_ledger _ _ index asker bucket asked bytes now charges asks demanding,
        if_neg (fun same => refused same.2), Nat.zero_add]

theorem Ledger.trans {weight before middle after spent spent' turns turns' : ℕ}
    (early : Ledger weight before spent turns middle)
    (late : Ledger weight middle spent' turns' after) :
    Ledger weight before (spent + spent') (turns + turns') after := by
  unfold Ledger at early late ⊢
  rw [Nat.add_mul]
  omega

/-! ## Runs -/

theorem declareDemand_credits (row : Egress.Class) :
    (scheduler.declareDemand state row).credits = state.credits := by
  cases row with
  | default => rfl
  | unshapeable => rfl
  | rule index =>
    unfold declareDemand
    dsimp only
    split
    · rfl
    · rfl

theorem withdrawDemand_credits (row : Egress.Class) :
    (scheduler.withdrawDemand state row).credits = state.credits := by
  cases row with
  | default => rfl
  | unshapeable => rfl
  | rule index =>
    unfold withdrawDemand
    dsimp only
    split
    · rfl
    · rfl

theorem after_cons (call : Call) (calls : List Call) :
    scheduler.after state (call :: calls) =
      scheduler.after (scheduler.step state call).2 calls :=
  rfl

/-- **What a class is granted over a run is whole rounds and what is left of the
rounds at either end.** -/
theorem run_ledger (weighted : Weighted scheduler) {index bucket : ℕ} {calls : List Call}
    (charges : scheduler.classBucket index = some bucket)
    (demanding : Demanding scheduler index state calls) :
    Ledger (scheduler.weight index) (state.credits index) (granted scheduler index state calls)
      (rounds scheduler bucket state calls) ((scheduler.after state calls).credits index) := by
  induction calls generalizing state with
  | nil =>
    unfold Ledger granted rounds after
    rw [Nat.zero_mul]
    exact Nat.add_comm ..
  | cons call calls ih =>
    obtain ⟨here, later⟩ := demanding
    have rest := ih later
    rw [after_cons]
    refine Ledger.trans ?_ rest
    cases call with
    | declareDemand row =>
      unfold Ledger step
      simp only [declareDemand_credits, refills, Bool.false_eq_true, if_false]
      omega
    | withdrawDemand row =>
      unfold Ledger step
      simp only [withdrawDemand_credits, refills, Bool.false_eq_true, if_false]
      omega
    | acquire row bytes now =>
      cases row with
      | rule asker =>
        have asked := @acquire_ledger _ state weighted _ asker _ bytes now charges (here rfl)
        simpa only [step, Egress.Class.rule.injEq, Option.some.injEq] using asked
      | default =>
        unfold Ledger step acquire
        simp only [refills, Bool.not_true, Bool.false_eq_true, if_false, reduceCtorEq, false_and]
        omega
      | unshapeable =>
        unfold Ledger step acquire
        simp only [refills, Bool.not_true, Bool.false_eq_true, if_false, reduceCtorEq, false_and]
        omega

/-- No class ever has more credit than its weight. -/
theorem step_within (weighted : Weighted scheduler) (call : Call)
    (within : ∀ index, state.credits index ≤ scheduler.weight index) (index : ℕ) :
    (scheduler.step state call).2.credits index ≤ scheduler.weight index := by
  cases call with
  | declareDemand row =>
    rw [step, declareDemand_credits]
    exact within index
  | withdrawDemand row =>
    rw [step, withdrawDemand_credits]
    exact within index
  | acquire row bytes now =>
    cases row with
    | default => exact within index
    | unshapeable => exact within index
    | rule asker =>
      cases asks : scheduler.classBucket asker with
      | none =>
        rw [step, acquire_unknown asks]
        exact within index
      | some asked =>
        have dealt_within : dealt scheduler state asker asked index ≤ scheduler.weight index := by
          unfold dealt refillCredits
          split
          · dsimp only
            split
            · exact le_rfl
            · exact within index
          · exact within index
        have next := (@acquire_weighted _ state weighted _ _ bytes now asks).2
        rw [step]
        rcases next with ⟨-, -, paid⟩ | ⟨-, unpaid⟩
        · dsimp only
          rw [paid]
          by_cases own : index = asker
          · subst own
            rw [Function.update_self]
            omega
          · rw [Function.update_of_ne own]
            exact dealt_within
        · dsimp only
          rw [unpaid]
          exact dealt_within

theorem run_within (weighted : Weighted scheduler) (calls : List Call)
    (within : ∀ index, state.credits index ≤ scheduler.weight index) (index : ℕ) :
    (scheduler.after state calls).credits index ≤ scheduler.weight index := by
  induction calls generalizing state with
  | nil => exact within index
  | cons call calls ih =>
    rw [after_cons]
    exact ih (step_within weighted call within)

/-! ## Two ledgers of the same rounds -/

section

variable {w w' c c' d d' n n' turns : ℕ}

/-- Two classes' shares of the same rounds differ by what is left of the rounds
at either end. -/
theorem ledgers_apart (mine : Ledger w c n turns d) (theirs : Ledger w' c' n' turns d') :
    (n : ℤ) * w' - n' * w = (c - d) * w' - (c' - d') * w := by
  unfold Ledger at mine theirs
  have mine : (n : ℤ) = c + turns * w - d := by
    have cast := congrArg (Nat.cast (R := ℤ)) mine
    push_cast at cast
    linarith
  have theirs : (n' : ℤ) = c' + turns * w' - d' := by
    have cast := congrArg (Nat.cast (R := ℤ)) theirs
    push_cast at cast
    linarith
  rw [mine, theirs]
  ring

/-- What is left of a round is at most a weight. -/
theorem share_le (within : c ≤ w) : (c : ℤ) * w' ≤ w * w' :=
  mul_le_mul_of_nonneg_right (Int.ofNat_le.mpr within) (Int.natCast_nonneg w')

theorem shares_near (mine : Ledger w c n turns d) (theirs : Ledger w' c' n' turns d')
    (within : c ≤ w) (within' : c' ≤ w') (left : d ≤ w) (left' : d' ≤ w') :
    |(n : ℤ) * w' - n' * w| ≤ 2 * w * w' := by
  rw [ledgers_apart mine theirs, abs_le]
  have bounds := @share_le w w' c within
  have bounds' := @share_le w' w c' within'
  have ends := @share_le w w' d left
  have ends' := @share_le w' w d' left'
  have positive : (0 : ℤ) ≤ c * w' := by positivity
  have positive' : (0 : ℤ) ≤ c' * w := by positivity
  have nonneg : (0 : ℤ) ≤ d * w' := by positivity
  have nonneg' : (0 : ℤ) ≤ d' * w := by positivity
  constructor <;> nlinarith

/-- From credits that are full, or all spent, one weight is enough. -/
theorem shares_nearer (mine : Ledger w c n turns d) (theirs : Ledger w' c' n' turns d')
    (even : (c = w ∧ c' = w') ∨ (c = 0 ∧ c' = 0)) (left : d ≤ w) (left' : d' ≤ w') :
    |(n : ℤ) * w' - n' * w| ≤ w * w' := by
  rw [ledgers_apart mine theirs, abs_le]
  have ends := @share_le w w' d left
  have ends' := @share_le w' w d' left'
  have nonneg : (0 : ℤ) ≤ d * w' := by positivity
  have nonneg' : (0 : ℤ) ≤ d' * w := by positivity
  rcases even with ⟨rfl, rfl⟩ | ⟨rfl, rfl⟩
  · constructor <;> nlinarith
  · constructor <;> push_cast <;> nlinarith

end

/-! ## A profile as validated -/

/-- What the validation of a profile ensures of its scheduler. -/
theorem tryNew_weighted {buckets : List BucketConfig} {classes : List ClassRule}
    {queue : QueueConfig}
    (valid : ShapeProfile.tryNew buckets classes queue .weightedRoundRobin =
      .ok scheduler.profile) : Weighted scheduler := by
  obtain ⟨profile, limit⟩ := scheduler
  unfold ShapeProfile.tryNew at valid
  split_ifs at valid
  split at valid
  · exact nomatch valid
  rename_i checked
  cases valid
  have sound := checkClasses_rule checked
  constructor
  · rfl
  · intro index bucket charges
    obtain ⟨rule, found, -⟩ := Option.map_eq_some_iff.mp charges
    unfold Scheduler.weight
    rw [found]
    exact (sound rule (List.mem_of_getElem? found)).2 rfl
  · intro index bucket charges
    exact checked_configured checked charges

/-- The stretch begins as a round does: at the scheduler's start, or with the
call that starts a round of the bucket. -/
def StartsRound (scheduler : Scheduler) (created bucket : ℕ) (prior stretch : List Call) : Prop :=
  prior = [] ∨ ∃ call rest, stretch = call :: rest ∧
    refills scheduler (scheduler.after (scheduler.build created) prior) bucket call

theorem refills_spent {index bucket : ℕ} {call : Call} {calls : List Call}
    (begins : refills scheduler state bucket call = true)
    (charges : scheduler.classBucket index = some bucket)
    (demanding : Demanding scheduler index state (call :: calls)) : state.credits index = 0 := by
  cases call with
  | declareDemand row => exact nomatch begins
  | withdrawDemand row => exact nomatch begins
  | acquire row bytes now =>
    cases row with
    | default => exact nomatch begins
    | unshapeable => exact nomatch begins
    | rule asker =>
      obtain ⟨-, ended⟩ := of_decide_eq_true begins
      exact roundOver_spent ended charges (demanding.1 rfl)

/-- **Weighted round robin shares a bucket by weight**, over any stretch of any
run in which two classes of the bucket hold something to send whenever the
scheduler is asked. -/
theorem shares_by_weight {buckets : List BucketConfig} {classes : List ClassRule}
    {queue : QueueConfig} {scheduler : Scheduler} {created bucket i j : ℕ}
    {prior stretch : List Call}
    (valid : ShapeProfile.tryNew buckets classes queue .weightedRoundRobin = .ok scheduler.profile)
    (mine : scheduler.classBucket i = some bucket) (theirs : scheduler.classBucket j = some bucket)
    (demanding : Demanding scheduler i (scheduler.after (scheduler.build created) prior) stretch)
    (demanding' : Demanding scheduler j (scheduler.after (scheduler.build created) prior) stretch) :
    let start := scheduler.after (scheduler.build created) prior
    let apart := |(granted scheduler i start stretch : ℤ) * scheduler.weight j -
      granted scheduler j start stretch * scheduler.weight i|
    apart ≤ 2 * scheduler.weight i * scheduler.weight j ∧
    (StartsRound scheduler created bucket prior stretch →
      apart ≤ scheduler.weight i * scheduler.weight j) := by
  have weighted := tryNew_weighted valid
  have within := @run_within _ (scheduler.build created) weighted prior fun _ => le_rfl
  have left := run_within weighted stretch within
  have ledger := run_ledger weighted mine demanding
  have ledger' := run_ledger weighted theirs demanding'
  refine ⟨shares_near ledger ledger' (within i) (within j) (left i) (left j), fun begins => ?_⟩
  apply shares_nearer ledger ledger' ?_ (left i) (left j)
  rcases begins with rfl | ⟨call, rest, rfl, begins⟩
  · exact .inl ⟨rfl, rfl⟩
  · exact .inr ⟨refills_spent begins mine demanding, refills_spent begins theirs demanding'⟩

/-- A link no rate limits, shared one to two. -/
def oneToTwo : Scheduler :=
  { profile :=
      { buckets := [{ name := "link", rateBps := none, burstBytes := 0 }]
        classes := [{ name := "audio", bucket := "link", weight := 1 },
          { name := "video", bucket := "link", weight := 2 }]
        queue := {}
        discipline := .weightedRoundRobin }
    limit := 0 }

/-- Both classes ask in turn for as long as it takes. -/
def takingTurns : List Call :=
  [.declareDemand (.rule 0), .declareDemand (.rule 1), .acquire (.rule 0) 1 0,
    .acquire (.rule 1) 1 0, .acquire (.rule 0) 1 0, .acquire (.rule 1) 1 0, .acquire (.rule 0) 1 0]

theorem shares_by_weight_oneToTwo :
    granted oneToTwo 0 (oneToTwo.build 0) takingTurns = 2 ∧
    granted oneToTwo 1 (oneToTwo.build 0) takingTurns = 2 ∧
    |(granted oneToTwo 0 (oneToTwo.build 0) takingTurns : ℤ) * oneToTwo.weight 1 -
      granted oneToTwo 1 (oneToTwo.build 0) takingTurns * oneToTwo.weight 0| ≤
        oneToTwo.weight 0 * oneToTwo.weight 1 := by
  refine ⟨by decide +kernel, by decide +kernel, ?_⟩
  have valid : ShapeProfile.tryNew oneToTwo.profile.buckets oneToTwo.profile.classes {}
      .weightedRoundRobin = .ok oneToTwo.profile := by rfl
  exact (@shares_by_weight _ _ _ oneToTwo 0 0 0 1 [] takingTurns valid (by decide) (by decide)
    (by decide +kernel) (by decide +kernel)).2 (.inl rfl)

end Moqtap.Shape.Fairness
