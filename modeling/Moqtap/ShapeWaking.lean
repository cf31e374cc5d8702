import Moqtap.ShapeScheduler

/-!
Whether the shaping scheduler can lose a wake-up.

A class is parked while the discipline holds it back (`Settled`).  Declarations
keep it so, withdrawals and new rounds wake the whole bucket, and a grant keeps
it so unless it spends the last credit a parked class was waiting on and wakes
nobody (`Strands`): a run loses no wake-up exactly when none of its grants does
that (`no_lost_wake_iff`).
-/

namespace Moqtap.Shape.Waking

open Scheduler

variable {scheduler : Scheduler} {state : SchedState}

/-- The discipline's verdict on a class of `bucket`. -/
def blocked (scheduler : Scheduler) (state : SchedState) (index bucket : ℕ) : Bool :=
  match scheduler.profile.discipline with
  | .fifo => false
  | .strictPriority =>
    (scheduler.rivals state index bucket).any (scheduler.priority · > scheduler.priority index)
  | .weightedRoundRobin =>
    state.credits index = 0 && (scheduler.rivals state index bucket).any (state.credits · > 0)

/-- Asked in this state, the scheduler would answer that the class is starved. -/
def HeldBack (scheduler : Scheduler) (state : SchedState) (index : ℕ) : Prop :=
  ∀ bytes now, ∃ gate, (scheduler.acquire true state (.rule index) bytes now).1 = .starved gate

/-- Every class parked on a gate that is still closed is one the discipline
holds back. -/
def Settled (scheduler : Scheduler) (state : SchedState) : Prop :=
  ∀ index gate, state.parked index = some gate → state.released gate = false →
    HeldBack scheduler state index

/-- A class that was parked before the call and is eligible after it finds its
gate released. -/
def Wakes (scheduler : Scheduler) (before after : SchedState) : Prop :=
  ∀ index gate, before.parked index = some gate → ¬ HeldBack scheduler after index →
    after.released gate = true

/-- No state of the run leaves an eligible class parked, and no call makes a
parked class eligible without releasing its gate. -/
def NoLostWake (scheduler : Scheduler) : SchedState → List Call → Prop
  | state, [] => Settled scheduler state
  | state, call :: calls =>
    Settled scheduler state ∧ Wakes scheduler state (scheduler.step state call).2 ∧
      NoLostWake scheduler (scheduler.step state call).2 calls

/-- The call spends the last credit of a class, on a unit its bucket covers,
and the class is the only one with credits that some parked class waits on. -/
def Strands (scheduler : Scheduler) (state : SchedState) : Call → Prop
  | .acquire (.rule asker) bytes now =>
    scheduler.profile.discipline = .weightedRoundRobin ∧ state.credits asker = 1 ∧
    ∃ bucket config, scheduler.classBucket asker = some bucket ∧
      scheduler.profile.buckets[bucket]? = some config ∧
      (TokenBucket.charge scheduler.limit (state.buckets bucket) config.rateBps config.burstBytes
        bytes now).1 = .now ∧
      ∃ index, scheduler.classBucket index = some bucket ∧ (state.parked index).isSome ∧
        ∀ j ∈ scheduler.rivals state index bucket, 0 < state.credits j → j = asker
  | _ => False

/-- No call of the run strands a class. -/
def NoneStrands (scheduler : Scheduler) : SchedState → List Call → Prop
  | _, [] => True
  | state, call :: calls =>
    ¬ Strands scheduler state call ∧ NoneStrands scheduler (scheduler.step state call).2 calls

/-! ## The discipline's verdict -/

theorem blocked_congr {other : SchedState} (demand : other.demand = state.demand)
    (credits : other.credits = state.credits) (index bucket : ℕ) :
    blocked scheduler other index bucket = blocked scheduler state index bucket := by
  unfold blocked rivals
  rw [demand, credits]

/-- A held class is parked and nothing else changes; any other is let through,
with the round restarted and its bucket woken if the round was over. -/
theorem disciplineHolds_cases (index bucket : ℕ) :
    (blocked scheduler state index bucket = true ∧
      scheduler.disciplineHolds state index bucket =
        (some (park state index).1, (park state index).2)) ∨
    (blocked scheduler state index bucket = false ∧
      (scheduler.profile.discipline = .weightedRoundRobin → 0 < state.credits index) ∧
      scheduler.disciplineHolds state index bucket = (none, state)) ∨
    (blocked scheduler state index bucket = false ∧
      scheduler.profile.discipline = .weightedRoundRobin ∧ state.credits index = 0 ∧
      scheduler.disciplineHolds state index bucket =
        (none, scheduler.wakeBucket (scheduler.refillCredits state bucket) bucket)) := by
  unfold disciplineHolds blocked
  cases scheduler.profile.discipline with
  | fifo => exact .inr (.inl ⟨rfl, nofun, rfl⟩)
  | strictPriority =>
    dsimp only
    by_cases outranked :
      (scheduler.rivals state index bucket).any (scheduler.priority · > scheduler.priority index)
    · rw [if_pos outranked]
      exact .inl ⟨outranked, rfl⟩
    · rw [if_neg outranked]
      exact .inr (.inl ⟨Bool.eq_false_iff.mpr outranked, nofun, rfl⟩)
  | weightedRoundRobin =>
    dsimp only
    by_cases credit : state.credits index > 0
    · rw [if_pos credit]
      have unspent : ¬ state.credits index = 0 := by omega
      exact .inr (.inl ⟨by rw [decide_eq_false unspent, Bool.false_and], fun _ => credit, rfl⟩)
    · rw [if_neg credit]
      have spent : state.credits index = 0 := Nat.eq_zero_of_not_pos credit
      rw [decide_eq_true spent, Bool.true_and]
      by_cases going : (scheduler.rivals state index bucket).any (state.credits · > 0)
      · rw [if_pos going]
        exact .inl ⟨going, rfl⟩
      · rw [if_neg going]
        exact .inr (.inr ⟨Bool.eq_false_iff.mpr going, rfl, spent, rfl⟩)

/-- What the bucket decides leaves demand and gates alone; only a grant under
weighted round robin costs a credit. -/
theorem chargeBucket_cases (index bucket bytes now : ℕ) :
    (∀ gate, (scheduler.chargeBucket state index bucket bytes now).1 ≠ .starved gate) ∧
    ∃ buckets,
      ((scheduler.chargeBucket state index bucket bytes now).2 = { state with buckets := buckets } ∧
        ¬ (scheduler.profile.discipline = .weightedRoundRobin ∧
          ∃ config, scheduler.profile.buckets[bucket]? = some config ∧
            (TokenBucket.charge scheduler.limit (state.buckets bucket) config.rateBps
              config.burstBytes bytes now).1 = .now)) ∨
      ((scheduler.chargeBucket state index bucket bytes now).2 =
          { state with
            buckets := buckets
            credits := Function.update state.credits index (state.credits index - 1) } ∧
        scheduler.profile.discipline = .weightedRoundRobin ∧
          ∃ config, scheduler.profile.buckets[bucket]? = some config ∧
            (TokenBucket.charge scheduler.limit (state.buckets bucket) config.rateBps
              config.burstBytes bytes now).1 = .now) := by
  unfold chargeBucket
  cases configured : scheduler.profile.buckets[bucket]? with
  | none =>
    refine ⟨fun _ => nofun, state.buckets, .inl ⟨rfl, ?_⟩⟩
    rintro ⟨-, config, found, -⟩
    exact nomatch found
  | some config =>
    dsimp only
    generalize charges : TokenBucket.charge scheduler.limit (state.buckets bucket) config.rateBps
      config.burstBytes bytes now = charged
    obtain ⟨grant, charged⟩ := charged
    have refused : grant ≠ .now → ¬ (scheduler.profile.discipline = .weightedRoundRobin ∧
        ∃ other, some config = some other ∧
          (TokenBucket.charge scheduler.limit (state.buckets bucket) other.rateBps
            other.burstBytes bytes now).1 = .now) := by
      rintro stays ⟨-, other, same, goes⟩
      cases same
      rw [charges] at goes
      exact stays goes
    cases grant with
    | now =>
      refine ⟨fun _ => nofun, Function.update state.buckets bucket charged, ?_⟩
      unfold spend
      by_cases weighted : scheduler.profile.discipline = .weightedRoundRobin
      · rw [if_pos weighted]
        exact .inr ⟨rfl, weighted, config, rfl, by rw [charges]⟩
      · rw [if_neg weighted]
        exact .inl ⟨rfl, fun found => weighted found.1⟩
    | later instant => exact ⟨fun _ => nofun, _, .inl ⟨rfl, refused nofun⟩⟩
    | never => exact ⟨fun _ => nofun, _, .inl ⟨rfl, refused nofun⟩⟩
    | largerThanBurst burstBytes unitBytes =>
      exact ⟨fun _ => nofun, _, .inl ⟨rfl, refused nofun⟩⟩

theorem chargeBucket_frame (index bucket bytes now : ℕ) :
    (scheduler.chargeBucket state index bucket bytes now).2.parked = state.parked ∧
      (scheduler.chargeBucket state index bucket bytes now).2.released = state.released ∧
      (scheduler.chargeBucket state index bucket bytes now).2.demand = state.demand := by
  obtain ⟨-, buckets, ⟨charged, -⟩ | ⟨charged, -⟩⟩ :=
    @chargeBucket_cases scheduler state index bucket bytes now
  · rw [charged]
    exact ⟨rfl, rfl, rfl⟩
  · rw [charged]
    exact ⟨rfl, rfl, rfl⟩

section

variable {asker bucket bytes now : ℕ}

/-- **What one question does.** -/
theorem acquire_cases (charges : scheduler.classBucket asker = some bucket) :
    (blocked scheduler state asker bucket = true ∧
      scheduler.acquire true state (.rule asker) bytes now =
        (.starved (park state asker).1, (park state asker).2)) ∨
    (blocked scheduler state asker bucket = false ∧
      (scheduler.profile.discipline = .weightedRoundRobin → 0 < state.credits asker) ∧
      scheduler.acquire true state (.rule asker) bytes now =
        scheduler.chargeBucket state asker bucket bytes now) ∨
    (blocked scheduler state asker bucket = false ∧
      scheduler.profile.discipline = .weightedRoundRobin ∧ state.credits asker = 0 ∧
      scheduler.acquire true state (.rule asker) bytes now =
        scheduler.chargeBucket
          (scheduler.wakeBucket (scheduler.refillCredits state bucket) bucket) asker bucket
          bytes now) := by
  unfold acquire
  rw [if_neg (by decide)]
  dsimp only
  rw [charges]
  dsimp only
  rcases @disciplineHolds_cases scheduler state asker bucket with
    ⟨held, holds⟩ | ⟨free, credit, holds⟩ | ⟨free, weighted, spent, holds⟩
  · rw [holds]
    exact .inl ⟨held, rfl⟩
  · rw [holds]
    exact .inr (.inl ⟨free, credit, rfl⟩)
  · rw [holds]
    exact .inr (.inr ⟨free, weighted, spent, rfl⟩)

theorem acquire_unasked (unknown : scheduler.classBucket asker = none) :
    scheduler.acquire true state (.rule asker) bytes now = (.now, state) := by
  unfold acquire
  rw [if_neg (by decide)]
  dsimp only
  rw [unknown]

end

/-- The answer does not depend on the unit. -/
theorem heldBack_iff {index : ℕ} :
    HeldBack scheduler state index ↔
      ∃ bucket, scheduler.classBucket index = some bucket ∧
        blocked scheduler state index bucket = true := by
  constructor
  · intro held
    obtain ⟨gate, starved⟩ := held 0 0
    cases charges : scheduler.classBucket index with
    | none =>
      rw [acquire_unasked charges] at starved
      exact nomatch starved
    | some bucket =>
      refine ⟨bucket, rfl, ?_⟩
      rcases @acquire_cases _ state _ _ 0 0 charges with
        ⟨held, -⟩ | ⟨-, -, asked⟩ | ⟨-, -, -, asked⟩
      · exact held
      · rw [asked] at starved
        exact absurd starved ((chargeBucket_cases ..).1 gate)
      · rw [asked] at starved
        exact absurd starved ((chargeBucket_cases ..).1 gate)
  · rintro ⟨bucket, charges, held⟩ bytes now
    rcases @acquire_cases _ state _ _ bytes now charges with ⟨-, asked⟩ | ⟨free, -⟩ | ⟨free, -⟩
    · exact ⟨_, congrArg Prod.fst asked⟩
    · exact absurd held (by rw [free]; decide)
    · exact absurd held (by rw [free]; decide)

theorem heldBack_congr {other : SchedState} (demand : other.demand = state.demand)
    (credits : other.credits = state.credits) (index : ℕ) :
    HeldBack scheduler other index ↔ HeldBack scheduler state index := by
  rw [heldBack_iff, heldBack_iff]
  simp only [blocked_congr demand credits]

/-! ## Gates -/

/-- A parked class's gate is closed and its own. -/
structure Minted (state : SchedState) : Prop where
  made : ∀ {index gate}, state.parked index = some gate → gate.id < state.made
  closed : ∀ {index gate}, state.parked index = some gate → state.released gate = false
  own : ∀ {i j gate}, state.parked i = some gate → state.parked j = some gate → i = j
  opened : ∀ {gate}, state.released gate = true → gate.id < state.made

theorem Minted.of_same {other : SchedState} (minted : Minted state)
    (parked : other.parked = state.parked) (released : other.released = state.released)
    (made : other.made = state.made) : Minted other where
  made found := by
    rw [parked] at found
    rw [made]
    exact minted.made found
  closed found := by
    rw [parked] at found
    rw [released]
    exact minted.closed found
  own mine theirs := by
    rw [parked] at mine theirs
    exact minted.own mine theirs
  opened found := by
    rw [released] at found
    rw [made]
    exact minted.opened found

/-- Parking keeps every gate, and may put a new one in the class's slot. -/
theorem park_parked {index other : ℕ} {gate : Gate}
    (found : (park state index).2.parked other = some gate) :
    state.parked other = some gate ∨
      other = index ∧ gate = ⟨state.made⟩ ∧ (park state index).2.made = state.made + 1 := by
  unfold park at found ⊢
  cases parked : state.parked index with
  | some held =>
    rw [parked] at found
    exact .inl found
  | none =>
    rw [parked] at found
    dsimp only at found
    by_cases own : other = index
    · subst own
      rw [Function.update_self] at found
      exact .inr ⟨rfl, (Option.some.inj found).symm, rfl⟩
    · rw [Function.update_of_ne own] at found
      exact .inl found

theorem park_frame (state : SchedState) (index : ℕ) :
    (park state index).2.released = state.released ∧ state.made ≤ (park state index).2.made ∧
      (park state index).2.demand = state.demand ∧
      (park state index).2.credits = state.credits := by
  unfold park
  split
  · exact ⟨rfl, le_rfl, rfl, rfl⟩
  · exact ⟨rfl, Nat.le_succ _, rfl, rfl⟩

theorem park_minted (minted : Minted state) (index : ℕ) : Minted (park state index).2 := by
  obtain ⟨released, made, -, -⟩ := park_frame state index
  -- the new gate is none of those made before
  have fresh : ∀ {other}, state.parked other = some ⟨state.made⟩ → False :=
    fun found => absurd (minted.made found) (Nat.lt_irrefl _)
  constructor
  · intro other gate found
    rcases park_parked found with before | ⟨-, rfl, next⟩
    · exact (minted.made before).trans_le made
    · rw [next]
      exact Nat.lt_succ_self _
  · intro other gate found
    rw [released]
    rcases park_parked found with before | ⟨-, rfl, -⟩
    · exact minted.closed before
    · apply Bool.eq_false_iff.mpr
      intro opened
      exact absurd (minted.opened opened) (Nat.lt_irrefl _)
  · intro i j gate mine theirs
    rcases park_parked mine with before | ⟨rfl, rfl, -⟩
    · rcases park_parked theirs with before' | ⟨rfl, rfl, -⟩
      · exact minted.own before before'
      · exact absurd before fresh
    · rcases park_parked theirs with before' | ⟨rfl, -, -⟩
      · exact absurd before' fresh
      · rfl
  · intro gate opened
    rw [released] at opened
    exact (minted.opened opened).trans_le made

theorem wakeBucket_released {bucket : ℕ} {gate : Gate} :
    (scheduler.wakeBucket state bucket).released gate = true ↔
      state.released gate = true ∨ ∃ j < scheduler.profile.classes.length,
        scheduler.classBucket j = some bucket ∧ state.parked j = some gate := by
  unfold wakeBucket
  simp only [Bool.or_eq_true, List.any_eq_true, List.mem_range, decide_eq_true_eq]

theorem wakeBucket_parked {bucket index : ℕ} {gate : Gate} :
    (scheduler.wakeBucket state bucket).parked index = some gate ↔
      scheduler.classBucket index ≠ some bucket ∧ state.parked index = some gate := by
  unfold wakeBucket
  dsimp only
  split
  · rename_i woken
    exact ⟨nofun, fun found => absurd woken found.1⟩
  · rename_i left
    exact ⟨fun found => ⟨left, found⟩, fun found => found.2⟩

theorem wakeBucket_minted (minted : Minted state) (bucket : ℕ) :
    Minted (scheduler.wakeBucket state bucket) := by
  constructor
  · intro index gate found
    exact minted.made (wakeBucket_parked.mp found).2
  · intro index gate found
    obtain ⟨left, found⟩ := wakeBucket_parked.mp found
    apply Bool.eq_false_iff.mpr
    intro opened
    rcases wakeBucket_released.mp opened with already | ⟨j, -, woken, parked⟩
    · exact absurd already (by rw [minted.closed found]; decide)
    · rw [minted.own parked found] at woken
      exact left woken
  · intro i j gate mine theirs
    exact minted.own (wakeBucket_parked.mp mine).2 (wakeBucket_parked.mp theirs).2
  · intro gate opened
    rcases wakeBucket_released.mp opened with already | ⟨j, -, -, parked⟩
    · exact minted.opened already
    · exact minted.made parked

theorem chargeBucket_minted (minted : Minted state) (index bucket bytes now : ℕ) :
    Minted (scheduler.chargeBucket state index bucket bytes now).2 := by
  obtain ⟨-, buckets, ⟨charged, -⟩ | ⟨charged, -⟩⟩ :=
    @chargeBucket_cases scheduler state index bucket bytes now
  · rw [charged]
    exact minted.of_same rfl rfl rfl
  · rw [charged]
    exact minted.of_same rfl rfl rfl

theorem step_minted (minted : Minted state) (call : Call) :
    Minted (scheduler.step state call).2 := by
  cases call with
  | declareDemand row =>
    cases row with
    | default => exact minted
    | unshapeable => exact minted
    | rule index =>
      unfold step declareDemand
      dsimp only
      split
      · exact minted.of_same rfl rfl rfl
      · exact minted
  | withdrawDemand row =>
    cases row with
    | default => exact minted
    | unshapeable => exact minted
    | rule index =>
      unfold step withdrawDemand
      dsimp only
      split
      · exact minted
      · apply wakeBucket_minted
        exact minted.of_same rfl rfl rfl
  | acquire row bytes now =>
    cases row with
    | default => exact minted
    | unshapeable => exact minted
    | rule asker =>
      unfold step
      dsimp only
      cases charges : scheduler.classBucket asker with
      | none =>
        rw [acquire_unasked charges]
        exact minted
      | some bucket =>
        rcases @acquire_cases _ state _ _ bytes now charges with
          ⟨-, asked⟩ | ⟨-, -, asked⟩ | ⟨-, -, -, asked⟩
        · rw [asked]
          exact park_minted minted asker
        · rw [asked]
          exact chargeBucket_minted minted asker bucket bytes now
        · rw [asked]
          apply chargeBucket_minted
          apply wakeBucket_minted
          exact minted.of_same rfl rfl rfl

/-! ## One call -/

/-- A gate leaves its slot only by being released. -/
def Leaves (before after : SchedState) : Prop :=
  ∀ index gate, before.parked index = some gate →
    after.parked index = some gate ∨ after.released gate = true

theorem wakeBucket_leaves (bucket : ℕ) : Leaves state (scheduler.wakeBucket state bucket) := by
  intro index gate found
  by_cases woken : scheduler.classBucket index = some bucket
  · refine .inr (wakeBucket_released.mpr (.inr ⟨index, ?_, woken, found⟩))
    by_contra beyond
    rw [classBucket, List.getElem?_eq_none (Nat.le_of_not_lt beyond)] at woken
    exact nomatch woken
  · exact .inl (wakeBucket_parked.mpr ⟨woken, found⟩)

theorem chargeBucket_leaves {before : SchedState} (leaves : Leaves before state)
    (index bucket bytes now : ℕ) :
    Leaves before (scheduler.chargeBucket state index bucket bytes now).2 := by
  obtain ⟨-, buckets, ⟨charged, -⟩ | ⟨charged, -⟩⟩ :=
    @chargeBucket_cases scheduler state index bucket bytes now
  · rw [charged]
    exact leaves
  · rw [charged]
    exact leaves

theorem park_leaves (index : ℕ) : Leaves state (park state index).2 := by
  intro other gate found
  unfold park
  cases parked : state.parked index with
  | some held => exact .inl found
  | none =>
    refine .inl ?_
    dsimp only
    rw [Function.update_of_ne, found]
    rintro rfl
    exact nomatch parked.symm.trans found

theorem step_leaves (call : Call) : Leaves state (scheduler.step state call).2 := by
  have stays : Leaves state state := fun _ _ found => .inl found
  cases call with
  | declareDemand row =>
    cases row with
    | default => exact stays
    | unshapeable => exact stays
    | rule index =>
      unfold step declareDemand
      dsimp only
      split
      · exact stays
      · exact stays
  | withdrawDemand row =>
    cases row with
    | default => exact stays
    | unshapeable => exact stays
    | rule index =>
      unfold step withdrawDemand
      dsimp only
      split
      · exact stays
      · exact wakeBucket_leaves _
  | acquire row bytes now =>
    cases row with
    | default => exact stays
    | unshapeable => exact stays
    | rule asker =>
      unfold step
      dsimp only
      cases charges : scheduler.classBucket asker with
      | none =>
        rw [acquire_unasked charges]
        exact stays
      | some bucket =>
        rcases @acquire_cases _ state _ _ bytes now charges with
          ⟨-, asked⟩ | ⟨-, -, asked⟩ | ⟨-, -, -, asked⟩
        · rw [asked]
          exact park_leaves asker
        · rw [asked]
          exact chargeBucket_leaves stays asker bucket bytes now
        · rw [asked]
          apply chargeBucket_leaves
          exact wakeBucket_leaves bucket

/-- Under weighted round robin only which classes have credit matters. -/
theorem blocked_weighted (weighted : scheduler.profile.discipline = .weightedRoundRobin)
    {index bucket : ℕ} :
    blocked scheduler state index bucket = true ↔
      state.credits index = 0 ∧
        ∃ j ∈ scheduler.rivals state index bucket, 0 < state.credits j := by
  unfold blocked
  rw [weighted]
  simp only [Bool.and_eq_true, decide_eq_true_eq, List.any_eq_true, gt_iff_lt]

theorem rivals_congr {other : SchedState} (demand : other.demand = state.demand)
    (index bucket : ℕ) :
    scheduler.rivals other index bucket = scheduler.rivals state index bucket := by
  unfold rivals
  rw [demand]

/-- A charge leaves every parked class held back, unless it strands one. -/
theorem charge_settled_iff {asker bucket bytes now : ℕ} (minted : Minted state)
    (settled : Settled scheduler state) (charges : scheduler.classBucket asker = some bucket) :
    Settled scheduler (scheduler.chargeBucket state asker bucket bytes now).2 ↔
      ¬ Strands scheduler state (.acquire (.rule asker) bytes now) := by
  obtain ⟨parked, released, demand⟩ :=
    @chargeBucket_frame scheduler state asker bucket bytes now
  unfold Settled
  rw [parked, released]
  obtain ⟨-, buckets, ⟨charged, unpaid⟩ | ⟨charged, weighted, config, configured, goes⟩⟩ :=
    @chargeBucket_cases scheduler state asker bucket bytes now
  · have credits := congrArg SchedState.credits charged
    refine iff_of_true ?_ ?_
    · intro index gate found closed
      rw [heldBack_congr demand credits]
      exact settled index gate found closed
    · rintro ⟨weighted, -, other, config, same, configured, goes, -⟩
      rw [Option.some.inj (same.symm.trans charges)] at configured goes
      exact unpaid ⟨weighted, config, configured, goes⟩
  · have credits := congrArg SchedState.credits charged
    dsimp only at credits
    by_cases last : state.credits asker = 1
    · constructor
      · rintro settled' ⟨-, -, other, -, same, -, -, index, shares, waits, only⟩
        obtain ⟨gate, found⟩ := Option.isSome_iff_exists.mp waits
        obtain ⟨held, own, verdict⟩ := heldBack_iff.mp (settled' index gate found
          (minted.closed found))
        obtain ⟨-, j, rival, credit⟩ := (blocked_weighted weighted).mp verdict
        rw [Option.some.inj (own.symm.trans shares), rivals_congr demand] at rival
        rw [credits] at credit
        by_cases spender : j = asker
        · rw [spender, Function.update_self, last] at credit
          exact absurd credit (Nat.lt_irrefl _)
        · rw [Function.update_of_ne spender] at credit
          exact spender (only j rival credit)
      · intro strands index gate found closed
        obtain ⟨shared, shares, verdict⟩ := heldBack_iff.mp (settled index gate found closed)
        obtain ⟨spent, j, rival, credit⟩ := (blocked_weighted weighted).mp verdict
        have other : index ≠ asker := by
          rintro rfl
          omega
        refine heldBack_iff.mpr ⟨shared, shares, (blocked_weighted weighted).mpr ?_⟩
        rw [credits, rivals_congr demand]
        constructor
        · rw [Function.update_of_ne other]
          exact spent
        · by_contra none
          -- then the asker was all the parked class waited on
          have only : ∀ k ∈ scheduler.rivals state index shared, 0 < state.credits k →
              k = asker := by
            intro k waits some
            by_contra spender
            refine none ⟨k, waits, ?_⟩
            rw [Function.update_of_ne spender]
            exact some
          have spender := only j rival credit
          rw [spender] at rival
          have same : scheduler.classBucket asker = some shared :=
            (of_decide_eq_true (List.mem_filter.mp rival).2).2.1
          obtain rfl := Option.some.inj (same.symm.trans charges)
          exact strands ⟨weighted, last, shared, config, charges, configured, goes, index, shares,
            Option.isSome_iff_exists.mpr ⟨gate, found⟩, only⟩
    · refine iff_of_true ?_ fun strands => last strands.2.1
      -- whoever had credit has some left
      have signs : ∀ j, 0 < Function.update state.credits asker (state.credits asker - 1) j ↔
          0 < state.credits j := by
        intro j
        by_cases spender : j = asker
        · rw [spender, Function.update_self]
          omega
        · rw [Function.update_of_ne spender]
      intro index gate found closed
      obtain ⟨shared, shares, verdict⟩ := heldBack_iff.mp (settled index gate found closed)
      obtain ⟨spent, j, rival, credit⟩ := (blocked_weighted weighted).mp verdict
      refine heldBack_iff.mpr ⟨shared, shares, (blocked_weighted weighted).mpr ?_⟩
      rw [credits, rivals_congr demand]
      refine ⟨Nat.eq_zero_of_not_pos ?_, j, rival, (signs j).mpr credit⟩
      rw [signs]
      omega

/-- More demand holds no class back less. -/
theorem declareDemand_settled (settled : Settled scheduler state) (row : Egress.Class) :
    Settled scheduler (scheduler.declareDemand state row) := by
  cases row with
  | default => exact settled
  | unshapeable => exact settled
  | rule declared =>
    unfold declareDemand
    dsimp only
    split
    · intro index gate found closed
      obtain ⟨bucket, charges, verdict⟩ := heldBack_iff.mp (settled index gate found closed)
      refine heldBack_iff.mpr ⟨bucket, charges, ?_⟩
      have more : ∀ j ∈ scheduler.rivals state index bucket, j ∈ scheduler.rivals
          { state with demand := Function.update state.demand declared (state.demand declared + 1) }
          index bucket := by
        intro j rival
        unfold rivals at rival ⊢
        rw [List.mem_filter, decide_eq_true_iff] at rival ⊢
        refine ⟨rival.1, rival.2.1, rival.2.2.1, ?_⟩
        dsimp only
        by_cases own : j = declared
        · rw [own, Function.update_self]
          exact Nat.succ_pos _
        · rw [Function.update_of_ne own]
          exact rival.2.2.2
      unfold blocked at verdict ⊢
      cases discipline : scheduler.profile.discipline with
      | fifo =>
        rw [discipline] at verdict
        exact verdict
      | strictPriority =>
        rw [discipline] at verdict
        obtain ⟨j, rival, outranks⟩ := List.any_eq_true.mp verdict
        exact List.any_eq_true.mpr ⟨j, more j rival, outranks⟩
      | weightedRoundRobin =>
        rw [discipline] at verdict
        dsimp only at verdict ⊢
        rw [Bool.and_eq_true] at verdict ⊢
        obtain ⟨j, rival, credit⟩ := List.any_eq_true.mp verdict.2
        exact ⟨verdict.1, List.any_eq_true.mpr ⟨j, more j rival, credit⟩⟩
    · exact settled

/-- Classes of other buckets have no part in a verdict. -/
theorem blocked_elsewhere {other : SchedState} {index bucket : ℕ}
    (charges : scheduler.classBucket index = some bucket)
    (agree : ∀ j, scheduler.classBucket j = some bucket →
      other.demand j = state.demand j ∧ other.credits j = state.credits j) :
    blocked scheduler other index bucket = blocked scheduler state index bucket := by
  have rivals : scheduler.rivals other index bucket = scheduler.rivals state index bucket := by
    unfold Scheduler.rivals
    apply List.filter_congr
    intro j _
    by_cases shares : scheduler.classBucket j = some bucket
    · rw [(agree j shares).1]
    · simp only [shares, false_and, and_false]
  unfold blocked
  rw [rivals, (agree index charges).2]
  cases scheduler.profile.discipline with
  | fifo => rfl
  | strictPriority => rfl
  | weightedRoundRobin =>
    dsimp only
    congr 1
    rw [Bool.eq_iff_iff, List.any_eq_true, List.any_eq_true]
    have same : ∀ j ∈ scheduler.rivals state index bucket, other.credits j = state.credits j :=
      fun j rival => (agree j (of_decide_eq_true (List.mem_filter.mp rival).2).2.1).2
    constructor
    · rintro ⟨j, rival, credit⟩
      exact ⟨j, rival, by rwa [same j rival] at credit⟩
    · rintro ⟨j, rival, credit⟩
      exact ⟨j, rival, by rwa [same j rival]⟩

/-- Waking the one bucket a call touches leaves only parked classes it did not
touch. -/
theorem wakeBucket_settled {other : SchedState} {bucket : ℕ} (settled : Settled scheduler state)
    (parked : other.parked = state.parked) (released : other.released = state.released)
    (agree : ∀ j, scheduler.classBucket j ≠ some bucket →
      other.demand j = state.demand j ∧ other.credits j = state.credits j) :
    Settled scheduler (scheduler.wakeBucket other bucket) := by
  intro index gate found closed
  obtain ⟨left, found⟩ := wakeBucket_parked.mp found
  rw [parked] at found
  have shut : state.released gate = false := by
    apply Bool.eq_false_iff.mpr
    intro opened
    rw [← released] at opened
    rw [wakeBucket_released.mpr (.inl opened)] at closed
    exact nomatch closed
  obtain ⟨own, charges, verdict⟩ := heldBack_iff.mp (settled index gate found shut)
  refine heldBack_iff.mpr ⟨own, charges, ?_⟩
  have apart : own ≠ bucket := by
    rintro rfl
    exact left charges
  rw [← verdict]
  apply blocked_elsewhere charges
  intro j shares
  exact agree j fun same => apart (Option.some.inj (shares.symm.trans same))

theorem park_settled {asker bucket : ℕ} (settled : Settled scheduler state)
    (charges : scheduler.classBucket asker = some bucket)
    (verdict : blocked scheduler state asker bucket = true) :
    Settled scheduler (park state asker).2 := by
  obtain ⟨released, -, demand, credits⟩ := park_frame state asker
  intro index gate found closed
  rw [heldBack_congr demand credits]
  rw [released] at closed
  rcases park_parked found with before | ⟨rfl, -, -⟩
  · exact settled index gate before closed
  · exact heldBack_iff.mpr ⟨bucket, charges, verdict⟩

/-- **One call keeps every parked class held back, unless it strands one.** -/
theorem step_settled_iff (minted : Minted state) (settled : Settled scheduler state)
    (call : Call) :
    Settled scheduler (scheduler.step state call).2 ↔ ¬ Strands scheduler state call := by
  cases call with
  | declareDemand row => exact iff_of_true (declareDemand_settled settled row) id
  | withdrawDemand row =>
    refine iff_of_true ?_ id
    cases row with
    | default => exact settled
    | unshapeable => exact settled
    | rule index =>
      unfold step withdrawDemand
      dsimp only
      split
      · exact settled
      · rename_i bucket charges
        refine wakeBucket_settled settled ?_ ?_ fun j apart => ⟨?_, ?_⟩
        · rfl
        · rfl
        · apply Function.update_of_ne
          rintro rfl
          exact apart charges
        · rfl
  | acquire row bytes now =>
    cases row with
    | default => exact iff_of_true settled id
    | unshapeable => exact iff_of_true settled id
    | rule asker =>
      unfold step
      dsimp only
      cases charges : scheduler.classBucket asker with
      | none =>
        rw [acquire_unasked charges]
        refine iff_of_true settled ?_
        rintro ⟨-, -, bucket, -, found, -⟩
        exact nomatch charges.symm.trans found
      | some bucket =>
        rcases @acquire_cases _ state _ _ bytes now charges with
          ⟨verdict, asked⟩ | ⟨-, -, asked⟩ | ⟨-, weighted, spent, asked⟩
        · rw [asked]
          refine iff_of_true (park_settled settled charges verdict) ?_
          rintro ⟨weighted, last, -⟩
          obtain ⟨spent, -⟩ := (blocked_weighted weighted).mp verdict
          omega
        · rw [asked]
          exact charge_settled_iff minted settled charges
        · rw [asked]
          have woken : Settled scheduler
              (scheduler.wakeBucket (scheduler.refillCredits state bucket) bucket) := by
            unfold refillCredits
            refine wakeBucket_settled settled ?_ ?_ fun j apart => ⟨?_, if_neg apart⟩
            · rfl
            · rfl
            · rfl
          have remade : Minted
              (scheduler.wakeBucket (scheduler.refillCredits state bucket) bucket) := by
            apply wakeBucket_minted
            exact minted.of_same rfl rfl rfl
          refine iff_of_true ((charge_settled_iff remade woken charges).mpr ?_) ?_
          · rintro ⟨-, -, other, -, same, -, -, index, shares, waits, -⟩
            obtain ⟨gate, found⟩ := Option.isSome_iff_exists.mp waits
            rw [Option.some.inj (same.symm.trans charges)] at shares
            exact (wakeBucket_parked.mp found).1 shares
          · rintro ⟨-, last, -⟩
            omega

/-! ## Runs -/

theorem build_minted (created : ℕ) : Minted (scheduler.build created) :=
  ⟨nofun, nofun, nofun, nofun⟩

theorem build_settled (created : ℕ) : Settled scheduler (scheduler.build created) :=
  fun _ _ found => nomatch found

/-- In a settled state every gate still in its slot is that of a class held
back, so a class that is not finds its gate released. -/
theorem step_wakes (minted : Minted state) {call : Call}
    (settled : Settled scheduler (scheduler.step state call).2) :
    Wakes scheduler state (scheduler.step state call).2 := by
  intro index gate found eligible
  rcases @step_leaves scheduler state call index gate found with stays | opened
  · have next := @step_minted scheduler state minted call
    exact absurd (settled index gate stays (next.closed stays)) eligible
  · exact opened

theorem run_no_lost_wake_iff (minted : Minted state) (settled : Settled scheduler state)
    (calls : List Call) :
    NoLostWake scheduler state calls ↔ NoneStrands scheduler state calls := by
  induction calls generalizing state with
  | nil => exact iff_of_true settled trivial
  | cons call calls ih =>
    have next := @step_minted scheduler state minted call
    unfold NoLostWake NoneStrands
    constructor
    · rintro ⟨-, -, rest⟩
      have reached : Settled scheduler (scheduler.step state call).2 := by
        cases calls with
        | nil => exact rest
        | cons _ _ => exact rest.1
      exact ⟨(step_settled_iff minted settled call).mp reached, (ih next reached).mp rest⟩
    · rintro ⟨clear, rest⟩
      have reached := (step_settled_iff minted settled call).mpr clear
      exact ⟨settled, step_wakes minted reached, (ih next reached).mpr rest⟩

/-- **No wake-up is lost in a run exactly when none of its grants strands a
class**: spends the last credit that a parked class was waiting on. -/
theorem no_lost_wake_iff (scheduler : Scheduler) (created : ℕ) (calls : List Call) :
    NoLostWake scheduler (scheduler.build created) calls ↔
      NoneStrands scheduler (scheduler.build created) calls :=
  run_no_lost_wake_iff (build_minted created) (build_settled created) calls

/-- Two classes of one unlimited link, one release each in a round. -/
def turnAbout : Scheduler :=
  { profile :=
      { buckets := [{ name := "link", rateBps := none, burstBytes := 0 }]
        classes := [{ name := "audio", bucket := "link", weight := 1 },
          { name := "video", bucket := "link", weight := 1 }]
        queue := {}
        discipline := .weightedRoundRobin }
    limit := 0 }

/-- Audio is parked on video's credit, which video then spends. -/
def strandedAudio : List Call :=
  [.declareDemand (.rule 0), .declareDemand (.rule 1), .acquire (.rule 0) 1 0,
    .acquire (.rule 0) 1 0, .acquire (.rule 1) 1 0]

/-- Audio waits on a gate nobody has released, and would be granted. -/
theorem grant_strands_audio :
    ShapeProfile.tryNew turnAbout.profile.buckets turnAbout.profile.classes {}
      .weightedRoundRobin = .ok turnAbout.profile ∧
    (turnAbout.after (turnAbout.build 0) strandedAudio).parked 0 = some ⟨0⟩ ∧
    (turnAbout.after (turnAbout.build 0) strandedAudio).released ⟨0⟩ = false ∧
    ¬ Settled turnAbout (turnAbout.after (turnAbout.build 0) strandedAudio) := by
  have parked : (turnAbout.after (turnAbout.build 0) strandedAudio).parked 0 = some ⟨0⟩ := by
    decide +kernel
  have closed : (turnAbout.after (turnAbout.build 0) strandedAudio).released ⟨0⟩ = false := by
    decide +kernel
  refine ⟨by rfl, parked, closed, fun settled => ?_⟩
  obtain ⟨gate, starved⟩ := settled 0 ⟨0⟩ parked closed 1 0
  have granted : (turnAbout.acquire true (turnAbout.after (turnAbout.build 0) strandedAudio)
      (.rule 0) 1 0).1 = .now := by
    decide +kernel
  exact nomatch granted.symm.trans starved

end Moqtap.Shape.Waking
