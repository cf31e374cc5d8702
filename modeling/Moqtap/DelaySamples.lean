import Mathlib
import Moqtap.DelayTables

/-!
What the delay sampler of `quinn-netem` computes, `sample_delay` of `model.rs`
with `tabledist` and `crandom` of `dist/mod.rs`.

Below 2^47 ns nothing overflows and nothing saturates, the filter stays between
the last draw and the word, and a table's sample is its entry scaled by the spread
and rounded half away from zero (`scaled_round`).  A uniform sample is the
32-bit draw folded into the window, so it fills a window no wider than 2^32
(`uniform_greatest`).
-/

namespace Moqtap.Netem

/-! ## The sampler at a word -/

/-- The delay models that draw. -/
inductive Jitter
  | uniform
  | normal
  | pareto
  | paretoNormal
  deriving DecidableEq, Repr

namespace Jitter

def model (jitter : Jitter) (meanNs spreadNs : ℕ) (rho : UInt8) : DelayModel :=
  match jitter with
  | .uniform => .uniform meanNs spreadNs rho
  | .normal => .normal meanNs spreadNs rho
  | .pareto => .pareto meanNs spreadNs rho
  | .paretoNormal => .paretoNormal meanNs spreadNs rho

def table : Jitter → Option DistTable
  | .uniform => none
  | .normal => some committedTables.normal
  | .pareto => some committedTables.pareto
  | .paretoNormal => some committedTables.paretonormal

end Jitter

/-- The sample at a word of the generator's. -/
def sampleAt (jitter : Jitter) (meanNs spreadNs : ℕ) (rho : UInt8) (corr : CorrState) (word : UInt32) : ℤ :=
  tabledist (saturatingNs meanNs) (saturatingNs spreadNs) (crandom corr rho word).1 jitter.table

theorem sampleDelay_at (jitter : Jitter) (meanNs spreadNs : ℕ) (rho : UInt8) (corr : CorrState) (rng : Pcg32) :
    sampleDelay committedTables rng corr (jitter.model meanNs spreadNs rho) =
      (sampleAt jitter meanNs spreadNs rho corr rng.nextU32.1, rng.nextU32.2,
        (crandom corr rho rng.nextU32.1).2) := by
  cases jitter with
  | uniform => rfl
  | normal => rfl
  | pareto => rfl
  | paretoNormal => rfl

/-- The place of the table a filtered draw selects. -/
def tableIndex (rnd : UInt32) : Fin tableLen :=
  have some : NeZero tableLen := ⟨by decide⟩
  Fin.ofNat tableLen rnd.toNat

/-- Every value `crandom` computes. -/
def crandomSteps (state : CorrState) (rho : UInt8) (draw : UInt32) : List ℕ :=
  let fresh := draw.toNat * (256 - rho.toNat)
  let held := state.last.toNat * rho.toNat
  [256 - rho.toNat, fresh, held, fresh + held, (fresh + held) / 256]

/-- Every value `tabledist` computes, were nothing to saturate. -/
def tabledistSteps (muNs sigmaNs : ℤ) (rnd : UInt32) (dist : Option DistTable) : List ℤ :=
  if sigmaNs ≤ 0 then [muNs]
  else
    match dist with
    | none =>
      let span := sigmaNs * 2
      let folded := (rnd.toNat : ℤ).tmod span
      [span, folded, folded + muNs, folded + muNs - sigmaNs]
    | some table =>
      let t := table (tableIndex rnd)
      let x := sigmaNs.tmod tableScale * t
      let rounded := x + if x ≥ 0 then tableScale / 2 else -(tableScale / 2)
      let whole := sigmaNs.tdiv tableScale * t
      [t, sigmaNs.tmod tableScale, x, rounded, rounded.tdiv tableScale, sigmaNs.tdiv tableScale, whole,
        rounded.tdiv tableScale + whole, rounded.tdiv tableScale + whole + muNs]

/-- Half away from zero. -/
def roundHalfAway (value : ℚ) : ℤ := if 0 ≤ value then ⌊value + 1 / 2⌋ else ⌈value - 1 / 2⌉

/-! ## The filter -/

variable {corr : CorrState} {rho : UInt8} {word : UInt32}

/-- A weighted mean lies between what it is of. -/
theorem blend_between {low high draw last weight : ℕ} (bounded : weight ≤ 256) (draws : low ≤ draw ∧ draw ≤ high)
    (held : low ≤ last ∧ last ≤ high) :
    low ≤ (draw * (256 - weight) + last * weight) / 256 ∧ (draw * (256 - weight) + last * weight) / 256 ≤ high := by
  have whole (value : ℕ) : value * (256 - weight) + value * weight = value * 256 := by
    rw [← Nat.mul_add]
    congr 1
    omega
  have lows := Nat.add_le_add (Nat.mul_le_mul_right (256 - weight) draws.1) (Nat.mul_le_mul_right weight held.1)
  have highs := Nat.add_le_add (Nat.mul_le_mul_right (256 - weight) draws.2) (Nat.mul_le_mul_right weight held.2)
  rw [whole] at lows highs
  omega

theorem crandom_exact (corr : CorrState) (rho : UInt8) (word : UInt32) :
    (crandom corr rho word).1.toNat =
      (word.toNat * (256 - rho.toNat) + corr.last.toNat * rho.toNat) / 256 := by
  have bounded : rho.toNat ≤ 256 := Nat.le_of_lt rho.toNat_lt
  have draws : 0 ≤ word.toNat ∧ word.toNat ≤ 2 ^ 32 - 1 := ⟨Nat.zero_le _, Nat.le_sub_one_of_lt word.toNat_lt⟩
  have held : 0 ≤ corr.last.toNat ∧ corr.last.toNat ≤ 2 ^ 32 - 1 :=
    ⟨Nat.zero_le _, Nat.le_sub_one_of_lt corr.last.toNat_lt⟩
  obtain ⟨-, small⟩ := blend_between bounded draws held
  apply UInt32.toNat_ofNat_of_lt'
  exact Nat.lt_of_le_of_lt small (by decide)

theorem crandom_between (corr : CorrState) (rho : UInt8) (word : UInt32) :
    min corr.last.toNat word.toNat ≤ (crandom corr rho word).1.toNat ∧
      (crandom corr rho word).1.toNat ≤ max corr.last.toNat word.toNat := by
  rw [crandom_exact]
  apply blend_between (Nat.le_of_lt rho.toNat_lt)
  · exact ⟨min_le_right .., le_max_right ..⟩
  · exact ⟨min_le_left .., le_max_left ..⟩

/-- Uncorrelated, the filter passes the word on. -/
theorem crandom_zero (corr : CorrState) (word : UInt32) : (crandom corr 0 word).1 = word := by
  apply UInt32.toNat_inj.mp
  rw [crandom_exact]
  simp

theorem crandomSteps_small (corr : CorrState) (rho : UInt8) (word : UInt32) :
    ∀ value ∈ crandomSteps corr rho word, value < 2 ^ 64 := by
  have draws := word.toNat_lt
  have held := corr.last.toNat_lt
  have fresh : word.toNat * (256 - rho.toNat) ≤ 2 ^ 32 * 256 := Nat.mul_le_mul (by omega) (by omega)
  have kept : corr.last.toNat * rho.toNat ≤ 2 ^ 32 * 256 :=
    Nat.mul_le_mul (by omega) (Nat.le_of_lt rho.toNat_lt)
  unfold crandomSteps
  simp only [List.mem_cons, List.not_mem_nil, or_false]
  rintro value (rfl | rfl | rfl | rfl | rfl)
  · omega
  · omega
  · omega
  · omega
  · omega

/-! ## The table arm -/

theorem roundHalfAway_ratio (n : ℤ) :
    roundHalfAway (n / 8192 : ℚ) = if 0 ≤ n then (n + 4096) / 8192 else -((-n + 4096) / 8192) := by
  have floors (m : ℤ) : ⌊(m / 8192 : ℚ) + 1 / 2⌋ = (m + 4096) / 8192 := by
    have ratio : (m / 8192 : ℚ) + 1 / 2 = ((m + 4096 : ℤ) : ℚ) / ((8192 : ℕ) : ℚ) := by
      push_cast
      ring
    rw [ratio, Rat.floor_intCast_div_natCast]
    rfl
  unfold roundHalfAway
  by_cases positive : 0 ≤ n
  · have ratio : (0 : ℚ) ≤ n / 8192 := by positivity
    rw [if_pos ratio, if_pos positive, floors]
  · have below : (n : ℚ) < 0 := by exact_mod_cast not_le.mp positive
    have ratio : ¬ (0 : ℚ) ≤ n / 8192 := by
      apply not_le.mpr
      exact div_neg_of_neg_of_pos below (by norm_num)
    have turned : (n / 8192 : ℚ) - 1 / 2 = -(((-n : ℤ) / 8192 : ℚ) + 1 / 2) := by
      push_cast
      ring
    rw [if_neg ratio, if_neg positive, turned, Int.ceil_neg, floors]

/-- The split multiply rounds as the whole one. -/
theorem scaled_round (sigma t : ℤ) (spread : 0 ≤ sigma) :
    (sigma.tmod tableScale * t + if sigma.tmod tableScale * t ≥ 0 then tableScale / 2 else -(tableScale / 2)).tdiv
        tableScale + sigma.tdiv tableScale * t =
      roundHalfAway (sigma * t / 8192 : ℚ) := by
  have product : (sigma * t / 8192 : ℚ) = ((sigma * t : ℤ) : ℚ) / 8192 := by push_cast; rfl
  have scale : tableScale = 8192 := rfl
  rw [product, roundHalfAway_ratio, scale, Int.tmod_eq_emod_of_nonneg spread, Int.tdiv_eq_ediv_of_nonneg spread]
  have split : sigma * t = 8192 * (sigma / 8192 * t) + sigma % 8192 * t := by
    calc sigma * t = (8192 * (sigma / 8192) + sigma % 8192) * t := by rw [Int.mul_ediv_add_emod]
      _ = 8192 * (sigma / 8192 * t) + sigma % 8192 * t := by ring
  have whole : 0 ≤ sigma / 8192 := by omega
  have rest : 0 ≤ sigma % 8192 := by omega
  rw [split]
  rcases le_or_gt 0 t with up | down
  · have high : 0 ≤ sigma / 8192 * t := mul_nonneg whole up
    have lower : 0 ≤ sigma % 8192 * t := mul_nonneg rest up
    generalize sigma / 8192 * t = high at *
    generalize sigma % 8192 * t = low at *
    rw [if_pos lower, if_pos (by omega), Int.tdiv_eq_ediv_of_nonneg (by omega)]
    omega
  · have high : sigma / 8192 * t ≤ 0 := mul_nonpos_of_nonneg_of_nonpos whole down.le
    have lower : sigma % 8192 * t ≤ 0 := mul_nonpos_of_nonneg_of_nonpos rest down.le
    generalize sigma / 8192 * t = high at *
    generalize sigma % 8192 * t = low at *
    by_cases none : low = 0
    · rw [none, if_pos le_rfl]
      have half : (0 + (8192 : ℤ) / 2).tdiv 8192 = 0 := by decide
      rw [half]
      split_ifs
      · omega
      · omega
    · have turned : low + -((8192 : ℤ) / 2) = -(-low + 4096) := by omega
      rw [if_neg (by omega), if_neg (by omega), turned, Int.neg_tdiv, Int.tdiv_eq_ediv_of_nonneg (by omega)]
      omega

theorem roundHalfAway_mono : Monotone roundHalfAway := by
  intro low high order
  unfold roundHalfAway
  split_ifs with up up' up'
  · apply Int.floor_mono
    linarith
  · linarith
  · have below : ⌈low - 1 / 2⌉ ≤ 0 := by
      apply Int.ceil_le.mpr
      push_cast
      linarith
    have above : 0 ≤ ⌊high + 1 / 2⌋ := by
      apply Int.floor_nonneg.mpr
      linarith
    exact below.trans above
  · apply Int.ceil_mono
    linarith

/-! ## Nothing overflows -/

/-- What a signed 64-bit word holds. -/
def Fits64 (value : ℤ) : Prop := -2 ^ 63 ≤ value ∧ value < 2 ^ 63

theorem saturatingI64_fits {value : ℤ} (fits : Fits64 value) : saturatingI64 value = value := by
  obtain ⟨low, high⟩ := fits
  unfold saturatingI64 i64Max
  omega

theorem saturatingNs_small {ns : ℕ} (small : ns < 2 ^ 47) : saturatingNs ns = ns := by
  unfold saturatingNs i64Max
  omega

/-- A product by a 16-bit entry. -/
theorem entry_product {table : DistTable} (quantiles : Quantiles table) (index : Fin tableLen) {factor bound : ℤ}
    (some : 0 ≤ factor) (small : factor ≤ bound) :
    -(bound * 2 ^ 15) ≤ factor * table index ∧ factor * table index ≤ bound * 2 ^ 15 := by
  obtain ⟨low, high⟩ := quantiles.small index
  constructor
  · nlinarith
  · nlinarith

theorem tabledistSteps_fit {muNs sigmaNs : ℕ} (mean : muNs < 2 ^ 47) (spread : sigmaNs < 2 ^ 47) (rnd : UInt32)
    (dist : Option DistTable) (quantiles : ∀ table, dist = some table → Quantiles table) :
    ∀ value ∈ tabledistSteps muNs sigmaNs rnd dist, Fits64 value := by
  have draw := rnd.toNat_lt
  unfold tabledistSteps
  split_ifs with none
  · simp only [List.mem_singleton]
    rintro value rfl
    exact ⟨by omega, by omega⟩
  cases dist with
  | none =>
    have folded : 0 ≤ (rnd.toNat : ℤ).tmod (sigmaNs * 2) ∧ (rnd.toNat : ℤ).tmod (sigmaNs * 2) ≤ rnd.toNat := by
      have cast : (rnd.toNat : ℤ).tmod (sigmaNs * 2) = (rnd.toNat % (sigmaNs * 2) : ℕ) := by
        rw [Int.tmod_eq_emod_of_nonneg (Int.natCast_nonneg _)]
        push_cast
        rfl
      rw [cast]
      exact ⟨Int.natCast_nonneg _, Int.ofNat_le.mpr (Nat.mod_le ..)⟩
    simp only [List.mem_cons, List.not_mem_nil, or_false]
    rintro value (rfl | rfl | rfl | rfl)
    all_goals
      unfold Fits64
      omega
  | some table =>
    have scale : tableScale = 8192 := rfl
    obtain ⟨small, large⟩ := (quantiles table rfl).small (tableIndex rnd)
    have rest : 0 ≤ (sigmaNs : ℤ) % 8192 ∧ (sigmaNs : ℤ) % 8192 ≤ 2 ^ 13 := by omega
    have whole : 0 ≤ (sigmaNs : ℤ) / 8192 ∧ (sigmaNs : ℤ) / 8192 ≤ 2 ^ 34 := by omega
    have low := entry_product (quantiles table rfl) (tableIndex rnd) rest.1 rest.2
    have high := entry_product (quantiles table rfl) (tableIndex rnd) whole.1 whole.2
    have modulo : (sigmaNs : ℤ).tmod 8192 = sigmaNs % 8192 := Int.tmod_eq_emod_of_nonneg (Int.natCast_nonneg _)
    have quotient : (sigmaNs : ℤ).tdiv 8192 = sigmaNs / 8192 := Int.tdiv_eq_ediv_of_nonneg (Int.natCast_nonneg _)
    dsimp only
    rw [scale, modulo, quotient]
    generalize (sigmaNs : ℤ) % 8192 * table (tableIndex rnd) = below at *
    generalize (sigmaNs : ℤ) / 8192 * table (tableIndex rnd) = above at *
    have bounds : -2 ^ 12 ≤ (if below ≥ 0 then (8192 : ℤ) / 2 else -(8192 / 2)) ∧
        (if below ≥ 0 then (8192 : ℤ) / 2 else -(8192 / 2)) ≤ 2 ^ 12 := by
      split_ifs
      · omega
      · omega
    generalize (if below ≥ 0 then (8192 : ℤ) / 2 else -(8192 / 2)) = half at *
    have divided := Int.natAbs_tdiv_le_natAbs (below + half) 8192
    simp only [List.mem_cons, List.not_mem_nil, or_false]
    rintro value (rfl | rfl | rfl | rfl | rfl | rfl | rfl | rfl | rfl)
    all_goals
      unfold Fits64
      omega

/-! ## A sample -/

theorem tabledist_none {muNs sigmaNs : ℕ} (mean : muNs < 2 ^ 47) (spread : sigmaNs < 2 ^ 47) (rnd : UInt32) :
    tabledist muNs sigmaNs rnd none =
      if sigmaNs = 0 then (muNs : ℤ) else muNs - sigmaNs + (rnd.toNat % (2 * sigmaNs) : ℕ) := by
  have fits := tabledistSteps_fit mean spread rnd none nofun
  unfold tabledistSteps at fits
  unfold tabledist
  by_cases none : sigmaNs = 0
  · have settled : (sigmaNs : ℤ) ≤ 0 := by omega
    rw [if_pos settled, if_pos none]
  have drawn : ¬ (sigmaNs : ℤ) ≤ 0 := by omega
  rw [if_neg drawn] at fits
  simp only [List.forall_mem_cons, List.not_mem_nil] at fits
  obtain ⟨span, -, shifted, sample, -⟩ := fits
  rw [if_neg drawn, if_neg none]
  dsimp only
  rw [saturatingI64_fits span, saturatingI64_fits shifted, saturatingI64_fits sample]
  rw [Int.tmod_eq_emod_of_nonneg (Int.natCast_nonneg _)]
  push_cast
  ring_nf

/-- The table arm, its entry under `tableIndex`. -/
theorem tabledist_drawn (muNs : ℤ) {sigmaNs : ℤ} (drawn : ¬ sigmaNs ≤ 0) (rnd : UInt32) (table : DistTable) :
    tabledist muNs sigmaNs rnd table =
      let t := table (tableIndex rnd)
      let x := sigmaNs.tmod tableScale * t
      let rounded := x + if x ≥ 0 then tableScale / 2 else -(tableScale / 2)
      saturatingI64
        (saturatingI64 (rounded.tdiv tableScale + saturatingI64 (sigmaNs.tdiv tableScale * t)) + muNs) :=
  if_neg drawn

theorem tabledist_some {muNs sigmaNs : ℕ} (mean : muNs < 2 ^ 47) (spread : sigmaNs < 2 ^ 47) (rnd : UInt32)
    {table : DistTable} (quantiles : Quantiles table) :
    tabledist muNs sigmaNs rnd table =
      muNs + roundHalfAway (sigmaNs * table (tableIndex rnd) / 8192 : ℚ) := by
  have fits := tabledistSteps_fit mean spread rnd (some table) (by rintro _ ⟨⟩; exact quantiles)
  have rounds := scaled_round sigmaNs (table (tableIndex rnd)) (Int.natCast_nonneg _)
  unfold tabledistSteps at fits
  by_cases none : (sigmaNs : ℤ) ≤ 0
  · have zero : sigmaNs = 0 := by omega
    rw [tabledist, if_pos none, zero]
    norm_num [roundHalfAway]
  rw [if_neg none] at fits
  simp only [List.forall_mem_cons, List.not_mem_nil] at fits
  obtain ⟨-, -, -, -, -, -, whole, scaled, sample, -⟩ := fits
  rw [tabledist_drawn _ none]
  dsimp only
  rw [saturatingI64_fits whole, saturatingI64_fits scaled, saturatingI64_fits sample, rounds]
  push_cast
  ring

theorem table_quantiles {jitter : Jitter} {table : DistTable} (drawn : jitter.table = some table) :
    Quantiles table := by
  cases jitter with
  | uniform => exact absurd drawn nofun
  | normal =>
    obtain ⟨⟩ := drawn
    exact normal_quantiles
  | pareto =>
    obtain ⟨⟩ := drawn
    exact pareto_quantiles
  | paretoNormal =>
    obtain ⟨⟩ := drawn
    exact paretonormal_quantiles

section Model

variable {jitter : Jitter} {meanNs spreadNs : ℕ} (mean : meanNs < 2 ^ 47) (spread : spreadNs < 2 ^ 47)
include mean spread

theorem sampleAt_table {table : DistTable} (drawn : jitter.table = some table) :
    sampleAt jitter meanNs spreadNs rho corr word =
      meanNs + roundHalfAway (spreadNs * table (tableIndex (crandom corr rho word).1) / 8192 : ℚ) := by
  unfold sampleAt
  rw [saturatingNs_small mean, saturatingNs_small spread, drawn]
  exact tabledist_some mean spread _ (table_quantiles drawn)

theorem sampleAt_uniform (wide : 0 < spreadNs) :
    sampleAt .uniform meanNs spreadNs 0 corr word =
      meanNs - spreadNs + (word.toNat % (2 * spreadNs) : ℕ) := by
  unfold sampleAt
  rw [saturatingNs_small mean, saturatingNs_small spread, crandom_zero]
  apply (tabledist_none mean spread word).trans
  exact if_neg (Nat.pos_iff_ne_zero.mp wide)

/-- A sample does not go down along the table. -/
theorem sampleAt_ascends {table : DistTable} (drawn : jitter.table = some table) {corr' : CorrState} {word' : UInt32}
    (before : tableIndex (crandom corr rho word).1 ≤ tableIndex (crandom corr' rho word').1) :
    sampleAt jitter meanNs spreadNs rho corr word ≤ sampleAt jitter meanNs spreadNs rho corr' word' := by
  have entries := (table_quantiles drawn).sorted before
  rw [sampleAt_table mean spread drawn, sampleAt_table mean spread drawn]
  apply Int.add_le_add_left
  apply roundHalfAway_mono
  have entries : (table (tableIndex (crandom corr rho word).1) : ℚ) ≤ table (tableIndex (crandom corr' rho word').1) :=
    Int.cast_le.mpr entries
  gcongr

/-- A wider spread carries a sample above the mean no lower. -/
theorem sampleAt_widens {table : DistTable} (drawn : jitter.table = some table)
    (above : 0 ≤ table (tableIndex (crandom corr rho word).1)) {wider : ℕ} (wide : wider < 2 ^ 47)
    (order : spreadNs ≤ wider) :
    sampleAt jitter meanNs spreadNs rho corr word ≤ sampleAt jitter meanNs wider rho corr word := by
  rw [sampleAt_table mean spread drawn, sampleAt_table mean wide drawn]
  apply Int.add_le_add_left
  apply roundHalfAway_mono
  have entry : (0 : ℚ) ≤ table (tableIndex (crandom corr rho word).1) := Int.cast_nonneg above
  gcongr

theorem uniform_least (wide : 0 < spreadNs) (corr : CorrState) :
    IsLeast (Set.range (sampleAt .uniform meanNs spreadNs 0 corr)) (meanNs - spreadNs) := by
  constructor
  · refine ⟨0, ?_⟩
    rw [sampleAt_uniform mean spread wide]
    simp
  · rintro _ ⟨word, rfl⟩
    rw [sampleAt_uniform mean spread wide]
    omega

/-- The draw has 32 bits, so a window wider than that is filled from below only. -/
theorem uniform_greatest (wide : 0 < spreadNs) (corr : CorrState) :
    IsGreatest (Set.range (sampleAt .uniform meanNs spreadNs 0 corr)) (meanNs + spreadNs - 1) ↔
      spreadNs ≤ 2 ^ 31 := by
  constructor
  · rintro ⟨⟨word, reached⟩, -⟩
    have draw := word.toNat_lt
    have folded := Nat.mod_le word.toNat (2 * spreadNs)
    rw [sampleAt_uniform mean spread wide] at reached
    omega
  intro narrow
  constructor
  · refine ⟨UInt32.ofNat (2 * spreadNs - 1), ?_⟩
    have draw : (UInt32.ofNat (2 * spreadNs - 1)).toNat = 2 * spreadNs - 1 :=
      UInt32.toNat_ofNat_of_lt' (by change _ < 2 ^ 32; omega)
    rw [sampleAt_uniform mean spread wide, draw, Nat.mod_eq_of_lt (by omega)]
    omega
  · rintro _ ⟨word, rfl⟩
    have folded := Nat.mod_lt word.toNat (Nat.mul_pos Nat.two_pos wide)
    rw [sampleAt_uniform mean spread wide]
    omega

end Model

/-! ## The model as configured -/

/-- The samples of a delay model are those it is configured for. -/
structure Follows (jitter : Jitter) (meanNs spreadNs : ℕ) (rho : UInt8) : Prop where
  sampled : ∀ corr rng, sampleDelay committedTables rng corr (jitter.model meanNs spreadNs rho) =
    (sampleAt jitter meanNs spreadNs rho corr rng.nextU32.1, rng.nextU32.2, (crandom corr rho rng.nextU32.1).2)
  fits : ∀ corr word, (∀ value ∈ crandomSteps corr rho word, value < 2 ^ 64) ∧
    ∀ value ∈ tabledistSteps meanNs spreadNs (crandom corr rho word).1 jitter.table, Fits64 value
  filtered : ∀ corr word, (crandom corr rho word).2.last = (crandom corr rho word).1 ∧
    min corr.last.toNat word.toNat ≤ (crandom corr rho word).1.toNat ∧
    (crandom corr rho word).1.toNat ≤ max corr.last.toNat word.toNat
  exact : ∀ table, jitter.table = some table → ∀ corr word, sampleAt jitter meanNs spreadNs rho corr word =
    meanNs + roundHalfAway (spreadNs * table (tableIndex (crandom corr rho word).1) / 8192 : ℚ)
  ascends : ∀ table, jitter.table = some table → ∀ corr word corr' word',
    tableIndex (crandom corr rho word).1 ≤ tableIndex (crandom corr' rho word').1 →
    sampleAt jitter meanNs spreadNs rho corr word ≤ sampleAt jitter meanNs spreadNs rho corr' word'
  widens : ∀ table, jitter.table = some table → ∀ corr word, 0 ≤ table (tableIndex (crandom corr rho word).1) →
    ∀ wider < 2 ^ 47, spreadNs ≤ wider →
    sampleAt jitter meanNs spreadNs rho corr word ≤ sampleAt jitter meanNs wider rho corr word
  centred : jitter = .uniform → 0 < spreadNs → rho = 0 → ∀ corr,
    IsLeast (Set.range (sampleAt jitter meanNs spreadNs rho corr)) (meanNs - spreadNs) ∧
    IsGreatest (Set.range (sampleAt jitter meanNs spreadNs rho corr)) (meanNs + spreadNs - 1)

theorem follows_iff {jitter : Jitter} {meanNs spreadNs : ℕ} {rho : UInt8} (mean : meanNs < 2 ^ 47)
    (spread : spreadNs < 2 ^ 47) :
    Follows jitter meanNs spreadNs rho ↔ (jitter = .uniform → rho = 0 → spreadNs ≤ 2 ^ 31) := by
  constructor
  · rintro follows rfl rfl
    rcases Nat.eq_zero_or_pos spreadNs with none | wide
    · omega
    · exact (uniform_greatest mean spread wide {}).mp (follows.centred rfl wide rfl {}).2
  intro narrow
  constructor
  case sampled => exact sampleDelay_at jitter meanNs spreadNs rho
  case fits =>
    intro corr word
    refine ⟨crandomSteps_small corr rho word, ?_⟩
    exact tabledistSteps_fit mean spread _ _ fun _ drawn => table_quantiles drawn
  case filtered => exact fun corr word => ⟨rfl, crandom_between corr rho word⟩
  case exact => exact fun table drawn corr word => sampleAt_table mean spread drawn
  case ascends =>
    intro table drawn corr word corr' word' before
    exact sampleAt_ascends mean spread drawn before
  case widens =>
    intro table drawn corr word above wider wide order
    exact sampleAt_widens mean spread drawn above wide order
  case centred =>
    rintro rfl wide rfl corr
    exact ⟨uniform_least mean spread wide corr, (uniform_greatest mean spread wide corr).mpr (narrow rfl rfl)⟩

/-- Twenty milliseconds either way, as the presets spread. -/
theorem preset_follows : Follows .uniform 35000000 20000000 0 :=
  (follows_iff (by decide) (by decide)).mpr fun _ _ => by decide

/-- A spread of 2^32 ns around ten seconds: every sample is below the mean. -/
theorem wide_uniform_short : ¬ Follows .uniform 10000000000 4294967296 0 := by
  intro follows
  obtain ⟨-, ⟨word, reached⟩, -⟩ := follows.centred rfl (by decide) rfl {}
  have draw := word.toNat_lt
  rw [sampleAt_uniform (by decide) (by decide) (by decide)] at reached
  omega

end Moqtap.Netem
