import Mathlib
import Moqtap.AffineOrbit

/-!
The impairment engine's generator, `quinn-netem`'s `rng.rs`.

The generator is PCG32 XSH-RR 64/32: a 64-bit linear congruential state with an
odd increment, and a 32-bit output permuted out of it.  `next_bounded` draws
until a word is at or above its threshold; that it ever gets one is
`rejectBelow_returns`, from the full period of the state.
-/

namespace Moqtap.Netem

/-- A generator.  The increment is odd in every one `seeded` can build. -/
structure Pcg32 where
  state : UInt64
  inc : UInt64
  odd : inc % 2 = 1
  deriving DecidableEq, Repr

/-- The multiplier of `pcg_basic.c`. -/
def multiplier : UInt64 := 6364136223846793005

namespace Pcg32

/-- `u32::rotate_right` by less than the word. -/
def rotateRight (word rot : UInt32) : UInt32 := (word >>> rot) ||| (word <<< (32 - rot))

/-- The word put out for a state. -/
def output (old : UInt64) : UInt32 :=
  let xorshifted := (((old >>> 18) ^^^ old) >>> 27).toUInt32
  let rot := (old >>> 59).toUInt32
  rotateRight xorshifted rot

/-- The state after one draw. -/
def stepped (rng : Pcg32) : Pcg32 := { rng with state := rng.state * multiplier + rng.inc }

/-- One 32-bit output, advancing the state. -/
def nextU32 (rng : Pcg32) : UInt32 × Pcg32 := (output rng.state, rng.stepped)

theorem increment_odd (initseq : UInt64) : ((initseq <<< 1) ||| 1) % 2 = 1 := by
  apply UInt64.toNat_inj.mp
  rw [UInt64.toNat_mod, UInt64.toNat_or]
  exact Nat.mod_two_eq_one_iff_testBit_zero.mpr (by simp)

/-- `pcg32_srandom_r`, with both priming steps. -/
def seeded (initstate initseq : UInt64) : Pcg32 :=
  let rng : Pcg32 := { state := 0, inc := (initseq <<< 1) ||| 1, odd := increment_odd initseq }
  let rng := rng.nextU32.2
  let rng := { rng with state := rng.state + initstate }
  rng.nextU32.2

/-! ## The rejection loop -/

/-- The loop of `next_bounded`, for at most `fuel` draws. -/
def rejectBelow (threshold : UInt32) : ℕ → Pcg32 → Option (UInt32 × Pcg32)
  | 0, _ => none
  | fuel + 1, rng =>
    if rng.nextU32.1 ≥ threshold then some rng.nextU32
    else rejectBelow threshold fuel rng.nextU32.2

theorem rejectBelow_isSome {threshold : UInt32} {n fuel : ℕ} {rng : Pcg32} (early : n < fuel)
    (drawn : threshold ≤ output (stepped^[n] rng).state) :
    (rejectBelow threshold fuel rng).isSome := by
  induction n generalizing fuel rng with
  | zero =>
    obtain ⟨fuel, rfl⟩ := Nat.exists_eq_succ_of_ne_zero (Nat.ne_of_gt early)
    have accepted : rng.nextU32.1 ≥ threshold := drawn
    rw [rejectBelow, if_pos accepted]
    rfl
  | succ n ih =>
    obtain ⟨fuel, rfl⟩ := Nat.exists_eq_succ_of_ne_zero (Nat.ne_of_gt (Nat.zero_lt_of_lt early))
    rw [rejectBelow]
    split
    · rfl
    · exact ih (Nat.lt_of_succ_lt_succ early) (by rwa [Function.iterate_succ_apply] at drawn)

theorem stepped_toNat (rng : Pcg32) :
    rng.stepped.state.toNat ≡
      AffineOrbit.affine multiplier.toNat rng.inc.toNat rng.state.toNat [MOD 2 ^ 64] := by
  rw [stepped, UInt64.toNat_add, UInt64.toNat_mul, AffineOrbit.affine, Nat.mul_comm]
  exact (Nat.mod_modEq _ _).trans ((Nat.mod_modEq _ _).add_right _)

theorem stepped_inc (n : ℕ) (rng : Pcg32) : (stepped^[n] rng).inc = rng.inc := by
  induction n with
  | zero => rfl
  | succ n ih => rw [Function.iterate_succ_apply', stepped, ih]

theorem stepped_iterate (n : ℕ) (rng : Pcg32) :
    (stepped^[n] rng).state.toNat ≡
      (AffineOrbit.affine multiplier.toNat rng.inc.toNat)^[n] rng.state.toNat [MOD 2 ^ 64] := by
  induction n with
  | zero => exact Nat.ModEq.refl _
  | succ n ih =>
    rw [Function.iterate_succ_apply', Function.iterate_succ_apply']
    have advanced := stepped_toNat (stepped^[n] rng)
    rw [stepped_inc] at advanced
    exact advanced.trans (AffineOrbit.affine_congr ih)

/-- A state that puts out the largest word. -/
def topState : UInt64 := 0x7FFFE0000000000

theorem output_top : output topState = 0xFFFFFFFF := by decide

/-- **Every generator draws every state** in fewer than `2 ^ 64` steps. -/
theorem stepped_reaches (rng : Pcg32) (state : UInt64) :
    ∃ n < 2 ^ 64, (stepped^[n] rng).state = state := by
  have incOdd : rng.inc.toNat % 2 = 1 := by
    simpa [UInt64.toNat_mod] using congrArg UInt64.toNat rng.odd
  obtain ⟨n, early, lands⟩ :=
    AffineOrbit.affine_reaches (show multiplier.toNat % 4 = 1 from rfl) incOdd 64 rng.state.toNat
      state.toNat
  have reached := (stepped_iterate n rng).trans lands
  refine ⟨n, early, UInt64.toNat_inj.mp ?_⟩
  rwa [Nat.ModEq, Nat.mod_eq_of_lt (UInt64.toNat_lt _), Nat.mod_eq_of_lt (UInt64.toNat_lt _)]
    at reached

/-- **The rejection loop ends.** -/
theorem rejectBelow_returns (threshold : UInt32) (rng : Pcg32) :
    (rejectBelow threshold (2 ^ 64) rng).isSome := by
  obtain ⟨n, early, top⟩ := stepped_reaches rng topState
  apply rejectBelow_isSome early
  rw [top, output_top]
  exact UInt32.le_iff_toNat_le.mpr (Nat.le_of_lt_succ (UInt32.toNat_lt threshold))

/-- `pcg32_boundedrand_r`: reject below `(-bound) % bound`, then reduce. -/
def nextBounded (rng : Pcg32) (bound : UInt32) : UInt32 × Pcg32 :=
  let threshold := (0 - bound) % bound
  let drawn := (rejectBelow threshold (2 ^ 64) rng).get (rejectBelow_returns threshold rng)
  (drawn.1 % bound, drawn.2)

end Pcg32

end Moqtap.Netem
