import Mathlib

/-!
Orbits of an affine map `x ↦ a * x + c` modulo a power of two.

Where `a` is one more than a multiple of four and `c` is odd, every residue
modulo `2 ^ k` is reached from every start in fewer than `2 ^ k` steps
(`affine_reaches`): the maps of a linear congruential generator have full
period.  The proof doubles the number of steps: `2 ^ k` of them are again an
affine map, which modulo `2 ^ (k + 1)` adds `2 ^ k`.
-/

namespace AffineOrbit

variable {a c : ℕ}

/-- One step of the map. -/
def affine (a c x : ℕ) : ℕ := a * x + c

theorem affine_congr {m x y : ℕ} (same : x ≡ y [MOD m]) : affine a c x ≡ affine a c y [MOD m] :=
  (same.mul_left a).add_right c

/-- `2 ^ k` steps multiply by `1` modulo `2 ^ (k + 2)` and add an odd multiple
of `2 ^ k`. -/
theorem doubled_steps (multiplier : a % 4 = 1) (increment : c % 2 = 1) (k : ℕ) :
    ∃ u v, ∀ x, (affine a c)^[2 ^ k] x = (1 + 2 ^ (k + 2) * u) * x + 2 ^ k * (2 * v + 1) := by
  induction k with
  | zero =>
    refine ⟨a / 4, c / 2, fun x => ?_⟩
    have splitA : a = 1 + 4 * (a / 4) := by omega
    have splitC : c = 2 * (c / 2) + 1 := by omega
    rw [pow_zero, Function.iterate_one]
    calc affine a c x = (1 + 4 * (a / 4)) * x + (2 * (c / 2) + 1) := by rw [← splitA, ← splitC]; rfl
      _ = _ := by ring
  | succ k ih =>
    obtain ⟨u, v, doubled⟩ := ih
    refine ⟨u + 2 ^ (k + 1) * u * u, v + 2 ^ k * u * (2 * v + 1), fun x => ?_⟩
    rw [pow_succ, mul_two, Function.iterate_add_apply, doubled, doubled]
    ring

/-- **The orbit is full.** -/
theorem affine_reaches (multiplier : a % 4 = 1) (increment : c % 2 = 1) (k s t : ℕ) :
    ∃ n < 2 ^ k, (affine a c)^[n] s ≡ t [MOD 2 ^ k] := by
  induction k with
  | zero => exact ⟨0, Nat.one_pos, Nat.modEq_one⟩
  | succ k ih =>
    obtain ⟨n, early, lands⟩ := ih
    generalize landed : (affine a c)^[n] s = y at lands
    -- `y` is right in its low `k` bits; `2 ^ k` further steps turn the next one.
    by_cases settled : y ≡ t [MOD 2 ^ (k + 1)]
    · exact ⟨n, early.trans (Nat.pow_lt_pow_right Nat.one_lt_two k.lt_succ_self), landed ▸ settled⟩
    · obtain ⟨u, v, doubled⟩ := doubled_steps multiplier increment k
      refine ⟨2 ^ k + n, ?_, ?_⟩
      · rw [pow_succ]
        omega
      · rw [Function.iterate_add_apply, landed, doubled]
        have turned : y + 2 ^ k ≡ t [MOD 2 ^ (k + 1)] := by
          simp only [Nat.ModEq, pow_succ] at *
          generalize 2 ^ k = m at *
          rw [Nat.mod_mul, Nat.mod_mul (x := t)] at settled
          rw [Nat.mod_mul, Nat.mod_mul (x := t)]
          rcases Nat.eq_zero_or_pos m with rfl | positive
          · omega
          · have next : (y + m) / m = y / m + 1 := Nat.add_div_right y positive
            rw [next, Nat.add_mod_right, lands]
            rw [lands] at settled
            have odd : y / m % 2 ≠ t / m % 2 := fun same => settled (by rw [same])
            have turns : (y / m + 1) % 2 = t / m % 2 := by omega
            rw [turns]
        calc ((1 + 2 ^ (k + 2) * u) * y + 2 ^ k * (2 * v + 1)) % 2 ^ (k + 1)
            = (2 ^ (k + 1) * (2 * u * y + v) + (y + 2 ^ k)) % 2 ^ (k + 1) := by
              congr 1
              ring
          _ = (y + 2 ^ k) % 2 ^ (k + 1) := Nat.mul_add_mod ..
          _ = t % 2 ^ (k + 1) := turned

end AffineOrbit
