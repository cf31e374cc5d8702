import Mathlib

/-!
A leaky counter that schedules what it cannot let go at once.

The counter holds a level that drains at `rate` units a tick.  A grant adds its
need to the level and is released at the first tick, from the one it was asked
at, at which the level is back within `cap`: later grants wait behind it.
`Scheduled` is such a run, from any level.

* `Scheduled.ordered`: releases come in the order the grants were asked for;
* `Scheduled.window`: what is released within a window of ticks is at most
  what the rate carries in it, and one tick more, above the cap;
* `held_le`: a grant whose level stays within a bound is held no longer than
  the bound's excess over the cap takes to drain.
-/

namespace LeakyBucket

/-- One grant: when it was asked for, what it needs, when it is released. -/
structure Grant where
  asked : ℕ
  need : ℕ
  release : ℕ
  deriving DecidableEq, Repr

section

variable {rate cap : ℕ}

/-- `release` is the first tick from `asked` at which `level`, measured at
`asked`, has drained to the cap. -/
structure FirstWithin (rate cap level asked release : ℕ) : Prop where
  later : asked ≤ release
  within : level ≤ cap + rate * (release - asked)
  first : release = asked ∨ cap + rate * (release - 1 - asked) < level

/-- A level within the cap is let go at once. -/
theorem firstWithin_now {level asked : ℕ} (fits : level ≤ cap) :
    FirstWithin rate cap level asked asked :=
  ⟨le_rfl, fits.trans (Nat.le_add_right ..), .inl rfl⟩

/-- A level above the cap waits for its excess to drain. -/
theorem firstWithin_wait {level asked : ℕ} (positive : 0 < rate) (above : cap < level) :
    FirstWithin rate cap level asked (asked + (level - cap) ⌈/⌉ rate) := by
  have drains : level - cap ≤ rate * ((level - cap) ⌈/⌉ rate) :=
    (ceilDiv_le_iff_le_mul positive).mp le_rfl
  have waits : 0 < (level - cap) ⌈/⌉ rate := by
    by_contra none
    rw [Nat.eq_zero_of_not_pos none, Nat.mul_zero] at drains
    omega
  refine ⟨Nat.le_add_right .., ?_, .inr ?_⟩
  · rw [Nat.add_sub_cancel_left]
    omega
  · have short : ¬ (level - cap) ⌈/⌉ rate ≤ (level - cap) ⌈/⌉ rate - 1 := by omega
    rw [ceilDiv_le_iff_le_mul positive] at short
    have tick : asked + (level - cap) ⌈/⌉ rate - 1 - asked = (level - cap) ⌈/⌉ rate - 1 := by omega
    rw [tick]
    omega

/-- The grants scheduled in turn by a counter that held `level` at `last`. -/
inductive Scheduled (rate cap : ℕ) : ℕ → ℕ → List Grant → Prop
  | nil {level last : ℕ} : Scheduled rate cap level last []
  | grant {level last : ℕ} {g : Grant} {grants : List Grant} (onward : last ≤ g.asked)
      (small : g.need ≤ cap)
      (scheduled :
        FirstWithin rate cap (level - rate * (g.asked - last) + g.need) g.asked g.release)
      (rest : Scheduled rate cap (level - rate * (g.asked - last) + g.need) g.asked grants) :
      Scheduled rate cap level last (g :: grants)

/-- Draining in two parts is draining at once. -/
theorem drained_twice {level last mid now : ℕ} (before : last ≤ mid) (after : mid ≤ now) :
    level - rate * (mid - last) - rate * (now - mid) = level - rate * (now - last) := by
  have whole : now - last = (mid - last) + (now - mid) := by omega
  rw [whole, Nat.mul_add, Nat.sub_sub]

/-- A counter brought up to date schedules as the one left alone. -/
theorem Scheduled.idle {level last now : ℕ} {grants : List Grant} (onward : last ≤ now)
    (run : Scheduled rate cap (level - rate * (now - last)) now grants) :
    Scheduled rate cap level last grants := by
  cases run with
  | nil => exact .nil
  | grant later small scheduled rest =>
    rw [drained_twice onward later] at scheduled rest
    exact .grant (onward.trans later) small scheduled rest

/-! ## Order -/

/-- Every release finds the level the counter started from drained to the cap. -/
theorem Scheduled.drains {level last : ℕ} {grants : List Grant}
    (run : Scheduled rate cap level last grants) :
    ∀ g ∈ grants, last ≤ g.release ∧ level ≤ cap + rate * (g.release - last) := by
  induction run with
  | nil => simp
  | @grant level last g grants onward small scheduled rest ih =>
    -- what the level lost up to `asked` and what it loses from there add up
    have split : ∀ t, g.asked ≤ t →
        rate * (t - last) = rate * (g.asked - last) + rate * (t - g.asked) := by
      intro t reached
      rw [← Nat.mul_add]
      congr 1
      omega
    intro h member
    rcases List.mem_cons.mp member with rfl | later
    · have within := scheduled.within
      have whole := split _ scheduled.later
      exact ⟨onward.trans scheduled.later, by omega⟩
    · obtain ⟨reached, drained⟩ := ih h later
      have whole := split _ reached
      exact ⟨onward.trans reached, by omega⟩

/-- **Grants are released in the order they were asked for.** -/
theorem Scheduled.ordered {level last : ℕ} {grants : List Grant}
    (run : Scheduled rate cap level last grants) :
    grants.Pairwise fun g h => g.release ≤ h.release := by
  induction run with
  | nil => exact .nil
  | @grant level last g grants onward small scheduled rest ih =>
    refine .cons (fun h later => ?_) ih
    obtain ⟨reached, drained⟩ := rest.drains h later
    rcases scheduled.first with atOnce | held
    · exact atOnce ▸ reached
    · -- were `h` released before `g`, the level would have been too high for it
      by_contra overtakes
      have short : h.release - g.asked ≤ g.release - 1 - g.asked := by omega
      have slower := Nat.mul_le_mul_left rate short
      omega

/-! ## The window -/

/-- What the grants released within `[a, b]` need together. -/
def releasedWithin (a b : ℕ) (grants : List Grant) : ℕ :=
  ((grants.filter fun g => a ≤ g.release ∧ g.release ≤ b).map Grant.need).sum

theorem releasedWithin_cons (a b : ℕ) (g : Grant) (grants : List Grant) :
    releasedWithin a b (g :: grants) =
      (if a ≤ g.release ∧ g.release ≤ b then g.need else 0) + releasedWithin a b grants := by
  unfold releasedWithin
  split <;> simp_all

/-- What is released up to `b` fits what the rate carries until then, the cap,
and the level already there. -/
theorem Scheduled.released_le {level last a b : ℕ} {grants : List Grant}
    (run : Scheduled rate cap level last grants) :
    releasedWithin a b grants + level ≤ max level (cap + rate * (b - last)) := by
  induction run with
  | nil => simp [releasedWithin]
  | @grant level last g grants onward small scheduled rest ih =>
    rw [releasedWithin_cons]
    have within := scheduled.within
    have reached := scheduled.later
    by_cases counted : a ≤ g.release ∧ g.release ≤ b
    · rw [if_pos counted]
      have whole : rate * (b - last) = rate * (g.asked - last) + rate * (b - g.asked) := by
        rw [← Nat.mul_add]
        congr 1
        omega
      have sooner : rate * (g.release - g.asked) ≤ rate * (b - g.asked) :=
        Nat.mul_le_mul_left rate (by omega)
      omega
    · rw [if_neg counted]
      rcases Nat.lt_or_ge b g.asked with past | ahead
      · have none : b - g.asked = 0 := by omega
        rw [none, Nat.mul_zero] at ih
        have : releasedWithin a b grants = 0 := by
          unfold releasedWithin
          rw [List.filter_eq_nil_iff.mpr, List.map_nil, List.sum_nil]
          intro h later
          have := (rest.drains h later).1
          simp only [decide_eq_true_eq]
          omega
        omega
      · have whole : rate * (b - last) = rate * (g.asked - last) + rate * (b - g.asked) := by
          rw [← Nat.mul_add]
          congr 1
          omega
        omega

/-- **What is released within `[a, b]` is at most what the rate carries in the
window, and one tick more, above the cap.** -/
theorem Scheduled.window {level last a b : ℕ} {grants : List Grant} (ordered : a ≤ b)
    (run : Scheduled rate cap level last grants) :
    releasedWithin a b grants ≤ cap + rate * (b - a + 1) := by
  induction run with
  | nil => simp [releasedWithin]
  | @grant level last g grants onward small scheduled rest ih =>
    by_cases counted : a ≤ g.release ∧ g.release ≤ b
    · -- the first grant of the window: everything from here on follows its level
      have tail := rest.released_le (a := a) (b := b)
      rw [releasedWithin_cons, if_pos counted]
      have within := scheduled.within
      have reached := scheduled.later
      have sooner : rate * (g.release - g.asked) ≤ rate * (b - g.asked) :=
        Nat.mul_le_mul_left rate (by omega)
      rcases scheduled.first with atOnce | held
      · have inside : rate * (b - g.asked) ≤ rate * (b - a + 1) :=
          Nat.mul_le_mul_left rate (by omega)
        omega
      · have whole : rate * (b - g.asked) ≤
            rate * (g.release - 1 - g.asked) + rate * (b - a + 1) := by
          rw [← Nat.mul_add]
          exact Nat.mul_le_mul_left rate (by omega)
        omega
    · rw [releasedWithin_cons, if_neg counted, Nat.zero_add]
      exact ih

/-! ## How long a grant is held -/

/-- **A level within `bound` is back within the cap once the excess has drained.** -/
theorem held_le {level asked release bound : ℕ} (positive : 0 < rate)
    (scheduled : FirstWithin rate cap level asked release) (bounded : level ≤ bound) :
    release - asked ≤ (bound - cap) ⌈/⌉ rate := by
  rcases scheduled.first with atOnce | held
  · omega
  · have excess : bound - cap ≤ rate * ((bound - cap) ⌈/⌉ rate) :=
      (ceilDiv_le_iff_le_mul positive).mp le_rfl
    have short : rate * (release - 1 - asked) < rate * ((bound - cap) ⌈/⌉ rate) := by omega
    have ticks := Nat.lt_of_mul_lt_mul_left short
    omega

end

end LeakyBucket
