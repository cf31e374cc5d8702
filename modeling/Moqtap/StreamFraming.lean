import Mathlib

/-!
Cutting a stream into frames as it arrives.

`next` looks at a buffer and says where its first frame ends, or that it cannot
tell yet.  What it says has to be stable: more bytes never change it.  Then the
frames of a stream do not depend on the chunks it came in (`frames_append`), no
byte is lost (`frames_bytes`), and what is left over is a buffer `next` cannot
cut (`frames_waits`).
-/

namespace StreamFraming

variable {α β : Type} {next : List α → Option (β × ℕ)}

/-- What `next` says of a buffer, it says however the buffer goes on. -/
structure Stable (next : List α → Option (β × ℕ)) : Prop where
  positive : ∀ {buf b n}, next buf = some (b, n) → 0 < n
  inside : ∀ {buf b n}, next buf = some (b, n) → n ≤ buf.length
  extends' : ∀ {buf b n}, next buf = some (b, n) → ∀ more, next (buf ++ more) = some (b, n)

/-- At most `fuel` frames off the front of a buffer, and the bytes behind them. -/
def cut (next : List α → Option (β × ℕ)) : ℕ → List α → List (β × List α) × List α
  | 0, buf => ([], buf)
  | fuel + 1, buf =>
    match next buf with
    | none => ([], buf)
    | some (b, n) =>
      let (rest, left) := cut next fuel (buf.drop n)
      ((b, buf.take n) :: rest, left)

/-- Every frame of a buffer.  A frame is never empty, so its length is fuel enough. -/
def frames (next : List α → Option (β × ℕ)) (buf : List α) : List (β × List α) × List α :=
  cut next buf.length buf

theorem cut_fuel (stable : Stable next) {fuel : ℕ} {buf : List α} (enough : buf.length ≤ fuel) :
    cut next fuel buf = frames next buf := by
  have same : ∀ fuel fuel' buf, buf.length ≤ fuel → buf.length ≤ fuel' →
      cut next fuel buf = cut next fuel' buf := by
    intro fuel
    induction fuel with
    | zero =>
      intro fuel' buf empty _
      obtain rfl := List.length_eq_zero_iff.mp (Nat.le_zero.mp empty)
      cases fuel' with
      | zero => rfl
      | succ fuel' =>
        have none : next ([] : List α) = .none := by
          cases found : next ([] : List α) with
          | none => rfl
          | some entry =>
            have := stable.positive found
            have := stable.inside found
            simp only [List.length_nil] at this
            omega
        simp only [cut, none]
    | succ fuel ih =>
      intro fuel' buf fits fits'
      cases found : next buf with
      | none => cases fuel' <;> simp only [cut, found]
      | some entry =>
        obtain ⟨b, n⟩ := entry
        have positive := stable.positive found
        have inside := stable.inside found
        obtain ⟨fuel', rfl⟩ : ∃ k, fuel' = k + 1 := ⟨fuel' - 1, by omega⟩
        have shorter : (buf.drop n).length ≤ fuel := by rw [List.length_drop]; omega
        have shorter' : (buf.drop n).length ≤ fuel' := by rw [List.length_drop]; omega
        simp only [cut, found, ih fuel' _ shorter shorter']
  exact same fuel buf.length buf enough (Nat.le_refl _)

theorem frames_none {buf : List α} (waits : next buf = none) : frames next buf = ([], buf) := by
  unfold frames
  cases length : buf.length <;> simp only [cut, waits]

theorem frames_some (stable : Stable next) {buf : List α} {b : β} {n : ℕ}
    (found : next buf = some (b, n)) :
    frames next buf =
      ((b, buf.take n) :: (frames next (buf.drop n)).1, (frames next (buf.drop n)).2) := by
  have positive := stable.positive found
  have inside := stable.inside found
  obtain ⟨fuel, length⟩ : ∃ k, buf.length = k + 1 := ⟨buf.length - 1, by omega⟩
  have shorter : (buf.drop n).length ≤ fuel := by rw [List.length_drop]; omega
  rw [frames, length]
  simp only [cut, found, cut_fuel stable shorter]

/-- **The leftover is a buffer `next` cannot cut.** -/
theorem frames_waits (stable : Stable next) (buf : List α) :
    next (frames next buf).2 = none := by
  induction length : buf.length using Nat.strongRecOn generalizing buf with
  | ind k ih =>
    cases found : next buf with
    | none => rw [frames_none found, found]
    | some entry =>
      obtain ⟨b, n⟩ := entry
      have positive := stable.positive found
      have inside := stable.inside found
      rw [frames_some stable found]
      exact ih (buf.drop n).length (by rw [List.length_drop]; omega) _ rfl

/-- **No byte is lost.** -/
theorem frames_bytes (stable : Stable next) (buf : List α) :
    ((frames next buf).1.map Prod.snd).flatten ++ (frames next buf).2 = buf := by
  induction length : buf.length using Nat.strongRecOn generalizing buf with
  | ind k ih =>
    cases found : next buf with
    | none => rw [frames_none found]; rfl
    | some entry =>
      obtain ⟨b, n⟩ := entry
      have positive := stable.positive found
      have inside := stable.inside found
      have rest := ih (buf.drop n).length (by rw [List.length_drop]; omega) _ rfl
      rw [frames_some stable found, List.map_cons, List.flatten_cons, List.append_assoc, rest,
        List.take_append_drop]

/-- **Frames do not depend on the chunks.**  What arrives later is cut behind
what was left over. -/
theorem frames_append (stable : Stable next) (buf more : List α) :
    frames next (buf ++ more) =
      ((frames next buf).1 ++ (frames next ((frames next buf).2 ++ more)).1,
        (frames next ((frames next buf).2 ++ more)).2) := by
  induction length : buf.length using Nat.strongRecOn generalizing buf with
  | ind k ih =>
    cases found : next buf with
    | none => rw [frames_none found, List.nil_append]
    | some entry =>
      obtain ⟨b, n⟩ := entry
      have positive := stable.positive found
      have inside := stable.inside found
      have rest := ih (buf.drop n).length (by rw [List.length_drop]; omega) _ rfl
      rw [frames_some stable found, frames_some stable (stable.extends' found more),
        List.take_append_of_le_length inside, List.drop_append_of_le_length inside, rest]
      rfl

/-- Each frame is one `next` cuts off what it stood in front of. -/
theorem frames_mem (stable : Stable next) {buf : List α} {entry : β × List α}
    (member : entry ∈ (frames next buf).1) :
    ∃ rest, next (entry.2 ++ rest) = some (entry.1, entry.2.length) := by
  induction length : buf.length using Nat.strongRecOn generalizing buf with
  | ind k ih =>
    cases found : next buf with
    | none =>
      rw [frames_none found] at member
      exact nomatch member
    | some first =>
      obtain ⟨b, n⟩ := first
      have positive := stable.positive found
      have inside := stable.inside found
      rw [frames_some stable found] at member
      rcases List.mem_cons.mp member with rfl | later
      · refine ⟨buf.drop n, ?_⟩
        rw [List.take_append_drop, List.length_take, Nat.min_eq_left inside, found]
      · exact ih (buf.drop n).length (by rw [List.length_drop]; omega) later rfl

/-- Whole frames in front of a buffer are cut off it. -/
theorem frames_whole (stable : Stable next) {whole : List (β × List α)} {rest : List α}
    (cuts : ∀ entry ∈ whole, next entry.2 = some (entry.1, entry.2.length)) :
    frames next ((whole.map Prod.snd).flatten ++ rest) =
      (whole ++ (frames next rest).1, (frames next rest).2) := by
  induction whole with
  | nil => rfl
  | cons entry whole ih =>
    obtain ⟨b, frame⟩ := entry
    have first := cuts (b, frame) List.mem_cons_self
    have rest := ih fun entry later => cuts entry (List.mem_cons_of_mem _ later)
    rw [List.map_cons, List.flatten_cons, List.append_assoc,
      frames_some stable (stable.extends' first _), List.take_left, List.drop_left, rest]
    rfl

end StreamFraming
