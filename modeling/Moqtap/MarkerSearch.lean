import Mathlib

/-!
Looking for a marker in a stream, one element at a time.

`scan` slides a window of the marker's length over the stream.  It stops behind the first place
where the marker ends (`scan_first`), and at the end of a stream without one (`scan_none`).
Behind a stretch without the marker it stops at the marker itself, if the marker cannot overlap
with itself (`scan_behind`).
-/

namespace MarkerSearch

variable {α : Type} {marker seen junk rest : List α}

/-- The window with one element more, at most as long as the marker. -/
def slide (marker window : List α) (a : α) : List α :=
  (if window.length = marker.length then window.tail else window) ++ [a]

/-- The window behind what has been seen. -/
def window (marker seen : List α) : List α := seen.drop (seen.length - marker.length)

theorem window_length (marker seen : List α) : (window marker seen).length = min seen.length marker.length := by
  unfold window
  rw [List.length_drop]
  omega

theorem slide_window (some' : marker ≠ []) (seen : List α) (a : α) :
    slide marker (window marker seen) a = window marker (seen ++ [a]) := by
  have positive := List.length_pos_iff.mpr some'
  unfold slide
  rw [window_length]
  unfold window
  rw [List.length_append, List.length_singleton]
  split_ifs with full
  · have more : seen.length + 1 - marker.length = seen.length - marker.length + 1 := by omega
    rw [List.tail_drop, more, List.drop_append_of_le_length (by omega)]
  · have fewer : seen.length - marker.length = 0 ∧ seen.length + 1 - marker.length = 0 := by omega
    rw [fewer.1, fewer.2]
    rfl

theorem window_eq : window marker seen = marker ↔ marker <:+ seen := by
  refine ⟨fun same => ?_, fun suffix => ?_⟩
  · have dropped := List.drop_suffix (seen.length - marker.length) seen
    rwa [← same]
  · exact (List.suffix_iff_eq_drop.mp suffix).symm

variable [DecidableEq α]

/-- What follows the marker. -/
def scan (marker : List α) : List α → List α → Option (List α)
  | _, [] => none
  | window, a :: rest => if slide marker window a = marker then some rest else scan marker (slide marker window a) rest

/-- A marker that does not end anywhere is not found. -/
theorem scan_none (some' : marker ≠ []) (nowhere : ∀ k, 0 < k → k ≤ rest.length → ¬marker <:+ seen ++ rest.take k) :
    scan marker (window marker seen) rest = none := by
  induction rest generalizing seen with
  | nil => rfl
  | cons a rest ih =>
    unfold scan
    have here : ¬marker <:+ seen ++ [a] := nowhere 1 one_pos (Nat.succ_le_succ (Nat.zero_le _))
    rw [slide_window some', if_neg (mt window_eq.mp here)]
    refine ih fun k positive within => ?_
    rw [List.append_assoc]
    exact nowhere (k + 1) (Nat.succ_pos k) (Nat.succ_le_succ within)

/-- The first place where the marker ends is where it is found. -/
theorem scan_first (some' : marker ≠ []) (first : junk ≠ []) (ends : marker <:+ seen ++ junk)
    (before : ∀ k, 0 < k → k < junk.length → ¬marker <:+ seen ++ junk.take k) :
    scan marker (window marker seen) (junk ++ rest) = some rest := by
  induction junk generalizing seen with
  | nil => exact absurd rfl first
  | cons a junk ih =>
    rw [List.cons_append]
    unfold scan
    rw [slide_window some']
    cases junk with
    | nil => rw [if_pos (window_eq.mpr ends), List.nil_append]
    | cons b junk =>
      have here : ¬marker <:+ seen ++ [a] := before 1 one_pos (Nat.succ_lt_succ (Nat.succ_pos _))
      rw [if_neg (mt window_eq.mp here)]
      refine ih (List.cons_ne_nil b junk) ?_ fun k positive within => ?_
      · rwa [List.append_assoc]
      · rw [List.append_assoc]
        exact before (k + 1) (Nat.succ_pos k) (Nat.succ_lt_succ within)

/-- No proper beginning of the marker is also its end. -/
def Unbordered (marker : List α) : Prop := ∀ k, 0 < k → k < marker.length → ¬marker.take k <:+ marker

instance (marker : List α) : Decidable (Unbordered marker) :=
  decidable_of_iff (∀ k < marker.length, 0 < k → ¬marker.take k <:+ marker)
    ⟨fun all k positive within => all k within positive, fun all k within positive => all k positive within⟩

/-- A marker that does not overlap with itself is found behind whatever does not contain it. -/
theorem scan_behind (some' : marker ≠ []) (unbordered : Unbordered marker) (free : ¬marker <:+: junk) :
    scan marker [] (junk ++ marker ++ rest) = some rest := by
  have empty : window marker ([] : List α) = [] := List.drop_nil
  rw [← empty]
  refine scan_first some' (by simp [some']) (List.suffix_append junk marker) fun k positive within ends => ?_
  rw [List.nil_append] at ends
  rw [List.length_append] at within
  by_cases inside : k ≤ junk.length
  · rw [List.take_append_of_le_length inside] at ends
    exact free (ends.isInfix.trans (List.take_prefix k junk).isInfix)
  · have overlap : (junk ++ marker).take k = junk ++ marker.take (k - junk.length) := by
      rw [List.take_append, List.take_of_length_le (not_le.mp inside).le]
    rw [overlap] at ends
    refine unbordered (k - junk.length) (by omega) (by omega) ?_
    exact List.suffix_of_suffix_length_le (List.suffix_append junk _) ends (List.length_take_le' _ _)

end MarkerSearch
