import Mathlib

/-! The binary search of a list by a three-way comparison, as `slice::binary_search_by`
does it: the window is halved until one place is left, and only that place is asked
whether it is the one. On a list whose answers do not go down it finds a place that
compares equal exactly when there is one (`binarySearchBy_isSome`). -/
namespace Moqtap.BinarySearch

variable {α : Type} {compare : α → Ordering} {xs : List α}

/-- The last place of the window of `size` places at `base` that does not compare
greater, or `base` where all do. -/
def narrow (compare : α → Ordering) (xs : List α) (base size : ℕ) : ℕ :=
  if 1 < size then
    let half := size / 2
    let mid := base + half
    let base := if xs[mid]?.map compare = some .gt then base else mid
    narrow compare xs base (size - half)
  else base
termination_by size
decreasing_by omega

def binarySearchBy (compare : α → Ordering) (xs : List α) : Option ℕ :=
  if xs.isEmpty then none
  else
    let base := narrow compare xs 0 xs.length
    if xs[base]?.map compare = some .eq then some base else none

/-- The answers do not go down along the list. -/
def Ascending (compare : α → Ordering) (xs : List α) : Prop :=
  xs.Pairwise fun earlier later =>
    (compare earlier = .gt → compare later = .gt) ∧ (compare later = .lt → compare earlier = .lt)

theorem Ascending.at (ascending : Ascending compare xs) {i j : ℕ} (order : i ≤ j) {x y : α}
    (first : xs[i]? = some x) (second : xs[j]? = some y) :
    (compare x = .gt → compare y = .gt) ∧ (compare y = .lt → compare x = .lt) := by
  rcases Nat.eq_or_lt_of_le order with rfl | before
  · rw [first] at second
    cases second
    exact ⟨id, id⟩
  · obtain ⟨inside, rfl⟩ := List.getElem?_eq_some_iff.mp first
    obtain ⟨within, rfl⟩ := List.getElem?_eq_some_iff.mp second
    exact List.pairwise_iff_getElem.mp ascending i j inside within before

/-- What is known of the window: everything behind it compares greater, and its first
place does not, unless it is the list's. -/
structure Window (compare : α → Ordering) (xs : List α) (base size : ℕ) : Prop where
  wide : 0 < size
  fits : base + size ≤ xs.length
  behind : ∀ (j : ℕ) (y : α), base + size ≤ j → xs[j]? = some y → compare y = .gt
  front : base = 0 ∨ ∃ x, xs[base]? = some x ∧ compare x ≠ .gt

theorem window_narrow (ascending : Ascending compare xs) (base size : ℕ)
    (window : Window compare xs base size) : Window compare xs (narrow compare xs base size) 1 := by
  fun_induction narrow compare xs base size with
  | case1 base size large half mid next ih =>
    apply ih
    obtain ⟨wide, fits, behind, front⟩ := window
    have whole : half = size / 2 := rfl
    have middle : mid = base + half := rfl
    have inside : mid < xs.length := by omega
    have found : xs[mid]? = some xs[mid] := List.getElem?_eq_getElem inside
    by_cases greater : compare xs[mid] = .gt
    · have stays : next = base := if_pos (by rw [found, Option.map_some, greater])
      rw [stays]
      refine ⟨by omega, by omega, ?_, front⟩
      intro j y beyond there
      have order : mid ≤ j := by omega
      exact (ascending.at order found there).1 greater
    · have moves : next = mid := if_neg (by
        rw [found, Option.map_some, Option.some.injEq]
        exact greater)
      rw [moves]
      refine ⟨by omega, by omega, ?_, .inr ⟨_, found, greater⟩⟩
      intro j y beyond there
      exact behind j y (by omega) there
  | case2 base size small =>
    have wide := window.wide
    have one : size = 1 := by omega
    rw [one] at window
    exact window

/-- The search finds a place that compares equal, and finds one if there is one. -/
theorem binarySearchBy_isSome (ascending : Ascending compare xs) :
    (binarySearchBy compare xs).isSome = true ↔ ∃ x ∈ xs, compare x = .eq := by
  unfold binarySearchBy
  by_cases empty : xs.isEmpty = true
  · rw [if_pos empty, List.isEmpty_iff.mp empty]
    simp
  rw [if_neg empty]
  have length : 0 < xs.length := by
    apply List.length_pos_iff.mpr
    rintro rfl
    exact empty rfl
  have whole : Window compare xs 0 xs.length := by
    refine ⟨length, (Nat.zero_add _).le, ?_, .inl rfl⟩
    intro j y beyond there
    have inside := (List.getElem?_eq_some_iff.mp there).1
    omega
  have window := window_narrow ascending 0 xs.length whole
  generalize narrow compare xs 0 xs.length = base at window
  have inside : base < xs.length := Nat.lt_of_succ_le window.fits
  have found : xs[base]? = some xs[base] := List.getElem?_eq_getElem inside
  simp only [found, Option.map_some, Option.some.injEq]
  constructor
  · intro hit
    by_cases equal : compare xs[base] = .eq
    · exact ⟨_, List.getElem_mem _, equal⟩
    · rw [if_neg equal] at hit
      cases hit
  · rintro ⟨x, member, equal⟩
    obtain ⟨k, there⟩ := List.getElem?_of_mem member
    have before : k ≤ base := by
      by_contra beyond
      have greater := window.behind k x (by omega) there
      rw [equal] at greater
      cases greater
    have last : compare xs[base] = .eq := by
      rcases window.front with first | ⟨y, there', bounded⟩
      · have own : k = base := by omega
        rw [own, found] at there
        cases there
        exact equal
      · rw [found] at there'
        cases there'
        have low : compare xs[base] ≠ .lt := by
          intro less
          have less' := (ascending.at before there found).2 less
          rw [equal] at less'
          cases less'
        cases answer : compare xs[base] with
        | lt => exact absurd answer low
        | eq => rfl
        | gt => exact absurd answer bounded
    rw [if_pos last]
    rfl

end Moqtap.BinarySearch
