import Mathlib
import Moqtap.BinarySearch
import Moqtap.ShapeScheduler

/-!
The range sets a shaping class is keyed on, `RangeSet` of `moqtap-proxy`'s
`shape/matcher.rs`.

A list of inclusive ranges in any order is sorted and merged into one that is
ascending with a gap between its ranges (`Spaced`), which covers the same values
(`merge_covers`).  A spaced list is determined by the values it covers
(`spaced_unique`), and on one the binary search of `contains` is exact
(`contains_spaced`).
-/

namespace Moqtap.Shape

/-- `u64::MAX`. -/
def u64Max : ℕ := 2 ^ 64 - 1

namespace RangeSet

/-- A range as numbers. -/
def bounds (range : UInt64 × UInt64) : ℕ × ℕ := (range.1.toNat, range.2.toNat)

/-- By start, then by end. -/
def byKey (left right : ℕ × ℕ) : Bool :=
  left.1 < right.1 || left.1 = right.1 && left.2 ≤ right.2

/-- One turn of the merge loop, `merged` with its last range first. -/
def absorb (merged : List (ℕ × ℕ)) (range : ℕ × ℕ) : List (ℕ × ℕ) :=
  match merged with
  | last :: front =>
    -- an adjacent range is merged too; the sum saturates
    if range.1 ≤ min (last.2 + 1) u64Max then
      if range.2 > last.2 then (last.1, range.2) :: front else last :: front
    else range :: last :: front
  | [] => [range]

/-- The ranges that hold something. -/
def raw (ranges : List (UInt64 × UInt64)) : List (ℕ × ℕ) :=
  (ranges.map bounds).filter fun range => range.1 ≤ range.2

def new (ranges : List (UInt64 × UInt64)) : RangeSet :=
  { ranges := (((raw ranges).mergeSort byKey).foldl absorb []).reverse }

/-- Where a range lies of a value. -/
def compareTo (v : ℕ) (range : ℕ × ℕ) : Ordering :=
  if range.2 < v then .lt else if range.1 > v then .gt else .eq

def contains (set : RangeSet) (v : UInt64) : Bool :=
  (BinarySearch.binarySearchBy (compareTo v.toNat) set.ranges).isSome

end RangeSet

/-! ## What a list of ranges covers -/

def Covers (ranges : List (ℕ × ℕ)) (v : ℕ) : Prop := ∃ range ∈ ranges, range.1 ≤ v ∧ v ≤ range.2

/-- Ranges that hold something, ascending, with a value between each and the next. -/
structure Spaced (ranges : List (ℕ × ℕ)) : Prop where
  proper : ∀ range ∈ ranges, range.1 ≤ range.2
  apart : ranges.Pairwise fun earlier later => earlier.2 + 1 < later.1

variable {ranges left right : List (ℕ × ℕ)} {range : ℕ × ℕ} {v : ℕ}

theorem covers_nil : ¬ Covers [] v := by
  rintro ⟨range, member, -⟩
  cases member

theorem covers_cons : Covers (range :: ranges) v ↔ (range.1 ≤ v ∧ v ≤ range.2) ∨ Covers ranges v := by
  unfold Covers
  simp only [List.mem_cons, exists_eq_or_imp]

theorem covers_congr (same : ∀ range, range ∈ left ↔ range ∈ right) : Covers left v ↔ Covers right v := by
  unfold Covers
  simp only [same]

theorem Spaced.tail (spaced : Spaced (range :: ranges)) : Spaced ranges where
  proper other member := spaced.proper other (List.mem_cons_of_mem _ member)
  apart := spaced.apart.tail

/-- What is covered behind the first range lies past the value after it. -/
theorem Spaced.beyond (spaced : Spaced (range :: ranges)) (covered : Covers ranges v) : range.2 + 1 < v := by
  obtain ⟨later, member, starts, -⟩ := covered
  exact (List.rel_of_pairwise_cons spaced.apart member).trans_le starts

/-- The first range starts at the least value covered. -/
theorem Spaced.least (spaced : Spaced (range :: ranges)) (covered : Covers (range :: ranges) v) :
    range.1 ≤ v := by
  rcases covers_cons.mp covered with ⟨starts, -⟩ | behind
  · exact starts
  · have proper := spaced.proper range (List.mem_cons_self ..)
    have past := spaced.beyond behind
    omega

/-- It ends where the first gap is. -/
theorem Spaced.ends_le {other : ℕ × ℕ} (first : Spaced (range :: left))
    (start : range.1 = other.1) (same : ∀ v, Covers (range :: left) v ↔ Covers (other :: right) v) :
    other.2 ≤ range.2 := by
  by_contra longer
  have proper := first.proper range (List.mem_cons_self ..)
  have inside : Covers (other :: right) (range.2 + 1) :=
    covers_cons.mpr (.inl ⟨by omega, by omega⟩)
  rcases covers_cons.mp ((same _).mpr inside) with ⟨-, ends⟩ | behind
  · omega
  · exact absurd (first.beyond behind) (Nat.lt_irrefl _)

/-- A spaced list is determined by what it covers. -/
theorem spaced_unique (first : Spaced left) (second : Spaced right)
    (same : ∀ v, Covers left v ↔ Covers right v) : left = right := by
  induction left generalizing right with
  | nil =>
    cases right with
    | nil => rfl
    | cons range right =>
      have covered : Covers [] range.1 :=
        (same _).mpr (covers_cons.mpr (.inl ⟨le_rfl, second.proper range (List.mem_cons_self ..)⟩))
      exact absurd covered covers_nil
  | cons range left ih =>
    have own : Covers (range :: left) range.1 :=
      covers_cons.mpr (.inl ⟨le_rfl, first.proper range (List.mem_cons_self ..)⟩)
    cases right with
    | nil =>
      exact absurd ((same _).mp own) covers_nil
    | cons other right =>
      have others : Covers (other :: right) other.1 :=
        covers_cons.mpr (.inl ⟨le_rfl, second.proper other (List.mem_cons_self ..)⟩)
      have start : range.1 = other.1 :=
        le_antisymm (first.least ((same _).mpr others)) (second.least ((same _).mp own))
      have last : range.2 = other.2 :=
        le_antisymm (second.ends_le start.symm fun v => (same v).symm) (first.ends_le start same)
      have heads : range = other := Prod.ext start last
      subst heads
      have tails : ∀ v, Covers left v ↔ Covers right v := by
        intro v
        constructor
        · intro covered
          have past := first.beyond covered
          rcases covers_cons.mp ((same v).mp (covers_cons.mpr (.inr covered))) with ⟨-, ends⟩ | behind
          · omega
          · exact behind
        · intro covered
          have past := second.beyond covered
          rcases covers_cons.mp ((same v).mpr (covers_cons.mpr (.inr covered))) with ⟨-, ends⟩ | behind
          · omega
          · exact behind
      rw [ih first.tail second.tail tails]

/-! ## Sorting and merging -/

/-- What has been merged, the last range first, while `ahead` is still to come. -/
structure Merging (merged ahead : List (ℕ × ℕ)) : Prop where
  proper : ∀ range ∈ merged, range.1 ≤ range.2 ∧ range.2 ≤ u64Max
  apart : merged.Pairwise fun later earlier => earlier.2 + 1 < later.1
  reached : ∀ last ∈ merged, ∀ range ∈ ahead, last.1 ≤ range.1

theorem Merging.spaced (merging : Merging ranges []) : Spaced ranges.reverse where
  proper range member := (merging.proper range (List.mem_reverse.mp member)).1
  apart := List.pairwise_reverse.mpr merging.apart

/-- One turn of the loop covers the range too, and leaves what comes ahead to come. -/
theorem absorb_keeps {merged ahead : List (ℕ × ℕ)} (merging : Merging merged (range :: ahead))
    (proper : range.1 ≤ range.2) (bounded : range.2 ≤ u64Max)
    (ordered : ∀ later ∈ ahead, range.1 ≤ later.1) :
    Merging (RangeSet.absorb merged range) ahead ∧
      ∀ v, Covers (RangeSet.absorb merged range) v ↔ Covers merged v ∨ (range.1 ≤ v ∧ v ≤ range.2) := by
  obtain ⟨whole, apart, reached⟩ := merging
  cases merged with
  | nil =>
    refine ⟨⟨by simp [RangeSet.absorb, proper, bounded], by simp [RangeSet.absorb], ?_⟩, fun v => ?_⟩
    · simpa [RangeSet.absorb] using ordered
    · simp [RangeSet.absorb, Covers]
  | cons last front =>
    obtain ⟨some, small⟩ := whole last (List.mem_cons_self ..)
    have starts : last.1 ≤ range.1 := reached last (List.mem_cons_self ..) range (List.mem_cons_self ..)
    unfold RangeSet.absorb
    dsimp only
    split_ifs with touches longer
    · -- the last range grows to the end of this one
      refine ⟨⟨?_, ?_, ?_⟩, fun v => ?_⟩
      · intro other member
        rcases List.mem_cons.mp member with rfl | old
        · exact ⟨by dsimp only; omega, bounded⟩
        · exact whole other (List.mem_cons_of_mem _ old)
      · exact List.pairwise_cons.mpr (List.pairwise_cons.mp apart)
      · intro other member later behind
        rcases List.mem_cons.mp member with rfl | old
        · exact starts.trans (ordered later behind)
        · exact reached other (List.mem_cons_of_mem _ old) later (List.mem_cons_of_mem _ behind)
      · simp only [covers_cons]
        have adjacent : range.1 ≤ last.2 + 1 := touches.trans (min_le_left ..)
        by_cases behind : Covers front v
        · simp [behind]
        · simp only [behind, or_false]
          omega
    · -- the range lies within the last
      refine ⟨⟨whole, apart, ?_⟩, fun v => ?_⟩
      · intro other member later behind
        exact reached other member later (List.mem_cons_of_mem _ behind)
      · simp only [covers_cons]
        by_cases behind : Covers front v
        · simp [behind]
        · simp only [behind, or_false]
          omega
    · -- a gap: no start past the ceiling is left for the saturated sum to hide
      have gap : last.2 + 1 < range.1 := by omega
      refine ⟨⟨?_, ?_, ?_⟩, fun v => ?_⟩
      · intro other member
        rcases List.mem_cons.mp member with rfl | old
        · exact ⟨proper, bounded⟩
        · exact whole other old
      · refine List.pairwise_cons.mpr ⟨fun other member => ?_, apart⟩
        rcases List.mem_cons.mp member with rfl | old
        · exact gap
        · have before := (List.pairwise_cons.mp apart).1 other old
          omega
      · intro other member later behind
        rcases List.mem_cons.mp member with rfl | old
        · exact ordered later behind
        · exact reached other old later (List.mem_cons_of_mem _ behind)
      · rw [covers_cons, or_comm]

/-- The loop over a sorted list. -/
theorem merge_keeps {merged : List (ℕ × ℕ)} (merging : Merging merged ranges)
    (proper : ∀ range ∈ ranges, range.1 ≤ range.2 ∧ range.2 ≤ u64Max)
    (sorted : ranges.Pairwise fun earlier later => earlier.1 ≤ later.1) :
    Merging (ranges.foldl RangeSet.absorb merged) [] ∧
      ∀ v, Covers (ranges.foldl RangeSet.absorb merged) v ↔ Covers merged v ∨ Covers ranges v := by
  induction ranges generalizing merged with
  | nil => exact ⟨merging, fun v => by simp [covers_nil]⟩
  | cons range ranges ih =>
    obtain ⟨ahead, sorted⟩ := List.pairwise_cons.mp sorted
    obtain ⟨own, bounded⟩ := proper range (List.mem_cons_self ..)
    obtain ⟨merging, covers⟩ := absorb_keeps merging own bounded ahead
    obtain ⟨merged', covers'⟩ := ih merging (fun other member => proper other (List.mem_cons_of_mem _ member)) sorted
    refine ⟨merged', fun v => ?_⟩
    rw [List.foldl_cons, covers', covers, covers_cons, or_assoc]

theorem byKey_sorts (ranges : List (ℕ × ℕ)) :
    (ranges.mergeSort RangeSet.byKey).Pairwise fun earlier later => earlier.1 ≤ later.1 := by
  have transitive (a b c : ℕ × ℕ) (ab : RangeSet.byKey a b = true) (bc : RangeSet.byKey b c = true) :
      RangeSet.byKey a c = true := by
    simp [RangeSet.byKey] at ab bc ⊢
    omega
  have total (a b : ℕ × ℕ) : (RangeSet.byKey a b || RangeSet.byKey b a) = true := by
    simp [RangeSet.byKey]
    omega
  apply (List.pairwise_mergeSort transitive total ranges).imp
  intro earlier later ordered
  simp [RangeSet.byKey] at ordered
  omega

open RangeSet (raw)

theorem raw_proper (ranges : List (UInt64 × UInt64)) :
    ∀ range ∈ raw ranges, range.1 ≤ range.2 ∧ range.2 ≤ u64Max := by
  intro range member
  obtain ⟨given, proper⟩ := List.mem_filter.mp member
  obtain ⟨source, -, rfl⟩ := List.mem_map.mp given
  exact ⟨of_decide_eq_true proper, Nat.le_sub_one_of_lt source.2.toNat_lt⟩

theorem raw_covers (ranges : List (UInt64 × UInt64)) (v : UInt64) :
    Covers (raw ranges) v.toNat ↔ ∃ range ∈ ranges, range.1 ≤ v ∧ v ≤ range.2 := by
  unfold Covers raw
  simp only [List.mem_filter, List.mem_map, decide_eq_true_eq]
  constructor
  · rintro ⟨-, ⟨⟨source, given, rfl⟩, -⟩, starts, ends⟩
    exact ⟨source, given, UInt64.le_iff_toNat_le.mpr starts, UInt64.le_iff_toNat_le.mpr ends⟩
  · rintro ⟨source, given, starts, ends⟩
    have starts := UInt64.le_iff_toNat_le.mp starts
    have ends := UInt64.le_iff_toNat_le.mp ends
    exact ⟨_, ⟨⟨source, given, rfl⟩, starts.trans ends⟩, starts, ends⟩

/-- What a range set is made of. -/
theorem new_keeps (ranges : List (UInt64 × UInt64)) :
    Spaced (RangeSet.new ranges).ranges ∧ (∀ range ∈ (RangeSet.new ranges).ranges, range.2 ≤ u64Max) ∧
      ∀ v, Covers (RangeSet.new ranges).ranges v ↔ Covers (raw ranges) v := by
  have permuted : ∀ range, range ∈ (raw ranges).mergeSort RangeSet.byKey ↔ range ∈ raw ranges :=
    fun range => List.mem_mergeSort
  have start : Merging [] ((raw ranges).mergeSort RangeSet.byKey) := ⟨by simp, .nil, by simp⟩
  obtain ⟨merged, covers⟩ := merge_keeps start
    (fun range member => raw_proper ranges range ((permuted range).mp member)) (byKey_sorts (raw ranges))
  refine ⟨merged.spaced, ?_, fun v => ?_⟩
  · intro range member
    exact (merged.proper range (List.mem_reverse.mp member)).2
  · have turned : Covers (RangeSet.new ranges).ranges v ↔
        Covers (((raw ranges).mergeSort RangeSet.byKey).foldl RangeSet.absorb []) v :=
      covers_congr fun range => List.mem_reverse
    rw [turned, covers, covers_congr permuted]
    simp [covers_nil]

/-! ## Searching -/

theorem compareTo_eq (v : ℕ) (range : ℕ × ℕ) :
    RangeSet.compareTo v range = .eq ↔ range.1 ≤ v ∧ v ≤ range.2 := by
  unfold RangeSet.compareTo
  split_ifs with low high
  · simp
    omega
  · simp
    omega
  · simp
    omega

theorem compareTo_ascending (spaced : Spaced ranges) (v : ℕ) :
    BinarySearch.Ascending (RangeSet.compareTo v) ranges := by
  apply List.Pairwise.imp_of_mem _ spaced.apart
  intro earlier later member member' apart
  have proper := spaced.proper earlier member
  have proper' := spaced.proper later member'
  unfold RangeSet.compareTo
  constructor
  · intro greater
    split_ifs at greater with low high
    rw [if_neg (by omega), if_pos (by omega)]
  · intro less
    split_ifs at less with low
    rw [if_pos (by omega)]

/-- The search of a spaced list is exact. -/
theorem contains_spaced {set : RangeSet} (spaced : Spaced set.ranges) (v : UInt64) :
    set.contains v = true ↔ Covers set.ranges v.toNat := by
  unfold RangeSet.contains Covers
  rw [BinarySearch.binarySearchBy_isSome (compareTo_ascending spaced v.toNat)]
  simp [compareTo_eq]

/-- **Range sets are canonical, and searched exactly.** -/
theorem range_sets_canonical :
    (∀ ranges : List (UInt64 × UInt64),
      (RangeSet.new ranges).ranges.Pairwise (fun earlier later => earlier.1 < later.1) ∧
      (∀ range ∈ (RangeSet.new ranges).ranges, range.1 ≤ range.2 ∧ range.2 ≤ u64Max) ∧
      (RangeSet.new ranges).ranges.Pairwise (fun earlier later => earlier.2 + 1 < later.1) ∧
      ∀ v : UInt64, (RangeSet.new ranges).contains v = true ↔ ∃ range ∈ ranges, range.1 ≤ v ∧ v ≤ range.2) ∧
    ∀ ranges ranges' : List (UInt64 × UInt64),
      (∀ v : UInt64, (∃ range ∈ ranges, range.1 ≤ v ∧ v ≤ range.2) ↔ ∃ range ∈ ranges', range.1 ≤ v ∧ v ≤ range.2) →
        RangeSet.new ranges = RangeSet.new ranges' := by
  constructor
  · intro ranges
    obtain ⟨spaced, bounded, covers⟩ := new_keeps ranges
    refine ⟨?_, fun range member => ⟨spaced.proper range member, bounded range member⟩, spaced.apart, fun v => ?_⟩
    · apply List.Pairwise.imp_of_mem _ spaced.apart
      intro earlier later member _ apart
      have proper := spaced.proper earlier member
      omega
    · rw [contains_spaced spaced, covers, raw_covers]
  · intro ranges ranges' same
    obtain ⟨spaced, bounded, covers⟩ := new_keeps ranges
    obtain ⟨spaced', bounded', covers'⟩ := new_keeps ranges'
    have alike : ∀ v, Covers (RangeSet.new ranges).ranges v ↔ Covers (RangeSet.new ranges').ranges v := by
      intro v
      by_cases small : v < 2 ^ 64
      · have value : (UInt64.ofNat v).toNat = v := UInt64.toNat_ofNat_of_lt' small
        rw [covers, covers', ← value, raw_covers, raw_covers]
        exact same _
      · -- no range reaches so far
        have beyond {ranges : List (ℕ × ℕ)} (bounded : ∀ range ∈ ranges, range.2 ≤ u64Max) : ¬ Covers ranges v := by
          rintro ⟨range, member, -, ends⟩
          have least := bounded range member
          unfold u64Max at least
          omega
        simp [beyond bounded, beyond bounded']
    have lists := spaced_unique spaced spaced' alike
    cases new : RangeSet.new ranges
    cases new' : RangeSet.new ranges'
    rw [new, new'] at lists
    cases lists
    rfl

end Moqtap.Shape
