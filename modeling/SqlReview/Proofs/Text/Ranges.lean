import Mathlib.Algebra.Group.Nat.Defs
import Mathlib.Data.List.Chain
import Mathlib.Data.List.TakeWhile
import SqlReview.Text.Alphanumeric

/-!
# Points in sorted tables

Bisection keeps the place it looks for between its bounds, so in a table of sorted ranges it finds the
range that a point lies in. Whether many points lie in ranges of a table is settled by one sweep over
both.
-/

namespace SqlReview
namespace Text

/-- Bisection ends at a key that is at most the point, with no such key directly behind it. -/
theorem bisect_spec
    (key : Nat → Nat)
    {point low high size : Nat}
    (steps : Nat)
    (below : key low ≤ point)
    (above : high = size ∨ point < key high)
    (ordered : low < high)
    (enough : high ≤ low + 2 ^ steps) :
    bisect key point steps low high < high ∧ key (bisect key point steps low high) ≤ point ∧
      (bisect key point steps low high + 1 = size ∨
        point < key (bisect key point steps low high + 1)) := by
  induction steps generalizing low high with
  | zero =>
      obtain rfl : high = low + 1 := by omega
      exact ⟨ordered, below, above⟩
  | succ steps inductionHypothesis =>
      rw [bisect]
      split
      next close =>
        obtain rfl : high = low + 1 := by omega
        exact ⟨ordered, below, above⟩
      · split
        next reached =>
          exact inductionHypothesis reached above (by omega) (by omega)
        next beyond =>
          have aboveMiddle : point < key ((low + high) / 2) := Nat.lt_of_not_le beyond
          obtain ⟨inside, found⟩ :=
            inductionHypothesis below (.inr aboveMiddle) (by omega) (by omega)
          exact ⟨by omega, found⟩

/-- Whether a range is not empty and ends before another one starts. -/
def Precedes (range later : Nat × Nat) : Prop :=
  range.1 ≤ range.2 ∧ range.2 < later.1

instance : DecidableRel Precedes :=
  fun _ _ => inferInstanceAs (Decidable (_ ∧ _))

instance : Trans Precedes Precedes Precedes where
  trans before after := ⟨before.1, before.2.trans (after.1.trans_lt after.2)⟩

/-- A point of a range of a table is found there if every range precedes the next. -/
theorem inRanges_of_mem
    {table : Array (Nat × Nat)}
    (isSorted : table.toList.IsChain Precedes)
    (small : table.size ≤ 2 ^ 12)
    {range : Nat × Nat}
    (present : range ∈ table.toList)
    {point : Nat}
    (reaches : range.1 ≤ point)
    (inside : point ≤ range.2) :
    inRanges table point = true := by
  have precedes {first second : Nat} (before : first < second) (bound : second < table.size) :
      Precedes table[first] table[second] := by
    have ordered := List.pairwise_iff_getElem.mp (List.isChain_iff_pairwise.mp isSorted)
      first second (by simpa using before.trans bound) (by simpa using bound) before
    simpa using ordered
  obtain ⟨place, bound, rfl⟩ := List.getElem_of_mem present
  rw [Array.length_toList] at bound
  rw [Array.getElem_toList] at reaches inside
  have keyAt {index : Nat} (bound : index < table.size) :
      (table[index]?.map Prod.fst).getD 0 = table[index].1 := by
    rw [Array.getElem?_eq_getElem bound]
    rfl
  have first : (table[0]?.map Prod.fst).getD 0 ≤ point := by
    rw [keyAt (by omega)]
    rcases Nat.eq_zero_or_pos place with rfl | positive
    · exact reaches
    · obtain ⟨ordered, beforePlace⟩ := precedes positive bound
      exact (ordered.trans beforePlace.le).trans reaches
  have someRange : 0 < table.size := Nat.zero_lt_of_lt bound
  obtain ⟨found, atMost, next⟩ := bisect_spec
    (fun index => (table[index]?.map Prod.fst).getD 0) 12 first (.inl rfl) someRange
    (by simpa using small)
  rw [inRanges, findRange?, findRow?]
  generalize bisect _ point 12 0 table.size = index at found atMost next ⊢
  rw [keyAt found] at atMost
  -- The range that was found can neither come before the range of the point nor behind it.
  obtain rfl : index = place := by
    rcases Nat.lt_trichotomy index place with before | same | behind
    · rcases next with last | above
      · omega
      · rw [keyAt (by omega)] at above
        rcases Nat.lt_or_ge (index + 1) place with further | here
        · obtain ⟨ordered, beforePlace⟩ := precedes further bound
          omega
        · obtain rfl : index + 1 = place := by omega
          omega
    · exact same
    · obtain ⟨-, beforeFound⟩ := precedes behind found
      omega
  simp [Array.getElem?_eq_getElem bound, reaches, inside]

/-- A point that is found in a table lies in one of its ranges. -/
theorem exists_range_of_inRanges
    {table : Array (Nat × Nat)}
    {point : Nat}
    (found : inRanges table point = true) :
    ∃ range ∈ table.toList, range.1 ≤ point ∧ point ≤ range.2 := by
  rw [inRanges, findRange?, Option.isSome_iff_exists] at found
  obtain ⟨range, kept⟩ := found
  obtain ⟨row, reaches⟩ := Option.filter_eq_some_iff.mp kept
  rw [findRow?] at row
  split at row
  next found isRow =>
      split at row
      next starts =>
          obtain rfl := Option.some.inj row
          exact ⟨found, Array.mem_toList_iff.mpr (Array.mem_of_getElem? isRow), starts,
            of_decide_eq_true reaches⟩
      next => contradiction
  next => contradiction

/-- What is left of a list of points after the points of each of several ranges have been dropped from
its front. -/
def sweep (ranges : List (Nat × Nat)) (points : List Nat) : List Nat :=
  ranges.foldl (fun points range => points.dropWhile fun point => range.1 ≤ point && point ≤ range.2)
    points

/-- Where nothing is left, each point lies in one of the ranges. -/
theorem exists_range_of_sweep
    {ranges : List (Nat × Nat)}
    {points : List Nat}
    (nothing : sweep ranges points = [])
    {point : Nat}
    (present : point ∈ points) :
    ∃ range ∈ ranges, range.1 ≤ point ∧ point ≤ range.2 := by
  induction ranges generalizing points with
  | nil =>
      rw [show points = [] from nothing] at present
      exact absurd present List.not_mem_nil
  | cons range ranges inductionHypothesis =>
      rw [← List.takeWhile_append_dropWhile (p := fun point => range.1 ≤ point && point ≤ range.2)
        (l := points), List.mem_append] at present
      rcases present with dropped | kept
      · have inRange := List.mem_takeWhile_imp dropped
        rw [Bool.and_eq_true, decide_eq_true_eq, decide_eq_true_eq] at inRange
        exact ⟨range, .head _, inRange⟩
      · obtain ⟨later, inRanges, inRange⟩ := inductionHypothesis nothing kept
        exact ⟨later, .tail _ inRanges, inRange⟩

end Text
end SqlReview
