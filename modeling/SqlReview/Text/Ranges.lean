/-!
# Sorted range tables

A character class of a large alphabet is given as a table of ranges in increasing order that do
not overlap. Membership is decided by bisection.
-/

namespace SqlReview
namespace Text

/-- The last index from `low` up to, not including, `high` whose key is at most `point`, or `low`
when there is none. The keys grow with the index, and `steps` bounds the number of halvings. -/
def bisect (key : Nat → Nat) (point : Nat) : (steps low high : Nat) → Nat
  | 0, low, _ => low
  | steps + 1, low, high =>
    if high ≤ low + 1 then low
    else if key ((low + high) / 2) ≤ point then
      bisect key point steps ((low + high) / 2) high
    else
      bisect key point steps low ((low + high) / 2)

/-- The row of a table, sorted by first components, whose first component is the largest that is
at most `point`. -/
def findRow? {α : Type} (table : Array (Nat × α)) (point : Nat) : Option (Nat × α) :=
  match table[bisect (fun index => (table[index]?.map Prod.fst).getD 0) point 12 0 table.size]? with
  | some row => if row.1 ≤ point then some row else none
  | none => none

/-- The range of a table that holds a point, both ends included. -/
def findRange? (table : Array (Nat × Nat)) (point : Nat) : Option (Nat × Nat) :=
  (findRow? table point).filter fun range => point ≤ range.2

/-- Whether a point lies in some range of a table. -/
def inRanges (table : Array (Nat × Nat)) (point : Nat) : Bool :=
  (findRange? table point).isSome

end Text
end SqlReview
