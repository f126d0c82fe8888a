import Mathlib.Data.List.Basic
import SqlReview.Query.Mask
import SqlReview.Query.Scope

/-!
# The nesting of a place

The two scans over a query keep different states. `mask` counts the open parentheses and never
goes below zero; the scan for subqueries keeps a stack of them, numbers the subqueries, and counts
those around the place. The stack determines the count, `depth_step`, and what the second scan
keeps, `WellFormed`, says that the numbers on the stack tell the subqueries around the place apart.
-/

namespace SqlReview
namespace Query

/-- What a character can be for a scan: a quote, part of a literal, a parenthesis, or neither. -/
theorem char_cases
    (c : Char)
    (inLiteral : Bool) :
    c = '\'' ∨ (c ≠ '\'' ∧ inLiteral = true) ∨ (c = '(' ∧ inLiteral = false) ∨
      (c = ')' ∧ inLiteral = false) ∨
      (c ≠ '\'' ∧ c ≠ '(' ∧ c ≠ ')' ∧ inLiteral = false) := by
  cases inLiteral <;> by_cases quote : c = '\'' <;> by_cases opens : c = '(' <;>
    by_cases closes : c = ')' <;> simp [quote, opens, closes]

theorem Depth.inLiteral_step
    (depth : Depth)
    (c : Char) :
    (depth.step c).inLiteral = if c = '\'' then !depth.inLiteral else depth.inLiteral := by
  obtain ⟨level, inLiteral⟩ := depth
  rcases char_cases c inLiteral with rfl | ⟨noQuote, rfl⟩ | ⟨rfl, rfl⟩ | ⟨rfl, rfl⟩ |
    ⟨noQuote, noOpen, noClose, rfl⟩
  · rfl
  · simp [step, noQuote]
  · rfl
  · rfl
  · simp [step, noQuote, noOpen, noClose]

namespace Nest

/-! ## Steps by kind of character -/

@[simp] theorem step_quote
    (nest : Nest)
    (isSubquery : Bool) :
    nest.step isSubquery '\'' = ⟨nest.stack, nest.opened, nest.around, !nest.inLiteral⟩ := rfl

theorem step_inLiteral
    {nest : Nest}
    {c : Char}
    (noQuote : c ≠ '\'')
    (inLiteral : nest.inLiteral = true)
    (isSubquery : Bool) :
    nest.step isSubquery c = nest := by
  simp [step, noQuote, inLiteral]

theorem step_open
    {nest : Nest}
    (outside : nest.inLiteral = false)
    (isSubquery : Bool) :
    nest.step isSubquery '(' = nest.push isSubquery := by
  simp [step, outside]

theorem step_close
    {nest : Nest}
    (outside : nest.inLiteral = false)
    (isSubquery : Bool) :
    nest.step isSubquery ')' = nest.pop := by
  simp [step, outside]

theorem step_plain
    {nest : Nest}
    {c : Char}
    (noQuote : c ≠ '\'')
    (noOpen : c ≠ '(')
    (noClose : c ≠ ')')
    (isSubquery : Bool) :
    nest.step isSubquery c = nest := by
  simp [step, noQuote, noOpen, noClose]

@[simp] theorem inLiteral_push
    (nest : Nest)
    (isSubquery : Bool) :
    (nest.push isSubquery).inLiteral = nest.inLiteral := by
  cases isSubquery <;> rfl

@[simp] theorem inLiteral_pop (nest : Nest) :
    nest.pop.inLiteral = nest.inLiteral := by
  unfold pop
  split <;> rfl

@[simp] theorem stack_push
    (nest : Nest)
    (isSubquery : Bool) :
    (nest.push isSubquery).stack =
      (if isSubquery then some nest.opened else none) :: nest.stack := by
  cases isSubquery <;> rfl

@[simp] theorem stack_pop (nest : Nest) :
    nest.pop.stack = nest.stack.tail := by
  unfold pop
  split <;> simp [*]

@[simp] theorem opened_pop (nest : Nest) :
    nest.pop.opened = nest.opened := by
  unfold pop
  split <;> rfl

/-- Only quotes begin and end literals. -/
theorem inLiteral_step
    (nest : Nest)
    (isSubquery : Bool)
    (c : Char) :
    (nest.step isSubquery c).inLiteral =
      if c = '\'' then !nest.inLiteral else nest.inLiteral := by
  rcases char_cases c nest.inLiteral with rfl | ⟨noQuote, inLiteral⟩ | ⟨rfl, outside⟩ |
    ⟨rfl, outside⟩ | ⟨noQuote, noOpen, noClose, outside⟩
  · rfl
  · rw [step_inLiteral noQuote inLiteral, if_neg noQuote]
  · simp [step_open outside]
  · simp [step_close outside]
  · rw [step_plain noQuote noOpen noClose, if_neg noQuote]

/-! ## The depth of a nest -/

/-- How deep a place is nested, the kinds of the parentheses aside. -/
def depth (nest : Nest) : Depth :=
  ⟨nest.stack.length, nest.inLiteral⟩

/-- The depth of a nest moves as the depth that `mask` keeps. -/
theorem depth_step
    (nest : Nest)
    (isSubquery : Bool)
    (c : Char) :
    (nest.step isSubquery c).depth = nest.depth.step c := by
  rcases char_cases c nest.inLiteral with rfl | ⟨noQuote, inLiteral⟩ | ⟨rfl, outside⟩ |
    ⟨rfl, outside⟩ | ⟨noQuote, noOpen, noClose, outside⟩
  · rfl
  · rw [step_inLiteral noQuote inLiteral]
    simp [Depth.step, depth, noQuote, inLiteral]
  · rw [step_open outside]
    simp [Depth.step, depth, outside]
  · rw [step_close outside]
    simp [Depth.step, depth, outside]
  · rw [step_plain noQuote noOpen noClose]
    simp [Depth.step, depth, noQuote, noOpen, noClose]

/-! ## Well-formed nests -/

/-- The numbers of the subqueries around a place, innermost first. -/
def numbers (nest : Nest) : List Nat :=
  nest.stack.filterMap id

/-- What a scan keeps: the subqueries around a place are counted, and the numbers on the stack
decrease from the innermost one on and have all been given out. -/
structure WellFormed (nest : Nest) : Prop where
  /-- The subqueries around the place are counted. -/
  around_eq : nest.around = nest.numbers.length
  /-- Inner subqueries have greater numbers. -/
  decreasing : nest.numbers.Pairwise (· > ·)
  /-- The numbers are those of subqueries met so far. -/
  below : ∀ number ∈ nest.numbers, number < nest.opened

theorem wellFormed_outermost : outermost.WellFormed :=
  ⟨rfl, .nil, by simp [numbers, outermost]⟩

theorem mem_numbers
    {nest : Nest}
    {number : Nat} :
    number ∈ nest.numbers ↔ some number ∈ nest.stack := by
  simp [numbers]

theorem WellFormed.push
    {nest : Nest}
    (wellFormed : nest.WellFormed)
    (isSubquery : Bool) :
    (nest.push isSubquery).WellFormed := by
  obtain ⟨around_eq, decreasing, below⟩ := wellFormed
  cases isSubquery with
  | false => exact ⟨around_eq, decreasing, below⟩
  | true =>
      refine ⟨?_, ?_, ?_⟩
      · simpa [Nest.push, numbers] using around_eq
      · exact List.Pairwise.cons below decreasing
      · intro number present
        rcases List.mem_cons.mp present with rfl | inner
        · exact Nat.lt_succ_self _
        · exact Nat.lt_succ_of_lt (below number inner)

theorem WellFormed.pop
    {nest : Nest}
    (wellFormed : nest.WellFormed) :
    nest.pop.WellFormed := by
  obtain ⟨stack, opened, around, inLiteral⟩ := nest
  obtain ⟨around_eq, decreasing, below⟩ := wellFormed
  match stack with
  | [] => exact ⟨around_eq, decreasing, below⟩
  | none :: _ => exact ⟨around_eq, decreasing, below⟩
  | some innermost :: stack =>
      change around = (stack.filterMap id).length + 1 at around_eq
      refine ⟨?_, decreasing.of_cons, fun number present => ?_⟩
      · change around - 1 = (stack.filterMap id).length
        omega
      · exact below number (List.mem_cons_of_mem _ present)

theorem WellFormed.step
    {nest : Nest}
    (wellFormed : nest.WellFormed)
    (isSubquery : Bool)
    (c : Char) :
    (nest.step isSubquery c).WellFormed := by
  unfold Nest.step
  split
  · exact ⟨wellFormed.around_eq, wellFormed.decreasing, wellFormed.below⟩
  · split
    · exact wellFormed
    · split
      · exact wellFormed.push isSubquery
      · split
        · exact wellFormed.pop
        · exact wellFormed

/-- There are at most as many subqueries around a place as open parentheses. -/
theorem WellFormed.around_le
    {nest : Nest}
    (wellFormed : nest.WellFormed) :
    nest.around ≤ nest.stack.length := by
  rw [wellFormed.around_eq]
  exact List.length_filterMap_le id nest.stack

/-- A subquery is around a place only once. -/
theorem WellFormed.not_mem_tail
    {nest : Nest}
    (wellFormed : nest.WellFormed)
    {number : Nat}
    (innermost : nest.owner = some number) :
    some number ∉ nest.stack.tail := by
  obtain ⟨stack, opened, around, inLiteral⟩ := nest
  match stack with
  | [] => simp
  | none :: _ => simp [owner] at innermost
  | some top :: stack =>
      obtain rfl : top = number := by simpa [owner] using innermost
      intro again
      have smaller := List.rel_of_pairwise_cons wellFormed.decreasing
        (List.mem_filterMap.mpr ⟨_, again, rfl⟩)
      exact Nat.lt_irrefl _ smaller

end Nest
end Query
end SqlReview
