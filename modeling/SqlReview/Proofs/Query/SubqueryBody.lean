import SqlReview.Proofs.Query.Scanners
import SqlReview.Query.Structure

/-!
# The body of a subquery

What a subquery holds does not matter to the query around it. A body that closes what it opens
leaves both scans where it found them, except that subqueries behind it get other numbers, `shift`.
So the mask and the outside view have blanks in its place, and the subqueries before and behind it
stay as they are.
-/

namespace SqlReview
namespace Query

/-! ## Self-contained texts -/

/-- Whether a text that starts at a given depth ends outside of everything and never closes a
parenthesis that it did not open. -/
def closesFrom (depth : Depth) : Text → Bool
  | [] => depth = .outermost
  | c :: rest =>
    !(c = ')' && !depth.inLiteral && depth.level = 0) && closesFrom (depth.step c) rest

/-- Whether the parentheses outside of literals match in a text, and its quotes are paired. -/
def IsSelfContained (text : Text) : Prop :=
  closesFrom .outermost text = true

instance (text : Text) : Decidable (IsSelfContained text) :=
  inferInstanceAs (Decidable (_ = _))

theorem closesFrom_cons
    {depth : Depth}
    {c : Char}
    {rest : Text} :
    closesFrom depth (c :: rest) = true ↔
      ¬(c = ')' ∧ depth.inLiteral = false ∧ depth.level = 0) ∧
        closesFrom (depth.step c) rest = true := by
  rw [closesFrom, Bool.and_eq_true, Bool.not_eq_true']
  simp

/-- A place that is further inside by a number of parentheses. -/
def Depth.inside
    (base : Nat)
    (depth : Depth) : Depth :=
  ⟨depth.level + base, depth.inLiteral⟩

theorem Depth.step_inside
    {depth : Depth}
    {c : Char}
    (stays : ¬(c = ')' ∧ depth.inLiteral = false ∧ depth.level = 0))
    (base : Nat) :
    (depth.inside base).step c = (depth.step c).inside base := by
  obtain ⟨level, inLiteral⟩ := depth
  rcases char_cases c inLiteral with rfl | ⟨noQuote, rfl⟩ | ⟨rfl, rfl⟩ | ⟨rfl, rfl⟩ |
    ⟨noQuote, noOpen, noClose, rfl⟩
  · rfl
  · simp [Depth.step, inside, noQuote]
  · simp [Depth.step, inside]
    omega
  · have positive : level ≠ 0 := fun level => stays ⟨rfl, rfl, level⟩
    simp [Depth.step, inside]
    omega
  · simp [Depth.step, inside, noQuote, noOpen, noClose]

/-- Nothing of a self-contained text shows inside parentheses. -/
theorem Depth.shows_inside
    {depth : Depth}
    {c : Char}
    (stays : ¬(c = ')' ∧ depth.inLiteral = false ∧ depth.level = 0))
    {base : Nat}
    (positive : 0 < base) :
    (depth.inside base).shows c = false := by
  obtain ⟨level, inLiteral⟩ := depth
  rcases char_cases c inLiteral with rfl | ⟨noQuote, rfl⟩ | ⟨rfl, rfl⟩ | ⟨rfl, rfl⟩ |
    ⟨noQuote, noOpen, noClose, rfl⟩
  · simp [shows, inside]
    omega
  · simp [shows, inside, noQuote]
  · simp [shows, inside]
    omega
  · have inner : level ≠ 0 := fun level => stays ⟨rfl, rfl, level⟩
    simp only [shows, inside]
    exact decide_eq_false (by omega)
  · simp [shows, inside, noQuote, noClose]
    omega

/-- Inside parentheses the mask of a self-contained text is blank. -/
theorem maskFrom_inside
    {depth : Depth}
    {body : Text}
    (closes : closesFrom depth body = true)
    {base : Nat}
    (positive : 0 < base) :
    maskFrom (depth.inside base) body = List.replicate body.length ' ' ∧
      (depth.inside base).after body = ⟨base, false⟩ := by
  induction body generalizing depth with
  | nil =>
      obtain rfl : depth = .outermost := by simpa [closesFrom] using closes
      exact ⟨rfl, by simp [Depth.inside, Depth.outermost]⟩
  | cons c rest inductionHypothesis =>
      obtain ⟨stays, closesRest⟩ := closesFrom_cons.mp closes
      obtain ⟨blank, after⟩ := inductionHypothesis closesRest
      rw [maskFrom_cons, Depth.after_cons, Depth.step_inside stays,
        Depth.shows_inside stays positive, blank, after]
      exact ⟨rfl, rfl⟩

/-! ## The stack above a place -/

namespace Nest

/-- Whether a place is a given depth above the stack of another place, and all subqueries in
between have at least a given number. -/
def StandsOn
    (nest : Nest)
    (base : List (Option Nat))
    (first : Nat)
    (depth : Depth) : Prop :=
  ∃ inner, nest.stack = inner ++ base ∧ depth = ⟨inner.length, nest.inLiteral⟩ ∧
    ∀ number, some number ∈ inner → first ≤ number

variable {nest : Nest} {base : List (Option Nat)} {first : Nat} {depth : Depth} {c : Char}

theorem StandsOn.step
    (standsOn : nest.StandsOn base first depth)
    (older : first ≤ nest.opened)
    (stays : ¬(c = ')' ∧ depth.inLiteral = false ∧ depth.level = 0))
    (isSubquery : Bool) :
    (nest.step isSubquery c).StandsOn base first (depth.step c) := by
  obtain ⟨inner, stack, rfl, later⟩ := standsOn
  rcases char_cases c nest.inLiteral with rfl | ⟨noQuote, inLiteral⟩ | ⟨rfl, outside⟩ |
    ⟨rfl, outside⟩ | ⟨noQuote, noOpen, noClose, outside⟩
  · exact ⟨inner, stack, rfl, later⟩
  · rw [step_inLiteral noQuote inLiteral]
    exact ⟨inner, stack, by simp [Depth.step, noQuote, inLiteral], later⟩
  · rw [step_open outside]
    refine ⟨(if isSubquery then some nest.opened else none) :: inner, by simp [stack],
      by simp [Depth.step, outside], ?_⟩
    intro number present
    rcases List.mem_cons.mp present with new | before
    · cases isSubquery with
      | false => exact absurd new (by simp)
      | true =>
          obtain rfl : number = nest.opened := by simpa using new
          exact older
    · exact later number before
  · cases inner with
    | nil => exact absurd ⟨rfl, outside, rfl⟩ stays
    | cons top inner =>
        rw [step_close outside]
        refine ⟨inner, by simp [stack], by simp [Depth.step, outside], ?_⟩
        exact fun number present => later number (.tail _ present)
  · rw [step_plain noQuote noOpen noClose]
    exact ⟨inner, stack, by simp [Depth.step, noQuote, noOpen, noClose], later⟩

theorem StandsOn.seen
    (standsOn : nest.StandsOn base first depth)
    (stays : ¬(c = ')' ∧ depth.inLiteral = false ∧ depth.level = 0)) :
    ∃ inner, (nest.seen c).stack = inner ++ base ∧
      ∀ number, some number ∈ inner → first ≤ number := by
  obtain ⟨inner, stack, rfl, later⟩ := standsOn
  by_cases closes : c = ')' ∧ nest.inLiteral = false
  · obtain ⟨rfl, outside⟩ := closes
    cases inner with
    | nil => exact absurd ⟨rfl, outside, rfl⟩ stays
    | cons top inner =>
        rw [seen_close outside]
        exact ⟨inner, by simp [stack], fun number present => later number (.tail _ present)⟩
  · rw [Nest.seen, if_neg (by simpa using closes)]
    exact ⟨inner, stack, later⟩

/-- A self-contained text leads back to the stack on which it started. -/
theorem StandsOn.after
    (standsOn : nest.StandsOn base first depth)
    (older : first ≤ nest.opened)
    {body : Text}
    (closes : closesFrom depth body = true) :
    (nest.after body).stack = base ∧ (nest.after body).inLiteral = false := by
  induction body generalizing nest depth with
  | nil =>
      obtain ⟨inner, stack, rfl, -⟩ := standsOn
      obtain ⟨level, outside⟩ : inner.length = 0 ∧ nest.inLiteral = false := by
        simpa [closesFrom, Depth.outermost] using closes
      rw [List.length_eq_zero_iff.mp level] at stack
      exact ⟨stack, outside⟩
  | cons c rest inductionHypothesis =>
      obtain ⟨stays, closesRest⟩ := closesFrom_cons.mp closes
      exact inductionHypothesis (standsOn.step older stays _)
        (Nat.le_trans older (nest.opened_le_step _ c)) closesRest

end Nest

/-! ## The marks of a body -/

variable {nest : Nest} {outer : List (Option Nat)} {innermost first : Nat} {depth : Depth}

/-- Nothing of a body is visible from outside its subquery. -/
theorem outside_body
    (wellFormed : nest.WellFormed)
    (standsOn : nest.StandsOn (some innermost :: outer) first depth)
    (older : first ≤ nest.opened)
    {body : Text}
    (closes : closesFrom depth body = true) :
    (marksFrom nest body).map (·.outside) = List.replicate body.length ' ' := by
  induction body generalizing nest depth with
  | nil => rfl
  | cons c rest inductionHypothesis =>
      obtain ⟨stays, closesRest⟩ := closesFrom_cons.mp closes
      obtain ⟨inner, stack, -⟩ := standsOn.seen stays
      have enclosed : innermost ∈ (nest.seen c).numbers := by
        rw [Nest.mem_numbers, stack]
        exact List.mem_append_right _ (.head _)
      have around : 0 < (nest.seen c).around := by
        rw [(wellFormed.seen c).around_eq]
        exact List.length_pos_of_mem enclosed
      rw [marksFrom, List.map_cons, Nest.outside_mark, if_pos around,
        inductionHypothesis (wellFormed.step _ c) (standsOn.step older stays _)
          (Nat.le_trans older (nest.opened_le_step _ c)) closesRest]
      rfl

/-- No character of a body belongs to a subquery around it. -/
theorem own_body
    (standsOn : nest.StandsOn (some innermost :: outer) first depth)
    (older : first ≤ nest.opened)
    {body : Text}
    (closes : closesFrom depth body = true)
    {number : Nat}
    (around : number < innermost)
    (before : innermost < first) :
    own number (marksFrom nest body) = [] := by
  induction body generalizing nest depth with
  | nil => rfl
  | cons c rest inductionHypothesis =>
      obtain ⟨stays, closesRest⟩ := closesFrom_cons.mp closes
      obtain ⟨inner, stack, later⟩ := standsOn.seen stays
      have notOwn : (nest.mark c).owner ≠ some number := by
        intro owner
        rw [Nest.owner_mark, Nest.owner, stack] at owner
        cases inner with
        | nil =>
            obtain rfl : innermost = number := by simpa using owner
            exact Nat.lt_irrefl _ around
        | cons top inner =>
            obtain rfl : top = some number := by simpa using owner
            have inside := later number (.head _)
            omega
      rw [marksFrom, own_cons, if_neg notOwn]
      exact inductionHypothesis (standsOn.step older stays _)
        (Nat.le_trans older (nest.opened_le_step _ c)) closesRest

/-! ## Other numbers -/

/-- The number of a subquery when others are inserted in front of those from a given number on. -/
def renumber (start count number : Nat) : Nat :=
  if number < start then number else number + count

theorem renumber_of_lt
    {start count number : Nat}
    (lt : number < start) :
    renumber start count number = number :=
  if_pos lt

theorem renumber_of_le
    {start count number : Nat}
    (le : start ≤ number) :
    renumber start count number = number + count :=
  if_neg (Nat.not_lt.mpr le)

theorem renumber_injective (start count : Nat) :
    Function.Injective (renumber start count) := by
  intro first second equal
  unfold renumber at equal
  split at equal <;> split at equal <;> omega

/-- A place in a query with other subqueries inserted. -/
def Nest.shift (nest : Nest) (start count : Nat) : Nest :=
  ⟨nest.stack.map (·.map (renumber start count)), nest.opened + count, nest.around,
    nest.inLiteral⟩

/-- A mark in a query with other subqueries inserted. -/
def Mark.shift (mark : Mark) (start count : Nat) : Mark :=
  { mark with owner := mark.owner.map (renumber start count) }

namespace Nest

variable {start count : Nat}

theorem owner_shift (nest : Nest) :
    (nest.shift start count).owner = nest.owner.map (renumber start count) := by
  obtain ⟨stack, opened, around, inLiteral⟩ := nest
  cases stack <;> rfl

theorem pop_shift (nest : Nest) :
    (nest.shift start count).pop = nest.pop.shift start count := by
  obtain ⟨stack, opened, around, inLiteral⟩ := nest
  match stack with
  | [] => rfl
  | none :: _ => rfl
  | some _ :: _ => rfl

theorem push_shift
    (older : start ≤ nest.opened)
    (isSubquery : Bool) :
    (nest.shift start count).push isSubquery = (nest.push isSubquery).shift start count := by
  cases isSubquery with
  | false => rfl
  | true =>
      simp only [push, shift, if_true, List.map_cons, Option.map_some, renumber_of_le older,
        Nat.add_right_comm]

theorem step_shift
    (older : start ≤ nest.opened)
    (isSubquery : Bool)
    (c : Char) :
    (nest.shift start count).step isSubquery c = (nest.step isSubquery c).shift start count := by
  rcases char_cases c nest.inLiteral with rfl | ⟨noQuote, inLiteral⟩ | ⟨rfl, outside⟩ |
    ⟨rfl, outside⟩ | ⟨noQuote, noOpen, noClose, outside⟩
  · rfl
  · have shifted : (nest.shift start count).inLiteral = true := inLiteral
    rw [step_inLiteral noQuote inLiteral, step_inLiteral noQuote shifted]
  · have shifted : (nest.shift start count).inLiteral = false := outside
    rw [step_open outside, step_open shifted, push_shift older]
  · have shifted : (nest.shift start count).inLiteral = false := outside
    rw [step_close outside, step_close shifted, pop_shift]
  · rw [step_plain noQuote noOpen noClose, step_plain noQuote noOpen noClose]

theorem seen_shift
    (nest : Nest)
    (c : Char) :
    (nest.shift start count).seen c = (nest.seen c).shift start count := by
  unfold Nest.seen
  change (if (c = ')' && !nest.inLiteral) = true then _ else _) = _
  rw [pop_shift]
  split <;> rfl

theorem mark_shift
    (nest : Nest)
    (c : Char) :
    (nest.shift start count).mark c = (nest.mark c).shift start count := by
  change Mark.mk c (if 0 < ((nest.shift start count).seen c).around then ' ' else c) _
    ((nest.shift start count).seen c).owner = _
  rw [seen_shift, owner_shift]
  rfl

theorem after_shift
    (older : start ≤ nest.opened)
    (text : Text) :
    (nest.shift start count).after text = (nest.after text).shift start count := by
  induction text generalizing nest with
  | nil => rfl
  | cons c rest inductionHypothesis =>
      rw [after_cons, step_shift older,
        inductionHypothesis (Nat.le_trans older (nest.opened_le_step _ c)), after_cons]

end Nest

theorem marksFrom_shift
    {start count : Nat}
    (older : start ≤ nest.opened)
    (text : Text) :
    marksFrom (nest.shift start count) text =
      (marksFrom nest text).map (·.shift start count) := by
  induction text generalizing nest with
  | nil => rfl
  | cons c rest inductionHypothesis =>
      rw [marksFrom, Nest.step_shift older, Nest.mark_shift,
        inductionHypothesis (Nat.le_trans older (nest.opened_le_step _ c))]
      rfl

/-- A subquery keeps its characters under its new number. -/
theorem own_shift
    (start count number : Nat)
    (marks : List Mark) :
    own (renumber start count number) (marks.map (·.shift start count)) =
      (own number marks).map (·.shift start count) := by
  have same (owner : Option Nat) :
      owner.map (renumber start count) = some (renumber start count number) ↔
        owner = some number := by
    cases owner with
    | none => simp
    | some found => simp [(renumber_injective start count).eq_iff]
  rw [own, own, List.filter_map]
  congr 1
  apply List.filter_congr
  intro mark _
  simp only [Function.comp_apply, Mark.shift, same]

/-! ## A body in its query -/

/-- A subquery with a given body between two texts. -/
def withBody (lead body rest : Text) : Text :=
  lead ++ '(' :: (body ++ ')' :: rest)

/-- The place where a subquery begins. -/
theorem standsOn_push
    (nest : Nest)
    (outside : nest.inLiteral = false) :
    (nest.push true).StandsOn (some nest.opened :: nest.stack) (nest.opened + 1) .outermost := by
  refine ⟨[], rfl, ?_, by simp⟩
  rw [Nest.inLiteral_push, outside]
  rfl

/-- Behind a self-contained body the scan is where it was before it, except that more subqueries
have been met. -/
theorem after_body
    (wellFormed : nest.WellFormed)
    (outside : nest.inLiteral = false)
    {body : Text}
    (selfContained : IsSelfContained body) :
    (nest.push true).after body =
      (nest.push true).shift (nest.opened + 1) (subqueryCount body) := by
  have pushed := wellFormed.push true
  have noLiteral : (nest.push true).inLiteral = Nest.outermost.inLiteral := by
    rw [Nest.inLiteral_push, outside]
    rfl
  obtain ⟨stack, inLiteral⟩ :=
    (standsOn_push nest outside).after (Nat.le_refl _) selfContained
  have opened : ((nest.push true).after body).opened =
      (nest.push true).opened + subqueryCount body := by
    have met := Nest.opened_after noLiteral body
    rw [← countFrom_eq .outermost] at met
    exact met.trans (Nat.add_comm _ _)
  have around : ((nest.push true).after body).around = (nest.push true).around := by
    rw [(pushed.after body).around_eq, pushed.around_eq, Nest.numbers, stack]
    rfl
  -- All numbers on the stack were given out before the body.
  have unchanged : (nest.push true).stack.map (·.map (renumber (nest.opened + 1)
      (subqueryCount body))) = (nest.push true).stack := by
    rw [List.map_congr_left (g := id) fun entry present => ?_, List.map_id]
    cases entry with
    | none => rfl
    | some number =>
        have below := pushed.below number (Nest.mem_numbers.mpr present)
        exact congrArg some (renumber_of_lt below)
  calc (nest.push true).after body
      = ⟨((nest.push true).after body).stack, ((nest.push true).after body).opened,
          ((nest.push true).after body).around, ((nest.push true).after body).inLiteral⟩ := rfl
    _ = (nest.push true).shift (nest.opened + 1) (subqueryCount body) := by
      rw [stack, opened, around, inLiteral, Nest.shift, unchanged, noLiteral]
      rfl

end Query
end SqlReview
