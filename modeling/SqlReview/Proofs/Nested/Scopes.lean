import SqlReview.Proofs.Nested.Levels
import SqlReview.Proofs.Query.Opacity

/-!
# The subqueries of a nested query

One scan over a nested query finds every level below the outermost one. Each of them keeps its own
characters only: the query with an empty list.
-/

namespace SqlReview
namespace Query

/-- Characters without quotes and parentheses leave the scan where it is. -/
theorem Nest.after_plain_append
    (nest : Nest)
    {plain : Text}
    (isPlain : ∀ c ∈ plain, c ≠ '\'' ∧ c ≠ '(' ∧ c ≠ ')')
    (rest : Text) :
    nest.after (plain ++ rest) = nest.after rest := by
  induction plain with
  | nil => rfl
  | cons c plain inductionHypothesis =>
      obtain ⟨noQuote, noOpen, noClose⟩ := isPlain c (.head _)
      rw [List.cons_append, Nest.after_cons, Nest.step_plain noQuote noOpen noClose,
        inductionHypothesis fun d present => isPlain d (.tail _ present)]

/-- Characters in front of a parenthesis belong to the same subquery. -/
theorem own_map_mark
    (nest : Nest)
    (number : Nat)
    {text : Text}
    (noClose : ∀ c ∈ text, c ≠ ')') :
    own number (text.map nest.mark) =
      if nest.owner = some number then text.map nest.mark else [] := by
  have owner : ∀ mark ∈ text.map nest.mark, mark.owner = nest.owner := by
    intro mark present
    obtain ⟨c, inText, rfl⟩ := List.mem_map.mp present
    rw [Nest.owner_mark, Nest.seen_of_ne (noClose c inText)]
  split
  next isOwner =>
      exact List.filter_eq_self.mpr fun mark present =>
        decide_eq_true ((owner mark present).trans isOwner)
  next isOther =>
      exact List.filter_eq_nil_iff.mpr fun mark present isOwn =>
        isOther ((owner mark present).symm.trans (of_decide_eq_true isOwn))

end Query

namespace Nested

open Query Plain FromClause

/-! ## The scan over one level -/

theorem startsWithSelect_text (level : Level) (enclosed : Text) :
    StartsWithSelect (level.text enclosed) := by
  have split : "SELECT ".toList = "SELECT".toList ++ [' '] := by decide
  refine ⟨[], "SELECT", ' ' :: (level.column.text ++ (" FROM ".toList ++ (level.table.text ++
    (" WHERE ".toList ++ (level.filtered.text ++ (" IN ".toList ++
      '(' :: (enclosed ++ [')']))))))), ?_, List.forall_mem_nil _, by decide,
    show Text.isWord ' ' = false by decide⟩
  unfold Level.text Level.head
  simp only [split, List.append_assoc, List.nil_append, List.cons_append]

/-- A list encloses a subquery unless it is that of the innermost level. -/
theorem startsSubquery_nestedText (inner : List Level) :
    startsSubquery ('(' :: (nestedText inner ++ [')'])) = !inner.isEmpty := by
  cases inner with
  | nil => rfl
  | cons level inner =>
      exact startsSubquery_of_startsWithSelect (startsWithSelect_text level _) []

variable {nest : Nest}

/-- The parenthesis in front of what a list encloses. -/
theorem step_nestedText
    (outside : nest.inLiteral = false)
    (inner : List Level) :
    nest.step (decide ('(' = '(') && startsSubquery ('(' :: (nestedText inner ++ [')']))) '(' =
      nest.push !inner.isEmpty := by
  rw [Nest.step_open outside, startsSubquery_nestedText]
  rfl

theorem isPlain_innermost :
    ∀ c ∈ nestedText [], c ≠ '\'' ∧ c ≠ '(' ∧ c ≠ ')' :=
  List.forall_mem_singleton.mpr (by decide)

/-- The place behind what a list encloses is the one in front of it, as far as the parentheses around
it go. -/
theorem pop_after_nestedText
    (wellFormed : nest.WellFormed)
    (outside : nest.inLiteral = false)
    (inner : List Level) :
    ((nest.push !inner.isEmpty).after (nestedText inner)).pop.stack = nest.stack ∧
      ((nest.push !inner.isEmpty).after (nestedText inner)).pop.around = nest.around ∧
      ((nest.push !inner.isEmpty).after (nestedText inner)).inLiteral = false := by
  have pushed := (wellFormed.push !inner.isEmpty).after (nestedText inner)
  have stack : ((nest.push !inner.isEmpty).after (nestedText inner)).pop.stack = nest.stack ∧
      ((nest.push !inner.isEmpty).after (nestedText inner)).inLiteral = false := by
    cases inner with
    | nil =>
        have after := (nest.push false).after_plain_append isPlain_innermost []
        rw [List.append_nil] at after
        change ((nest.push false).after (nestedText [])).pop.stack = _ ∧ _
        rw [List.isEmpty_nil, Bool.not_true, after]
        exact ⟨rfl, outside⟩
    | cons level inner =>
        obtain ⟨stack, inLiteral⟩ := (standsOn_push nest outside).after (Nat.le_refl _)
          (isSelfContained_nestedText (level :: inner))
        rw [Nest.stack_pop]
        change ((nest.push true).after (nestedText (level :: inner))).stack.tail = _ ∧ _
        rw [stack]
        exact ⟨rfl, inLiteral⟩
  refine ⟨stack.1, ?_, stack.2⟩
  rw [pushed.pop.around_eq, wellFormed.around_eq, Nest.numbers, Nest.numbers, stack.1]

/-- The marks of a level: those up to its list, those of what the list encloses, and that of the
parenthesis behind it. -/
theorem exists_marks
    (wellFormed : nest.WellFormed)
    (outside : nest.inLiteral = false)
    (level : Level)
    (inner : List Level) :
    ∃ closing, marksFrom nest (nestedText (level :: inner)) =
        (level.head ++ ['(']).map nest.mark ++
          (marksFrom (nest.push !inner.isEmpty) (nestedText inner) ++ [closing]) ∧
      closing.char = ')' ∧ closing.owner = nest.owner ∧
      closing.outside = if 0 < nest.around then ' ' else ')' := by
  obtain ⟨stack, around, inLiteral⟩ := pop_after_nestedText wellFormed outside inner
  have seen := Nest.seen_close inLiteral
  refine ⟨((nest.push !inner.isEmpty).after (nestedText inner)).mark ')', ?_, rfl, ?_, ?_⟩
  · rw [nestedText, Level.text, marksFrom_plain_append nest level.isPlain_head, marksFrom,
      step_nestedText outside, marksFrom_append (isBarrier_close []), List.map_append]
    simp [marksFrom]
  · rw [Nest.owner_mark, seen, Nest.owner, Nest.owner, stack]
  · rw [Nest.outside_mark, seen, around]

/-- The place behind a nested query: every level but the outermost one opens a subquery. -/
theorem opened_after_nestedText
    (outside : nest.inLiteral = false)
    (levels : List Level) :
    (nest.after (nestedText levels)).opened = nest.opened + levels.tail.length := by
  induction levels generalizing nest with
  | nil =>
      have after := nest.after_plain_append isPlain_innermost []
      rw [List.append_nil] at after
      rw [after]
      rfl
  | cons level inner inductionHypothesis =>
      have pushed : (nest.push !inner.isEmpty).inLiteral = false := by
        rw [Nest.inLiteral_push, outside]
      rw [nestedText, Level.text, nest.after_plain_append level.isPlain_head, Nest.after_cons,
        step_nestedText outside, Nest.after_append (isBarrier_close []), Nest.after_cons,
        Nest.after_nil, Nest.opened_step, inductionHypothesis pushed]
      cases inner with
      | nil => rfl
      | cons next inner =>
          simp [Nest.push]
          omega

theorem subqueryCount_nestedText (levels : List Level) :
    subqueryCount (nestedText levels) = levels.tail.length := by
  rw [subqueryCount, countFrom_eq, opened_after_nestedText rfl]
  exact Nat.zero_add _

/-! ## The characters of the subqueries -/

theorem Level.noClose_front (level : Level) :
    ∀ c ∈ level.head ++ ['('], c ≠ ')' := by
  intro c present
  rcases List.mem_append.mp present with inHead | isOpen
  · exact (level.isPlain_head c inHead).2.2
  · obtain rfl := List.mem_singleton.mp isOpen
    decide

/-- The characters of a level are those of the level with an empty list. -/
theorem own_nestedText
    (wellFormed : nest.WellFormed)
    (outside : nest.inLiteral = false)
    (level : Level)
    (inner : List Level)
    {number : Nat}
    (owner : nest.owner = some number) :
    (own number (marksFrom nest (nestedText (level :: inner)))).map (·.char) = level.text [] := by
  obtain ⟨closing, marks, char, closingOwner, -⟩ := exists_marks wellFormed outside level inner
  have body : own number (marksFrom (nest.push !inner.isEmpty) (nestedText inner)) = [] := by
    have older : number < nest.opened :=
      wellFormed.below number (Nest.mem_numbers.mpr (Nest.mem_stack_of_owner owner))
    cases inner with
    | nil =>
        have marks := marksFrom_plain_append (nest.push false) isPlain_innermost []
        rw [List.append_nil] at marks
        rw [List.isEmpty_nil, Bool.not_true, marks]
        exact own_map_mark (nest.push false) number fun c present => (isPlain_innermost c present).2.2
    | cons next inner =>
        exact own_body (standsOn_push nest outside) (Nat.le_refl _)
          (isSelfContained_nestedText (next :: inner)) older (Nat.lt_succ_self _)
  rw [marks, own_append, own_append, own_map_mark nest number level.noClose_front, if_pos owner,
    body, own_cons, if_pos (closingOwner.trans owner), own_nil]
  simp [char, Level.text, Function.comp_def]

/-- The subqueries of a nested query are its levels below the outermost one, in order. -/
theorem own_inner
    (wellFormed : nest.WellFormed)
    (outside : nest.inLiteral = false)
    (level : Level)
    (inner : List Level)
    {index : Nat}
    {found : Level}
    (isFound : inner[index]? = some found) :
    (own (nest.opened + index) (marksFrom nest (nestedText (level :: inner)))).map (·.char) =
      found.text [] := by
  induction inner generalizing nest level index with
  | nil => simp at isFound
  | cons next inner inductionHypothesis =>
      obtain ⟨closing, marks, -, closingOwner, -⟩ :=
        exists_marks wellFormed outside level (next :: inner)
      have notOwner : nest.owner ≠ some (nest.opened + index) := by
        intro owner
        have below := wellFormed.below _ (Nest.mem_numbers.mpr (Nest.mem_stack_of_owner owner))
        omega
      have pushed : (nest.push true).inLiteral = false := by
        rw [Nest.inLiteral_push, outside]
      rw [marks, own_append, own_append, own_map_mark nest _ level.noClose_front, if_neg notOwner,
        own_cons, if_neg (closingOwner ▸ notOwner), own_nil, List.nil_append, List.append_nil]
      cases index with
      | zero =>
          obtain rfl : next = found := by simpa using isFound
          exact own_nestedText (wellFormed.push true) pushed next inner rfl
      | succ index =>
          have later := inductionHypothesis (wellFormed.push true) pushed next isFound
          rw [← later]
          congr 2
          simp [Nest.push]
          omega

/-- Every level below the outermost one is looked at as a query with an empty list. -/
theorem scopes_nestedText
    (level : Level)
    (inner : List Level) :
    scopes (nestedText (level :: inner)) =
      inner.map fun found => ⟨found.text [], mask (found.text [])⟩ := by
  have length : (scopes (nestedText (level :: inner))).length = inner.length := by
    rw [scopes, List.length_map, List.length_range, subqueryCount_nestedText]
    rfl
  refine List.ext_getElem (by simpa using length) fun index inScopes inLevels => ?_
  have found : index < inner.length := by simpa using inLevels
  have chars := own_inner Nest.wellFormed_outermost rfl level inner
    (List.getElem?_eq_getElem found)
  change (own (0 + index) (marks _)).map _ = _ at chars
  rw [Nat.zero_add] at chars
  have masked := masked_own Nest.wellFormed_outermost index (nestedText (level :: inner))
  change (own index (marks _)).map _ = mask ((own index (marks _)).map _) at masked
  rw [chars] at masked
  simp only [scopes, List.getElem_map, List.getElem_range, scope_eq, chars, masked]

/-! ## The view from outside -/

/-- What the list of a level can show of what it encloses: the number 1, or blanks. -/
def IsShown (shown : Text) : Prop :=
  shown = "1".toList ∨ ∀ c ∈ shown, c = ' '

namespace IsShown

variable {shown : Text}

theorem isPlain (isShown : IsShown shown) :
    ∀ c ∈ shown, c ≠ '\'' ∧ c ≠ '(' ∧ c ≠ ')' := by
  rcases isShown with rfl | blank
  · exact isPlain_innermost
  · intro c present
    obtain rfl := blank c present
    decide

theorem noName (isShown : IsShown shown) :
    ∀ c ∈ '(' :: (shown ++ [')']), Text.startsIdentifier c = false := by
  intro c present
  simp only [List.mem_cons, List.mem_append, List.not_mem_nil, or_false] at present
  rcases present with rfl | inShown | rfl
  · decide
  · rcases isShown with rfl | blank
    · obtain rfl := List.mem_singleton.mp inShown
      decide
    · obtain rfl := blank c inShown
      decide
  · decide

theorem keywords_eq_nil (isShown : IsShown shown) :
    keywords shown = [] := by
  rcases isShown with rfl | blank
  · decide
  · refine keywords_of_noWord fun c present => ?_
    rw [blank c present]
    decide

end IsShown

/-- From outside of all subqueries a nested query is its outermost level, with a list of blanks or of
the number 1. -/
theorem exists_outsideView
    (level : Level)
    (inner : List Level) :
    ∃ shown, outsideView (nestedText (level :: inner)) = level.text shown ∧
      shown.length = (nestedText inner).length ∧ IsShown shown := by
  obtain ⟨closing, marks, -, -, outside⟩ := exists_marks Nest.wellFormed_outermost rfl level inner
  have front : ((level.head ++ ['(']).map Nest.outermost.mark).map (·.outside) =
      level.head ++ ['('] := by
    rw [List.map_map]
    refine (List.map_congr_left fun c present => ?_).trans (List.map_id _)
    rw [Function.comp_apply, Nest.outside_mark, Nest.seen_of_ne (level.noClose_front c present)]
    rfl
  refine ⟨(marksFrom (Nest.outermost.push !inner.isEmpty) (nestedText inner)).map (·.outside),
    ?_, by simp, ?_⟩
  · rw [outsideView, Query.marks, marks]
    refine List.map_append.trans ?_
    rw [front, List.map_append, List.map_singleton, outside]
    simp [Level.text, Nest.outermost]
  · cases inner with
    | nil => exact .inl (by decide)
    | cons next inner =>
        have blank := outside_body (Nest.wellFormed_outermost.push true)
          (standsOn_push .outermost rfl) (Nat.le_refl _)
          (isSelfContained_nestedText (next :: inner))
        rw [List.isEmpty_cons, Bool.not_false, blank]
        exact .inr fun c present => List.eq_of_mem_replicate present

end Nested
end SqlReview
