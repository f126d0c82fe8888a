import SqlReview.Proofs.Query.CasePatterns

/-!
# The parts of a query and capital letters

With small letters in the place of plain capital ones a query has its top level, its subqueries, its
clauses and its lists at the same places.
-/

namespace SqlReview
namespace Query

open Pattern Text

/-! ## The top level -/

@[simp] theorem Depth.step_smallLetter
    (depth : Depth)
    (c : Char) :
    depth.step (smallLetter c) = depth.step c := by
  simp [Depth.step]

@[simp] theorem Depth.shows_smallLetter
    (depth : Depth)
    (c : Char) :
    depth.shows (smallLetter c) = depth.shows c := by
  simp [Depth.shows]

theorem mask_small
    (text : Text) :
    mask text.small = (mask text).small := by
  have run (depth : Depth) : maskFrom depth text.small = (maskFrom depth text).small := by
    induction text generalizing depth with
    | nil => rfl
    | cons c text inductionHypothesis =>
        rw [small_cons, maskFrom_cons, maskFrom_cons, small_cons, Depth.step_smallLetter,
          Depth.shows_smallLetter, inductionHypothesis]
        split <;> rfl
  exact run .outermost

/-! ## Subqueries -/

/-- A mark with small letters. -/
def Mark.small (mark : Mark) : Mark :=
  ⟨smallLetter mark.char, smallLetter mark.outside, smallLetter mark.masked, mark.owner⟩

/-- A subquery with small letters. -/
def Scope.small (scope : Scope) : Scope :=
  ⟨scope.text.small, scope.masked.small⟩

theorem Nest.mark_smallLetter
    (nest : Nest)
    (c : Char) :
    nest.mark (smallLetter c) = (nest.mark c).small := by
  have blank : smallLetter ' ' = ' ' := rfl
  simp [Nest.mark, Mark.small, apply_ite smallLetter, blank]

theorem startsSubquery_small
    (text : Text) :
    startsSubquery text.small = startsSubquery text :=
  fitsStart_small ignoresCase_subqueryHead text

/-- The step behind a character, with small letters. -/
theorem Nest.step_small
    (nest : Nest)
    (c : Char)
    (rest : Text) :
    nest.step (smallLetter c = '(' && startsSubquery (smallLetter c :: small rest))
        (smallLetter c) =
      nest.step (c = '(' && startsSubquery (c :: rest)) c := by
  have starts : startsSubquery (smallLetter c :: small rest) = startsSubquery (c :: rest) :=
    startsSubquery_small (c :: rest)
  rw [starts]
  simp [Nest.step]

theorem marks_small
    (text : Text) :
    marks text.small = (marks text).map Mark.small := by
  have run (nest : Nest) : marksFrom nest text.small = (marksFrom nest text).map Mark.small := by
    induction text generalizing nest with
    | nil => rfl
    | cons c text inductionHypothesis =>
        rw [small_cons, marksFrom, marksFrom, List.map_cons, Nest.mark_smallLetter, Nest.step_small,
          inductionHypothesis]
  exact run .outermost

theorem subqueryCount_small
    (text : Text) :
    subqueryCount text.small = subqueryCount text := by
  have run (nest : Nest) : countFrom nest text.small = countFrom nest text := by
    induction text generalizing nest with
    | nil => rfl
    | cons c text inductionHypothesis =>
        rw [small_cons, countFrom, countFrom, Nest.step_small, inductionHypothesis]
  exact run .outermost

theorem outsideView_small
    (text : Text) :
    outsideView text.small = (outsideView text).small := by
  rw [outsideView, outsideView, marks_small, List.map_map, Text.small, List.map_map]
  rfl

theorem scope_small
    (marks : List Mark)
    (number : Nat) :
    scope (marks.map Mark.small) number = (scope marks number).small := by
  simp only [scope, Scope.small, Text.small, List.filter_map, List.map_map]
  rfl

theorem scopes_small
    (text : Text) :
    scopes text.small = (scopes text).map Scope.small := by
  rw [scopes, scopes, subqueryCount_small, marks_small, List.map_map]
  exact List.map_congr_left fun number _ => scope_small (marks text) number

/-! ## Clauses -/

theorem clauses_small
    (masked : Text) :
    clauses masked.small = clauses masked := by
  have name (keyword : Text) : clauseName keyword.small = clauseName keyword := by
    rw [clauseName, clauseName, lower_small]
  have run (length : Nat) (seen : List Text) (keywords : List Occurrence) :
      clausesFrom length seen (keywords.map Occurrence.small) =
        clausesFrom length seen keywords := by
    induction keywords generalizing seen with
    | nil => rfl
    | cons keyword keywords inductionHypothesis =>
        have next : ((keywords.map Occurrence.small).head?.map (·.start)) =
            keywords.head?.map (·.start) := by
          cases keywords <;> rfl
        simp only [List.map_cons, clausesFrom, Occurrence.groupText_small, name, next,
          inductionHypothesis, Occurrence.stop_small]
  rw [clauses, clauses, occurrences_small ignoresCase_clauseKeyword, run, length_small]

theorem Clause.body_small
    (clause : Clause)
    (text : Text) :
    clause.body text.small = (clause.body text).small :=
  small_slice text clause.start clause.stop

/-! ## Lists -/

theorem spans_small
    (masked : Text) :
    spans masked.small = spans masked := by
  have piece (offset : Nat) (piece : Text) :
      pieceSpan? offset piece.small = pieceSpan? offset piece := by
    simp only [pieceSpan?, small_takeWhile isBlank_smallLetter, small_trim, length_small,
      isEmpty_small]
  have run (offset : Nat) (pieces : List Text) :
      spansFrom offset (pieces.map Text.small) = spansFrom offset pieces := by
    induction pieces generalizing offset with
    | nil => rfl
    | cons first pieces inductionHypothesis =>
        simp only [List.map_cons, spansFrom, piece, length_small, inductionHypothesis]
  rw [spans, spans, small_splitAt masked (by decide), run]

theorem Span.of_small
    (text : Text)
    (span : Span) :
    span.of text.small = (span.of text).small :=
  small_slice text span.start span.stop

theorem items_small
    (text masked : Text) :
    items text.small masked.small = (items text masked).map Text.small := by
  rw [items, items, spans_small, List.map_map]
  exact List.map_congr_left fun span _ => span.of_small text

end Query
end SqlReview
