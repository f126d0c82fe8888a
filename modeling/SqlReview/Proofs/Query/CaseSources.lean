import SqlReview.Proofs.Query.CaseParts
import SqlReview.Proofs.Query.Sources

/-!
# Tables and joins and capital letters

With small letters in the place of plain capital ones a query makes the same references and has the
same joins, up to these letters. Tables are told apart case ignored, so the same ones are recorded.
Only aliases are told apart by case, and nothing else depends on them.
-/

namespace SqlReview
namespace Query

open Pattern Text

/-! ## Names -/

theorem isAmong_small
    (words : List Text)
    (name : Text) :
    isAmong words name.small = isAmong words name := by
  rw [isAmong, isAmong, lower_small]

theorem cleanName_small
    (name : Text) :
    cleanName name.small = (cleanName name).small := by
  rw [cleanName, cleanName, small_trim, replace_small ignoresCase_dot rfl]

theorem aliasOf_small
    (occurrence : Occurrence) :
    aliasOf occurrence.small = (aliasOf occurrence).map Text.small := by
  rw [aliasOf, aliasOf, Occurrence.group?_small]
  cases occurrence.group? 2 with
  | none => rfl
  | some capture =>
      have among := isAmong_small nonAliasWords capture.text
      simp only [Option.map_some, Capture.small, Option.filter_some, among]
      split <;> rfl

theorem isDerived_small
    (masked : Text) :
    isDerived masked.small = isDerived masked := by
  rw [isDerived, isDerived, small_dropWhile isBlank_smallLetter, lower_small]

/-! ## References -/

/-- A reference with small letters. -/
def Reference.small (reference : Reference) : Reference :=
  ⟨reference.table.map Text.small, reference.aliasName.map Text.small⟩

theorem Reference.name?_small
    (reference : Reference) :
    reference.small.name? = reference.name?.map Text.small := by
  obtain ⟨_ | table, aliasName⟩ := reference <;> rfl

theorem reference_small
    (text masked : Text) :
    reference text.small masked.small = (reference text masked).small := by
  rw [reference, reference, isDerived_small, atStart?_small ignoresCase_derivedTable,
    atStart?_small ignoresCase_tableReference]
  split
  · cases derivedTable.atStart? masked with
    | none => rfl
    | some occurrence =>
        have named := aliasOf_small occurrence
        simp only [Option.map_some, Option.bind_some, named]
        rfl
  · cases tableReference.atStart? text with
    | none => rfl
    | some occurrence =>
        have named := aliasOf_small occurrence
        simp only [Option.map_some, Occurrence.groupText_small, cleanName_small, isAmong_small,
          named]
        split <;> rfl

/-! ## What is recorded -/

/-- A join with small letters. -/
def Join.small (join : Join) : Join :=
  { join with left := join.left.small, right := join.right.small }

/-- What is recorded apart from the aliases, with small letters. -/
def Sources.small (sources : Sources) : Sources :=
  ⟨sources.tables.map Text.small, [], sources.joins.map Join.small⟩

namespace Sources

variable {sources other : Sources}

@[simp] theorem small_addAlias
    (name table : Text) :
    (sources.addAlias name table).small = sources.small := by
  unfold addAlias
  split <;> rfl

theorem small_addTable
    (table : Text) :
    (sources.addTable table).small = sources.small.addTable table.small := by
  have names : sources.small.tables.map Text.lower = sources.tables.map Text.lower := by
    rw [small, List.map_map]
    exact List.map_congr_left fun table _ => lower_small table
  rw [addTable, addTable, names, lower_small]
  split
  · rfl
  · simp [small]

/-- A reference adds the same to what is recorded, up to aliases and the case of letters. -/
theorem small_addReference
    (same : other.small = sources.small)
    (reference : Reference) :
    (other.addReference reference.small).small = (sources.addReference reference).small := by
  obtain ⟨table, aliasName⟩ := reference
  cases table <;> cases aliasName <;>
    simp [addReference, Reference.small, small_addTable, same]

theorem small_addJoin
    (same : other.small = sources.small)
    (join : Join) :
    (other.addJoin join.small).small = (sources.addJoin join).small := by
  obtain ⟨tables, -, joins⟩ := Sources.mk.inj same
  have again : join.small.small = join.small := by simp [Join.small]
  simp only [small, addJoin, List.map_append, List.map_cons, List.map_nil, tables, joins, again]

end Sources

/-! ## Collecting -/

variable {sources other : Sources}

/-- One more item before the first join. -/
def headStep (body masked : Text) (state : Sources × Option Text) (span : Span) :
    Sources × Option Text :=
  let item := reference (span.of body) (span.of masked)
  (state.1.addReference item, item.name?.or state.2)

theorem collectHeads_eq
    (body masked : Text)
    (sources : Sources) :
    collectHeads body masked sources =
      (spans masked).foldl (headStep body masked) (sources, none) := rfl

theorem collectHeads_small
    (same : other.small = sources.small)
    (body masked : Text) :
    (collectHeads body.small masked.small other).1.small =
        (collectHeads body masked sources).1.small ∧
      (collectHeads body.small masked.small other).2 =
        (collectHeads body masked sources).2.map Text.small := by
  have run (list : List Span) (previous : Option Text) {sources other : Sources}
      (same : other.small = sources.small) :
      (list.foldl (headStep body.small masked.small) (other, previous.map Text.small)).1.small =
          (list.foldl (headStep body masked) (sources, previous)).1.small ∧
        (list.foldl (headStep body.small masked.small) (other, previous.map Text.small)).2 =
          (list.foldl (headStep body masked) (sources, previous)).2.map Text.small := by
    induction list generalizing previous other sources with
    | nil => exact ⟨same, rfl⟩
    | cons span list inductionHypothesis =>
        have item : reference (span.of body.small) (span.of masked.small) =
            (reference (span.of body) (span.of masked)).small := by
          rw [span.of_small, span.of_small, reference_small]
        simp only [List.foldl_cons, headStep, item, Reference.name?_small, ← Option.map_or]
        exact inductionHypothesis _ (Sources.small_addReference same _)
  rw [collectHeads_eq, collectHeads_eq, spans_small]
  exact run (spans masked) none same

theorem joinTarget_small
    (keyword : Occurrence)
    (next : Option Occurrence)
    (text : Text) :
    joinTarget keyword.small (next.map Occurrence.small) text.small =
      (joinTarget keyword next text).small := by
  rw [joinTarget, joinTarget, length_small, small_slice, Option.map_map]
  rfl

theorem collectJoins_small
    (same : other.small = sources.small)
    (body masked : Text)
    (previous : Option Text)
    (keywords : List Occurrence) :
    (collectJoins body.small masked.small (previous.map Text.small) other
        (keywords.map Occurrence.small)).small =
      (collectJoins body masked previous sources keywords).small := by
  induction keywords generalizing other sources previous with
  | nil => exact same
  | cons keyword keywords inductionHypothesis =>
      have unknown (name : Option Text) :
          (name.map Text.small).getD unknownTable = (name.getD unknownTable).small := by
        cases name <;> rfl
      have head : (keywords.map Occurrence.small).head? = keywords.head?.map Occurrence.small :=
        List.head?_map
      have kind : upper (collapse keyword.text.small) = upper (collapse keyword.text) := by
        rw [small_collapse, upper_small]
      rw [List.map_cons, collectJoins, collectJoins, head]
      simp only [joinTarget_small, reference_small, Reference.name?_small, unknown,
        Occurrence.text_small, kind, occursIn_small (ignoresCase_word "on"), onKeyword,
        occursIn_small ignoresCase_usingKeyword]
      exact inductionHypothesis (Sources.small_addJoin (Sources.small_addReference same _)
        ⟨previous.getD unknownTable, _, _, _, _⟩) (some _)

theorem collectFrom_small
    (same : other.small = sources.small)
    (body masked : Text) :
    (collectFrom body.small masked.small other).small =
      (collectFrom body masked sources).small := by
  have headEnd :
      ((joinKeyword.occurrences masked.small).head?.map (·.start)).getD body.small.length =
        ((joinKeyword.occurrences masked).head?.map (·.start)).getD body.length := by
    rw [occurrences_small ignoresCase_joinKeyword, List.head?_map, Option.map_map, length_small]
    rfl
  have heads (headEnd : Nat) := collectHeads_small same body (masked.take headEnd)
  rw [collectFrom, collectFrom, headEnd, small_take]
  generalize ((joinKeyword.occurrences masked).head?.map (·.start)).getD body.length = headEnd
  specialize heads headEnd
  cases first : collectHeads body (masked.take headEnd) sources with
  | mk collected previous =>
      cases second : collectHeads body.small (Text.small (masked.take headEnd)) other with
      | mk collectedToo previousToo =>
          rw [first, second] at heads
          obtain ⟨sameHeads, rfl⟩ := heads
          simp only [occurrences_small ignoresCase_joinKeyword]
          exact collectJoins_small sameHeads body masked previous _

theorem collectSources_small
    (same : other.small = sources.small)
    (text masked : Text) :
    (collectSources text.small masked.small other).small =
      (collectSources text masked sources).small := by
  rw [collectSources, collectSources, clauses_small]
  cases clause? (clauses masked) "from" with
  | none => exact same
  | some clause =>
      simp only [clause.body_small]
      exact collectFrom_small same _ _

/-- The tables and joins of a query and its subqueries, up to the case of letters. -/
theorem allSources_small
    (text masked : Text) :
    (allSources text.small masked.small).small = (allSources text masked).small := by
  rw [allSources, allSources, scopes_small, List.foldl_map]
  have start := collectSources_small (rfl : ({} : Sources).small = ({} : Sources).small) text masked
  revert start
  generalize collectSources text.small masked.small {} = other
  generalize collectSources text masked {} = sources
  intro same
  induction scopes text generalizing other sources with
  | nil => exact same
  | cons scope scopes inductionHypothesis =>
      exact inductionHypothesis _ _ (collectSources_small same scope.text scope.masked)

end Query
end SqlReview
