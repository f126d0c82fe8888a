import SqlReview.Query.Structure

/-!
# Joins up to their tables

Which joins a query has, of what kind, and with which conditions can be read off the top levels of
the query and of its subqueries: the names of the tables play no part.
-/

namespace SqlReview
namespace Query

/-- A join without its tables: its kind, and whether it has an ON condition and a USING list. -/
def Join.form (join : Join) : Text × Bool × Bool :=
  (join.kind, join.hasOn, join.hasUsing)

@[simp] theorem Sources.joins_addReference
    (sources : Sources)
    (reference : Reference) :
    (sources.addReference reference).joins = sources.joins := by
  have table (sources : Sources) (name : Text) : (sources.addTable name).joins = sources.joins := by
    unfold addTable
    split <;> rfl
  have known (sources : Sources) (name table : Text) :
      (sources.addAlias name table).joins = sources.joins := by
    unfold addAlias
    split <;> rfl
  unfold addReference
  cases reference.table <;> cases reference.aliasName <;> simp [table, known]

/-- The forms of joins, given the top level of a FROM clause and the keywords in it. -/
def joinForms (masked : Text) : List Occurrence → List (Text × Bool × Bool)
  | [] => []
  | keyword :: rest =>
    let target := joinTarget keyword rest.head? masked
    (Text.upper (Text.collapse keyword.text), onKeyword.occursIn target,
      usingKeyword.occursIn target) :: joinForms masked rest

theorem forms_collectJoins
    (body masked : Text)
    (previous : Option Text)
    (sources : Sources)
    (keywords : List Occurrence) :
    (collectJoins body masked previous sources keywords).joins.map Join.form =
      sources.joins.map Join.form ++ joinForms masked keywords := by
  induction keywords generalizing previous sources with
  | nil => simp [collectJoins, joinForms]
  | cons keyword rest inductionHypothesis =>
      rw [collectJoins, inductionHypothesis, joinForms]
      simp [Join.form]

theorem joins_collectHeads
    (body masked : Text)
    (sources : Sources) :
    (collectHeads body masked sources).1.joins = sources.joins := by
  have fold (step : Sources × Option Text → Span → Sources × Option Text)
      (keeps : ∀ state span, (step state span).1.joins = state.1.joins)
      (spans : List Span)
      (state : Sources × Option Text) :
      (spans.foldl step state).1.joins = state.1.joins := by
    induction spans generalizing state with
    | nil => rfl
    | cons span spans inductionHypothesis => rw [List.foldl_cons, inductionHypothesis, keeps]
  exact fold _ (fun _ _ => Sources.joins_addReference _ _) (spans masked) (sources, none)

/-- The forms of the joins of one level of a query, given its top level. -/
def levelForms (masked : Text) : List (Text × Bool × Bool) :=
  match clause? (clauses masked) "from" with
  | some clause =>
    joinForms (clause.body masked) (joinKeyword.occurrences (clause.body masked))
  | none => []

theorem forms_collectSources
    (text masked : Text)
    (sources : Sources) :
    (collectSources text masked sources).joins.map Join.form =
      sources.joins.map Join.form ++ levelForms masked := by
  unfold collectSources levelForms
  cases clause? (clauses masked) "from" with
  | none => simp
  | some clause =>
      simp only [collectFrom]
      rw [forms_collectJoins, joins_collectHeads]

/-- The forms of the joins of a query can be read off its top level and those of its subqueries. -/
theorem forms_allSources (text masked : Text) :
    (allSources text masked).joins.map Join.form =
      levelForms masked ++ ((scopes text).map (·.masked)).flatMap levelForms := by
  have fold (subqueries : List Scope) (sources : Sources) :
      (subqueries.foldl (fun sources scope => collectSources scope.text scope.masked sources)
        sources).joins.map Join.form =
          sources.joins.map Join.form ++ (subqueries.map (·.masked)).flatMap levelForms := by
    induction subqueries generalizing sources with
    | nil => simp
    | cons subquery subqueries inductionHypothesis =>
        rw [List.foldl_cons, inductionHypothesis, forms_collectSources, List.map_cons,
          List.flatMap_cons, List.append_assoc]
  rw [allSources, fold, forms_collectSources]
  rfl

end Query
end SqlReview
