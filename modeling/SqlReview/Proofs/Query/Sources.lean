import Mathlib.Data.List.Nodup
import SqlReview.Proofs.Query.Joins
import SqlReview.Query.Structure

/-!
# References between tables, aliases and joins

The tables, aliases and joins of a query are recorded one reference at a time, from the outer query
and from every subquery. What is recorded stays, and what aliases and joins refer to has been
recorded: `IsConsistent` is kept by each reference and so holds of the whole record.
-/

namespace SqlReview
namespace Query

namespace Sources

/-! ## What is recorded -/

/-- Whether a table is recorded, case ignored. -/
def HasTable (sources : Sources) (table : Text) : Prop :=
  Text.lower table ∈ sources.tables.map Text.lower

/-- Whether a name is an alias or the name of a table. -/
def Knows (sources : Sources) (name : Text) : Prop :=
  name ∈ sources.aliases.map Prod.fst ∨ sources.HasTable name

/-- Whether aliases and joins refer to what is recorded, and nothing is recorded twice. -/
structure IsConsistent (sources : Sources) : Prop where
  /-- No two tables have the same name, case ignored. -/
  tables_nodup : (sources.tables.map Text.lower).Nodup
  /-- No alias is recorded twice. -/
  aliases_nodup : (sources.aliases.map Prod.fst).Nodup
  /-- An alias stands for a subquery or for a recorded table. -/
  hasTable_of_alias : ∀ entry ∈ sources.aliases,
    entry.2 = "(subquery)".toList ∨ sources.HasTable entry.2
  /-- Both sides of a join are known by name, or they are marked as unknown. -/
  knows_of_join : ∀ join ∈ sources.joins, ∀ side ∈ [join.left, join.right],
    side = unknownTable ∨ sources.Knows side

theorem isConsistent_empty : IsConsistent {} :=
  ⟨List.nodup_nil, List.nodup_nil, List.forall_mem_nil _, List.forall_mem_nil _⟩

/-- Whether everything recorded is still recorded later. -/
structure Grows (earlier later : Sources) : Prop where
  /-- The tables stay. -/
  tables : earlier.tables ⊆ later.tables
  /-- The aliases stay. -/
  aliases : earlier.aliases ⊆ later.aliases

variable {sources later : Sources} {table name : Text}

theorem HasTable.mono
    (has : sources.HasTable table)
    (grows : sources.Grows later) :
    later.HasTable table :=
  List.map_subset Text.lower grows.tables has

theorem Knows.mono
    (knows : sources.Knows name)
    (grows : sources.Grows later) :
    later.Knows name :=
  knows.imp (fun isAlias => List.map_subset Prod.fst grows.aliases isAlias) (·.mono grows)

/-! ## Tables -/

@[simp] theorem aliases_addTable : (sources.addTable table).aliases = sources.aliases := by
  unfold addTable
  split <;> rfl

theorem subset_tables_addTable : sources.tables ⊆ (sources.addTable table).tables := by
  unfold addTable
  split
  · exact List.Subset.refl _
  · exact List.subset_append_left _ _

theorem hasTable_addTable : (sources.addTable table).HasTable table := by
  unfold addTable
  split
  next known => simpa [HasTable] using known
  next => simp [HasTable]

theorem nodup_tables_addTable (distinct : (sources.tables.map Text.lower).Nodup) :
    ((sources.addTable table).tables.map Text.lower).Nodup := by
  unfold addTable
  split
  · exact distinct
  next unknown =>
      have absent : Text.lower table ∉ sources.tables.map Text.lower := by simpa using unknown
      rw [List.map_append, List.map_singleton, ← List.concat_eq_append]
      exact distinct.concat absent

/-! ## Aliases -/

@[simp] theorem tables_addAlias : (sources.addAlias name table).tables = sources.tables := by
  unfold addAlias
  split <;> rfl

theorem subset_aliases_addAlias : sources.aliases ⊆ (sources.addAlias name table).aliases := by
  unfold addAlias
  split
  · exact List.Subset.refl _
  · exact List.subset_append_left _ _

theorem mem_names_addAlias : name ∈ (sources.addAlias name table).aliases.map Prod.fst := by
  unfold addAlias
  split
  next known => simpa using known
  next => simp

theorem eq_or_mem_of_mem_addAlias
    {entry : Text × Text}
    (present : entry ∈ (sources.addAlias name table).aliases) :
    entry = (name, table) ∨ entry ∈ sources.aliases := by
  unfold addAlias at present
  split at present
  · exact .inr present
  · exact (List.mem_append.mp present).symm.imp_left List.mem_singleton.mp

theorem nodup_names_addAlias (distinct : (sources.aliases.map Prod.fst).Nodup) :
    ((sources.addAlias name table).aliases.map Prod.fst).Nodup := by
  unfold addAlias
  split
  · exact distinct
  next unknown =>
      have absent : name ∉ sources.aliases.map Prod.fst := by simpa using unknown
      rw [List.map_append, List.map_singleton, ← List.concat_eq_append]
      exact distinct.concat absent

/-! ## References -/

variable {reference : Reference}

/-- A reference adds to what is recorded. -/
theorem grows_addReference : sources.Grows (sources.addReference reference) := by
  obtain ⟨table, aliasName⟩ := reference
  cases table <;> cases aliasName <;> constructor <;>
    simp [addReference, subset_tables_addTable, subset_aliases_addAlias]
  next table name =>
      have kept : sources.aliases = (sources.addTable table).aliases := aliases_addTable.symm
      rw [kept]
      exact subset_aliases_addAlias

/-- The table of a reference is recorded from then on. -/
theorem hasTable_addReference (isTable : reference.table = some table) :
    (sources.addReference reference).HasTable table := by
  obtain ⟨_, aliasName⟩ := reference
  subst isTable
  cases aliasName with
  | none => exact hasTable_addTable
  | some aliasName =>
      rw [HasTable, addReference, tables_addAlias]
      exact hasTable_addTable

/-- A reference that has a name is known under it from then on. -/
theorem knows_addReference (named : reference.name? = some name) :
    (sources.addReference reference).Knows name := by
  cases table : reference.table with
  | some table =>
      rw [Reference.name?, table, Option.some_or] at named
      obtain rfl := Option.some.inj named
      exact .inr (hasTable_addReference table)
  | none =>
      rw [Reference.name?, table, Option.none_or] at named
      left
      rw [addReference, table, named]
      exact mem_names_addAlias

/-- An alias recorded with a reference stands for its table or, if it has none, for a subquery. -/
theorem of_mem_aliases_addReference
    {entry : Text × Text}
    (present : entry ∈ (sources.addReference reference).aliases) :
    entry.2 = reference.table.getD "(subquery)" ∨ entry ∈ sources.aliases := by
  obtain ⟨table, aliasName⟩ := reference
  cases aliasName with
  | none =>
      cases table with
      | none => exact .inr present
      | some table =>
          have kept : (sources.addTable table).aliases = sources.aliases := aliases_addTable
          exact .inr (kept ▸ present)
  | some aliasName =>
      rcases eq_or_mem_of_mem_addAlias present with rfl | before
      · exact .inl rfl
      · cases table with
        | none => exact .inr before
        | some table =>
            have kept : (sources.addTable table).aliases = sources.aliases := aliases_addTable
            exact .inr (kept ▸ before)

theorem nodup_tables_addReference (distinct : (sources.tables.map Text.lower).Nodup) :
    ((sources.addReference reference).tables.map Text.lower).Nodup := by
  obtain ⟨table, aliasName⟩ := reference
  cases table <;> cases aliasName <;>
    simp [addReference, distinct, nodup_tables_addTable]

theorem nodup_aliases_addReference (distinct : (sources.aliases.map Prod.fst).Nodup) :
    ((sources.addReference reference).aliases.map Prod.fst).Nodup := by
  obtain ⟨table, aliasName⟩ := reference
  cases table <;> cases aliasName <;>
    simp [addReference, distinct, nodup_names_addAlias]

/-- A reference keeps the record consistent. -/
theorem IsConsistent.addReference
    (consistent : sources.IsConsistent)
    (reference : Reference) :
    (sources.addReference reference).IsConsistent := by
  refine ⟨nodup_tables_addReference consistent.tables_nodup,
    nodup_aliases_addReference consistent.aliases_nodup, ?_, ?_⟩
  · intro entry present
    rcases of_mem_aliases_addReference present with stands | before
    · cases isTable : reference.table with
      | none => exact .inl (by rw [stands, isTable, Option.getD_none])
      | some table =>
          rw [isTable, Option.getD_some] at stands
          exact .inr (stands ▸ hasTable_addReference isTable)
    · exact (consistent.hasTable_of_alias entry before).imp_right (·.mono grows_addReference)
  · intro join present side isSide
    rw [joins_addReference] at present
    exact (consistent.knows_of_join join present side isSide).imp_right (·.mono grows_addReference)

/-! ## Joins -/

/-- The record with one more join. -/
def addJoin (sources : Sources) (join : Join) : Sources :=
  { sources with joins := sources.joins ++ [join] }

/-- A join between known tables keeps the record consistent. -/
theorem IsConsistent.addJoin
    (consistent : sources.IsConsistent)
    {join : Join}
    (known : ∀ side ∈ [join.left, join.right], side = unknownTable ∨ sources.Knows side) :
    (sources.addJoin join).IsConsistent := by
  refine ⟨consistent.tables_nodup, consistent.aliases_nodup, consistent.hasTable_of_alias, ?_⟩
  intro other present side isSide
  rcases List.mem_append.mp present with before | last
  · exact consistent.knows_of_join other before side isSide
  · obtain rfl := List.mem_singleton.mp last
    exact known side isSide

end Sources

/-! ## Whole clauses -/

variable {sources : Sources}

/-- The items before the first join keep the record consistent, and the name carried on from them
is known. -/
theorem isConsistent_collectHeads
    (consistent : sources.IsConsistent)
    (body masked : Text) :
    (collectHeads body masked sources).1.IsConsistent ∧
      ∀ name ∈ (collectHeads body masked sources).2,
        (collectHeads body masked sources).1.Knows name := by
  let keeps (collected : Sources × Option Text) : Prop :=
    collected.1.IsConsistent ∧ ∀ name ∈ collected.2, collected.1.Knows name
  refine List.foldlRecOn (motive := keeps) (spans masked) _ ⟨consistent, by simp⟩ ?_
  rintro ⟨collected, previous⟩ ⟨consistentHere, known⟩ span -
  refine ⟨consistentHere.addReference _, fun name named => ?_⟩
  cases here : (reference (span.of body) (span.of masked)).name? with
  | some own =>
      simp only [here, Option.some_or, Option.mem_some_iff] at named
      exact Sources.knows_addReference (named ▸ here)
  | none =>
      simp only [here, Option.none_or] at named
      exact (known name named).mono Sources.grows_addReference

/-- Joins keep the record consistent if the table before the first one is known. -/
theorem isConsistent_collectJoins
    (consistent : sources.IsConsistent)
    {previous : Option Text}
    (known : ∀ name ∈ previous, name = unknownTable ∨ sources.Knows name)
    (body masked : Text)
    (keywords : List Occurrence) :
    (collectJoins body masked previous sources keywords).IsConsistent := by
  induction keywords generalizing sources previous with
  | nil => exact consistent
  | cons keyword rest inductionHypothesis =>
      rw [collectJoins]
      generalize reference (joinTarget keyword rest.head? body)
        (joinTarget keyword rest.head? masked) = item
      have left : previous.getD unknownTable = unknownTable ∨
          (sources.addReference item).Knows (previous.getD unknownTable) := by
        cases previous with
        | none => exact .inl rfl
        | some name => exact (known name rfl).imp_right (·.mono Sources.grows_addReference)
      have right : item.name?.getD unknownTable = unknownTable ∨
          (sources.addReference item).Knows (item.name?.getD unknownTable) := by
        cases named : item.name? with
        | none => exact .inl rfl
        | some name => exact .inr (Sources.knows_addReference named)
      refine inductionHypothesis (consistent.addReference item |>.addJoin ?_) ?_
      · simpa using ⟨left, right⟩
      · rintro _ ⟨⟩
        exact right

/-- A FROM clause keeps the record consistent. -/
theorem isConsistent_collectSources
    (consistent : sources.IsConsistent)
    (text masked : Text) :
    (collectSources text masked sources).IsConsistent := by
  unfold collectSources
  split
  next clause _ =>
      obtain ⟨heads, known⟩ := isConsistent_collectHeads consistent (clause.body text)
        ((clause.body masked).take (((joinKeyword.occurrences (clause.body masked)).head?.map
          (·.start)).getD (clause.body text).length))
      exact isConsistent_collectJoins heads (fun name named => .inr (known name named)) _ _ _
  · exact consistent

/-- What is recorded of a query and its subqueries is consistent. -/
theorem isConsistent_allSources (text masked : Text) :
    (allSources text masked).IsConsistent :=
  List.foldlRecOn (scopes text) _
    (isConsistent_collectSources Sources.isConsistent_empty text masked)
    fun _ consistent scope _ => isConsistent_collectSources consistent scope.text scope.masked

end Query
end SqlReview
