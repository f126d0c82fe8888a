import SqlReview.Proofs.Plain.Parts

/-!
# The characters of a plain query

Apart from the characters of names, a clause of a plain query has certain signs only: quotes and
wildcards stand in filters, parentheses in the conditions of joins, and a star in place of a select
list.
-/

namespace SqlReview
namespace Plain

open Query

/-- Whether a text has only characters of names and given signs. -/
def Uses (signs : List Char) (text : Text) : Prop :=
  text.all (fun c => isNameChar c || signs.contains c) = true

instance (signs : List Char) (text : Text) : Decidable (Uses signs text) :=
  inferInstanceAs (Decidable (_ = _))

namespace Uses

variable {signs : List Char} {first second text : Text}

theorem append
    (uses : Uses signs first)
    (secondUses : Uses signs second) :
    Uses signs (first ++ second) := by
  rw [Uses, List.all_append, uses, secondUses]
  rfl

theorem cons
    {c : Char}
    (isSign : signs.contains c = true)
    (uses : Uses signs text) :
    Uses signs (c :: text) := by
  rw [Uses, List.all_cons, isSign, Bool.or_true]
  exact uses

theorem flatMap
    {Item : Type}
    {textOf : Item → Text}
    (each : ∀ item, Uses signs (textOf item))
    (items : List Item) :
    Uses signs (items.flatMap textOf) := by
  rw [Uses, List.all_flatMap, List.all_eq_true]
  exact fun item _ => each item

/-- A text that has only certain signs has only those and others. -/
theorem mono
    {others : List Char}
    (uses : Uses signs text)
    (included : signs.all (others.contains ·) = true) :
    Uses others text := by
  refine List.all_eq_true.mpr fun c present => ?_
  rcases Bool.or_eq_true _ _ ▸ List.all_eq_true.mp uses c present with isName | isSign
  · rw [isName, Bool.true_or]
  · rw [List.all_eq_true.mp included c (List.contains_iff_mem.mp isSign), Bool.or_true]

/-- A sign that is not among them does not occur. -/
theorem not_mem
    (uses : Uses signs text)
    {c : Char}
    (noName : isNameChar c = false)
    (noSign : signs.contains c = false) :
    c ∉ text := by
  intro present
  have used := List.all_eq_true.mp uses c present
  rw [noName, noSign] at used
  exact absurd used (by decide)

end Uses

variable {signs : List Char}

/-- What has no marks that enclose is its own top level. -/
theorem mask_of_uses
    {text : Text}
    (uses : Uses signs text)
    (noMarks : ['\'', '(', ')'].all (fun c => !signs.contains c) = true) :
    mask text = text := by
  have absent {c : Char} (isMark : c ∈ ['\'', '(', ')']) (noName : isNameChar c = false) :
      c ∉ text := by
    refine uses.not_mem noName ?_
    simpa using List.all_eq_true.mp noMarks c isMark
  refine (mask_of_isPlain fun c present => ⟨?_, ?_, ?_⟩).1
  · exact ne_of_mem_of_not_mem present (absent (by decide) (by decide))
  · exact ne_of_mem_of_not_mem present (absent (by decide) (by decide))
  · exact ne_of_mem_of_not_mem present (absent (by decide) (by decide))

theorem Name.uses
    (name : Name) :
    Uses signs name.text := by
  refine List.all_eq_true.mpr fun c present => ?_
  rw [name.isNameChar_of_mem present, Bool.true_or]

theorem Column.uses
    (column : Column)
    (dot : signs.contains '.' = true) :
    Uses signs column.text := by
  obtain ⟨table, name⟩ := column
  cases table with
  | none => exact name.uses
  | some table => exact table.uses.append (name.uses.cons dot)

theorem Columns.uses (columns : Columns) :
    Uses ['.', ',', ' '] columns.text := by
  refine (columns.first.uses (by decide)).append (Uses.flatMap (fun other => ?_) _)
  have separator : Uses ['.', ',', ' '] (comma other.1) := by cases other.1 <;> decide
  exact separator.append (other.2.uses (by decide))

theorem Table.uses
    (table : Table)
    (blank : signs.contains ' ' = true) :
    Uses signs table.text := by
  obtain ⟨name, aliasName⟩ := table
  cases aliasName with
  | none => exact name.uses
  | some aliasName => exact name.uses.append (aliasName.uses.cons blank)

theorem JoinedTable.uses (joined : JoinedTable) :
    Uses [' ', '.', '=', '(', ')'] joined.text := by
  obtain ⟨kind, table, condition⟩ := joined
  have keywords : Uses [' ', '.', '=', '(', ')'] kind.text := by cases kind <;> decide
  have target : Uses [' ', '.', '=', '(', ')'] condition.text := by
    cases condition with
    | none => decide
    | on first second =>
        have on : Uses [' ', '.', '=', '(', ')'] " ON " := by decide
        have eq : Uses [' ', '.', '=', '(', ')'] " = " := by decide
        exact on.append ((first.uses (by decide)).append (eq.append (second.uses (by decide))))
    | shared column =>
        have opening : Uses [' ', '.', '=', '(', ')'] " USING (" := by decide
        have closing : Uses [' ', '.', '=', '(', ')'] ")" := by decide
        exact opening.append ((column.uses (by decide)).append closing)
  exact keywords.append (((table.uses (by decide)).append target).cons (by decide))

/-- The signs of a filter. -/
def filterSigns : List Char :=
  [' ', '.', '=', '<', '>', '\'', '%']

theorem Numeral.uses (numeral : Numeral) :
    Uses signs numeral.text := by
  refine List.all_eq_true.mpr fun c present => ?_
  have isDigit := numeral.digits c present
  rw [isNumeralChar] at isDigit
  rw [isNameChar, isDigit, Bool.or_true, Bool.true_or]

theorem uses_of_isLiteralChar
    {text : Text}
    (plain : ∀ c ∈ text, isLiteralChar c = true) :
    Uses filterSigns text := by
  refine List.all_eq_true.mpr fun c present => ?_
  have isLiteral := plain c present
  simp only [isLiteralChar, isNumeralChar, Bool.or_eq_true] at isLiteral
  rcases isLiteral with ((capital | small) | digit) | percent
  · simp [isNameChar, Query.startsPlainIdentifier, capital]
  · simp [isNameChar, Query.startsPlainIdentifier, small]
  · simp [isNameChar, digit]
  · obtain rfl := of_decide_eq_true percent
    decide

/-- A text between quotes uses the signs of a filter. -/
theorem Uses.literal
    {text : Text}
    (uses : Uses filterSigns text) :
    Uses filterSigns ('\'' :: (text ++ ['\''])) :=
  (uses.append (show Uses filterSigns ['\''] by decide)).cons (by decide)

theorem Value.uses (value : Value) :
    Uses filterSigns value.text := by
  cases value with
  | number numeral => exact numeral.uses
  | literal content => exact (uses_of_isLiteralChar content.plain).literal

theorem Predicate.uses (predicate : Predicate) :
    Uses filterSigns predicate.text := by
  have comparator : Uses filterSigns predicate.comparator.text := by
    cases predicate.comparator <;> decide
  exact (predicate.column.uses (by decide)).append
    ((comparator.append (predicate.value.uses.cons (by decide))).cons (by decide))

theorem Filter.uses (filter : Filter) :
    Uses filterSigns filter.text := by
  refine filter.first.uses.append (Uses.flatMap (fun other => ?_) _)
  have connective : Uses filterSigns other.1.text := by cases other.1 <;> decide
  exact (connective.append (other.2.uses.cons (by decide))).cons (by decide)

/-- Clauses have the signs of their contents, and blanks. -/
theorem uses_sectionsText
    (blank : signs.contains ' ' = true)
    {sections : List Section}
    (each : ∀ part ∈ sections, Uses signs part.2) :
    Uses signs (sectionsText sections) := by
  induction sections with
  | nil => rfl
  | cons part rest inductionHypothesis =>
      obtain ⟨kind, content⟩ := part
      have keyword : Uses signs kind.keyword := by
        have own : Uses [' '] kind.keyword := by cases kind <;> decide
        exact own.mono (by rw [List.all_cons, blank]; rfl)
      have gapUses : Uses signs (gap rest) := by
        rw [gap]
        split
        · rfl
        · exact Uses.cons blank rfl
      have others := inductionHypothesis fun part present => each part (.tail _ present)
      rw [sectionsText_cons, bodyText]
      exact keyword.append ((((each _ (.head _)).append gapUses).cons blank).append others)

end Plain

open Plain

theorem PlainQuery.uses_source (query : PlainQuery) :
    Uses [' ', '.', '=', '(', ')'] query.source :=
  (query.table.uses (by decide)).append
    (Uses.flatMap (fun joined => joined.uses.cons (by decide)) query.joined)

end SqlReview
