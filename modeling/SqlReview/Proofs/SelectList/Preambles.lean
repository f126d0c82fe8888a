import SqlReview.Proofs.SelectList.ReadBack

/-!
# Preambles of select lists

What can stand between SELECT and a list of columns: a treatment of duplicates, and a number of rows.
Both are pieces of a query. What they enclose is hidden on the top level, so the number of rows is seen
unless it is enclosed.
-/

namespace SqlReview
namespace SelectList

open Query Plain FromClause Pattern

/-! ## Grammar -/

/-- A list of columns. -/
structure ColumnList where
  /-- The first column. -/
  first : QualifiedName
  /-- The others, each with whether a blank follows the comma in front of it. -/
  others : List (Bool × QualifiedName)

namespace ColumnList

variable (columns : ColumnList)

def text : Text :=
  columns.first.text ++ listedText (columns.others.map fun other => (other.1, other.2.text))

/-- The columns in order. -/
def names : List Text :=
  columns.first.text :: columns.others.map (·.2.text)

end ColumnList

/-- A treatment of duplicates. -/
inductive Duplicates where
  | all
  | distinct
  | distinctOn (columns : ColumnList)

def Duplicates.text : Duplicates → Text
  | .all => "ALL"
  | .distinct => "DISTINCT"
  | .distinctOn columns => "DISTINCT ON ".toList ++ '(' :: (columns.text ++ [')'])

/-- A number of rows, perhaps enclosed, or as a percentage. -/
inductive RowCount where
  | plain (count : Numeral)
  | enclosed (count : Numeral)
  | percent (count : Numeral)

def RowCount.text : RowCount → Text
  | .plain count => "TOP ".toList ++ count.text
  | .enclosed count => "TOP ".toList ++ '(' :: (count.text ++ [')'])
  | .percent count => "TOP ".toList ++ (count.text ++ " PERCENT".toList)

/-- What stands in front of a select list. -/
structure Preamble where
  /-- The treatment of duplicates. -/
  duplicates : Option Duplicates
  /-- The number of rows. -/
  rows : Option RowCount

/-- A text behind another one, if there is one, with a blank between them. -/
def behind (front : Option Text) (text : Text) : Text :=
  front.elim text fun front => front ++ ' ' :: text

namespace Preamble

variable (preamble : Preamble)

/-- A text behind a preamble. -/
def before (text : Text) : Text :=
  behind (preamble.duplicates.map Duplicates.text) (behind (preamble.rows.map RowCount.text) text)

/-- Whether the number of rows is enclosed. -/
def enclosesCount : Bool :=
  match preamble.rows with
  | some (.enclosed _) => true
  | some (.plain _) | some (.percent _) | none => false

/-- The number of rows, if its digits are seen on the top level. -/
def seenRows : Text :=
  if preamble.enclosesCount then [] else behind (preamble.rows.map RowCount.text) []

/-- What is known as a preamble. -/
def seen : Text :=
  behind (preamble.duplicates.map Duplicates.text) preamble.seenRows

/-- What is left of a preamble. -/
def left : Text :=
  if preamble.enclosesCount then behind (preamble.rows.map RowCount.text) [] else []

end Preamble

/-- A query that selects columns from a table. -/
def selection (preamble : Preamble) (columns : ColumnList) (table : Identifier) : Text :=
  "SELECT ".toList ++ (preamble.before columns.text ++ (" FROM ".toList ++ table.text))

/-! ## Lists of columns -/

namespace ColumnList

variable (columns : ColumnList)

theorem text_eq :
    columns.text =
      columns.first.text ++ columns.others.flatMap fun other => comma other.1 ++ other.2.text := by
  rw [text, listedText, List.flatMap_map]

theorem isPiece :
    IsPiece [] columns.text := by
  have piece := columns.first.isPiece.flatMap
    (fun other : Bool × QualifiedName => comma_mem_separators other.1)
    (fun other => other.2.isPiece) columns.others
  rw [columns.text_eq]
  rwa [List.flatMap_eq_nil_iff.mpr (fun _ _ => rfl)] at piece

/-- The signs of a list of columns. -/
def signs : List Char :=
  ['$', '.', ',', ' ']

theorem uses :
    Uses signs columns.text := by
  rw [columns.text_eq]
  refine (columns.first.uses (by decide) (by decide)).append (Uses.flatMap (fun other => ?_) _)
  have separator : Uses signs (comma other.1) := by cases other.1 <;> decide
  exact separator.append (other.2.uses (by decide) (by decide))

theorem mask_text :
    mask columns.text = columns.text :=
  mask_of_uses columns.uses (by decide)

theorem not_mem_of_isMark
    {c : Char}
    (isMark : c ∈ ['\'', '(', ')']) :
    c ∉ columns.text := by
  have noSign : ∀ c ∈ ['\'', '(', ')'], isNameChar c = false ∧ signs.contains c = false := by
    simp only [List.forall_mem_cons, List.not_mem_nil, false_implies, implies_true, and_true]
    decide
  exact columns.uses.not_mem (noSign c isMark).1 (noSign c isMark).2

end ColumnList

/-! ## Parts of preambles -/

/-- A piece without marks that enclose is one between parentheses as well. -/
theorem isPiece_between
    {inner : Text}
    (piece : IsPiece [] inner)
    (isPlain : ∀ c ∈ inner, c ≠ '\'' ∧ c ≠ '(' ∧ c ≠ ')') :
    IsPiece [] ('(' :: (inner ++ [')'])) := by
  have sign {c : Char} (noBlank : Text.isBlank c = false) : IsTight [c] :=
    isTight_of_noBlank (List.cons_ne_nil c []) (by simpa using noBlank)
  obtain ⟨masked, closed⟩ := mask_enclosed (.inr rfl) isPlain
  refine ⟨⟨fun c present => ?_, ?_, closed, ?_⟩, ?_⟩
  · simp only [List.mem_cons, List.mem_append, List.not_mem_nil, or_false] at present
    rcases present with rfl | inInner | rfl
    · decide
    · exact piece.chars c inInner
    · decide
  · exact (sign (by decide)).append (piece.tight.append (sign (by decide)))
  · rw [masked]
    exact keywords_enclosed_blanks (by decide) inner.length
  · exact (keywords_enclosed (by decide) inner).trans piece.words

namespace ColumnList

theorem isPlain
    (columns : ColumnList)
    {c : Char}
    (present : c ∈ columns.text) :
    c ≠ '\'' ∧ c ≠ '(' ∧ c ≠ ')' := by
  have other {mark : Char} (isMark : mark ∈ ['\'', '(', ')']) : c ≠ mark :=
    ne_of_mem_of_not_mem present (columns.not_mem_of_isMark isMark)
  exact ⟨other (by decide), other (by decide), other (by decide)⟩

end ColumnList

/-- The reserved words of a treatment of duplicates. -/
def Duplicates.words : Duplicates → List Text
  | .all => ["all"]
  | .distinct => ["distinct"]
  | .distinctOn _ => ["distinct", "on"]

theorem Duplicates.isPiece (duplicates : Duplicates) :
    IsPiece duplicates.words duplicates.text := by
  have distinct : IsPiece ["distinct".toList] "DISTINCT" :=
    isPiece_of_isSolid (by decide) (by decide) (by decide)
  cases duplicates with
  | all => exact isPiece_of_isSolid (by decide) (by decide) (by decide)
  | distinct => exact distinct
  | distinctOn columns =>
      have on : IsPiece ["on".toList] "ON" := isPiece_of_isSolid (by decide) (by decide) (by decide)
      have list := isPiece_between columns.isPiece fun _ => columns.isPlain
      exact distinct.separated blank_mem_separators (on.separated blank_mem_separators list)

theorem isPiece_numeral (count : Numeral) :
    IsPiece [] count.text :=
  isPiece_of_isSolid count.nonempty count.isSolid_text (keywords_numeral count)

theorem Numeral.isPlain
    (count : Numeral)
    {c : Char}
    (present : c ∈ count.text) :
    c ≠ '\'' ∧ c ≠ '(' ∧ c ≠ ')' :=
  (of_isSolidChar (List.all_eq_true.mp count.isSolid_text c present)).2.2

/-- The reserved words of a number of rows. -/
def RowCount.words : RowCount → List Text
  | .plain _ | .enclosed _ => ["top"]
  | .percent _ => ["top", "percent"]

theorem RowCount.isPiece (rows : RowCount) :
    IsPiece rows.words rows.text := by
  have top : IsPiece ["top".toList] "TOP" := isPiece_of_isSolid (by decide) (by decide) (by decide)
  cases rows with
  | plain count => exact top.separated blank_mem_separators (isPiece_numeral count)
  | enclosed count =>
      exact top.separated blank_mem_separators
        (isPiece_between (isPiece_numeral count) fun _ => Numeral.isPlain count)
  | percent count =>
      have percent : IsPiece ["percent".toList] "PERCENT" :=
        isPiece_of_isSolid (by decide) (by decide) (by decide)
      exact top.separated blank_mem_separators
        ((isPiece_numeral count).separated blank_mem_separators percent)

/-- The reserved words of preambles. -/
def preambleWords : List Text :=
  ["all", "distinct", "on", "top", "percent"]

/-! ## Preambles -/

/-- A piece behind another one, if there is one, is a piece. -/
theorem isPiece_behind
    {Part : Type}
    {wordsOf : Part → List Text}
    {textOf : Part → Text}
    (arePieces : ∀ part, IsPiece (wordsOf part) (textOf part))
    (part : Option Part)
    {found : List Text}
    {text : Text}
    (piece : IsPiece found text) :
    IsPiece (part.elim [] wordsOf ++ found) (behind (part.map textOf) text) := by
  cases part with
  | none => exact piece
  | some part => exact (arePieces part).separated blank_mem_separators piece

theorem behind_append (front : Option Text) (text rest : Text) :
    behind front (text ++ rest) = behind front text ++ rest := by
  cases front <;> simp [behind]

theorem mask_behind_nil
    {front : Text}
    (closed : IsClosed front) :
    mask (behind (some front) []) = mask front ++ [' '] := by
  rw [behind, Option.elim_some, mask_append closed]
  rfl

theorem isClosed_behind
    {Part : Type}
    {wordsOf : Part → List Text}
    {textOf : Part → Text}
    (arePieces : ∀ part, IsPiece (wordsOf part) (textOf part))
    (part : Option Part)
    {text : Text}
    (closed : IsClosed text) :
    IsClosed (behind (part.map textOf) text) := by
  cases part with
  | none => exact closed
  | some part =>
      have blank : IsClosed [' '] := by decide
      exact (arePieces part).closed.append (blank.append closed)

namespace Preamble

variable (preamble : Preamble)

/-- The reserved words of a preamble. -/
def words : List Text :=
  preamble.duplicates.elim [] Duplicates.words ++ preamble.rows.elim [] RowCount.words

theorem words_subset :
    preamble.words ⊆ preambleWords := by
  refine List.append_subset.mpr ⟨?_, ?_⟩
  · rcases preamble.duplicates with _ | duplicates
    · exact List.nil_subset _
    · cases duplicates <;> simp [Duplicates.words, preambleWords]
  · rcases preamble.rows with _ | rows
    · exact List.nil_subset _
    · cases rows <;> simp [RowCount.words, preambleWords]

/-- A list of columns behind a preamble is a piece of a query. -/
theorem isPiece_before (columns : ColumnList) :
    IsPiece preamble.words (preamble.before columns.text) := by
  have counted := isPiece_behind RowCount.isPiece preamble.rows columns.isPiece
  have piece := isPiece_behind Duplicates.isPiece preamble.duplicates counted
  rwa [List.append_nil] at piece

theorem rows_eq :
    preamble.seenRows ++ preamble.left = behind (preamble.rows.map RowCount.text) [] := by
  rw [seenRows, left]
  split
  · rfl
  · exact List.append_nil _

theorem before_eq (text : Text) :
    preamble.before text = preamble.seen ++ (preamble.left ++ text) := by
  rw [before, seen, ← behind_append, ← List.append_assoc, preamble.rows_eq, ← behind_append]
  rfl

theorem isClosed_rows :
    IsClosed (behind (preamble.rows.map RowCount.text) []) :=
  isClosed_behind RowCount.isPiece preamble.rows rfl

theorem isClosed_seenRows :
    IsClosed preamble.seenRows := by
  rw [seenRows]
  split
  · rfl
  · exact preamble.isClosed_rows

theorem isClosed_seen :
    IsClosed preamble.seen :=
  isClosed_behind Duplicates.isPiece preamble.duplicates preamble.isClosed_seenRows

theorem isClosed_left :
    IsClosed preamble.left := by
  rw [left]
  split
  · exact preamble.isClosed_rows
  · rfl

/-- What a preamble leaves is seen with the list behind it. -/
theorem mask_before (columns : ColumnList) :
    mask (preamble.before columns.text) =
      mask preamble.seen ++ (mask preamble.left ++ columns.text) := by
  rw [preamble.before_eq, mask_append preamble.isClosed_seen, mask_append preamble.isClosed_left,
    columns.mask_text]

end Preamble

end SelectList
end SqlReview
