import SqlReview.Proofs.FromClause.Reference

/-!
# Names of columns

How the name of a column is read: as a whole, with its qualifier, if nothing that could continue it
stands behind it.
-/

namespace SqlReview
namespace FromClause

open Query Plain Pattern

variable {before : Option Char} {index : Nat} {rest : Text}

/-- The name of a column does not start with white space. -/
theorem QualifiedName.noBlank_head
    (name : QualifiedName)
    (rest : Text) :
    (name.text ++ rest).head?.any Text.isBlank = false := by
  have solid := List.all_eq_true.mp name.isSolid_text
  obtain ⟨c, tail, equal⟩ := List.exists_cons_of_ne_nil name.isPiece.tight.nonempty
  rw [equal]
  exact (of_isSolidChar (solid c (by rw [equal]; simp))).2.1

/-- What ends the name of a column ends an identifier and is no dot. -/
theorem of_endsColumn
    (ends : rest.head?.any isColumnChar = false) :
    rest.head?.any Text.continuesIdentifier = false ∧ ∀ more, rest ≠ '.' :: more := by
  cases rest with
  | nil => exact ⟨rfl, by simp⟩
  | cons c rest =>
      have noColumn : isColumnChar c = false := ends
      rw [isColumnChar, Bool.or_eq_false_iff] at noColumn
      refine ⟨noColumn.1, fun more equal => ?_⟩
      exact of_decide_eq_false noColumn.2 (List.cons.inj equal).1

/-- An identifier that no dot follows is read as the name of a column. -/
theorem reads_columnName_identifier
    {c : Char}
    {name : Text}
    (starts : Text.startsIdentifier c = true)
    (continues : ∀ d ∈ name, Text.continuesIdentifier d = true)
    (ends : rest.head?.any isColumnChar = false) :
    columnName.Reads before index (c :: name) rest [] := by
  obtain ⟨noMore, noDot⟩ := of_endsColumn ends
  have allContinue : ∀ d ∈ c :: name, Text.continuesIdentifier d = true :=
    List.forall_mem_cons.mpr ⟨continuesIdentifier_of_starts starts, continues⟩
  have noQualifier : (identifier.seq (.char '.')).Refuses before (c :: name ++ rest) := by
    rintro _ others equal ⟨other, _, rfl, isOther, isDot⟩
    obtain rfl := covers_char.mp isDot
    have otherContinues : ∀ d ∈ other, Text.continuesIdentifier d = true := by
      obtain ⟨d, more, rfl, starts, continues⟩ := covers_identifier.mp isOther
      exact List.forall_mem_cons.mpr ⟨continuesIdentifier_of_starts starts, continues⟩
    rw [List.append_assoc] at equal
    obtain rfl := run_unique equal allContinue otherContinues noMore
      (show Text.continuesIdentifier '.' = false by decide)
    exact noDot others (List.append_cancel_left equal)
  exact (reads_optional_nothing noQualifier).seq (reads_identifier starts continues noMore)

/-- The identifier at the start of a name. -/
def QualifiedName.front (name : QualifiedName) : Identifier :=
  name.qualifier.getD name.name

/-- What stands behind it. -/
def QualifiedName.back (name : QualifiedName) : Text :=
  name.qualifier.elim [] fun _ => '.' :: name.name.text

theorem QualifiedName.text_eq (name : QualifiedName) :
    name.text = name.front.text ++ name.back := by
  obtain ⟨qualifier, name⟩ := name
  cases qualifier with
  | none => exact (List.append_nil _).symm
  | some qualifier => rfl

/-- The name of a column is read as a whole, whatever identifier it starts with. -/
theorem QualifiedName.reads_columnName_from
    (name : QualifiedName)
    {c : Char}
    {front : Text}
    (starts : Text.startsIdentifier c = true)
    (continues : ∀ d ∈ front, Text.continuesIdentifier d = true)
    (ends : rest.head?.any isColumnChar = false) :
    columnName.Reads before index (c :: front ++ name.back) rest [] := by
  obtain ⟨qualifier, name⟩ := name
  cases qualifier with
  | none =>
      rw [show QualifiedName.back ⟨none, name⟩ = [] from rfl, List.append_nil]
      exact reads_columnName_identifier starts continues ends
  | some qualifier =>
      have isQualifier (before : Option Char) (index : Nat) :
          (identifier.seq (.char '.')).Reads before index (c :: front ++ ['.'])
            (name.text ++ rest) [] :=
        (reads_identifier starts continues
          (show ('.' :: (name.text ++ rest)).head?.any _ = false from rfl)).seq (reads_char '.')
      have whole : columnName.Reads before index (c :: front ++ ['.'] ++ name.text) rest [] :=
        (isQualifier _ _).optional.seq (name.reads (of_endsColumn ends).1)
      rwa [List.append_assoc] at whole

/-- The name of a column is read as a whole. -/
theorem QualifiedName.reads_columnName
    (name : QualifiedName)
    (ends : rest.head?.any isColumnChar = false) :
    columnName.Reads before index name.text rest [] := by
  rw [name.text_eq]
  exact name.reads_columnName_from (startsIdentifier_of_plain name.front.starts)
    (fun c present => name.front.continuesIdentifier_of_mem c (.tail _ present)) ends

end FromClause
end SqlReview
