import SqlReview.Proofs.FromClause.ColumnName
import SqlReview.Proofs.WhereClause.Grammar

/-!
# Columns in front of operators

How a column in front of an operator is read, alone and as the argument of a function. The operator
is read as a whole, even if another one is the start of it.
-/

namespace SqlReview
namespace WhereClause

open Query Plain FromClause Pattern

variable {before : Option Char} {index : Nat} {op rest : Text}

/-! ## Operators -/

/-- A word character starts no operator that is a sign. -/
theorem refuses_sign
    {c : Char}
    (isWord : Text.isWord c = true)
    (tail : Text) :
    ∀ pattern ∈ operatorSigns.map .letters, Pattern.Refuses pattern before (c :: tail) := by
  have signs : ∀ sign ∈ operatorSigns, sign ≠ [] ∧
      sign.all (fun d => !Text.isWord d && !('a' ≤ d && d ≤ 'z')) = true := by
    decide
  intro pattern present run others equal covered
  obtain ⟨sign, isSign, rfl⟩ := List.mem_map.mp present
  obtain ⟨nonempty, noWord⟩ := signs sign isSign
  have noLetters : sign.all (fun d => !('a' ≤ d && d ≤ 'z')) = true := by
    refine List.all_eq_true.mpr fun d inSign => ?_
    have both := List.all_eq_true.mp noWord d inSign
    rw [Bool.and_eq_true] at both
    exact both.2
  obtain rfl := Text.eq_of_map_foldLetter (covers_letters.mp covered) noLetters
  obtain ⟨d, more, rfl⟩ := List.exists_cons_of_ne_nil nonempty
  obtain rfl : c = d := (List.cons.inj equal).1
  have both := List.all_eq_true.mp noWord c (.head _)
  rw [isWord] at both
  exact absurd both (by simp)

/-- An operator of two words is not read where the first one does not start. -/
theorem refuses_wordOperator
    {first c : Char}
    {word : Text}
    {second : Pattern}
    (isOther : Text.foldLetter c ≠ first)
    (tail : Text) :
    (wordOperator (.letters (first :: word)) second).Refuses before (c :: tail) := by
  intro run others equal covered
  obtain ⟨_, _, rfl, ⟨rfl, -⟩, covered⟩ := covers_all_cons.mp covered
  obtain ⟨run, _, rfl, folds, -⟩ := covers_letters_cons.mp covered
  obtain ⟨d, more, rfl, isFirst, -⟩ := List.map_eq_cons_iff.mp folds
  obtain rfl : c = d := (List.cons.inj equal).1
  exact isOther isFirst

/-- LIKE and ILIKE are read as whole words. -/
theorem reads_likeWord
    {word : Text}
    (isLike : word ∈ (["LIKE", "ILIKE"] : List Text))
    (rest : Text) :
    (Pattern.all [likeWord, .edge]).Reads before index word (' ' :: rest) [] := by
  obtain ⟨whole, lastIsWord⟩ : likeWord.Reads before index word (' ' :: rest) [] ∧
      (Text.lastOr before word).any Text.isWord = true := by
    simp only [List.mem_cons, List.not_mem_nil, or_false] at isLike
    rcases isLike with rfl | rfl
    · exact ⟨fun _ => rfl, show Text.isWord 'E' = true by decide⟩
    · exact ⟨fun _ => rfl, show Text.isWord 'E' = true by decide⟩
  have ends : Pattern.edge.Reads (Text.lastOr before word) (index + word.length) [] (' ' :: rest)
      [] := by
    refine reads_edge ?_
    rw [lastIsWord]
    exact congrArg (true != ·) (show Text.isWord ' ' = false by decide)
  have both := whole.seq ends.last
  rwa [List.append_nil] at both

/-- LIKE and ILIKE are read as operators, alone and behind NOT. -/
theorem reads_like
    {word : Text}
    (isLike : word ∈ (["LIKE", "ILIKE"] : List Text))
    (index : Nat)
    (rest : Text) :
    (Pattern.any operatorForms).Reads (some ' ') index word (' ' :: rest) [] ∧
      (Pattern.any operatorForms).Reads (some ' ') index ("NOT ".toList ++ word) (' ' :: rest)
        [] := by
  obtain ⟨c, tail, rfl, isWord, noBlank, notN⟩ : ∃ c tail, word = c :: tail ∧
      Text.isWord c = true ∧ Text.isBlank c = false ∧ Text.foldLetter c ≠ 'n' := by
    simp only [List.mem_cons, List.not_mem_nil, or_false] at isLike
    rcases isLike with rfl | rfl
    · exact ⟨'L', _, rfl, by decide⟩
    · exact ⟨'I', _, rfl, by decide⟩
  constructor
  · refine reads_any_append (refuses_sign isWord _) (List.cons_ne_nil _ _) ?_
    refine Reads.alt_right (Reads.alt_left ?_) (refuses_wordOperator notN _)
    have starts : Pattern.edge.Reads (some ' ') index [] (c :: tail ++ ' ' :: rest) [] := by
      refine reads_edge ?_
      rw [List.cons_append, List.head?_cons, Option.any_some, Option.any_some, isWord]
      exact congrArg (· != true) (show Text.isWord ' ' = false by decide)
    exact starts.seq (reads_likeWord isLike rest)
  · refine reads_any_append (refuses_sign (by decide) _) (List.cons_ne_nil _ _) ?_
    refine Reads.alt_left ?_
    have starts : Pattern.edge.Reads (some ' ') index []
        ("NOT ".toList ++ c :: tail ++ ' ' :: rest) [] :=
      reads_edge (show (Text.isWord ' ' != Text.isWord 'N') = true by decide)
    have not : (letters "not").Reads (some ' ') index "NOT".toList
        (' ' :: (c :: tail ++ ' ' :: rest)) [] :=
      reads_letters (by decide)
    have gap (before : Option Char) (index : Nat) :
        Pattern.someBlanks.Reads before index [' '] (c :: tail ++ ' ' :: rest) [] :=
      reads_blank noBlank
    have words : (Pattern.all [.letters "not", .someBlanks, likeWord, .edge]).Reads (some ' ') index
        ("NOT".toList ++ ' ' :: c :: tail) (' ' :: rest) [] :=
      not.seq ((gap _ _).seq (reads_likeWord isLike rest))
    exact starts.seq words

/-- An operator is read whatever stands behind the blank that follows it. -/
theorem Comparator.reads
    (comparator : Comparator)
    (index : Nat)
    (rest : Text) :
    (Pattern.any operatorForms).Reads (some ' ') index comparator.text (' ' :: rest) [] := by
  cases comparator with
  | like => exact (reads_like (.head _) index rest).1
  | ilike => exact (reads_like (.tail _ (.head _)) index rest).1
  | notLike => exact (reads_like (.head _) index rest).2
  | notIlike => exact (reads_like (.tail _ (.head _)) index rest).2
  | eq | ne | otherThan | lt | gt | le | ge => exact fun _ => rfl

/-- A blank and an operator behind it, with the operator recorded. -/
theorem reads_blank_operator
    (isOperator : (Pattern.any operatorForms).Reads (some ' ') (index + 1) op rest [])
    (noBlank : (op ++ rest).head?.any Text.isBlank = false) :
    (Pattern.all [.blanks, operator]).Reads before index (' ' :: op) rest
      [⟨3, index + 1, op⟩] := by
  have gap : Pattern.blanks.Reads before index [' '] (op ++ rest) [] :=
    reads_blanks (fun _ => isBlank_of_mem) noBlank
  exact gap.seq (isOperator.group 3).last

/-- A column in front of an operator is read, and the operator. -/
theorem reads_plainColumn
    {name : Text}
    (isName : columnName.Reads (some ' ') index name (' ' :: op ++ rest) [])
    (isOperator : ∀ index, (Pattern.any operatorForms).Reads (some ' ') index op rest [])
    (noBlank : (op ++ rest).head?.any Text.isBlank = false) :
    plainColumn.Reads (some ' ') index (name ++ ' ' :: op) rest
      [⟨3, index + name.length + 1, op⟩, ⟨2, index, name⟩] := by
  have compared := (isName.group 2).seq
    (reads_blank_operator (isOperator _) noBlank)
  exact (reads_notAfter (by decide)).seq compared

/-- A function applied to a column in front of an operator is read, with its argument and the
operator. -/
theorem reads_wrappedColumn
    (function : Identifier)
    (name : QualifiedName)
    (isOperator : ∀ index, (Pattern.any operatorForms).Reads (some ' ') index op rest [])
    (noBlank : (op ++ rest).head?.any Text.isBlank = false) :
    wrappedColumn.Reads (some ' ') index (function.text ++ '(' :: (name.text ++ ')' :: ' ' :: op))
      rest [⟨3, index + function.text.length + 1 + name.text.length + 2, op⟩,
        ⟨2, index + function.text.length + 1, name.text⟩, ⟨1, index, function.text⟩] := by
  have nothing {c : Char} {tail : Text} (noBlank : Text.isBlank c = false) (before : Option Char)
      (index : Nat) : Pattern.blanks.Reads before index [] (c :: tail) [] :=
    reads_blanks (List.forall_mem_nil _) noBlank
  have noArguments (before : Option Char) (index : Nat) :
      (Pattern.optional (.seq (.char ',') (.many fun c => c ≠ '(' && c ≠ ')'))).Reads before index
        [] (')' :: ' ' :: op ++ rest) [] := by
    refine reads_optional_nothing ?_
    rintro _ others equal ⟨_, _, rfl, isComma, -⟩
    obtain rfl := covers_char.mp isComma
    exact absurd (List.cons.inj equal).1 (by decide)
  have closing (before : Option Char) (index : Nat) :
      (Pattern.all [.char ')', .blanks, operator]).Reads before index (')' :: ' ' :: op) rest
        [⟨3, index + 2, op⟩] :=
    (reads_char ')').seq (reads_blank_operator (isOperator _) noBlank)
  have column (before : Option Char) (index : Nat) :
      (Pattern.group 2 columnName).Reads before index name.text (')' :: ' ' :: op ++ rest)
        [⟨2, index, name.text⟩] :=
    (name.reads_columnName (show (')' :: ' ' :: op ++ rest).head?.any _ = false from rfl)).group 2
  have applied (before : Option Char) (index : Nat) :
      (Pattern.group 1 .identifier).Reads before index function.text
        ('(' :: (name.text ++ ')' :: ' ' :: op) ++ rest) [⟨1, index, function.text⟩] :=
    (function.reads (show ('(' :: (name.text ++ ')' :: ' ' :: op) ++ rest).head?.any _ = false
      from rfl)).group 1
  have inside (before : Option Char) (index : Nat) :
      (Pattern.all [.blanks, .group 2 columnName, .blanks,
        .optional (.seq (.char ',') (.many fun c => c ≠ '(' && c ≠ ')')), .char ')', .blanks,
        operator]).Reads before index (name.text ++ ')' :: ' ' :: op) rest
          [⟨3, index + name.text.length + 2, op⟩, ⟨2, index, name.text⟩] := by
    have noGap : Pattern.blanks.Reads before index [] (name.text ++ ')' :: ' ' :: op ++ rest) [] :=
      reads_blanks (List.forall_mem_nil _) (by rw [List.append_assoc]; exact name.noBlank_head _)
    exact noGap.seq ((column _ _).seq ((nothing (by decide) _ _).seq ((noArguments _ _).seq
      (closing _ _))))
  have starts : Pattern.edge.Reads (some ' ') index []
      (function.text ++ '(' :: (name.text ++ ')' :: ' ' :: op) ++ rest) [] := by
    have isName : isNameChar function.first = true := by
      rw [isNameChar, function.starts]
      rfl
    exact reads_edge ((congrArg (Text.isWord ' ' != ·) (of_isNameChar isName).1).trans (by decide))
  exact starts.seq ((applied _ _).seq ((nothing (by decide) _ _).seq ((reads_char '(').seq
    (inside _ _))))

end WhereClause
end SqlReview
