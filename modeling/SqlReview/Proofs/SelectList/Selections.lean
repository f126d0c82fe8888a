import SqlReview.Proofs.SelectList.Preambles

/-!
# What is extracted behind a preamble

A preamble is looked for on the top level of a SELECT clause. Main statement: a list of columns is read
as without a preamble, except that the first column is lost behind an enclosed number of rows, whose
digits are not seen there.
-/

namespace SqlReview
namespace SelectList

open Query Plain FromClause Pattern

variable {before : Option Char} {index : Nat} {word text run rest : Text}

/-! ## Starts of lists -/

namespace ColumnList

variable (columns : ColumnList)

/-- What stands behind the first identifier of a list does not continue it. -/
theorem exists_tail :
    ∃ tail, columns.text ++ [' '] = columns.first.front.text ++ tail ∧
      tail.head?.any Text.continuesIdentifier = false ∧ EndsStem tail := by
  have sign {c : Char} {tail : Text}
      (isSign : Text.continuesIdentifier c = false ∧ Text.isWord c = false ∧ Text.isBlank c = false) :
      (c :: tail).head?.any Text.continuesIdentifier = false ∧ EndsStem (c :: tail) :=
    ⟨isSign.1, isSign.2.1, fun blank => absurd (isSign.2.2.symm.trans blank) Bool.false_ne_true⟩
  refine ⟨columns.first.back ++ (listedText (columns.others.map fun other =>
    (other.1, other.2.text)) ++ [' ']), ?_, ?_⟩
  · rw [text, columns.first.text_eq]
    simp only [List.append_assoc]
  obtain ⟨⟨qualifier, name⟩, others⟩ := columns
  cases qualifier with
  | some qualifier => exact sign (c := '.') (by decide)
  | none =>
      cases others with
      | nil =>
          have blank : ([' '] : Text).head?.any Text.continuesIdentifier = false ∧ EndsStem [' '] :=
            ⟨by decide, by decide, fun _ => by decide⟩
          exact blank
      | cons other others =>
          obtain ⟨more, separated⟩ : ∃ more, comma other.1 = ',' :: more := by
            cases other.1 <;> exact ⟨_, rfl⟩
          simp only [listedText, List.map_cons, List.flatMap_cons, separated]
          exact sign (by decide)

end ColumnList

/-! ## Numbers of rows -/

theorem refuses_char
    {c : Char}
    (isOther : text.head? ≠ some c) :
    (char c).Refuses before text := by
  rintro _ rest rfl covered
  obtain rfl := covers_char.mp covered
  exact isOther rfl

theorem isDecimalDigit_of_isNumeralChar
    {c : Char}
    (isDigit : isNumeralChar c = true) :
    Text.isDecimalDigit c = true := by
  have ascii := ascii_of_isNumeralChar isDigit
  revert isDigit
  apply Text.forall_ascii _ c ascii
  decide

/-- The word PERCENT behind a number of rows. -/
def percentPart : Pattern :=
  .optional (.seq (.letters "percent") .someBlanks)

/-- The word PERCENT is not read off the start of a list, since no column has this name. -/
theorem ColumnList.reads_percentPart (columns : ColumnList) :
    percentPart.Reads before index [] (columns.text ++ [' ']) [] := by
  obtain ⟨tail, split, ends, -⟩ := columns.exists_tail
  rw [split]
  exact reads_optional_nothing (refuses_word (show Text.IsSmallWord "percent" by decide)
    columns.first.front.continuesIdentifier_of_mem ends
    (columns.first.front.map_foldLetter_ne (by decide) (by decide)))

theorem reads_percent (noBlank : rest.head?.any Text.isBlank = false) :
    percentPart.Reads before index "PERCENT ".toList rest [] := by
  have word : (letters "percent").Reads before index "PERCENT" ([' '] ++ rest) [] :=
    reads_letters (by decide)
  exact (word.seq (reads_blank noBlank)).optional

/-- What can stand behind the digits of a number of rows. -/
def countTail : Pattern :=
  .all [.blanks, .optional (.char ')'), .blanks, percentPart]

theorem reads_countTail
    (noBlank : (run ++ rest).head?.any Text.isBlank = false)
    (noClose : (run ++ rest).head? ≠ some ')')
    (reads : ∀ before index, percentPart.Reads before index run rest []) :
    countTail.Reads before index (' ' :: run) rest [] := by
  have closing (before : Option Char) (index : Nat) :
      (Pattern.char ')').optional.Reads before index [] (run ++ rest) [] :=
    reads_optional_nothing (refuses_char noClose)
  have nothing (before : Option Char) (index : Nat) :
      blanks.Reads before index [] (run ++ rest) [] :=
    reads_blanks (List.forall_mem_nil _) noBlank
  have blank : blanks.Reads before index [' '] (run ++ rest) [] :=
    reads_blanks (List.forall_mem_singleton.mpr (by decide)) noBlank
  exact blank.seq (Reads.seq (closing _ _) (Reads.seq (nothing _ _) (reads _ _).last))

/-- Digits behind TOP are read with what stands behind them. -/
theorem reads_rowsPart
    (count : Numeral)
    (noBlank : (run ++ rest).head?.any Text.isBlank = false)
    (noClose : (run ++ rest).head? ≠ some ')')
    (reads : ∀ before index, percentPart.Reads before index run rest []) :
    rowsPart.Reads before index ("TOP ".toList ++ (count.text ++ ' ' :: run)) rest [] := by
  obtain ⟨digits, nonempty, areDigits⟩ := count
  obtain ⟨d, digits, rfl⟩ := List.exists_cons_of_ne_nil nonempty
  have accepted : ∀ c ∈ d :: digits, Text.isDecimalDigit c = true := fun c present =>
    isDecimalDigit_of_isNumeralChar (areDigits c present)
  have isDigit := accepted d (.head _)
  have noBlankDigit := Text.isBlank_of_isDecimalDigit isDigit
  have noOpen : d ≠ '(' := by
    rintro rfl
    exact absurd isDigit (by decide)
  have number (before : Option Char) (index : Nat) : (Pattern.oneOrMore Text.isDecimalDigit).Reads
      before index (d :: digits) (' ' :: run ++ rest) [] :=
    Reads.seq (reads_one isDigit) (reads_many (fun c present => accepted c (.tail _ present))
      (show Option.any _ (some ' ') = false by decide))
  have nothing (before : Option Char) (index : Nat) :
      blanks.Reads before index [] (d :: digits ++ ' ' :: run ++ rest) [] :=
    reads_blanks (List.forall_mem_nil _) noBlankDigit
  have opening (before : Option Char) (index : Nat) :
      (Pattern.char '(').optional.Reads before index [] (d :: digits ++ ' ' :: run ++ rest) [] :=
    reads_optional_nothing (refuses_char (by simpa using noOpen))
  have blank (before : Option Char) (index : Nat) :
      someBlanks.Reads before index [' '] (d :: digits ++ ' ' :: run ++ rest) [] :=
    reads_blank noBlankDigit
  have top : (letters "top").Reads before index "TOP"
      (' ' :: (d :: digits ++ ' ' :: run) ++ rest) [] :=
    reads_letters (by decide)
  have counted (before : Option Char) (index : Nat) :
      (blanks.seq ((Pattern.oneOrMore Text.isDecimalDigit).seq countTail)).Reads before index
        (d :: digits ++ ' ' :: run) rest [] :=
    (nothing _ _).seq ((number _ _).seq (reads_countTail noBlank noClose reads))
  exact top.seq ((blank _ _).seq ((opening _ _).seq (counted _ _)))

/-- No number of rows is read where the digits are hidden. -/
theorem refuses_rowsPart_enclosed (hidden : Nat) :
    rowsPart.Refuses before
      ("TOP ".toList ++ '(' :: (List.replicate hidden ' ' ++ ')' :: rest)) := by
  rintro _ others equal covered
  obtain ⟨top, _, rfl, folds, covered⟩ := covers_letters_cons.mp covered
  obtain ⟨gap, behind, rfl, isGap, covered⟩ := covers_all_cons.mp covered
  obtain ⟨-, blank⟩ := covers_someBlanks.mp isGap
  have isBlank : ∀ c ∈ List.replicate hidden ' ', Text.isBlank c = true := by
    intro c present
    rw [List.eq_of_mem_replicate present]
    decide
  have length : top.length = 3 := by
    rw [← List.length_map Text.foldLetter, folds]
    rfl
  have here : '(' :: (List.replicate hidden ' ' ++ ')' :: rest) =
      (behind ++ others).dropWhile Text.isBlank := by
    have split : "TOP".toList ++ ' ' :: '(' :: (List.replicate hidden ' ' ++ ')' :: rest) =
        top ++ (gap ++ (behind ++ others)) := by
      simpa using equal
    obtain ⟨-, dropped⟩ := List.append_inj split length.symm
    rw [← List.dropWhile_append_of_pos blank, ← dropped]
    rfl
  obtain ⟨opening, digits, rfl, isOpening, covered⟩ := covers_all_cons.mp covered
  rcases isOpening with isOpen | nothing
  · obtain rfl := covers_char.mp isOpen
    have found := isDecimalDigit_of_covers covered
    have inside : List.replicate hidden ' ' ++ ')' :: rest = digits ++ others :=
      (List.cons.inj here).2
    rw [← inside, List.dropWhile_append_of_pos isBlank] at found
    exact absurd (show Text.isDecimalDigit ')' = true from found) (by decide)
  · obtain rfl : opening = [] := nothing
    have found := isDecimalDigit_of_covers covered
    rw [List.nil_append] at here
    rw [← here] at found
    exact absurd (show Text.isDecimalDigit '(' = true from found) (by decide)

/-! ## Treatments of duplicates -/

/-- Whether a text can follow a treatment of duplicates without being taken for one or for a part of
one. -/
structure FollowsDuplicates (text : Text) : Prop where
  /-- It does not start with white space. -/
  noBlank : text.head?.any Text.isBlank = false
  /-- It does not start with the letters of DISTINCT or ALL. -/
  noPrefix : prefixLength text = 0
  /-- It has no list behind ON. -/
  noList : startsWith "on" text = false ∨ '(' ∉ text

/-- DISTINCT is read alone where no list follows. -/
theorem FollowsDuplicates.refuses_distinctOn (follows : FollowsDuplicates text) :
    distinctOn.Refuses before ("DISTINCT".toList ++ ' ' :: text) := by
  rintro _ others equal covered
  obtain ⟨distinct, _, rfl, folds, covered⟩ := covers_letters_cons.mp covered
  obtain ⟨gap, behind, rfl, isGap, covered⟩ := covers_all_cons.mp covered
  obtain ⟨-, blank⟩ := covers_someBlanks.mp isGap
  obtain ⟨on, _, rfl, onFolds, covered⟩ := covers_letters_cons.mp covered
  obtain ⟨blanks, _, rfl, -, covered⟩ := covers_blanks_cons.mp covered
  obtain ⟨list, rfl, -⟩ := covers_char_cons.mp covered
  have length : distinct.length = 8 := by
    rw [← List.length_map Text.foldLetter, folds]
    rfl
  have split : "DISTINCT".toList ++ ' ' :: text =
      distinct ++ (gap ++ (on ++ (blanks ++ '(' :: (list ++ others)))) := by
    simpa using equal
  obtain ⟨-, dropped⟩ := List.append_inj split length.symm
  have noBlankOn : (on ++ (blanks ++ '(' :: (list ++ others))).head?.any Text.isBlank = false := by
    obtain ⟨c, more, rfl, -, -⟩ := List.map_eq_cons_iff.mp onFolds
    have isWord := Text.IsSmallWord.isWord_of_mem (show Text.IsSmallWord "on" by decide) onFolds
      (List.mem_cons_self (a := c))
    exact Bool.eq_false_iff.mpr fun blank =>
      absurd (isWord.symm.trans (Text.isWord_of_isBlank blank)) (by decide)
  have here : text = on ++ (blanks ++ '(' :: (list ++ others)) := by
    have kept := congrArg (List.dropWhile Text.isBlank) dropped
    rwa [List.dropWhile_append_of_pos blank, Text.dropWhile_of_head noBlankOn,
      List.dropWhile_cons_of_pos (by decide), Text.dropWhile_of_head follows.noBlank] at kept
  rcases follows.noList with noOn | noOpen
  · have starts := startsWith_iff.mpr ⟨_, _, here, onFolds⟩
    exact absurd (noOn.symm.trans starts) Bool.false_ne_true
  · exact noOpen (by rw [here]; simp)

/-- DISTINCT is read with a list behind ON, whose columns are hidden. -/
theorem reads_distinctOn (hidden : Nat) :
    distinctOn.Reads before index
      ("DISTINCT ON ".toList ++ '(' :: (List.replicate hidden ' ' ++ [')'])) rest [] := by
  have blank : Text.isBlank ' ' = true := by decide
  have close (before : Option Char) (index : Nat) :
      (all [char ')']).Reads before index [')'] rest [] :=
    (reads_char ')').last
  have columns (before : Option Char) (index : Nat) : (many fun c => c ≠ '(' && c ≠ ')').Reads before
      index (List.replicate hidden ' ') ([')'] ++ rest) [] := by
    refine reads_many (fun c present => ?_) rfl
    rw [List.eq_of_mem_replicate present]
    rfl
  have list (before : Option Char) (index : Nat) :
      ((char '(').seq ((many fun c => c ≠ '(' && c ≠ ')').seq (all [char ')']))).Reads before index
        ('(' :: (List.replicate hidden ' ' ++ [')'])) rest [] :=
    Reads.seq (reads_char '(') ((columns _ _).seq (close _ _))
  have gap (before : Option Char) (index : Nat) : blanks.Reads before index [' ']
      ('(' :: (List.replicate hidden ' ' ++ [')']) ++ rest) [] :=
    reads_blanks (List.forall_mem_singleton.mpr blank) (show Text.isBlank '(' = false by decide)
  have on (before : Option Char) (index : Nat) : (letters "on").Reads before index "ON"
      (' ' :: '(' :: (List.replicate hidden ' ' ++ [')']) ++ rest) [] :=
    reads_letters (by decide)
  have blankOn (before : Option Char) (index : Nat) : someBlanks.Reads before index [' ']
      ("ON ".toList ++ '(' :: (List.replicate hidden ' ' ++ [')']) ++ rest) [] :=
    reads_blank (show Text.isBlank 'O' = false by decide)
  have distinct : (letters "distinct").Reads before index "DISTINCT"
      (" ON ".toList ++ '(' :: (List.replicate hidden ' ' ++ [')']) ++ rest) [] :=
    reads_letters (by decide)
  exact distinct.seq ((blankOn _ _).seq ((on _ _).seq ((gap _ _).seq (list _ _))))

/-- A treatment of duplicates is read where it is followed by a blank. -/
theorem reads_duplicates
    (duplicates : Duplicates)
    (follows : FollowsDuplicates text) :
    duplicatesPart.Reads before index (mask duplicates.text) (' ' :: text) [] := by
  cases duplicates with
  | all =>
      have noDistinct : startsWith "distinct" ("ALL".toList ++ ' ' :: text) = false :=
        (startsWith_append (by decide) (show Option.any _ (some ' ') = false by decide)).trans
          (by decide)
      have noDistinctOn : distinctOn.Refuses before ("ALL".toList ++ ' ' :: text) :=
        refuses_distinctOn fun run rest equal folds =>
          absurd (noDistinct.symm.trans (startsWith_iff.mpr ⟨run, rest, equal, folds⟩))
            Bool.false_ne_true
      have isAll : (letters "all").Reads before index "ALL" (' ' :: text) [] :=
        reads_letters (by decide)
      rw [show mask Duplicates.all.text = "ALL".toList by decide]
      exact (isAll.alt_right (refuses_letters noDistinct)).alt_right noDistinctOn
  | distinct =>
      have isDistinct : (letters "distinct").Reads before index "DISTINCT" (' ' :: text) [] :=
        reads_letters (by decide)
      rw [show mask Duplicates.distinct.text = "DISTINCT".toList by decide]
      exact isDistinct.alt_left.alt_right follows.refuses_distinctOn
  | distinctOn columns =>
      have on : IsClosed "DISTINCT ON " ∧ mask "DISTINCT ON " = "DISTINCT ON ".toList := by decide
      have shown : mask (Duplicates.distinctOn columns).text =
          "DISTINCT ON ".toList ++ '(' :: (List.replicate columns.text.length ' ' ++ [')']) :=
        (mask_append on.1 _).trans (congrArg₂ _ on.2
          (mask_enclosed (.inr rfl) fun _ => columns.isPlain).1)
      rw [shown]
      exact (reads_distinctOn columns.text.length).alt_left

/-- A treatment of duplicates is read with the white space behind it, and nothing is read if there is
none. -/
theorem reads_behindDuplicates
    {last : Pattern}
    (duplicates : Option Duplicates)
    (follows : FollowsDuplicates (run ++ rest))
    (reads : ∀ before index, last.Reads before index run rest []) :
    (duplicatesPart.optional.seq (blanks.seq last)).Reads before index
      (mask (behind (duplicates.map Duplicates.text) []) ++ run) rest [] := by
  have behindBlank (before : Option Char) (index : Nat) :
      (blanks.seq last).Reads before index (' ' :: run) rest [] := by
    have blank : blanks.Reads before index [' '] (run ++ rest) [] :=
      reads_blanks (List.forall_mem_singleton.mpr (by decide)) follows.noBlank
    exact blank.seq (reads _ _)
  cases duplicates with
  | none =>
      have nothing : duplicatesPart.optional.Reads before index
          ((run ++ rest).take (prefixLength (run ++ rest)))
          ((run ++ rest).drop (prefixLength (run ++ rest))) [] :=
        reads_duplicatesPart (by rw [follows.noPrefix]; exact follows.noBlank)
      have noBlanks (before : Option Char) (index : Nat) :
          blanks.Reads before index [] (run ++ rest) [] :=
        reads_blanks (List.forall_mem_nil _) follows.noBlank
      rw [follows.noPrefix] at nothing
      exact nothing.seq ((noBlanks _ _).seq (reads _ _))
  | some duplicates =>
      rw [Option.map_some, mask_behind_nil duplicates.isPiece.closed, List.append_assoc]
      exact (reads_duplicates duplicates follows).optional.seq (behindBlank _ _)

/-! ## Preambles -/

/-- A list of columns is not taken for a treatment of duplicates unless it starts with its letters. -/
theorem ColumnList.followsDuplicates
    (columns : ColumnList)
    (noPrefix : prefixLength columns.first.text = 0) :
    FollowsDuplicates (columns.text ++ [' ']) := by
  obtain ⟨tail, split, -, endsStem⟩ := columns.exists_tail
  have noOpen : '(' ∉ columns.text ++ [' '] := by
    have absent := columns.not_mem_of_isMark (show '(' ∈ ['\'', '(', ')'] by decide)
    simp [absent]
  have front := (Entry.column ⟨columns.first, none⟩).prefixLength_text
  rw [show (Entry.column ⟨columns.first, none⟩).text = columns.first.text from List.append_nil _,
    noPrefix] at front
  refine ⟨?_, ?_, .inr noOpen⟩
  · rw [split]
    exact columns.first.front.noBlank_of_mem (.head _)
  · rw [split, prefixLength_append endsStem.ends]
    exact front.symm

theorem RowCount.exists_mask (rows : RowCount) :
    ∃ more, mask rows.text = "TOP".toList ++ ' ' :: more := by
  have top : IsClosed "TOP " ∧ mask "TOP " = "TOP ".toList := by decide
  have shown (more : Text) : mask ("TOP ".toList ++ more) = "TOP".toList ++ ' ' :: mask more :=
    (mask_append top.1 more).trans (congrArg (· ++ mask more) top.2)
  cases rows <;> exact ⟨_, shown _⟩

namespace Preamble

variable (preamble : Preamble) (columns : ColumnList)

/-- What stands behind a treatment of duplicates is not taken for a part of it. -/
theorem followsDuplicates (noPrefix : prefixLength columns.first.text = 0) :
    FollowsDuplicates
      (mask preamble.seenRows ++ (mask preamble.left ++ (columns.text ++ [' ']))) := by
  rw [← List.append_assoc, ← mask_append preamble.isClosed_seenRows, preamble.rows_eq]
  cases preamble.rows with
  | none => exact columns.followsDuplicates noPrefix
  | some rows =>
      obtain ⟨more, shown⟩ := rows.exists_mask
      rw [Option.map_some, mask_behind_nil rows.isPiece.closed, shown, List.append_assoc,
        List.append_assoc]
      have ends (rest : Text) : (' ' :: rest).head?.any Text.isWord = false :=
        show Text.isWord ' ' = false by decide
      exact ⟨show Text.isBlank 'T' = false by decide,
        (prefixLength_append (ends _)).trans (by decide),
        .inl ((startsWith_append (by decide) (ends _)).trans (by decide))⟩

/-- A number of rows is read if its digits are seen. -/
theorem reads_rows :
    rowsPart.optional.Reads before index (mask preamble.seenRows)
      (mask preamble.left ++ (columns.text ++ [' '])) [] := by
  obtain ⟨tail, split, -, endsStem⟩ := columns.exists_tail
  have first : (columns.text ++ [' ']).head? = some columns.first.front.first := by
    rw [split]
    rfl
  have solid : isSolidChar columns.first.front.first = true :=
    List.all_eq_true.mp columns.first.front.isSolid_text _ (.head _)
  have noBlank : (columns.text ++ [' ']).head?.any Text.isBlank = false := by
    rw [first]
    exact (of_isSolidChar solid).2.1
  have noClose : (columns.text ++ [' ']).head? ≠ some ')' := by
    rw [first]
    exact fun equal => (of_isSolidChar solid).2.2.2.2 (Option.some.inj equal)
  have top : IsClosed "TOP " ∧ mask "TOP " = "TOP ".toList ∧ Uses [' '] "TOP " := by decide
  have seen {rows : Text} (uses : Uses [' '] rows) : mask (behind (some rows) []) = rows ++ [' '] :=
    mask_of_uses (uses.append (show Uses [' '] [' '] by decide)) (by decide)
  have nothing : mask [] = [] := rfl
  rcases preamble with ⟨duplicates, _ | rows⟩
  · rw [show left ⟨duplicates, none⟩ = [] from rfl, nothing, List.nil_append, split]
    exact reads_optional_nothing
      (refuses_rowsPart (fun _ => columns.first.front.noBlank_of_mem) endsStem)
  cases rows with
  | plain count =>
      have uses : Uses [' '] ("TOP ".toList ++ count.text) := top.2.2.append count.uses
      rw [show left ⟨duplicates, some (.plain count)⟩ = [] from rfl, nothing, List.nil_append,
        show seenRows ⟨duplicates, some (.plain count)⟩ =
          behind (some ("TOP ".toList ++ count.text)) [] from rfl, seen uses, List.append_assoc]
      refine (reads_rowsPart count ?_ ?_ fun _ _ => columns.reads_percentPart).optional
      · exact noBlank
      · exact noClose
  | percent count =>
      have uses : Uses [' '] ("TOP ".toList ++ (count.text ++ " PERCENT".toList)) :=
        top.2.2.append (count.uses.append (by decide))
      rw [show left ⟨duplicates, some (.percent count)⟩ = [] from rfl, nothing, List.nil_append,
        show seenRows ⟨duplicates, some (.percent count)⟩ =
          behind (some ("TOP ".toList ++ (count.text ++ " PERCENT".toList))) [] from rfl, seen uses,
        List.append_assoc, List.append_assoc]
      refine (reads_rowsPart count ?_ ?_ fun _ _ => reads_percent noBlank).optional
      · exact show Text.isBlank 'P' = false by decide
      · exact show some 'P' ≠ some ')' by decide
  | enclosed count =>
      have hidden : mask (RowCount.enclosed count).text =
          "TOP ".toList ++ '(' :: (List.replicate count.text.length ' ' ++ [')']) :=
        (mask_append top.1 _).trans (congrArg₂ _ top.2.1
          (mask_enclosed (.inr rfl) fun _ => Numeral.isPlain count).1)
      have refuses : rowsPart.Refuses before ("TOP ".toList ++
          '(' :: (List.replicate count.text.length ' ' ++ ')' :: ' ' :: (columns.text ++ [' ']))) :=
        refuses_rowsPart_enclosed count.text.length
      rw [show seenRows ⟨duplicates, some (.enclosed count)⟩ = [] from rfl, nothing,
        show left ⟨duplicates, some (.enclosed count)⟩ = behind (some _) [] from rfl,
        mask_behind_nil (RowCount.enclosed count).isPiece.closed, hidden]
      exact reads_optional_nothing (by simpa using refuses)

/-- A preamble is read as far as it is seen. -/
theorem reads_selectPreamble (noPrefix : prefixLength columns.first.text = 0) :
    selectPreamble.Reads none 0 (' ' :: mask preamble.seen)
      (mask preamble.left ++ (columns.text ++ [' '])) [] := by
  have shown : mask preamble.seen =
      mask (behind (preamble.duplicates.map Duplicates.text) []) ++ mask preamble.seenRows := by
    have closed : IsClosed (behind (preamble.duplicates.map Duplicates.text) []) :=
      isClosed_behind Duplicates.isPiece preamble.duplicates rfl
    rw [← mask_append closed, ← behind_append]
    rfl
  have read (before : Option Char) (index : Nat) :
      (duplicatesPart.optional.seq (blanks.seq (all [rowsPart.optional]))).Reads before index
        (mask preamble.seen) (mask preamble.left ++ (columns.text ++ [' '])) [] := by
    rw [shown]
    exact reads_behindDuplicates preamble.duplicates (preamble.followsDuplicates columns noPrefix)
      fun _ _ => (preamble.reads_rows columns).last
  have blank (before : Option Char) (index : Nat) : blanks.Reads before index [' ']
      (mask preamble.seen ++ (mask preamble.left ++ (columns.text ++ [' ']))) [] := by
    refine reads_blanks (List.forall_mem_singleton.mpr (by decide)) ?_
    have follows := (preamble.followsDuplicates columns noPrefix).noBlank
    rw [shown]
    cases preamble.duplicates with
    | none => exact follows
    | some duplicates =>
        rw [Option.map_some, mask_behind_nil duplicates.isPiece.closed]
        cases duplicates with
        | all => exact show Text.isBlank 'A' = false by decide
        | distinct | distinctOn columns => exact show Text.isBlank 'D' = false by decide
  exact reads_textStart.seq ((blank _ _).seq (read _ _))

end Preamble

/-! ## Items behind a preamble -/

theorem isItem_column (column : QualifiedName) :
    IsItem column.text :=
  have uses : Uses ['$', '.'] column.text := column.uses (by decide) (by decide)
  ⟨column.isPiece.tight, uses.not_mem (by decide) (by decide)⟩

/-- A column behind an enclosed number of rows is no item of a list. -/
theorem add_behindCount
    (projection : Projection)
    (count : Numeral)
    (column : QualifiedName) :
    projection.add ((RowCount.enclosed count).text ++ ' ' :: column.text) = projection := by
  have split : (RowCount.enclosed count).text ++ ' ' :: column.text =
      "TOP ".toList ++ '(' :: (count.text ++ ')' :: ' ' :: column.text) := by
    simp [RowCount.text]
  have uses : Uses ['$', '.', ')', ' '] (count.text ++ ')' :: ' ' :: column.text) :=
    count.uses.append (((column.uses (by decide) (by decide)).cons (by decide)).cons (by decide))
  have noStar : '*' ∉ "TOP ".toList ++ '(' :: (count.text ++ ')' :: ' ' :: column.text) := by
    have inRest := uses.not_mem (show isNameChar '*' = false by decide) (by decide)
    rw [List.append_cons, List.mem_append, not_or]
    exact ⟨by decide, inRest⟩
  have noOpen : '(' ∉ count.text ++ ')' :: ' ' :: column.text :=
    uses.not_mem (by decide) (by decide)
  -- The only parenthesis is behind TOP, which has no place for the name of a function.
  have noCall : aggregateCall.occursIn
      ("TOP ".toList ++ '(' :: (count.text ++ ')' :: ' ' :: column.text)) = false := by
    rw [Bool.eq_false_iff]
    intro found
    obtain ⟨lead, function, blanks, rest, equal, listed⟩ := of_occursIn_aggregateCall found
    have front : "TOP ".toList = lead ++ (function ++ blanks) := by
      rw [← List.append_assoc function, ← List.append_assoc lead] at equal
      exact ((List.append_cons_inj_of_notMem (by decide) noOpen).mp equal).1
    have inside : function.map Text.foldLetter <:+: "top ".toList :=
      ⟨lead.map Text.foldLetter, blanks.map Text.foldLetter, by
        rw [← List.map_append, ← List.map_append, List.append_assoc, ← front]
        decide⟩
    have none : ∀ name ∈ aggregateNames, ¬name <:+: "top ".toList := by decide
    exact none _ listed inside
  rw [split, Projection.add, not_occursIn_starItem noStar, noCall,
    atStart?_columnItem_of_mem (c := '(') (by decide) (by simp)]
  rfl

/-- What several columns add. -/
theorem foldl_add_columns
    (names : List QualifiedName)
    (projection : Projection) :
    (names.map QualifiedName.text).foldl Projection.add projection =
      { projection with columns := projection.columns ++ names.map QualifiedName.text } := by
  have added := Entry.foldl_add (names.map fun name => Entry.column ⟨name, none⟩) projection
  have texts : (names.map fun name => Entry.column ⟨name, none⟩).map Entry.text =
      names.map QualifiedName.text := by
    rw [List.map_map]
    exact List.map_congr_left fun name _ => List.append_nil name.text
  have columns : (names.map fun name => Entry.column ⟨name, none⟩).filterMap Entry.column? =
      names.map QualifiedName.text := by
    rw [List.filterMap_map]
    exact congrFun List.filterMap_eq_map names
  rw [texts, columns] at added
  rw [added]
  simp [Entry.isAggregate, Entry.isStar]

namespace Preamble

variable (preamble : Preamble) (columns : ColumnList)

theorem left_cases :
    (preamble.enclosesCount = false ∧ preamble.left = []) ∨
      ∃ count, preamble.enclosesCount = true ∧
        preamble.left = (RowCount.enclosed count).text ++ [' '] := by
  rcases preamble with ⟨duplicates, _ | count | count | count⟩
  · exact .inl ⟨rfl, rfl⟩
  · exact .inl ⟨rfl, rfl⟩
  · exact .inr ⟨count, rfl, rfl⟩
  · exact .inl ⟨rfl, rfl⟩

/-- The first item of a list behind a preamble starts with what is left of the preamble. -/
theorem isShown_first :
    IsShown (preamble.left ++ columns.first.text) (mask preamble.left ++ columns.first.text) := by
  have first := (isItem_column columns.first).isShown
  rcases preamble.left_cases with ⟨-, nothing⟩ | ⟨count, -, counted⟩
  · rw [nothing]
    exact first
  have noComma : ',' ∉ preamble.left := by
    have uses : Uses [' ', '(', ')'] ("TOP ".toList ++ '(' :: (count.text ++ [')']) ++ [' ']) :=
      (Uses.append (by decide) ((count.uses.append (by decide)).cons (by decide))).append (by decide)
    rw [counted]
    exact uses.not_mem (by decide) (by decide)
  have starts : (mask preamble.left ++ columns.first.text).head?.any Text.isBlank = false := by
    obtain ⟨more, shown⟩ := (RowCount.enclosed count).exists_mask
    rw [counted, mask_append (RowCount.enclosed count).isPiece.closed, shown]
    exact show Text.isBlank 'T' = false by decide
  refine ⟨?_, List.append_ne_nil_of_right_ne_nil _ first.nonempty, starts, ?_, fun present => ?_⟩
  · rw [List.length_append, List.length_append, length_mask]
  · rw [List.getLast?_append_of_ne_nil _ first.nonempty]
    exact first.ends
  · rcases List.mem_append.mp present with inLeft | inFirst
    · exact (mem_of_mem_maskFrom inLeft).elim (by decide) noComma
    · exact first.noComma inFirst

theorem items_before :
    items (preamble.left ++ (columns.text ++ [' '])) (mask preamble.left ++ (columns.text ++ [' '])) =
      (preamble.left ++ columns.first.text) ::
        (columns.others.map (·.2)).map QualifiedName.text := by
  have areShown : ∀ other ∈ columns.others.map (fun other => (other.1, other.2.text, other.2.text)),
      IsShown other.2.1 other.2.2 := by
    intro other present
    obtain ⟨column, -, rfl⟩ := List.mem_map.mp present
    exact (isItem_column column.2).isShown
  have found := items_shown (preamble.isShown_first columns) areShown (.inl rfl) (.inr rfl)
  rw [ColumnList.text]
  simpa [Function.comp_def] using found

/-- What a list of columns returns behind a preamble. -/
theorem ofClause_before (noPrefix : prefixLength columns.first.text = 0) :
    Projection.ofClause (' ' :: (preamble.before columns.text ++ [' ']))
        (' ' :: (mask (preamble.before columns.text) ++ [' '])) =
      { columns := if preamble.enclosesCount then columns.names.tail else columns.names } := by
  have reads := preamble.reads_selectPreamble columns noPrefix
  have body : ' ' :: (preamble.before columns.text ++ [' ']) =
      (' ' :: preamble.seen) ++ (preamble.left ++ (columns.text ++ [' '])) := by
    rw [preamble.before_eq]
    simp
  have masked : ' ' :: (mask (preamble.before columns.text) ++ [' ']) =
      (' ' :: mask preamble.seen) ++ (mask preamble.left ++ (columns.text ++ [' '])) := by
    rw [preamble.mask_before]
    simp
  have found : (selectPreamble.atStart? (' ' :: (mask (preamble.before columns.text) ++ [' ']))).map
      (·.stop) = some (' ' :: preamble.seen).length := by
    rw [masked, Pattern.atStart?, Place.start, reads.occurrenceAt?]
    simp [length_mask]
  have sameLength : (' ' :: mask preamble.seen).length = (' ' :: preamble.seen).length := by
    simp [length_mask]
  rw [Projection.ofClause, found, Option.getD_some, body, masked, List.drop_left, ← sameLength,
    List.drop_left, preamble.items_before, List.foldl_cons, foldl_add_columns]
  rcases preamble.left_cases with ⟨seen, nothing⟩ | ⟨count, hidden, counted⟩
  · have added := foldl_add_columns [columns.first] {}
    rw [seen, nothing]
    simp only [List.map_cons, List.map_nil, List.foldl_cons, List.foldl_nil, List.nil_append] at added ⊢
    rw [added]
    simp [ColumnList.names]
  · rw [hidden, counted, List.append_assoc, List.singleton_append, add_behindCount]
    simp [ColumnList.names]

end Preamble

/-! ## Queries -/

section

variable (preamble : Preamble) (columns : ColumnList) (table : Identifier)

/-- The clauses of a query. -/
def selectionSections : List Section :=
  [(.select, preamble.before columns.text), (.source, table.text)]

theorem selection_eq :
    selection preamble columns table = sectionsText (selectionSections preamble columns table) := by
  rw [selectionSections, sectionsText_cons_cons, sectionsText_singleton, List.append_assoc]
  rfl

theorem isContent_selection :
    ∀ part ∈ selectionSections preamble columns table, IsContent part.2 := by
  have inner : ∀ word ∈ preambleWords, startsClause word = false := by decide
  exact isContent_listing table (preamble.isPiece_before columns).toIsOutline fun word present =>
    inner word (preamble.words_subset present)

theorem normalize_selection [CommentRemover] :
    normalize (selection preamble columns table) = selection preamble columns table := by
  rw [selection_eq]
  exact normalize_sectionsText (List.cons_ne_nil _ _) (isContent_selection preamble columns table)

/-- The body of the SELECT clause is the list behind the preamble, with a blank at both ends. -/
theorem exists_clause_selection :
    let text := selection preamble columns table
    ∃ clause, clause? (clauses (mask text)) "select" = some clause ∧
      clause.body text = ' ' :: (preamble.before columns.text ++ [' ']) ∧
      clause.body (mask text) = ' ' :: (mask (preamble.before columns.text) ++ [' ']) := by
  dsimp only
  rw [selection_eq]
  exact exists_clause_of_contents (isContent_selection preamble columns table)
    (by simp [selectionSections]) (show bodyOf? .select _ = _ from rfl) rfl

/-- What is extracted from a list of columns behind a preamble. -/
theorem extract_selection [CommentRemover] (noPrefix : prefixLength columns.first.text = 0) :
    let read := Structure.extract (selection preamble columns table)
    read.selectColumns = (if preamble.enclosesCount then columns.names.tail else columns.names) ∧
      read.selectsAllColumns = false ∧ read.selectHasAggregate = false := by
  obtain ⟨clause, found, body, masked⟩ := exists_clause_selection preamble columns table
  have nonempty : selection preamble columns table ≠ [] := List.cons_ne_nil _ _
  rw [extract_of_normal (normalize_selection preamble columns table) nonempty]
  unfold Structure.ofNormal
  dsimp only
  rw [found]
  simp only [body, masked, preamble.ofClause_before columns noPrefix, and_self]

/-- A preamble does not change what a list of columns returns, except that an enclosed number of rows
hides the first column. -/
theorem preamble_irrelevant_unless_enclosed
    [CommentRemover]
    (noDistinct : startsWith "distinct" columns.first.text = false)
    (noAll : startsWith "all" columns.first.text = false) :
    let read := Structure.extract (selection preamble columns table)
    let bare := Structure.extract (selection ⟨none, none⟩ columns table)
    read.selectColumns =
        (if preamble.enclosesCount then bare.selectColumns.tail else bare.selectColumns) ∧
      read.selectsAllColumns = bare.selectsAllColumns ∧
      read.selectHasAggregate = bare.selectHasAggregate := by
  have noPrefix : prefixLength columns.first.text = 0 := by
    rw [prefixLength, noDistinct, noAll]
    rfl
  obtain ⟨columnsRead, allRead, aggregateRead⟩ := extract_selection preamble columns table noPrefix
  obtain ⟨columnsBare, allBare, aggregateBare⟩ := extract_selection ⟨none, none⟩ columns table noPrefix
  dsimp only
  rw [columnsRead, columnsBare, allRead, allBare, aggregateRead, aggregateBare]
  exact ⟨rfl, rfl, rfl⟩

end

/-- The columns behind ON and the digits behind TOP are passed over. -/
theorem preamble_irrelevant_in_listing :
    ∃ preamble columns table,
      selection preamble columns table = "SELECT DISTINCT ON (c) TOP 5 PERCENT t.a,b FROM t" ∧
      startsWith "distinct" columns.first.text = false ∧
      startsWith "all" columns.first.text = false ∧
      let read := Structure.extract (selection preamble columns table)
      let bare := Structure.extract (selection ⟨none, none⟩ columns table)
      read.selectColumns = bare.selectColumns ∧ read.selectsAllColumns = bare.selectsAllColumns ∧
        read.selectHasAggregate = bare.selectHasAggregate := by
  have free : ∀ text ∈ ([['a'], ['b'], ['c'], ['t']] : List Text), ∀ word ∈ Text.words text,
      word ∉ reservedWords := by
    decide
  let a : Identifier := ⟨'a', [], rfl, List.forall_mem_nil _, free _ (by decide)⟩
  let b : Identifier := ⟨'b', [], rfl, List.forall_mem_nil _, free _ (by decide)⟩
  let c : Identifier := ⟨'c', [], rfl, List.forall_mem_nil _, free _ (by decide)⟩
  let t : Identifier := ⟨'t', [], rfl, List.forall_mem_nil _, free _ (by decide)⟩
  let preamble : Preamble := ⟨some (.distinctOn ⟨⟨none, c⟩, []⟩),
    some (.percent ⟨"5", by decide, List.all_eq_true.mp rfl⟩)⟩
  let columns : ColumnList := ⟨⟨some t, a⟩, [(false, ⟨none, b⟩)]⟩
  exact ⟨preamble, columns, t, rfl, rfl, rfl,
    preamble_irrelevant_unless_enclosed preamble columns t rfl rfl⟩

/-- An enclosed number of rows takes the only column of a list with it. -/
theorem enclosed_count_hides_column :
    ∃ preamble columns table, selection preamble columns table = "SELECT TOP (5) a FROM t" ∧
      selection ⟨none, none⟩ columns table = "SELECT a FROM t" ∧
      (Structure.extract "SELECT TOP (5) a FROM t").selectColumns ≠
        (Structure.extract "SELECT a FROM t").selectColumns := by
  have columnFree : ∀ word ∈ Text.words ['a'], word ∉ reservedWords := by decide
  have tableFree : ∀ word ∈ Text.words ['t'], word ∉ reservedWords := by decide
  exact ⟨⟨none, some (.enclosed ⟨"5", by decide, List.all_eq_true.mp rfl⟩)⟩,
    ⟨⟨none, ⟨'a', [], rfl, List.forall_mem_nil _, columnFree⟩⟩, []⟩,
    ⟨'t', [], rfl, List.forall_mem_nil _, tableFree⟩, rfl, rfl, by decide +kernel⟩

end SelectList
end SqlReview
