import SqlReview.Proofs.Query.Normal
import SqlReview.Proofs.SelectList.Items
import SqlReview.Query.Comment

/-!
# What is extracted from a select list

What can stand between SELECT and a list is taken off the list before it is taken apart, and the
letters of DISTINCT and ALL are taken off without regard to what follows them. Main statement: a list
is read back unless its first item starts with these letters, and what is read then.
-/

namespace SqlReview
namespace SelectList

open Query Plain FromClause Pattern

variable {before : Option Char} {index : Nat} {word text rest : Text}

/-! ## Letters at the start of a text -/

theorem startsWith_iff :
    startsWith word text = true ↔ ∃ run rest, text = run ++ rest ∧ run.map Text.foldLetter = word := by
  rw [startsWith, decide_eq_true_eq]
  constructor
  · exact fun folds => ⟨_, _, (List.take_append_drop word.length text).symm, folds⟩
  · rintro ⟨run, rest, rfl, rfl⟩
    rw [List.length_map, List.take_left]

theorem refuses_letters
    (starts : startsWith word text = false) :
    (letters word).Refuses before text := by
  intro run rest equal covered
  have found := startsWith_iff.mpr ⟨run, rest, equal, covers_letters.mp covered⟩
  exact absurd (starts.symm.trans found) Bool.false_ne_true

/-- What ends the first word of a text is no part of a word at its start. -/
theorem startsWith_append
    (isSmallWord : word.IsSmallWord)
    (ends : rest.head?.any Text.isWord = false) :
    startsWith word (text ++ rest) = startsWith word text := by
  rw [Bool.eq_iff_iff, startsWith_iff, startsWith_iff]
  constructor
  · rintro ⟨run, behind, equal, folds⟩
    rcases List.append_eq_append_iff.mp equal with ⟨more, run_eq, rest_eq⟩ | ⟨more, text_eq, -⟩
    · cases more with
      | nil => exact ⟨run, [], by simp [run_eq], folds⟩
      | cons c more =>
          have isWord := isSmallWord.isWord_of_mem folds (show c ∈ run by simp [run_eq])
          rw [rest_eq, List.cons_append, List.head?_cons, Option.any_some, isWord] at ends
          exact absurd ends (by decide)
    · exact ⟨run, more, text_eq, folds⟩
  · rintro ⟨run, behind, rfl, folds⟩
    exact ⟨run, behind ++ rest, List.append_assoc _ _ _, folds⟩

/-- The letters of DISTINCT or ALL are at the start of a text, or none are cut off. -/
theorem prefixLength_cases (text : Text) :
    prefixLength text = 0 ∨ ∃ word ∈ (["distinct", "all"] : List Text), ∃ run rest,
      text = run ++ rest ∧ run.map Text.foldLetter = word ∧ prefixLength text = run.length := by
  have found {word : Text} (listed : word ∈ (["distinct", "all"] : List Text))
      (starts : startsWith word text = true) (cut : prefixLength text = word.length) :
      ∃ word ∈ (["distinct", "all"] : List Text), ∃ run rest,
        text = run ++ rest ∧ run.map Text.foldLetter = word ∧ prefixLength text = run.length := by
    obtain ⟨run, rest, equal, folds⟩ := startsWith_iff.mp starts
    refine ⟨word, listed, run, rest, equal, folds, cut.trans ?_⟩
    rw [← folds, List.length_map]
  cases distinct : startsWith "distinct" text with
  | true => exact .inr (found (.head _) distinct (by rw [prefixLength, distinct]; rfl))
  | false =>
      cases all : startsWith "all" text with
      | true => exact .inr (found (.tail _ (.head _)) all (by rw [prefixLength, distinct, all]; rfl))
      | false => exact .inl (by rw [prefixLength, distinct, all]; rfl)

theorem prefixLength_append (ends : rest.head?.any Text.isWord = false) :
    prefixLength (text ++ rest) = prefixLength text := by
  rw [prefixLength, startsWith_append (by decide) ends, startsWith_append (by decide) ends]
  rfl

/-! ## What is taken off a list -/

theorem refuses_distinctOn
    (noBlank : ∀ run rest, text = run ++ rest → run.map Text.foldLetter = "distinct" →
      rest.head?.any Text.isBlank = false) :
    distinctOn.Refuses before text := by
  rintro _ others rfl covered
  obtain ⟨run, _, rfl, folds, covered⟩ := covers_letters_cons.mp covered
  obtain ⟨gap, behind, rfl, isGap, -⟩ := covers_all_cons.mp covered
  obtain ⟨nonempty, blank⟩ := covers_someBlanks.mp isGap
  obtain ⟨c, gap, rfl⟩ := List.exists_cons_of_ne_nil nonempty
  have isBlank : Text.isBlank c = false := noBlank run _ (List.append_assoc _ _ _) folds
  rw [blank c (.head _)] at isBlank
  exact absurd isBlank (by decide)

/-- The letters of DISTINCT or ALL are read off the start of a text, unless white space follows
them. -/
theorem reads_duplicatesPart
    (noBlank : (text.drop (prefixLength text)).head?.any Text.isBlank = false) :
    duplicatesPart.optional.Reads before index (text.take (prefixLength text))
      (text.drop (prefixLength text)) [] := by
  have length {run word : Text} (folds : run.map Text.foldLetter = word) :
      run.length = word.length := by
    rw [← folds, List.length_map]
  cases distinct : startsWith "distinct" text with
  | true =>
      obtain ⟨run, rest, rfl, folds⟩ := startsWith_iff.mp distinct
      have cut : prefixLength (run ++ rest) = run.length := by
        rw [prefixLength, if_pos distinct, length folds]
        rfl
      rw [cut, List.drop_left] at noBlank
      rw [cut, List.take_left, List.drop_left]
      refine (reads_letters folds).alt_left.alt_right (refuses_distinctOn ?_) |>.optional
      intro start others equal startFolds
      have same := List.append_inj equal ((length folds).trans (length startFolds).symm)
      rwa [← same.2]
  | false =>
      have noDistinct : distinctOn.Refuses before text := refuses_distinctOn fun run rest equal folds =>
        absurd (distinct.symm.trans (startsWith_iff.mpr ⟨run, rest, equal, folds⟩))
          Bool.false_ne_true
      cases all : startsWith "all" text with
      | true =>
          obtain ⟨run, rest, rfl, folds⟩ := startsWith_iff.mp all
          have cut : prefixLength (run ++ rest) = run.length := by
            rw [prefixLength, distinct, if_neg Bool.false_ne_true, if_pos all, length folds]
            rfl
          rw [cut, List.take_left, List.drop_left]
          exact (((reads_letters folds).alt_right (refuses_letters distinct)).alt_right
            noDistinct).optional
      | false =>
          have cut : prefixLength text = 0 := by
            rw [prefixLength, distinct, all]
            rfl
          rw [cut]
          exact reads_optional_nothing
            (noDistinct.alt ((refuses_letters distinct).alt (refuses_letters all)))

/-- Whether a character can follow TOP and white space. -/
def startsNumber (c : Char) : Bool :=
  c = '(' || Text.isDecimalDigit c

/-- Whether a text can stand behind the start of an item. -/
structure EndsStem (tail : Text) : Prop where
  /-- The text does not continue a word. -/
  ends : tail.head?.any Text.isWord = false
  /-- White space at its start is not in front of a number. -/
  noNumber : tail.head?.any Text.isBlank = true →
    (tail.dropWhile Text.isBlank).head?.any startsNumber = false

/-- A number starts with a digit, white space aside. -/
theorem isDecimalDigit_of_covers
    {run : Text}
    {others : List Pattern}
    (covered : (all (.blanks :: .oneOrMore Text.isDecimalDigit :: others)).Covers before run rest) :
    ((run ++ rest).dropWhile Text.isBlank).head?.any Text.isDecimalDigit = true := by
  obtain ⟨blanks, _, rfl, blank, covered⟩ := covers_blanks_cons.mp covered
  obtain ⟨_, more, rfl, ⟨_, digits, rfl, ⟨d, rfl, isDigit⟩, -⟩, -⟩ := covers_all_cons.mp covered
  have noBlank := Text.isBlank_of_isDecimalDigit isDigit
  rw [List.append_assoc, List.dropWhile_append_of_pos blank]
  simp [noBlank, isDigit]

/-- No number of rows is read off an item, whatever it starts with. -/
theorem refuses_rowsPart
    {stem tail : Text}
    (noBlank : ∀ c ∈ stem, Text.isBlank c = false)
    (endsStem : EndsStem tail) :
    rowsPart.Refuses before (stem ++ tail) := by
  rintro _ others equal covered
  obtain ⟨top, _, rfl, folds, covered⟩ := covers_letters_cons.mp covered
  obtain ⟨gap, behind, rfl, isGap, covered⟩ := covers_all_cons.mp covered
  obtain ⟨nonempty, blank⟩ := covers_someBlanks.mp isGap
  obtain ⟨c, gap, rfl⟩ := List.exists_cons_of_ne_nil nonempty
  -- An opening parenthesis or a digit is next, white space aside.
  have isNumber : ((behind ++ others).dropWhile Text.isBlank).head?.any startsNumber = true := by
    obtain ⟨opening, _, rfl, isOpening, covered⟩ := covers_all_cons.mp covered
    rcases isOpening with isOpen | nothing
    · obtain rfl := covers_char.mp isOpen
      rfl
    · obtain rfl : opening = [] := nothing
      have found := isDecimalDigit_of_covers covered
      rw [Option.any_eq_true] at found ⊢
      obtain ⟨d, head, isDigit⟩ := found
      exact ⟨d, head, by rw [startsNumber, isDigit, Bool.or_true]⟩
  have split : stem ++ tail = top ++ (c :: gap ++ (behind ++ others)) := by simpa using equal
  -- The white space starts where the first word of the item ends.
  have isTail : tail = c :: gap ++ (behind ++ others) := by
    rcases List.append_eq_append_iff.mp split with ⟨more, rfl, tailEq⟩ | ⟨more, rfl, gapEq⟩
    · cases more with
      | nil => exact tailEq
      | cons d more =>
          have ends := endsStem.ends
          have isWord := Text.IsSmallWord.isWord_of_mem (show Text.IsSmallWord "top" by decide) folds
            (show d ∈ stem ++ d :: more by simp)
          rw [tailEq, List.cons_append, List.head?_cons, Option.any_some, isWord] at ends
          exact absurd ends (by decide)
    · cases more with
      | nil => exact gapEq.symm
      | cons d more =>
          obtain ⟨rfl, -⟩ := List.cons.inj gapEq
          have inStem := noBlank c (by simp)
          rw [blank c (.head _)] at inStem
          exact absurd inStem (by decide)
  have noNumber := endsStem.noNumber (by rw [isTail]; exact blank c (.head _))
  rw [isTail, List.dropWhile_append_of_pos blank, isNumber] at noNumber
  exact absurd noNumber (by decide)

/-- Only the letters of DISTINCT or ALL are taken off a list, and the white space in front of
them. -/
theorem reads_selectPreamble
    (noBlank : text.head?.any Text.isBlank = false)
    (noBlankBehind : (text.drop (prefixLength text)).head?.any Text.isBlank = false)
    (noRows : ∀ before, rowsPart.Refuses before (text.drop (prefixLength text))) :
    selectPreamble.Reads none 0 (' ' :: text.take (prefixLength text))
      (text.drop (prefixLength text)) [] := by
  have duplicates (before : Option Char) (index : Nat) :
      duplicatesPart.optional.Reads before index (text.take (prefixLength text))
        (text.drop (prefixLength text)) [] :=
    reads_duplicatesPart noBlankBehind
  have split := List.take_append_drop (prefixLength text) text
  generalize text.take (prefixLength text) = front at *
  generalize text.drop (prefixLength text) = back at *
  have blank : blanks.Reads none 0 [' '] (front ++ back) [] :=
    reads_blanks (List.forall_mem_singleton.mpr (by decide)) (by rwa [split])
  have noBlanks (before : Option Char) (index : Nat) : blanks.Reads before index [] back [] :=
    reads_blanks (List.forall_mem_nil _) noBlankBehind
  have noNumber (before : Option Char) (index : Nat) :
      (all [rowsPart.optional]).Reads before index [] back [] :=
    (reads_optional_nothing (noRows before)).last
  have behind (before : Option Char) (index : Nat) :
      (blanks.seq (all [rowsPart.optional])).Reads before index [] back [] :=
    Reads.seq (noBlanks _ _) (noNumber _ _)
  have treated (before : Option Char) (index : Nat) :
      (duplicatesPart.optional.seq (blanks.seq (all [rowsPart.optional]))).Reads before index front
        back [] := by
    have whole := Reads.seq (duplicates before index) (behind _ _)
    rwa [List.append_nil] at whole
  have start : textStart.Reads none 0 [] (' ' :: front ++ back) [] := reads_textStart
  exact start.seq (Reads.seq blank (treated _ _))

/-! ## The first item -/

namespace Entry

variable (entry : Entry)

/-- What stands behind an item in a list does not continue its start. -/
theorem endsStem_tail
    {more : Text}
    (isMore : more = [' '] ∨ ∃ rest, more = ',' :: rest) :
    EndsStem (mask entry.tail ++ more) := by
  have sign {c : Char} {rest : Text} (isOther : Text.isWord c = false ∧ Text.isBlank c = false) :
      EndsStem (c :: rest) :=
    ⟨isOther.1, fun blank => absurd (isOther.2.symm.trans blank) Bool.false_ne_true⟩
  have atMore : EndsStem more := by
    rcases isMore with rfl | ⟨rest, rfl⟩
    · exact ⟨by decide, fun _ => by decide⟩
    · exact sign (by decide)
  have behindBlank {c : Char} {rest : Text}
      (isOther : Text.isBlank c = false ∧ startsNumber c = false) : EndsStem (' ' :: c :: rest) := by
    refine ⟨show Text.isWord ' ' = false by decide, fun _ => ?_⟩
    rw [List.dropWhile_cons_of_pos (by decide), List.dropWhile_cons_of_neg (by simp [isOther.1])]
    exact isOther.2
  cases entry with
  | column item =>
      have uses : Uses itemSigns (column item).tail := by
        have uses : Uses itemSigns (column item).text := item.uses
        rw [Entry.text_eq, Uses, List.all_append, Bool.and_eq_true] at uses
        exact uses.2
      rw [mask_of_uses uses (by decide)]
      obtain ⟨⟨qualifier, name⟩, aliasName⟩ := item
      rcases qualifier with _ | qualifier
      · rcases aliasName with _ | ⟨usesAs, name⟩
        · exact atMore
        · cases usesAs with
          | false =>
              have starts {c : Char} (starts : startsPlainIdentifier c = true) :
                  Text.isBlank c = false ∧ startsNumber c = false := by
                have ascii := ascii_of_isNameChar (show isNameChar c = true by
                  rw [isNameChar, starts, Bool.true_or])
                revert starts
                apply Text.forall_ascii _ c ascii
                decide
              exact behindBlank (starts name.starts)
          | true => exact behindBlank (by decide)
      · exact sign (by decide)
  | star table =>
      cases table with
      | none => exact atMore
      | some table => exact sign (by decide)
  | aggregate function argument => exact sign (by decide)

theorem isWord_tail :
    entry.tail.head?.any Text.isWord = false := by
  cases entry with
  | column item =>
      obtain ⟨⟨qualifier, name⟩, aliasName⟩ := item
      rcases qualifier with _ | qualifier
      · rcases aliasName with _ | ⟨usesAs, name⟩
        · rfl
        · cases usesAs <;> rfl
      · rfl
  | star table => cases table <;> rfl
  | aggregate function argument => rfl

theorem prefixLength_text :
    prefixLength entry.text = prefixLength entry.stem := by
  rw [entry.text_eq, prefixLength_append entry.isWord_tail]

end Entry

theorem prefixLength_identifier (identifier : Identifier) :
    prefixLength identifier.text < identifier.text.length := by
  rcases prefixLength_cases identifier.text with nothing | ⟨word, listed, run, rest, equal, folds, cut⟩
  · rw [nothing]
    exact Nat.succ_pos _
  · have isWord : ∀ word ∈ (["distinct", "all"] : List Text),
        Text.IsSmallWord word ∧ word ∈ reservedWords := by
      decide
    have nonempty : rest ≠ [] := by
      rintro rfl
      rw [List.append_nil] at equal
      rw [← equal] at folds
      exact identifier.map_foldLetter_ne (isWord word listed).1 (isWord word listed).2 folds
    rw [cut, equal, List.length_append]
    exact Nat.lt_add_of_pos_right (List.length_pos_iff.mpr nonempty)

theorem prefixLength_function (function : AggregateName) :
    prefixLength function.text = 0 := by
  rcases prefixLength_cases function.text with nothing | ⟨word, listed, run, rest, equal, folds, -⟩
  · exact nothing
  · have none : ∀ name ∈ aggregateNames, ∀ word ∈ (["distinct", "all"] : List Text),
        ¬word <+: name := by
      decide
    refine absurd ⟨rest.map Text.foldLetter, ?_⟩ (none _ function.isAggregate word listed)
    rw [equal, List.map_append, folds]

namespace Entry

variable (entry : Entry)

/-- Something is left of the start of an item. -/
theorem prefixLength_lt :
    prefixLength entry.text < entry.stem.length := by
  rw [entry.prefixLength_text]
  cases entry with
  | column item => exact prefixLength_identifier item.table.front
  | star table =>
      cases table with
      | none => decide
      | some table => exact prefixLength_identifier table
  | aggregate function argument =>
      rw [show (aggregate function argument).stem = function.text from rfl, prefixLength_function]
      exact List.length_pos_iff.mpr function.text_ne_nil

/-- Nothing is taken off an aggregate. -/
theorem prefixLength_aggregate (calls : entry.isAggregate = true) :
    prefixLength entry.text = 0 := by
  rw [entry.prefixLength_text]
  cases entry with
  | column item => exact absurd calls Bool.false_ne_true
  | star table => exact absurd calls Bool.false_ne_true
  | aggregate function argument => exact prefixLength_function function

end Entry

/-! ## Lists -/

namespace Entries

variable (entries : Entries) (table : Identifier)

/-- What stands behind the first item of a list. -/
theorem exists_more :
    ∃ more, mask entries.text ++ [' '] = mask entries.first.text ++ more ∧
      (more = [' '] ∨ ∃ rest, more = ',' :: rest) := by
  rw [entries.mask_text, List.append_assoc]
  refine ⟨_, rfl, ?_⟩
  cases entries.others with
  | nil => exact .inl rfl
  | cons entry others => exact .inr ⟨_, rfl⟩

/-- The letters of DISTINCT or ALL are taken off the top level of a list. -/
theorem atStart?_selectPreamble :
    (selectPreamble.atStart? (' ' :: (mask entries.text ++ [' ']))).map (·.stop) =
      some (prefixLength entries.first.text + 1) := by
  obtain ⟨more, shown, isMore⟩ := entries.exists_more
  have endsStem := entries.first.endsStem_tail isMore
  have inside := entries.first.prefixLength_lt
  rw [entries.first.mask_text, List.append_assoc] at shown
  have cut : prefixLength (mask entries.text ++ [' ']) = prefixLength entries.first.text := by
    rw [shown, prefixLength_append endsStem.ends, entries.first.prefixLength_text]
  have left {count : Nat} (inside : count < entries.first.stem.length) :
      (mask entries.text ++ [' ']).drop count =
        entries.first.stem.drop count ++ (mask entries.first.tail ++ more) := by
    rw [shown, List.drop_append_of_le_length (Nat.le_of_lt inside)]
  have noBlank {count : Nat} (inside : count < entries.first.stem.length) :
      ((mask entries.text ++ [' ']).drop count).head?.any Text.isBlank = false := by
    obtain ⟨c, others, split⟩ := List.exists_cons_of_ne_nil
      (show entries.first.stem.drop count ≠ [] by simpa using inside)
    rw [left inside, split]
    exact entries.first.noBlank_of_mem_stem (List.mem_of_mem_drop (by rw [split]; exact .head _))
  have noRows (before : Option Char) : rowsPart.Refuses before
      ((mask entries.text ++ [' ']).drop (prefixLength entries.first.text)) := by
    rw [left inside]
    exact refuses_rowsPart (fun c present =>
      entries.first.noBlank_of_mem_stem (List.mem_of_mem_drop present)) endsStem
  have noBlankFirst : (mask entries.text ++ [' ']).head?.any Text.isBlank = false :=
    noBlank (Nat.zero_lt_of_lt inside)
  have reads := reads_selectPreamble noBlankFirst (cut.symm ▸ noBlank inside) (cut.symm ▸ noRows)
  have found := reads.occurrenceAt?
  rw [List.cons_append, List.take_append_drop] at found
  have short : prefixLength entries.first.text ≤ (mask entries.text ++ [' ']).length := by
    rw [shown, List.length_append]
    omega
  rw [Pattern.atStart?, Place.start, found, cut, Option.map_some, List.length_cons, List.length_take,
    Nat.min_eq_left short, Nat.zero_add]

/-- What a select list returns: what its items do, the first one without the letters that are taken off
it. -/
theorem ofClause_text :
    Projection.ofClause (' ' :: (entries.text ++ [' '])) (' ' :: (mask entries.text ++ [' '])) =
      { columns := (entries.first.columnFrom (prefixLength entries.first.text)).toList ++
          entries.others.filterMap Entry.column?
        hasAggregate := entries.toList.any Entry.isAggregate
        selectsAll := entries.first.isStarFrom (prefixLength entries.first.text) ||
          entries.others.any Entry.isStar } := by
  have inside := entries.first.prefixLength_lt
  rw [Projection.ofClause, entries.atStart?_selectPreamble, Option.getD_some, List.drop_succ_cons,
    List.drop_succ_cons, entries.items_text inside, List.foldl_cons,
    entries.first.add_drop {} inside entries.first.prefixLength_aggregate, Entry.foldl_add]
  simp [toList]

/-- A select list is read back unless its first item starts with the letters of DISTINCT or ALL: then
it is read without them. -/
theorem read_back_unless_cut [CommentRemover] :
    (Structure.extract (queryText entries table)).selectColumns =
        (if prefixLength entries.first.text = 0 then entries.columns
        else (entries.first.columnFrom (prefixLength entries.first.text)).toList ++
          entries.others.filterMap Entry.column?) ∧
      (Structure.extract (queryText entries table)).selectsAllColumns =
        (if prefixLength entries.first.text = 0 then entries.toList.any Entry.isStar
        else entries.first.isStarFrom (prefixLength entries.first.text) ||
          entries.others.any Entry.isStar) ∧
      (Structure.extract (queryText entries table)).selectHasAggregate =
        entries.toList.any Entry.isAggregate := by
  obtain ⟨clause, found, body, masked⟩ := exists_clause_queryText entries table
  have nonempty : queryText entries table ≠ [] := List.cons_ne_nil _ _
  have returned := entries.ofClause_text
  rw [extract_of_normal (normalize_queryText entries table) nonempty]
  unfold Structure.ofNormal
  dsimp only
  rw [found]
  simp only [body, masked, returned]
  refine ⟨?_, ?_, trivial⟩
  · split
    next whole =>
        rw [whole, Entry.columnFrom_zero, columns, toList, List.filterMap_cons]
        cases entries.first.column? <;> rfl
    · rfl
  · split
    next whole => rw [whole, Entry.isStarFrom_zero, toList, List.any_cons]
    · rfl

/-- A list that starts with an aggregate is read back as it is. -/
theorem read_back_of_aggregate :
    ∃ entries table, queryText entries table = "SELECT Count(a), t.*, b c FROM t" ∧
      (Structure.extract (queryText entries table)).selectColumns = [['b']] ∧
      (Structure.extract (queryText entries table)).selectsAllColumns = true ∧
      (Structure.extract (queryText entries table)).selectHasAggregate = true := by
  let count : AggregateName := ⟨"Count", List.all_eq_true.mp rfl, by decide⟩
  let t : Identifier := .ofChar 't' rfl (by decide)
  let aliased : Item :=
    ⟨⟨none, .ofChar 'b' rfl (by decide)⟩, some ⟨false, .ofChar 'c' rfl (by decide)⟩⟩
  let entries : Entries :=
    ⟨.aggregate count ⟨none, .ofChar 'a' rfl (by decide)⟩, [.star (some t), .column aliased]⟩
  obtain ⟨columns, everything, aggregate⟩ := entries.read_back_unless_cut t
  exact ⟨entries, t, by decide, columns, everything, aggregate⟩

end Entries

/-- The column of the list is ALLOWED, and OWED is read. -/
theorem allowed_read_as_owed :
    ∃ entries table, queryText entries table = "SELECT allowed FROM t" ∧
      entries.columns = ["allowed".toList] ∧
      (Structure.extract (queryText entries table)).selectColumns = ["owed".toList] := by
  have others : ∀ c ∈ "llowed".toList, isIdentifierChar c = true :=
    List.all_iff_forall_prop.mp (by decide)
  have columnFree : ∀ word ∈ Text.words ('a' :: "llowed".toList), word ∉ reservedWords := by decide
  have tableFree : ∀ word ∈ Text.words ['t'], word ∉ reservedWords := by decide
  exact ⟨⟨.column ⟨⟨none, ⟨'a', "llowed", rfl, others, columnFree⟩⟩, none⟩, []⟩,
    ⟨'t', [], rfl, List.forall_mem_nil _, tableFree⟩, rfl, rfl,
    show (Structure.extract "SELECT allowed FROM t").selectColumns = _ by decide +kernel⟩

end SelectList
end SqlReview
