import SqlReview.Proofs.Heuristic.Case
import SqlReview.Proofs.Heuristic.Words
import SqlReview.Proofs.Pattern.Reading
import SqlReview.Proofs.Plain.Pieces

/-!
# The suggested index

The index that a quick review suggests is made of the word behind the first FROM and the word behind
the first WHERE, and both keywords may end longer words. So a lookup, a query that filters a table by
one column, gets an index on its own table and column unless a word in front of a keyword ends in the
letters of one.
-/

namespace SqlReview
namespace Heuristic

open Pattern Plain

variable {keyword token word rest : Text} {before : Option Char} {index : Nat}

/-! ## Words behind keywords -/

/-- Whether a word ends in the letters of a keyword, case ignored. -/
def endsIn (keyword word : Text) : Bool :=
  keyword.isSuffixOf (word.map Text.foldLetter)

/-- What is left of a word where a keyword is found in it is the keyword, and white space follows. -/
theorem of_covers_wordBehind
    (isSmallWord : Text.IsSmallWord keyword)
    {run others : Text}
    (isWordRun : ∀ c ∈ token, Text.isWord c = true)
    (outside : rest.head?.any Text.isWord = false)
    (equal : token ++ rest = run ++ others)
    (covered : (wordBehind keyword).Covers before run others) :
    token.map Text.foldLetter = keyword ∧ rest.head?.any Text.isBlank = true := by
  obtain ⟨letters, _, rfl, folds, covered⟩ := covers_letters_cons.mp covered
  obtain ⟨blanks, found, rfl, isBlanks, -⟩ := covers_all_cons.mp covered
  obtain ⟨nonempty, blank⟩ := covers_someBlanks.mp isBlanks
  rw [List.append_assoc, List.append_assoc] at equal
  obtain rfl : token = letters := whole_unique equal isWordRun
    (fun c present => isSmallWord.isWord_of_mem folds present) outside
    ((Text.isWord_of_blanks nonempty blank).2 _)
  refine ⟨folds, ?_⟩
  obtain ⟨c, blanks, rfl⟩ := List.exists_cons_of_ne_nil nonempty
  rw [List.append_cancel_left equal]
  exact blank c (.head _)

/-- A word that does not end in a keyword, or has no white space behind it, is passed by. -/
theorem isQuiet_word
    (isSmallWord : Text.IsSmallWord keyword)
    (isWordRun : ∀ c ∈ token, Text.isWord c = true)
    (outside : rest.head?.any Text.isWord = false)
    (clear : endsIn keyword token = false ∨ rest.head?.any Text.isBlank = false) :
    (wordBehind keyword).IsQuiet before token rest := by
  rintro lead c tail rfl run others equal covered
  obtain ⟨folds, blank⟩ := of_covers_wordBehind isSmallWord
    (fun d present => isWordRun d (List.mem_append_right lead present)) outside equal covered
  rcases clear with noKeyword | noBlank
  · refine absurd ?_ (Bool.eq_false_iff.mp noKeyword)
    rw [endsIn, List.isSuffixOf_iff_suffix, ← folds, List.map_append]
    exact List.suffix_append _ _
  · rw [noBlank] at blank
    contradiction

/-- What stands in front of a keyword in the same word is passed by. -/
theorem isQuiet_front
    (isSmallWord : Text.IsSmallWord keyword)
    {front letters : Text}
    (folds : letters.map Text.foldLetter = keyword)
    (isWordRun : ∀ c ∈ front ++ letters, Text.isWord c = true)
    (outside : rest.head?.any Text.isWord = false) :
    (wordBehind keyword).IsQuiet before front (letters ++ rest) := by
  rintro lead c tail rfl run others equal covered
  have isWordBehind : ∀ d ∈ c :: tail ++ letters, Text.isWord d = true := fun d present =>
    isWordRun d (by rw [List.append_assoc]; exact List.mem_append_right lead present)
  rw [← List.append_assoc] at equal
  obtain ⟨foldsToo, -⟩ := of_covers_wordBehind isSmallWord isWordBehind outside equal covered
  have lengths := congrArg List.length (foldsToo.trans folds.symm)
  simp only [List.length_map, List.length_append, List.length_cons] at lengths
  omega

/-- Characters that belong to no word are passed by. -/
theorem isQuiet_signs
    (isSmallWord : Text.IsSmallWord keyword)
    {signs : Text}
    (noWord : ∀ c ∈ signs, Text.isWord c = false) :
    (wordBehind keyword).IsQuiet before signs rest := by
  rintro lead c tail rfl run others equal covered
  have noWordHere : Text.isWord c = false := noWord c (by simp)
  have nothing : ∀ d ∈ ([] : Text), Text.isWord d = true := by simp
  obtain ⟨folds, -⟩ := of_covers_wordBehind isSmallWord nothing
    (show (c :: tail ++ rest).head?.any Text.isWord = false from noWordHere) equal covered
  exact isSmallWord.ne_nil folds rfl

/-- A word behind a keyword is found and recorded. -/
theorem exists_occurrenceAt?_wordBehind
    {letters : Text}
    (folds : letters.map Text.foldLetter = keyword)
    (nonempty : word ≠ [])
    (isWordRun : ∀ c ∈ word, Text.isWord c = true)
    (outside : rest.head?.any Text.isWord = false) :
    ∃ found, (wordBehind keyword).occurrenceAt? ⟨before, index, letters ++ ' ' :: (word ++ rest)⟩ =
      some found ∧ found.groupText 1 = word := by
  obtain ⟨c, others, rfl⟩ := List.exists_cons_of_ne_nil nonempty
  have noBlank : (c :: others ++ rest).head?.any Text.isBlank = false := by
    refine Bool.eq_false_iff.mpr fun blank => ?_
    have isWord := isWordRun c (.head _)
    rw [Text.isWord_of_isBlank blank] at isWord
    contradiction
  have readsFirst (place : Nat) : (Pattern.one Text.isWord).Reads (some ' ') place [c]
      (others ++ rest) [] := reads_one (isWordRun c (.head _))
  have readsWord (place : Nat) : (oneOrMore Text.isWord).Reads (some ' ') place (c :: others) rest
      [] :=
    (readsFirst place).seq (reads_many (fun d present => isWordRun d (.tail _ present)) outside)
  have readsBehind (place : Nat) : (all [someBlanks, .group 1 (oneOrMore Text.isWord)]).Reads
      (Text.lastOr before letters) place ([' '] ++ (c :: others)) rest
      [⟨1, place + 1, c :: others⟩] :=
    (reads_blank noBlank).seq ((readsWord (place + 1)).group 1).last
  have reads : (wordBehind keyword).Reads before index (letters ++ ([' '] ++ (c :: others))) rest
      [⟨1, index + letters.length + 1, c :: others⟩] :=
    (reads_letters folds).seq (readsBehind (index + letters.length))
  have found := reads.occurrenceAt?
  rw [List.append_assoc, List.append_assoc] at found
  exact ⟨_, found, rfl⟩

/-- Behind a word that ends in a keyword, the next word is found. -/
theorem exists_searchFrom_of_endsIn
    (isSmallWord : Text.IsSmallWord keyword)
    (isTokenRun : ∀ c ∈ token, Text.isWord c = true)
    (ends : endsIn keyword token = true)
    (nonempty : word ≠ [])
    (isWordRun : ∀ c ∈ word, Text.isWord c = true)
    (outside : rest.head?.any Text.isWord = false) :
    ∃ found, (wordBehind keyword).searchFrom before index (token ++ ' ' :: (word ++ rest)) =
      some found ∧ found.groupText 1 = word := by
  obtain ⟨start, equal⟩ := List.isSuffixOf_iff_suffix.mp ends
  obtain ⟨front, letters, rfl, -, folds⟩ := List.map_eq_append_iff.mp equal.symm
  obtain ⟨found, here, recorded⟩ := exists_occurrenceAt?_wordBehind folds nonempty isWordRun outside
  refine ⟨found, ?_, recorded⟩
  rw [List.append_assoc, searchFrom_quiet (isQuiet_front isSmallWord folds isTokenRun rfl)]
  exact searchFrom_of_occurrenceAt? here

/-! ## The statement -/

/-- The statement that creates an index on a column of a table, named after both. -/
def createIndex (table column : Text) : Text :=
  "CREATE INDEX idx_".toList ++ table ++ "_".toList ++ column ++ "\nON ".toList ++ table ++
    "(".toList ++ column ++ ");".toList

theorem suggestIndex_eq (query : Text) :
    suggestIndex query =
      createIndex (firstBehind "from" "your_table" query) (firstBehind "where" "status" query) := rfl

/-! ## Rows of words -/

/-- A blank, perhaps with a comma in front of it. -/
def separator (hasComma : Bool) : Text :=
  if hasComma then ", " else " "

/-- A row of words, each with whether a comma follows it, and with blanks between them. -/
def rowText (row : List (Text × Bool)) : Text :=
  row.flatMap fun entry => entry.1 ++ separator entry.2

/-- The word of a row that stands behind the first one that ends in a keyword. No comma is between
the two. -/
def nextBehind (keyword : Text) : List (Text × Bool) → Option Text
  | first :: second :: others =>
    if !first.2 && endsIn keyword first.1 then some second.1
    else nextBehind keyword (second :: others)
  | _ => none

section Rows

variable {row : List (Text × Bool)}

theorem rowText_cons (entry : Text × Bool) (row : List (Text × Bool)) :
    rowText (entry :: row) = entry.1 ++ (separator entry.2 ++ rowText row) := by
  simp [rowText]

@[simp] theorem rowText_nil : rowText [] = [] := rfl

theorem rowText_append (first second : List (Text × Bool)) :
    rowText (first ++ second) = rowText first ++ rowText second :=
  List.flatMap_append

theorem isWord_separator
    {hasComma : Bool}
    {c : Char}
    (present : c ∈ separator hasComma) :
    Text.isWord c = false := by
  revert c
  cases hasComma <;> decide

theorem isWord_head?_separator (hasComma : Bool) (rest : Text) :
    (separator hasComma ++ rest).head?.any Text.isWord = false := by
  cases hasComma <;> rfl

/-- Whether a text is a word of plain characters. -/
def IsPlainWord (word : Text) : Prop :=
  word ≠ [] ∧ ∀ c ∈ word, isNameChar c = true

instance (word : Text) : Decidable (IsPlainWord word) :=
  inferInstanceAs (Decidable (_ ∧ _))

theorem IsPlainWord.isWord_of_mem
    (isPlainWord : IsPlainWord word)
    {c : Char}
    (present : c ∈ word) :
    Text.isWord c = true :=
  (of_isNameChar (isPlainWord.2 c present)).1

theorem IsPlainWord.words_eq (isPlainWord : IsPlainWord word) :
    Text.words word = [word.map Text.foldLetter] :=
  Text.words_of_isWord isPlainWord.1 fun _ => isPlainWord.isWord_of_mem

/-- The words of a row are those of the text. -/
theorem words_rowText
    (each : ∀ entry ∈ row, IsPlainWord entry.1)
    (rest : Text) :
    Text.words (rowText row ++ rest) =
      row.map (·.1.map Text.foldLetter) ++ Text.words rest := by
  induction row with
  | nil => rfl
  | cons entry row inductionHypothesis =>
      have isPlainWord := each entry (.head _)
      rw [rowText_cons, List.append_assoc, List.append_assoc,
        Text.words_append_of_head _ (isWord_head?_separator entry.2 _), isPlainWord.words_eq,
        Text.words_append_of_last ?_, Text.words_of_noWord fun _ => isWord_separator,
        inductionHypothesis fun other present => each other (.tail _ present)]
      · rfl
      · cases entry.2 <;> decide

/-- The search for a word behind a keyword reads along a row. -/
theorem exists_searchFrom_rowText
    (isSmallWord : Text.IsSmallWord keyword)
    (each : ∀ entry ∈ row, IsPlainWord entry.1)
    (next : nextBehind keyword row = some word)
    (rest : Text) :
    ∃ found, (wordBehind keyword).searchFrom before index (rowText row ++ rest) = some found ∧
      found.groupText 1 = word := by
  induction row generalizing before index with
  | nil => simp [nextBehind] at next
  | cons first row inductionHypothesis =>
      cases row with
      | nil => simp [nextBehind] at next
      | cons second others =>
          have isPlainWord := each first (.head _)
          rw [nextBehind] at next
          rw [rowText_cons, List.append_assoc, List.append_assoc]
          split at next
          · rename_i hit
            rw [Bool.and_eq_true, Bool.not_eq_true'] at hit
            obtain rfl := Option.some.inj next
            have secondIsPlain := each second (.tail _ (.head _))
            rw [hit.1, rowText_cons, List.append_assoc, List.append_assoc]
            exact exists_searchFrom_of_endsIn isSmallWord (fun _ => isPlainWord.isWord_of_mem) hit.2
              secondIsPlain.1 (fun _ => secondIsPlain.isWord_of_mem) (isWord_head?_separator _ _)
          · rename_i passed
            have clear : endsIn keyword first.1 = false ∨
                (separator first.2 ++ (rowText (second :: others) ++ rest)).head?.any
                  Text.isBlank = false := by
              cases hasComma : first.2 with
              | false => exact .inl (by simpa [hasComma] using passed)
              | true => exact .inr rfl
            rw [searchFrom_quiet (isQuiet_word isSmallWord (fun _ => isPlainWord.isWord_of_mem)
              (isWord_head?_separator first.2 _) clear),
              searchFrom_quiet (isQuiet_signs isSmallWord fun _ => isWord_separator)]
            exact inductionHypothesis (fun entry present => each entry (.tail _ present)) next

/-- Words that are passed by do not count. -/
theorem nextBehind_cons
    {first : Text × Bool}
    (passed : (!first.2 && endsIn keyword first.1) = false)
    (row : List (Text × Bool)) :
    nextBehind keyword (first :: row) = nextBehind keyword row := by
  cases row with
  | nil => rfl
  | cons second others => simp [nextBehind, passed]

theorem nextBehind_commas
    (words : List Text)
    (row : List (Text × Bool)) :
    nextBehind keyword (words.map (·, true) ++ row) = nextBehind keyword row := by
  induction words with
  | nil => rfl
  | cons first words inductionHypothesis =>
      rw [List.map_cons, List.cons_append, nextBehind_cons (by rfl), inductionHypothesis]

/-- A list with commas is a row whose last word has nothing behind it. -/
theorem join_eq_rowText
    (front : List Text)
    (last : Text) :
    Text.join ", " (front ++ [last]) = rowText (front.map (·, true)) ++ last := by
  induction front with
  | nil => simp [Text.join, rowText]
  | cons first front inductionHypothesis =>
      obtain ⟨second, others, equal⟩ : ∃ second others, front ++ [last] = second :: others :=
        List.exists_cons_of_ne_nil (List.append_ne_nil_of_right_ne_nil front (by simp))
      rw [equal] at inductionHypothesis
      rw [List.cons_append, equal, Text.join, List.intercalate_cons_cons, ← Text.join,
        inductionHypothesis, List.map_cons, rowText_cons]
      simp [separator]

end Rows

/-! ## Lookups -/

/-- The name of a table or a column. -/
structure Identifier where
  /-- Its first character. -/
  first : Char
  /-- What follows the first character. -/
  others : Text
  /-- It starts with a letter or an underscore. -/
  starts : Query.startsPlainIdentifier first = true
  /-- It has letters, digits and underscores. -/
  continues : ∀ c ∈ others, isNameChar c = true
  /-- It is not the word INDEX, which counts as a hint. -/
  isFree : (first :: others).map Text.foldLetter ≠ "index".toList

def Identifier.text (identifier : Identifier) : Text :=
  identifier.first :: identifier.others

theorem Identifier.isPlainWord (identifier : Identifier) :
    IsPlainWord identifier.text := by
  refine ⟨List.cons_ne_nil _ _, fun c present => ?_⟩
  rcases List.mem_cons.mp present with rfl | inOthers
  · rw [isNameChar, identifier.starts, Bool.true_or]
  · exact identifier.continues c inOthers

/-- A query for columns of a table where a column has a value. -/
structure Lookup where
  /-- The columns. -/
  columns : List Identifier
  /-- There are columns. -/
  nonempty : columns ≠ []
  /-- The table. -/
  table : Identifier
  /-- The column that has the value. -/
  filtered : Identifier

namespace Lookup

def text (lookup : Lookup) : Text :=
  "SELECT ".toList ++ (Text.join ", " (lookup.columns.map Identifier.text) ++
    (" FROM ".toList ++ (lookup.table.text ++
      (" WHERE ".toList ++ (lookup.filtered.text ++ " = 1".toList)))))

/-- The last of the columns, which stands in front of FROM. -/
def lastColumn (lookup : Lookup) : Identifier :=
  lookup.columns.getLast lookup.nonempty

/-- What the suggestion takes for the table. -/
def tableRead (lookup : Lookup) : Text :=
  if endsIn "from" lookup.lastColumn.text then "FROM" else lookup.table.text

/-- What the suggestion takes for the column. -/
def columnRead (lookup : Lookup) : Text :=
  if endsIn "where" lookup.lastColumn.text then "FROM"
  else if endsIn "where" lookup.table.text then "WHERE"
  else lookup.filtered.text

/-- The words of a lookup up to the column that has the value. -/
def row (lookup : Lookup) : List (Text × Bool) :=
  ("SELECT".toList, false) :: ((lookup.columns.dropLast.map Identifier.text).map (·, true) ++
    [(lookup.lastColumn.text, false), ("FROM".toList, false), (lookup.table.text, false),
      ("WHERE".toList, false), (lookup.filtered.text, false)])

variable (lookup : Lookup)

theorem text_eq : lookup.text = rowText lookup.row ++ "= 1".toList := by
  have columns : lookup.columns.map Identifier.text =
      lookup.columns.dropLast.map Identifier.text ++ [lookup.lastColumn.text] := by
    rw [lastColumn, ← List.map_singleton, ← List.map_append, List.dropLast_append_getLast]
  have select : "SELECT ".toList = "SELECT".toList ++ separator false := by decide
  have table : " FROM ".toList = separator false ++ ("FROM".toList ++ separator false) := by decide
  have filter : " WHERE ".toList = separator false ++ ("WHERE".toList ++ separator false) := by
    decide
  have value : " = 1".toList = separator false ++ "= 1".toList := by decide
  unfold text
  rw [columns, join_eq_rowText, row, select, table, filter, value]
  simp only [rowText_cons, rowText_append, rowText_nil, List.append_assoc, List.nil_append]

/-- The words in the row of a lookup are keywords or names. -/
theorem of_mem_row
    {entry : Text × Bool}
    (present : entry ∈ lookup.row) :
    entry.1 ∈ (["SELECT", "FROM", "WHERE"] : List Text) ∨
      ∃ identifier : Identifier, entry.1 = identifier.text := by
  simp only [row, List.mem_cons, List.mem_append, List.mem_map, List.not_mem_nil, or_false] at present
  rcases present with rfl | ⟨_, ⟨column, -, rfl⟩, rfl⟩ | rfl | rfl | rfl | rfl | rfl
  · exact .inl (by decide)
  · exact .inr ⟨column, rfl⟩
  · exact .inr ⟨lookup.lastColumn, rfl⟩
  · exact .inl (by decide)
  · exact .inr ⟨lookup.table, rfl⟩
  · exact .inl (by decide)
  · exact .inr ⟨lookup.filtered, rfl⟩

theorem isPlainWord_of_mem_row
    {entry : Text × Bool}
    (present : entry ∈ lookup.row) :
    IsPlainWord entry.1 := by
  have keywords : ∀ word ∈ (["SELECT", "FROM", "WHERE"] : List Text), IsPlainWord word := by decide
  rcases lookup.of_mem_row present with isKeyword | ⟨identifier, equal⟩
  · exact keywords entry.1 isKeyword
  · exact equal ▸ identifier.isPlainWord

theorem nextBehind_from :
    nextBehind "from" lookup.row = some lookup.tableRead := by
  rw [row, nextBehind_cons (by decide), nextBehind_commas, nextBehind, tableRead]
  cases endsIn "from" lookup.lastColumn.text with
  | true => rfl
  | false => rfl

theorem nextBehind_where :
    nextBehind "where" lookup.row = some lookup.columnRead := by
  rw [row, nextBehind_cons (by decide), nextBehind_commas, nextBehind, columnRead]
  cases endsIn "where" lookup.lastColumn.text with
  | true => rfl
  | false =>
      change nextBehind "where" [("FROM".toList, false), (lookup.table.text, false),
        ("WHERE".toList, false), (lookup.filtered.text, false)] = _
      rw [nextBehind_cons (by decide), nextBehind]
      cases endsIn "where" lookup.table.text with
      | true => rfl
      | false => rfl

/-- The words of a lookup are those of its row and the value. -/
theorem words_text :
    Text.words lookup.text =
      lookup.row.map (·.1.map Text.foldLetter) ++ ["1".toList] := by
  rw [text_eq, words_rowText fun _ => lookup.isPlainWord_of_mem_row]
  rfl

theorem firstBehind_text
    {missing : Text}
    (isSmallWord : Text.IsSmallWord keyword)
    (next : nextBehind keyword lookup.row = some word) :
    firstBehind keyword missing lookup.text = word := by
  obtain ⟨found, searched, recorded⟩ : ∃ found, (wordBehind keyword).search
      (rowText lookup.row ++ "= 1".toList) = some found ∧ found.groupText 1 = word :=
    exists_searchFrom_rowText isSmallWord (fun _ => lookup.isPlainWord_of_mem_row) next _
  rw [firstBehind, text_eq, searched]
  exact recorded

theorem ascii_of_mem_text
    {c : Char}
    (present : c ∈ lookup.text) :
    c.toNat < 0x80 := by
  rw [text_eq, rowText, List.mem_append, List.mem_flatMap] at present
  rcases present with ⟨entry, inRow, inEntry⟩ | inValue
  · rcases List.mem_append.mp inEntry with inWord | inSeparator
    · exact ascii_of_isNameChar ((lookup.isPlainWord_of_mem_row inRow).2 c inWord)
    · have separators : ∀ hasComma, ∀ d ∈ separator hasComma, d.toNat < 0x80 := by decide
      exact separators entry.2 c inSeparator
  · have value : ∀ d ∈ "= 1".toList, d.toNat < 0x80 := by decide
    exact value c inValue

/-- A lookup has a filter and no hint. -/
theorem missingIndex_mem_signals :
    RuleCode.missingIndex ∈ signals (Text.lower lookup.text) := by
  have hasWhere : "where".toList ∈ Text.words lookup.text := by
    rw [words_text, List.mem_append, List.mem_map]
    exact .inl ⟨("WHERE", false), by simp [row], by decide⟩
  have noIndex : "index".toList ∉ Text.words lookup.text := by
    rw [words_text, List.mem_append, List.mem_map]
    rintro (⟨entry, inRow, isIndex⟩ | inValue)
    · have keywords : ∀ word ∈ (["SELECT", "FROM", "WHERE"] : List Text),
          word.map Text.foldLetter ≠ "index".toList := by decide
      rcases lookup.of_mem_row inRow with isKeyword | ⟨identifier, equal⟩
      · exact keywords entry.1 isKeyword isIndex
      · rw [equal] at isIndex
        exact identifier.isFree isIndex
    · exact absurd inValue (by decide)
  have fires : ((Pattern.word "where").occursIn lookup.text &&
      !(Pattern.word "index").occursIn lookup.text) = true := by
    rw [(word_occursIn_iff (by decide) _).mpr hasWhere, Bool.true_and, Bool.not_eq_true',
      Bool.eq_false_iff]
    exact fun occurs => noIndex ((word_occursIn_iff (by decide) _).mp occurs)
  rw [signals_lower fun _ => lookup.ascii_of_mem_text, signals, List.mem_map]
  exact ⟨(.missingIndex, _), List.mem_filter.mpr ⟨.tail _ (.head _), fires⟩, rfl⟩

/-- The index that is suggested for a lookup is on its own table and column unless a word directly in
front of FROM or WHERE ends in the letters of one of them. -/
theorem suggestedIndex_eq :
    (analyze lookup.text).suggestedIndex = createIndex lookup.tableRead lookup.columnRead := by
  have fires := List.contains_iff_mem.mpr lookup.missingIndex_mem_signals
  change (if (signals (Text.lower lookup.text)).contains .missingIndex then
    suggestIndex lookup.text else []) = _
  rw [if_pos fires, suggestIndex_eq, lookup.firstBehind_text (by decide) lookup.nextBehind_from,
    lookup.firstBehind_text (by decide) lookup.nextBehind_where]

/-- A lookup of a column whose name ends in the letters of FROM. -/
def dated : Lookup where
  columns := [⟨'v', "alid_from", by decide, by decide, by decide⟩]
  nonempty := List.cons_ne_nil _ _
  table := ⟨'t', [], by decide, by decide, by decide⟩
  filtered := ⟨'w', [], by decide, by decide, by decide⟩

/-- Its table is taken to be FROM, though its names are free of keywords. -/
theorem dated_misses_table :
    (∀ name ∈ dated.columns ++ [dated.table, dated.filtered],
      name.text.map Text.foldLetter ∉ reservedWords) ∧
    dated.text = "SELECT valid_from FROM t WHERE w = 1".toList ∧
    (analyze dated.text).suggestedIndex ≠ createIndex dated.table.text dated.filtered.text := by
  decide

end Lookup
end Heuristic
end SqlReview
