import SqlReview.Proofs.Query.Conditions
import SqlReview.Proofs.Query.Hints

/-!
# Items of a select list

What an item of a select list must look like to count as a star, as a call of an aggregate function or
as a column.
-/

namespace SqlReview
namespace Query

variable {item : Text}

/-! ## Stars and calls -/

/-- What stands at the start of a text has nothing in front of it. -/
theorem nil_of_covers_textStart
    {lead run rest : Text}
    (covered : Pattern.textStart.Covers (Text.lastOr none lead) run rest) :
    lead = [] ∧ run = [] := by
  obtain ⟨rfl, nothingBefore⟩ := covered
  refine ⟨?_, rfl⟩
  cases lead with
  | nil => rfl
  | cons c lead => simp [Text.lastOr] at nothingBefore

/-- The pairs of marks that names stand between. -/
def nameMarks : List (Char × Char) :=
  [('"', '"'), ('\x60', '\x60'), ('[', ']')]

/-- Whether a text names a table as it does in front of a star. -/
def NamesTable (name : Text) : Prop :=
  (∃ c others, name = c :: others ∧ startsPlainIdentifier c = true ∧
      ∀ d ∈ others, Text.continuesIdentifier d = true) ∨
    ∃ marks ∈ nameMarks, ∃ content, name = marks.1 :: (content ++ [marks.2]) ∧ content ≠ [] ∧
      marks.2 ∉ content

theorem covers_delimited
    {opening closing : Char}
    {before : Option Char}
    {run rest : Text} :
    (delimited opening closing).Covers before run rest ↔
      ∃ content, run = opening :: (content ++ [closing]) ∧ content ≠ [] ∧ closing ∉ content := by
  have isContent {content : Text} :
      (∀ c ∈ content, decide (c ≠ closing) = true) ↔ closing ∉ content := by
    constructor
    · exact fun accepted present => absurd (accepted closing present) (by simp)
    · exact fun absent c present => decide_eq_true fun equal => absent (equal ▸ present)
  rw [delimited, Pattern.covers_char_cons]
  constructor
  · rintro ⟨_, rfl, covered⟩
    obtain ⟨content, _, rfl, ⟨_, others, rfl, ⟨c, rfl, first⟩, accepted⟩, covered⟩ :=
      Pattern.covers_all_cons.mp covered
    obtain ⟨_, rfl, nothing⟩ := Pattern.covers_char_cons.mp covered
    obtain rfl := Pattern.covers_all_nil.mp nothing
    exact ⟨[c] ++ others, rfl, by simp, isContent.mp (List.forall_mem_cons.mpr ⟨first, accepted⟩)⟩
  · rintro ⟨content, rfl, nonempty, absent⟩
    obtain ⟨c, others, rfl⟩ := List.exists_cons_of_ne_nil nonempty
    obtain ⟨first, accepted⟩ := List.forall_mem_cons.mp (isContent.mpr absent)
    exact ⟨_, rfl, Pattern.covers_all_cons.mpr ⟨c :: others, [closing], rfl,
      ⟨[c], others, rfl, ⟨c, rfl, first⟩, accepted⟩, Pattern.covers_char_cons.mpr ⟨[], rfl, rfl⟩⟩⟩

theorem covers_tableName
    {before : Option Char}
    {run rest : Text} :
    (Pattern.alt (.seq (.one startsPlainIdentifier) (.many Text.continuesIdentifier))
      delimitedName).Covers before run rest ↔ NamesTable run := by
  have plain : (Pattern.seq (.one startsPlainIdentifier)
      (.many Text.continuesIdentifier)).Covers before run rest ↔ ∃ c others, run = c :: others ∧
        startsPlainIdentifier c = true ∧ ∀ d ∈ others, Text.continuesIdentifier d = true := by
    constructor
    · rintro ⟨_, others, rfl, ⟨c, rfl, starts⟩, continues⟩
      exact ⟨c, others, rfl, starts, continues⟩
    · rintro ⟨c, others, rfl, starts, continues⟩
      exact ⟨[c], others, rfl, ⟨c, rfl, starts⟩, continues⟩
  rw [Pattern.Covers, plain, delimitedName, Pattern.covers_any (by simp), NamesTable]
  simp [nameMarks, covers_delimited]

/-- A star stands alone, or behind the name of a table and a dot. -/
theorem occursIn_starItem_iff :
    starItem.occursIn item = true ↔
      ∃ table ending, item = table ++ '*' :: ending ∧ (ending = [] ∨ ending = ['\n']) ∧
        (table = [] ∨ ∃ name front back, table = name ++ (front ++ '.' :: back) ∧ NamesTable name ∧
          (∀ c ∈ front, Text.isBlank c = true) ∧ ∀ c ∈ back, Text.isBlank c = true) := by
  rw [Pattern.occursIn_iff]
  constructor
  · rintro ⟨lead, run, ending, rfl, covered⟩
    obtain ⟨start, _, rfl, atStart, covered⟩ := Pattern.covers_all_cons.mp covered
    obtain ⟨rfl, rfl⟩ := nil_of_covers_textStart atStart
    obtain ⟨table, _, rfl, isTable, covered⟩ := Pattern.covers_all_cons.mp covered
    obtain ⟨_, rfl, isLast⟩ := Pattern.covers_char_cons.mp covered
    obtain ⟨_, _, rfl, ⟨rfl, ends⟩, isEnd⟩ := Pattern.covers_all_cons.mp isLast
    obtain rfl := Pattern.covers_all_nil.mp isEnd
    refine ⟨table, ending, by simp, ends, ?_⟩
    rcases isTable with ⟨name, _, rfl, isName, isDot⟩ | nothing
    · obtain ⟨front, _, rfl, blank, isDot⟩ := Pattern.covers_blanks_cons.mp isDot
      obtain ⟨_, rfl, isGap⟩ := Pattern.covers_char_cons.mp isDot
      obtain ⟨back, _, rfl, blankBehind, nothing⟩ := Pattern.covers_blanks_cons.mp isGap
      obtain rfl := Pattern.covers_all_nil.mp nothing
      exact .inr ⟨name, front, back, by simp, covers_tableName.mp isName, blank, blankBehind⟩
    · exact .inl nothing
  · rintro ⟨table, ending, rfl, ends, isTable⟩
    refine ⟨[], table ++ ['*'], ending, by simp, [], _, rfl, ⟨rfl, rfl⟩, table, ['*'], rfl, ?_,
      Pattern.covers_char_cons.mpr ⟨[], rfl, [], [], rfl, ⟨rfl, ends⟩, rfl⟩⟩
    rcases isTable with rfl | ⟨name, front, back, rfl, isName, blank, blankBehind⟩
    · exact .inr rfl
    · exact .inl ⟨name, _, rfl, covers_tableName.mpr isName, Pattern.covers_blanks_cons.mpr
        ⟨front, _, rfl, blank, Pattern.covers_char_cons.mpr ⟨back, rfl,
          Pattern.covers_blanks_cons.mpr ⟨back, [], by simp, blankBehind, rfl⟩⟩⟩⟩

/-- A star stays one when the name in front of it is changed, if what stands behind the name is told by
the absence of some mark. -/
theorem occursIn_starItem_of_renamed
    {otherItem : Text}
    {mark : Char}
    (isMark : Text.isBlank mark = false ∧ mark ≠ '.' ∧ mark ≠ '*')
    (same : mark ∉ item → otherItem = item)
    (renamed : ∀ {name behind : Text}, item = name ++ behind → NamesTable name → mark ∉ behind →
      ∃ otherName, otherItem = otherName ++ behind ∧ NamesTable otherName)
    (found : starItem.occursIn item = true) :
    starItem.occursIn otherItem = true := by
  obtain ⟨noBlank, noDot, noStar⟩ := isMark
  obtain ⟨table, ending, split, ends, isTable⟩ := occursIn_starItem_iff.mp found
  have absent {gap : Text} (blank : ∀ c ∈ gap, Text.isBlank c = true) : mark ∉ gap :=
    fun present => absurd (noBlank.symm.trans (blank _ present)) Bool.false_ne_true
  have endBlank : ∀ c ∈ ending, Text.isBlank c = true := by
    rcases ends with rfl | rfl <;> decide
  rcases isTable with rfl | ⟨name, front, back, rfl, isName, blank, blankBehind⟩
  · rwa [same (by simp [split, noStar, absent endBlank])]
  · have behind : mark ∉ front ++ '.' :: back ++ '*' :: ending := by
      simp [absent blank, absent blankBehind, absent endBlank, noDot, noStar]
    rw [List.append_assoc] at split
    obtain ⟨otherName, otherSplit, isOtherName⟩ := renamed split isName behind
    exact occursIn_starItem_iff.mpr ⟨otherName ++ (front ++ '.' :: back), ending,
      by simp [otherSplit], ends,
      .inr ⟨otherName, front, back, rfl, isOtherName, blank, blankBehind⟩⟩

/-- An item without a star is no star. -/
theorem not_occursIn_starItem
    (noStar : '*' ∉ item) :
    starItem.occursIn item = false := by
  rw [Bool.eq_false_iff]
  intro found
  obtain ⟨table, ending, rfl, -⟩ := occursIn_starItem_iff.mp found
  exact noStar (by simp)

/-- A star is the first character of an item, or it stands behind a name. -/
theorem head_of_occursIn_starItem
    (found : starItem.occursIn item = true) :
    ∃ c ∈ item.head?, c = '*' ∨ startsPlainIdentifier c = true ∨ c ∈ ['"', '\x60', '['] := by
  obtain ⟨table, ending, rfl, -, rfl | ⟨name, front, back, rfl, isName, -⟩⟩ :=
    occursIn_starItem_iff.mp found
  · exact ⟨'*', rfl, .inl rfl⟩
  · rcases isName with ⟨c, others, rfl, starts, -⟩ | ⟨marks, isPair, content, rfl, -⟩
    · exact ⟨c, rfl, .inr (.inl starts)⟩
    · exact ⟨marks.1, rfl, .inr (.inr (List.mem_map_of_mem (f := Prod.fst) isPair))⟩

/-- A star behind an identifier and a dot is a star. -/
theorem occursIn_starItem
    {c : Char}
    {others : Text}
    (starts : startsPlainIdentifier c = true)
    (continues : ∀ d ∈ others, Text.continuesIdentifier d = true) :
    starItem.occursIn (c :: others ++ ['.', '*']) = true :=
  occursIn_starItem_iff.mpr ⟨c :: others ++ ['.'], [], by simp, .inl rfl, .inr
    ⟨c :: others, [], [], rfl, .inl ⟨c, others, rfl, starts, continues⟩, List.forall_mem_nil _,
      List.forall_mem_nil _⟩⟩

/-- A call has the name of an aggregate function in front of a parenthesis, white space between them
aside. -/
theorem of_occursIn_aggregateCall
    (found : aggregateCall.occursIn item = true) :
    ∃ lead function blanks rest, item = lead ++ (function ++ (blanks ++ '(' :: rest)) ∧
      function.map Text.foldLetter ∈ aggregateNames := by
  obtain ⟨lead, run, rest, rfl, covered⟩ := Pattern.occursIn_iff.mp found
  obtain ⟨start, _, rfl, -, covered⟩ := Pattern.covers_all_cons.mp covered
  obtain ⟨function, _, rfl, isFunction, covered⟩ := Pattern.covers_all_cons.mp covered
  obtain ⟨gap, _, rfl, -, covered⟩ := Pattern.covers_blanks_cons.mp covered
  obtain ⟨more, rfl, -⟩ := Pattern.covers_char_cons.mp covered
  obtain ⟨_, listed, isName⟩ := (Pattern.covers_any (by decide)).mp isFunction
  obtain ⟨name, isListed, rfl⟩ := List.mem_map.mp listed
  exact ⟨lead ++ start, function, gap, more ++ rest, by simp,
    Pattern.covers_letters.mp isName ▸ isListed⟩

/-- An item without parentheses calls no function. -/
theorem not_occursIn_aggregateCall
    (noOpen : '(' ∉ item) :
    aggregateCall.occursIn item = false := by
  rw [Bool.eq_false_iff]
  intro found
  obtain ⟨_, _, _, _, rfl, -⟩ := of_occursIn_aggregateCall found
  exact noOpen (by simp)

/-- The name of an aggregate function in front of a parenthesis is a call of it. -/
theorem occursIn_aggregateCall
    {function : Text}
    (listed : function.map Text.foldLetter ∈ aggregateNames)
    (startsWord : function.head?.any Text.isWord = true)
    (rest : Text) :
    aggregateCall.occursIn (function ++ '(' :: rest) = true := by
  have isName (before : Option Char) :
      (Pattern.any (aggregateNames.map .letters)).Covers before function (['('] ++ rest) :=
    (Pattern.covers_any (by decide)).mpr
      ⟨_, List.mem_map_of_mem listed, Pattern.covers_letters.mpr rfl⟩
  have isEdge : Pattern.edge.Covers none [] (function ++ ['('] ++ rest) := by
    obtain ⟨c, others, rfl⟩ : ∃ c others, function = c :: others := by
      cases function with
      | nil => exact absurd startsWord (by decide)
      | cons c others => exact ⟨c, others, rfl⟩
    have isWord : Text.isWord c = true := startsWord
    exact Pattern.covers_edge.mpr ⟨rfl, by simp [isWord]⟩
  have isOpen (before : Option Char) : (Pattern.all [.blanks, .char '(', .blanks,
      .optional (.group 2 (.seq (.letters "distinct") .edge))]).Covers before ['('] rest :=
    Pattern.covers_blanks_cons.mpr ⟨[], _, rfl, List.forall_mem_nil _,
      Pattern.covers_char_cons.mpr ⟨[], rfl, Pattern.covers_blanks_cons.mpr ⟨[], _, rfl,
        List.forall_mem_nil _, ⟨[], [], rfl, .inr rfl, rfl⟩⟩⟩⟩
  refine Pattern.occursIn_iff.mpr ⟨[], function ++ ['('], rest, by simp, ?_⟩
  exact ⟨[], _, rfl, isEdge, function, ['('], rfl, isName _, isOpen _⟩

/-- A call behind which no word OVER stands has no window. -/
theorem not_occursIn_windowKeyword
    (absent : "over".toList ∉ Text.words item) :
    windowKeyword.occursIn item = false := by
  rw [Bool.eq_false_iff]
  intro found
  obtain ⟨lead, run, rest, rfl, covered⟩ := Pattern.occursIn_iff.mp found
  exact absent (mem_words_of_edge_letters_open (by decide) covered)

/-! ## What stands in front of a list -/

/-- DISTINCT and a list of columns in parentheses. -/
def distinctOn : Pattern :=
  .all [.letters "distinct", .someBlanks, .letters "on", .blanks, .char '(',
    .many (fun c => c ≠ '(' && c ≠ ')'), .char ')']

/-- A treatment of duplicates in front of a select list. -/
def duplicatesPart : Pattern :=
  .any [distinctOn, .letters "distinct", .letters "all"]

/-- A number of rows in front of a select list. -/
def rowsPart : Pattern :=
  .all [.letters "top", .someBlanks, .optional (.char '('), .blanks,
    .oneOrMore Text.isDecimalDigit, .blanks, .optional (.char ')'), .blanks,
    .optional (.seq (.letters "percent") .someBlanks)]

theorem selectPreamble_eq :
    selectPreamble = Pattern.textStart.seq (Pattern.blanks.seq (duplicatesPart.optional.seq
      (Pattern.blanks.seq (.all [rowsPart.optional])))) := rfl

/-! ## Columns -/

/-- What a column can have behind it. -/
def columnTail : Pattern :=
  .all [.optional (.all [.someBlanks, .optional (.seq (.letters "as") .someBlanks), .identifier]),
    .textEnd]

/-- A column that is found stands at the start of the item. -/
theorem of_atStart?_columnItem
    {occurrence : Occurrence}
    (found : columnItem.atStart? item = some occurrence) :
    ∃ rest, item = occurrence.groupText 1 ++ rest ∧
      columnName.Covers none (occurrence.groupText 1) rest := by
  have parts : (Pattern.textStart.seq ((columnName.group 1).seq columnTail)).occurrenceAt?
      (Place.start item) = some occurrence := found
  obtain ⟨lead, rest, equal, atStart, isName⟩ := Pattern.covers_groupText (by decide) parts
  obtain ⟨rfl, -⟩ := atStart
  exact ⟨rest, equal, isName⟩

/-- A column starts with an identifier. -/
theorem atStart?_columnItem_of_head
    (noName : item.head?.any Text.startsIdentifier = false) :
    columnItem.atStart? item = none := by
  cases found : columnItem.atStart? item with
  | none => rfl
  | some occurrence =>
      obtain ⟨rest, equal, isName⟩ := of_atStart?_columnItem found
      obtain ⟨c, others, name, starts⟩ := exists_first_of_covers_columnName isName
      rw [equal, name, List.cons_append, List.head?_cons, Option.any_some, starts] at noName
      exact absurd noName (by decide)

/-- An item with a character that columns do not have is no column. -/
theorem atStart?_columnItem_of_mem
    {c : Char}
    (isOther : columnItem.admits c = false ∧ c ≠ '\n')
    (present : c ∈ item) :
    columnItem.atStart? item = none := by
  refine Pattern.occurrenceAt?_eq_none_iff.mpr fun run rest equal covered => ?_
  have notInRun : c ∉ run := fun present =>
    absurd (isOther.1.symm.trans (covered.admits c present)) Bool.false_ne_true
  have notInRest : c ∉ rest := by
    obtain ⟨_, _, rfl, -, covered⟩ := Pattern.covers_all_cons.mp covered
    obtain ⟨_, _, rfl, -, covered⟩ := Pattern.covers_all_cons.mp covered
    obtain ⟨_, _, rfl, -, covered⟩ := Pattern.covers_all_cons.mp covered
    obtain ⟨_, _, rfl, ⟨rfl, ends⟩, nothing⟩ := Pattern.covers_all_cons.mp covered
    obtain rfl := Pattern.covers_all_nil.mp nothing
    rcases ends with rfl | rfl
    · exact List.not_mem_nil
    · exact fun present => isOther.2 (List.mem_singleton.mp present)
  rw [show item = run ++ rest from equal] at present
  exact (List.mem_append.mp present).elim notInRun notInRest

end Query
end SqlReview
