import SqlReview.Proofs.Pattern.Captures
import SqlReview.Proofs.Pattern.Occurrence
import SqlReview.Proofs.Pattern.Words
import SqlReview.Proofs.Query.Clauses
import SqlReview.Query.Condition

/-!
# Comparisons in a condition

What an occurrence of a column before an operator looks like: a name, white space, and a sign or a
phrase of words. The columns of a condition match a wildcard if and only if one of its comparisons
does.
-/

namespace SqlReview
namespace Query

/-! ## Operators -/

/-- The operators that are signs. -/
def operatorSigns : List Text :=
  ["=", "<>", "!=", "<=", ">=", "<", ">"]

/-- The operators that are words, word by word. -/
def operatorPhrases : List (List Text) :=
  [["not", "like"], ["not", "ilike"], ["like"], ["ilike"], ["not", "in"], ["in"],
    ["not", "between"], ["between"], ["is"]]

/-- The forms of an operator. -/
def operatorForms : List Pattern :=
  operatorSigns.map .letters ++
    [wordOperator (.letters "not") likeWord, .all [.edge, likeWord, .edge],
      wordOperator (.letters "not") (.letters "in"), .word "in",
      wordOperator (.letters "not") (.letters "between"), .word "between", .word "is"]

theorem operator_eq :
    operator = .group 3 (.any operatorForms) := rfl

theorem operatorPhrases_forall :
    ∀ phrase ∈ operatorPhrases, phrase ≠ [] ∧ ∀ word ∈ phrase, Text.IsSmallWord word := by
  decide

variable {before : Option Char} {run rest : Text}

/-- Whether a run is an operator: a sign, or a phrase next to no word character. -/
def IsOperator (before : Option Char) (run rest : Text) : Prop :=
  run ∈ operatorSigns ∨ ∃ phrase ∈ operatorPhrases, SpellsPhrase phrase run ∧
    before.any Text.isWord = false ∧ rest.head?.any Text.isWord = false

theorem covers_likeWord :
    likeWord.Covers before run rest →
      run.map Text.foldLetter = "like" ∨ run.map Text.foldLetter = "ilike" := by
  rintro ⟨front, like, rfl, isFront, isLike⟩
  have folds := Pattern.covers_letters.mp isLike
  rcases isFront with isLetter | nothing
  · obtain ⟨c, rfl, isI⟩ := Pattern.covers_letter.mp isLetter
    right
    rw [List.map_append, folds, List.map_singleton, isI]
    rfl
  · obtain rfl : front = [] := nothing
    exact .inl folds

theorem covers_whole_likeWord :
    (Pattern.all [.edge, likeWord, .edge]).Covers before run rest ↔
      likeWord.Covers before run rest ∧ before.any Text.isWord = false ∧
        rest.head?.any Text.isWord = false := by
  refine Pattern.covers_between_edges fun before run rest isLike => ?_
  rcases covers_likeWord isLike with folds | folds
  · exact Text.IsSmallWord.isWord_ends (by decide) folds
  · exact Text.IsSmallWord.isWord_ends (by decide) folds

/-- An operator of two words. -/
theorem covers_wordOperator
    {first : Text}
    {second : Pattern}
    {seconds : List Text}
    (isSmallWord : first.IsSmallWord)
    (smallWords : ∀ word ∈ seconds, Text.IsSmallWord word)
    (isSecond : ∀ before run rest, second.Covers before run rest →
      run.map Text.foldLetter ∈ seconds)
    (covered : (wordOperator (.letters first) second).Covers before run rest) :
    ∃ word ∈ seconds, SpellsPhrase [first, word] run ∧ before.any Text.isWord = false ∧
      rest.head?.any Text.isWord = false := by
  obtain ⟨outside, start, _, rfl, folds, covered⟩ :=
    (Pattern.covers_edge_letters isSmallWord).mp covered
  obtain ⟨blanks, _, rfl, isBlanks, covered⟩ := Pattern.covers_all_cons.mp covered
  obtain ⟨last, _, rfl, isLast, covered⟩ := Pattern.covers_all_cons.mp covered
  have present := isSecond _ _ _ isLast
  rw [Pattern.covers_edge_of_wordBefore
    ((smallWords _ present).isWord_lastOr rfl _)] at covered
  obtain ⟨outsideBehind, nothing⟩ := covered
  obtain rfl := Pattern.covers_all_nil.mp nothing
  refine ⟨_, present, ⟨start, blanks, last, by simp, folds, ?_, rfl⟩, outside, outsideBehind⟩
  exact Pattern.covers_someBlanks.mp isBlanks

theorem isOperator_of_covers
    (covered : (Pattern.any operatorForms).Covers before run rest) :
    IsOperator before run rest := by
  have signs : ∀ sign ∈ operatorSigns, sign.all (fun c => !('a' ≤ c && c ≤ 'z')) = true := by
    decide
  have phrase {phrase : List Text} (isPhrase : phrase ∈ operatorPhrases)
      (spelled : SpellsPhrase phrase run ∧ before.any Text.isWord = false ∧
        rest.head?.any Text.isWord = false) : IsOperator before run rest :=
    .inr ⟨phrase, isPhrase, spelled⟩
  have letters {word : Text} (before : Option Char) (run rest : Text)
      (covered : (Pattern.letters word).Covers before run rest) :
      run.map Text.foldLetter ∈ [word] :=
    List.mem_singleton.mpr (Pattern.covers_letters.mp covered)
  have likes (before : Option Char) (run rest : Text) (covered : likeWord.Covers before run rest) :
      run.map Text.foldLetter ∈ ["like".toList, "ilike".toList] := by
    rcases covers_likeWord covered with folds | folds <;> simp [folds]
  obtain ⟨pattern, present, covered⟩ := (Pattern.covers_any (by decide)).mp covered
  rcases List.mem_append.mp present with isSign | isPhrase
  · obtain ⟨sign, inSigns, rfl⟩ := List.mem_map.mp isSign
    obtain rfl := Text.eq_of_map_foldLetter (Pattern.covers_letters.mp covered)
      (signs sign inSigns)
    exact .inl inSigns
  · simp only [List.mem_cons, List.not_mem_nil, or_false] at isPhrase
    rcases isPhrase with rfl | rfl | rfl | rfl | rfl | rfl | rfl
    · obtain ⟨word, inLikes, spelled⟩ :=
        covers_wordOperator (by decide) (by decide) likes covered
      simp only [List.mem_cons, List.not_mem_nil, or_false] at inLikes
      rcases inLikes with rfl | rfl
      · exact phrase (by decide) spelled
      · exact phrase (by decide) spelled
    · obtain ⟨isLike, outside, outsideBehind⟩ := covers_whole_likeWord.mp covered
      rcases covers_likeWord isLike with folds | folds
      · exact phrase (show ["like".toList] ∈ operatorPhrases by decide)
          ⟨folds, outside, outsideBehind⟩
      · exact phrase (show ["ilike".toList] ∈ operatorPhrases by decide)
          ⟨folds, outside, outsideBehind⟩
    · obtain ⟨word, inWords, spelled⟩ :=
        covers_wordOperator (by decide) (by decide) letters covered
      obtain rfl := List.mem_singleton.mp inWords
      exact phrase (by decide) spelled
    · exact phrase (show ["in".toList] ∈ operatorPhrases by decide)
        ((Pattern.covers_word (by decide)).mp covered)
    · obtain ⟨word, inWords, spelled⟩ :=
        covers_wordOperator (by decide) (by decide) letters covered
      obtain rfl := List.mem_singleton.mp inWords
      exact phrase (by decide) spelled
    · exact phrase (show ["between".toList] ∈ operatorPhrases by decide)
        ((Pattern.covers_word (by decide)).mp covered)
    · exact phrase (show ["is".toList] ∈ operatorPhrases by decide)
        ((Pattern.covers_word (by decide)).mp covered)

/-! ## Where operators stand -/

/-- The words of operators. -/
def operatorWords : List Text :=
  ["not", "like", "ilike", "in", "between", "is"]

/-- Whether a text starts with the sign or a word of an operator. -/
def StartsOperator (text : Text) : Prop :=
  (∃ c ∈ text.head?, c ∈ ['=', '<', '>', '!']) ∨
    ∃ word more, text = word ++ more ∧ word.map Text.foldLetter ∈ operatorWords ∧
      more.head?.any Text.isWord = false

/-- A character of a phrase is white space or a letter of one of its words. -/
theorem SpellsPhrase.of_mem
    {phrase : List Text}
    (spells : SpellsPhrase phrase run)
    {c : Char}
    (present : c ∈ run) :
    Text.isBlank c = true ∨ ∃ word ∈ phrase, Text.foldLetter c ∈ word := by
  induction phrase generalizing run with
  | nil =>
      obtain rfl : run = [] := spells
      exact absurd present List.not_mem_nil
  | cons word words inductionHypothesis =>
      have letter {first : Text} (folds : first.map Text.foldLetter = word)
          (inFirst : c ∈ first) : ∃ word' ∈ word :: words, Text.foldLetter c ∈ word' :=
        ⟨word, .head _, folds ▸ List.mem_map_of_mem inFirst⟩
      cases words with
      | nil => exact .inr (letter spells present)
      | cons second words =>
          obtain ⟨first, blanks, others, rfl, folds, ⟨-, blank⟩, othersSpell⟩ := spells
          rcases List.mem_append.mp present with inFirst | inRest
          · exact .inr (letter folds inFirst)
          · rcases List.mem_append.mp inRest with inBlanks | inOthers
            · exact .inl (blank c inBlanks)
            · rcases inductionHypothesis othersSpell inOthers with isBlank | ⟨later, inWords, inLater⟩
              · exact .inl isBlank
              · exact .inr ⟨later, .tail _ inWords, inLater⟩

/-- The words of a phrase as it is spelled. -/
theorem SpellsPhrase.words
    {phrase : List Text}
    (spells : SpellsPhrase phrase run)
    (smallWords : ∀ word ∈ phrase, Text.IsSmallWord word) :
    Text.words run = phrase := by
  induction phrase generalizing run with
  | nil =>
      obtain rfl : run = [] := spells
      rfl
  | cons word words inductionHypothesis =>
      have isSmallWord := smallWords word (.head _)
      have whole {first : Text} (folds : first.map Text.foldLetter = word) :
          Text.words first = [word] := by
        rw [Text.words_of_isWord (isSmallWord.ne_nil folds) fun _ present =>
          isSmallWord.isWord_of_mem folds present, folds]
      cases words with
      | nil => exact whole spells
      | cons second words =>
          obtain ⟨first, blanks, others, rfl, folds, ⟨nonempty, blank⟩, othersSpell⟩ := spells
          have otherWords := inductionHypothesis othersSpell fun word present =>
            smallWords word (.tail _ present)
          have outside := Text.isWord_of_blanks nonempty blank
          have last : blanks.getLast?.any Text.isWord = false := by
            simpa [Text.lastOr] using outside.1 none
          have blankWords : Text.words blanks = [] :=
            Text.words_of_noWord fun c present => Text.isWord_of_isBlank (blank c present)
          rw [Text.words_append_of_head _ (outside.2 _), Text.words_append_of_last last,
            whole folds, otherWords, blankWords]
          rfl

/-- A phrase ends with its last word. -/
theorem SpellsPhrase.exists_last
    {phrase : List Text}
    {last : Text}
    (spells : SpellsPhrase (phrase ++ [last]) run) :
    ∃ front back, run = front ++ back ∧ back.map Text.foldLetter = last := by
  induction phrase generalizing run with
  | nil => exact ⟨[], run, rfl, spells⟩
  | cons word words inductionHypothesis =>
      obtain ⟨second, others, equal⟩ : ∃ second others, words ++ [last] = second :: others :=
        List.exists_cons_of_ne_nil (by simp)
      rw [List.cons_append, equal] at spells
      obtain ⟨first, blanks, tail, rfl, -, -, tailSpells⟩ := spells
      rw [← equal] at tailSpells
      obtain ⟨front, back, rfl, folds⟩ := inductionHypothesis tailSpells
      exact ⟨first ++ (blanks ++ front), back, by simp, folds⟩

/-- An operator starts with a sign, or with a word character behind none. -/
theorem IsOperator.exists_head
    (isOperator : IsOperator before run rest) :
    ∃ c tail, run = c :: tail ∧ Text.isBlank c = false ∧ c ≠ '.' ∧
      (Text.isWord c = false ∨ before.any Text.isWord = false) := by
  rcases isOperator with isSign | ⟨phrase, isPhrase, spells, outside, -⟩
  · have heads : ∀ sign ∈ operatorSigns, sign.head?.any (fun c =>
        !Text.isBlank c && !decide (c = '.') && !Text.isWord c) = true := by
      decide
    have head := heads run isSign
    cases run with
    | nil => exact absurd head (by decide)
    | cons c tail =>
        rw [List.head?_cons, Option.any_some, Bool.and_eq_true, Bool.and_eq_true] at head
        obtain ⟨⟨noBlank, noDot⟩, noWord⟩ := head
        refine ⟨c, tail, rfl, ?_, ?_, .inl ?_⟩
        · simpa using noBlank
        · simpa using noDot
        · simpa using noWord
  · obtain ⟨nonempty, smallWords⟩ := operatorPhrases_forall phrase isPhrase
    have head := (spells.isWord_ends nonempty smallWords).1
    cases run with
    | nil => exact absurd head (by decide)
    | cons c tail =>
        have isWord : Text.isWord c = true := head
        refine ⟨c, tail, rfl, Bool.eq_false_iff.mpr fun blank => ?_, ?_, .inr outside⟩
        · rw [Text.isWord_of_isBlank blank] at isWord
          exact absurd isWord (by decide)
        · rintro rfl
          exact absurd isWord (by decide)

/-- What stands behind white space in an operator, or is all of it, starts an operator. -/
theorem IsOperator.startsOperator
    (isOperator : IsOperator before run rest)
    {front back : Text}
    (split : run = front ++ back)
    (boundary : front = [] ∨ ∃ c ∈ front.getLast?, Text.isBlank c = true)
    (noBlank : ∃ c ∈ back.head?, Text.isBlank c = false) :
    StartsOperator (back ++ rest) := by
  obtain ⟨c, head, noBlank⟩ := noBlank
  obtain ⟨tail, rfl⟩ : ∃ tail, back = c :: tail := by
    cases back with
    | nil => simp at head
    | cons d tail => exact ⟨tail, by simpa using head⟩
  rcases isOperator with isSign | ⟨phrase, isPhrase, spells, outside, outsideBehind⟩
  · have solid : ∀ sign ∈ operatorSigns, sign.all (fun c => !Text.isBlank c &&
        ['=', '<', '>', '!'].contains c) = true := by
      decide
    have each := List.all_eq_true.mp (solid run isSign)
    have isSignChar := each c (by rw [split]; simp)
    simp only [Bool.and_eq_true] at isSignChar
    exact .inl ⟨c, rfl, List.contains_iff_mem.mp isSignChar.2⟩
  · have smallWords := (operatorPhrases_forall phrase isPhrase).2
    have words := spells.words smallWords
    have isWord : Text.isWord c = true := by
      rcases spells.of_mem (show c ∈ run by rw [split]; simp) with blank | ⟨word, inPhrase, inWord⟩
      · rw [blank] at noBlank
        exact absurd noBlank (by decide)
      · have isLetter := List.all_eq_true.mp (smallWords word inPhrase).2 _ inWord
        exact Text.isWord_of_foldLetter (by simpa using isLetter)
    have frontOutside : front.getLast?.any Text.isWord = false := by
      rcases boundary with rfl | ⟨d, last, blank⟩
      · rfl
      · rw [last]
        exact Text.isWord_of_isBlank blank
    obtain ⟨word, others, equal, -, othersOutside, backWords⟩ := Pattern.exists_word isWord tail
    rw [split, Text.words_append_of_last frontOutside, backWords] at words
    have allWords : ∀ phrase ∈ operatorPhrases, phrase ⊆ operatorWords := by decide
    refine .inr ⟨word, others ++ rest, by rw [equal, List.append_assoc], ?_, ?_⟩
    · refine allWords phrase isPhrase ?_
      rw [← words]
      simp
    · cases others with
      | nil => exact outsideBehind
      | cons d others => exact othersOutside

/-! ## Columns before operators -/

/-- Whether a character can stand in the name of a column. -/
def isColumnChar (c : Char) : Bool :=
  Text.continuesIdentifier c || c = '.'

theorem covers_identifier :
    Pattern.identifier.Covers before run rest ↔
      ∃ c others, run = c :: others ∧ Text.startsIdentifier c = true ∧
        ∀ d ∈ others, Text.continuesIdentifier d = true := by
  constructor
  · rintro ⟨_, others, rfl, ⟨c, rfl, starts⟩, continues⟩
    exact ⟨c, others, rfl, starts, continues⟩
  · rintro ⟨c, others, rfl, starts, continues⟩
    exact ⟨[c], others, rfl, ⟨c, rfl, starts⟩, continues⟩

/-- What starts an identifier can continue one. -/
theorem continuesIdentifier_of_starts
    {c : Char}
    (starts : Text.startsIdentifier c = true) :
    Text.continuesIdentifier c = true := by
  rw [Text.startsIdentifier, Bool.or_eq_true, Bool.and_eq_true, decide_eq_true_eq,
    decide_eq_true_eq, decide_eq_true_eq] at starts
  rw [Text.continuesIdentifier, Bool.or_eq_true]
  rcases starts with isLetter | underscore
  · exact .inl (Text.isWord_of_foldLetter isLetter)
  · obtain rfl : c = '_' := Text.eq_of_foldLetter underscore (by decide)
    exact .inl (by decide)

theorem of_covers_identifier
    (covered : Pattern.identifier.Covers before run rest) :
    (∀ c ∈ run, isColumnChar c = true) ∧
      ∃ c, run.getLast? = some c ∧ Text.continuesIdentifier c = true := by
  obtain ⟨c, others, rfl, starts, continues⟩ := covers_identifier.mp covered
  have each : ∀ d ∈ c :: others, Text.continuesIdentifier d = true := by
    intro d present
    rcases List.mem_cons.mp present with rfl | inOthers
    · exact continuesIdentifier_of_starts starts
    · exact continues d inOthers
  have nonempty : c :: others ≠ [] := List.cons_ne_nil c others
  refine ⟨fun d present => ?_, _, List.getLast?_eq_some_getLast nonempty,
    each _ (List.getLast_mem nonempty)⟩
  rw [isColumnChar, each d present, Bool.true_or]

/-- The name of a column ends with an identifier and has no white space. -/
theorem of_covers_columnName
    (covered : columnName.Covers before run rest) :
    (∀ c ∈ run, isColumnChar c = true) ∧
      ∃ c, run.getLast? = some c ∧ Text.continuesIdentifier c = true := by
  obtain ⟨front, name, rfl, isFront, isName⟩ := covered
  obtain ⟨nameChars, c, last, continues⟩ := of_covers_identifier isName
  refine ⟨?_, c, by rw [List.getLast?_append, last]; rfl, continues⟩
  intro d present
  rcases List.mem_append.mp present with inFront | inName
  · rcases isFront with ⟨table, dot, rfl, isTable, isDot⟩ | nothing
    · obtain rfl := Pattern.covers_char.mp isDot
      rcases List.mem_append.mp inFront with inTable | inDot
      · exact (of_covers_identifier isTable).1 d inTable
      · obtain rfl := List.mem_singleton.mp inDot
        decide
    · obtain rfl : front = [] := nothing
      exact absurd inFront List.not_mem_nil
  · exact nameChars d inName

/-- The name of a column starts with a character that can start an identifier. -/
theorem exists_first_of_covers_columnName
    (covered : columnName.Covers before run rest) :
    ∃ c others, run = c :: others ∧ Text.startsIdentifier c = true := by
  obtain ⟨front, name, rfl, isFront, isName⟩ := covered
  rcases isFront with ⟨table, dot, rfl, isTable, -⟩ | nothing
  · obtain ⟨c, others, rfl, starts, -⟩ := covers_identifier.mp isTable
    exact ⟨c, _, rfl, starts⟩
  · obtain rfl : front = [] := nothing
    obtain ⟨c, others, rfl, starts, -⟩ := covers_identifier.mp isName
    exact ⟨c, others, rfl, starts⟩

/-- What an outcome of a column before an operator consists of. -/
theorem of_mem_plainColumn
    {place : Place}
    {reached : Progress}
    (present : reached ∈ plainColumn.outcomes ⟨place, []⟩) :
    ∃ name gap op rest, place.rest = name ++ (gap ++ (op ++ rest)) ∧
      columnName.Covers place.before name (gap ++ (op ++ rest)) ∧
      (∀ c ∈ gap, Text.isBlank c = true) ∧
      IsOperator (Text.lastOr (Text.lastOr place.before name) gap) op rest ∧
      reached.captures = [⟨3, place.index + name.length + gap.length, op⟩,
        ⟨2, place.index, name⟩] ∧
      reached.place = place.past (name ++ (gap ++ op)) rest := by
  obtain ⟨start, atStart, present⟩ := List.mem_flatMap.mp present
  obtain rfl : start = ⟨place, []⟩ := by
    simp only [Pattern.outcomes] at atStart
    split at atStart
    · exact absurd atStart List.not_mem_nil
    · exact List.mem_singleton.mp atStart
  obtain ⟨_, isNamed, present⟩ := List.mem_flatMap.mp present
  obtain ⟨named, inNames, rfl⟩ := List.mem_map.mp isNamed
  obtain ⟨spaced, inBlanks, present⟩ := List.mem_flatMap.mp present
  obtain ⟨_, isCompared, last⟩ := List.mem_flatMap.mp present
  obtain rfl := List.mem_singleton.mp last
  obtain ⟨compared, inOperators, rfl⟩ := List.mem_map.mp isCompared
  have nameCaptures := Pattern.captures_of_mem_outcomes (by decide) inNames
  have gapCaptures := Pattern.captures_of_mem_outcomes rfl inBlanks
  have operatorCaptures := Pattern.captures_of_mem_outcomes (by decide) inOperators
  obtain ⟨name, behindName, nameText, namePlace, isName⟩ := Pattern.covers_of_mem_outcomes inNames
  obtain ⟨gap, behindGap, gapText, gapPlace, isGap⟩ := Pattern.covers_of_mem_outcomes inBlanks
  obtain ⟨op, rest, opText, opPlace, isOp⟩ := Pattern.covers_of_mem_outcomes inOperators
  change named.place.rest = gap ++ behindGap at gapText
  change spaced.place = named.place.past gap behindGap at gapPlace
  rw [namePlace] at gapText gapPlace
  rw [gapPlace] at opText opPlace isOp
  obtain rfl : behindName = gap ++ behindGap := gapText
  obtain rfl : behindGap = op ++ rest := opText
  refine ⟨name, gap, op, rest, nameText, isName, isGap, isOperator_of_covers isOp, ?_, ?_⟩
  · change (⟨3, spaced.place.index, spaced.place.rest.take
      (compared.place.index - spaced.place.index)⟩ :: compared.captures : List Capture) = _
    rw [operatorCaptures, gapCaptures]
    change (_ :: ⟨2, place.index, place.rest.take (named.place.index - place.index)⟩ ::
      named.captures : List Capture) = _
    rw [nameCaptures, opPlace, gapPlace, namePlace, nameText]
    simp [Place.past]
  · change compared.place = _
    rw [opPlace, ← Place.past_append, ← Place.past_append]

/-- What an occurrence of a column before an operator consists of. -/
theorem of_occurrenceAt?_plainColumn
    {place : Place}
    {occurrence : Occurrence}
    (found : plainColumn.occurrenceAt? place = some occurrence) :
    ∃ name gap op rest, place.rest = name ++ (gap ++ (op ++ rest)) ∧
      columnName.Covers place.before name (gap ++ (op ++ rest)) ∧
      (∀ c ∈ gap, Text.isBlank c = true) ∧
      IsOperator (Text.lastOr (Text.lastOr place.before name) gap) op rest ∧
      occurrence.groupText 2 = name ∧ occurrence.groupText 3 = op ∧
      occurrence.start = place.index ∧
      occurrence.stop = place.index + (name ++ (gap ++ op)).length := by
  rw [Pattern.occurrenceAt?_eq_head?, Option.map_eq_some_iff] at found
  obtain ⟨reached, first, rfl⟩ := found
  obtain ⟨name, gap, op, rest, equal, isName, blank, isOperator, captures, behind⟩ :=
    of_mem_plainColumn (List.mem_of_head? first)
  have group (number : Nat) : (Pattern.occurrenceOf place reached).groupText number =
      ((reached.captures.find? (·.group = number)).map (·.text)).getD [] := rfl
  refine ⟨name, gap, op, rest, equal, isName, blank, isOperator, ?_, ?_, rfl, ?_⟩
  · rw [group, captures]
    rfl
  · rw [group, captures]
    rfl
  · change reached.place.index = _
    rw [behind]
    rfl

/-- What a column before an operator covers. -/
theorem of_covers_plainColumn
    (covered : plainColumn.Covers before run rest) :
    ∃ name gap op, run = name ++ (gap ++ op) ∧
      columnName.Covers before name (gap ++ (op ++ rest)) ∧
      (∀ c ∈ gap, Text.isBlank c = true) ∧
      IsOperator (Text.lastOr (Text.lastOr before name) gap) op rest := by
  obtain ⟨_, _, rfl, ⟨rfl, -⟩, covered⟩ := Pattern.covers_all_cons.mp covered
  obtain ⟨name, _, rfl, isName, covered⟩ := Pattern.covers_all_cons.mp covered
  obtain ⟨gap, _, rfl, blank, covered⟩ := Pattern.covers_blanks_cons.mp covered
  obtain ⟨op, _, rfl, isOp, nothing⟩ := Pattern.covers_all_cons.mp covered
  obtain rfl := Pattern.covers_all_nil.mp nothing
  have column : columnName.Covers before name (gap ++ (op ++ []) ++ rest) := isName
  refine ⟨name, gap, op, by simp, ?_, blank, isOperator_of_covers isOp⟩
  simpa using column

/-- What stands behind white space in a comparison starts an operator. -/
theorem startsOperator_of_covers
    {front back : Text}
    (covered : plainColumn.Covers before (front ++ back) rest)
    (last : ∃ c ∈ front.getLast?, Text.isBlank c = true)
    (noBlank : ∃ c ∈ back.head?, Text.isBlank c = false) :
    StartsOperator (back ++ rest) := by
  obtain ⟨name, gap, op, split, isName, blank, isOperator⟩ := of_covers_plainColumn covered
  have nameChars := (of_covers_columnName isName).1
  rcases List.append_eq_append_iff.mp split with ⟨z, rfl, -⟩ | ⟨z, rfl, inner⟩
  · -- The white space would stand inside the name.
    obtain ⟨c, isLast, isBlank⟩ := last
    have isColumn := nameChars c (List.mem_append_left _ (List.mem_of_getLast? isLast))
    have noWord := Text.isWord_of_isBlank isBlank
    rw [isColumnChar, Text.continuesIdentifier, noWord] at isColumn
    simp only [Bool.false_or, Bool.or_eq_true, decide_eq_true_eq] at isColumn
    rcases isColumn with rfl | rfl
    · exact absurd isBlank (by decide)
    · exact absurd isBlank (by decide)
  · rcases List.append_eq_append_iff.mp inner with ⟨y, rfl, opEq⟩ | ⟨y, rfl, rfl⟩
    · refine isOperator.startsOperator opEq ?_ noBlank
      cases y with
      | nil => exact .inl rfl
      | cons d y =>
          refine .inr ?_
          rwa [← List.append_assoc, List.getLast?_append_of_ne_nil _ (List.cons_ne_nil d y)] at last
    · cases y with
      | nil => exact isOperator.startsOperator (List.nil_append op).symm (.inl rfl) noBlank
      | cons d y =>
          obtain ⟨c, head, noBlank⟩ := noBlank
          obtain rfl : d = c := by simpa using head
          rw [blank d (by simp)] at noBlank
          exact absurd noBlank (by decide)

/-! ## Columns of a condition -/

theorem any_addComparison
    (comparison : Comparison)
    (columns : List WhereColumn) :
    (addComparison comparison columns).any (·.hasLeadingWildcard) =
      (comparison.hasLeadingWildcard || columns.any (·.hasLeadingWildcard)) := by
  induction columns with
  | nil => rfl
  | cons column others inductionHypothesis =>
      rw [addComparison]
      split
      · rw [List.any_cons, List.any_cons, Bool.or_comm column.hasLeadingWildcard, Bool.or_assoc]
      · rw [List.any_cons, List.any_cons, inductionHypothesis, Bool.or_left_comm]

/-- A column of a condition matches a wildcard if and only if a comparison does. -/
theorem any_whereColumns (view : Text) :
    (whereColumns view).any (·.hasLeadingWildcard) =
      (wrappedComparisons view ++ plainComparisons view).any (·.hasLeadingWildcard) := by
  have fold (comparisons : List Comparison) (columns : List WhereColumn) :
      (comparisons.foldl (fun columns comparison => addComparison comparison columns)
        columns).any (·.hasLeadingWildcard) =
          (columns.any (·.hasLeadingWildcard) || comparisons.any (·.hasLeadingWildcard)) := by
    induction comparisons generalizing columns with
    | nil => simp
    | cons comparison others inductionHypothesis =>
        rw [List.foldl_cons, inductionHypothesis, any_addComparison, List.any_cons, Bool.or_assoc,
          Bool.or_left_comm]
  rw [whereColumns, fold, List.any_nil, Bool.false_or, comparisons]
  exact (List.mergeSort_perm _ _).any_eq

/-- Without names behind parentheses no function is applied to a column. -/
theorem wrappedComparisons_of_noName
    {view : Text}
    (noName : ∀ front behind, view = front ++ '(' :: behind →
      ∀ c ∈ behind, Text.startsIdentifier c = false) :
    wrappedComparisons view = [] := by
  have nothing : wrappedColumn.occurrences view = [] := by
    refine List.eq_nil_iff_forall_not_mem.mpr fun occurrence present => ?_
    obtain ⟨lead, run, rest, equal, -, covered, -⟩ := Pattern.isStretch_of_mem_occurrences present
    obtain ⟨start, _, rfl, -, covered⟩ := Pattern.covers_all_cons.mp covered
    obtain ⟨function, _, rfl, -, covered⟩ := Pattern.covers_all_cons.mp covered
    obtain ⟨gap, _, rfl, -, covered⟩ := Pattern.covers_blanks_cons.mp covered
    obtain ⟨_, rfl, inside⟩ := Pattern.covers_char_cons.mp covered
    obtain ⟨blanks, _, rfl, -, inside⟩ := Pattern.covers_blanks_cons.mp inside
    obtain ⟨name, tail, rfl, isName, -⟩ := Pattern.covers_all_cons.mp inside
    obtain ⟨c, others, rfl, starts⟩ := exists_first_of_covers_columnName isName
    have absent := noName (lead ++ (start ++ (function ++ gap)))
      (blanks ++ (c :: others ++ tail) ++ rest) (by simp [equal]) c (by simp)
    rw [absent] at starts
    exact absurd starts (by decide)
  rw [wrappedComparisons, nothing]
  rfl

/-- Without parentheses no function is applied to a column. -/
theorem wrappedComparisons_of_noOpen
    {view : Text}
    (noOpen : '(' ∉ view) :
    wrappedComparisons view = [] :=
  wrappedComparisons_of_noName fun _ _ equal => absurd (by simp [equal]) noOpen

/-- No column stands where no name starts. -/
theorem isQuiet_plainColumn
    {stretch : Text}
    (noName : ∀ c ∈ stretch, Text.startsIdentifier c = false) :
    plainColumn.IsQuiet before stretch rest := by
  rintro lead c tail rfl run others equal covered
  obtain ⟨_, _, rfl, ⟨rfl, -⟩, covered⟩ := Pattern.covers_all_cons.mp covered
  obtain ⟨name, more, rfl, isName, -⟩ := Pattern.covers_all_cons.mp covered
  obtain ⟨d, behind, rfl, starts⟩ := exists_first_of_covers_columnName isName
  obtain ⟨rfl, -⟩ := List.cons.inj equal
  rw [noName c (by simp)] at starts
  exact absurd starts (by decide)

/-- An operator directly behind a name is a sign, or it starts with a word behind a dollar sign. -/
theorem IsOperator.of_behind_name
    {name : Text}
    (last : ∃ c, name.getLast? = some c ∧ Text.continuesIdentifier c = true)
    (isOperator : IsOperator (Text.lastOr before name) run rest) :
    (∃ c ∈ (run ++ rest).head?, c ∈ ['=', '<', '>', '!']) ∨
      '$' ∈ name ∧ (Text.lastOr before name).any Text.isWord = false ∧
        ∃ word more, run ++ rest = word ++ more ∧ word.map Text.foldLetter ∈ operatorWords ∧
          more.head?.any Text.isWord = false := by
  obtain ⟨c, tail, rfl, noBlank, -, outside⟩ := isOperator.exists_head
  rcases isOperator.startsOperator (List.nil_append _).symm (.inl rfl) ⟨c, rfl, noBlank⟩ with
    isSign | ⟨word, more, equal, isOperatorWord, outsideBehind⟩
  · exact .inl isSign
  · have smallWords : ∀ word ∈ operatorWords, Text.IsSmallWord word := by decide
    have isSmallWord := smallWords _ isOperatorWord
    have isWord : Text.isWord c = true := by
      cases word with
      | nil => exact absurd rfl (isSmallWord.ne_nil rfl)
      | cons d word =>
          obtain ⟨rfl, -⟩ := List.cons.inj equal
          exact isSmallWord.isWord_of_mem rfl (.head _)
    have wordBefore : (Text.lastOr before name).any Text.isWord = false :=
      outside.resolve_left (by simp [isWord])
    obtain ⟨d, isLast, continues⟩ := last
    have noWord : Text.isWord d = false := by
      rw [Text.lastOr, isLast] at wordBefore
      exact wordBefore
    have isDollar : d = '$' := by
      rw [Text.continuesIdentifier, noWord, Bool.false_or] at continues
      exact of_decide_eq_true continues
    exact .inr ⟨isDollar ▸ List.mem_of_getLast? isLast, wordBefore, word, more, equal,
      isOperatorWord, outsideBehind⟩

/-- A word of an operator in a text that ends there at the latest is one of the words of the text. -/
theorem mem_words_of_operatorWord
    {lead stretch word more : Text}
    (equal : stretch ++ rest = word ++ more)
    (isOperatorWord : word.map Text.foldLetter ∈ operatorWords)
    (outside : (Text.lastOr before lead).any Text.isWord = false)
    (outsideBehind : more.head?.any Text.isWord = false)
    (ends : rest.head?.any isColumnChar = false) :
    word.map Text.foldLetter ∈ Text.words (lead ++ stretch) := by
  have smallWords : ∀ word ∈ operatorWords, Text.IsSmallWord word := by decide
  have isSmallWord := smallWords _ isOperatorWord
  have isWord : ∀ c ∈ word, Text.isWord c = true := fun _ => isSmallWord.isWord_of_mem rfl
  obtain ⟨back, rfl, backOutside⟩ : ∃ back, stretch = word ++ back ∧
      back.head?.any Text.isWord = false := by
    rcases List.append_eq_append_iff.mp equal with ⟨back, wordEq, restEq⟩ | ⟨back, stretchEq, moreEq⟩
    · cases back with
      | nil => exact ⟨[], by simpa using wordEq.symm, rfl⟩
      | cons c back =>
          have isWordHere := isWord c (by rw [wordEq]; simp)
          rw [restEq] at ends
          have isColumn : isColumnChar c = true := by
            rw [isColumnChar, Text.continuesIdentifier, isWordHere, Bool.true_or, Bool.true_or]
          rw [List.cons_append, List.head?_cons, Option.any_some, isColumn] at ends
          exact absurd ends (by decide)
    · refine ⟨back, stretchEq, ?_⟩
      cases back with
      | nil => rfl
      | cons c back =>
          rw [moreEq] at outsideBehind
          exact outsideBehind
  exact Text.mem_words (isSmallWord.ne_nil rfl) isWord outside backOutside

/-- No column stands before an operator in a stretch without white space and signs, if no word of an
operator starts inside a name there, and none follows a name at its end. -/
theorem isQuiet_plainColumn_of_solid
    {stretch : Text}
    (noBlank : ∀ c ∈ stretch, Text.isBlank c = false)
    (noSign : ∀ c ∈ stretch, c ∉ ['=', '<', '>', '!'])
    (inside : '$' ∉ stretch ∨ ∀ word ∈ Text.words stretch, word ∉ operatorWords)
    (ends : rest.head?.any isColumnChar = false)
    (behind : stretch.getLast?.any isColumnChar = true →
      ¬StartsOperator (rest.dropWhile Text.isBlank)) :
    plainColumn.IsQuiet before stretch rest := by
  rintro lead c tail rfl run others equal covered
  obtain ⟨name, gap, op, rfl, isName, blank, isOperator⟩ := of_covers_plainColumn covered
  obtain ⟨chars, last, isLast, continues⟩ := of_covers_columnName isName
  have split : c :: tail ++ rest = name ++ (gap ++ (op ++ others)) := by simpa using equal
  have wholeName (tailEq : c :: tail = name) (restEq : rest = gap ++ (op ++ others)) : False := by
    have isColumn : (lead ++ c :: tail).getLast?.any isColumnChar = true := by
      rw [List.getLast?_append_of_ne_nil _ (List.cons_ne_nil c tail), tailEq, isLast]
      exact chars last (List.mem_of_getLast? isLast)
    obtain ⟨d, opTail, rfl, noBlankHere, -⟩ := isOperator.exists_head
    refine behind isColumn ?_
    rw [restEq, List.dropWhile_append_of_pos blank, List.cons_append,
      List.dropWhile_cons_of_neg (by simp [noBlankHere])]
    exact isOperator.startsOperator (List.nil_append _).symm (.inl rfl) ⟨d, rfl, noBlankHere⟩
  rcases List.append_eq_append_iff.mp split with ⟨back, nameEq, restEq⟩ | ⟨back, tailEq, restEq⟩
  · cases back with
    | nil => exact wholeName (by simpa using nameEq.symm) restEq
    | cons d back =>
        have isColumn := chars d (by rw [nameEq]; simp)
        rw [restEq] at ends
        rw [List.cons_append, List.head?_cons, Option.any_some, isColumn] at ends
        exact absurd ends (by decide)
  · cases back with
    | nil => exact wholeName (by simpa using tailEq) restEq.symm
    | cons d back =>
        have inStretch : d ∈ lead ++ c :: tail := by rw [tailEq]; simp
        have noGap : gap = [] := by
          cases gap with
          | nil => rfl
          | cons e gap =>
              obtain rfl : e = d := (List.cons.inj restEq).1
              have isBlank := blank e (.head _)
              rw [noBlank e inStretch] at isBlank
              exact absurd isBlank (by decide)
        subst noGap
        rcases isOperator.of_behind_name ⟨last, isLast, continues⟩ with
          ⟨e, head, isSign⟩ | ⟨dollar, outside, word, more, wordEq, isOperatorWord, outsideBehind⟩
        · rw [show op ++ others = d :: back ++ rest from restEq] at head
          obtain rfl : d = e := by simpa using head
          exact noSign d inStretch isSign
        · have dollarInside : '$' ∈ lead ++ c :: tail := by rw [tailEq]; simp [dollar]
          have equalHere : d :: back ++ rest = word ++ more := restEq.symm.trans wordEq
          have outsideHere : (Text.lastOr before (lead ++ name)).any Text.isWord = false := by
            rw [Text.lastOr_append]
            exact outside
          refine inside.resolve_left (fun absent => absent dollarInside) _ ?_ isOperatorWord
          rw [tailEq, ← List.append_assoc]
          exact mem_words_of_operatorWord equalHere isOperatorWord outsideHere outsideBehind ends

/-- No function is applied to a column in a stretch without parentheses and with white space at its
end. -/
theorem isQuiet_wrappedColumn
    {stretch : Text}
    (noOpen : '(' ∉ stretch)
    (last : rest = [] ∨ ∃ c, stretch.getLast? = some c ∧ Text.isBlank c = true)
    (ends : rest.head?.any (fun c => Text.isBlank c || c = '(') = false) :
    wrappedColumn.IsQuiet before stretch rest := by
  rintro lead c tail rfl run others equal covered
  obtain ⟨_, _, rfl, ⟨rfl, -⟩, covered⟩ := Pattern.covers_all_cons.mp covered
  obtain ⟨function, _, rfl, isFunction, covered⟩ := Pattern.covers_all_cons.mp covered
  obtain ⟨gap, _, rfl, blank, covered⟩ := Pattern.covers_blanks_cons.mp covered
  obtain ⟨inner, rfl, -⟩ := Pattern.covers_char_cons.mp covered
  have chars := (of_covers_identifier isFunction).1
  have split : c :: tail ++ rest = function ++ (gap ++ '(' :: (inner ++ others)) := by
    simpa using equal
  rcases List.append_eq_append_iff.mp split with ⟨back, nameEq, restEq⟩ | ⟨back, tailEq, restEq⟩
  · rcases last with rfl | ⟨d, isLast, isBlank⟩
    · simp at restEq
    · rw [List.getLast?_append_of_ne_nil _ (List.cons_ne_nil c tail)] at isLast
      have isColumn := chars d (by
        rw [nameEq]
        exact List.mem_append_left _ (List.mem_of_getLast? isLast))
      rw [isColumnChar, Text.continuesIdentifier, Text.isWord_of_isBlank isBlank] at isColumn
      have isSign : d = '$' ∨ d = '.' := by simpa using isColumn
      rcases isSign with rfl | rfl <;> exact absurd isBlank (by decide)
  · have noOpenBack : '(' ∉ back := fun present => noOpen (by rw [tailEq]; simp [present])
    rcases List.append_eq_append_iff.mp restEq with ⟨more, backEq, behind⟩ | ⟨more, gapEq, behind⟩
    · cases more with
      | nil =>
          rw [← show '(' :: (inner ++ others) = rest from behind] at ends
          exact absurd ends (by simp)
      | cons d more =>
          obtain rfl : '(' = d := (List.cons.inj behind).1
          exact noOpenBack (by rw [backEq]; simp)
    · cases more with
      | nil =>
          rw [show rest = '(' :: (inner ++ others) from behind] at ends
          exact absurd ends (by simp)
      | cons d more =>
          have isBlank := blank d (by rw [gapEq]; simp)
          rw [behind, List.cons_append, List.head?_cons, Option.any_some, isBlank] at ends
          exact absurd ends (by simp)

end Query
end SqlReview
