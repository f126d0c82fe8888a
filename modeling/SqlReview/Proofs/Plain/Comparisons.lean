import SqlReview.Proofs.Heuristic.Case
import SqlReview.Proofs.Plain.Wildcards

/-!
# Comparisons with wildcards in plain queries

A quick review looks for a leading wildcard anywhere in the query, and a full review looks for a
column in front of LIKE and a wildcard in the filter. In a plain query both find one if and only if
a predicate has one.
-/

namespace SqlReview
namespace Plain

open Query

variable {text : Text}

/-! ## Patterns with wildcards -/

/-- A wildcard literal, as a quick review and a full review look for it. -/
theorem startsQuoted_of_quote
    {run rest : Text}
    (folds : run.map Text.foldLetter = "'%") :
    startsQuoted (run ++ rest) = true := by
  obtain rfl := Text.eq_of_map_foldLetter folds (by decide)
  rfl

theorem startsQuoted_of_letter
    {c : Char}
    {run rest : Text}
    (isN : Text.foldLetter c = 'n')
    (folds : run.map Text.foldLetter = "'%") :
    startsQuoted (c :: (run ++ rest)) = true := by
  obtain rfl := Text.eq_of_map_foldLetter folds (by decide)
  unfold startsQuoted
  split
  · rfl
  · rename_i equal
    obtain rfl := (List.cons.inj equal).1
    exact decide_eq_true isN
  · rename_i other
    exact absurd rfl (other c rest)

/-- White space in front of a wildcard literal, perhaps with a letter n. -/
theorem startsWildcard_of_blanks
    {blanks quoted : Text}
    (blank : ∀ c ∈ blanks, Text.isBlank c = true)
    (starts : startsQuoted quoted = true) :
    startsWildcard (blanks ++ quoted) = true := by
  obtain ⟨c, others, rfl⟩ : ∃ c others, quoted = c :: others := by
    cases quoted with
    | nil => exact absurd starts (by decide)
    | cons c others => exact ⟨c, others, rfl⟩
  have noBlank : Text.isBlank c = false := by
    unfold startsQuoted at starts
    split at starts
    · rename_i equal
      obtain rfl := (List.cons.inj equal).1
      decide
    · rename_i equal
      obtain rfl := (List.cons.inj equal).1
      rw [Bool.eq_false_iff]
      intro blank
      have noWord := Text.isWord_of_isBlank blank
      rw [Text.isWord_of_foldLetter (by rw [of_decide_eq_true starts]; decide)] at noWord
      exact absurd noWord (by decide)
    · exact absurd starts (by decide)
  rw [startsWildcard, List.dropWhile_append_of_pos blank,
    List.dropWhile_cons_of_neg (by simp [noBlank])]
  exact starts

/-- What the pattern of a full review fits starts with a wildcard. -/
theorem startsWildcard_of_fitsAt
    {place : Place}
    (fits : Query.leadingWildcard.fitsAt place = true) :
    startsWildcard place.rest = true := by
  obtain ⟨run, rest, equal, covered⟩ := Pattern.occurrenceAt?_isSome_iff.mp fits
  obtain ⟨blanks, _, rfl, blank, covered⟩ := Pattern.covers_blanks_cons.mp covered
  obtain ⟨front, _, rfl, isFront, covered⟩ := Pattern.covers_all_cons.mp covered
  obtain ⟨quote, nothing, rfl, folds, isNothing⟩ := Pattern.covers_letters_cons.mp covered
  obtain rfl := Pattern.covers_all_nil.mp isNothing
  rw [equal, List.append_nil, List.append_assoc, List.append_assoc]
  refine startsWildcard_of_blanks blank ?_
  rcases isFront with ⟨c, rfl, isN⟩ | none
  · rw [List.singleton_append]
    refine startsQuoted_of_letter ?_ folds
    simp only [Bool.or_eq_true, decide_eq_true_eq] at isN
    rcases isN with rfl | rfl <;> decide
  · obtain rfl : front = [] := none
    rw [List.nil_append]
    exact startsQuoted_of_quote folds

/-- What a quick review finds has a wildcard. -/
theorem hasWildcard_of_occursIn
    (found : Heuristic.leadingWildcard.occursIn text = true) :
    HasWildcard text := by
  obtain ⟨lead, run, rest, rfl, covered⟩ := Pattern.occursIn_iff.mp found
  obtain ⟨like, _, rfl, folds, covered⟩ := Pattern.covers_letters_cons.mp covered
  obtain ⟨blanks, _, rfl, isBlanks, covered⟩ := Pattern.covers_all_cons.mp covered
  obtain ⟨front, _, rfl, isFront, covered⟩ := Pattern.covers_all_cons.mp covered
  obtain ⟨quote, nothing, rfl, quoteFolds, isNothing⟩ := Pattern.covers_letters_cons.mp covered
  obtain rfl := Pattern.covers_all_nil.mp isNothing
  have blank := (Pattern.covers_someBlanks.mp isBlanks).2
  refine ⟨lead ++ like, blanks ++ (front ++ (quote ++ rest)), by simp,
    ⟨lead, like, [], by simp, folds, by simp⟩, startsWildcard_of_blanks blank ?_⟩
  rcases isFront with isLetter | none
  · obtain ⟨c, rfl, isN⟩ := Pattern.covers_letter.mp isLetter
    rw [List.singleton_append]
    exact startsQuoted_of_letter isN quoteFolds
  · obtain rfl : front = [] := none
    rw [List.nil_append]
    exact startsQuoted_of_quote quoteFolds

/-! ## Comparisons found by a full review -/

/-- The letter k is in LIKE only. -/
theorem endsLike_of_phrase
    {phrase : List Text}
    {run : Text}
    (isPhrase : phrase ∈ operatorPhrases)
    (spells : SpellsPhrase phrase run)
    (hasLetter : ∃ c ∈ run, Text.foldLetter c = 'k') :
    EndsLike run := by
  have forms : ∀ phrase ∈ operatorPhrases, (∀ word ∈ phrase, 'k' ∉ word) ∨
      ∃ front ∈ [[], ["not".toList]], phrase = front ++ ["like".toList] ∨
        phrase = front ++ ["ilike".toList] := by
    decide
  rcases forms phrase isPhrase with none | ⟨front, -, rfl | rfl⟩
  · obtain ⟨c, present, isK⟩ := hasLetter
    rcases spells.of_mem present with blank | ⟨word, inPhrase, inWord⟩
    · have noWord := Text.isWord_of_isBlank blank
      rw [Text.isWord_of_foldLetter (by rw [isK]; decide)] at noWord
      exact absurd noWord (by decide)
    · exact absurd (isK ▸ inWord) (none word inPhrase)
  · obtain ⟨lead, like, rfl, folds⟩ := spells.exists_last
    exact ⟨lead, like, [], by simp, folds, by simp⟩
  · obtain ⟨lead, ilike, rfl, folds⟩ := spells.exists_last
    obtain ⟨c, like, rfl, -, likeFolds⟩ := List.map_eq_cons_iff.mp folds
    exact ⟨lead ++ [c], like, [], by simp, likeFolds, by simp⟩

/-- An operator that holds LIKE ends with it. -/
theorem endsLike_of_isOperator
    {before : Option Char}
    {op rest : Text}
    (isOperator : IsOperator before op rest)
    (ascii : ∀ c ∈ op, c.toNat < 0x80)
    (holds : Text.holds "like" (Text.lower op) = true) :
    EndsLike op := by
  rw [Text.lower_of_ascii ascii] at holds
  have hasLetter : ∃ c ∈ op, Text.foldLetter c = 'k' := by
    obtain ⟨c, present, isK⟩ := List.mem_map.mp
      (Text.mem_of_holds holds (show 'k' ∈ "like".toList by decide))
    refine ⟨c, present, ?_⟩
    rw [← Text.foldLetter_smallLetter, isK]
    rfl
  rcases isOperator with isSign | ⟨phrase, isPhrase, spells, -, -⟩
  · have none : ∀ sign ∈ operatorSigns, sign.all (fun c => !decide (Text.foldLetter c = 'k')) =
        true := by
      decide
    obtain ⟨c, present, isK⟩ := hasLetter
    have notK := List.all_eq_true.mp (none op isSign) c present
    rw [isK] at notK
    exact absurd notK (by decide)
  · exact endsLike_of_phrase isPhrase spells hasLetter

/-- What a full review takes for a comparison with a wildcard has one. -/
theorem hasWildcard_of_matches
    {view : Text}
    (ascii : ∀ c ∈ view, c.toNat < 0x80)
    {occurrence : Occurrence}
    (present : occurrence ∈ plainColumn.occurrences view)
    (isMatch : matchesLeadingWildcard view occurrence = true) :
    HasWildcard view := by
  obtain ⟨lead, tail, rfl, -, found⟩ := Pattern.exists_occurrenceAt?_of_mem present
  obtain ⟨name, gap, op, rest, equal, -, -, isOperator, -, group, -, stop⟩ :=
    of_occurrenceAt?_plainColumn found
  change tail = name ++ (gap ++ (op ++ rest)) at equal
  subst equal
  rw [matchesLeadingWildcard, Bool.and_eq_true, group] at isMatch
  obtain ⟨holds, fits⟩ := isMatch
  have starts := startsWildcard_of_fitsAt fits
  have split : lead ++ (name ++ (gap ++ (op ++ rest))) = lead ++ (name ++ (gap ++ op)) ++ rest := by
    simp
  have offset : occurrence.stop = (lead ++ (name ++ (gap ++ op))).length := by
    change occurrence.stop = 0 + lead.length + _ at stop
    rw [stop, Nat.zero_add, ← List.length_append]
  rw [Place.within, split, offset, List.drop_left] at starts
  obtain ⟨front, like, blanks, rfl, folds, blank⟩ :=
    endsLike_of_isOperator isOperator (fun c inOp => ascii c (by simp [inOp])) holds
  refine ⟨lead ++ (name ++ (gap ++ (front ++ (like ++ blanks)))), rest, by simp, ?_, starts⟩
  exact ⟨lead ++ (name ++ (gap ++ front)), like, blanks, by simp, folds, blank⟩

/-! ## Columns in front of LIKE -/

theorem startsIdentifier_of_plain
    {c : Char}
    (starts : startsPlainIdentifier c = true) :
    Text.startsIdentifier c = true := by
  have ascii := ascii_of_isNameChar (show isNameChar c = true by rw [isNameChar, starts]; rfl)
  revert starts
  apply Text.forall_ascii _ c ascii
  decide

theorem Name.covers_identifier
    (name : Name)
    (before : Option Char)
    (rest : Text) :
    Pattern.identifier.Covers before name.text rest := by
  refine Query.covers_identifier.mpr ⟨name.first, name.others, rfl,
    startsIdentifier_of_plain name.starts, fun c present => ?_⟩
  rw [Text.continuesIdentifier, (of_isNameChar (name.continues c present)).1, Bool.true_or]

theorem Column.covers_columnName
    (column : Column)
    (before : Option Char)
    (rest : Text) :
    columnName.Covers before column.text rest := by
  obtain ⟨table, name⟩ := column
  cases table with
  | none => exact ⟨[], name.text, rfl, .inr rfl, name.covers_identifier _ _⟩
  | some table =>
      refine ⟨table.text ++ ['.'], name.text, by simp [Column.text], .inl ?_,
        name.covers_identifier _ _⟩
      exact ⟨table.text, ['.'], rfl, table.covers_identifier _ _, Pattern.covers_char.mpr rfl⟩

/-- The characters of a column belong to words, except the dot. -/
theorem Column.of_mem
    (column : Column)
    {c : Char}
    (present : c ∈ column.text) :
    Text.isWord c = true ∨ c = '.' := by
  have name {name : Name} (inName : c ∈ name.text) : Text.isWord c = true :=
    (of_isNameChar (name.isNameChar_of_mem inName)).1
  obtain ⟨table, own⟩ := column
  cases table with
  | none => exact .inl (name present)
  | some table =>
      rcases List.mem_append.mp present with inTable | inRest
      · exact .inl (name inTable)
      · rcases List.mem_cons.mp inRest with dot | inName
        · exact .inr dot
        · exact .inl (name inName)

/-- The first name of a column. -/
theorem Column.exists_first (column : Column) :
    ∃ (name : Name) (more : Text), column.text = name.text ++ more ∧
      (more = [] ∨ ∃ others, more = '.' :: others) := by
  obtain ⟨table, name⟩ := column
  cases table with
  | none => exact ⟨name, [], (List.append_nil _).symm, .inl rfl⟩
  | some table => exact ⟨table, '.' :: name.text, rfl, .inr ⟨_, rfl⟩⟩

theorem operatorWords_forall :
    ∀ word ∈ operatorWords, Text.IsSmallWord word ∧ word ∈ reservedWords := by
  decide

/-- A column starts no operator. -/
theorem Column.not_startsOperator
    (column : Column)
    (rest : Text) :
    ¬StartsOperator (column.text ++ ' ' :: rest) := by
  obtain ⟨name, more, equal, isMore⟩ := column.exists_first
  have nameWord {c : Char} (present : c ∈ name.text) : Text.isWord c = true :=
    (of_isNameChar (name.isNameChar_of_mem present)).1
  have outside : (more ++ ' ' :: rest).head?.any Text.isWord = false := by
    rcases isMore with rfl | ⟨others, rfl⟩
    · exact show Text.isWord ' ' = false by decide
    · exact show Text.isWord '.' = false by decide
  rw [equal, List.append_assoc]
  rintro (⟨c, head, isSign⟩ | ⟨word, others, split, isOperator, outsideBehind⟩)
  · have signs : ['=', '<', '>', '!'].all (fun sign => !Text.isWord sign) = true := by decide
    obtain rfl : name.first = c := Option.some.inj head
    have noWord := List.all_eq_true.mp signs name.first isSign
    rw [nameWord (.head _)] at noWord
    exact absurd noWord (by decide)
  · obtain ⟨isSmallWord, reserved⟩ := operatorWords_forall _ isOperator
    obtain rfl : name.text = word := Pattern.whole_unique split (fun _ => nameWord)
      (fun _ present => isSmallWord.isWord_of_mem rfl present) outside outsideBehind
    exact name.isFree reserved

/-- A text without reserved words is none of them. -/
theorem IsPiece.not_isAmong
    {words : List Text}
    (piece : IsPiece [] text)
    (areReserved : ∀ word ∈ words, Text.IsSmallWord word ∧ word ∈ reservedWords ∧
      word.map Text.foldLetter = word) :
    isAmong words text = false := by
  have ascii : ∀ c ∈ text, c.toNat < 0x80 := fun c present =>
    ascii_of_isQueryChar (piece.chars c present)
  rw [isAmong, Text.lower_of_ascii ascii, Bool.eq_false_iff]
  intro among
  obtain ⟨isSmallWord, reserved, folded⟩ := areReserved _ (List.contains_iff_mem.mp among)
  have folds : text.map Text.foldLetter = text.small := by
    rw [← folded, Text.small, List.map_map]
    exact List.map_congr_left fun c _ => (Text.foldLetter_smallLetter c).symm
  have textWords : Text.words text = [text.small] := by
    rw [Text.words_of_isWord piece.tight.nonempty fun _ present =>
      isSmallWord.isWord_of_mem folds present, folds]
  have present : text.small ∈ keywords text := by
    rw [mem_keywords reserved, textWords]
    exact .head _
  rw [piece.words] at present
  exact absurd present List.not_mem_nil

/-- A text without reserved words is none of the words that are no columns. -/
theorem IsPiece.not_isAmong_sqlWords
    (piece : IsPiece [] text) :
    isAmong sqlWords text = false :=
  piece.not_isAmong (by decide)

/-- What follows the column of a predicate with a wildcard. -/
def likeTail (rest : Text) : Text :=
  " LIKE '%".toList ++ rest

theorem likeTail_append
    (rest closing : Text) :
    likeTail rest ++ closing = likeTail (rest ++ closing) :=
  List.append_assoc _ rest closing

/-- LIKE is the only operator in front of a wildcard. -/
theorem like_of_isOperator
    {before : Option Char}
    {op rest others : Text}
    (isOperator : IsOperator before op others)
    (equal : "LIKE '%".toList ++ rest = op ++ others) :
    op = "LIKE" := by
  rcases isOperator with isSign | ⟨phrase, isPhrase, spells, -, outside⟩
  · have noLetter : ∀ sign ∈ operatorSigns, sign.head?.any (· = 'L') = false ∧ sign ≠ [] := by
      decide
    obtain ⟨none, nonempty⟩ := noLetter op isSign
    have head : op.head? = some 'L' := by
      cases op with
      | nil => exact absurd rfl nonempty
      | cons c op => exact congrArg some (List.cons.inj equal).1.symm
    rw [head] at none
    exact absurd none (by decide)
  · have forms : ∀ phrase ∈ operatorPhrases, phrase ≠ [] ∧
        (phrase.head? = some "like".toList → phrase = ["like".toList]) := by
      decide
    obtain ⟨nonempty, alone⟩ := forms phrase isPhrase
    obtain ⟨word, words, rfl⟩ := List.exists_cons_of_ne_nil nonempty
    have isSmallWord := (operatorPhrases_forall _ isPhrase).2 word (.head _)
    obtain ⟨first, more, rfl, folds, behind⟩ := spells.exists_first
    have outsideFirst : (more ++ others).head?.any Text.isWord = false := by
      rcases behind with rfl | ⟨c, head, blank⟩
      · exact outside
      · rw [List.head?_append, head]
        exact Text.isWord_of_isBlank blank
    have split : "LIKE".toList ++ (" '%".toList ++ rest) = first ++ (more ++ others) := by
      rw [← List.append_assoc first, ← equal]
      rfl
    obtain rfl : "LIKE".toList = first := Pattern.whole_unique split (List.all_eq_true.mp rfl)
      (fun _ present => isSmallWord.isWord_of_mem folds present)
      (show Text.isWord ' ' = false by decide) outsideFirst
    obtain rfl : "like".toList = word := folds
    obtain rfl : words = [] := (List.cons.inj (alone rfl)).2
    have length : ("LIKE".toList ++ more).length = 4 := by
      rw [← List.length_map Text.foldLetter, show _ = "like".toList from spells]
      rfl
    rw [List.length_append] at length
    obtain rfl : more = [] := List.eq_nil_of_length_eq_zero (Nat.add_left_cancel length)
    rfl

/-- A column in front of an operator is read as a whole. -/
theorem Column.name_eq
    (column : Column)
    {before : Option Char}
    {name gap op rest others : Text}
    (equal : column.text ++ ' ' :: rest = name ++ (gap ++ (op ++ others)))
    (isName : columnName.Covers before name (gap ++ (op ++ others)))
    (blank : ∀ c ∈ gap, Text.isBlank c = true)
    (isOperator : IsOperator (Text.lastOr (Text.lastOr before name) gap) op others) :
    name = column.text := by
  obtain ⟨chars, last, isLast, continues⟩ := of_covers_columnName isName
  rcases List.append_eq_append_iff.mp equal with ⟨z, nameEq, tailEq⟩ | ⟨z, columnEq, tailEq⟩
  · cases z with
    | nil => rw [nameEq, List.append_nil]
    | cons c z =>
        obtain rfl : ' ' = c := (List.cons.inj tailEq).1
        have isColumn := chars ' ' (by rw [nameEq]; simp)
        exact absurd isColumn (by decide)
  · cases z with
    | nil => rw [columnEq, List.append_nil]
    | cons c z =>
        -- An operator would start inside the column, behind a word character.
        have letter := column.of_mem (show c ∈ column.text by rw [columnEq]; simp)
        have lastLetter := column.of_mem
          (show last ∈ column.text by rw [columnEq]; simp [List.mem_of_getLast? isLast])
        have noGap : gap = [] := by
          cases gap with
          | nil => rfl
          | cons d gap =>
              obtain rfl : d = c := (List.cons.inj tailEq).1
              have isBlank := blank d (.head _)
              rcases letter with isWord | rfl
              · rw [Text.isWord_of_isBlank isBlank] at isWord
                exact absurd isWord (by decide)
              · exact absurd isBlank (by decide)
        subst noGap
        obtain ⟨d, tail, rfl, -, noDot, outside⟩ := isOperator.exists_head
        obtain rfl : d = c := (List.cons.inj tailEq).1
        have isWord := letter.resolve_right noDot
        have wordBefore : Text.isWord last = false := by
          rcases outside with noWord | outside
          · exact absurd (isWord.symm.trans noWord) (by decide)
          · rw [Text.lastOr_nil, Text.lastOr, isLast] at outside
            exact outside
        rcases lastLetter with isWord | rfl
        · exact absurd (isWord.symm.trans wordBefore) (by decide)
        · exact absurd continues (by decide)

/-- In front of a wildcard, a column and its operator are read in one way only. -/
theorem Column.read_eq
    (column : Column)
    {before : Option Char}
    {name gap op rest others : Text}
    (equal : column.text ++ likeTail rest = name ++ (gap ++ (op ++ others)))
    (isName : columnName.Covers before name (gap ++ (op ++ others)))
    (blank : ∀ c ∈ gap, Text.isBlank c = true)
    (isOperator : IsOperator (Text.lastOr (Text.lastOr before name) gap) op others) :
    name = column.text ∧ gap = " " ∧ op = "LIKE" := by
  obtain rfl := column.name_eq equal isName blank isOperator
  have tailEq := List.append_cancel_left equal
  refine ⟨rfl, ?_⟩
  rcases gap with _ | ⟨c, _ | ⟨d, gap⟩⟩
  · obtain ⟨c, tail, rfl, noBlank, -⟩ := isOperator.exists_head
    obtain rfl : ' ' = c := (List.cons.inj tailEq).1
    exact absurd noBlank (by decide)
  · obtain rfl : ' ' = c := (List.cons.inj tailEq).1
    exact ⟨rfl, like_of_isOperator isOperator (List.cons.inj tailEq).2⟩
  · obtain rfl : 'L' = d := (List.cons.inj (List.cons.inj tailEq).2).1
    exact absurd (blank 'L' (.tail _ (.head _))) (by decide)

/-- A column in front of a wildcard is found, and its operator is LIKE. -/
theorem Column.exists_occurrenceAt?
    (column : Column)
    (index : Nat)
    (rest : Text) :
    ∃ occurrence, plainColumn.occurrenceAt? ⟨some ' ', index, column.text ++ likeTail rest⟩ =
        some occurrence ∧
      occurrence.groupText 2 = column.text ∧ occurrence.groupText 3 = "LIKE" ∧
      occurrence.start = index ∧ occurrence.stop = index + (column.text ++ " LIKE".toList).length := by
  have covered : plainColumn.Covers (some ' ') (column.text ++ " LIKE".toList)
      (" '%".toList ++ rest) := by
    refine Pattern.covers_all_cons.mpr ⟨[], _, rfl, ⟨rfl, by decide⟩, ?_⟩
    refine Pattern.covers_all_cons.mpr ⟨column.text, _, rfl, column.covers_columnName _ _, ?_⟩
    refine Pattern.covers_blanks_cons.mpr ⟨[' '], "LIKE", rfl, fun _ => isBlank_of_mem, ?_⟩
    refine Pattern.covers_all_cons.mpr ⟨"LIKE", [], rfl, ?_, rfl⟩
    rw [operator_eq]
    refine (Pattern.covers_any (by decide)).mpr ⟨.all [.edge, likeWord, .edge], ?_, ?_⟩
    · exact List.mem_append_right _ (.tail _ (.head _))
    · refine covers_whole_likeWord.mpr ⟨⟨[], "LIKE", rfl, .inr rfl, ?_⟩, ?_, ?_⟩
      · exact Pattern.covers_letters.mpr (by decide)
      · exact show Text.isWord ' ' = false by decide
      · exact show Text.isWord ' ' = false by decide
  have split : column.text ++ likeTail rest =
      column.text ++ " LIKE".toList ++ (" '%".toList ++ rest) := by
    rw [List.append_assoc]
    rfl
  have isSome : (plainColumn.occurrenceAt? ⟨some ' ', index, column.text ++ likeTail rest⟩).isSome :=
    Pattern.occurrenceAt?_isSome_iff.mpr ⟨_, _, split, covered⟩
  obtain ⟨occurrence, found⟩ := Option.isSome_iff_exists.mp isSome
  obtain ⟨name, gap, op, others, equal, isName, blank, isOperator, group, opGroup, start, stop⟩ :=
    of_occurrenceAt?_plainColumn found
  obtain ⟨rfl, rfl, rfl⟩ := column.read_eq equal isName blank isOperator
  exact ⟨occurrence, found, group, opGroup, start, stop⟩

/-- A filter with a wildcard has a predicate with one, at its start or behind a blank. -/
theorem Filter.exists_wildcard
    (filter : Filter)
    (hasWildcard : filter.hasWildcard = true) :
    ∃ front, (front = [] ∨ front.getLast? = some ' ') ∧
      ∃ (column : Column) (rest : Text), filter.text = front ++ (column.text ++ likeTail rest) := by
  have inPredicate {predicate : Predicate} (isMatch : predicate.hasWildcard = true) (rest : Text) :
      ∃ others, predicate.text ++ rest = predicate.column.text ++ likeTail others := by
    obtain ⟨column, comparator, value⟩ := predicate
    rw [Predicate.hasWildcard, Bool.and_eq_true] at isMatch
    obtain rfl : comparator = .like := of_decide_eq_true isMatch.1
    cases value with
    | number numeral => exact absurd isMatch.2 Bool.false_ne_true
    | literal content =>
        have starts : content.text.head? = some '%' := of_decide_eq_true isMatch.2
        obtain ⟨tail, equal⟩ := List.head?_eq_some_iff.mp starts
        refine ⟨tail ++ '\'' :: rest, ?_⟩
        change column.text ++ ' ' :: ("LIKE".toList ++ ' ' :: '\'' :: (content.text ++ ['\''])) ++
          rest = column.text ++ (" LIKE '%".toList ++ (tail ++ '\'' :: rest))
        rw [equal, List.append_assoc]
        simp
  obtain ⟨first, others⟩ := filter
  rw [Filter.hasWildcard, Bool.or_eq_true, List.any_eq_true] at hasWildcard
  rcases hasWildcard with isMatch | ⟨other, present, isMatch⟩
  · obtain ⟨rest, equal⟩ := inPredicate isMatch
      (others.flatMap fun other => ' ' :: (other.1.text ++ ' ' :: other.2.text))
    exact ⟨[], .inl rfl, first.column, rest, equal⟩
  · obtain ⟨before, behind, rfl⟩ := List.append_of_mem present
    obtain ⟨rest, equal⟩ := inPredicate isMatch
      (behind.flatMap fun other => ' ' :: (other.1.text ++ ' ' :: other.2.text))
    refine ⟨Filter.text ⟨first, before⟩ ++ ' ' :: other.1.text ++ [' '],
      .inr List.getLast?_concat, other.2.column, rest, ?_⟩
    rw [← equal]
    simp [Filter.text]

/-- Blanks around a text that starts with no wildcard add none. -/
theorem hasWildcard_of_enclosed
    {closing : Text}
    (isGap : closing = [] ∨ closing = [' '])
    (noStart : startsWildcard (text ++ closing) = false)
    (found : HasWildcard (' ' :: (text ++ closing))) :
    HasWildcard text := by
  have nothing : ¬HasWildcard [] := not_hasWildcard List.not_mem_nil
  have inside : HasWildcard (text ++ closing) := by
    rcases hasWildcard_append_blank (show HasWildcard ([] ++ ' ' :: (text ++ closing)) from found)
      with none | inText | ⟨-, starts⟩
    · exact absurd none nothing
    · exact inText
    · rw [noStart] at starts
      exact absurd starts (by decide)
  rcases isGap with rfl | rfl
  · rwa [List.append_nil] at inside
  · rcases hasWildcard_append_blank inside with inText | none | ⟨-, starts⟩
    · exact inText
    · exact absurd none nothing
    · exact absurd starts (by decide)

/-- What ends in LIKE matches a leading wildcard behind it. -/
theorem matchesLeadingWildcard_like
    {front : Text}
    {occurrence : Occurrence}
    (operator : occurrence.groupText 3 = "LIKE")
    (stop : occurrence.stop = front.length)
    (rest : Text) :
    matchesLeadingWildcard (front ++ (" '%".toList ++ rest)) occurrence = true := by
  have holds : Text.holds "like" (Text.lower "LIKE") = true := by decide
  have covered (before : Option Char) : Query.leadingWildcard.Covers before " '%" rest := by
    refine Pattern.covers_blanks_cons.mpr ⟨" ", "'%", rfl, fun _ => isBlank_of_mem, ?_⟩
    refine Pattern.covers_all_cons.mpr ⟨[], "'%", rfl, .inr rfl, ?_⟩
    exact Pattern.covers_letters_cons.mpr ⟨"'%", [], rfl, by decide, rfl⟩
  have behind : (Place.within (front ++ (" '%".toList ++ rest)) occurrence.stop).rest =
      " '%".toList ++ rest := by
    rw [Place.within, stop, List.drop_left]
  rw [matchesLeadingWildcard, operator, holds, Bool.true_and]
  exact Pattern.occurrenceAt?_isSome_iff.mpr ⟨_, _, behind, covered _⟩

/-- Behind a blank, a column in front of a wildcard is among the occurrences. -/
theorem Column.exists_mem_occurrences
    (column : Column)
    {lead : Text}
    (last : lead.getLast? = some ' ')
    (rest : Text) :
    ∃ occurrence ∈ plainColumn.occurrences (lead ++ (column.text ++ likeTail rest)),
      isAmong sqlWords (occurrence.groupText 2) = false ∧
        matchesLeadingWildcard (lead ++ (column.text ++ likeTail rest)) occurrence = true := by
  obtain ⟨occurrence, found, group, opGroup, start, stop⟩ :=
    column.exists_occurrenceAt? lead.length rest
  have before : Text.lastOr none lead = some ' ' := by rw [Text.lastOr, last]; rfl
  have place : plainColumn.occurrenceAt?
      ⟨Text.lastOr none lead, 0 + lead.length, column.text ++ likeTail rest⟩ = some occurrence := by
    rw [before, Nat.zero_add]
    exact found
  have length : 0 < occurrence.length := by
    rw [Occurrence.length, start, stop, List.length_append]
    exact Nat.lt_of_lt_of_eq (Nat.lt_of_lt_of_le (by decide) (Nat.le_add_left 5 column.text.length))
      (Nat.add_sub_cancel_left _ _).symm
  refine ⟨occurrence, ?_, ?_, ?_⟩
  · refine Pattern.mem_occurrencesFrom_of_clear place length ?_ (Nat.zero_le _)
    intro first x run others split nonempty equal covered
    by_contra long
    obtain ⟨back, rfl, restEq⟩ : ∃ back, run = x ++ back ∧
        column.text ++ likeTail rest = back ++ others := by
      rcases List.append_eq_append_iff.mp equal with ⟨z, runEq, restEq⟩ | ⟨z, xEq, -⟩
      · exact ⟨z, runEq, restEq⟩
      · rw [xEq, List.length_append] at long
        omega
    have isBlank : ∃ c ∈ x.getLast?, Text.isBlank c = true := by
      rw [split, List.getLast?_append_of_ne_nil _ nonempty] at last
      exact ⟨' ', last, by decide⟩
    have noBlank : ∃ c ∈ back.head?, Text.isBlank c = false := by
      obtain ⟨c, columnTail, columnEq⟩ := List.exists_cons_of_ne_nil column.text_ne_nil
      have solid := (plain_of_isSolid column.isSolid_text c (by rw [columnEq]; simp)).1
      cases back with
      | nil => simp at long
      | cons d back =>
          rw [columnEq] at restEq
          obtain rfl : c = d := (List.cons.inj restEq).1
          exact ⟨c, rfl, solid⟩
    have starts := startsOperator_of_covers covered isBlank noBlank
    rw [← restEq] at starts
    exact column.not_startsOperator ("LIKE '%".toList ++ rest) starts
  · rw [group, column.isPiece.not_isAmong_sqlWords]
  · have split : lead ++ (column.text ++ likeTail rest) =
        lead ++ (column.text ++ " LIKE".toList) ++ (" '%".toList ++ rest) := by
      rw [List.append_assoc, List.append_assoc]
      rfl
    rw [split]
    exact matchesLeadingWildcard_like opGroup (stop.trans List.length_append.symm) rest

/-- A full review finds a wildcard in a filter if and only if a predicate has one. -/
theorem Filter.any_whereColumns
    (filter : Filter)
    {closing : Text}
    (isGap : closing = [] ∨ closing = [' ']) :
    (whereColumns (' ' :: (filter.text ++ closing))).any (·.hasLeadingWildcard) =
      filter.hasWildcard := by
  have noOpen : '(' ∉ ' ' :: (filter.text ++ closing) := by
    have inFilter : '(' ∉ filter.text := filter.uses.not_mem (by decide) (by decide)
    rcases isGap with rfl | rfl <;> simp [inFilter]
  have ascii : ∀ c ∈ ' ' :: (filter.text ++ closing), c.toNat < 0x80 := by
    have inFilter : ∀ c ∈ filter.text, c.toNat < 0x80 := fun c present =>
      ascii_of_isQueryChar (filter.isPiece.chars c present)
    have blank : ' '.toNat < 0x80 := by decide
    intro c present
    rcases List.mem_cons.mp present with rfl | inRest
    · exact blank
    · rcases List.mem_append.mp inRest with inText | inGap
      · exact inFilter c inText
      · rcases isGap with rfl | rfl
        · exact absurd inGap List.not_mem_nil
        · rw [List.mem_singleton.mp inGap]
          exact blank
  rw [Query.any_whereColumns, wrappedComparisons_of_noOpen noOpen, List.nil_append,
    plainComparisons, List.any_map, List.any_filter, Bool.eq_iff_iff, List.any_eq_true]
  constructor
  · rintro ⟨occurrence, present, isMatch⟩
    rw [Bool.and_eq_true] at isMatch
    have found := hasWildcard_of_matches ascii present isMatch.2
    refine filter.hasWildcard_of_text (hasWildcard_of_enclosed isGap ?_ found)
    rw [Filter.text, List.append_assoc]
    exact filter.first.startsWildcard_text _
  · intro hasWildcard
    obtain ⟨front, isFront, column, rest, equal⟩ := filter.exists_wildcard hasWildcard
    have last : (' ' :: front).getLast? = some ' ' := by
      rcases isFront with rfl | last
      · rfl
      · rw [List.getLast?_cons, last]
        rfl
    obtain ⟨occurrence, present, notAmong, isMatch⟩ :=
      column.exists_mem_occurrences last (rest ++ closing)
    have split : ' ' :: (filter.text ++ closing) =
        ' ' :: front ++ (column.text ++ likeTail (rest ++ closing)) := by
      rw [equal, List.append_assoc, List.append_assoc, likeTail_append, List.cons_append]
    rw [split]
    refine ⟨occurrence, present, ?_⟩
    change (!isAmong sqlWords (occurrence.groupText 2) && matchesLeadingWildcard _ occurrence) = true
    rw [notAmong, isMatch]
    rfl

end Plain

open Plain

namespace PlainQuery

variable (query : PlainQuery)

theorem mem_sections_of_filter
    {filter : Filter}
    (isFilter : query.filter = some filter) :
    (.filter, filter.text) ∈ query.sections := by
  simp [sections, isFilter]

/-- A quick review finds a wildcard in a query if and only if a predicate has one. -/
theorem leadingWildcard_occursIn :
    Heuristic.leadingWildcard.occursIn query.text = query.hasWildcard := by
  rw [Bool.eq_iff_iff]
  constructor
  · intro found
    exact query.hasWildcard_of_text (hasWildcard_of_occursIn found)
  · intro hasWildcard
    rw [PlainQuery.hasWildcard, Option.any_eq_true] at hasWildcard
    obtain ⟨filter, isFilter, isMatch⟩ := hasWildcard
    obtain ⟨front, -, column, rest, filterEq⟩ := filter.exists_wildcard isMatch
    obtain ⟨lead, others, equal, -⟩ :=
      exists_split_of_mem (query.mem_sections_of_filter isFilter)
    have split : query.text = lead ++ "WHERE ".toList ++ (front ++ (column.text ++ [' '])) ++
        ("LIKE '%".toList ++ (rest ++ others)) := by
      rw [text, equal, filterEq, List.append_assoc front, List.append_assoc column.text,
        likeTail_append, List.append_assoc _ (front ++ _), List.append_assoc lead,
        List.append_assoc front, List.append_assoc column.text]
      rfl
    refine Pattern.occursIn_iff.mpr ⟨_, "LIKE '%", rest ++ others, split, ?_⟩
    refine Pattern.covers_letters_cons.mpr ⟨"LIKE", " '%", rfl, by decide, ?_⟩
    refine Pattern.covers_all_cons.mpr ⟨" ", "'%", rfl, ?_, ?_⟩
    · exact covers_blank _ _
    · refine Pattern.covers_all_cons.mpr ⟨[], "'%", rfl, .inr rfl, ?_⟩
      exact Pattern.covers_letters_cons.mpr ⟨"'%", [], rfl, by decide, rfl⟩

end PlainQuery
end SqlReview
