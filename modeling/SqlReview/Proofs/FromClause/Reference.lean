import SqlReview.Proofs.FromClause.Parts
import SqlReview.Proofs.Pattern.Reading
import SqlReview.Proofs.Plain.Comparisons
import SqlReview.Proofs.Text.Small

/-!
# References in a FROM clause

A table of a FROM clause is read back with its alias, and nothing else is. What can follow it is no
part of its name, and the words of a condition are not taken for an alias.
-/

namespace SqlReview
namespace FromClause

open Query Plain Pattern

variable {before : Option Char} {index : Nat} {name tail rest word : Text}

/-! ## Words in front of names -/

/-- The letters of a word can continue an identifier. -/
theorem continuesIdentifier_of_word
    (isSmallWord : word.IsSmallWord)
    (folds : name.map Text.foldLetter = word) :
    ∀ c ∈ name, Text.continuesIdentifier c = true := by
  intro c present
  rw [Text.continuesIdentifier, isSmallWord.isWord_of_mem folds present, Bool.true_or]

/-- A word with white space behind it is not read off the start of another name. -/
theorem refuses_word
    (isSmallWord : word.IsSmallWord)
    (continues : ∀ c ∈ name, Text.continuesIdentifier c = true)
    (ends : tail.head?.any Text.continuesIdentifier = false)
    (isOther : name.map Text.foldLetter ≠ word) :
    ((letters word).seq someBlanks).Refuses before (name ++ tail) := by
  rintro _ others equal ⟨left, blanks, rfl, isWord, isBlanks⟩
  have folds := covers_letters.mp isWord
  obtain ⟨nonempty, blank⟩ := covers_someBlanks.mp isBlanks
  obtain ⟨c, blanks, rfl⟩ := List.exists_cons_of_ne_nil nonempty
  have endsToo : Text.continuesIdentifier c = false := by
    refine Bool.eq_false_iff.mpr fun continues => ?_
    have isBlank := blank c (.head _)
    rw [Text.isBlank_of_continuesIdentifier continues] at isBlank
    exact absurd isBlank (by decide)
  rw [List.append_assoc] at equal
  obtain rfl := run_unique equal continues (continuesIdentifier_of_word isSmallWord folds) ends
    endsToo
  exact isOther folds

/-- No identifier is a reserved word. -/
theorem Identifier.map_foldLetter_ne
    (identifier : Identifier)
    (isSmallWord : word.IsSmallWord)
    (reserved : word ∈ reservedWords) :
    identifier.text.map Text.foldLetter ≠ word := by
  intro folds
  have nonempty : identifier.text ≠ [] := List.cons_ne_nil _ _
  have words : Text.words identifier.text = [word] := by
    rw [Text.words_of_isWord nonempty fun _ present =>
      isSmallWord.isWord_of_mem folds present, folds]
  exact identifier.isFree word (words ▸ .head _) reserved

/-! ## Names of tables -/

theorem Identifier.reads
    (identifier : Identifier)
    (ends : rest.head?.any Text.continuesIdentifier = false) :
    Pattern.identifier.Reads before index identifier.text rest [] :=
  reads_identifier (startsIdentifier_of_plain identifier.starts)
    (fun c present => identifier.continuesIdentifier_of_mem c (.tail _ present)) ends

/-- Whether a text cannot continue the name of a table. -/
structure EndsName (rest : Text) : Prop where
  /-- The text does not continue an identifier. -/
  ends : rest.head?.any Text.continuesIdentifier = false
  /-- No dot follows, white space in front of it aside. -/
  noDot : (rest.dropWhile Text.isBlank).head? ≠ some '.'

theorem endsName_blank
    {c : Char}
    (noBlank : Text.isBlank c = false)
    (noDot : c ≠ '.')
    (rest : Text) :
    EndsName (' ' :: c :: rest) := by
  refine ⟨show Text.continuesIdentifier ' ' = false by decide, ?_⟩
  rw [List.dropWhile_cons_of_pos (by decide), List.dropWhile_cons_of_neg (by simp [noBlank])]
  simpa using noDot

theorem EndsName.refuses_dot (endsName : EndsName rest) :
    (dot.seq namePart).Refuses before rest := by
  rintro _ others rfl ⟨_, part, rfl, isDot, -⟩
  obtain ⟨blanks, _, rfl, blank, isDot⟩ := covers_blanks_cons.mp isDot
  obtain ⟨behind, rfl, -⟩ := covers_char_cons.mp isDot
  refine endsName.noDot ?_
  rw [List.append_assoc, List.append_assoc, List.dropWhile_append_of_pos blank]
  rfl

theorem Identifier.noBlank_of_mem
    (identifier : Identifier)
    {c : Char}
    (present : c ∈ identifier.text) :
    Text.isBlank c = false :=
  (of_isSolidChar (List.all_eq_true.mp identifier.isSolid_text c present)).2.1

theorem Identifier.first_ne_dot (identifier : Identifier) :
    identifier.first ≠ '.' := by
  have starts := identifier.starts
  rintro isDot
  rw [isDot] at starts
  exact absurd starts (by decide)

theorem reads_dot
    (ends : rest.head?.any Text.isBlank = false) :
    dot.Reads before index ['.'] rest [] := by
  have noBlanks (before : Option Char) (index : Nat) :
      blanks.Reads before index [] ([] ++ rest) [] :=
    reads_blanks (List.forall_mem_nil _) ends
  have isDot (before : Option Char) (index : Nat) :
      (Pattern.char '.').Reads before index ['.'] ([] ++ rest) [] :=
    reads_char '.'
  have none (before : Option Char) (index : Nat) :
      blanks.Reads before index [] (['.'] ++ rest) [] :=
    reads_blanks (List.forall_mem_nil _) (show Text.isBlank '.' = false by decide)
  exact (none _ _).seq ((isDot _ _).seq ((noBlanks _ _).seq reads_nothing))

theorem QualifiedName.reads
    (name : QualifiedName)
    (endsName : EndsName rest) :
    (namePart.seq (.star (dot.seq namePart))).Reads before index name.text rest [] := by
  obtain ⟨qualifier, name⟩ := name
  cases qualifier with
  | none =>
      have part : namePart.Reads before index name.text ([] ++ rest) [] :=
        (name.reads endsName.ends).alt_left
      have whole := part.seq (reads_star_nothing endsName.refuses_dot)
      rwa [List.append_nil] at whole
  | some qualifier =>
      have part : namePart.Reads before index qualifier.text ('.' :: name.text ++ rest) [] :=
        (qualifier.reads (show ('.' :: name.text ++ rest).head?.any _ = false from rfl)).alt_left
      have noBlank : (name.text ++ rest).head?.any Text.isBlank = false :=
        name.noBlank_of_mem (.head _)
      have again (before : Option Char) (index : Nat) :
          (dot.seq namePart).Reads before index ('.' :: name.text) rest [] :=
        (reads_dot noBlank).seq (name.reads endsName.ends).alt_left
      have once := reads_star_once (again (Text.lastOr before qualifier.text)
        (index + qualifier.text.length)) (List.cons_ne_nil _ _) endsName.refuses_dot
      exact part.seq once

/-! ## Aliases -/

/-- White space, perhaps the word AS, and an alias. -/
def aliasPart : Pattern :=
  .all [someBlanks, optionalWord "as", .group 2 .identifier]

/-- A name behind a blank is no AS in front of another name. -/
theorem reads_behindBlank
    {last : Pattern}
    {c : Char}
    {found : List Capture}
    (starts : Text.startsIdentifier c = true)
    (continues : ∀ d ∈ name, Text.continuesIdentifier d = true)
    (isOther : (c :: name).map Text.foldLetter ≠ "as".toList)
    (ends : rest.head?.any Text.continuesIdentifier = false)
    (reads : ∀ before, last.Reads before (index + 1) (c :: name) rest found) :
    (someBlanks.seq ((optionalWord "as").seq last)).Reads before index (' ' :: c :: name) rest
      found := by
  have allContinue : ∀ d ∈ c :: name, Text.continuesIdentifier d = true :=
    List.forall_mem_cons.mpr ⟨continuesIdentifier_of_starts starts, continues⟩
  have noBlank := Text.isBlank_of_continuesIdentifier (allContinue c (.head _))
  have noAs (before : Option Char) :
      (optionalWord "as").Reads before (index + 1) [] (c :: name ++ rest) [] :=
    reads_optional_nothing (refuses_word (by decide) allContinue ends isOther)
  have blank : someBlanks.Reads before index [' '] (c :: name ++ rest) [] := reads_blank noBlank
  have whole := blank.seq ((noAs _).seq (reads _))
  rwa [List.append_nil, List.append_nil] at whole

/-- A name behind the word AS is read behind it. -/
theorem reads_behindAs
    {last : Pattern}
    {found : List Capture}
    (noBlank : (name ++ rest).head?.any Text.isBlank = false)
    (reads : ∀ before, last.Reads before (index + 4) name rest found) :
    (someBlanks.seq ((optionalWord "as").seq last)).Reads before index (" AS ".toList ++ name) rest
      found := by
  have asWord (before : Option Char) (index : Nat) :
      (optionalWord "as").Reads before index "AS ".toList (name ++ rest) [] := by
    have word : (letters "as").Reads before index "AS".toList ([' '] ++ (name ++ rest)) [] :=
      reads_letters (by decide)
    exact (word.seq (reads_blank noBlank)).optional
  have blank : someBlanks.Reads before index [' '] ("AS ".toList ++ name ++ rest) [] :=
    reads_blank (show Text.isBlank 'A' = false by decide)
  have whole := blank.seq ((asWord _ _).seq (reads _))
  rwa [List.append_nil, List.append_nil] at whole

/-- A name behind a blank is read as an alias, unless it is AS. -/
theorem reads_alias
    {c : Char}
    (starts : Text.startsIdentifier c = true)
    (continues : ∀ d ∈ name, Text.continuesIdentifier d = true)
    (isOther : (c :: name).map Text.foldLetter ≠ "as".toList)
    (ends : rest.head?.any Text.continuesIdentifier = false) :
    aliasPart.Reads before index (' ' :: c :: name) rest [⟨2, index + 1, c :: name⟩] :=
  reads_behindBlank starts continues isOther ends fun _ =>
    ((reads_identifier starts continues ends).group 2).last

/-- What stands behind the word AS is read as an alias. -/
theorem Identifier.reads_alias_as
    (identifier : Identifier)
    (ends : rest.head?.any Text.continuesIdentifier = false) :
    aliasPart.Reads before index (" AS ".toList ++ identifier.text) rest
      [⟨2, index + 4, identifier.text⟩] :=
  reads_behindAs (identifier.noBlank_of_mem (.head _)) fun _ =>
    ((identifier.reads ends).group 2).last

/-- What can follow a table with its alias: nothing, a blank at the end, a comma, or a
condition. -/
inductive EndsItem : Text → Prop where
  | nothing : EndsItem []
  | blank : EndsItem [' ']
  | comma (rest : Text) : EndsItem (',' :: rest)
  | condition {word : Text} (isWord : word ∈ (["ON", "USING"] : List Text)) (rest : Text) :
    EndsItem (' ' :: (word ++ ' ' :: rest))

theorem EndsItem.endsName (endsItem : EndsItem rest) :
    EndsName rest := by
  cases endsItem with
  | nothing => exact ⟨rfl, by simp⟩
  | blank => exact ⟨by decide, by decide⟩
  | comma rest =>
      refine ⟨show Text.continuesIdentifier ',' = false by decide, ?_⟩
      rw [List.dropWhile_cons_of_neg (by decide)]
      simp
  | condition isWord rest =>
      simp only [List.mem_cons, List.not_mem_nil, or_false] at isWord
      rcases isWord with rfl | rfl
      · exact endsName_blank (show Text.isBlank 'O' = false by decide) (by decide) _
      · exact endsName_blank (show Text.isBlank 'U' = false by decide) (by decide) _

/-- Nothing is read as an alias where no name starts. -/
theorem refuses_aliasPart
    (noName : (rest.dropWhile Text.isBlank).head?.any Text.startsIdentifier = false) :
    aliasPart.Refuses before rest := by
  rintro _ others rfl ⟨blanks, _, rfl, isBlanks, asWord, _, rfl, isAs, name, _, rfl, isName, rfl⟩
  obtain ⟨-, blank⟩ := covers_someBlanks.mp isBlanks
  obtain ⟨c, more, rfl, starts, -⟩ := covers_identifier.mp isName
  have startsName : ∃ d tail, asWord ++ (c :: more) = d :: tail ∧
      Text.startsIdentifier d = true := by
    rcases isAs with ⟨letters, gap, rfl, isLetters, -⟩ | nothing
    · obtain ⟨d, tail, rfl, folds, -⟩ := List.map_eq_cons_iff.mp (covers_letters.mp isLetters)
      refine ⟨d, _, rfl, ?_⟩
      rw [Text.startsIdentifier, folds]
      decide
    · obtain rfl : asWord = [] := nothing
      exact ⟨c, more, rfl, starts⟩
  obtain ⟨d, tail, equal, startsHere⟩ := startsName
  have noBlank := Text.isBlank_of_continuesIdentifier (continuesIdentifier_of_starts startsHere)
  rw [List.append_nil, equal, List.append_assoc, List.dropWhile_append_of_pos blank,
    List.cons_append, List.dropWhile_cons_of_neg (by simp [noBlank])] at noName
  rw [List.head?_cons, Option.any_some, startsHere] at noName
  exact absurd noName (by decide)

/-- An alias is read up to its end. -/
theorem Alias.reads
    (aliasName : Alias)
    (endsItem : EndsItem rest) :
    EndsName (aliasName.text ++ rest) ∧ ∀ before index, ∃ start,
      aliasPart.Reads before index aliasName.text rest [⟨2, start, aliasName.name.text⟩] := by
  obtain ⟨usesAs, name⟩ := aliasName
  have ends := endsItem.endsName.ends
  cases usesAs with
  | false =>
      have isOther := name.map_foldLetter_ne (show Text.IsSmallWord "as" by decide) (by decide)
      exact ⟨endsName_blank (name.noBlank_of_mem (.head _)) name.first_ne_dot _, fun _ _ =>
        ⟨_, reads_alias (startsIdentifier_of_plain name.starts)
          (fun c present => name.continuesIdentifier_of_mem c (.tail _ present)) isOther ends⟩⟩
  | true =>
      exact ⟨endsName_blank (show Text.isBlank 'A' = false by decide) (by decide) _,
        fun _ _ => ⟨_, name.reads_alias_as ends⟩⟩

/-- Behind a table without an alias, nothing is taken for one, or a word that can be none. -/
theorem EndsItem.exists_noAlias (endsItem : EndsItem rest) :
    ∃ run more, rest = run ++ more ∧ ∀ before index, ∃ found,
      aliasPart.optional.Reads before index run more found ∧
        (found = [] ∨ ∃ start name, found = [⟨2, start, name⟩] ∧
          isAmong nonAliasWords name = true) := by
  have nothing (noName : (rest.dropWhile Text.isBlank).head?.any Text.startsIdentifier = false) :
      ∀ before index, ∃ found, aliasPart.optional.Reads before index [] rest found ∧
        (found = [] ∨ ∃ start name, found = [⟨2, start, name⟩] ∧
          isAmong nonAliasWords name = true) :=
    fun _ _ => ⟨[], reads_optional_nothing (refuses_aliasPart noName), .inl rfl⟩
  cases endsItem with
  | nothing => exact ⟨[], _, rfl, nothing rfl⟩
  | blank => exact ⟨[], _, rfl, nothing (by decide)⟩
  | comma rest =>
      refine ⟨[], _, rfl, nothing ?_⟩
      rw [List.dropWhile_cons_of_neg (by decide)]
      exact show Text.startsIdentifier ',' = false by decide
  | @condition word isWord rest =>
      have facts : ∀ word ∈ (["ON", "USING"] : List Text), ∃ c name, word = c :: name ∧
          Text.startsIdentifier c = true ∧ (∀ d ∈ name, Text.continuesIdentifier d = true) ∧
          word.map Text.foldLetter ≠ "as".toList ∧ isAmong nonAliasWords word = true := by
        simp only [List.mem_cons, List.not_mem_nil, or_false, forall_eq_or_imp, forall_eq]
        exact ⟨⟨_, _, rfl, by decide, List.all_eq_true.mp (by decide), by decide⟩,
          ⟨_, _, rfl, by decide, List.all_eq_true.mp (by decide), by decide⟩⟩
      obtain ⟨c, name, rfl, starts, continues, isOther, among⟩ := facts word isWord
      have ends : (' ' :: rest).head?.any Text.continuesIdentifier = false :=
        show Text.continuesIdentifier ' ' = false by decide
      exact ⟨' ' :: c :: name, ' ' :: rest, rfl, fun _ _ =>
        ⟨_, (reads_alias starts continues isOther ends).optional, .inr ⟨_, _, rfl, among⟩⟩⟩

/-- The alias of a table is read behind it, and what follows a table without one is not taken for an
alias. -/
theorem Item.exists_alias
    (item : Item)
    (endsItem : EndsItem rest) :
    ∃ run more, item.text ++ rest = item.table.text ++ (run ++ more) ∧ EndsName (run ++ more) ∧
      ∀ before index, ∃ found, aliasPart.optional.Reads before index run more found ∧
        ((found = [] ∧ item.aliasName = none) ∨ ∃ start name, found = [⟨2, start, name⟩] ∧
          (some name).filter (fun name => !isAmong nonAliasWords name) =
            item.aliasName.map (·.name.text)) := by
  obtain ⟨table, aliasName⟩ := item
  cases aliasName with
  | none =>
      obtain ⟨run, more, split, reads⟩ := endsItem.exists_noAlias
      refine ⟨run, more, by simp [Item.text, split], split ▸ endsItem.endsName, fun before index => ?_⟩
      obtain ⟨found, isRead, isFound⟩ := reads before index
      refine ⟨found, isRead, ?_⟩
      rcases isFound with nothing | ⟨start, name, rfl, among⟩
      · exact .inl ⟨nothing, rfl⟩
      · refine .inr ⟨start, name, rfl, ?_⟩
        rw [Option.filter_some, among]
        rfl
  | some aliasName =>
      obtain ⟨endsName, reads⟩ := aliasName.reads endsItem
      refine ⟨aliasName.text, rest, by simp [Item.text], endsName, fun before index => ?_⟩
      obtain ⟨start, isRead⟩ := reads before index
      have noWord : isAmong nonAliasWords aliasName.name.text = false :=
        aliasName.name.isPiece.not_isAmong (by decide)
      refine ⟨_, isRead.optional, .inr ⟨start, _, rfl, ?_⟩⟩
      rw [Option.filter_some, noWord]
      rfl

/-! ## References -/

/-- What a table with its alias is recorded as. -/
def Item.reference (item : Item) : Reference :=
  ⟨some item.table.text, item.aliasName.map (·.name.text)⟩

/-- A table starts with an identifier. -/
theorem Item.exists_first
    (item : Item)
    (endsItem : EndsItem rest) :
    ∃ (first : Identifier) (more : Text), item.text ++ rest = first.text ++ more ∧
      more.head?.any Text.continuesIdentifier = false := by
  obtain ⟨run, more, split, endsName, -⟩ := item.exists_alias endsItem
  rw [split]
  obtain ⟨⟨qualifier, name⟩, aliasName⟩ := item
  cases qualifier with
  | none => exact ⟨name, _, rfl, endsName.ends⟩
  | some qualifier =>
      refine ⟨qualifier, '.' :: (name.text ++ (run ++ more)), by simp [QualifiedName.text], ?_⟩
      exact show Text.continuesIdentifier '.' = false by decide

/-- The pattern for tables reads a table with its alias. -/
theorem Item.exists_occurrence
    (item : Item)
    (endsItem : EndsItem rest)
    {lead : Text}
    (isBlank : ∀ c ∈ lead, Text.isBlank c = true) :
    ∃ occurrence, tableReference.atStart? (lead ++ (item.text ++ rest)) = some occurrence ∧
      occurrence.groupText 1 = item.table.text ∧
      aliasOf occurrence = item.aliasName.map (·.name.text) := by
  obtain ⟨first, others, firstEq, ends⟩ := item.exists_first endsItem
  obtain ⟨run, more, split, endsName, aliasAt⟩ := item.exists_alias endsItem
  rw [split, ← List.append_assoc] at firstEq
  obtain ⟨found, isAlias, isFound⟩ := aliasAt (Text.lastOr (Text.lastOr none lead) item.table.text)
    (0 + lead.length + item.table.text.length)
  have noWord {word : Text} (isSmallWord : word.IsSmallWord) (reserved : word ∈ reservedWords)
      (before : Option Char) :
      ((letters word).seq someBlanks).Refuses before (item.table.text ++ run ++ more) := by
    rw [firstEq]
    exact refuses_word isSmallWord first.continuesIdentifier_of_mem ends
      (first.map_foldLetter_ne isSmallWord reserved)
  have noPrefix (before : Option Char) (index : Nat) :
      (optional (((letters "lateral").seq someBlanks).alt ((letters "only").seq someBlanks))).Reads
        before index [] (item.table.text ++ run ++ more) [] :=
    reads_optional_nothing ((noWord (by decide) (by decide) _).alt
      (noWord (by decide) (by decide) _))
  have noBlank : (item.table.text ++ run ++ more).head?.any Text.isBlank = false := by
    rw [firstEq]
    exact first.noBlank_of_mem (.head _)
  have isTable (before : Option Char) (index : Nat) :
      (Pattern.group 1 (namePart.seq (.star (dot.seq namePart)))).Reads before index
        item.table.text (run ++ more) [⟨1, index, item.table.text⟩] :=
    (item.table.reads endsName).group 1
  have isLead : blanks.Reads none 0 lead (item.table.text ++ run ++ more) [] :=
    reads_blanks isBlank noBlank
  have start : textStart.Reads none 0 [] (lead ++ (item.table.text ++ run) ++ more) [] :=
    reads_textStart
  have whole := start.seq (isLead.seq ((noPrefix _ _).seq ((isTable _ _).seq isAlias.last)))
  have here := whole.occurrenceAt?
  have text : lead ++ (item.text ++ rest) = lead ++ (item.table.text ++ run) ++ more := by
    rw [split]
    simp
  rw [text]
  refine ⟨_, here, ?_, ?_⟩
  · rcases isFound with ⟨rfl, -⟩ | ⟨start, name, rfl, -⟩ <;> rfl
  · rcases isFound with ⟨rfl, noAlias⟩ | ⟨start, name, rfl, named⟩
    · rw [noAlias]
      rfl
    · exact named

theorem eq_of_covers_dot
    {run : Text}
    (covered : dot.Covers before run rest)
    (noBlank : ∀ c ∈ run, Text.isBlank c = false) :
    run = ['.'] := by
  obtain ⟨front, _, rfl, frontBlank, isDot⟩ := covers_blanks_cons.mp covered
  obtain ⟨_, rfl, isBack⟩ := covers_char_cons.mp isDot
  obtain ⟨back, _, rfl, backBlank, nothing⟩ := covers_blanks_cons.mp isBack
  obtain rfl := covers_all_nil.mp nothing
  have none {blanks : Text} (blank : ∀ c ∈ blanks, Text.isBlank c = true)
      (inRun : blanks ⊆ front ++ '.' :: (back ++ [])) : blanks = [] := by
    refine List.eq_nil_iff_forall_not_mem.mpr fun c present => ?_
    have isBlank := blank c present
    rw [noBlank c (inRun present)] at isBlank
    exact absurd isBlank (by decide)
  obtain rfl := none frontBlank (List.subset_append_left _ _)
  obtain rfl := none backBlank (by simp)
  rfl

/-- A name without white space is clean. -/
theorem cleanName_of_noBlank
    (noBlank : ∀ c ∈ name, Text.isBlank c = false) :
    cleanName name = name := by
  have ends : name.head?.any Text.isBlank = false ∧ name.getLast?.any Text.isBlank = false := by
    constructor
    · cases head : name.head? with
      | none => rfl
      | some c => exact noBlank c (List.mem_of_head? head)
    · cases last : name.getLast? with
      | none => rfl
      | some c => exact noBlank c (List.mem_of_getLast? last)
  have replaced (before : Option Char) (index : Nat) :
      dot.replaceFrom ['.'] 0 before index name = name := by
    clear ends
    induction name generalizing before index with
    | nil => rfl
    | cons c name inductionHypothesis =>
        have later := inductionHypothesis fun d present => noBlank d (.tail _ present)
        rw [replaceFrom]
        cases found : dot.occurrenceAt? ⟨before, index, c :: name⟩ with
        | none => exact congrArg (c :: ·) (later _ _)
        | some occurrence =>
            obtain ⟨run, others, equal, covered, start, stop, -⟩ := covers_of_occurrenceAt? found
            change c :: name = run ++ others at equal
            obtain rfl := eq_of_covers_dot covered fun d present => noBlank d (by
              rw [equal]
              exact List.mem_append_left _ present)
            obtain ⟨rfl, rfl⟩ := List.cons.inj equal
            have length : occurrence.length = 1 := by
              rw [Occurrence.length, start, stop]
              simp
            simp only [length]
            exact congrArg ('.' :: ·) (later _ _)
  rw [cleanName, Text.trim_of_ends ends.1 ends.2]
  exact replaced none 0

/-- A text that starts with an identifier starts with no parenthesis, and not with LATERAL in front of
one. -/
theorem Identifier.not_isDerived
    (identifier : Identifier)
    {lead : Text}
    (isBlank : ∀ c ∈ lead, Text.isBlank c = true)
    (ends : tail.head?.any Text.continuesIdentifier = false)
    (ascii : ∀ c ∈ tail, c.toNat < 0x80) :
    isDerived (lead ++ (identifier.text ++ tail)) = false := by
  have textAscii : ∀ c ∈ identifier.text ++ tail, c.toNat < 0x80 := by
    intro c present
    rcases List.mem_append.mp present with inText | inTail
    · exact ascii_of_isQueryChar (identifier.isPiece.chars c inText)
    · exact ascii c inTail
  have start : (lead ++ (identifier.text ++ tail)).dropWhile Text.isBlank =
      identifier.text ++ tail := by
    rw [List.dropWhile_append_of_pos isBlank]
    exact List.dropWhile_cons_of_neg (by simp [identifier.noBlank_of_mem (.head _)])
  have noOpen : "(".toList.isPrefixOf (identifier.text ++ tail).small = false := by
    refine Bool.eq_false_iff.mpr fun isPrefix => ?_
    obtain ⟨more, equal⟩ := List.isPrefixOf_iff_prefix.mp isPrefix
    have isOpen := (Text.smallLetter_eq_iff (by decide)).mp (List.cons.inj equal).1.symm
    have starts := identifier.starts
    rw [isOpen] at starts
    exact absurd starts (by decide)
  have noLateral {c : Char} (isSign : c.isAlpha = false)
      (isEnd : Text.continuesIdentifier c = false) :
      ("lateral".toList ++ [c]).isPrefixOf (identifier.text ++ tail).small = false := by
    refine Bool.eq_false_iff.mpr fun isPrefix => ?_
    obtain ⟨more, equal⟩ := List.isPrefixOf_iff_prefix.mp isPrefix
    rw [List.append_assoc] at equal
    obtain ⟨left, right, split, isLateral, rightEq⟩ := List.map_eq_append_iff.mp equal.symm
    obtain ⟨d, right, rfl, isHere, -⟩ := List.map_eq_cons_iff.mp rightEq
    obtain rfl := (Text.smallLetter_eq_iff isSign).mp isHere
    have folds : left.map Text.foldLetter = "lateral".toList := by
      have folded : ("lateral".toList).map Text.foldLetter = "lateral".toList := by decide
      rw [← folded, ← isLateral, List.map_map]
      exact List.map_congr_left fun e _ => (Text.foldLetter_smallLetter e).symm
    have isSmallWord : Text.IsSmallWord "lateral" := by decide
    obtain rfl := run_unique split identifier.continuesIdentifier_of_mem
      (continuesIdentifier_of_word isSmallWord folds) ends isEnd
    exact identifier.map_foldLetter_ne isSmallWord (by decide) folds
  have noBlank : "lateral (".toList.isPrefixOf (identifier.text ++ tail).small = false := by
    refine Bool.eq_false_iff.mpr fun isPrefix => ?_
    have shorter : ("lateral".toList ++ [' ']) <+: "lateral (".toList := ⟨['('], rfl⟩
    have whole := shorter.trans (List.isPrefixOf_iff_prefix.mp isPrefix)
    rw [← List.isPrefixOf_iff_prefix, noLateral (by decide) (by decide)] at whole
    exact absurd whole (by decide)
  rw [isDerived, start, Text.lower_of_ascii textAscii]
  rw [noOpen, noBlank, show "lateral(".toList = "lateral".toList ++ ['('] from rfl,
    noLateral (by decide) (by decide)]
  rfl

/-- A table with its alias is read back from the item of a FROM clause, or from what follows the
keywords of a join. -/
theorem Item.reference_eq
    (item : Item)
    {lead masked : Text}
    (isBlank : ∀ c ∈ lead, Text.isBlank c = true)
    (endsItem : EndsItem rest)
    (maskedEnds : EndsItem masked)
    (ascii : ∀ c ∈ masked, c.toNat < 0x80) :
    Query.reference (lead ++ (item.text ++ rest)) (lead ++ (item.text ++ masked)) =
      item.reference := by
  obtain ⟨first, more, firstEq, ends⟩ := item.exists_first maskedEnds
  obtain ⟨occurrence, found, table, aliasName⟩ := item.exists_occurrence endsItem isBlank
  have notDerived : isDerived (lead ++ (item.text ++ masked)) = false := by
    rw [firstEq]
    refine first.not_isDerived isBlank ends fun c present => ?_
    have inWhole : c ∈ item.text ++ masked := firstEq ▸ List.mem_append_right _ present
    rcases List.mem_append.mp inWhole with inItem | inMasked
    · exact ascii_of_isQueryChar (item.isPiece.chars c inItem)
    · exact ascii c inMasked
  have clean : cleanName item.table.text = item.table.text :=
    cleanName_of_noBlank fun c present =>
      (of_isSolidChar (List.all_eq_true.mp item.table.isSolid_text c present)).2.1
  have noWord : isAmong nonAliasWords item.table.text = false :=
    item.table.isPiece.not_isAmong (by decide)
  have noSelect : isAmong ["select"] item.table.text = false :=
    item.table.isPiece.not_isAmong (by decide)
  rw [Query.reference, notDerived, found]
  simp only [table, aliasName, clean, noWord, noSelect]
  rfl

end FromClause
end SqlReview
