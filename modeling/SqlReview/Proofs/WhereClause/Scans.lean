import Mathlib.Data.Bool.AllAny
import SqlReview.Proofs.WhereClause.Parts
import SqlReview.Proofs.WhereClause.Reading

/-!
# Scanning a WHERE clause

A condition is scanned twice, for columns that stand alone and for columns inside functions. Each scan
goes over a condition predicate by predicate: it finds the column of a predicate if the predicate has
the form that it looks for, and nothing else that counts. Behind a function, the NOT of an operator
looks like a column that stands alone; it is one of the words that are passed by.
-/

namespace SqlReview
namespace WhereClause

open Query Plain FromClause

variable {before : Option Char} {rest more closing : Text}

/-! ## Stretches without columns -/

/-- What connects a predicate to what follows it: nothing at the end, and otherwise a connective in
front of the next predicate. -/
inductive Closes : Text → Text → Prop where
  | last : Closes [] []
  | next (connective : Connective) (predicate : Predicate) (more : Text) :
    Closes (' ' :: (connective.text ++ [' '])) (predicate.text ++ more)

/-- A predicate starts with a name. -/
theorem Predicate.exists_head (predicate : Predicate) :
    ∃ c tail, predicate.operand = c :: tail ∧ isNameChar c = true := by
  have isName (identifier : Identifier) : isNameChar identifier.first = true := by
    rw [isNameChar, identifier.starts]
    rfl
  obtain ⟨function, ⟨qualifier, name⟩, comparator, value⟩ := predicate
  cases function with
  | some function => exact ⟨function.first, _, rfl, isName function⟩
  | none =>
      cases qualifier with
      | some qualifier => exact ⟨qualifier.first, _, rfl, isName qualifier⟩
      | none => exact ⟨name.first, _, rfl, isName name⟩

/-- A predicate does not start like an operator. -/
theorem Predicate.not_startsOperator
    (predicate : Predicate)
    (rest : Text) :
    ¬StartsOperator (predicate.text ++ rest) := by
  have piece := predicate.isPiece_operand
  have split : predicate.text ++ rest = predicate.operand ++ (predicate.compared ++ rest) := by
    simp [text, compared]
  rw [split]
  rintro (⟨c, head, isSign⟩ | ⟨word, more, equal, isOperatorWord, outside⟩)
  · have signs : ∀ sign ∈ ['=', '<', '>', '!'], isNameChar sign = false :=
      List.all_iff_forall_prop.mp (by decide)
    obtain ⟨d, tail, operandEq, isName⟩ := predicate.exists_head
    rw [operandEq] at head
    obtain rfl : d = c := Option.some.inj head
    rw [signs d isSign] at isName
    exact absurd isName (by decide)
  · have start : (Text.lastOr none []).any Text.isWord = false := rfl
    have present : word.map Text.foldLetter ∈ Text.words ([] ++ predicate.operand) :=
      mem_words_of_operatorWord equal isOperatorWord start outside rfl
    have found := (mem_keywords (operatorWords_forall _ isOperatorWord).2).mpr present
    rw [List.nil_append, piece.words] at found
    exact absurd found List.not_mem_nil

/-- A predicate does not start with white space. -/
theorem Predicate.dropWhile_text
    (predicate : Predicate)
    (rest : Text) :
    (predicate.text ++ rest).dropWhile Text.isBlank = predicate.text ++ rest := by
  obtain ⟨c, tail, equal⟩ := List.exists_cons_of_ne_nil predicate.isOutline.tight.nonempty
  have noBlank := predicate.isOutline.tight.starts
  rw [equal] at noBlank ⊢
  exact List.dropWhile_cons_of_neg (by simpa using noBlank)

/-- What ends a value: nothing, or a blank. -/
def EndsValue (rest : Text) : Prop :=
  rest = [] ∨ ∃ more, rest = ' ' :: more

theorem Closes.endsValue (closes : Closes closing rest) :
    EndsValue (closing ++ rest) := by
  cases closes with
  | last => exact .inl rfl
  | next connective predicate more => exact .inr ⟨_, rfl⟩

theorem of_isNumeralChar
    {c : Char}
    (isDigit : isNumeralChar c = true) :
    Text.startsIdentifier c = false ∧ Text.isBlank c = false ∧ c ∉ ['=', '<', '>', '!'] := by
  have isName : isNameChar c = true := by
    rw [isNumeralChar] at isDigit
    rw [isNameChar, isDigit, Bool.or_true]
  revert isDigit
  apply Text.forall_ascii _ c (ascii_of_isNameChar isName)
  decide

/-- No column of a comparison starts in a value, whatever its literal holds. -/
theorem Value.isQuiet_plainColumn
    (value : Value)
    (ends : EndsValue rest) :
    plainColumn.IsQuiet before value.text rest := by
  cases value with
  | number numeral =>
      refine Query.isQuiet_plainColumn fun c present => ?_
      exact (of_isNumeralChar (numeral.digits c present)).1
  | literal content =>
      have signs : ∀ sign ∈ ['=', '<', '>', '!', '$'], isLiteralChar sign = false ∧ sign ≠ '\'' := by
        exact List.all_iff_forall_prop.mp (by decide)
      have absent {sign : Char} (isSign : sign ∈ ['=', '<', '>', '!', '$']) :
          sign ∉ Value.text (.literal content) := by
        obtain ⟨noLiteral, noQuote⟩ := signs sign isSign
        have outside : sign ∉ content.text := fun present => by
          rw [content.plain sign present] at noLiteral
          exact absurd noLiteral (by decide)
        simp [Value.text, outside, noQuote]
      refine isQuiet_plainColumn_of_solid ?_ (fun c present isSign => ?_) (.inl ?_) ?_ ?_
      · have quote : Text.isBlank '\'' = false := by decide
        have inside : ∀ c ∈ content.text, Text.isBlank c = false := fun c present =>
          (of_isSolidChar (isSolidChar_of_isLiteralChar (content.plain c present))).2.1
        simpa [Value.text, or_imp, forall_and, quote] using inside
      · exact absent (List.mem_append_left ['$'] isSign) present
      · exact absent (by decide)
      · rcases ends with rfl | ⟨more, rfl⟩
        · rfl
        · exact show isColumnChar ' ' = false by decide
      · intro isColumn
        rw [Value.text, List.getLast?_cons, List.getLast?_concat] at isColumn
        exact absurd isColumn (by decide)

theorem isQuiet_blank : plainColumn.IsQuiet before [' '] rest :=
  Query.isQuiet_plainColumn (List.forall_mem_singleton.mpr (by decide))

/-- No column of a comparison starts between two predicates. -/
theorem Closes.isQuiet_plainColumn (closes : Closes closing rest) :
    plainColumn.IsQuiet before closing rest := by
  cases closes with
  | last => exact Query.isQuiet_plainColumn (List.forall_mem_nil _)
  | next connective predicate more =>
      have word : plainColumn.IsQuiet (some ' ') connective.text
          ([' '] ++ (predicate.text ++ more)) := by
        refine isQuiet_plainColumn_of_solid ?_ ?_ (.inl ?_) rfl fun _ => ?_
        · cases connective <;> exact List.all_iff_forall_prop.mp (by decide)
        · cases connective <;> exact List.all_iff_forall_prop.mp (by decide)
        · cases connective <;> decide
        · rw [List.singleton_append, List.dropWhile_cons_of_pos (by decide), predicate.dropWhile_text]
          exact predicate.not_startsOperator more
      exact isQuiet_blank.append (word.append isQuiet_blank)

/-- No column of a comparison starts behind an operator, up to the next predicate. -/
theorem isQuiet_compared
    (value : Value)
    (closes : Closes closing rest) :
    plainColumn.IsQuiet before (' ' :: (value.text ++ closing)) rest := by
  have blank : plainColumn.IsQuiet before [' '] (value.text ++ closing ++ rest) := isQuiet_blank
  refine blank.append (.append (value.isQuiet_plainColumn closes.endsValue) ?_)
  exact closes.isQuiet_plainColumn

/-- What starts an operator starts with a sign or a letter. -/
theorem head_of_startsOperator
    {c : Char}
    {tail : Text}
    (starts : StartsOperator (c :: tail)) :
    c ∈ ['=', '<', '>', '!'] ∨ Text.startsIdentifier c = true := by
  rcases starts with ⟨d, head, isSign⟩ | ⟨word, more, equal, isOperatorWord, -⟩
  · obtain rfl : c = d := Option.some.inj head
    exact .inl isSign
  · have letters : ∀ word ∈ operatorWords, word.head?.any (fun d => 'a' ≤ d && d ≤ 'z') = true := by
      decide
    have isLetter := letters _ isOperatorWord
    cases word with
    | nil => exact absurd isLetter (by decide)
    | cons d word =>
        obtain rfl : c = d := (List.cons.inj equal).1
        right
        rw [Text.startsIdentifier, show (_ && _) = true from isLetter, Bool.true_or]

/-- No column of a comparison starts in an operator that is not behind NOT. -/
theorem Comparator.isQuiet_plainColumn
    (comparator : Comparator)
    (noNot : comparator ≠ .notLike ∧ comparator ≠ .notIlike)
    (value : Value) :
    plainColumn.IsQuiet before comparator.text (' ' :: (value.text ++ rest)) := by
  have noOperator : ¬StartsOperator ((' ' :: (value.text ++ rest)).dropWhile Text.isBlank) := by
    obtain ⟨c, tail, equal, noName, noBlank, noSign⟩ : ∃ c tail, value.text = c :: tail ∧
        Text.startsIdentifier c = false ∧ Text.isBlank c = false ∧ c ∉ ['=', '<', '>', '!'] := by
      cases value with
      | number numeral =>
          obtain ⟨c, tail, equal⟩ := List.exists_cons_of_ne_nil numeral.nonempty
          exact ⟨c, tail, equal, of_isNumeralChar (numeral.digits c (by rw [equal]; exact .head _))⟩
      | literal content => exact ⟨'\'', _, rfl, by decide, by decide, by decide⟩
    rw [List.dropWhile_cons_of_pos (by decide), equal, List.cons_append,
      List.dropWhile_cons_of_neg (by simp [noBlank])]
    intro starts
    rcases head_of_startsOperator starts with isSign | isName
    · exact noSign isSign
    · rw [noName] at isName
      exact absurd isName (by decide)
  have word (noBlank : ∀ c ∈ comparator.text, Text.isBlank c = false)
      (noSign : ∀ c ∈ comparator.text, c ∉ ['=', '<', '>', '!']) (noDollar : '$' ∉ comparator.text) :
      plainColumn.IsQuiet before comparator.text (' ' :: (value.text ++ rest)) :=
    isQuiet_plainColumn_of_solid noBlank noSign (.inl noDollar) rfl fun _ => noOperator
  cases comparator with
  | like | ilike =>
      exact word (List.all_iff_forall_prop.mp (by decide))
        (List.all_iff_forall_prop.mp (by decide)) (by decide)
  | notLike => exact absurd rfl noNot.1
  | notIlike => exact absurd rfl noNot.2
  | eq | ne | otherThan | lt | gt | le | ge =>
      exact Query.isQuiet_plainColumn (List.all_iff_forall_prop.mp (by decide))

/-- No column of a comparison starts in a function applied to a column. -/
theorem Predicate.isQuiet_operand
    (predicate : Predicate)
    (isCall : predicate.function.isSome = true) :
    plainColumn.IsQuiet before predicate.operand (' ' :: rest) := by
  have noSign : ∀ sign ∈ ['=', '<', '>', '!'], isNameChar sign = false ∧
      operandSigns.contains sign = false := by
    exact List.all_iff_forall_prop.mp (by decide)
  refine isQuiet_plainColumn_of_solid ?_ (fun c present isSign => ?_)
    (.inr fun word present isOperatorWord => ?_) rfl fun isColumn => ?_
  · intro c present
    rcases Bool.or_eq_true _ _ ▸ List.all_eq_true.mp predicate.uses_operand c present with
      isName | isSign
    · exact (of_isNameChar isName).2.1
    · have signs : ∀ sign ∈ operandSigns, Text.isBlank sign = false :=
        List.all_iff_forall_prop.mp (by decide)
      exact signs c (List.contains_iff_mem.mp isSign)
  · obtain ⟨noName, noOperand⟩ := noSign c isSign
    exact predicate.uses_operand.not_mem noName noOperand present
  · have found := (mem_keywords (operatorWords_forall word isOperatorWord).2).mpr present
    rw [predicate.isPiece_operand.words] at found
    exact absurd found List.not_mem_nil
  · obtain ⟨function, column, comparator, value⟩ := predicate
    obtain ⟨function, rfl⟩ := Option.isSome_iff_exists.mp isCall
    change (function.text ++ ('(' :: column.text ++ [')'])).getLast?.any isColumnChar = true
      at isColumn
    rw [← List.append_assoc, List.getLast?_concat] at isColumn
    exact absurd isColumn (by decide)

/-! ## Wildcards -/

theorem Value.startsWildcard_of_text
    (value : Value)
    (ends : EndsValue rest)
    (starts : Plain.startsWildcard (' ' :: (value.text ++ rest)) = true) :
    value.startsWildcard = true := by
  rw [Plain.startsWildcard, List.dropWhile_cons_of_pos (by decide)] at starts
  cases value with
  | number numeral =>
      have noQuote : rest.head? ≠ some '\'' := by
        rcases ends with rfl | ⟨more, rfl⟩ <;> simp
      have nothing := not_startsWildcard numeral.nonempty (plain_of_isSolid numeral.isSolid_text)
        noQuote
      rw [Plain.startsWildcard] at nothing
      exact absurd (nothing.symm.trans starts) (by decide)
  | literal content =>
      rw [Value.text, List.cons_append, List.append_assoc,
        List.dropWhile_cons_of_neg (by decide)] at starts
      exact decide_eq_true (head?_of_startsQuoted starts)

/-- A wildcard is found behind an operator just if the operator matches a pattern and the value starts
with one. -/
theorem matchesLeadingWildcard_eq
    {view front : Text}
    {occurrence : Occurrence}
    {comparator : Comparator}
    {value : Value}
    (split : view = front ++ ' ' :: (value.text ++ rest))
    (ends : EndsValue rest)
    (stop : occurrence.stop = front.length)
    (op : occurrence.groupText 3 = comparator.text) :
    matchesLeadingWildcard view occurrence = (comparator.isMatch && value.startsWildcard) := by
  have isLike : Text.holds "like" (Text.lower comparator.text) = comparator.isMatch := by
    cases comparator <;> decide
  have behind : (Place.within view occurrence.stop).rest = ' ' :: (value.text ++ rest) := by
    rw [Place.within, stop, split, List.drop_left]
  have fits : leadingWildcard.fitsAt (Place.within view occurrence.stop) =
      value.startsWildcard := by
    rw [Bool.eq_iff_iff]
    refine ⟨fun fits => ?_, fun starts => ?_⟩
    · have starts := startsWildcard_of_fitsAt fits
      rw [behind] at starts
      exact value.startsWildcard_of_text ends starts
    · cases value with
      | number numeral => exact absurd starts Bool.false_ne_true
      | literal content =>
          obtain ⟨tail, equal⟩ := List.head?_eq_some_iff.mp (of_decide_eq_true starts)
          refine Pattern.occurrenceAt?_isSome_iff.mpr ⟨" '%", tail ++ '\'' :: rest, ?_, ?_⟩
          · rw [behind, Value.text, equal]
            simp
          · refine Pattern.covers_blanks_cons.mpr ⟨" ", "'%", rfl, fun _ => isBlank_of_mem, ?_⟩
            refine Pattern.covers_all_cons.mpr ⟨[], "'%", rfl, .inr rfl, ?_⟩
            exact Pattern.covers_letters_cons.mpr ⟨"'%", [], rfl, by decide, rfl⟩
  rw [matchesLeadingWildcard, op, isLike, fits]

/-! ## Steps -/

/-- One of the two scans of a condition. -/
structure Scan where
  /-- What is looked for. -/
  pattern : Pattern
  /-- Which occurrences count. -/
  counts : Occurrence → Bool
  /-- Whether a function is applied to the columns found. -/
  isWrapped : Bool

/-- The scan for columns that stand alone. -/
def plainScan : Scan :=
  ⟨plainColumn, fun occurrence => !isAmong sqlWords (occurrence.groupText 2), false⟩

/-- The scan for columns inside functions. -/
def wrappedScan : Scan :=
  ⟨wrappedColumn, fun occurrence => !isAmong nonFunctionWords (occurrence.groupText 1), true⟩

namespace Scan

variable (scan : Scan) {view : Text} {index : Nat}

/-- The comparisons found from a place on. -/
def comparisons (view : Text) (before : Option Char) (index : Nat) (text : Text) : List Comparison :=
  ((scan.pattern.occurrencesFrom 0 before index text).filter scan.counts).map
    (comparison view scan.isWrapped)

theorem comparisons_quiet
    {stretch : Text}
    (isQuiet : scan.pattern.IsQuiet before stretch rest) :
    scan.comparisons view before index (stretch ++ rest) =
      scan.comparisons view (Text.lastOr before stretch) (index + stretch.length) rest := by
  rw [comparisons, Pattern.occurrencesFrom_quiet isQuiet]
  rfl

theorem comparisons_found
    {run : Text}
    {found : List Capture}
    (reads : scan.pattern.Reads before index run rest found)
    (nonempty : run ≠ [])
    (counts : scan.counts ⟨index, index + run.length, run, found⟩ = true) :
    scan.comparisons view before index (run ++ rest) =
      comparison view scan.isWrapped ⟨index, index + run.length, run, found⟩ ::
        scan.comparisons view (Text.lastOr before run) (index + run.length) rest := by
  rw [comparisons, Pattern.occurrencesFrom_of_occurrenceAt? reads.occurrenceAt?
    (by simp [Occurrence.length]) nonempty, List.filter_cons_of_pos counts]
  rfl

theorem comparisons_passed
    {run : Text}
    {found : List Capture}
    (reads : scan.pattern.Reads before index run rest found)
    (nonempty : run ≠ [])
    (passed : scan.counts ⟨index, index + run.length, run, found⟩ = false) :
    scan.comparisons view before index (run ++ rest) =
      scan.comparisons view (Text.lastOr before run) (index + run.length) rest := by
  rw [comparisons, Pattern.occurrencesFrom_of_occurrenceAt? reads.occurrenceAt?
    (by simp [Occurrence.length]) nonempty, List.filter_cons_of_neg (by simp [passed])]
  rfl

end Scan

/-- The comparison of a predicate that starts at an offset. -/
def Predicate.comparisonAt (predicate : Predicate) (index : Nat) : Comparison :=
  { start := index + predicate.lead.length
    name := predicate.column.text
    isWrapped := predicate.function.isSome
    hasLeadingWildcard := predicate.hasWildcard }

/-- Whether a scan finds the column of a predicate behind a blank, if the predicate has the form that it
looks for, and goes on at the next predicate. -/
def Scan.Steps (scan : Scan) : Prop :=
  ∀ (lead : Text) (predicate : Predicate) (closing rest : Text), Closes closing rest →
    scan.comparisons (lead ++ (predicate.text ++ (closing ++ rest))) (some ' ') lead.length
        (predicate.text ++ (closing ++ rest)) =
      [predicate.comparisonAt lead.length].filter (·.isWrapped = scan.isWrapped) ++
        scan.comparisons (lead ++ (predicate.text ++ (closing ++ rest))) (some ' ')
          (lead.length + (predicate.text ++ closing).length) rest

/-- In front of what follows a predicate stands a blank, or nothing follows. -/
theorem Closes.comparisons_eq
    (closes : Closes closing rest)
    (scan : Scan)
    (view : Text)
    (index : Nat) :
    scan.comparisons view (Text.lastOr before closing) index rest =
      scan.comparisons view (some ' ') index rest := by
  cases closes with
  | last => rfl
  | next connective predicate more =>
      rw [← List.cons_append, Text.lastOr_append]
      rfl

/-- The operand and the operator of a predicate. -/
def Predicate.opening (predicate : Predicate) : Text :=
  predicate.operand ++ ' ' :: predicate.comparator.text

theorem Predicate.text_append
    (predicate : Predicate)
    (closing rest : Text) :
    predicate.text ++ (closing ++ rest) =
      predicate.opening ++ (' ' :: (predicate.value.text ++ closing) ++ rest) := by
  simp [text, opening]

/-- Where a scan finds what it should in front of a value and nothing from there to the next predicate,
it has gone over the predicate. -/
theorem Scan.step
    {scan : Scan}
    {predicate : Predicate}
    {view : Text}
    {index : Nat}
    {found : List Comparison}
    (closes : Closes closing rest)
    (isQuiet : ∀ before,
      scan.pattern.IsQuiet before (' ' :: (predicate.value.text ++ closing)) rest)
    (compares : scan.comparisons view (some ' ') index
        (predicate.opening ++ (' ' :: (predicate.value.text ++ closing) ++ rest)) =
      found ++ scan.comparisons view (Text.lastOr (some ' ') predicate.opening)
        (index + predicate.opening.length) (' ' :: (predicate.value.text ++ closing) ++ rest)) :
    scan.comparisons view (some ' ') index (predicate.text ++ (closing ++ rest)) =
      found ++ scan.comparisons view (some ' ') (index + (predicate.text ++ closing).length) rest := by
  have length : (predicate.text ++ closing).length =
      predicate.opening.length + (' ' :: (predicate.value.text ++ closing)).length := by
    simp only [Predicate.text, Predicate.opening, List.length_append, List.length_cons]
    omega
  rw [predicate.text_append, compares, scan.comparisons_quiet (isQuiet _), ← List.cons_append,
    Text.lastOr_append, closes.comparisons_eq, length, Nat.add_assoc]
  rfl

/-- The scan for columns that stand alone passes an operator by: it takes NOT for a column, but for none
that counts. -/
theorem comparisons_operator
    {view : Text}
    {index : Nat}
    (comparator : Comparator)
    (value : Value) :
    plainScan.comparisons view (some ' ') index (comparator.text ++ (' ' :: (value.text ++ rest))) =
      plainScan.comparisons view (Text.lastOr (some ' ') comparator.text)
        (index + comparator.text.length) (' ' :: (value.text ++ rest)) := by
  have behindNot {word : Text} (isLike : word ∈ (["LIKE", "ILIKE"] : List Text)) :
      plainScan.comparisons view (some ' ') index
          ("NOT".toList ++ ' ' :: word ++ (' ' :: (value.text ++ rest))) =
        plainScan.comparisons view (Text.lastOr (some ' ') ("NOT".toList ++ ' ' :: word))
          (index + ("NOT".toList ++ ' ' :: word).length) (' ' :: (value.text ++ rest)) := by
    have isName : columnName.Reads (some ' ') index "NOT".toList
        (' ' :: word ++ (' ' :: (value.text ++ rest))) [] :=
      reads_columnName_identifier (by decide) (List.all_iff_forall_prop.mp (by decide)) rfl
    have noBlank : (word ++ (' ' :: (value.text ++ rest))).head?.any Text.isBlank = false := by
      simp only [List.mem_cons, List.not_mem_nil, or_false] at isLike
      rcases isLike with rfl | rfl
      · exact show Text.isBlank 'L' = false by decide
      · exact show Text.isBlank 'I' = false by decide
    have reads := reads_plainColumn isName (fun index => (reads_like isLike index _).1) noBlank
    exact plainScan.comparisons_passed reads (List.cons_ne_nil _ _)
      (congrArg not (show isAmong sqlWords "NOT" = true by decide))
  by_cases noNot : comparator ≠ .notLike ∧ comparator ≠ .notIlike
  · exact plainScan.comparisons_quiet (comparator.isQuiet_plainColumn noNot value)
  · cases comparator with
    | notLike => exact behindNot (.head _)
    | notIlike => exact behindNot (.tail _ (.head _))
    | eq | ne | otherThan | lt | gt | le | ge | like | ilike => exact absurd (by decide) noNot

/-- What is recorded for the operand and the operator of a predicate is the comparison of the
predicate. -/
theorem Predicate.comparison_eq
    (predicate : Predicate)
    (lead : Text)
    {index : Nat}
    {captures : List Capture}
    (ends : EndsValue rest) :
    comparison (lead ++ (predicate.opening ++ ' ' :: (predicate.value.text ++ rest)))
        predicate.function.isSome
        ⟨lead.length, lead.length + predicate.opening.length, predicate.opening,
          ⟨3, index, predicate.comparator.text⟩ ::
            ⟨2, lead.length + predicate.lead.length, predicate.column.text⟩ :: captures⟩ =
      predicate.comparisonAt lead.length := by
  rw [comparison, matchesLeadingWildcard_eq (List.append_assoc _ _ _).symm ends
    (List.length_append).symm rfl]
  rfl

/-- The scan for columns that stand alone finds none in a call. -/
theorem plainScan_call
    {predicate : Predicate}
    {view : Text}
    {index : Nat}
    (isCall : predicate.function.isSome = true) :
    plainScan.comparisons view (some ' ') index
        (predicate.opening ++ ' ' :: (predicate.value.text ++ rest)) =
      plainScan.comparisons view (Text.lastOr (some ' ') predicate.opening)
        (index + predicate.opening.length) (' ' :: (predicate.value.text ++ rest)) := by
  have split : predicate.opening ++ ' ' :: (predicate.value.text ++ rest) =
      predicate.operand ++ ([' '] ++ (predicate.comparator.text ++
        ' ' :: (predicate.value.text ++ rest))) := by
    simp [Predicate.opening]
  have operand : plainScan.pattern.IsQuiet (some ' ') predicate.operand
      ([' '] ++ (predicate.comparator.text ++ ' ' :: (predicate.value.text ++ rest))) :=
    predicate.isQuiet_operand isCall
  have blank : plainScan.pattern.IsQuiet (Text.lastOr (some ' ') predicate.operand) [' ']
      (predicate.comparator.text ++ ' ' :: (predicate.value.text ++ rest)) :=
    isQuiet_blank
  have front : predicate.opening = predicate.operand ++ ([' '] ++ predicate.comparator.text) := rfl
  rw [split, plainScan.comparisons_quiet operand, plainScan.comparisons_quiet blank]
  refine (comparisons_operator predicate.comparator predicate.value).trans ?_
  simp only [front, Text.lastOr_append, List.length_append, Nat.add_assoc]
  rfl

/-- A column that stands alone is found by the scan for such columns. -/
theorem plainScan_column
    {predicate : Predicate}
    (isAlone : predicate.function = none)
    (lead : Text)
    (ends : EndsValue rest) :
    plainScan.comparisons (lead ++ (predicate.opening ++ ' ' :: (predicate.value.text ++ rest)))
        (some ' ') lead.length (predicate.opening ++ ' ' :: (predicate.value.text ++ rest)) =
      predicate.comparisonAt lead.length ::
        plainScan.comparisons (lead ++ (predicate.opening ++ ' ' :: (predicate.value.text ++ rest)))
          (Text.lastOr (some ' ') predicate.opening) (lead.length + predicate.opening.length)
          (' ' :: (predicate.value.text ++ rest)) := by
  obtain ⟨function, column, comparator, value⟩ := predicate
  obtain rfl : function = none := isAlone
  have isName : columnName.Reads (some ' ') lead.length column.text
      (' ' :: comparator.text ++ ' ' :: (value.text ++ rest)) [] :=
    column.reads_columnName rfl
  have noBlank : (comparator.text ++ ' ' :: (value.text ++ rest)).head?.any Text.isBlank = false := by
    cases comparator <;> rfl
  have reads := reads_plainColumn isName (fun index => comparator.reads index _) noBlank
  have counts : isAmong sqlWords column.text = false := column.isPiece.not_isAmong_sqlWords
  refine (plainScan.comparisons_found reads (by simp) (congrArg not counts)).trans ?_
  exact congrArg (· :: _) (Predicate.comparison_eq _ lead ends)

theorem plainScan_steps : plainScan.Steps := by
  intro lead predicate closing rest closes
  refine Scan.step closes (fun _ => isQuiet_compared predicate.value closes) ?_
  have split : ' ' :: (predicate.value.text ++ closing) ++ rest =
      ' ' :: (predicate.value.text ++ (closing ++ rest)) := by
    simp
  rw [predicate.text_append, split]
  cases isCall : predicate.function with
  | some function =>
      rw [List.filter_cons_of_neg (by simp [Predicate.comparisonAt, isCall, plainScan])]
      exact plainScan_call (by rw [isCall]; rfl)
  | none =>
      rw [List.filter_cons_of_pos (by simp [Predicate.comparisonAt, isCall, plainScan])]
      exact plainScan_column isCall lead closes.endsValue

/-- In front of a predicate nothing can be a function. -/
theorem Predicate.head_text
    (predicate : Predicate)
    (rest : Text) :
    (predicate.text ++ rest).head?.any (fun c => Text.isBlank c || c = '(') = false := by
  obtain ⟨c, tail, equal, isName⟩ := predicate.exists_head
  obtain ⟨-, noBlank, -, isOpen, -⟩ := of_isNameChar isName
  rw [text, equal]
  simp [noBlank, isOpen]

/-- No call starts in a text without parentheses, up to the next predicate. -/
theorem Closes.isQuiet_wrappedColumn
    {text : Text}
    (closes : Closes closing rest)
    (noOpen : '(' ∉ text) :
    wrappedColumn.IsQuiet before (text ++ closing) rest := by
  cases closes with
  | last =>
      refine Query.isQuiet_wrappedColumn ?_ (.inl rfl) rfl
      simpa using noOpen
  | next connective predicate more =>
      have noOpenBehind : '(' ∉ ' ' :: (connective.text ++ [' ']) := by cases connective <;> decide
      refine Query.isQuiet_wrappedColumn ?_ (.inr ⟨' ', ?_, by decide⟩) ?_
      · rw [List.mem_append, not_or]
        exact ⟨noOpen, noOpenBehind⟩
      · rw [← List.cons_append, ← List.append_assoc, List.getLast?_concat]
      · exact predicate.head_text more

/-- A column inside a function is found by the scan for calls. -/
theorem wrappedScan_call
    {predicate : Predicate}
    (isCall : predicate.function.isSome = true)
    (lead : Text)
    (ends : EndsValue rest) :
    wrappedScan.comparisons (lead ++ (predicate.opening ++ ' ' :: (predicate.value.text ++ rest)))
        (some ' ') lead.length (predicate.opening ++ ' ' :: (predicate.value.text ++ rest)) =
      predicate.comparisonAt lead.length ::
        wrappedScan.comparisons (lead ++ (predicate.opening ++ ' ' :: (predicate.value.text ++ rest)))
          (Text.lastOr (some ' ') predicate.opening) (lead.length + predicate.opening.length)
          (' ' :: (predicate.value.text ++ rest)) := by
  obtain ⟨function, column, comparator, value⟩ := predicate
  obtain ⟨function, rfl⟩ := Option.isSome_iff_exists.mp isCall
  have noBlank : (comparator.text ++ ' ' :: (value.text ++ rest)).head?.any Text.isBlank = false := by
    cases comparator <;> rfl
  have reads : wrappedColumn.Reads (some ' ') lead.length _ (' ' :: (value.text ++ rest)) _ :=
    reads_wrappedColumn function column (fun index => comparator.reads index _) noBlank
  have opening : function.text ++ '(' :: (column.text ++ ')' :: ' ' :: comparator.text) =
      Predicate.opening ⟨some function, column, comparator, value⟩ := by
    simp [Predicate.opening, Predicate.operand]
  have start : lead.length + function.text.length + 1 =
      lead.length + (Predicate.lead ⟨some function, column, comparator, value⟩).length := by
    simp [Predicate.lead, Nat.add_assoc]
  have counts : isAmong nonFunctionWords function.text = false :=
    function.isPiece.not_isAmong (by decide)
  rw [opening, start] at reads
  refine (wrappedScan.comparisons_found reads (by simp [Predicate.opening])
    (congrArg not counts)).trans ?_
  exact congrArg (· :: _) (Predicate.comparison_eq _ lead ends)

theorem wrappedScan_steps : wrappedScan.Steps := by
  intro lead predicate closing rest closes
  have noOpen : '(' ∉ ' ' :: predicate.value.text := by
    simp [predicate.value.uses.not_mem (show isNameChar '(' = false by decide) (by decide)]
  cases isCall : predicate.function with
  | some function =>
      refine Scan.step closes (fun _ => closes.isQuiet_wrappedColumn noOpen) ?_
      have split : ' ' :: (predicate.value.text ++ closing) ++ rest =
          ' ' :: (predicate.value.text ++ (closing ++ rest)) := by
        simp
      rw [predicate.text_append, split,
        List.filter_cons_of_pos (by simp [Predicate.comparisonAt, isCall, wrappedScan])]
      exact wrappedScan_call (by rw [isCall]; rfl) lead closes.endsValue
  | none =>
      have noOpenBefore : '(' ∉ predicate.text := by
        have operand : predicate.operand = predicate.column.text := by
          rw [Predicate.operand, isCall]
        have compared : '(' ∉ predicate.compared :=
          predicate.uses_compared.not_mem (by decide) (by decide)
        change '(' ∉ predicate.operand ++ predicate.compared
        rw [operand, List.mem_append, not_or]
        exact ⟨noOpen_column _, compared⟩
      have isQuiet : wrappedScan.pattern.IsQuiet (some ' ') (predicate.text ++ closing) rest :=
        closes.isQuiet_wrappedColumn noOpenBefore
      rw [List.filter_cons_of_neg (by simp [Predicate.comparisonAt, isCall, wrappedScan]),
        ← List.append_assoc predicate.text, wrappedScan.comparisons_quiet isQuiet,
        Text.lastOr_append, closes.comparisons_eq]
      rfl

/-! ## Runs -/

/-- The comparisons of predicates that start at an offset. -/
def comparisonsAt (index : Nat) (first : Predicate) : Further → List Comparison
  | [] => [first.comparisonAt index]
  | (connective, next) :: others =>
    first.comparisonAt index ::
      comparisonsAt (index + (first.text ++ ' ' :: (connective.text ++ [' '])).length) next others

/-- A scan finds the columns of a condition that have the form it looks for. -/
theorem Scan.Steps.comparisons_text
    {scan : Scan}
    (steps : scan.Steps)
    (lead : Text)
    (first : Predicate)
    (others : Further) :
    scan.comparisons (lead ++ (first.text ++ furtherText others)) (some ' ') lead.length
        (first.text ++ furtherText others) =
      (comparisonsAt lead.length first others).filter (·.isWrapped = scan.isWrapped) := by
  induction others generalizing lead first with
  | nil => exact (steps lead first [] [] .last).trans (List.append_nil _)
  | cons other others inductionHypothesis =>
      obtain ⟨connective, next⟩ := other
      have split : furtherText ((connective, next) :: others) =
          ' ' :: (connective.text ++ [' ']) ++ (next.text ++ furtherText others) := by
        simp [furtherText]
      have step := steps lead first _ _ (.next connective next (furtherText others))
      have behind := inductionHypothesis (lead ++ (first.text ++ ' ' :: (connective.text ++ [' '])))
        next
      rw [List.append_assoc, List.append_assoc first.text, List.length_append] at behind
      rw [split, step, behind]
      exact (List.filter_append _ _).symm

/-- The comparisons of a condition, seen behind a blank. -/
def Filter.comparisons (filter : Filter) : List Comparison :=
  comparisonsAt 1 filter.first filter.others

/-- Each scan finds the columns of a condition that have its form. -/
theorem scans_condition (filter : Filter) :
    wrappedComparisons (' ' :: filter.text) = filter.comparisons.filter (·.isWrapped = true) ∧
      plainComparisons (' ' :: filter.text) =
        filter.comparisons.filter (·.isWrapped = false) := by
  have wrappedQuiet : wrappedScan.pattern.IsQuiet none [' '] filter.text :=
    Query.isQuiet_wrappedColumn (by decide) (.inr ⟨' ', rfl, by decide⟩)
      (filter.first.head_text (furtherText filter.others))
  have plainQuiet : plainScan.pattern.IsQuiet none [' '] filter.text := isQuiet_blank
  constructor
  · exact (wrappedScan.comparisons_quiet wrappedQuiet).trans
      (wrappedScan_steps.comparisons_text [' '] filter.first filter.others)
  · exact (plainScan.comparisons_quiet plainQuiet).trans
      (plainScan_steps.comparisons_text [' '] filter.first filter.others)

end WhereClause
end SqlReview
