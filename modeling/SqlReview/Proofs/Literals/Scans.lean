import SqlReview.Proofs.Literals.Contents
import SqlReview.Proofs.Pattern.Reading
import SqlReview.Proofs.Query.Conditions

/-!
# Scans over literals

A scan for columns or calls finds the same in two texts that read the same. In front of a literal the
texts look the same, so every pattern that takes no quotes fits in the same ways; only the arguments of a
function are passed by with their literals, up to the next parenthesis. Nothing that is looked for starts
inside a literal: calls need a parenthesis, and columns are known not to be there.
-/

namespace SqlReview
namespace Query

variable {pattern : Pattern} {text other content rest : Text} {before : Option Char} {index : Nat}

/-! ## Literals without occurrences -/

/-- Whether no occurrence of a pattern starts in a literal that the scans pass by. -/
def PassesLiterals (pattern : Pattern) : Prop :=
  ∀ content, isInert content = true → '\'' ∉ content →
    ∀ before rest, pattern.IsQuiet before ('\'' :: (content ++ ['\''])) rest

/-- A run without quotes that starts in a literal ends there. -/
theorem exists_behind_run
    {lead tail run others : Text}
    {c : Char}
    (split : '\'' :: (content ++ ['\'']) = lead ++ c :: tail)
    (equal : c :: tail ++ rest = run ++ others)
    (noQuote : '\'' ∉ run) :
    ∃ back, c :: tail = run ++ (back ++ ['\'']) ∧ others = back ++ '\'' :: rest := by
  have last := congrArg List.getLast? split
  rw [← List.cons_append, List.getLast?_concat,
    List.getLast?_append_of_ne_nil _ (List.cons_ne_nil c tail)] at last
  obtain ⟨front, tailEq⟩ := List.getLast?_eq_some_iff.mp last.symm
  rw [tailEq, List.append_assoc] at equal
  rcases List.append_eq_append_iff.mp equal with ⟨back, runEq, restEq⟩ | ⟨back, frontEq, othersEq⟩
  · cases back with
    | nil => exact ⟨[], by simp [tailEq, runEq], restEq.symm⟩
    | cons d back =>
        obtain rfl : '\'' = d := (List.cons.inj restEq).1
        exact absurd (by simp [runEq]) noQuote
  · exact ⟨back, by rw [tailEq, frontEq, List.append_assoc], othersEq⟩

/-- A call does not start in a literal without parentheses. -/
theorem passesLiterals_call
    {name : Pattern}
    (noQuote : name.admits '\'' = false)
    (others : List Pattern) :
    PassesLiterals (.all (.edge :: name :: .blanks :: .char '(' :: others)) := by
  intro content inert _ before rest lead c tail split run behind equal covered
  obtain ⟨_, _, rfl, ⟨rfl, -⟩, covered⟩ := Pattern.covers_all_cons.mp covered
  obtain ⟨function, _, rfl, isName, covered⟩ := Pattern.covers_all_cons.mp covered
  obtain ⟨gap, _, rfl, blank, covered⟩ := Pattern.covers_blanks_cons.mp covered
  obtain ⟨arguments, rfl, -⟩ := Pattern.covers_char_cons.mp covered
  have noQuoteFront : '\'' ∉ function ++ gap := by
    rw [List.mem_append, not_or]
    exact ⟨fun present => absurd ((isName.admits _ present).symm.trans noQuote) (by decide),
      fun present => absurd (blank _ present) (by decide)⟩
  have noOpen : '(' ∉ c :: tail := fun present => by
    have inLiteral : '(' ∈ '\'' :: (content ++ ['\'']) := by
      rw [split]
      exact List.mem_append_right lead present
    have outside := not_mem_of_isInert inert (show '(' ∈ stoppingMarks by decide)
    simp [outside] at inLiteral
  have regrouped : c :: tail ++ rest = function ++ gap ++ '(' :: (arguments ++ behind) := by
    simpa using equal
  obtain ⟨back, tailEq, openEq⟩ := exists_behind_run split regrouped noQuoteFront
  cases back with
  | nil => exact absurd (List.cons.inj openEq).1 (by decide)
  | cons d back =>
      obtain rfl : '(' = d := (List.cons.inj openEq).1
      exact noOpen (by rw [tailEq]; simp)

/-- No column starts in a literal in which none is found when the literal stands alone. -/
theorem passesLiterals_plainColumn : PassesLiterals plainColumn := by
  intro content inert _ before rest lead c tail split run others equal covered
  have noQuoteRun : '\'' ∉ run := fun present => absurd (covered.admits _ present) (by decide)
  obtain ⟨back, tailEq, rfl⟩ := exists_behind_run split equal noQuoteRun
  have behindOpening : Text.lastOr before lead = Text.lastOr none lead := by
    cases lead with
    | nil =>
        obtain rfl : '\'' = c := (List.cons.inj split).1
        obtain ⟨name, gap, op, rfl, isName, -⟩ := of_covers_plainColumn covered
        obtain ⟨d, others, rfl, -⟩ := exists_first_of_covers_columnName isName
        obtain rfl : '\'' = d := (List.cons.inj tailEq).1
        exact absurd (List.mem_append_left _ (.head _)) noQuoteRun
    | cons d inside => rw [Text.lastOr_cons, Text.lastOr_cons]
  rw [behindOpening] at covered
  have found : plainColumn.occursIn ('\'' :: (content ++ ['\''])) = true := by
    refine Pattern.occursIn_iff.mpr ⟨lead, run, back ++ ['\''], by rw [split, tailEq], ?_⟩
    exact covered.of_next (by decide)
  exact absurd (found.symm.trans (not_occursIn_of_isInert inert)) (by decide)

/-! ## Patterns in step -/

/-- A pattern that takes no quotes fits in the same ways in texts that read the same. -/
theorem staysInStep_of_noQuote (noQuote : pattern.admits '\'' = false) :
    pattern.StaysInStep SameReading :=
  Pattern.staysInStep SameReading.looksSame noQuote

/-- Only the longest run of a class is left in front of a pattern that refuses the class. -/
theorem flatMap_runsOnto
    {accepts : Char → Bool}
    {closing : Pattern}
    (refuses : ∀ before c rest, accepts c = true → closing.Refuses before (c :: rest))
    (captures : List Capture)
    (before : Option Char)
    (index : Nat)
    (text : Text)
    (others : List Progress) :
    (Progress.runsOnto accepts captures before index text others).flatMap closing.outcomes =
      closing.outcomes ⟨Place.past ⟨before, index, text⟩ (text.takeWhile accepts)
        (text.dropWhile accepts), captures⟩ ++ others.flatMap closing.outcomes := by
  induction text generalizing before index others with
  | nil => rfl
  | cons c text inductionHypothesis =>
      rw [Progress.runsOnto]
      cases accepted : accepts c with
      | true =>
          rw [if_pos rfl, inductionHypothesis, List.flatMap_cons,
            (refuses before c text accepted).outcomes_eq_nil, List.nil_append,
            List.takeWhile_cons_of_pos accepted, List.dropWhile_cons_of_pos accepted,
            Place.past_cons before index c (c :: text)]
          rfl
      | false =>
          rw [if_neg Bool.false_ne_true, List.flatMap_cons,
            List.takeWhile_cons_of_neg (by simp [accepted]),
            List.dropWhile_cons_of_neg (by simp [accepted])]
          rfl

/-- The longest runs of a class end at the same place if only marks that literals do not hold end
them. -/
theorem SameReading.past
    {accepts : Char → Bool}
    (takes : ∀ c, accepts c = false → c ∈ stoppingMarks)
    (same : SameReading text other)
    (before : Option Char)
    (index : Nat)
    (captures : List Capture) :
    Progress.InStep SameReading
      ⟨Place.past ⟨before, index, text⟩ (text.takeWhile accepts) (text.dropWhile accepts), captures⟩
      ⟨Place.past ⟨before, index, other⟩ (other.takeWhile accepts) (other.dropWhile accepts),
        captures⟩ := by
  have acceptsQuote : accepts '\'' = true := by
    cases accepted : accepts '\'' with
    | true => rfl
    | false => exact absurd (takes _ accepted) (by decide)
  have acceptsContent {content : Text} (inert : isInert content = true) :
      ∀ c ∈ content, accepts c = true := by
    intro c present
    cases accepted : accepts c with
    | true => rfl
    | false => exact absurd present (not_mem_of_isInert inert (takes c accepted))
  induction same generalizing before index with
  | same text => exact ⟨rfl, rfl, .same _, rfl⟩
  | @plain c rest other noQuote behind inductionHypothesis =>
      cases accepted : accepts c with
      | true =>
          have next := inductionHypothesis (some c) (index + 1)
          simp only [List.takeWhile_cons_of_pos accepted, List.dropWhile_cons_of_pos accepted,
            Place.past_cons]
          exact next
      | false =>
          simp only [List.takeWhile_cons, List.dropWhile_cons, accepted]
          exact ⟨rfl, rfl, .plain noQuote behind, rfl⟩
  | @literal content otherContent rest other noQuote otherNoQuote inert otherInert sameLength sameFirst
      behind inductionHypothesis =>
      have next := inductionHypothesis (some '\'') (index + content.length + 2)
      have skip {content : Text} (inert : isInert content = true) (rest : Text) :
          ('\'' :: (content ++ '\'' :: rest)).takeWhile accepts =
              '\'' :: (content ++ '\'' :: rest.takeWhile accepts) ∧
            ('\'' :: (content ++ '\'' :: rest)).dropWhile accepts = rest.dropWhile accepts := by
        rw [List.takeWhile_cons_of_pos acceptsQuote, List.dropWhile_cons_of_pos acceptsQuote,
          List.takeWhile_append_of_pos (acceptsContent inert),
          List.dropWhile_append_of_pos (acceptsContent inert),
          List.takeWhile_cons_of_pos acceptsQuote, List.dropWhile_cons_of_pos acceptsQuote]
        exact ⟨rfl, rfl⟩
      rw [(skip inert rest).1, (skip inert rest).2, (skip otherInert other).1,
        (skip otherInert other).2]
      obtain ⟨sameBefore, sameIndex, sameRest, -⟩ := next
      refine ⟨?_, ?_, sameRest, rfl⟩
      · simpa [Place.past] using sameBefore
      · simp only [Place.past] at sameIndex ⊢
        simp only [List.length_cons, List.length_append] at sameIndex ⊢
        omega

/-- A run of a class that ends in front of a mark has a counterpart of the same length. -/
theorem SameReading.split_run
    {accepts : Char → Bool}
    {run : Text}
    (takes : ∀ c, accepts c = false → c ∈ stoppingMarks)
    (accepted : ∀ c ∈ run, accepts c = true)
    (ends : rest.head?.any accepts = false)
    (same : SameReading (run ++ rest) other) :
    ∃ otherRun otherRest, other = otherRun ++ otherRest ∧ otherRun.length = run.length ∧
      (∀ c ∈ otherRun, accepts c = true) ∧ SameReading rest otherRest := by
  have stops : rest.takeWhile accepts = [] ∧ rest.dropWhile accepts = rest := by
    cases rest with
    | nil => exact ⟨rfl, rfl⟩
    | cons c rest =>
        have refused : accepts c = false := by simpa using ends
        exact ⟨List.takeWhile_cons_of_neg (by simp [refused]),
          List.dropWhile_cons_of_neg (by simp [refused])⟩
  have inStep := same.past takes none 0 []
  rw [List.takeWhile_append_of_pos accepted, List.dropWhile_append_of_pos accepted, stops.1, stops.2,
    List.append_nil] at inStep
  refine ⟨other.takeWhile accepts, other.dropWhile accepts, List.takeWhile_append_dropWhile.symm, ?_,
    fun c => List.mem_takeWhile_imp, inStep.rest⟩
  simpa [Place.past] using inStep.index.symm

/-- A class that takes everything in literals stays in step in front of a pattern that refuses it. -/
theorem staysInStep_many_seq
    {accepts : Char → Bool}
    {closing : Pattern}
    (takes : ∀ c, accepts c = false → c ∈ stoppingMarks)
    (refuses : ∀ before c rest, accepts c = true → closing.Refuses before (c :: rest))
    (stays : closing.StaysInStep SameReading) :
    (Pattern.seq (.many accepts) closing).StaysInStep SameReading := by
  rintro ⟨⟨before, index, text⟩, captures⟩ ⟨⟨_, _, other⟩, _⟩ ⟨rfl, rfl, same, rfl⟩
  change List.Forall₂ _ ((Progress.runsOnto accepts captures before index text []).flatMap _)
    ((Progress.runsOnto accepts captures before index other []).flatMap _)
  rw [flatMap_runsOnto refuses, flatMap_runsOnto refuses, List.flatMap_nil, List.append_nil,
    List.append_nil]
  exact stays _ _ (same.past takes before index captures)

/-- More arguments of a function may hold literals. -/
theorem staysInStep_arguments
    {closing : Pattern}
    (stays : closing.StaysInStep SameReading) :
    (Pattern.seq (.optional (.seq (.char ',') (.many fun c => c ≠ '(' && c ≠ ')')))
      (.seq (.char ')') closing)).StaysInStep SameReading := by
  have closes : (Pattern.seq (.char ')') closing).StaysInStep SameReading :=
    (staysInStep_of_noQuote (by decide)).seq stays
  have more : (Pattern.seq (.many fun c => c ≠ '(' && c ≠ ')')
      (.seq (.char ')') closing)).StaysInStep SameReading := by
    refine staysInStep_many_seq (fun c stops => ?_) (fun before c rest accepted => ?_) closes
    · have isParenthesis : c = '(' ∨ c = ')' := by
        rw [Bool.and_eq_false_iff] at stops
        simpa using stops
      rcases isParenthesis with rfl | rfl <;> decide
    · rintro run others equal covered
      obtain ⟨_, behind, rfl, ⟨d, rfl, isClose⟩, -⟩ := covered
      obtain rfl : c = d := (List.cons.inj equal).1
      rw [of_decide_eq_true isClose] at accepted
      exact absurd accepted (by decide)
  have comma : (Pattern.char ',').StaysInStep SameReading := staysInStep_of_noQuote (by decide)
  intro progress other inStep
  have whole := (comma.seq more).alt closes progress other inStep
  simpa [Pattern.outcomes, Pattern.optional, List.flatMap_append, List.flatMap_assoc] using whole

theorem staysInStep_wrappedColumn : wrappedColumn.StaysInStep SameReading := by
  have plain {pattern : Pattern} (noQuote : pattern.admits '\'' = false) :=
    staysInStep_of_noQuote noQuote
  have behind : (Pattern.all [.blanks, operator]).StaysInStep SameReading := plain (by decide)
  exact (plain (by decide)).seq ((plain (by decide)).seq ((plain (by decide)).seq
    ((plain (by decide)).seq ((plain (by decide)).seq ((plain (by decide)).seq
      ((plain (by decide)).seq (staysInStep_arguments behind)))))))

/-! ## Occurrences -/

/-- A scan that passes literals finds the same in texts that read the same. -/
theorem SameReading.forall₂_occurrencesFrom
    (stays : pattern.StaysInStep SameReading)
    (passes : PassesLiterals pattern)
    (same : SameReading text other)
    (before : Option Char)
    (index : Nat) :
    List.Forall₂ (Pattern.FoundInStep SameReading index text other)
      (pattern.occurrencesFrom 0 before index text)
      (pattern.occurrencesFrom 0 before index other) := by
  induction length : text.length using Nat.strongRecOn generalizing text other before index with
  | ind bound inductionHypothesis =>
    cases same with
    | same =>
        refine List.forall₂_same.mpr fun found present => ⟨rfl, rfl, rfl, ?_⟩
        obtain ⟨lead, run, rest, -, -, -, -, stop, -⟩ :=
          Pattern.isStretch_of_mem_occurrencesFrom present
        exact ⟨lead.length + run.length, by rw [stop, Nat.add_assoc], .same _⟩
    | @plain c rest other noQuote behind =>
        have passed : List.Forall₂ (Pattern.FoundInStep SameReading index (c :: rest) (c :: other))
            (pattern.occurrencesFrom 0 (some c) (index + 1) rest)
            (pattern.occurrencesFrom 0 (some c) (index + 1) other) := by
          have next := inductionHypothesis rest.length (by simp [← length]) behind (some c) (index + 1)
            rfl
          exact next.imp fun _ _ inStep => inStep.behind (show [c].length = [c].length from rfl)
        rcases stays.occurrenceAt? before index (.plain noQuote behind) with
          ⟨nothing, otherNothing⟩ | ⟨run, tail, otherRun, otherTail, found, otherFound, split,
            otherSplit, sameLength, sameBefore, sameTail, here, otherHere, foundLength, otherFoundLength,
            inStep⟩
        · rw [Pattern.occurrencesFrom, Pattern.occurrencesFrom, nothing, otherNothing]
          exact passed
        · by_cases empty : run = []
          · have noLength : ¬0 < found.length := by simp [foundLength, empty]
            have otherNoLength : ¬0 < otherFound.length := by
              rw [otherFoundLength, ← sameLength, empty]
              exact Nat.lt_irrefl 0
            rw [Pattern.occurrencesFrom, Pattern.occurrencesFrom, here, otherHere]
            simp only [if_neg noLength, if_neg otherNoLength]
            exact passed
          · have otherNonempty : otherRun ≠ [] := by
              rwa [Ne, ← List.length_eq_zero_iff, ← sameLength, List.length_eq_zero_iff]
            have shorter : tail.length < bound := by
              have positive := List.length_pos_iff.mpr empty
              rw [← length, split, List.length_append]
              omega
            rw [split, otherSplit] at inStep ⊢
            rw [split] at here
            rw [otherSplit] at otherHere
            rw [Pattern.occurrencesFrom_of_occurrenceAt? here foundLength empty,
              Pattern.occurrencesFrom_of_occurrenceAt? otherHere otherFoundLength otherNonempty,
              ← sameBefore, ← sameLength]
            refine .cons inStep ?_
            exact (inductionHypothesis tail.length shorter sameTail _ _ rfl).imp fun _ _ behind =>
              behind.behind sameLength
    | @literal content otherContent rest other noQuote otherNoQuote inert otherInert sameLength _
        behind =>
        have quiet := passes content inert noQuote before rest
        have otherQuiet := passes otherContent otherInert otherNoQuote before other
        have shorter : rest.length < bound := by
          rw [← length]
          simp
          omega
        have lengths : ('\'' :: (content ++ ['\''])).length =
            ('\'' :: (otherContent ++ ['\''])).length := by
          simp [sameLength]
        have last (content : Text) : Text.lastOr before ('\'' :: (content ++ ['\''])) = some '\'' := by
          simp
        have split (content rest : Text) : '\'' :: (content ++ '\'' :: rest) =
            '\'' :: (content ++ ['\'']) ++ rest := by
          simp
        rw [split content, split otherContent, Pattern.occurrencesFrom_quiet quiet,
          Pattern.occurrencesFrom_quiet otherQuiet, last, last, ← lengths]
        exact (inductionHypothesis rest.length shorter behind _ _ rfl).imp fun _ _ inStep =>
          inStep.behind lengths

theorem SameReading.forall₂_occurrences
    (stays : pattern.StaysInStep SameReading)
    (passes : PassesLiterals pattern)
    (same : SameReading text other) :
    List.Forall₂ (Pattern.FoundInStep SameReading 0 text other) (pattern.occurrences text)
      (pattern.occurrences other) :=
  same.forall₂_occurrencesFrom stays passes none 0

/-! ## Aggregates -/

/-- Texts that read the same use the same aggregate functions. -/
theorem SameReading.aggregates_eq (same : SameReading text other) :
    aggregates text = aggregates other := by
  have inStep := same.forall₂_occurrences (staysInStep_of_noQuote (by decide))
    (passesLiterals_call (by decide) _ : PassesLiterals aggregateCall)
  refine List.rel_foldl (P := Eq) ?_ rfl inStep
  rintro aggregates _ rfl found otherFound here
  rw [addAggregate, addAggregate, here.groupText_eq, here.group?_eq]

/-! ## Comparisons -/

/-- A literal and its counterpart start with the same character. -/
theorem SameReading.exists_of_quote
    {c : Char}
    (same : SameReading ('\'' :: c :: rest) other) :
    ∃ otherRest, other = '\'' :: c :: otherRest := by
  generalize whole : '\'' :: c :: rest = text at same
  cases same with
  | same _ => exact ⟨rest, whole.symm⟩
  | plain noQuote _ => exact absurd (List.cons.inj whole).1.symm noQuote
  | @literal content otherContent _ other _ _ _ _ sameLength sameFirst _ =>
      have inside := (List.cons.inj whole).2
      cases content with
      | nil =>
          obtain rfl : c = '\'' := (List.cons.inj inside).1
          rw [List.length_eq_zero_iff.mp sameLength.symm]
          exact ⟨other, rfl⟩
      | cons d content =>
          obtain rfl : c = d := (List.cons.inj inside).1
          obtain ⟨others, rfl⟩ := List.head?_eq_some_iff.mp sameFirst.symm
          exact ⟨_, rfl⟩

/-- Only the first character of a literal decides whether it starts with a wildcard. -/
theorem SameReading.fitsAt_leadingWildcard
    {place otherPlace : Place}
    (same : SameReading place.rest otherPlace.rest)
    (fits : leadingWildcard.fitsAt place = true) :
    leadingWildcard.fitsAt otherPlace = true := by
  obtain ⟨run, rest, equal, covered⟩ := Pattern.occurrenceAt?_isSome_iff.mp fits
  obtain ⟨blanks, _, rfl, blank, covered⟩ := Pattern.covers_blanks_cons.mp covered
  obtain ⟨letter, _, rfl, isLetter, covered⟩ := Pattern.covers_all_cons.mp covered
  obtain ⟨marks, nothing, rfl, areMarks, isEnd⟩ := Pattern.covers_all_cons.mp covered
  obtain rfl : nothing = [] := isEnd
  obtain rfl : marks = ['\'', '%'] :=
    Text.eq_of_map_foldLetter (Pattern.covers_letters.mp areMarks) (by decide)
  have noQuote : '\'' ∉ blanks ++ letter := by
    rw [List.mem_append, not_or]
    refine ⟨fun present => absurd (blank _ present) (by decide), fun present => ?_⟩
    exact absurd (isLetter.admits _ present) (by decide)
  rw [show place.rest = blanks ++ letter ++ ('\'' :: '%' :: rest) by rw [equal]; simp] at same
  obtain ⟨otherRest, otherEqual, behind⟩ := SameReading.looksSame.exists_append noQuote same
  obtain ⟨otherTail, rfl⟩ := behind.exists_of_quote
  refine Pattern.occurrenceAt?_isSome_iff.mpr
    ⟨blanks ++ (letter ++ ['\'', '%']), otherTail, by rw [otherEqual]; simp, ?_⟩
  refine Pattern.covers_blanks_cons.mpr ⟨blanks, _, rfl, blank, ?_⟩
  refine Pattern.covers_all_cons.mpr ⟨letter, _, rfl, isLetter, ?_⟩
  exact Pattern.covers_all_cons.mpr ⟨_, [], rfl, areMarks, rfl⟩

theorem comparison_eq
    (isWrapped : Bool)
    {found otherFound : Occurrence}
    (inStep : Pattern.FoundInStep SameReading 0 text other found otherFound) :
    comparison text isWrapped found = comparison other isWrapped otherFound := by
  have wildcard : leadingWildcard.fitsAt (Place.within text found.stop) =
      leadingWildcard.fitsAt (Place.within other otherFound.stop) := by
    obtain ⟨count, stop, behind⟩ := inStep.rest
    rw [Nat.zero_add] at stop
    rw [← inStep.stop, stop, Bool.eq_iff_iff]
    exact ⟨behind.fitsAt_leadingWildcard, behind.symm.fitsAt_leadingWildcard⟩
  rw [comparison, comparison, matchesLeadingWildcard, matchesLeadingWildcard, wildcard,
    inStep.group?_eq, inStep.groupText_eq, inStep.groupText_eq, inStep.start]

/-- In texts that read the same, the same columns are compared. -/
theorem SameReading.comparisons_eq (same : SameReading text other) :
    comparisons text = comparisons other := by
  have compared {pattern : Pattern} (stays : pattern.StaysInStep SameReading)
      (passes : PassesLiterals pattern) (isWrapped : Bool) (words : List Text) (number : Nat) :
      ((pattern.occurrences text).filter fun occurrence =>
          !isAmong words (occurrence.groupText number)).map (comparison text isWrapped) =
        ((pattern.occurrences other).filter fun occurrence =>
          !isAmong words (occurrence.groupText number)).map (comparison other isWrapped) := by
    have kept : List.Forall₂ (Pattern.FoundInStep SameReading 0 text other)
        ((pattern.occurrences text).filter fun occurrence =>
          !isAmong words (occurrence.groupText number))
        ((pattern.occurrences other).filter fun occurrence =>
          !isAmong words (occurrence.groupText number)) := by
      refine List.rel_filter (fun found otherFound inStep => ?_)
        (same.forall₂_occurrences stays passes)
      simp only [inStep.groupText_eq]
    have equal := List.rel_map (P := Eq) (fun _ _ inStep => comparison_eq isWrapped inStep) kept
    rwa [List.forall₂_eq_eq_eq] at equal
  have wrapped : wrappedComparisons text = wrappedComparisons other :=
    compared staysInStep_wrappedColumn (passesLiterals_call (by decide) _) true nonFunctionWords 1
  have plain : plainComparisons text = plainComparisons other :=
    compared (staysInStep_of_noQuote (by decide)) passesLiterals_plainColumn false sqlWords 2
  rw [comparisons, comparisons, wrapped, plain]

theorem SameReading.whereColumns_eq (same : SameReading text other) :
    whereColumns text = whereColumns other := by
  rw [whereColumns, whereColumns, same.comparisons_eq]

end Query
end SqlReview
