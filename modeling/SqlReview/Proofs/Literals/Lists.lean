import SqlReview.Proofs.Literals.Items

/-!
# Aggregates of lists that read the same

A list is read from behind what stands between SELECT and its items, which leaves nothing open, and item
by item. Items that read the same are both stars or neither, both call an aggregate or neither, and both
have a window or neither.
-/

namespace SqlReview
namespace Query

variable {text other front back item otherItem run rest : Text} {before : Option Char}

/-! ## The start of a list -/

theorem endsShut_of_admits
    {pattern : Pattern}
    (covered : pattern.Covers before run rest)
    (noQuote : pattern.admits '\'' = false)
    (noOpen : pattern.admits '(' = false) :
    EndsShut run := by
  intro c last
  have present : c ∈ run := List.mem_reverse.mp (List.mem_of_find?_eq_some last)
  have admitted := covered.admits c present
  constructor
  · rintro rfl
    exact absurd (admitted.symm.trans noQuote) (by decide)
  · rintro rfl
    exact absurd (admitted.symm.trans noOpen) (by decide)

/-- What ends with characters that are no white space ends like these. -/
theorem EndsShut.append_of_mem
    {c : Char}
    (shut : EndsShut back)
    (present : c ∈ back)
    (noBlank : Text.isBlank c = false) :
    EndsShut (front ++ back) := by
  intro d last
  rw [lastShown_append] at last
  cases shown : lastShown back with
  | none =>
      rw [lastShown, List.find?_eq_none] at shown
      exact absurd noBlank (by simpa using shown c (List.mem_reverse.mpr present))
  | some e =>
      rw [shown] at last
      obtain rfl : e = d := Option.some.inj last
      exact shut e shown

/-- A treatment of duplicates leaves nothing open. -/
theorem endsShut_duplicatesPart (covered : duplicatesPart.Covers before run rest) :
    EndsShut run := by
  rcases covered with isDistinctOn | isWord | isWord
  · obtain ⟨distinct, _, rfl, -, behind⟩ := Pattern.covers_all_cons.mp isDistinctOn
    obtain ⟨gap, _, rfl, -, behind⟩ := Pattern.covers_all_cons.mp behind
    obtain ⟨on, _, rfl, -, behind⟩ := Pattern.covers_all_cons.mp behind
    obtain ⟨blanks, _, rfl, -, behind⟩ := Pattern.covers_blanks_cons.mp behind
    obtain ⟨inside, rfl, isInside⟩ := Pattern.covers_char_cons.mp behind
    obtain ⟨columns, _, rfl, -, isClosing⟩ := Pattern.covers_all_cons.mp isInside
    obtain ⟨nothing, rfl, isEnd⟩ := Pattern.covers_char_cons.mp isClosing
    obtain rfl := Pattern.covers_all_nil.mp isEnd
    have closing : EndsShut [')'] := by
      intro c last
      obtain rfl : ')' = c := Option.some.inj last
      decide
    have whole : EndsShut (distinct ++ (gap ++ (on ++ (blanks ++ '(' :: columns))) ++ [')']) :=
      closing.append_of_mem (List.mem_singleton.mpr rfl) (by decide)
    simpa using whole
  · exact endsShut_of_admits isWord (by decide) (by decide)
  · exact endsShut_of_admits isWord (by decide) (by decide)

/-- A number of rows leaves nothing open. -/
theorem endsShut_rowsPart (covered : rowsPart.Covers before run rest) :
    EndsShut run := by
  obtain ⟨top, _, rfl, -, behind⟩ := Pattern.covers_all_cons.mp covered
  obtain ⟨gap, _, rfl, -, behind⟩ := Pattern.covers_all_cons.mp behind
  obtain ⟨opening, _, rfl, -, behind⟩ := Pattern.covers_all_cons.mp behind
  obtain ⟨blanks, number, rfl, -, isNumber⟩ := Pattern.covers_blanks_cons.mp behind
  have shut : EndsShut number := endsShut_of_admits isNumber (by decide) (by decide)
  obtain ⟨_, tail, rfl, ⟨_, others, rfl, ⟨digit, rfl, isDigit⟩, -⟩, -⟩ :=
    Pattern.covers_all_cons.mp isNumber
  have noBlank := Text.isBlank_of_isDecimalDigit isDigit
  have whole : EndsShut (top ++ (gap ++ (opening ++ blanks)) ++ ([digit] ++ others ++ tail)) :=
    shut.append_of_mem (List.mem_append_left _ (.head _)) noBlank
  simpa using whole

theorem endsShut_selectPreamble (covered : selectPreamble.Covers before run rest) :
    EndsShut run := by
  rw [selectPreamble_eq] at covered
  obtain ⟨_, _, rfl, ⟨rfl, -⟩, blanks, _, rfl, blank, duplicates, _, rfl, isDuplicates, gap, _, rfl,
    blankGap, rows, nothing, rfl, isRows, isEnd⟩ := covered
  obtain rfl : nothing = [] := isEnd
  have shutDuplicates : EndsShut duplicates := by
    rcases isDuplicates with covered | covered
    · exact endsShut_duplicatesPart covered
    · obtain rfl : duplicates = [] := covered
      exact endsShut_of_blank (List.forall_mem_nil _)
  have shutRows : EndsShut rows := by
    rcases isRows with covered | covered
    · exact endsShut_rowsPart covered
    · obtain rfl : rows = [] := covered
      exact endsShut_of_blank (List.forall_mem_nil _)
  have shut := (endsShut_of_blank blank).append
    (shutDuplicates.append ((endsShut_of_blank blankGap).append shutRows))
  simpa using shut

/-- Where a list is read from, nothing is open. -/
theorem after_take_preamble (body : Text) :
    Depth.outermost.after
      (body.take (((selectPreamble.atStart? (mask body)).map (·.stop)).getD 0)) = .outermost := by
  cases found : selectPreamble.atStart? (mask body) with
  | none => rfl
  | some occurrence =>
      obtain ⟨run, rest, split, covered, -, stop, -⟩ := Pattern.covers_of_occurrenceAt? found
      change mask body = run ++ rest at split
      have place : occurrence.stop = run.length := stop.trans (Nat.zero_add _)
      rw [Option.map_some, Option.getD_some, place]
      exact after_take_of_endsShut split (endsShut_selectPreamble covered)

/-! ## Items -/

/-- The name of a table ends at the same place, since literals do not hold its closing mark. -/
theorem SameReading.namesTable
    {name : Text}
    (isName : NamesTable name)
    (noQuoteBehind : '\'' ∉ back)
    (same : SameReading (name ++ back) other) :
    ∃ otherName, other = otherName ++ back ∧ NamesTable otherName := by
  rcases id isName with ⟨c, others, rfl, starts, continues⟩ |
    ⟨⟨opening, closing⟩, isPair, content, rfl, nonempty, absent⟩
  · have noQuote : '\'' ∉ c :: others := by
      rw [List.mem_cons, not_or]
      constructor
      · rintro rfl
        exact absurd starts (by decide)
      · exact fun present => absurd (continues _ present) (by decide)
    refine ⟨c :: others, (same.eq_of_noQuote ?_).symm, isName⟩
    rw [List.mem_append, not_or]
    exact ⟨noQuote, noQuoteBehind⟩
  · have each : ∀ marks ∈ nameMarks,
        marks.1 ≠ '\'' ∧ marks.2 ≠ '\'' ∧ marks.2 ∈ stoppingMarks := by
      decide
    obtain ⟨noQuote, closingNoQuote, isMark⟩ := each _ isPair
    have split : opening :: (content ++ [closing]) ++ back =
        [opening] ++ (content ++ closing :: back) := by
      simp
    rw [split] at same
    obtain ⟨rest, rfl, inside⟩ := looksSame.exists_append
      (show '\'' ∉ [opening] by simpa using noQuote.symm) same
    have accepted : ∀ d ∈ content, decide (d ≠ closing) = true := fun d present =>
      decide_eq_true fun equal => absent (equal ▸ present)
    have takes : ∀ d, decide (d ≠ closing) = false → d ∈ stoppingMarks := by
      intro d stops
      obtain rfl : d = closing := by simpa using stops
      exact isMark
    obtain ⟨otherContent, otherRest, rfl, sameLength, plain, behind⟩ :=
      inside.split_run takes accepted (by simp)
    obtain rfl := behind.eq_of_noQuote (by simp [noQuoteBehind, closingNoQuote.symm])
    refine ⟨opening :: (otherContent ++ [closing]), by simp, .inr
      ⟨(opening, closing), isPair, otherContent, rfl, ?_, fun present => ?_⟩⟩
    · exact List.ne_nil_of_length_pos (sameLength ▸ List.length_pos_iff.mpr nonempty)
    · exact absurd (plain closing present) (by simp)

/-- Items that read the same are both stars or neither. -/
theorem SameReading.occursIn_starItem
    (same : SameReading item otherItem)
    (found : starItem.occursIn item = true) :
    starItem.occursIn otherItem = true := by
  refine occursIn_starItem_of_renamed (by decide)
    (fun noQuote => (same.eq_of_noQuote noQuote).symm) ?_ found
  rintro name behind rfl isName noQuote
  exact same.namesTable isName noQuote

/-- A pattern that takes characters and passes literals occurs in texts that read the same or in
neither. -/
theorem SameReading.occursIn_eq
    {pattern : Pattern}
    (stays : pattern.StaysInStep SameReading)
    (passes : PassesLiterals pattern)
    (nonempty : ∀ before run rest, pattern.Covers before run rest → run ≠ [])
    (same : SameReading text other) :
    pattern.occursIn text = pattern.occursIn other := by
  have inStep := same.forall₂_occurrences stays passes
  rw [Pattern.occursIn_eq_any_occurrences nonempty, Pattern.occursIn_eq_any_occurrences nonempty]
  generalize pattern.occurrences text = found at inStep
  generalize pattern.occurrences other = otherFound at inStep
  cases inStep <;> rfl

/-- A call has the characters of its parenthesis. -/
theorem ne_nil_of_covers_call
    {name : Pattern}
    {others : List Pattern}
    (covered : (Pattern.all (.edge :: name :: .blanks :: .char '(' :: others)).Covers before run rest) :
    run ≠ [] := by
  obtain ⟨_, _, rfl, -, covered⟩ := Pattern.covers_all_cons.mp covered
  obtain ⟨_, _, rfl, -, covered⟩ := Pattern.covers_all_cons.mp covered
  obtain ⟨_, _, rfl, -, covered⟩ := Pattern.covers_blanks_cons.mp covered
  obtain ⟨_, rfl, -⟩ := Pattern.covers_char_cons.mp covered
  simp

/-- An item without a star adds an aggregate just if it calls one without a window. -/
theorem hasAggregate_add
    (projection : Projection)
    (item : Text) :
    (projection.add item).hasAggregate =
      (projection.hasAggregate || (!starItem.occursIn item && aggregateCall.occursIn item &&
        !windowKeyword.occursIn item)) := by
  rw [Projection.add]
  cases starItem.occursIn item with
  | true => simp
  | false =>
      cases aggregateCall.occursIn item with
      | true => cases windowKeyword.occursIn item <;> simp
      | false =>
          cases columnItem.atStart? item with
          | none => simp
          | some occurrence =>
              simp only [Bool.false_eq_true, if_false]
              split <;> simp

/-- Lists with like items behind the start of the list both call an aggregate or neither, if like items
add an aggregate both or neither. -/
theorem hasAggregate_ofClause_eq
    {Alike : Text → Text → Prop}
    (behind : ∀ start, Depth.outermost.after (text.take start) = .outermost →
      List.Forall₂ Alike (items (text.drop start) (mask (text.drop start)))
        (items (other.drop start) (mask (text.drop start))))
    (add : ∀ {item otherItem : Text} {projection otherProjection : Projection},
      Alike item otherItem → projection.hasAggregate = otherProjection.hasAggregate →
        (projection.add item).hasAggregate = (otherProjection.add otherItem).hasAggregate) :
    (Projection.ofClause text (mask text)).hasAggregate =
      (Projection.ofClause other (mask text)).hasAggregate := by
  have outermost := after_take_preamble text
  rw [Projection.ofClause, Projection.ofClause]
  generalize ((selectPreamble.atStart? (mask text)).map (·.stop)).getD 0 = preamble at *
  have maskBehind : (mask text).drop preamble = mask (text.drop preamble) := by
    rw [mask, drop_maskFrom, outermost]
    rfl
  rw [maskBehind]
  refine List.rel_foldl (P := fun (projection otherProjection : Projection) =>
    projection.hasAggregate = otherProjection.hasAggregate) ?_ rfl (behind preamble outermost)
  exact fun _ _ known _ _ sameItem => add sameItem known

theorem SameReading.hasAggregate_add
    (same : SameReading item otherItem)
    {projection otherProjection : Projection}
    (known : projection.hasAggregate = otherProjection.hasAggregate) :
    (projection.add item).hasAggregate = (otherProjection.add otherItem).hasAggregate := by
  have star : starItem.occursIn item = starItem.occursIn otherItem := by
    rw [Bool.eq_iff_iff]
    exact ⟨same.occursIn_starItem, same.symm.occursIn_starItem⟩
  have call : aggregateCall.occursIn item = aggregateCall.occursIn otherItem :=
    same.occursIn_eq (staysInStep_of_noQuote (by decide)) (passesLiterals_call (by decide) _)
      fun _ _ _ => ne_nil_of_covers_call
  have window : windowKeyword.occursIn item = windowKeyword.occursIn otherItem :=
    same.occursIn_eq (staysInStep_of_noQuote (by decide)) (passesLiterals_call (by decide) _)
      fun _ _ _ => ne_nil_of_covers_call
  rw [Query.hasAggregate_add, Query.hasAggregate_add, known, star, call, window]

/-- Lists that read the same both call an aggregate or neither. -/
theorem SameReading.hasAggregate_ofClause (same : SameReading text other) :
    (Projection.ofClause text (mask text)).hasAggregate =
      (Projection.ofClause other (mask text)).hasAggregate :=
  hasAggregate_ofClause_eq
    (fun _ outermost => (same.drop (not_inClosedLiteral_of_after outermost)).forall₂_items)
    fun sameItem known => sameItem.hasAggregate_add known

end Query
end SqlReview
