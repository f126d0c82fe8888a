import SqlReview.Proofs.Text.Layout
import SqlReview.Proofs.Text.Ranges
import SqlReview.Proofs.Text.Signs

/-!
# Caseless texts

The caseless form of a text is made character by character, from the lower-case forms of the
characters and the plain letters that they stand for. A capital sigma has one form wherever it stands,
so that the forms of the parts of a text make up the form of the text. What does not tell the forms of
a letter apart finds the same in the lower-case form of a text as in its caseless form,
`map_foldForms_lower`.
-/

namespace SqlReview
namespace Text

/-! ## Characters -/

/-- The small sigma for either form of it. -/
def mergeSigma (c : Char) : Char :=
  if c = '\u03C2' then '\u03C3' else c

/-- The letter that all forms of a small letter stand for. -/
def foldForms (c : Char) : Char :=
  mergeSigma (foldLetter c)

/-- The caseless form of a character. -/
def caselessChar (c : Char) : Text :=
  if c = '\u0130' then ['i', '\u0307'] else [foldForms (lowerChar c)]

/-- The caseless form of a text. -/
def caseless (text : Text) : Text :=
  text.flatMap caselessChar

@[simp] theorem caseless_nil : caseless [] = [] := rfl

@[simp] theorem caseless_cons (c : Char) (text : Text) :
    caseless (c :: text) = caselessChar c ++ caseless text := rfl

@[simp] theorem caseless_append (first second : Text) :
    caseless (first ++ second) = caseless first ++ caseless second :=
  List.flatMap_append

theorem exists_caselessChar_cons (c : Char) :
    ∃ d more, caselessChar c = d :: more := by
  rw [caselessChar]
  split
  · exact ⟨_, _, rfl⟩
  · exact ⟨_, _, rfl⟩

/-- Only word characters stand for others, which are word characters too. -/
theorem foldForms_cases (c : Char) :
    foldForms c = c ∨ isWord (foldForms c) = true ∧ isWord c = true := by
  rw [foldForms, mergeSigma]
  split
  next isFinal =>
    rw [eq_of_foldLetter isFinal (by decide)]
    exact .inr (by decide +kernel)
  · by_cases isLetter : 'a' ≤ foldLetter c ∧ foldLetter c ≤ 'z'
    · have ascii := toNat_lt_of_le isLetter.2 (by decide)
      exact .inr ⟨by simp [isWord_of_ascii ascii, isLetter], isWord_of_foldLetter isLetter⟩
    · exact .inl (eq_of_foldLetter rfl isLetter).symm

theorem isWord_foldForms (c : Char) : isWord (foldForms c) = isWord c := by
  rcases foldForms_cases c with same | ⟨isWordThere, isWordHere⟩
  · rw [same]
  · rw [isWordThere, isWordHere]

/-- Characters outside words have no other forms. -/
theorem class_foldForms
    {holds : Char → Bool}
    (noWords : ∀ c, holds c = true → isWord c = false)
    (c : Char) :
    holds (foldForms c) = holds c := by
  have none {d : Char} (isWordHere : isWord d = true) : holds d = false := by
    rw [Bool.eq_false_iff]
    intro held
    rw [noWords d held] at isWordHere
    contradiction
  rcases foldForms_cases c with same | ⟨isWordThere, isWordHere⟩
  · rw [same]
  · rw [none isWordThere, none isWordHere]

theorem mergeSigma_eq_iff
    {c d : Char}
    (noSigma : d ≠ '\u03C2' ∧ d ≠ '\u03C3') :
    mergeSigma c = d ↔ c = d := by
  rw [mergeSigma]
  split
  next isFinal =>
    rw [isFinal]
    exact iff_of_false noSigma.2.symm noSigma.1.symm
  · rfl

/-- A small letter stands for itself and is no sigma. -/
theorem fixed_of_isLetter
    {letter : Char}
    (isLetter : 'a' ≤ letter ∧ letter ≤ 'z') :
    foldLetter letter = letter ∧ mergeSigma letter = letter := by
  have ascii := toNat_lt_of_le isLetter.2 (by decide)
  revert isLetter
  apply forall_ascii _ letter ascii
  decide +kernel

/-- What a letter stands for is not changed further. -/
theorem foldLetter_foldLetter (c : Char) : foldLetter (foldLetter c) = foldLetter c := by
  by_cases isLetter : 'a' ≤ foldLetter c ∧ foldLetter c ≤ 'z'
  · exact (fixed_of_isLetter isLetter).1
  · have same : foldLetter c = c := (eq_of_foldLetter rfl isLetter).symm
    rw [same, same]

theorem foldLetter_foldForms (c : Char) : foldLetter (foldForms c) = mergeSigma (foldLetter c) := by
  rw [foldForms]
  by_cases isLetter : 'a' ≤ foldLetter c ∧ foldLetter c ≤ 'z'
  · rw [(fixed_of_isLetter isLetter).2, foldLetter_foldLetter]
  · have same : foldLetter c = c := (eq_of_foldLetter rfl isLetter).symm
    rw [same, mergeSigma]
    split
    · decide
    · exact same

/-- Beyond ASCII, only four characters stand for letters. -/
theorem mem_of_foldLetter
    {c : Char}
    (beyond : 0x80 ≤ c.toNat)
    (isLetter : 'a' ≤ foldLetter c ∧ foldLetter c ≤ 'z') :
    c ∈ ['\u0130', '\u0131', '\u017F', '\u212A'] := by
  unfold foldLetter at isLetter
  split at isLetter
  next capital =>
    rw [Bool.and_eq_true, decide_eq_true_eq, decide_eq_true_eq] at capital
    have ascii := toNat_lt_of_le capital.2 (by decide)
    omega
  · split at isLetter
    next turkish =>
      rw [Bool.or_eq_true, decide_eq_true_eq, decide_eq_true_eq] at turkish
      rcases turkish with rfl | rfl <;> simp
    · split at isLetter
      next longS => simp [longS]
      · split at isLetter
        next kelvin => simp [kelvin]
        · have ascii := toNat_lt_of_le isLetter.2 (by decide)
          omega

/-- Every form of a letter but I has the small letter as its caseless form. -/
theorem caselessChar_of_foldLetter
    {c letter : Char}
    (folds : foldLetter c = letter)
    (isLetter : 'a' ≤ letter ∧ letter ≤ 'z')
    (noI : letter ≠ 'i') :
    caselessChar c = [letter] := by
  subst folds
  rcases Nat.lt_or_ge c.toNat 0x80 with ascii | beyond
  · revert isLetter
    clear noI
    apply forall_ascii _ c ascii
    decide +kernel
  · have each : ∀ d ∈ ['\u0130', '\u0131', '\u017F', '\u212A'],
        foldLetter d ≠ 'i' → caselessChar d = [foldLetter d] := by
      decide +kernel
    exact each c (mem_of_foldLetter beyond isLetter) noI

theorem caseless_of_map_foldLetter
    {run word : Text}
    (folds : run.map foldLetter = word)
    (areLetters : ∀ letter ∈ word, ('a' ≤ letter ∧ letter ≤ 'z') ∧ letter ≠ 'i') :
    caseless run = word := by
  subst folds
  induction run with
  | nil => rfl
  | cons c run inductionHypothesis =>
      rw [List.map_cons, List.forall_mem_cons] at areLetters
      obtain ⟨⟨isLetter, noI⟩, others⟩ := areLetters
      rw [caseless_cons, caselessChar_of_foldLetter rfl isLetter noI, inductionHypothesis others]
      rfl

/-- White space and semicolons are their own caseless forms. -/
theorem caseless_of_terminators
    {text : Text}
    (terminators : ∀ c ∈ text, isTerminator c = true) :
    caseless text = text := by
  induction text with
  | nil => rfl
  | cons c text inductionHypothesis =>
      rw [List.forall_mem_cons] at terminators
      obtain ⟨same, -, -, -, noDotted⟩ := Text.caseless_of_isTerminator terminators.1
      have unfolded : foldForms c = c := by
        refine (foldForms_cases c).resolve_right fun areWords => ?_
        rw [isWord_of_isTerminator terminators.1] at areWords
        exact absurd areWords.2 (by decide)
      rw [caseless_cons, inductionHypothesis terminators.2, caselessChar, if_neg noDotted, same,
        unfolded]
      rfl

/-! ## Lower case -/

/-- The lower-case form of a text shows the caseless form to what does not tell the forms of a letter
apart. -/
theorem map_foldForms_lower (text : Text) : (lower text).map foldForms = caseless text := by
  have run (afterCased : Bool) : (lowerFrom afterCased text).map foldForms = caseless text := by
    induction text generalizing afterCased with
    | nil => rfl
    | cons c rest inductionHypothesis =>
        have here : (lowerAt afterCased rest c).map foldForms = caselessChar c := by
          rw [lowerAt, caselessChar]
          split
          next isSigma =>
            subst isSigma
            split <;> decide +kernel
          · split
            · decide
            · rfl
        rw [lowerFrom, caseless_cons]
        split
        next plain =>
          have noDotted : c ≠ '\u0130' := by
            rintro rfl
            exact absurd plain (by decide)
          rw [List.map_cons, inductionHypothesis, caselessChar, if_neg noDotted]
          rfl
        · rw [List.map_append, here, inductionHypothesis]
  exact run false

/-! ## Words -/

/-- The code points that a row of a table moves. -/
def rowPoints (row : Nat × Nat × Nat × Int) : List Nat :=
  (List.range ((row.2.1 - row.1) / row.2.2.1 + 1)).map fun count => row.1 + row.2.2.1 * count

/-- Where a table moves a code point: nowhere, or as one of its rows says. -/
theorem shiftIn_cases
    (rows : Array (Nat × Nat × Nat × Int))
    (point : Nat) :
    shiftIn rows point = point ∨ ∃ row ∈ rows.toList, row.1 ≤ point ∧ point ≤ row.2.1 ∧
      point ∈ rowPoints row ∧ shiftIn rows point = (point + row.2.2.2).toNat := by
  rw [shiftIn]
  split
  next row found =>
    obtain ⟨present, reaches⟩ := of_findRow? found
    rw [shiftBy]
    split
    next covered =>
      rw [Bool.and_eq_true, decide_eq_true_eq, decide_eq_true_eq] at covered
      refine .inr ⟨row, Array.mem_toList_iff.mpr present, reaches, covered.1, List.mem_map.mpr ?_, rfl⟩
      refine ⟨(point - row.1) / row.2.2.1, List.mem_range.mpr ?_, ?_⟩
      · exact Nat.lt_succ_of_le (Nat.div_le_div_right (Nat.sub_le_sub_right covered.1 _))
      · rw [Nat.mul_div_cancel' (Nat.dvd_of_mod_eq_zero covered.2), Nat.add_sub_cancel' reaches]
    · exact .inl rfl
  · exact .inl rfl

/-- The row of the circled letters, which have a case but are no letters. -/
def circledRow : Nat × Nat × Nat × Int :=
  (0x24B6, 0x24CF, 1, 26)

/-- All that has a lower-case form, the circled letters aside, is a letter or a number. -/
theorem inRanges_of_mem_lowerRows
    {row : Nat × Nat × Nat × Int}
    (present : row ∈ lowerRows.toList)
    (noCircle : row ≠ circledRow)
    {point : Nat}
    (moved : point ∈ rowPoints row) :
    inRanges alphanumericRanges point = true := by
  have sorted : alphanumericRanges.toList.IsChain Precedes := by decide +kernel
  have swept : sweep alphanumericRanges.toList
      ((lowerRows.toList.filter (· ≠ circledRow)).flatMap rowPoints) = [] := by decide +kernel
  obtain ⟨range, inTable, reaches, inside⟩ := exists_range_of_sweep swept
    (List.mem_flatMap.mpr ⟨row, List.mem_filter.mpr ⟨present, by simpa using noCircle⟩, moved⟩)
  exact inRanges_of_mem sorted (by decide +kernel) inTable reaches inside

/-- What is outside words is a single character outside words in caseless form. -/
theorem exists_caselessChar_of_noWord
    {c : Char}
    (noWord : isWord c = false) :
    ∃ d, caselessChar c = [d] ∧ isWord d = false := by
  have noDotted : c ≠ '\u0130' := by
    rintro rfl
    revert noWord
    decide +kernel
  refine ⟨foldForms (lowerChar c), if_neg noDotted, ?_⟩
  rw [isWord_foldForms]
  rcases Nat.lt_or_ge c.toNat 0x80 with ascii | beyond
  · revert noWord
    apply forall_ascii _ c ascii
    decide +kernel
  · rw [lowerChar, if_neg (by omega), if_neg noDotted]
    rcases shiftIn_cases lowerRows c.toNat with same | ⟨row, present, -, -, moved, shifted⟩
    · rw [same, Char.ofNat_toNat, noWord]
    · by_cases circled : row = circledRow
      · subst circled
        rw [shifted]
        have each : ∀ point ∈ rowPoints circledRow,
            isWord (Char.ofNat (point + circledRow.2.2.2 : Int).toNat) = false := by
          decide +kernel
        exact each c.toNat moved
      · have alphanumeric := inRanges_of_mem_lowerRows present circled moved
        rw [isWord, isAlphanumeric, if_neg (by omega), alphanumeric, Bool.or_true] at noWord
        contradiction

/-- No word goes on in a caseless form where none goes on in the text. -/
theorem isWord_head?_caseless
    {text : Text}
    (outside : text.head?.any isWord = false) :
    (caseless text).head?.any isWord = false := by
  cases text with
  | nil => rfl
  | cons c rest =>
      obtain ⟨d, single, noWord⟩ := exists_caselessChar_of_noWord outside
      rw [caseless_cons, single]
      exact noWord

end Text
end SqlReview
