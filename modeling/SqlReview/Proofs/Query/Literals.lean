import SqlReview.Proofs.Pattern.Occurrence
import SqlReview.Proofs.Pattern.Word
import SqlReview.Query.Condition

/-!
# The contents of literals

Two texts may differ in what their closed literals hold and nowhere else: `SameOutside` follows
both texts in step, with the flag that tells whether a literal is open. Without the contents of
their literals such texts are the same.
-/

namespace SqlReview
namespace Query

/-! ## Places inside literals -/

/-- Whether a literal is open behind a text, given whether one is open before it. -/
def literalAfter (inLiteral : Bool) : Text → Bool
  | [] => inLiteral
  | c :: rest => literalAfter (if c = '\'' then !inLiteral else inLiteral) rest

@[simp] theorem literalAfter_nil (inLiteral : Bool) :
    literalAfter inLiteral [] = inLiteral := rfl

theorem literalAfter_cons
    (inLiteral : Bool)
    (c : Char)
    (rest : Text) :
    literalAfter inLiteral (c :: rest) =
      literalAfter (if c = '\'' then !inLiteral else inLiteral) rest := rfl

theorem literalAfter_append
    (inLiteral : Bool)
    (first second : Text) :
    literalAfter inLiteral (first ++ second) =
      literalAfter (literalAfter inLiteral first) second := by
  induction first generalizing inLiteral with
  | nil => rfl
  | cons c first inductionHypothesis => exact inductionHypothesis _

theorem literalAfter_of_noQuote
    {text : Text}
    (noQuote : '\'' ∉ text)
    (inLiteral : Bool) :
    literalAfter inLiteral text = inLiteral := by
  induction text with
  | nil => rfl
  | cons c text inductionHypothesis =>
      rw [List.mem_cons, not_or] at noQuote
      rw [literalAfter_cons, if_neg (Ne.symm noQuote.1), inductionHypothesis noQuote.2]

/-- Whether a place of a text is inside a literal that closes. -/
def InClosedLiteral (text : Text) (index : Nat) : Prop :=
  literalAfter false (text.take index) = true ∧ '\'' ∈ text.drop index

instance (text : Text) (index : Nat) : Decidable (InClosedLiteral text index) :=
  inferInstanceAs (Decidable (_ ∧ _))

/-! ## Texts that differ in literals only -/

/-- Whether two texts differ only inside closed literals. The flag tells whether a literal is open
at their starts. -/
inductive SameOutside : (inLiteral : Bool) → Text → Text → Prop where
  /-- Both texts end. -/
  | nil (inLiteral : Bool) : SameOutside inLiteral [] []
  /-- A quote in both texts. -/
  | quote
      {inLiteral : Bool}
      {rest other : Text}
      (same : SameOutside (!inLiteral) rest other) :
      SameOutside inLiteral ('\'' :: rest) ('\'' :: other)
  /-- Some other character in both texts. -/
  | plain
      {inLiteral : Bool}
      {c : Char}
      {rest other : Text}
      (noQuote : c ≠ '\'')
      (same : SameOutside inLiteral rest other) :
      SameOutside inLiteral (c :: rest) (c :: other)
  /-- Two characters of a literal that closes. -/
  | inside
      {c d : Char}
      {rest other : Text}
      (noQuote : c ≠ '\'')
      (otherNoQuote : d ≠ '\'')
      (closes : '\'' ∈ rest)
      (same : SameOutside true rest other) :
      SameOutside true (c :: rest) (d :: other)

variable {inLiteral : Bool} {text other : Text}

theorem sameOutside_of_inClosedLiteral
    (sameLength : text.length = other.length)
    (sameQuotes : ∀ index < text.length, text[index]? = some '\'' ↔ other[index]? = some '\'')
    (agree : ∀ index < text.length,
      ¬(literalAfter inLiteral (text.take index) = true ∧ '\'' ∈ text.drop index) →
        text[index]? = other[index]?) :
    SameOutside inLiteral text other := by
  induction text generalizing inLiteral other with
  | nil =>
      obtain rfl := List.length_eq_zero_iff.mp sameLength.symm
      exact .nil inLiteral
  | cons c rest inductionHypothesis =>
      cases other with
      | nil => simp at sameLength
      | cons d other =>
          have next : SameOutside (if c = '\'' then !inLiteral else inLiteral) rest other := by
            refine inductionHypothesis (Nat.succ.inj sameLength) (fun index lt => ?_)
              fun index lt outside => ?_
            · exact sameQuotes (index + 1) (Nat.succ_lt_succ lt)
            · exact agree (index + 1) (Nat.succ_lt_succ lt) outside
          have quoteHere : c = '\'' ↔ d = '\'' := by
            simpa using sameQuotes 0 (Nat.succ_pos _)
          have agreeHere : ¬(inLiteral = true ∧ '\'' ∈ c :: rest) → c = d := by
            simpa using agree 0 (Nat.succ_pos _)
          by_cases quote : c = '\''
          · obtain rfl := quoteHere.mp quote
            subst quote
            exact .quote next
          · rw [if_neg quote] at next
            by_cases inside : inLiteral = true ∧ '\'' ∈ c :: rest
            · obtain ⟨rfl, closes⟩ := inside
              exact .inside quote (fun quoteThere => quote (quoteHere.mpr quoteThere))
                ((List.mem_cons.mp closes).resolve_left (Ne.symm quote)) next
            · obtain rfl := agreeHere inside
              exact .plain quote next

namespace SameOutside

theorem length_eq (same : SameOutside inLiteral text other) :
    text.length = other.length := by
  induction same with
  | nil => rfl
  | quote _ inductionHypothesis => simp [inductionHypothesis]
  | plain _ _ inductionHypothesis => simp [inductionHypothesis]
  | inside _ _ _ _ inductionHypothesis => simp [inductionHypothesis]

theorem cons
    {c : Char}
    {rest otherRest : Text}
    (same : SameOutside (if c = '\'' then !inLiteral else inLiteral) rest otherRest) :
    SameOutside inLiteral (c :: rest) (c :: otherRest) := by
  by_cases quote : c = '\''
  · subst quote
    exact .quote same
  · rw [if_neg quote] at same
    exact .plain quote same

theorem mem_quote_iff (same : SameOutside inLiteral text other) :
    '\'' ∈ text ↔ '\'' ∈ other := by
  induction same with
  | nil => exact Iff.rfl
  | quote _ _ => simp
  | plain _ _ inductionHypothesis => simp [inductionHypothesis]
  | inside noQuote otherNoQuote _ _ inductionHypothesis =>
      simp [inductionHypothesis, Ne.symm noQuote, Ne.symm otherNoQuote]

theorem symm (same : SameOutside inLiteral text other) :
    SameOutside inLiteral other text := by
  induction same with
  | nil inLiteral => exact .nil inLiteral
  | quote _ inductionHypothesis => exact .quote inductionHypothesis
  | plain noQuote _ inductionHypothesis => exact .plain noQuote inductionHypothesis
  | inside noQuote otherNoQuote closes next inductionHypothesis =>
      exact .inside otherNoQuote noQuote (next.mem_quote_iff.mp closes) inductionHypothesis

/-- Texts without quotes behind them differ nowhere. -/
theorem eq_of_noQuote
    (same : SameOutside inLiteral text other)
    (noQuote : '\'' ∉ text) :
    text = other := by
  induction same with
  | nil => rfl
  | quote _ _ => simp at noQuote
  | plain _ _ inductionHypothesis =>
      rw [inductionHypothesis fun present => noQuote (.tail _ present)]
  | inside _ _ closes _ _ => exact absurd (.tail _ closes) noQuote

/-- Outside of literals both texts go on with the same characters up to the next quote. -/
theorem split_plain
    {plain rest : Text}
    (noQuote : '\'' ∉ plain)
    (same : SameOutside false (plain ++ rest) other) :
    ∃ otherRest, other = plain ++ otherRest ∧ SameOutside false rest otherRest := by
  induction plain generalizing other with
  | nil => exact ⟨other, rfl, same⟩
  | cons c plain inductionHypothesis =>
      rw [List.mem_cons, not_or] at noQuote
      cases same with
      | quote _ => exact absurd rfl noQuote.1
      | plain _ next =>
          obtain ⟨otherRest, rfl, after⟩ := inductionHypothesis noQuote.2 next
          exact ⟨otherRest, rfl, after⟩

/-- A text and its counterpart are cut at the same place, with quotes in both or in neither of the
beginnings. -/
theorem split_append
    {first second : Text}
    (same : SameOutside inLiteral (first ++ second) other) :
    ∃ otherFirst otherSecond, other = otherFirst ++ otherSecond ∧
      otherFirst.length = first.length ∧ ('\'' ∈ otherFirst ↔ '\'' ∈ first) ∧
      SameOutside (literalAfter inLiteral first) second otherSecond := by
  induction first generalizing inLiteral other with
  | nil => exact ⟨[], other, rfl, rfl, Iff.rfl, same⟩
  | cons c first inductionHypothesis =>
      rw [literalAfter_cons]
      cases same with
      | quote next =>
          obtain ⟨otherFirst, otherSecond, rfl, length, quotes, after⟩ := inductionHypothesis next
          exact ⟨_ :: otherFirst, otherSecond, rfl, by simp [length], by simp, after⟩
      | plain noQuote next =>
          obtain ⟨otherFirst, otherSecond, rfl, length, quotes, after⟩ := inductionHypothesis next
          rw [if_neg noQuote]
          exact ⟨_ :: otherFirst, otherSecond, rfl, by simp [length], by simp [quotes], after⟩
      | inside noQuote otherNoQuote _ next =>
          obtain ⟨otherFirst, otherSecond, rfl, length, quotes, after⟩ := inductionHypothesis next
          rw [if_neg noQuote]
          refine ⟨_ :: otherFirst, otherSecond, rfl, by simp [length], ?_, after⟩
          simp [quotes, Ne.symm noQuote, Ne.symm otherNoQuote]

/-- A beginning that ends outside of literals differs from its counterpart in literals only. -/
theorem of_append
    {first second otherFirst otherSecond : Text}
    (same : SameOutside inLiteral (first ++ second) (otherFirst ++ otherSecond))
    (sameLength : first.length = otherFirst.length)
    (outside : literalAfter inLiteral first = false) :
    SameOutside inLiteral first otherFirst := by
  induction first generalizing inLiteral otherFirst with
  | nil =>
      obtain rfl := List.length_eq_zero_iff.mp sameLength.symm
      exact .nil inLiteral
  | cons c first inductionHypothesis =>
      cases otherFirst with
      | nil => simp at sameLength
      | cons d otherFirst =>
          have sameLengthLeft : first.length = otherFirst.length := Nat.succ.inj sameLength
          rw [literalAfter_cons] at outside
          cases same with
          | quote next => exact .quote (inductionHypothesis next sameLengthLeft outside)
          | plain noQuote next =>
              rw [if_neg noQuote] at outside
              exact .plain noQuote (inductionHypothesis next sameLengthLeft outside)
          | inside noQuote otherNoQuote closes next =>
              rw [if_neg noQuote] at outside
              refine .inside noQuote otherNoQuote ?_ (inductionHypothesis next sameLengthLeft outside)
              by_contra stays
              rw [literalAfter_of_noQuote stays] at outside
              exact absurd outside (by decide)

/-- A stretch between two places outside of literals, or from one to the end, differs from its
counterpart in literals only. -/
theorem slice
    {start stop : Nat}
    (same : SameOutside false text other)
    (outside : literalAfter false (text.take start) = false)
    (outsideAfter : literalAfter false (text.take stop) = false ∨ text.length ≤ stop) :
    SameOutside false (Text.slice text start stop) (Text.slice other start stop) := by
  have cut := text.take_append_drop start
  rw [← cut] at same
  obtain ⟨otherLead, otherRest, rfl, leadLength, -, behind⟩ := same.split_append
  rw [outside] at behind
  rcases Nat.le_total text.length start with beyond | within
  · have nothing : text.drop start = [] := List.drop_of_length_le beyond
    rw [nothing] at behind
    cases behind
    rw [Text.slice, Text.slice, nothing, List.append_nil,
      List.drop_of_length_le (by rw [leadLength]; exact List.length_take_le _ _)]
    simpa using SameOutside.nil false
  · have leadLength : otherLead.length = start := by
      rw [leadLength, List.length_take, Nat.min_eq_left within]
    rw [Text.slice, Text.slice, List.drop_left' leadLength]
    have lengths := behind.length_eq
    rcases outsideAfter with outsideAfter | toEnd
    · have middleOutside : literalAfter false ((text.drop start).take (stop - start)) = false := by
        rcases Nat.le_total stop start with before | after
        · rw [Nat.sub_eq_zero_of_le before]
          rfl
        · rwa [← Nat.add_sub_cancel' after, List.take_add, literalAfter_append, outside]
            at outsideAfter
      rw [← (text.drop start).take_append_drop (stop - start),
        ← otherRest.take_append_drop (stop - start)] at behind
      exact behind.of_append (by simp [lengths]) middleOutside
    · rw [List.length_drop] at lengths
      rw [List.take_of_length_le (by simp; omega), List.take_of_length_le (by omega)]
      exact behind

end SameOutside

/-! ## Emptied literals -/

/-- A closed literal. -/
def closedLiteral : Pattern :=
  .all [.char '\'', .many (· ≠ '\''), .char '\'']

theorem covers_closedLiteral
    {before : Option Char}
    {run rest : Text} :
    closedLiteral.Covers before run rest ↔
      ∃ inner, run = '\'' :: (inner ++ ['\'']) ∧ '\'' ∉ inner := by
  rw [closedLiteral, Pattern.covers_char_cons]
  simp only [Pattern.covers_all_cons, Pattern.covers_many, Pattern.covers_all_nil,
    Pattern.covers_char]
  constructor
  · rintro ⟨_, rfl, inner, _, rfl, noQuote, _, _, rfl, rfl, rfl⟩
    exact ⟨inner, rfl, fun present => by simpa using noQuote _ present⟩
  · rintro ⟨inner, rfl, noQuote⟩
    refine ⟨_, rfl, inner, ['\''], rfl, fun c present => ?_, ['\''], [], rfl, rfl, rfl⟩
    exact decide_eq_true fun quote => noQuote (quote ▸ present)

/-- A literal that closes occurs up to its closing quote. -/
theorem occurrenceAt?_closedLiteral
    (before : Option Char)
    (index : Nat)
    {inner : Text}
    (noQuote : '\'' ∉ inner)
    (rest : Text) :
    ∃ occurrence,
      closedLiteral.occurrenceAt? ⟨before, index, '\'' :: (inner ++ '\'' :: rest)⟩ =
        some occurrence ∧ occurrence.length = inner.length + 2 := by
  have fits : (closedLiteral.occurrenceAt?
      ⟨before, index, '\'' :: (inner ++ '\'' :: rest)⟩).isSome := by
    refine Pattern.occurrenceAt?_isSome_iff.mpr ⟨'\'' :: (inner ++ ['\'']), rest, by simp, ?_⟩
    exact covers_closedLiteral.mpr ⟨inner, rfl, noQuote⟩
  obtain ⟨occurrence, found⟩ := Option.isSome_iff_exists.mp fits
  obtain ⟨run, others, text, covered, start, stop, -⟩ := Pattern.covers_of_occurrenceAt? found
  obtain ⟨foundInner, rfl, foundNoQuote⟩ := covers_closedLiteral.mp covered
  have equal : inner ++ '\'' :: rest = foundInner ++ '\'' :: others := by simpa using text
  have sameLength : inner.length = foundInner.length := by
    simpa [List.idxOf_append_of_notMem, noQuote, foundNoQuote] using
      congrArg (List.idxOf '\'') equal
  refine ⟨occurrence, found, ?_⟩
  rw [Occurrence.length, start, stop, sameLength]
  simp

/-- A literal occurs only where it closes. -/
theorem occurrenceAt?_closedLiteral_eq_none
    (before : Option Char)
    (index : Nat)
    {text : Text}
    (noLiteral : ∀ rest, text = '\'' :: rest → '\'' ∉ rest) :
    closedLiteral.occurrenceAt? ⟨before, index, text⟩ = none := by
  refine Pattern.occurrenceAt?_eq_none_iff.mpr fun run others equal covered => ?_
  obtain ⟨inner, rfl, -⟩ := covers_closedLiteral.mp covered
  exact noLiteral _ equal (by simp)

/-- The text with closed literals emptied, behind a place. -/
def emptiedFrom (before : Option Char) (index : Nat) (text : Text) : Text :=
  closedLiteral.replaceFrom "''" 0 before index text

theorem emptiedFrom_cons
    (before : Option Char)
    (index : Nat)
    {c : Char}
    {rest : Text}
    (noLiteral : c = '\'' → '\'' ∉ rest) :
    emptiedFrom before index (c :: rest) = c :: emptiedFrom (some c) (index + 1) rest := by
  rw [emptiedFrom, Pattern.replaceFrom, occurrenceAt?_closedLiteral_eq_none]
  · rfl
  · intro others equal
    obtain ⟨rfl, rfl⟩ := List.cons.inj equal
    exact noLiteral rfl

theorem emptiedFrom_literal
    (before : Option Char)
    (index : Nat)
    {inner : Text}
    (noQuote : '\'' ∉ inner)
    (rest : Text) :
    emptiedFrom before index ('\'' :: (inner ++ '\'' :: rest)) =
      "''".toList ++ emptiedFrom (some '\'') (index + inner.length + 2) rest := by
  obtain ⟨occurrence, found, length⟩ := occurrenceAt?_closedLiteral before index noQuote rest
  have skip : occurrence.length - 1 = (inner ++ ['\'']).length := by simp [length]
  rw [emptiedFrom, Pattern.replaceFrom, found]
  simp only [length, Nat.zero_lt_succ, if_true]
  rw [← length, skip, List.append_cons inner '\'' rest, Pattern.replaceFrom_skip]
  have behind : index + 1 + (inner ++ ['\'']).length = index + inner.length + 2 := by
    rw [List.length_append, List.length_singleton]
    omega
  rw [behind, Text.lastOr_append]
  rfl

/-- With their closed literals emptied, texts that differ in literals only are the same. -/
theorem SameOutside.emptiedFrom_eq
    (same : SameOutside false text other)
    (before : Option Char)
    (index : Nat) :
    emptiedFrom before index text = emptiedFrom before index other := by
  induction length : text.length using Nat.strongRecOn
    generalizing text other before index with
  | ind bound inductionHypothesis =>
    cases same with
    | nil => rfl
    | @plain _ c rest other noQuote next =>
        rw [emptiedFrom_cons _ _ (absurd · noQuote), emptiedFrom_cons _ _ (absurd · noQuote),
          inductionHypothesis rest.length (by simp [← length]) next _ _ rfl]
    | @quote _ rest other next =>
        by_cases closes : '\'' ∈ rest
        · obtain ⟨inner, tail, rfl, noQuote⟩ := List.eq_append_cons_of_mem closes
          obtain ⟨otherInner, otherRest, rfl, sameLength, quotes, behind⟩ := next.split_append
          rw [literalAfter_of_noQuote noQuote] at behind
          cases behind with
          | plain noQuote _ => exact absurd rfl noQuote
          | inside noQuote _ _ _ => exact absurd rfl noQuote
          | @quote _ _ otherTail behind =>
              have shorter : tail.length < bound := by
                rw [← length]
                simp
                omega
              rw [emptiedFrom_literal _ _ noQuote,
                emptiedFrom_literal _ _ (fun present => noQuote (quotes.mp present)), sameLength,
                inductionHypothesis tail.length shorter behind _ _ rfl]
        · rw [next.eq_of_noQuote closes]

/-- Where a text stands does not matter for its literals. -/
theorem emptiedFrom_eq
    (before : Option Char)
    (index : Nat)
    (text : Text) :
    emptiedFrom before index text = withoutLiterals text := by
  change emptiedFrom before index text = emptiedFrom none 0 text
  have anywhere (before other : Option Char) (index place : Nat) :
      emptiedFrom before index text = emptiedFrom other place text := by
    induction length : text.length using Nat.strongRecOn
      generalizing text before other index place with
    | ind bound inductionHypothesis =>
      cases text with
      | nil => rfl
      | cons c rest =>
          by_cases literal : c = '\'' ∧ '\'' ∈ rest
          · obtain ⟨rfl, closes⟩ := literal
            obtain ⟨inner, tail, rfl, noQuote⟩ := List.eq_append_cons_of_mem closes
            have shorter : tail.length < bound := by
              rw [← length]
              simp
              omega
            rw [emptiedFrom_literal _ _ noQuote, emptiedFrom_literal _ _ noQuote,
              inductionHypothesis tail.length shorter tail _ (some '\'') _
                (place + inner.length + 2) rfl]
          · have noLiteral : c = '\'' → '\'' ∉ rest := fun quote closes => literal ⟨quote, closes⟩
            rw [emptiedFrom_cons _ _ noLiteral, emptiedFrom_cons _ _ noLiteral,
              inductionHypothesis rest.length (by simp [← length]) rest _ (some c) _ (place + 1) rfl]
  exact anywhere before none index 0

/-- In front of the first quote nothing is emptied. -/
theorem withoutLiterals_append
    {plain : Text}
    (noQuote : '\'' ∉ plain)
    (rest : Text) :
    withoutLiterals (plain ++ rest) = plain ++ withoutLiterals rest := by
  induction plain with
  | nil => rfl
  | cons c plain inductionHypothesis =>
      rw [List.mem_cons, not_or] at noQuote
      rw [List.cons_append, List.cons_append, ← inductionHypothesis noQuote.2]
      exact (emptiedFrom_cons none 0 (absurd ·.symm noQuote.1)).trans
        (congrArg (c :: ·) (emptiedFrom_eq _ _ _))

theorem withoutLiterals_literal
    {inner : Text}
    (noQuote : '\'' ∉ inner)
    (rest : Text) :
    withoutLiterals ('\'' :: (inner ++ '\'' :: rest)) = "''".toList ++ withoutLiterals rest :=
  (emptiedFrom_literal none 0 noQuote rest).trans (congrArg _ (emptiedFrom_eq _ _ _))

/-- Without quotes nothing is emptied. -/
theorem withoutLiterals_of_noQuote
    {text : Text}
    (noQuote : '\'' ∉ text) :
    withoutLiterals text = text := by
  have whole := withoutLiterals_append noQuote []
  rwa [List.append_nil, show withoutLiterals [] = [] from rfl, List.append_nil] at whole

theorem SameOutside.withoutLiterals_eq (same : SameOutside false text other) :
    withoutLiterals text = withoutLiterals other :=
  same.emptiedFrom_eq none 0

end Query
end SqlReview
