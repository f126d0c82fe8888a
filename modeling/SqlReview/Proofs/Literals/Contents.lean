import SqlReview.Proofs.Pattern.Lockstep
import SqlReview.Proofs.Query.Inertness

/-!
# Texts that read the same

The scans for columns and calls run over literals with their contents. They pass a literal by if nothing
in it looks like a column in front of an operator, `isInert`, and if it holds none of the characters that
end a stretch of other text. Two texts read the same if they differ only in such literals, and there only
behind the first character. Texts that read the same still do so when both are cut outside of their
literals, and when both are viewed from outside their subqueries.
-/

namespace SqlReview
namespace Query

/-! ## Contents of literals -/

/-- The contents of the literals that close in a text, given what has been read of the literal that is
open, the latest character first. -/
def contentsFrom : Option Text → Text → List Text
  | _, [] => []
  | none, c :: rest => contentsFrom (if c = '\'' then some [] else none) rest
  | some content, c :: rest =>
    if c = '\'' then content.reverse :: contentsFrom none rest
    else contentsFrom (some (c :: content)) rest

/-- The contents of the literals that close in a text. -/
def literalContents (text : Text) : List Text :=
  contentsFrom none text

/-- The characters at which a scan for calls or quoted names stops. -/
def stoppingMarks : List Char :=
  ['(', ')', '"', '\x60', ']']

/-- Whether the scans pass a literal by whatever stands around it. -/
def isInert (content : Text) : Bool :=
  content.all (!stoppingMarks.contains ·) && !plainColumn.occursIn ('\'' :: (content ++ ['\'']))

/-- Whether a place is inside a literal that closes and behind the first character of its content. -/
def IsBehindFirst (text : Text) (index : Nat) : Prop :=
  InClosedLiteral text index ∧ literalAfter false (text.take (index - 1)) = true

instance (text : Text) (index : Nat) : Decidable (IsBehindFirst text index) :=
  inferInstanceAs (Decidable (_ ∧ _))

variable {text other content rest : Text} {c : Char} {index : Nat}

theorem not_mem_of_isInert
    (inert : isInert content = true)
    (isMark : c ∈ stoppingMarks) :
    c ∉ content := by
  intro present
  have passed := List.all_eq_true.mp (Bool.and_eq_true _ _ ▸ inert).1 c present
  simp [isMark] at passed

theorem not_occursIn_of_isInert (inert : isInert content = true) :
    plainColumn.occursIn ('\'' :: (content ++ ['\''])) = false := by
  rw [isInert, Bool.and_eq_true, Bool.not_eq_true'] at inert
  exact inert.2

theorem contentsFrom_some
    (noQuote : '\'' ∉ content)
    (read rest : Text) :
    contentsFrom (some read) (content ++ '\'' :: rest) =
      (read.reverse ++ content) :: contentsFrom none rest := by
  induction content generalizing read with
  | nil => simp [contentsFrom]
  | cons c content inductionHypothesis =>
      rw [List.mem_cons, not_or] at noQuote
      rw [List.cons_append, contentsFrom, if_neg (Ne.symm noQuote.1), inductionHypothesis noQuote.2]
      simp

theorem literalContents_literal (noQuote : '\'' ∉ content) :
    literalContents ('\'' :: (content ++ '\'' :: rest)) = content :: literalContents rest := by
  rw [literalContents, contentsFrom, if_pos rfl, contentsFrom_some noQuote]
  rfl

theorem literalContents_plain (noQuote : c ≠ '\'') :
    literalContents (c :: rest) = literalContents rest := by
  rw [literalContents, contentsFrom, if_neg noQuote]
  rfl

/-! ## Places -/

theorem not_inClosedLiteral_zero : ¬InClosedLiteral text 0 :=
  fun inside => absurd inside.1 Bool.false_ne_true

theorem inClosedLiteral_plain (noQuote : c ≠ '\'') :
    InClosedLiteral (c :: rest) (index + 1) ↔ InClosedLiteral rest index := by
  rw [InClosedLiteral, List.take_succ_cons, literalAfter_cons, if_neg noQuote]
  rfl

/-- Up to its closing quote, a place behind the opening quote of a literal is inside it. -/
theorem inClosedLiteral_content
    (noQuote : '\'' ∉ content)
    (within : index ≤ content.length) :
    InClosedLiteral ('\'' :: (content ++ '\'' :: rest)) (index + 1) := by
  have noQuoteBefore : '\'' ∉ content.take index := fun present =>
    noQuote (List.mem_of_mem_take present)
  rw [InClosedLiteral, List.take_succ_cons, List.take_append_of_le_length within, literalAfter_cons,
    literalAfter_of_noQuote noQuoteBefore, List.drop_succ_cons, List.drop_append_of_le_length within]
  exact ⟨rfl, by simp⟩

/-- A place behind a literal is as much inside of others as it is without it. -/
theorem inClosedLiteral_literal (noQuote : '\'' ∉ content) :
    InClosedLiteral ('\'' :: (content ++ '\'' :: rest)) (content.length + 2 + index) ↔
      InClosedLiteral rest index := by
  have split : '\'' :: (content ++ '\'' :: rest) = ('\'' :: (content ++ ['\''])) ++ rest := by simp
  have length : ('\'' :: (content ++ ['\''])).length = content.length + 2 := by simp
  have closed : literalAfter false ('\'' :: (content ++ ['\''])) = false := by
    rw [literalAfter_cons, literalAfter_append, literalAfter_of_noQuote noQuote]
    rfl
  rw [InClosedLiteral, split, ← length, List.take_length_add_append, literalAfter_append, closed,
    List.drop_length_add_append]
  rfl

/-- A place behind a cut outside of closed literals is inside a literal of the whole text if it is inside
one of what is behind the cut. -/
theorem inClosedLiteral_of_drop
    {start : Nat}
    (outside : ¬InClosedLiteral text start)
    (inside : InClosedLiteral (text.drop start) index) :
    InClosedLiteral text (start + index) := by
  cases opens : literalAfter false (text.take start) with
  | true => exact absurd ⟨opens, List.mem_of_mem_drop inside.2⟩ outside
  | false =>
      rw [InClosedLiteral, List.take_add, literalAfter_append, opens, ← List.drop_drop]
      exact inside

/-! ## Readings -/

/-- Whether two texts differ only in literals that the scans pass by, and there not in the first
character. -/
inductive SameReading : Text → Text → Prop where
  /-- Two texts that do not differ. -/
  | same (text : Text) : SameReading text text
  /-- A character outside of literals. -/
  | plain
      {c : Char}
      {rest other : Text}
      (noQuote : c ≠ '\'')
      (behind : SameReading rest other) :
      SameReading (c :: rest) (c :: other)
  /-- Two literals. -/
  | literal
      {content otherContent rest other : Text}
      (noQuote : '\'' ∉ content)
      (otherNoQuote : '\'' ∉ otherContent)
      (inert : isInert content = true)
      (otherInert : isInert otherContent = true)
      (sameLength : content.length = otherContent.length)
      (sameFirst : content.head? = otherContent.head?)
      (behind : SameReading rest other) :
      SameReading ('\'' :: (content ++ '\'' :: rest)) ('\'' :: (otherContent ++ '\'' :: other))

/-- Texts that differ in literals only read the same if the scans pass the literals by and the literals
start with the same characters. -/
theorem SameOutside.sameReading
    (same : SameOutside false text other)
    (sameFirst : ∀ lead rest otherLead otherRest, text = lead ++ '\'' :: rest →
      other = otherLead ++ '\'' :: otherRest → lead.length = otherLead.length →
        literalAfter false lead = false → rest.head? = otherRest.head?)
    (inert : ∀ content ∈ literalContents text, isInert content = true)
    (otherInert : ∀ content ∈ literalContents other, isInert content = true) :
    SameReading text other := by
  induction length : text.length using Nat.strongRecOn generalizing text other with
  | ind bound inductionHypothesis =>
    cases same with
    | nil => exact .same []
    | @plain _ c rest other noQuote next =>
        rw [literalContents_plain noQuote] at inert otherInert
        refine .plain noQuote (inductionHypothesis rest.length (by simp [← length]) next ?_ inert
          otherInert rfl)
        rintro lead behind otherLead otherBehind rfl rfl sameLength closed
        refine sameFirst (c :: lead) behind (c :: otherLead) otherBehind rfl rfl (by simp [sameLength]) ?_
        rwa [literalAfter_cons, if_neg noQuote]
    | @quote _ rest other next =>
        by_cases closes : '\'' ∈ rest
        · obtain ⟨content, tail, rfl, noQuote⟩ := List.eq_append_cons_of_mem closes
          obtain ⟨otherContent, otherRest, rfl, sameLength, quotes, behind⟩ := next.split_append
          rw [literalAfter_of_noQuote noQuote] at behind
          have otherNoQuote : '\'' ∉ otherContent := fun present => noQuote (quotes.mp present)
          cases behind with
          | plain noQuote _ => exact absurd rfl noQuote
          | inside noQuote _ _ _ => exact absurd rfl noQuote
          | @quote _ _ otherTail behind =>
              rw [literalContents_literal noQuote, List.forall_mem_cons] at inert
              rw [literalContents_literal otherNoQuote, List.forall_mem_cons] at otherInert
              have shorter : tail.length < bound := by
                rw [← length]
                simp
                omega
              have firstHere : content.head? = otherContent.head? := by
                have heads := sameFirst [] _ [] _ rfl rfl rfl rfl
                cases content with
                | nil => rw [List.length_eq_zero_iff.mp sameLength]
                | cons c content =>
                    obtain ⟨d, otherContent, rfl⟩ : ∃ d others, otherContent = d :: others :=
                      List.exists_cons_of_length_eq_add_one sameLength
                    exact heads
              refine .literal noQuote otherNoQuote inert.1 otherInert.1 sameLength.symm firstHere
                (inductionHypothesis tail.length shorter behind ?_ inert.2 otherInert.2 rfl)
              rintro lead rest otherLead otherRest rfl rfl sameLead closed
              refine sameFirst ('\'' :: (content ++ '\'' :: lead)) rest
                ('\'' :: (otherContent ++ '\'' :: otherLead)) otherRest (by simp) (by simp)
                (by simp [sameLength, sameLead]) ?_
              rw [literalAfter_cons, literalAfter_append, literalAfter_of_noQuote noQuote]
              exact closed
        · rw [next.eq_of_noQuote closes]
          exact .same _

namespace SameReading

theorem symm (same : SameReading text other) :
    SameReading other text := by
  induction same with
  | same text => exact .same text
  | plain noQuote _ inductionHypothesis => exact .plain noQuote inductionHypothesis
  | literal noQuote otherNoQuote inert otherInert sameLength sameFirst _ inductionHypothesis =>
      exact .literal otherNoQuote noQuote otherInert inert sameLength.symm sameFirst.symm
        inductionHypothesis

/-- In front of the first literal, texts that read the same look the same. -/
theorem looksSame : LooksSame '\'' SameReading where
  head? same := by
    cases same with
    | same _ => rfl
    | plain _ _ => rfl
    | literal _ _ _ _ _ _ _ => rfl
  tail same noQuote := by
    cases same with
    | same _ => exact .same _
    | plain _ behind => exact behind
    | literal _ _ _ _ _ _ _ => exact absurd rfl noQuote
  length same := by
    induction same with
    | same _ => rfl
    | plain _ _ inductionHypothesis => simp [inductionHypothesis]
    | literal _ _ _ _ sameLength _ _ inductionHypothesis =>
        simp [inductionHypothesis, sameLength]

theorem append
    {run : Text}
    (noQuote : '\'' ∉ run)
    (same : SameReading text other) :
    SameReading (run ++ text) (run ++ other) := by
  induction run with
  | nil => exact same
  | cons c run inductionHypothesis =>
      rw [List.mem_cons, not_or] at noQuote
      exact .plain (Ne.symm noQuote.1) (inductionHypothesis noQuote.2)

/-- Texts without quotes that read the same are the same. -/
theorem eq_of_noQuote
    (same : SameReading text other)
    (noQuote : '\'' ∉ text) :
    text = other := by
  rw [← List.append_nil text] at same
  obtain ⟨rest, rfl, behind⟩ := looksSame.exists_append noQuote same
  rw [List.length_eq_zero_iff.mp (looksSame.length behind).symm, List.append_nil]

/-- Literals of the same length differ in their contents only. -/
theorem sameOutside_literal
    {otherContent : Text}
    (noQuote : '\'' ∉ content)
    (otherNoQuote : '\'' ∉ otherContent)
    (sameLength : content.length = otherContent.length)
    (behind : SameOutside false rest other) :
    SameOutside true (content ++ '\'' :: rest) (otherContent ++ '\'' :: other) := by
  induction content generalizing otherContent with
  | nil =>
      rw [List.length_eq_zero_iff.mp sameLength.symm]
      exact .quote behind
  | cons c content inductionHypothesis =>
      obtain ⟨d, otherContent, rfl⟩ : ∃ d others, otherContent = d :: others :=
        List.exists_cons_of_length_eq_add_one sameLength.symm
      rw [List.mem_cons, not_or] at noQuote otherNoQuote
      exact .inside (Ne.symm noQuote.1) (Ne.symm otherNoQuote.1) (by simp)
        (inductionHypothesis noQuote.2 otherNoQuote.2 (Nat.succ.inj sameLength))

/-- Texts that read the same differ in literals only. -/
theorem sameOutside (same : SameReading text other) :
    SameOutside false text other := by
  have refl (inLiteral : Bool) (text : Text) : SameOutside inLiteral text text := by
    induction text generalizing inLiteral with
    | nil => exact .nil inLiteral
    | cons c rest inductionHypothesis => exact .cons (inductionHypothesis _)
  induction same with
  | same text => exact refl false text
  | plain noQuote _ inductionHypothesis => exact .plain noQuote inductionHypothesis
  | literal noQuote otherNoQuote _ _ sameLength _ _ inductionHypothesis =>
      exact .quote (sameOutside_literal noQuote otherNoQuote sameLength inductionHypothesis)

/-! ## Cuts -/

/-- What is behind a cut outside of closed literals reads the same. -/
theorem drop
    (same : SameReading text other)
    (outside : ¬InClosedLiteral text index) :
    SameReading (text.drop index) (other.drop index) := by
  induction same generalizing index with
  | same text => exact .same _
  | plain noQuote behind inductionHypothesis =>
      cases index with
      | zero => exact .plain noQuote behind
      | succ index =>
          rw [inClosedLiteral_plain noQuote] at outside
          exact inductionHypothesis outside
  | @literal content otherContent rest other noQuote otherNoQuote inert otherInert sameLength
      sameFirst behind inductionHypothesis =>
      cases index with
      | zero => exact .literal noQuote otherNoQuote inert otherInert sameLength sameFirst behind
      | succ index =>
          rcases Nat.lt_or_ge content.length index with beyond | within
          · obtain ⟨count, rfl⟩ := Nat.exists_eq_add_of_lt beyond
            have split (content rest : Text) (length : content.length = otherContent.length) :
                ('\'' :: (content ++ '\'' :: rest)).drop (otherContent.length + count + 1 + 1) =
                  rest.drop count := by
              rw [List.drop_succ_cons, ← length, List.drop_append, List.drop_of_length_le (by omega),
                Nat.add_assoc, Nat.add_sub_cancel_left]
              rfl
            rw [sameLength, split content rest sameLength, split otherContent other rfl]
            refine inductionHypothesis fun inside => outside ?_
            have place : content.length + count + 1 + 1 = content.length + 2 + count := by omega
            rw [place]
            exact (inClosedLiteral_literal noQuote).mpr inside
          · exact absurd (inClosedLiteral_content noQuote within) outside

/-- What is in front of a cut outside of closed literals reads the same. -/
theorem take
    (same : SameReading text other)
    (outside : ¬InClosedLiteral text index) :
    SameReading (text.take index) (other.take index) := by
  induction same generalizing index with
  | same text => exact .same _
  | plain noQuote behind inductionHypothesis =>
      cases index with
      | zero => exact .same []
      | succ index =>
          rw [inClosedLiteral_plain noQuote] at outside
          exact .plain noQuote (inductionHypothesis outside)
  | @literal content otherContent rest other noQuote otherNoQuote inert otherInert sameLength
      sameFirst behind inductionHypothesis =>
      cases index with
      | zero => exact .same []
      | succ index =>
          rcases Nat.lt_or_ge content.length index with beyond | within
          · obtain ⟨count, rfl⟩ := Nat.exists_eq_add_of_lt beyond
            have split (content rest : Text) (length : content.length = otherContent.length) :
                ('\'' :: (content ++ '\'' :: rest)).take (otherContent.length + count + 1 + 1) =
                  '\'' :: (content ++ '\'' :: rest.take count) := by
              rw [List.take_succ_cons, ← length, List.take_append, List.take_of_length_le (by omega),
                Nat.add_assoc, Nat.add_sub_cancel_left]
              rfl
            rw [sameLength, split content rest sameLength, split otherContent other rfl]
            refine .literal noQuote otherNoQuote inert otherInert sameLength sameFirst
              (inductionHypothesis fun inside => outside ?_)
            have place : content.length + count + 1 + 1 = content.length + 2 + count := by omega
            rw [place]
            exact (inClosedLiteral_literal noQuote).mpr inside
          · exact absurd (inClosedLiteral_content noQuote within) outside

/-- A stretch between two cuts outside of closed literals reads the same. -/
theorem slice
    {start stop : Nat}
    (same : SameReading text other)
    (outside : ¬InClosedLiteral text start)
    (outsideAfter : ¬InClosedLiteral text stop) :
    SameReading (Text.slice text start stop) (Text.slice other start stop) := by
  refine (same.drop outside).take ?_
  rcases Nat.le_total start stop with before | after
  · intro inside
    have whole := inClosedLiteral_of_drop outside inside
    rw [Nat.add_sub_cancel' before] at whole
    exact outsideAfter whole
  · rw [Nat.sub_eq_zero_of_le after]
    exact not_inClosedLiteral_zero

end SameReading
end Query
end SqlReview
