import Mathlib.Data.Bool.AllAny
import SqlReview.Proofs.Literals.Contents

/-!
# Views of texts that read the same

A literal is visible from outside all subqueries as a whole or not at all, so the views of two texts that
read the same read the same. Their clauses are cut at words of the top level, which stand outside of
literals: the bodies of a clause read the same in the texts and in the views.
-/

namespace SqlReview
namespace Query

variable {text other content rest : Text} {c : Char} {index : Nat}

/-! ## The outside view -/

theorem marksFrom_content
    {nest : Nest}
    (inLiteral : nest.inLiteral = true)
    (noQuote : '\'' ∉ content)
    (rest : Text) :
    marksFrom nest (content ++ rest) = content.map nest.mark ++ marksFrom nest rest := by
  induction content with
  | nil => rfl
  | cons c content inductionHypothesis =>
      rw [List.mem_cons, not_or] at noQuote
      rw [List.cons_append, marksFrom, Nest.step_inLiteral (Ne.symm noQuote.1) inLiteral,
        inductionHypothesis noQuote.2]
      rfl

/-- A literal is visible as a whole or not at all. -/
theorem outside_literal
    {nest : Nest}
    (outside : nest.inLiteral = false)
    (noQuote : '\'' ∉ content)
    (rest : Text) :
    (marksFrom nest ('\'' :: (content ++ '\'' :: rest))).map (·.outside) =
      (if 0 < nest.around then List.replicate (content.length + 2) ' '
        else '\'' :: (content ++ ['\''])) ++ (marksFrom nest rest).map (·.outside) := by
  obtain ⟨stack, opened, around, inLiteral⟩ := nest
  obtain rfl : inLiteral = false := outside
  have inside : (⟨stack, opened, around, true⟩ : Nest).inLiteral = true := rfl
  have seen (c : Char) : ((⟨stack, opened, around, true⟩ : Nest).mark c).outside =
      if 0 < around then ' ' else c := by
    rw [Nest.outside_mark, Nest.seen_inLiteral inside]
  rw [marksFrom, Nest.step_quote]
  change (_ :: marksFrom ⟨stack, opened, around, true⟩ (content ++ '\'' :: rest)).map _ = _
  rw [marksFrom_content inside noQuote, marksFrom, Nest.step_quote]
  change (Nest.mark ⟨stack, opened, around, false⟩ '\'' ::
    (content.map _ ++ Nest.mark ⟨stack, opened, around, true⟩ '\'' ::
      marksFrom ⟨stack, opened, around, false⟩ rest)).map _ = _
  simp only [List.map_cons, List.map_append, List.map_map, Function.comp_def, seen]
  rw [Nest.outside_mark, Nest.seen_of_ne (by decide)]
  change (if 0 < around then ' ' else '\'') :: _ = _
  split
  · rw [List.replicate_succ, List.replicate_succ']
    simp
  · simp

/-- Views of texts that read the same read the same. -/
theorem SameReading.outside
    {nest : Nest}
    (same : SameReading text other)
    (outside : nest.inLiteral = false) :
    SameReading ((marksFrom nest text).map (·.outside)) ((marksFrom nest other).map (·.outside)) := by
  induction same generalizing nest with
  | same text => exact .same _
  | @plain c rest other noQuote behind inductionHypothesis =>
      have after : (nest.stepOver c rest).inLiteral = false := by
        rw [Nest.inLiteral_stepOver, if_neg noQuote, outside]
      have step : nest.stepOver c rest = nest.stepOver c other := by
        have differ := behind.sameOutside
        rw [← outside] at differ
        exact differ.stepOver_eq
      have noQuoteOutside : (nest.mark c).outside ≠ '\'' := by
        rcases nest.outside_mark_eq_or c with visible | blank
        · rwa [visible]
        · rw [blank]
          decide
      rw [marksFrom_cons, marksFrom_cons, ← step]
      exact .plain noQuoteOutside (inductionHypothesis after)
  | literal noQuote otherNoQuote inert otherInert sameLength sameFirst _ inductionHypothesis =>
      have behind := inductionHypothesis outside
      rw [outside_literal outside noQuote, outside_literal outside otherNoQuote, sameLength]
      split
      · refine behind.append fun present => ?_
        exact absurd (List.eq_of_mem_replicate present) (by decide)
      · simp only [List.cons_append, List.append_assoc, List.nil_append]
        exact .literal noQuote otherNoQuote inert otherInert sameLength sameFirst behind

theorem SameReading.outsideView (same : SameReading text other) :
    SameReading (outsideView text) (outsideView other) := by
  have outermost : Nest.outermost.inLiteral = false := rfl
  exact same.outside outermost

/-! ## Places of the top level -/

theorem getElem?_maskFrom
    (depth : Depth)
    (text : Text)
    (index : Nat) :
    (maskFrom depth text)[index]? =
      text[index]?.map fun c => if (depth.after (text.take index)).shows c then c else ' ' := by
  induction text generalizing depth index with
  | nil => rfl
  | cons c text inductionHypothesis =>
      cases index with
      | zero => rfl
      | succ index =>
          rw [maskFrom_cons, List.getElem?_cons_succ, inductionHypothesis, List.getElem?_cons_succ,
            List.take_succ_cons, Depth.after_cons]

theorem take_maskFrom
    (depth : Depth)
    (text : Text)
    (count : Nat) :
    (maskFrom depth text).take count = maskFrom depth (text.take count) := by
  rcases Nat.le_total text.length count with beyond | within
  · rw [List.take_of_length_le beyond, List.take_of_length_le (by simpa using beyond)]
  · have whole := maskFrom_append depth (text.take count) (text.drop count)
    rw [List.take_append_drop] at whole
    rw [whole, List.take_left' (by rw [length_maskFrom, List.length_take, Nat.min_eq_left within])]

theorem drop_maskFrom
    (depth : Depth)
    (text : Text)
    (count : Nat) :
    (maskFrom depth text).drop count = maskFrom (depth.after (text.take count)) (text.drop count) := by
  rcases Nat.le_total text.length count with beyond | within
  · rw [List.drop_of_length_le beyond, List.drop_of_length_le (by simpa using beyond)]
    rfl
  · have whole := maskFrom_append depth (text.take count) (text.drop count)
    rw [List.take_append_drop] at whole
    rw [whole, List.drop_left' (by rw [length_maskFrom, List.length_take, Nat.min_eq_left within])]

theorem inLiteral_after
    (depth : Depth)
    (text : Text) :
    (depth.after text).inLiteral = literalAfter depth.inLiteral text := by
  induction text generalizing depth with
  | nil => rfl
  | cons c text inductionHypothesis =>
      rw [Depth.after_cons, inductionHypothesis, literalAfter_cons, Depth.inLiteral_step]

theorem not_inClosedLiteral_of_after
    (outermost : Depth.outermost.after (text.take index) = .outermost) :
    ¬InClosedLiteral text index := by
  intro inside
  have opens := inLiteral_after .outermost (text.take index)
  rw [outermost] at opens
  exact absurd (opens.trans inside.1) (by decide)

/-- On both sides of a character of the top level that is no quote and no parenthesis, nothing is
open. -/
theorem after_take_of_mask
    (visible : (mask text)[index]? = some c)
    (plain : c ∉ ['\'', '(', ')', ' ']) :
    Depth.outermost.after (text.take index) = .outermost ∧
      Depth.outermost.after (text.take (index + 1)) = .outermost := by
  rw [mask, getElem?_maskFrom, Option.map_eq_some_iff] at visible
  obtain ⟨d, here, shown⟩ := visible
  rw [List.take_add_one, here, Depth.after_append]
  generalize Depth.outermost.after (text.take index) = depth at *
  obtain ⟨level, inLiteral⟩ := depth
  simp only [List.mem_cons, List.not_mem_nil, or_false, not_or] at plain
  obtain ⟨noQuote, noOpen, noClose, noBlank⟩ := plain
  split at shown
  next shows =>
      subst shown
      simp only [Depth.shows, noQuote, noClose, if_false] at shows
      cases inLiteral with
      | true => simp at shows
      | false =>
          obtain rfl : level = 0 := by simpa using shows
          exact ⟨rfl, by simp [Depth.step, noQuote, noOpen, noClose, Depth.outermost]⟩
  · exact absurd shown.symm noBlank

theorem plain_of_isWord (isWord : Text.isWord c = true) :
    c ∉ ['\'', '(', ')', ' '] := by
  have signs : ∀ sign ∈ ['\'', '(', ')', ' '], Text.isWord sign = false :=
    List.all_iff_forall_prop.mp (by decide)
  intro present
  exact absurd ((signs c present).symm.trans isWord) (by decide)

/-! ## Clauses -/

theorem after_take_start
    {clause : Clause}
    (present : clause ∈ clauses (mask text)) :
    Depth.outermost.after (text.take clause.start) = .outermost := by
  obtain ⟨⟨index, c, start, visible, isWord⟩, -⟩ := ends_of_mem_clauses present
  rw [start]
  exact (after_take_of_mask visible (plain_of_isWord isWord)).2

/-- The bodies of a clause in texts that read the same read the same. -/
theorem SameReading.body
    (same : SameReading text other)
    {clause : Clause}
    (present : clause ∈ clauses (mask text)) :
    SameReading (clause.body text) (clause.body other) := by
  refine same.slice (not_inClosedLiteral_of_after (after_take_start present)) ?_
  rcases (ends_of_mem_clauses present).2 with toEnd | ⟨c, visible, isWord⟩
  · intro inside
    have nothing : text.drop clause.stop = [] := by
      rw [toEnd, length_mask, List.drop_length]
    rw [InClosedLiteral, nothing] at inside
    exact List.not_mem_nil inside.2
  · exact not_inClosedLiteral_of_after (after_take_of_mask visible (plain_of_isWord isWord)).1

/-- The bodies of a clause in the two views read the same. -/
theorem SameReading.viewedBody
    (same : SameReading text other)
    {clause : Clause}
    (present : clause ∈ clauses (mask text)) :
    SameReading (clause.body (Query.outsideView text)) (clause.body (Query.outsideView other)) := by
  obtain ⟨⟨index, c, start, visible, isWord⟩, stop⟩ := ends_of_mem_clauses present
  have outside {index : Nat} {view : Text} (closed : literalAfter false (view.take index) = false) :
      ¬InClosedLiteral view index := fun inside =>
    absurd (closed.symm.trans inside.1) (by decide)
  refine same.outsideView.slice ?_ ?_
  · rw [start]
    exact outside (literalAfter_take_outsideView visible isWord).2
  · rcases stop with toEnd | ⟨d, visibleBehind, isWordBehind⟩
    · intro inside
      have nothing : (Query.outsideView text).drop clause.stop = [] := by
        rw [toEnd, length_mask, ← length_outsideView text, List.drop_length]
      rw [InClosedLiteral, nothing] at inside
      exact List.not_mem_nil inside.2
    · exact outside (literalAfter_take_outsideView visibleBehind isWordBehind).1

end Query
end SqlReview
