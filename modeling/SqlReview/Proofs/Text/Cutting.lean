import Mathlib.Data.List.DropRight
import Mathlib.Data.List.TakeWhile
import SqlReview.Text.Blank

/-!
# Cutting texts

What a text consists of when it is cut at a separator or by offsets, which texts have nothing left
when they are trimmed, and that a text holds its parts.
-/

namespace SqlReview
namespace Text

/-- What stands between two texts is cut out by its offsets. -/
theorem slice_middle (front middle rest : Text) :
    slice (front ++ (middle ++ rest)) front.length (front.length + middle.length) = middle := by
  rw [slice, List.drop_left, Nat.add_sub_cancel_left, List.take_left]

/-- A text without a separator is one piece. -/
theorem splitAt_of_not_mem
    {separator : Char}
    {piece : Text}
    (absent : separator ∉ piece) :
    splitAt separator piece = [piece] := by
  induction piece with
  | nil => rfl
  | cons c piece inductionHypothesis =>
      rw [List.mem_cons, not_or] at absent
      rw [splitAt, if_neg (Ne.symm absent.1), inductionHypothesis absent.2]

/-- Up to the first separator a text is one piece. -/
theorem splitAt_append_cons
    {separator : Char}
    {piece : Text}
    (absent : separator ∉ piece)
    (rest : Text) :
    splitAt separator (piece ++ separator :: rest) = piece :: splitAt separator rest := by
  induction piece with
  | nil => rw [List.nil_append, splitAt, if_pos rfl]
  | cons c piece inductionHypothesis =>
      rw [List.mem_cons, not_or] at absent
      rw [List.cons_append, splitAt, if_neg (Ne.symm absent.1), inductionHypothesis absent.2]

/-- Induction over the pieces of a text, the last one first. -/
theorem pieces_induction
    (separator : Char)
    {motive : Text → Prop}
    (last : ∀ piece, separator ∉ piece → motive piece)
    (more : ∀ piece rest, separator ∉ piece → motive rest → motive (piece ++ separator :: rest))
    (text : Text) :
    motive text := by
  induction size : text.length using Nat.strongRecOn generalizing text with
  | ind bound inductionHypothesis =>
      by_cases separated : separator ∈ text
      · obtain ⟨piece, rest, rfl, absent⟩ := List.eq_append_cons_of_mem separated
        refine more piece rest absent (inductionHypothesis rest.length ?_ rest rfl)
        rw [← size, List.length_append, List.length_cons]
        omega
      · exact last text separated

/-- Pieces without a separator come apart as they were joined. -/
theorem splitAt_join
    {separator : Char}
    {pieces : List Text}
    (nonempty : pieces ≠ [])
    (absent : ∀ piece ∈ pieces, separator ∉ piece) :
    splitAt separator (join [separator] pieces) = pieces := by
  induction pieces with
  | nil => exact absurd rfl nonempty
  | cons first others inductionHypothesis =>
      rw [List.forall_mem_cons] at absent
      cases others with
      | nil =>
          rw [join, List.intercalate_singleton]
          exact splitAt_of_not_mem absent.1
      | cons second others =>
          rw [join, List.intercalate_cons_cons, ← join, List.append_assoc, List.singleton_append,
            splitAt_append_cons absent.1, inductionHypothesis (List.cons_ne_nil _ _) absent.2]

theorem not_mem_of_mem_splitAt
    {separator : Char}
    {text piece : Text}
    (present : piece ∈ splitAt separator text) :
    separator ∉ piece := by
  induction text generalizing piece with
  | nil =>
      obtain rfl := List.mem_singleton.mp present
      exact List.not_mem_nil
  | cons c rest inductionHypothesis =>
      rw [splitAt] at present
      split at present
      · rcases List.mem_cons.mp present with rfl | later
        · exact List.not_mem_nil
        · exact inductionHypothesis later
      next isOther =>
        split at present
        next =>
          obtain rfl := List.mem_singleton.mp present
          exact fun found => isOther (List.mem_singleton.mp found).symm
        next next others pieces =>
          rcases List.mem_cons.mp present with rfl | later
          · have absent := inductionHypothesis (pieces ▸ List.mem_cons_self)
            exact fun found => (List.mem_cons.mp found).elim (Ne.symm isOther) absent
          · exact inductionHypothesis (pieces ▸ .tail _ later)

theorem not_mem_lastPiece (separator : Char) (text : Text) :
    separator ∉ lastPiece separator text := by
  rw [lastPiece]
  cases last : (splitAt separator text).getLast? with
  | none => exact List.not_mem_nil
  | some piece => exact not_mem_of_mem_splitAt (List.mem_of_getLast? last)

/-- A text is cut at the first separator in it. -/
theorem cut_eq_iff
    {separator : Char}
    {text front rest : Text} :
    cut separator text = (front, some rest) ↔
      text = front ++ separator :: rest ∧ separator ∉ front := by
  induction text generalizing front with
  | nil => simp [cut]
  | cons c text inductionHypothesis =>
      rw [cut]
      by_cases found : c = separator
      · subst found
        cases front with
        | nil => simp
        | cons d front =>
            apply iff_of_false
            · simp
            · rintro ⟨whole, absent⟩
              exact absent (List.mem_cons.mpr (Or.inl (List.cons.inj whole).1))
      · rw [if_neg found]
        cases front with
        | nil => simp [found]
        | cons d front =>
            have later := @inductionHypothesis front
            rw [Prod.ext_iff] at later
            simp only [Prod.mk.injEq, List.cons.injEq, List.cons_append, List.mem_cons, not_or]
            constructor
            · rintro ⟨⟨rfl, inFront⟩, behind⟩
              obtain ⟨whole, absent⟩ := later.mp ⟨inFront, behind⟩
              exact ⟨⟨rfl, whole⟩, Ne.symm found, absent⟩
            · rintro ⟨⟨rfl, whole⟩, -, absent⟩
              obtain ⟨inFront, behind⟩ := later.mpr ⟨whole, absent⟩
              exact ⟨⟨rfl, inFront⟩, behind⟩

/-! ## Trimming -/

section

variable {drop : Char → Bool} {text : Text}

theorem dropWhile_of_head (first : text.head?.any drop = false) :
    text.dropWhile drop = text := by
  cases text with
  | nil => rfl
  | cons c rest => exact List.dropWhile_cons_of_neg (by simpa using first)

theorem head?_dropWhile (drop : Char → Bool) (text : Text) :
    (text.dropWhile drop).head?.any drop = false := by
  have first := List.head?_dropWhile_not drop text
  revert first
  cases (text.dropWhile drop).head? with
  | none => exact fun _ => rfl
  | some c => exact id

theorem trimEndWhere_of_last (last : text.getLast?.any drop = false) :
    trimEndWhere drop text = text := by
  rw [← List.head?_reverse] at last
  rw [trimEndWhere, dropWhile_of_head last, List.reverse_reverse]

theorem trimWhere_of_ends
    (first : text.head?.any drop = false)
    (last : text.getLast?.any drop = false) :
    trimWhere drop text = text := by
  rw [trimWhere, dropWhile_of_head first, trimEndWhere_of_last last]

theorem trim_of_ends
    (first : text.head?.any isBlank = false)
    (last : text.getLast?.any isBlank = false) :
    trim text = text :=
  trimWhere_of_ends first last

theorem mem_of_mem_trimWhere
    {c : Char}
    (present : c ∈ trimWhere drop text) :
    c ∈ text := by
  have inBack := (List.dropWhile_sublist _).subset (List.mem_reverse.mp present)
  exact (List.dropWhile_sublist _).subset (List.mem_reverse.mp inBack)

/-- What is left of a text has none of the characters at its ends that are taken off. -/
theorem ends_trimWhere (drop : Char → Bool) (text : Text) :
    (trimWhere drop text).head?.any drop = false ∧
      (trimWhere drop text).getLast?.any drop = false := by
  constructor
  · obtain ⟨behind, whole⟩ : trimWhere drop text <+: text.dropWhile drop :=
      List.rdropWhile_prefix drop _
    cases left : trimWhere drop text with
    | nil => rfl
    | cons c rest =>
        have first := head?_dropWhile drop text
        rwa [← whole, left] at first
  · rw [trimWhere, trimEndWhere, List.getLast?_reverse]
    exact head?_dropWhile drop _

end

/-- Nothing is left of a text that consists of white space only. -/
theorem trim_eq_nil_iff
    {text : Text} :
    trim text = [] ↔ text.isAllBlank = true := by
  rw [trim, trimWhere, trimEndWhere, List.reverse_eq_nil_iff, List.dropWhile_eq_nil_iff,
    isAllBlank, List.all_eq_true]
  constructor
  · intro blank c present
    rw [← List.takeWhile_append_dropWhile (p := isBlank) (l := text)] at present
    rcases List.mem_append.mp present with inFront | behind
    · exact List.mem_takeWhile_imp inFront
    · exact blank c (List.mem_reverse.mpr behind)
  · intro blank c present
    exact blank c ((List.dropWhile_sublist _).subset (List.mem_reverse.mp present))

/-- White space around a text that has none at its ends is taken off, and nothing else. -/
theorem trim_enclosed
    {front back text : Text}
    (frontBlank : front.isAllBlank = true)
    (backBlank : back.isAllBlank = true)
    (ends : text.head?.any isBlank = false ∧ text.getLast?.any isBlank = false) :
    trim (front ++ (text ++ back)) = text := by
  rw [isAllBlank, List.all_eq_true] at frontBlank backBlank
  rw [trim, trimWhere, List.dropWhile_append_of_pos frontBlank]
  cases text with
  | nil =>
      rw [List.nil_append, List.dropWhile_eq_nil_iff.mpr backBlank]
      rfl
  | cons c text =>
      have backReversed : ∀ d ∈ back.reverse, isBlank d = true := fun d present =>
        backBlank d (List.mem_reverse.mp present)
      rw [dropWhile_of_head (by simpa using ends.1), trimEndWhere, List.reverse_append,
        List.dropWhile_append_of_pos backReversed, ← trimEndWhere, trimEndWhere_of_last ends.2]

/-! ## Parts -/

/-- A text that contains a part has the characters of the part. -/
theorem mem_of_holds
    {part text : Text}
    (found : holds part text = true)
    {c : Char}
    (present : c ∈ part) :
    c ∈ text := by
  induction text with
  | nil =>
      rw [holds, List.isEmpty_iff] at found
      exact found ▸ present
  | cons d text inductionHypothesis =>
      rw [holds, Bool.or_eq_true] at found
      rcases found with isPrefix | later
      · exact (List.isPrefixOf_iff_prefix.mp isPrefix).subset present
      · exact .tail _ (inductionHypothesis later)

/-- A part that does not have a character stands on one side of it. -/
theorem holds_append_cons
    {part : Text}
    {c : Char}
    (nonempty : part ≠ [])
    (absent : c ∉ part)
    (front back : Text) :
    holds part (front ++ c :: back) = (holds part front || holds part back) := by
  have atStart (front : Text) : part.isPrefixOf (front ++ c :: back) = part.isPrefixOf front := by
    rw [Bool.eq_iff_iff, List.isPrefixOf_iff_prefix, List.isPrefixOf_iff_prefix]
    refine ⟨fun isPrefix => ?_, fun isPrefix => isPrefix.trans (List.prefix_append _ _)⟩
    rcases List.prefix_or_prefix_of_prefix isPrefix (List.prefix_append front _) with
      within | ⟨more, rfl⟩
    · exact within
    · cases more with
      | nil => simp
      | cons d more =>
          obtain ⟨rest, whole⟩ := isPrefix
          rw [List.append_assoc] at whole
          obtain ⟨rfl, -⟩ := List.cons.inj (List.append_cancel_left whole)
          exact absurd (by simp) absent
  have nothing : holds part [] = false := by simpa [holds] using nonempty
  induction front with
  | nil =>
      have notHere := atStart []
      have isEmpty : part.isPrefixOf [] = false := by
        cases part with
        | nil => exact absurd rfl nonempty
        | cons d part => rfl
      rw [List.nil_append] at notHere ⊢
      rw [nothing, holds, notHere, isEmpty]
  | cons d front inductionHypothesis =>
      have here := atStart (d :: front)
      rw [List.cons_append] at here ⊢
      rw [holds, holds, here, inductionHypothesis, Bool.or_assoc]

/-- A text holds what stands in it. -/
theorem holds_infix
    (lead part rest : Text) :
    holds part (lead ++ (part ++ rest)) = true := by
  induction lead with
  | nil =>
      cases whole : part ++ rest with
      | nil =>
          rw [(List.append_eq_nil_iff.mp whole).1]
          rfl
      | cons c others =>
          have front : part <+: c :: others := ⟨rest, whole⟩
          rw [List.nil_append, holds, List.isPrefixOf_iff_prefix.mpr front, Bool.true_or]
  | cons c lead inductionHypothesis =>
      rw [List.cons_append, holds, inductionHypothesis, Bool.or_true]

end Text
end SqlReview
