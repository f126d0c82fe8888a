import SqlReview.Proofs.Query.Marks

/-!
# The two scans of a query

`mask` and the scan for subqueries read the same parentheses and literals. What `mask` leaves
visible is visible from outside all subqueries too, and the text of every subquery, in which
nested parentheses are collapsed, is masked by the scan exactly as `mask` would mask it.
-/

namespace SqlReview
namespace Query

/-! ## Subqueries -/

/-- The start of a subquery has neither quotes nor parentheses. -/
theorem isPlain_of_select
    {lead word : Text}
    (blank : ∀ c ∈ lead, Text.isBlank c = true)
    (folds : word.map Text.foldLetter = "select".toList) :
    ∀ c ∈ lead ++ word, c ≠ '\'' ∧ c ≠ '(' ∧ c ≠ ')' := by
  intro c present
  rcases List.mem_append.mp present with inLead | inWord
  · have isBlank := blank c inLead
    refine ⟨?_, ?_, ?_⟩ <;> rintro rfl <;> exact absurd isBlank (by decide)
  · have isWord := isSmallWord_select.isWord_of_mem folds inWord
    refine ⟨?_, ?_, ?_⟩ <;> rintro rfl <;> exact absurd isWord (by decide)

/-- No word character comes first in a subquery when none comes first in the text. -/
theorem head?_own
    {nest : Nest}
    (wellFormed : nest.WellFormed)
    {number : Nat}
    (owner : nest.owner = some number)
    {text : Text}
    (outside : text.head?.any Text.isWord = false) :
    ((own number (marksFrom nest text)).map (·.char)).head?.any Text.isWord = false := by
  cases text with
  | nil => rfl
  | cons c rest =>
      by_cases closes : c = ')' ∧ nest.inLiteral = false
      · obtain ⟨rfl, noLiteral⟩ := closes
        have left : some number ∉ nest.pop.stack := by
          rw [Nest.stack_pop]
          exact wellFormed.not_mem_tail owner
        have notOwn : (nest.mark ')').owner ≠ some number := by
          rw [Nest.owner_mark, Nest.seen_close noLiteral]
          exact fun top => left (Nest.mem_stack_of_owner top)
        have below : number < nest.pop.opened := by
          rw [Nest.opened_pop]
          exact wellFormed.below number (Nest.mem_numbers.mpr (Nest.mem_stack_of_owner owner))
        rw [marksFrom, own_cons, if_neg notOwn, Nest.step_close noLiteral,
          own_marksFrom_of_closed left below]
        rfl
      · have isOwn : (nest.mark c).owner = some number := by
          rw [Nest.owner_mark, Nest.seen, if_neg (by simpa using closes), owner]
        rw [marksFrom, own_cons, if_pos isOwn]
        exact outside

/-- Every subquery starts with the word SELECT. -/
theorem startsWithSelect_own
    {nest : Nest}
    (wellFormed : nest.WellFormed)
    {number : Nat}
    {text : Text}
    (later : nest.opened ≤ number)
    (met : number < countFrom nest text) :
    StartsWithSelect ((own number (marksFrom nest text)).map (·.char)) := by
  induction text generalizing nest with
  | nil => exact absurd met (Nat.not_lt.mpr later)
  | cons c rest inductionHypothesis =>
      have notOwn : (nest.mark c).owner ≠ some number := fun owner =>
        Nat.not_lt.mpr later (wellFormed.below number
          (Nest.mem_numbers.mpr (Nest.mem_stack_of_owner_seen owner)))
      rw [marksFrom, own_cons, if_neg notOwn]
      have wellFormedNext := wellFormed.step (c = '(' && startsSubquery (c :: rest)) c
      by_cases laterNext : (nest.step (c = '(' && startsSubquery (c :: rest)) c).opened ≤ number
      · exact inductionHypothesis wellFormedNext laterNext met
      -- The subquery opens here, so its text is what the scan finds behind the parenthesis.
      rw [Nest.opened_step] at laterNext
      split at laterNext
      · rename_i opens
        obtain ⟨rfl, outside, starts⟩ := opens
        have isStart : startsSubquery ('(' :: rest) = true := by simpa using starts
        rw [starts, Nest.step_open outside] at wellFormedNext ⊢
        obtain rfl : nest.opened = number := by omega
        obtain ⟨_, equal, lead, word, tail, rfl, blank, folds, noWord⟩ :=
          startsSubquery_iff.mp isStart
        obtain rfl := (List.cons.inj equal).2
        have isPlain := isPlain_of_select blank folds
        have owner : (nest.push true).owner = some nest.opened := rfl
        have allOwn : own nest.opened ((lead ++ word).map (nest.push true).mark) =
            (lead ++ word).map (nest.push true).mark := by
          refine List.filter_eq_self.mpr fun mark present => ?_
          obtain ⟨c, inStart, rfl⟩ := List.mem_map.mp present
          rw [Nest.owner_mark, Nest.seen_of_ne (isPlain c inStart).2.2, owner]
          exact decide_eq_true rfl
        rw [marksFrom_plain_append _ isPlain, own_append, allOwn]
        refine ⟨lead, word, _, ?_, blank, folds, head?_own wellFormedNext owner noWord⟩
        simp [Function.comp_def]
      · exact absurd later laterNext

/-! ## What is visible from outside -/

@[simp] theorem length_mask (text : Text) :
    (mask text).length = text.length :=
  length_maskFrom .outermost text

@[simp] theorem length_outsideView (text : Text) :
    (outsideView text).length = text.length := by
  simp [outsideView, marks]

namespace Nest

theorem outside_mark_eq_or
    (nest : Nest)
    (c : Char) :
    (nest.mark c).outside = c ∨ (nest.mark c).outside = ' ' := by
  rw [outside_mark]
  split
  · exact .inr rfl
  · exact .inl rfl

/-- No parenthesis is open where a character of the top level is seen from. -/
theorem stack_seen_of_shows
    {nest : Nest}
    {c : Char}
    (shows : nest.depth.shows c = true) :
    (nest.seen c).stack = [] := by
  rcases char_cases c nest.inLiteral with rfl | ⟨noQuote, inLiteral⟩ | ⟨rfl, outside⟩ |
    ⟨rfl, outside⟩ | ⟨noQuote, noOpen, noClose, outside⟩
  · simpa [seen, Depth.shows, depth] using shows
  · simp [Depth.shows, depth, noQuote, inLiteral] at shows
  · simpa [seen, Depth.shows, depth, outside] using shows
  · simp only [Depth.shows, depth, outside] at shows
    rw [seen_close outside, stack_pop, ← List.length_eq_zero_iff, List.length_tail]
    simp at shows
    omega
  · simpa [seen_of_ne noClose, Depth.shows, depth, noQuote, noClose, outside] using shows

theorem WellFormed.seen
    {nest : Nest}
    (wellFormed : nest.WellFormed)
    (c : Char) :
    (nest.seen c).WellFormed := by
  unfold Nest.seen
  split
  · exact wellFormed.pop
  · exact wellFormed

/-- A character of the top level is visible from outside all subqueries. -/
theorem WellFormed.outside_mark_of_shows
    {nest : Nest}
    (wellFormed : nest.WellFormed)
    {c : Char}
    (shows : nest.depth.shows c = true) :
    (nest.mark c).outside = c := by
  have around := (wellFormed.seen c).around_le
  rw [stack_seen_of_shows shows, List.length_nil] at around
  rw [outside_mark, if_neg (Nat.not_lt.mpr around)]

end Nest

theorem getElem?_outside_of_maskFrom
    {nest : Nest}
    (wellFormed : nest.WellFormed)
    (text : Text)
    (index : Nat)
    (visible : (maskFrom nest.depth text)[index]? ≠ some ' ') :
    ((marksFrom nest text).map (·.outside))[index]? = (maskFrom nest.depth text)[index]? := by
  induction text generalizing nest index with
  | nil => rfl
  | cons c rest inductionHypothesis =>
      rw [maskFrom_cons] at visible ⊢
      rw [marksFrom, List.map_cons]
      cases index with
      | zero =>
          rw [List.getElem?_cons_zero] at visible ⊢
          rw [List.getElem?_cons_zero]
          split at visible
          · rename_i shows
            rw [if_pos shows, wellFormed.outside_mark_of_shows shows]
          · exact absurd rfl visible
      | succ index =>
          rw [List.getElem?_cons_succ] at visible ⊢
          rw [List.getElem?_cons_succ]
          rw [← Nest.depth_step nest (c = '(' && startsSubquery (c :: rest)) c] at visible ⊢
          exact inductionHypothesis (wellFormed.step _ c) index visible

theorem getElem?_outside_eq_or
    (nest : Nest)
    (text : Text)
    (index : Nat) :
    ((marksFrom nest text).map (·.outside))[index]? = text[index]? ∨
      ((marksFrom nest text).map (·.outside))[index]? = some ' ' := by
  induction text generalizing nest index with
  | nil => exact .inl rfl
  | cons c rest inductionHypothesis =>
      cases index with
      | zero =>
          rcases nest.outside_mark_eq_or c with same | blank
          · exact .inl (congrArg some same)
          · exact .inr (congrArg some blank)
      | succ index => exact inductionHypothesis _ index

/-! ## Agreement -/

/-- The two scans agree: both views have the length of the text, what the mask leaves visible is
visible from outside all subqueries, nothing but blanks is put into that view, and every subquery
starts with the word SELECT and is masked as `mask` masks its text. -/
theorem scans_agree (text : Text) :
    (outsideView text).length = text.length ∧
      (mask text).length = text.length ∧
      (∀ index : Nat, (mask text)[index]? ≠ some ' ' →
        (outsideView text)[index]? = (mask text)[index]?) ∧
      (∀ index : Nat, (outsideView text)[index]? = text[index]? ∨
        (outsideView text)[index]? = some ' ') ∧
      ∀ scope ∈ scopes text,
        StartsWithSelect scope.text ∧ scope.masked = mask scope.text := by
  refine ⟨length_outsideView text, length_mask text, ?_, ?_, ?_⟩
  · exact getElem?_outside_of_maskFrom Nest.wellFormed_outermost text
  · exact getElem?_outside_eq_or .outermost text
  · intro scope present
    obtain ⟨number, inRange, rfl⟩ := List.mem_map.mp present
    rw [scope_eq]
    refine ⟨?_, ?_⟩
    · exact startsWithSelect_own Nest.wellFormed_outermost (Nat.zero_le number)
        (List.mem_range.mp inRange)
    · exact masked_own Nest.wellFormed_outermost number text

end Query
end SqlReview
