import SqlReview.Proofs.Query.Nest
import SqlReview.Proofs.Query.Select

/-!
# The characters of one subquery

The scan for subqueries gives each character to at most one of them. Here the characters of one
subquery are followed through the scan: there are none before it opens and none after it has
closed, and in between its own nesting, `ownDepth`, is at most one parenthesis deep.
-/

namespace SqlReview
namespace Query

namespace Nest

/-- The place from which a character is seen: a closing parenthesis is seen from outside. -/
def seen
    (nest : Nest)
    (c : Char) : Nest :=
  if c = ')' && !nest.inLiteral then nest.pop else nest

@[simp] theorem char_mark
    (nest : Nest)
    (c : Char) :
    (nest.mark c).char = c := rfl

@[simp] theorem owner_mark
    (nest : Nest)
    (c : Char) :
    (nest.mark c).owner = (nest.seen c).owner := rfl

@[simp] theorem masked_mark
    (nest : Nest)
    (c : Char) :
    (nest.mark c).masked = if nest.inLiteral && c ≠ '\'' then ' ' else c := rfl

@[simp] theorem outside_mark
    (nest : Nest)
    (c : Char) :
    (nest.mark c).outside = if 0 < (nest.seen c).around then ' ' else c := rfl

theorem seen_of_ne
    {nest : Nest}
    {c : Char}
    (noClose : c ≠ ')') :
    nest.seen c = nest := by
  simp [seen, noClose]

theorem seen_inLiteral
    {nest : Nest}
    (inLiteral : nest.inLiteral = true)
    (c : Char) :
    nest.seen c = nest := by
  simp [seen, inLiteral]

theorem seen_close
    {nest : Nest}
    (outside : nest.inLiteral = false) :
    nest.seen ')' = nest.pop := by
  simp [seen, outside]

theorem mem_stack_of_owner
    {nest : Nest}
    {number : Nat}
    (owner : nest.owner = some number) :
    some number ∈ nest.stack := by
  obtain ⟨stack, opened, around, inLiteral⟩ := nest
  match stack with
  | [] => simp [Nest.owner] at owner
  | top :: stack =>
      obtain rfl : top = some number := by simpa [Nest.owner] using owner
      exact .head _

theorem mem_stack_of_owner_seen
    {nest : Nest}
    {c : Char}
    {number : Nat}
    (owner : (nest.seen c).owner = some number) :
    some number ∈ nest.stack := by
  unfold seen at owner
  split at owner
  · have present := mem_stack_of_owner owner
    rw [stack_pop] at present
    exact List.mem_of_mem_tail present
  · exact mem_stack_of_owner owner

/-- A step puts no subquery on the stack but the next one. -/
theorem mem_stack_of_mem_step
    {nest : Nest}
    {isSubquery : Bool}
    {c : Char}
    {number : Nat}
    (present : some number ∈ (nest.step isSubquery c).stack) :
    some number ∈ nest.stack ∨ number = nest.opened := by
  rcases char_cases c nest.inLiteral with rfl | ⟨noQuote, inLiteral⟩ | ⟨rfl, outside⟩ |
    ⟨rfl, outside⟩ | ⟨noQuote, noOpen, noClose, outside⟩
  · exact .inl present
  · rw [step_inLiteral noQuote inLiteral] at present
    exact .inl present
  · rw [step_open outside, stack_push] at present
    cases isSubquery with
    | false => exact .inl (by simpa using present)
    | true =>
        rcases List.mem_cons.mp present with equal | inner
        · exact .inr (Option.some.inj equal)
        · exact .inl inner
  · rw [step_close outside, stack_pop] at present
    exact .inl (List.mem_of_mem_tail present)
  · rw [step_plain noQuote noOpen noClose] at present
    exact .inl present

/-- A step meets a new subquery only at a parenthesis that encloses one. -/
theorem opened_step
    (nest : Nest)
    (isSubquery : Bool)
    (c : Char) :
    (nest.step isSubquery c).opened =
      nest.opened + if c = '(' ∧ nest.inLiteral = false ∧ isSubquery = true then 1 else 0 := by
  rcases char_cases c nest.inLiteral with rfl | ⟨noQuote, inLiteral⟩ | ⟨rfl, outside⟩ |
    ⟨rfl, outside⟩ | ⟨noQuote, noOpen, noClose, outside⟩
  · simp
  · simp [step_inLiteral noQuote inLiteral, inLiteral]
  · cases isSubquery <;> simp [step_open outside, outside, push]
  · simp [step_close outside]
  · simp [step_plain noQuote noOpen noClose, noOpen]

theorem opened_le_step
    (nest : Nest)
    (isSubquery : Bool)
    (c : Char) :
    nest.opened ≤ (nest.step isSubquery c).opened := by
  rw [opened_step]
  exact Nat.le_add_right _ _

/-! ## Nests behind texts -/

/-- The place behind a text. -/
def after (nest : Nest) : Text → Nest
  | [] => nest
  | c :: rest => (nest.step (c = '(' && startsSubquery (c :: rest)) c).after rest

@[simp] theorem after_nil (nest : Nest) :
    nest.after [] = nest := rfl

theorem after_cons
    (nest : Nest)
    (c : Char)
    (rest : Text) :
    nest.after (c :: rest) = (nest.step (c = '(' && startsSubquery (c :: rest)) c).after rest := rfl

theorem WellFormed.after
    {nest : Nest}
    (wellFormed : nest.WellFormed)
    (text : Text) :
    (nest.after text).WellFormed := by
  induction text generalizing nest with
  | nil => exact wellFormed
  | cons c rest inductionHypothesis => exact inductionHypothesis (wellFormed.step _ c)

theorem depth_after
    (nest : Nest)
    (text : Text) :
    (nest.after text).depth = nest.depth.after text := by
  induction text generalizing nest with
  | nil => rfl
  | cons c rest inductionHypothesis =>
      rw [after_cons, inductionHypothesis, depth_step, Depth.after_cons]

theorem opened_le_after
    (nest : Nest)
    (text : Text) :
    nest.opened ≤ (nest.after text).opened := by
  induction text generalizing nest with
  | nil => exact Nat.le_refl _
  | cons c rest inductionHypothesis =>
      exact Nat.le_trans (nest.opened_le_step _ c) (inductionHypothesis _)

/-- A text opens as many subqueries wherever it stands outside of literals. -/
theorem opened_after
    {nest other : Nest}
    (same : nest.inLiteral = other.inLiteral)
    (text : Text) :
    (nest.after text).opened + other.opened = (other.after text).opened + nest.opened := by
  induction text generalizing nest other with
  | nil => exact Nat.add_comm _ _
  | cons c rest inductionHypothesis =>
      have sameNext : (nest.step (c = '(' && startsSubquery (c :: rest)) c).inLiteral =
          (other.step (c = '(' && startsSubquery (c :: rest)) c).inLiteral := by
        rw [inLiteral_step, inLiteral_step, same]
      have next := inductionHypothesis sameNext
      rw [opened_step, opened_step, same] at next
      rw [after_cons, after_cons]
      omega

/-- What follows a barrier does not change the place before it. -/
theorem after_append
    {rest : Text}
    (isBarrier : IsBarrier rest)
    (nest : Nest)
    (text : Text) :
    nest.after (text ++ rest) = (nest.after text).after rest := by
  induction text generalizing nest with
  | nil => rfl
  | cons c text inductionHypothesis =>
      rw [List.cons_append, after_cons, ← List.cons_append, startsSubquery_append isBarrier,
        inductionHypothesis, after_cons]

end Nest

/-! ## The marks of one subquery -/

/-- The marks of the characters that belong to a subquery. -/
def own
    (number : Nat)
    (marks : List Mark) : List Mark :=
  marks.filter (·.owner = some number)

theorem scope_eq
    (marks : List Mark)
    (number : Nat) :
    scope marks number = ⟨(own number marks).map (·.char), (own number marks).map (·.masked)⟩ := rfl

@[simp] theorem own_nil (number : Nat) :
    own number [] = [] := rfl

@[simp] theorem own_append
    (number : Nat)
    (first second : List Mark) :
    own number (first ++ second) = own number first ++ own number second :=
  List.filter_append ..

theorem own_cons
    (number : Nat)
    (mark : Mark)
    (marks : List Mark) :
    own number (mark :: marks) =
      if mark.owner = some number then mark :: own number marks else own number marks := by
  simp [own, List.filter_cons]

/-- A subquery that has closed gets no more characters. -/
theorem own_marksFrom_of_closed
    {nest : Nest}
    {number : Nat}
    (closed : some number ∉ nest.stack)
    (below : number < nest.opened)
    (text : Text) :
    own number (marksFrom nest text) = [] := by
  induction text generalizing nest with
  | nil => rfl
  | cons c rest inductionHypothesis =>
      have notOwn : (nest.mark c).owner ≠ some number := fun owner =>
        closed (Nest.mem_stack_of_owner_seen owner)
      rw [marksFrom, own_cons, if_neg notOwn]
      apply inductionHypothesis
      · intro present
        rcases Nest.mem_stack_of_mem_step present with before | next
        · exact closed before
        · exact Nat.lt_irrefl _ (next ▸ below)
      · exact Nat.lt_of_lt_of_le below (nest.opened_le_step _ c)

theorem countFrom_eq
    (nest : Nest)
    (text : Text) :
    countFrom nest text = (nest.after text).opened := by
  induction text generalizing nest with
  | nil => rfl
  | cons c rest inductionHypothesis => exact inductionHypothesis _

/-- A subquery that opens later has no characters yet. -/
theorem own_marksFrom_of_later
    {nest : Nest}
    (wellFormed : nest.WellFormed)
    {number : Nat}
    {text : Text}
    (later : (nest.after text).opened ≤ number) :
    own number (marksFrom nest text) = [] := by
  induction text generalizing nest with
  | nil => rfl
  | cons c rest inductionHypothesis =>
      have notOwn : (nest.mark c).owner ≠ some number := fun owner =>
        Nat.not_lt.mpr (Nat.le_trans (nest.opened_le_after (c :: rest)) later)
          (wellFormed.below number (Nest.mem_numbers.mpr (Nest.mem_stack_of_owner_seen owner)))
      rw [marksFrom, own_cons, if_neg notOwn]
      exact inductionHypothesis (wellFormed.step _ c) later

/-- The marks of a text do not depend on what follows a barrier behind it. -/
theorem marksFrom_append
    {rest : Text}
    (isBarrier : IsBarrier rest)
    (nest : Nest)
    (text : Text) :
    marksFrom nest (text ++ rest) = marksFrom nest text ++ marksFrom (nest.after text) rest := by
  induction text generalizing nest with
  | nil => rfl
  | cons c text inductionHypothesis =>
      rw [List.cons_append, marksFrom, ← List.cons_append, startsSubquery_append isBarrier,
        inductionHypothesis]
      rfl

/-- The marks of characters without quotes and parentheses. -/
theorem marksFrom_plain_append
    (nest : Nest)
    {plain : Text}
    (isPlain : ∀ c ∈ plain, c ≠ '\'' ∧ c ≠ '(' ∧ c ≠ ')')
    (rest : Text) :
    marksFrom nest (plain ++ rest) = plain.map nest.mark ++ marksFrom nest rest := by
  induction plain with
  | nil => rfl
  | cons c plain inductionHypothesis =>
      obtain ⟨noQuote, noOpen, noClose⟩ := isPlain c (.head _)
      rw [List.cons_append, marksFrom, Nest.step_plain noQuote noOpen noClose,
        inductionHypothesis fun d present => isPlain d (.tail _ present)]
      rfl

/-! ## The nesting inside one subquery -/

namespace Nest

/-- How deep a place is nested in a subquery when the parentheses around the subquery do not count
and nested ones are collapsed. -/
def ownDepth
    (nest : Nest)
    (number : Nat) : Depth :=
  if nest.owner = some number then ⟨0, nest.inLiteral⟩
  else if some number ∈ nest.stack then ⟨1, false⟩
  else .outermost

theorem ownDepth_of_owner
    {nest : Nest}
    {number : Nat}
    (owner : nest.owner = some number) :
    nest.ownDepth number = ⟨0, nest.inLiteral⟩ :=
  if_pos owner

theorem ownDepth_of_mem_of_owner_ne
    {nest : Nest}
    {number : Nat}
    (present : some number ∈ nest.stack)
    (owner : nest.owner ≠ some number) :
    nest.ownDepth number = ⟨1, false⟩ := by
  rw [ownDepth, if_neg owner, if_pos present]

theorem ownDepth_of_not_mem
    {nest : Nest}
    {number : Nat}
    (absent : some number ∉ nest.stack) :
    nest.ownDepth number = .outermost := by
  rw [ownDepth, if_neg fun owner => absent (mem_stack_of_owner owner), if_neg absent]

theorem mem_stack_iff
    {nest : Nest}
    {number : Nat} :
    some number ∈ nest.stack ↔ nest.owner = some number ∨ some number ∈ nest.stack.tail := by
  obtain ⟨stack, opened, around, inLiteral⟩ := nest
  cases stack with
  | nil => simp [Nest.owner]
  | cons top stack => simp [Nest.owner, eq_comm]

/-- A character of a subquery shows in its mask exactly if it shows in the scan, and the nesting
inside the subquery moves with it. -/
theorem WellFormed.own_step
    {nest : Nest}
    (wellFormed : nest.WellFormed)
    {number : Nat}
    {c : Char}
    (owner : (nest.seen c).owner = some number)
    (isSubquery : Bool) :
    (nest.mark c).masked = (if (nest.ownDepth number).shows c then c else ' ') ∧
      (nest.step isSubquery c).ownDepth number = (nest.ownDepth number).step c := by
  rcases char_cases c nest.inLiteral with rfl | ⟨noQuote, inLiteral⟩ | ⟨rfl, outside⟩ |
    ⟨rfl, outside⟩ | ⟨noQuote, noOpen, noClose, outside⟩
  · rw [seen_of_ne (by decide)] at owner
    have after : (nest.step isSubquery '\'').owner = some number := owner
    rw [ownDepth_of_owner owner, ownDepth_of_owner after]
    simp [Depth.shows, Depth.step]
  · rw [seen_inLiteral inLiteral] at owner
    rw [step_inLiteral noQuote inLiteral, ownDepth_of_owner owner]
    simp [Depth.shows, Depth.step, noQuote, inLiteral]
  · rw [seen_of_ne (by decide)] at owner
    have present := mem_stack_of_owner owner
    have older : number < nest.opened := wellFormed.below number (mem_numbers.mpr present)
    have pushed : (nest.push isSubquery).owner ≠ some number := by
      cases isSubquery with
      | false => simp [Nest.owner]
      | true => simpa [Nest.owner] using (Nat.ne_of_lt older).symm
    rw [step_open outside, ownDepth_of_owner owner,
      ownDepth_of_mem_of_owner_ne (by simp [present]) pushed]
    simp [Depth.shows, Depth.step, outside]
  · rw [seen_close outside] at owner
    have present := mem_stack_of_owner owner
    rw [stack_pop] at present
    have covered : nest.owner ≠ some number := fun top => wellFormed.not_mem_tail top present
    rw [step_close outside, ownDepth_of_owner owner,
      ownDepth_of_mem_of_owner_ne (List.mem_of_mem_tail present) covered]
    simp [Depth.shows, Depth.step, outside]
  · rw [seen_of_ne noClose] at owner
    rw [step_plain noQuote noOpen noClose, ownDepth_of_owner owner]
    simp [Depth.shows, Depth.step, noQuote, noOpen, noClose, outside]

/-- The nesting inside a subquery stays when a character does not belong to it. -/
theorem WellFormed.ownDepth_step
    {nest : Nest}
    (wellFormed : nest.WellFormed)
    {number : Nat}
    {c : Char}
    (owner : (nest.seen c).owner ≠ some number)
    (isSubquery : Bool) :
    (nest.step isSubquery c).ownDepth number = nest.ownDepth number := by
  rcases char_cases c nest.inLiteral with rfl | ⟨noQuote, inLiteral⟩ | ⟨rfl, outside⟩ |
    ⟨rfl, outside⟩ | ⟨noQuote, noOpen, noClose, outside⟩
  · rw [seen_of_ne (by decide)] at owner
    rw [ownDepth, ownDepth, if_neg owner, step_quote]
    exact if_neg owner
  · rw [step_inLiteral noQuote inLiteral]
  · rw [seen_of_ne (by decide)] at owner
    rw [step_open outside]
    by_cases next : (nest.push isSubquery).owner = some number
    · have absent : some number ∉ nest.stack := by
        cases isSubquery with
        | false => simp [Nest.owner] at next
        | true =>
            obtain rfl : nest.opened = number := by simpa [Nest.owner] using next
            exact fun present =>
              Nat.lt_irrefl _ (wellFormed.below _ (mem_numbers.mpr present))
      rw [ownDepth_of_owner next, ownDepth_of_not_mem absent, inLiteral_push, outside]
      rfl
    · have same : some number ∈ (nest.push isSubquery).stack ↔ some number ∈ nest.stack := by
        rw [mem_stack_iff]
        simp [next]
      rw [ownDepth, ownDepth, if_neg next, if_neg owner]
      simp only [same]
  · rw [seen_close outside] at owner
    rw [step_close outside]
    by_cases top : nest.owner = some number
    · rw [ownDepth_of_owner top, ownDepth_of_not_mem, outside]
      · rfl
      · rw [stack_pop]
        exact wellFormed.not_mem_tail top
    · have same : some number ∈ nest.stack ↔ some number ∈ nest.pop.stack := by
        rw [stack_pop, mem_stack_iff]
        simp [top]
      rw [ownDepth, ownDepth, if_neg owner, if_neg top]
      simp only [same]
  · rw [step_plain noQuote noOpen noClose]

end Nest

/-- The scan masks a subquery as `mask` masks its text. -/
theorem masked_own
    {nest : Nest}
    (wellFormed : nest.WellFormed)
    (number : Nat)
    (text : Text) :
    (own number (marksFrom nest text)).map (·.masked) =
      maskFrom (nest.ownDepth number) ((own number (marksFrom nest text)).map (·.char)) := by
  induction text generalizing nest with
  | nil => rfl
  | cons c rest inductionHypothesis =>
      rw [marksFrom, own_cons]
      split
      · rename_i owner
        obtain ⟨masked, depth⟩ := wellFormed.own_step owner (c = '(' && startsSubquery (c :: rest))
        rw [List.map_cons, List.map_cons, maskFrom_cons, Nest.char_mark, masked, ← depth,
          inductionHypothesis (wellFormed.step _ c)]
      · rename_i owner
        rw [inductionHypothesis (wellFormed.step _ c), wellFormed.ownDepth_step owner]

end Query
end SqlReview
