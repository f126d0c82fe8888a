import Mathlib.Data.List.Forall2
import SqlReview.Proofs.Plain.Normal
import SqlReview.Proofs.Query.ListSpans

/-!
# Lists with commas

A list of items with commas between them, perhaps with blanks around the items, is taken apart into
these items, at the offsets where they stand.
-/

namespace SqlReview
namespace Plain

open Query

/-- Whether a text is nothing or a single blank. -/
def IsGap (text : Text) : Prop :=
  text = [] ∨ text = [' ']

theorem keywords_gap
    {closing : Text}
    (isGap : IsGap closing)
    (text : Text) :
    keywords (' ' :: (text ++ closing)) = keywords text := by
  have isBlank : Text.isWord ' ' = false := by decide
  rw [keywords_cons isBlank]
  rcases isGap with rfl | rfl
  · rw [List.append_nil]
  · rw [keywords_append_cons isBlank]
    exact List.append_nil _

/-- Whether a text can be an item of a list, given what is shown of it. -/
structure IsShown (text shown : Text) : Prop where
  /-- All characters are shown or replaced. -/
  length : shown.length = text.length
  /-- Something is shown. -/
  nonempty : shown ≠ []
  /-- What is shown starts with no white space. -/
  starts : shown.head?.any Text.isBlank = false
  /-- What is shown does not end with white space. -/
  ends : shown.getLast?.any Text.isBlank = false
  /-- No comma is shown. -/
  noComma : ',' ∉ shown

/-- Whether a text can be an item of a list. -/
structure IsItem (text : Text) : Prop where
  /-- The text has no white space at its ends. -/
  tight : IsTight text
  /-- The text has no comma. -/
  noComma : ',' ∉ text

theorem IsItem.isShown
    {text : Text}
    (isItem : IsItem text) :
    IsShown text text :=
  ⟨rfl, isItem.tight.nonempty, isItem.tight.starts, isItem.tight.ends, isItem.noComma⟩

/-- Further items, each behind a comma and perhaps a blank. -/
def listedText (others : List (Bool × Text)) : Text :=
  others.flatMap fun other => comma other.1 ++ other.2

/-- What is shown of a list is shown item by item. -/
theorem mask_listedText
    {others : List (Bool × Text)}
    (closed : ∀ other ∈ others, IsClosed other.2) :
    mask (listedText others) = listedText (others.map fun other => (other.1, mask other.2)) ∧
      IsClosed (listedText others) := by
  induction others with
  | nil => exact ⟨rfl, rfl⟩
  | cons other others inductionHypothesis =>
      obtain ⟨shown, othersClosed⟩ := inductionHypothesis fun other present =>
        closed other (.tail _ present)
      have separator : mask (comma other.1) = comma other.1 ∧ IsClosed (comma other.1) := by
        cases other.1 <;> decide
      have firstClosed := separator.2.append (closed other (.head _))
      have split : listedText (other :: others) =
          comma other.1 ++ other.2 ++ listedText others := rfl
      refine ⟨?_, split ▸ firstClosed.append othersClosed⟩
      rw [split, mask_append firstClosed, mask_append separator.2, separator.1, shown]
      rfl

/-- An item is found between the blanks around it. -/
theorem pieceSpan?_eq
    {lead text item closing : Text}
    (isShown : IsShown text item)
    (isLead : IsGap lead)
    (isClosing : IsGap closing)
    (offset : Nat) :
    pieceSpan? offset (lead ++ (item ++ closing)) =
      some ⟨offset + lead.length, offset + lead.length + item.length⟩ := by
  have isBlank {gap : Text} (isGap : IsGap gap) : gap.isAllBlank = true := by
    rcases isGap with rfl | rfl <;> rfl
  exact pieceSpan?_enclosed (isBlank isLead) (isBlank isClosing) isShown.nonempty
    ⟨isShown.starts, isShown.ends⟩ offset

theorem span_of_item (front lead item behind : Text) :
    Span.of (front ++ (lead ++ (item ++ behind)))
      ⟨front.length + lead.length, front.length + lead.length + item.length⟩ = item := by
  have whole := Text.slice_middle (front ++ lead) item behind
  simpa [Span.of] using whole

/-- The items of a list stand where the spans of what is shown of it say, whatever follows the list.
`front` is what has been taken apart before. -/
theorem forall₂_spansFrom
    {first shown : Text}
    (isShown : IsShown first shown)
    {others : List (Bool × Text × Text)}
    (areShown : ∀ other ∈ others, IsShown other.2.1 other.2.2)
    {lead closing : Text}
    (isLead : IsGap lead)
    (isClosing : IsGap closing)
    (front : Text) :
    List.Forall₂
      (fun span item => ∀ rest, Span.of
        (front ++ (lead ++ (first ++
          (listedText (others.map fun other => (other.1, other.2.1)) ++ closing))) ++ rest) span = item)
      (spansFrom front.length (Text.splitAt ',' (lead ++ (shown ++
        (listedText (others.map fun other => (other.1, other.2.2)) ++ closing)))))
      (first :: others.map (·.2.1)) := by
  have noComma {gap : Text} (isGap : IsGap gap) : ',' ∉ gap := by
    rcases isGap with rfl | rfl <;> decide
  induction others generalizing first shown lead front with
  | nil =>
      have absent : ',' ∉ lead ++ (shown ++ closing) := by
        simp [noComma isLead, noComma isClosing, isShown.noComma]
      change List.Forall₂ _ (spansFrom _ (Text.splitAt ',' (lead ++ (shown ++ closing)))) _
      rw [Text.splitAt_of_not_mem absent, spansFrom, pieceSpan?_eq isShown isLead isClosing,
        isShown.length]
      refine .cons (fun rest => ?_) .nil
      have here := span_of_item front lead first (closing ++ rest)
      simpa [listedText] using here
  | cons next others inductionHypothesis =>
      obtain ⟨spaced, item, itemShown⟩ := next
      obtain ⟨blank, isBlank, commaEq⟩ : ∃ blank, IsGap blank ∧ comma spaced = ',' :: blank := by
        cases spaced
        · exact ⟨[], .inl rfl, rfl⟩
        · exact ⟨[' '], .inr rfl, rfl⟩
      have absent : ',' ∉ lead ++ (shown ++ []) := by
        simp [noComma isLead, isShown.noComma]
      have text : lead ++ (shown ++ (listedText (((spaced, item, itemShown) :: others).map
            fun other => (other.1, other.2.2)) ++ closing)) =
          lead ++ (shown ++ []) ++ ',' :: (blank ++ (itemShown ++
            (listedText (others.map fun other => (other.1, other.2.2)) ++ closing))) := by
        simp [listedText, commaEq]
      have offset : front.length + (lead ++ (shown ++ [])).length + 1 =
          (front ++ (lead ++ (first ++ [','])) : Text).length := by
        simp [isShown.length]
        omega
      have further := inductionHypothesis (areShown _ (.head _))
        (fun other present => areShown other (.tail _ present)) isBlank
        (front ++ (lead ++ (first ++ [','])))
      rw [text, Text.splitAt_append_cons absent, spansFrom, offset,
        pieceSpan?_eq isShown isLead (.inl rfl), isShown.length]
      refine .cons (fun rest => ?_) (further.imp fun span item found rest => ?_)
      · have here := span_of_item front lead first (',' :: (blank ++ (item ++
          (listedText (others.map fun other => (other.1, other.2.1)) ++ closing))) ++ rest)
        simpa [listedText, commaEq] using here
      · rw [← found rest]
        simp [listedText, commaEq]

/-- The items of a list are found where they are shown. -/
theorem items_shown
    {first shown : Text}
    (isShown : IsShown first shown)
    {others : List (Bool × Text × Text)}
    (areShown : ∀ other ∈ others, IsShown other.2.1 other.2.2)
    {lead closing : Text}
    (isLead : IsGap lead)
    (isClosing : IsGap closing) :
    items (lead ++ (first ++ (listedText (others.map fun other => (other.1, other.2.1)) ++ closing)))
        (lead ++ (shown ++ (listedText (others.map fun other => (other.1, other.2.2)) ++ closing))) =
      first :: others.map (·.2.1) := by
  have found := forall₂_spansFrom isShown areShown isLead isClosing []
  rw [items, spans, ← List.forall₂_eq_eq_eq, List.forall₂_map_left_iff]
  exact found.imp fun span item found => by simpa using found []

section

variable {first lead closing : Text} {others : List (Bool × Text)}

theorem areShown_of_areItems
    (areItems : ∀ other ∈ others, IsItem other.2) :
    ∀ other ∈ others.map (fun other => (other.1, other.2, other.2)), IsShown other.2.1 other.2.2 := by
  intro other present
  obtain ⟨item, inOthers, rfl⟩ := List.mem_map.mp present
  exact (areItems item inOthers).isShown

/-- The items of a list are found, whatever follows the list. -/
theorem forall₂_spans
    (isItem : IsItem first)
    (areItems : ∀ other ∈ others, IsItem other.2)
    (isLead : IsGap lead)
    (isClosing : IsGap closing) :
    List.Forall₂
      (fun span item => ∀ rest, Span.of
        (lead ++ (first ++ (listedText others ++ closing)) ++ rest) span = item)
      (spans (lead ++ (first ++ (listedText others ++ closing))))
      (first :: others.map Prod.snd) := by
  have found := forall₂_spansFrom isItem.isShown (areShown_of_areItems areItems) isLead isClosing []
  simpa [spans, Function.comp_def] using found

theorem items_listedText
    (isItem : IsItem first)
    (areItems : ∀ other ∈ others, IsItem other.2)
    (isLead : IsGap lead)
    (isClosing : IsGap closing) :
    items (lead ++ (first ++ (listedText others ++ closing)))
        (lead ++ (first ++ (listedText others ++ closing))) = first :: others.map Prod.snd := by
  have found := items_shown isItem.isShown (areShown_of_areItems areItems) isLead isClosing
  simpa [Function.comp_def] using found

end

end Plain
end SqlReview
