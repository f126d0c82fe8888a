import SqlReview.Proofs.FromClause.Recording
import SqlReview.Proofs.Plain.Joins

/-!
# The joins of a FROM clause

A joined table is read back with its condition, also where further tables are listed behind it. Those
stand in the text up to the next join and are passed over.
-/

namespace SqlReview
namespace FromClause

open Query Plain

/-! ## Segments -/

/-- A joined table with the tables that are listed behind it, up to the next join. -/
structure Segment where
  /-- The joined table. -/
  joined : JoinedItem
  /-- The tables listed behind it. -/
  passed : List (Bool × Item)

/-- A FROM clause behind its first table taken apart: the tables listed in front of the first join,
and the segments that start with a join. -/
def segments : List Continuation → List (Bool × Item) × List Segment
  | [] => ([], [])
  | .listed spaced item :: rest => ((spaced, item) :: (segments rest).1, (segments rest).2)
  | .joined joined :: rest => ([], ⟨joined, (segments rest).1⟩ :: (segments rest).2)

namespace Segment

/-- What stands behind the keywords of a join up to the next one. -/
def target (segment : Segment) : Text :=
  segment.joined.item.text ++ (segment.joined.condition.text ++ listedItems segment.passed)

/-- A segment as a join, with what stands behind its keywords seen through a view. -/
def shown (view : Text → Text) (segment : Segment) : Text × Text :=
  (segment.joined.kind.text, view segment.target)

end Segment

/-- The text of a FROM clause is that of the tables in front of the first join and of its segments. -/
theorem text_segments (rest : List Continuation) :
    rest.flatMap Continuation.text =
      listedItems (segments rest).1 ++ joinTexts ((segments rest).2.map (Segment.shown id)) := by
  induction rest with
  | nil => rfl
  | cons next rest inductionHypothesis =>
      rw [List.flatMap_cons, inductionHypothesis]
      cases next with
      | listed spaced item => simp [segments, listedItems, Continuation.text]
      | joined joined =>
          simp [segments, listedItems, Continuation.text, JoinedItem.text, joinTexts,
            Segment.shown, Segment.target]

/-! ## Lists of tables -/

/-- A list of tables has no marks that enclose. -/
theorem mask_listedItems (others : List (Bool × Item)) :
    mask (listedItems others) = listedItems others ∧ IsClosed (listedItems others) := by
  have separators (spaced : Bool) : mask (comma spaced) = comma spaced ∧ IsClosed (comma spaced) := by
    cases spaced <;> decide
  induction others with
  | nil => exact ⟨rfl, rfl⟩
  | cons other others inductionHypothesis =>
      obtain ⟨spaced, item⟩ := other
      obtain ⟨separator, separatorClosed⟩ := separators spaced
      have closed : IsClosed (comma spaced ++ item.text) :=
        separatorClosed.append item.isPiece.closed
      change mask (comma spaced ++ item.text ++ listedItems others) =
          comma spaced ++ item.text ++ listedItems others ∧
        IsClosed (comma spaced ++ item.text ++ listedItems others)
      rw [mask_append closed, mask_append separatorClosed, separator, item.mask_text,
        inductionHypothesis.1]
      exact ⟨rfl, closed.append inductionHypothesis.2⟩

theorem isQueryChar_listedItems (others : List (Bool × Item)) :
    ∀ c ∈ listedItems others, isQueryChar c = true := by
  intro c present
  obtain ⟨⟨spaced, item⟩, -, inItem⟩ := List.mem_flatMap.mp present
  rcases List.mem_append.mp inItem with inComma | inText
  · cases spaced
    · obtain rfl := List.mem_singleton.mp inComma
      decide
    · exact List.all_eq_true.mp (show (", ".toList).all isQueryChar = true by decide) c inComma
  · exact item.isPiece.chars c inText

/-! ## Conditions -/

namespace Condition

variable (condition : Condition)

theorem isClosed_text :
    IsClosed condition.text := by
  cases condition with
  | none => rfl
  | on first second =>
      have on : IsClosed " ON ".toList ∧ IsClosed " = ".toList := by decide
      exact on.1.append (first.isPiece.closed.append (on.2.append second.isPiece.closed))
  | shared column =>
      have shared : IsClosed " USING ".toList := by decide
      have enclosed := mask_enclosed (.inr rfl) fun c present =>
        (of_isSolidChar (List.all_eq_true.mp column.isSolid_text c present)).2.2
      exact shared.append enclosed.2

theorem isQueryChar_text :
    ∀ c ∈ condition.text, isQueryChar c = true := by
  have name : IsPiece [] "a".toList :=
    isPiece_of_isSolid (by decide) (by decide) (by decide)
  exact fun c present => (condition.isPiece_append name).chars c (.tail _ present)

/-- A condition is seen on the top level, behind its word. -/
theorem endsItem_append
    {gap : Text}
    (isGap : IsGap gap)
    (passed : List (Bool × Item)) :
    EndsItem (condition.text ++ (listedItems passed ++ gap)) ∧
      EndsItem (mask condition.text ++ (listedItems passed ++ gap)) := by
  have noCondition : EndsItem (listedItems passed ++ gap) := by
    cases passed with
    | nil =>
        rcases isGap with rfl | rfl
        · exact .nothing
        · exact .blank
    | cons next passed =>
        obtain ⟨spaced, item⟩ := next
        cases spaced <;> exact .comma _
  have behind {word : Text} (isWord : word ∈ (["ON", "USING"] : List Text)) (others : Text) :
      EndsItem (' ' :: (word ++ ' ' :: others) ++ (listedItems passed ++ gap)) ∧
        EndsItem (mask (' ' :: (word ++ ' ' :: others)) ++ (listedItems passed ++ gap)) := by
    have plain : ∀ word ∈ (["ON", "USING"] : List Text),
        mask (' ' :: (word ++ [' '])) = ' ' :: (word ++ [' ']) ∧
          IsClosed (' ' :: (word ++ [' '])) := by
      decide
    obtain ⟨masked, closed⟩ := plain word isWord
    have split : ' ' :: (word ++ ' ' :: others) = ' ' :: (word ++ [' ']) ++ others := by simp
    have shape (rest : Text) : EndsItem (' ' :: (word ++ [' ']) ++ rest) := by
      have ends := EndsItem.condition isWord rest
      simpa using ends
    rw [split, mask_append closed, masked, List.append_assoc, List.append_assoc]
    exact ⟨shape _, shape _⟩
  cases condition with
  | none => exact ⟨noCondition, noCondition⟩
  | on first second => exact behind (.head _) _
  | shared column => exact behind (.tail _ (.head _)) _

end Condition

/-! ## Joins -/

namespace Segment

variable (segment : Segment)

/-- The reserved words behind the keywords of a join. -/
def words : List Text :=
  segment.joined.item.words ++ segment.joined.condition.words ++
    segment.passed.flatMap (·.2.words)

theorem isPiece_target :
    IsPiece segment.words segment.target := by
  have piece := (segment.joined.condition.isPiece_append segment.joined.item.isPiece).flatMap
    (show ∀ other : Bool × Item, comma other.1 ∈ separators from
      fun other => comma_mem_separators other.1) (fun other => other.2.isPiece) segment.passed
  rw [List.append_assoc segment.joined.item.text] at piece
  exact piece

/-- Apart from the condition only AS stands behind the keywords of a join. -/
theorem mem_words
    {word : Text}
    (isOther : word ≠ "as".toList) :
    word ∈ segment.words ↔ word ∈ segment.joined.condition.words := by
  have absent (item : Item) : word ∉ item.words := fun present =>
    isOther (List.mem_singleton.mp (item.words_subset present))
  simp [words, absent]

theorem mask_target :
    mask segment.target =
      segment.joined.item.text ++
        (mask segment.joined.condition.text ++ listedItems segment.passed) := by
  rw [target, mask_append segment.joined.item.isPiece.closed, segment.joined.item.mask_text,
    mask_append segment.joined.condition.isClosed_text, (mask_listedItems segment.passed).1]

theorem isJoin :
    IsJoin (segment.shown mask) := by
  obtain ⟨⟨kind, item, condition⟩, passed⟩ := segment
  have nonempty : kind.text ≠ [] := by cases kind <;> decide
  refine isJoin_of_keywords nonempty (fun index rest => by cases kind <;> rfl) ?_
  intro word present isJoinWord
  have isOther : word ≠ "as".toList := ne_of_mem_of_not_mem isJoinWord (by decide)
  have absent : ∀ word ∈ ["on".toList, "using".toList], word ∉ joinWords := by decide
  rw [Segment.isPiece_target _ |>.topWords, mem_words _ isOther] at present
  exact absent word (condition.words_subset present) isJoinWord

/-- The joined table is read back, and nothing of what follows it. -/
theorem reference_eq
    {gap maskedGap : Text}
    (isGap : IsGap gap)
    (isMaskedGap : IsGap maskedGap) :
    Query.reference (' ' :: (segment.target ++ gap)) (' ' :: (mask segment.target ++ maskedGap)) =
      segment.joined.item.reference := by
  obtain ⟨⟨kind, item, condition⟩, passed⟩ := segment
  have ascii : ∀ c ∈ mask condition.text ++ (listedItems passed ++ maskedGap),
      c.toNat < 0x80 := by
    have blank : ' '.toNat < 0x80 := by decide
    intro c present
    rcases List.mem_append.mp present with inCondition | inRest
    · rcases mem_of_mem_maskFrom inCondition with rfl | inText
      · exact blank
      · exact ascii_of_isQueryChar (condition.isQueryChar_text c inText)
    · rcases List.mem_append.mp inRest with inItems | inGap
      · exact ascii_of_isQueryChar (isQueryChar_listedItems passed c inItems)
      · rcases isMaskedGap with rfl | rfl
        · exact absurd inGap List.not_mem_nil
        · obtain rfl := List.mem_singleton.mp inGap
          exact blank
  have whole := item.reference_eq (show ∀ c ∈ [' '], _ from fun _ => isBlank_of_mem)
    (condition.endsItem_append isGap passed).1
    (condition.endsItem_append isMaskedGap passed).2 ascii
  rw [mask_target, target]
  simpa using whole

/-- Whether a condition stands behind ON can be seen on the top level. -/
theorem onKeyword_occursIn
    {gap : Text}
    (isGap : IsGap gap) :
    onKeyword.occursIn (' ' :: (mask segment.target ++ gap)) = segment.joined.condition.isOn := by
  rw [Bool.eq_iff_iff, onKeyword_occursIn_iff isGap, segment.isPiece_target.topWords,
    segment.mem_words (by decide)]
  cases segment.joined.condition <;> simp [Condition.words, Condition.isOn]

theorem usingKeyword_occursIn
    {gap : Text}
    (isGap : IsGap gap) :
    usingKeyword.occursIn (' ' :: (mask segment.target ++ gap)) =
      segment.joined.condition.isShared := by
  have absent (isMissing : "using".toList ∉ segment.joined.condition.words) :
      usingKeyword.occursIn (' ' :: (mask segment.target ++ gap)) = false := by
    refine Bool.eq_false_iff.mpr fun found => isMissing ?_
    have present := mem_keywords_of_usingKeyword isGap found
    rwa [segment.isPiece_target.topWords, segment.mem_words (by decide)] at present
  obtain ⟨⟨kind, item, condition⟩, passed⟩ := segment
  cases condition with
  | none => exact absent List.not_mem_nil
  | on first second => exact absent (show "using".toList ∉ ["on".toList] by decide)
  | shared column =>
      have found := usingKeyword_occursIn_list item.isPiece.closed column.isSolid_text
        (listedItems passed ++ gap)
      have closed : IsClosed (item.text ++ (Condition.shared column).text) :=
        item.isPiece.closed.append (Condition.isClosed_text _)
      change usingKeyword.occursIn (' ' :: (mask (item.text ++
        ((Condition.shared column).text ++ listedItems passed)) ++ gap)) = true
      rw [← List.append_assoc item.text, mask_append closed, (mask_listedItems passed).1,
        List.append_assoc]
      exact found

end Segment

theorem JoinKind.upper_text (kind : JoinKind) :
    Text.upper (Text.collapse kind.text) = kind.text := by
  cases kind <;> decide

/-- The joins of a FROM clause are recorded in order. `front` is what stands before them, `masked` its
top level, and `closing` the gap behind them. -/
theorem collectJoins_eq
    (parts : List Segment)
    {front masked : Text}
    (sameLength : masked.length = front.length)
    {closing : Text}
    (isGap : IsGap closing)
    (before : Option Char)
    (previous : Text)
    (sources : Sources) :
    collectJoins (front ++ (joinTexts (parts.map (Segment.shown id)) ++ closing))
        (masked ++ (joinTexts (parts.map (Segment.shown mask)) ++ closing)) (some previous) sources
        (joinKeyword.occurrencesFrom 0 before masked.length
          (joinTexts (parts.map (Segment.shown mask)) ++ closing)) =
      record sources (parts.map (·.joined.item))
        (joinsFrom previous (parts.map (·.joined))) := by
  induction parts generalizing front masked before previous sources with
  | nil =>
      change collectJoins _ _ _ _ (joinKeyword.occurrencesFrom 0 before _ closing) = _
      rw [occurrencesFrom_closing isGap]
      simp [collectJoins, joinsFrom, record]
  | cons part parts inductionHypothesis =>
      have areJoins : ∀ join ∈ parts.map (Segment.shown mask), IsJoin join := by
        intro join present
        obtain ⟨other, -, rfl⟩ := List.mem_map.mp present
        exact other.isJoin
      have whole (view : Text → Text) (front : Text) :
          front ++ (joinTexts ((part :: parts).map (Segment.shown view)) ++ closing) =
            withJoin front (part.shown view) ++
              (joinTexts (parts.map (Segment.shown view)) ++ closing) := by
        simp [joinTexts, withJoin]
      have lengths : (withJoin masked (part.shown mask)).length =
          (withJoin front (part.shown id)).length := by
        simp [withJoin, Segment.shown, sameLength, mask]
      obtain ⟨later, found⟩ := occurrencesFrom_joinTexts part.isJoin isGap
        (parts.map (Segment.shown mask)) before masked
      have start := start_joinTexts areJoins isGap later (withJoin masked (part.shown mask))
      obtain ⟨maskedGap, isMaskedGap, maskedTarget⟩ :=
        exists_joinTarget isGap masked (part.shown mask) start
      have startBody : ((joinKeyword.occurrencesFrom 0 later
          (withJoin masked (part.shown mask)).length
          (joinTexts (parts.map (Segment.shown mask)) ++ closing)).head?.map (·.start)) =
            (parts.map (Segment.shown id)).head?.map
              fun _ => (withJoin front (part.shown id)).length + 1 := by
        rw [start, lengths]
        cases parts <;> rfl
      obtain ⟨gap, isGapHere, target⟩ := exists_joinTarget isGap front (part.shown id) startBody
      rw [← sameLength] at target
      change joinTarget (phraseAt (part.shown mask).1 _) _ _ = ' ' :: (part.target ++ gap) at target
      change joinTarget _ _ _ = ' ' :: (mask part.target ++ maskedGap) at maskedTarget
      rw [whole, whole, List.map_cons, found, collectJoins, target, maskedTarget,
        part.reference_eq isGapHere isMaskedGap, part.onKeyword_occursIn isMaskedGap,
        part.usingKeyword_occursIn isMaskedGap, addReference_eq]
      have step := inductionHypothesis lengths later part.joined.item.table.text
        (record sources [part.joined.item] [⟨previous, part.joined.item.table.text,
          part.joined.kind.text, part.joined.condition.isOn, part.joined.condition.isShared⟩])
      rw [record_record] at step
      refine Eq.trans ?_ step
      have kind : Text.upper (Text.collapse (phraseAt (part.shown mask).1
          (masked.length + 1)).text) = part.joined.kind.text := part.joined.kind.upper_text
      rw [kind]
      simp [record, Item.reference, Reference.name?]

end FromClause
end SqlReview
