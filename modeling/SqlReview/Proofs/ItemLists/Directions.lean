import SqlReview.Proofs.ItemLists.Grammar
import SqlReview.Query.Structure

/-!
# Directions of sort keys

Behind an item, a direction is found as a whole and nothing else of the item is taken for a part of it,
unless the item ends in a direction itself.
-/

namespace SqlReview
namespace ItemLists

open Query Plain

variable {before : Option Char} {words : List Text} {run rest direction : Text}

/-! ## What is taken for a direction -/

/-- The first part of a direction. -/
def orderPart : Pattern :=
  .optional (.seq .someBlanks (.alt (.letters "asc") (.letters "desc")))

/-- The second part of a direction. -/
def placementPart : Pattern :=
  .optional (.all [.someBlanks, .letters "nulls", .someBlanks,
    .alt (.letters "first") (.letters "last")])

theorem covers_orderPart
    (listed : words.map (·.map Text.foldLetter) ∈ orders) :
    orderPart.Covers before (spacedWords words) rest := by
  have word {word : Text} (isWord : word.map Text.foldLetter = "asc".toList ∨
      word.map Text.foldLetter = "desc".toList) :
      orderPart.Covers before (spacedWords [word]) rest :=
    .inl ⟨[' '], word, by simp [spacedWords], covers_blank _ _,
      isWord.imp Pattern.covers_letters.mpr Pattern.covers_letters.mpr⟩
  simp only [orders, List.mem_cons, List.not_mem_nil, or_false, List.map_eq_nil_iff,
    List.map_eq_singleton_iff] at listed
  rcases listed with rfl | ⟨only, rfl, folds⟩ | ⟨only, rfl, folds⟩
  · exact .inr rfl
  · exact word (.inl folds)
  · exact word (.inr folds)

theorem covers_placementPart
    (listed : words.map (·.map Text.foldLetter) ∈ placements) :
    placementPart.Covers before (spacedWords words) rest := by
  have pair {first second : Text} (folds : first.map Text.foldLetter = "nulls".toList)
      (isLast : second.map Text.foldLetter = "first".toList ∨
        second.map Text.foldLetter = "last".toList) :
      placementPart.Covers before (spacedWords [first, second]) rest := by
    refine .inl ⟨[' '], first ++ ' ' :: second, by simp [spacedWords], covers_blank _ _, ?_⟩
    refine Pattern.covers_letters_cons.mpr ⟨first, ' ' :: second, rfl, folds, [' '], second, rfl,
      covers_blank _ _, second, [], (List.append_nil second).symm, ?_, rfl⟩
    exact isLast.imp Pattern.covers_letters.mpr Pattern.covers_letters.mpr
  simp only [placements, List.mem_cons, List.not_mem_nil, or_false, List.map_eq_nil_iff,
    List.map_eq_cons_iff] at listed
  rcases listed with rfl | ⟨first, _, rfl, folds, second, _, rfl, isLast, rfl⟩ |
    ⟨first, _, rfl, folds, second, _, rfl, isLast, rfl⟩
  · exact .inr rfl
  · exact pair folds (.inl isLast)
  · exact pair folds (.inr isLast)

/-- A direction is taken for one. -/
theorem IsDirection.covers (isDirection : IsDirection direction) :
    orderDirection.Covers before direction [] := by
  obtain ⟨words, rfl, listed⟩ := isDirection
  obtain ⟨order, isOrder, isPhrase⟩ := List.mem_flatMap.mp listed
  obtain ⟨placement, isPlacement, split⟩ := List.mem_map.mp isPhrase
  obtain ⟨front, back, rfl, rfl, rfl⟩ := List.append_eq_map_iff.mp split
  rw [spacedWords, List.flatMap_append]
  exact ⟨_, _, rfl, covers_orderPart isOrder, spacedWords back, [], (List.append_nil _).symm,
    covers_placementPart isPlacement, [], [], rfl, List.forall_mem_nil _, [], [], rfl, ⟨rfl, .inl rfl⟩,
    rfl⟩

/-- Whether a text consists of given words, each behind white space. -/
structure IsSpaced (run : Text) (phrases : List (List Text)) : Prop where
  chars : ∀ c ∈ run, Text.isBlank c = true ∨ Text.isWord c = true
  starts : run.head?.any Text.isWord = false
  words : Text.words run ∈ phrases

theorem isSpaced_nil
    {phrases : List (List Text)}
    (listed : [] ∈ phrases) :
    IsSpaced [] phrases :=
  ⟨List.forall_mem_nil _, rfl, listed⟩

/-- White space and a word in front of further words. -/
theorem IsSpaced.cons
    {blanks word : Text}
    {phrases more : List (List Text)}
    (isBlanks : blanks ≠ [] ∧ ∀ c ∈ blanks, Text.isBlank c = true)
    (isSmallWord : Text.IsSmallWord (word.map Text.foldLetter))
    (spaced : IsSpaced run phrases)
    (listed : ∀ phrase ∈ phrases, word.map Text.foldLetter :: phrase ∈ more) :
    IsSpaced (blanks ++ (word ++ run)) more := by
  have isWord : ∀ c ∈ word, Text.isWord c = true := fun c => isSmallWord.isWord_of_mem rfl
  refine ⟨fun c present => ?_, (Text.isWord_of_blanks isBlanks.1 isBlanks.2).2 _, ?_⟩
  · simp only [List.mem_append] at present
    rcases present with inBlanks | inWord | behind
    · exact .inl (isBlanks.2 c inBlanks)
    · exact .inr (isWord c inWord)
    · exact spaced.chars c behind
  · rw [Text.words_whole ⟨isSmallWord.ne_nil rfl, isWord⟩
      ((Text.isWord_of_blanks isBlanks.1 isBlanks.2).1 none) spaced.starts,
      Text.words_of_noWord fun c present => Text.isWord_of_isBlank (isBlanks.2 c present)]
    exact listed _ spaced.words

theorem isSpaced_of_covers_orderPart
    (covered : orderPart.Covers before run rest) :
    IsSpaced run orders := by
  rcases covered with ⟨blanks, word, rfl, isBlanks, isWord⟩ | nothing
  · have folds : word.map Text.foldLetter = "asc".toList ∨ word.map Text.foldLetter = "desc".toList :=
      isWord.imp Pattern.covers_letters.mp Pattern.covers_letters.mp
    rw [← List.append_nil word]
    refine (isSpaced_nil (List.mem_singleton.mpr rfl)).cons (Pattern.covers_someBlanks.mp isBlanks) ?_ ?_
    · rcases folds with equal | equal <;> rw [equal] <;> decide
    · rcases folds with equal | equal <;> rw [equal] <;> decide
  · obtain rfl : run = [] := nothing
    exact isSpaced_nil (by decide)

theorem isSpaced_of_covers_placementPart
    (covered : placementPart.Covers before run rest) :
    IsSpaced run placements := by
  rcases covered with ⟨blanks, _, rfl, isBlanks, covered⟩ | nothing
  · obtain ⟨nulls, _, rfl, isNulls, gap, _, rfl, isGap, last, nothing, rfl, isLast, isEnd⟩ :=
      Pattern.covers_letters_cons.mp covered
    obtain rfl : nothing = [] := isEnd
    have folds : last.map Text.foldLetter = "first".toList ∨
        last.map Text.foldLetter = "last".toList :=
      isLast.imp Pattern.covers_letters.mp Pattern.covers_letters.mp
    have lastSpaced : IsSpaced (gap ++ (last ++ [])) [["first"], ["last"]] := by
      refine (isSpaced_nil (List.mem_singleton.mpr rfl)).cons (Pattern.covers_someBlanks.mp isGap) ?_ ?_
      · rcases folds with equal | equal <;> rw [equal] <;> decide
      · rcases folds with equal | equal <;> rw [equal] <;> decide
    refine lastSpaced.cons (Pattern.covers_someBlanks.mp isBlanks) ?_ ?_
    · rw [isNulls]
      decide
    · rw [isNulls]
      decide
  · obtain rfl : run = [] := nothing
    exact isSpaced_nil (by decide)

/-- What is taken for a direction stands at the end of a text and consists of the words of a direction,
each behind white space. -/
theorem isSpaced_of_covers
    (covered : orderDirection.Covers before run rest) :
    IsSpaced run directionPhrases ∧ (rest = [] ∨ rest = ['\n']) := by
  obtain ⟨order, _, rfl, isOrder, placement, _, rfl, isPlacement, blanks, _, rfl, blank, _, _, rfl,
    ⟨rfl, ends⟩, nothing⟩ := covered
  obtain rfl := Pattern.covers_all_nil.mp nothing
  have orderSpaced := isSpaced_of_covers_orderPart isOrder
  have placementSpaced := isSpaced_of_covers_placementPart isPlacement
  have blanksOutside : blanks.head?.any Text.isWord = false := by
    cases blanks with
    | nil => rfl
    | cons c blanks => exact Text.isWord_of_isBlank (blank c (.head _))
  have behindOutside : (placement ++ blanks).head?.any Text.isWord = false := by
    cases placement with
    | nil => exact blanksOutside
    | cons c placement => exact placementSpaced.starts
  simp only [List.append_nil]
  refine ⟨⟨fun c present => ?_, ?_, ?_⟩, ends⟩
  · simp only [List.mem_append] at present
    rcases present with inOrder | inPlacement | inBlanks
    · exact orderSpaced.chars c inOrder
    · exact placementSpaced.chars c inPlacement
    · exact .inl (blank c inBlanks)
  · cases order with
    | nil => exact behindOutside
    | cons c order => exact orderSpaced.starts
  · rw [Text.words_append_of_head _ behindOutside, Text.words_append_of_head _ blanksOutside,
      Text.words_of_noWord fun c present => Text.isWord_of_isBlank (blank c present), List.append_nil]
    exact List.mem_flatMap.mpr ⟨_, orderSpaced.words, List.mem_map_of_mem placementSpaced.words⟩

/-! ## Items and their directions -/

/-- Words with single blanks between them and in front are put together from these words. -/
theorem exists_spacedWords
    {text : Text}
    (chars : ∀ c ∈ text, Text.isBlank c = true ∨ Text.isWord c = true)
    (single : ∀ lead c rest, text = lead ++ c :: rest → Text.isBlank c = true →
      c = ' ' ∧ rest.head?.any Text.isBlank = false)
    (starts : text.head?.any Text.isWord = false)
    (ends : text.getLast?.any Text.isBlank = false) :
    ∃ words, text = spacedWords words ∧ Text.words text = words.map (·.map Text.foldLetter) := by
  induction length : text.length using Nat.strongRecOn generalizing text with
  | ind bound inductionHypothesis =>
      cases text with
      | nil => exact ⟨[], rfl, rfl⟩
      | cons c text =>
          have noWord : Text.isWord c = false := starts
          have blank : Text.isBlank c = true := (chars c (.head _)).resolve_right (by simp [noWord])
          obtain ⟨rfl, noBlank⟩ := single [] c text rfl blank
          cases text with
          | nil => exact absurd ends (by decide)
          | cons d text =>
              have isWord : Text.isWord d = true :=
                (chars d (.tail _ (.head _))).resolve_left (Bool.eq_false_iff.mp noBlank)
              obtain ⟨word, rest, split, isWordRun, outside, wordsEq⟩ := Pattern.exists_word isWord text
              rw [split] at chars single ends length
              have shorter : rest.length < bound := by
                rw [← length, List.length_cons, List.length_append]
                omega
              have endsBehind : rest.getLast?.any Text.isBlank = false := by
                cases rest with
                | nil => rfl
                | cons e rest =>
                    rwa [← List.cons_append, List.getLast?_append_of_ne_nil _ (List.cons_ne_nil e rest)]
                      at ends
              obtain ⟨words, rfl, restWords⟩ := inductionHypothesis rest.length shorter
                (fun e present => chars e (.tail _ (List.mem_append_right _ present)))
                (fun lead e others behind blank =>
                  single (' ' :: (word ++ lead)) e others (by simp [behind]) blank)
                outside endsBehind rfl
              refine ⟨word :: words, by rw [split, spacedWords_cons], ?_⟩
              rw [Text.words_cons noWord, wordsEq, restWords]
              rfl

/-- The part of a direction in front of another one is a direction. -/
theorem mem_directionPhrases_of_append
    {front back : List Text}
    (isPhrase : back ∈ directionPhrases)
    (whole : front ++ back ∈ directionPhrases) :
    front ∈ directionPhrases := by
  have each : ∀ phrase ∈ directionPhrases, phrase.length ≤ 3 ∧ ∀ count ∈ List.range 4,
      phrase.drop count ∈ directionPhrases → phrase.take count ∈ directionPhrases := by
    decide
  obtain ⟨short, taken⟩ := each _ whole
  have within : front.length ∈ List.range 4 := by
    rw [List.length_append] at short
    rw [List.mem_range]
    omega
  have found := taken _ within
  rw [List.drop_left, List.take_left] at found
  exact found isPhrase

/-- A sort key without its direction is its item, unless the item ends in a direction itself. -/
theorem SortKey.beforeFirst_text
    (key : SortKey)
    (plain : ¬EndsInDirection key.item.text) :
    orderDirection.beforeFirst key.text = key.item.text := by
  refine Pattern.beforeFirst_of_isQuiet ?_ key.isDirection.covers
  rintro lead c tail split run others equal covered
  obtain ⟨spaced, ends⟩ := isSpaced_of_covers covered
  have whole : key.text = lead ++ (run ++ others) := by
    rw [SortKey.text, split, List.append_assoc, equal]
  have atEnd : others = [] := by
    refine ends.resolve_right ?_
    rintro rfl
    have last := key.tight.ends
    rw [whole, ← List.append_assoc, List.getLast?_concat] at last
    exact absurd last (by decide)
  rw [atEnd, List.append_nil] at equal
  subst equal
  have words := spaced.words
  rw [Text.words_append_of_head _ key.isDirection.head_noWord] at words
  have itemEnds := key.item.ends
  rw [split, List.getLast?_append_of_ne_nil _ (List.cons_ne_nil c tail)] at itemEnds
  have collapsed := key.item.collapsed
  obtain ⟨parts, partsEq, wordsEq⟩ := exists_spacedWords
    (fun d present => spaced.chars d (List.mem_append_left _ present))
    (fun front d rest behind blank => by
      rw [split, behind, ← List.append_assoc] at collapsed
      exact single_of_collapse collapsed blank)
    spaced.starts itemEnds
  rw [wordsEq] at words
  exact plain ⟨lead, c :: tail, split, List.cons_ne_nil c tail, parts, partsEq,
    mem_directionPhrases_of_append key.isDirection.words_mem words⟩

end ItemLists
end SqlReview
