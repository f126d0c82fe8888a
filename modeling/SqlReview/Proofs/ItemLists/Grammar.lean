import SqlReview.Proofs.Pattern.Words
import SqlReview.Proofs.Plain.Items
import SqlReview.Proofs.Query.Clauses
import SqlReview.Proofs.Query.SubqueryBody

/-!
# Lists behind GROUP BY and ORDER BY

The lists that are read back: items that hold anything between their parentheses and quotes, with a comma
and a blank between neighbours. In an ORDER BY list an item can have a direction behind it.
-/

namespace SqlReview
namespace ItemLists

open Query Plain

/-! ## Items -/

/-- An item of a list. -/
structure ListItem where
  /-- The item as it stands in a list. -/
  text : Text
  /-- The item has characters. -/
  nonempty : text ≠ []
  /-- The first character is not white space. -/
  starts : text.head?.any Text.isBlank = false
  /-- The last character is not white space. -/
  ends : text.getLast?.any Text.isBlank = false
  /-- White space stands in single blanks only. -/
  collapsed : Text.collapse text = text
  /-- No comment starts in the item. -/
  noComment : hasCommentMark text = false
  /-- The item closes what it opens, and nothing else. -/
  selfContained : IsSelfContained text
  /-- No comma stands on the top level. -/
  noComma : ',' ∉ mask text
  /-- The top level does not end with a semicolon. -/
  noTerminator : (mask text).getLast? ≠ some ';'
  /-- No keyword of a clause stands on the top level. -/
  noKeyword : clauseKeyword.occursIn (mask text) = false

/-! ## Directions -/

/-- The orders in which rows are sorted. -/
def orders : List (List Text) :=
  [[], ["asc"], ["desc"]]

/-- The places where NULL is put among the rows. -/
def placements : List (List Text) :=
  [[], ["nulls", "first"], ["nulls", "last"]]

/-- The words of directions. -/
def directionPhrases : List (List Text) :=
  orders.flatMap fun order => placements.map (order ++ ·)

/-- Words with a blank in front of each. -/
def spacedWords (words : List Text) : Text :=
  words.flatMap (' ' :: ·)

/-- Whether a text is a direction as it stands behind an item, in any letter case. -/
def IsDirection (text : Text) : Prop :=
  ∃ words : List Text, text = spacedWords words ∧
    words.map (·.map Text.foldLetter) ∈ directionPhrases

/-- Whether the end of a text is a direction. -/
def EndsInDirection (text : Text) : Prop :=
  ∃ front direction, text = front ++ direction ∧ direction ≠ [] ∧ IsDirection direction

/-- An item of an ORDER BY list. -/
structure SortKey where
  /-- What the rows are sorted by. -/
  item : ListItem
  /-- The direction, perhaps missing. -/
  direction : Text
  /-- It is a direction. -/
  isDirection : IsDirection direction

def SortKey.text (key : SortKey) : Text :=
  key.item.text ++ key.direction

/-- An item as a sort key without a direction. -/
def ListItem.key (item : ListItem) : SortKey :=
  ⟨item, [], [], rfl, by decide⟩

/-! ## Queries -/

/-- The clauses that hold lists of items. -/
inductive ListKind where
  /-- GROUP BY. -/
  | group
  /-- ORDER BY. -/
  | order

namespace ListKind

/-- What stands in front of a list. -/
def lead : ListKind → Text
  | group => "SELECT a FROM t GROUP BY"
  | order => "SELECT a FROM t ORDER BY"

/-- The name of the clause. -/
def name : ListKind → Text
  | group => "group by"
  | order => "order by"

end ListKind

/-- A query with a list. -/
def queryText (kind : ListKind) (items : List Text) : Text :=
  kind.lead ++ ' ' :: Text.join ", " items

/-! ## Items in lists -/

/-- A text that closes what it opens leaves nothing open. -/
theorem after_of_closesFrom
    {depth : Depth}
    {text : Text}
    (closes : closesFrom depth text = true) :
    depth.after text = .outermost := by
  induction text generalizing depth with
  | nil => simpa [closesFrom] using closes
  | cons c text inductionHypothesis =>
      exact inductionHypothesis (closesFrom_cons.mp closes).2

/-- The first and the last character of a text that leaves nothing open are on the top level. -/
theorem ends_mask
    {text : Text}
    (closed : Plain.IsClosed text) :
    (mask text).head? = text.head? ∧ (mask text).getLast? = text.getLast? := by
  constructor
  · cases text with
    | nil => rfl
    | cons c text =>
        have shows : Depth.outermost.shows c = true := by simp [Depth.shows, Depth.outermost]
        rw [mask, maskFrom_cons, if_pos shows]
        rfl
  · rcases List.eq_nil_or_concat text with rfl | ⟨front, c, rfl⟩
    · rfl
    · rw [Plain.IsClosed, List.concat_eq_append, Depth.after_append] at closed
      rw [List.concat_eq_append, mask, maskFrom_append, maskFrom_cons, maskFrom_nil,
        List.getLast?_concat, List.getLast?_concat]
      generalize Depth.outermost.after front = depth at *
      obtain ⟨level, inLiteral⟩ := depth
      have shows : Depth.shows ⟨level, inLiteral⟩ c = true := by
        rcases char_cases c inLiteral with rfl | ⟨noQuote, rfl⟩ | ⟨rfl, rfl⟩ | ⟨rfl, rfl⟩ |
          ⟨noQuote, noOpen, noClose, rfl⟩
        · simpa [Depth.step, Depth.outermost, Depth.shows] using (Depth.mk.inj closed).1
        · simp [Depth.step, Depth.outermost, noQuote] at closed
        · simp [Depth.step, Depth.outermost] at closed
        · have shallow : level - 1 = 0 := (Depth.mk.inj closed).1
          simp [Depth.shows]
          omega
        · simpa [Depth.step, Depth.outermost, Depth.shows, noQuote, noOpen, noClose] using closed
      rw [if_pos shows]

namespace ListItem

variable (item : ListItem)

theorem tight : IsTight item.text :=
  isTight_of_collapse item.nonempty item.starts item.ends item.collapsed

theorem isClosed : Plain.IsClosed item.text :=
  after_of_closesFrom item.selfContained

end ListItem

/-! ## Comments -/

/-- No comment mark has a comma or a blank, so marks stand on one side of these. -/
theorem hasCommentMark_append_cons
    {c : Char}
    (isSeparator : c = ',' ∨ c = ' ')
    (front back : Text) :
    hasCommentMark (front ++ c :: back) = (hasCommentMark front || hasCommentMark back) := by
  have absent : c ∉ "--".toList ∧ c ∉ "/*".toList ∧ c ≠ '#' := by
    rcases isSeparator with rfl | rfl <;> decide
  have hash : (front ++ c :: back).contains '#' = (front.contains '#' || back.contains '#') := by
    simp [absent.2.2.symm]
  rw [hasCommentMark, hasCommentMark, hasCommentMark, Text.holds_append_cons (by decide) absent.1,
    Text.holds_append_cons (by decide) absent.2.1, hash]
  ac_rfl

/-! ## Directions -/

/-- The words of directions are in small letters and no keywords of clauses, and none of them starts as
BY does. -/
theorem directionPhrases_forall :
    ∀ phrase ∈ directionPhrases, ∀ word ∈ phrase, Text.IsSmallWord word ∧
      startsClause word = false ∧ word.head? ≠ some 'b' := by
  decide

theorem spacedWords_cons (word : Text) (words : List Text) :
    spacedWords (word :: words) = ' ' :: (word ++ spacedWords words) :=
  rfl

section

variable {words : List Text} {direction : Text} {c : Char}

/-- Words with blanks in front consist of blanks and word characters, and they are the words of the text
that they make up. -/
theorem of_spacedWords
    (areWords : ∀ word ∈ words, word ≠ [] ∧ ∀ c ∈ word, Text.isWord c = true) :
    (∀ c ∈ spacedWords words, c = ' ' ∨ Text.isWord c = true) ∧
      Text.words (spacedWords words) = words.map (·.map Text.foldLetter) ∧
      (spacedWords words).head?.any Text.isWord = false := by
  have noWord : Text.isWord ' ' = false := by decide
  induction words with
  | nil => exact ⟨List.forall_mem_nil _, rfl, rfl⟩
  | cons word words inductionHypothesis =>
      obtain ⟨nonempty, isWord⟩ := areWords word (.head _)
      obtain ⟨chars, wordsEq, outside⟩ :=
        inductionHypothesis fun word present => areWords word (.tail _ present)
      refine ⟨fun c present => ?_, ?_, noWord⟩
      · rw [spacedWords_cons, List.mem_cons, List.mem_append] at present
        rcases present with rfl | inWord | behind
        · exact .inl rfl
        · exact .inr (isWord c inWord)
        · exact chars c behind
      · rw [spacedWords_cons, Text.words_cons noWord, Text.words_append_of_head _ outside,
          Text.words_of_isWord nonempty isWord, wordsEq]
        rfl

theorem areWords_of_directionPhrases
    (listed : words.map (·.map Text.foldLetter) ∈ directionPhrases) :
    ∀ word ∈ words, word ≠ [] ∧ ∀ c ∈ word, Text.isWord c = true := by
  intro word present
  have isSmallWord := (directionPhrases_forall _ listed _ (List.mem_map_of_mem present)).1
  exact ⟨isSmallWord.ne_nil rfl, fun c inWord => isSmallWord.isWord_of_mem rfl inWord⟩

namespace IsDirection

variable (isDirection : IsDirection direction)

include isDirection

theorem eq_or_isWord_of_mem (present : c ∈ direction) : c = ' ' ∨ Text.isWord c = true := by
  obtain ⟨words, rfl, listed⟩ := isDirection
  exact (of_spacedWords (areWords_of_directionPhrases listed)).1 c present

theorem words_mem : Text.words direction ∈ directionPhrases := by
  obtain ⟨words, rfl, listed⟩ := isDirection
  rwa [(of_spacedWords (areWords_of_directionPhrases listed)).2.1]

theorem head_noWord : direction.head?.any Text.isWord = false := by
  obtain ⟨words, rfl, listed⟩ := isDirection
  exact (of_spacedWords (areWords_of_directionPhrases listed)).2.2

theorem not_mem
    (noWord : Text.isWord c = false)
    (noBlank : c ≠ ' ') :
    c ∉ direction := by
  intro present
  rcases isDirection.eq_or_isWord_of_mem present with isBlank | isWord
  · exact noBlank isBlank
  · exact absurd (noWord.symm.trans isWord) (by decide)

/-- A direction is on the top level and leaves nothing open. -/
theorem mask_eq : mask direction = direction ∧ Plain.IsClosed direction := by
  refine mask_of_isPlain fun c present => ?_
  refine ⟨?_, ?_, ?_⟩ <;> rintro rfl <;> exact isDirection.not_mem (by decide) (by decide) present

theorem noComment : hasCommentMark direction = false := by
  have noHolds {part : Text} (signs : ∃ c ∈ part, Text.isWord c = false ∧ c ≠ ' ') :
      Text.holds part direction = false := by
    obtain ⟨c, inPart, noWord, noBlank⟩ := signs
    exact Bool.eq_false_iff.mpr fun found =>
      isDirection.not_mem noWord noBlank (Text.mem_of_holds found inPart)
  have noDashes : Text.holds "--" direction = false := noHolds ⟨'-', by decide, by decide, by decide⟩
  have noStar : Text.holds "/*" direction = false := noHolds ⟨'/', by decide, by decide, by decide⟩
  have noHash : direction.contains '#' = false := by
    simpa using isDirection.not_mem (c := '#') (by decide) (by decide)
  rw [hasCommentMark, noDashes, noStar, noHash]
  rfl

theorem tight_append
    {front : Text}
    (tight : IsTight front) :
    IsTight (front ++ direction) := by
  obtain ⟨words, rfl, listed⟩ := isDirection
  have areWords := areWords_of_directionPhrases listed
  clear listed
  induction words generalizing front with
  | nil => rwa [spacedWords, List.flatMap_nil, List.append_nil]
  | cons word words inductionHypothesis =>
      obtain ⟨nonempty, isWord⟩ := areWords word (.head _)
      have noBlank : ∀ c ∈ word, Text.isBlank c = false := fun c present =>
        Bool.eq_false_iff.mpr fun blank =>
          absurd ((Text.isWord_of_isBlank blank).symm.trans (isWord c present)) (by decide)
      have further := inductionHypothesis (tight.blank (isTight_of_noBlank nonempty noBlank))
        fun word present => areWords word (.tail _ present)
      rw [spacedWords_cons]
      simpa using further

end IsDirection
end

/-! ## Sort keys -/

namespace SortKey

variable (key : SortKey)

theorem tight : IsTight key.text :=
  key.isDirection.tight_append key.item.tight

theorem isClosed : Plain.IsClosed key.text :=
  key.item.isClosed.append key.isDirection.mask_eq.2

theorem mask_text : mask key.text = mask key.item.text ++ key.direction := by
  rw [text, mask_append key.item.isClosed, key.isDirection.mask_eq.1]

theorem isShown : IsShown key.text (mask key.text) := by
  obtain ⟨first, last⟩ := ends_mask key.isClosed
  refine ⟨by simp, ?_, ?_, ?_, ?_⟩
  · rw [← List.length_pos_iff, length_mask, List.length_pos_iff]
    exact key.tight.nonempty
  · rw [first]
    exact key.tight.starts
  · rw [last]
    exact key.tight.ends
  · rw [mask_text, List.mem_append, not_or]
    exact ⟨key.item.noComma, key.isDirection.not_mem (by decide) (by decide)⟩

theorem noComment : hasCommentMark key.text = false := by
  obtain ⟨words, direction, -⟩ := key.isDirection
  cases words with
  | nil =>
      rw [text, direction, spacedWords, List.flatMap_nil, List.append_nil]
      exact key.item.noComment
  | cons word words =>
      have behind := key.isDirection.noComment
      rw [text, direction, spacedWords_cons, hasCommentMark_append_cons (.inr rfl), key.item.noComment]
      rw [direction, spacedWords_cons, ← List.nil_append (' ' :: _),
        hasCommentMark_append_cons (.inr rfl), Bool.or_eq_false_iff] at behind
      exact behind.2

/-- Neither an item nor a direction ends with a semicolon. -/
theorem noTerminator : key.text.getLast? ≠ some ';' := by
  intro last
  rw [text, List.getLast?_append] at last
  cases ending : key.direction.getLast? with
  | none =>
      rw [ending, Option.none_or, ← (ends_mask key.item.isClosed).2] at last
      exact key.item.noTerminator last
  | some c =>
      rw [ending, Option.some_or, Option.some.injEq] at last
      subst last
      exact key.isDirection.not_mem (by decide) (by decide) (List.mem_of_getLast? ending)

end SortKey
end ItemLists
end SqlReview
