import SqlReview.Proofs.Plain.Grammar
import SqlReview.Proofs.Query.Nest
import SqlReview.Text.Blank

/-!
# Pieces of plain queries

What all parts of a plain query have in common: they use few characters, have single blanks inside
and none at their ends, leave no parenthesis and no literal open, and contain only certain reserved
words. Pieces with a separator between them are a piece.
-/

namespace SqlReview

namespace Plain

open Query

/-! ## Characters -/

/-- Whether a character can stand in a plain query. So can a dollar sign in the names of others, and an
exclamation mark in their operators. -/
def isQueryChar (c : Char) : Bool :=
  isNameChar c || [' ', ',', '.', '*', '=', '<', '>', '\'', '%', '(', ')', '$', '!'].contains c

theorem ascii_of_isNameChar
    {c : Char}
    (isName : isNameChar c = true) :
    c.toNat < 128 := by
  simp only [isNameChar, startsPlainIdentifier, Bool.or_eq_true, Bool.and_eq_true,
    decide_eq_true_eq] at isName
  rcases isName with ((⟨-, le⟩ | ⟨-, le⟩) | rfl) | ⟨-, le⟩
  · exact Text.toNat_lt_of_le le (by decide)
  · exact Text.toNat_lt_of_le le (by decide)
  · decide
  · exact Text.toNat_lt_of_le le (by decide)

theorem ascii_of_isQueryChar
    {c : Char}
    (isQuery : isQueryChar c = true) :
    c.toNat < 128 := by
  rcases Bool.or_eq_true _ _ ▸ isQuery with isName | isSign
  · exact ascii_of_isNameChar isName
  · have signs : ∀ d ∈ [' ', ',', '.', '*', '=', '<', '>', '\'', '%', '(', ')', '$', '!'],
        d.toNat < 128 := by
      simp
    exact signs c (List.contains_iff_mem.mp isSign)

/-- The characters of a plain query are neither those of comments nor semicolons, and only plain
blanks are white space. -/
theorem of_isQueryChar
    {c : Char}
    (isQuery : isQueryChar c = true) :
    (c ≠ '-' ∧ c ≠ '/' ∧ c ≠ '#' ∧ c ≠ ';') ∧ (Text.isBlank c = true → c = ' ') := by
  have ascii := ascii_of_isQueryChar isQuery
  revert isQuery
  apply Text.forall_ascii _ c ascii
  decide

/-- The characters of a name belong to words and are none of the marks of a query. -/
theorem of_isNameChar
    {c : Char}
    (isName : isNameChar c = true) :
    Text.isWord c = true ∧ Text.isBlank c = false ∧ (c ≠ '\'' ∧ c ≠ '(' ∧ c ≠ ')' ∧ c ≠ '*') := by
  have ascii := ascii_of_isNameChar isName
  revert isName
  apply Text.forall_ascii _ c ascii
  decide

/-! ## White space -/

/-- A plain blank is white space. -/
theorem isBlank_of_mem
    {c : Char}
    (present : c ∈ [' ']) :
    Text.isBlank c = true := by
  obtain rfl := List.mem_singleton.mp present
  decide

theorem covers_blank
    (before : Option Char)
    (rest : Text) :
    Pattern.someBlanks.Covers before [' '] rest :=
  Pattern.covers_someBlanks.mpr ⟨List.cons_ne_nil ' ' [], fun _ => isBlank_of_mem⟩

/-- Whether a text has single blanks, and none at its ends. -/
structure IsTight (text : Text) : Prop where
  /-- The text is not empty. -/
  nonempty : text ≠ []
  /-- The last character is not white space. -/
  ends : text.getLast?.any Text.isBlank = false
  /-- Putting white space together leaves the text as it is, whatever stands around it. -/
  single : ∀ afterBlank rest,
    Text.collapseFrom afterBlank (text ++ rest) = text ++ Text.collapseFrom false rest

theorem collapseFrom_of_noBlank
    {c : Char}
    (noBlank : Text.isBlank c = false)
    (afterBlank : Bool)
    (rest : Text) :
    Text.collapseFrom afterBlank (c :: rest) = c :: Text.collapseFrom false rest := by
  rw [Text.collapseFrom, if_neg (by simp [noBlank])]

theorem isTight_of_noBlank
    {text : Text}
    (nonempty : text ≠ [])
    (noBlank : ∀ c ∈ text, Text.isBlank c = false) :
    IsTight text := by
  have run (text rest : Text) (noBlank : ∀ c ∈ text, Text.isBlank c = false) :
      Text.collapseFrom false (text ++ rest) = text ++ Text.collapseFrom false rest := by
    induction text with
    | nil => rfl
    | cons c text inductionHypothesis =>
        rw [List.cons_append, collapseFrom_of_noBlank (noBlank c (.head _)),
          inductionHypothesis fun d present => noBlank d (.tail _ present)]
        rfl
  refine ⟨nonempty, ?_, ?_⟩
  · rw [List.getLast?_eq_some_getLast nonempty]
    exact noBlank _ (List.getLast_mem nonempty)
  · intro afterBlank rest
    obtain ⟨c, text, rfl⟩ := List.exists_cons_of_ne_nil nonempty
    rw [List.cons_append, collapseFrom_of_noBlank (noBlank c (.head _)),
      run text rest fun d present => noBlank d (.tail _ present)]
    rfl

theorem length_collapseFrom_le
    (afterBlank : Bool)
    (text : Text) :
    (Text.collapseFrom afterBlank text).length ≤ text.length := by
  induction text generalizing afterBlank with
  | nil => exact Nat.le_refl 0
  | cons c text inductionHypothesis =>
      rw [Text.collapseFrom]
      split
      · split
        · exact Nat.le_succ_of_le (inductionHypothesis true)
        · exact Nat.succ_le_succ (inductionHypothesis true)
      · exact Nat.succ_le_succ (inductionHypothesis false)

/-- The first character is not white space either, since it would be left out behind a blank. -/
theorem IsTight.starts
    {text : Text}
    (tight : IsTight text) :
    text.head?.any Text.isBlank = false := by
  cases text with
  | nil => rfl
  | cons c text =>
      refine Bool.eq_false_iff.mpr fun isBlank => ?_
      have dropped : Text.collapseFrom true (c :: text) = Text.collapseFrom true text := by
        rw [Text.collapseFrom, if_pos (show Text.isBlank c = true from isBlank), if_pos rfl]
      have single := congrArg List.length (tight.single true [])
      have shorter := length_collapseFrom_le true text
      rw [List.append_nil, dropped, List.length_append, List.length_cons] at single
      omega

theorem IsTight.append
    {first second : Text}
    (tight : IsTight first)
    (secondTight : IsTight second) :
    IsTight (first ++ second) := by
  refine ⟨by simp [tight.nonempty], ?_, ?_⟩
  · rw [List.getLast?_append_of_ne_nil _ secondTight.nonempty]
    exact secondTight.ends
  · intro afterBlank rest
    rw [List.append_assoc, tight.single, secondTight.single, List.append_assoc]

theorem IsTight.blank
    {first second : Text}
    (tight : IsTight first)
    (secondTight : IsTight second) :
    IsTight (first ++ ' ' :: second) := by
  have isBlank : Text.isBlank ' ' = true := by decide
  refine ⟨by simp, ?_, ?_⟩
  · rw [List.append_cons, List.getLast?_append_of_ne_nil _ secondTight.nonempty]
    exact secondTight.ends
  · intro afterBlank rest
    rw [List.append_assoc, tight.single, List.cons_append, Text.collapseFrom, if_pos isBlank]
    simp [secondTight.single]

/-- In front of another text, white space is put together as it is alone. -/
theorem collapseFrom_append
    {text : Text}
    (ends : text.getLast?.any Text.isBlank = false)
    (nonempty : text ≠ [])
    (afterBlank : Bool)
    (rest : Text) :
    Text.collapseFrom afterBlank (text ++ rest) =
      Text.collapseFrom afterBlank text ++ Text.collapseFrom false rest := by
  induction text generalizing afterBlank with
  | nil => exact absurd rfl nonempty
  | cons c text inductionHypothesis =>
      cases text with
      | nil =>
          have noBlank : Text.isBlank c = false := ends
          rw [List.singleton_append, collapseFrom_of_noBlank noBlank, collapseFrom_of_noBlank noBlank]
          rfl
      | cons d text =>
          rw [List.getLast?_cons_cons] at ends
          have behind := inductionHypothesis ends (List.cons_ne_nil d text)
          rw [List.cons_append, Text.collapseFrom, Text.collapseFrom, behind, behind]
          split
          · split <;> rfl
          · rfl

/-- A text is tight if putting its white space together leaves it as it is. -/
theorem isTight_of_collapse
    {text : Text}
    (nonempty : text ≠ [])
    (starts : text.head?.any Text.isBlank = false)
    (ends : text.getLast?.any Text.isBlank = false)
    (collapsed : Text.collapse text = text) :
    IsTight text := by
  refine ⟨nonempty, ends, fun afterBlank rest => ?_⟩
  have same : Text.collapseFrom afterBlank text = text := by
    obtain ⟨c, others, rfl⟩ := List.exists_cons_of_ne_nil nonempty
    have noBlank : Text.isBlank c = false := starts
    rw [collapseFrom_of_noBlank noBlank, ← collapseFrom_of_noBlank noBlank false]
    exact collapsed
  rw [collapseFrom_append ends nonempty, same]

/-- If white space is put together already, a blank stands behind another character, and what follows
it does not start with white space. -/
theorem of_collapseFrom_cons
    {afterBlank : Bool}
    {c : Char}
    {rest : Text}
    (same : Text.collapseFrom afterBlank (c :: rest) = c :: rest) :
    Text.collapseFrom (Text.isBlank c) rest = rest ∧
      (Text.isBlank c = true → c = ' ' ∧ afterBlank = false) := by
  rw [Text.collapseFrom] at same
  cases blank : Text.isBlank c with
  | false =>
      rw [blank, if_neg Bool.false_ne_true] at same
      exact ⟨(List.cons.inj same).2, fun isBlank => absurd isBlank Bool.false_ne_true⟩
  | true =>
      rw [blank, if_pos rfl] at same
      cases afterBlank with
      | true =>
          have shorter := length_collapseFrom_le true rest
          rw [if_pos rfl] at same
          rw [same, List.length_cons] at shorter
          omega
      | false =>
          rw [if_neg Bool.false_ne_true] at same
          exact ⟨(List.cons.inj same).2, fun _ => ⟨(List.cons.inj same).1.symm, rfl⟩⟩

/-- White space that stands in single blanks is no other character, and none stands behind it. -/
theorem single_of_collapse
    {afterBlank : Bool}
    {lead rest : Text}
    {c : Char}
    (same : Text.collapseFrom afterBlank (lead ++ c :: rest) = lead ++ c :: rest)
    (blank : Text.isBlank c = true) :
    c = ' ' ∧ rest.head?.any Text.isBlank = false := by
  induction lead generalizing afterBlank with
  | nil =>
      obtain ⟨behind, isBlank⟩ := of_collapseFrom_cons same
      refine ⟨(isBlank blank).1, ?_⟩
      rw [blank] at behind
      cases rest with
      | nil => rfl
      | cons d rest =>
          refine Bool.eq_false_iff.mpr fun another => ?_
          exact absurd ((of_collapseFrom_cons behind).2 another).2 (by decide)
  | cons d lead inductionHypothesis =>
      exact inductionHypothesis (of_collapseFrom_cons same).1

/-! ## Parentheses and literals -/

/-- Whether a text leaves no parenthesis and no literal open. -/
def IsClosed (text : Text) : Prop :=
  Depth.outermost.after text = .outermost

instance (text : Text) : Decidable (IsClosed text) :=
  inferInstanceAs (Decidable (_ = _))

theorem mask_append
    {first : Text}
    (closed : IsClosed first)
    (second : Text) :
    mask (first ++ second) = mask first ++ mask second := by
  rw [mask, maskFrom_append, closed]
  rfl

theorem IsClosed.append
    {first second : Text}
    (closed : IsClosed first)
    (secondClosed : IsClosed second) :
    IsClosed (first ++ second) := by
  rw [IsClosed, Depth.after_append, closed, secondClosed]

/-- Characters other than quotes and parentheses are their own mask. -/
theorem mask_of_isPlain
    {text : Text}
    (isPlain : ∀ c ∈ text, c ≠ '\'' ∧ c ≠ '(' ∧ c ≠ ')') :
    mask text = text ∧ IsClosed text := by
  induction text with
  | nil => exact ⟨rfl, rfl⟩
  | cons c text inductionHypothesis =>
      obtain ⟨noQuote, noOpen, noClose⟩ := isPlain c (.head _)
      obtain ⟨masked, closed⟩ := inductionHypothesis fun d present => isPlain d (.tail _ present)
      have step : Depth.outermost.step c = .outermost := by
        simp [Depth.step, noQuote, noOpen, noClose, Depth.outermost]
      have shows : Depth.outermost.shows c = true := by
        simp [Depth.shows, noQuote, noClose, Depth.outermost]
      rw [mask, maskFrom_cons, shows, step, IsClosed, Depth.after_cons, step]
      exact ⟨congrArg (c :: ·) masked, closed⟩

/-- Characters that neither show nor lead out of a place are blank in the mask. -/
theorem maskFrom_of_hidden
    {depth : Depth}
    {text : Text}
    (hidden : ∀ c ∈ text, depth.shows c = false ∧ depth.step c = depth) :
    maskFrom depth text = List.replicate text.length ' ' ∧ depth.after text = depth := by
  induction text with
  | nil => exact ⟨rfl, rfl⟩
  | cons c text inductionHypothesis =>
      obtain ⟨shows, step⟩ := hidden c (.head _)
      obtain ⟨masked, after⟩ := inductionHypothesis fun d present => hidden d (.tail _ present)
      rw [maskFrom_cons, Depth.after_cons, shows, step, masked, after]
      exact ⟨rfl, rfl⟩

/-- A mask has no other characters than those of the text, blanks aside. -/
theorem mem_of_mem_maskFrom
    {depth : Depth}
    {text : Text}
    {c : Char}
    (present : c ∈ maskFrom depth text) :
    c = ' ' ∨ c ∈ text := by
  induction text generalizing depth with
  | nil => exact absurd present List.not_mem_nil
  | cons d text inductionHypothesis =>
      rcases List.mem_cons.mp present with rfl | later
      · split
        · exact .inr (.head _)
        · exact .inl rfl
      · exact (inductionHypothesis later).imp_right (.tail _)

/-- A text between two marks of which the first opens what the second closes. -/
theorem mask_enclosed
    {opening closing : Char}
    (isPair : (opening, closing) = ('\'', '\'') ∨ (opening, closing) = ('(', ')'))
    {inner : Text}
    (isPlain : ∀ c ∈ inner, c ≠ '\'' ∧ c ≠ '(' ∧ c ≠ ')') :
    mask (opening :: (inner ++ [closing])) =
        opening :: (List.replicate inner.length ' ' ++ [closing]) ∧
      IsClosed (opening :: (inner ++ [closing])) := by
  have inside : ∃ depth, Depth.outermost.step opening = depth ∧
      Depth.outermost.shows opening = true ∧ depth.shows closing = true ∧
      depth.step closing = .outermost ∧
      ∀ c ∈ inner, depth.shows c = false ∧ depth.step c = depth := by
    rcases isPair with equal | equal <;> obtain ⟨rfl, rfl⟩ := Prod.mk.inj equal
    · refine ⟨⟨0, true⟩, rfl, rfl, rfl, rfl, fun c present => ?_⟩
      obtain ⟨noQuote, -, -⟩ := isPlain c present
      simp [Depth.shows, Depth.step, noQuote]
    · refine ⟨⟨1, false⟩, rfl, rfl, rfl, rfl, fun c present => ?_⟩
      obtain ⟨noQuote, noOpen, noClose⟩ := isPlain c present
      simp [Depth.shows, Depth.step, noQuote, noOpen, noClose]
  obtain ⟨depth, opens, shows, closingShows, closes, hidden⟩ := inside
  obtain ⟨masked, after⟩ := maskFrom_of_hidden hidden
  rw [mask, maskFrom_cons, maskFrom_append, IsClosed, Depth.after_cons, Depth.after_append, opens,
    shows, masked, after, maskFrom_cons, closingShows, Depth.after_cons, closes]
  exact ⟨rfl, rfl⟩

/-! ## Keywords -/

/-- The reserved words of a text in order. -/
def keywords (text : Text) : List Text :=
  (Text.words text).filter (reservedWords.contains ·)

theorem mem_keywords
    {word text : Text}
    (reserved : word ∈ reservedWords) :
    word ∈ keywords text ↔ word ∈ Text.words text := by
  simp [keywords, reserved]

theorem keywords_append_cons
    {c : Char}
    (noWord : Text.isWord c = false)
    (first second : Text) :
    keywords (first ++ c :: second) = keywords first ++ keywords second := by
  rw [keywords, Text.words_append_cons noWord, List.filter_append]
  rfl

theorem keywords_cons
    {c : Char}
    (noWord : Text.isWord c = false)
    (rest : Text) :
    keywords (c :: rest) = keywords rest :=
  keywords_append_cons noWord [] rest

theorem keywords_of_noWord
    {text : Text}
    (noWord : ∀ c ∈ text, Text.isWord c = false) :
    keywords text = [] := by
  rw [keywords, Text.words_of_noWord noWord]
  rfl

/-- Blanks are no words. -/
theorem keywords_enclosed_blanks
    {opening closing : Char}
    (noWord : Text.isWord opening = false ∧ Text.isWord closing = false)
    (count : Nat) :
    keywords (opening :: (List.replicate count ' ' ++ [closing])) = [] := by
  refine keywords_of_noWord fun c present => ?_
  simp only [List.mem_cons, List.mem_append, List.not_mem_nil, or_false] at present
  rcases present with rfl | inBlanks | rfl
  · exact noWord.1
  · rw [List.eq_of_mem_replicate inBlanks]
    decide
  · exact noWord.2

/-! ## Pieces -/

/-- What can stand between two pieces. -/
def separators : List Text :=
  [" ", ".", ",", ", "]

/-- Whether a text can be a part of a plain query with certain reserved words on its top level. -/
structure IsOutline (found : List Text) (text : Text) : Prop where
  /-- The text has only characters of plain queries. -/
  chars : ∀ c ∈ text, isQueryChar c = true
  /-- The text has single blanks, and none at its ends. -/
  tight : IsTight text
  /-- The text leaves nothing open. -/
  closed : IsClosed text
  /-- The text has these reserved words on its top level. -/
  topWords : keywords (mask text) = found

/-- Whether a text can be a part of a plain query with certain reserved words, all of them on its top
level. -/
structure IsPiece (found : List Text) (text : Text) : Prop extends IsOutline found text where
  /-- The text has no other reserved words. -/
  words : keywords text = found

variable {found others : List Text} {first second separator : Text}

theorem keywords_separated
    (isSeparator : separator ∈ separators)
    (first second : Text) :
    keywords (first ++ (separator ++ second)) = keywords first ++ keywords second := by
  have blank : Text.isWord ' ' = false := by decide
  have dot : Text.isWord '.' = false := by decide
  have comma : Text.isWord ',' = false := by decide
  simp only [separators, List.mem_cons, List.not_mem_nil, or_false] at isSeparator
  rcases isSeparator with rfl | rfl | rfl | rfl
  · exact keywords_append_cons blank first second
  · exact keywords_append_cons dot first second
  · exact keywords_append_cons comma first second
  · have afterComma := keywords_append_cons comma first (' ' :: second)
    rwa [keywords_cons blank] at afterComma

/-- Two outlines with a separator between them are an outline. -/
theorem IsOutline.separated
    (isSeparator : separator ∈ separators)
    (outline : IsOutline found first)
    (secondOutline : IsOutline others second) :
    IsOutline (found ++ others) (first ++ (separator ++ second)) := by
  have each : ∀ text ∈ separators, text.all isQueryChar = true ∧ IsClosed text ∧
      mask text = text := by
    decide
  obtain ⟨chars, closed, masked⟩ := each separator isSeparator
  refine ⟨?_, ?_, outline.closed.append (closed.append secondOutline.closed), ?_⟩
  · intro c present
    rcases List.mem_append.mp present with inFirst | inRest
    · exact outline.chars c inFirst
    · rcases List.mem_append.mp inRest with inSeparator | inSecond
      · exact List.all_eq_true.mp chars c inSeparator
      · exact secondOutline.chars c inSecond
  · have sign {c : Char} (noBlank : Text.isBlank c = false) : IsTight (first ++ [c]) :=
      outline.tight.append (isTight_of_noBlank (List.cons_ne_nil c []) (by simpa using noBlank))
    simp only [separators, List.mem_cons, List.not_mem_nil, or_false] at isSeparator
    rw [← List.append_assoc]
    rcases isSeparator with rfl | rfl | rfl | rfl
    · rw [List.append_assoc]
      exact outline.tight.blank secondOutline.tight
    · exact (sign (by decide)).append secondOutline.tight
    · exact (sign (by decide)).append secondOutline.tight
    · have comma := (sign (show Text.isBlank ',' = false by decide)).blank secondOutline.tight
      simpa using comma
  · rw [mask_append outline.closed, mask_append closed, masked, keywords_separated isSeparator,
      outline.topWords, secondOutline.topWords]

/-- What holds of two texts with a separator between them, if it holds of both, holds of a text with
any number of texts behind it, each behind a separator. -/
theorem flatMap_of_separated
    {Holds : List Text → Text → Prop}
    (separated : ∀ {found others : List Text} {first second separator : Text},
      separator ∈ separators → Holds found first → Holds others second →
        Holds (found ++ others) (first ++ (separator ++ second)))
    {Item : Type}
    {separatorOf : Item → Text}
    {wordsOf : Item → List Text}
    {textOf : Item → Text}
    (areSeparators : ∀ item, separatorOf item ∈ separators)
    (each : ∀ item, Holds (wordsOf item) (textOf item))
    (start : Holds found first)
    (items : List Item) :
    Holds (found ++ items.flatMap wordsOf)
      (first ++ items.flatMap fun item => separatorOf item ++ textOf item) := by
  induction items generalizing found first with
  | nil => simpa using start
  | cons item items inductionHypothesis =>
      have longer := separated (areSeparators item) start (each item)
      have whole := inductionHypothesis longer
      simpa only [List.flatMap_cons, List.append_assoc] using whole

/-- Two pieces with a separator between them are a piece. -/
theorem IsPiece.separated
    (isSeparator : separator ∈ separators)
    (piece : IsPiece found first)
    (secondPiece : IsPiece others second) :
    IsPiece (found ++ others) (first ++ (separator ++ second)) := by
  refine ⟨piece.toIsOutline.separated isSeparator secondPiece.toIsOutline, ?_⟩
  rw [keywords_separated isSeparator, piece.words, secondPiece.words]

variable {Item : Type} {separatorOf : Item → Text} {wordsOf : Item → List Text}
  {textOf : Item → Text}

/-- An outline with further outlines behind it, each behind a separator, is an outline. -/
theorem IsOutline.flatMap
    (areSeparators : ∀ item, separatorOf item ∈ separators)
    (areOutlines : ∀ item, IsOutline (wordsOf item) (textOf item))
    (outline : IsOutline found first)
    (items : List Item) :
    IsOutline (found ++ items.flatMap wordsOf)
      (first ++ items.flatMap fun item => separatorOf item ++ textOf item) :=
  flatMap_of_separated IsOutline.separated areSeparators areOutlines outline items

/-- A piece with further pieces behind it, each behind a separator, is a piece. -/
theorem IsPiece.flatMap
    (areSeparators : ∀ item, separatorOf item ∈ separators)
    (arePieces : ∀ item, IsPiece (wordsOf item) (textOf item))
    (piece : IsPiece found first)
    (items : List Item) :
    IsPiece (found ++ items.flatMap wordsOf)
      (first ++ items.flatMap fun item => separatorOf item ++ textOf item) :=
  flatMap_of_separated IsPiece.separated areSeparators arePieces piece items

end Plain
end SqlReview
