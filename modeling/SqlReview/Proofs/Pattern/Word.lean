import SqlReview.Pattern.Letter
import SqlReview.Proofs.Pattern.Cover

/-!
# Words in texts

What patterns made of words, white space and single characters cover. Letters stand for word
characters whatever their case, so that a word between two edges covers exactly a maximal run of
word characters.
-/

namespace SqlReview

namespace Text

/-! ## Word characters -/

theorem le_iff_toNat_le {c d : Char} :
    c ≤ d ↔ c.toNat ≤ d.toNat := by
  rw [Char.le_def, UInt32.le_iff_toNat_le]
  rfl

theorem isWord_of_ascii
    {c : Char}
    (ascii : c.toNat < 0x80) :
    isWord c =
      (c = '_' || ('0' ≤ c && c ≤ '9') || ('A' ≤ c && c ≤ 'Z') || ('a' ≤ c && c ≤ 'z')) := by
  rw [isWord, isAlphanumeric, if_pos ascii]
  simp only [Bool.or_assoc]

theorem toNat_lt_of_le
    {c d : Char}
    (le : c ≤ d)
    (ascii : d.toNat < 0x80) :
    c.toNat < 0x80 :=
  Nat.lt_of_le_of_lt (le_iff_toNat_le.mp le) ascii

theorem ascii_of_between
    {c first last : Char}
    (between : (first ≤ c && c ≤ last) = true)
    (ascii : last.toNat < 0x80) :
    c.toNat < 0x80 := by
  rw [Bool.and_eq_true, decide_eq_true_eq, decide_eq_true_eq] at between
  exact toNat_lt_of_le between.2 ascii

/-- What holds of every character of a text is decided along the text. The priority is over the search
through all characters there are. -/
instance (priority := 2000) {property : Char → Prop} [DecidablePred property] (text : Text) :
    Decidable (∀ c ∈ text, property c) :=
  List.decidableBAll property text

/-- What holds of the first 128 code points holds of every character among them. -/
theorem forall_ascii
    {property : Char → Prop}
    (each : ∀ point < 0x80, property (Char.ofNat point))
    (c : Char)
    (ascii : c.toNat < 0x80) :
    property c := by
  have here := each c.toNat ascii
  rwa [Char.ofNat_toNat] at here

/-- What stands for a small letter when case is ignored can stand inside a word. -/
theorem isWord_of_foldLetter
    {c : Char}
    (isLetter : 'a' ≤ foldLetter c ∧ foldLetter c ≤ 'z') :
    isWord c = true := by
  unfold foldLetter at isLetter
  split at isLetter
  · rename_i capital
    simp only [Bool.and_eq_true, decide_eq_true_eq] at capital
    simp [isWord_of_ascii (toNat_lt_of_le capital.2 (by decide)), capital]
  · split at isLetter
    · rename_i turkish
      simp only [Bool.or_eq_true, decide_eq_true_eq] at turkish
      rcases turkish with rfl | rfl <;> decide +kernel
    · split at isLetter
      · rename_i longS
        subst longS
        decide +kernel
      · split at isLetter
        · rename_i kelvin
          subst kelvin
          decide +kernel
        · simp [isWord_of_ascii (toNat_lt_of_le isLetter.2 (by decide)), isLetter]

/-- Only small letters have other characters standing for them. -/
theorem eq_of_foldLetter
    {c d : Char}
    (folds : foldLetter c = d)
    (noLetter : ¬('a' ≤ d ∧ d ≤ 'z')) :
    c = d := by
  unfold foldLetter at folds
  split at folds
  · rename_i capital
    subst folds
    refine absurd ?_ noLetter
    have ascii := ascii_of_between capital (by decide)
    clear noLetter
    revert capital
    apply forall_ascii _ c ascii
    decide +kernel
  · split at folds
    · exact absurd (folds ▸ by decide) noLetter
    · split at folds
      · exact absurd (folds ▸ by decide) noLetter
      · split at folds
        · exact absurd (folds ▸ by decide) noLetter
        · exact folds

theorem eq_of_map_foldLetter
    {run word : Text}
    (folds : run.map foldLetter = word)
    (noLetters : word.all (fun c => !('a' ≤ c && c ≤ 'z')) = true) :
    run = word := by
  subst folds
  refine (List.map_id' run).symm.trans (List.map_congr_left fun c present => ?_)
  have noLetter := List.all_eq_true.mp noLetters _ (List.mem_map_of_mem present)
  refine eq_of_foldLetter rfl fun isLetter => ?_
  simp [isLetter] at noLetter

/-- Whether a text is a word in small letters. -/
def IsSmallWord (word : Text) : Prop :=
  word ≠ [] ∧ word.all (fun c => 'a' ≤ c && c ≤ 'z') = true

instance (word : Text) : Decidable (IsSmallWord word) :=
  inferInstanceAs (Decidable (_ ∧ _))

theorem IsSmallWord.isWord_of_mem
    {word run : Text}
    (isSmallWord : IsSmallWord word)
    (folds : run.map foldLetter = word)
    {c : Char}
    (present : c ∈ run) :
    isWord c = true := by
  have isLetter := List.all_eq_true.mp isSmallWord.2 (foldLetter c)
    (folds ▸ List.mem_map_of_mem present)
  rw [Bool.and_eq_true, decide_eq_true_eq, decide_eq_true_eq] at isLetter
  exact isWord_of_foldLetter isLetter

theorem IsSmallWord.ne_nil
    {word run : Text}
    (isSmallWord : IsSmallWord word)
    (folds : run.map foldLetter = word) :
    run ≠ [] := by
  rintro rfl
  exact isSmallWord.1 folds.symm

theorem IsSmallWord.isWord_lastOr
    {word run : Text}
    (isSmallWord : IsSmallWord word)
    (folds : run.map foldLetter = word)
    (before : Option Char) :
    (lastOr before run).any isWord = true := by
  have nonempty := isSmallWord.ne_nil folds
  rw [lastOr, List.getLast?_eq_some_getLast nonempty]
  exact isSmallWord.isWord_of_mem folds (List.getLast_mem nonempty)

/-- The first and the last character of a word belong to words. -/
theorem IsSmallWord.isWord_ends
    {word run : Text}
    (isSmallWord : IsSmallWord word)
    (folds : run.map foldLetter = word) :
    run.head?.any isWord = true ∧ run.getLast?.any isWord = true := by
  obtain ⟨c, tail, rfl⟩ := List.exists_cons_of_ne_nil (isSmallWord.ne_nil folds)
  refine ⟨isSmallWord.isWord_of_mem folds (.head _), ?_⟩
  rw [List.getLast?_eq_some_getLast (List.cons_ne_nil c tail)]
  exact isSmallWord.isWord_of_mem folds (List.getLast_mem _)

theorem IsSmallWord.isWord_head?
    {word run : Text}
    (isSmallWord : IsSmallWord word)
    (folds : run.map foldLetter = word)
    (rest : Text) :
    (run ++ rest).head?.any isWord = true := by
  obtain ⟨c, tail, rfl⟩ := List.exists_cons_of_ne_nil (isSmallWord.ne_nil folds)
  exact isSmallWord.isWord_of_mem folds (.head _)

end Text
namespace Pattern

variable {before : Option Char} {run rest : Text}

/-! ## Derived forms -/

@[simp] theorem covers_nothing :
    nothing.Covers before run rest ↔ run = [] := Iff.rfl

@[simp] theorem covers_many {accepts : Char → Bool} :
    (many accepts).Covers before run rest ↔ ∀ c ∈ run, accepts c = true := Iff.rfl

@[simp] theorem covers_all_nil :
    (all []).Covers before run rest ↔ run = [] := Iff.rfl

theorem covers_all_cons
    {first : Pattern}
    {others : List Pattern} :
    (all (first :: others)).Covers before run rest ↔
      ∃ left right, run = left ++ right ∧ first.Covers before left (right ++ rest) ∧
        (all others).Covers (Text.lastOr before left) right rest := Iff.rfl

theorem covers_any
    {patterns : List Pattern}
    (nonempty : patterns ≠ []) :
    (any patterns).Covers before run rest ↔
      ∃ pattern ∈ patterns, pattern.Covers before run rest := by
  match patterns with
  | [] => exact absurd rfl nonempty
  | [last] => simp [any]
  | first :: second :: others =>
      change first.Covers before run rest ∨ (any (second :: others)).Covers before run rest ↔ _
      rw [covers_any (List.cons_ne_nil second others)]
      simp

theorem covers_char {c : Char} :
    (char c).Covers before run rest ↔ run = [c] := by
  simp [char, Covers]

theorem covers_letter {c : Char} :
    (letter c).Covers before run rest ↔ ∃ found, run = [found] ∧ Text.foldLetter found = c := by
  simp [letter, Covers]

theorem covers_letters {word : Text} :
    (letters word).Covers before run rest ↔ run.map Text.foldLetter = word := by
  induction word generalizing before run with
  | nil => simp [letters]
  | cons c word inductionHypothesis =>
      change (all (letter c :: word.map letter)).Covers before run rest ↔ _
      rw [covers_all_cons]
      constructor
      · rintro ⟨left, right, rfl, head, tail⟩
        obtain ⟨found, rfl, rfl⟩ := covers_letter.mp head
        rw [List.map_append, inductionHypothesis.mp tail]
        rfl
      · intro equal
        obtain ⟨found, right, rfl, rfl, tail⟩ := List.map_eq_cons_iff.mp equal
        exact ⟨[found], right, rfl, covers_letter.mpr ⟨found, rfl, rfl⟩,
          inductionHypothesis.mpr tail⟩

/-! ## Sequences -/

theorem covers_char_cons
    {c : Char}
    {others : List Pattern} :
    (all (char c :: others)).Covers before run rest ↔
      ∃ right, run = c :: right ∧ (all others).Covers (some c) right rest := by
  simp only [covers_all_cons, covers_char]
  constructor
  · rintro ⟨_, right, rfl, rfl, covered⟩
    exact ⟨right, rfl, covered⟩
  · rintro ⟨right, rfl, covered⟩
    exact ⟨[c], right, rfl, rfl, covered⟩

theorem covers_blanks_cons {others : List Pattern} :
    (all (blanks :: others)).Covers before run rest ↔
      ∃ lead right, run = lead ++ right ∧ (∀ c ∈ lead, Text.isBlank c = true) ∧
        (all others).Covers (Text.lastOr before lead) right rest := Iff.rfl

theorem covers_letters_cons
    {word : Text}
    {others : List Pattern} :
    (all (letters word :: others)).Covers before run rest ↔
      ∃ left right, run = left ++ right ∧ left.map Text.foldLetter = word ∧
        (all others).Covers (Text.lastOr before left) right rest := by
  simp only [covers_all_cons, covers_letters]

theorem covers_someBlanks :
    someBlanks.Covers before run rest ↔ run ≠ [] ∧ ∀ c ∈ run, Text.isBlank c = true := by
  constructor
  · rintro ⟨_, others, rfl, ⟨c, rfl, blank⟩, othersBlank⟩
    exact ⟨by simp, by simpa [blank] using othersBlank⟩
  · rintro ⟨nonempty, allBlank⟩
    obtain ⟨c, others, rfl⟩ := List.exists_cons_of_ne_nil nonempty
    exact ⟨[c], others, rfl, ⟨c, rfl, allBlank c (.head _)⟩,
      fun d present => allBlank d (.tail _ present)⟩

/-! ## Words between edges -/

theorem covers_edge :
    edge.Covers before run rest ↔
      run = [] ∧ before.any Text.isWord ≠ rest.head?.any Text.isWord := by
  simp [Covers, Place.isWordEdge]

/-- An edge in front of a word: no word character stands before it. -/
theorem covers_edge_letters
    {word : Text}
    {others : List Pattern}
    (isSmallWord : word.IsSmallWord) :
    (all (edge :: letters word :: others)).Covers before run rest ↔
      before.any Text.isWord = false ∧ ∃ left right, run = left ++ right ∧
        left.map Text.foldLetter = word ∧
        (all others).Covers (Text.lastOr before left) right rest := by
  rw [covers_all_cons]
  simp only [covers_edge, covers_letters_cons]
  constructor
  · rintro ⟨_, _, rfl, ⟨rfl, isEdge⟩, left, right, rfl, folds, covered⟩
    rw [List.append_assoc, isSmallWord.isWord_head? folds] at isEdge
    exact ⟨by simpa using isEdge, left, right, rfl, folds, covered⟩
  · rintro ⟨outside, left, right, rfl, folds, covered⟩
    refine ⟨[], left ++ right, rfl, ⟨rfl, ?_⟩, left, right, rfl, folds, covered⟩
    rw [outside, List.append_assoc, isSmallWord.isWord_head? folds]
    decide

/-- An edge behind a word: no word character follows it. -/
theorem covers_edge_of_wordBefore
    {others : List Pattern}
    (wordBefore : before.any Text.isWord = true) :
    (all (edge :: others)).Covers before run rest ↔
      (run ++ rest).head?.any Text.isWord = false ∧ (all others).Covers before run rest := by
  simp only [covers_all_cons, covers_edge, wordBefore]
  constructor
  · rintro ⟨_, right, rfl, ⟨rfl, isEdge⟩, covered⟩
    exact ⟨by simpa using isEdge, covered⟩
  · rintro ⟨outside, covered⟩
    refine ⟨[], run, rfl, ⟨rfl, ?_⟩, covered⟩
    rw [outside]
    decide

theorem covers_letters_edge
    {word : Text}
    {others : List Pattern}
    (isSmallWord : word.IsSmallWord) :
    (all (letters word :: edge :: others)).Covers before run rest ↔
      ∃ left right, run = left ++ right ∧ left.map Text.foldLetter = word ∧
        (right ++ rest).head?.any Text.isWord = false ∧
        (all others).Covers (Text.lastOr before left) right rest := by
  rw [covers_letters_cons]
  constructor
  · rintro ⟨left, right, rfl, folds, covered⟩
    rw [covers_edge_of_wordBefore (isSmallWord.isWord_lastOr folds before)] at covered
    exact ⟨left, right, rfl, folds, covered⟩
  · rintro ⟨left, right, rfl, folds, covered⟩
    refine ⟨left, right, rfl, folds, ?_⟩
    rwa [covers_edge_of_wordBefore (isSmallWord.isWord_lastOr folds before)]

/-- Edges around what starts and ends with word characters: no word character stands next to
it. -/
theorem covers_between_edges
    {body : Pattern}
    (ends : ∀ before run rest, body.Covers before run rest →
      run.head?.any Text.isWord = true ∧ run.getLast?.any Text.isWord = true) :
    (all [edge, body, edge]).Covers before run rest ↔
      body.Covers before run rest ∧ before.any Text.isWord = false ∧
        rest.head?.any Text.isWord = false := by
  have front {run : Text} (first : run.head?.any Text.isWord = true) (others : Text) :
      (run ++ others).head?.any Text.isWord = true := by
    cases run with
    | nil => simp at first
    | cons c run => exact first
  have behind {run : Text} (last : run.getLast?.any Text.isWord = true) :
      (Text.lastOr before run).any Text.isWord = true := by
    cases lastChar : run.getLast? with
    | none => simp [lastChar] at last
    | some c => simpa [Text.lastOr, lastChar] using last
  simp only [covers_all_cons, covers_edge, covers_all_nil]
  constructor
  · rintro ⟨_, _, rfl, ⟨rfl, edgeBefore⟩, run, _, rfl, covered, _, _, rfl, ⟨rfl, edgeBehind⟩, rfl⟩
    obtain ⟨first, last⟩ := ends _ _ _ covered
    rw [List.append_assoc, front first] at edgeBefore
    rw [Text.lastOr_nil, behind last] at edgeBehind
    simp only [List.append_nil, List.nil_append, Text.lastOr_nil] at covered edgeBehind ⊢
    exact ⟨covered, by simpa using edgeBefore, by simpa using edgeBehind⟩
  · rintro ⟨covered, outside, outsideBehind⟩
    obtain ⟨first, last⟩ := ends _ _ _ covered
    refine ⟨[], run, rfl, ⟨rfl, ?_⟩, run, [], by simp, covered, [], [], rfl, ⟨rfl, ?_⟩, rfl⟩
    · rw [outside, front first]
      decide
    · rw [Text.lastOr_nil, behind last, List.nil_append, outsideBehind]
      decide

/-- A word between edges covers what spells it, if no word character stands next to it. -/
theorem covers_word
    {word : Text}
    (isSmallWord : word.IsSmallWord) :
    (Pattern.word word).Covers before run rest ↔
      run.map Text.foldLetter = word ∧ before.any Text.isWord = false ∧
        rest.head?.any Text.isWord = false := by
  rw [Pattern.word, covers_between_edges, covers_letters]
  intro before run rest covered
  exact isSmallWord.isWord_ends (covers_letters.mp covered)

end Pattern
end SqlReview
