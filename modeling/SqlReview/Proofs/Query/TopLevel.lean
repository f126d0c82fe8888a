import Mathlib.Algebra.BigOperators.Intervals
import Mathlib.Data.Finset.Lattice.Fold
import Mathlib.Order.Lattice.Nat
import SqlReview.Proofs.Literals.Views
import SqlReview.Proofs.Query.Partition

/-!
# What the mask shows

The depth of a place is the greatest surplus of opening over closing parentheses in a stretch that
ends there, literals left out. That is what a counter holds that goes up at an opening parenthesis
and down at a closing one, but never below zero. Main statement: the mask shows exactly the top
level, and a masked text is its own mask.
-/

namespace SqlReview
namespace Query

variable {text : Text} {index : Nat} {c : Char}

/-! ## Depth -/

/-- How many times a parenthesis stands between two places of a text, literals left out. -/
def parenthesisCount (text : Text) (parenthesis : Char) (start stop : Nat) : Nat :=
  ((Finset.Ico start stop).filter fun index =>
    text[index]? = some parenthesis ∧ ¬IsQuoted text index).card

/-- How many more parentheses open than close between two places of a text, literals left out. -/
def surplus (text : Text) (start stop : Nat) : Nat :=
  parenthesisCount text '(' start stop - parenthesisCount text ')' start stop

/-- How deep a place of a text is nested in parentheses: the greatest surplus of opening ones in a
stretch that ends there. -/
def nesting (text : Text) (index : Nat) : Nat :=
  (Finset.range (index + 1)).sup fun start => surplus text start index

theorem parenthesisCount_self (text : Text) (parenthesis : Char) (index : Nat) :
    parenthesisCount text parenthesis index index = 0 := by
  simp [parenthesisCount]

theorem parenthesisCount_succ
    (text : Text)
    (parenthesis : Char)
    {start : Nat}
    (inside : start ≤ index) :
    parenthesisCount text parenthesis start (index + 1) =
      parenthesisCount text parenthesis start index +
        if text[index]? = some parenthesis ∧ ¬IsQuoted text index then 1 else 0 := by
  rw [parenthesisCount, Finset.card_filter, Finset.sum_Ico_succ_top inside, ← Finset.card_filter]
  rfl

@[simp] theorem surplus_self (text : Text) (index : Nat) : surplus text index index = 0 := by
  rw [surplus, parenthesisCount_self, Nat.zero_sub]

theorem surplus_le_nesting
    {start : Nat}
    (inside : start ≤ index) :
    surplus text start index ≤ nesting text index :=
  Finset.le_sup (f := fun start => surplus text start index)
    (Finset.mem_range.mpr (Nat.lt_succ_of_le inside))

/-- Some stretch has the greatest surplus. -/
theorem exists_surplus_eq_nesting (text : Text) (index : Nat) :
    ∃ start ≤ index, surplus text start index = nesting text index := by
  obtain ⟨start, inside, greatest⟩ := Finset.exists_mem_eq_sup (Finset.range (index + 1))
    ⟨0, by simp⟩ fun start => surplus text start index
  exact ⟨start, Nat.le_of_lt_succ (Finset.mem_range.mp inside), greatest.symm⟩

/-- What bounds the surplus of all stretches, and is the surplus of one, is the depth. -/
theorem nesting_eq_of_greatest
    {depth : Nat}
    (bound : ∀ start ≤ index, surplus text start index ≤ depth)
    (reached : ∃ start ≤ index, surplus text start index = depth) :
    nesting text index = depth := by
  obtain ⟨start, inside, rfl⟩ := reached
  refine Nat.le_antisymm (Finset.sup_le fun other among => ?_) (surplus_le_nesting inside)
  exact bound other (Nat.le_of_lt_succ (Finset.mem_range.mp among))

@[simp] theorem nesting_zero (text : Text) : nesting text 0 = 0 :=
  nesting_eq_of_greatest (fun start inside => by simp [Nat.le_zero.mp inside])
    ⟨0, Nat.le_refl 0, surplus_self text 0⟩

theorem surplus_succ
    (text : Text)
    {start : Nat}
    (inside : start ≤ index) :
    surplus text start (index + 1) =
      (parenthesisCount text '(' start index +
          if text[index]? = some '(' ∧ ¬IsQuoted text index then 1 else 0) -
        (parenthesisCount text ')' start index +
          if text[index]? = some ')' ∧ ¬IsQuoted text index then 1 else 0) := by
  rw [surplus, parenthesisCount_succ text _ inside, parenthesisCount_succ text _ inside]

/-- A change of all surpluses alike is a change of the depth. -/
theorem nesting_succ_of_step
    {change : Nat → Nat}
    (monotone : Monotone change)
    (step : ∀ start ≤ index, surplus text start (index + 1) = change (surplus text start index)) :
    nesting text (index + 1) = change (nesting text index) := by
  apply nesting_eq_of_greatest
  · intro start inside
    rcases Nat.lt_or_eq_of_le inside with before | rfl
    · rw [step start (Nat.le_of_lt_succ before)]
      exact monotone (surplus_le_nesting (Nat.le_of_lt_succ before))
    · rw [surplus_self]
      exact Nat.zero_le _
  · obtain ⟨start, inside, greatest⟩ := exists_surplus_eq_nesting text index
    exact ⟨start, Nat.le_succ_of_le inside, by rw [step start inside, greatest]⟩

/-- An opening parenthesis leads one level down. -/
theorem nesting_succ_of_open
    (isOpen : text[index]? = some '(')
    (outside : ¬IsQuoted text index) :
    nesting text (index + 1) = nesting text index + 1 := by
  have step {start : Nat} (inside : start ≤ index) :
      surplus text start (index + 1) =
        parenthesisCount text '(' start index + 1 - parenthesisCount text ')' start index := by
    rw [surplus_succ text inside]
    simp [isOpen, outside]
  apply nesting_eq_of_greatest
  · intro start inside
    rcases Nat.lt_or_eq_of_le inside with before | rfl
    · have bound : surplus text start index ≤ nesting text index :=
        surplus_le_nesting (Nat.le_of_lt_succ before)
      rw [surplus] at bound
      rw [step (Nat.le_of_lt_succ before)]
      omega
    · rw [surplus_self]
      exact Nat.zero_le _
  -- A stretch in which more closes than opens is no use here; then the parenthesis alone is greatest.
  · by_cases onTop : nesting text index = 0
    · refine ⟨index, Nat.le_succ index, ?_⟩
      rw [step (Nat.le_refl index), parenthesisCount_self, parenthesisCount_self, onTop]
    · obtain ⟨start, inside, greatest⟩ := exists_surplus_eq_nesting text index
      rw [surplus] at greatest
      refine ⟨start, Nat.le_succ_of_le inside, ?_⟩
      rw [step inside]
      omega

/-- The depth is counted: an opening parenthesis leads one level down and a closing one leads up,
but never above the top level. Inside a literal nothing counts. -/
theorem nesting_succ (text : Text) (index : Nat) :
    nesting text (index + 1) =
      if IsQuoted text index then nesting text index
      else if text[index]? = some '(' then nesting text index + 1
      else if text[index]? = some ')' then nesting text index - 1
      else nesting text index := by
  split_ifs with quoted isOpen isClose
  · refine nesting_succ_of_step monotone_id fun start inside => ?_
    rw [surplus_succ text inside]
    simp [quoted, surplus]
  · exact nesting_succ_of_open isOpen quoted
  · refine nesting_succ_of_step (fun _ _ le => Nat.sub_le_sub_right le 1) fun start inside => ?_
    rw [surplus_succ text inside, surplus]
    simp [isClose, quoted, Nat.sub_sub]
  · refine nesting_succ_of_step monotone_id fun start inside => ?_
    rw [surplus_succ text inside]
    simp [isOpen, isClose, surplus]

/-- The depth of a place is the level that `mask` has reached there. -/
theorem level_after_take (text : Text) (index : Nat) :
    (Depth.outermost.after (text.take index)).level = nesting text index := by
  induction index with
  | zero => rw [nesting_zero]; rfl
  | succ index inductionHypothesis =>
      have literal := inLiteral_after_take text index
      rw [nesting_succ, List.take_add_one, Depth.after_append, ← inductionHypothesis]
      cases here : text[index]? with
      | none => simp
      | some c =>
          rw [Option.toList_some, Depth.after_cons, Depth.after_nil]
          generalize Depth.outermost.after (text.take index) = depth at literal ⊢
          obtain ⟨level, inLiteral⟩ := depth
          rcases char_cases c inLiteral with rfl | ⟨noQuote, rfl⟩ | ⟨rfl, rfl⟩ | ⟨rfl, rfl⟩ |
            ⟨noQuote, noOpen, noClose, rfl⟩
          · simp [Depth.step]
          · have quoted : IsQuoted text index := by simpa using literal
            simp [Depth.step, noQuote, quoted]
          · have outside : ¬IsQuoted text index := by simpa using literal
            simp [Depth.step, outside]
          · have outside : ¬IsQuoted text index := by simpa using literal
            simp [Depth.step, outside]
          · simp [Depth.step, noQuote, noOpen, noClose]

/-! ## The top level -/

/-- Whether a character of a text is on the top level: no parenthesis is open around it, and it is
not inside a literal, of which the quotes are no part. A closing parenthesis that leads up to the top
level is on it. -/
def IsTopLevel (text : Text) (index : Nat) : Prop :=
  (nesting text index = 0 ∧ (¬IsQuoted text index ∨ text[index]? = some '\'')) ∨
    (nesting text (index + 1) = 0 ∧ ¬IsQuoted text index ∧ text[index]? = some ')')

instance (text : Text) (index : Nat) : Decidable (IsTopLevel text index) :=
  inferInstanceAs (Decidable (_ ∨ _))

/-- `mask` shows the characters of the top level. -/
theorem shows_iff_isTopLevel (here : text[index]? = some c) :
    (Depth.outermost.after (text.take index)).shows c = true ↔ IsTopLevel text index := by
  have literal := inLiteral_after_take text index
  rw [IsTopLevel, nesting_succ, here, ← level_after_take]
  generalize Depth.outermost.after (text.take index) = depth at literal ⊢
  obtain ⟨level, inLiteral⟩ := depth
  rcases char_cases c inLiteral with rfl | ⟨noQuote, rfl⟩ | ⟨rfl, rfl⟩ | ⟨rfl, rfl⟩ |
    ⟨noQuote, noOpen, noClose, rfl⟩
  · simp [Depth.shows]
  · have quoted : IsQuoted text index := by simpa using literal
    simp [Depth.shows, noQuote, quoted]
  · have outside : ¬IsQuoted text index := by simpa using literal
    simp [Depth.shows, outside]
  · have outside : ¬IsQuoted text index := by simpa using literal
    simp [Depth.shows, outside]
    omega
  · have outside : ¬IsQuoted text index := by simpa using literal
    simp [Depth.shows, noQuote, noClose, outside]

/-- The mask keeps the characters of the top level and has a blank for every other one. -/
theorem getElem?_mask (text : Text) (index : Nat) :
    (mask text)[index]? = text[index]?.map fun c => if IsTopLevel text index then c else ' ' := by
  rw [mask, getElem?_maskFrom]
  refine Option.map_congr fun c here => ?_
  exact if_congr (shows_iff_isTopLevel here) rfl rfl

/-! ## The mask of a mask -/

namespace Depth

/-- What the mask has for a character. -/
def masked (depth : Depth) (c : Char) : Char :=
  if depth.shows c then c else ' '

/-- Where a place of the mask is nested. Inside of the outermost parentheses only blanks are left. -/
def ofMask (depth : Depth) : Depth :=
  if depth.level = 0 then depth else ⟨1, false⟩

@[simp] theorem masked_blank (depth : Depth) : depth.masked ' ' = ' ' := by
  rw [masked, ite_self]

/-- Below the top level only the parenthesis that leads up to it is shown. -/
theorem eq_close_of_shows
    {depth : Depth}
    (shows : depth.shows c = true)
    (nested : depth.level ≠ 0) :
    c = ')' ∧ depth = ⟨1, false⟩ := by
  obtain ⟨level, inLiteral⟩ := depth
  rcases char_cases c inLiteral with rfl | ⟨noQuote, rfl⟩ | ⟨rfl, rfl⟩ | ⟨rfl, rfl⟩ |
    ⟨noQuote, noOpen, noClose, rfl⟩
  · exact absurd (by simpa [Depth.shows] using shows) nested
  · simp [Depth.shows, noQuote] at shows
  · exact absurd (by simpa [Depth.shows] using shows) nested
  · have shallow : level ≤ 1 := by simpa [Depth.shows] using shows
    obtain rfl : level = 1 := Nat.le_antisymm shallow (Nat.pos_of_ne_zero nested)
    exact ⟨rfl, rfl⟩
  · exact absurd (by simpa [Depth.shows, noQuote, noClose] using shows) nested

/-- What the mask has for a character, it has for that again. -/
theorem masked_masked (depth : Depth) (c : Char) :
    depth.ofMask.masked (depth.masked c) = depth.masked c := by
  by_cases shows : depth.shows c = true
  · have shown : depth.masked c = c := if_pos shows
    rw [shown]
    by_cases onTop : depth.level = 0
    · rw [ofMask, if_pos onTop, shown]
    · obtain ⟨rfl, rfl⟩ := eq_close_of_shows shows onTop
      rfl
  · have hidden : depth.masked c = ' ' := if_neg shows
    rw [hidden, masked_blank]

/-- A step over the mask follows the step over the text. -/
theorem step_masked (depth : Depth) (c : Char) :
    depth.ofMask.step (depth.masked c) = (depth.step c).ofMask := by
  obtain ⟨level, inLiteral⟩ := depth
  rcases char_cases c inLiteral with rfl | ⟨noQuote, rfl⟩ | ⟨rfl, rfl⟩ | ⟨rfl, rfl⟩ |
    ⟨noQuote, noOpen, noClose, rfl⟩
  · rcases level with _ | level <;> simp [masked, shows, ofMask, step]
  · rcases level with _ | level <;> simp [masked, shows, ofMask, step, noQuote]
  · rcases level with _ | level <;> simp [masked, shows, ofMask, step]
  · rcases level with _ | _ | level <;> simp [masked, shows, ofMask, step]
  · rcases level with _ | level <;>
      simp [masked, shows, ofMask, step, noQuote, noOpen, noClose]

end Depth

theorem maskFrom_maskFrom (depth : Depth) (text : Text) :
    maskFrom depth.ofMask (maskFrom depth text) = maskFrom depth text := by
  induction text generalizing depth with
  | nil => rfl
  | cons c rest inductionHypothesis =>
      calc
        maskFrom depth.ofMask (maskFrom depth (c :: rest))
          = depth.ofMask.masked (depth.masked c) ::
              maskFrom (depth.ofMask.step (depth.masked c)) (maskFrom (depth.step c) rest) := rfl
        _ = depth.masked c :: maskFrom (depth.step c).ofMask (maskFrom (depth.step c) rest) := by
          rw [Depth.masked_masked, Depth.step_masked]
        _ = maskFrom depth (c :: rest) := by
          rw [inductionHypothesis]
          rfl

/-- The mask shows exactly the top level. The depth of a place is what a counter holds there that goes
up at an opening parenthesis and down at a closing one, but never below zero, literals left out. At
every place the mask keeps the character of the text just if that is a blank or on the top level, and
every other character becomes a blank. A masked text is its own mask. -/
theorem mask_shows_topLevel (text : Text) :
    (nesting text 0 = 0 ∧ ∀ index, nesting text (index + 1) =
      if IsQuoted text index then nesting text index
      else if text[index]? = some '(' then nesting text index + 1
      else if text[index]? = some ')' then nesting text index - 1
      else nesting text index) ∧
    (mask text).length = text.length ∧
    (∀ index < text.length,
      ((mask text)[index]? = text[index]? ↔ text[index]? = some ' ' ∨ IsTopLevel text index) ∧
      (¬IsTopLevel text index → (mask text)[index]? = some ' ')) ∧
    mask (mask text) = mask text := by
  refine ⟨⟨nesting_zero text, nesting_succ text⟩, length_mask text, fun index inside => ?_,
    maskFrom_maskFrom .outermost text⟩
  rw [getElem?_mask, List.getElem?_eq_getElem inside, Option.map_some]
  by_cases onTop : IsTopLevel text index
  · simp [onTop]
  · simp [onTop, eq_comm]

/-- A text with a closing parenthesis too many, a literal with a parenthesis in it, a literal inside
parentheses, and a parenthesis that is never closed. -/
theorem mask_shows_topLevel_unbalanced :
    let text : Text := "a) '(' (b 'c)' (d)) (e "
    mask text = ("a) ' ' (          ) (  " : String).toList ∧
      nesting text 15 = 1 ∧ nesting text 16 = 2 ∧ (mask text)[16]? = some ' ' ∧
      (mask text)[18]? = some ')' ∧ mask (mask text) = mask text := by
  intro text
  obtain ⟨-, -, shown, again⟩ := mask_shows_topLevel text
  refine ⟨by decide, by decide, by decide, (shown 16 (by decide)).2 (by decide), ?_, again⟩
  exact (shown 18 (by decide)).1.mpr (.inr (by decide))

end Query
end SqlReview
