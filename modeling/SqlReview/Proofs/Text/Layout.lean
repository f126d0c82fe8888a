import Mathlib.Data.List.TakeWhile
import SqlReview.Proofs.Pattern.Words
import SqlReview.Query.Normal
import SqlReview.Text.Case

/-!
# Layout

Two texts have the same layout-free content if they differ only in the white space at their
starts, in the lengths and kinds of the runs of white space inside, and in the white space and
semicolons at their ends. `SameBehind` says so by the structure of the texts from some place on,
`SameLayout` of whole texts. Main statement: a text agrees in this sense with the text that has one
plain blank for each run, and nothing at the ends.
-/

namespace SqlReview
namespace Text

/-! ## White space and semicolons -/

/-- Whether a character may stand behind a query without belonging to it. -/
def isTerminator (c : Char) : Bool :=
  isBlank c || c = ';'

/-- What holds of every code point of white space and of the semicolon holds of every character
that may stand behind a query. -/
theorem forall_isTerminator
    {property : Char → Prop}
    (each : ∀ point ∈ 0x3B :: blankPoints, property (Char.ofNat point))
    (c : Char)
    (terminator : isTerminator c = true) :
    property c := by
  have present : c.toNat ∈ 0x3B :: blankPoints := by
    rw [isTerminator, Bool.or_eq_true, decide_eq_true_eq] at terminator
    rcases terminator with blank | rfl
    · exact .tail _ (mem_blankPoints blank)
    · exact .head _
  rw [← Char.ofNat_toNat c]
  exact each c.toNat present

theorem isTerminator_of_isBlank
    {c : Char}
    (blank : isBlank c = true) :
    isTerminator c = true := by
  rw [isTerminator, blank, Bool.true_or]

theorem isWord_of_isTerminator
    {c : Char}
    (terminator : isTerminator c = true) :
    isWord c = false := by
  rw [isTerminator, Bool.or_eq_true, decide_eq_true_eq] at terminator
  rcases terminator with blank | rfl
  · exact isWord_of_isBlank blank
  · decide

/-! ## The relation -/

/-- Texts that differ only in their runs of white space and in what stands behind the query. -/
inductive SameBehind : Text → Text → Prop where
  /-- Nothing but white space and semicolons on either side. -/
  | ends {text other : Text} (terminators : ∀ c ∈ text, isTerminator c = true)
      (terminatorsToo : ∀ c ∈ other, isTerminator c = true) : SameBehind text other
  /-- The same character on both sides. -/
  | char (c : Char) {text other : Text} (same : SameBehind text other) :
      SameBehind (c :: text) (c :: other)
  /-- White space on both sides. -/
  | blanks {blanks blanksToo text other : Text}
      (nonempty : blanks ≠ []) (nonemptyToo : blanksToo ≠ [])
      (areBlank : ∀ c ∈ blanks, isBlank c = true)
      (areBlankToo : ∀ c ∈ blanksToo, isBlank c = true)
      (same : SameBehind text other) : SameBehind (blanks ++ text) (blanksToo ++ other)

/-- Texts that differ only in their runs of white space, at the start too, and in what stands behind
the query. -/
def SameLayout (text other : Text) : Prop :=
  ∃ blanks rest blanksToo restToo, text = blanks ++ rest ∧ other = blanksToo ++ restToo ∧
    (∀ c ∈ blanks, isBlank c = true) ∧ (∀ c ∈ blanksToo, isBlank c = true) ∧
    SameBehind rest restToo

namespace SameBehind

variable {text other : Text}

theorem refl (text : Text) : SameBehind text text := by
  induction text with
  | nil => exact .ends (by simp) (by simp)
  | cons c text inductionHypothesis => exact .char c inductionHypothesis

theorem symm (same : SameBehind text other) : SameBehind other text := by
  induction same with
  | ends terminators terminatorsToo => exact .ends terminatorsToo terminators
  | char c same inductionHypothesis => exact .char c inductionHypothesis
  | blanks nonempty nonemptyToo areBlank areBlankToo same inductionHypothesis =>
      exact .blanks nonemptyToo nonempty areBlankToo areBlank inductionHypothesis

theorem append
    (front : Text)
    (same : SameBehind text other) :
    SameBehind (front ++ text) (front ++ other) := by
  induction front with
  | nil => exact same
  | cons c front inductionHypothesis => exact .char c inductionHypothesis

/-- What is not part of the query on one side is not on the other. -/
theorem terminators
    (same : SameBehind text other)
    (terminators : ∀ c ∈ other, isTerminator c = true) :
    ∀ c ∈ text, isTerminator c = true := by
  induction same with
  | ends terminatorsHere => exact terminatorsHere
  | char c same inductionHypothesis =>
      rw [List.forall_mem_cons] at terminators ⊢
      exact ⟨terminators.1, inductionHypothesis terminators.2⟩
  | blanks nonempty nonemptyToo areBlank areBlankToo same inductionHypothesis =>
      rw [List.forall_mem_append] at terminators ⊢
      exact ⟨fun c present => isTerminator_of_isBlank (areBlank c present),
        inductionHypothesis terminators.2⟩

/-- What stands behind the query can be left out on either side. -/
theorem dropEnd
    {ending : Text}
    (same : SameBehind text (other ++ ending))
    (terminators : ∀ c ∈ ending, isTerminator c = true) :
    SameBehind text other := by
  generalize whole : other ++ ending = withEnding at same
  induction same generalizing other with
  | ends here there =>
      subst whole
      exact .ends here fun c present => there c (List.mem_append_left _ present)
  | @char c text behind same inductionHypothesis =>
      cases other with
      | nil =>
          rw [List.nil_append] at whole
          subst whole
          exact .ends ((char c same).terminators terminators) (by simp)
      | cons d other =>
          obtain ⟨rfl, rfl⟩ := List.cons.inj whole
          exact .char d (inductionHypothesis rfl)
  | @blanks here there text behind nonempty nonemptyToo areBlank areBlankToo same
      inductionHypothesis =>
      rcases List.append_eq_append_iff.mp whole with ⟨middle, thereEq, endingEq⟩ |
        ⟨middle, otherEq, behindEq⟩
      · -- The ending starts within the white space.
        subst thereEq endingEq
        have behindEnds := (List.forall_mem_append.mp terminators).2
        refine .ends ?_ fun c present => isTerminator_of_isBlank
          (areBlankToo c (List.mem_append_left _ present))
        exact List.forall_mem_append.mpr ⟨fun c present => isTerminator_of_isBlank
          (areBlank c present), same.terminators behindEnds⟩
      · subst otherEq
        exact .blanks nonempty nonemptyToo areBlank areBlankToo
          (inductionHypothesis behindEq.symm)

/-- White space at the start of one side can be left out, with white space at the start of the
other. -/
theorem dropStart
    {lead : Text}
    (same : SameBehind text (lead ++ other))
    (areBlank : ∀ c ∈ lead, isBlank c = true) :
    ∃ blanks rest, text = blanks ++ rest ∧ (∀ c ∈ blanks, isBlank c = true) ∧
      SameBehind rest other := by
  generalize whole : lead ++ other = full at same
  induction same generalizing lead with
  | @ends text full terminators terminatorsToo =>
      refine ⟨[], text, rfl, by simp, .ends terminators fun c present => ?_⟩
      exact terminatorsToo c (whole ▸ List.mem_append_right _ present)
  | @char c text behind same inductionHypothesis =>
      cases lead with
      | nil =>
          rw [List.nil_append] at whole
          subst whole
          exact ⟨[], c :: text, rfl, by simp, .char c same⟩
      | cons d lead =>
          obtain ⟨rfl, rfl⟩ := List.cons.inj whole
          rw [List.forall_mem_cons] at areBlank
          obtain ⟨blanks, rest, rfl, areBlankHere, behind⟩ := inductionHypothesis areBlank.2 rfl
          exact ⟨d :: blanks, rest, rfl, List.forall_mem_cons.mpr ⟨areBlank.1, areBlankHere⟩,
            behind⟩
  | @blanks here there text behind nonempty nonemptyToo areHere areThere same inductionHypothesis =>
      rcases List.append_eq_append_iff.mp whole with ⟨middle, thereEq, otherEq⟩ |
        ⟨middle, leadEq, behindEq⟩
      · -- The white space of the other side goes on behind what is left out.
        subst thereEq otherEq
        by_cases none : middle = []
        · subst none
          exact ⟨here, text, rfl, areHere, same⟩
        · exact ⟨[], here ++ text, rfl, by simp, .blanks nonempty none areHere
            (List.forall_mem_append.mp areThere).2 same⟩
      · subst leadEq
        obtain ⟨blanks, rest, rfl, areBlankHere, behind⟩ :=
          inductionHypothesis (List.forall_mem_append.mp areBlank).2 behindEq.symm
        exact ⟨here ++ blanks, rest, by simp, List.forall_mem_append.mpr ⟨areHere, areBlankHere⟩,
          behind⟩

/-- White space at the start of a text is over before a character of the query. -/
theorem exists_behind_blanks
    {front here rest : Text}
    {c : Char}
    (whole : front ++ c :: text = here ++ rest)
    (areBlank : ∀ d ∈ here, isBlank d = true)
    (solid : isTerminator c = false) :
    ∃ more, front = here ++ more ∧ rest = more ++ c :: text := by
  rcases List.append_eq_append_iff.mp whole with ⟨middle, hereEq, restEq⟩ | found
  · cases middle with
    | nil => exact ⟨[], by simpa using hereEq.symm, restEq.symm⟩
    | cons d middle =>
        obtain ⟨rfl, -⟩ := List.cons.inj restEq
        have blank := isTerminator_of_isBlank (areBlank c (by simp [hereEq]))
        exact absurd blank (by simp [solid])
  · exact found

/-- A character of the query with the white space in front of it stands on both sides. -/
theorem blanks_inv
    {blanks : Text}
    {c : Char}
    (same : SameBehind (blanks ++ c :: text) other)
    (areBlank : ∀ d ∈ blanks, isBlank d = true)
    (solid : isTerminator c = false) :
    ∃ blanksToo others, other = blanksToo ++ c :: others ∧ (∀ d ∈ blanksToo, isBlank d = true) ∧
      (blanksToo = [] ↔ blanks = []) ∧ SameBehind text others := by
  generalize whole : blanks ++ c :: text = front at same
  induction same generalizing blanks with
  | ends terminators =>
      have terminator := terminators c (whole ▸ by simp)
      exact absurd terminator (by simp [solid])
  | @char d rest other same inductionHypothesis =>
      cases blanks with
      | nil =>
          obtain ⟨rfl, rfl⟩ := List.cons.inj whole
          exact ⟨[], other, rfl, by simp, Iff.rfl, same⟩
      | cons blank blanks =>
          obtain ⟨rfl, rest⟩ := List.cons.inj whole
          rw [List.forall_mem_cons] at areBlank
          obtain ⟨blanksToo, others, rfl, areBlankToo, -, sameBehind⟩ :=
            inductionHypothesis areBlank.2 rest
          exact ⟨blank :: blanksToo, others, rfl,
            List.forall_mem_cons.mpr ⟨areBlank.1, areBlankToo⟩, by simp, sameBehind⟩
  | @blanks here there rest other nonempty nonemptyToo areHere areThere same inductionHypothesis =>
      obtain ⟨more, rfl, rfl⟩ := exists_behind_blanks whole areHere solid
      obtain ⟨blanksToo, others, rfl, areBlankToo, -, sameBehind⟩ :=
        inductionHypothesis (List.forall_mem_append.mp areBlank).2 rfl
      refine ⟨there ++ blanksToo, others, by simp, ?_, ?_, sameBehind⟩
      · exact List.forall_mem_append.mpr ⟨areThere, areBlankToo⟩
      · simp [nonempty, nonemptyToo]

/-- A character of the query stands on both sides. -/
theorem cons_inv
    {c : Char}
    (same : SameBehind (c :: text) other)
    (solid : isTerminator c = false) :
    ∃ others, other = c :: others ∧ SameBehind text others := by
  have behind : SameBehind ([] ++ c :: text) other := same
  obtain ⟨blanksToo, others, rfl, -, empty, sameBehind⟩ := behind.blanks_inv (by simp) solid
  rw [empty.mpr rfl]
  exact ⟨others, rfl, sameBehind⟩

/-- A character of the query stands at corresponding places on both sides: what follows it is the
same, and either both places are directly behind a word or none is. -/
theorem split
    {before beforeToo : Option Char}
    {front : Text}
    {c : Char}
    (same : SameBehind (front ++ c :: text) other)
    (solid : isTerminator c = false)
    (edges : before.any isWord = beforeToo.any isWord) :
    ∃ frontToo others, other = frontToo ++ c :: others ∧ SameBehind text others ∧
      (lastOr before front).any isWord = (lastOr beforeToo frontToo).any isWord := by
  generalize whole : front ++ c :: text = full at same
  induction same generalizing front before beforeToo with
  | ends terminators =>
      have terminator := terminators c (whole ▸ by simp)
      exact absurd terminator (by simp [solid])
  | @char d rest other same inductionHypothesis =>
      cases front with
      | nil =>
          obtain ⟨rfl, rfl⟩ := List.cons.inj whole
          exact ⟨[], other, rfl, same, edges⟩
      | cons e front =>
          obtain ⟨rfl, rest⟩ := List.cons.inj whole
          have edgesHere : (some e).any isWord = (some e).any isWord := rfl
          obtain ⟨frontToo, others, rfl, sameBehind, edgesBehind⟩ :=
            inductionHypothesis edgesHere rest
          exact ⟨e :: frontToo, others, rfl, sameBehind, by simpa using edgesBehind⟩
  | @blanks here there rest other nonempty nonemptyToo areHere areThere same inductionHypothesis =>
      obtain ⟨more, rfl, rfl⟩ := exists_behind_blanks whole areHere solid
      have edgesHere : (lastOr before here).any isWord = (lastOr beforeToo there).any isWord := by
        rw [(isWord_of_blanks nonempty areHere).1, (isWord_of_blanks nonemptyToo areThere).1]
      obtain ⟨frontToo, others, rfl, sameBehind, edgesBehind⟩ := inductionHypothesis edgesHere rfl
      exact ⟨there ++ frontToo, others, by simp, sameBehind, by simpa using edgesBehind⟩

/-- Either both texts start inside a word or none does. -/
theorem isWord_head?
    (same : SameBehind text other) :
    text.head?.any isWord = other.head?.any isWord := by
  have outside {text : Text} (terminators : ∀ c ∈ text, isTerminator c = true) :
      text.head?.any isWord = false := by
    cases text with
    | nil => rfl
    | cons c text => exact isWord_of_isTerminator (terminators c (.head _))
  cases same with
  | ends terminators terminatorsToo => rw [outside terminators, outside terminatorsToo]
  | char => rfl
  | blanks nonempty nonemptyToo areBlank areBlankToo =>
      rw [(isWord_of_blanks nonempty areBlank).2, (isWord_of_blanks nonemptyToo areBlankToo).2]

theorem words_append
    (same : SameBehind text other)
    (front : Text) :
    words (front ++ text) = words (front ++ other) := by
  induction same generalizing front with
  | @ends text other terminators terminatorsToo =>
      have none {text : Text} (terminators : ∀ c ∈ text, isTerminator c = true) :
          words (front ++ text) = words front := by
        rw [words_append_of_head, words_of_noWord fun c present =>
          isWord_of_isTerminator (terminators c present), List.append_nil]
        cases text with
        | nil => rfl
        | cons c text => exact isWord_of_isTerminator (terminators c (.head _))
      rw [none terminators, none terminatorsToo]
  | char c same inductionHypothesis =>
      rw [List.append_cons, inductionHypothesis, ← List.append_cons]
  | blanks nonempty nonemptyToo areBlank areBlankToo same inductionHypothesis =>
      have behind {blanks : Text} (nonempty : blanks ≠ [])
          (areBlank : ∀ c ∈ blanks, isBlank c = true) (text : Text) :
          words (front ++ (blanks ++ text)) = words front ++ words text := by
        rw [words_append_of_head _ ((isWord_of_blanks nonempty areBlank).2 text),
          words_append_of_last, words_of_noWord fun c present =>
            isWord_of_isBlank (areBlank c present), List.nil_append]
        simpa [lastOr] using (isWord_of_blanks nonempty areBlank).1 none
      have later := inductionHypothesis []
      rw [behind nonempty areBlank, behind nonemptyToo areBlankToo]
      rw [List.nil_append, List.nil_append] at later
      rw [later]

end SameBehind

/-! ## Whole texts -/

namespace SameLayout

variable {text other : Text}

theorem symm (same : SameLayout text other) : SameLayout other text := by
  obtain ⟨blanks, rest, blanksToo, restToo, rfl, rfl, areBlank, areBlankToo, behind⟩ := same
  exact ⟨blanksToo, restToo, blanks, rest, rfl, rfl, areBlankToo, areBlank, behind.symm⟩

/-- Texts of one layout have the same words. -/
theorem words_eq (same : SameLayout text other) : words text = words other := by
  obtain ⟨blanks, rest, blanksToo, restToo, rfl, rfl, areBlank, areBlankToo, behind⟩ := same
  have none {blanks : Text} (areBlank : ∀ c ∈ blanks, isBlank c = true) (rest : Text) :
      words (blanks ++ rest) = words rest := by
    induction blanks with
    | nil => rfl
    | cons c blanks inductionHypothesis =>
        rw [List.forall_mem_cons] at areBlank
        rw [List.cons_append, words_cons (isWord_of_isBlank areBlank.1),
          inductionHypothesis areBlank.2]
  have later := behind.words_append []
  rw [none areBlank, none areBlankToo]
  exact later

/-- A character of the query stands at corresponding places in texts of one layout. -/
theorem split
    {front rest : Text}
    {c : Char}
    (same : SameLayout (front ++ c :: rest) other)
    (solid : isTerminator c = false) :
    ∃ frontToo others, other = frontToo ++ c :: others ∧ SameBehind rest others ∧
      (lastOr none front).any isWord = (lastOr none frontToo).any isWord := by
  obtain ⟨blanks, text, blanksToo, textToo, whole, rfl, areBlank, areBlankToo, behind⟩ := same
  obtain ⟨more, rfl, rfl⟩ := SameBehind.exists_behind_blanks whole areBlank solid
  have outside {blanks : Text} (areBlank : ∀ c ∈ blanks, isBlank c = true) :
      (lastOr none blanks).any isWord = false := by
    by_cases empty : blanks = []
    · rw [empty]
      rfl
    · exact (isWord_of_blanks empty areBlank).1 none
  obtain ⟨frontToo, others, rfl, sameBehind, edges⟩ :=
    behind.split solid ((outside areBlank).trans (outside areBlankToo).symm)
  exact ⟨blanksToo ++ frontToo, others, by simp, sameBehind, by simpa using edges⟩

end SameLayout

/-! ## The layout-free form -/

/-- Each run of white space becomes one plain blank, within a run too. -/
theorem sameBehind_collapseFrom
    (text : Text) :
    SameBehind text (collapseFrom false text) ∧
      ∀ blanks, blanks ≠ [] → (∀ c ∈ blanks, isBlank c = true) →
        SameBehind (blanks ++ text) (' ' :: collapseFrom true text) := by
  have plain : ∀ c ∈ [' '], isBlank c = true := List.forall_mem_singleton.mpr rfl
  induction text with
  | nil =>
      refine ⟨.refl [], fun blanks nonempty areBlank => ?_⟩
      exact .blanks nonempty (List.cons_ne_nil _ _) areBlank plain (.refl [])
  | cons c text inductionHypothesis =>
      obtain ⟨outside, inside⟩ := inductionHypothesis
      by_cases blank : isBlank c = true
      · rw [collapseFrom, collapseFrom, if_pos blank, if_pos blank]
        refine ⟨inside [c] (List.cons_ne_nil _ _) (by simpa using blank), ?_⟩
        intro blanks nonempty areBlank
        rw [List.append_cons]
        refine inside _ (by simp) (List.forall_mem_append.mpr ⟨areBlank, by simpa using blank⟩)
      · rw [collapseFrom, collapseFrom, if_neg blank, if_neg blank]
        refine ⟨.char c outside, fun blanks nonempty areBlank => ?_⟩
        exact .blanks nonempty (List.cons_ne_nil _ _) areBlank plain (.char c outside)

theorem isAllBlank_collapse
    {text : Text}
    (blank : isAllBlank text = true) :
    isAllBlank (collapse text) = true := by
  have all (afterBlank : Bool) : (collapseFrom afterBlank text).all isBlank = true := by
    rw [isAllBlank] at blank
    induction text generalizing afterBlank with
    | nil => rfl
    | cons c text inductionHypothesis =>
        rw [List.all_cons, Bool.and_eq_true] at blank
        rw [collapseFrom, if_pos blank.1]
        split
        · exact inductionHypothesis blank.2 true
        · rw [List.all_cons, inductionHypothesis blank.2 true]
          decide
  exact all false

/-- A text without the characters of a class at its end, and what was there. -/
theorem exists_trimEndWhere
    (drop : Char → Bool)
    (text : Text) :
    ∃ ending, text = trimEndWhere drop text ++ ending ∧ ∀ c ∈ ending, drop c = true := by
  refine ⟨(text.reverse.takeWhile drop).reverse, ?_, ?_⟩
  · rw [trimEndWhere, ← List.reverse_append, List.takeWhile_append_dropWhile, List.reverse_reverse]
  · intro c present
    exact List.mem_takeWhile_imp (List.mem_reverse.mp present)

/-- A text is its trimmed form with white space around it. -/
theorem exists_trim (text : Text) :
    ∃ front back, text = front ++ (trim text ++ back) ∧ (∀ c ∈ front, isBlank c = true) ∧
      ∀ c ∈ back, isBlank c = true := by
  obtain ⟨back, trimmed, backBlank⟩ := exists_trimEndWhere isBlank (text.dropWhile isBlank)
  refine ⟨text.takeWhile isBlank, back, ?_, fun c present => List.mem_takeWhile_imp present,
    backBlank⟩
  rw [trim, trimWhere, ← trimmed, List.takeWhile_append_dropWhile]

/-- White space around a text, and semicolons behind it, are no part of its layout. -/
theorem sameLayout_of_ends
    {front back : Text}
    (frontBlank : ∀ c ∈ front, isBlank c = true)
    (terminators : ∀ c ∈ back, isTerminator c = true)
    (text : Text) :
    SameLayout (front ++ (text ++ back)) text :=
  ⟨front, text ++ back, [], text, rfl, rfl, frontBlank, by simp,
    (SameBehind.refl (text ++ back)).dropEnd terminators⟩

open Query in
/-- A text has the layout of the text with one plain blank for each run of white space and nothing
but the query at the ends. -/
theorem sameLayout_form
    (text : Text) :
    SameLayout text (dropTerminators (trim (collapse text))) := by
  have collapsed : SameBehind text (collapse text) := (sameBehind_collapseFrom text).1
  have start := List.takeWhile_append_dropWhile (p := isBlank) (l := collapse text)
  obtain ⟨blanks, trimmed, areBlank⟩ :=
    exists_trimEndWhere isBlank ((collapse text).dropWhile isBlank)
  obtain ⟨ending, dropped, areEnd⟩ :=
    exists_trimEndWhere (fun c => c = ';' || c = ' ') (trim (collapse text))
  have terminators : ∀ c ∈ ending ++ blanks, isTerminator c = true := by
    rw [List.forall_mem_append]
    refine ⟨fun c present => ?_, fun c present => isTerminator_of_isBlank (areBlank c present)⟩
    have isEnd := areEnd c present
    simp only [Bool.or_eq_true, decide_eq_true_eq] at isEnd
    rcases isEnd with rfl | rfl <;> decide
  rw [← start, trimmed, ← trimWhere, ← trim, dropped, ← dropTerminators, List.append_assoc,
    ← List.append_assoc] at collapsed
  obtain ⟨lead, rest, whole, leadBlank, behind⟩ := (collapsed.dropEnd terminators).dropStart
    fun c present => List.mem_takeWhile_imp present
  exact ⟨lead, rest, [], _, whole, rfl, leadBlank, by simp, behind⟩

/-! ## Lower case -/

section LowerCase

variable {c : Char} {text other : Text}

/-- What may stand behind a query has no case and does not lean on the case of others. -/
theorem caseless_of_isTerminator (terminator : isTerminator c = true) :
    lowerChar c = c ∧ isCased c = false ∧ isCaseIgnorable c = false ∧ c ≠ '\u03A3' ∧
      c ≠ '\u0130' := by
  apply forall_isTerminator _ c terminator
  decide +kernel

theorem lowerFrom_terminator
    (afterCased : Bool)
    (terminator : isTerminator c = true)
    (rest : Text) :
    lowerFrom afterCased (c :: rest) = c :: lowerFrom false rest := by
  obtain ⟨same, noCase, notIgnored, noSigma, noDotted⟩ := caseless_of_isTerminator terminator
  rw [lowerFrom, lowerAt, if_neg noSigma, if_neg noDotted, same, noCase, notIgnored]
  simp

theorem lowerFrom_blanks
    {blanks : Text}
    (nonempty : blanks ≠ [])
    (areBlank : ∀ c ∈ blanks, isBlank c = true)
    (afterCased : Bool)
    (rest : Text) :
    lowerFrom afterCased (blanks ++ rest) = blanks ++ lowerFrom false rest := by
  induction blanks generalizing afterCased with
  | nil => contradiction
  | cons c blanks inductionHypothesis =>
      rw [List.forall_mem_cons] at areBlank
      rw [List.cons_append, lowerFrom_terminator _ (isTerminator_of_isBlank areBlank.1)]
      by_cases last : blanks = []
      · subst last
        rfl
      · rw [inductionHypothesis last areBlank.2]
        rfl

theorem lowerFrom_terminators
    (terminators : ∀ c ∈ text, isTerminator c = true)
    (afterCased : Bool) :
    lowerFrom afterCased text = text := by
  induction text generalizing afterCased with
  | nil => rfl
  | cons c text inductionHypothesis =>
      rw [List.forall_mem_cons] at terminators
      rw [lowerFrom_terminator _ terminators.1, inductionHypothesis terminators.2]

theorem leansOnCased_terminator
    (terminator : isTerminator c = true)
    (rest : Text) :
    leansOnCased (c :: rest) = false := by
  obtain ⟨-, noCase, notIgnored, -⟩ := caseless_of_isTerminator terminator
  rw [leansOnCased, List.dropWhile_cons_of_neg (by simp [notIgnored])]
  exact noCase

theorem SameBehind.leansOnCased_eq (same : SameBehind text other) :
    leansOnCased text = leansOnCased other := by
  have ends {text : Text} (terminators : ∀ c ∈ text, isTerminator c = true) :
      leansOnCased text = false := by
    cases text with
    | nil => rfl
    | cons c text => exact leansOnCased_terminator (terminators c (.head _)) text
  have blank {blanks : Text} (nonempty : blanks ≠ []) (areBlank : ∀ c ∈ blanks, isBlank c = true)
      (text : Text) : leansOnCased (blanks ++ text) = false := by
    obtain ⟨c, blanks, rfl⟩ := List.exists_cons_of_ne_nil nonempty
    exact leansOnCased_terminator (isTerminator_of_isBlank (areBlank c (.head _))) _
  induction same with
  | ends terminators terminatorsToo => rw [ends terminators, ends terminatorsToo]
  | char c same inductionHypothesis =>
      cases ignored : isCaseIgnorable c with
      | true => simpa [leansOnCased, List.dropWhile_cons, ignored] using inductionHypothesis
      | false => simp [leansOnCased, ignored]
  | blanks nonempty nonemptyToo areBlank areBlankToo =>
      rw [blank nonempty areBlank, blank nonemptyToo areBlankToo]

theorem SameBehind.lowerFrom
    (same : SameBehind text other)
    (afterCased : Bool) :
    SameBehind (lowerFrom afterCased text) (lowerFrom afterCased other) := by
  induction same generalizing afterCased with
  | ends terminators terminatorsToo =>
      rw [lowerFrom_terminators terminators, lowerFrom_terminators terminatorsToo]
      exact .ends terminators terminatorsToo
  | @char c text other same inductionHypothesis =>
      have sameHere : lowerAt afterCased text c = lowerAt afterCased other c := by
        rw [lowerAt, lowerAt, same.leansOnCased_eq]
      rw [Text.lowerFrom, Text.lowerFrom, sameHere]
      split
      · exact .char _ (inductionHypothesis _)
      · exact .append _ (inductionHypothesis _)
  | blanks nonempty nonemptyToo areBlank areBlankToo same inductionHypothesis =>
      rw [lowerFrom_blanks nonempty areBlank, lowerFrom_blanks nonemptyToo areBlankToo]
      exact .blanks nonempty nonemptyToo areBlank areBlankToo (inductionHypothesis false)

/-- Texts of one layout have lower-case forms of one layout. -/
theorem SameLayout.lower (same : SameLayout text other) :
    SameLayout (lower text) (lower other) := by
  obtain ⟨blanks, rest, blanksToo, restToo, rfl, rfl, areBlank, areBlankToo, behind⟩ := same
  have start {blanks : Text} (areBlank : ∀ c ∈ blanks, isBlank c = true) (rest : Text) :
      Text.lower (blanks ++ rest) = blanks ++ Text.lower rest := by
    by_cases empty : blanks = []
    · rw [empty]
      rfl
    · exact lowerFrom_blanks empty areBlank false rest
  exact ⟨blanks, _, blanksToo, _, start areBlank rest, start areBlankToo restToo, areBlank,
    areBlankToo, behind.lowerFrom false⟩

end LowerCase

end Text
end SqlReview
