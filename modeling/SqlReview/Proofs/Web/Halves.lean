import SqlReview.Proofs.Heuristic.SaferQuery
import SqlReview.Proofs.Pattern.Captures
import SqlReview.Web.Application

/-!
# Halves in answers

Half a code point has no written form, and neither has an answer that repeats one. A half is no letter,
no mark and no white space, so that a quick analysis repeats the halves of a query just where the safer
query does, which leaves none of them out. Main statement: the analysis of a query mentions a half if
and only if the query does.
-/

namespace SqlReview

/-! ## Characters for private use -/

section PrivateUse

variable {c : Char}

theorem Json.isPrivate_iff : Json.isPrivate c = true ↔ 0xE000 ≤ c.toNat ∧ c.toNat ≤ 0xF8FF := by
  simp [Json.isPrivate]

theorem Json.not_isPrivate_of_lt (small : c.toNat < 0x80) : Json.isPrivate c = false := by
  rw [Bool.eq_false_iff, ne_eq, Json.isPrivate_iff]
  omega

theorem Json.isWord_of_isPrivate (isPrivate : Json.isPrivate c = true) :
    Text.isWord c = false := by
  have apart : ∀ range ∈ Text.alphanumericRanges.toList, range.2 < 0xE000 ∨ 0xF8FF < range.1 := by
    decide +kernel
  obtain ⟨above, below⟩ := Json.isPrivate_iff.mp isPrivate
  have notUnderscore : c ≠ '_' := by
    rintro rfl
    exact absurd above (by decide)
  rw [Text.isWord, Text.isAlphanumeric, decide_eq_false notUnderscore, Bool.false_or,
    if_neg (by omega), Bool.eq_false_iff]
  intro found
  obtain ⟨range, present, starts, ends⟩ := Text.exists_range_of_inRanges found
  have outside := apart range present
  omega

theorem Json.isBlank_of_isPrivate (isPrivate : Json.isPrivate c = true) :
    Text.isBlank c = false := by
  obtain ⟨above, below⟩ := Json.isPrivate_iff.mp isPrivate
  simp only [Text.isBlank, Bool.or_eq_false_iff, Bool.and_eq_false_iff, decide_eq_false_iff_not]
  omega

end PrivateUse

namespace Web

open Heuristic Pattern Query

/-! ## Texts -/

section Texts

variable {halves : Halves} {text : Text}

theorem Halves.isHalf_of_lt
    (halves : Halves)
    {c : Char}
    (small : c.toNat < 0x80) :
    halves.isHalf c = false := by
  rw [Bool.eq_false_iff]
  intro isHalf
  have isPrivate := halves.isPrivate c isHalf
  rw [Json.not_isPrivate_of_lt small] at isPrivate
  contradiction

/-- A text in ASCII mentions no half. -/
theorem Halves.any_ascii
    (halves : Halves)
    (ascii : ∀ c ∈ text, c.toNat < 0x80) :
    text.any halves.isHalf = false := by
  rw [List.any_eq_false]
  intro c present
  rw [halves.isHalf_of_lt (ascii c present)]
  exact Bool.false_ne_true

theorem Halves.any_ascii_of_mem
    (halves : Halves)
    {texts : List Text}
    (ascii : ∀ text ∈ texts, ∀ c ∈ text, c.toNat < 0x80) :
    ∀ text ∈ texts, text.any halves.isHalf = false :=
  fun text present => halves.any_ascii (ascii text present)

/-- Neither words nor white space mention a half. -/
theorem Halves.any_of_isWord
    (halves : Halves)
    (isWordRun : ∀ c ∈ text, Text.isWord c = true) :
    text.any halves.isHalf = false := by
  rw [List.any_eq_false]
  intro c present isHalf
  have isWord := isWordRun c present
  rw [Json.isWord_of_isPrivate (halves.isPrivate c isHalf)] at isWord
  contradiction

theorem Halves.any_of_isBlank
    (halves : Halves)
    (blank : ∀ c ∈ text, Text.isBlank c = true) :
    text.any halves.isHalf = false := by
  rw [List.any_eq_false]
  intro c present isHalf
  have isBlank := blank c present
  rw [Json.isBlank_of_isPrivate (halves.isPrivate c isHalf)] at isBlank
  contradiction

theorem Halves.occurInItems_map
    {α : Type}
    (halves : Halves)
    (write : α → Json)
    (items : List α) :
    halves.occurInItems (items.map write) = items.any fun item => halves.occurIn (write item) := by
  induction items with
  | nil => rfl
  | cons item items inductionHypothesis =>
      rw [List.map_cons, occurInItems, inductionHypothesis, List.any_cons]

end Texts

/-! ## The safer query -/

section SaferQuery

variable {halves : Halves}

/-- A selected star mentions no half. -/
theorem Halves.any_star
    (halves : Halves)
    {run : Text}
    (isStar : IsStarRun run) :
    run.any halves.isHalf = false := by
  obtain ⟨select, blanks, rfl, folds, -, blank⟩ := isStar
  have isWordRun : ∀ c ∈ select, Text.isWord c = true := by
    intro c present
    have folded := List.mem_map_of_mem (f := Text.foldLetter) present
    rw [folds] at folded
    have letters : ∀ d ∈ "select".toList, 'a' ≤ d ∧ d ≤ 'z' := by decide
    exact Text.isWord_of_foldLetter (letters _ folded)
  rw [List.any_append, List.any_append, halves.any_of_isWord isWordRun, halves.any_of_isBlank blank,
    halves.any_ascii (by decide)]
  rfl

/-- The replacement of stars leaves every half in its text, and adds none. -/
theorem Halves.any_replace
    (halves : Halves)
    (text : Text) :
    (selectStar.replace replacementColumns text).any halves.isHalf = text.any halves.isHalf := by
  induction text using stars_induction with
  | quiet text quiet => rw [replace_of_not_occursIn _ quiet]
  | star lead run rest quiet isStar inductionHypothesis =>
      have columns : replacementColumns.any halves.isHalf = false := halves.any_ascii (by decide)
      rw [replace_star _ quiet isStar]
      simp only [List.any_append, inductionHypothesis, columns, halves.any_star isStar]

theorem Halves.any_trim
    (halves : Halves)
    (text : Text) :
    (Text.trim text).any halves.isHalf = text.any halves.isHalf := by
  obtain ⟨front, back, whole, frontBlank, backBlank⟩ := Text.exists_trim text
  conv_rhs => rw [whole]
  rw [List.any_append, List.any_append, halves.any_of_isBlank frontBlank,
    halves.any_of_isBlank backBlank, Bool.false_or, Bool.or_false]

theorem Halves.any_appendLimit
    (halves : Halves)
    (text : Text) :
    (appendLimit text).any halves.isHalf = text.any halves.isHalf := by
  have limit : limitLine.any halves.isHalf = false := halves.any_ascii (by decide)
  rw [appendLimit, List.any_append, limit, Bool.or_false]
  split
  next last =>
      obtain ⟨stem, rfl⟩ := List.getLast?_eq_some_iff.mp last
      have semicolon : halves.isHalf ';' = false := halves.isHalf_of_lt (by decide)
      rw [List.dropLast_concat, List.any_append, List.any_cons, List.any_nil, semicolon, Bool.or_false,
        Bool.or_false]
  next => rfl

/-- The safer query mentions a half if and only if the query does. -/
theorem Halves.any_saferQuery
    (halves : Halves)
    (query : Text) :
    (Heuristic.analyze query).saferQuery.any halves.isHalf = query.any halves.isHalf := by
  rw [saferQuery_eq]
  split
  · rw [halves.any_appendLimit, halves.any_replace, halves.any_trim]
  · rw [halves.any_replace, halves.any_trim]

end SaferQuery

/-! ## The index -/

section Index

variable {keyword missing : Text}

/-- What is recorded behind a keyword is a word. -/
theorem isWord_of_mem_firstBehind
    (isWordRun : ∀ c ∈ missing, Text.isWord c = true)
    (query : Text) :
    ∀ c ∈ firstBehind keyword missing query, Text.isWord c = true := by
  rw [firstBehind]
  cases found : (wordBehind keyword).search query with
  | none => exact isWordRun
  | some occurrence =>
      -- The keyword and the blanks behind it are one pattern in front of the group.
      obtain ⟨place, here⟩ := exists_place_of_searchFrom found
      obtain ⟨_, _, -, -, isWordCover⟩ :=
        @covers_groupText ((letters keyword).seq someBlanks) (oneOrMore Text.isWord) nothing rfl 1
          place occurrence here
      intro c present
      have admitted := isWordCover.admits c present
      simpa [oneOrMore, admits] using admitted

/-- The suggested index mentions no half. -/
theorem Halves.any_suggestIndex
    (halves : Halves)
    (query : Text) :
    (suggestIndex query).any halves.isHalf = false := by
  have isWordRun : ∀ missing ∈ (["your_table", "status"] : List Text),
      ∀ c ∈ missing, Text.isWord c = true := by
    decide +kernel
  simp only [List.forall_mem_cons] at isWordRun
  have table : (firstBehind "from" "your_table" query).any halves.isHalf = false :=
    halves.any_of_isWord (isWord_of_mem_firstBehind isWordRun.1 query)
  have column : (firstBehind "where" "status" query).any halves.isHalf = false :=
    halves.any_of_isWord (isWord_of_mem_firstBehind isWordRun.2.1 query)
  have fixed : ∀ part ∈ (["CREATE INDEX idx_", "_", "\nON ", "(", ");"] : List Text),
      part.any halves.isHalf = false :=
    halves.any_ascii_of_mem (by decide)
  simp only [List.forall_mem_cons] at fixed
  unfold suggestIndex
  simp only [List.any_append, table, column, fixed, Bool.or_false]

end Index

/-! ## The analysis -/

section Analysis

/-- The message of a rule is in ASCII. -/
theorem ascii_message (code : RuleCode) : ∀ c ∈ code.rule.message, c.toNat < 0x80 := by
  cases code <;> decide +kernel

theorem Halves.occurIn_issues
    (halves : Halves)
    (query : Text) :
    halves.occurInItems ((Heuristic.analyze query).issues.map .string) = false := by
  have ascii : ∀ issue ∈ (Heuristic.analyze query).issues, ∀ c ∈ issue, c.toNat < 0x80 := by
    intro issue present
    simp only [Heuristic.analyze] at present
    split at present
    · rw [List.mem_singleton.mp present]
      decide
    · obtain ⟨rule, isRule, rfl⟩ := List.mem_map.mp present
      obtain ⟨code, -, rfl⟩ := List.mem_map.mp isRule
      exact ascii_message code
  rw [halves.occurInItems_map, List.any_eq_false]
  intro issue present
  rw [occurIn, halves.any_ascii (ascii issue present)]
  exact Bool.false_ne_true

/-- The analysis of a query mentions a half if and only if the query does. -/
theorem Halves.occurIn_analysis
    (halves : Halves)
    (query : Text) :
    halves.occurIn (Heuristic.analyze query).toJson = query.any halves.isHalf := by
  have names : ∀ name ∈ (["score", "severity", "issues", "suggestedIndex", "rewrittenQuery",
      "speedupEstimate"] : List Text), name.any halves.isHalf = false :=
    halves.any_ascii_of_mem (by decide)
  have severity : ∀ severity : Severity, severity.name.any halves.isHalf = false := by
    intro severity
    cases severity <;> exact halves.any_ascii (by decide)
  have index : (Heuristic.analyze query).suggestedIndex.any halves.isHalf = false := by
    simp only [Heuristic.analyze]
    split
    · exact halves.any_suggestIndex query
    · rfl
  simp only [List.forall_mem_cons] at names
  simp only [Heuristic.Analysis.toJson, occurIn, occurInFields, names, severity, index,
    halves.occurIn_issues, halves.any_saferQuery, Bool.false_or, Bool.or_false]

end Analysis

end Web
end SqlReview
