import SqlReview.Proofs.Plain.Grammar

/-!
# The clauses of a plain query

Where the clauses of a query are found is clear when their contents have no keywords of clauses as
words: each keyword is found, with the blank behind it up to the next keyword as its body.
-/

namespace SqlReview
namespace Plain

open Query

/-! ## Texts of clauses -/

/-- The blank in front of further clauses. -/
def gap (rest : List Section) : Text :=
  if rest.isEmpty then [] else [' ']

/-- What stands behind the keyword of a clause up to the next keyword. -/
def bodyText (content : Text) (rest : List Section) : Text :=
  ' ' :: (content ++ gap rest)

@[simp] theorem sectionsText_nil : sectionsText [] = [] := rfl

theorem sectionsText_cons
    (kind : ClauseKind)
    (content : Text)
    (rest : List Section) :
    sectionsText ((kind, content) :: rest) =
      kind.keyword ++ (bodyText content rest ++ sectionsText rest) := by
  cases rest with
  | nil => simp [sectionsText, Text.join, bodyText, gap]
  | cons next rest =>
      simp [sectionsText, Text.join, bodyText, gap, List.intercalate_cons_cons]

theorem sectionsText_singleton (part : Section) :
    sectionsText [part] = part.1.keyword ++ ' ' :: part.2 := by
  simp [sectionsText, Text.join]

theorem sectionsText_cons_cons
    (part next : Section)
    (rest : List Section) :
    sectionsText (part :: next :: rest) =
      part.1.keyword ++ ' ' :: part.2 ++ ' ' :: sectionsText (next :: rest) := by
  simp [sectionsText, Text.join, List.intercalate_cons_cons]

/-- Every clause is a part of the text, at its start or behind a blank. -/
theorem exists_split_of_mem
    {sections : List Section}
    {part : Section}
    (present : part ∈ sections) :
    ∃ lead rest, sectionsText sections = lead ++ (part.1.keyword ++ ' ' :: (part.2 ++ rest)) ∧
      (lead = [] ∨ lead.getLast? = some ' ') := by
  induction sections with
  | nil => exact absurd present List.not_mem_nil
  | cons first others inductionHypothesis =>
      obtain ⟨kind, content⟩ := first
      rw [sectionsText_cons, bodyText]
      rcases List.mem_cons.mp present with rfl | later
      · exact ⟨[], gap others ++ sectionsText others, by simp, .inl rfl⟩
      · obtain ⟨lead, rest, equal, isLead⟩ := inductionHypothesis later
        have blank : gap others = [' '] := by
          rw [gap, if_neg (by simpa using List.ne_nil_of_mem later)]
        refine ⟨kind.keyword ++ ' ' :: content ++ [' '] ++ lead, rest, ?_, .inr ?_⟩
        · rw [equal, blank]
          simp
        · rcases isLead with rfl | last
          · rw [List.append_nil, List.getLast?_concat]
          · rw [List.getLast?_append, last]
            rfl

/-- The contents of clauses seen through a view. -/
def viewed (view : Text → Text) (sections : List Section) : List Section :=
  sections.map fun part => (part.1, view part.2)

/-- The body of the first clause of a kind. -/
def bodyOf? (kind : ClauseKind) : List Section → Option Text
  | [] => none
  | (found, content) :: rest =>
    if found = kind then some (bodyText content rest) else bodyOf? kind rest

/-! ## Keywords -/

/-- Whether a phrase that starts with a word is the keyword of a clause. -/
def startsClause (word : Text) : Bool :=
  clausePhrases.any (·.head? = some word)

theorem startsWithWord_clauseKeyword :
    clauseKeyword.StartsWithWord startsClause := by
  intro before run rest covered
  obtain ⟨⟨phrase, isPhrase, spells⟩, outside, outsideBehind⟩ := covers_clauseKeyword.mp covered
  obtain ⟨short, smallWords⟩ := clausePhrases_forall phrase isPhrase
  obtain ⟨word, words, rfl⟩ : ∃ word words, phrase = word :: words :=
    List.exists_cons_of_ne_nil (by rintro rfl; simp at short)
  have isSmallWord := smallWords word (.head _)
  obtain ⟨first, more, rfl, folds, behind⟩ := spells.exists_first
  refine ⟨first, more, rfl, ⟨isSmallWord.ne_nil folds, fun c present =>
    isSmallWord.isWord_of_mem folds present⟩, ?_, outside, ?_⟩
  · rw [folds]
    exact List.any_eq_true.mpr ⟨_, isPhrase, decide_eq_true rfl⟩
  · rcases behind with rfl | ⟨c, head, blank⟩
    · exact outsideBehind
    · cases more with
      | nil => exact absurd head (by simp)
      | cons d more =>
          obtain rfl : d = c := by simpa using head
          exact Text.isWord_of_isBlank blank

/-- The occurrence of the keyword of a clause. -/
def keywordAt (kind : ClauseKind) (index : Nat) : Occurrence :=
  ⟨index, index + kind.keyword.length, kind.keyword, [⟨1, index, kind.keyword⟩]⟩

/-- The keyword of a clause is found where it stands. -/
theorem occurrenceAt?_keyword
    (kind : ClauseKind)
    {before : Option Char}
    (outside : before = none ∨ before = some ' ')
    (index : Nat)
    (rest : Text) :
    clauseKeyword.occurrenceAt? ⟨before, index, kind.keyword ++ ' ' :: rest⟩ =
      some (keywordAt kind index) := by
  have found : clauseKeyword.occurrenceAt? ⟨before, index, kind.keyword ++ ' ' :: rest⟩ =
      some ⟨index, index + kind.keyword.length,
        (kind.keyword ++ ' ' :: rest).take (index + kind.keyword.length - index),
        [⟨1, index,
          (kind.keyword ++ ' ' :: rest).take (index + kind.keyword.length - index)⟩]⟩ := by
    rcases outside with rfl | rfl <;> cases kind <;> rfl
  rw [found, Nat.add_sub_cancel_left, List.take_left]
  rfl

theorem clauseName_keywordAt
    (kind : ClauseKind)
    (index : Nat) :
    clauseName ((keywordAt kind index).groupText 1) = kind.name := by
  change clauseName kind.keyword = kind.name
  cases kind <;> decide

theorem name_injective :
    Function.Injective ClauseKind.name := by
  intro first second equal
  cases first <;> cases second <;> first | rfl | exact absurd equal (by decide)

/-! ## Clauses -/

/-- The keyword of the first clause is found first. -/
theorem occurrencesFrom_section
    (kind : ClauseKind)
    {content : Text}
    (rest : List Section)
    (absent : ∀ word ∈ Text.words content, startsClause word = false)
    {before : Option Char}
    (outside : before = none ∨ before = some ' ')
    (index : Nat) :
    clauseKeyword.occurrencesFrom 0 before index (sectionsText ((kind, content) :: rest)) =
      keywordAt kind index ::
        clauseKeyword.occurrencesFrom 0 (some ' ')
          (index + kind.keyword.length + (bodyText content rest).length) (sectionsText rest) := by
  have noBlank : Text.isWord ' ' = false := by decide
  have nonempty : kind.keyword ≠ [] := by cases kind <;> decide
  have found := occurrenceAt?_keyword kind outside index
    (content ++ gap rest ++ sectionsText rest)
  have isQuiet : clauseKeyword.IsQuiet (Text.lastOr before kind.keyword) (bodyText content rest)
      (sectionsText rest) := by
    cases rest with
    | nil =>
        refine startsWithWord_clauseKeyword.isQuiet ?_ (.inr rfl)
        simpa [bodyText, gap, noBlank] using absent
    | cons next rest =>
        refine startsWithWord_clauseKeyword.isQuiet ?_ (.inl ?_)
        · simpa [bodyText, gap, noBlank, Text.words_append_cons noBlank content []] using absent
        · simp [bodyText, gap, List.getLast?_cons, List.getLast?_append, noBlank]
  rw [sectionsText_cons]
  change clauseKeyword.occurrenceAt? ⟨before, index,
    kind.keyword ++ (bodyText content rest ++ sectionsText rest)⟩ = _ at found
  rw [Pattern.occurrencesFrom_of_occurrenceAt? found (by simp [keywordAt, Occurrence.length])
    nonempty,
    Pattern.occurrencesFrom_quiet isQuiet]
  cases rest with
  | nil => simp [Pattern.occurrencesFrom]
  | cons next rest => simp [bodyText, gap]

/-- Looking for a clause from the first of several clauses on gives the body of the first one of its
kind. `lead` is what stands before them, and `view` hides parts of the contents from the search. -/
theorem find?_clausesFrom
    {view : Text → Text}
    (sameLength : ∀ content, (view content).length = content.length)
    (kind : ClauseKind)
    {sections : List Section}
    (distinct : (sections.map Prod.fst).Nodup)
    (absent : ∀ part ∈ sections, ∀ word ∈ Text.words (view part.2), startsClause word = false)
    {seen : List Text}
    (new : ∀ part ∈ sections, part.1.name ∉ seen)
    {before : Option Char}
    (outside : before = none ∨ before = some ' ')
    (lead : Text) :
    ((clausesFrom (lead ++ sectionsText sections).length seen
      (clauseKeyword.occurrencesFrom 0 before lead.length
        (sectionsText (viewed view sections)))).find? (·.name = kind.name)).map
          (·.body (lead ++ sectionsText sections)) = bodyOf? kind sections := by
  induction sections generalizing seen before lead with
  | nil => rfl
  | cons part rest inductionHypothesis =>
      obtain ⟨found, content⟩ := part
      have restDistinct := (List.nodup_cons.mp distinct).2
      have gapEq : gap (viewed view rest) = gap rest := by simp [gap, viewed]
      have bodyLength : (bodyText (view content) (viewed view rest)).length =
          (bodyText content rest).length := by
        simp [bodyText, gapEq, sameLength]
      have split : lead ++ sectionsText ((found, content) :: rest) =
          lead ++ found.keyword ++ bodyText content rest ++ sectionsText rest := by
        rw [sectionsText_cons]
        simp
      have offset : lead.length + found.keyword.length + (bodyText content rest).length =
          (lead ++ found.keyword ++ bodyText content rest).length := by
        simp [Nat.add_assoc]
      have keywords := occurrencesFrom_section found (viewed view rest)
        (absent _ (.head _)) outside lead.length
      rw [bodyLength, offset] at keywords
      have stop : ((clauseKeyword.occurrencesFrom 0 (some ' ')
          (lead ++ found.keyword ++ bodyText content rest).length
          (sectionsText (viewed view rest))).head?.map (·.start)).getD
            (lead ++ sectionsText ((found, content) :: rest)).length =
          (lead ++ found.keyword ++ bodyText content rest).length := by
        cases rest with
        | nil => simp [split, viewed, Pattern.occurrencesFrom]
        | cons next rest =>
            rw [viewed, List.map_cons, occurrencesFrom_section next.1 _
              (absent next (.tail _ (.head _))) (.inr rfl)]
            rfl
      have unseen : seen.contains found.name = false := by
        simpa using new _ (.head _)
      have body : Clause.body ⟨found.name, (keywordAt found lead.length).stop,
          (lead ++ found.keyword ++ bodyText content rest).length⟩
            (lead ++ sectionsText ((found, content) :: rest)) = bodyText content rest := by
        rw [split, Clause.body, Text.slice, ← offset]
        simp [keywordAt]
      rw [viewed, List.map_cons, ← viewed, keywords, clausesFrom, stop]
      simp only [clauseName_keywordAt, unseen, Bool.false_eq_true, if_false]
      rw [List.find?_cons]
      by_cases same : found = kind
      · subst same
        simp only [decide_true, Option.map_some, body, bodyOf?, if_true]
      · have otherName : found.name ≠ kind.name := fun equal => same (name_injective equal)
        have newRest : ∀ part ∈ rest, part.1.name ∉ found.name :: seen := by
          intro part present repeated
          rcases List.mem_cons.mp repeated with again | before
          · refine (List.nodup_cons.mp distinct).1 (List.mem_map.mpr ⟨part, present, ?_⟩)
            exact name_injective again
          · exact new part (.tail _ present) before
        have further := inductionHypothesis restDistinct
          (fun part present => absent part (.tail _ present)) newRest (.inr rfl)
          (lead ++ found.keyword ++ bodyText content rest)
        rw [split]
        simp only [otherName, decide_false, bodyOf?, same, if_false]
        exact further

/-- The body of a clause, found by the keywords in a view of the contents. -/
theorem clause?_sections
    {view : Text → Text}
    (sameLength : ∀ content, (view content).length = content.length)
    {sections : List Section}
    (distinct : (sections.map Prod.fst).Nodup)
    (absent : ∀ part ∈ sections, ∀ word ∈ Text.words (view part.2), startsClause word = false)
    (kind : ClauseKind) :
    (clause? (clauses (sectionsText (viewed view sections))) kind.name).map
      (·.body (sectionsText sections)) = bodyOf? kind sections := by
  have length : (sectionsText (viewed view sections)).length = (sectionsText sections).length := by
    clear distinct absent
    induction sections with
    | nil => rfl
    | cons part rest inductionHypothesis =>
        rw [viewed, List.map_cons, ← viewed, sectionsText_cons, sectionsText_cons]
        simp [bodyText, gap, viewed, sameLength, ← inductionHypothesis]
  rw [clause?, clauses, length]
  exact find?_clausesFrom sameLength kind distinct absent (by simp) (.inl rfl) []

end Plain
end SqlReview
