import SqlReview.Heuristic.Signals
import SqlReview.Proofs.Plain.Characters
import SqlReview.Proofs.Plain.Normal
import SqlReview.Proofs.Query.Conditions

/-!
# Leading wildcards in plain queries

Both reviews look for the word LIKE in front of a literal that starts with a wildcard. In a plain
query only a predicate can have them: what has no quote has no wildcard, and no blank of a query
stands inside one except the blank between an operator and its value.
-/

namespace SqlReview
namespace Plain

open Query

/-! ## Wildcards in texts -/

/-- Whether a text starts with a quote and a wildcard, perhaps with a letter n before them. -/
def startsQuoted : Text → Bool
  | '\'' :: '%' :: _ => true
  | c :: '\'' :: '%' :: _ => Text.foldLetter c = 'n'
  | _ => false

/-- The same behind white space. -/
def startsWildcard (text : Text) : Bool :=
  startsQuoted (text.dropWhile Text.isBlank)

/-- Whether a text ends with the letters of LIKE, white space aside. -/
def EndsLike (text : Text) : Prop :=
  ∃ lead like blanks, text = lead ++ (like ++ blanks) ∧ like.map Text.foldLetter = "like" ∧
    ∀ c ∈ blanks, Text.isBlank c = true

/-- Whether the letters of LIKE stand somewhere before a leading wildcard. -/
def HasWildcard (text : Text) : Prop :=
  ∃ front back, text = front ++ back ∧ EndsLike front ∧ startsWildcard back = true

variable {first second text : Text}

theorem exists_of_startsQuoted
    (starts : startsQuoted text = true) :
    ∃ lead rest, text = lead ++ '\'' :: '%' :: rest := by
  unfold startsQuoted at starts
  split at starts
  · exact ⟨[], _, rfl⟩
  · rename_i c rest
    exact ⟨[c], rest, rfl⟩
  · exact absurd starts (by decide)

theorem exists_of_startsWildcard
    (starts : startsWildcard text = true) :
    ∃ lead rest, text = lead ++ '\'' :: '%' :: rest := by
  obtain ⟨lead, rest, equal⟩ := exists_of_startsQuoted starts
  refine ⟨text.takeWhile Text.isBlank ++ lead, rest, ?_⟩
  rw [List.append_assoc, ← equal, List.takeWhile_append_dropWhile]

theorem not_hasWildcard
    (noQuote : '\'' ∉ text) :
    ¬HasWildcard text := by
  rintro ⟨front, back, rfl, -, starts⟩
  obtain ⟨lead, rest, rfl⟩ := exists_of_startsWildcard starts
  exact noQuote (by simp)

/-- A run of other characters than quotes starts no wildcard. -/
theorem not_startsWildcard
    {rest : Text}
    (nonempty : text ≠ [])
    (plain : ∀ c ∈ text, Text.isBlank c = false ∧ c ≠ '\'')
    (noQuote : rest.head? ≠ some '\'') :
    startsWildcard (text ++ rest) = false := by
  obtain ⟨c, others, rfl⟩ := List.exists_cons_of_ne_nil nonempty
  obtain ⟨noBlank, notQuote⟩ := plain c (.head _)
  have next : (others ++ rest).head? ≠ some '\'' := by
    cases others with
    | nil => exact noQuote
    | cons d others =>
        intro equal
        exact (plain d (.tail _ (.head _))).2 (Option.some.inj equal)
  rw [startsWildcard, List.cons_append, List.dropWhile_cons_of_neg (by simp [noBlank])]
  unfold startsQuoted
  split
  · rename_i equal
    exact absurd (List.cons.inj equal).1 notQuote
  · rename_i equal
    rw [(List.cons.inj equal).2] at next
    exact absurd rfl next
  · rfl

theorem startsQuoted_append_blank
    (nonempty : first ≠ [])
    (starts : startsQuoted (first ++ ' ' :: second) = true) :
    startsQuoted first = true := by
  rcases first with _ | ⟨a, _ | ⟨b, _ | ⟨c, others⟩⟩⟩
  · exact absurd rfl nonempty
  · unfold startsQuoted at starts
    split at starts <;> simp_all
  · unfold startsQuoted at starts
    split at starts
    · simp_all [startsQuoted]
    · simp_all
    · simp_all
  · unfold startsQuoted at starts ⊢
    split at starts
    · simp_all
    · simp_all
    · simp_all

/-- White space behind a text belongs to a wildcard in what follows, or the wildcard starts
before. -/
theorem startsWildcard_append_blank
    (starts : startsWildcard (first ++ ' ' :: second) = true) :
    startsWildcard first = true ∨
      (∀ c ∈ first, Text.isBlank c = true) ∧ startsWildcard second = true := by
  by_cases blank : ∀ c ∈ first, Text.isBlank c = true
  · refine .inr ⟨blank, ?_⟩
    rwa [startsWildcard, List.dropWhile_append_of_pos blank,
      List.dropWhile_cons_of_pos (by decide)] at starts
  · left
    have nonempty : first.dropWhile Text.isBlank ≠ [] := by
      rw [Ne, List.dropWhile_eq_nil_iff]
      exact blank
    rw [startsWildcard, List.dropWhile_append, if_neg (by simpa using nonempty)] at starts
    exact startsQuoted_append_blank nonempty starts

/-- Where two texts meet at a blank, a wildcard is in one of them, or the blank stands directly
before it. -/
theorem hasWildcard_append_blank
    (found : HasWildcard (first ++ ' ' :: second)) :
    HasWildcard first ∨ HasWildcard second ∨ EndsLike first ∧ startsWildcard second = true := by
  have isBlank : Text.isBlank ' ' = true := by decide
  obtain ⟨front, back, equal, ⟨lead, like, blanks, rfl, folds, blank⟩, starts⟩ := found
  have noBlank : ∀ c ∈ like, Text.isBlank c = false := by
    intro c present
    rw [Bool.eq_false_iff]
    intro blank
    have isWord := Text.IsSmallWord.isWord_of_mem (by decide) folds present
    rw [Text.isWord_of_isBlank blank] at isWord
    exact absurd isWord (by decide)
  have behind {gap : Text} (blank : ∀ c ∈ gap, Text.isBlank c = true) :
      startsWildcard (gap ++ back) = true := by
    rwa [startsWildcard, List.dropWhile_append_of_pos blank]
  -- The blank stands behind LIKE, or everything stands in the second text.
  have beforeBack {gap rest : Text} (firstEq : first = lead ++ (like ++ gap))
      (blanksEq : blanks = gap ++ ' ' :: rest) (secondEq : second = rest ++ back) :
      EndsLike first ∧ startsWildcard second = true := by
    subst blanksEq
    refine ⟨⟨lead, like, gap, firstEq, folds, fun c present => blank c (by simp [present])⟩, ?_⟩
    rw [secondEq]
    exact behind fun c present => blank c (by simp [present])
  rcases List.append_eq_append_iff.mp equal with ⟨z, frontEq, secondEq⟩ | ⟨z, rfl, rfl⟩
  · cases z with
    | nil =>
        rw [List.append_nil] at frontEq
        rw [List.nil_append] at secondEq
        rw [← secondEq, startsWildcard, List.dropWhile_cons_of_pos isBlank] at starts
        exact .inr (.inr ⟨⟨lead, like, blanks, frontEq.symm, folds, blank⟩, starts⟩)
    | cons c z =>
        obtain ⟨rfl, tailEq⟩ := List.cons.inj secondEq
        rcases List.append_eq_append_iff.mp frontEq with ⟨y, firstEq, inner⟩ | ⟨y, leadEq, inner⟩
        · rcases List.append_eq_append_iff.mp inner with ⟨x, yEq, blanksEq⟩ | ⟨x, likeEq, restEq⟩
          · exact .inr (.inr (beforeBack (firstEq.trans (by rw [yEq])) blanksEq tailEq))
          · cases x with
            | nil =>
                rw [List.append_nil] at likeEq
                have firstLike : first = lead ++ (like ++ []) := by
                  rw [firstEq, likeEq, List.append_nil]
                exact .inr (.inr (beforeBack firstLike restEq.symm tailEq))
            | cons d x =>
                obtain ⟨rfl, -⟩ := List.cons.inj restEq
                have blank := noBlank ' ' (by rw [likeEq]; simp)
                exact absurd (isBlank.symm.trans blank) (by decide)
        · cases y with
          | nil =>
              obtain ⟨d, others, rfl⟩ := List.exists_cons_of_ne_nil
                (Text.IsSmallWord.ne_nil (by decide) folds)
              obtain ⟨rfl, -⟩ := List.cons.inj inner
              exact absurd (isBlank.symm.trans (noBlank ' ' (.head _))) (by decide)
          | cons d y =>
              obtain ⟨-, rfl⟩ := List.cons.inj inner
              exact .inr (.inl ⟨_, back, tailEq, ⟨y, like, blanks, rfl, folds, blank⟩, starts⟩)
  · rcases startsWildcard_append_blank starts with inFirst | ⟨allBlank, inSecond⟩
    · exact .inl ⟨_, z, rfl, ⟨lead, like, blanks, rfl, folds, blank⟩, inFirst⟩
    · refine .inr (.inr ⟨⟨lead, like, blanks ++ z, by simp, folds, ?_⟩, inSecond⟩)
      intro c present
      rcases List.mem_append.mp present with inBlanks | inRest
      · exact blank c inBlanks
      · exact allBlank c inRest

/-! ## Wildcards in predicates -/

/-- Whether a value starts with a wildcard. -/
def Value.startsWithWildcard : Value → Bool
  | .number _ => false
  | .literal content => content.text.head? = some '%'

/-- Whether a predicate matches against a literal that starts with a wildcard. -/
def Predicate.hasWildcard (predicate : Predicate) : Bool :=
  predicate.comparator = .like && predicate.value.startsWithWildcard

/-- Whether a predicate of a filter does so. -/
def Filter.hasWildcard (filter : Filter) : Bool :=
  filter.first.hasWildcard || filter.others.any (·.2.hasWildcard)

/-- A solid text has neither white space nor quotes. -/
theorem plain_of_isSolid
    (isSolid : text.all isSolidChar = true) :
    ∀ c ∈ text, Text.isBlank c = false ∧ c ≠ '\'' := by
  intro c present
  obtain ⟨-, noBlank, noQuote, -⟩ := of_isSolidChar (List.all_eq_true.mp isSolid c present)
  exact ⟨noBlank, noQuote⟩

/-- A solid text has no wildcard, nor does a blank behind it stand in one. -/
theorem not_hasWildcard_of_isSolid
    (isSolid : text.all isSolidChar = true) :
    ¬HasWildcard text :=
  not_hasWildcard fun present => (plain_of_isSolid isSolid _ present).2 rfl

theorem not_startsWildcard_of_isSolid
    (nonempty : text ≠ [])
    (isSolid : text.all isSolidChar = true)
    (rest : Text) :
    startsWildcard (text ++ ' ' :: rest) = false :=
  not_startsWildcard nonempty (plain_of_isSolid isSolid) (by simp)

theorem Column.text_ne_nil (column : Column) :
    column.text ≠ [] :=
  column.isPiece.tight.nonempty

theorem Comparator.isSolid_text (comparator : Comparator) :
    comparator.text ≠ [] ∧ comparator.text.all isSolidChar = true := by
  cases comparator <;> decide

theorem Predicate.startsWildcard_text
    (predicate : Predicate)
    (rest : Text) :
    startsWildcard (predicate.text ++ rest) = false := by
  rw [Predicate.text, List.append_assoc]
  exact not_startsWildcard_of_isSolid predicate.column.text_ne_nil predicate.column.isSolid_text _

/-- The quotes of a value stand at its ends, so no wildcard follows LIKE inside of it. -/
theorem Value.not_hasWildcard (value : Value) :
    ¬HasWildcard value.text := by
  cases value with
  | number numeral => exact not_hasWildcard_of_isSolid numeral.isSolid_text
  | literal content =>
      rintro ⟨front, back, equal, ⟨lead, like, blanks, frontEq, folds, -⟩, starts⟩
      obtain ⟨before, rest, rfl⟩ := exists_of_startsWildcard starts
      have noQuote : '\'' ∉ content.text := fun present =>
        (plain_of_isSolid content.isSolid_text _ present).2 rfl
      have nonempty : front ≠ [] := by
        rw [frontEq]
        simp [Text.IsSmallWord.ne_nil (by decide) folds]
      obtain ⟨c, front, rfl⟩ := List.exists_cons_of_ne_nil nonempty
      have inner : content.text ++ ['\''] = front ++ before ++ '\'' :: '%' :: rest := by
        have tails := (List.cons.inj equal).2
        rwa [List.append_assoc]
      rcases List.append_eq_append_iff.mp inner with ⟨z, -, last⟩ | ⟨z, contentEq, last⟩
      · cases z with
        | nil => exact absurd (List.cons.inj last).2 (by simp)
        | cons d z =>
            have lengths := congrArg List.length last
            simp at lengths
      · cases z with
        | nil => exact absurd (List.cons.inj last).2 (by simp)
        | cons d z =>
            obtain ⟨rfl, -⟩ := List.cons.inj last
            exact noQuote (by rw [contentEq]; simp)

/-- A literal starts with a wildcard just if its content does. -/
theorem head?_of_startsQuoted
    {content rest : Text}
    (starts : startsQuoted ('\'' :: (content ++ '\'' :: rest)) = true) :
    content.head? = some '%' := by
  unfold startsQuoted at starts
  split at starts
  · rename_i equal
    have tail := (List.cons.inj equal).2
    cases content with
    | nil => exact absurd (List.cons.inj tail).1 (by decide)
    | cons c others =>
        obtain rfl := (List.cons.inj tail).1
        rfl
  · rename_i equal
    obtain rfl := (List.cons.inj equal).1
    exact absurd starts (by decide)
  · exact absurd starts (by decide)

theorem Value.startsWithWildcard_of_startsWildcard
    (value : Value)
    (starts : startsWildcard value.text = true) :
    value.startsWithWildcard = true := by
  cases value with
  | number numeral =>
      have none := not_startsWildcard numeral.nonempty (plain_of_isSolid numeral.isSolid_text)
        (show ([] : Text).head? ≠ some '\'' by simp)
      rw [List.append_nil] at none
      exact absurd starts (by rw [Value.text, none]; decide)
  | literal content =>
      rw [Value.text, startsWildcard, List.dropWhile_cons_of_neg (by decide)] at starts
      exact decide_eq_true (head?_of_startsQuoted starts)

theorem Predicate.hasWildcard_of_text
    (predicate : Predicate)
    (found : HasWildcard predicate.text) :
    predicate.hasWildcard = true := by
  obtain ⟨nonempty, isSolid⟩ := predicate.comparator.isSolid_text
  rcases hasWildcard_append_blank found with inColumn | inRest | ⟨-, starts⟩
  · exact absurd inColumn (not_hasWildcard_of_isSolid predicate.column.isSolid_text)
  · rcases hasWildcard_append_blank inRest with inComparator | inValue | ⟨endsLike, starts⟩
    · exact absurd inComparator (not_hasWildcard_of_isSolid isSolid)
    · exact absurd inValue predicate.value.not_hasWildcard
    · have isLike : predicate.comparator = .like := by
        have each (comparator : Comparator) : 4 ≤ comparator.text.length → comparator = .like := by
          cases comparator <;> decide
        obtain ⟨lead, like, blanks, equal, folds, -⟩ := endsLike
        have four : like.length = 4 := by
          rw [← List.length_map Text.foldLetter, folds]
          rfl
        refine each _ ?_
        rw [equal, List.length_append, List.length_append]
        omega
      rw [Predicate.hasWildcard, isLike,
        predicate.value.startsWithWildcard_of_startsWildcard starts]
      rfl
  · rw [not_startsWildcard_of_isSolid nonempty isSolid] at starts
    exact absurd starts (by decide)

theorem Connective.isSolid_text (connective : Connective) :
    connective.text ≠ [] ∧ connective.text.all isSolidChar = true := by
  cases connective <;> decide

theorem Filter.hasWildcard_of_text
    (filter : Filter)
    (found : HasWildcard filter.text) :
    filter.hasWildcard = true := by
  obtain ⟨first, others⟩ := filter
  induction others generalizing first with
  | nil =>
      rw [Filter.text, List.flatMap_nil, List.append_nil] at found
      rw [Filter.hasWildcard, first.hasWildcard_of_text found, Bool.true_or]
  | cons other others inductionHypothesis =>
      obtain ⟨connective, next⟩ := other
      obtain ⟨nonempty, isSolid⟩ := connective.isSolid_text
      have split : Filter.text ⟨first, (connective, next) :: others⟩ =
          first.text ++ ' ' :: (connective.text ++ ' ' :: Filter.text ⟨next, others⟩) := by
        simp [Filter.text]
      rw [Filter.hasWildcard, List.any_cons]
      rw [split] at found
      rcases hasWildcard_append_blank found with inFirst | inRest | ⟨-, starts⟩
      · rw [first.hasWildcard_of_text inFirst, Bool.true_or]
      · rcases hasWildcard_append_blank inRest with inConnective | inOthers | ⟨-, starts⟩
        · exact absurd inConnective (not_hasWildcard_of_isSolid isSolid)
        · have later := inductionHypothesis next inOthers
          rw [Filter.hasWildcard] at later
          rw [later, Bool.or_true]
        · rw [Filter.text, next.startsWildcard_text] at starts
          exact absurd starts (by decide)
      · rw [not_startsWildcard_of_isSolid nonempty isSolid] at starts
        exact absurd starts (by decide)

theorem startsWildcard_sectionsText (sections : List Section) :
    startsWildcard (sectionsText sections) = false := by
  cases sections with
  | nil => rfl
  | cons part rest =>
      obtain ⟨kind, content⟩ := part
      rw [sectionsText_cons]
      cases kind <;> rfl

/-- A wildcard in a clause stands behind its keyword. -/
theorem hasWildcard_of_section
    {kind : ClauseKind}
    {content : Text}
    (noStart : startsWildcard content = false)
    (found : HasWildcard (kind.keyword ++ ' ' :: content)) :
    HasWildcard content := by
  rcases hasWildcard_append_blank found with inKeyword | inContent | ⟨-, starts⟩
  · refine absurd inKeyword (not_hasWildcard ?_)
    cases kind <;> decide
  · exact inContent
  · rw [noStart] at starts
    exact absurd starts (by decide)

/-- A wildcard among clauses stands inside one of them, if none starts with one. -/
theorem exists_hasWildcard
    {sections : List Section}
    (noStarts : ∀ part ∈ sections, startsWildcard part.2 = false)
    (found : HasWildcard (sectionsText sections)) :
    ∃ part ∈ sections, HasWildcard part.2 := by
  induction sections with
  | nil => exact absurd found (not_hasWildcard List.not_mem_nil)
  | cons part rest inductionHypothesis =>
      have noStart := noStarts part (.head _)
      cases rest with
      | nil =>
          rw [sectionsText_singleton] at found
          exact ⟨part, .head _, hasWildcard_of_section noStart found⟩
      | cons next rest =>
          rw [sectionsText_cons_cons] at found
          rcases hasWildcard_append_blank found with here | later | ⟨-, starts⟩
          · exact ⟨part, .head _, hasWildcard_of_section noStart here⟩
          · obtain ⟨other, present, inOther⟩ :=
              inductionHypothesis (fun part present => noStarts part (.tail _ present)) later
            exact ⟨other, .tail _ present, inOther⟩
          · rw [startsWildcard_sectionsText] at starts
            exact absurd starts (by decide)

end Plain

open Plain

namespace PlainQuery

variable (query : PlainQuery)

/-- Whether the filter of a query has a leading wildcard. -/
def hasWildcard : Bool :=
  query.filter.any Filter.hasWildcard

/-- A wildcard in a query stands in its filter. -/
theorem hasWildcard_of_text
    (found : HasWildcard query.text) :
    query.hasWildcard = true := by
  have noQuote {signs : List Char} {text : Text} (uses : Uses signs text)
      (noSign : signs.contains '\'' = false) : '\'' ∉ text :=
    uses.not_mem (by decide) noSign
  have quotes : ∀ part ∈ query.sections, '\'' ∉ part.2 ∨
      ∃ filter, query.filter = some filter ∧ part.2 = filter.text := by
    intro part present
    simp only [sections, List.cons_append, List.nil_append, List.mem_cons, List.mem_append,
      List.mem_map, Option.mem_toList] at present
    rcases present with rfl | rfl | (⟨filter, isFilter, rfl⟩ | ⟨order, -, rfl⟩) | ⟨limit, -, rfl⟩
    · left
      change '\'' ∉ query.selection.text
      cases query.selection with
      | star => decide
      | list columns => exact noQuote columns.uses (by decide)
    · exact .inl (noQuote query.uses_source (by decide))
    · exact .inr ⟨filter, isFilter, rfl⟩
    · exact .inl (noQuote order.uses (by decide))
    · exact .inl (noQuote (limit.uses : Uses [] limit.text) (by decide))
  have noStarts : ∀ part ∈ query.sections, startsWildcard part.2 = false := by
    intro part present
    rcases quotes part present with none | ⟨filter, -, equal⟩
    · rw [Bool.eq_false_iff]
      intro starts
      obtain ⟨lead, rest, equal⟩ := exists_of_startsWildcard starts
      exact none (by rw [equal]; simp)
    · rw [equal]
      exact filter.first.startsWildcard_text _
  obtain ⟨part, present, inPart⟩ := exists_hasWildcard noStarts found
  rcases quotes part present with none | ⟨filter, isFilter, equal⟩
  · exact absurd inPart (not_hasWildcard none)
  · rw [hasWildcard, isFilter]
    exact filter.hasWildcard_of_text (equal ▸ inPart)

end PlainQuery
end SqlReview
