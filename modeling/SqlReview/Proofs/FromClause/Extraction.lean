import SqlReview.Proofs.FromClause.Joins
import SqlReview.Proofs.Query.Hints

/-!
# The tables of a query

A FROM clause is recorded as a whole: the tables in front of its first join, and the joined tables with
their joins. Tables that are listed behind a join are passed over.
-/

namespace SqlReview
namespace FromClause

open Query Plain

/-! ## Whole clauses -/

theorem map_segments (rest : List Continuation) :
    (segments rest).1.map Prod.snd = listedFirst rest ∧
      (segments rest).2.map (·.joined) = joinedItems rest := by
  induction rest with
  | nil => exact ⟨rfl, rfl⟩
  | cons next rest inductionHypothesis =>
      obtain ⟨listed, joined⟩ := inductionHypothesis
      cases next with
      | listed spaced item => exact ⟨congrArg (item :: ·) listed, joined⟩
      | joined next => exact ⟨rfl, congrArg (next :: ·) joined⟩

/-- The top level of a FROM clause. -/
theorem mask_sourceText
    (first : Item)
    (rest : List Continuation) :
    mask (sourceText first rest) =
      first.text ++ (listedItems (segments rest).1 ++
        joinTexts ((segments rest).2.map (Segment.shown mask))) := by
  have closed : ∀ join ∈ (segments rest).2.map (Segment.shown id),
      mask join.1 = join.1 ∧ Plain.IsClosed join.1 ∧ Plain.IsClosed join.2 := by
    intro join present
    obtain ⟨segment, -, rfl⟩ := List.mem_map.mp present
    have kind : mask segment.joined.kind.text = segment.joined.kind.text := by
      cases segment.joined.kind <;> decide
    exact ⟨kind, segment.joined.kind.isPiece.closed, segment.isPiece_target.closed⟩
  obtain ⟨listed, listedClosed⟩ := mask_listedItems (segments rest).1
  rw [sourceText, text_segments, mask_append first.isPiece.closed, first.mask_text,
    mask_append listedClosed, listed, mask_joinTexts closed, List.map_map]
  rfl

theorem isPiece_listedItems
    (first : Item)
    (others : List (Bool × Item)) :
    IsPiece (first.words ++ others.flatMap (·.2.words)) (first.text ++ listedItems others) :=
  first.isPiece.flatMap
    (show ∀ other : Bool × Item, comma other.1 ∈ separators from
      fun other => comma_mem_separators other.1) (fun other => other.2.isPiece) others

/-- What stands behind the word FROM in front of the first join. -/
def frontText (first : Item) (others : List (Bool × Item)) : Text :=
  ' ' :: (first.text ++ listedItems others)

theorem isQuiet_frontText
    (first : Item)
    (others : List (Bool × Item))
    {closing : Text}
    (isGap : IsGap closing)
    (joins : List (Text × Text)) :
    joinKeyword.IsQuiet none (frontText first others) (joinTexts joins ++ closing) := by
  refine isQuiet_joinTexts (fun word present => ?_) isGap joins none
  have isAs : word = "as".toList := by
    rw [(isPiece_listedItems first others).words] at present
    rcases List.mem_append.mp present with inFirst | inOther
    · exact List.mem_singleton.mp (first.words_subset inFirst)
    · obtain ⟨other, -, inWords⟩ := List.mem_flatMap.mp inOther
      exact List.mem_singleton.mp (other.2.words_subset inWords)
  rw [isAs]
  decide

/-- The tables in front of the first join are recorded from the text up to it. -/
theorem collectHeads_frontText
    (first : Item)
    (others : List (Bool × Item))
    (parts : List Segment)
    {closing : Text}
    (isGap : IsGap closing)
    (sources : Sources) :
    collectHeads (frontText first others ++ (joinTexts (parts.map (Segment.shown id)) ++ closing))
        ((frontText first others ++ (joinTexts (parts.map (Segment.shown mask)) ++ closing)).take
          (((parts.map (Segment.shown mask)).head?.map
            fun _ => (frontText first others).length + 1).getD
              (frontText first others ++
                (joinTexts (parts.map (Segment.shown id)) ++ closing)).length)) sources =
      (record sources (first :: others.map Prod.snd) [],
        some ((others.map Prod.snd).getLast?.getD first).table.text) := by
  have recorded {gap : Text} (isGap : IsGap gap) (rest : Text) :
      collectHeads (frontText first others ++ (gap ++ rest)) (frontText first others ++ gap)
        sources = (record sources (first :: others.map Prod.snd) [],
          some ((others.map Prod.snd).getLast?.getD first).table.text) := by
    have heads := collectHeads_eq first others isGap rest sources
    simpa [frontText] using heads
  cases parts with
  | nil =>
      have whole := recorded isGap []
      rw [List.append_nil] at whole
      change collectHeads (frontText first others ++ closing)
        ((frontText first others ++ closing).take (frontText first others ++ closing).length) _ = _
      rw [List.take_length, whole]
  | cons part parts =>
      have split (view : Text → Text) : ∃ rest,
          joinTexts ((part :: parts).map (Segment.shown view)) ++ closing = [' '] ++ rest :=
        ⟨_, rfl⟩
      obtain ⟨rest, body⟩ := split id
      obtain ⟨maskedRest, masked⟩ := split mask
      have upToJoin : (frontText first others ++ ([' '] ++ maskedRest)).take
          ((frontText first others).length + 1) = frontText first others ++ [' '] := by
        rw [← List.append_assoc]
        exact List.take_left' (by simp)
      rw [body, masked]
      change collectHeads _ (List.take ((frontText first others).length + 1) _) _ = _
      rw [upToJoin, recorded (.inr rfl)]

/-- A FROM clause taken apart at its joins is recorded. -/
theorem collectFrom_segments
    (first : Item)
    (others : List (Bool × Item))
    (parts : List Segment)
    {closing : Text}
    (isGap : IsGap closing)
    (sources : Sources) :
    collectFrom
        (frontText first others ++ (joinTexts (parts.map (Segment.shown id)) ++ closing))
        (frontText first others ++ (joinTexts (parts.map (Segment.shown mask)) ++ closing))
        sources =
      record sources (first :: others.map Prod.snd ++ parts.map (·.joined.item))
        (joinsFrom ((others.map Prod.snd).getLast?.getD first).table.text
          (parts.map (·.joined))) := by
  have areJoins : ∀ join ∈ parts.map (Segment.shown mask), IsJoin join := by
    intro join present
    obtain ⟨other, -, rfl⟩ := List.mem_map.mp present
    exact other.isJoin
  have isQuiet := isQuiet_frontText first others isGap (parts.map (Segment.shown mask))
  have start := start_joinTexts areJoins isGap (Text.lastOr none (frontText first others))
    (frontText first others)
  have heads := collectHeads_frontText first others parts isGap sources
  have joins := collectJoins_eq parts (show (frontText first others).length = _ from rfl) isGap
    (Text.lastOr none (frontText first others))
    ((others.map Prod.snd).getLast?.getD first).table.text
    (record sources (first :: others.map Prod.snd) [])
  rw [record_record, List.nil_append] at joins
  rw [← joins, collectFrom]
  simp only [Pattern.occurrences, Pattern.occurrencesFrom_quiet isQuiet, Nat.zero_add, start]
  rw [heads]

/-- The tables of a FROM clause are recorded, apart from those listed behind a join. -/
theorem collectFrom_eq
    (first : Item)
    (rest : List Continuation)
    {closing : Text}
    (isGap : IsGap closing)
    (sources : Sources) :
    collectFrom (' ' :: (sourceText first rest ++ closing))
        (' ' :: (mask (sourceText first rest) ++ closing)) sources =
      record sources (first :: listedFirst rest ++ (joinedItems rest).map (·.item))
        (joinsFrom ((listedFirst rest).getLast?.getD first).table.text (joinedItems rest)) := by
  have recorded := collectFrom_segments first (segments rest).1 (segments rest).2 isGap sources
  obtain ⟨listed, joined⟩ := map_segments rest
  have joinedTables : (segments rest).2.map (·.joined.item) = (joinedItems rest).map (·.item) := by
    rw [← joined, List.map_map]
    rfl
  rw [listed, joined, joinedTables] at recorded
  rw [← recorded, mask_sourceText, sourceText, text_segments]
  simp [frontText]

/-! ## Queries -/

/-- The clauses of a query that selects a column from the tables of a FROM clause. -/
def sectionsOf (column : Identifier) (source : Text) : List Section :=
  [(.select, column.text), (.source, source)]

theorem queryText_eq
    (column : Identifier)
    (source : Text) :
    queryText column source = sectionsText (sectionsOf column source) := by
  rw [sectionsOf, sectionsText_cons_cons, sectionsText_singleton, List.append_assoc]
  rfl

variable (column : Identifier) (first : Item) (rest : List Continuation)

theorem isPiece_content :
    ∀ part ∈ sectionsOf column (sourceText first rest), IsPiece (keywords part.2) part.2 := by
  intro part present
  simp only [sectionsOf, List.mem_cons, List.not_mem_nil, or_false] at present
  rcases present with rfl | rfl
  · exact column.isPiece.words.symm ▸ column.isPiece
  · exact (isPiece_sourceText first rest).1

/-- The reserved words of a query behind the first one. -/
theorem isPiece_queryText :
    IsPiece ("select" :: "from" :: keywords (sourceText first rest))
      (queryText column (sourceText first rest)) := by
  have piece := isPiece_sectionsText (List.cons_ne_nil _ _) (isPiece_content column first rest)
  have select : keywords ClauseKind.select.keyword = ["select".toList] := by decide
  have source : keywords ClauseKind.source.keyword = ["from".toList] := by decide
  rw [List.flatMap_cons, List.flatMap_singleton, sectionWords, sectionWords, select, source,
    column.isPiece.words] at piece
  rw [queryText_eq]
  exact piece

/-- A query has no index hint, so its structure is that of its text as it stands. -/
theorem extract_queryText [CommentRemover] :
    Structure.extract (queryText column (sourceText first rest)) =
      Structure.ofNormal false (queryText column (sourceText first rest)) := by
  have piece := isPiece_queryText column first rest
  have absent : ∀ word ∈ hintWords, word ∉ "select".toList :: "from".toList :: sourceWords := by
    decide
  refine extract_of_isTight piece.chars piece.tight fun word isHintWord present => ?_
  rw [piece.words] at present
  exact absent word isHintWord (List.cons_subset_cons _
    (List.cons_subset_cons _ (isPiece_sourceText first rest).2) present)

theorem scopes_queryText :
    scopes (queryText column (sourceText first rest)) = [] := by
  have split : queryText column (sourceText first rest) = "SELECT".toList ++ ' ' ::
      (column.text ++ ' ' :: ("FROM".toList ++ ' ' :: sourceText first rest)) := rfl
  have isBlank : Text.isWord ' ' = false := by decide
  have absent : "select".toList ∉ Text.words
      (column.text ++ ' ' :: ("FROM".toList ++ ' ' :: sourceText first rest)) := by
    have from_ : keywords "FROM" = ["from".toList] := by decide
    rw [← mem_keywords (by decide), keywords_append_cons isBlank, keywords_append_cons isBlank,
      column.isPiece.words, from_]
    intro present
    have found := List.cons_subset_cons "from".toList (isPiece_sourceText first rest).2 present
    revert found
    decide
  have none := noSubquery fun lead others equal =>
    not_startsWithSelect absent (split.symm.trans equal)
  rw [scopes, none.1]
  rfl

/-- What is recorded of a query: the tables in front of its first join, the joined ones, their
aliases and the joins. -/
theorem allSources_queryText :
    allSources (queryText column (sourceText first rest))
        (mask (queryText column (sourceText first rest))) =
      ⟨distinctNames
          ((first :: listedFirst rest ++ (joinedItems rest).map (·.item)).map (·.table.text)),
        firstMeanings
          ((first :: listedFirst rest ++ (joinedItems rest).map (·.item)).filterMap Item.alias?),
        joinsFrom ((listedFirst rest).getLast?.getD first).table.text (joinedItems rest)⟩ := by
  have inner : ∀ word ∈ sourceWords, startsClause word = false := by decide
  have source := isPiece_sourceText first rest
  have contents : ∀ part ∈ sectionsOf column (sourceText first rest), IsContent part.2 :=
    List.forall_mem_cons.mpr ⟨column.isPiece.isContent, List.forall_mem_singleton.mpr
      (source.1.toIsOutline.isContent fun word present => inner word (source.2 present))⟩
  have isBody : bodyOf? .source (sectionsOf column (sourceText first rest)) =
      some (' ' :: (sourceText first rest ++ [])) := rfl
  have isMasked : bodyOf? .source (viewed mask (sectionsOf column (sourceText first rest))) =
      some (' ' :: (mask (sourceText first rest) ++ [])) := rfl
  obtain ⟨clause, found, body, masked⟩ := exists_clause_of_contents contents
    (by simp [sectionsOf]) isBody isMasked
  rw [← queryText_eq] at found body masked
  rw [allSources, scopes_queryText, List.foldl_nil, collectSources,
    show clause? (clauses (mask (queryText column (sourceText first rest)))) "from" =
      some clause from found]
  simp only [body, masked]
  rw [collectFrom_eq first rest (.inl rfl), record_empty]

end FromClause
end SqlReview
