import SqlReview.Proofs.Plain.Parts
import SqlReview.Proofs.Query.Hints
import SqlReview.Proofs.Query.Normal
import SqlReview.Proofs.Query.Select
import SqlReview.Proofs.Text.Cutting

/-!
# Plain queries as they are examined

A plain query is in normal form already, and it has no subqueries: the only word SELECT stands at
its start. So the structure of the query is that of the text as it stands.
-/

namespace SqlReview

namespace Query

/-! ## Queries without subqueries -/

theorem subqueryHead_occursIn_iff {text : Text} :
    subqueryHead.occursIn text ↔
      ∃ lead rest, text = lead ++ '(' :: rest ∧ StartsWithSelect rest := by
  rw [Pattern.occursIn_iff]
  simp only [subqueryHead, Pattern.covers_char_cons, Pattern.covers_blanks_cons,
    Pattern.covers_letters_edge isSmallWord_select, Pattern.covers_all_nil]
  constructor
  · rintro ⟨lead, _, rest, rfl, _, rfl, blanks, _, rfl, blank, word, _, rfl, folds, outside, rfl⟩
    exact ⟨lead, blanks ++ word ++ rest, by simp, blanks, word, rest, rfl, blank, folds, outside⟩
  · rintro ⟨lead, _, rfl, blanks, word, rest, rfl, blank, folds, outside⟩
    exact ⟨lead, '(' :: (blanks ++ word), rest, by simp, _, rfl, blanks, word, rfl, blank, word, [],
      (List.append_nil word).symm, folds, outside, rfl⟩

/-- A text that starts with SELECT has this word. -/
theorem StartsWithSelect.mem_words
    {text : Text}
    (starts : StartsWithSelect text) :
    "select".toList ∈ Text.words text := by
  obtain ⟨lead, word, rest, rfl, blank, folds, outside⟩ := starts
  have noWord : (Text.lastOr none lead).any Text.isWord = false := by
    cases last : lead.getLast? with
    | none => simp [Text.lastOr, last]
    | some c =>
        have isBlank := blank c (List.mem_of_getLast? last)
        simp [Text.lastOr, last, Text.isWord_of_isBlank isBlank]
  rw [List.append_assoc]
  exact isSmallWord_select.mem_words folds noWord outside

/-- Without a SELECT behind a parenthesis, no subquery opens and everything is seen from
outside. -/
theorem marks_of_noSubquery
    {nest : Nest}
    (noSubqueries : nest.around = 0 ∧ ∀ owner ∈ nest.stack, owner = none)
    {text : Text}
    (absent : ∀ lead rest, text = lead ++ '(' :: rest → ¬StartsWithSelect rest) :
    countFrom nest text = nest.opened ∧ (marksFrom nest text).map (·.outside) = text := by
  induction text generalizing nest with
  | nil => exact ⟨rfl, rfl⟩
  | cons c rest inductionHypothesis =>
      obtain ⟨around, owners⟩ := noSubqueries
      have isSubquery : (c = '(' && startsSubquery (c :: rest)) = false := by
        rw [Bool.eq_false_iff]
        intro both
        rw [Bool.and_eq_true, startsSubquery_iff] at both
        obtain ⟨-, body, equal, starts⟩ := both
        exact absent [] body equal starts
      have absentLater : ∀ lead others, rest = lead ++ '(' :: others → ¬StartsWithSelect others := by
        rintro lead others rfl
        exact absent (c :: lead) others rfl
      have popped : nest.pop.around = 0 ∧ nest.pop.opened = nest.opened ∧
          ∀ owner ∈ nest.pop.stack, owner = none := by
        obtain ⟨stack, opened, depth, inLiteral⟩ := nest
        cases stack with
        | nil => exact ⟨around, rfl, owners⟩
        | cons owner stack =>
            obtain rfl := owners owner (.head _)
            exact ⟨around, rfl, fun owner present => owners owner (.tail _ present)⟩
      have step : (nest.step false c).around = 0 ∧ (nest.step false c).opened = nest.opened ∧
          ∀ owner ∈ (nest.step false c).stack, owner = none := by
        unfold Nest.step
        split
        · exact ⟨around, rfl, owners⟩
        · split
          · exact ⟨around, rfl, owners⟩
          · split
            · refine ⟨around, rfl, fun owner present => ?_⟩
              rcases List.mem_cons.mp present with same | before
              · exact same
              · exact owners owner before
            · split
              · exact popped
              · exact ⟨around, rfl, owners⟩
      obtain ⟨count, outside⟩ := inductionHypothesis ⟨step.1, step.2.2⟩ absentLater
      have seen : (nest.mark c).outside = c := by
        unfold Nest.mark
        split <;> simp [around, popped.1]
      rw [countFrom, marksFrom, isSubquery, List.map_cons, outside, count, step.2.1, seen]
      exact ⟨rfl, rfl⟩

/-- A query without a SELECT behind a parenthesis has no subqueries. -/
theorem noSubquery
    {text : Text}
    (absent : ∀ lead rest, text = lead ++ '(' :: rest → ¬StartsWithSelect rest) :
    subqueryCount text = 0 ∧ outsideView text = text :=
  marks_of_noSubquery ⟨rfl, fun _ present => absurd present List.not_mem_nil⟩ absent

end Query

namespace Plain

open Query

/-! ## Texts in normal form -/

/-- A text with single blanks, without comments and without a semicolon at its end is in normal form. -/
theorem normalize_of_noComment
    [CommentRemover]
    {text : Text}
    (noComment : hasCommentMark text = false)
    (tight : IsTight text)
    (noTerminator : text.getLast? ≠ some ';') :
    normalize text = text := by
  have collapsed : Text.collapse text = text := by
    have single := tight.single false []
    rwa [Text.collapseFrom, List.append_nil] at single
  have trimmed : Text.trim text = text := Text.trim_of_ends tight.starts tight.ends
  have terminated : dropTerminators text = text := by
    refine Text.trimEndWhere_of_last ?_
    have ends := tight.ends
    cases last : text.getLast? with
    | none => rfl
    | some c =>
        rw [last] at ends noTerminator
        have noSemicolon : c ≠ ';' := fun equal => noTerminator (congrArg some equal)
        have noBlank : c ≠ ' ' := by
          rintro rfl
          exact absurd ends (by decide)
        simp [noSemicolon, noBlank]
  rw [normalize_of_plain noComment, collapsed, trimmed, terminated, trimmed]

/-- A text with single blanks, in which no comment and no semicolon can stand, is in normal form. -/
theorem normalize_of_isTight
    [CommentRemover]
    {text : Text}
    (chars : ∀ c ∈ text, isQueryChar c = true)
    (tight : IsTight text) :
    normalize text = text := by
  have absent {c : Char} (isMark : c = '-' ∨ c = '/' ∨ c = '#' ∨ c = ';') : c ∉ text := by
    intro present
    obtain ⟨⟨noDash, noSlash, noHash, noSemicolon⟩, -⟩ := of_isQueryChar (chars c present)
    rcases isMark with rfl | rfl | rfl | rfl
    · exact noDash rfl
    · exact noSlash rfl
    · exact noHash rfl
    · exact noSemicolon rfl
  have noMark : hasCommentMark text = false := by
    rw [hasCommentMark, Bool.or_eq_false_iff, Bool.or_eq_false_iff]
    refine ⟨⟨Bool.eq_false_iff.mpr ?_, Bool.eq_false_iff.mpr ?_⟩, Bool.eq_false_iff.mpr ?_⟩
    · exact fun found => absent (.inl rfl) (Text.mem_of_holds found (.head _))
    · exact fun found => absent (.inr (.inl rfl)) (Text.mem_of_holds found (.head _))
    · exact fun found => absent (.inr (.inr (.inl rfl))) (List.contains_iff_mem.mp found)
  exact normalize_of_noComment noMark tight fun last =>
    absent (.inr (.inr (.inr rfl))) (List.mem_of_getLast? last)

/-- The words with which an index hint can start. -/
def hintWords : List Text :=
  ["use", "force", "ignore", "with"]

/-- The structure of a text in normal form without index hints is that of the text as it stands. -/
theorem extract_of_isTight
    [CommentRemover]
    {text : Text}
    (chars : ∀ c ∈ text, isQueryChar c = true)
    (tight : IsTight text)
    (noHint : ∀ word ∈ hintWords, word ∉ keywords text) :
    Structure.extract text = Structure.ofNormal false text := by
  have absent : indexHint.occursIn text = false := by
    rw [Bool.eq_false_iff]
    intro found
    rcases of_indexHint_occursIn found with slash | ⟨word, isHintWord, present⟩
    · exact (of_isQueryChar (chars '/' slash)).1.2.1 rfl
    · have reserved : ∀ word ∈ hintWords, word ∈ reservedWords := by decide
      exact noHint word isHintWord ((mem_keywords (reserved word isHintWord)).mpr present)
  rw [extract_of_normal (normalize_of_isTight chars tight) tight.nonempty, absent]

/-- Behind a first word SELECT, no parenthesis encloses a subquery without another one. -/
theorem not_startsWithSelect
    {rest lead others : Text}
    (absent : "select".toList ∉ Text.words rest)
    (split : "SELECT".toList ++ ' ' :: rest = lead ++ '(' :: others) :
    ¬StartsWithSelect others := by
  intro starts
  have noOpen : '(' ∉ "SELECT ".toList := by decide
  have inRest : ∃ front, rest = front ++ '(' :: others := by
    rw [List.append_cons] at split
    rcases List.append_eq_append_iff.mp split with ⟨front, -, rest⟩ | ⟨back, head, equal⟩
    · exact ⟨front, rest⟩
    · cases back with
      | nil => exact ⟨[], equal.symm⟩
      | cons c back =>
          obtain ⟨rfl, -⟩ := List.cons.inj equal
          refine absurd ?_ noOpen
          change '(' ∈ "SELECT".toList ++ [' ']
          rw [head]
          simp
  obtain ⟨front, rfl⟩ := inRest
  refine absent ?_
  rw [Text.words_append_cons (by decide)]
  exact List.mem_append_right _ starts.mem_words

/-! ## Clauses on the top level -/

/-- The top level of clauses consists of the top levels of their contents. -/
theorem mask_sectionsText
    {sections : List Section}
    (closed : ∀ part ∈ sections, IsClosed part.2) :
    mask (sectionsText sections) = sectionsText (viewed mask sections) := by
  induction sections with
  | nil => rfl
  | cons part others inductionHypothesis =>
      obtain ⟨kind, content⟩ := part
      have keyword : mask kind.keyword = kind.keyword ∧ IsClosed kind.keyword := by
        cases kind <;> decide
      have blank : mask [' '] = [' '] ∧ IsClosed [' '] := by decide
      have gapEq : mask (gap others) = gap (viewed mask others) ∧ IsClosed (gap others) := by
        cases others with
        | nil => exact ⟨rfl, rfl⟩
        | cons next others => exact blank
      have body : IsClosed (bodyText content others) :=
        blank.2.append ((closed _ (.head _)).append gapEq.2)
      have bodyEq : mask (bodyText content others) =
          bodyText (mask content) (viewed mask others) := by
        change mask ([' '] ++ (content ++ gap others)) = _
        rw [mask_append blank.2, mask_append (closed _ (.head _)), blank.1, gapEq.1]
        rfl
      rw [viewed, List.map_cons, ← viewed, sectionsText_cons, sectionsText_cons,
        mask_append keyword.2, mask_append body, keyword.1, bodyEq,
        inductionHypothesis fun part present => closed part (.tail _ present)]

/-- A content has no keyword of a clause if none is among its reserved words. -/
theorem startsClause_of_keywords
    {content : Text}
    (absent : ∀ word ∈ keywords content, startsClause word = false) :
    ∀ word ∈ Text.words content, startsClause word = false := by
  have reserved : ∀ phrase ∈ clausePhrases, ∀ word ∈ phrase.head?, word ∈ reservedWords := by
    decide
  intro word present
  by_contra starts
  rw [Bool.not_eq_false] at starts
  obtain ⟨phrase, isPhrase, head⟩ := List.any_eq_true.mp starts
  have isReserved := reserved phrase isPhrase word (of_decide_eq_true head)
  rw [absent word ((mem_keywords isReserved).mpr present)] at starts
  exact absurd starts (by decide)

/-- Whether a text can be what a clause contains: an outline without a keyword of a clause on its top
level. -/
structure IsContent (content : Text) : Prop where
  /-- The text can be a part of a query. -/
  outline : IsOutline (keywords (mask content)) content
  /-- No reserved word on its top level starts a clause. -/
  free : ∀ word ∈ keywords (mask content), startsClause word = false

theorem IsOutline.isContent
    {found : List Text}
    {content : Text}
    (outline : IsOutline found content)
    (free : ∀ word ∈ found, startsClause word = false) :
    IsContent content := by
  obtain rfl := outline.topWords
  exact ⟨outline, free⟩

/-- Names and lists of names have no reserved words. -/
theorem IsPiece.isContent
    {content : Text}
    (piece : IsPiece [] content) :
    IsContent content :=
  piece.toIsOutline.isContent (List.forall_mem_nil _)

/-- A query is in normal form. -/
theorem normalize_sectionsText
    [CommentRemover]
    {sections : List Section}
    (nonempty : sections ≠ [])
    (contents : ∀ part ∈ sections, IsContent part.2) :
    normalize (sectionsText sections) = sectionsText sections := by
  have outline := isOutline_sectionsText nonempty fun part present =>
    (contents part present).outline
  exact normalize_of_isTight outline.chars outline.tight

/-- The bodies of clauses, found by the keywords on the top level of a query, in the query and on
its top level. -/
theorem clause?_mask
    {sections : List Section}
    (closed : ∀ part ∈ sections, IsClosed part.2)
    (distinct : (sections.map Prod.fst).Nodup)
    (absent : ∀ part ∈ sections, ∀ word ∈ Text.words (mask part.2), startsClause word = false)
    (kind : ClauseKind) :
    (clause? (clauses (mask (sectionsText sections))) kind.name).map
        (·.body (sectionsText sections)) = bodyOf? kind sections ∧
      (clause? (clauses (mask (sectionsText sections))) kind.name).map
        (·.body (mask (sectionsText sections))) = bodyOf? kind (viewed mask sections) := by
  have same : viewed (fun content => content) (viewed mask sections) = viewed mask sections := by
    simp [viewed]
  have maskDistinct : ((viewed mask sections).map Prod.fst).Nodup := by
    simpa [viewed, Function.comp_def] using distinct
  have maskAbsent : ∀ part ∈ viewed mask sections, ∀ word ∈ Text.words part.2,
      startsClause word = false := by
    intro part present
    obtain ⟨original, inSections, rfl⟩ := List.mem_map.mp present
    exact absent original inSections
  rw [mask_sectionsText closed]
  refine ⟨clause?_sections (by simp [mask]) distinct absent kind, ?_⟩
  rw [← clause?_sections (fun _ => rfl) maskDistinct maskAbsent kind, same]

/-- The clause of a kind, given what stands behind its keyword in the query and on the top level. -/
theorem exists_clause_of_bodyOf?
    {sections : List Section}
    (closed : ∀ part ∈ sections, IsClosed part.2)
    (distinct : (sections.map Prod.fst).Nodup)
    (absent : ∀ part ∈ sections, ∀ word ∈ Text.words (mask part.2), startsClause word = false)
    {kind : ClauseKind}
    {body masked : Text}
    (isBody : bodyOf? kind sections = some body)
    (isMasked : bodyOf? kind (viewed mask sections) = some masked) :
    ∃ clause, clause? (clauses (mask (sectionsText sections))) kind.name = some clause ∧
      clause.body (sectionsText sections) = body ∧
      clause.body (mask (sectionsText sections)) = masked := by
  obtain ⟨bodyEq, maskedEq⟩ := clause?_mask closed distinct absent kind
  rw [isBody, Option.map_eq_some_iff] at bodyEq
  rw [isMasked, Option.map_eq_some_iff] at maskedEq
  obtain ⟨clause, found, body⟩ := bodyEq
  obtain ⟨again, foundAgain, masked⟩ := maskedEq
  obtain rfl : clause = again := Option.some.inj (found.symm.trans foundAgain)
  exact ⟨clause, found, body, masked⟩

theorem exists_clause_of_contents
    {sections : List Section}
    (contents : ∀ part ∈ sections, IsContent part.2)
    (distinct : (sections.map Prod.fst).Nodup)
    {kind : ClauseKind}
    {body masked : Text}
    (isBody : bodyOf? kind sections = some body)
    (isMasked : bodyOf? kind (viewed mask sections) = some masked) :
    ∃ clause, clause? (clauses (mask (sectionsText sections))) kind.name = some clause ∧
      clause.body (sectionsText sections) = body ∧
      clause.body (mask (sectionsText sections)) = masked :=
  exists_clause_of_bodyOf? (fun part present => (contents part present).outline.closed) distinct
    (fun part present => startsClause_of_keywords (contents part present).free) isBody isMasked

end Plain

open Query Plain

namespace PlainQuery

variable (query : PlainQuery)

/-! ## The text of a query -/

/-- What stands behind the first word of a query and the blank behind it. -/
def rest : Text :=
  query.selection.text ++ gap query.sections.tail ++ sectionsText query.sections.tail

theorem text_eq :
    query.text = "SELECT".toList ++ ' ' :: query.rest :=
  sectionsText_cons .select query.selection.text query.sections.tail

theorem keywords_rest :
    keywords query.rest = query.words.tail := by
  have words := query.isPiece.words
  rw [text_eq, keywords_append_cons (by decide),
    show keywords "SELECT" = ["select".toList] by decide] at words
  exact (List.cons.inj words).2

/-- The only word SELECT of a plain query stands at its start. -/
theorem not_startsWithSelect
    {lead others : Text}
    (split : query.text = lead ++ '(' :: others) :
    ¬StartsWithSelect others := by
  rw [text_eq] at split
  refine Plain.not_startsWithSelect (fun present => ?_) split
  rw [← mem_keywords (by decide), keywords_rest] at present
  have later := query.words_tail_subset present
  revert later
  decide

theorem noSubquery :
    subqueryCount query.text = 0 ∧ outsideView query.text = query.text :=
  Query.noSubquery fun _ _ split => query.not_startsWithSelect split

/-! ## Clauses -/

theorem kinds_nodup :
    (query.sections.map Prod.fst).Nodup := by
  rw [sections]
  cases query.filter <;> cases query.order <;> cases query.limit <;> simp

theorem isContent :
    ∀ part ∈ query.sections, IsContent part.2 := by
  have inner : ∀ word ∈ innerWords, startsClause word = false := by decide
  intro part present
  exact (query.isPiece_content part present).toIsOutline.isContent fun word found =>
    inner word (query.content_subset part present found)

/-- The bodies of the clauses of a query, found by the keywords on its top level, and their top
levels. -/
theorem clause?_text (kind : ClauseKind) :
    (clause? (clauses (mask query.text)) kind.name).map (·.body query.text) =
        bodyOf? kind query.sections ∧
      (clause? (clauses (mask query.text)) kind.name).map (·.body (mask query.text)) =
        bodyOf? kind (viewed mask query.sections) :=
  clause?_mask (fun part present => (query.isContent part present).outline.closed) query.kinds_nodup
    (fun part present => startsClause_of_keywords (query.isContent part present).free) kind

end PlainQuery
end SqlReview
