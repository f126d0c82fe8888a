import SqlReview.Proofs.Plain.Items
import SqlReview.Proofs.Plain.Signals
import SqlReview.Proofs.Query.Literals
import SqlReview.Review.Finding

/-!
# The structure of a plain query

What the extraction of the structure finds in a plain query, as far as the core rules look at it:
every signal is that of the part of the query from which it stems.
-/

namespace SqlReview
namespace Query

/-! ## Words outside of literals -/

/-- A literal that is not left open closes. -/
theorem mem_quote_of_closed
    {rest : Text}
    (closed : Depth.outermost.after ('\'' :: rest) = .outermost) :
    '\'' ∈ rest := by
  by_contra noQuote
  have hidden : ∀ c ∈ rest, (⟨0, true⟩ : Depth).shows c = false ∧
      (⟨0, true⟩ : Depth).step c = ⟨0, true⟩ := by
    intro c present
    have isOther : c ≠ '\'' := ne_of_mem_of_not_mem present noQuote
    simp [Depth.shows, Depth.step, isOther]
  have opens : Depth.outermost.step '\'' = ⟨0, true⟩ := rfl
  rw [Depth.after_cons, opens, (Plain.maskFrom_of_hidden hidden).2] at closed
  exact absurd closed (by decide)

/-- Without parentheses, a text with its literals emptied has the words of its top level. -/
theorem words_emptiedFrom
    {text : Text}
    (noParentheses : '(' ∉ text ∧ ')' ∉ text)
    (closed : Depth.outermost.after text = .outermost)
    (lead : Text)
    (before : Option Char)
    (index : Nat) :
    Text.words (lead ++ emptiedFrom before index text) = Text.words (lead ++ mask text) := by
  induction length : text.length using Nat.strongRecOn generalizing text lead before index with
  | ind bound inductionHypothesis =>
    cases text with
    | nil => rfl
    | cons c rest =>
        obtain ⟨noOpen, noClose⟩ := noParentheses
        rw [List.mem_cons, not_or] at noOpen noClose
        by_cases quote : c = '\''
        · subst quote
          have isQuote : Text.isWord '\'' = false := by decide
          obtain ⟨inner, tail, rfl, noQuote⟩ :=
            List.eq_append_cons_of_mem (mem_quote_of_closed closed)
          simp only [List.mem_append, List.mem_cons, not_or] at noOpen noClose
          have isPlain : ∀ c ∈ inner, c ≠ '\'' ∧ c ≠ '(' ∧ c ≠ ')' := fun c present =>
            ⟨ne_of_mem_of_not_mem present noQuote, ne_of_mem_of_not_mem present noOpen.2.1,
              ne_of_mem_of_not_mem present noClose.2.1⟩
          obtain ⟨masked, literalClosed⟩ := Plain.mask_enclosed (.inl rfl) isPlain
          have split : '\'' :: (inner ++ '\'' :: tail) = '\'' :: (inner ++ ['\'']) ++ tail := by
            simp
          have tailClosed : Depth.outermost.after tail = .outermost := by
            rwa [split, Depth.after_append, literalClosed] at closed
          have others := inductionHypothesis tail.length (by rw [← length]; simp; omega)
            ⟨noOpen.2.2.2, noClose.2.2.2⟩ tailClosed [] (some '\'') (index + inner.length + 2) rfl
          have blankWords : Text.words (List.replicate inner.length ' ') = [] :=
            Text.words_of_noWord fun c present => by
              rw [List.eq_of_mem_replicate present]
              decide
          rw [emptiedFrom_literal _ _ noQuote, split, Plain.mask_append literalClosed, masked]
          change Text.words (lead ++ '\'' :: '\'' :: emptiedFrom _ _ tail) =
            Text.words (lead ++ '\'' :: (List.replicate inner.length ' ' ++ ['\''] ++ mask tail))
          rw [Text.words_append_cons isQuote, Text.words_append_cons isQuote, Text.words_cons isQuote,
            List.append_assoc, List.singleton_append, Text.words_append_cons isQuote, blankWords]
          exact congrArg _ others
        · have step : Depth.outermost.step c = .outermost := by
            simp [Depth.step, quote, Ne.symm noOpen.1, Ne.symm noClose.1, Depth.outermost]
          have shows : Depth.outermost.shows c = true := by
            simp [Depth.shows, quote, Ne.symm noClose.1, Depth.outermost]
          rw [Depth.after_cons, step] at closed
          have others := inductionHypothesis rest.length (by simp [← length])
            ⟨noOpen.2, noClose.2⟩ closed (lead ++ [c]) (some c) (index + 1) rfl
          rw [emptiedFrom_cons _ _ (absurd · quote), mask, maskFrom_cons, shows, step,
            List.append_cons]
          exact others.trans (congrArg Text.words (List.append_cons lead c _).symm)

theorem words_withoutLiterals
    {text : Text}
    (noParentheses : '(' ∉ text ∧ ')' ∉ text)
    (closed : Depth.outermost.after text = .outermost) :
    Text.words (withoutLiterals text) = Text.words (mask text) :=
  words_emptiedFrom noParentheses closed [] none 0

/-! ## Items -/

/-- The characters of an item stand in the list. -/
theorem mem_of_mem_items
    {text masked item : Text}
    (isItem : item ∈ items text masked)
    {c : Char}
    (present : c ∈ item) :
    c ∈ text := by
  obtain ⟨span, -, rfl⟩ := List.mem_map.mp isItem
  exact List.mem_of_mem_drop (List.mem_of_mem_take present)

/-- An item is not taken for a direction. -/
theorem beforeFirst_orderDirection_ne_nil
    {c : Char}
    (noBlank : Text.isBlank c = false)
    (rest : Text) :
    orderDirection.beforeFirst (c :: rest) ≠ [] := by
  have nothing : orderDirection.occurrenceAt? ⟨none, 0, c :: rest⟩ = none := by
    refine Pattern.occurrenceAt?_eq_none_iff.mpr fun run others equal covered => ?_
    change c :: rest = run ++ others at equal
    obtain ⟨direction, _, rfl, isDirection, covered⟩ := Pattern.covers_all_cons.mp covered
    obtain ⟨nulls, _, rfl, isNulls, covered⟩ := Pattern.covers_all_cons.mp covered
    obtain ⟨gap, _, rfl, blank, covered⟩ := Pattern.covers_blanks_cons.mp covered
    obtain ⟨ending, _, rfl, ⟨rfl, ends⟩, nothing⟩ := Pattern.covers_all_cons.mp covered
    obtain rfl := Pattern.covers_all_nil.mp nothing
    have noGap {gap tail : Text} (split : c :: rest = gap ++ tail)
        (blank : ∀ d ∈ gap, Text.isBlank d = true) : gap = [] := by
      cases gap with
      | nil => rfl
      | cons d gap =>
          obtain rfl : c = d := (List.cons.inj split).1
          rw [blank c (.head _)] at noBlank
          exact absurd noBlank (by decide)
    have noOption {front tail : Text} {before : Option Char} {body : Pattern}
        (split : c :: rest = front ++ tail)
        (covered : (Pattern.optional (.seq .someBlanks body)).Covers before front tail) :
        front = [] := by
      rcases covered with ⟨blanks, others, rfl, isBlanks, -⟩ | none
      · obtain ⟨nonempty, blank⟩ := Pattern.covers_someBlanks.mp isBlanks
        rw [List.append_assoc] at split
        exact absurd (noGap split blank) nonempty
      · exact none
    rw [List.append_assoc] at equal
    obtain rfl := noOption equal isDirection
    rw [List.nil_append, List.append_assoc] at equal
    obtain rfl := noOption equal isNulls
    rw [List.nil_append, List.append_assoc] at equal
    obtain rfl := noGap equal blank
    rcases ends with rfl | rfl
    · exact absurd equal (List.cons_ne_nil c rest)
    · obtain rfl : c = '\n' := (List.cons.inj equal).1
      exact absurd noBlank (by decide)
  cases found : orderDirection.search (c :: rest) with
  | none =>
      rw [Pattern.beforeFirst, found]
      exact List.cons_ne_nil c rest
  | some occurrence =>
      rw [Pattern.search, Pattern.searchFrom, nothing] at found
      obtain ⟨lead, run, others, -, -, start, -⟩ := Pattern.covers_of_searchFrom found
      rw [Pattern.beforeFirst, Pattern.search, Pattern.searchFrom, nothing, found]
      simp [start, Nat.add_comm 1]

/-! ## Select lists -/

/-- An item without a star is no star. -/
theorem selectsAll_add
    {item : Text}
    (noStar : '*' ∉ item)
    (projection : Projection) :
    (projection.add item).selectsAll = projection.selectsAll := by
  have nothing : starItem.occursIn item = false := by
    rw [Bool.eq_false_iff]
    intro found
    obtain ⟨lead, run, rest, rfl, covered⟩ := Pattern.occursIn_iff.mp found
    obtain ⟨start, _, rfl, -, covered⟩ := Pattern.covers_all_cons.mp covered
    obtain ⟨table, _, rfl, -, covered⟩ := Pattern.covers_all_cons.mp covered
    obtain ⟨_, rfl, -⟩ := Pattern.covers_char_cons.mp covered
    exact noStar (by simp)
  rw [Projection.add, nothing, if_neg Bool.false_ne_true]
  split
  · split <;> rfl
  · split
    · rfl
    · simp only
      split <;> rfl

/-- A select list without a star does not select everything. -/
theorem selectsAll_ofClause
    {body : Text}
    (noStar : '*' ∉ body)
    (masked : Text) :
    (Projection.ofClause body masked).selectsAll = false := by
  have fold (items : List Text) (noStars : ∀ item ∈ items, '*' ∉ item) (projection : Projection) :
      (items.foldl Projection.add projection).selectsAll = projection.selectsAll := by
    induction items generalizing projection with
    | nil => rfl
    | cons item items inductionHypothesis =>
        rw [List.foldl_cons, inductionHypothesis fun item present => noStars item (.tail _ present),
          selectsAll_add (noStars item (.head _))]
  refine fold _ (fun item isItem star => noStar ?_) {}
  exact List.mem_of_mem_drop (mem_of_mem_items isItem star)

end Query

namespace Plain

open Query

/-! ## Bodies of clauses -/

/-- A view that leaves the clauses of a kind as they are does not change the body of the first. -/
theorem bodyOf?_viewed
    {view : Text → Text}
    {kind : ClauseKind}
    {sections : List Section}
    (same : ∀ part ∈ sections, part.1 = kind → view part.2 = part.2) :
    bodyOf? kind (viewed view sections) = bodyOf? kind sections := by
  induction sections with
  | nil => rfl
  | cons part rest inductionHypothesis =>
      obtain ⟨found, content⟩ := part
      have others := inductionHypothesis fun part present => same part (.tail _ present)
      rw [viewed, List.map_cons, ← viewed, bodyOf?, bodyOf?, others]
      split
      · rename_i isKind
        have content := same _ (.head _) isKind
        have gapEq : gap (viewed view rest) = gap rest := by simp [gap, viewed]
        change some (bodyText (view _) _) = _
        rw [content, bodyText, bodyText, gapEq]
      · rfl

theorem gap_eq (rest : List Section) :
    gap rest = [] ∨ gap rest = [' '] := by
  rw [gap]
  split
  · exact .inl rfl
  · exact .inr rfl

/-- A list of columns is taken apart into its columns. -/
theorem Columns.items_text
    (columns : Columns)
    {closing : Text}
    (isGap : IsGap closing) :
    items (' ' :: (columns.text ++ closing)) (' ' :: (columns.text ++ closing)) =
      columns.first.text :: columns.others.map (·.2.text) := by
  have isItem (column : Column) : IsItem column.text :=
    ⟨column.isPiece.tight, (column.uses (show ['.'].contains '.' = true by decide)).not_mem
      (by decide) (by decide)⟩
  have areItems : ∀ other ∈ columns.others.map fun other => (other.1, other.2.text),
      IsItem other.2 := by
    intro other present
    obtain ⟨column, -, rfl⟩ := List.mem_map.mp present
    exact isItem column.2
  have found := items_listedText (isItem columns.first) areItems (.inr rfl) isGap
  simpa [listedText, Columns.text, List.flatMap_map, Function.comp_def] using found

/-- Outside of literals a filter has an OR if some of its predicates are alternatives. -/
theorem Filter.hasOr_view
    (filter : Filter)
    {closing : Text}
    (isGap : closing = [] ∨ closing = [' ']) :
    Query.hasOr (' ' :: (filter.text ++ closing)) = filter.hasOr := by
  have isBlank : Text.isWord ' ' = false := by decide
  have gapFacts : mask closing = closing ∧ IsClosed closing ∧ keywords closing = [] := by
    rcases isGap with rfl | rfl <;> decide
  obtain ⟨gapMask, gapClosed, gapWords⟩ := gapFacts
  have blank : mask [' '] = [' '] ∧ IsClosed [' '] := by decide
  have absent {c : Char} (noName : isNameChar c = false) (noSign : filterSigns.contains c = false)
      (noBlank : c ≠ ' ') : c ∉ ' ' :: (filter.text ++ closing) := by
    have inFilter : c ∉ filter.text := filter.uses.not_mem noName noSign
    rcases isGap with rfl | rfl <;> simp [inFilter, noBlank]
  have closed : IsClosed ([' '] ++ (filter.text ++ closing)) :=
    blank.2.append (filter.isPiece.closed.append gapClosed)
  have top : keywords (mask ([' '] ++ (filter.text ++ closing))) = filter.words := by
    rw [mask_append blank.2, mask_append filter.isPiece.closed, blank.1, gapMask,
      List.singleton_append, keywords_cons isBlank]
    rcases isGap with rfl | rfl
    · rw [List.append_nil, filter.isPiece.topWords]
    · rw [keywords_append_cons isBlank, filter.isPiece.topWords]
      exact List.append_nil _
  rw [Bool.eq_iff_iff, Query.hasOr, orKeyword, Pattern.word_occursIn_iff (by decide),
    words_withoutLiterals ⟨absent (by decide) (by decide) (by decide),
      absent (by decide) (by decide) (by decide)⟩ closed, ← filter.or_mem_words, ← top,
    mem_keywords (by decide)]
  rfl

end Plain

open Plain

namespace PlainQuery

open Query

variable (query : PlainQuery)

theorem bodyOf?_select :
    bodyOf? .select query.sections = some (' ' :: (query.selection.text ++ [' '])) := rfl

theorem exists_bodyOf?_filter :
    ∃ closing, (closing = [] ∨ closing = [' ']) ∧ bodyOf? .filter query.sections =
      query.filter.map fun filter => ' ' :: (filter.text ++ closing) := by
  rw [sections]
  cases query.filter with
  | none =>
      refine ⟨[], .inl rfl, ?_⟩
      cases query.order <;> cases query.limit <;> rfl
  | some filter =>
      exact ⟨_, gap_eq (query.order.toList.map (fun order => (.order, order.text)) ++
        query.limit.toList.map (fun limit => (.limit, limit.text))), by simp [bodyOf?, bodyText]⟩

theorem exists_bodyOf?_order :
    ∃ closing, (closing = [] ∨ closing = [' ']) ∧ bodyOf? .order query.sections =
      query.order.map fun order => ' ' :: (order.text ++ closing) := by
  rw [sections]
  cases query.order with
  | none =>
      refine ⟨[], .inl rfl, ?_⟩
      cases query.filter <;> cases query.limit <;> rfl
  | some order =>
      refine ⟨_, gap_eq (query.limit.toList.map (fun limit => (.limit, limit.text))), ?_⟩
      cases query.filter <;> simp [bodyOf?, bodyText]

/-- Select lists and orders have no marks that enclose. -/
theorem mask_content
    {kind : ClauseKind}
    (isPlain : kind = .select ∨ kind = .order) :
    ∀ part ∈ query.sections, part.1 = kind → mask part.2 = part.2 := by
  have columns (columns : Columns) : mask columns.text = columns.text :=
    mask_of_uses columns.uses (by decide)
  intro part present isKind
  simp only [sections, List.cons_append, List.nil_append, List.mem_cons, List.mem_append,
    List.mem_map] at present
  rcases present with rfl | rfl | (⟨filter, -, rfl⟩ | ⟨order, -, rfl⟩) | ⟨limit, -, rfl⟩
  · change mask query.selection.text = query.selection.text
    cases query.selection with
    | star => decide
    | list list => exact columns list
  · rcases isPlain with rfl | rfl <;> cases isKind
  · rcases isPlain with rfl | rfl <;> cases isKind
  · exact columns order
  · rcases isPlain with rfl | rfl <;> cases isKind

/-- The body of such a clause is its own top level. -/
theorem exists_clause
    {kind : ClauseKind}
    (isPlain : kind = .select ∨ kind = .order)
    {body : Text}
    (isBody : bodyOf? kind query.sections = some body) :
    ∃ clause, clause? (clauses (mask query.text)) kind.name = some clause ∧
      clause.body query.text = body ∧ clause.body (mask query.text) = body := by
  have isMasked := bodyOf?_viewed (query.mask_content isPlain)
  exact exists_clause_of_contents query.isContent query.kinds_nodup isBody (isMasked.trans isBody)

/-! ## Signals of the structure -/

/-- A plain query has no index hint, so its structure is that of its text in normal form. -/
theorem extract_text [CommentRemover] :
    Structure.extract query.text = Structure.ofNormal false query.text := by
  refine extract_of_isTight query.isPiece.chars query.isPiece.tight fun word isHintWord => ?_
  have listed : word ∈ ["fetch".toList, "top".toList, "index".toList, "use".toList,
      "force".toList, "ignore".toList, "with".toList] :=
    List.mem_append_right ["fetch".toList, "top".toList, "index".toList] isHintWord
  rw [query.isPiece.words]
  exact (query.absent_words word listed).2

/-- Everything is selected by a star only. -/
theorem selectsAllColumns_text :
    (Structure.ofNormal false query.text).selectsAllColumns = query.selection.isStar := by
  obtain ⟨clause, found, body, masked⟩ := query.exists_clause (.inl rfl) query.bodyOf?_select
  unfold Structure.ofNormal
  dsimp only
  rw [show clause? (clauses (mask query.text)) "select" = some clause from found]
  simp only [body, masked]
  cases query.selection with
  | star => decide
  | list columns =>
      have noStar : '*' ∉ columns.text := columns.uses.not_mem (by decide) (by decide)
      exact selectsAll_ofClause (by simpa [Selection.text] using noStar) _

/-- Rows are sorted if there is an order. -/
theorem orderByColumns_text :
    (Structure.ofNormal false query.text).orderByColumns.isEmpty = query.order.isNone := by
  unfold Structure.ofNormal
  dsimp only
  obtain ⟨closing, isGap, bodyEq⟩ := query.exists_bodyOf?_order
  cases isOrder : query.order with
  | none =>
      have nothing := (query.clause?_text .order).1
      rw [bodyEq, isOrder, Option.map_none, Option.map_eq_none_iff] at nothing
      rw [clauseItems, show clause? (clauses (mask query.text)) "order by" = none from nothing]
      rfl
  | some order =>
      rw [isOrder, Option.map_some] at bodyEq
      obtain ⟨clause, found, body, masked⟩ := query.exists_clause (.inr rfl) bodyEq
      rw [clauseItems, show clause? (clauses (mask query.text)) "order by" = some clause from found]
      simp only [body, masked]
      obtain ⟨c, rest, first⟩ := List.exists_cons_of_ne_nil order.first.text_ne_nil
      have noBlank := (plain_of_isSolid order.first.isSolid_text c (by rw [first]; simp)).1
      have nonempty : orderDirection.beforeFirst order.first.text ≠ [] := by
        rw [first]
        exact beforeFirst_orderDirection_ne_nil noBlank rest
      rw [order.items_text isGap, List.map_cons, List.filter_cons_of_pos (by simpa using nonempty)]
      rfl

/-- Rows are limited if there is a limit. -/
theorem hasLimit_text :
    (Structure.ofNormal false query.text).hasLimit = query.limit.isSome := by
  have noWord {word : Text} (absent : word ∈ reservedWords ∧ word ∉ query.words) :
      word ∉ Text.words (mask query.text) := by
    rw [query.mem_words_mask absent.1]
    exact absent.2
  unfold Structure.ofNormal
  dsimp only
  rw [Bool.eq_iff_iff, rowLimit_occursIn_iff (noWord (query.absent_words _ (by decide)))
    (noWord (query.absent_words _ (by decide))), query.mem_words_mask (by decide)]
  exact query.limit_mem_words

/-- The condition of a query is its filter, seen from outside. -/
theorem exists_condition :
    ∃ closing, (closing = [] ∨ closing = [' ']) ∧
      ((clause? (clauses (mask query.text)) "where").map fun clause =>
        clause.body (outsideView query.text)) =
          query.filter.map fun filter => ' ' :: (filter.text ++ closing) := by
  obtain ⟨closing, isGap, bodyEq⟩ := query.exists_bodyOf?_filter
  refine ⟨closing, isGap, ?_⟩
  rw [query.noSubquery.2, ← bodyEq]
  exact (query.clause?_text .filter).1

theorem hasWhere_text :
    (Structure.ofNormal false query.text).hasWhere = query.filter.isSome := by
  obtain ⟨closing, -, condition⟩ := query.exists_condition
  unfold Structure.ofNormal
  dsimp only
  rw [condition, Option.isSome_map]

theorem whereColumns_text :
    (Structure.ofNormal false query.text).whereColumns.any (·.hasLeadingWildcard) =
      query.hasWildcard := by
  obtain ⟨closing, isGap, condition⟩ := query.exists_condition
  unfold Structure.ofNormal
  dsimp only
  rw [condition, hasWildcard]
  cases query.filter with
  | none => rfl
  | some filter => exact filter.any_whereColumns isGap

theorem hasOrInWhere_text :
    (Structure.ofNormal false query.text).hasOrInWhere = query.filter.any Filter.hasOr := by
  obtain ⟨closing, isGap, condition⟩ := query.exists_condition
  unfold Structure.ofNormal
  dsimp only
  rw [condition]
  cases query.filter with
  | none => rfl
  | some filter => exact filter.hasOr_view isGap

theorem hasUnconditionedJoin_structure :
    (Structure.ofNormal false query.text).hasUnconditionedJoin =
      query.joined.any (·.condition.isMissing) := by
  have noScopes : scopes query.text = [] := by
    rw [scopes, query.noSubquery.1]
    rfl
  have forms := forms_allSources query.text (mask query.text)
  rw [noScopes, List.map_nil, List.flatMap_nil, List.append_nil] at forms
  rw [← query.any_lacksCondition, ← forms, List.any_map]
  rfl

end PlainQuery
end SqlReview
