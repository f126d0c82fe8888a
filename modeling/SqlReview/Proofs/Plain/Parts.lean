import SqlReview.Proofs.Plain.Pieces
import SqlReview.Proofs.Plain.Sections
import SqlReview.Proofs.Text.Cutting

/-!
# The parts of a plain query

Every part of a plain query is a piece. Its keywords are those of the grammar, in the order of the
grammar: names and literals have none.
-/

namespace SqlReview
namespace Plain

open Query

/-! ## Solid texts -/

/-- Whether a character of plain queries is neither white space nor a mark that encloses. -/
def isSolidChar (c : Char) : Bool :=
  isQueryChar c && !Text.isBlank c && !(['\'', '(', ')'].contains c)

theorem of_isSolidChar
    {c : Char}
    (isSolid : isSolidChar c = true) :
    isQueryChar c = true ∧ Text.isBlank c = false ∧ (c ≠ '\'' ∧ c ≠ '(' ∧ c ≠ ')') := by
  simp only [isSolidChar, Bool.and_eq_true, Bool.not_eq_true'] at isSolid
  obtain ⟨⟨isQuery, noBlank⟩, noMark⟩ := isSolid
  simp at noMark
  exact ⟨isQuery, noBlank, noMark⟩

theorem isSolidChar_of_isNameChar
    {c : Char}
    (isName : isNameChar c = true) :
    isSolidChar c = true := by
  have ascii := ascii_of_isNameChar isName
  revert isName
  apply Text.forall_ascii _ c ascii
  decide

theorem ascii_of_isNumeralChar
    {c : Char}
    (isDigit : isNumeralChar c = true) :
    c.toNat < 0x80 :=
  Text.ascii_of_between isDigit (by decide)

theorem isSolidChar_of_isLiteralChar
    {c : Char}
    (isLiteral : isLiteralChar c = true) :
    isSolidChar c = true := by
  have ascii : c.toNat < 0x80 := by
    simp only [isLiteralChar, Bool.or_eq_true, Bool.and_eq_true, decide_eq_true_eq] at isLiteral
    rcases isLiteral with ((⟨-, le⟩ | ⟨-, le⟩) | isDigit) | rfl
    · exact Text.toNat_lt_of_le le (by decide)
    · exact Text.toNat_lt_of_le le (by decide)
    · exact ascii_of_isNumeralChar isDigit
    · decide
  revert isLiteral
  apply Text.forall_ascii _ c ascii
  decide

/-- A solid text is a piece. -/
theorem isPiece_of_isSolid
    {found : List Text}
    {text : Text}
    (nonempty : text ≠ [])
    (isSolid : text.all isSolidChar = true)
    (words : keywords text = found) :
    IsPiece found text := by
  have each : ∀ c ∈ text, isSolidChar c = true := List.all_eq_true.mp isSolid
  obtain ⟨masked, closed⟩ := mask_of_isPlain fun c present => (of_isSolidChar (each c present)).2.2
  refine ⟨⟨?_, isTight_of_noBlank nonempty ?_, closed, by rw [masked, words]⟩, words⟩
  · exact fun c present => (of_isSolidChar (each c present)).1
  · exact fun c present => (of_isSolidChar (each c present)).2.1

/-- An enclosed solid text is an outline, whatever words it has. -/
theorem isOutline_enclosed
    {opening closing : Char}
    (isPair : (opening, closing) = ('\'', '\'') ∨ (opening, closing) = ('(', ')'))
    {inner : Text}
    (isSolid : inner.all isSolidChar = true) :
    IsOutline [] (opening :: (inner ++ [closing])) := by
  have each : ∀ c ∈ inner, isSolidChar c = true := List.all_eq_true.mp isSolid
  obtain ⟨masked, closed⟩ :=
    mask_enclosed isPair fun c present => (of_isSolidChar (each c present)).2.2
  obtain ⟨⟨openingQuery, openingBlank, openingWord⟩, closingQuery, closingBlank, closingWord⟩ :
      (isQueryChar opening = true ∧ Text.isBlank opening = false ∧ Text.isWord opening = false) ∧
        isQueryChar closing = true ∧ Text.isBlank closing = false ∧
          Text.isWord closing = false := by
    rcases isPair with equal | equal <;> obtain ⟨rfl, rfl⟩ := Prod.mk.inj equal <;> decide
  have plain : ∀ c ∈ opening :: (inner ++ [closing]),
      isQueryChar c = true ∧ Text.isBlank c = false := by
    intro c present
    rcases List.mem_cons.mp present with rfl | inRest
    · exact ⟨openingQuery, openingBlank⟩
    · rcases List.mem_append.mp inRest with inInner | last
      · obtain ⟨isQuery, noBlank, -⟩ := of_isSolidChar (each c inInner)
        exact ⟨isQuery, noBlank⟩
      · obtain rfl := List.mem_singleton.mp last
        exact ⟨closingQuery, closingBlank⟩
  have tight := isTight_of_noBlank (List.cons_ne_nil opening (inner ++ [closing]))
    fun c present => (plain c present).2
  refine ⟨fun c present => (plain c present).1, tight, closed, ?_⟩
  rw [masked]
  exact keywords_enclosed_blanks ⟨openingWord, closingWord⟩ inner.length

/-- An enclosed text has the reserved words of what is enclosed. -/
theorem keywords_enclosed
    {opening closing : Char}
    (noWord : Text.isWord opening = false ∧ Text.isWord closing = false)
    (inner : Text) :
    keywords (opening :: (inner ++ [closing])) = keywords inner := by
  rw [keywords_cons noWord.1, keywords_append_cons noWord.2]
  exact List.append_nil _

/-- An enclosed solid text without reserved words is a piece. -/
theorem isPiece_enclosed
    {opening closing : Char}
    (isPair : (opening, closing) = ('\'', '\'') ∨ (opening, closing) = ('(', ')'))
    {inner : Text}
    (isSolid : inner.all isSolidChar = true)
    (isFree : keywords inner = []) :
    IsPiece [] (opening :: (inner ++ [closing])) := by
  refine ⟨isOutline_enclosed isPair isSolid, ?_⟩
  rcases isPair with equal | equal <;> obtain ⟨rfl, rfl⟩ := Prod.mk.inj equal
  · exact (keywords_enclosed (by decide) inner).trans isFree
  · exact (keywords_enclosed (by decide) inner).trans isFree

/-- A piece directly in front of an enclosed one is a piece. -/
theorem IsPiece.call
    {found : List Text}
    {first inner : Text}
    (piece : IsPiece found first)
    (isSolid : inner.all isSolidChar = true)
    (isFree : keywords inner = []) :
    IsPiece found (first ++ '(' :: (inner ++ [')'])) := by
  have enclosed := isPiece_enclosed (.inr rfl) isSolid isFree
  have isOpen : Text.isWord '(' = false := by decide
  have plain : ∀ c ∈ inner, c ≠ '\'' ∧ c ≠ '(' ∧ c ≠ ')' := fun c present =>
    (of_isSolidChar (List.all_eq_true.mp isSolid c present)).2.2
  have noWords {rest : Text} (none : keywords ('(' :: rest) = []) : keywords rest = [] :=
    (keywords_cons isOpen rest).symm.trans none
  refine ⟨⟨?_, piece.tight.append enclosed.tight, piece.closed.append enclosed.closed, ?_⟩, ?_⟩
  · intro c present
    exact (List.mem_append.mp present).elim (piece.chars c) (enclosed.chars c)
  · have none := enclosed.topWords
    rw [(mask_enclosed (.inr rfl) plain).1] at none
    rw [mask_append piece.closed, (mask_enclosed (.inr rfl) plain).1, keywords_append_cons isOpen,
      piece.topWords, noWords none, List.append_nil]
  · rw [keywords_append_cons isOpen, piece.words, noWords enclosed.words, List.append_nil]

/-! ## Names and columns -/

theorem Name.isNameChar_of_mem
    (name : Name)
    {c : Char}
    (present : c ∈ name.text) :
    isNameChar c = true := by
  rcases List.mem_cons.mp present with rfl | inOthers
  · rw [isNameChar, name.starts, Bool.true_or]
  · exact name.continues c inOthers

theorem Name.words_text (name : Name) :
    Text.words name.text = [name.text.map Text.foldLetter] :=
  Text.words_of_isWord (List.cons_ne_nil _ _) fun _ present =>
    (of_isNameChar (name.isNameChar_of_mem present)).1

theorem Name.keywords_text (name : Name) :
    keywords name.text = [] := by
  rw [keywords, name.words_text, List.filter_eq_nil_iff]
  intro word present
  obtain rfl := List.mem_singleton.mp present
  have isFree : name.text.map Text.foldLetter ∉ reservedWords := name.isFree
  simpa using isFree

theorem Name.isSolid_text (name : Name) :
    name.text.all isSolidChar = true :=
  List.all_eq_true.mpr fun _ present =>
    isSolidChar_of_isNameChar (name.isNameChar_of_mem present)

theorem Name.isPiece (name : Name) :
    IsPiece [] name.text := by
  have nonempty : name.text ≠ [] := List.cons_ne_nil name.first name.others
  exact isPiece_of_isSolid nonempty name.isSolid_text name.keywords_text

theorem Column.isPiece (column : Column) :
    IsPiece [] column.text := by
  obtain ⟨table, name⟩ := column
  cases table with
  | none => exact name.isPiece
  | some table => exact table.isPiece.separated (show ['.'] ∈ separators by decide) name.isPiece

theorem Column.isSolid_text (column : Column) :
    column.text.all isSolidChar = true := by
  obtain ⟨table, name⟩ := column
  cases table with
  | none => exact name.isSolid_text
  | some table =>
      have dot : isSolidChar '.' = true := by decide
      rw [Column.text, List.all_append, List.all_cons, table.isSolid_text, name.isSolid_text, dot]
      rfl

theorem comma_mem_separators (spaced : Bool) :
    comma spaced ∈ separators := by
  cases spaced <;> decide

theorem Columns.isPiece (columns : Columns) :
    IsPiece [] columns.text := by
  have piece := columns.first.isPiece.flatMap
    (fun other : Bool × Column => comma_mem_separators other.1) (fun other => other.2.isPiece)
    columns.others
  rwa [List.flatMap_eq_nil_iff.mpr (fun _ _ => rfl)] at piece

/-! ## Tables -/

theorem Table.isPiece (table : Table) :
    IsPiece [] table.text := by
  obtain ⟨name, aliasName⟩ := table
  cases aliasName with
  | none => exact name.isPiece
  | some aliasName =>
      exact name.isPiece.separated (show [' '] ∈ separators by decide) aliasName.isPiece

/-! ## Joins -/

theorem blank_mem_separators :
    [' '] ∈ separators := by
  decide

/-- Solid texts with single blanks between them are a piece. -/
theorem isPiece_of_words
    {text : Text}
    (areWords : ∀ word ∈ Text.splitAt ' ' text, word ≠ [] ∧ word.all isSolidChar = true) :
    IsPiece (keywords text) text := by
  induction text using Text.pieces_induction ' ' with
  | last word absent =>
      rw [Text.splitAt_of_not_mem absent, List.forall_mem_singleton] at areWords
      exact isPiece_of_isSolid areWords.1 areWords.2 rfl
  | more word rest absent inductionHypothesis =>
      rw [Text.splitAt_append_cons absent, List.forall_mem_cons] at areWords
      obtain ⟨⟨nonempty, isSolid⟩, areBehind⟩ := areWords
      have whole := (isPiece_of_isSolid nonempty isSolid rfl).separated blank_mem_separators
        (inductionHypothesis areBehind)
      rw [← whole.words] at whole
      exact whole

theorem JoinKind.isPiece (kind : JoinKind) :
    IsPiece (keywords kind.text) kind.text := by
  cases kind <;> exact isPiece_of_words (by decide)

/-- The keywords of the condition of a join. -/
def JoinCondition.words : JoinCondition → List Text
  | .none => []
  | .on _ _ => ["on"]
  | .shared _ => ["using"]

/-- The keywords of a further table. -/
def JoinedTable.words (joined : JoinedTable) : List Text :=
  keywords joined.kind.text ++ joined.condition.words

/-- A piece with an equation behind ON is a piece. -/
theorem IsPiece.on
    {found : List Text}
    {text first second : Text}
    (piece : IsPiece found text)
    (firstPiece : IsPiece [] first)
    (secondPiece : IsPiece [] second) :
    IsPiece (found ++ ["on".toList])
      (text ++ (" ON ".toList ++ (first ++ (" = ".toList ++ second)))) := by
  have on : IsPiece ["on".toList] "ON" := isPiece_of_isSolid (by decide) (by decide) (by decide)
  have eq : IsPiece [] "=" := isPiece_of_isSolid (by decide) (by decide) (by decide)
  have equation := firstPiece.separated blank_mem_separators
    (eq.separated blank_mem_separators secondPiece)
  have whole := piece.separated blank_mem_separators (on.separated blank_mem_separators equation)
  exact whole

/-- A piece with a list behind USING is a piece. -/
theorem IsPiece.shared
    {found : List Text}
    {text inner : Text}
    (piece : IsPiece found text)
    (isSolid : inner.all isSolidChar = true)
    (isFree : keywords inner = []) :
    IsPiece (found ++ ["using".toList])
      (text ++ (" USING (".toList ++ (inner ++ ")".toList))) := by
  have shared : IsPiece ["using".toList] "USING" :=
    isPiece_of_isSolid (by decide) (by decide) (by decide)
  have target := isPiece_enclosed (.inr rfl) isSolid isFree
  have whole := piece.separated blank_mem_separators
    (shared.separated blank_mem_separators target)
  exact whole

theorem JoinCondition.isPiece_append
    (condition : JoinCondition)
    {found : List Text}
    {text : Text}
    (piece : IsPiece found text) :
    IsPiece (found ++ condition.words) (text ++ condition.text) := by
  cases condition with
  | none =>
      change IsPiece (found ++ []) (text ++ [])
      rwa [List.append_nil, List.append_nil]
  | on first second => exact piece.on first.isPiece second.isPiece
  | shared column => exact piece.shared column.isSolid_text column.isPiece.words

theorem JoinedTable.isPiece (joined : JoinedTable) :
    IsPiece joined.words joined.text := by
  have head := joined.kind.isPiece.separated blank_mem_separators joined.table.isPiece
  have whole := joined.condition.isPiece_append head
  rw [List.append_nil] at whole
  simpa [JoinedTable.words, JoinedTable.text] using whole

/-! ## Conditions -/

/-- No reserved word has digits. -/
theorem keywords_numeral (numeral : Numeral) :
    keywords numeral.text = [] := by
  obtain ⟨text, nonempty, digits⟩ := numeral
  have folds {c : Char} (isDigit : isNumeralChar c = true) :
      Text.isWord c = true ∧ isNumeralChar (Text.foldLetter c) = true := by
    have ascii := ascii_of_isNumeralChar isDigit
    revert isDigit
    apply Text.forall_ascii _ c ascii
    decide
  have noDigits : ∀ word ∈ reservedWords, word.all (fun c => !isNumeralChar c) = true := by
    decide
  rw [keywords, Text.words_of_isWord nonempty fun c present => (folds (digits c present)).1,
    List.filter_eq_nil_iff]
  rintro word present reserved
  obtain rfl := List.mem_singleton.mp present
  obtain ⟨c, rest, rfl⟩ := List.exists_cons_of_ne_nil nonempty
  have noDigit := List.all_eq_true.mp (noDigits _ (List.contains_iff_mem.mp reserved))
    (Text.foldLetter c) (.head _)
  rw [(folds (digits c (.head _))).2] at noDigit
  exact absurd noDigit (by decide)

theorem Numeral.isSolid_text (numeral : Numeral) :
    numeral.text.all isSolidChar = true :=
  List.all_eq_true.mpr fun c present => isSolidChar_of_isLiteralChar (by
    simp [isLiteralChar, numeral.digits c present])

theorem LiteralText.isSolid_text (content : LiteralText) :
    content.text.all isSolidChar = true :=
  List.all_eq_true.mpr fun c present => isSolidChar_of_isLiteralChar (content.plain c present)

theorem Value.isPiece (value : Value) :
    IsPiece [] value.text := by
  cases value with
  | number numeral =>
      exact isPiece_of_isSolid numeral.nonempty numeral.isSolid_text (keywords_numeral numeral)
  | literal content =>
      refine isPiece_enclosed (.inl rfl) content.isSolid_text ?_
      rw [keywords, List.filter_eq_nil_iff]
      intro word present
      simpa using content.isFree word present

theorem Comparator.isPiece (comparator : Comparator) :
    IsPiece (keywords comparator.text) comparator.text := by
  cases comparator <;> exact isPiece_of_isSolid (by decide) (by decide) rfl

theorem Predicate.isPiece (predicate : Predicate) :
    IsPiece (keywords predicate.comparator.text) predicate.text := by
  have comparison := predicate.comparator.isPiece.separated blank_mem_separators
    predicate.value.isPiece
  have whole := predicate.column.isPiece.separated blank_mem_separators comparison
  rwa [List.nil_append, List.append_nil] at whole

theorem Connective.isPiece (connective : Connective) :
    IsPiece (keywords connective.text) connective.text := by
  cases connective <;> exact isPiece_of_isSolid (by decide) (by decide) rfl

/-- The keywords of a filter. -/
def Filter.words (filter : Filter) : List Text :=
  keywords filter.first.comparator.text ++ filter.others.flatMap fun other =>
    keywords other.1.text ++ keywords other.2.comparator.text

theorem Filter.isPiece (filter : Filter) :
    IsPiece filter.words filter.text :=
  filter.first.isPiece.flatMap (fun _ => blank_mem_separators)
    (fun other => other.1.isPiece.separated blank_mem_separators other.2.isPiece) filter.others

/-- The reserved words that can stand among the tables of a plain query. -/
def tableWords : List Text :=
  ["join", "inner", "left", "right", "cross", "full", "outer", "on", "using"]

/-- The reserved words that can stand in a filter. -/
def filterWords : List Text :=
  ["and", "or", "like"]

/-- The reserved words that can stand inside the clauses of a plain query. -/
def innerWords : List Text :=
  tableWords ++ filterWords

theorem JoinedTable.words_subset (joined : JoinedTable) :
    joined.words ⊆ tableWords := by
  have kinds (kind : JoinKind) : keywords kind.text ⊆ tableWords := by
    cases kind <;> decide
  refine List.append_subset.mpr ⟨kinds joined.kind, ?_⟩
  cases joined.condition <;> simp [JoinCondition.words, tableWords]

theorem Filter.words_subset (filter : Filter) :
    filter.words ⊆ filterWords := by
  have comparator (comparator : Comparator) : keywords comparator.text ⊆ filterWords := by
    cases comparator <;> decide
  have connective (connective : Connective) : keywords connective.text ⊆ filterWords := by
    cases connective <;> decide
  refine List.append_subset.mpr ⟨comparator _, fun word present => ?_⟩
  obtain ⟨other, -, inOther⟩ := List.mem_flatMap.mp present
  exact List.append_subset.mpr ⟨connective _, comparator _⟩ inOther

/-! ## Clauses -/

theorem ClauseKind.isPiece (kind : ClauseKind) :
    IsPiece (keywords kind.keyword) kind.keyword := by
  cases kind <;> exact isPiece_of_words (by decide)

/-- The keywords of a clause. -/
def sectionWords (part : Section) : List Text :=
  keywords part.1.keyword ++ keywords part.2

/-- Clauses whose contents are outlines are an outline. -/
theorem isOutline_sectionsText
    {wordsOf : Section → List Text}
    {sections : List Section}
    (nonempty : sections ≠ [])
    (contents : ∀ part ∈ sections, IsOutline (wordsOf part) part.2) :
    IsOutline (sections.flatMap fun part => keywords part.1.keyword ++ wordsOf part)
      (sectionsText sections) := by
  induction sections with
  | nil => exact absurd rfl nonempty
  | cons part rest inductionHypothesis =>
      have head := part.1.isPiece.toIsOutline.separated blank_mem_separators
        (contents part (.head _))
      cases rest with
      | nil =>
          rw [sectionsText_singleton, List.flatMap_singleton]
          exact head
      | cons next rest =>
          have tail := inductionHypothesis (List.cons_ne_nil next rest)
            fun part present => contents part (.tail _ present)
          rw [List.flatMap_cons, sectionsText_cons_cons]
          exact head.separated blank_mem_separators tail

/-- The keywords of clauses are those of their headings and of their contents. -/
theorem keywords_sectionsText (sections : List Section) :
    keywords (sectionsText sections) = sections.flatMap sectionWords := by
  have blank : Text.isWord ' ' = false := by decide
  induction sections with
  | nil => rfl
  | cons part rest inductionHypothesis =>
      cases rest with
      | nil =>
          rw [sectionsText_singleton, keywords_append_cons blank, List.flatMap_singleton]
          rfl
      | cons next rest =>
          rw [sectionsText_cons_cons, List.append_assoc, List.cons_append, keywords_append_cons blank,
            keywords_append_cons blank, inductionHypothesis, ← List.append_assoc]
          rfl

/-- Clauses whose contents are pieces are a piece. -/
theorem isPiece_sectionsText
    {sections : List Section}
    (nonempty : sections ≠ [])
    (contents : ∀ part ∈ sections, IsPiece (keywords part.2) part.2) :
    IsPiece (sections.flatMap sectionWords) (sectionsText sections) :=
  ⟨isOutline_sectionsText nonempty fun part present => (contents part present).toIsOutline,
    keywords_sectionsText sections⟩

end Plain

open Plain

namespace PlainQuery

variable (query : PlainQuery)

/-- The keywords of the tables of a query. -/
def sourceWords : List Text :=
  query.joined.flatMap JoinedTable.words

/-- The keywords behind the filter of a query. -/
def lastWords : List Text :=
  query.order.toList.flatMap (fun _ => ["order".toList, "by".toList]) ++
    query.limit.toList.flatMap fun _ => ["limit".toList]

/-- The keywords of a query. -/
def words : List Text :=
  "select".toList :: "from".toList :: (query.sourceWords ++
    (query.filter.toList.flatMap (fun filter => "where".toList :: filter.words) ++
      query.lastWords))

theorem sourceWords_subset :
    query.sourceWords ⊆ tableWords := by
  intro word present
  obtain ⟨joined, -, inJoined⟩ := List.mem_flatMap.mp present
  exact joined.words_subset inJoined

theorem lastWords_subset :
    query.lastWords ⊆ ["order".toList, "by".toList, "limit".toList] := by
  rw [lastWords]
  cases query.order <;> cases query.limit <;> simp

theorem isPiece_source :
    IsPiece query.sourceWords query.source :=
  query.table.isPiece.flatMap (fun _ => blank_mem_separators) JoinedTable.isPiece query.joined

theorem isPiece_selection :
    IsPiece [] query.selection.text := by
  cases query.selection with
  | star => exact isPiece_of_isSolid (by decide) (by decide) (by decide)
  | list columns => exact columns.isPiece

theorem isPiece_content :
    ∀ part ∈ query.sections, IsPiece (keywords part.2) part.2 := by
  have exact {found : List Text} {text : Text} (piece : IsPiece found text) :
      IsPiece (keywords text) text := by
    rwa [piece.words]
  intro part present
  simp only [sections, List.cons_append, List.nil_append, List.mem_cons, List.mem_append,
    List.mem_map] at present
  rcases present with rfl | rfl | (⟨filter, -, rfl⟩ | ⟨order, -, rfl⟩) | ⟨limit, -, rfl⟩
  · exact exact query.isPiece_selection
  · exact exact query.isPiece_source
  · exact exact filter.isPiece
  · exact exact order.isPiece
  · exact exact (Value.number limit).isPiece

theorem flatMap_sectionWords :
    query.sections.flatMap sectionWords = query.words := by
  have select : keywords ClauseKind.select.keyword = ["select".toList] := by decide
  have source : keywords ClauseKind.source.keyword = ["from".toList] := by decide
  have filter : keywords ClauseKind.filter.keyword = ["where".toList] := by decide
  have order : keywords ClauseKind.order.keyword = ["order".toList, "by".toList] := by decide
  have limit : keywords ClauseKind.limit.keyword = ["limit".toList] := by decide
  have numeral (limit : Numeral) : keywords limit.text = [] := keywords_numeral limit
  simp [sections, words, lastWords, sectionWords, select, source, filter, order, limit,
    List.flatMap_map, query.isPiece_selection.words, query.isPiece_source.words,
    Filter.isPiece _ |>.words, Columns.isPiece _ |>.words, numeral]

/-- A plain query is a piece. -/
theorem isPiece :
    IsPiece query.words query.text := by
  rw [← flatMap_sectionWords]
  exact isPiece_sectionsText (List.cons_ne_nil _ _) query.isPiece_content

theorem content_subset :
    ∀ part ∈ query.sections, keywords part.2 ⊆ innerWords := by
  have empty {text : Text} (piece : IsPiece [] text) : keywords text ⊆ innerWords := by
    rw [piece.words]
    exact List.nil_subset _
  intro part present
  simp only [sections, List.cons_append, List.nil_append, List.mem_cons, List.mem_append,
    List.mem_map] at present
  rcases present with rfl | rfl | (⟨filter, -, rfl⟩ | ⟨order, -, rfl⟩) | ⟨limit, -, rfl⟩
  · exact empty query.isPiece_selection
  · rw [query.isPiece_source.words]
    exact List.subset_append_of_subset_left _ query.sourceWords_subset
  · rw [filter.isPiece.words]
    exact List.subset_append_of_subset_right _ filter.words_subset
  · exact empty order.isPiece
  · exact empty (Value.number limit).isPiece

/-- Behind its first word a query has the keywords of its other clauses and what stands in them. -/
theorem words_tail_subset :
    query.words.tail ⊆ ["from".toList, "where".toList, "order".toList, "by".toList,
      "limit".toList] ++ innerWords := by
  have keyword {kind : ClauseKind} (later : kind ≠ .select) : keywords kind.keyword ⊆
      ["from".toList, "where".toList, "order".toList, "by".toList, "limit".toList] := by
    cases kind with
    | select => exact absurd rfl later
    | source | filter | order | limit => decide
  have tail : query.words.tail = query.sections.tail.flatMap sectionWords := by
    have select : keywords ClauseKind.select.keyword = ["select".toList] := by decide
    have first : sectionWords (.select, query.selection.text) = ["select".toList] := by
      rw [sectionWords, query.isPiece_selection.words, select]
      rfl
    rw [← flatMap_sectionWords]
    change (sectionWords (.select, query.selection.text) ++ _).tail = _
    rw [first]
    rfl
  rw [tail]
  intro word present
  obtain ⟨part, inTail, inPart⟩ := List.mem_flatMap.mp present
  have later : part.1 ≠ .select := by
    simp only [sections, List.cons_append, List.nil_append, List.tail_cons, List.mem_cons,
      List.mem_append, List.mem_map] at inTail
    rcases inTail with rfl | (⟨filter, -, rfl⟩ | ⟨order, -, rfl⟩) | ⟨limit, -, rfl⟩ <;> simp
  rcases List.mem_append.mp inPart with inKeyword | inContent
  · exact List.mem_append_left _ (keyword later inKeyword)
  · exact List.mem_append_right _ (query.content_subset part (List.mem_of_mem_tail inTail)
      inContent)

/-- The reserved words that a plain query can have. -/
theorem words_subset :
    query.words ⊆ ["select".toList, "from".toList, "where".toList, "order".toList, "by".toList,
      "limit".toList] ++ innerWords :=
  List.cons_subset_cons _ query.words_tail_subset

end PlainQuery
end SqlReview
