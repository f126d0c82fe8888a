import SqlReview.Proofs.Heuristic.Words
import SqlReview.Proofs.Pattern.Layout
import SqlReview.Proofs.Query.Normal
import SqlReview.Proofs.Text.Cutting
import SqlReview.Query.Comment
import SqlReview.Query.Structure

/-!
# Layout of queries

How a query is laid out is without influence on a review. Main statement: two texts without
comments that become equal when each run of white space becomes one blank and nothing but the query
is left at the ends have the same structure and the same signals.
-/

namespace SqlReview

open Pattern Query

/-! ## Patterns for the plain text -/

section Parts

variable {c : Char} {pattern : Pattern}

/-- The end of a word. -/
theorem ignoresLayout_lastEdge : (all [.edge]).IgnoresLayout :=
  ignoresLayout_edge.seq ignoresLayout_nothing

/-- A word at the end of a pattern. -/
theorem ignoresLayout_lastWord
    (word : Text)
    (solid : word.any Text.isTerminator = false) :
    (all [.letters word, .edge]).IgnoresLayout :=
  (ignoresLayout_letters word solid).seq ignoresLayout_lastEdge

/-- Two words with white space between them. -/
theorem ignoresLayout_twoWords
    (first second : Text)
    (solid : first.any Text.isTerminator = false)
    (solidToo : (c :: second).any Text.isTerminator = false) :
    (twoWords first (c :: second)).IgnoresLayout := by
  have starts : (letters (c :: second)).StartsSolid :=
    startsSolid_letters (Bool.or_eq_false_iff.mp solidToo).1
  have behind := (ignoresLayout_letters (c :: second) solidToo).seq ignoresLayout_nothing
  exact (ignoresLayout_letters first solid).seq (behind.behind_someBlanks starts.seq)

/-- A word that may be missing, with white space behind it, in front of another pattern. -/
theorem ignoresLayout_optionalWord
    (word : Text)
    (solid : word.any Text.isTerminator = false)
    (ignores : pattern.IgnoresLayout)
    (starts : pattern.StartsSolid) :
    (Pattern.seq (optionalWord word) pattern).IgnoresLayout := by
  have withWord := (ignoresLayout_letters word solid).seq (ignores.behind_someBlanks starts)
  exact withWord.seq_seq.behind_optional ignores

end Parts

variable {text other : Text}

/-! ## Signals -/

namespace Heuristic

theorem selectStar_layout (same : Text.SameLayout text other) :
    selectStar.occursIn text = selectStar.occursIn other := by
  have star := (ignoresLayout_char '*' (by decide)).seq ignoresLayout_nothing
  have starStarts : (all [char '*']).StartsSolid := (startsSolid_char (by decide)).seq
  refine IgnoresLayout.occursIn_eq ?_ (startsSolid_letters (by decide)).seq same
  exact (ignoresLayout_letters _ (by decide)).seq (star.behind_someBlanks starStarts)

theorem orderBy_layout (same : Text.SameLayout text other) :
    orderBy.occursIn text = orderBy.occursIn other := by
  have words : (twoWords "order" "by").IgnoresLayout :=
    ignoresLayout_twoWords _ _ (by decide) (by decide)
  have whole := ignoresLayout_edge.seq (words.seq ignoresLayout_lastEdge)
  refine whole.occursIn_eq ?_ same
  exact (startsSolid_letters (by decide)).seq.seq.behind_edge

theorem rowLimit_layout (same : Text.SameLayout text other) :
    rowLimit.occursIn text = rowLimit.occursIn other := by
  refine IgnoresLayout.occursIn_eq (.alt (ignoresLayout_word _ (by decide)) (.alt ?_ ?_))
    (.alt ?_ (.alt ?_ ?_)) same
  · -- FETCH FIRST or FETCH NEXT
    have either := (ignoresLayout_letters "first" (by decide)).alt
      (ignoresLayout_letters "next" (by decide))
    have eitherStarts : (Pattern.alt (.letters "first") (.letters "next")).StartsSolid :=
      (startsSolid_letters (by decide)).alt (startsSolid_letters (by decide))
    exact ignoresLayout_edge.seq ((ignoresLayout_letters _ (by decide)).seq
      ((either.seq ignoresLayout_lastEdge).behind_someBlanks eitherStarts.seq))
  · -- SELECT TOP or SELECT DISTINCT TOP
    have top := ignoresLayout_lastWord "top" (by decide)
    have topStarts : (all [.letters "top", .edge]).StartsSolid :=
      (startsSolid_letters (by decide)).seq
    have distinct := ignoresLayout_optionalWord "distinct" (by decide) top topStarts
    have distinctStarts : (Pattern.seq (optionalWord "distinct")
        (all [.letters "top", .edge])).StartsSolid :=
      .behind_optional (startsSolid_letters (by decide)).seq topStarts
    exact ignoresLayout_edge.seq ((ignoresLayout_letters _ (by decide)).seq
      (distinct.behind_someBlanks distinctStarts))
  all_goals exact (startsSolid_letters (by decide)).seq.behind_edge

theorem leadingWildcard_layout (same : Text.SameLayout text other) :
    leadingWildcard.occursIn text = leadingWildcard.occursIn other := by
  have literal := (ignoresLayout_letters "'%" (by decide)).seq ignoresLayout_nothing
  have literalStarts : (all [.letters "'%"]).StartsSolid := (startsSolid_letters (by decide)).seq
  have markStarts : (letter 'n').StartsSolid := startsSolid_letter (by decide)
  refine IgnoresLayout.occursIn_eq ?_ (startsSolid_letters (by decide)).seq same
  refine (ignoresLayout_letters _ (by decide)).seq (IgnoresLayout.behind_someBlanks ?_ ?_)
  · exact (IgnoresLayout.seq (ignoresLayout_letter (by decide)) literal).behind_optional literal
  · exact .behind_optional markStarts literalStarts

theorem subqueryHead_layout (same : Text.SameLayout text other) :
    subqueryHead.occursIn text = subqueryHead.occursIn other := by
  have select := ignoresLayout_lastWord "select" (by decide)
  have selectStarts : (all [.letters "select", .edge]).StartsSolid :=
    (startsSolid_letters (by decide)).seq
  refine IgnoresLayout.occursIn_eq ?_ (startsSolid_char (by decide)).seq same
  exact (ignoresLayout_char _ (by decide)).seq (select.behind_blanks selectStarts)

/-- Texts of one layout have the same signals. -/
theorem signals_layout (same : Text.SameLayout text other) : signals text = signals other := by
  have word (word : Text) (isSmallWord : word.IsSmallWord) :
      (Pattern.word word).occursIn text = (Pattern.word word).occursIn other := by
    rw [Bool.eq_iff_iff, word_occursIn_iff isSmallWord, word_occursIn_iff isSmallWord,
      same.words_eq]
  have orBehind : hasOrAfterWhere text = hasOrAfterWhere other := by
    rw [Bool.eq_iff_iff, hasOrAfterWhere_iff_words, hasOrAfterWhere_iff_words, same.words_eq]
  have joins : hasUnconditionedJoin text = hasUnconditionedJoin other := by
    rw [hasUnconditionedJoin_eq, hasUnconditionedJoin_eq, same.words_eq]
  rw [signals, signals, tests, tests, lacksLimit, lacksLimit, selectStar_layout same,
    orderBy_layout same, rowLimit_layout same, leadingWildcard_layout same,
    subqueryHead_layout same, word "where" (by decide), word "index" (by decide), orBehind, joins]

end Heuristic

/-! ## Structures -/

namespace Query

/-- The forms of an index hint that are not in a comment. -/
def plainHint : Pattern :=
  .any [
    .all [.edge, .any [.letters "use", .letters "force", .letters "ignore"], .someBlanks,
      .letters "index", .edge],
    .all [.edge, .letters "with", .blanks, .char '(', .blanks,
      .optional (.all [.letters "nolock", .blanks, .char ',', .blanks]),
      .letters "index", .blanks, .one (fun c => c = '(' || c = '=')]]

/-- A text without comments has no hint in a comment. -/
theorem indexHint_of_plain (plain : hasCommentMark text = false) :
    indexHint.occursIn text = plainHint.occursIn text := by
  rw [Bool.eq_iff_iff, occursIn_iff, occursIn_iff]
  constructor
  · rintro ⟨lead, run, rest, rfl, covered⟩
    rcases covered with behindTable | inList | inComment
    · exact ⟨lead, run, rest, rfl, .inl behindTable⟩
    · exact ⟨lead, run, rest, rfl, .inr inList⟩
    · obtain ⟨mark, others, rfl, folds, -⟩ := covers_letters_cons.mp inComment
      obtain rfl : mark = "/*+".toList := Text.eq_of_map_foldLetter folds (by decide)
      have marked := Text.holds_infix lead "/*".toList ('+' :: others ++ rest)
      have whole : lead ++ ("/*+".toList ++ others ++ rest) =
          lead ++ ("/*".toList ++ ('+' :: others ++ rest)) := rfl
      rw [hasCommentMark, whole, marked] at plain
      simp at plain
  · rintro ⟨lead, run, rest, rfl, behindTable | inList⟩
    · exact ⟨lead, run, rest, rfl, .inl behindTable⟩
    · exact ⟨lead, run, rest, rfl, .inr (.inl inList)⟩

theorem ignoresLayout_plainHint : plainHint.IgnoresLayout := by
  refine .alt ?_ ?_
  · -- USE, FORCE or IGNORE INDEX
    have either := (ignoresLayout_letters "use" (by decide)).alt
      ((ignoresLayout_letters "force" (by decide)).alt (ignoresLayout_letters "ignore" (by decide)))
    have index := ignoresLayout_lastWord "index" (by decide)
    have indexStarts : (all [.letters "index", .edge]).StartsSolid :=
      (startsSolid_letters (by decide)).seq
    exact ignoresLayout_edge.seq (either.seq (index.behind_someBlanks indexStarts))
  · -- WITH (INDEX or WITH (NOLOCK, INDEX
    have mark : ∀ c, (decide (c = '(') || decide (c = '=')) = true →
        Text.isTerminator c = false := by
      intro c isMark
      simp only [Bool.or_eq_true, decide_eq_true_eq] at isMark
      rcases isMark with rfl | rfl <;> decide
    have last := (ignoresLayout_one mark).seq ignoresLayout_nothing
    have lastStarts : (all [.one fun c => c = '(' || c = '=']).StartsSolid :=
      (startsSolid_one mark).seq
    have index := (ignoresLayout_letters "index" (by decide)).seq (last.behind_blanks lastStarts)
    have indexStarts : (all [.letters "index", .blanks,
        .one fun c => c = '(' || c = '=']).StartsSolid := (startsSolid_letters (by decide)).seq
    -- The list may start with NOLOCK and a comma, taken together with what follows them.
    have commaStarts : (char ',').StartsSolid := startsSolid_char (by decide)
    have comma := (ignoresLayout_char ',' (by decide)).seq
      (index.behind_nothing.behind_blanks indexStarts.behind_nothing).seq_seq
    have nolock := (ignoresLayout_letters "nolock" (by decide)).seq
      (comma.seq_seq.behind_blanks commaStarts.seq.seq).seq_seq
    have nolockStarts : (all [.letters "nolock", .blanks, char ',', .blanks]).StartsSolid :=
      (startsSolid_letters (by decide)).seq
    have either := nolock.seq_seq.behind_optional index
    have list := (ignoresLayout_char '(' (by decide)).seq
      (either.behind_blanks (nolockStarts.behind_optional indexStarts))
    have listStarts : (char '(').StartsSolid := startsSolid_char (by decide)
    exact ignoresLayout_edge.seq ((ignoresLayout_letters "with" (by decide)).seq
      (list.behind_blanks listStarts.seq))

theorem startsSolid_plainHint : plainHint.StartsSolid := by
  have words : (Pattern.alt (.letters "use")
      (.alt (.letters "force") (.letters "ignore"))).StartsSolid :=
    (startsSolid_letters (by decide)).alt
      ((startsSolid_letters (by decide)).alt (startsSolid_letters (by decide)))
  exact words.seq.behind_edge.alt (startsSolid_letters (by decide)).seq.behind_edge

theorem plainHint_layout (same : Text.SameLayout text other) :
    plainHint.occursIn text = plainHint.occursIn other :=
  ignoresLayout_plainHint.occursIn_eq startsSolid_plainHint same

/-- The structure of a text without comments, blank or not. -/
theorem extract_of_plain [CommentRemover] (plain : hasCommentMark text = false) :
    Structure.extract text =
      if (normalize text).isEmpty then { hasIndexHint := plainHint.occursIn text }
      else .ofNormal (plainHint.occursIn text) (normalize text) := by
  rw [Structure.extract, indexHint_of_plain plain]
  cases blank : Text.isAllBlank text with
  | false => rw [if_neg Bool.false_ne_true]
  | true =>
      have terminators : ∀ c ∈ text, Text.isTerminator c = true := fun c present =>
        Text.isTerminator_of_isBlank (List.all_eq_true.mp blank c present)
      have noHint : plainHint.occursIn text = plainHint.occursIn [] :=
        plainHint_layout ⟨[], text, [], [], rfl, rfl, by simp, by simp, .ends terminators (by simp)⟩
      have empty : normalize text = [] := by
        rw [normalize_of_plain plain, Text.trim_eq_nil_iff.mpr (Text.isAllBlank_collapse blank)]
        rfl
      rw [noHint, empty]
      rfl

end Query

/-- Layout does not matter. Two texts without comments that become equal once each run of white
space is one plain blank, the ends are trimmed, and semicolons and blanks behind the query are
dropped, have the same structure, and their lower-case forms have the same signals. -/
theorem layout_irrelevant
    [CommentRemover]
    {text other : Text}
    (plain : hasCommentMark text = false)
    (plainToo : hasCommentMark other = false)
    (same : dropTerminators (Text.trim (Text.collapse text)) =
      dropTerminators (Text.trim (Text.collapse other))) :
    Structure.extract text = Structure.extract other ∧
      Heuristic.signals (Text.lower text) = Heuristic.signals (Text.lower other) := by
  have form := Text.sameLayout_form text
  have formToo := Text.sameLayout_form other
  rw [← same] at formToo
  constructor
  · have normal : Query.normalize text = Query.normalize other := by
      rw [normalize_of_plain plain, normalize_of_plain plainToo, same]
    have hint := (plainHint_layout form).trans (plainHint_layout formToo).symm
    rw [extract_of_plain plain, extract_of_plain plainToo, normal, hint]
  · exact (Heuristic.signals_layout form.lower).trans (Heuristic.signals_layout formToo.lower).symm

/-- A query on several lines, with blanks beyond ASCII in it and semicolons behind it. -/
def scatteredQuery : Text :=
  "\n SELECT *\r\n\tFROM t  USE\u00A0INDEX\u2003(i)\nWHERE a = 1 OR b = 2 ;\t; "

/-- The same query on one line. -/
def compactQuery : Text :=
  "SELECT * FROM t USE INDEX (i) WHERE a = 1 OR b = 2"

/-- Two layouts of one query have the same structure and the same signals. -/
theorem layout_irrelevant_scattered :
    Structure.extract scatteredQuery = Structure.extract compactQuery ∧
      Heuristic.signals (Text.lower scatteredQuery) =
        Heuristic.signals (Text.lower compactQuery) :=
  layout_irrelevant (by decide +kernel) (by decide +kernel) (by decide +kernel)

end SqlReview
