import SqlReview.Proofs.Pattern.Crossing
import SqlReview.Proofs.Pattern.Word
import SqlReview.Query.Comment
import SqlReview.Query.Structure

/-!
# Index hints in comments and literals

Index hints are looked for in the text as it is, so a comment or a literal whose content spells a hint
counts as one. But what stands in a comment or a literal counts only by itself: the marks around the
content are part of no hint, except that a hint in a comment goes on up to the next star. The main
statement says when one content can take the place of another.
-/

namespace SqlReview
namespace Query

open Pattern

variable {before content other behind : Text} {c : Char}

/-! ## Remarks -/

/-- The kinds of text that are no part of a query: comments, which do not start with a plus sign, and
literals. -/
inductive RemarkKind where
  /-- Two hyphens and what follows them on the line. -/
  | lineComment
  /-- A text between a slash with a star and a star with a slash. -/
  | blockComment
  /-- A text between single quotes. -/
  | literal
  deriving DecidableEq, Repr

/-- A content with the marks of its kind around it. -/
def RemarkKind.wrap : RemarkKind → Text → Text
  | .lineComment, content => "--".toList ++ content
  | .blockComment, content => "/*".toList ++ (content ++ "*/".toList)
  | .literal, content => '\'' :: (content ++ ['\''])

/-- A text with a remark in it. -/
def RemarkKind.within (kind : RemarkKind) (before content behind : Text) : Text :=
  before ++ (kind.wrap content ++ behind)

/-- Whether no hint can reach into the content of a remark or out of it. A block comment must only not
start with a plus sign. No hint that goes on up to a star may be open in front of another remark, or
in it. Behind a line comment there is a line end or nothing, and a hint in words must not be open
there either. -/
def RemarkKind.separates (before behind content : Text) : RemarkKind → Bool
  | .lineComment =>
    !indexHint.leavesOpen '-' before && behind.head?.all fun c =>
      (c = '\r' || c = '\n') && !indexHint.leavesOpen c content
  | .blockComment => content.head? ≠ some '+'
  | .literal => !indexHint.leavesOpen '\'' before && !indexHint.leavesOpen '\'' content

/-! ## Hints around remarks -/

theorem isLocal_indexHint : indexHint.isLocal = true := by decide

/-- A star in a hint stands between a slash and a plus sign. -/
theorem of_covers_indexHint_star
    {start : Option Char}
    {run others rest : Text}
    (covered : indexHint.Covers start (run ++ '*' :: others) rest) :
    others.head? = some '+' := by
  rcases covered with behindTable | inList | inComment
  · exact absurd (behindTable.admits '*' (by simp)) (by decide)
  · exact absurd (inList.admits '*' (by simp)) (by decide)
  · obtain ⟨mark, more, equal, folds, covered⟩ := covers_letters_cons.mp inComment
    obtain rfl : mark = "/*+".toList := Text.eq_of_map_foldLetter folds (by decide)
    rcases Text.part_cases equal with ⟨marks, markEq, rfl⟩ | ⟨marks, -, rfl⟩
    · -- The star is the second character of the mark.
      have marksEq : ['/', '*', '+'] = run ++ '*' :: marks := markEq
      rcases run with _ | ⟨d, _ | ⟨e, run⟩⟩
      · exact absurd (List.cons.inj marksEq).1 (by decide)
      · obtain ⟨-, rfl⟩ := List.cons.inj (List.cons.inj marksEq).2
        rfl
      · have inMark : '*' ∈ ['+'] := by
          rw [(List.cons.inj (List.cons.inj marksEq).2).2]
          simp
        exact absurd inMark (by decide)
    · exact absurd (covered.admits '*' (by simp)) (by decide)

/-- A text can be cut at a star that starts no hint. -/
theorem indexHint_append_star
    (noPlus : behind.head? ≠ some '+')
    (before : Text) :
    indexHint.occursIn (before ++ '*' :: behind) =
      (indexHint.occursIn before || indexHint.occursIn behind) := by
  refine occursIn_append_cons_of_clear isLocal_indexHint (by decide) ?_
  rintro lead run others rest rfl rfl covered
  have isPlus := of_covers_indexHint_star covered
  cases others with
  | nil => contradiction
  | cons d others => exact noPlus isPlus

/-- A hint ends in front of a line end that it is not open for. -/
theorem indexHint_append_line
    (closed : (behind.head?.all fun c =>
      (c = '\r' || c = '\n') && !indexHint.leavesOpen c content) = true) :
    indexHint.occursIn (content ++ behind) =
      (indexHint.occursIn content || indexHint.occursIn behind) := by
  have nothing : indexHint.occursIn [] = false := by decide
  cases behind with
  | nil => rw [List.append_nil, nothing, Bool.or_false]
  | cons c behind =>
      rw [List.head?_cons, Option.all_some, Bool.and_eq_true, Bool.or_eq_true, decide_eq_true_eq,
        decide_eq_true_eq, Bool.not_eq_true'] at closed
      obtain ⟨isLineEnd, closedThere⟩ := closed
      have cut (front : Text) (closedFront : indexHint.leavesOpen c front = false) :
          indexHint.occursIn (front ++ c :: behind) =
            (indexHint.occursIn front || indexHint.occursIn behind) := by
        refine occursIn_append_cons_of_leavesOpen isLocal_indexHint ?_ closedFront behind
        rcases isLineEnd with rfl | rfl <;> decide
      have alone := cut [] (by rcases isLineEnd with rfl | rfl <;> decide)
      rw [cut content closedThere, ← List.nil_append (c :: behind), alone, nothing, Bool.false_or]

/-- Whether there is a hint around the content of a remark. The slash at the end of a block comment may
be part of one. -/
def RemarkKind.hasHintAround (before behind : Text) : RemarkKind → Bool
  | .blockComment => indexHint.occursIn before || indexHint.occursIn ('/' :: behind)
  | .lineComment | .literal => indexHint.occursIn before || indexHint.occursIn behind

/-- A hint in a text with a remark stands around the content of the remark or in it. -/
theorem indexHint_within
    {kind : RemarkKind}
    (separates : kind.separates before behind content = true) :
    indexHint.occursIn (kind.within before content behind) =
      (kind.hasHintAround before behind || indexHint.occursIn content) := by
  cases kind with
  | lineComment =>
      rw [RemarkKind.separates, Bool.and_eq_true, Bool.not_eq_true'] at separates
      have nothing : indexHint.occursIn [] = false ∧ indexHint.leavesOpen '-' [] = false := by decide
      have marks : RemarkKind.lineComment.within before content behind =
          before ++ '-' :: ([] ++ '-' :: (content ++ behind)) := rfl
      rw [marks, occursIn_append_cons_of_leavesOpen isLocal_indexHint (by decide) separates.1,
        occursIn_append_cons_of_leavesOpen isLocal_indexHint (by decide) nothing.2, nothing.1,
        indexHint_append_line separates.2, RemarkKind.hasHintAround]
      ac_rfl
  | blockComment =>
      have noPlus : (content ++ '*' :: '/' :: behind).head? ≠ some '+' := by
        cases content with
        | nil => exact by simp
        | cons c content => exact of_decide_eq_true separates
      have marks : RemarkKind.blockComment.within before content behind =
          before ++ ['/'] ++ '*' :: (content ++ '*' :: '/' :: behind) := by
        simp [RemarkKind.within, RemarkKind.wrap]
      have slash : indexHint.occursIn (before ++ ['/']) = indexHint.occursIn before :=
        occursIn_append_tail isLocal_indexHint (by decide) (by decide) (by decide) before
      rw [marks, indexHint_append_star noPlus, indexHint_append_star (by simp), slash,
        RemarkKind.hasHintAround]
      ac_rfl
  | literal =>
      rw [RemarkKind.separates, Bool.and_eq_true, Bool.not_eq_true', Bool.not_eq_true'] at separates
      have marks : RemarkKind.literal.within before content behind =
          before ++ '\'' :: (content ++ '\'' :: behind) := by
        simp [RemarkKind.within, RemarkKind.wrap]
      rw [marks, occursIn_append_cons_of_leavesOpen isLocal_indexHint (by decide) separates.1,
        occursIn_append_cons_of_leavesOpen isLocal_indexHint (by decide) separates.2,
        RemarkKind.hasHintAround]
      ac_rfl

theorem hasIndexHint_extract
    [CommentRemover]
    {text : Text}
    (visible : Text.isAllBlank text = false) :
    (Structure.extract text).hasIndexHint = indexHint.occursIn text := by
  rw [Structure.extract, visible]
  cases (normalize text).isEmpty <;> rfl

theorem isAllBlank_within (kind : RemarkKind) (before content behind : Text) :
    Text.isAllBlank (kind.within before content behind) = false := by
  have marked : (kind.wrap content).all Text.isBlank = false := by cases kind <;> rfl
  rw [Text.isAllBlank, RemarkKind.within, List.all_append, List.all_append, marked, Bool.false_and,
    Bool.and_false]

/-- One content of a remark can take the place of another: nothing changes about index hints if the
contents both spell a hint by themselves or both do not, and no hint can reach into them or out of
them. A content that spells none leaves it to the text around whether there is a hint. -/
theorem hasIndexHint_within
    [CommentRemover]
    {kind : RemarkKind}
    (separates : kind.separates before behind content = true)
    (separatesToo : kind.separates before behind other = true)
    (same : indexHint.occursIn content = indexHint.occursIn other) :
    (Structure.extract (kind.within before content behind)).hasIndexHint =
        (Structure.extract (kind.within before other behind)).hasIndexHint ∧
      (indexHint.occursIn content = false →
        (Structure.extract (kind.within before content behind)).hasIndexHint =
          kind.hasHintAround before behind) := by
  rw [hasIndexHint_extract (isAllBlank_within kind before content behind),
    hasIndexHint_extract (isAllBlank_within kind before other behind),
    indexHint_within separates, indexHint_within separatesToo, same]
  refine ⟨rfl, fun noHint => ?_⟩
  rw [noHint, Bool.or_false]

/-- A comment between the lines of a query may say that there is no hint. -/
theorem hasIndexHint_within_lineComment :
    (Structure.extract (RemarkKind.lineComment.within "SELECT a FROM t "
        " do not force the index here" "\nWHERE b = 1")).hasIndexHint =
      (Structure.extract (RemarkKind.lineComment.within "SELECT a FROM t "
        " /*+ INDEX */" "\nWHERE b = 1")).hasIndexHint ∧
    (indexHint.occursIn " do not force the index here".toList = false →
      (Structure.extract (RemarkKind.lineComment.within "SELECT a FROM t "
        " do not force the index here" "\nWHERE b = 1")).hasIndexHint =
        RemarkKind.lineComment.hasHintAround "SELECT a FROM t " "\nWHERE b = 1") :=
  hasIndexHint_within (by decide) (by decide) (by decide)

/-- A content that spells a hint by itself counts as one. -/
theorem hasIndexHint_literal :
    (Structure.extract (RemarkKind.literal.within "SELECT a FROM t WHERE b = "
      "use index" [])).hasIndexHint = true ∧
    (Structure.extract (RemarkKind.literal.within "SELECT a FROM t WHERE b = "
      "no index" [])).hasIndexHint = false := by
  decide

end Query
end SqlReview
