import SqlReview.Proofs.Query.Normal
import SqlReview.Proofs.Query.SubqueryBody
import SqlReview.Query.Comment

/-!
# Opacity of subqueries

Two queries that differ only in the body of one subquery look the same from outside of it: their
masks and outside views are the same up to the length of the blank stretch, and all other
subqueries keep their texts and masks. If the bodies have the same length, then what extraction
says about the outer WHERE clause and the row limit is the same too.
-/

namespace SqlReview
namespace Query

/-! ## Depth -/

/-- The depth behind the parenthesis that opens a subquery. -/
theorem depth_after_open
    {lead : Text}
    (outside : (Depth.outermost.after lead).inLiteral = false) :
    Depth.outermost.after (lead ++ ['(']) =
      Depth.outermost.inside ((Depth.outermost.after lead).level + 1) := by
  rw [Depth.after_append, Depth.after_cons, Depth.after_nil]
  generalize Depth.outermost.after lead = depth at outside ⊢
  simp [Depth.step, Depth.inside, Depth.outermost, outside]

theorem withBody_eq
    (lead body rest : Text) :
    withBody lead body rest = lead ++ ['('] ++ (body ++ ')' :: rest) := by
  simp [withBody]

/-- The mask of a query has blanks in the place of a self-contained body. -/
theorem mask_withBody
    {lead body : Text}
    (outside : (Depth.outermost.after lead).inLiteral = false)
    (selfContained : IsSelfContained body)
    (rest : Text) :
    mask (withBody lead body rest) =
      mask (lead ++ ['(']) ++ List.replicate body.length ' ' ++
        maskFrom ⟨(Depth.outermost.after lead).level + 1, false⟩ (')' :: rest) := by
  have positive : 0 < (Depth.outermost.after lead).level + 1 := Nat.succ_pos _
  obtain ⟨blank, after⟩ := maskFrom_inside selfContained positive
  rw [withBody_eq, mask, maskFrom_append, depth_after_open outside, maskFrom_append _ body,
    blank, after, List.append_assoc]
  rfl

/-! ## Marks -/

/-- The place behind the beginning of a query. -/
def placeAfter (lead : Text) : Nest :=
  Nest.outermost.after lead

theorem wellFormed_placeAfter (lead : Text) :
    (placeAfter lead).WellFormed :=
  Nest.wellFormed_outermost.after lead

theorem inLiteral_placeAfter (lead : Text) :
    (placeAfter lead).inLiteral = (Depth.outermost.after lead).inLiteral :=
  congrArg Depth.inLiteral (Nest.depth_after .outermost lead)

theorem opened_placeAfter (lead : Text) :
    (placeAfter lead).opened = subqueryCount lead :=
  (countFrom_eq .outermost lead).symm

/-- The marks behind the body of a subquery when the body opens no subqueries. -/
def marksBehind (lead rest : Text) : List Mark :=
  marksFrom ((placeAfter lead).push true) (')' :: rest)

theorem startsSubquery_of_startsWithSelect
    {body : Text}
    (starts : StartsWithSelect body)
    (rest : Text) :
    startsSubquery ('(' :: (body ++ ')' :: rest)) = true :=
  startsSubquery_iff.mpr
    ⟨_, rfl, (startsWithSelect_append (isBarrier_close rest) body).mpr starts⟩

/-- The place where the body of a subquery begins. -/
theorem step_placeAfter
    {lead body : Text}
    (outside : (Depth.outermost.after lead).inLiteral = false)
    (starts : StartsWithSelect body)
    (rest : Text) :
    (placeAfter lead).step (decide ('(' = '(') && startsSubquery ('(' :: (body ++ ')' :: rest)))
      '(' = (placeAfter lead).push true := by
  rw [Nest.step_open ((inLiteral_placeAfter lead).trans outside),
    startsSubquery_of_startsWithSelect starts rest]
  rfl

theorem marks_open (lead : Text) :
    marks (lead ++ ['(']) = marks lead ++ [(placeAfter lead).mark '('] :=
  marksFrom_append (isBarrier_open []) .outermost lead

/-- The marks of a query, with those of a body between those of its context. -/
theorem marks_withBody
    {lead body : Text}
    (outside : (Depth.outermost.after lead).inLiteral = false)
    (starts : StartsWithSelect body)
    (selfContained : IsSelfContained body)
    (rest : Text) :
    marks (withBody lead body rest) =
      marks (lead ++ ['(']) ++ marksFrom ((placeAfter lead).push true) body ++
        (marksBehind lead rest).map (·.shift (subqueryCount lead + 1) (subqueryCount body)) := by
  have noLiteral := (inLiteral_placeAfter lead).trans outside
  have older : subqueryCount lead + 1 ≤ ((placeAfter lead).push true).opened :=
    Nat.succ_le_succ (Nat.le_of_eq (opened_placeAfter lead).symm)
  calc marks (withBody lead body rest)
      = marks lead ++ marksFrom (placeAfter lead) ('(' :: (body ++ ')' :: rest)) :=
        marksFrom_append (isBarrier_open _) .outermost lead
    _ = marks lead ++ (placeAfter lead).mark '(' ::
          marksFrom ((placeAfter lead).push true) (body ++ ')' :: rest) := by
        rw [marksFrom, step_placeAfter outside starts]
    _ = _ := by
        rw [marksFrom_append (isBarrier_close rest),
          after_body (wellFormed_placeAfter lead) noLiteral selfContained, opened_placeAfter,
          marksFrom_shift older, marks_open]
        simp [marksBehind]

/-- The number of subqueries of a query, with those of a body between those of its context. -/
theorem subqueryCount_withBody
    {lead body : Text}
    (outside : (Depth.outermost.after lead).inLiteral = false)
    (starts : StartsWithSelect body)
    (selfContained : IsSelfContained body)
    (rest : Text) :
    subqueryCount (withBody lead body rest) =
      (((placeAfter lead).push true).after (')' :: rest)).opened + subqueryCount body := by
  have noLiteral := (inLiteral_placeAfter lead).trans outside
  have older : subqueryCount lead + 1 ≤ ((placeAfter lead).push true).opened :=
    Nat.succ_le_succ (Nat.le_of_eq (opened_placeAfter lead).symm)
  have place : Nest.outermost.after (withBody lead body rest) =
      (((placeAfter lead).push true).after (')' :: rest)).shift (subqueryCount lead + 1)
        (subqueryCount body) := by
    rw [withBody, Nest.after_append (isBarrier_open _), Nest.after_cons]
    change ((placeAfter lead).step _ '(').after _ = _
    rw [step_placeAfter outside starts, Nest.after_append (isBarrier_close rest),
      after_body (wellFormed_placeAfter lead) noLiteral selfContained, opened_placeAfter,
      Nest.after_shift older]
  rw [subqueryCount, countFrom_eq, place]
  rfl

/-- The outside view of a query has blanks in the place of a self-contained body. -/
theorem outsideView_withBody
    {lead body : Text}
    (outside : (Depth.outermost.after lead).inLiteral = false)
    (starts : StartsWithSelect body)
    (selfContained : IsSelfContained body)
    (rest : Text) :
    outsideView (withBody lead body rest) =
      outsideView (lead ++ ['(']) ++ List.replicate body.length ' ' ++
        (marksBehind lead rest).map (·.outside) := by
  have noLiteral := (inLiteral_placeAfter lead).trans outside
  have blank := outside_body ((wellFormed_placeAfter lead).push true)
    (standsOn_push (placeAfter lead) noLiteral) (Nat.le_refl _) selfContained
  rw [outsideView, marks_withBody outside starts selfContained, List.map_append, List.map_append,
    blank, List.map_map]
  rfl

/-! ## The other subqueries -/

/-- The marks of a query when one of its subqueries is empty. -/
def contextMarks (lead rest : Text) : List Mark :=
  marks (lead ++ ['(']) ++ marksBehind lead rest

/-- The number of subqueries that the text behind a body opens. -/
def countBehind (lead rest : Text) : Nat :=
  (((placeAfter lead).push true).after (')' :: rest)).opened - (subqueryCount lead + 1)

theorem own_open_of_le
    {lead : Text}
    {number : Nat}
    (later : subqueryCount lead ≤ number) :
    own number (marks (lead ++ ['('])) = [] := by
  have noStart : startsSubquery ['('] = false := by decide
  have opened : (Nest.outermost.after lead).opened = subqueryCount lead := opened_placeAfter lead
  refine own_marksFrom_of_later Nest.wellFormed_outermost ?_
  rw [Nest.after_append (isBarrier_open []), Nest.after_cons, Nest.after_nil, Nest.opened_step,
    noStart, opened]
  simpa using later

/-- The body of a subquery has nothing of the other subqueries, in front of it and behind it. -/
theorem own_marksFrom_body
    {lead body : Text}
    (outside : (Depth.outermost.after lead).inLiteral = false)
    (selfContained : IsSelfContained body)
    {number : Nat}
    (isOther : number ≠ subqueryCount lead) :
    own (renumber (subqueryCount lead + 1) (subqueryCount body) number)
      (marksFrom ((placeAfter lead).push true) body) = [] := by
  have noLiteral := (inLiteral_placeAfter lead).trans outside
  have opened := opened_placeAfter lead
  rcases Nat.lt_or_gt_of_ne isOther with front | behind
  · rw [renumber_of_lt (Nat.lt_succ_of_lt front)]
    exact own_body (standsOn_push (placeAfter lead) noLiteral) (Nat.le_refl _) selfContained
      (by rw [opened]; exact front) (Nat.lt_succ_self _)
  · rw [renumber_of_le behind]
    refine own_marksFrom_of_later ((wellFormed_placeAfter lead).push true) ?_
    rw [after_body (wellFormed_placeAfter lead) noLiteral selfContained, opened]
    change (placeAfter lead).opened + 1 + subqueryCount body ≤ number + subqueryCount body
    omega

/-- A subquery next to another one, or around it, does not depend on its body. -/
theorem scope_withBody
    {lead body : Text}
    (outside : (Depth.outermost.after lead).inLiteral = false)
    (starts : StartsWithSelect body)
    (selfContained : IsSelfContained body)
    (rest : Text)
    {number : Nat}
    (isOther : number ≠ subqueryCount lead) :
    scope (marks (withBody lead body rest))
      (renumber (subqueryCount lead + 1) (subqueryCount body) number) =
        scope (contextMarks lead rest) number := by
  have front : own (renumber (subqueryCount lead + 1) (subqueryCount body) number)
      (marks (lead ++ ['('])) = own number (marks (lead ++ ['('])) := by
    rcases Nat.lt_or_gt_of_ne isOther with before | behind
    · rw [renumber_of_lt (Nat.lt_succ_of_lt before)]
    · rw [renumber_of_le behind, own_open_of_le (Nat.le_of_lt behind),
        own_open_of_le (Nat.le_add_right_of_le (Nat.le_of_lt behind))]
  rw [scope_eq, scope_eq, marks_withBody outside starts selfContained, contextMarks, own_append,
    own_append, own_append, front, own_marksFrom_body outside selfContained isOther, own_shift]
  simp [Mark.shift, Function.comp_def]

/-- The subqueries of a query: those in front of a subquery and around it, the subquery with those
inside of it, and those behind it. -/
theorem scopes_withBody
    {lead body : Text}
    (outside : (Depth.outermost.after lead).inLiteral = false)
    (starts : StartsWithSelect body)
    (selfContained : IsSelfContained body)
    (rest : Text) :
    ∃ inside : List Scope, inside.length = 1 + subqueryCount body ∧
      scopes (withBody lead body rest) =
        (List.range (subqueryCount lead)).map (scope (contextMarks lead rest)) ++ inside ++
          (List.range (countBehind lead rest)).map fun number =>
            scope (contextMarks lead rest) (subqueryCount lead + 1 + number) := by
  have opened := opened_placeAfter lead
  have grows := Nest.opened_le_after ((placeAfter lead).push true) (')' :: rest)
  have pushed : ((placeAfter lead).push true).opened = (placeAfter lead).opened + 1 := rfl
  have count : subqueryCount (withBody lead body rest) =
      subqueryCount lead + (1 + subqueryCount body) + countBehind lead rest := by
    rw [subqueryCount_withBody outside starts selfContained, countBehind]
    omega
  refine ⟨(List.range (1 + subqueryCount body)).map fun number =>
    scope (marks (withBody lead body rest)) (subqueryCount lead + number), by simp, ?_⟩
  rw [scopes, count, List.range_add, List.range_add, List.map_append, List.map_append,
    List.map_map, List.map_map]
  congr 1
  · congr 1
    refine List.map_congr_left fun number inRange => ?_
    have before := List.mem_range.mp inRange
    rw [← scope_withBody outside starts selfContained rest (Nat.ne_of_lt before),
      renumber_of_lt (Nat.lt_succ_of_lt before)]
  · refine List.map_congr_left fun number _ => ?_
    have isOther : subqueryCount lead + 1 + number ≠ subqueryCount lead := by omega
    rw [← scope_withBody outside starts selfContained rest isOther,
      renumber_of_le (Nat.le_add_right _ _), Function.comp_apply]
    congr 1
    omega

/-! ## Opacity -/

theorem withBody_ne_nil (lead body rest : Text) :
    withBody lead body rest ≠ [] := by
  simp [withBody]

/-- What extraction says about the outer WHERE clause and the row limit depends on the two views of
a query only. -/
theorem extract_congr_of_views
    [CommentRemover]
    {text other : Text}
    (normal : normalize text = text)
    (otherNormal : normalize other = other)
    (nonempty : text ≠ [])
    (otherNonempty : other ≠ [])
    (sameMask : mask text = mask other)
    (sameView : outsideView text = outsideView other) :
    (Structure.extract text).hasWhere = (Structure.extract other).hasWhere ∧
      (Structure.extract text).hasOrInWhere = (Structure.extract other).hasOrInWhere ∧
      (Structure.extract text).whereColumns = (Structure.extract other).whereColumns ∧
      (Structure.extract text).hasLimit = (Structure.extract other).hasLimit := by
  rw [extract_of_normal normal nonempty, extract_of_normal otherNormal otherNonempty]
  simp only [Structure.ofNormal, sameMask, sameView, and_self]

/-- The body of a subquery is opaque to the query around it. With another self-contained body the
mask and the outside view stay the same but for the length of the blank stretch in its place, and
all subqueries stay as they are but the one with the body and those inside of it. If the new body is
as long and both queries are in normal form, then the outer WHERE clause and the row limit look the
same to extraction. -/
theorem body_opaque
    [CommentRemover]
    {lead body other : Text}
    (outside : (Depth.outermost.after lead).inLiteral = false)
    (starts : StartsWithSelect body)
    (selfContained : IsSelfContained body)
    (otherStarts : StartsWithSelect other)
    (otherSelfContained : IsSelfContained other)
    (rest : Text) :
    (∃ front back : Text, front.length = lead.length + 1 ∧
      mask (withBody lead body rest) = front ++ List.replicate body.length ' ' ++ back ∧
      mask (withBody lead other rest) = front ++ List.replicate other.length ' ' ++ back) ∧
    (∃ front back : Text, front.length = lead.length + 1 ∧
      outsideView (withBody lead body rest) =
        front ++ List.replicate body.length ' ' ++ back ∧
      outsideView (withBody lead other rest) =
        front ++ List.replicate other.length ' ' ++ back) ∧
    (∃ front inside otherInside back : List Scope, front.length = subqueryCount lead ∧
      inside.length = 1 + subqueryCount body ∧ otherInside.length = 1 + subqueryCount other ∧
      scopes (withBody lead body rest) = front ++ inside ++ back ∧
      scopes (withBody lead other rest) = front ++ otherInside ++ back) ∧
    (body.length = other.length →
      normalize (withBody lead body rest) = withBody lead body rest →
      normalize (withBody lead other rest) = withBody lead other rest →
      let first := Structure.extract (withBody lead body rest)
      let second := Structure.extract (withBody lead other rest)
      first.hasWhere = second.hasWhere ∧ first.hasOrInWhere = second.hasOrInWhere ∧
        first.whereColumns = second.whereColumns ∧ first.hasLimit = second.hasLimit) := by
  refine ⟨⟨mask (lead ++ ['(']), _, by simp, mask_withBody outside selfContained rest,
    mask_withBody outside otherSelfContained rest⟩,
    ⟨outsideView (lead ++ ['(']), _, by simp, outsideView_withBody outside starts selfContained rest,
      outsideView_withBody outside otherStarts otherSelfContained rest⟩, ?_, ?_⟩
  · obtain ⟨inside, length, subqueries⟩ := scopes_withBody outside starts selfContained rest
    obtain ⟨otherInside, otherLength, otherSubqueries⟩ :=
      scopes_withBody outside otherStarts otherSelfContained rest
    exact ⟨_, inside, otherInside, _, by simp, length, otherLength, subqueries, otherSubqueries⟩
  · intro sameLength normal otherNormal
    refine extract_congr_of_views normal otherNormal (withBody_ne_nil _ _ _)
      (withBody_ne_nil _ _ _) ?_ ?_
    · rw [mask_withBody outside selfContained, mask_withBody outside otherSelfContained, sameLength]
    · rw [outsideView_withBody outside starts selfContained,
        outsideView_withBody outside otherStarts otherSelfContained, sameLength]

/-- A parenthesis in a literal, an OR and a LIMIT inside a subquery have no effect outside of it. -/
theorem body_opaque_in_condition :
    let lead : Text := "select a from t where b in "
    let first := Structure.extract (withBody lead "select ')' from (u)" " and (c)")
    let second := Structure.extract (withBody lead "select c or d limit" " and (c)")
    first.hasWhere = second.hasWhere ∧ first.hasOrInWhere = second.hasOrInWhere ∧
      first.whereColumns = second.whereColumns ∧ first.hasLimit = second.hasLimit := by
  have starts : StartsWithSelect "select ')' from (u)" :=
    ⟨[], "select", " ')' from (u)", rfl, by simp, by decide, rfl⟩
  have otherStarts : StartsWithSelect "select c or d limit" :=
    ⟨[], "select", " c or d limit", rfl, by simp, by decide, rfl⟩
  have outside : (Depth.outermost.after "select a from t where b in ").inLiteral = false := by
    decide
  obtain ⟨-, -, -, sameSignals⟩ := body_opaque outside starts (by decide) otherStarts (by decide)
    " and (c)"
  exact sameSignals (by decide) (by decide +kernel) (by decide +kernel)

end Query
end SqlReview
