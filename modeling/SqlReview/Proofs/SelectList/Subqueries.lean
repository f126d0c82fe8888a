import SqlReview.Proofs.Literals.Readings
import SqlReview.Proofs.Query.Calls
import SqlReview.Proofs.Query.Opacity

/-!
# Subqueries of a select list

The items of a select list are cut out of the text of a query, and their subqueries are searched with
them. What two bodies of the same length make of the list is the same if they agree in the aggregates and
windows they call and in the marks that close names, or if the subquery stands outside of the list. An
aggregate inside a subquery of the list counts as one of the list.
-/

namespace SqlReview
namespace Query

variable {body other front back lead rest text otherText : Text} {index start stop : Nat}

/-! ## Bodies in the place of one another -/

/-- Bodies that can stand in the place of one another without moving anything around them. -/
structure Exchangeable (body other : Text) : Prop where
  selfContained : IsSelfContained body
  otherSelfContained : IsSelfContained other
  sameLength : body.length = other.length

/-- What a select list can tell of a body inside one of its items: the calls of aggregates, the windows,
and the marks that close a name. -/
structure SameTraits (body other : Text) : Prop where
  aggregate : aggregateCall.occursIn body = aggregateCall.occursIn other
  window : windowKeyword.occursIn body = windowKeyword.occursIn other
  marks : ∀ marks ∈ nameMarks, marks.2 ∈ body ↔ marks.2 ∈ other

/-- Whether two texts are the same, or have one body in the place of another outside of literals. -/
def SameAround (body other text otherText : Text) : Prop :=
  text = otherText ∨ ∃ lead rest, (Depth.outermost.after lead).inLiteral = false ∧
    text = withBody lead body rest ∧ otherText = withBody lead other rest

theorem withBody_append (lead body rest : Text) :
    withBody lead body rest = lead ++ '(' :: (body ++ [')']) ++ rest := by
  simp [withBody]

theorem length_enclosed (lead body : Text) :
    (lead ++ '(' :: (body ++ [')'])).length = lead.length + body.length + 2 := by
  simp [Nat.add_assoc]

/-- Inside of more parentheses a self-contained text goes as deep, and the more. -/
theorem Depth.after_inside
    {depth : Depth}
    (closes : closesFrom depth (front ++ back) = true)
    (base : Nat) :
    (depth.inside base).after front = (depth.after front).inside base := by
  induction front generalizing depth with
  | nil => rfl
  | cons c front inductionHypothesis =>
      obtain ⟨stays, closesRest⟩ := closesFrom_cons.mp closes
      rw [Depth.after_cons, Depth.after_cons, Depth.step_inside stays, inductionHypothesis closesRest]

/-- Where nothing is open, the text stands in front of the subquery or behind it. -/
theorem not_in_body_of_after
    (outside : (Depth.outermost.after lead).inLiteral = false)
    (selfContained : IsSelfContained body)
    (outermost : Depth.outermost.after ((withBody lead body rest).take index) = .outermost) :
    index ≤ lead.length ∨ lead.length + body.length + 2 ≤ index := by
  by_contra inside
  rw [not_or, Nat.not_le, Nat.not_le] at inside
  obtain ⟨count, rfl⟩ := Nat.exists_eq_add_of_lt inside.1
  have within : count ≤ body.length := by omega
  have taken : (withBody lead body rest).take (lead.length + count + 1) =
      lead ++ ['('] ++ body.take count := by
    have place : lead.length + count + 1 = (lead ++ ['(']).length + count := by
      simp
      omega
    rw [withBody_eq, place, List.take_length_add_append, List.take_append_of_le_length within]
  have closes : closesFrom .outermost (body.take count ++ body.drop count) = true := by
    rw [List.take_append_drop]
    exact selfContained
  rw [taken, Depth.after_append, depth_after_open outside, Depth.after_inside closes] at outermost
  exact absurd (congrArg Depth.level outermost) (Nat.succ_ne_zero _)

/-- A character of the mask that is no white space stands in front of the body or behind it. -/
theorem not_in_body_of_mask
    {c : Char}
    (outside : (Depth.outermost.after lead).inLiteral = false)
    (selfContained : IsSelfContained body)
    (visible : (mask (withBody lead body rest))[index]? = some c)
    (noBlank : Text.isBlank c = false) :
    index ≤ lead.length ∨ lead.length + body.length + 1 ≤ index := by
  by_contra inside
  rw [not_or, Nat.not_le, Nat.not_le] at inside
  have size : (mask (lead ++ ['('])).length = lead.length + 1 := by simp
  rw [mask_withBody outside selfContained, List.append_assoc,
    List.getElem?_append_right (by omega), List.getElem?_append_left (by simp; omega)] at visible
  obtain rfl := (List.eq_of_mem_replicate (List.mem_of_getElem? visible)).symm
  exact absurd noBlank (by decide)

/-! ## Items -/

theorem holdsCall_withBody
    {names : List Text}
    (areNames : ∀ name ∈ names, IsFunctionName name)
    (sameCalls : HoldsCall names body ↔ HoldsCall names other) :
    HoldsCall names (withBody lead body rest) ↔ HoldsCall names (withBody lead other rest) := by
  rw [withBody, withBody, holdsCall_enclosed areNames, holdsCall_enclosed areNames, sameCalls]

/-- What stands in front of a text that closes no parenthesis holds all of the subquery. -/
theorem exists_append_of_withBody_eq
    (noClose : ')' ∉ back)
    (split : withBody lead body rest = front ++ back) :
    ∃ more, front = lead ++ '(' :: (body ++ [')']) ++ more ∧ rest = more ++ back := by
  rw [withBody_append] at split
  rcases List.append_eq_append_iff.mp split with found | ⟨more, whole, backEq⟩
  · exact found
  · rcases List.eq_nil_or_concat more with rfl | ⟨more, c, rfl⟩
    · exact ⟨[], by simpa using whole.symm, by simpa using backEq.symm⟩
    · obtain rfl : ')' = c := by simpa [List.getLast?_cons] using congrArg List.getLast? whole
      exact absurd (by simp [backEq]) noClose

/-- The name of a table that holds a parenthesised body is one with another body too, unless that holds
the mark that closes the name. -/
theorem namesTable_withBody
    {name behind : Text}
    (sameMarks : ∀ marks ∈ nameMarks, marks.2 ∈ body ↔ marks.2 ∈ other)
    (isName : NamesTable name)
    (noClose : ')' ∉ behind)
    (split : withBody lead body rest = name ++ behind) :
    ∃ otherName, withBody lead other rest = otherName ++ behind ∧ NamesTable otherName := by
  obtain ⟨more, nameEq, rfl⟩ := exists_append_of_withBody_eq noClose split
  have opens : '(' ∈ name := by simp [nameEq]
  rcases isName with ⟨c, others, rfl, starts, continues⟩ |
    ⟨⟨opening, closing⟩, isPair, content, rfl, nonempty, absent⟩
  · rcases List.mem_cons.mp opens with rfl | inside
    · exact absurd starts (by decide)
    · exact absurd (continues _ inside) (by decide)
  · have each : ∀ marks ∈ nameMarks, marks.1 ≠ '(' ∧ marks.2 ≠ ')' := by decide
    obtain ⟨openingNoParenthesis, closingNoClose⟩ := each _ isPair
    cases lead with
    | nil => exact absurd (List.cons.inj nameEq).1 openingNoParenthesis
    | cons c lead =>
        obtain ⟨rfl, inside⟩ := List.cons.inj nameEq
        rcases List.eq_nil_or_concat more with rfl | ⟨more, d, rfl⟩
        · exact absurd (by simpa [List.getLast?_cons] using congrArg List.getLast? inside) closingNoClose
        · have ends : content ++ [closing] = lead ++ '(' :: (body ++ [')']) ++ more ++ [d] := by
            simpa using inside
          obtain ⟨rfl, isClosing⟩ := List.append_inj' ends rfl
          obtain rfl : closing = d := List.singleton_inj.mp isClosing
          have noMark := sameMarks _ isPair
          refine ⟨opening :: (lead ++ '(' :: (other ++ [')']) ++ more ++ [closing]),
            by simp [withBody], .inr ⟨(opening, closing), isPair,
              lead ++ '(' :: (other ++ [')']) ++ more, rfl, by simp, ?_⟩⟩
          simp only [List.mem_append, List.mem_cons, List.not_mem_nil, or_false, not_or] at absent ⊢
          exact ⟨⟨absent.1.1, absent.1.2.1, fun present => absent.1.2.2.1 (noMark.mpr present),
            absent.1.2.2.2⟩, absent.2⟩

/-- An item that is a star is one with another body too, unless that holds a mark that closes names. -/
theorem occursIn_starItem_withBody
    (sameMarks : ∀ marks ∈ nameMarks, marks.2 ∈ body ↔ marks.2 ∈ other)
    (found : starItem.occursIn (withBody lead body rest) = true) :
    starItem.occursIn (withBody lead other rest) = true := by
  have closes : ')' ∈ withBody lead body rest := by simp [withBody]
  exact occursIn_starItem_of_renamed (by decide) (fun noClose => absurd closes noClose)
    (fun split isName noClose => namesTable_withBody sameMarks isName noClose split) found

theorem SameTraits.symm (traits : SameTraits body other) :
    SameTraits other body :=
  ⟨traits.aggregate.symm, traits.window.symm, fun marks isPair => (traits.marks marks isPair).symm⟩

/-- Items that are the same up to bodies of the same traits add an aggregate both or neither. -/
theorem SameAround.hasAggregate_add
    {item otherItem : Text}
    {projection otherProjection : Projection}
    (traits : SameTraits body other)
    (same : SameAround body other item otherItem)
    (known : projection.hasAggregate = otherProjection.hasAggregate) :
    (projection.add item).hasAggregate = (otherProjection.add otherItem).hasAggregate := by
  rw [Query.hasAggregate_add, Query.hasAggregate_add, known]
  rcases same with rfl | ⟨lead, rest, -, rfl, rfl⟩
  · rfl
  · have star : starItem.occursIn (withBody lead body rest) =
        starItem.occursIn (withBody lead other rest) := by
      rw [Bool.eq_iff_iff]
      exact ⟨occursIn_starItem_withBody traits.marks, occursIn_starItem_withBody traits.symm.marks⟩
    have call : aggregateCall.occursIn (withBody lead body rest) =
        aggregateCall.occursIn (withBody lead other rest) := by
      have inBody := Bool.eq_iff_iff.mp traits.aggregate
      rw [occursIn_aggregateCall_iff, occursIn_aggregateCall_iff] at inBody
      rw [Bool.eq_iff_iff, occursIn_aggregateCall_iff, occursIn_aggregateCall_iff]
      exact holdsCall_withBody (by decide) inBody
    have window : windowKeyword.occursIn (withBody lead body rest) =
        windowKeyword.occursIn (withBody lead other rest) := by
      have inBody := Bool.eq_iff_iff.mp traits.window
      rw [occursIn_windowKeyword_iff, occursIn_windowKeyword_iff] at inBody
      rw [Bool.eq_iff_iff, occursIn_windowKeyword_iff, occursIn_windowKeyword_iff]
      exact holdsCall_withBody (by decide) inBody
    rw [star, call, window]

/-! ## Cutting around a body -/

section Exchange

variable (exchangeable : Exchangeable body other)

include exchangeable

theorem SameAround.mask_eq (same : SameAround body other text otherText) :
    mask text = mask otherText := by
  rcases same with rfl | ⟨lead, rest, outside, rfl, rfl⟩
  · rfl
  · rw [mask_withBody outside exchangeable.selfContained,
      mask_withBody outside exchangeable.otherSelfContained, exchangeable.sameLength]

/-- Behind the subquery the texts are the same. -/
theorem drop_withBody (behind : lead.length + body.length + 2 ≤ start) :
    (withBody lead body rest).drop start = (withBody lead other rest).drop start := by
  obtain ⟨count, rfl⟩ := Nat.exists_eq_add_of_le behind
  rw [withBody_append, withBody_append, ← length_enclosed, List.drop_length_add_append,
    length_enclosed, exchangeable.sameLength, ← length_enclosed, List.drop_length_add_append]

/-- What stands behind a place where nothing is open is the same, up to the bodies. -/
theorem SameAround.drop
    (same : SameAround body other text otherText)
    (outermost : Depth.outermost.after (text.take start) = .outermost) :
    SameAround body other (text.drop start) (otherText.drop start) := by
  rcases same with rfl | ⟨lead, rest, outside, rfl, rfl⟩
  · exact .inl rfl
  · rcases not_in_body_of_after outside exchangeable.selfContained outermost with before | behind
    · refine .inr ⟨lead.drop start, rest, ?_, List.drop_append_of_le_length before,
        List.drop_append_of_le_length before⟩
      rw [withBody, List.take_append_of_le_length before] at outermost
      rwa [← List.take_append_drop start lead, Depth.after_append, outermost] at outside
    · exact .inl (drop_withBody exchangeable behind)

/-- What stands in front of a place is the same, up to the bodies, if nothing is open there or the
character before it is one of the top level and no white space. -/
theorem SameAround.take
    (same : SameAround body other text otherText)
    (clear : Depth.outermost.after (text.take stop) = .outermost ∨
      ∃ index c, stop = index + 1 ∧ (mask text)[index]? = some c ∧ Text.isBlank c = false) :
    SameAround body other (text.take stop) (otherText.take stop) := by
  rcases same with rfl | ⟨lead, rest, outside, rfl, rfl⟩
  · exact .inl rfl
  · have place : stop ≤ lead.length + 1 ∨ lead.length + body.length + 2 ≤ stop := by
      rcases clear with outermost | ⟨index, c, rfl, visible, noBlank⟩
      · exact (not_in_body_of_after outside exchangeable.selfContained outermost).imp_left
          Nat.le_succ_of_le
      · exact (not_in_body_of_mask outside exchangeable.selfContained visible noBlank).imp
          Nat.succ_le_succ Nat.succ_le_succ
    rcases place with before | behind
    · have within : stop ≤ (lead ++ ['(']).length := by simpa using before
      left
      rw [withBody_eq, withBody_eq, List.take_append_of_le_length within,
        List.take_append_of_le_length within]
    · obtain ⟨count, rfl⟩ := Nat.exists_eq_add_of_le behind
      refine .inr ⟨lead, rest.take count, outside, ?_, ?_⟩
      · rw [withBody_append, withBody_append, ← length_enclosed, List.take_length_add_append]
      · rw [exchangeable.sameLength, withBody_append, withBody_append, ← length_enclosed,
          List.take_length_add_append]

theorem SameAround.slice
    (same : SameAround body other text otherText)
    (outermost : Depth.outermost.after (text.take start) = .outermost)
    (clear : Depth.outermost.after (text.take stop) = .outermost ∨
      ∃ index c, stop = index + 1 ∧ (mask text)[index]? = some c ∧ Text.isBlank c = false) :
    SameAround body other (Text.slice text start stop) (Text.slice otherText start stop) := by
  rcases Nat.le_total start stop with inOrder | empty
  · rw [Text.slice, Text.slice, ← List.drop_take, ← List.drop_take]
    refine (same.take exchangeable clear).drop exchangeable ?_
    rwa [List.take_take, Nat.min_eq_left inOrder]
  · left
    rw [Text.slice, Text.slice, Nat.sub_eq_zero_of_le empty, List.take_zero, List.take_zero]

/-! ## Select lists -/

/-- The items of a list are the same, up to the bodies. -/
theorem SameAround.forall₂_items (same : SameAround body other text otherText) :
    List.Forall₂ (SameAround body other) (items text (mask text)) (items otherText (mask text)) := by
  rw [items, items, List.forall₂_map_left_iff, List.forall₂_map_right_iff, List.forall₂_same]
  intro span present
  obtain ⟨front, c, back, split, stop, -, noBlank, -⟩ := exists_last_of_mem_spans present
  have visible : (mask text)[front.length]? = some c := by simp [split]
  exact same.slice exchangeable (after_take_start_of_mem_spans present)
    (.inr ⟨front.length, c, stop, visible, noBlank⟩)

/-- Lists that are the same up to bodies of the same traits both call an aggregate or neither. -/
theorem SameAround.hasAggregate_ofClause
    (traits : SameTraits body other)
    (same : SameAround body other text otherText) :
    (Projection.ofClause text (mask text)).hasAggregate =
      (Projection.ofClause otherText (mask otherText)).hasAggregate := by
  rw [← same.mask_eq exchangeable]
  exact hasAggregate_ofClause_eq
    (fun _ outermost => (same.drop exchangeable outermost).forall₂_items exchangeable)
    fun sameItem known => sameItem.hasAggregate_add traits known

/-- The bodies of a clause are the same up to the bodies of a subquery, and if it does not stand in the
clause they are the same. -/
theorem sameAround_body
    {clause : Clause}
    (outside : (Depth.outermost.after lead).inLiteral = false)
    (present : clause ∈ clauses (mask (withBody lead body rest))) :
    SameAround body other (clause.body (withBody lead body rest))
        (clause.body (withBody lead other rest)) ∧
      (¬(clause.start ≤ lead.length ∧ lead.length < clause.stop) →
        clause.body (withBody lead body rest) = clause.body (withBody lead other rest)) := by
  have outermost := after_take_start present
  have same : SameAround body other (withBody lead body rest) (withBody lead other rest) :=
    .inr ⟨lead, rest, outside, rfl, rfl⟩
  have sameLength : (withBody lead other rest).length = (withBody lead body rest).length := by
    simp [withBody, exchangeable.sameLength]
  constructor
  · rcases (ends_of_mem_clauses present).2 with toEnd | ⟨c, visible, isWord⟩
    · rw [length_mask] at toEnd
      rw [Clause.body, Clause.body, Text.slice, Text.slice, toEnd, List.take_of_length_le (by simp),
        List.take_of_length_le (by simp [sameLength])]
      exact same.drop exchangeable outermost
    · exact same.slice exchangeable outermost
        (.inl (after_take_of_mask visible (plain_of_isWord isWord)).1)
  · intro notInside
    rcases not_in_body_of_after outside exchangeable.selfContained outermost with before | behind
    · have stop : clause.stop ≤ lead.length := Nat.not_lt.mp fun inside => notInside ⟨before, inside⟩
      rw [Clause.body, Clause.body, Text.slice, Text.slice, ← List.drop_take, ← List.drop_take, withBody,
        withBody, List.take_append_of_le_length stop, List.take_append_of_le_length stop]
    · rw [Clause.body, Clause.body, Text.slice, Text.slice, drop_withBody exchangeable behind]

end Exchange

/-! ## Queries -/

/-- Whether a subquery stands in the outer select list of its query. -/
def IsListed (lead body rest : Text) : Prop :=
  ∃ clause, clause? (clauses (mask (withBody lead body rest))) "select" = some clause ∧
    clause.start ≤ lead.length ∧ lead.length < clause.stop

/-- Whether the outer select list calls an aggregate does not depend on the body of a subquery outside of
the list; inside of it, bodies of the same traits make no difference. -/
theorem listed_body_opaque
    [CommentRemover]
    (outside : (Depth.outermost.after lead).inLiteral = false)
    (selfContained : IsSelfContained body)
    (otherSelfContained : IsSelfContained other)
    (sameLength : body.length = other.length)
    (normal : normalize (withBody lead body rest) = withBody lead body rest)
    (otherNormal : normalize (withBody lead other rest) = withBody lead other rest)
    (traits : IsListed lead body rest → SameTraits body other) :
    (Structure.extract (withBody lead body rest)).selectHasAggregate =
      (Structure.extract (withBody lead other rest)).selectHasAggregate := by
  have exchangeable : Exchangeable body other := ⟨selfContained, otherSelfContained, sameLength⟩
  have sameMask : mask (withBody lead body rest) = mask (withBody lead other rest) :=
    SameAround.mask_eq exchangeable (.inr ⟨lead, rest, outside, rfl, rfl⟩)
  rw [extract_of_normal normal (withBody_ne_nil _ _ _),
    extract_of_normal otherNormal (withBody_ne_nil _ _ _)]
  simp only [Structure.ofNormal, ← sameMask]
  cases found : clause? (clauses (mask (withBody lead body rest))) "select" with
  | none => rfl
  | some clause =>
      have present : clause ∈ clauses (mask (withBody lead body rest)) :=
        List.mem_of_find?_eq_some found
      have bodyMask := body_mask present
      obtain ⟨same, sameOutside⟩ := sameAround_body exchangeable outside present
      by_cases inside : clause.start ≤ lead.length ∧ lead.length < clause.stop
      · have listed := same.hasAggregate_ofClause exchangeable (traits ⟨clause, found, inside⟩)
        rw [← same.mask_eq exchangeable, ← bodyMask] at listed
        exact listed
      · simp only [sameOutside inside]

/-- The column of an aggregate and the table that it is read from do not matter. -/
theorem listed_body_opaque_for_maximum :
    (Structure.extract (withBody "SELECT a, " "SELECT MAX(x) FROM u" " FROM t")).selectHasAggregate =
      (Structure.extract (withBody "SELECT a, " "SELECT MIN(y) FROM v" " FROM t")).selectHasAggregate :=
  listed_body_opaque (by decide) (by decide) (by decide) (by decide) (by decide +kernel)
    (by decide +kernel) fun _ => ⟨by decide +kernel, by decide +kernel, by simp [nameMarks]⟩

/-- An aggregate of a subquery in the list counts as one of the list. -/
theorem listed_aggregate_counts :
    ∃ lead body other rest : Text, (Depth.outermost.after lead).inLiteral = false ∧
      StartsWithSelect body ∧ StartsWithSelect other ∧ IsSelfContained body ∧ IsSelfContained other ∧
      body.length = other.length ∧ hasCommentMark (withBody lead body rest) = false ∧
      hasCommentMark (withBody lead other rest) = false ∧
      normalize (withBody lead body rest) = withBody lead body rest ∧
      normalize (withBody lead other rest) = withBody lead other rest ∧
      (Structure.extract (withBody lead body rest)).selectHasAggregate ≠
        (Structure.extract (withBody lead other rest)).selectHasAggregate :=
  ⟨"SELECT a, ", "SELECT MAX(x) FROM u", "SELECT ABS(x) FROM u", " FROM t", by decide,
    ⟨[], "SELECT", " MAX(x) FROM u", rfl, by simp, by decide, rfl⟩,
    ⟨[], "SELECT", " ABS(x) FROM u", rfl, by simp, by decide, rfl⟩, by decide, by decide, by decide,
    by decide +kernel, by decide +kernel, by decide +kernel, by decide +kernel, by decide +kernel⟩

end Query
end SqlReview
