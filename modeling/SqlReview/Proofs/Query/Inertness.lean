import SqlReview.Proofs.Query.Clauses
import SqlReview.Proofs.Query.Joins
import SqlReview.Proofs.Query.Literals
import SqlReview.Proofs.Query.Normal
import SqlReview.Proofs.Query.Scanners
import SqlReview.Query.Comment

/-!
# Inertness of literals

What closed literals hold does not move anything. The scans of two queries that differ in literals
only stay in step: both have the same mask, the same subqueries up to the contents of literals, and
views that differ in literals only. So both have the same clauses and joins, and an OR in the outer
WHERE clause of one is an OR in that of the other.
-/

namespace SqlReview
namespace Query

variable {text other : Text}

/-! ## Masks -/

/-- The contents of literals do not show in a mask. -/
theorem SameOutside.maskFrom_eq
    {depth : Depth}
    (same : SameOutside depth.inLiteral text other) :
    maskFrom depth text = maskFrom depth other := by
  generalize flag : depth.inLiteral = inLiteral at same
  induction same generalizing depth with
  | nil => rfl
  | quote _ inductionHypothesis =>
      rw [maskFrom_cons, maskFrom_cons, inductionHypothesis]
      rw [Depth.inLiteral_step, if_pos rfl, flag]
  | plain noQuote _ inductionHypothesis =>
      rw [maskFrom_cons, maskFrom_cons, inductionHypothesis]
      rw [Depth.inLiteral_step, if_neg noQuote, flag]
  | @inside c d _ _ noQuote otherNoQuote _ _ inductionHypothesis =>
      have stays (c : Char) (noQuote : c ≠ '\'') : depth.step c = depth ∧
          depth.shows c = false := by
        simp [Depth.step, Depth.shows, noQuote, flag]
      obtain ⟨step, hidden⟩ := stays c noQuote
      obtain ⟨otherStep, otherHidden⟩ := stays d otherNoQuote
      rw [maskFrom_cons, maskFrom_cons, hidden, otherHidden, step, otherStep,
        inductionHypothesis flag]
      rfl

theorem SameOutside.mask_eq (same : SameOutside false text other) :
    mask text = mask other :=
  have outermost : SameOutside Depth.outermost.inLiteral text other := same
  outermost.maskFrom_eq

/-! ## Subqueries -/

/-- The contents of literals do not decide whether a subquery starts. -/
theorem SameOutside.startsWithSelect
    (same : SameOutside false text other)
    (starts : StartsWithSelect text) :
    StartsWithSelect other := by
  obtain ⟨lead, word, rest, rfl, blank, folds, outside⟩ := starts
  have noQuote : '\'' ∉ lead ++ word := fun present =>
    (isPlain_of_select blank folds _ present).1 rfl
  obtain ⟨otherRest, rfl, behind⟩ := same.split_plain noQuote
  refine ⟨lead, word, otherRest, rfl, blank, folds, ?_⟩
  cases behind with
  | nil => exact outside
  | quote _ => exact outside
  | plain _ _ => exact outside

theorem SameOutside.startsSubquery_eq
    (same : SameOutside false text other)
    (c : Char) :
    startsSubquery (c :: text) = startsSubquery (c :: other) := by
  rw [Bool.eq_iff_iff, startsSubquery_iff, startsSubquery_iff]
  constructor
  · rintro ⟨_, equal, starts⟩
    obtain ⟨rfl, rfl⟩ := List.cons.inj equal
    exact ⟨other, rfl, same.startsWithSelect starts⟩
  · rintro ⟨_, equal, starts⟩
    obtain ⟨rfl, rfl⟩ := List.cons.inj equal
    exact ⟨text, rfl, same.symm.startsWithSelect starts⟩

/-- The step of the scan over the first character of a text. -/
def Nest.stepOver (nest : Nest) (c : Char) (rest : Text) : Nest :=
  nest.step (c = '(' && startsSubquery (c :: rest)) c

theorem marksFrom_cons
    (nest : Nest)
    (c : Char)
    (rest : Text) :
    marksFrom nest (c :: rest) = nest.mark c :: marksFrom (nest.stepOver c rest) rest := rfl

theorem countFrom_cons
    (nest : Nest)
    (c : Char)
    (rest : Text) :
    countFrom nest (c :: rest) = countFrom (nest.stepOver c rest) rest := rfl

theorem Nest.inLiteral_stepOver
    (nest : Nest)
    (c : Char)
    (rest : Text) :
    (nest.stepOver c rest).inLiteral = if c = '\'' then !nest.inLiteral else nest.inLiteral :=
  nest.inLiteral_step _ c

/-- The contents of literals do not change where the scan gets. -/
theorem SameOutside.stepOver_eq
    {nest : Nest}
    {c : Char}
    (same : SameOutside nest.inLiteral text other) :
    nest.stepOver c text = nest.stepOver c other := by
  unfold Nest.stepOver
  cases inLiteral : nest.inLiteral with
  | false =>
      rw [inLiteral] at same
      rw [same.startsSubquery_eq]
  | true =>
      by_cases quote : c = '\''
      · subst quote
        rw [Nest.step_quote, Nest.step_quote]
      · rw [Nest.step_inLiteral quote inLiteral, Nest.step_inLiteral quote inLiteral]

/-- A mark without its character and without how it looks from outside. -/
def Mark.hull (mark : Mark) : Char × Option Nat :=
  (mark.masked, mark.owner)

/-- The contents of literals do not change which subquery a character belongs to, nor what shows of
it in its mask. -/
theorem SameOutside.hulls_eq
    {nest : Nest}
    (same : SameOutside nest.inLiteral text other) :
    (marksFrom nest text).map Mark.hull = (marksFrom nest other).map Mark.hull ∧
      countFrom nest text = countFrom nest other := by
  generalize flag : nest.inLiteral = inLiteral at same
  induction same generalizing nest with
  | nil => exact ⟨rfl, rfl⟩
  | @quote _ rest other next inductionHypothesis =>
      have after : (nest.stepOver '\'' rest).inLiteral = !nest.inLiteral := by
        rw [Nest.inLiteral_stepOver, if_pos rfl]
      have step : nest.stepOver '\'' rest = nest.stepOver '\'' other := by
        rw [Nest.stepOver, Nest.stepOver, Nest.step_quote, Nest.step_quote]
      obtain ⟨hulls, count⟩ := inductionHypothesis (flag ▸ after)
      rw [marksFrom_cons, marksFrom_cons, List.map_cons, List.map_cons, hulls, countFrom_cons,
        countFrom_cons, count, step]
      exact ⟨rfl, rfl⟩
  | @plain _ c rest other noQuote next inductionHypothesis =>
      have after : (nest.stepOver c rest).inLiteral = nest.inLiteral := by
        rw [Nest.inLiteral_stepOver, if_neg noQuote]
      have step : nest.stepOver c rest = nest.stepOver c other := by
        rw [← flag] at next
        exact next.stepOver_eq
      obtain ⟨hulls, count⟩ := inductionHypothesis (flag ▸ after)
      rw [marksFrom_cons, marksFrom_cons, List.map_cons, List.map_cons, hulls, countFrom_cons,
        countFrom_cons, count, step]
      exact ⟨rfl, rfl⟩
  | @inside c d rest other noQuote otherNoQuote _ next inductionHypothesis =>
      obtain ⟨hulls, count⟩ := inductionHypothesis flag
      rw [marksFrom, marksFrom, countFrom, countFrom, Nest.step_inLiteral noQuote flag,
        Nest.step_inLiteral otherNoQuote flag, List.map_cons, List.map_cons, hulls]
      refine ⟨?_, count⟩
      simp [Mark.hull, flag, noQuote, otherNoQuote, Nest.seen_inLiteral flag]

/-- Two queries that differ in literals only have the same subqueries up to the contents of
literals. -/
theorem SameOutside.masked_scopes_eq (same : SameOutside false text other) :
    (scopes text).map (·.masked) = (scopes other).map (·.masked) := by
  have outermost : SameOutside Nest.outermost.inLiteral text other := same
  obtain ⟨hulls, count⟩ := outermost.hulls_eq
  have ownMasked (text : Text) (number : Nat) : (scope (marks text) number).masked =
      (((marks text).map Mark.hull).filter (·.2 = some number)).map Prod.fst := by
    rw [List.filter_map, List.map_map]
    rfl
  have counts : subqueryCount text = subqueryCount other := count
  have sameHulls : (marks text).map Mark.hull = (marks other).map Mark.hull := hulls
  rw [scopes, scopes, List.map_map, List.map_map, counts]
  refine List.map_congr_left fun number _ => ?_
  rw [Function.comp_apply, Function.comp_apply, ownMasked, ownMasked, sameHulls]

/-! ## Views -/

/-- Whether a literal is open at a place in what is visible from outside all subqueries. -/
def Nest.opensLiteral (nest : Nest) : Bool :=
  nest.inLiteral && nest.around = 0

/-- A quote that closes a literal outside of all subqueries is visible from there. -/
theorem quote_mem_outside
    {nest : Nest}
    (opens : nest.opensLiteral = true)
    (closes : '\'' ∈ text) :
    '\'' ∈ (marksFrom nest text).map (·.outside) := by
  rw [Nest.opensLiteral, Bool.and_eq_true, decide_eq_true_eq] at opens
  induction text with
  | nil => exact absurd closes List.not_mem_nil
  | cons c rest inductionHypothesis =>
      rw [marksFrom_cons, List.map_cons, List.mem_cons]
      by_cases quote : c = '\''
      · subst quote
        left
        rw [Nest.outside_mark, Nest.seen_inLiteral opens.1, opens.2, if_neg (Nat.lt_irrefl 0)]
      · right
        rw [Nest.stepOver, Nest.step_inLiteral quote opens.1]
        exact inductionHypothesis ((List.mem_cons.mp closes).resolve_left (Ne.symm quote))

/-- A literal opens or closes in the view where its quote is visible. -/
theorem Nest.opensLiteral_stepOver
    (nest : Nest)
    (c : Char)
    (rest : Text) :
    (nest.stepOver c rest).opensLiteral =
      if (nest.mark c).outside = '\'' then !nest.opensLiteral else nest.opensLiteral := by
  by_cases quote : c = '\''
  · subst quote
    rw [stepOver, step_quote, outside_mark, seen_of_ne (by decide)]
    by_cases enclosed : 0 < nest.around
    · simp [opensLiteral, enclosed, Nat.pos_iff_ne_zero.mp enclosed]
    · simp [opensLiteral, Nat.eq_zero_of_not_pos enclosed]
  · have noQuote : (nest.mark c).outside ≠ '\'' := by
      rcases nest.outside_mark_eq_or c with same | blank
      · rwa [same]
      · rw [blank]
        decide
    rw [if_neg noQuote]
    cases inLiteral : nest.inLiteral with
    | true => rw [stepOver, step_inLiteral quote inLiteral]
    | false =>
        have after := nest.inLiteral_stepOver c rest
        rw [if_neg quote, inLiteral] at after
        rw [opensLiteral, opensLiteral, inLiteral, after]
        rfl

/-- Views of texts that differ in literals only differ in literals only. -/
theorem SameOutside.outside
    {nest : Nest}
    (same : SameOutside nest.inLiteral text other) :
    SameOutside nest.opensLiteral ((marksFrom nest text).map (·.outside))
      ((marksFrom nest other).map (·.outside)) := by
  generalize flag : nest.inLiteral = inLiteral at same
  induction same generalizing nest with
  | nil => exact .nil _
  | @quote _ rest other next inductionHypothesis =>
      have after : (nest.stepOver '\'' rest).inLiteral = !nest.inLiteral := by
        rw [Nest.inLiteral_stepOver, if_pos rfl]
      have step : nest.stepOver '\'' rest = nest.stepOver '\'' other := by
        rw [Nest.stepOver, Nest.stepOver, Nest.step_quote, Nest.step_quote]
      have behind := inductionHypothesis (flag ▸ after)
      rw [Nest.opensLiteral_stepOver] at behind
      rw [marksFrom_cons, marksFrom_cons, ← step]
      exact .cons behind
  | @plain _ c rest other noQuote next inductionHypothesis =>
      have after : (nest.stepOver c rest).inLiteral = nest.inLiteral := by
        rw [Nest.inLiteral_stepOver, if_neg noQuote]
      have step : nest.stepOver c rest = nest.stepOver c other := by
        rw [← flag] at next
        exact next.stepOver_eq
      have behind := inductionHypothesis (flag ▸ after)
      rw [Nest.opensLiteral_stepOver] at behind
      rw [marksFrom_cons, marksFrom_cons, ← step]
      exact .cons behind
  | @inside c d rest other noQuote otherNoQuote closes next inductionHypothesis =>
      have behind := inductionHypothesis flag
      rw [marksFrom_cons, marksFrom_cons, Nest.stepOver, Nest.stepOver,
        Nest.step_inLiteral noQuote flag, Nest.step_inLiteral otherNoQuote flag, List.map_cons,
        List.map_cons, Nest.outside_mark, Nest.outside_mark, Nest.seen_inLiteral flag,
        Nest.seen_inLiteral flag]
      by_cases enclosed : 0 < nest.around
      · rw [if_pos enclosed, if_pos enclosed]
        exact .plain (by decide) behind
      · have opens : nest.opensLiteral = true := by
          simp [Nest.opensLiteral, flag, Nat.eq_zero_of_not_pos enclosed]
        rw [opens] at behind
        rw [if_neg enclosed, if_neg enclosed, opens]
        exact .inside noQuote otherNoQuote (quote_mem_outside opens closes) behind

/-! ## Places of the top level -/

/-- A word character that the mask shows is outside of literals. -/
theorem Depth.outside_of_shows
    {depth : Depth}
    {c : Char}
    (isWord : Text.isWord (if depth.shows c then c else ' ') = true) :
    depth.inLiteral = false := by
  split at isWord
  · rename_i shows
    have noQuote : c ≠ '\'' := by
      rintro rfl
      exact absurd isWord (by decide)
    cases inLiteral : depth.inLiteral with
    | false => rfl
    | true => simp [Depth.shows, noQuote, inLiteral] at shows
  · exact absurd isWord (by decide)

/-- No literal is open in the view where the mask shows a word character. -/
theorem literalAfter_take_of_maskFrom
    {nest : Nest}
    {index : Nat}
    {c : Char}
    (visible : (maskFrom nest.depth text)[index]? = some c)
    (isWord : Text.isWord c = true) :
    literalAfter nest.opensLiteral (((marksFrom nest text).map (·.outside)).take index) =
      false := by
  induction text generalizing nest index with
  | nil => simp at visible
  | cons d rest inductionHypothesis =>
      rw [maskFrom_cons] at visible
      cases index with
      | zero =>
          obtain rfl := Option.some.inj visible
          have outside : nest.inLiteral = false := Depth.outside_of_shows isWord
          rw [List.take_zero, literalAfter_nil, Nest.opensLiteral, outside]
          rfl
      | succ index =>
          rw [List.getElem?_cons_succ,
            ← Nest.depth_step nest (d = '(' && startsSubquery (d :: rest))] at visible
          rw [marksFrom_cons, List.map_cons, List.take_succ_cons, literalAfter_cons,
            ← Nest.opensLiteral_stepOver nest d rest]
          exact inductionHypothesis visible

/-- No literal is open in the outside view on either side of a word character that the mask
shows. -/
theorem literalAfter_take_outsideView
    {index : Nat}
    {c : Char}
    (visible : (mask text)[index]? = some c)
    (isWord : Text.isWord c = true) :
    literalAfter false ((outsideView text).take index) = false ∧
      literalAfter false ((outsideView text).take (index + 1)) = false := by
  have shown : (maskFrom Nest.outermost.depth text)[index]? = some c := visible
  have before : literalAfter false ((outsideView text).take index) = false :=
    literalAfter_take_of_maskFrom shown isWord
  refine ⟨before, ?_⟩
  have noBlank : c ≠ ' ' := by
    rintro rfl
    exact absurd isWord (by decide)
  have noQuote : c ≠ '\'' := by
    rintro rfl
    exact absurd isWord (by decide)
  have notBlank : (mask text)[index]? ≠ some ' ' := by
    simpa [visible] using noBlank
  have view : (outsideView text)[index]? = (mask text)[index]? :=
    getElem?_outside_of_maskFrom Nest.wellFormed_outermost text index notBlank
  rw [List.take_add_one, view, visible, literalAfter_append, before]
  simp [literalAfter_cons, noQuote]

/-- The bodies of a clause in the two views differ in literals only. -/
theorem SameOutside.body
    (same : SameOutside false text other)
    {clause : Clause}
    (present : clause ∈ clauses (mask text)) :
    SameOutside false (clause.body (outsideView text)) (clause.body (outsideView other)) := by
  obtain ⟨⟨index, c, start, visible, isWord⟩, stop⟩ := ends_of_mem_clauses present
  have outermost : SameOutside Nest.outermost.inLiteral text other := same
  have views : SameOutside false (outsideView text) (outsideView other) := outermost.outside
  refine views.slice ?_ ?_
  · rw [start]
    exact (literalAfter_take_outsideView visible isWord).2
  · rcases stop with toEnd | ⟨d, visibleBehind, isWordBehind⟩
    · exact .inr (Nat.le_of_eq (by rw [toEnd, length_mask, length_outsideView]))
    · exact .inl (literalAfter_take_outsideView visibleBehind isWordBehind).1

/-! ## Inertness -/

theorem SameOutside.hasOr_eq
    (same : SameOutside false text other)
    {clause : Clause}
    (present : clause ∈ clauses (mask text)) :
    hasOr (clause.body (outsideView text)) = hasOr (clause.body (outsideView other)) := by
  rw [hasOr, hasOr, (same.body present).withoutLiterals_eq]

/-- What closed literals hold is inert: queries in normal form that have their quotes at the same
places and differ only inside closed literals have as many subqueries, joins of the same forms, and
a WHERE clause, an OR in it and a row limit both or neither. -/
theorem literals_inert
    [CommentRemover]
    (normal : normalize text = text)
    (otherNormal : normalize other = other)
    (sameLength : text.length = other.length)
    (sameQuotes : ∀ index < text.length, text[index]? = some '\'' ↔ other[index]? = some '\'')
    (agree : ∀ index < text.length, ¬InClosedLiteral text index → text[index]? = other[index]?) :
    let first := Structure.extract text
    let second := Structure.extract other
    first.subqueryCount = second.subqueryCount ∧ first.hasWhere = second.hasWhere ∧
      first.hasOrInWhere = second.hasOrInWhere ∧ first.hasLimit = second.hasLimit ∧
      first.joins.map Join.form = second.joins.map Join.form := by
  by_cases empty : text = []
  · subst empty
    obtain rfl := List.length_eq_zero_iff.mp sameLength.symm
    simp
  have otherNonempty : other ≠ [] := by
    rintro rfl
    exact empty (List.length_eq_zero_iff.mp sameLength)
  have same : SameOutside false text other :=
    sameOutside_of_inClosedLiteral sameLength sameQuotes agree
  have outermost : SameOutside Nest.outermost.inLiteral text other := same
  have count : subqueryCount text = subqueryCount other := outermost.hulls_eq.2
  have joins : (allSources text (mask text)).joins.map Join.form =
      (allSources other (mask other)).joins.map Join.form := by
    rw [forms_allSources, forms_allSources, same.mask_eq, same.masked_scopes_eq]
  rw [extract_of_normal normal empty, extract_of_normal otherNormal otherNonempty]
  simp only [Structure.ofNormal, ← same.mask_eq]
  refine ⟨count, ?_, ?_, trivial, same.mask_eq ▸ joins⟩
  · rw [Option.isSome_map, Option.isSome_map]
  · cases found : clause? (clauses (mask text)) "where" with
    | none => rfl
    | some clause =>
        have present : clause ∈ clauses (mask text) := List.mem_of_find?_eq_some found
        simp only [Option.map_some, Option.any_some]
        exact same.hasOr_eq present

/-- Keywords and parentheses inside a literal have no effect. -/
theorem literals_inert_in_condition :
    let first := Structure.extract "from t where b = '(select or('".toList
    let second := Structure.extract "from t where b = 'join limit)'".toList
    first.subqueryCount = second.subqueryCount ∧ first.hasWhere = second.hasWhere ∧
      first.hasOrInWhere = second.hasOrInWhere ∧ first.hasLimit = second.hasLimit ∧
      first.joins.map Join.form = second.joins.map Join.form :=
  literals_inert (by decide +kernel) (by decide +kernel) (by decide) (by decide +kernel)
    (by decide +kernel)

end Query
end SqlReview
