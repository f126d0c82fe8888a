import Mathlib.Algebra.GroupWithZero.Nat
import Mathlib.Data.List.Nodup
import Mathlib.Data.List.Perm.Subperm
import SqlReview.Proofs.Query.Scanners

/-!
# The places of subqueries

The scan for subqueries is followed character by character. At every place its stack, its counts
and the depth that `mask` keeps agree, and the subqueries met so far are those whose opening
parenthesis has been read. Main statement: the subqueries take the characters of a query apart. Each
character belongs to one of them at most, they stand in the order of their opening parentheses, and
what is nested in a subquery leaves nothing in it but an empty pair of parentheses.
-/

namespace SqlReview
namespace Query

/-! ## Literals -/

/-- Whether a place of a text is inside a literal: the number of quotes before it is odd. -/
def IsQuoted (text : Text) (index : Nat) : Prop :=
  (text.take index).count '\'' % 2 = 1

instance (text : Text) (index : Nat) : Decidable (IsQuoted text index) :=
  inferInstanceAs (Decidable (_ = _))

/-- An odd number of quotes leads into a literal or out of it. -/
theorem Depth.inLiteral_after
    (depth : Depth)
    (text : Text) :
    (depth.after text).inLiteral = (depth.inLiteral ^^ decide (text.count '\'' % 2 = 1)) := by
  induction text generalizing depth with
  | nil => exact (Bool.xor_false _).symm
  | cons c rest inductionHypothesis =>
      rw [Depth.after_cons, inductionHypothesis, Depth.inLiteral_step, List.count_cons]
      by_cases quote : c = '\''
      · rcases Nat.mod_two_eq_zero_or_one (rest.count '\'') with even | odd
        · simp [quote, even, Nat.add_mod]
        · simp [quote, odd, Nat.add_mod]
      · simp [quote]

theorem inLiteral_after_take
    (text : Text)
    (index : Nat) :
    (Depth.outermost.after (text.take index)).inLiteral = decide (IsQuoted text index) := by
  rw [Depth.inLiteral_after]
  exact Bool.false_xor _

/-! ## Places of the scan -/

namespace Nest

/-- The place that the scan has reached after a number of characters. -/
def walk (nest : Nest) : Text → Nat → Nest
  | _, 0 => nest
  | [], _ + 1 => nest
  | c :: rest, index + 1 => (nest.step (c = '(' && startsSubquery (c :: rest)) c).walk rest index

@[simp] theorem walk_zero (nest : Nest) (text : Text) : nest.walk text 0 = nest := by
  cases text <;> rfl

@[simp] theorem walk_nil (nest : Nest) (index : Nat) : nest.walk [] index = nest := by
  cases index <;> rfl

@[simp] theorem walk_cons_succ
    (nest : Nest)
    (c : Char)
    (rest : Text)
    (index : Nat) :
    nest.walk (c :: rest) (index + 1) =
      (nest.step (c = '(' && startsSubquery (c :: rest)) c).walk rest index := rfl

/-- One character more is one step more. -/
theorem walk_succ
    {nest : Nest}
    {text : Text}
    {index : Nat}
    {c : Char}
    (here : text[index]? = some c) :
    nest.walk text (index + 1) =
      (nest.walk text index).step (c = '(' && startsSubquery (text.drop index)) c := by
  induction text generalizing nest index with
  | nil => simp at here
  | cons d rest inductionHypothesis =>
      cases index with
      | zero =>
          obtain rfl : d = c := by simpa using here
          rw [walk_cons_succ, walk_zero, walk_zero, List.drop_zero]
      | succ index =>
          rw [walk_cons_succ, inductionHypothesis (by simpa using here), walk_cons_succ,
            List.drop_succ_cons]

theorem walk_length
    (nest : Nest)
    (text : Text) :
    nest.walk text text.length = nest.after text := by
  induction text generalizing nest with
  | nil => rfl
  | cons c rest inductionHypothesis => exact inductionHypothesis _

theorem WellFormed.walk
    {nest : Nest}
    (wellFormed : nest.WellFormed)
    (text : Text)
    (index : Nat) :
    (nest.walk text index).WellFormed := by
  induction text generalizing nest index with
  | nil => rwa [walk_nil]
  | cons c rest inductionHypothesis =>
      cases index with
      | zero => exact wellFormed
      | succ index => exact inductionHypothesis (wellFormed.step _ c) index

theorem depth_walk
    (nest : Nest)
    (text : Text)
    (index : Nat) :
    (nest.walk text index).depth = nest.depth.after (text.take index) := by
  induction text generalizing nest index with
  | nil => rw [walk_nil, List.take_nil, Depth.after_nil]
  | cons c rest inductionHypothesis =>
      cases index with
      | zero => rfl
      | succ index =>
          rw [walk_cons_succ, inductionHypothesis, depth_step, List.take_succ_cons,
            Depth.after_cons]

end Nest

theorem getElem?_marksFrom
    (nest : Nest)
    (text : Text)
    (index : Nat) :
    (marksFrom nest text)[index]? = text[index]?.map (nest.walk text index).mark := by
  induction text generalizing nest index with
  | nil => rfl
  | cons c rest inductionHypothesis =>
      cases index with
      | zero => rfl
      | succ index => exact inductionHypothesis _ index

/-- The place that the scan of a query has reached after a number of characters. -/
def placeAt (text : Text) (index : Nat) : Nest :=
  Nest.outermost.walk text index

theorem wellFormed_placeAt (text : Text) (index : Nat) : (placeAt text index).WellFormed :=
  Nest.wellFormed_outermost.walk text index

theorem depth_placeAt (text : Text) (index : Nat) :
    (placeAt text index).depth = Depth.outermost.after (text.take index) :=
  Nest.depth_walk .outermost text index

theorem inLiteral_placeAt (text : Text) (index : Nat) :
    (placeAt text index).inLiteral = decide (IsQuoted text index) := by
  have depths := congrArg Depth.inLiteral (depth_placeAt text index)
  rwa [inLiteral_after_take] at depths

/-! ## Opening parentheses -/

/-- Whether a subquery opens at a place: outside of literals an opening parenthesis stands there,
and the word SELECT behind it. -/
def OpensSubquery (text : Text) (index : Nat) : Prop :=
  ¬IsQuoted text index ∧ startsSubquery (text.drop index) = true

instance (text : Text) (index : Nat) : Decidable (OpensSubquery text index) :=
  inferInstanceAs (Decidable (_ ∧ _))

/-- The places at which subqueries open. -/
def openings (text : Text) : List Nat :=
  (List.range text.length).filter (OpensSubquery text)

theorem getElem?_of_startsSubquery
    {text : Text}
    {index : Nat}
    (starts : startsSubquery (text.drop index) = true) :
    text[index]? = some '(' ∧ ∃ c, text[index + 1]? = some c ∧ c ≠ ')' := by
  obtain ⟨_, behind, lead, word, rest, rfl, blank, folds, -⟩ := startsSubquery_iff.mp starts
  have ahead (distance : Nat) :
      text[index + distance]? = ('(' :: (lead ++ word ++ rest))[distance]? := by
    rw [← behind, List.getElem?_drop]
  refine ⟨ahead 0, ?_⟩
  obtain ⟨c, others, start⟩ : ∃ c others, lead ++ word = c :: others := by
    refine List.exists_cons_of_ne_nil fun nothing => ?_
    rw [(List.append_eq_nil_iff.mp nothing).2] at folds
    exact absurd folds (by decide)
  refine ⟨c, ?_, (isPlain_of_select blank folds c (start ▸ .head _)).2.2⟩
  rw [ahead 1, start]
  rfl

/-- The scan meets a new subquery at the places where one opens. -/
theorem opened_placeAt_succ
    {text : Text}
    {index : Nat}
    (inside : index < text.length) :
    (placeAt text (index + 1)).opened =
      (placeAt text index).opened + if OpensSubquery text index then 1 else 0 := by
  have here : text[index]? = some text[index] := List.getElem?_eq_getElem inside
  rw [placeAt, Nest.walk_succ here, Nest.opened_step, ← placeAt, inLiteral_placeAt]
  congr 1
  apply if_congr _ rfl rfl
  constructor
  · rintro ⟨isOpen, outside, starts⟩
    exact ⟨of_decide_eq_false outside, (Bool.and_eq_true _ _ ▸ starts).2⟩
  · rintro ⟨outside, starts⟩
    have isOpen : text[index] = '(' :=
      Option.some.inj (here.symm.trans (getElem?_of_startsSubquery starts).1)
    exact ⟨isOpen, decide_eq_false outside, by simp [isOpen, starts]⟩

theorem opened_placeAt
    {text : Text}
    {index : Nat}
    (inside : index ≤ text.length) :
    (placeAt text index).opened = (List.range index).countP (OpensSubquery text) := by
  induction index with
  | zero => simp [placeAt, Nest.outermost]
  | succ index inductionHypothesis =>
      rw [opened_placeAt_succ inside, inductionHypothesis (Nat.le_of_succ_le inside),
        List.range_succ, List.countP_append, List.countP_singleton]
      simp

theorem opened_placeAt_mono
    {text : Text}
    {index later : Nat}
    (before : index ≤ later)
    (inside : later ≤ text.length) :
    (placeAt text index).opened ≤ (placeAt text later).opened := by
  rw [opened_placeAt inside, opened_placeAt (Nat.le_trans before inside)]
  exact (List.range_sublist.mpr before).countP_le

theorem subqueryCount_eq (text : Text) :
    subqueryCount text = (openings text).length := by
  rw [subqueryCount, countFrom_eq, ← Nest.walk_length, ← placeAt,
    opened_placeAt (Nat.le_refl _), List.countP_eq_length_filter, openings]

/-! ## The places of one subquery -/

/-- The places of the characters of a subquery. -/
def ownPlaces (text : Text) (number : Nat) : List Nat :=
  (List.range text.length).filter fun index =>
    (marks text)[index]?.any fun mark => mark.owner = some number

/-- The characters of a text at given places. -/
def pick (text : Text) (places : List Nat) : Text :=
  places.filterMap fun index => text[index]?

theorem mem_ownPlaces
    {text : Text}
    {number index : Nat} :
    index ∈ ownPlaces text number ↔
      ∃ c, text[index]? = some c ∧ ((placeAt text index).seen c).owner = some number := by
  rw [ownPlaces, List.mem_filter, List.mem_range, marks, getElem?_marksFrom, ← placeAt]
  cases here : text[index]? with
  | none => simp
  | some c =>
      have inside := (List.getElem?_eq_some_iff.mp here).1
      simp only [Option.map_some, Option.any_some, Nest.owner_mark, Option.some.injEq,
        exists_eq_left', inside, true_and]
      exact decide_eq_true_iff

/-- The characters that a test keeps are those at the places where it succeeds. -/
theorem filter_eq_filterMap_range {α : Type}
    (keep : α → Bool)
    (items : List α) :
    items.filter keep =
      ((List.range items.length).filter fun index => items[index]?.any keep).filterMap
        fun index => items[index]? := by
  induction items with
  | nil => rfl
  | cons first items inductionHypothesis =>
      rw [List.length_cons, List.range_succ_eq_map, List.filter_cons, List.filter_cons,
        List.filter_map, inductionHypothesis]
      simp only [List.getElem?_cons_zero, Option.any_some, Function.comp_def,
        List.getElem?_cons_succ]
      split
      · simp [List.filterMap_map]
      · simp [List.filterMap_map]

theorem text_scope
    (text : Text)
    (number : Nat) :
    (scope (marks text) number).text = pick text (ownPlaces text number) := by
  have places : ownPlaces text number = (List.range (marks text).length).filter fun index =>
      (marks text)[index]?.any fun mark => mark.owner = some number := by
    rw [ownPlaces, marks, length_marksFrom]
  rw [scope, filter_eq_filterMap_range, List.map_filterMap, ← places, pick]
  apply congrArg (List.filterMap · (ownPlaces text number))
  funext index
  rw [marks, getElem?_marksFrom]
  cases text[index]? <;> rfl

/-- A subquery begins right behind its opening parenthesis. -/
theorem head?_ownPlaces
    {text : Text}
    {index : Nat}
    (opens : OpensSubquery text index) :
    (ownPlaces text (placeAt text index).opened).head? = some (index + 1) := by
  obtain ⟨isOpen, c, next, noClose⟩ := getElem?_of_startsSubquery opens.2
  have inside : index + 1 < text.length := (List.getElem?_eq_some_iff.mp next).1
  have outside : (placeAt text index).inLiteral = false :=
    (inLiteral_placeAt text index).trans (decide_eq_false opens.1)
  have pushed : placeAt text (index + 1) = (placeAt text index).push true := by
    rw [placeAt, Nest.walk_succ isOpen, ← placeAt, Nest.step_open outside, opens.2]
    rfl
  have isOwn : index + 1 ∈ ownPlaces text (placeAt text index).opened := by
    refine mem_ownPlaces.mpr ⟨c, next, ?_⟩
    rw [Nest.seen_of_ne noClose, pushed]
    rfl
  rw [ownPlaces, List.head?_filter, List.find?_range_eq_some]
  refine ⟨(List.mem_filter.mp isOwn).2, (List.mem_filter.mp isOwn).1, fun earlier before => ?_⟩
  rw [Bool.not_eq_true', ← Bool.not_eq_true]
  intro owned
  have isEarlier : earlier ∈ ownPlaces text (placeAt text index).opened :=
    List.mem_filter.mpr ⟨List.mem_range.mpr (Nat.lt_trans before inside), owned⟩
  obtain ⟨d, -, owner⟩ := mem_ownPlaces.mp isEarlier
  -- The subquery has no number yet at an earlier place.
  have numbered := (wellFormed_placeAt text earlier).below _
    (Nest.mem_numbers.mpr (Nest.mem_stack_of_owner_seen owner))
  have later := opened_placeAt_mono (Nat.le_of_lt_succ before)
    (Nat.le_of_lt (Nat.lt_of_succ_lt inside))
  exact Nat.not_lt.mpr later numbered

theorem nodup_ownPlaces (text : Text) (number : Nat) : (ownPlaces text number).Nodup :=
  List.nodup_range.filter _

/-- A character belongs to one subquery at most. -/
theorem disjoint_ownPlaces
    {text : Text}
    {number other : Nat}
    (apart : number ≠ other) :
    (ownPlaces text number).Disjoint (ownPlaces text other) := by
  intro index present isOther
  obtain ⟨c, here, owner⟩ := mem_ownPlaces.mp present
  obtain ⟨d, again, otherOwner⟩ := mem_ownPlaces.mp isOther
  obtain rfl := Option.some.inj (here.symm.trans again)
  exact apart (Option.some.inj (owner.symm.trans otherOwner))

/-! ## All subqueries -/

/-- The places of the characters of each subquery. -/
def scopePlaces (text : Text) : List (List Nat) :=
  (List.range (subqueryCount text)).map (ownPlaces text)

theorem text_scopes (text : Text) :
    (scopes text).map Scope.text = (scopePlaces text).map (pick text) := by
  rw [scopes, scopePlaces, List.map_map, List.map_map]
  exact List.map_congr_left fun number _ => text_scope text number

theorem pairwise_disjoint_scopePlaces (text : Text) :
    (scopePlaces text).Pairwise List.Disjoint := by
  rw [scopePlaces, List.pairwise_map]
  exact List.nodup_range.imp fun apart => disjoint_ownPlaces apart

/-- The subqueries begin behind their opening parentheses, in the same order. -/
theorem head?_scopePlaces (text : Text) :
    (scopePlaces text).map List.head? = (openings text).map fun index => some (index + 1) := by
  have run (index : Nat) (inside : index ≤ text.length) :
      (List.range (placeAt text index).opened).map (fun number => (ownPlaces text number).head?) =
        ((List.range index).filter (OpensSubquery text)).map fun index => some (index + 1) := by
    induction index with
    | zero => simp [placeAt, Nest.outermost]
    | succ index inductionHypothesis =>
        rw [opened_placeAt_succ inside, List.range_succ, List.filter_append, List.map_append,
          ← inductionHypothesis (Nat.le_of_succ_le inside)]
        by_cases opens : OpensSubquery text index
        · simp [opens, List.range_succ, head?_ownPlaces opens]
        · simp [opens]
  have whole := run text.length (Nat.le_refl _)
  rw [placeAt, Nest.walk_length, ← countFrom_eq, ← subqueryCount] at whole
  rw [scopePlaces, List.map_map]
  exact whole

/-- All subqueries together are not longer than the query. -/
theorem sum_length_scopes_le (text : Text) :
    ((scopes text).map fun scope => scope.text.length).sum ≤ text.length := by
  have nodup : (scopePlaces text).flatten.Nodup := by
    refine List.nodup_flatten.mpr ⟨fun places present => ?_, pairwise_disjoint_scopePlaces text⟩
    obtain ⟨number, -, rfl⟩ := List.mem_map.mp present
    exact nodup_ownPlaces text number
  have inside : (scopePlaces text).flatten ⊆ List.range text.length := by
    intro index present
    obtain ⟨places, isScope, isOwn⟩ := List.mem_flatten.mp present
    obtain ⟨number, -, rfl⟩ := List.mem_map.mp isScope
    exact (List.mem_filter.mp isOwn).1
  calc
    ((scopes text).map fun scope => scope.text.length).sum
      = ((scopes text).map Scope.text).flatten.length := by
        rw [List.length_flatten, List.map_map]
        rfl
    _ = (pick text (scopePlaces text).flatten).length := by
        rw [text_scopes, pick, List.filterMap_flatten]
        rfl
    _ ≤ (scopePlaces text).flatten.length := List.length_filterMap_le _ _
    _ ≤ (List.range text.length).length := (nodup.subperm inside).length_le
    _ = text.length := List.length_range

/-! ## Inside a subquery -/

/-- One parenthesis deep inside a subquery, nothing of it comes but the closing parenthesis. -/
theorem eq_close_of_own
    {nest : Nest}
    (wellFormed : nest.WellFormed)
    {number index : Nat}
    {text : Text}
    {c : Char}
    (here : ((own number (marksFrom nest text)).map (·.char))[index]? = some c)
    (nested : ((nest.ownDepth number).after
      (((own number (marksFrom nest text)).map (·.char)).take index)).level ≠ 0) :
    c = ')' := by
  induction text generalizing nest index with
  | nil => simp [marksFrom] at here
  | cons d rest inductionHypothesis =>
      rw [marksFrom, own_cons] at here nested
      have wellFormedNext := wellFormed.step (d = '(' && startsSubquery (d :: rest)) d
      split at here
      next owner =>
        rw [if_pos owner, List.map_cons] at nested
        cases index with
        | zero =>
            obtain rfl : d = c := by simpa using here
            by_contra noClose
            rw [Nest.owner_mark, Nest.seen_of_ne noClose] at owner
            rw [Nest.ownDepth_of_owner owner] at nested
            exact nested rfl
        | succ index =>
            have moves := (wellFormed.own_step owner (d = '(' && startsSubquery (d :: rest))).2
            rw [List.take_succ_cons, Depth.after_cons, Nest.char_mark, ← moves] at nested
            exact inductionHypothesis wellFormedNext (by simpa using here) nested
      next owner =>
        rw [if_neg owner, ← wellFormed.ownDepth_step owner (d = '(' && startsSubquery (d :: rest))]
          at nested
        exact inductionHypothesis wellFormedNext here nested

/-- A parenthesis that opens in a subquery closes at once, or else nothing follows it. -/
theorem close_behind_open
    {text : Text}
    {scope : Scope}
    (isScope : scope ∈ scopes text)
    {index : Nat}
    (isOpen : scope.text[index]? = some '(')
    (outside : ¬IsQuoted scope.text index) :
    scope.text[index + 1]? = some ')' ∨ index + 1 = scope.text.length := by
  obtain ⟨number, -, rfl⟩ := List.mem_map.mp isScope
  have depthStart : Nest.outermost.ownDepth number = .outermost := rfl
  have closes {index : Nat} {c : Char} :=
    @eq_close_of_own _ Nest.wellFormed_outermost number index text c
  rw [scope_eq] at isOpen outside ⊢
  rw [depthStart] at closes
  dsimp only at isOpen outside ⊢
  rw [← marks] at closes
  generalize (own number (marks text)).map (·.char) = characters at isOpen outside closes ⊢
  have level : (Depth.outermost.after (characters.take index)).level = 0 := by
    by_contra nested
    exact absurd (closes isOpen nested) (by decide)
  have literal := inLiteral_after_take characters index
  rw [decide_eq_false outside] at literal
  have nested : (Depth.outermost.after (characters.take (index + 1))).level ≠ 0 := by
    rw [List.take_add_one, isOpen, Depth.after_append, Option.toList_some, Depth.after_cons,
      Depth.after_nil]
    simp [Depth.step, literal]
  cases next : characters[index + 1]? with
  | some c => exact Or.inl (congrArg some (closes next nested))
  | none =>
      have upTo := (List.getElem?_eq_some_iff.mp isOpen).1
      have beyond := List.getElem?_eq_none_iff.mp next
      exact Or.inr (Nat.le_antisymm upTo beyond)

/-- At every place of a scan the state is well formed: the numbers on the stack have been given out
and decrease from the innermost one on, and the subqueries around the place are counted. The stack
is as high as the depth of `mask`, and the subqueries met are those that opened before. The
subqueries are cut out of the query at places of their own, which begin behind the opening
parentheses in order, and nested parentheses leave nothing between them. -/
theorem scopes_partition (text : Text) :
    (∀ index ≤ text.length,
      (placeAt text index).WellFormed ∧
      (placeAt text index).depth = Depth.outermost.after (text.take index) ∧
      (placeAt text index).opened = (List.range index).countP (OpensSubquery text)) ∧
    (∃ places : List (List Nat),
      (scopes text).map Scope.text = places.map (pick text) ∧
      (∀ own ∈ places, own.Pairwise (· < ·) ∧ ∀ index ∈ own, index < text.length) ∧
      places.Pairwise List.Disjoint ∧
      places.map List.head? = (openings text).map fun index => some (index + 1)) ∧
    (scopes text).length = (openings text).length ∧
    ((scopes text).map fun scope => scope.text.length).sum ≤ text.length ∧
    ∀ scope ∈ scopes text, ∀ index : Nat,
      scope.text[index]? = some '(' → ¬IsQuoted scope.text index →
        scope.text[index + 1]? = some ')' ∨ index + 1 = scope.text.length := by
  refine ⟨?_, ⟨scopePlaces text, text_scopes text, ?_, pairwise_disjoint_scopePlaces text,
    head?_scopePlaces text⟩, ?_, sum_length_scopes_le text, ?_⟩
  · intro index inside
    exact ⟨wellFormed_placeAt text index, depth_placeAt text index, opened_placeAt inside⟩
  · intro own present
    obtain ⟨number, -, rfl⟩ := List.mem_map.mp present
    refine ⟨List.pairwise_lt_range.filter _, fun index isOwn => ?_⟩
    exact List.mem_range.mp (List.mem_filter.mp isOwn).1
  · rw [scopes, List.length_map, List.length_range, subqueryCount_eq]
  · intro scope isScope index isOpen outside
    exact close_behind_open isScope isOpen outside

/-- The outer subquery of a query with a closing parenthesis too many, in which a group, a literal
and another subquery stand. -/
theorem scopes_partition_nested :
    let text : Text := "b) (select (1), '(' from (select c))"
    let outer : Scope := ⟨"select (), '(' from ()", "select (), ' ' from ()"⟩
    openings text = [3, 25] ∧ (placeAt text 26).opened = 2 ∧ (placeAt text 26).stack.length = 2 ∧
      outer ∈ scopes text ∧ outer.text[8]? = some ')' := by
  intro text outer
  obtain ⟨walk, -, -, -, nested⟩ := scopes_partition text
  obtain ⟨-, depth, met⟩ := walk 26 (by decide)
  have isOuter : outer ∈ scopes text := by decide
  refine ⟨by decide, ?_, ?_, isOuter, ?_⟩
  · rw [met]
    decide
  · exact (congrArg Depth.level depth).trans (by decide)
  · exact (nested outer isOuter 7 (by decide) (by decide)).resolve_right (by decide)

end Query
end SqlReview
