import SqlReview.Pattern.Search

/-!
# Outcomes of patterns

The meaning of a pattern apart from any search: the list of all ways in which it fits at a place,
in order of preference. `attempt_eq_findSome?` says that an attempt is exactly the first outcome
that its continuation accepts.
-/

namespace SqlReview
namespace Pattern

/-- All outcomes of a step repeated as long as it makes progress, at most a given number of
times. -/
def repeatOutcomes (step : Progress → List Progress) : (times : Nat) → Progress → List Progress
  | 0, progress => [progress]
  | times + 1, progress =>
    ((step progress).flatMap fun later =>
      if progress.place.index < later.place.index then repeatOutcomes step times later else []) ++
      [progress]

/-- All the ways in which a pattern fits at a place, the preferred one first. -/
def outcomes : Pattern → Progress → List Progress
  | .nothing, progress => [progress]
  | .one accepts, progress =>
    match progress.next? with
    | some (c, later) => if accepts c then [later] else []
    | none => []
  | .many accepts, progress => progress.runs accepts
  | .seq first second, progress => (first.outcomes progress).flatMap second.outcomes
  | .alt first second, progress => first.outcomes progress ++ second.outcomes progress
  | .star body, progress =>
    repeatOutcomes (fun reached => body.outcomes reached) progress.place.rest.length progress
  | .edge, progress => if progress.place.isWordEdge then [progress] else []
  | .textStart, progress => if progress.place.before.isNone then [progress] else []
  | .textEnd, progress => if progress.place.isEnd then [progress] else []
  | .notAfter refuses, progress => if progress.place.before.any refuses then [] else [progress]
  | .group number body, progress =>
    (body.outcomes progress).map (·.record number progress.place)

theorem findSome?_flatMap {First Second Answer : Type}
    (outcomes : List First)
    (expand : First → List Second)
    (accept : Second → Option Answer) :
    (outcomes.flatMap expand).findSome? accept =
      outcomes.findSome? fun outcome => (expand outcome).findSome? accept := by
  induction outcomes with
  | nil => rfl
  | cons outcome outcomes ih =>
    rw [List.flatMap_cons, List.findSome?_append, List.findSome?_cons, ih]
    cases (expand outcome).findSome? accept <;> rfl

theorem repeatAttempt_eq_findSome? {Answer : Type}
    (step : Progress → (Progress → Option Answer) → Option Answer)
    (list : Progress → List Progress)
    (stepList : ∀ progress accept, step progress accept = (list progress).findSome? accept)
    (times : Nat)
    (progress : Progress)
    (accept : Progress → Option Answer) :
    repeatAttempt step times progress accept =
      (repeatOutcomes list times progress).findSome? accept := by
  induction times generalizing progress with
  | zero =>
    simp only [repeatAttempt, repeatOutcomes, List.findSome?_cons, List.findSome?_nil]
    cases accept progress <;> rfl
  | succ times ih =>
    rw [repeatAttempt, stepList, repeatOutcomes, List.findSome?_append, findSome?_flatMap]
    have inner : (fun later =>
        if progress.place.index < later.place.index then
          repeatAttempt step times later accept else none) =
        fun later => (if progress.place.index < later.place.index then
          repeatOutcomes list times later else []).findSome? accept := by
      funext later
      split
      · exact ih later
      · rfl
    rw [inner]
    cases (list progress).findSome? _ with
    | none =>
      simp only [List.findSome?_cons, List.findSome?_nil, Option.none_or]
      cases accept progress <;> rfl
    | some answer => rfl

/-- An attempt finds the first outcome that its continuation accepts. -/
theorem attempt_eq_findSome? {Answer : Type}
    (pattern : Pattern)
    (progress : Progress)
    (accept : Progress → Option Answer) :
    pattern.attempt progress accept = (pattern.outcomes progress).findSome? accept := by
  induction pattern generalizing progress accept with
  | nothing =>
    simp only [attempt, outcomes, List.findSome?_cons, List.findSome?_nil]
    cases accept progress <;> rfl
  | one accepts =>
    simp only [attempt, outcomes]
    cases progress.next? with
    | none => rfl
    | some found =>
      simp only
      split
      · simp only [List.findSome?_cons, List.findSome?_nil]
        cases accept found.2 <;> rfl
      · rfl
  | many accepts => rfl
  | seq first second firstEq secondEq =>
    simp only [attempt, outcomes, firstEq, secondEq, findSome?_flatMap]
  | alt first second firstEq secondEq =>
    simp only [attempt, outcomes, firstEq, secondEq, List.findSome?_append]
    cases (first.outcomes progress).findSome? accept <;> rfl
  | star body bodyEq =>
    exact repeatAttempt_eq_findSome? _ _ (fun reached resume => bodyEq reached resume) _ _ _
  | edge =>
    simp only [attempt, outcomes]
    split
    · simp only [List.findSome?_cons, List.findSome?_nil]
      cases accept progress <;> rfl
    · rfl
  | textStart =>
    simp only [attempt, outcomes]
    split
    · simp only [List.findSome?_cons, List.findSome?_nil]
      cases accept progress <;> rfl
    · rfl
  | textEnd =>
    simp only [attempt, outcomes]
    split
    · simp only [List.findSome?_cons, List.findSome?_nil]
      cases accept progress <;> rfl
    · rfl
  | notAfter refuses =>
    simp only [attempt, outcomes]
    split
    · rfl
    · simp only [List.findSome?_cons, List.findSome?_nil]
      cases accept progress <;> rfl
  | group number body bodyEq =>
    simp only [attempt, outcomes, bodyEq, List.findSome?_map]
    rfl

end Pattern
end SqlReview
