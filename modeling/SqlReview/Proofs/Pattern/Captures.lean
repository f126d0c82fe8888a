import SqlReview.Proofs.Pattern.Cover

/-!
# Captures and characters

Only groups record captures: a pattern without groups leaves the captures as they are, so the last
group of a pattern holds what its body covers. And only classes take characters: what a pattern covers
has no character that none of its classes has.
-/

namespace SqlReview
namespace Pattern

/-! ## Characters -/

/-- Whether some class of a pattern has a character. -/
def admits : Pattern → Char → Bool
  | .one accepts, c | .many accepts, c => accepts c
  | .seq first second, c | .alt first second, c => first.admits c || second.admits c
  | .star body, c | .group _ body, c => body.admits c
  | .nothing, _ | .edge, _ | .textStart, _ | .textEnd, _ | .notAfter _, _ => false

/-- What a pattern covers has no other characters than those of its classes. -/
theorem Covers.admits
    {pattern : Pattern}
    {before : Option Char}
    {run rest : Text}
    (covered : pattern.Covers before run rest) :
    ∀ c ∈ run, pattern.admits c = true := by
  induction pattern generalizing before run rest with
  | nothing =>
      obtain rfl : run = [] := covered
      exact List.forall_mem_nil _
  | one accepts =>
      obtain ⟨c, rfl, accepted⟩ := covered
      exact List.forall_mem_singleton.mpr accepted
  | many accepts => exact covered
  | seq first second firstAdmits secondAdmits =>
      obtain ⟨left, right, rfl, isFirst, isSecond⟩ := covered
      intro c present
      rw [Pattern.admits, Bool.or_eq_true]
      exact (List.mem_append.mp present).imp (firstAdmits isFirst c) (secondAdmits isSecond c)
  | alt first second firstAdmits secondAdmits =>
      intro c present
      rw [Pattern.admits, Bool.or_eq_true]
      exact covered.imp (firstAdmits · c present) (secondAdmits · c present)
  | star body bodyAdmits =>
      intro c present
      induction covered with
      | stop => exact absurd present List.not_mem_nil
      | more nonempty once repeated inductionHypothesis =>
          exact (List.mem_append.mp present).elim (bodyAdmits once c) inductionHypothesis
  | group number body bodyAdmits => exact bodyAdmits covered
  | edge | textStart | textEnd | notAfter refuses =>
      obtain rfl : run = [] := covered.1
      exact List.forall_mem_nil _

/-! ## Captures -/

/-- Whether a pattern records no groups. -/
def hasNoGroups : Pattern → Bool
  | .seq first second | .alt first second => first.hasNoGroups && second.hasNoGroups
  | .star body => body.hasNoGroups
  | .group _ _ => false
  | _ => true

theorem captures_of_mem_runsOnto
    {accepts : Char → Bool}
    {captures : List Capture}
    {before : Option Char}
    {index : Nat}
    {text : Text}
    {others : List Progress}
    (known : ∀ progress ∈ others, progress.captures = captures)
    {reached : Progress}
    (present : reached ∈ Progress.runsOnto accepts captures before index text others) :
    reached.captures = captures := by
  induction text generalizing before index others with
  | nil =>
      rcases List.mem_cons.mp present with rfl | inOthers
      · rfl
      · exact known reached inOthers
  | cons c text inductionHypothesis =>
      have knownHere : ∀ progress ∈ ⟨⟨before, index, c :: text⟩, captures⟩ :: others,
          progress.captures = captures := by
        intro progress inList
        rcases List.mem_cons.mp inList with rfl | inOthers
        · rfl
        · exact known progress inOthers
      rw [Progress.runsOnto] at present
      split at present
      · exact inductionHypothesis knownHere present
      · exact knownHere reached present

theorem captures_of_mem_repeatOutcomes
    {step : Progress → List Progress}
    (keeps : ∀ progress, ∀ later ∈ step progress, later.captures = progress.captures)
    {times : Nat}
    {progress reached : Progress}
    (present : reached ∈ repeatOutcomes step times progress) :
    reached.captures = progress.captures := by
  induction times generalizing progress with
  | zero => rw [List.mem_singleton.mp present]
  | succ times inductionHypothesis =>
      rw [repeatOutcomes, List.mem_append, List.mem_flatMap] at present
      rcases present with ⟨later, once, again⟩ | last
      · split at again
        · rw [inductionHypothesis again, keeps progress later once]
        · exact absurd again List.not_mem_nil
      · rw [List.mem_singleton.mp last]

/-- A pattern without groups leaves the captures as they are. -/
theorem captures_of_mem_outcomes
    {pattern : Pattern}
    (noGroups : pattern.hasNoGroups = true)
    {progress reached : Progress}
    (present : reached ∈ pattern.outcomes progress) :
    reached.captures = progress.captures := by
  induction pattern generalizing progress reached with
  | nothing => rw [List.mem_singleton.mp present]
  | one accepts =>
      obtain ⟨⟨before, index, text⟩, captures⟩ := progress
      cases text with
      | nil => exact absurd present List.not_mem_nil
      | cons c text =>
          simp only [outcomes, Progress.next?] at present
          split at present
          · rw [List.mem_singleton.mp present]
          · exact absurd present List.not_mem_nil
  | many accepts =>
      exact captures_of_mem_runsOnto (fun _ inNil => absurd inNil List.not_mem_nil) present
  | seq first second firstKeeps secondKeeps =>
      rw [hasNoGroups, Bool.and_eq_true] at noGroups
      obtain ⟨middle, inFirst, inSecond⟩ := List.mem_flatMap.mp present
      rw [secondKeeps noGroups.2 inSecond, firstKeeps noGroups.1 inFirst]
  | alt first second firstKeeps secondKeeps =>
      rw [hasNoGroups, Bool.and_eq_true] at noGroups
      rcases List.mem_append.mp present with inFirst | inSecond
      · exact firstKeeps noGroups.1 inFirst
      · exact secondKeeps noGroups.2 inSecond
  | star body bodyKeeps =>
      exact captures_of_mem_repeatOutcomes (fun _ _ once => bodyKeeps noGroups once) present
  | edge | textStart | textEnd =>
      simp only [outcomes] at present
      split at present
      · rw [List.mem_singleton.mp present]
      · exact absurd present List.not_mem_nil
  | notAfter refuses =>
      simp only [outcomes] at present
      split at present
      · exact absurd present List.not_mem_nil
      · rw [List.mem_singleton.mp present]
  | group number body bodyKeeps => exact absurd noGroups Bool.false_ne_true

/-- The last group of a pattern holds what its body covers, and an occurrence is that with what stands
in front of it and behind it. -/
theorem exists_groupText
    {first body last : Pattern}
    (noGroups : last.hasNoGroups = true)
    {number : Nat}
    {place : Place}
    {occurrence : Occurrence}
    (found : (first.seq ((body.group number).seq last)).occurrenceAt? place = some occurrence) :
    ∃ lead tail rest, place.rest = lead ++ (occurrence.groupText number ++ (tail ++ rest)) ∧
      first.Covers place.before lead (occurrence.groupText number ++ (tail ++ rest)) ∧
      body.Covers (Text.lastOr place.before lead) (occurrence.groupText number) (tail ++ rest) ∧
      last.Covers (Text.lastOr (Text.lastOr place.before lead) (occurrence.groupText number)) tail
        rest ∧
      occurrence.text = lead ++ (occurrence.groupText number ++ tail) := by
  rw [occurrenceAt?_eq_head?, Option.map_eq_some_iff] at found
  obtain ⟨reached, isFirst, rfl⟩ := found
  obtain ⟨started, inFirst, present⟩ := List.mem_flatMap.mp (List.mem_of_head? isFirst)
  obtain ⟨_, recorded, inLast⟩ := List.mem_flatMap.mp present
  obtain ⟨covered, inBody, rfl⟩ := List.mem_map.mp recorded
  have lastCaptures := captures_of_mem_outcomes noGroups inLast
  obtain ⟨lead, behind, text, startedPlace, isLead⟩ := covers_of_mem_outcomes inFirst
  obtain ⟨run, rest, behindText, coveredPlace, isBody⟩ := covers_of_mem_outcomes inBody
  obtain ⟨tail, others, restText, reachedPlace, isLast⟩ := covers_of_mem_outcomes inLast
  change covered.place.rest = tail ++ others at restText
  change reached.place = covered.place.past tail others at reachedPlace
  change last.Covers covered.place.before tail others at isLast
  rw [startedPlace] at behindText coveredPlace isBody
  rw [coveredPlace] at restText reachedPlace isLast
  obtain rfl : behind = run ++ rest := behindText
  obtain rfl : rest = tail ++ others := restText
  change place.rest = lead ++ (run ++ (tail ++ others)) at text
  have stretch : started.place.rest.take (covered.place.index - started.place.index) = run := by
    rw [coveredPlace, startedPlace]
    simp [Place.past]
  have group : (occurrenceOf place reached).groupText number = run := by
    change ((reached.captures.find? (·.group = number)).map (·.text)).getD [] = run
    rw [lastCaptures]
    change ((List.find? _ (⟨number, started.place.index, started.place.rest.take
      (covered.place.index - started.place.index)⟩ :: covered.captures)).map (·.text)).getD [] = run
    simp [stretch]
  have whole : (occurrenceOf place reached).text = lead ++ (run ++ tail) := by
    have length : reached.place.index - place.index = (lead ++ (run ++ tail)).length := by
      rw [reachedPlace]
      simp only [Place.past, List.length_append]
      omega
    have split : place.rest = lead ++ (run ++ tail) ++ others := by
      rw [text]
      simp only [List.append_assoc]
    change place.rest.take (reached.place.index - place.index) = _
    rw [split, length, List.take_left]
  rw [group]
  exact ⟨lead, tail, others, text, isLead, isBody, isLast, whole⟩

/-- The last group of a pattern holds what its body covers. -/
theorem covers_groupText
    {first body last : Pattern}
    (noGroups : last.hasNoGroups = true)
    {number : Nat}
    {place : Place}
    {occurrence : Occurrence}
    (found : (first.seq ((body.group number).seq last)).occurrenceAt? place = some occurrence) :
    ∃ lead rest, place.rest = lead ++ (occurrence.groupText number ++ rest) ∧
      first.Covers place.before lead (occurrence.groupText number ++ rest) ∧
      body.Covers (Text.lastOr place.before lead) (occurrence.groupText number) rest := by
  obtain ⟨lead, tail, rest, text, isLead, isBody, -⟩ := exists_groupText noGroups found
  exact ⟨lead, tail ++ rest, text, isLead, isBody⟩

/-- What a search finds is found at a place. -/
theorem exists_place_of_searchFrom
    {pattern : Pattern}
    {before : Option Char}
    {index : Nat}
    {text : Text}
    {occurrence : Occurrence}
    (found : pattern.searchFrom before index text = some occurrence) :
    ∃ place, pattern.occurrenceAt? place = some occurrence := by
  induction text generalizing before index with
  | nil => exact ⟨_, found⟩
  | cons c text inductionHypothesis =>
      rw [searchFrom] at found
      split at found
      next first here =>
          rw [← found]
          exact ⟨_, here⟩
      next => exact inductionHypothesis found

end Pattern
end SqlReview
