import Mathlib.Data.List.Basic
import SqlReview.Pattern.Outcomes

/-!
# What patterns cover

The meaning of a pattern without any order of preference: the stretches that it can cover, given
the character directly before them and the text behind them. `Covers` follows the syntax of the
pattern. The outcomes of a pattern are exactly the stretches it covers, so a pattern occurs in a
text if and only if the text has a stretch that it covers, `occursIn_iff`.
-/

namespace SqlReview

namespace Text

/-- The character directly before what follows a run. -/
def lastOr (before : Option Char) (run : Text) : Option Char :=
  run.getLast?.or before

@[simp] theorem lastOr_nil (before : Option Char) :
    lastOr before [] = before := rfl

@[simp] theorem lastOr_cons
    (before : Option Char)
    (c : Char)
    (run : Text) :
    lastOr before (c :: run) = lastOr (some c) run := by
  cases run with
  | nil => rfl
  | cons d run => simp [lastOr, List.getLast?_cons]

@[simp] theorem lastOr_append
    (before : Option Char)
    (first second : Text) :
    lastOr before (first ++ second) = lastOr (lastOr before first) second := by
  induction first generalizing before with
  | nil => rfl
  | cons c first inductionHypothesis => simp [inductionHypothesis]

end Text

/-- The place behind a run. -/
def Place.past (place : Place) (run rest : Text) : Place :=
  ⟨Text.lastOr place.before run, place.index + run.length, rest⟩

@[simp] theorem Place.past_nil (place : Place) :
    place.past [] place.rest = place := rfl

theorem Place.past_cons
    (before : Option Char)
    (index : Nat)
    (c : Char)
    (text run rest : Text) :
    Place.past ⟨before, index, text⟩ (c :: run) rest =
      Place.past ⟨some c, index + 1, text⟩ run rest := by
  simp only [Place.past, Text.lastOr_cons, List.length_cons, Place.mk.injEq, and_true, true_and]
  omega

theorem Place.past_append
    (place : Place)
    (first second middle rest : Text) :
    place.past (first ++ second) rest = (place.past first middle).past second rest := by
  simp only [Place.past, Text.lastOr_append, List.length_append, Nat.add_assoc]

namespace Pattern

/-- Whether a run consists of stretches that a step covers, none of them without characters. -/
inductive Repeats (step : Option Char → Text → Text → Prop) :
    (before : Option Char) → (run rest : Text) → Prop where
  /-- No stretch at all. -/
  | stop (before : Option Char) (rest : Text) : Repeats step before [] rest
  /-- One stretch and then others. -/
  | more
      {before : Option Char}
      {first others rest : Text}
      (nonempty : first ≠ [])
      (covered : step before first (others ++ rest))
      (repeated : Repeats step (Text.lastOr before first) others rest) :
      Repeats step before (first ++ others) rest

/-- Whether a pattern can cover a run between the character before it and the text behind it. -/
def Covers : Pattern → (before : Option Char) → (run rest : Text) → Prop
  | .nothing, _, run, _ => run = []
  | .one accepts, _, run, _ => ∃ c, run = [c] ∧ accepts c = true
  | .many accepts, _, run, _ => ∀ c ∈ run, accepts c = true
  | .seq first second, before, run, rest =>
    ∃ left right, run = left ++ right ∧ first.Covers before left (right ++ rest) ∧
      second.Covers (Text.lastOr before left) right rest
  | .alt first second, before, run, rest =>
    first.Covers before run rest ∨ second.Covers before run rest
  | .star body, before, run, rest => Repeats body.Covers before run rest
  | .edge, before, run, rest => run = [] ∧ Place.isWordEdge ⟨before, 0, rest⟩ = true
  | .textStart, before, run, _ => run = [] ∧ before = none
  | .textEnd, _, run, rest => run = [] ∧ (rest = [] ∨ rest = ['\n'])
  | .notAfter refuses, before, run, _ => run = [] ∧ before.any refuses = false
  | .group _ body, before, run, rest => body.Covers before run rest

/-- What a pattern covers depends on the text behind it only up to some character, unless the end of
the text could be there. -/
theorem Covers.of_next
    {pattern : Pattern}
    {before : Option Char}
    {run lead rest other : Text}
    {c : Char}
    (noLineBreak : c ≠ '\n')
    (covered : pattern.Covers before run (lead ++ c :: rest)) :
    pattern.Covers before run (lead ++ c :: other) := by
  induction pattern generalizing before run lead with
  | nothing | one _ | many _ | textStart | notAfter _ => exact covered
  | seq first second firstCovers secondCovers =>
      obtain ⟨left, right, rfl, isFirst, isSecond⟩ := covered
      rw [← List.append_assoc] at isFirst
      refine ⟨left, right, rfl, ?_, secondCovers isSecond⟩
      rw [← List.append_assoc]
      exact firstCovers isFirst
  | alt first second firstCovers secondCovers =>
      exact covered.imp firstCovers secondCovers
  | star body bodyCovers =>
      generalize whole : lead ++ c :: rest = text at covered
      induction covered with
      | stop before text => exact .stop before _
      | @more before first others text nonempty once repeated inductionHypothesis =>
          subst whole
          rw [← List.append_assoc] at once
          refine .more nonempty ?_ (inductionHypothesis rfl)
          rw [← List.append_assoc]
          exact bodyCovers once
  | edge =>
      refine ⟨covered.1, Eq.trans ?_ covered.2⟩
      cases lead <;> rfl
  | textEnd =>
      obtain ⟨rfl, ends⟩ := covered
      rcases ends with nothing | lineBreak
      · simp at nothing
      · cases lead with
        | nil => exact absurd (List.cons.inj lineBreak).1 noLineBreak
        | cons d lead => simp at lineBreak
  | group number body bodyCovers => exact bodyCovers covered

/-! ## Runs of a class -/

theorem place_runsOnto
    (accepts : Char → Bool)
    (captures : List Capture)
    (before : Option Char)
    (index : Nat)
    (text : Text)
    (others : List Progress)
    (reached : Progress) :
    reached ∈ Progress.runsOnto accepts captures before index text others ↔
      (∃ run rest, text = run ++ rest ∧ (∀ c ∈ run, accepts c = true) ∧
        reached = ⟨Place.past ⟨before, index, text⟩ run rest, captures⟩) ∨
      reached ∈ others := by
  induction text generalizing before index others with
  | nil =>
      simp only [Progress.runsOnto, List.mem_cons, List.nil_eq_append_iff]
      constructor
      · rintro (rfl | other)
        · exact .inl ⟨[], [], ⟨rfl, rfl⟩, by simp, rfl⟩
        · exact .inr other
      · rintro (⟨run, rest, ⟨rfl, rfl⟩, -, rfl⟩ | other)
        · exact .inl rfl
        · exact .inr other
  | cons c text inductionHypothesis =>
      unfold Progress.runsOnto
      split
      · rename_i accepted
        rw [inductionHypothesis, List.mem_cons]
        constructor
        · rintro (⟨run, rest, rfl, all, rfl⟩ | rfl | other)
          · refine .inl ⟨c :: run, rest, rfl, ?_, ?_⟩
            · simpa [accepted] using all
            · rw [Place.past_cons]
              rfl
          · exact .inl ⟨[], c :: text, rfl, by simp, rfl⟩
          · exact .inr other
        · rintro (⟨run, rest, equal, all, rfl⟩ | other)
          · cases run with
            | nil => exact .inr (.inl (by rw [← show c :: text = rest from equal]; rfl))
            | cons d run =>
                obtain ⟨rfl, rfl⟩ := List.cons.inj equal
                refine .inl ⟨run, rest, rfl, fun d present => all d (.tail _ present), ?_⟩
                rw [Place.past_cons]
                rfl
          · exact .inr (.inr other)
      · rename_i refused
        rw [List.mem_cons]
        constructor
        · rintro (rfl | other)
          · exact .inl ⟨[], c :: text, rfl, by simp, rfl⟩
          · exact .inr other
        · rintro (⟨run, rest, equal, all, rfl⟩ | other)
          · cases run with
            | nil => exact .inl (by rw [← show c :: text = rest from equal]; rfl)
            | cons d run =>
                obtain ⟨rfl, rfl⟩ := List.cons.inj equal
                exact absurd (all c (.head _)) refused
          · exact .inr other

theorem mem_runs
    (accepts : Char → Bool)
    (progress reached : Progress) :
    reached ∈ progress.runs accepts ↔
      ∃ run rest, progress.place.rest = run ++ rest ∧ (∀ c ∈ run, accepts c = true) ∧
        reached = ⟨progress.place.past run rest, progress.captures⟩ := by
  simp [Progress.runs, place_runsOnto]

/-! ## Outcomes -/

theorem Repeats.of_mem_repeatOutcomes
    {step : Option Char → Text → Text → Prop}
    {list : Progress → List Progress}
    (sound : ∀ progress reached, reached ∈ list progress →
      ∃ run rest, progress.place.rest = run ++ rest ∧
        reached.place = progress.place.past run rest ∧ step progress.place.before run rest)
    {times : Nat}
    {progress reached : Progress}
    (present : reached ∈ repeatOutcomes list times progress) :
    ∃ run rest, progress.place.rest = run ++ rest ∧
      reached.place = progress.place.past run rest ∧
      Repeats step progress.place.before run rest := by
  induction times generalizing progress with
  | zero =>
      obtain rfl : reached = progress := by simpa [repeatOutcomes] using present
      exact ⟨[], _, rfl, rfl, .stop _ _⟩
  | succ times inductionHypothesis =>
      rw [repeatOutcomes, List.mem_append, List.mem_flatMap] at present
      rcases present with ⟨later, once, again⟩ | last
      · split at again
        · rename_i further
          obtain ⟨first, middle, firstText, laterPlace, covered⟩ := sound progress later once
          obtain ⟨others, rest, othersText, reachedPlace, repeated⟩ := inductionHypothesis again
          rw [laterPlace] at further othersText reachedPlace repeated
          obtain rfl : middle = others ++ rest := othersText
          refine ⟨first ++ others, rest, by simp [firstText], ?_, .more ?_ covered repeated⟩
          · rw [reachedPlace, ← Place.past_append]
          · rintro rfl
            exact Nat.lt_irrefl _ further
        · exact absurd again List.not_mem_nil
      · obtain rfl : reached = progress := by simpa using last
        exact ⟨[], _, rfl, rfl, .stop _ _⟩

/-- Every outcome of a pattern is a stretch that the pattern covers. -/
theorem covers_of_mem_outcomes
    {pattern : Pattern}
    {progress reached : Progress}
    (present : reached ∈ pattern.outcomes progress) :
    ∃ run rest, progress.place.rest = run ++ rest ∧
      reached.place = progress.place.past run rest ∧
      pattern.Covers progress.place.before run rest := by
  induction pattern generalizing progress reached with
  | nothing =>
      obtain rfl : reached = progress := by simpa [outcomes] using present
      exact ⟨[], _, rfl, rfl, rfl⟩
  | one accepts =>
      obtain ⟨⟨before, index, text⟩, captures⟩ := progress
      cases text with
      | nil => simp [outcomes, Progress.next?] at present
      | cons c text =>
          simp only [outcomes, Progress.next?] at present
          split at present
          · rename_i accepted
            obtain rfl := List.mem_singleton.mp present
            exact ⟨[c], text, rfl, rfl, c, rfl, accepted⟩
          · exact absurd present List.not_mem_nil
  | many accepts =>
      obtain ⟨run, rest, text, all, rfl⟩ := (mem_runs accepts progress reached).mp present
      exact ⟨run, rest, text, rfl, all⟩
  | seq first second firstCovers secondCovers =>
      obtain ⟨middle, firstPresent, secondPresent⟩ := List.mem_flatMap.mp present
      obtain ⟨left, between, leftText, middlePlace, leftCovered⟩ := firstCovers firstPresent
      obtain ⟨right, rest, rightText, reachedPlace, rightCovered⟩ := secondCovers secondPresent
      rw [middlePlace] at rightText reachedPlace rightCovered
      obtain rfl : between = right ++ rest := rightText
      refine ⟨left ++ right, rest, by simp [leftText], ?_, left, right, rfl, leftCovered,
        rightCovered⟩
      rw [reachedPlace, ← Place.past_append]
  | alt first second firstCovers secondCovers =>
      rcases List.mem_append.mp present with inFirst | inSecond
      · obtain ⟨run, rest, text, place, covered⟩ := firstCovers inFirst
        exact ⟨run, rest, text, place, .inl covered⟩
      · obtain ⟨run, rest, text, place, covered⟩ := secondCovers inSecond
        exact ⟨run, rest, text, place, .inr covered⟩
  | star body bodyCovers =>
      exact Repeats.of_mem_repeatOutcomes (fun _ _ once => bodyCovers once) present
  | edge =>
      simp only [outcomes] at present
      split at present
      · rename_i isEdge
        obtain rfl := List.mem_singleton.mp present
        exact ⟨[], _, rfl, rfl, rfl, isEdge⟩
      · exact absurd present List.not_mem_nil
  | textStart =>
      simp only [outcomes] at present
      split at present
      · rename_i atStart
        obtain rfl := List.mem_singleton.mp present
        exact ⟨[], _, rfl, rfl, rfl, by simpa using atStart⟩
      · exact absurd present List.not_mem_nil
  | textEnd =>
      simp only [outcomes] at present
      split at present
      · rename_i atEnd
        obtain rfl := List.mem_singleton.mp present
        exact ⟨[], _, rfl, rfl, rfl, by simpa [Place.isEnd] using atEnd⟩
      · exact absurd present List.not_mem_nil
  | notAfter refuses =>
      simp only [outcomes] at present
      split at present
      · exact absurd present List.not_mem_nil
      · rename_i allowed
        obtain rfl := List.mem_singleton.mp present
        exact ⟨[], _, rfl, rfl, rfl, by simpa using allowed⟩
  | group number body bodyCovers =>
      obtain ⟨inner, innerPresent, rfl⟩ := List.mem_map.mp present
      obtain ⟨run, rest, text, place, covered⟩ := bodyCovers innerPresent
      exact ⟨run, rest, text, place, covered⟩

theorem Repeats.exists_mem_repeatOutcomes
    {step : Option Char → Text → Text → Prop}
    {list : Progress → List Progress}
    (complete : ∀ place run rest captures, step place.before run rest →
      place.rest = run ++ rest →
      ∃ reached ∈ list ⟨place, captures⟩, reached.place = place.past run rest)
    {before : Option Char}
    {run rest : Text}
    (repeated : Repeats step before run rest)
    {times : Nat}
    (enough : run.length ≤ times)
    (index : Nat)
    (captures : List Capture) :
    ∃ reached ∈ repeatOutcomes list times ⟨⟨before, index, run ++ rest⟩, captures⟩,
      reached.place = Place.past ⟨before, index, run ++ rest⟩ run rest := by
  induction repeated generalizing times index captures with
  | stop before rest =>
      refine ⟨⟨⟨before, index, rest⟩, captures⟩, ?_, rfl⟩
      cases times <;> simp [repeatOutcomes]
  | @more before first others rest nonempty covered repeated inductionHypothesis =>
      have positive : 0 < first.length := List.length_pos_iff.mpr nonempty
      cases times with
      | zero =>
          rw [List.length_append] at enough
          omega
      | succ times =>
          obtain ⟨later, laterPresent, laterPlace⟩ :=
            complete ⟨before, index, first ++ (others ++ rest)⟩ first (others ++ rest) captures
              covered rfl
          obtain ⟨place, laterCaptures⟩ := later
          obtain rfl : place = _ := laterPlace
          have enoughLeft : others.length ≤ times := by
            rw [List.length_append] at enough
            omega
          obtain ⟨reached, present, reachedPlace⟩ :=
            inductionHypothesis enoughLeft (index + first.length) laterCaptures
          refine ⟨reached, ?_, ?_⟩
          · rw [repeatOutcomes, List.mem_append, List.mem_flatMap]
            refine .inl ⟨_, List.append_assoc first others rest ▸ laterPresent, ?_⟩
            rw [if_pos (by simp only [Place.past]; omega)]
            exact present
          · rw [reachedPlace, Place.past_append _ first others (others ++ rest) rest]
            rfl

/-- The place behind every stretch that a pattern covers is the place of an outcome. -/
theorem Covers.exists_mem_outcomes
    {pattern : Pattern}
    {place : Place}
    {run rest : Text}
    (covered : pattern.Covers place.before run rest)
    (text : place.rest = run ++ rest)
    (captures : List Capture) :
    ∃ reached ∈ pattern.outcomes ⟨place, captures⟩, reached.place = place.past run rest := by
  obtain ⟨before, index, placeRest⟩ := place
  obtain rfl : placeRest = run ++ rest := text
  induction pattern generalizing before index run rest captures with
  | nothing =>
      obtain rfl : run = [] := covered
      exact ⟨_, List.mem_singleton.mpr rfl, rfl⟩
  | one accepts =>
      obtain ⟨c, rfl, accepted⟩ := covered
      refine ⟨⟨⟨some c, index + 1, rest⟩, captures⟩, ?_, rfl⟩
      simp [outcomes, Progress.next?, accepted]
  | many accepts =>
      exact ⟨_, (mem_runs accepts _ _).mpr ⟨run, rest, rfl, covered, rfl⟩, rfl⟩
  | seq first second firstComplete secondComplete =>
      obtain ⟨left, right, rfl, leftCovered, rightCovered⟩ := covered
      change first.Covers before left (right ++ rest) at leftCovered
      rw [List.append_assoc]
      obtain ⟨⟨place, middleCaptures⟩, middlePresent, middlePlace⟩ :=
        firstComplete captures before index leftCovered
      obtain rfl : place = _ := middlePlace
      obtain ⟨reached, present, reachedPlace⟩ :=
        secondComplete middleCaptures _ (index + left.length)
          rightCovered
      refine ⟨reached, List.mem_flatMap.mpr ⟨_, middlePresent, present⟩, ?_⟩
      rw [reachedPlace, Place.past_append _ left right (right ++ rest) rest]
      rfl
  | alt first second firstComplete secondComplete =>
      rcases covered with inFirst | inSecond
      · obtain ⟨reached, present, place⟩ := firstComplete captures before index inFirst
        exact ⟨reached, List.mem_append_left _ present, place⟩
      · obtain ⟨reached, present, place⟩ := secondComplete captures before index inSecond
        exact ⟨reached, List.mem_append_right _ present, place⟩
  | star body bodyComplete =>
      refine Repeats.exists_mem_repeatOutcomes ?_ covered ?_ index captures
      · rintro ⟨before, index, text⟩ run rest captures once rfl
        exact bodyComplete captures before index once
      · simp
  | edge =>
      obtain ⟨rfl, isEdge⟩ := covered
      refine ⟨⟨⟨before, index, rest⟩, captures⟩, ?_, rfl⟩
      have isEdgeThere : Place.isWordEdge ⟨before, index, rest⟩ = true := isEdge
      simp [outcomes, isEdgeThere]
  | textStart =>
      obtain ⟨rfl, atStart⟩ := covered
      refine ⟨⟨⟨before, index, rest⟩, captures⟩, ?_, rfl⟩
      rw [outcomes, if_pos (by simpa using atStart)]
      exact List.mem_singleton.mpr rfl
  | textEnd =>
      obtain ⟨rfl, atEnd⟩ := covered
      refine ⟨⟨⟨before, index, rest⟩, captures⟩, ?_, rfl⟩
      rw [outcomes, if_pos (by simpa [Place.isEnd] using atEnd)]
      exact List.mem_singleton.mpr rfl
  | notAfter refuses =>
      obtain ⟨rfl, allowed⟩ := covered
      refine ⟨⟨⟨before, index, rest⟩, captures⟩, ?_, rfl⟩
      rw [outcomes, if_neg (by simpa using allowed)]
      exact List.mem_singleton.mpr rfl
  | group number body bodyComplete =>
      obtain ⟨reached, present, place⟩ := bodyComplete captures before index covered
      exact ⟨_, List.mem_map_of_mem present, place⟩

/-! ## Occurrences -/

/-- The occurrence that an outcome at a place stands for. -/
def occurrenceOf (place : Place) (reached : Progress) : Occurrence :=
  ⟨place.index, reached.place.index, place.rest.take (reached.place.index - place.index),
    reached.captures⟩

/-- The occurrence at a place is the preferred outcome there. -/
theorem occurrenceAt?_eq_head?
    (pattern : Pattern)
    (place : Place) :
    pattern.occurrenceAt? place = (pattern.outcomes ⟨place, []⟩).head?.map (occurrenceOf place) := by
  rw [occurrenceAt?, attempt_eq_findSome?]
  cases pattern.outcomes ⟨place, []⟩ with
  | nil => rfl
  | cons reached others => rfl

/-- An occurrence is a stretch that the pattern covers. -/
theorem covers_of_occurrenceAt?
    {pattern : Pattern}
    {place : Place}
    {occurrence : Occurrence}
    (found : pattern.occurrenceAt? place = some occurrence) :
    ∃ run rest, place.rest = run ++ rest ∧ pattern.Covers place.before run rest ∧
      occurrence.start = place.index ∧ occurrence.stop = place.index + run.length ∧
      occurrence.text = run := by
  rw [occurrenceAt?_eq_head?, Option.map_eq_some_iff] at found
  obtain ⟨reached, first, rfl⟩ := found
  obtain ⟨run, rest, text, reachedPlace, covered⟩ :=
    covers_of_mem_outcomes (List.mem_of_head? first)
  refine ⟨run, rest, text, covered, rfl, ?_, ?_⟩
  · rw [occurrenceOf, reachedPlace]
    rfl
  · rw [occurrenceOf, reachedPlace]
    change place.rest = run ++ rest at text
    simp [Place.past, text]

theorem occurrenceAt?_isSome_iff
    {pattern : Pattern}
    {place : Place} :
    (pattern.occurrenceAt? place).isSome ↔
      ∃ run rest, place.rest = run ++ rest ∧ pattern.Covers place.before run rest := by
  constructor
  · intro some
    obtain ⟨occurrence, found⟩ := Option.isSome_iff_exists.mp some
    obtain ⟨run, rest, text, covered, -⟩ := covers_of_occurrenceAt? found
    exact ⟨run, rest, text, covered⟩
  · rintro ⟨run, rest, text, covered⟩
    obtain ⟨reached, present, -⟩ := covered.exists_mem_outcomes text []
    rw [occurrenceAt?_eq_head?, Option.isSome_map, List.isSome_head?]
    exact List.ne_nil_of_mem present

theorem occurrenceAt?_eq_none_iff
    {pattern : Pattern}
    {place : Place} :
    pattern.occurrenceAt? place = none ↔
      ∀ run rest, place.rest = run ++ rest → ¬pattern.Covers place.before run rest := by
  rw [← Option.not_isSome_iff_eq_none, occurrenceAt?_isSome_iff]
  simp only [not_exists, not_and]

theorem fitsStart_iff
    {pattern : Pattern}
    {text : Text} :
    pattern.fitsStart text ↔ ∃ run rest, text = run ++ rest ∧ pattern.Covers none run rest :=
  occurrenceAt?_isSome_iff

theorem searchFrom_isSome_iff
    {pattern : Pattern}
    {before : Option Char}
    {index : Nat}
    {text : Text} :
    (pattern.searchFrom before index text).isSome ↔
      ∃ lead run rest, text = lead ++ (run ++ rest) ∧
        pattern.Covers (Text.lastOr before lead) run rest := by
  induction text generalizing before index with
  | nil =>
      rw [searchFrom, occurrenceAt?_isSome_iff]
      constructor
      · rintro ⟨run, rest, text, covered⟩
        exact ⟨[], run, rest, text, covered⟩
      · rintro ⟨lead, run, rest, text, covered⟩
        obtain ⟨rfl, nothing⟩ := List.append_eq_nil_iff.mp text.symm
        exact ⟨run, rest, nothing.symm, covered⟩
  | cons c text inductionHypothesis =>
      have split : (pattern.searchFrom before index (c :: text)).isSome ↔
          (pattern.occurrenceAt? ⟨before, index, c :: text⟩).isSome ∨
            (pattern.searchFrom (some c) (index + 1) text).isSome := by
        rw [searchFrom]
        cases pattern.occurrenceAt? ⟨before, index, c :: text⟩ <;> simp
      rw [split, occurrenceAt?_isSome_iff, inductionHypothesis]
      constructor
      · rintro (⟨run, rest, text, covered⟩ | ⟨lead, run, rest, rfl, covered⟩)
        · exact ⟨[], run, rest, text, covered⟩
        · exact ⟨c :: lead, run, rest, rfl, by rwa [Text.lastOr_cons]⟩
      · rintro ⟨lead, run, rest, equal, covered⟩
        cases lead with
        | nil => exact .inl ⟨run, rest, equal, covered⟩
        | cons d lead =>
            obtain ⟨rfl, rfl⟩ := List.cons.inj equal
            exact .inr ⟨lead, run, rest, rfl, by rwa [Text.lastOr_cons] at covered⟩

/-- A pattern occurs in a text if and only if the text has a stretch that it covers. -/
theorem occursIn_iff
    {pattern : Pattern}
    {text : Text} :
    pattern.occursIn text ↔
      ∃ lead run rest, text = lead ++ (run ++ rest) ∧
        pattern.Covers (Text.lastOr none lead) run rest :=
  searchFrom_isSome_iff

end Pattern
end SqlReview
