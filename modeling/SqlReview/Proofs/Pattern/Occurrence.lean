import SqlReview.Proofs.Pattern.Cover

/-!
# The occurrences in a text

How the search for all occurrences moves over a text: a stretch in which nothing fits is passed by,
and behind an occurrence the search goes on as it would have begun there. Every occurrence found is
a stretch of the text that the pattern covers. The occurrences of a pattern that takes characters
take the text apart: they stand one behind the other, and in the gaps in front of them and behind
the last one no occurrence starts, `takesApart_occurrences`.
-/

namespace SqlReview
namespace Pattern

variable {pattern : Pattern} {before : Option Char} {index : Nat}

/-! ## Moving on -/

/-- Covered characters are skipped. -/
theorem occurrencesFrom_skip
    (covered rest : Text) :
    pattern.occurrencesFrom covered.length before index (covered ++ rest) =
      pattern.occurrencesFrom 0 (Text.lastOr before covered) (index + covered.length) rest := by
  induction covered generalizing before index with
  | nil => rfl
  | cons c covered inductionHypothesis =>
      rw [List.length_cons, List.cons_append, occurrencesFrom, inductionHypothesis,
        Text.lastOr_cons, Nat.add_right_comm, Nat.add_assoc]

/-- Covered characters are left out of a replacement. -/
theorem replaceFrom_skip
    (replacement covered rest : Text) :
    pattern.replaceFrom replacement covered.length before index (covered ++ rest) =
      pattern.replaceFrom replacement 0 (Text.lastOr before covered) (index + covered.length)
        rest := by
  induction covered generalizing before index with
  | nil => rfl
  | cons c covered inductionHypothesis =>
      rw [List.length_cons, List.cons_append, replaceFrom, inductionHypothesis,
        Text.lastOr_cons, Nat.add_right_comm, Nat.add_assoc]

/-- Whether no occurrence with characters starts in a stretch in front of a text. -/
def IsQuiet
    (pattern : Pattern)
    (before : Option Char)
    (stretch rest : Text) : Prop :=
  ∀ lead c tail, stretch = lead ++ c :: tail →
    ∀ run others, c :: tail ++ rest = run ++ others →
      ¬pattern.Covers (Text.lastOr before lead) run others

theorem IsQuiet.tail
    {c : Char}
    {stretch rest : Text}
    (isQuiet : pattern.IsQuiet before (c :: stretch) rest) :
    pattern.IsQuiet (some c) stretch rest := by
  rintro lead d tail rfl run others text covered
  rw [← Text.lastOr_cons before c lead] at covered
  exact isQuiet (c :: lead) d tail rfl run others text covered

/-- Two stretches in which no occurrence starts are one. -/
theorem IsQuiet.append
    {first second rest : Text}
    (isQuiet : pattern.IsQuiet before first (second ++ rest))
    (secondIsQuiet : pattern.IsQuiet (Text.lastOr before first) second rest) :
    pattern.IsQuiet before (first ++ second) rest := by
  intro lead c tail equal run others text
  rcases List.append_eq_append_iff.mp equal with ⟨back, rfl, behind⟩ | ⟨back, firstEq, tailEq⟩
  · rw [Text.lastOr_append]
    exact secondIsQuiet back c tail behind run others text
  · cases back with
    | nil =>
        obtain rfl : first = lead := by simpa using firstEq
        exact secondIsQuiet [] c tail tailEq.symm run others text
    | cons d back =>
        obtain ⟨rfl, rfl⟩ := List.cons.inj tailEq
        refine isQuiet lead c back firstEq run others ?_
        rw [← text]
        simp

/-- A stretch in which no occurrence starts is passed by. -/
theorem occurrencesFrom_quiet
    {stretch rest : Text}
    (isQuiet : pattern.IsQuiet before stretch rest) :
    pattern.occurrencesFrom 0 before index (stretch ++ rest) =
      pattern.occurrencesFrom 0 (Text.lastOr before stretch) (index + stretch.length) rest := by
  induction stretch generalizing before index with
  | nil => rfl
  | cons c stretch inductionHypothesis =>
      have nothing : pattern.occurrenceAt? ⟨before, index, c :: (stretch ++ rest)⟩ = none :=
        occurrenceAt?_eq_none_iff.mpr (isQuiet [] c stretch rfl)
      rw [List.cons_append, occurrencesFrom, nothing]
      change pattern.occurrencesFrom 0 (some c) (index + 1) (stretch ++ rest) = _
      rw [inductionHypothesis isQuiet.tail, Text.lastOr_cons, List.length_cons,
        Nat.add_right_comm, Nat.add_assoc]

/-- A search passes by where no occurrence starts. -/
theorem searchFrom_quiet
    {lead rest : Text}
    (isQuiet : pattern.IsQuiet before lead rest)
    (index : Nat) :
    pattern.searchFrom before index (lead ++ rest) =
      pattern.searchFrom (Text.lastOr before lead) (index + lead.length) rest := by
  induction lead generalizing before index with
  | nil => rfl
  | cons c lead inductionHypothesis =>
      have nothing : pattern.occurrenceAt? ⟨before, index, c :: (lead ++ rest)⟩ = none :=
        occurrenceAt?_eq_none_iff.mpr (isQuiet [] c lead rfl)
      rw [List.cons_append, searchFrom, nothing]
      change pattern.searchFrom (some c) (index + 1) (lead ++ rest) = _
      rw [inductionHypothesis isQuiet.tail, Text.lastOr_cons, List.length_cons, Nat.add_right_comm,
        Nat.add_assoc]

theorem searchFrom_of_occurrenceAt?
    {text : Text}
    {occurrence : Occurrence}
    (found : pattern.occurrenceAt? ⟨before, index, text⟩ = some occurrence) :
    pattern.searchFrom before index text = some occurrence := by
  cases text with
  | nil => exact found
  | cons c rest => rw [searchFrom, found]

/-- What stands in front of the first occurrence. -/
theorem beforeFirst_of_isQuiet
    {lead rest : Text}
    (isQuiet : pattern.IsQuiet none lead rest)
    (covered : pattern.Covers (Text.lastOr none lead) rest []) :
    pattern.beforeFirst (lead ++ rest) = lead := by
  obtain ⟨occurrence, found⟩ := Option.isSome_iff_exists.mp
    (occurrenceAt?_isSome_iff.mpr ⟨rest, [], (List.append_nil rest).symm, covered⟩ :
      (pattern.occurrenceAt? ⟨Text.lastOr none lead, 0 + lead.length, rest⟩).isSome)
  have searched : pattern.search (lead ++ rest) = some occurrence := by
    rw [search, searchFrom_quiet isQuiet, searchFrom_of_occurrenceAt? found]
  obtain ⟨run, others, -, -, start, -⟩ := covers_of_occurrenceAt? found
  have place : occurrence.start = lead.length := start.trans (Nat.zero_add _)
  rw [beforeFirst, searched]
  change (lead ++ rest).take occurrence.start = lead
  rw [place, List.take_left]

/-- Behind an occurrence the search goes on. -/
theorem occurrencesFrom_of_occurrenceAt?
    {run rest : Text}
    {occurrence : Occurrence}
    (found : pattern.occurrenceAt? ⟨before, index, run ++ rest⟩ = some occurrence)
    (length : occurrence.length = run.length)
    (nonempty : run ≠ []) :
    pattern.occurrencesFrom 0 before index (run ++ rest) =
      occurrence ::
        pattern.occurrencesFrom 0 (Text.lastOr before run) (index + run.length) rest := by
  obtain ⟨c, run, rfl⟩ := List.exists_cons_of_ne_nil nonempty
  rw [List.cons_append] at found
  rw [List.cons_append, occurrencesFrom, found]
  have positive : 0 < occurrence.length := by simp [length]
  have skip : occurrence.length - 1 = run.length := by simp [length]
  simp only [if_pos positive, skip, occurrencesFrom_skip, Text.lastOr_cons, List.length_cons,
    Nat.add_right_comm, Nat.add_assoc]

/-- A stretch in which no occurrence starts is kept by a replacement. -/
theorem replaceFrom_quiet
    {stretch rest : Text}
    (isQuiet : pattern.IsQuiet before stretch rest)
    (replacement : Text) :
    pattern.replaceFrom replacement 0 before index (stretch ++ rest) =
      stretch ++ pattern.replaceFrom replacement 0 (Text.lastOr before stretch)
        (index + stretch.length) rest := by
  induction stretch generalizing before index with
  | nil => rfl
  | cons c stretch inductionHypothesis =>
      have nothing : pattern.occurrenceAt? ⟨before, index, c :: (stretch ++ rest)⟩ = none :=
        occurrenceAt?_eq_none_iff.mpr (isQuiet [] c stretch rfl)
      rw [List.cons_append, replaceFrom, nothing]
      change c :: pattern.replaceFrom replacement 0 (some c) (index + 1) (stretch ++ rest) = _
      rw [inductionHypothesis isQuiet.tail, Text.lastOr_cons, List.length_cons,
        Nat.add_right_comm, Nat.add_assoc, List.cons_append]

/-- An occurrence is replaced, and so are those behind it. -/
theorem replaceFrom_of_occurrenceAt?
    {run rest : Text}
    {occurrence : Occurrence}
    (found : pattern.occurrenceAt? ⟨before, index, run ++ rest⟩ = some occurrence)
    (length : occurrence.length = run.length)
    (nonempty : run ≠ [])
    (replacement : Text) :
    pattern.replaceFrom replacement 0 before index (run ++ rest) =
      replacement ++ pattern.replaceFrom replacement 0 (Text.lastOr before run)
        (index + run.length) rest := by
  obtain ⟨c, run, rfl⟩ := List.exists_cons_of_ne_nil nonempty
  rw [List.cons_append] at found
  rw [List.cons_append, replaceFrom, found]
  have positive : 0 < occurrence.length := by simp [length]
  have skip : occurrence.length - 1 = run.length := by simp [length]
  simp only [if_pos positive, skip, replaceFrom_skip, Text.lastOr_cons, List.length_cons,
    Nat.add_right_comm, Nat.add_assoc]

/-! ## Soundness -/

/-- Every occurrence found is the occurrence at some place of the text. -/
theorem exists_occurrenceAt?_of_mem
    {skip : Nat}
    {text : Text}
    {occurrence : Occurrence}
    (present : occurrence ∈ pattern.occurrencesFrom skip before index text) :
    ∃ lead rest, text = lead ++ rest ∧ 0 < occurrence.length ∧
      pattern.occurrenceAt? ⟨Text.lastOr before lead, index + lead.length, rest⟩ =
        some occurrence := by
  induction text generalizing skip before index with
  | nil => simp [occurrencesFrom] at present
  | cons c text inductionHypothesis =>
      have later {skip : Nat}
          (inRest : occurrence ∈ pattern.occurrencesFrom skip (some c) (index + 1) text) :
          ∃ lead rest, c :: text = lead ++ rest ∧ 0 < occurrence.length ∧
            pattern.occurrenceAt? ⟨Text.lastOr before lead, index + lead.length, rest⟩ =
              some occurrence := by
        obtain ⟨lead, rest, rfl, nonempty, found⟩ := inductionHypothesis inRest
        refine ⟨c :: lead, rest, rfl, nonempty, ?_⟩
        rwa [Text.lastOr_cons, List.length_cons, Nat.add_comm lead.length, ← Nat.add_assoc]
      cases skip with
      | succ skip => exact later present
      | zero =>
          rw [occurrencesFrom] at present
          cases found : pattern.occurrenceAt? ⟨before, index, c :: text⟩ with
          | none =>
              rw [found] at present
              exact later present
          | some first =>
              simp only [found] at present
              split at present
              · rename_i nonempty
                rcases List.mem_cons.mp present with rfl | inRest
                · exact ⟨[], c :: text, rfl, nonempty, found⟩
                · exact later inRest
              · exact later present

/-- Whether an occurrence is a stretch of a text, given the character before the text and the
offset at which the text starts. -/
def IsStretch
    (pattern : Pattern)
    (before : Option Char)
    (index : Nat)
    (text : Text)
    (occurrence : Occurrence) : Prop :=
  ∃ lead run rest, text = lead ++ (run ++ rest) ∧ run ≠ [] ∧
    pattern.Covers (Text.lastOr before lead) run rest ∧
    occurrence.start = index + lead.length ∧
    occurrence.stop = index + lead.length + run.length ∧ occurrence.text = run

theorem isStretch_of_mem_occurrencesFrom
    {skip : Nat}
    {text : Text}
    {occurrence : Occurrence}
    (present : occurrence ∈ pattern.occurrencesFrom skip before index text) :
    pattern.IsStretch before index text occurrence := by
  obtain ⟨lead, rest, rfl, nonempty, found⟩ := exists_occurrenceAt?_of_mem present
  obtain ⟨run, others, equal, covered, start, stop, stretch⟩ := covers_of_occurrenceAt? found
  change rest = run ++ others at equal
  refine ⟨lead, run, others, by rw [equal], ?_, covered, start, stop, stretch⟩
  rintro rfl
  rw [Occurrence.length, start, stop] at nonempty
  simp at nonempty

/-- Every occurrence in a text is a stretch that the pattern covers. -/
theorem isStretch_of_mem_occurrences
    {text : Text}
    {occurrence : Occurrence}
    (present : occurrence ∈ pattern.occurrences text) :
    pattern.IsStretch none 0 text occurrence :=
  isStretch_of_mem_occurrencesFrom present

/-- What a search finds is a stretch of the text that the pattern covers. -/
theorem covers_of_searchFrom
    {text : Text}
    {occurrence : Occurrence}
    (found : pattern.searchFrom before index text = some occurrence) :
    ∃ lead run rest, text = lead ++ (run ++ rest) ∧
      pattern.Covers (Text.lastOr before lead) run rest ∧
      occurrence.start = index + lead.length ∧
      occurrence.stop = index + lead.length + run.length := by
  induction text generalizing before index with
  | nil =>
      obtain ⟨run, rest, equal, covered, start, stop, -⟩ := covers_of_occurrenceAt? found
      exact ⟨[], run, rest, equal, covered, start, stop⟩
  | cons c text inductionHypothesis =>
      rw [searchFrom] at found
      cases here : pattern.occurrenceAt? ⟨before, index, c :: text⟩ with
      | some first =>
          rw [here] at found
          obtain rfl := Option.some.inj found
          obtain ⟨run, rest, equal, covered, start, stop, -⟩ := covers_of_occurrenceAt? here
          exact ⟨[], run, rest, equal, covered, start, stop⟩
      | none =>
          rw [here] at found
          obtain ⟨lead, run, rest, rfl, covered, start, stop⟩ := inductionHypothesis found
          refine ⟨c :: lead, run, rest, rfl, by rwa [Text.lastOr_cons], ?_, ?_⟩
          · rw [start, List.length_cons]
            omega
          · rw [stop, List.length_cons]
            omega

/-- A search passes by only where nothing is covered. -/
theorem isQuiet_of_searchFrom
    {text lead rest : Text}
    {occurrence : Occurrence}
    (found : pattern.searchFrom before index text = some occurrence)
    (start : occurrence.start = index + lead.length)
    (whole : text = lead ++ rest) :
    pattern.IsQuiet before lead rest := by
  subst whole
  induction lead generalizing before index with
  | nil => rintro lead c tail empty; simp at empty
  | cons c lead inductionHypothesis =>
      rw [List.cons_append, searchFrom] at found
      cases here : pattern.occurrenceAt? ⟨before, index, c :: (lead ++ rest)⟩ with
      | some first =>
          rw [here] at found
          obtain rfl := Option.some.inj found
          obtain ⟨run, others, -, -, startHere, -⟩ := covers_of_occurrenceAt? here
          rw [start, List.length_cons] at startHere
          change index + (lead.length + 1) = index at startHere
          omega
      | none =>
          rw [here] at found
          have startBehind : occurrence.start = index + 1 + lead.length := by
            rw [start, List.length_cons]
            omega
          rintro front d tail frontEq run others equal
          cases front with
          | nil =>
              obtain ⟨rfl, rfl⟩ := List.cons.inj frontEq
              exact occurrenceAt?_eq_none_iff.mp here run others equal
          | cons e front =>
              obtain ⟨rfl, rfl⟩ := List.cons.inj frontEq
              rw [Text.lastOr_cons]
              exact inductionHypothesis startBehind found front d tail rfl run others equal

/-- A pattern that takes characters occurs just if there are occurrences. -/
theorem occursIn_eq_any_occurrences
    (nonempty : ∀ before run rest, pattern.Covers before run rest → run ≠ [])
    (text : Text) :
    pattern.occursIn text = !(pattern.occurrences text).isEmpty := by
  have scan (before : Option Char) (index : Nat) :
      (pattern.searchFrom before index text).isSome =
        !(pattern.occurrencesFrom 0 before index text).isEmpty := by
    induction text generalizing before index with
    | nil =>
        have nothing : pattern.occurrenceAt? ⟨before, index, []⟩ = none :=
          occurrenceAt?_eq_none_iff.mpr fun run rest equal covered =>
            nonempty before run rest covered (List.append_eq_nil_iff.mp equal.symm).1
        rw [searchFrom, nothing]
        rfl
    | cons c text inductionHypothesis =>
        rw [searchFrom, occurrencesFrom]
        cases found : pattern.occurrenceAt? ⟨before, index, c :: text⟩ with
        | none => exact inductionHypothesis (some c) (index + 1)
        | some occurrence =>
            obtain ⟨run, rest, -, covered, start, stop, -⟩ := covers_of_occurrenceAt? found
            have positive : 0 < occurrence.length := by
              have hasCharacters := List.length_pos_iff.mpr (nonempty before run rest covered)
              rw [Occurrence.length, start, stop, Nat.add_sub_cancel_left]
              exact hasCharacters
            simp only [if_pos positive]
            rfl
  exact scan none 0

/-! ## Completeness -/

/-- What fits at a place is found there if nothing before it reaches over the place. -/
theorem mem_occurrencesFrom_of_clear
    {skip : Nat}
    {lead rest : Text}
    {occurrence : Occurrence}
    (found : pattern.occurrenceAt?
      ⟨Text.lastOr before lead, index + lead.length, rest⟩ = some occurrence)
    (nonempty : 0 < occurrence.length)
    (clear : ∀ first x run others, lead = first ++ x → x ≠ [] → x ++ rest = run ++ others →
      pattern.Covers (Text.lastOr before first) run others → run.length ≤ x.length)
    (enough : skip ≤ lead.length) :
    occurrence ∈ pattern.occurrencesFrom skip before index (lead ++ rest) := by
  induction lead generalizing skip before index with
  | nil =>
      obtain rfl : skip = 0 := by simpa using enough
      cases rest with
      | nil =>
          obtain ⟨run, others, equal, -, start, stop, -⟩ := covers_of_occurrenceAt? found
          have noRun : run = [] := (List.append_eq_nil_iff.mp equal.symm).1
          rw [Occurrence.length, start, stop, noRun] at nonempty
          simp at nonempty
      | cons c rest =>
          change pattern.occurrenceAt? ⟨before, index, c :: rest⟩ = some occurrence at found
          rw [List.nil_append, occurrencesFrom, found]
          simp only [if_pos nonempty]
          exact .head _
  | cons c lead inductionHypothesis =>
      have behind : pattern.occurrenceAt?
          ⟨Text.lastOr (some c) lead, index + 1 + lead.length, rest⟩ = some occurrence := by
        rw [← found, Text.lastOr_cons, List.length_cons, Nat.add_right_comm, Nat.add_assoc]
      have clearBehind : ∀ first x run others, lead = first ++ x → x ≠ [] →
          x ++ rest = run ++ others → pattern.Covers (Text.lastOr (some c) first) run others →
            run.length ≤ x.length := by
        rintro first x run others rfl nonempty equal covered
        rw [← Text.lastOr_cons before] at covered
        exact clear (c :: first) x run others rfl nonempty equal covered
      cases skip with
      | succ skip =>
          exact inductionHypothesis behind clearBehind (Nat.le_of_succ_le_succ enough)
      | zero =>
          rw [List.cons_append, occurrencesFrom]
          cases here : pattern.occurrenceAt? ⟨before, index, c :: (lead ++ rest)⟩ with
          | none => exact inductionHypothesis behind clearBehind (Nat.zero_le _)
          | some first =>
              simp only
              split
              · obtain ⟨run, others, equal, covered, start, stop, -⟩ := covers_of_occurrenceAt? here
                have short := clear [] (c :: lead) run others rfl (List.cons_ne_nil c lead) equal
                  covered
                refine .tail _ (inductionHypothesis behind clearBehind ?_)
                rw [List.length_cons] at short
                rw [Occurrence.length, start, stop]
                omega
              · exact inductionHypothesis behind clearBehind (Nat.zero_le _)

/-! ## Between occurrences -/

section

variable {text : Text} {occurrence : Occurrence} {others : List Occurrence}

/-- Whether occurrences are all there are in a text, given the character before the text and the
offset at which the text starts. -/
inductive TakesApart (pattern : Pattern) :
    Option Char → Nat → Text → List Occurrence → Prop where
  /-- No occurrence starts in the text. -/
  | nothing
      {before : Option Char}
      {index : Nat}
      {gap : Text}
      (isQuiet : pattern.IsQuiet before gap []) :
      TakesApart pattern before index gap []
  /-- A gap in which no occurrence starts, an occurrence, and then others. -/
  | next
      {before : Option Char}
      {index : Nat}
      {gap run rest : Text}
      {occurrence : Occurrence}
      {others : List Occurrence}
      (isQuiet : pattern.IsQuiet before gap (run ++ rest))
      (found : pattern.occurrenceAt?
        ⟨Text.lastOr before gap, index + gap.length, run ++ rest⟩ = some occurrence)
      (nonempty : run ≠ [])
      (covered : pattern.Covers (Text.lastOr before gap) run rest)
      (start : occurrence.start = index + gap.length)
      (stop : occurrence.stop = index + gap.length + run.length)
      (text : occurrence.text = run)
      (behind : TakesApart pattern (Text.lastOr before (gap ++ run))
        (index + gap.length + run.length) rest others) :
      TakesApart pattern before index (gap ++ (run ++ rest)) (occurrence :: others)

theorem isQuiet_empty (pattern : Pattern) (before : Option Char) (rest : Text) :
    pattern.IsQuiet before [] rest := by
  intro lead c tail equal
  simp at equal

/-- A character at which no occurrence starts belongs to the first gap. -/
theorem TakesApart.cons
    {c : Char}
    (none : pattern.occurrenceAt? ⟨before, index, c :: text⟩ = none)
    (apart : pattern.TakesApart (some c) (index + 1) text others) :
    pattern.TakesApart before index (c :: text) others := by
  have quietHere : pattern.IsQuiet before [c] text := by
    intro lead d tail equal run rest whole
    cases lead with
    | nil =>
        obtain ⟨rfl, rfl⟩ := List.cons.inj equal
        exact occurrenceAt?_eq_none_iff.mp none run rest whole
    | cons e lead => simp at equal
  cases apart with
  | nothing isQuiet =>
      rw [← List.append_nil text] at quietHere
      exact .nothing (quietHere.append isQuiet)
  | @next _ _ gap run rest _ _ isQuiet found nonempty covered start stop text behind =>
      have offset : index + 1 + gap.length = index + (c :: gap).length := by
        rw [List.length_cons]
        omega
      rw [offset] at found start stop behind
      rw [← Text.lastOr_cons before] at found covered behind
      exact .next (quietHere.append isQuiet) found nonempty covered start stop text behind

/-- The search for all occurrences of a pattern that takes characters misses none. -/
theorem takesApart_occurrencesFrom
    (nonempty : ∀ before run rest, pattern.Covers before run rest → run ≠ [])
    (before : Option Char)
    (index : Nat)
    (text : Text) :
    pattern.TakesApart before index text (pattern.occurrencesFrom 0 before index text) := by
  induction size : text.length using Nat.strongRecOn generalizing before index text with
  | ind bound inductionHypothesis =>
    cases text with
    | nil => exact .nothing (isQuiet_empty pattern before [])
    | cons c text =>
        rw [List.length_cons] at size
        cases here : pattern.occurrenceAt? ⟨before, index, c :: text⟩ with
        | none =>
            rw [occurrencesFrom, here]
            exact .cons here (inductionHypothesis text.length (by omega) _ _ _ rfl)
        | some occurrence =>
            obtain ⟨run, rest, equal, covered, start, stop, stretch⟩ := covers_of_occurrenceAt? here
            change c :: text = run ++ rest at equal
            have isNonempty := nonempty before run rest covered
            have positive := List.length_pos_iff.mpr isNonempty
            have shorter : rest.length < bound := by
              rw [← size, ← List.length_cons, equal, List.length_append]
              omega
            rw [equal] at here ⊢
            rw [occurrencesFrom_of_occurrenceAt? here
              (by rw [Occurrence.length, start, stop, Nat.add_sub_cancel_left]) isNonempty]
            exact .next (isQuiet_empty pattern before _) here isNonempty covered start stop stretch
              (inductionHypothesis rest.length shorter _ _ _ rfl)

/-- The occurrences in a text are all there are, if the pattern takes characters. -/
theorem takesApart_occurrences
    (nonempty : ∀ before run rest, pattern.Covers before run rest → run ≠ [])
    (text : Text) :
    pattern.TakesApart none 0 text (pattern.occurrences text) :=
  takesApart_occurrencesFrom nonempty none 0 text

/-- Behind one of the occurrences the text is taken apart by those that follow. -/
theorem TakesApart.exists_split
    {front behind : List Occurrence}
    (apart : pattern.TakesApart before index text (front ++ occurrence :: behind)) :
    ∃ lead run rest, text = lead ++ (run ++ rest) ∧ run ≠ [] ∧
      pattern.Covers (Text.lastOr before lead) run rest ∧
      pattern.occurrenceAt? ⟨Text.lastOr before lead, index + lead.length, run ++ rest⟩ =
        some occurrence ∧
      occurrence.start = index + lead.length ∧
      occurrence.stop = index + lead.length + run.length ∧ occurrence.text = run ∧
      pattern.TakesApart (Text.lastOr before (lead ++ run)) (index + lead.length + run.length) rest
        behind := by
  induction front generalizing before index text with
  | nil =>
      cases apart with
      | next _ found nonempty covered start stop stretch further =>
          exact ⟨_, _, _, rfl, nonempty, covered, found, start, stop, stretch, further⟩
  | cons first front inductionHypothesis =>
      cases apart with
      | @next _ _ gap run rest _ _ _ _ _ _ _ _ _ further =>
          obtain ⟨lead, stretch, others, rfl, nonempty, covered, found, start, stop, text, last⟩ :=
            inductionHypothesis further
          have offset : index + gap.length + run.length + lead.length =
              index + (gap ++ run ++ lead).length := by
            simp only [List.length_append]
            omega
          rw [offset] at found start stop last
          rw [← Text.lastOr_append] at covered found
          refine ⟨gap ++ run ++ lead, stretch, others, by simp, nonempty, covered, found, start, stop,
            text, ?_⟩
          rwa [← Text.lastOr_append, ← List.append_assoc] at last

/-- Occurrences stand inside the text and take characters. -/
theorem TakesApart.bounds
    (apart : pattern.TakesApart before index text others)
    (present : occurrence ∈ others) :
    index ≤ occurrence.start ∧ occurrence.start < occurrence.stop ∧
      occurrence.stop ≤ index + text.length := by
  obtain ⟨front, behind, rfl⟩ := List.append_of_mem present
  obtain ⟨lead, run, rest, rfl, nonempty, -, -, start, stop, -⟩ := apart.exists_split
  have positive := List.length_pos_iff.mpr nonempty
  simp only [List.length_append]
  omega

/-- Occurrences stand one behind the other. -/
theorem TakesApart.pairwise (apart : pattern.TakesApart before index text others) :
    others.Pairwise fun first second => first.stop ≤ second.start := by
  induction apart with
  | nothing => exact .nil
  | next _ _ _ _ _ stop _ behind inductionHypothesis =>
      refine .cons (fun other present => ?_) inductionHypothesis
      rw [stop]
      exact (behind.bounds present).1

end

end Pattern
end SqlReview
