import SqlReview.Proofs.Pattern.Captures

/-!
# The sides of what patterns cover

What a pattern covers can start and end with certain characters only, and most patterns ask of the
text around no more than whether a word goes on there. So whether such a pattern occurs in a text can
be settled piece by piece: the text may be cut at a character that the pattern does not take, a tail
in which nothing can end may be left out, and so may a front in which nothing can start.
-/

namespace SqlReview

namespace Text

variable {before other : Option Char} {rest others : Text}

/-- Behind a run it matters only for the empty run what stood before. -/
theorem any_lastOr_congr
    {holds : Char → Bool}
    (same : before.any holds = other.any holds)
    (run : Text) :
    (lastOr before run).any holds = (lastOr other run).any holds := by
  cases run with
  | nil => exact same
  | cons c run => rw [lastOr_cons, lastOr_cons]

/-- In front of a run it matters only for the empty run what follows. -/
theorem any_head?_congr
    {holds : Char → Bool}
    (same : rest.head?.any holds = others.head?.any holds)
    (run : Text) :
    (run ++ rest).head?.any holds = (run ++ others).head?.any holds := by
  cases run with
  | nil => exact same
  | cons c run => rfl

/-- What begins with no such character does not show behind a run. -/
theorem any_head?_append
    {holds : Char → Bool}
    (outside : rest.head?.any holds = false)
    (run : Text) :
    (run ++ rest).head?.any holds = run.head?.any holds := by
  cases run with
  | nil => exact outside
  | cons c run => rfl

/-- A character of a text in two parts is in the first or in the second. -/
theorem part_cases
    {front back first second : Text}
    {c : Char}
    (whole : front ++ c :: back = first ++ second) :
    (∃ more, first = front ++ c :: more ∧ back = more ++ second) ∨
      ∃ more, front = first ++ more ∧ second = more ++ c :: back := by
  rcases List.append_eq_append_iff.mp whole with ⟨more, firstEq, behind⟩ | ⟨more, frontEq, behind⟩
  · cases more with
    | nil => exact .inr ⟨[], by simpa using firstEq.symm, behind.symm⟩
    | cons d more =>
        obtain ⟨rfl, rfl⟩ := List.cons.inj behind
        exact .inl ⟨more, firstEq, rfl⟩
  · exact .inr ⟨more, frontEq, behind⟩

/-- A run in a text around a character has the character, ends before it, or starts behind it. -/
theorem run_cases
    {front back lead run rest : Text}
    {c : Char}
    (whole : front ++ c :: back = lead ++ (run ++ rest)) :
    (∃ first others, run = first ++ c :: others ∧ front = lead ++ first ∧ back = others ++ rest) ∨
      (∃ between, front = lead ++ (run ++ between) ∧ rest = between ++ c :: back) ∨
      ∃ between, lead = front ++ c :: between ∧ back = between ++ (run ++ rest) := by
  rcases part_cases whole with inLead | ⟨first, rfl, behind⟩
  · exact .inr (.inr inLead)
  · rcases part_cases behind.symm with ⟨others, runEq, backEq⟩ | ⟨between, rfl, restEq⟩
    · exact .inl ⟨first, others, runEq, rfl, backEq⟩
    · exact .inr (.inl ⟨between, rfl, restEq⟩)

end Text

namespace Pattern

variable {pattern : Pattern} {before other : Option Char} {run rest others : Text}

/-! ## First and last characters -/

/-- Whether a pattern might cover a run without characters. -/
def isNullable : Pattern → Bool
  | .one _ => false
  | .seq first second => first.isNullable && second.isNullable
  | .alt first second => first.isNullable || second.isNullable
  | .group _ body => body.isNullable
  | .nothing | .many _ | .star _ | .edge | .textStart | .textEnd | .notAfter _ => true

/-- Whether what a pattern covers might start with a character. -/
def starts : Pattern → Char → Bool
  | .one accepts, c | .many accepts, c => accepts c
  | .seq first second, c => first.starts c || (first.isNullable && second.starts c)
  | .alt first second, c => first.starts c || second.starts c
  | .star body, c | .group _ body, c => body.starts c
  | .nothing, _ | .edge, _ | .textStart, _ | .textEnd, _ | .notAfter _, _ => false

/-- Whether what a pattern covers might end with a character. -/
def ends : Pattern → Char → Bool
  | .one accepts, c | .many accepts, c => accepts c
  | .seq first second, c => second.ends c || (second.isNullable && first.ends c)
  | .alt first second, c => first.ends c || second.ends c
  | .star body, c | .group _ body, c => body.ends c
  | .nothing, _ | .edge, _ | .textStart, _ | .textEnd, _ | .notAfter _, _ => false

theorem Covers.isNullable (covered : pattern.Covers before [] rest) : pattern.isNullable = true := by
  induction pattern generalizing before rest with
  | nothing | many _ | star _ _ | edge | textStart | textEnd | notAfter _ => rfl
  | one accepts =>
      obtain ⟨c, empty, -⟩ := covered
      exact absurd empty (by simp)
  | seq first second firstNullable secondNullable =>
      obtain ⟨left, right, empty, isFirst, isSecond⟩ := covered
      obtain ⟨rfl, rfl⟩ := List.append_eq_nil_iff.mp empty.symm
      rw [Pattern.isNullable, firstNullable isFirst, secondNullable isSecond, Bool.and_true]
  | alt first second firstNullable secondNullable =>
      rw [Pattern.isNullable, Bool.or_eq_true]
      exact covered.imp firstNullable secondNullable
  | group number body bodyNullable => exact bodyNullable covered

theorem Covers.ne_nil
    (nonempty : pattern.isNullable = false)
    (covered : pattern.Covers before run rest) :
    run ≠ [] := by
  rintro rfl
  rw [covered.isNullable] at nonempty
  contradiction

/-- What a pattern covers starts with one of the characters given for it. -/
theorem Covers.starts
    {c : Char}
    (covered : pattern.Covers before (c :: run) rest) :
    pattern.starts c = true := by
  induction pattern generalizing before run rest with
  | nothing => exact absurd covered (List.cons_ne_nil _ _)
  | edge | textStart | textEnd | notAfter _ => exact absurd covered.1 (List.cons_ne_nil _ _)
  | one accepts =>
      obtain ⟨d, equal, accepted⟩ := covered
      obtain ⟨rfl, -⟩ := List.cons.inj equal
      exact accepted
  | many accepts => exact covered c (.head _)
  | seq first second firstStarts secondStarts =>
      obtain ⟨left, right, equal, isFirst, isSecond⟩ := covered
      rw [Pattern.starts, Bool.or_eq_true, Bool.and_eq_true]
      cases left with
      | nil =>
          rw [← show c :: run = right from equal] at isSecond
          exact .inr ⟨isFirst.isNullable, secondStarts isSecond⟩
      | cons d left =>
          obtain ⟨rfl, -⟩ := List.cons.inj equal
          exact .inl (firstStarts isFirst)
  | alt first second firstStarts secondStarts =>
      rw [Pattern.starts, Bool.or_eq_true]
      exact covered.imp firstStarts secondStarts
  | star body bodyStarts =>
      change Repeats body.Covers before (c :: run) rest at covered
      generalize whole : c :: run = text at covered
      cases covered with
      | stop => exact absurd whole (List.cons_ne_nil _ _)
      | more nonempty once repeated =>
          obtain ⟨d, first, rfl⟩ := List.exists_cons_of_ne_nil nonempty
          obtain ⟨rfl, -⟩ := List.cons.inj whole
          exact bodyStarts once
  | group number body bodyStarts => exact bodyStarts covered

/-- What a pattern covers ends with one of the characters given for it. -/
theorem Covers.ends
    {c : Char}
    (covered : pattern.Covers before (run ++ [c]) rest) :
    pattern.ends c = true := by
  induction pattern generalizing before run rest with
  | nothing => exact absurd covered (List.concat_ne_nil c run)
  | edge | textStart | textEnd | notAfter _ => exact absurd covered.1 (List.concat_ne_nil c run)
  | one accepts =>
      obtain ⟨d, equal, accepted⟩ := covered
      have last : run ++ [c] = [] ++ [d] := equal
      obtain ⟨-, rfl⟩ := List.append_singleton_inj.mp last
      exact accepted
  | many accepts => exact covered c (by simp)
  | seq first second firstEnds secondEnds =>
      obtain ⟨left, right, equal, isFirst, isSecond⟩ := covered
      rw [Pattern.ends, Bool.or_eq_true, Bool.and_eq_true]
      rcases List.eq_nil_or_concat right with rfl | ⟨more, d, rfl⟩
      · rw [List.append_nil] at equal
        rw [← equal] at isFirst
        exact .inr ⟨isSecond.isNullable, firstEnds isFirst⟩
      · rw [List.concat_eq_append, ← List.append_assoc] at equal
        obtain ⟨-, rfl⟩ := List.append_singleton_inj.mp equal
        rw [List.concat_eq_append] at isSecond
        exact .inl (secondEnds isSecond)
  | alt first second firstEnds secondEnds =>
      rw [Pattern.ends, Bool.or_eq_true]
      exact covered.imp firstEnds secondEnds
  | star body bodyEnds =>
      change Repeats body.Covers before (run ++ [c]) rest at covered
      generalize whole : run ++ [c] = text at covered
      induction covered generalizing run with
      | stop => exact absurd whole (by simp)
      | @more before first others rest nonempty once repeated inductionHypothesis =>
          rcases List.eq_nil_or_concat others with rfl | ⟨more, d, rfl⟩
          · rw [List.append_nil] at whole
            rw [← whole] at once
            exact bodyEnds once
          · rw [List.concat_eq_append, ← List.append_assoc] at whole
            obtain ⟨-, rfl⟩ := List.append_singleton_inj.mp whole
            exact inductionHypothesis (List.concat_eq_append).symm
  | group number body bodyEnds => exact bodyEnds covered

/-! ## The text around -/

/-- Whether all that a pattern asks of the text around is where words go on. -/
def isLocal : Pattern → Bool
  | .seq first second | .alt first second => first.isLocal && second.isLocal
  | .star body | .group _ body => body.isLocal
  | .nothing | .one _ | .many _ | .edge => true
  | .textStart | .textEnd | .notAfter _ => false

/-- What a local pattern covers, it covers in every text in which words go on at the same ends. -/
theorem Covers.of_sides
    (isLocal : pattern.isLocal = true)
    (covered : pattern.Covers before run rest)
    (same : before.any Text.isWord = other.any Text.isWord)
    (sameBehind : rest.head?.any Text.isWord = others.head?.any Text.isWord) :
    pattern.Covers other run others := by
  induction pattern generalizing before other run rest others with
  | nothing | one _ | many _ => exact covered
  | seq first second firstCovers secondCovers =>
      rw [Pattern.isLocal, Bool.and_eq_true] at isLocal
      obtain ⟨left, right, rfl, isFirst, isSecond⟩ := covered
      refine ⟨left, right, rfl, ?_, ?_⟩
      · exact firstCovers isLocal.1 isFirst same (Text.any_head?_congr sameBehind right)
      · exact secondCovers isLocal.2 isSecond (Text.any_lastOr_congr same left) sameBehind
  | alt first second firstCovers secondCovers =>
      rw [Pattern.isLocal, Bool.and_eq_true] at isLocal
      exact covered.imp (firstCovers isLocal.1 · same sameBehind)
        (secondCovers isLocal.2 · same sameBehind)
  | star body bodyCovers =>
      change Repeats body.Covers before run rest at covered
      induction covered generalizing other with
      | stop => exact .stop _ _
      | @more before first more rest nonempty once repeated inductionHypothesis =>
          refine .more nonempty ?_
            (inductionHypothesis (Text.any_lastOr_congr same first) sameBehind)
          exact bodyCovers isLocal once same (Text.any_head?_congr sameBehind more)
  | edge =>
      refine ⟨covered.1, ?_⟩
      rw [Place.isWordEdge, ← same, ← sameBehind]
      exact covered.2
  | textStart | textEnd | notAfter _ => exact absurd isLocal Bool.false_ne_true
  | group number body bodyCovers => exact bodyCovers isLocal covered same sameBehind

/-- Whether a pattern takes a character before it asks anything else. -/
def takesFirst : Pattern → Bool
  | .one _ => true
  | .seq first _ => first.takesFirst
  | .alt first second => first.takesFirst && second.takesFirst
  | .group _ body => body.takesFirst
  | .nothing | .many _ | .star _ | .edge | .textStart | .textEnd | .notAfter _ => false

/-- What stands before it does not matter to a pattern that takes a character first. -/
theorem Covers.of_takesFirst
    (takesFirst : pattern.takesFirst = true)
    (covered : pattern.Covers before run rest) :
    pattern.Covers other run rest ∧ run ≠ [] := by
  induction pattern generalizing run rest with
  | one accepts =>
      obtain ⟨c, rfl, accepted⟩ := covered
      exact ⟨⟨c, rfl, accepted⟩, List.cons_ne_nil _ _⟩
  | seq first second firstCovers secondCovers =>
      obtain ⟨left, right, rfl, isFirst, isSecond⟩ := covered
      obtain ⟨isFirstThere, nonempty⟩ := firstCovers takesFirst isFirst
      refine ⟨⟨left, right, rfl, isFirstThere, ?_⟩, by simp [nonempty]⟩
      obtain ⟨c, more, rfl⟩ := List.exists_cons_of_ne_nil nonempty
      rwa [Text.lastOr_cons] at isSecond ⊢
  | alt first second firstCovers secondCovers =>
      rw [Pattern.takesFirst, Bool.and_eq_true] at takesFirst
      rcases covered with isFirst | isSecond
      · exact (firstCovers takesFirst.1 isFirst).imp_left .inl
      · exact (secondCovers takesFirst.2 isSecond).imp_left .inr
  | group number body bodyCovers => exact bodyCovers takesFirst covered
  | nothing | many _ | star _ _ | edge | textStart | textEnd | notAfter _ =>
      exact absurd takesFirst Bool.false_ne_true

/-! ## Texts in pieces -/

section Pieces

variable (isLocal : pattern.isLocal = true)

include isLocal

/-- What occurs in a text occurs in front of what does not go on with a word. -/
theorem occursIn_append_of_left
    {front back : Text}
    (outside : back.head?.any Text.isWord = false)
    (found : pattern.occursIn front = true) :
    pattern.occursIn (front ++ back) = true := by
  obtain ⟨lead, run, rest, rfl, covered⟩ := occursIn_iff.mp found
  exact occursIn_iff.mpr ⟨lead, run, rest ++ back, by simp,
    covered.of_sides isLocal rfl (Text.any_head?_append outside rest).symm⟩

/-- What occurs in a text occurs behind what does not go on with a word. -/
theorem occursIn_append_of_right
    {front back : Text}
    (outside : (Text.lastOr none front).any Text.isWord = false)
    (found : pattern.occursIn back = true) :
    pattern.occursIn (front ++ back) = true := by
  obtain ⟨lead, run, rest, rfl, covered⟩ := occursIn_iff.mp found
  refine occursIn_iff.mpr ⟨front ++ lead, run, rest, by simp, covered.of_sides isLocal ?_ rfl⟩
  have edges : none.any Text.isWord = (Text.lastOr none front).any Text.isWord := outside.symm
  rw [Text.lastOr_append]
  exact Text.any_lastOr_congr edges lead

/-- A text can be cut at a character that no word has if no occurrence takes the character. -/
theorem occursIn_append_cons_of_clear
    {c : Char}
    {front back : Text}
    (outside : Text.isWord c = false)
    (clear : ∀ lead run others rest, front = lead ++ run → back = others ++ rest →
      ¬pattern.Covers (Text.lastOr none lead) (run ++ c :: others) rest) :
    pattern.occursIn (front ++ c :: back) = (pattern.occursIn front || pattern.occursIn back) := by
  have edges : (some c).any Text.isWord = none.any Text.isWord := outside
  rw [Bool.eq_iff_iff, Bool.or_eq_true]
  constructor
  · intro found
    obtain ⟨lead, run, rest, whole, covered⟩ := occursIn_iff.mp found
    rcases Text.run_cases whole with ⟨run, others, rfl, rfl, rfl⟩ | ⟨between, rfl, rfl⟩ |
      ⟨between, rfl, rfl⟩
    · exact absurd covered (clear lead run others rest rfl rfl)
    · have same := Text.any_head?_append (show (c :: back).head?.any Text.isWord = false from outside)
        between
      exact .inl (occursIn_iff.mpr ⟨lead, run, between, rfl, covered.of_sides isLocal rfl same⟩)
    · refine .inr (occursIn_iff.mpr ⟨between, run, rest, rfl, covered.of_sides isLocal ?_ rfl⟩)
      rw [Text.lastOr_append, Text.lastOr_cons]
      exact Text.any_lastOr_congr edges between
  · rintro (inFront | inBack)
    · exact occursIn_append_of_left isLocal outside inFront
    · rw [List.append_cons]
      refine occursIn_append_of_right isLocal ?_ inBack
      rw [Text.lastOr_append]
      exact outside

/-- A text can be cut at a character that the pattern does not take and no word has. -/
theorem occursIn_append_cons
    {c : Char}
    (outside : Text.isWord c = false)
    (refused : pattern.admits c = false)
    (front back : Text) :
    pattern.occursIn (front ++ c :: back) = (pattern.occursIn front || pattern.occursIn back) := by
  refine occursIn_append_cons_of_clear isLocal outside ?_
  intro lead run others rest _ _ covered
  rw [covered.admits c (by simp)] at refused
  contradiction

end Pieces

/-- A front in which nothing starts can be left out, if what starts right behind it would start there
without the front as well. -/
theorem occursIn_append_front
    (nonempty : pattern.isNullable = false)
    {front back : Text}
    (noStart : ∀ c ∈ front, pattern.starts c = false)
    (indifferent : pattern.takesFirst = true ∨ back.head?.any Text.isWord = false ∧
      ∀ c, pattern.starts c = true → Text.isWord c = true) :
    pattern.occursIn (front ++ back) = pattern.occursIn back := by
  -- What starts right behind the front cannot tell the front from the start of the text.
  have moved {before other : Option Char} {run rest : Text} (lead : Text)
      (whole : back = lead ++ (run ++ rest))
      (covered : pattern.Covers (Text.lastOr before lead) run rest) :
      pattern.Covers (Text.lastOr other lead) run rest := by
    cases lead with
    | cons d lead => exact covered
    | nil =>
        rcases indifferent with takesFirst | ⟨outside, areWords⟩
        · exact (covered.of_takesFirst takesFirst).1
        · obtain ⟨c, more, rfl⟩ := List.exists_cons_of_ne_nil (covered.ne_nil nonempty)
          rw [whole] at outside
          exact absurd ((areWords c covered.starts).symm.trans outside) (by decide)
  rw [Bool.eq_iff_iff, occursIn_iff, occursIn_iff]
  constructor
  · rintro ⟨lead, run, rest, whole, covered⟩
    rcases List.append_eq_append_iff.mp whole with ⟨between, rfl, backEq⟩ | ⟨between, rfl, behind⟩
    · rw [Text.lastOr_append] at covered
      exact ⟨between, run, rest, backEq, moved between backEq covered⟩
    · cases between with
      | nil => exact ⟨[], run, rest, behind.symm, moved [] behind.symm covered⟩
      | cons d between =>
          obtain ⟨c, more, rfl⟩ := List.exists_cons_of_ne_nil (covered.ne_nil nonempty)
          obtain ⟨rfl, -⟩ := List.cons.inj behind
          have noStartHere := noStart c (by simp)
          rw [covered.starts] at noStartHere
          contradiction
  · rintro ⟨lead, run, rest, rfl, covered⟩
    refine ⟨front ++ lead, run, rest, by simp, ?_⟩
    rw [Text.lastOr_append]
    exact moved lead rfl covered

/-! ## Tails -/

/-- Whether nothing that a pattern covers can end in a tail. The flag tells whether it might have
started before. -/
def endsBefore (pattern : Pattern) : (started : Bool) → Text → Bool
  | _, [] => true
  | started, c :: tail =>
    !(((started && pattern.admits c) || pattern.starts c) && pattern.ends c) &&
      endsBefore pattern ((started && pattern.admits c) || pattern.starts c) tail

theorem endsBefore_of_ends
    {tail : Text}
    (noEnd : ∀ c ∈ tail, pattern.ends c = false)
    (started : Bool) :
    pattern.endsBefore started tail = true := by
  induction tail generalizing started with
  | nil => rfl
  | cons c tail inductionHypothesis =>
      rw [List.forall_mem_cons] at noEnd
      rw [endsBefore, noEnd.1, inductionHypothesis noEnd.2, Bool.and_false]
      rfl

theorem exists_endsBefore_append
    {started : Bool}
    {front back : Text}
    (endsBefore : pattern.endsBefore started (front ++ back) = true) :
    ∃ startedThen, pattern.endsBefore startedThen back = true := by
  induction front generalizing started with
  | nil => exact ⟨started, endsBefore⟩
  | cons c front inductionHypothesis =>
      rw [List.cons_append, Pattern.endsBefore, Bool.and_eq_true] at endsBefore
      exact inductionHypothesis endsBefore.2

theorem not_endsBefore
    {started : Bool}
    {c : Char}
    {lead tail : Text}
    (admitted : ∀ d ∈ lead ++ [c], pattern.admits d = true)
    (isEnd : pattern.ends c = true)
    (isStarted : started = true ∨ ∀ d, (lead ++ [c]).head? = some d → pattern.starts d = true) :
    pattern.endsBefore started (lead ++ c :: tail) = false := by
  induction lead generalizing started with
  | nil =>
      have here : ((started && pattern.admits c) || pattern.starts c) = true := by
        rcases isStarted with rfl | starts
        · simp [admitted c (by simp)]
        · simp [starts c rfl]
      rw [List.nil_append, endsBefore, here, isEnd]
      rfl
  | cons d lead inductionHypothesis =>
      have here : ((started && pattern.admits d) || pattern.starts d) = true := by
        rcases isStarted with rfl | starts
        · simp [admitted d (by simp)]
        · simp [starts d rfl]
      rw [List.cons_append, List.forall_mem_cons] at admitted
      rw [List.cons_append, endsBefore, here, inductionHypothesis admitted.2 (.inl rfl),
        Bool.and_false]

theorem Covers.endsBefore_eq_false
    {started : Bool}
    {first inside : Text}
    (covered : pattern.Covers before (first ++ inside) rest)
    (nonempty : inside ≠ [])
    (isStarted : started = true ∨ first = []) :
    pattern.endsBefore started (inside ++ rest) = false := by
  obtain rfl | ⟨lead, c, rfl⟩ := List.eq_nil_or_concat inside
  · exact absurd rfl nonempty
  rw [List.concat_eq_append] at covered ⊢
  have isEnd : pattern.ends c = true := by
    rw [← List.append_assoc] at covered
    exact covered.ends
  rw [List.append_assoc]
  refine not_endsBefore (fun d present => covered.admits d (List.mem_append_right _ present)) isEnd
    (isStarted.imp_right ?_)
  rintro rfl d head
  obtain ⟨others, equal⟩ := List.head?_eq_some_iff.mp head
  rw [List.nil_append, equal] at covered
  exact covered.starts

/-- A tail in which nothing ends can be left out, if no word goes on in it. -/
theorem occursIn_append_tail
    (isLocal : pattern.isLocal = true)
    (nonempty : pattern.isNullable = false)
    {tail : Text}
    (outside : tail.head?.any Text.isWord = false)
    (endsBefore : pattern.endsBefore true tail = true)
    (front : Text) :
    pattern.occursIn (front ++ tail) = pattern.occursIn front := by
  rw [Bool.eq_iff_iff]
  refine ⟨fun found => ?_, occursIn_append_of_left isLocal outside⟩
  obtain ⟨lead, run, rest, whole, covered⟩ := occursIn_iff.mp found
  have inFront (between : Text) (stop : front = lead ++ run ++ between)
      (restEq : rest = between ++ tail) : pattern.occursIn front = true := by
    refine occursIn_iff.mpr ⟨lead, run, between, by rw [stop, List.append_assoc],
      covered.of_sides isLocal rfl ?_⟩
    rw [restEq]
    exact Text.any_head?_append outside between
  rw [← List.append_assoc] at whole
  rcases List.append_eq_append_iff.mp whole with ⟨inTail, stop, tailEq⟩ | ⟨between, stop, restEq⟩
  · by_cases empty : inTail = []
    · subst empty
      exact inFront [] (by simpa using stop.symm) tailEq.symm
    -- The run ends in the tail, whether it starts before it or in it.
    rw [tailEq] at endsBefore
    rcases List.append_eq_append_iff.mp stop with ⟨first, -, runEq⟩ | ⟨first, -, inTailEq⟩
    · rw [runEq] at covered
      rw [covered.endsBefore_eq_false empty (.inl rfl)] at endsBefore
      contradiction
    · rw [inTailEq, List.append_assoc] at endsBefore
      obtain ⟨started, sees⟩ := exists_endsBefore_append endsBefore
      have whole : pattern.Covers (Text.lastOr none lead) ([] ++ run) rest := covered
      rw [whole.endsBefore_eq_false (covered.ne_nil nonempty) (.inr rfl)] at sees
      contradiction
  · exact inFront between stop restEq

end Pattern
end SqlReview
