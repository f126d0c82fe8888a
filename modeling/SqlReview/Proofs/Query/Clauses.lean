import SqlReview.Proofs.Pattern.Captures
import SqlReview.Proofs.Pattern.Occurrence
import SqlReview.Proofs.Pattern.Word
import SqlReview.Proofs.Text.Cutting
import SqlReview.Query.Clause

/-!
# Where clauses start and end

A keyword of a clause is a phrase of one or two words between two word edges. So the body of a
clause starts directly behind a letter of the top level, and it ends directly in front of one or
with the text. A keyword in a body taken by itself would be one in the query: at both ends of a body
stands the edge of a word, so that neither of the cuts makes a word of its own. Main statement: each
body belongs to the first keyword of its name, the bodies stand apart from each other in the order of
these keywords, and no body holds a keyword.
-/

namespace SqlReview
namespace Query

/-! ## Phrases -/

/-- Whether a text consists of given words with white space between neighbours. -/
def SpellsPhrase : List Text → Text → Prop
  | [], run => run = []
  | [word], run => run.map Text.foldLetter = word
  | word :: words, run => ∃ first blanks others, run = first ++ (blanks ++ others) ∧
      first.map Text.foldLetter = word ∧ (blanks ≠ [] ∧ ∀ c ∈ blanks, Text.isBlank c = true) ∧
      SpellsPhrase words others

/-- The keywords of clauses, word by word. -/
def clausePhrases : List (List Text) :=
  [["select"], ["from"], ["where"], ["group", "by"], ["having"], ["order", "by"], ["limit"],
    ["offset"], ["fetch"], ["union"], ["intersect"], ["except"], ["window"], ["returning"]]

/-- The pattern of a phrase of one or two words. -/
def phrasePattern : List Text → Pattern
  | [word] => .letters word
  | [first, second] => twoWords first second
  | _ => .nothing

theorem clauseKeyword_eq :
    clauseKeyword =
      .all [.edge, .group 1 (.any (clausePhrases.map phrasePattern)), .edge] := rfl

theorem clausePhrases_forall :
    ∀ phrase ∈ clausePhrases, (phrase.length = 1 ∨ phrase.length = 2) ∧
      ∀ word ∈ phrase, Text.IsSmallWord word := by
  decide

variable {before : Option Char} {phrase : List Text} {run rest : Text}

theorem covers_phrasePattern
    (short : phrase.length = 1 ∨ phrase.length = 2) :
    (phrasePattern phrase).Covers before run rest ↔ SpellsPhrase phrase run := by
  match phrase, short with
  | [word], _ => exact Pattern.covers_letters
  | [first, second], _ =>
      rw [phrasePattern, twoWords, Pattern.covers_letters_cons]
      simp only [Pattern.covers_all_cons, Pattern.covers_someBlanks, Pattern.covers_letters,
        Pattern.covers_all_nil]
      constructor
      · rintro ⟨left, _, rfl, folds, blanks, _, rfl, blank, right, _, rfl, rightFolds, rfl⟩
        exact ⟨left, blanks, right, by simp, folds, blank, rightFolds⟩
      · rintro ⟨left, blanks, right, rfl, folds, blank, rightFolds⟩
        exact ⟨left, _, rfl, folds, blanks, _, rfl, blank, right, [], by simp, rightFolds, rfl⟩

/-- The first and the last character of a phrase belong to words. -/
theorem SpellsPhrase.isWord_ends
    (spells : SpellsPhrase phrase run)
    (nonempty : phrase ≠ [])
    (smallWords : ∀ word ∈ phrase, Text.IsSmallWord word) :
    run.head?.any Text.isWord = true ∧ run.getLast?.any Text.isWord = true := by
  induction phrase generalizing run with
  | nil => exact absurd rfl nonempty
  | cons word words inductionHypothesis =>
      have isSmallWord := smallWords word (.head _)
      cases words with
      | nil => exact isSmallWord.isWord_ends spells
      | cons second words =>
          obtain ⟨first, blanks, others, rfl, folds, -, othersSpell⟩ := spells
          obtain ⟨-, last⟩ := inductionHypothesis othersSpell (List.cons_ne_nil second words)
            fun word present => smallWords word (.tail _ present)
          refine ⟨isSmallWord.isWord_head? folds _, ?_⟩
          cases lastChar : others.getLast? with
          | none => simp [lastChar] at last
          | some c =>
              rw [lastChar] at last
              rw [List.getLast?_append, List.getLast?_append, lastChar]
              exact last

/-- A phrase starts with its first word. -/
theorem SpellsPhrase.exists_first
    {word : Text}
    {words : List Text}
    (spells : SpellsPhrase (word :: words) run) :
    ∃ first more, run = first ++ more ∧ first.map Text.foldLetter = word ∧
      (more = [] ∨ ∃ c ∈ more.head?, Text.isBlank c = true) := by
  cases words with
  | nil => exact ⟨run, [], (List.append_nil run).symm, spells, .inl rfl⟩
  | cons second words =>
      obtain ⟨first, blanks, others, rfl, folds, ⟨nonempty, allBlank⟩, -⟩ := spells
      obtain ⟨c, blanks, rfl⟩ := List.exists_cons_of_ne_nil nonempty
      exact ⟨first, _, rfl, folds, .inr ⟨c, rfl, allBlank c (.head _)⟩⟩

/-- Whether a text is the keyword of a clause. -/
def IsClauseKeyword (run : Text) : Prop :=
  ∃ phrase ∈ clausePhrases, SpellsPhrase phrase run

theorem IsClauseKeyword.isWord_ends (isKeyword : IsClauseKeyword run) :
    run.head?.any Text.isWord = true ∧ run.getLast?.any Text.isWord = true := by
  obtain ⟨phrase, isPhrase, spells⟩ := isKeyword
  obtain ⟨short, smallWords⟩ := clausePhrases_forall phrase isPhrase
  refine spells.isWord_ends ?_ smallWords
  rintro rfl
  simp at short

theorem covers_clausePhrases :
    (Pattern.group 1 (.any (clausePhrases.map phrasePattern))).Covers before run rest ↔
      IsClauseKeyword run := by
  change (Pattern.any _).Covers before run rest ↔ _
  rw [Pattern.covers_any (by decide)]
  constructor
  · rintro ⟨_, present, covered⟩
    obtain ⟨phrase, isPhrase, rfl⟩ := List.mem_map.mp present
    have short := (clausePhrases_forall phrase isPhrase).1
    exact ⟨phrase, isPhrase, (covers_phrasePattern short).mp covered⟩
  · rintro ⟨phrase, isPhrase, spells⟩
    have short := (clausePhrases_forall phrase isPhrase).1
    exact ⟨_, List.mem_map_of_mem isPhrase, (covers_phrasePattern short).mpr spells⟩

/-- The keyword of a clause is one of the phrases, and no word character stands next to it. -/
theorem covers_clauseKeyword :
    clauseKeyword.Covers before run rest ↔
      IsClauseKeyword run ∧ before.any Text.isWord = false ∧
        rest.head?.any Text.isWord = false := by
  rw [clauseKeyword_eq, Pattern.covers_between_edges, covers_clausePhrases]
  intro before run rest covered
  exact (covers_clausePhrases.mp covered).isWord_ends

/-! ## Places -/

/-- A clause belongs to the first keyword of its name: it starts behind that keyword and ends in front
of the next one, or with the text. -/
theorem exists_keyword_of_mem_clausesFrom
    {length : Nat}
    {seen : List Text}
    {keywords : List Occurrence}
    {clause : Clause}
    (present : clause ∈ clausesFrom length seen keywords) :
    clause.name ∉ seen ∧ ∃ front keyword behind, keywords = front ++ keyword :: behind ∧
      clauseName (keyword.groupText 1) = clause.name ∧
      (∀ earlier ∈ front, clauseName (earlier.groupText 1) ≠ clause.name) ∧
      clause.start = keyword.stop ∧
      clause.stop = (behind.head?.map (·.start)).getD length := by
  induction keywords generalizing seen with
  | nil => simp [clausesFrom] at present
  | cons keyword rest inductionHypothesis =>
      rw [clausesFrom] at present
      split at present
      next isSeen =>
        obtain ⟨unseen, front, own, behind, rfl, name, isFirst, places⟩ := inductionHypothesis present
        have other : clauseName (keyword.groupText 1) ≠ clause.name := fun same =>
          unseen (same ▸ List.contains_iff_mem.mp isSeen)
        exact ⟨unseen, keyword :: front, own, behind, rfl, name,
          List.forall_mem_cons.mpr ⟨other, isFirst⟩, places⟩
      next isNew =>
        rcases List.mem_cons.mp present with rfl | inRest
        · refine ⟨fun inSeen => isNew (List.contains_iff_mem.mpr inSeen), [], keyword, rest, rfl, rfl,
            List.forall_mem_nil _, rfl, rfl⟩
        · obtain ⟨unseen, front, own, behind, rfl, name, isFirst, places⟩ :=
            inductionHypothesis inRest
          rw [List.mem_cons, not_or] at unseen
          exact ⟨unseen.2, keyword :: front, own, behind, rfl, name,
            List.forall_mem_cons.mpr ⟨Ne.symm unseen.1, isFirst⟩, places⟩

/-- A clause starts behind a keyword, and it ends in front of one or with the text. -/
theorem mem_clausesFrom
    {length : Nat}
    {seen : List Text}
    {keywords : List Occurrence}
    {clause : Clause}
    (present : clause ∈ clausesFrom length seen keywords) :
    (∃ keyword ∈ keywords, clause.start = keyword.stop) ∧
      (clause.stop = length ∨ ∃ keyword ∈ keywords, clause.stop = keyword.start) := by
  obtain ⟨-, front, keyword, behind, rfl, -, -, start, stop⟩ :=
    exists_keyword_of_mem_clausesFrom present
  refine ⟨⟨keyword, by simp, start⟩, ?_⟩
  cases behind with
  | nil => exact .inl stop
  | cons next others => exact .inr ⟨next, by simp, stop⟩

/-- A character of a word stands directly in front of a clause, and one stands directly behind it
unless the text ends there. -/
theorem ends_of_mem_clauses
    {masked : Text}
    {clause : Clause}
    (present : clause ∈ clauses masked) :
    (∃ index c, clause.start = index + 1 ∧ masked[index]? = some c ∧ Text.isWord c = true) ∧
      (clause.stop = masked.length ∨
        ∃ c, masked[clause.stop]? = some c ∧ Text.isWord c = true) := by
  obtain ⟨⟨first, inFirst, start⟩, stop⟩ := mem_clausesFrom present
  constructor
  · obtain ⟨lead, run, rest, rfl, nonempty, covered, -, stopEq, -⟩ :=
      Pattern.isStretch_of_mem_occurrences inFirst
    obtain ⟨isKeyword, -, -⟩ := covers_clauseKeyword.mp covered
    have last := isKeyword.isWord_ends.2
    rw [List.getLast?_eq_some_getLast nonempty] at last
    have positive := List.length_pos_iff.mpr nonempty
    refine ⟨lead.length + (run.length - 1), run.getLast nonempty, by omega, ?_, last⟩
    rw [List.getElem?_append_right (by omega), List.getElem?_append_left (by omega),
      Nat.add_sub_cancel_left, List.getLast_eq_getElem, List.getElem?_eq_getElem]
  · refine stop.imp_right ?_
    rintro ⟨next, inNext, stopEq⟩
    obtain ⟨lead, run, rest, rfl, nonempty, covered, startEq, -, -⟩ :=
      Pattern.isStretch_of_mem_occurrences inNext
    obtain ⟨isKeyword, -, -⟩ := covers_clauseKeyword.mp covered
    have first := isKeyword.isWord_ends.1
    obtain ⟨c, run, rfl⟩ := List.exists_cons_of_ne_nil nonempty
    refine ⟨c, ?_, first⟩
    rw [stopEq, startEq, Nat.zero_add, List.getElem?_append_right (Nat.le_refl _), Nat.sub_self]
    rfl

section

variable {length : Nat} {seen : List Text} {masked : Text} {keywords front behind : List Occurrence}
  {keyword : Occurrence}

/-! ## Occurrences of keywords -/

/-- The keyword of a clause takes characters. -/
theorem ne_nil_of_covers_clauseKeyword
    (before : Option Char)
    (run rest : Text)
    (covered : clauseKeyword.Covers before run rest) :
    run ≠ [] := by
  obtain ⟨isKeyword, -, -⟩ := covers_clauseKeyword.mp covered
  rintro rfl
  simpa using isKeyword.isWord_ends.1

theorem takesApart_keywords (masked : Text) :
    clauseKeyword.TakesApart none 0 masked (clauseKeyword.occurrences masked) :=
  Pattern.takesApart_occurrences ne_nil_of_covers_clauseKeyword masked

/-- The group of a keyword is all of it. -/
theorem groupText_keyword
    {place : Place}
    (found : clauseKeyword.occurrenceAt? place = some keyword) :
    keyword.groupText 1 = keyword.text := by
  have noGroups : (Pattern.all [.edge]).hasNoGroups = true := rfl
  obtain ⟨lead, tail, rest, -, isLead, -, isTail, text⟩ := Pattern.exists_groupText noGroups found
  obtain rfl : lead = [] := isLead.1
  obtain ⟨left, right, rfl, isLeft, isRight⟩ := isTail
  obtain rfl : left = [] := isLeft.1
  obtain rfl : right = [] := isRight
  simpa using text.symm

theorem groupText_eq_slice (present : keyword ∈ clauseKeyword.occurrences masked) :
    keyword.groupText 1 = Text.slice masked keyword.start keyword.stop := by
  obtain ⟨front, behind, split⟩ := List.append_of_mem present
  have apart := takesApart_keywords masked
  rw [split] at apart
  obtain ⟨lead, run, rest, rfl, -, -, found, start, stop, text, -⟩ := apart.exists_split
  rw [groupText_keyword found, text, start, stop, Nat.zero_add]
  exact (Text.slice_middle lead run rest).symm

/-! ## Gaps -/

/-- A gap between keywords holds none when it is taken by itself. -/
theorem not_occursIn_gap
    {before : Option Char}
    {gap rest : Text}
    (isQuiet : clauseKeyword.IsQuiet before gap rest)
    (edge : (gap ++ rest).head?.any Text.isWord = false)
    (edgeBehind : rest = [] ∨ (Text.lastOr before gap).any Text.isWord = false) :
    clauseKeyword.occursIn gap = false := by
  by_contra occurs
  rw [Bool.not_eq_false] at occurs
  obtain ⟨lead, run, others, rfl, covered⟩ := Pattern.occursIn_iff.mp occurs
  obtain ⟨isKeyword, outside, noWord⟩ := covers_clauseKeyword.mp covered
  obtain ⟨isWord, isWordAtEnd⟩ := isKeyword.isWord_ends
  obtain ⟨c, more, rfl⟩ := List.exists_cons_of_ne_nil (ne_nil_of_covers_clauseKeyword _ _ _ covered)
  -- The cuts leave the neighbours of the keyword as they are, or make no difference for it.
  have outsideThere : (Text.lastOr before lead).any Text.isWord = false := by
    cases lead with
    | nil => exact absurd (isWord.symm.trans edge) (by decide)
    | cons d lead => rwa [Text.lastOr_cons] at outside ⊢
  have noWordThere : (others ++ rest).head?.any Text.isWord = false := by
    cases others with
    | cons d others => exact noWord
    | nil =>
        rcases edgeBehind with rfl | edgeBehind
        · rfl
        · rw [List.append_nil, Text.lastOr_append, Text.lastOr,
            List.getLast?_eq_some_getLast (List.cons_ne_nil c more)] at edgeBehind
          rw [List.getLast?_eq_some_getLast (List.cons_ne_nil c more)] at isWordAtEnd
          exact absurd (isWordAtEnd.symm.trans edgeBehind) (by decide)
  exact isQuiet lead c (more ++ others) rfl (c :: more) (others ++ rest) (by simp)
    (covers_clauseKeyword.mpr ⟨isKeyword, outsideThere, noWordThere⟩)

/-- What stands between a keyword and the next one, or the end of the text, holds no keyword. -/
theorem exists_gap (split : clauseKeyword.occurrences masked = front ++ keyword :: behind) :
    ∃ lead gap rest, masked = lead ++ (gap ++ rest) ∧ keyword.stop = lead.length ∧
      (behind.head?.map (·.start)).getD masked.length = lead.length + gap.length ∧
      clauseKeyword.occursIn gap = false := by
  have apart := takesApart_keywords masked
  rw [split] at apart
  obtain ⟨lead, run, rest, rfl, -, covered, -, -, stop, -, further⟩ := apart.exists_split
  obtain ⟨-, -, edge⟩ := covers_clauseKeyword.mp covered
  have place : 0 + lead.length + run.length = (lead ++ run).length := by
    rw [List.length_append, Nat.zero_add]
  rw [place] at stop further
  cases further with
  | nothing isQuiet =>
      refine ⟨lead ++ run, rest, [], by simp, stop, by simp [Nat.add_assoc],
        not_occursIn_gap isQuiet ?_ (.inl rfl)⟩
      rwa [List.append_nil]
  | @next _ _ gap nextRun others next _ isQuiet _ _ nextCovered start _ _ _ =>
      obtain ⟨-, edgeBehind, -⟩ := covers_clauseKeyword.mp nextCovered
      exact ⟨lead ++ run, gap, nextRun ++ others, by simp, stop, start,
        not_occursIn_gap isQuiet edge (.inr edgeBehind)⟩

/-! ## The bodies of clauses -/

/-- The body of a clause is a stretch of the text that holds no keyword when it is taken by itself. -/
theorem body_of_mem_clauses
    {clause : Clause}
    (present : clause ∈ clauses masked) :
    clause.start ≤ clause.stop ∧ clause.stop ≤ masked.length ∧
      clauseKeyword.occursIn (clause.body masked) = false := by
  obtain ⟨-, front, keyword, behind, split, -, -, start, stop⟩ :=
    exists_keyword_of_mem_clausesFrom present
  obtain ⟨lead, gap, rest, whole, keywordStop, gapStop, noKeyword⟩ := exists_gap split
  have startEq : clause.start = lead.length := start.trans keywordStop
  have stopEq : clause.stop = lead.length + gap.length := stop.trans gapStop
  have inside : clause.stop ≤ masked.length := by
    rw [stopEq, whole]
    simp
  have body : clause.body masked = gap := by
    rw [Clause.body, startEq, stopEq, whole, Text.slice_middle]
  refine ⟨by omega, inside, ?_⟩
  rw [body]
  exact noKeyword

/-- Clauses have different names, and they stand one behind the other. -/
theorem pairwise_clausesFrom
    (ordered : keywords.Pairwise fun first second => first.stop ≤ second.start)
    (nonempty : ∀ keyword ∈ keywords, keyword.start < keyword.stop) :
    (clausesFrom length seen keywords).Pairwise fun first second =>
      first.name ≠ second.name ∧ first.stop < second.start := by
  induction keywords generalizing seen with
  | nil => exact .nil
  | cons keyword rest inductionHypothesis =>
      have later {seen : List Text} := @inductionHypothesis seen ordered.of_cons
        fun keyword present => nonempty keyword (.tail _ present)
      rw [clausesFrom]
      split
      · exact later
      · refine .cons (fun clause present => ?_) later
        obtain ⟨unseen, front, own, behind, restEq, -, -, start, -⟩ :=
          exists_keyword_of_mem_clausesFrom present
        have isOwn : own ∈ rest := by simp [restEq]
        have ownNonempty := nonempty own (.tail _ isOwn)
        rw [List.mem_cons, not_or] at unseen
        refine ⟨Ne.symm unseen.1, ?_⟩
        cases rest with
        | nil => exact absurd isOwn List.not_mem_nil
        | cons next others =>
            change next.start < clause.start
            rw [start]
            rcases List.mem_cons.mp isOwn with rfl | inOthers
            · exact ownNonempty
            · have nextNonempty := nonempty next (.tail _ (.head _))
              have nextOrdered := List.rel_of_pairwise_cons ordered.of_cons inOthers
              omega

/-- Every keyword has a clause of its name. -/
theorem exists_mem_clausesFrom
    (present : keyword ∈ keywords)
    (unseen : clauseName (keyword.groupText 1) ∉ seen) :
    ∃ clause ∈ clausesFrom length seen keywords, clause.name = clauseName (keyword.groupText 1) := by
  induction keywords generalizing seen with
  | nil => exact absurd present List.not_mem_nil
  | cons first rest inductionHypothesis =>
      by_cases same : clauseName (first.groupText 1) = clauseName (keyword.groupText 1)
      · have isNew : seen.contains (clauseName (first.groupText 1)) = false := by
          rw [Bool.eq_false_iff, same]
          exact fun inSeen => unseen (List.contains_iff_mem.mp inSeen)
        simp only [clausesFrom, isNew]
        exact ⟨_, .head _, same⟩
      · have inRest : keyword ∈ rest := by
          rcases List.mem_cons.mp present with rfl | inRest
          · exact absurd rfl same
          · exact inRest
        rw [clausesFrom]
        split
        · exact inductionHypothesis inRest unseen
        · obtain ⟨clause, isClause, name⟩ := inductionHypothesis inRest
            (List.not_mem_cons_of_ne_of_not_mem (Ne.symm same) unseen)
          exact ⟨clause, .tail _ isClause, name⟩

/-- The bodies of clauses are disjoint and maximal. A body starts right behind the first keyword of its
name, and it ends where the next keyword of any clause starts, or with the text. The bodies are listed
in order, with different names, one for the name of each keyword; between two of them there is a
keyword. No body holds a keyword, also when it is taken by itself. -/
theorem clauses_disjoint_maximal (masked : Text) :
    let keywords := clauseKeyword.occurrences masked
    (keywords.Pairwise fun first second => first.stop ≤ second.start) ∧
    (∀ keyword ∈ keywords, keyword.start < keyword.stop ∧ keyword.stop ≤ masked.length ∧
      keyword.groupText 1 = Text.slice masked keyword.start keyword.stop ∧
      ∃ clause ∈ clauses masked, clause.name = clauseName (keyword.groupText 1)) ∧
    (∀ clause ∈ clauses masked,
      clause.start ≤ clause.stop ∧ clause.stop ≤ masked.length ∧
      (∃ front keyword behind, keywords = front ++ keyword :: behind ∧
        clauseName (keyword.groupText 1) = clause.name ∧
        (∀ earlier ∈ front, clauseName (earlier.groupText 1) ≠ clause.name) ∧
        clause.start = keyword.stop ∧
        clause.stop = (behind.head?.map (·.start)).getD masked.length) ∧
      clauseKeyword.occursIn (clause.body masked) = false) ∧
    (clauses masked).Pairwise fun first second =>
      first.name ≠ second.name ∧ first.stop < second.start := by
  have apart := takesApart_keywords masked
  refine ⟨apart.pairwise, fun keyword present => ?_, fun clause present => ?_, ?_⟩
  · obtain ⟨-, nonempty, inside⟩ := apart.bounds present
    rw [Nat.zero_add] at inside
    exact ⟨nonempty, inside, groupText_eq_slice present,
      exists_mem_clausesFrom present List.not_mem_nil⟩
  · obtain ⟨-, owner⟩ := exists_keyword_of_mem_clausesFrom present
    obtain ⟨ordered, inside, noKeyword⟩ := body_of_mem_clauses present
    exact ⟨ordered, inside, owner, noKeyword⟩
  · exact pairwise_clausesFrom apart.pairwise fun keyword present => (apart.bounds present).2.1

/-- The branches of a union: the keywords of the second one end the bodies in front of them, but have
no bodies of their own. -/
theorem clauses_disjoint_maximal_union :
    let masked : Text := "select a Union select b group\n by c union select d"
    let union : Clause := ⟨"union", 14, 15⟩
    let grouping : Clause := ⟨"group by", 33, 36⟩
    clauses masked = [⟨"select", 6, 9⟩, union, grouping] ∧ union.name ≠ grouping.name ∧
      union.stop < grouping.start ∧ grouping.stop ≤ masked.length ∧
      clauseKeyword.occursIn (grouping.body masked) = false := by
  intro masked union grouping
  have found : clauses masked = [⟨"select", 6, 9⟩, union, grouping] := by decide +kernel
  obtain ⟨-, -, each, apart⟩ := clauses_disjoint_maximal masked
  obtain ⟨-, inside, -, noKeyword⟩ := each grouping (by rw [found]; simp)
  rw [found, List.pairwise_cons, List.pairwise_pair] at apart
  exact ⟨found, apart.2.1, apart.2.2, inside, noKeyword⟩

end

end Query
end SqlReview
