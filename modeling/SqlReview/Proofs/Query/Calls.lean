import SqlReview.Proofs.Query.Projection

/-!
# Calls and parentheses

A call is a name in front of a parenthesis. Between the two there is white space only, so what stands
inside parentheses calls the same functions as it does alone: a text with a parenthesised stretch holds a
call just if the text in front of it, the stretch or the text behind it does.
-/

namespace SqlReview
namespace Query

variable {names : List Text} {text front back : Text} {c : Char}

/-! ## Calls -/

/-- Whether a name is made of small letters and underscores. -/
def IsFunctionName (name : Text) : Prop :=
  name ≠ [] ∧ name.all (fun c => ('a' ≤ c && c ≤ 'z') || c = '_') = true

instance (name : Text) : Decidable (IsFunctionName name) :=
  inferInstanceAs (Decidable (_ ∧ _))

theorem IsFunctionName.isWord_of_mem
    {name function : Text}
    (isName : IsFunctionName name)
    (folds : function.map Text.foldLetter = name)
    (present : c ∈ function) :
    Text.isWord c = true := by
  have sign := List.all_eq_true.mp isName.2 _ (folds ▸ List.mem_map_of_mem present)
  rw [Bool.or_eq_true, decide_eq_true_eq, Bool.and_eq_true, decide_eq_true_eq,
    decide_eq_true_eq] at sign
  rcases sign with isLetter | isUnderscore
  · exact Text.isWord_of_foldLetter isLetter
  · obtain rfl := Text.eq_of_foldLetter isUnderscore (by decide)
    decide

/-- Whether a text holds one of several names in front of a parenthesis. -/
def HoldsCall (names : List Text) (text : Text) : Prop :=
  ∃ lead function blanks rest, text = lead ++ (function ++ blanks ++ '(' :: rest) ∧
    lead.getLast?.any Text.isWord = false ∧ function.map Text.foldLetter ∈ names ∧
    ∀ c ∈ blanks, Text.isBlank c = true

/-- A pattern of calls occurs in the texts that hold one of its calls. -/
theorem occursIn_iff_holdsCall
    {name : Pattern}
    {others : List Pattern}
    (isName : ∀ before run rest, name.Covers before run rest ↔ run.map Text.foldLetter ∈ names)
    (areNames : ∀ name ∈ names, IsFunctionName name)
    (nullable : ∀ before rest, (Pattern.all others).Covers before [] rest) :
    (Pattern.all (.edge :: name :: .blanks :: .char '(' :: others)).occursIn text = true ↔
      HoldsCall names text := by
  have isEdge {function : Text} (listed : function.map Text.foldLetter ∈ names) (lead rest : Text) :
      Pattern.edge.Covers (Text.lastOr none lead) [] (function ++ rest) ↔
        lead.getLast?.any Text.isWord = false := by
    obtain ⟨c, more, rfl⟩ : ∃ c more, function = c :: more :=
      List.exists_cons_of_ne_nil fun empty => (areNames _ listed).1 (by rw [empty]; rfl)
    have isWord : Text.isWord c = true := (areNames _ listed).isWord_of_mem rfl (.head _)
    have last : Text.lastOr none lead = lead.getLast? := by
      rw [Text.lastOr, Option.or_none]
    simp [Pattern.covers_edge, last, isWord]
  rw [Pattern.occursIn_iff]
  constructor
  · rintro ⟨lead, _, rest, rfl, covered⟩
    obtain ⟨_, _, rfl, atEdge, covered⟩ := Pattern.covers_all_cons.mp covered
    obtain ⟨function, _, rfl, isFunction, covered⟩ := Pattern.covers_all_cons.mp covered
    obtain ⟨blanks, _, rfl, blank, covered⟩ := Pattern.covers_blanks_cons.mp covered
    obtain ⟨more, rfl, -⟩ := Pattern.covers_char_cons.mp covered
    have listed := (isName _ _ _).mp isFunction
    obtain ⟨rfl, -⟩ := id atEdge
    refine ⟨lead, function, blanks, more ++ rest, by simp, ?_, listed, blank⟩
    rw [← isEdge listed lead (blanks ++ '(' :: more ++ rest)]
    simpa using atEdge
  · rintro ⟨lead, function, blanks, rest, rfl, outside, listed, blank⟩
    refine ⟨lead, function ++ blanks ++ ['('], rest, by simp, ?_⟩
    refine Pattern.covers_all_cons.mpr ⟨[], _, rfl, ?_, Pattern.covers_all_cons.mpr
      ⟨function, blanks ++ ['('], by simp, (isName _ _ _).mpr listed,
        Pattern.covers_blanks_cons.mpr ⟨blanks, _, rfl, blank,
          Pattern.covers_char_cons.mpr ⟨[], rfl, nullable _ _⟩⟩⟩⟩
    have atEdge := (isEdge listed lead (blanks ++ '(' :: rest)).mpr outside
    simpa using atEdge

theorem occursIn_aggregateCall_iff :
    aggregateCall.occursIn text = true ↔ HoldsCall aggregateNames text := by
  refine occursIn_iff_holdsCall (fun before run rest => ?_) (by decide) fun before rest => ?_
  · rw [Pattern.Covers, Pattern.covers_any (by decide)]
    simp [Pattern.covers_letters]
  · exact Pattern.covers_blanks_cons.mpr ⟨[], _, rfl, List.forall_mem_nil _, [], [], rfl, .inr rfl,
      rfl⟩

theorem occursIn_windowKeyword_iff :
    windowKeyword.occursIn text = true ↔ HoldsCall ["over"] text := by
  refine occursIn_iff_holdsCall (fun before run rest => ?_) (by decide) fun before rest => rfl
  rw [Pattern.covers_letters, List.mem_singleton]

/-! ## Parentheses -/

theorem isWord_last_append_cons
    (noWord : Text.isWord c = false)
    (front back : Text) :
    (front ++ c :: back).getLast?.any Text.isWord = back.getLast?.any Text.isWord := by
  rw [List.getLast?_append_of_ne_nil _ (List.cons_ne_nil c back)]
  cases back with
  | nil => exact noWord
  | cons d back => rw [List.getLast?_cons_cons]

/-- No call reaches over a character that is neither white space nor part of a word, except for a
parenthesis at its end. -/
theorem holdsCall_append_cons
    (areNames : ∀ name ∈ names, IsFunctionName name)
    (noWord : Text.isWord c = false)
    (noBlank : Text.isBlank c = false) :
    HoldsCall names (front ++ c :: back) ↔ HoldsCall names (front ++ [c]) ∨ HoldsCall names back := by
  constructor
  · rintro ⟨lead, function, blanks, rest, split, outside, listed, blank⟩
    have absent : c ∉ function ++ blanks := by
      rw [List.mem_append, not_or]
      constructor
      · intro present
        exact absurd (noWord.symm.trans ((areNames _ listed).isWord_of_mem rfl present)) (by decide)
      · intro present
        exact absurd (noBlank.symm.trans (blank c present)) (by decide)
    have nonempty : function ++ blanks ≠ [] := fun empty =>
      (areNames _ listed).1 (by rw [(List.append_eq_nil_iff.mp empty).1]; rfl)
    rcases List.append_eq_append_iff.mp split with ⟨more, leadEq, behind⟩ | ⟨more, frontEq, behind⟩
    · -- The call starts behind the front, and not with the character itself.
      cases more with
      | nil =>
          obtain ⟨d, others, core⟩ := List.exists_cons_of_ne_nil nonempty
          rw [core] at behind
          obtain rfl : c = d := (List.cons.inj behind).1
          exact absurd (by rw [core]; exact .head _) absent
      | cons d more =>
          obtain ⟨rfl, backEq⟩ := List.cons.inj behind
          rw [leadEq, isWord_last_append_cons noWord] at outside
          exact .inr ⟨more, function, blanks, rest, backEq, outside, listed, blank⟩
    · -- The call starts in the front, and its parenthesis is the character or stands before it.
      rcases List.append_eq_append_iff.mp behind with ⟨others, moreEq, opening⟩ |
        ⟨others, core, opening⟩
      · left
        cases others with
        | nil =>
            obtain ⟨rfl, rfl⟩ := List.cons.inj opening
            exact ⟨lead, function, blanks, [], by simp [frontEq, moreEq], outside, listed, blank⟩
        | cons d others =>
            obtain ⟨rfl, -⟩ := List.cons.inj opening
            exact ⟨lead, function, blanks, others ++ [c], by simp [frontEq, moreEq], outside, listed,
              blank⟩
      · cases others with
        | nil =>
            obtain ⟨rfl, rfl⟩ := List.cons.inj opening
            exact .inl ⟨lead, function, blanks, [], by simp [frontEq, core], outside, listed, blank⟩
        | cons d others =>
            obtain ⟨rfl, -⟩ := List.cons.inj opening
            exact absurd (by rw [core]; simp) absent
  · rintro (⟨lead, function, blanks, rest, split, holds⟩ | ⟨lead, function, blanks, rest, rfl, outside,
      holds⟩)
    · refine ⟨lead, function, blanks, rest ++ back, ?_, holds⟩
      have whole := congrArg (· ++ back) split
      simpa using whole
    · rw [← isWord_last_append_cons noWord front] at outside
      exact ⟨front ++ c :: lead, function, blanks, rest, by simp, outside, holds⟩

/-- A call does not end with another character than its parenthesis. -/
theorem holdsCall_append_singleton
    (noOpen : c ≠ '(') :
    HoldsCall names (front ++ [c]) ↔ HoldsCall names front := by
  constructor
  · rintro ⟨lead, function, blanks, rest, split, holds⟩
    rcases List.eq_nil_or_concat rest with rfl | ⟨rest, d, rfl⟩
    · have last := congrArg List.getLast? split
      rw [← List.append_assoc, List.getLast?_concat, List.getLast?_concat] at last
      exact absurd (Option.some.inj last) noOpen
    · refine ⟨lead, function, blanks, rest, ?_, holds⟩
      have regrouped : front ++ [c] = lead ++ (function ++ blanks ++ '(' :: rest) ++ [d] := by
        simpa using split
      exact (List.append_inj' regrouped rfl).1
  · rintro ⟨lead, function, blanks, rest, rfl, holds⟩
    exact ⟨lead, function, blanks, rest ++ [c], by simp, holds⟩

/-- What stands in parentheses calls what it calls when it stands alone. -/
theorem holdsCall_enclosed
    (areNames : ∀ name ∈ names, IsFunctionName name)
    (body : Text) :
    HoldsCall names (front ++ '(' :: (body ++ ')' :: back)) ↔
      HoldsCall names (front ++ ['(']) ∨ HoldsCall names body ∨ HoldsCall names back := by
  have inside : HoldsCall names (body ++ ')' :: back) ↔ HoldsCall names body ∨ HoldsCall names back := by
    rw [holdsCall_append_cons areNames (by decide) (by decide), holdsCall_append_singleton (by decide)]
  rw [holdsCall_append_cons areNames (by decide) (by decide), inside]

end Query
end SqlReview
