import SqlReview.Proofs.Literals.Scans
import SqlReview.Proofs.Literals.Views
import SqlReview.Proofs.Query.ListSpans
import SqlReview.Proofs.Query.Projection

/-!
# Select lists that read the same

The items of a select list are cut out of its text at places of the mask. White space of the mask can be
the inside of a literal, but an item neither starts nor ends inside a literal that closes: in front of an
item everything is closed, and a literal that is open behind an item stays open. So the items of lists
that read the same read the same, and both lists call an aggregate or neither.
-/

namespace SqlReview
namespace Query

variable {text other front back run rest : Text} {depth : Depth}

/-! ## The last character of the mask -/

/-- The last character of a text that is no white space. -/
def lastShown (text : Text) : Option Char :=
  text.reverse.find? (!Text.isBlank ·)

theorem lastShown_append (first second : Text) :
    lastShown (first ++ second) = (lastShown second).or (lastShown first) := by
  rw [lastShown, List.reverse_append, List.find?_append]
  rfl

theorem lastShown_cons
    (c : Char)
    (text : Text) :
    lastShown (c :: text) = (lastShown text).or (if Text.isBlank c then none else some c) := by
  rw [← List.singleton_append, lastShown_append]
  cases blank : Text.isBlank c <;> simp [lastShown, blank]

theorem lastShown_of_blank (blank : ∀ c ∈ text, Text.isBlank c = true) :
    lastShown text = none := by
  rw [lastShown, List.find?_eq_none]
  intro c present
  simp [blank c (List.mem_reverse.mp present)]

/-- Whether the last character of a text, white space aside, opens nothing. -/
def EndsShut (text : Text) : Prop :=
  ∀ c, lastShown text = some c → c ≠ '\'' ∧ c ≠ '('

theorem EndsShut.append
    (shut : EndsShut front)
    (shutBehind : EndsShut back) :
    EndsShut (front ++ back) := by
  intro c last
  rw [lastShown_append, Option.or_eq_some_iff] at last
  rcases last with behind | ⟨-, before⟩
  · exact shutBehind c behind
  · exact shut c before

theorem endsShut_of_blank (blank : ∀ c ∈ text, Text.isBlank c = true) :
    EndsShut text := by
  intro c last
  rw [lastShown_of_blank blank] at last
  exact absurd last (by simp)

/-- What is still open behind a text is opened by the last character that the mask shows. -/
theorem lastShown_of_open
    (isOpen : depth.after text ≠ .outermost) :
    (∃ c, lastShown (maskFrom depth text) = some c ∧ (c = '\'' ∨ c = '(')) ∨
      depth ≠ .outermost ∧ lastShown (maskFrom depth text) = none := by
  induction text generalizing depth with
  | nil => exact .inr ⟨isOpen, rfl⟩
  | cons c text inductionHypothesis =>
      rw [Depth.after_cons] at isOpen
      rw [maskFrom_cons, lastShown_cons]
      rcases inductionHypothesis isOpen with ⟨d, last, opens⟩ | ⟨stepOpen, none⟩
      · exact .inl ⟨d, by rw [last]; rfl, opens⟩
      · rw [none, Option.none_or]
        obtain ⟨level, inLiteral⟩ := depth
        have hidden (isHidden : Depth.shows ⟨level, inLiteral⟩ c = false) :
            (if Text.isBlank (if Depth.shows ⟨level, inLiteral⟩ c then c else ' ') then Option.none
              else some (if Depth.shows ⟨level, inLiteral⟩ c then c else ' ')) = Option.none := by
          rw [isHidden]
          rfl
        rcases char_cases c inLiteral with rfl | ⟨noQuote, rfl⟩ | ⟨rfl, rfl⟩ | ⟨rfl, rfl⟩ |
          ⟨noQuote, noOpen, noClose, rfl⟩
        · by_cases onTop : level = 0
          · subst onTop
            exact .inl ⟨'\'', rfl, .inl rfl⟩
          · exact .inr ⟨by simp [Depth.outermost, onTop], hidden (by simp [Depth.shows, onTop])⟩
        · exact .inr ⟨by simp [Depth.outermost], hidden (by simp [Depth.shows, noQuote])⟩
        · by_cases onTop : level = 0
          · subst onTop
            exact .inl ⟨'(', rfl, .inr rfl⟩
          · exact .inr ⟨by simp [Depth.outermost, onTop], hidden (by simp [Depth.shows, onTop])⟩
        · have nested : 1 < level := by
            by_contra shallow
            exact stepOpen (by simp [Depth.step, Depth.outermost]; omega)
          exact .inr ⟨by simp [Depth.outermost]; omega, hidden (by simp [Depth.shows]; omega)⟩
        · have nested : level ≠ 0 := by
            rintro rfl
            exact stepOpen (by simp [Depth.step, Depth.outermost, noQuote, noOpen, noClose])
          exact .inr ⟨by simp [Depth.outermost, nested],
            hidden (by simp [Depth.shows, noQuote, noClose, nested])⟩

/-- A beginning of the mask that ends shut leaves nothing open. -/
theorem after_take_of_endsShut
    (split : mask text = front ++ back)
    (shut : EndsShut front) :
    Depth.outermost.after (text.take front.length) = .outermost := by
  by_contra isOpen
  have taken : mask (text.take front.length) = front := by
    have whole := congrArg (List.take front.length) split
    rw [List.take_left] at whole
    exact (take_maskFrom .outermost text front.length).symm.trans whole
  rcases lastShown_of_open isOpen with ⟨c, last, opens⟩ | ⟨notOutermost, -⟩
  · rw [show maskFrom .outermost (text.take front.length) = front from taken] at last
    obtain ⟨noQuote, noOpen⟩ := shut c last
    exact opens.elim noQuote noOpen
  · exact notOutermost rfl

/-- A literal of the top level shows its closing quote first. -/
theorem find?_maskFrom_inLiteral
    (closes : '\'' ∈ text) :
    (maskFrom ⟨0, true⟩ text).find? (!Text.isBlank ·) = some '\'' := by
  induction text with
  | nil => exact absurd closes List.not_mem_nil
  | cons c text inductionHypothesis =>
      by_cases quote : c = '\''
      · subst quote
        rfl
      · have inside := inductionHypothesis ((List.mem_cons.mp closes).resolve_left (Ne.symm quote))
        have stays : Depth.step ⟨0, true⟩ c = ⟨0, true⟩ := by simp [Depth.step, quote]
        have hidden : Depth.shows ⟨0, true⟩ c = false := by simp [Depth.shows, quote]
        rw [maskFrom_cons, hidden, stays]
        exact inside

/-- A place directly behind a character of the mask is not inside a literal that closes, unless the
closing quote is the next character of the mask. -/
theorem not_inClosedLiteral_of_shown
    {c : Char}
    (split : mask text = front ++ c :: back)
    (noBlank : Text.isBlank c = false)
    (next : back.find? (!Text.isBlank ·) ≠ some '\'') :
    ¬InClosedLiteral text (front.length + 1) := by
  rintro ⟨opens, closes⟩
  have here : (mask text)[front.length]? = some c := by
    rw [split, List.getElem?_append_right (Nat.le_refl _), Nat.sub_self]
    rfl
  rw [mask, getElem?_maskFrom, Option.map_eq_some_iff] at here
  obtain ⟨d, isHere, shown⟩ := here
  have behind : maskFrom (Depth.outermost.after (text.take (front.length + 1)))
      (text.drop (front.length + 1)) = back := by
    rw [← drop_maskFrom, ← mask, split, List.drop_length_add_append]
    rfl
  have inLiteral := inLiteral_after .outermost (text.take (front.length + 1))
  rw [show Depth.outermost.inLiteral = false from rfl, opens] at inLiteral
  have afterHere : Depth.outermost.after (text.take (front.length + 1)) =
      (Depth.outermost.after (text.take front.length)).step d := by
    rw [List.take_add_one, isHere, Depth.after_append]
    rfl
  rw [afterHere] at behind inLiteral
  generalize Depth.outermost.after (text.take front.length) = depth at *
  obtain ⟨level, wasInLiteral⟩ := depth
  split at shown
  next shows =>
      by_cases quote : d = '\''
      · subst quote
        obtain rfl : level = 0 := by simpa [Depth.shows] using shows
        have opened : Depth.step ⟨0, wasInLiteral⟩ '\'' = ⟨0, true⟩ := by
          rw [Depth.inLiteral_step, if_pos rfl] at inLiteral
          rw [Depth.step, if_pos rfl, inLiteral]
        rw [opened] at behind
        rw [← behind] at next
        exact next (find?_maskFrom_inLiteral closes)
      · rw [Depth.inLiteral_step, if_neg quote] at inLiteral
        obtain rfl : wasInLiteral = true := inLiteral
        simp [Depth.shows, quote] at shows
  · rw [← shown] at noBlank
    exact absurd noBlank (by decide)

/-! ## Cutting a list into items -/

/-- In front of an item nothing is open. -/
theorem after_take_start_of_mem_spans
    {span : Span}
    (present : span ∈ spans (mask text)) :
    Depth.outermost.after (text.take span.start) = .outermost := by
  obtain ⟨lead, blanks, item, closing, behind, split, leads, -, blank, -, -, -, -, rfl⟩ :=
    exists_of_mem_spansFrom (.inl rfl) present
  rw [List.nil_append, ← List.append_assoc] at split
  have shut : EndsShut (lead ++ blanks) := by
    refine .append ?_ (endsShut_of_blank blank)
    rcases leads with rfl | comma
    · exact endsShut_of_blank (List.forall_mem_nil _)
    · obtain ⟨init, rfl⟩ := List.getLast?_eq_some_iff.mp comma
      intro d last
      rw [lastShown_append, show lastShown [','] = some ',' from rfl] at last
      obtain rfl : ',' = d := Option.some.inj last
      decide
  rw [← List.length_append]
  exact after_take_of_endsShut split shut

/-- An item ends with a character of the top level that is no white space; behind it, white space
aside, stands a comma or nothing. -/
theorem exists_last_of_mem_spans
    {masked : Text}
    {span : Span}
    (present : span ∈ spans masked) :
    ∃ front c back, masked = front ++ c :: back ∧ span.stop = front.length + 1 ∧
      span.start ≤ front.length ∧ Text.isBlank c = false ∧
      ∀ d, back.find? (!Text.isBlank ·) = some d → d = ',' := by
  obtain ⟨lead, blanks, item, closing, behind, split, -, behindEq, -, blankClosing, -,
    ⟨c, last, noBlank⟩, -, rfl⟩ := exists_of_mem_spansFrom (.inl rfl) present
  obtain ⟨init, rfl⟩ := List.getLast?_eq_some_iff.mp last
  refine ⟨lead ++ (blanks ++ init), c, closing ++ behind, ?_, by simp [Nat.add_assoc],
    by simp [← Nat.add_assoc], noBlank, fun d next => ?_⟩
  · rw [List.nil_append] at split
    rw [split]
    simp
  · have nothing : closing.find? (!Text.isBlank ·) = none := by
      rw [List.find?_eq_none]
      intro d present
      simp [blankClosing d present]
    rw [List.find?_append, nothing, Option.none_or] at next
    rcases behindEq with rfl | comma
    · exact absurd next (by simp)
    · obtain ⟨more, rfl⟩ := List.head?_eq_some_iff.mp comma
      rw [List.find?_cons_of_pos (by decide)] at next
      exact (Option.some.inj next).symm

/-- An item of a list neither starts nor ends inside a literal that closes. -/
theorem not_inClosedLiteral_of_mem_spans
    {span : Span}
    (present : span ∈ spans (mask text)) :
    ¬InClosedLiteral text span.start ∧ ¬InClosedLiteral text span.stop := by
  refine ⟨not_inClosedLiteral_of_after (after_take_start_of_mem_spans present), ?_⟩
  obtain ⟨front, c, back, split, stop, -, noBlank, next⟩ := exists_last_of_mem_spans present
  rw [stop]
  exact not_inClosedLiteral_of_shown split noBlank fun quote => absurd (next _ quote) (by decide)

/-- The items of lists that read the same read the same. -/
theorem SameReading.forall₂_items (same : SameReading text other) :
    List.Forall₂ SameReading (items text (mask text)) (items other (mask text)) := by
  rw [items, items, List.forall₂_map_left_iff, List.forall₂_map_right_iff, List.forall₂_same]
  intro span present
  obtain ⟨outside, outsideAfter⟩ := not_inClosedLiteral_of_mem_spans present
  exact same.slice outside outsideAfter

end Query
end SqlReview
