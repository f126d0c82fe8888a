import Mathlib.Data.List.Basic
import SqlReview.Proofs.Text.Cutting
import SqlReview.Proofs.Text.Layout
import SqlReview.Query.Items

/-!
# The items of a list

The items of a list are what is left of the pieces between its commas. Nothing else of the list is left
out than commas and the white space around them. Main statement: the spans of the items stand apart from
each other with commas between them, every character that is neither a comma nor white space belongs to
exactly one of them, and a walk over the list that reads it place by place finds these spans and never
reads beyond its ends.
-/

namespace SqlReview
namespace Query

variable {front piece behind text masked : Text} {span : Span} {offset index : Nat} {c : Char}

/-! ## Pieces -/

/-- The span of an item between white space. -/
theorem pieceSpan?_enclosed
    {lead item closing : Text}
    (leadBlank : lead.isAllBlank = true)
    (closingBlank : closing.isAllBlank = true)
    (nonempty : item ≠ [])
    (ends : item.head?.any Text.isBlank = false ∧ item.getLast?.any Text.isBlank = false)
    (offset : Nat) :
    pieceSpan? offset (lead ++ (item ++ closing)) =
      some ⟨offset + lead.length, offset + lead.length + item.length⟩ := by
  have blanks : (lead ++ (item ++ closing)).takeWhile Text.isBlank = lead := by
    obtain ⟨c, item, rfl⟩ := List.exists_cons_of_ne_nil nonempty
    have noBlank : ¬Text.isBlank c = true := by simpa using ends.1
    rw [Text.isAllBlank, List.all_eq_true] at leadBlank
    rw [List.takeWhile_append_of_pos leadBlank, List.cons_append, List.takeWhile_cons_of_neg noBlank,
      List.append_nil]
  rw [pieceSpan?, blanks, Text.trim_enclosed leadBlank closingBlank ends]
  simp [nonempty]

/-- A piece has no item just if it is blank. -/
theorem pieceSpan?_eq_none_iff :
    pieceSpan? offset piece = none ↔ Text.trim piece = [] := by
  simp [pieceSpan?]

/-- The item of a piece is its trimmed form, and stands between white space. -/
theorem exists_of_pieceSpan?
    (found : pieceSpan? offset piece = some span) :
    ∃ lead item closing, piece = lead ++ (item ++ closing) ∧ item = Text.trim piece ∧
      (∀ c ∈ lead, Text.isBlank c = true) ∧ (∀ c ∈ closing, Text.isBlank c = true) ∧
      (∃ c, item.head? = some c ∧ Text.isBlank c = false) ∧
      (∃ c, item.getLast? = some c ∧ Text.isBlank c = false) ∧
      span = ⟨offset + lead.length, offset + lead.length + item.length⟩ := by
  obtain ⟨lead, closing, whole, leadBlank, closingBlank⟩ := Text.exists_trim piece
  obtain ⟨starts, ends⟩ := Text.ends_trimWhere Text.isBlank piece
  have nonempty : Text.trim piece ≠ [] := fun nothing => by
    rw [pieceSpan?_eq_none_iff.mpr nothing] at found
    exact absurd found (by simp)
  have spanEq := pieceSpan?_enclosed (List.all_eq_true.mpr leadBlank)
    (List.all_eq_true.mpr closingBlank) nonempty ⟨starts, ends⟩ offset
  rw [← whole, found] at spanEq
  change (Text.trim piece).head?.any Text.isBlank = false at starts
  change (Text.trim piece).getLast?.any Text.isBlank = false at ends
  rw [List.head?_eq_some_head nonempty] at starts
  rw [List.getLast?_eq_some_getLast nonempty] at ends
  exact ⟨lead, Text.trim piece, closing, whole, rfl, leadBlank, closingBlank,
    ⟨_, List.head?_eq_some_head nonempty, starts⟩, ⟨_, List.getLast?_eq_some_getLast nonempty, ends⟩,
    Option.some.inj spanEq⟩

/-- What is no white space in a piece belongs to its item. -/
theorem exists_pieceSpan?_of_getElem?
    (here : piece[index]? = some c)
    (noBlank : Text.isBlank c = false)
    (offset : Nat) :
    ∃ span, pieceSpan? offset piece = some span ∧
      span.start ≤ offset + index ∧ offset + index < span.stop := by
  cases found : pieceSpan? offset piece with
  | none =>
      have blank := Text.trim_eq_nil_iff.mp (pieceSpan?_eq_none_iff.mp found)
      rw [Text.isAllBlank, List.all_eq_true] at blank
      exact absurd ((blank c (List.mem_of_getElem? here)).symm.trans noBlank) (by decide)
  | some span =>
      refine ⟨span, rfl, ?_⟩
      obtain ⟨lead, item, closing, rfl, -, leadBlank, closingBlank, -, -, rfl⟩ :=
        exists_of_pieceSpan? found
      have notIn {blanks : Text} (blank : ∀ c ∈ blanks, Text.isBlank c = true) : c ∉ blanks :=
        fun present => absurd ((blank c present).symm.trans noBlank) (by decide)
      by_contra outside
      rcases Nat.lt_or_ge index lead.length with before | behindLead
      · rw [List.getElem?_append_left before] at here
        exact notIn leadBlank (List.mem_of_getElem? here)
      · have behindItem : item.length ≤ index - lead.length := by
          simp only [not_and_or] at outside
          omega
        rw [List.getElem?_append_right behindLead, List.getElem?_append_right behindItem] at here
        exact notIn closingBlank (List.mem_of_getElem? here)

/-! ## Spans -/

/-- The place behind the comma behind a piece. -/
theorem length_past_comma (front piece : Text) :
    (front ++ (piece ++ [','])).length = front.length + piece.length + 1 := by
  simp [Nat.add_assoc]

theorem append_past_comma (front piece rest : Text) :
    front ++ (piece ++ [',']) ++ rest = front ++ (piece ++ ',' :: rest) := by
  simp

/-- The spans of a list from its first piece on. -/
theorem spansFrom_append_cons
    (absent : ',' ∉ piece)
    (offset : Nat)
    (rest : Text) :
    spansFrom offset (Text.splitAt ',' (piece ++ ',' :: rest)) =
      (pieceSpan? offset piece).toList ++
        spansFrom (offset + piece.length + 1) (Text.splitAt ',' rest) := by
  rw [Text.splitAt_append_cons absent, spansFrom]

/-- The spans of a list that is one piece. -/
theorem spansFrom_of_not_mem
    (absent : ',' ∉ piece)
    (offset : Nat) :
    spansFrom offset (Text.splitAt ',' piece) = (pieceSpan? offset piece).toList := by
  rw [Text.splitAt_of_not_mem absent, spansFrom, spansFrom, List.append_nil]

/-- An item stands between blanks, and those between commas or the ends of the list. -/
theorem exists_of_mem_spansFrom
    (leads : front = [] ∨ front.getLast? = some ',')
    (present : span ∈ spansFrom front.length (Text.splitAt ',' text)) :
    ∃ lead blanks item closing behind,
      front ++ text = lead ++ (blanks ++ (item ++ (closing ++ behind))) ∧
        (lead = [] ∨ lead.getLast? = some ',') ∧ (behind = [] ∨ behind.head? = some ',') ∧
        (∀ c ∈ blanks, Text.isBlank c = true) ∧ (∀ c ∈ closing, Text.isBlank c = true) ∧
        (∃ c, item.head? = some c ∧ Text.isBlank c = false) ∧
        (∃ c, item.getLast? = some c ∧ Text.isBlank c = false) ∧ ',' ∉ item ∧
        span = ⟨lead.length + blanks.length, lead.length + blanks.length + item.length⟩ := by
  induction text using Text.pieces_induction ',' generalizing front with
  | last piece absent =>
      rw [spansFrom_of_not_mem absent, Option.mem_toList] at present
      obtain ⟨blanks, item, closing, rfl, -, blank, blankClosing, first, last, spanEq⟩ :=
        exists_of_pieceSpan? present
      have noComma : ',' ∉ item := fun inItem => absent (by simp [inItem])
      exact ⟨front, blanks, item, closing, [], by simp, leads, .inl rfl, blank, blankClosing, first,
        last, noComma, spanEq⟩
  | more piece rest absent inductionHypothesis =>
      rw [spansFrom_append_cons absent, List.mem_append] at present
      rcases present with here | later
      · obtain ⟨blanks, item, closing, rfl, -, blank, blankClosing, first, last, spanEq⟩ :=
          exists_of_pieceSpan? (Option.mem_toList.mp here)
        have noComma : ',' ∉ item := fun inItem => absent (by simp [inItem])
        exact ⟨front, blanks, item, closing, ',' :: rest, by simp, leads, .inr rfl, blank,
          blankClosing, first, last, noComma, spanEq⟩
      · have leadsBehind : (front ++ (piece ++ [','])).getLast? = some ',' := by
          rw [← List.append_assoc, List.getLast?_concat]
        rw [← length_past_comma] at later
        simpa using inductionHypothesis (.inr leadsBehind) later

theorem offset_le_start
    {pieces : List Text}
    (present : span ∈ spansFrom offset pieces) :
    offset ≤ span.start := by
  induction pieces generalizing offset with
  | nil => exact absurd present List.not_mem_nil
  | cons piece pieces inductionHypothesis =>
      rw [spansFrom, List.mem_append, Option.mem_toList] at present
      rcases present with here | later
      · obtain ⟨lead, item, closing, -, -, -, -, -, -, rfl⟩ := exists_of_pieceSpan? here
        exact Nat.le_add_right offset lead.length
      · have beyond := inductionHypothesis later
        omega

/-- Whether a comma stands between two spans. -/
def IsApart (masked : Text) (first second : Span) : Prop :=
  ∃ index : Nat, first.stop ≤ index ∧ index < second.start ∧ masked[index]? = some ','

theorem pairwise_spansFrom (front text : Text) :
    (spansFrom front.length (Text.splitAt ',' text)).Pairwise (IsApart (front ++ text)) := by
  have single (masked : Text) (found : Option Span) : found.toList.Pairwise (IsApart masked) := by
    cases found <;> simp
  induction text using Text.pieces_induction ',' generalizing front with
  | last piece absent =>
      rw [spansFrom_of_not_mem absent]
      exact single _ _
  | more piece rest absent inductionHypothesis =>
      rw [spansFrom_append_cons absent, List.pairwise_append]
      refine ⟨single _ _, ?_, fun first isFirst second isSecond => ?_⟩
      · rw [← length_past_comma, ← append_past_comma]
        exact inductionHypothesis _
      · obtain ⟨lead, item, closing, rfl, -, -, -, -, -, rfl⟩ :=
          exists_of_pieceSpan? (Option.mem_toList.mp isFirst)
        have beyond := offset_le_start isSecond
        refine ⟨front.length + (lead ++ (item ++ closing)).length, ?_, beyond, ?_⟩
        · simp only [List.length_append]
          omega
        · rw [List.getElem?_append_right (Nat.le_add_right _ _), Nat.add_sub_cancel_left,
            List.getElem?_append_right (Nat.le_refl _), Nat.sub_self]
          rfl

/-- What is neither a comma nor white space belongs to an item. -/
theorem exists_mem_spansFrom
    (here : text[index]? = some c)
    (noBlank : Text.isBlank c = false)
    (noComma : c ≠ ',')
    (offset : Nat) :
    ∃ span ∈ spansFrom offset (Text.splitAt ',' text),
      span.start ≤ offset + index ∧ offset + index < span.stop := by
  induction text using Text.pieces_induction ',' generalizing offset index with
  | last piece absent =>
      obtain ⟨span, found, inside⟩ := exists_pieceSpan?_of_getElem? here noBlank offset
      rw [spansFrom_of_not_mem absent, found]
      exact ⟨span, .head _, inside⟩
  | more piece rest absent inductionHypothesis =>
      rw [spansFrom_append_cons absent]
      rcases Nat.lt_or_ge index piece.length with within | beyond
      · rw [List.getElem?_append_left within] at here
        obtain ⟨span, found, inside⟩ := exists_pieceSpan?_of_getElem? here noBlank offset
        exact ⟨span, by simp [found], inside⟩
      · rw [List.getElem?_append_right beyond] at here
        obtain ⟨distance, rfl⟩ := Nat.exists_eq_add_of_le beyond
        rw [Nat.add_sub_cancel_left] at here
        cases distance with
        | zero => exact absurd (Option.some.inj here).symm noComma
        | succ distance =>
            obtain ⟨span, found, inside⟩ :=
              inductionHypothesis here (offset + piece.length + 1)
            refine ⟨span, List.mem_append_right _ found, ?_⟩
            omega

/-- The span of a piece holds its trimmed form, unless that is empty. -/
theorem map_of_pieceSpan? (front piece behind : Text) :
    (pieceSpan? front.length piece).toList.map (Span.of (front ++ (piece ++ behind))) =
      [Text.trim piece].filter (!·.isEmpty) := by
  cases found : pieceSpan? front.length piece with
  | none => simp [pieceSpan?_eq_none_iff.mp found]
  | some span =>
      obtain ⟨lead, item, closing, whole, itemEq, -, -, ⟨c, first, -⟩, -, rfl⟩ :=
        exists_of_pieceSpan? found
      have nonempty : item ≠ [] := by
        rintro rfl
        simp at first
      have middle := Text.slice_middle (front ++ lead) item (closing ++ behind)
      rw [List.length_append] at middle
      rw [← itemEq, whole]
      simpa [Span.of, nonempty] using middle

/-- The spans hold the trimmed pieces, empty ones left out. -/
theorem map_of_spansFrom (front text : Text) :
    (spansFrom front.length (Text.splitAt ',' text)).map (Span.of (front ++ text)) =
      ((Text.splitAt ',' text).map Text.trim).filter (!·.isEmpty) := by
  induction text using Text.pieces_induction ',' generalizing front with
  | last piece absent =>
      have single := map_of_pieceSpan? front piece []
      rw [List.append_nil] at single
      rw [spansFrom_of_not_mem absent, Text.splitAt_of_not_mem absent, single, List.map_singleton]
  | more piece rest absent inductionHypothesis =>
      rw [spansFrom_append_cons absent, Text.splitAt_append_cons absent, List.map_append,
        map_of_pieceSpan?, ← length_past_comma, ← append_past_comma, inductionHypothesis,
        ← List.filter_append, List.map_cons, List.singleton_append]

theorem items_self (text : Text) :
    items text text = ((Text.splitAt ',' text).map Text.trim).filter (!·.isEmpty) :=
  map_of_spansFrom [] text

/-! ## A walk over the list -/

/-- The first place from a start on at which no white space stands, or the place a number of characters
behind the start. There is no answer if a place is read at which the text has no character. -/
def skipBlanks? (text : Text) (start : Nat) : (room : Nat) → Option Nat
  | 0 => some start
  | room + 1 => do
    let c ← text[start]?
    if Text.isBlank c then skipBlanks? text (start + 1) room else some start

/-- The last place up to a number of characters behind a start in front of which no white space stands,
or the start. There is no answer if a place is read at which the text has no character. -/
def dropBlanks? (text : Text) (start : Nat) : (room : Nat) → Option Nat
  | 0 => some start
  | room + 1 => do
    let c ← text[start + room]?
    if Text.isBlank c then dropBlanks? text start room else some (start + room + 1)

/-- The span that is left between two places without the white space at both ends. -/
def spanBetween? (text : Text) (first last : Nat) : Option (Option Span) := do
  let start ← skipBlanks? text first (last - first)
  let stop ← dropBlanks? text start (last - start)
  some (if start < stop then some ⟨start, stop⟩ else none)

/-- The spans that a walk over a list finds from a place on, given the place behind the last comma and
what the walk has still to see. -/
def walkFrom? (text : Text) (behindComma place : Nat) : Text → Option (List Span)
  | [] => some []
  | c :: rest =>
    if c = ',' then do
      let span ← spanBetween? text behindComma place
      let others ← walkFrom? text (place + 1) (place + 1) rest
      some (span.toList ++ others)
    else walkFrom? text behindComma (place + 1) rest

/-- The spans that a walk over a list with a comma behind it finds. There are none if the walk reads a
place at which the list has no character. -/
def walk? (masked : Text) : Option (List Span) :=
  walkFrom? masked 0 0 (masked ++ [','])

theorem getElem?_middle (front : Text) (c : Char) (behind : Text) :
    (front ++ c :: behind)[front.length]? = some c := by
  rw [List.getElem?_append_right (Nat.le_refl _), Nat.sub_self, List.getElem?_cons_zero]

theorem skipBlanks?_succ
    {start : Nat}
    (here : text[start]? = some c)
    (room : Nat) :
    skipBlanks? text start (room + 1) =
      if Text.isBlank c then skipBlanks? text (start + 1) room else some start := by
  rw [skipBlanks?, here]
  rfl

theorem dropBlanks?_succ
    {start room : Nat}
    (here : text[start + room]? = some c) :
    dropBlanks? text start (room + 1) =
      if Text.isBlank c then dropBlanks? text start room else some (start + room + 1) := by
  rw [dropBlanks?, here]
  rfl

/-- The walk passes by the white space in front of an item. -/
theorem skipBlanks?_eq (front piece behind : Text) :
    skipBlanks? (front ++ (piece ++ behind)) front.length piece.length =
      some (front.length + (piece.takeWhile Text.isBlank).length) := by
  induction piece generalizing front with
  | nil => rfl
  | cons c piece inductionHypothesis =>
      have further := inductionHypothesis (front ++ [c])
      rw [List.append_assoc, List.length_append, List.length_singleton] at further
      rw [List.length_cons, List.cons_append, skipBlanks?_succ (getElem?_middle front c _)]
      split
      next blank =>
        rw [List.takeWhile_cons_of_pos blank, List.length_cons]
        exact further.trans (by rw [Nat.add_right_comm, Nat.add_assoc])
      next noBlank =>
        rw [List.takeWhile_cons_of_neg noBlank]
        rfl

/-- The walk passes by the white space behind an item. -/
theorem dropBlanks?_eq (front piece behind : Text) :
    dropBlanks? (front ++ (piece ++ behind)) front.length piece.length =
      some (front.length + (Text.trimEndWhere Text.isBlank piece).length) := by
  induction piece using List.reverseRecOn generalizing behind with
  | nil => rfl
  | append_singleton piece c inductionHypothesis =>
      have here := getElem?_middle (front ++ piece) c behind
      have whole : front ++ (piece ++ [c] ++ behind) = front ++ piece ++ c :: behind := by simp
      rw [List.length_append] at here
      rw [List.length_append, List.length_singleton, whole, dropBlanks?_succ here]
      split
      next blank =>
        have trimmed : Text.trimEndWhere Text.isBlank (piece ++ [c]) =
            Text.trimEndWhere Text.isBlank piece := by
          rw [Text.trimEndWhere, List.reverse_concat, List.dropWhile_cons_of_pos blank]
          rfl
        rw [trimmed, List.append_assoc]
        exact inductionHypothesis (c :: behind)
      next noBlank =>
        rw [Text.trimEndWhere_of_last (by simpa using noBlank), List.length_append,
          List.length_singleton, Nat.add_assoc]

/-- Between two commas the walk finds the span of the piece there. -/
theorem spanBetween?_eq (front piece behind : Text) :
    spanBetween? (front ++ (piece ++ behind)) front.length (front.length + piece.length) =
      some (pieceSpan? front.length piece) := by
  have cut := List.takeWhile_append_dropWhile (p := Text.isBlank) (l := piece)
  have trimmed : Text.trim piece = Text.trimEndWhere Text.isBlank (piece.dropWhile Text.isBlank) := rfl
  have skipped := skipBlanks?_eq front piece behind
  have dropped := dropBlanks?_eq (front ++ piece.takeWhile Text.isBlank)
    (piece.dropWhile Text.isBlank) behind
  have room : front.length + piece.length -
      (front.length + (piece.takeWhile Text.isBlank).length) =
        (piece.dropWhile Text.isBlank).length := by
    have length := congrArg List.length cut
    rw [List.length_append] at length
    omega
  rw [List.append_assoc, ← List.append_assoc (piece.takeWhile Text.isBlank), cut, List.length_append,
    ← trimmed] at dropped
  simp only [spanBetween?, Nat.add_sub_cancel_left, skipped, Option.bind_eq_bind, Option.bind_some,
    room, dropped, pieceSpan?]
  cases Text.trim piece with
  | nil => simp
  | cons c item => simp

/-- The walk finds the spans of the list, and reads no place at which the list has no character. -/
theorem walkFrom?_eq
    (absent : ',' ∉ piece)
    (front text : Text) :
    walkFrom? (front ++ (piece ++ text)) front.length (front.length + piece.length) (text ++ [',']) =
      some (spansFrom front.length (Text.splitAt ',' (piece ++ text))) := by
  induction text generalizing front piece with
  | nil =>
      rw [List.nil_append, walkFrom?, if_pos rfl, spanBetween?_eq, List.append_nil,
        spansFrom_of_not_mem absent]
      simp [walkFrom?]
  | cons c text inductionHypothesis =>
      rw [List.cons_append, walkFrom?]
      split
      next isComma =>
        subst isComma
        have further := inductionHypothesis List.not_mem_nil (front ++ (piece ++ [',']))
        rw [List.nil_append, length_past_comma, append_past_comma, List.length_nil,
          Nat.add_zero] at further
        simp only [spanBetween?_eq, further, spansFrom_append_cons absent, Option.bind_eq_bind,
          Option.bind_some]
      next noComma =>
        have absentThere : ',' ∉ piece ++ [c] := by simpa [absent] using Ne.symm noComma
        have further := inductionHypothesis absentThere front
        rw [List.append_assoc, List.length_append] at further
        exact further

theorem walk?_eq (masked : Text) : walk? masked = some (spans masked) :=
  walkFrom?_eq List.not_mem_nil [] masked

/-! ## Lists -/

/-- Whether a span is that of an item of a list: it has characters of the list, none of them a comma,
and neither the first nor the last of them is white space. -/
structure IsItemSpan (masked : Text) (span : Span) : Prop where
  /-- The span has characters. -/
  nonempty : span.start < span.stop
  /-- They are characters of the list. -/
  inside : span.stop ≤ masked.length
  /-- The first one is no white space. -/
  starts : ∃ c, masked[span.start]? = some c ∧ Text.isBlank c = false
  /-- The last one is no white space. -/
  ends : ∃ c, masked[span.stop - 1]? = some c ∧ Text.isBlank c = false
  /-- None of them is a comma. -/
  noComma : ∀ index, span.start ≤ index → index < span.stop → masked[index]? ≠ some ','

theorem isItemSpan_of_mem_spans (present : span ∈ spans masked) :
    IsItemSpan masked span := by
  obtain ⟨lead, blanks, item, closing, behind, whole, -, -, -, -, ⟨first, isFirst, noBlank⟩,
    ⟨last, isLast, noBlankAtEnd⟩, noComma, rfl⟩ := exists_of_mem_spansFrom (.inl rfl) present
  rw [List.nil_append] at whole
  rw [List.head?_eq_getElem?] at isFirst
  rw [List.getLast?_eq_getElem?] at isLast
  have positive : 0 < item.length := (List.getElem?_eq_some_iff.mp isFirst).1
  have within {distance : Nat} (inItem : distance < item.length) :
      masked[lead.length + blanks.length + distance]? = item[distance]? := by
    rw [whole, ← List.append_assoc lead, ← List.length_append,
      List.getElem?_append_right (Nat.le_add_right _ _), Nat.add_sub_cancel_left,
      List.getElem?_append_left inItem]
  refine ⟨Nat.lt_add_of_pos_right positive, ?_, ⟨first, ?_, noBlank⟩, ⟨last, ?_, noBlankAtEnd⟩, ?_⟩
  · rw [whole]
    simp only [List.length_append]
    omega
  · rw [← isFirst, ← within positive, Nat.add_zero]
  · rw [← isLast, ← within (Nat.sub_lt positive Nat.one_pos), Nat.add_sub_assoc positive]
  · intro index behindStart inFront isComma
    obtain ⟨distance, rfl⟩ := Nat.exists_eq_add_of_le behindStart
    rw [within (Nat.lt_of_add_lt_add_left inFront)] at isComma
    exact noComma (List.mem_of_getElem? isComma)

/-- A place belongs to one item at most. -/
theorem eq_of_mem_spans
    {other : Span}
    (present : span ∈ spans masked)
    (isOther : other ∈ spans masked)
    (inside : span.start ≤ index ∧ index < span.stop)
    (insideOther : other.start ≤ index ∧ index < other.stop) :
    span = other := by
  have apart : (spans masked).Pairwise (IsApart masked) := pairwise_spansFrom [] masked
  have inOrder := List.pairwise_iff_getElem.mp apart
  obtain ⟨number, inRange, rfl⟩ := List.getElem_of_mem present
  obtain ⟨otherNumber, otherInRange, rfl⟩ := List.getElem_of_mem isOther
  rcases Nat.lt_trichotomy number otherNumber with before | rfl | behind
  · obtain ⟨comma, afterFirst, beforeSecond, -⟩ := inOrder _ _ inRange otherInRange before
    omega
  · rfl
  · obtain ⟨comma, afterFirst, beforeSecond, -⟩ := inOrder _ _ otherInRange inRange behind
    omega

/-- Cutting a list at its commas loses nothing. The spans of its items have characters of the list and
no comma, and no white space at their ends. Between two of them there is a comma, so that they stand one
behind the other. Every character that is neither a comma nor white space belongs to exactly one span. A
walk over the list finds these spans and reads no place beyond its ends. The items of a list that is all
shown are its pieces between commas, trimmed, and empty ones left out. -/
theorem spans_lose_nothing (masked : Text) :
    (∀ span ∈ spans masked, IsItemSpan masked span) ∧
    ((spans masked).Pairwise fun first second => first.stop < second.start) ∧
    (spans masked).Pairwise (IsApart masked) ∧
    (∀ (index : Nat) (c : Char), masked[index]? = some c → Text.isBlank c = false → c ≠ ',' →
      ∃! span, span ∈ spans masked ∧ span.start ≤ index ∧ index < span.stop) ∧
    walk? masked = some (spans masked) ∧
    ∀ text : Text, items text text =
      ((Text.splitAt ',' text).map Text.trim).filter (!·.isEmpty) := by
  have apart : (spans masked).Pairwise (IsApart masked) := pairwise_spansFrom [] masked
  refine ⟨fun span present => isItemSpan_of_mem_spans present, ?_, apart, ?_, walk?_eq masked,
    items_self⟩
  · refine apart.imp ?_
    rintro first second ⟨comma, behind, before, -⟩
    omega
  · intro index c here noBlank noComma
    obtain ⟨span, present, inside⟩ := exists_mem_spansFrom here noBlank noComma 0
    rw [Nat.zero_add] at inside
    refine ⟨span, ⟨present, inside⟩, ?_⟩
    rintro other ⟨isOther, insideOther⟩
    exact eq_of_mem_spans isOther present insideOther inside

/-- A list with white space of several kinds, empty pieces, and commas at both ends. -/
theorem spans_lose_nothing_sparse :
    let masked : Text := ",\u2003a () \t,, ' ',\n,b,"
    let word : Span := ⟨2, 6⟩
    let literal : Span := ⟨11, 14⟩
    spans masked = [word, literal, ⟨17, 18⟩] ∧ walk? masked = some [word, literal, ⟨17, 18⟩] ∧
      IsItemSpan masked literal ∧ IsApart masked word literal ∧
      (∃! span, span ∈ spans masked ∧ span.start ≤ 4 ∧ 4 < span.stop) ∧
      items masked masked = ["a ()", "' '", "b"] := by
  intro masked word literal
  have found : spans masked = [word, literal, ⟨17, 18⟩] := by decide
  obtain ⟨areItems, -, apart, unique, walked, pieces⟩ := spans_lose_nothing masked
  refine ⟨found, found ▸ walked, areItems literal (by rw [found]; simp), ?_,
    unique 4 '(' (by decide) (by decide) (by decide), ?_⟩
  · rw [found] at apart
    exact List.rel_of_pairwise_cons apart (.head _)
  · rw [pieces]
    decide

end Query
end SqlReview
