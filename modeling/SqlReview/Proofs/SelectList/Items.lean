import Mathlib.Data.Bool.AllAny
import SqlReview.Proofs.Query.Projection
import SqlReview.Proofs.SelectList.Parts

/-!
# Items of a select list

What an item adds to what a select list returns, also if some characters are cut off its start: a
column without them, if that still is a name, and a star, if a name is left in front of it.
-/

namespace SqlReview
namespace SelectList

open Query Plain FromClause Pattern

variable {cut : Nat}

/-! ## Columns -/

/-- What can start an identifier is the same with and without regard to case. -/
theorem startsIdentifier_eq
    {c : Char}
    (isIdentifier : isIdentifierChar c = true) :
    Text.startsIdentifier c = startsPlainIdentifier c := by
  have ascii := ascii_of_isIdentifierChar isIdentifier
  revert isIdentifier
  apply Text.forall_ascii _ c ascii
  decide

/-- An alias is read up to the end of an item. -/
theorem reads_columnTail
    {before : Option Char}
    {index : Nat}
    (aliasName : Option Alias) :
    columnTail.Reads before index (aliasName.elim [] Alias.text) [] [] := by
  have ending (before : Option Char) (index : Nat) :
      (all [textEnd]).Reads before index [] [] [] :=
    reads_textEnd.last
  suffices optional : (Pattern.optional (someBlanks.seq ((optionalWord "as").seq
      (all [identifier])))).Reads before index (aliasName.elim [] Alias.text) ([] ++ []) [] by
    have whole := optional.seq (ending _ _)
    rwa [List.append_nil] at whole
  cases aliasName with
  | none =>
      refine reads_optional_nothing ?_
      rintro _ rest equal ⟨blanks, _, rfl, isBlanks, -⟩
      have nothing := (List.append_eq_nil_iff.mp equal.symm).1
      exact absurd (List.append_eq_nil_iff.mp nothing).1 (covers_someBlanks.mp isBlanks).1
  | some aliasName =>
      obtain ⟨usesAs, name⟩ := aliasName
      have isName (index : Nat) (before : Option Char) :
          (all [identifier]).Reads before index name.text ([] ++ []) [] :=
        (name.reads rfl).last
      cases usesAs with
      | false =>
          have starts := startsIdentifier_of_plain name.starts
          have isOther := name.map_foldLetter_ne (show Text.IsSmallWord "as" by decide) (by decide)
          exact (reads_behindBlank starts (fun c present =>
            name.continuesIdentifier_of_mem c (.tail _ present)) isOther rfl (isName _)).optional
      | true =>
          have noBlank : (name.text ++ ([] ++ [])).head?.any Text.isBlank = false :=
            name.noBlank_of_mem (.head _)
          exact (reads_behindAs noBlank (isName _)).optional

/-- A column is read up to its alias, whatever identifier it starts with. -/
theorem atStart?_columnItem
    (item : Item)
    {c : Char}
    {front : Text}
    (starts : Text.startsIdentifier c = true)
    (continues : ∀ d ∈ front, Text.continuesIdentifier d = true) :
    (columnItem.atStart? (c :: front ++ item.table.back ++ item.aliasName.elim [] Alias.text)).map
      (·.groupText 1) = some (c :: front ++ item.table.back) := by
  have ends : (item.aliasName.elim [] Alias.text ++ []).head?.any isColumnChar = false := by
    rcases item.aliasName with _ | ⟨usesAs, name⟩
    · rfl
    · cases usesAs <;> rfl
  have name (before : Option Char) (index : Nat) : (columnName.group 1).Reads before index
      (c :: front ++ item.table.back) (item.aliasName.elim [] Alias.text ++ [])
        [⟨1, index, c :: front ++ item.table.back⟩] :=
    (item.table.reads_columnName_from starts continues ends).group 1
  have whole : columnItem.Reads none 0 _ [] _ :=
    reads_textStart.seq ((name _ _).seq (reads_columnTail item.aliasName))
  have found := whole.occurrenceAt?
  rw [List.append_nil] at found
  exact congrArg (Option.map (·.groupText 1)) found

namespace Entry

variable (entry : Entry)

/-! ## Starts of items -/

/-- The start of a column or of a star with a table is an identifier. -/
theorem drop_text (inside : cut < entry.stem.length) :
    ∃ c others, entry.stem.drop cut = c :: others ∧
      entry.text.drop cut = c :: others ++ entry.tail := by
  obtain ⟨c, others, split⟩ := List.exists_cons_of_ne_nil
    (show entry.stem.drop cut ≠ [] by simpa using inside)
  refine ⟨c, others, split, ?_⟩
  rw [entry.text_eq, List.drop_append_of_le_length (Nat.le_of_lt inside), split]

/-! ## Adding items -/

theorem add_column
    (projection : Projection)
    (item : Item)
    (inside : cut < (column item).stem.length) :
    projection.add ((column item).text.drop cut) =
      { projection with columns := projection.columns ++ ((column item).columnFrom cut).toList } := by
  have absent {c : Char} (noName : isNameChar c = false) (noSign : itemSigns.contains c = false) :
      c ∉ (column item).text.drop cut := fun present =>
    item.uses.not_mem noName noSign (List.mem_of_mem_drop present)
  have short : cut ≤ item.table.front.text.length := Nat.le_of_lt inside
  obtain ⟨c, others, stem, text⟩ := (column item).drop_text inside
  have identifier : ∀ d ∈ c :: others, isIdentifierChar d = true := fun d present =>
    item.table.front.isIdentifierChar_of_mem (List.mem_of_mem_drop (stem ▸ present))
  have starts := startsIdentifier_eq (identifier c (.head _))
  have name : item.table.text.drop cut = c :: others ++ item.table.back := by
    rw [item.table.text_eq, List.drop_append_of_le_length short]
    exact congrArg (· ++ _) stem
  have shown : (column item).columnFrom cut = (some (c :: others ++ item.table.back)).filter
      fun column => startsPlainIdentifier c && !isAmong sqlWords column := by
    rw [columnFrom, column?, Option.map_some, name]
    rfl
  rw [Projection.add, not_occursIn_starItem (absent (by decide) (by decide)),
    if_neg Bool.false_ne_true, not_occursIn_aggregateCall (absent (by decide) (by decide)),
    if_neg Bool.false_ne_true, shown]
  cases startsName : startsPlainIdentifier c with
  | false =>
      have nothing : columnItem.atStart? ((column item).text.drop cut) = none := by
        refine atStart?_columnItem_of_head ?_
        rw [text]
        exact starts.trans startsName
      rw [nothing]
      simp
  | true =>
      have found := atStart?_columnItem item (starts.trans startsName) fun d present =>
        (of_isIdentifierChar (identifier d (.tail _ present))).2
      rw [List.append_assoc] at found
      obtain ⟨occurrence, isOccurrence, group⟩ := Option.map_eq_some_iff.mp
        (show (columnItem.atStart? (c :: others ++ (column item).tail)).map _ = _ from found)
      rw [text, isOccurrence]
      simp only [group, Option.filter_some]
      cases isAmong sqlWords (c :: others ++ item.table.back) <;> simp

/-- A star still stands for all columns if it starts with a name or is one. -/
theorem occursIn_star
    (table : Option Identifier)
    (inside : cut < (star table).stem.length) :
    starItem.occursIn ((star table).text.drop cut) = (star table).isStarFrom cut := by
  obtain ⟨c, others, stem, text⟩ := (star table).drop_text inside
  have isStarFrom : (star table).isStarFrom cut = (decide (c = '*') || startsPlainIdentifier c) := by
    rw [Entry.isStarFrom, text]
    rfl
  rw [isStarFrom]
  cases table with
  | none =>
      obtain rfl : cut = 0 := Nat.lt_one_iff.mp inside
      obtain ⟨rfl, -⟩ := List.cons.inj stem
      decide
  | some table =>
      have identifier : ∀ d ∈ c :: others, isIdentifierChar d = true := fun d present =>
        table.isIdentifierChar_of_mem (List.mem_of_mem_drop (stem ▸ present))
      have isOther {d : Char} (noChar : isIdentifierChar d = false) : c ≠ d := by
        rintro rfl
        exact absurd (identifier c (.head _)) (by simp [noChar])
      rw [Bool.eq_iff_iff, Bool.or_eq_true, decide_eq_true_eq, or_iff_right (isOther (by decide)),
        text]
      constructor
      · intro found
        obtain ⟨d, head, isStart⟩ := head_of_occursIn_starItem found
        obtain rfl : c = d := by simpa using head
        have noMark : ∀ d ∈ ['"', '\x60', '['], isIdentifierChar d = false :=
          List.all_iff_forall_prop.mp (by decide)
        rcases isStart with isStar | starts | delimits
        · exact absurd isStar (isOther (by decide))
        · exact starts
        · exact absurd rfl (isOther (noMark c delimits))
      · intro starts
        exact occursIn_starItem starts fun d present =>
          (of_isIdentifierChar (identifier d (.tail _ present))).2

theorem add_star
    (projection : Projection)
    (table : Option Identifier)
    (inside : cut < (star table).stem.length) :
    projection.add ((star table).text.drop cut) =
      { projection with selectsAll := projection.selectsAll || (star table).isStarFrom cut } := by
  rw [Projection.add, occursIn_star table inside]
  cases (star table).isStarFrom cut with
  | true => simp
  | false =>
      have noOpen : '(' ∉ (star table).text.drop cut := fun present =>
        (uses_star table).not_mem (by decide) (by decide) (List.mem_of_mem_drop present)
      have isStar : '*' ∈ (star table).text.drop cut := by
        cases table with
        | none =>
            obtain rfl : cut = 0 := Nat.lt_one_iff.mp inside
            exact .head _
        | some table =>
            obtain ⟨c, others, -, text⟩ := (star (some table)).drop_text inside
            rw [text]
            simp [tail]
      rw [if_neg Bool.false_ne_true, not_occursIn_aggregateCall noOpen, if_neg Bool.false_ne_true,
        atStart?_columnItem_of_mem (by decide) isStar, Bool.or_false]

theorem add_aggregate
    (projection : Projection)
    (function : AggregateName)
    (argument : QualifiedName) :
    projection.add (aggregate function argument).text = { projection with hasAggregate := true } := by
  have noStar : '*' ∉ (aggregate function argument).text := by
    have inName : '*' ∉ function.text := fun present =>
      absurd (function.plain _ present) (by decide)
    have inArgument : '*' ∉ argument.text :=
      (argument.uses (show ['$', '.'].contains '$' = true by decide) (by decide)).not_mem
        (by decide) (by decide)
    simp [Entry.text, inName, inArgument]
  have noOver : "over".toList ∉ Text.words (aggregate function argument).text := by
    have notListed : "over".toList ∉ aggregateNames := by decide
    rw [← mem_keywords (by decide), (aggregate function argument).isPiece.words]
    intro present
    exact notListed (List.mem_singleton.mp present ▸ function.isAggregate)
  have startsWord : function.text.head?.any Text.isWord = true := by
    obtain ⟨c, others, split⟩ := List.exists_cons_of_ne_nil function.text_ne_nil
    rw [split]
    exact (of_isNameChar (function.plain c (by rw [split]; exact .head _))).1
  have isCall : aggregateCall.occursIn (aggregate function argument).text = true :=
    occursIn_aggregateCall function.isAggregate startsWord _
  rw [Projection.add, not_occursIn_starItem noStar, if_neg Bool.false_ne_true, if_pos isCall,
    not_occursIn_windowKeyword noOver, if_neg Bool.false_ne_true]

/-- What an item adds if some characters are cut off its start: of an aggregate none are. -/
theorem add_drop
    (projection : Projection)
    (inside : cut < entry.stem.length)
    (whole : entry.isAggregate = true → cut = 0) :
    projection.add (entry.text.drop cut) =
      { columns := projection.columns ++ (entry.columnFrom cut).toList
        hasAggregate := projection.hasAggregate || entry.isAggregate
        selectsAll := projection.selectsAll || entry.isStarFrom cut } := by
  cases entry with
  | column item =>
      rw [add_column projection item inside]
      simp [isAggregate, isStarFrom, isStar]
  | star table =>
      rw [add_star projection table inside]
      simp [isAggregate, columnFrom, column?]
  | aggregate function argument =>
      obtain rfl := whole rfl
      rw [List.drop_zero, add_aggregate]
      simp [isAggregate, isStarFrom, isStar, columnFrom, column?]

/-! ## Whole items -/

theorem columnFrom_zero :
    entry.columnFrom 0 = entry.column? := by
  cases entry with
  | column item =>
      have starts : startsPlainIdentifier item.table.front.first = true := item.table.front.starts
      have noWord : isAmong sqlWords item.table.text = false :=
        item.table.isPiece.not_isAmong_sqlWords
      rw [columnFrom, column?, Option.map_some, List.drop_zero, Option.filter_some, noWord,
        item.table.text_eq]
      exact if_pos (by rw [Bool.and_eq_true]; exact ⟨starts, rfl⟩)
  | star table => rfl
  | aggregate function argument => rfl

theorem isStarFrom_zero :
    entry.isStarFrom 0 = entry.isStar := by
  cases entry with
  | column item => rfl
  | star table =>
      cases table with
      | none => rfl
      | some table =>
          have starts : (decide (table.first = '*') || startsPlainIdentifier table.first) = true := by
            rw [table.starts, Bool.or_true]
          exact starts
  | aggregate function argument => rfl

theorem add_text (projection : Projection) :
    projection.add entry.text =
      { columns := projection.columns ++ entry.column?.toList
        hasAggregate := projection.hasAggregate || entry.isAggregate
        selectsAll := projection.selectsAll || entry.isStar } := by
  have added := entry.add_drop projection (List.length_pos_iff.mpr entry.stem_ne_nil) fun _ => rfl
  rwa [List.drop_zero, columnFrom_zero, isStarFrom_zero] at added

/-- What several items add. -/
theorem foldl_add
    (entries : List Entry)
    (projection : Projection) :
    (entries.map text).foldl Projection.add projection =
      { columns := projection.columns ++ entries.filterMap column?
        hasAggregate := projection.hasAggregate || entries.any isAggregate
        selectsAll := projection.selectsAll || entries.any isStar } := by
  induction entries generalizing projection with
  | nil => simp
  | cons entry entries inductionHypothesis =>
      rw [List.map_cons, List.foldl_cons, inductionHypothesis, entry.add_text, List.filterMap_cons]
      cases entry.column? <;> simp [Bool.or_assoc]

end Entry
end SelectList
end SqlReview
