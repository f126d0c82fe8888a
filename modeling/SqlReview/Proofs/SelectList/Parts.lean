import SqlReview.Proofs.FromClause.ColumnName
import SqlReview.Proofs.Query.Scanners
import SqlReview.Proofs.SelectList.Grammar

/-!
# The parts of a select list

Every item of a select list is a piece of a query, with the word of its alias or of its function as
its only reserved word. What an aggregate encloses is hidden, everything else is shown, so the items
are found between the commas, also if some characters of the first one are cut off.
-/

namespace SqlReview
namespace SelectList

open Query Plain FromClause

/-! ## Functions -/

namespace AggregateName

variable (function : AggregateName)

theorem text_ne_nil :
    function.text ≠ [] := by
  intro empty
  have listed := function.isAggregate
  rw [empty] at listed
  exact absurd listed (by decide)

theorem isSolid_text :
    function.text.all isSolidChar = true :=
  List.all_eq_true.mpr fun c present => isSolidChar_of_isNameChar (function.plain c present)

theorem isPiece :
    IsPiece [function.text.map Text.foldLetter] function.text := by
  have reserved : ∀ name ∈ aggregateNames, reservedWords.contains name = true := by decide
  refine isPiece_of_isSolid function.text_ne_nil function.isSolid_text ?_
  rw [keywords, Text.words_of_isWord function.text_ne_nil fun c present =>
    (of_isNameChar (function.plain c present)).1]
  exact List.filter_cons_of_pos (reserved _ function.isAggregate)

end AggregateName

/-! ## Items -/

namespace Entry

variable (entry : Entry)

/-- The reserved words of an item. -/
def words : Entry → List Text
  | .column item => item.words
  | .star _ => []
  | .aggregate function _ => [function.text.map Text.foldLetter]

theorem isPiece :
    IsPiece entry.words entry.text := by
  have star : IsPiece [] ['*'] := isPiece_of_isSolid (by decide) (by decide) (by decide)
  cases entry with
  | column item => exact item.isPiece
  | star table =>
      cases table with
      | none => exact star
      | some table => exact table.isPiece.separated (show ['.'] ∈ separators by decide) star
  | aggregate function argument =>
      exact function.isPiece.call argument.isSolid_text argument.isPiece.words

/-- What an item starts with: an identifier, a star or the name of a function. -/
def stem : Entry → Text
  | .column item => item.table.front.text
  | .star none => ['*']
  | .star (some table) => table.text
  | .aggregate function _ => function.text

/-- What stands behind the start of an item. -/
def tail : Entry → Text
  | .column item => item.table.back ++ item.aliasName.elim [] Alias.text
  | .star none => []
  | .star (some _) => ['.', '*']
  | .aggregate _ argument => '(' :: (argument.text ++ [')'])

theorem text_eq :
    entry.text = entry.stem ++ entry.tail := by
  cases entry with
  | column item => exact (congrArg (· ++ _) item.table.text_eq).trans (List.append_assoc _ _ _)
  | star table => cases table <;> rfl
  | aggregate function argument => rfl

theorem stem_ne_nil :
    entry.stem ≠ [] := by
  cases entry with
  | column item => exact List.cons_ne_nil _ _
  | star table => cases table <;> exact List.cons_ne_nil _ _
  | aggregate function argument => exact function.text_ne_nil

theorem isSolid_stem :
    entry.stem.all isSolidChar = true := by
  cases entry with
  | column item => exact item.table.front.isSolid_text
  | star table =>
      cases table with
      | none => decide
      | some table => exact table.isSolid_text
  | aggregate function argument => exact function.isSolid_text

theorem noBlank_of_mem_stem
    {c : Char}
    (present : c ∈ entry.stem) :
    Text.isBlank c = false :=
  (of_isSolidChar (List.all_eq_true.mp entry.isSolid_stem c present)).2.1

/-- The start of an item is shown. -/
theorem mask_text :
    mask entry.text = entry.stem ++ mask entry.tail := by
  obtain ⟨shown, closed⟩ := mask_of_isPlain fun c present =>
    (of_isSolidChar (List.all_eq_true.mp entry.isSolid_stem c present)).2.2
  rw [entry.text_eq, mask_append closed, shown]

theorem uses_star (table : Option Identifier) :
    Uses ['$', '.', '*'] (text (.star table)) := by
  cases table with
  | none => decide
  | some table => exact (table.uses (by decide)).append (by decide)

theorem isShown :
    IsShown entry.text (mask entry.text) := by
  have ofItem {text : Text} (isItem : IsItem text) (shown : mask text = text) :
      IsShown text (mask text) := by
    rw [shown]
    exact isItem.isShown
  cases entry with
  | column item =>
      exact ofItem ⟨item.isPiece.tight, item.uses.not_mem (by decide) (by decide)⟩ item.mask_text
  | star table =>
      have noComma := (uses_star table).not_mem (show isNameChar ',' = false by decide) (by decide)
      exact ofItem ⟨(Entry.star table).isPiece.tight, noComma⟩
        (mask_of_uses (uses_star table) (by decide))
  | aggregate function argument =>
      have plain : ∀ c ∈ argument.text, c ≠ '\'' ∧ c ≠ '(' ∧ c ≠ ')' := fun c present =>
        (of_isSolidChar (List.all_eq_true.mp argument.isSolid_text c present)).2.2
      have shown := (mask_text (.aggregate function argument)).trans
        (congrArg (function.text ++ ·) (mask_enclosed (.inr rfl) plain).1)
      obtain ⟨c, others, nonempty⟩ := List.exists_cons_of_ne_nil function.text_ne_nil
      have noComma : ',' ∉ function.text := fun present =>
        absurd (function.plain _ present) (by decide)
      refine ⟨length_mask _, ?_, ?_, ?_, ?_⟩
      · rw [shown]
        simp
      · rw [shown, nonempty]
        exact (of_isNameChar (function.plain c (by rw [nonempty]; simp))).2.1
      · rw [shown]
        simp [List.getLast?_cons, show Text.isBlank ')' = false by decide]
      · rw [shown]
        simp [noComma]

/-- An item is shown without the characters that are cut off its start. -/
theorem isShown_drop
    {cut : Nat}
    (inside : cut < entry.stem.length) :
    IsShown (entry.text.drop cut) ((mask entry.text).drop cut) := by
  have isShown := entry.isShown
  have short : cut < (mask entry.text).length := by
    rw [entry.mask_text, List.length_append]
    omega
  have nonempty : (mask entry.text).drop cut ≠ [] := by simpa using short
  refine ⟨by rw [List.length_drop, List.length_drop, isShown.length], nonempty, ?_, ?_,
    fun present => isShown.noComma (List.mem_of_mem_drop present)⟩
  · obtain ⟨c, others, split⟩ := List.exists_cons_of_ne_nil
      (show entry.stem.drop cut ≠ [] by simpa using inside)
    rw [entry.mask_text, List.drop_append_of_le_length (Nat.le_of_lt inside), split]
    exact entry.noBlank_of_mem_stem (List.mem_of_mem_drop (by rw [split]; simp))
  · rw [List.getLast?_drop, if_neg (by omega)]
    exact isShown.ends

end Entry

/-! ## Lists -/

namespace Entries

variable (entries : Entries)

/-- The reserved words of a list. -/
def words : List Text :=
  entries.first.words ++ entries.others.flatMap Entry.words

theorem isPiece :
    IsPiece entries.words entries.text := by
  have piece := entries.first.isPiece.flatMap (fun _ => comma_mem_separators true) Entry.isPiece
    entries.others
  simpa [words, text, listedText, List.flatMap_map] using piece

/-- The reserved words that can stand in a list. -/
theorem words_subset :
    entries.words ⊆ "as" :: aggregateNames := by
  have each (entry : Entry) : entry.words ⊆ "as" :: aggregateNames := by
    cases entry with
    | column item =>
        exact List.Subset.trans item.words_subset (List.cons_subset_cons _ (List.nil_subset _))
    | star table => exact List.nil_subset _
    | aggregate function argument =>
        exact List.cons_subset.mpr ⟨.tail _ function.isAggregate, List.nil_subset _⟩
  refine List.append_subset.mpr ⟨each _, fun word present => ?_⟩
  obtain ⟨entry, -, inEntry⟩ := List.mem_flatMap.mp present
  exact each entry inEntry

theorem mask_text :
    mask entries.text = mask entries.first.text ++
      listedText (entries.others.map fun entry => (true, mask entry.text)) := by
  have closed : ∀ other ∈ entries.others.map (fun entry => (true, entry.text)),
      IsClosed other.2 := by
    intro other present
    obtain ⟨entry, -, rfl⟩ := List.mem_map.mp present
    exact entry.isPiece.closed
  rw [text, mask_append entries.first.isPiece.closed, (mask_listedText closed).1, List.map_map]
  rfl

/-- The items of a list are found, also if some characters are cut off the start of the first one. -/
theorem items_text
    {cut : Nat}
    (inside : cut < entries.first.stem.length) :
    items ((entries.text ++ [' ']).drop cut) ((mask entries.text ++ [' ']).drop cut) =
      entries.first.text.drop cut :: entries.others.map Entry.text := by
  have areShown : ∀ other ∈ entries.others.map (fun entry => (true, entry.text, mask entry.text)),
      IsShown other.2.1 other.2.2 := by
    intro other present
    obtain ⟨entry, -, rfl⟩ := List.mem_map.mp present
    exact entry.isShown
  have found := items_shown (entries.first.isShown_drop inside) areShown (.inl rfl)
    (.inr rfl : IsGap [' '])
  have short : cut ≤ entries.first.text.length ∧ cut ≤ (mask entries.first.text).length := by
    rw [length_mask, entries.first.text_eq, List.length_append]
    omega
  rw [entries.mask_text, text, List.append_assoc, List.append_assoc,
    List.drop_append_of_le_length short.1, List.drop_append_of_le_length short.2]
  simpa [Function.comp_def] using found

end Entries

/-! ## Queries -/

variable (entries : Entries) (table : Identifier)

/-- The clauses of a query. -/
def sectionsOf : List Section :=
  [(.select, entries.text), (.source, table.text)]

theorem queryText_eq :
    queryText entries table = sectionsText (sectionsOf entries table) := by
  rw [sectionsOf, sectionsText_cons_cons, sectionsText_singleton, List.append_assoc]
  rfl

/-- What a query contains whose list is an outline without a keyword of a clause. -/
theorem isContent_listing
    {found : List Text}
    {list : Text}
    (outline : IsOutline found list)
    (free : ∀ word ∈ found, startsClause word = false) :
    ∀ part ∈ ([(.select, list), (.source, table.text)] : List Section), IsContent part.2 :=
  List.forall_mem_cons.mpr
    ⟨outline.isContent free, List.forall_mem_singleton.mpr table.isPiece.isContent⟩

theorem isContent :
    ∀ part ∈ sectionsOf entries table, IsContent part.2 := by
  have inner : ∀ word ∈ "as".toList :: aggregateNames, startsClause word = false := by decide
  exact isContent_listing table entries.isPiece.toIsOutline fun word present =>
    inner word (entries.words_subset present)

theorem normalize_queryText [CommentRemover] :
    normalize (queryText entries table) = queryText entries table := by
  rw [queryText_eq]
  exact normalize_sectionsText (List.cons_ne_nil _ _) (isContent entries table)

/-- The body of the SELECT clause is the list with a blank at both ends. -/
theorem exists_clause_queryText :
    ∃ clause, clause? (clauses (mask (queryText entries table))) "select" = some clause ∧
      clause.body (queryText entries table) = ' ' :: (entries.text ++ [' ']) ∧
      clause.body (mask (queryText entries table)) = ' ' :: (mask entries.text ++ [' ']) := by
  rw [queryText_eq]
  exact exists_clause_of_contents (isContent entries table) (by simp [sectionsOf])
    (show bodyOf? .select _ = _ from rfl) rfl

end SelectList
end SqlReview
