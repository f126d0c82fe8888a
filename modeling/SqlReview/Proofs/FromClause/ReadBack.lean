import SqlReview.Proofs.FromClause.Extraction
import SqlReview.Query.Comment

/-!
# Tables read back

A chain of tables, listed ones followed by joined ones, is read back as a whole. Where lists and joins
alternate, a FROM clause is read as if its list ended at the first join.
-/

namespace SqlReview
namespace FromClause

open Query Plain

/-! ## Chains -/

/-- Tables with commas between them, followed by joined tables. -/
structure Chain where
  /-- The first table. -/
  first : Item
  /-- The other listed tables. -/
  others : List Item
  /-- The joined tables. -/
  joined : List JoinedItem

namespace Chain

variable (chain : Chain)

def text : Text :=
  Text.join ", " ((chain.first :: chain.others).map Item.text) ++
    chain.joined.flatMap fun next => ' ' :: next.text

/-- All tables in the order of appearance. -/
def items : List Item :=
  chain.first :: chain.others ++ chain.joined.map (·.item)

/-- The last table in front of the joins. -/
def last : Item :=
  chain.others.getLast?.getD chain.first

/-- What follows the first table. -/
def rest : List Continuation :=
  chain.others.map (.listed true) ++ chain.joined.map .joined

theorem text_eq :
    chain.text = sourceText chain.first chain.rest := by
  have listed (first : Item) (others : List Item) :
      Text.join ", " ((first :: others).map Item.text) =
        first.text ++ others.flatMap fun item => comma true ++ item.text := by
    induction others generalizing first with
    | nil => simp [Text.join]
    | cons next others inductionHypothesis =>
        have later := inductionHypothesis next
        simp only [Text.join, List.map_cons] at later ⊢
        rw [List.intercalate_cons_cons, later]
        simp [comma]
  rw [text, listed, sourceText, rest, List.flatMap_append, List.flatMap_map, List.flatMap_map,
    List.append_assoc]
  rfl

theorem items_eq :
    chain.first :: listedFirst chain.rest ++ (joinedItems chain.rest).map (·.item) = chain.items ∧
      listedFirst chain.rest = chain.others ∧ joinedItems chain.rest = chain.joined := by
  have listed (others : List Item) :
      listedFirst (others.map (.listed true) ++ chain.joined.map .joined) = others ∧
        joinedItems (others.map (.listed true) ++ chain.joined.map .joined) = chain.joined := by
    induction others with
    | nil =>
        refine ⟨?_, by simp [joinedItems, List.filterMap_map]⟩
        cases chain.joined <;> rfl
    | cons item others inductionHypothesis =>
        exact ⟨congrArg (item :: ·) inductionHypothesis.1, inductionHypothesis.2⟩
  obtain ⟨others, joined⟩ := listed chain.others
  change listedFirst chain.rest = _ at others
  change joinedItems chain.rest = _ at joined
  rw [others, joined]
  exact ⟨rfl, rfl, rfl⟩

/-- The tables of a chain are read back in order, each once, case ignored; the aliases with the table
for which they stand first; and every joined table as a join from the table before it. -/
theorem read_back [CommentRemover] (column : Identifier) :
    (Structure.extract (queryText column chain.text)).tables =
        distinctNames (chain.items.map (·.table.text)) ∧
      (Structure.extract (queryText column chain.text)).aliases =
        firstMeanings (chain.items.filterMap Item.alias?) ∧
      (Structure.extract (queryText column chain.text)).joins =
        joinsFrom chain.last.table.text chain.joined := by
  obtain ⟨items, others, joined⟩ := chain.items_eq
  have sources := allSources_queryText column chain.first chain.rest
  rw [items, others, joined] at sources
  rw [text_eq, extract_queryText, Structure.ofNormal, sources]
  exact ⟨rfl, rfl, rfl⟩

/-- A table that comes twice is recorded once, and an alias that comes twice stands for the first
table. -/
theorem read_back_twice :
    ∃ (column : Identifier) (chain : Chain),
      queryText column chain.text = "SELECT c FROM a x, b LEFT JOIN A AS x ON x.k = b.k" ∧
      (Structure.extract (queryText column chain.text)).tables = ["a".toList, "b".toList] ∧
      (Structure.extract (queryText column chain.text)).aliases = ([("x", "a")] : List (Text × Text)) ∧
      (Structure.extract (queryText column chain.text)).joins =
        joinsFrom chain.last.table.text chain.joined := by
  let b : Identifier := .ofChar 'b' rfl (by decide)
  let k : Identifier := .ofChar 'k' rfl (by decide)
  let x : Identifier := .ofChar 'x' rfl (by decide)
  let chain : Chain :=
    ⟨⟨⟨none, .ofChar 'a' rfl (by decide)⟩, some ⟨false, x⟩⟩, [.plain b],
      [⟨.left, ⟨⟨none, .ofChar 'A' rfl (by decide)⟩, some ⟨true, x⟩⟩, .on ⟨some x, k⟩ ⟨some b, k⟩⟩]⟩
  obtain ⟨tables, aliases, joins⟩ := chain.read_back (.ofChar 'c' rfl (by decide))
  exact ⟨_, chain, by decide, tables.trans (by decide), aliases.trans (by decide), joins⟩

end Chain

/-! ## Lists of chains -/

/-- A table with the tables that are joined to it. -/
structure Entry where
  /-- The table. -/
  item : Item
  /-- The joined tables. -/
  joined : List JoinedItem

namespace Entry

def text (entry : Entry) : Text :=
  entry.item.text ++ entry.joined.flatMap fun next => ' ' :: next.text

/-- The tables of an entry. -/
def items (entry : Entry) : List Item :=
  entry.item :: entry.joined.map (·.item)

end Entry

/-- Entries with commas between them. -/
structure Listing where
  /-- The first entry. -/
  first : Entry
  /-- The others, each with whether a blank follows the comma in front of it. -/
  others : List (Bool × Entry)

/-- The tables of entries up to the first one with joins. -/
def itemsUpToJoin : List Entry → List Item
  | [] => []
  | entry :: rest => entry.item :: if entry.joined.isEmpty then itemsUpToJoin rest else []

namespace Listing

variable (listing : Listing)

def text : Text :=
  listing.first.text ++ listing.others.flatMap fun other => comma other.1 ++ other.2.text

/-- The entries in order. -/
def entries : List Entry :=
  listing.first :: listing.others.map Prod.snd

/-- All tables in the order of appearance. -/
def items : List Item :=
  listing.entries.flatMap Entry.items

/-- The tables that are looked at: those in front of the first join, and the joined ones. -/
def readItems : List Item :=
  itemsUpToJoin listing.entries ++ (listing.entries.flatMap (·.joined)).map (·.item)

/-- What follows the first table. -/
def rest : List Continuation :=
  listing.first.joined.map .joined ++
    listing.others.flatMap fun other => .listed other.1 other.2.item :: other.2.joined.map .joined

theorem text_eq :
    listing.text = sourceText listing.first.item listing.rest := by
  rw [text, Entry.text, sourceText, rest, List.flatMap_append, List.flatMap_map,
    List.flatMap_assoc, List.append_assoc]
  simp [Entry.text, Continuation.text, List.flatMap_map]

theorem listedFirst_joined
    (joined : List JoinedItem)
    (rest : List Continuation) :
    listedFirst (joined.map .joined ++ rest) = if joined.isEmpty then listedFirst rest else [] := by
  cases joined <;> rfl

theorem joinedItems_joined
    (joined : List JoinedItem)
    (rest : List Continuation) :
    joinedItems (joined.map .joined ++ rest) = joined ++ joinedItems rest := by
  simp [joinedItems, List.filterMap_append, List.filterMap_map]

theorem readItems_eq :
    listing.first.item :: listedFirst listing.rest ++ (joinedItems listing.rest).map (·.item) =
      listing.readItems := by
  let continuations (others : List (Bool × Entry)) : List Continuation :=
    others.flatMap fun other => .listed other.1 other.2.item :: other.2.joined.map .joined
  have listed (first : Entry) (others : List (Bool × Entry)) :
      first.item :: listedFirst (first.joined.map .joined ++ continuations others) =
        itemsUpToJoin (first :: others.map Prod.snd) := by
    induction others generalizing first with
    | nil =>
        rw [listedFirst_joined]
        rfl
    | cons next others inductionHypothesis =>
        have later : listedFirst (continuations (next :: others)) =
            itemsUpToJoin (next.2 :: others.map Prod.snd) := inductionHypothesis next.2
        rw [listedFirst_joined, later]
        rfl
  have joined (others : List (Bool × Entry)) :
      joinedItems (continuations others) = (others.map Prod.snd).flatMap (·.joined) := by
    induction others with
    | nil => rfl
    | cons next others inductionHypothesis =>
        rw [List.map_cons, List.flatMap_cons, ← inductionHypothesis, ← joinedItems_joined]
        rfl
  change _ :: listedFirst (listing.first.joined.map .joined ++ continuations listing.others) ++
    (joinedItems (listing.first.joined.map .joined ++ continuations listing.others)).map _ = _
  rw [listed, joinedItems_joined, joined]
  rfl

/-- Exactly the tables in front of the first join and the joined ones are recorded, each once, case
ignored. A table that is listed behind a join is not, unless another one has its name. -/
theorem recorded_iff [CommentRemover] (column : Identifier) :
    (Structure.extract (queryText column listing.text)).tables =
        distinctNames (listing.readItems.map (·.table.text)) ∧
      ∀ name, Text.lower name ∈
          (Structure.extract (queryText column listing.text)).tables.map Text.lower ↔
        ∃ item ∈ listing.readItems, Text.lower item.table.text = Text.lower name := by
  have sources := allSources_queryText column listing.first.item listing.rest
  rw [readItems_eq] at sources
  have tables : (Structure.extract (queryText column listing.text)).tables =
      distinctNames (listing.readItems.map (·.table.text)) := by
    rw [text_eq, extract_queryText, Structure.ofNormal, sources]
  refine ⟨tables, fun name => ?_⟩
  rw [tables, lower_mem_distinctNames]
  simp

end Listing

/-- A table listed behind a join is not recorded. -/
theorem Listing.drops_table :
    ∃ (column : Identifier) (listing : Listing) (item : Item),
      queryText column listing.text = "SELECT c FROM a JOIN b, d" ∧ item ∈ listing.items ∧
        Text.lower item.table.text ∉
          (Structure.extract (queryText column listing.text)).tables.map Text.lower := by
  let a : Item := .plain (.ofChar 'a' rfl (by decide))
  let b : Item := .plain (.ofChar 'b' rfl (by decide))
  let d : Item := .plain (.ofChar 'd' rfl (by decide))
  exact ⟨.ofChar 'c' rfl (by decide), ⟨⟨a, [⟨.plain, b, .none⟩]⟩, [(true, ⟨d, []⟩)]⟩, d, by decide,
    by simp [Listing.items, Listing.entries, Entry.items], by decide +kernel⟩

end FromClause
end SqlReview
