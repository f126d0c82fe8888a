import SqlReview.Proofs.FromClause.Reference
import SqlReview.Proofs.Plain.Items
import SqlReview.Proofs.Query.Sources

/-!
# What is recorded of a FROM clause

Tables are recorded in the order of appearance, each once; aliases with the table for which they
stand first; joins with the table before them. The tables in front of the first join are the items of
a list.
-/

namespace SqlReview
namespace FromClause

open Query Plain

/-! ## Tables, aliases and joins -/

/-- Whether two names are the same, case ignored. -/
def sameName (name known : Text) : Bool :=
  Text.lower known = Text.lower name

/-- Names in the order of appearance, each once, case ignored. -/
def distinctNames (names : List Text) : List Text :=
  names.eraseDupsBy sameName

/-- Whether two entries are for the same alias. -/
def sameAlias (entry known : Text × Text) : Bool :=
  known.1 = entry.1

/-- Aliases in the order of appearance, each with what it stands for first. -/
def firstMeanings (aliases : List (Text × Text)) : List (Text × Text) :=
  aliases.eraseDupsBy sameAlias

/-- The tables listed in front of the first join of a FROM clause, behind its first table. -/
def listedFirst : List Continuation → List Item
  | .listed _ item :: rest => item :: listedFirst rest
  | .joined _ :: _ => []
  | [] => []

/-- The joined tables of a FROM clause. -/
def joinedItems (rest : List Continuation) : List JoinedItem :=
  rest.filterMap fun
    | .listed _ _ => none
    | .joined next => some next

/-- The joins of joined tables, given the name of the table before the first of them. -/
def joinsFrom (previous : Text) : List JoinedItem → List Join
  | [] => []
  | next :: others =>
    ⟨previous, next.item.table.text, next.kind.text, next.condition.isOn,
      next.condition.isShared⟩ :: joinsFrom next.item.table.text others

/-! ## Recording items -/

/-- Something recorded behind all that is known, unless it is the same as something known. -/
def addNew {α : Type} (same : α → α → Bool) (known : List α) (item : α) : List α :=
  if known.any (same item) then known else known ++ [item]

theorem foldl_addNew
    {α : Type}
    (same : α → α → Bool)
    (items known : List α) :
    items.foldl (addNew same) known = List.eraseDupsBy.loop same items known.reverse := by
  induction items generalizing known with
  | nil => exact (List.reverse_reverse known).symm
  | cons item items inductionHypothesis =>
      rw [List.foldl_cons, inductionHypothesis, List.eraseDupsBy.loop, List.any_reverse, addNew]
      cases known.any (same item) with
      | true => rfl
      | false => exact congrArg _ List.reverse_concat

theorem foldl_addNew_nil
    {α : Type}
    (same : α → α → Bool)
    (items : List α) :
    items.foldl (addNew same) [] = items.eraseDupsBy same :=
  foldl_addNew same items []

/-- A name is recorded, case ignored, just if it is one of the names. -/
theorem lower_mem_distinctNames
    {names : List Text}
    {name : Text} :
    Text.lower name ∈ (distinctNames names).map Text.lower ↔
      ∃ other ∈ names, Text.lower other = Text.lower name := by
  have fold (known : List Text) :
      Text.lower name ∈ (names.foldl (addNew sameName) known).map Text.lower ↔
        Text.lower name ∈ known.map Text.lower ∨ Text.lower name ∈ names.map Text.lower := by
    induction names generalizing known with
    | nil => simp
    | cons other names inductionHypothesis =>
        rw [List.foldl_cons, inductionHypothesis, addNew]
        split
        next same =>
            obtain ⟨before, isKnown, equal⟩ := List.any_eq_true.mp same
            have equal : Text.lower before = Text.lower other := of_decide_eq_true equal
            have repeated : Text.lower name = Text.lower other →
                Text.lower name ∈ known.map Text.lower := fun isOther =>
              isOther ▸ equal ▸ List.mem_map_of_mem isKnown
            rw [List.map_cons, List.mem_cons, ← or_assoc, or_iff_left_of_imp repeated]
        next =>
            simp only [List.map_append, List.mem_append, List.map_cons, List.map_nil,
              List.mem_cons, List.not_mem_nil, or_false, or_assoc]
  rw [distinctNames, ← foldl_addNew_nil, fold]
  simp

/-- What is recorded, with further tables, their aliases and joins. -/
def record (sources : Sources) (items : List Item) (joins : List Join) : Sources :=
  ⟨(items.map (·.table.text)).foldl (addNew sameName) sources.tables,
    (items.filterMap Item.alias?).foldl (addNew sameAlias) sources.aliases,
    sources.joins ++ joins⟩

theorem record_record
    (sources : Sources)
    (items others : List Item)
    (joins further : List Join) :
    record (record sources items joins) others further =
      record sources (items ++ others) (joins ++ further) := by
  simp [record]

theorem record_empty
    (items : List Item)
    (joins : List Join) :
    record {} items joins =
      ⟨distinctNames (items.map (·.table.text)), firstMeanings (items.filterMap Item.alias?),
        joins⟩ := by
  rw [record, foldl_addNew_nil, foldl_addNew_nil]
  rfl

theorem addTable_eq
    (sources : Sources)
    (table : Text) :
    sources.addTable table =
      ⟨addNew sameName sources.tables table, sources.aliases, sources.joins⟩ := by
  have known : (sources.tables.map Text.lower).contains (Text.lower table) =
      sources.tables.any (sameName table) := by
    rw [Bool.eq_iff_iff, List.contains_iff_mem, List.mem_map, List.any_eq_true]
    simp [sameName]
  rw [Sources.addTable, addNew, known]
  split <;> rfl

theorem addAlias_eq
    (sources : Sources)
    (name table : Text) :
    sources.addAlias name table =
      ⟨sources.tables, addNew sameAlias sources.aliases (name, table), sources.joins⟩ := by
  unfold Sources.addAlias addNew sameAlias
  split <;> rfl

theorem addReference_eq
    (sources : Sources)
    (item : Item) :
    sources.addReference item.reference = record sources [item] [] := by
  obtain ⟨name, aliasName⟩ := item
  rw [record, List.append_nil]
  cases aliasName with
  | none => exact addTable_eq sources name.text
  | some aliasName =>
      change (sources.addTable name.text).addAlias aliasName.name.text name.text = _
      rw [addTable_eq, addAlias_eq]
      rfl

/-- Items are recorded in order. -/
theorem foldl_addReference
    (items : List Item)
    (sources : Sources) :
    (items.map Item.reference).foldl Sources.addReference sources = record sources items [] := by
  induction items generalizing sources with
  | nil => simp [record]
  | cons item items inductionHypothesis =>
      rw [List.map_cons, List.foldl_cons, inductionHypothesis, addReference_eq, record_record]
      rfl

/-! ## Items in front of the joins -/

/-- Further tables, each behind a comma. -/
def listedItems (others : List (Bool × Item)) : Text :=
  others.flatMap fun other => comma other.1 ++ other.2.text

theorem listedItems_eq (others : List (Bool × Item)) :
    listedItems others = listedText (others.map fun other => (other.1, other.2.text)) := by
  rw [listedText, List.flatMap_map]
  rfl

theorem Item.isItem (item : Item) :
    IsItem item.text :=
  ⟨item.isPiece.tight, item.uses.not_mem (by decide) (by decide)⟩

theorem Item.reference_self (item : Item) :
    Query.reference item.text item.text = item.reference := by
  have whole := item.reference_eq (List.forall_mem_nil _) EndsItem.nothing EndsItem.nothing
    (List.forall_mem_nil _)
  simpa using whole

/-- The items at the offsets of a list are recorded in order, and the last one is carried on. -/
theorem foldl_spans
    {body masked : Text}
    {items : List Item}
    {spans : List Span}
    (found : List.Forall₂ (fun span item => span.of body = item ∧ span.of masked = item) spans
      (items.map Item.text))
    (sources : Sources)
    (previous : Option Text) :
    spans.foldl
      (fun (collected, previous) span =>
        let item := Query.reference (span.of body) (span.of masked)
        (collected.addReference item, item.name?.or previous))
      (sources, previous) =
        (record sources items [], (items.getLast?.map (·.table.text)).or previous) := by
  rw [← foldl_addReference]
  induction items generalizing spans sources previous with
  | nil =>
      obtain rfl := List.forall₂_nil_right_iff.mp found
      rfl
  | cons item items inductionHypothesis =>
      obtain ⟨span, others, ⟨inBody, inMasked⟩, foundOthers, rfl⟩ :=
        List.forall₂_cons_right_iff.mp found
      rw [List.foldl_cons]
      simp only [inBody, inMasked, item.reference_self]
      rw [inductionHypothesis foundOthers]
      cases items <;> rfl

/-- The tables in front of the first join are recorded, whatever follows the list of them. -/
theorem collectHeads_eq
    (first : Item)
    (others : List (Bool × Item))
    {closing : Text}
    (isGap : IsGap closing)
    (rest : Text)
    (sources : Sources) :
    collectHeads (' ' :: (first.text ++ (listedItems others ++ closing)) ++ rest)
        (' ' :: (first.text ++ (listedItems others ++ closing))) sources =
      (record sources (first :: others.map Prod.snd) [],
        some (((others.map Prod.snd).getLast?.getD first).table.text)) := by
  have areItems : ∀ other ∈ others.map fun other => (other.1, other.2.text), IsItem other.2 := by
    intro other present
    obtain ⟨item, -, rfl⟩ := List.mem_map.mp present
    exact item.2.isItem
  have found := forall₂_spans first.isItem areItems (.inr rfl : IsGap [' ']) isGap
  rw [← listedItems_eq, List.map_map] at found
  have items : first.text :: others.map (Prod.snd ∘ fun other => (other.1, other.2.text)) =
      (first :: others.map Prod.snd).map Item.text := by
    simp
  rw [items] at found
  have recorded := foldl_spans (found.imp fun span item here =>
    ⟨here rest, by simpa using here []⟩) sources none
  rw [List.getLast?_cons, Option.map_some, Option.some_or] at recorded
  exact recorded

end FromClause
end SqlReview
