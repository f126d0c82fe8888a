import SqlReview.Proofs.FromClause.Grammar
import SqlReview.Proofs.Plain.Characters

/-!
# The parts of a FROM clause

Every part of a FROM clause is a piece of a query, with the words of its aliases, joins and conditions
as its only reserved words. Apart from the lists behind USING it is its own top level.
-/

namespace SqlReview
namespace FromClause

open Query Plain

/-! ## Characters -/

theorem ascii_of_isIdentifierChar
    {c : Char}
    (isIdentifier : isIdentifierChar c = true) :
    c.toNat < 128 := by
  rcases Bool.or_eq_true _ _ ▸ isIdentifier with isName | isDollar
  · exact ascii_of_isNameChar isName
  · obtain rfl := of_decide_eq_true isDollar
    decide

/-- The characters of identifiers are none of the marks of a query. -/
theorem of_isIdentifierChar
    {c : Char}
    (isIdentifier : isIdentifierChar c = true) :
    isSolidChar c = true ∧ Text.continuesIdentifier c = true := by
  have ascii := ascii_of_isIdentifierChar isIdentifier
  revert isIdentifier
  apply Text.forall_ascii _ c ascii
  decide

namespace Identifier

variable (identifier : Identifier)

theorem isIdentifierChar_of_mem
    {c : Char}
    (present : c ∈ identifier.text) :
    isIdentifierChar c = true := by
  rcases List.mem_cons.mp present with rfl | inOthers
  · rw [isIdentifierChar, isNameChar, identifier.starts, Bool.true_or, Bool.true_or]
  · exact identifier.continues c inOthers

theorem continuesIdentifier_of_mem :
    ∀ c ∈ identifier.text, Text.continuesIdentifier c = true :=
  fun _ present => (of_isIdentifierChar (identifier.isIdentifierChar_of_mem present)).2

theorem isSolid_text :
    identifier.text.all isSolidChar = true :=
  List.all_eq_true.mpr fun _ present =>
    (of_isIdentifierChar (identifier.isIdentifierChar_of_mem present)).1

theorem keywords_text :
    keywords identifier.text = [] := by
  rw [keywords, List.filter_eq_nil_iff]
  intro word present
  simpa using identifier.isFree word present

theorem isPiece :
    IsPiece [] identifier.text :=
  isPiece_of_isSolid (List.cons_ne_nil _ _) identifier.isSolid_text identifier.keywords_text

theorem uses
    {signs : List Char}
    (dollar : signs.contains '$' = true) :
    Uses signs identifier.text := by
  refine List.all_eq_true.mpr fun c present => ?_
  rcases Bool.or_eq_true _ _ ▸ identifier.isIdentifierChar_of_mem present with isName | isDollar
  · rw [isName, Bool.true_or]
  · obtain rfl := of_decide_eq_true isDollar
    rw [dollar, Bool.or_true]

end Identifier

/-! ## Tables -/

theorem QualifiedName.isPiece (name : QualifiedName) :
    IsPiece [] name.text := by
  obtain ⟨qualifier, name⟩ := name
  cases qualifier with
  | none => exact name.isPiece
  | some qualifier =>
      exact qualifier.isPiece.separated (show ['.'] ∈ separators by decide) name.isPiece

theorem QualifiedName.isSolid_text (name : QualifiedName) :
    name.text.all isSolidChar = true := by
  obtain ⟨qualifier, name⟩ := name
  cases qualifier with
  | none => exact name.isSolid_text
  | some qualifier =>
      have dot : isSolidChar '.' = true := by decide
      rw [text, List.all_append, List.all_cons, qualifier.isSolid_text, name.isSolid_text, dot]
      rfl

theorem QualifiedName.uses
    {signs : List Char}
    (dollar : signs.contains '$' = true)
    (dot : signs.contains '.' = true)
    (name : QualifiedName) :
    Uses signs name.text := by
  obtain ⟨qualifier, name⟩ := name
  cases qualifier with
  | none => exact name.uses dollar
  | some qualifier => exact (qualifier.uses dollar).append ((name.uses dollar).cons dot)

/-- The signs of a table with its alias. -/
def itemSigns : List Char :=
  ['$', '.', ' ']

/-- The reserved words of a table with its alias. -/
def Item.words (item : Item) : List Text :=
  if item.aliasName.any Alias.usesAs then ["as"] else []

theorem Item.isPiece (item : Item) :
    IsPiece item.words item.text := by
  obtain ⟨table, aliasName⟩ := item
  rcases aliasName with _ | ⟨usesAs, name⟩
  · have piece := table.isPiece
    rwa [← List.append_nil table.text] at piece
  · have separated := table.isPiece.separated blank_mem_separators name.isPiece
    cases usesAs with
    | false => exact separated
    | true =>
        have asWord : IsPiece ["as".toList] "AS" :=
          isPiece_of_isSolid (by decide) (by decide) (by decide)
        exact table.isPiece.separated blank_mem_separators
          (asWord.separated blank_mem_separators name.isPiece)

theorem Item.uses (item : Item) :
    Uses itemSigns item.text := by
  obtain ⟨table, aliasName⟩ := item
  refine (table.uses (by decide) (by decide)).append ?_
  rcases aliasName with _ | ⟨usesAs, name⟩
  · rfl
  · have nameUses : Uses itemSigns name.text := name.uses (by decide)
    cases usesAs with
    | false => exact nameUses.cons (by decide)
    | true => exact (show Uses itemSigns " AS ".toList by decide).append nameUses

theorem Item.mask_text (item : Item) :
    mask item.text = item.text :=
  mask_of_uses item.uses (by decide)

/-! ## Joins -/

theorem JoinKind.isPiece (kind : JoinKind) :
    IsPiece (keywords kind.text) kind.text := by
  cases kind <;> exact isPiece_of_words (by decide)

/-- The reserved words of the condition of a join. -/
def Condition.words : Condition → List Text
  | .none => []
  | .on _ _ => ["on"]
  | .shared _ => ["using"]

theorem Condition.words_subset (condition : Condition) :
    condition.words ⊆ ["on".toList, "using".toList] := by
  cases condition <;> simp [words]

theorem Condition.isPiece_append
    (condition : Condition)
    {found : List Text}
    {text : Text}
    (piece : IsPiece found text) :
    IsPiece (found ++ condition.words) (text ++ condition.text) := by
  cases condition with
  | none =>
      change IsPiece (found ++ []) (text ++ [])
      rwa [List.append_nil, List.append_nil]
  | on first second => exact piece.on first.isPiece second.isPiece
  | shared column => exact piece.shared column.isSolid_text column.isPiece.words

/-- The reserved words of a joined table. -/
def JoinedItem.words (joined : JoinedItem) : List Text :=
  keywords joined.kind.text ++ (joined.item.words ++ joined.condition.words)

theorem JoinedItem.isPiece (joined : JoinedItem) :
    IsPiece joined.words joined.text :=
  joined.kind.isPiece.separated blank_mem_separators
    (joined.condition.isPiece_append joined.item.isPiece)

/-! ## Whole clauses -/

/-- What stands in front of the table of a continuation, or of the keywords of its join. -/
def Continuation.separator : Continuation → Text
  | .listed spaced _ => comma spaced
  | .joined _ => [' ']

/-- The reserved words of a continuation. -/
def Continuation.words : Continuation → List Text
  | .listed _ item => item.words
  | .joined next => next.words

/-- The reserved words that can stand in a FROM clause. -/
def sourceWords : List Text :=
  ["as", "join", "inner", "left", "right", "full", "cross", "natural", "outer", "on", "using"]

theorem Item.words_subset (item : Item) :
    item.words ⊆ ["as".toList] := by
  rw [Item.words]
  split <;> simp

theorem Continuation.words_subset (next : Continuation) :
    next.words ⊆ sourceWords := by
  have asWord : ["as".toList] ⊆ sourceWords := by decide
  have itemWords (item : Item) : item.words ⊆ sourceWords :=
    List.Subset.trans item.words_subset asWord
  cases next with
  | listed spaced item => exact itemWords item
  | joined joined =>
      have kinds (kind : JoinKind) : keywords kind.text ⊆ sourceWords := by
        cases kind <;> decide
      have conditions (condition : Condition) : condition.words ⊆ sourceWords :=
        List.Subset.trans condition.words_subset (by decide)
      exact List.append_subset.mpr ⟨kinds _, List.append_subset.mpr ⟨itemWords _, conditions _⟩⟩

/-- A FROM clause: its first table and what follows it. -/
def sourceText (first : Item) (rest : List Continuation) : Text :=
  first.text ++ rest.flatMap Continuation.text

/-- A FROM clause is a piece of a query, in which only certain reserved words can stand. -/
theorem isPiece_sourceText
    (first : Item)
    (rest : List Continuation) :
    IsPiece (keywords (sourceText first rest)) (sourceText first rest) ∧
      keywords (sourceText first rest) ⊆ sourceWords := by
  have areSeparators (next : Continuation) : next.separator ∈ separators := by
    cases next with
    | listed spaced item => exact comma_mem_separators spaced
    | joined joined => exact blank_mem_separators
  let bodyOf : Continuation → Text
    | .listed _ item => item.text
    | .joined next => next.text
  have arePieces (next : Continuation) : IsPiece next.words (bodyOf next) := by
    cases next with
    | listed spaced item => exact item.isPiece
    | joined joined => exact joined.isPiece
  have texts : Continuation.text = fun next => next.separator ++ bodyOf next := by
    funext next
    cases next <;> rfl
  have piece := first.isPiece.flatMap areSeparators arePieces rest
  rw [← texts] at piece
  have words : keywords (sourceText first rest) =
      first.words ++ rest.flatMap Continuation.words := piece.words
  refine ⟨words ▸ piece, ?_⟩
  rw [words]
  refine List.append_subset.mpr ⟨?_, fun word present => ?_⟩
  · exact (Continuation.listed false first).words_subset
  · obtain ⟨next, -, inNext⟩ := List.mem_flatMap.mp present
    exact next.words_subset inNext

end FromClause
end SqlReview
