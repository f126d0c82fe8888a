import SqlReview.Query.Clause
import SqlReview.Query.Items
import SqlReview.Query.Name
import SqlReview.Text.Basic

/-!
# Tables and joins

The body of a FROM clause is a list of tables and derived tables, followed by joins. Each join
connects the table before it with its own table; a later join connects to the table of the one
before.
-/

namespace SqlReview
namespace Query

/-- A join between two tables. -/
structure Join where
  /-- The table before the join. -/
  left : Text
  /-- The table that is joined. -/
  right : Text
  /-- The keywords of the join. -/
  kind : Text := "JOIN"
  /-- Whether an ON condition follows. -/
  hasOn : Bool := false
  /-- Whether a USING list follows. -/
  hasUsing : Bool := false
  deriving DecidableEq, Repr

/-- The tables that have been met, and how they are connected. -/
structure Sources where
  /-- The tables in the order of appearance, each once, case ignored. -/
  tables : List Text := []
  /-- The aliases in the order of appearance, each with its first table. -/
  aliases : List (Text × Text) := []
  /-- The joins in the order of appearance. -/
  joins : List Join := []
  deriving DecidableEq, Repr

/-! ## Patterns -/

/-- A word and the white space behind it, perhaps missing. -/
def optionalWord (word : Text) : Pattern :=
  .optional (.seq (.letters word) .someBlanks)

/-- The keywords of a join. -/
def joinKeyword : Pattern :=
  .all [.edge,
    optionalWord "natural",
    .optional (.seq
      (.any [.letters "inner", .letters "cross", .letters "left", .letters "right",
        .letters "full"])
      .someBlanks),
    optionalWord "outer", .letters "join", .edge]

/-- A table, recorded as group 1, perhaps with an alias, recorded as group 2. -/
def tableReference : Pattern :=
  .all [.textStart, .blanks,
    .optional (.alt
      (.seq (.letters "lateral") .someBlanks)
      (.seq (.letters "only") .someBlanks)),
    .group 1 (.seq namePart (.star (.seq dot namePart))),
    .optional (.all [.someBlanks, optionalWord "as", .group 2 .identifier])]

/-- A derived table, perhaps with an alias, recorded as group 2. -/
def derivedTable : Pattern :=
  .all [.textStart, .blanks, optionalWord "lateral", .char '(',
    .many (fun c => c ≠ '(' && c ≠ ')'), .char ')', .blanks, optionalWord "as",
    .optional (.group 2 .identifier)]

/-- The word ON. -/
def onKeyword : Pattern :=
  .word "on"

/-- The word USING and an opening parenthesis. -/
def usingKeyword : Pattern :=
  .all [.edge, .letters "using", .blanks, .char '(']

/-! ## References -/

/-- A reference in a FROM clause: the table, unless it is a derived one, and the alias. -/
structure Reference where
  /-- The name of the table. -/
  table : Option Text
  /-- The alias. -/
  aliasName : Option Text
  deriving DecidableEq, Repr

/-- The alias that an occurrence records, unless it is a keyword. -/
def aliasOf (occurrence : Occurrence) : Option Text :=
  ((occurrence.group? 2).map (·.text)).filter fun name => !isAmong nonAliasWords name

/-- Whether a reference is a derived table, given its top level. -/
def isDerived (masked : Text) : Bool :=
  let text := Text.lower (masked.dropWhile Text.isBlank)
  "(".toList.isPrefixOf text || "lateral (".toList.isPrefixOf text ||
    "lateral(".toList.isPrefixOf text

/-- The reference that an item of a FROM clause or the target of a join makes. -/
def reference (text masked : Text) : Reference :=
  if isDerived masked then
    ⟨none, (derivedTable.atStart? masked).bind aliasOf⟩
  else
    match tableReference.atStart? text with
    | none => ⟨none, none⟩
    | some occurrence =>
      let table := cleanName (occurrence.groupText 1)
      if isAmong nonAliasWords table || isAmong ["select"] table then ⟨none, none⟩
      else ⟨some table, aliasOf occurrence⟩

/-! ## Collecting -/

namespace Sources

/-- A table recorded, unless it is there in some mixture of cases. -/
def addTable (sources : Sources) (table : Text) : Sources :=
  if (sources.tables.map Text.lower).contains (Text.lower table) then sources
  else { sources with tables := sources.tables ++ [table] }

/-- An alias recorded for a table, unless it is there. -/
def addAlias (sources : Sources) (name table : Text) : Sources :=
  if sources.aliases.any (·.1 = name) then sources
  else { sources with aliases := sources.aliases ++ [(name, table)] }

/-- A reference recorded: its table, and its alias with the table or as a subquery. -/
def addReference (sources : Sources) (reference : Reference) : Sources :=
  let withTable := match reference.table with
    | some table => sources.addTable table
    | none => sources
  match reference.aliasName with
  | some name => withTable.addAlias name (reference.table.getD "(subquery)")
  | none => withTable

end Sources

/-- The name under which joins know a reference. -/
def Reference.name? (reference : Reference) : Option Text :=
  reference.table.or reference.aliasName

/-- What stands for a table that is not known. -/
def unknownTable : Text :=
  "(unknown)"

/-- The items before the first join collected, with the name of the last one that has a name. -/
def collectHeads (body masked : Text) (sources : Sources) : Sources × Option Text :=
  (spans masked).foldl
    (fun (collected, previous) span =>
      let item := reference (span.of body) (span.of masked)
      (collected.addReference item, item.name?.or previous))
    (sources, none)

/-- The target of a join, with its condition: it ends where the next join starts. -/
def joinTarget (keyword : Occurrence) (next : Option Occurrence) (text : Text) : Text :=
  Text.slice text keyword.stop ((next.map (·.start)).getD text.length)

/-- The joins collected, given the name of the table before the first one. -/
def collectJoins (body masked : Text) (previous : Option Text) (sources : Sources) :
    List Occurrence → Sources
  | [] => sources
  | keyword :: rest =>
    let target := joinTarget keyword rest.head? body
    let maskedTarget := joinTarget keyword rest.head? masked
    let item := reference target maskedTarget
    let right := item.name?.getD unknownTable
    let join : Join :=
      { left := previous.getD unknownTable
        right := right
        kind := Text.upper (Text.collapse keyword.text)
        hasOn := onKeyword.occursIn maskedTarget
        hasUsing := usingKeyword.occursIn maskedTarget }
    let collected := sources.addReference item
    collectJoins body masked (some right) { collected with joins := collected.joins ++ [join] } rest

/-- The body of a FROM clause collected. -/
def collectFrom (body masked : Text) (sources : Sources) : Sources :=
  let joins := joinKeyword.occurrences masked
  let headEnd := (joins.head?.map (·.start)).getD body.length
  let (heads, previous) := collectHeads body (masked.take headEnd) sources
  collectJoins body masked previous heads joins

/-- The tables and joins of a query or subquery collected. -/
def collectSources (text masked : Text) (sources : Sources) : Sources :=
  match clause? (clauses masked) "from" with
  | some clause => collectFrom (clause.body text) (clause.body masked) sources
  | none => sources

end Query
end SqlReview
