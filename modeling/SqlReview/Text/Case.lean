import SqlReview.Text.Basic
import SqlReview.Text.CaseTable

/-!
# Upper and lower case

Case mapping of whole texts. One character may become several, and a capital sigma becomes the
final form of the small sigma at the end of a word.
-/

namespace SqlReview
namespace Text

/-- Where a row `(last, step, shift)` starting at `first` moves a code point. -/
def shiftBy (row : Nat × Nat × Nat × Int) (point : Nat) : Nat :=
  if point ≤ row.2.1 && (point - row.1) % row.2.2.1 = 0 then (point + row.2.2.2).toNat else point

/-- Where a table of rows moves a code point. -/
def shiftIn (rows : Array (Nat × Nat × Nat × Int)) (point : Nat) : Nat :=
  match findRow? rows point with
  | some row => shiftBy row point
  | none => point

/-! ## Lower case -/

/-- The lower-case form of a character, as far as it is one character. The dotted capital I
becomes a plain small i. -/
def lowerChar (c : Char) : Char :=
  if c.toNat < 0x80 then
    if 'A' ≤ c && c ≤ 'Z' then Char.ofNat (c.toNat + 32) else c
  else if c = '\u0130' then 'i'
  else Char.ofNat (shiftIn lowerRows c.toNat)

/-- Whether a capital sigma can lean on a character. -/
def isCased (c : Char) : Bool :=
  if c.toNat < 0x80 then ('A' ≤ c && c ≤ 'Z') || ('a' ≤ c && c ≤ 'z')
  else inRanges casedRanges c.toNat

/-- Whether a character is skipped when the surroundings of a capital sigma are examined. -/
def isCaseIgnorable (c : Char) : Bool :=
  inRanges caseIgnorableRanges c.toNat

/-- Whether a cased character comes next, ignorable characters aside. -/
def leansOnCased (rest : Text) : Bool :=
  match rest.dropWhile isCaseIgnorable with
  | [] => false
  | c :: _ => isCased c

/-- The lower-case form of a character in its surroundings. `afterCased` tells whether a cased
character stands before it, ignorable characters aside, and `rest` is what follows it. -/
def lowerAt (afterCased : Bool) (rest : Text) (c : Char) : Text :=
  if c = '\u03A3' then
    if afterCased && !leansOnCased rest then ['\u03C2'] else ['\u03C3']
  else if c = '\u0130' then ['i', '\u0307']
  else [lowerChar c]

/-- The lower-case form of a text in its surroundings. -/
def lowerFrom (afterCased : Bool) : Text → Text
  | [] => []
  | c :: rest =>
    if c.toNat < 0x80 && !(c = '\'' || c = '.' || c = ':' || c = '^' || c = '\x60') then
      lowerChar c :: lowerFrom (isCased c) rest
    else
      lowerAt afterCased rest c ++
        lowerFrom (if isCaseIgnorable c then afterCased else isCased c) rest

/-- The lower-case form of a text. -/
def lower (text : Text) : Text :=
  lowerFrom false text

/-! ## Upper case -/

/-- The upper-case form of a character. -/
def upperChar (c : Char) : Text :=
  if c.toNat < 0x80 then
    if 'a' ≤ c && c ≤ 'z' then [Char.ofNat (c.toNat - 32)] else [c]
  else
    match (findRow? upperExpansions c.toNat).filter (·.1 = c.toNat) with
    | some row => row.2.map Char.ofNat
    | none => [Char.ofNat (shiftIn upperRows c.toNat)]

/-- The upper-case form of a text. -/
def upper (text : Text) : Text :=
  text.flatMap upperChar

end Text
end SqlReview
