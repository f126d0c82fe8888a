import SqlReview.Pattern.Letter
import SqlReview.Pattern.Search
import SqlReview.Query.Keyword
import SqlReview.Text.Digit

/-!
# Cutting a text into tokens

An ordered list of rules says how a token may start; at every place the first rule that fits
decides. A character that no rule fits is a token of its own, so the tokens of a text put together
are the text.
-/

namespace SqlReview
namespace Query

/-! ## Lengths of the longer tokens

Each function measures a token from its first character on, or finds that there is none. -/

namespace TokenLength

/-- The number of characters up to the end of the first occurrence of a part, case ignored, with
`count` of them read before. The part is given in small letters. -/
def through (part : Text) : Text → (count : Nat) → Option Nat
  | [], count => if part.isEmpty then some count else none
  | c :: rest, count =>
    if part.isPrefixOf (((c :: rest).take part.length).map Text.lowerChar) then
      some (count + part.length)
    else through part rest (count + 1)

/-- The number of characters up to the end of the line, the line end included. -/
def line : Text → Nat
  | [] => 0
  | '\r' :: '\n' :: _ => 2
  | c :: rest => if c = '\r' || c = '\n' then 1 else line rest + 1

/-- The number of characters through the closing mark of a quoted text of which `count` have been
read. A doubled mark, and after a backslash if `escapes` any mark, does not close the text. If
nothing else closes it, the last such mark does, counted by `fallback`. -/
def closing (mark : Char) (escapes : Bool) :
    Text → (count : Nat) → (fallback : Option Nat) → Option Nat
  | [], _, fallback => fallback
  | [c], count, fallback => if c = mark then some (count + 1) else fallback
  | c :: d :: rest, count, fallback =>
    if c = mark then
      if d = mark then closing mark escapes rest (count + 2) (some (count + 1))
      else some (count + 1)
    else if escapes && c = '\\' && d = mark then
      closing mark escapes rest (count + 2) (some (count + 2))
    else
      closing mark escapes (d :: rest) (count + 1) fallback

/-- A text between two copies of a mark. -/
def quoted (mark : Char) (escapes : Bool) : Text → Option Nat
  | [] => none
  | c :: rest => if c = mark then closing mark escapes rest 1 none else none

/-- Whether a character is a Latin letter of the first 256 code points, case ignored. The
multiplication sign counts as one, the sharp s and the last three small letters do not. -/
def isLatinLetter (c : Char) : Bool :=
  let point := (Text.lowerChar c).toNat
  (0x61 ≤ point && point ≤ 0x7A) || (0xE0 ≤ point && point ≤ 0xFC && point ≠ 0xF7) ||
    point = 0xD7 || point = 0x131 || point = 0x17F

/-- Whether a character may not stand directly behind a number. -/
def joinsNumber (c : Char) : Bool :=
  isLatinLetter c || c = '_'

/-- The opening delimiter of a dollar-quoted text: a dollar sign, perhaps a tag, and a dollar
sign. -/
def dollarDelimiter? (text : Text) : Option Text :=
  match text with
  | '$' :: '$' :: _ => some ['$', '$']
  | '$' :: c :: rest =>
    let tag := rest.takeWhile Text.isWord
    if joinsNumber c && (rest.drop tag.length).head? = some '$' then
      some ('$' :: c :: tag ++ ['$'])
    else none
  | _ => none

/-- A dollar-quoted text, which ends with a second copy of its delimiter. -/
def dollarQuoted (before : Option Char) (text : Text) : Option Nat :=
  if before.any fun c => Text.isWord c || c = '"' || c = '$' then none
  else do
    let delimiter ← dollarDelimiter? text
    through (delimiter.map Text.lowerChar) (text.drop delimiter.length) delimiter.length

/-- A comment up to the end of its line. -/
def lineComment (text : Text) : Option Nat :=
  ((Text.after? "--" text).or (Text.after? "# " text)).map fun body => line body + 2

/-- A comment between delimiters. -/
def blockComment (text : Text) : Option Nat := do
  let body ← Text.after? "/*" text
  through "*/" body 2

/-- The end of a line. -/
def lineBreak : Text → Option Nat
  | '\r' :: '\n' :: _ => some 2
  | c :: _ => if c = '\r' || c = '\n' then some 1 else none
  | [] => none

/-- A name up to its end, if what follows is as required. -/
def nameBefore (follows : Text → Bool) : Text → Option Nat
  | [] => none
  | c :: rest =>
    let tail := (rest.takeWhile Text.isWord).length
    if isLatinLetter c && follows (rest.drop tail) then some (tail + 1) else none

/-- The digits at the start of a text; of digits in front of a letter, all but the last. -/
def digits (text : Text) : Nat :=
  let run := (text.takeWhile Text.isDecimalDigit).length
  if ((text.drop run).head?).any joinsNumber then run - 1 else run

/-- A whole number without a sign. -/
def integer (text : Text) : Option Nat :=
  let count := digits text
  if 0 < count then some count else none

/-- A number with a point and without a sign. -/
def pointed (text : Text) : Option Nat :=
  let whole := (text.takeWhile Text.isDecimalDigit).length
  match text.drop whole with
  | '.' :: fraction =>
    let count := digits fraction
    if 0 < whole then
      if fraction.head?.any joinsNumber then none else some (whole + 1 + count)
    else if 0 < count then some (1 + count)
    else none
  | _ => none

/-- A number with or without a minus sign in front of it. -/
def signed (number : Text → Option Nat) : Text → Option Nat
  | '-' :: rest => (number rest).map (· + 1)
  | text => number text

/-- A bracketed name, not directly behind a word or a closing bracket. -/
def bracketed (before : Option Char) (text : Text) : Option Nat :=
  if before.any fun c => Text.isWord c || c = ']' || c = ')' then none
  else
    match text with
    | '[' :: rest =>
      let body := (rest.takeWhile fun c => c ≠ '[' && c ≠ ']').length
      if 0 < body && (rest.drop body).head? = some ']' then some (body + 2) else none
    | _ => none

/-- A word, which may hold dollar and number signs behind its first character. -/
def word : Text → Option Nat
  | [] => none
  | c :: rest =>
    if Text.isWord c then
      some (1 + (rest.takeWhile fun d => Text.isWord d || d = '$' || d = '#').length)
    else none

/-- One or more characters out of a set. -/
def run (signs : Text) (text : Text) : Option Nat :=
  let count := (text.takeWhile signs.contains).length
  if 0 < count then some count else none

end TokenLength

/-! ## Keywords of several words -/

namespace Phrasing

/-- Words in any mixture of cases with white space between neighbours. -/
def words : List Text → Pattern
  | [] => .nothing
  | [last] => .letters last
  | first :: others => .all [.letters first, .someBlanks, words others]

/-- One of several words in any mixture of cases. -/
def oneOf (choices : List Text) : Pattern :=
  .any (choices.map .letters)

/-- One of several words and the white space behind it, or nothing. -/
def perhapsLed (choices : List Text) : Pattern :=
  .optional (.any (choices.map fun choice => .seq (.letters choice) .someBlanks))

/-- White space and one of several words, or nothing. -/
def perhapsFollowed (choices : List Text) : Pattern :=
  .optional (.seq .someBlanks (oneOf choices))

/-- A word that stays a keyword wherever it stands. -/
def reserved : Pattern :=
  .seq (oneOf ["case", "in", "values", "using", "from", "as"]) .edge

/-- The keywords of a join. -/
def join : Pattern :=
  .all [
    .optional (.alt
      (.seq (perhapsLed ["left", "right", "full"]) (perhapsLed ["inner", "outer", "straight"]))
      (perhapsLed ["cross", "natural"])),
    .letters "join", .edge]

/-- The keywords behind a block. -/
def ending : Pattern :=
  .all [.letters "end", perhapsFollowed ["if", "loop", "while"], .edge]

/-- The direction of a sort key. -/
def direction : Pattern :=
  .all [oneOf ["asc", "desc"],
    .optional (.all [.someBlanks, .letters "nulls", .someBlanks, oneOf ["first", "last"]]), .edge]

/-- Where missing values are sorted. -/
def missingValues : Pattern :=
  .all [.letters "nulls", .someBlanks, oneOf ["first", "last"], .edge]

/-- The keywords that create something. -/
def creation : Pattern :=
  .all [.letters "create", .optional (.seq .someBlanks (words ["or", "replace"])), .edge]

/-- The end of a batch that is run a number of times. -/
def batchEnd : Pattern :=
  .all [.letters "go", .one Text.isBlank, .oneOrMore Text.isDecimalDigit, .edge]

/-- A view on what a table function yields. -/
def lateralView : Pattern :=
  .all [words ["lateral", "view"], .someBlanks,
    oneOf ["explode", "inline", "parse_url_tuple", "posexplode", "stack"], .edge]

/-- A shift to a time zone. -/
def timeZone : Pattern :=
  .all [oneOf ["at", "with'"], .someBlanks, words ["time", "zone"], .someBlanks,
    .char '\'', .oneOrMore (· ≠ '\''), .char '\'']

/-- A comparison word, perhaps negated. -/
def comparison (choices : List Text) : Pattern :=
  .all [perhapsLed ["not"], oneOf choices, .edge]

/-- A place for a value given by a percent sign. -/
def percentPlace : Pattern :=
  .all [.char '%', .optional (.all [.char '(', .oneOrMore Text.isWord, .char ')']), .letter 's']

/-- A place for a value given by a sign and a word. -/
def namedPlace : Pattern :=
  .all [.notAfter Text.isWord, .one "$:?".toList.contains, .oneOrMore Text.isWord]

/-- A word behind a backslash. -/
def command : Pattern :=
  .seq (.char '\\') (.oneOrMore Text.isWord)

/-- A name behind a sign for a variable or a temporary table. -/
def variableName : Pattern :=
  .all [.any [.char '@', .seq (.char '#') (.char '#'), .char '#'],
    .one TokenLength.isLatinLetter, .oneOrMore Text.isWord]

/-- Whether a character is a digit in base sixteen. -/
def isHexadecimalDigit (c : Char) : Bool :=
  Text.isDecimalDigit c || "abcdef".toList.contains (Text.lowerChar c)

/-- A number in base sixteen. -/
def hexadecimal : Pattern :=
  .all [.optional (.char '-'), .char '0', .letter 'x', .oneOrMore isHexadecimalDigit]

/-- A number with an exponent. -/
def exponential : Pattern :=
  .all [.optional (.char '-'), .oneOrMore Text.isDecimalDigit,
    .optional (.seq (.char '.') (.oneOrMore Text.isDecimalDigit)),
    .letter 'e', .optional (.char '-'), .oneOrMore Text.isDecimalDigit]

end Phrasing

/-! ## Rules -/

/-- A way in which a token may start, given the character before it: its kind and its length. -/
abbrev TokenRule := (before : Option Char) → (text : Text) → Option (TokenKind × Nat)

namespace TokenRule

/-- A token of one kind that a function measures. -/
def measured (kind : TokenKind) (length : Text → Option Nat) : TokenRule :=
  fun _ text => (length text).map fun count => (kind, count)

/-- A token of one kind that a pattern describes. -/
def described (kind : TokenKind) (pattern : Pattern) : TokenRule :=
  fun before text =>
    (pattern.occurrenceAt? ⟨before, 0, text⟩).map fun found => (kind, found.length)

/-- A keyword of no narrower class that a pattern describes. -/
def keyword (pattern : Pattern) : TokenRule :=
  described (.keyword .general) pattern

/-- A keyword of several words. -/
def phrase (kind : TokenKind) (words : List Text) : TokenRule :=
  described kind (.seq (Phrasing.words words) .edge)

/-- The first of several texts that a text starts with. -/
def oneOf (kind : TokenKind) (texts : List Text) : TokenRule :=
  measured kind fun text =>
    (texts.find? fun sign => sign.isPrefixOf text).map List.length

/-- A comment, or a hint if a plus sign stands directly behind its opening. -/
def comment (plain hint : TokenKind) (length : Text → Option Nat) : TokenRule :=
  fun _ text => (length text).map fun count =>
    (if (text.take count)[2]? = some '+' then hint else plain, count)

/-- A name in front of a point, perhaps with white space between them. -/
def nameBeforePoint : TokenRule :=
  measured .name (TokenLength.nameBefore fun rest =>
    (rest.dropWhile Text.isBlank).head? = some '.')

/-- A name directly behind a point. -/
def nameAfterPoint : TokenRule :=
  fun before text =>
    if before = some '.' then
      (TokenLength.nameBefore (fun _ => true) text).map fun count => (.name, count)
    else none

/-- A name directly in front of an opening parenthesis. -/
def nameBeforeParenthesis : TokenRule :=
  measured .name (TokenLength.nameBefore fun rest => rest.head? = some '(')

/-- A word looked up among the keywords. -/
def word : TokenRule :=
  fun _ text => (TokenLength.word text).map fun count => (wordKind (text.take count), count)

/-- The rules, the most urgent first. -/
def list : List TokenRule := [
  comment .lineComment .lineHint TokenLength.lineComment,
  comment .blockComment .blockHint TokenLength.blockComment,
  measured .lineBreak TokenLength.lineBreak,
  described .blank (.one Text.isBlank),
  oneOf .assignment [":="],
  oneOf .mark ["::"],
  oneOf .wildcard ["*"],
  measured .name (TokenLength.quoted '\x60' false),
  measured .name (TokenLength.quoted '´' false),
  fun before text => (TokenLength.dollarQuoted before text).map fun count => (.dollarText, count),
  oneOf .placeholder ["?"],
  described .placeholder Phrasing.percentPlace,
  described .placeholder Phrasing.namedPlace,
  described .command Phrasing.command,
  keyword Phrasing.reserved,
  described .name Phrasing.variableName,
  nameBeforePoint,
  nameAfterPoint,
  nameBeforeParenthesis,
  described .hexadecimal Phrasing.hexadecimal,
  described .decimal Phrasing.exponential,
  measured .decimal (TokenLength.signed TokenLength.pointed),
  measured .integer (TokenLength.signed TokenLength.integer),
  measured .quotedText (TokenLength.quoted '\'' true),
  measured .quotedName (TokenLength.quoted '"' true),
  fun before text => (TokenLength.bracketed before text).map fun count => (.name, count),
  keyword Phrasing.join,
  keyword Phrasing.ending,
  phrase (.keyword .general) ["not", "null"],
  described (.keyword .sorting) Phrasing.direction,
  keyword Phrasing.missingValues,
  phrase (.keyword .general) ["union", "all"],
  described (.keyword .definition) Phrasing.creation,
  phrase .builtin ["double", "precision"],
  phrase (.keyword .general) ["group", "by"],
  phrase (.keyword .general) ["order", "by"],
  phrase (.keyword .general) ["primary", "key"],
  phrase (.keyword .general) ["handler", "for"],
  keyword Phrasing.batchEnd,
  keyword Phrasing.lateralView,
  described (.keyword .timeZone) Phrasing.timeZone,
  described .comparison (Phrasing.comparison ["like", "ilike", "rlike"]),
  described .comparison (Phrasing.comparison ["regexp"]),
  word,
  oneOf .mark [";", ":", "(", ")", "[", "]", ",", "."],
  oneOf .operator ["->>", "->", "#>>", "#>", "@>", "<@", "-", "#-"],
  measured .comparison (TokenLength.run "<>=~!"),
  measured .operator (TokenLength.run "+/@#%^&|-")]

end TokenRule

/-! ## Tokens of a text -/

namespace Token

/-- The token at the start of a text that is not empty. -/
def read (before : Option Char) (text : Text) : Token :=
  let (kind, count) := (TokenRule.list.findSome? fun rule => rule before text).getD (.stray, 1)
  ⟨kind, text.take count⟩

/-- The tokens of a text behind a place. The first `skip` characters are already covered. -/
def listFrom : (skip : Nat) → (before : Option Char) → Text → List Token
  | _, _, [] => []
  | skip + 1, _, c :: rest => listFrom skip (some c) rest
  | 0, before, c :: rest =>
    let token := read before (c :: rest)
    token :: listFrom (token.text.length - 1) (some c) rest

/-- The tokens of a text. -/
def list (text : Text) : List Token :=
  listFrom 0 none text

end Token
end Query
end SqlReview
