import SqlReview.Text.Digit
import SqlReview.Text.Quoted

/-!
# Arguments

The command line consists of the name of a query file and of options. Long options may be
shortened as long as it is clear which is meant, and may have their value behind an equals sign.
Two hyphens alone end the options. What is wrong is reported in the order of reading, except that a
missing file and words that belong nowhere are noticed at the end.
-/

namespace SqlReview
namespace Command

/-! ## Options -/

/-- An option. -/
inductive Flag where
  /-- Asks for help. -/
  | help
  /-- Names the database engine. -/
  | database
  /-- Names a file with table definitions. -/
  | schema
  /-- Names a file with an execution plan. -/
  | plan
  /-- Asks for a consultation. -/
  | advisor
  /-- Names a file of settings. -/
  | config
  deriving DecidableEq, Repr

namespace Flag

/-- Whether an option has a value. -/
def hasValue : Flag → Bool
  | .help | .advisor => false
  | _ => true

/-- The options by their long names. -/
def longNames : List (Text × Flag) :=
  [("--help", .help), ("--db", .database), ("--schema", .schema), ("--plan", .plan),
    ("--advisor", .advisor), ("--config", .config)]

/-- All names of an option, as complaints show them. -/
def label : Flag → Text
  | .help => "-h/--help"
  | .database => "--db"
  | .schema => "--schema"
  | .plan => "--plan"
  | .advisor => "--advisor"
  | .config => "--config"

end Flag

/-! ## Words -/

/-- What a word of the command line is taken for. -/
inductive Mark where
  /-- An option, with a value attached or not. -/
  | flag (flag : Flag) (attached : Option Text)
  /-- The option that asks for help by its short name, with what is written behind it. -/
  | shortHelp (tail : Text)
  /-- An option that does not exist. -/
  | stranger
  /-- A plain word. -/
  | plain
  /-- The end of the options. -/
  | separator

/-- Whether a word is a negative number: digits behind a hyphen, perhaps with a point among or
before them, and perhaps a final line break. -/
def isNegativeNumber (word : Text) : Bool :=
  match word with
  | '-' :: numeral =>
    let whole := numeral.takeWhile Text.isDecimalDigit
    let atEnd (rest : Text) : Bool := rest = [] || rest = ['\n']
    match numeral.drop whole.length with
    | '.' :: fraction =>
      let digits := fraction.takeWhile Text.isDecimalDigit
      !digits.isEmpty && atEnd (fraction.drop digits.length)
    | rest => !whole.isEmpty && atEnd rest
  | _ => false

/-- The complaint about a word that could be several options. -/
def ambiguous (word : Text) (names : List Text) : Text :=
  "ambiguous option: ".toList ++ word ++ " could match ".toList ++ Text.join ", " names

/-- The options that a word may be a shortened name of, with the value attached to it. -/
def shortened (word : Text) : List (Text × Flag × Option Text) :=
  let (name, attached) := Text.cut '=' word
  (Flag.longNames.filter fun entry => name.isPrefixOf entry.1).map fun entry =>
    (entry.1, entry.2, attached)

/-- The mark of a word that starts with a hyphen and is no option. -/
def markOther (word : Text) : Mark :=
  if isNegativeNumber word || word.contains ' ' then .plain else .stranger

/-- The mark of a word that starts with two hyphens and more. -/
def markLong (word : Text) : Except Text Mark :=
  match shortened word with
  | [] => .ok (markOther word)
  | [(_, flag, attached)] => .ok (.flag flag attached)
  | several => .error (ambiguous word (several.map Prod.fst))

/-- The mark of a word that starts with one hyphen. -/
def markShort (word : Text) : Mark :=
  match word with
  | '-' :: 'h' :: tail => .shortHelp tail
  | _ => markOther word

/-- The mark of a word before the end of the options. -/
def mark (word : Text) : Except Text Mark :=
  match word with
  | '-' :: '-' :: _ => markLong word
  | '-' :: _ :: _ => .ok (markShort word)
  | _ => .ok .plain

/-- The words of a command line with their marks. Behind the end of the options every word is a
plain one. -/
def marks : List Text → Except Text (List (Mark × Text))
  | [] => .ok []
  | word :: words =>
    if word = "--".toList then
      .ok ((.separator, word) :: words.map fun plain => (.plain, plain))
    else do
      let first ← mark word
      let others ← marks words
      pure ((first, word) :: others)

/-! ## Reading -/

/-- The value of an option that is given. -/
inductive Value where
  /-- A text. -/
  | text (value : Text)
  /-- Nothing: two hyphens in the place of the value count as an end of the options and are
  dropped. -/
  | dropped
  deriving DecidableEq, Repr

namespace Value

/-- The value that is written behind an equals sign. -/
def ofAttached (attached : Text) : Value :=
  if attached = "--".toList then .dropped else .text attached

/-- The text of a value, if it is one. -/
def text? : Value → Option Text
  | .text value => some value
  | .dropped => none

end Value

/-- What a command line asks for. -/
structure Arguments where
  /-- The query file. -/
  file : Text
  /-- The database engine. -/
  database : Option Value := none
  /-- The file with table definitions. -/
  schema : Option Value := none
  /-- The file with an execution plan. -/
  plan : Option Value := none
  /-- Whether a consultation is asked for. -/
  isAdvisor : Bool := false
  /-- The file of settings. -/
  config : Option Value := none
  deriving DecidableEq, Repr

/-- What a command line comes to. -/
inductive Parsed where
  /-- Something to do. -/
  | run (arguments : Arguments)
  /-- Help is asked for. -/
  | help
  /-- The command line is wrong, for a reason. -/
  | misuse (complaint : Text)
  deriving DecidableEq, Repr

/-- How far reading has come. -/
structure Reading where
  /-- What was read; the file in it counts only if it was found. -/
  arguments : Arguments := { file := [] }
  /-- Whether the file was found. -/
  hasFile : Bool := false
  /-- Whether the file was the word just read. -/
  fileJustRead : Bool := false
  /-- The words that belong nowhere, the latest first. -/
  extras : List Text := []

namespace Reading

/-- Reading after one of the words that belong nowhere. -/
def skip (reading : Reading) (word : Text) : Reading :=
  { reading with extras := word :: reading.extras, fileJustRead := false }

/-- Reading after the name of the file. -/
def takeFile (reading : Reading) (word : Text) : Reading :=
  { reading with
    arguments := { reading.arguments with file := word }
    hasFile := true
    fileJustRead := true }

/-- Reading after a plain word, which is the file if there is none yet. -/
def takeWord (reading : Reading) (word : Text) : Reading :=
  if reading.hasFile then reading.skip word else reading.takeFile word

/-- Reading after an option with a value. -/
def takeValue (reading : Reading) (flag : Flag) (value : Value) : Reading :=
  let arguments := reading.arguments
  { reading with
    fileJustRead := false
    arguments :=
      match flag with
      | .database => { arguments with database := some value }
      | .schema => { arguments with schema := some value }
      | .plan => { arguments with plan := some value }
      | .config => { arguments with config := some value }
      | .help | .advisor => arguments }

/-- Reading after the option that asks for a consultation. -/
def takeAdvisor (reading : Reading) : Reading :=
  { reading with arguments := { reading.arguments with isAdvisor := true }, fileJustRead := false }

/-- What reading comes to at the end of the command line. -/
def finish (reading : Reading) : Parsed :=
  if !reading.hasFile then .misuse "the following arguments are required: file"
  else if reading.extras.isEmpty then .run reading.arguments
  else
    .misuse ("unrecognized arguments: ".toList ++ Text.join [' '] reading.extras.reverse)

end Reading

/-- The complaint about an option. -/
def complaintAbout (flag : Flag) (complaint : Text) : Parsed :=
  .misuse ("argument ".toList ++ flag.label ++ ": ".toList ++ complaint)

/-- The complaint about a value attached to an option that has none. -/
def ignoredValue (flag : Flag) (value : Text) : Parsed :=
  complaintAbout flag ("ignored explicit argument ".toList ++ Text.quoted value)

/-- What letters behind the short name come to that asks for help: the same letter may be repeated,
and anything else is a value that is out of place. -/
def readHelpLetters : Text → Parsed
  | [] => .help
  | 'h' :: letters => readHelpLetters letters
  | letters => ignoredValue .help letters

/-- What the short name comes to that asks for help, with what is written behind it. An equals sign
directly behind it is passed over, but then something has to follow. -/
def readShortHelp : Text → Parsed
  | ['='] => ignoredValue .help []
  | '=' :: letters => readHelpLetters letters
  | letters => readHelpLetters letters

/-- Reads marked words. -/
def readMarked (reading : Reading) : List (Mark × Text) → Parsed
  | [] => reading.finish
  | (.plain, word) :: words => readMarked (reading.takeWord word) words
  | (.stranger, word) :: words => readMarked (reading.skip word) words
  | (.separator, _) :: (_, word) :: words =>
    if reading.fileJustRead then
      readMarked ({ reading with fileJustRead := false }.takeWord word) words
    else if reading.hasFile then readMarked ((reading.skip "--").skip word) words
    else readMarked (reading.takeFile word) words
  | [(.separator, word)] =>
    if reading.fileJustRead then reading.finish else (reading.skip word).finish
  | (.shortHelp tail, _) :: _ => readShortHelp tail
  | (.flag flag (some attached), _) :: words =>
    if flag.hasValue then readMarked (reading.takeValue flag (.ofAttached attached)) words
    else ignoredValue flag attached
  | (.flag flag none, _) :: words =>
    if flag.hasValue then
      match words with
      | (.plain, value) :: words => readMarked (reading.takeValue flag (.text value)) words
      | _ => complaintAbout flag "expected one argument"
    else if flag = .help then .help
    else readMarked reading.takeAdvisor words

/-- What a command line comes to. -/
def parse (words : List Text) : Parsed :=
  match marks words with
  | .ok marked => readMarked {} marked
  | .error complaint => .misuse complaint

end Command
end SqlReview
