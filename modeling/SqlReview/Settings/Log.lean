import SqlReview.Pattern.Letter
import SqlReview.Pattern.Search
import SqlReview.Settings.Basic
import SqlReview.Text.Digit

/-!
# The log

A log starts at a level and writes its lines in a form. A level is given by its name, and names
that mean nothing give the usual level. A form must name at least one field of a line.
-/

namespace SqlReview
namespace Settings

/-- How a log is set up. -/
structure Log where
  /-- The lowest level that is written. -/
  level : Nat
  /-- The form of the lines. -/
  format : Text

/-! ## Levels -/

/-- The level of a name. Two names belong to things that are no levels. -/
def readLevel (name : Text) : Except Fault Nat :=
  match String.ofList name with
  | "NOTSET" => .ok 0
  | "DEBUG" => .ok 10
  | "WARN" | "WARNING" => .ok 30
  | "ERROR" => .ok 40
  | "CRITICAL" | "FATAL" => .ok 50
  | "BASIC_FORMAT" => .error .badValue
  | "_STYLES" => .error .wrongType
  | _ => .ok 20

/-! ## Forms -/

/-- A number or a star, which stands for a number given elsewhere. -/
def extent : Pattern :=
  .alt (.char '*') (.oneOrMore Text.isDecimalDigit)

/-- A field of a line: its name in parentheses and how it is written. -/
def logField : Pattern :=
  .all [
    .char '%', .char '(', .oneOrMore Text.isWord, .char ')',
    .many fun c => "#0+ -".toList.contains c,
    .optional extent,
    .optional (.seq (.char '.') extent),
    .one fun c => "diouxefgcrsa%".toList.contains (Text.foldLetter c)]

/-- The form of lines that hold nothing but the message. -/
def messageFormat : Text :=
  "%(message)s"

/-- The form that a value gives. -/
def readFormat (value : Json) : Except Fault Text :=
  if value.isVacant then .ok messageFormat
  else
    match value with
    | .string format => if logField.occursIn format then .ok format else .error .badValue
    | _ => .error .wrongType

/-! ## Setting up -/

/-- How the log is set up. -/
def log (settings : Settings) : Except Fault Log := do
  let level ← settings.logLevel
  let format ← settings.logFormat
  let written ← readFormat format
  pure ⟨← readLevel level, written⟩

end Settings
end SqlReview
