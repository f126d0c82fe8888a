import SqlReview.Command.Arguments
import SqlReview.Json.Printer
import SqlReview.Service
import SqlReview.Settings.Assembly
import SqlReview.Settings.File
import SqlReview.Settings.Log
import SqlReview.Text.Lines

/-!
# Running a command

A command reads its files, sets up the service from the settings, and writes the analysis of the
query as a document. A file that cannot be opened is a misuse of the command, and a failure of the
service is reported in one line.
-/

namespace SqlReview
namespace Command

open Access
open Admission
open Advice

/-! ## Surroundings -/

/-- What a command finds around it. -/
structure Surroundings where
  /-- The files. -/
  files : Files
  /-- The standard input. -/
  input : Text := []
  /-- The places where a file of settings is looked for. -/
  usualSettings : List Text := []
  /-- The environment. -/
  environment : Environment := []
  /-- What the parts of the service are made with. -/
  packages : Settings.Packages
  /-- The validation of the engine's answers. -/
  validate : Validation
  /-- How deeply a file of settings may be nested. -/
  depthLimit : Nat
  /-- A number for a report. -/
  id : Text

/-- How a command ends. -/
inductive Ending where
  /-- It ends with a status. -/
  | finished (status : Nat)
  /-- It ends with a status before anything is done. -/
  | notStarted (status : Nat)
  /-- It breaks down. -/
  | broken (fault : Fault)
  deriving DecidableEq, Repr

/-- What a command leaves behind. -/
structure Result where
  /-- How it ended. -/
  ending : Ending
  /-- What it wrote. -/
  output : Text := []
  /-- What it complained about. -/
  errors : Text := []
  /-- The prompts that the engine got, in order. -/
  asked : List Text := []

/-- The last line of what a command complained about. -/
def Result.lastComplaint (result : Result) : Text :=
  Text.lastLine result.errors

/-! ## Help -/

/-- How the command is used. -/
def usage : Text :=
  Text.join ['\n'] [
    "usage: query-advisor [-h] [--db DB] [--schema SCHEMA] [--plan PLAN]",
    "                     [--advisor] [--config CONFIG]",
    "                     file",
    ""]

/-- The explanation of the command. -/
def helpText : Text :=
  Text.join ['\n'] [
    usage,
    "Detect SQL performance anti-patterns and suggest rewrites",
    "",
    "positional arguments:",
    "  file             SQL file to analyze ('-' reads stdin)",
    "",
    "options:",
    "  -h, --help       show this help message and exit",
    "  --db DB          Database engine, required with --advisor",
    "  --schema SCHEMA  File with table definitions",
    "  --plan PLAN      File with the EXPLAIN output",
    "  --advisor        Use the AI-assisted analysis path",
    "  --config CONFIG  Path to config.json",
    "",
    "Examples:",
    "  # Free heuristic analysis",
    "  query-advisor slow_query.sql",
    "",
    "  # AI-assisted analysis with schema and EXPLAIN output (needs OPENAI_API_KEY)",
    "  query-advisor slow_query.sql --advisor --db postgresql --schema schema.sql " ++
      "--plan explain.txt",
    ""]

/-- The result of a command that is used in the wrong way. -/
def misused (complaint : Text) : Result :=
  { ending := .notStarted 2
    errors := usage ++ "query-advisor: error: ".toList ++ complaint ++ ['\n'] }

/-- The result of a command that breaks down. -/
def brokenDown (fault : Fault) : Result :=
  { ending := .broken fault }

/-- The result of a command that meets a problem. -/
def stopped : Problem → Result
  | .failure failure =>
    { ending := .finished 1
      errors := "error: ".toList ++ failure.message ++ ['\n'] }
  | .fault fault => brokenDown fault

/-! ## Reading files -/

/-- The complaint about a path that cannot be opened. -/
def cannotOpen (number : Nat) (reason path : Text) : Result :=
  misused ("[Errno ".toList ++ Text.ofNat number ++ "] ".toList ++ reason ++ ": ".toList ++
    Text.quoted path)

/-- The text of a file, in which every kind of line break becomes the plain one. -/
def readText (files : Files) (path : Text) : Except Result Text :=
  match files path with
  | .content bytes =>
    match Text.decode? bytes with
    | some text => .ok (Text.unifyLineBreaks text)
    | none => .error (brokenDown .undecodable)
  | .absent => .error (cannotOpen 2 "No such file or directory" path)
  | .directory => .error (cannotOpen 21 "Is a directory" path)
  | .blocked => .error (cannotOpen 20 "Not a directory" path)

/-- The text that a path stands for, and what is left of the standard input. A single hyphen stands
for the standard input, which can be read only once. -/
def readPath (files : Files) (input path : Text) : Except Result (Text × Text) :=
  if path = ['-'] then .ok (input, [])
  else (readText files path).map fun text => (text, input)

/-- The text that the value of an option stands for, if the option is given, and what is left of the
standard input. A value that was dropped is no path. -/
def readOption (files : Files) (input : Text) : Option Value → Except Result (Json × Text)
  | none => .ok (.null, input)
  | some .dropped => .error (brokenDown .wrongType)
  | some (.text path) => (readPath files input path).map fun read => (.string read.1, read.2)

/-- The value of an option as a document. A value that was dropped leaves an empty list. -/
def valueJson : Option Value → Json
  | none => .null
  | some .dropped => .array []
  | some (.text value) => .string value

/-- The inquiry of a command. -/
def readInquiry (arguments : Arguments) (surroundings : Surroundings) : Except Result Inquiry := do
  let (query, input) ← readPath surroundings.files surroundings.input arguments.file
  let (schema, input) ← readOption surroundings.files input arguments.schema
  let (plan, _) ← readOption surroundings.files input arguments.plan
  pure ⟨.string query, valueJson arguments.database, schema, plan⟩

/-! ## Running -/

variable [CommentRemover]

/-- The caller of a command, who is trusted. -/
def localCaller : Caller :=
  { isAuthenticated := true, user := some "local", address := "127.0.0.1" }

/-- The service for a command, if it can be set up. A trusted caller does not need the gate, but
its settings must be usable. -/
def setUp (arguments : Arguments) (surroundings : Surroundings) :
    Except Problem (Service Nat (Ledger Nat)) := do
  let settings ← Settings.load surroundings.depthLimit surroundings.files
    surroundings.usualSettings (arguments.config.bind Value.text?) surroundings.environment
  let _ ← Settings.required settings.log
  let assembly ← settings.assemble surroundings.packages
  pure ⟨.ledger none, assembly.engine, surroundings.validate⟩

/-- The result of a command that comes to an answer. -/
def answered (answer : Except Problem Json) (asked : List Text) : Result :=
  match answer with
  | .ok document =>
    { ending := .finished 0, output := Json.render document ++ ['\n'], asked := asked }
  | .error problem => { stopped problem with asked := asked }

/-- Analyzes the query of a command with a service. -/
def analyze (service : Service Nat (Ledger Nat)) (arguments : Arguments)
    (surroundings : Surroundings) (inquiry : Inquiry) : Result :=
  if arguments.isAdvisor then
    let consultation := service.hold (service.advisorAnalysis inquiry localCaller)
    answered (consultation.result.map fun report => report.toJson surroundings.id)
      consultation.asked
  else
    answered ((service.freeAnalysis 0 inquiry localCaller {}).1.map Heuristic.Analysis.toJson) []

/-- Runs a command. -/
def run (arguments : Arguments) (surroundings : Surroundings) : Result :=
  match readInquiry arguments surroundings with
  | .error result => result
  | .ok inquiry =>
    match setUp arguments surroundings with
    | .error problem => stopped problem
    | .ok service => analyze service arguments surroundings inquiry

/-- Carries out what a command line comes to. -/
def execute (surroundings : Surroundings) : Parsed → Result
  | .run arguments => run arguments surroundings
  | .help => { ending := .notStarted 0, output := helpText }
  | .misuse complaint => misused complaint

end Command
end SqlReview
