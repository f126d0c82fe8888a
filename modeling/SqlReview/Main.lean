import SqlReview.Command.Run
import SqlReview.Query.Comment

/-!
# The program

The command line. Files, the environment and the standard input are looked at here, and everything
else is decided by the command itself.
-/

namespace SqlReview
namespace Main

open Advice
open Command

/-- What is at a path. -/
def lookAt (path : String) : IO FileState := do
  try
    return .content (← IO.FS.readBinFile path).toList
  catch problem =>
    match problem with
    | .inappropriateType _ 20 _ => return .blocked
    | .inappropriateType .. => return .directory
    | _ => return .absent

/-- The paths that a command may look at. -/
def pathsOf (arguments : Arguments) (usual : List Text) : List Text :=
  arguments.file ::
    ([arguments.schema, arguments.plan, arguments.config].filterMap (·.bind Value.text?) ++ usual)

/-- The files at given paths. -/
def readFiles (paths : List Text) : IO Files := do
  let states ← paths.mapM fun path => do
    return (path, ← lookAt (String.ofList path))
  return fun path => ((states.find? (·.1 = path)).map Prod.snd).getD .absent

/-- The text of the standard input, if a command reads it. -/
def readInput (paths : List Text) : IO Text := do
  if paths.contains ['-'] then
    match ← lookAt "/dev/stdin" with
    | .content bytes => return Text.unifyLineBreaks (Text.decodeLenient bytes)
    | _ => return []
  else return []

/-- The variables of the environment that settings depend on. -/
def readEnvironment : IO Environment := do
  let names := ["CORS_ORIGINS", "ADVISOR_MODEL", "OPENAI_BASE_URL", "OPENAI_API_KEY",
    "ADMISSION_BACKEND", "REDIS_URL", "QUERY_ADVISOR_API_TOKENS", "LOG_LEVEL"]
  let found ← names.mapM fun name => do
    return (← IO.getEnv name).map fun value => (name.toList, value.toList)
  return found.filterMap id

/-- The places where a file of settings is looked for. -/
def usualSettings : List Text :=
  ["config.json"]

/-- The engine at the address of a client, which must be a text if there is one. It cannot be
reached. -/
def connect (client : Client) : Except Fault Engine :=
  match client.url with
  | .null | .string _ => .ok fun _ _ => (Completion.refused "APIConnectionError").text
  | _ => .error .wrongType

/-- Makes a client for a shared store, whose address must say how it is reached. -/
def openStore : Admission.StoreOpener
  | .string url =>
    if ["redis://", "rediss://", "unix://"].any fun start => start.toList.isPrefixOf url then .ok ()
    else .error .badValue
  | _ => .error .noOperation

/-- What the parts of the service are made with. -/
def packages : Settings.Packages :=
  ⟨connect, openStore⟩

/-- How deeply a file of settings may be nested. -/
def depthLimit : Nat :=
  980

/-- A new number for a report. -/
def newId : IO Text := do
  let high ← IO.rand 0 (Nat.pow 2 62)
  let low ← IO.rand 0 (Nat.pow 2 62)
  return Text.hexadecimal 16 high ++ Text.hexadecimal 16 low

/-- Surroundings in which there is nothing to be found. -/
def nowhere : Surroundings where
  files _ := .absent
  packages := packages
  validate := Shape.validate Shape.spelled?
  depthLimit := depthLimit
  id := []

/-- What a command finds around it. -/
def lookAround : Parsed → IO Surroundings
  | .run arguments => do
    let paths := pathsOf arguments usualSettings
    return { nowhere with
      files := ← readFiles paths
      input := ← readInput paths
      usualSettings := usualSettings
      environment := ← readEnvironment
      id := ← newId }
  | _ => return nowhere

/-- The status that the program ends with. -/
def statusOf : Ending → UInt32
  | .finished status | .notStarted status => status.toUInt32
  | .broken _ => 1

end Main
end SqlReview

open SqlReview in
/-- Analyzes the query file that the command line names. -/
def main (words : List String) : IO UInt32 := do
  let parsed := Command.parse (words.map String.toList)
  let result := Command.execute (← Main.lookAround parsed) parsed
  IO.print (String.ofList result.output)
  IO.eprint (String.ofList result.errors)
  return Main.statusOf result.ending
