import SqlReview.Settings.Value
import SqlReview.Text.Blank
import SqlReview.Text.Case

/-!
# Settings

The settings of the service come from a file of sections and from the environment, which goes
before the file. What neither names has a default. A setting is only looked at when it is asked
for, so that a mistake in one does no harm to the others.
-/

namespace SqlReview

/-- The variables of the environment. -/
abbrev Environment := List (Text × Text)

namespace Environment

/-- The value of a variable. -/
def get? (environment : Environment) (name : Text) : Option Text :=
  (environment.find? (·.1 = name)).map Prod.snd

/-- The value of a variable that is not empty. -/
def given? (environment : Environment) (name : Text) : Option Text :=
  (environment.get? name).filter (!·.isEmpty)

end Environment

/-- The settings: where they were read, the sections of the file, and the environment. -/
structure Settings where
  /-- The path of the file, if there is one. -/
  source : Option Text := none
  /-- The sections. -/
  sections : Fields := []
  /-- The environment. -/
  environment : Environment := []

namespace Settings

/-! ## Looking up -/

/-- A section, which is empty if it is missing. -/
def section? (settings : Settings) (name : Text) : Except Fault Fields :=
  match settings.sections.get? name with
  | none => .ok []
  | some (.object fields) => .ok fields
  | some _ => .error .noOperation

/-- A setting in a section, or its default. -/
def lookUp (settings : Settings) (area name : Text) (fallback : Json) : Except Fault Json :=
  (settings.section? area).map fun fields => (fields.get? name).getD fallback

/-- A setting that a variable goes before. -/
def lookUpBehind (settings : Settings) (variableName area name : Text) (fallback : Json) :
    Except Fault Json :=
  match settings.environment.given? variableName with
  | some value => .ok (.string value)
  | none => settings.lookUp area name fallback

/-- A text; any other value has none of the operations of texts. -/
def asText : Json → Except Fault Text
  | .string text => .ok text
  | _ => .error .noOperation

/-! ## The interface -/

/-- The name or address that the service listens on. -/
def host (settings : Settings) : Except Fault Json :=
  settings.lookUp "api" "host" (.string "127.0.0.1")

/-- Where on its host the service listens. -/
def apiPort (settings : Settings) : Except Fault Int :=
  settings.lookUp "api" "port" (.int 8000) >>= toInt

/-- The title of the service. -/
def title (settings : Settings) : Except Fault Json :=
  settings.lookUp "api" "title" (.string "SQL Query Advisor")

/-- The pages that may use the service, in the environment as a list with commas. -/
def origins (settings : Settings) : Except Fault Json :=
  match settings.environment.given? "CORS_ORIGINS" with
  | some listed =>
    .ok (.array ((((Text.splitAt ',' listed).map Text.trim).filter (!·.isEmpty)).map .string))
  | none => settings.lookUp "api" "cors_origins" (.array [.string "*"])

/-! ## The engine -/

/-- The name of the model. -/
def model (settings : Settings) : Except Fault Json :=
  settings.lookUpBehind "ADVISOR_MODEL" "llm" "model" (.string "gpt-4o-mini")

/-- How freely the model may answer. -/
def temperature (settings : Settings) : Except Fault Float :=
  settings.lookUp "llm" "temperature" (.float 0.3) >>= toFloat

/-- How long the engine may take, in seconds. -/
def timeout (settings : Settings) : Except Fault Float :=
  settings.lookUp "llm" "timeout_seconds" (.int 60) >>= toFloat

/-- Where the engine is reached, if not at its usual address. -/
def engineUrl (settings : Settings) : Except Fault Json :=
  settings.lookUpBehind "OPENAI_BASE_URL" "llm" "base_url" .null

/-- The key for the engine, which only the environment can hold. -/
def engineKey (settings : Settings) : Option Text :=
  settings.environment.given? "OPENAI_API_KEY"

/-- Whether there is an engine. -/
def hasEngine (settings : Settings) : Bool :=
  settings.engineKey.isSome

/-! ## Admission -/

/-- The name of the kind of gate. -/
def backendName (settings : Settings) : Except Fault Text := do
  let name ← settings.lookUpBehind "ADMISSION_BACKEND" "admission" "backend" (.string "memory")
  pure (Text.lower (Text.trim (← asText name)))

/-- The address of the shared store. -/
def storeUrl (settings : Settings) : Except Fault Json :=
  settings.lookUpBehind "REDIS_URL" "admission" "redis_url" (.string "redis://localhost:6379/0")

/-- The seconds of a day. -/
def secondsPerDay : Float := 86400

/-- How long an admission counts, in whole seconds; forever, if no number of days is set. -/
def lifetime (settings : Settings) : Except Fault (Option Int) := do
  match ← settings.lookUp "admission" "ttl_days" .null with
  | .null => pure none
  | days => pure (some (← wholePart ((← toFloat days) * secondsPerDay)))

/-! ## Users -/

/-- The user and the token of an entry in the environment, if it is well formed. -/
def tokenEntry? (entry : Text) : Option (Text × Text) :=
  match Text.cut ':' (Text.trim entry) with
  | (user, some token) => if user.isEmpty || token.isEmpty then none else some (user, token)
  | (_, none) => none

/-- The users with their tokens in a list with commas. Entries that are not well formed are left
out, and of several entries for one user the last counts. -/
def readTokens (listed : Text) : Fields :=
  ((Text.splitAt ',' listed).filterMap tokenEntry?).foldl
    (fun table entry => Fields.put entry.1 (.string entry.2) table) []

/-- The users and tokens of a table. A user is named as the name is shown. Whoever has the token of
the absent name is nobody, so that it is not the token of a user before it either. -/
def usersOf (table : Table) : Fields :=
  table.foldl
    (fun users entry =>
      if entry.1.isNull then users.filter fun user => user.2.plainText ≠ entry.2.plainText
      else users ++ [(entry.1.plainText, entry.2)]) []

/-- The table of users with their tokens. A list in the environment takes the place of the whole
table, even an empty one. -/
def tokenTable (settings : Settings) : Except Fault Table :=
  match settings.environment.get? "QUERY_ADVISOR_API_TOKENS" with
  | some listed => .ok ((readTokens listed).map fun entry => (.string entry.1, entry.2))
  | none => settings.lookUp "auth" "api_tokens" (.object []) >>= toTable

/-- The users with their tokens. -/
def tokens (settings : Settings) : Except Fault Fields :=
  match settings.environment.get? "QUERY_ADVISOR_API_TOKENS" with
  | some listed => .ok (readTokens listed)
  | none => settings.tokenTable.map usersOf

/-! ## The log -/

/-- The name of the level that the log starts at. -/
def logLevel (settings : Settings) : Except Fault Text := do
  let level ← settings.lookUpBehind "LOG_LEVEL" "logging" "level" (.string "INFO")
  pure (Text.upper (← asText level))

/-- The form of the lines of the log. -/
def logFormat (settings : Settings) : Except Fault Json :=
  settings.lookUp "logging" "format"
    (.string "%(asctime)s - %(name)s - %(levelname)s - %(message)s")

/-! ## In short -/

/-- The most important settings, line by line. -/
def summary (settings : Settings) : Except Fault Text := do
  let host ← settings.host
  let number ← settings.apiPort
  let model ← settings.model
  let backend ← settings.backendName
  let store ← if backend = "redis".toList then
      (settings.storeUrl).map fun url => ["Redis URL: ".toList ++ url.plainText]
    else pure []
  let tokens ← settings.tokenTable
  let configured := if settings.hasEngine then "configured" else "not configured"
  pure (Text.join ['\n'] ([
    "=== SQL Query Advisor Configuration ===".toList,
    "Config file: ".toList ++ (settings.source.getD "defaults"),
    "API: ".toList ++ host.plainText ++ ":".toList ++ Text.ofInt number,
    "Advisor model: ".toList ++ model.plainText ++ " (engine ".toList ++ configured.toList ++
      ")".toList,
    "Admission backend: ".toList ++ backend] ++ store ++
    ["API tokens: ".toList ++ Text.ofNat tokens.length]))

end Settings
end SqlReview
