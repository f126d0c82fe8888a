import SqlReview.Admission.Gate
import SqlReview.Advice.Engine
import SqlReview.Settings.Basic

/-!
# What the settings ask for

The parts of the service that the settings choose: the engine, if there is a key for it, and the kind
of gate. They also say where the service listens. The clients of the engine and of a shared store are
made by packages of their own, which may refuse what the settings give them.
-/

namespace SqlReview
namespace Settings

open Admission
open Advice

/-- A setting as part of the assembly of the service. -/
def required {α : Type} : Except Fault α → Except Problem α
  | .ok value => .ok value
  | .error fault => .error (.fault fault)

/-- What the parts of the service are made with. -/
structure Packages where
  /-- What makes an engine of a client, or cannot. -/
  connect : Client → Except Fault Engine
  /-- What makes a client for a shared store. -/
  openStore : StoreOpener

/-- The client of the engine, if there is a key. -/
def client (settings : Settings) : Except Problem (Option Client) :=
  match settings.engineKey with
  | some key => do
    let model ← required settings.model
    let temperature ← required settings.temperature
    let timeout ← required settings.timeout
    let url ← required settings.engineUrl
    pure (some ⟨key, model, .float temperature, .float timeout, url⟩)
  | none => pure none

/-- The engine, if there is a key. -/
def engine (packages : Packages) (settings : Settings) : Except Problem (Option Engine) := do
  match ← settings.client with
  | some client => (required (packages.connect client)).map some
  | none => pure none

/-- The kind of gate. -/
def backend (packages : Packages) (settings : Settings) : Except Problem (Backend Int) := do
  Backend.choose packages.openStore (← required settings.backendName)
    (required settings.storeUrl) (required settings.lifetime)

/-- The chosen parts. -/
structure Assembly where
  /-- The engine, if there is one. -/
  engine : Option Engine
  /-- The kind of gate. -/
  backend : Backend Int

/-- The parts that the settings choose. -/
def assemble (packages : Packages) (settings : Settings) : Except Problem Assembly := do
  pure ⟨← settings.engine packages, ← settings.backend packages⟩

/-- Where a service listens, and what it logs. -/
structure Listening where
  /-- The host. -/
  host : Json
  /-- The number on the host. -/
  number : Int
  /-- The least important level that is logged, in lower case. -/
  level : Text

/-- Where the service listens. -/
def listening (settings : Settings) : Except Problem Listening := do
  let host ← required settings.host
  let number ← required settings.apiPort
  let level ← required settings.logLevel
  pure ⟨host, number, Text.lower level⟩

end Settings
end SqlReview
