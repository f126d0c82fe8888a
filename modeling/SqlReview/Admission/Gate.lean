import SqlReview.Admission.Exchange
import SqlReview.Admission.Ledger

/-!
# The gate in front of free analyses

What the service needs to know about admission, whether a ledger or a shared store keeps the
records, and how the kind of gate is chosen.
-/

namespace SqlReview
namespace Admission

/-! ## Gates -/

/-- Something that admits free analyses. Times are of type `τ`, and the records of type `σ`. -/
structure Gate (τ σ : Type) where
  /-- The kind of gate. -/
  backend : Text
  /-- Whether a token and an address are admitted at a time, and the records after that. -/
  grant : (now : τ) → (token address : Text) → σ → Except Problem Bool × σ
  /-- Whether the gate works. -/
  health : σ → Except Problem Bool × σ

variable {τ σ δ : Type}

/-- The gate whose records are a ledger. -/
def Gate.ledger [Sub τ] [LE τ] [DecidableLE τ] (lifetime : Option τ) : Gate τ (Ledger τ) :=
  { backend := "memory"
    grant := fun now token address ledger =>
      let (admitted, after) := ledger.grant lifetime now token address
      (.ok admitted, after)
    health := fun ledger => (.ok true, ledger) }

/-- The gate whose records are kept by a server, which looks at the time itself. -/
def Gate.shared (server : Server δ σ) (lifetime : Option δ) : Gate τ σ :=
  { backend := "redis"
    grant := fun _ token address state =>
      match (Exchange.grant lifetime token address).run server state with
      | (.ok admitted, after) => (.ok admitted, after)
      | (.error fault, after) => (.error fault.problem, after)
    health := fun state =>
      match (Exchange.health : Exchange δ Bool).run server state with
      | (.ok healthy, after) => (.ok healthy, after)
      | (.error fault, after) => (fault.health, after) }

/-! ## Choice of a gate -/

/-- A kind of gate with what it needs. -/
inductive Backend (δ : Type) where
  /-- A ledger. -/
  | ledger (lifetime : Option δ)
  /-- A shared store at an address, which may be of any type. -/
  | shared (url : Json) (lifetime : Option δ)

/-- What makes a client for the shared store at an address, or cannot. -/
abbrev StoreOpener := Json → Except Fault Unit

namespace Backend

/-- The kind of gate of a given name. -/
def name : Backend δ → Text
  | .ledger _ => "memory"
  | .shared _ _ => "redis"

/-- The backend of a given name. What each kind needs is only looked at for that kind. -/
def choose (openStore : StoreOpener) (name : Text) (url : Except Problem Json)
    (lifetime : Except Problem (Option δ)) : Except Problem (Backend δ) :=
  if name = "memory".toList then
    lifetime.map .ledger
  else if name = "redis".toList then do
    let address ← url
    let span ← lifetime
    match openStore address with
    | .ok () => pure (.shared address span)
    | .error fault => .error (.fault fault)
  else
    .error (.fail .configurationError ("Unknown admission backend: ".toList ++ name))

end Backend
end Admission
end SqlReview
