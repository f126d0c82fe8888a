import SqlReview.Text.Basic

/-!
# The ledger of free analyses

Each address and each free token may be used for one analysis. The ledger records when that was.
With a lifetime, a record stops counting once it is that old; it is removed when it is next looked
at. Times are of any type with a difference and an order.
-/

namespace SqlReview
namespace Admission

/-! ## Records -/

/-- Times of admission under names. -/
abbrev Records (τ : Type) := List (Text × τ)

namespace Records

variable {τ : Type}

/-- The time recorded under a name. -/
def time? (records : Records τ) (name : Text) : Option τ :=
  (records.find? (·.1 = name)).map Prod.snd

/-- The records without those under a name. -/
def erase (records : Records τ) (name : Text) : Records τ :=
  records.filter (·.1 ≠ name)

/-- The records with one under a name, in the place of an older one. -/
def put (records : Records τ) (name : Text) (time : τ) : Records τ :=
  records.erase name ++ [(name, time)]

/-- The names under which there is a record. -/
def names (records : Records τ) : List Text :=
  records.map Prod.fst

end Records

/-! ## The ledger -/

/-- The records of addresses and of tokens. -/
structure Ledger (τ : Type) where
  /-- When each address was admitted. -/
  addresses : Records τ := []
  /-- When each token was admitted. -/
  tokens : Records τ := []

variable {τ : Type} [Sub τ] [LE τ] [DecidableLE τ]

/-- Whether a record made at a time still counts now. -/
def isLive (lifetime : Option τ) (now made : τ) : Bool :=
  match lifetime with
  | some lifetime => !decide (lifetime ≤ now - made)
  | none => true

/-- Whether a name is recorded now, and the records without the one under that name if it no
longer counts. -/
def Records.lookUp (lifetime : Option τ) (now : τ) (name : Text) (records : Records τ) :
    Bool × Records τ :=
  match records.time? name with
  | some made => if isLive lifetime now made then (true, records) else (false, records.erase name)
  | none => (false, records)

namespace Ledger

/-- A free analysis asked for with a token from an address: whether it is admitted, and the ledger
after that. Both names are looked at in any case, and recorded only if neither counts. -/
def grant (lifetime : Option τ) (now : τ) (token address : Text) (ledger : Ledger τ) :
    Bool × Ledger τ :=
  let (addressSeen, addresses) := ledger.addresses.lookUp lifetime now address
  let (tokenSeen, tokens) := ledger.tokens.lookUp lifetime now token
  if addressSeen || tokenSeen then (false, ⟨addresses, tokens⟩)
  else (true, ⟨addresses.put address now, tokens.put token now⟩)

/-- The ledger without its records. -/
def clear (ledger : Ledger τ) : Ledger τ :=
  { ledger with addresses := [], tokens := [] }

end Ledger
end Admission
end SqlReview
