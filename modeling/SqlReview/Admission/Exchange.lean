import SqlReview.Failure

/-!
# Admission through a shared store

Several workers can share one store of keys that has a server of its own. An admission is then an
exchange of commands with that server: look for the token, reserve the address, reserve the token,
and release the address if somebody else reserved the token in between.
-/

namespace SqlReview
namespace Admission

/-! ## Commands -/

/-- A command to the server, whose answer is yes or no. Lifetimes are of type `δ`. -/
inductive Command (δ : Type) where
  /-- Whether there is a key. -/
  | holds (key : Text)
  /-- Stores a value under a key for a lifetime, unless the key is there already. -/
  | reserve (key value : Text) (lifetime : Option δ)
  /-- Removes a key. -/
  | release (key : Text)
  /-- Whether the server answers at all. -/
  | ping

/-- Why a command was not carried out. -/
inductive CommandFault where
  /-- The server could not be reached. -/
  | unreachable
  /-- The server did not answer in time. -/
  | timedOut
  /-- Anything else. -/
  | fault (fault : Fault)
  deriving DecidableEq, Repr

/-- A conversation with the server that ends in a result. -/
inductive Exchange (δ α : Type) where
  /-- The result. -/
  | done (result : α)
  /-- A command, and how to go on with its answer. -/
  | ask (command : Command δ) (next : Bool → Exchange δ α)

/-- What carries out commands and keeps a state of type `σ`. -/
abbrev Server (δ σ : Type) := Command δ → σ → Except CommandFault Bool × σ

/-- An exchange carried out by a server, up to its end or to the first command that is not carried
out. -/
def Exchange.run {δ α σ : Type} (server : Server δ σ) :
    Exchange δ α → σ → Except CommandFault α × σ
  | .done result, state => (.ok result, state)
  | .ask command next, state =>
    match server command state with
    | (.ok answer, state) => (next answer).run server state
    | (.error fault, state) => (.error fault, state)

/-! ## The admission -/

/-- The key of an address. -/
def addressKey (address : Text) : Text :=
  "qa:free:ip:".toList ++ address

/-- The key of a token. -/
def tokenKey (token : Text) : Text :=
  "qa:free:token:".toList ++ token

/-- The exchange that admits a token and an address, and tells whether it did. -/
def Exchange.grant {δ : Type} (lifetime : Option δ) (token address : Text) : Exchange δ Bool :=
  .ask (.holds (tokenKey token)) fun tokenSeen =>
    if tokenSeen then .done false
    else
      .ask (.reserve (addressKey address) token lifetime) fun addressReserved =>
        if !addressReserved then .done false
        else
          .ask (.reserve (tokenKey token) address lifetime) fun tokenReserved =>
            if tokenReserved then .done true
            else .ask (.release (addressKey address)) fun _ => .done false

/-- The exchange that tells whether the server answers. -/
def Exchange.health {δ : Type} : Exchange δ Bool :=
  .ask .ping .done

/-! ## Faults -/

/-- The failure of an admission for a given cause. -/
def unavailable (cause : Text) : Problem :=
  .failure ⟨.internalFailure, "Unable to process request. Please try again.",
    [("cause", .string cause)]⟩

/-- What a fault means for an admission. -/
def CommandFault.problem : CommandFault → Problem
  | .unreachable => unavailable "ConnectionError"
  | .timedOut => unavailable "TimeoutError"
  | .fault other => .fault other

/-- What a fault says about the health of the server: a server that cannot be reached or does not
answer is not healthy. -/
def CommandFault.health : CommandFault → Except Problem Bool
  | .fault other => .error (.fault other)
  | _ => .ok false

end Admission
end SqlReview
