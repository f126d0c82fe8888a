import SqlReview.Proofs.Admission.KeyServer

/-!
# The stages of an admission

Where several admissions are under way, or one is cut short, what matters is how far each has come:
which command it is about to send, what it makes of the answer, and which of its keys it holds. An
admission holds its address from the moment it has reserved it, and its token only when it is
through. The main statement is `Stage.rest_eq`, that the exchange goes through these stages.
-/

namespace SqlReview
namespace Admission

/-- The rest of an exchange after the answer to its first command. -/
def Exchange.resume
    {δ α : Type} : Exchange δ α → Bool → Exchange δ α
  | .done result, _ => .done result
  | .ask _ next, answer => next answer

/-- How far an admission has come. -/
inductive Stage where
  /-- It is about to ask for the token. -/
  | asking
  /-- It is about to reserve the address. -/
  | claiming
  /-- It has reserved the address and is about to reserve the token. -/
  | confirming
  /-- It is about to release the address. -/
  | releasing
  /-- It has its answer. -/
  | ended (admitted : Bool)
  deriving DecidableEq

namespace Stage

/-- The stage after the answer to the command of a stage. -/
def next : Stage → Bool → Stage
  | .asking, seen => if seen then .ended false else .claiming
  | .claiming, reserved => if reserved then .confirming else .ended false
  | .confirming, reserved => if reserved then .ended true else .releasing
  | .releasing, _ => .ended false
  | .ended admitted, _ => .ended admitted

/-- Whether an admission holds its key of a book. -/
def holds : Stage → Book → Bool
  | .confirming, .addresses => true
  | .releasing, .addresses => true
  | .ended true, _ => true
  | _, _ => false

/-- Whether an admission at a stage is ahead: it has succeeded, or nobody has got in its way yet. -/
def leads : Stage → Bool
  | .confirming => true
  | .ended true => true
  | _ => false

/-- Whether an admission at a stage has fallen behind. -/
def trails : Stage → Bool
  | .releasing => true
  | .ended false => true
  | _ => false

theorem leads_or_trails_of_holds
    {stage : Stage}
    {book : Book}
    (held : stage.holds book = true) :
    stage.leads = true ∨ stage.trails = true := by
  cases stage with
  | asking | claiming => exact absurd held Bool.false_ne_true
  | confirming => exact Or.inl rfl
  | releasing => exact Or.inr rfl
  | ended admitted =>
      cases admitted with
      | true => exact Or.inl rfl
      | false => exact Or.inr rfl

@[simp] theorem holds_ended
    (admitted : Bool)
    (book : Book) :
    (ended admitted).holds book = admitted := by
  cases admitted <;> rfl

/-- Only who is through holds a token. -/
theorem holds_tokens_iff
    {stage : Stage} :
    stage.holds .tokens = true ↔ stage = .ended true := by
  cases stage with
  | asking | claiming | confirming | releasing => simp [holds]
  | ended admitted => cases admitted <;> simp [holds]

/-- Some answers that lead to a stage. -/
def answers : Stage → List Bool
  | .asking => []
  | .claiming => [false]
  | .confirming => [false, true]
  | .releasing => [false, true, false]
  | .ended true => [false, true, true]
  | .ended false => [true]

section Exchanges

variable {δ : Type} (lifetime : Option δ) (token address : Text)

/-- What is left of the exchange at a stage. -/
def rest (stage : Stage) : Exchange δ Bool :=
  stage.answers.foldl Exchange.resume (Exchange.grant lifetime token address)

@[simp] theorem rest_asking :
    rest lifetime token address .asking = Exchange.grant lifetime token address := rfl

@[simp] theorem rest_ended (admitted : Bool) :
    rest lifetime token address (.ended admitted) = .done admitted := by
  cases admitted <;> rfl

/-- The command of a stage. -/
def command? : Stage → Option (Command δ)
  | .asking => some (.holds (tokenKey token))
  | .claiming => some (.reserve (addressKey address) token lifetime)
  | .confirming => some (.reserve (tokenKey token) address lifetime)
  | .releasing => some (.release (addressKey address))
  | .ended _ => none

variable {lifetime token address}

/-- At each stage with a command the exchange sends it and goes on to the next stage. -/
theorem rest_eq
    {stage : Stage}
    {command : Command δ}
    (pending : stage.command? lifetime token address = some command) :
    stage.rest lifetime token address =
      .ask command fun answer => (stage.next answer).rest lifetime token address := by
  cases stage with
  | ended admitted => simp [command?] at pending
  | asking | claiming | confirming | releasing =>
      injection pending with same
      subst same
      apply congrArg (Exchange.ask _)
      funext answer
      cases answer <;> rfl

/-- The first command of what is left of an exchange is that of its stage. -/
theorem command?_of_rest
    {stage : Stage}
    {command : Command δ}
    {next : Bool → Exchange δ Bool}
    (pending : stage.rest lifetime token address = .ask command next) :
    stage.command? lifetime token address = some command ∧
      ∀ answer, next answer = (stage.next answer).rest lifetime token address := by
  cases stage with
  | ended admitted =>
      rw [rest_ended] at pending
      contradiction
  | asking | claiming | confirming | releasing =>
      rw [rest_eq rfl] at pending
      injection pending with same goesOn
      exact ⟨congrArg some same, fun answer => (congrFun goesOn answer).symm⟩

theorem length_answers_next
    {stage : Stage}
    {answer : Bool}
    {command : Command δ}
    (pending : (stage.next answer).command? lifetime token address = some command) :
    (stage.next answer).answers.length = stage.answers.length + 1 := by
  cases stage with
  | ended admitted => exact absurd pending (Option.some_ne_none command).symm
  | asking | claiming | confirming | releasing =>
      cases answer <;> first | rfl | exact absurd pending (Option.some_ne_none command).symm

/-- Whoever is not through holds its address once two commands were answered. -/
theorem holds_addresses_iff
    {stage : Stage}
    {command : Command δ}
    (pending : stage.command? lifetime token address = some command) :
    stage.holds .addresses = true ↔ 2 ≤ stage.answers.length := by
  cases stage with
  | ended admitted => exact absurd pending (Option.some_ne_none command).symm
  | asking | claiming | confirming | releasing => simp [holds, answers]

/-- An exchange is over only at the last stage. -/
theorem eq_ended_of_rest
    {stage : Stage}
    {admitted : Bool}
    (finished : stage.rest lifetime token address = .done admitted) :
    stage = .ended admitted := by
  cases stage with
  | ended own =>
      rw [rest_ended] at finished
      injection finished with same
      rw [same]
  | asking | claiming | confirming | releasing =>
      rw [rest_eq rfl] at finished
      contradiction

end Exchanges
end Stage
end Admission
end SqlReview
