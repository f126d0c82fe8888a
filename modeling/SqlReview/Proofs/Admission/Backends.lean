import Mathlib.Algebra.Order.Ring.Int
import SqlReview.Proofs.Admission.KeyServer

/-!
# The two backends

The ledger removes outdated records when it comes across them, looks at the address first and
records both names at once. The shared store lets keys run out, looks at the token first and
reserves one key after the other. Main statement: as long as the store can be reached and the clock
never goes back, nobody can tell the two gates apart by their answers.
-/

namespace SqlReview
namespace Admission

/-- A free analysis that is asked for. -/
structure Request (τ : Type) where
  /-- When it is asked for. -/
  now : τ
  /-- The token. -/
  token : Text
  /-- The address. -/
  address : Text

/-- The answers to free analyses that are asked for one after the other. -/
def answers
    {τ σ : Type}
    (grant : τ → Text → Text → σ → Except Problem Bool × σ) :
    List (Request τ) → σ → List (Except Problem Bool)
  | [], _ => []
  | request :: rest, records =>
    let (answer, after) := grant request.now request.token request.address records
    answer :: answers grant rest after

@[simp] theorem answers_cons
    {τ σ : Type}
    (grant : τ → Text → Text → σ → Except Problem Bool × σ)
    (request : Request τ)
    (rest : List (Request τ))
    (records : σ) :
    answers grant (request :: rest) records =
      (grant request.now request.token request.address records).1 ::
        answers grant rest (grant request.now request.token request.address records).2 := rfl

/-! ## Gates -/

theorem Gate.ledger_grant
    {τ : Type}
    [Sub τ]
    [LE τ]
    [DecidableLE τ]
    (lifetime : Option τ)
    (now : τ)
    (token address : Text)
    (ledger : Ledger τ) :
    (Gate.ledger lifetime).grant now token address ledger =
      (.ok (ledger.grant lifetime now token address).1,
        (ledger.grant lifetime now token address).2) := rfl

variable {τ σ : Type} [Ring τ] [LinearOrder τ] [IsStrictOrderedRing τ]
variable {store : KeyServer τ σ} {lifetime : Option ℕ+}

/-- The gate of a shared store at a time. -/
def KeyServer.grantAt
    (store : KeyServer τ σ)
    (lifetime : Option ℕ+)
    (now : τ) : Text → Text → σ → Except Problem Bool × σ :=
  (Gate.shared (store.act now) lifetime).grant now

/-- One free analysis at both gates. -/
theorem grantAt_agrees
    {state : σ}
    {ledger : Ledger τ}
    {now : τ}
    (agree : (store.view state).AgreesFrom now (ledger.view (KeyServer.duration lifetime)))
    (token address : Text) :
    ∃ admitted after,
      store.grantAt lifetime now token address state = (.ok admitted, after) ∧
      (ledger.grant (KeyServer.duration lifetime) now token address).1 = admitted ∧
      (store.view after).AgreesFrom now
        ((ledger.grant (KeyServer.duration lifetime) now token address).2.view
          (KeyServer.duration lifetime)) := by
  obtain ⟨admitted, after, outcome, exact, agreeAfter⟩ :=
    store.run_grant lifetime now token address state
  refine ⟨admitted, after, ?_, ?_, ?_⟩
  · rw [KeyServer.grantAt, Gate.shared_grant, outcome]
    rfl
  · rw [Bool.eq_iff_iff, Ledger.grant_fst_iff, ← agree.admits_iff, exact]
  · apply agreeAfter.trans
    apply View.AgreesFrom.trans (agree.after _ token address)
    exact (Ledger.view_grant ledger).symm

theorem answers_agree
    {requests : List (Request τ)}
    (clock : (requests.map Request.now).Pairwise (· ≤ ·))
    {state : σ}
    {ledger : Ledger τ}
    (agree : ∀ now ∈ requests.map Request.now,
      (store.view state).AgreesFrom now (ledger.view (KeyServer.duration lifetime))) :
    ∃ decisions : List Bool,
      answers (store.grantAt lifetime) requests state = decisions.map .ok ∧
      answers (Gate.ledger (KeyServer.duration lifetime)).grant requests ledger =
        decisions.map .ok := by
  induction requests generalizing state ledger with
  | nil => exact ⟨[], rfl, rfl⟩
  | cons request rest inductionHypothesis =>
      obtain ⟨admitted, after, shared, same, agreeAfter⟩ :=
        grantAt_agrees (agree request.now List.mem_cons_self) request.token request.address
      obtain ⟨decisions, sharedRest, ledgerRest⟩ :=
        inductionHypothesis clock.of_cons fun later present =>
          agreeAfter.mono (List.rel_of_pairwise_cons clock present)
      refine ⟨admitted :: decisions, ?_, ?_⟩
      · rw [answers_cons, shared, sharedRest, List.map_cons]
      · rw [answers_cons, Gate.ledger_grant, same, ledgerRest, List.map_cons]

/-- A shared store and a ledger, both without records at first, give the same answers to the same
free analyses, for every lifetime and whatever the tokens and addresses are. -/
theorem backends_agree
    (store : KeyServer τ σ)
    (lifetime : Option ℕ+)
    (requests : List (Request τ))
    (clock : (requests.map Request.now).Pairwise (· ≤ ·)) :
    ∃ decisions : List Bool,
      answers (store.grantAt lifetime) requests store.blank = decisions.map .ok ∧
      answers (Gate.ledger (KeyServer.duration lifetime)).grant requests {} =
        decisions.map .ok := by
  apply answers_agree clock
  intro now _ later order book name
  apply iff_of_false
  · rw [KeyServer.view, store.has_blank]
    exact Bool.false_ne_true
  · exact Ledger.not_view_empty

/-- A name that stands in both books, and a token that is refused until its time is up. -/
theorem backends_agree_on_reuse :
    ([0, 59, 59, 60].Pairwise fun now later : Int => now ≤ later) ∧
      answers (KeyServer.table.grantAt (some 60))
          [⟨0, ['a'], ['b']⟩, ⟨59, ['b'], ['a']⟩, ⟨59, ['a'], ['c']⟩, ⟨(60 : Int), ['a'], ['c']⟩]
          [] =
        [.ok true, .ok true, .ok false, .ok true] := by
  have clock : [0, 59, 59, 60].Pairwise fun now later : Int => now ≤ later := by decide
  refine ⟨clock, ?_⟩
  obtain ⟨decisions, shared, ledger⟩ := backends_agree KeyServer.table (some 60)
    [⟨0, ['a'], ['b']⟩, ⟨59, ['b'], ['a']⟩, ⟨59, ['a'], ['c']⟩, ⟨(60 : Int), ['a'], ['c']⟩] clock
  exact shared.trans ledger.symm

end Admission
end SqlReview
