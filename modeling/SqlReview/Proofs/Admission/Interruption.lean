import Mathlib.Algebra.Order.Ring.Int
import SqlReview.Proofs.Admission.Stages

/-!
# Interrupted admissions

One command of an admission may fail, and others may use the store between its commands. Main
statement: an admission that does not succeed leaves every key but that of its address as the others
alone would have left it. It leaves that key as well, unless a command fails after the address was
reserved. Nothing releases the address then, although an admission that loses its token to somebody
else does release it.
-/

namespace SqlReview
namespace Admission

/-! ## Keys that commands concern -/

/-- The key that a command concerns. -/
def Command.key?
    {δ : Type} : Command δ → Option Text
  | .holds key => some key
  | .reserve key _ _ => some key
  | .release key => some key
  | .ping => none

namespace KeyServer

section Commands

variable {τ σ : Type} [LinearOrder τ] [Sub τ] [NatCast τ]
variable {store : KeyServer τ σ} {now : τ} {key : Text} {state other : σ}

/-- A command leaves the keys that it does not concern. -/
theorem has_act_of_ne
    {later : τ}
    {command : Command ℕ+}
    (apart : command.key? ≠ some key)
    (order : now ≤ later) :
    store.has (store.act now command state).2 later key = store.has state later key := by
  cases command with
  | holds own => exact store.has_holds own key state order
  | ping => exact store.has_ping key state order
  | release own =>
      have different : key ≠ own := fun same => apart (congrArg some same.symm)
      rw [store.has_release own key state order, decide_eq_true different, Bool.true_and]
  | reserve own value lifetime =>
      have different : key ≠ own := fun same => apart (congrArg some same.symm)
      cases there : store.has state now own with
      | true => exact store.has_reserve_taken value lifetime key there order
      | false => rw [store.has_reserve_free value lifetime key there order, if_neg different]

/-- Whether all keys but one are there in the same way from a time on. -/
def SameBut
    (store : KeyServer τ σ)
    (key : Text)
    (now : τ)
    (state other : σ) : Prop :=
  ∀ later, now ≤ later → ∀ name, name ≠ key →
    store.has state later name = store.has other later name

/-- What a command does depends on the key that it concerns. -/
theorem SameBut.act
    (same : store.SameBut key now state other)
    {command : Command ℕ+}
    (apart : command.key? ≠ some key) :
    store.SameBut key now (store.act now command state).2 (store.act now command other).2 := by
  intro later order name different
  by_cases concerned : command.key? = some name
  · cases command with
    | ping => contradiction
    | holds own =>
        rw [store.has_holds own name state order, store.has_holds own name other order]
        exact same later order name different
    | release own =>
        rw [store.has_release own name state order, store.has_release own name other order,
          same later order name different]
    | reserve own value lifetime =>
        obtain rfl : own = name := Option.some.inj concerned
        have before := same now le_rfl own different
        cases there : store.has other now own with
        | true =>
            rw [there] at before
            rw [store.has_reserve_taken value lifetime own before order,
              store.has_reserve_taken value lifetime own there order]
            exact same later order own different
        | false =>
            rw [there] at before
            rw [store.has_reserve_free value lifetime own before order,
              store.has_reserve_free value lifetime own there order, if_pos rfl, if_pos rfl]
  · rw [has_act_of_ne concerned order, has_act_of_ne concerned order]
    exact same later order name different

end Commands
end KeyServer

/-! ## Surroundings -/

/-- What goes on while an admission sends its commands. -/
structure Surroundings where
  /-- The commands of others before each command. -/
  others : ℕ → List (Command ℕ+)
  /-- The number of the command that fails, if one does. -/
  failing : Option ℕ
  /-- Why it fails. -/
  fault : CommandFault

namespace KeyServer

variable {τ σ : Type} [LinearOrder τ] [Sub τ] [NatCast τ]

/-- The state after commands of others. -/
def serve
    (store : KeyServer τ σ)
    (now : τ)
    (commands : List (Command ℕ+))
    (state : σ) : σ :=
  commands.foldl (fun state command => (store.act now command state).2) state

/-- A store in given surroundings, and the number of the next command. A command that fails has no
effect. -/
def amid
    (store : KeyServer τ σ)
    (now : τ)
    (surroundings : Surroundings) : Server ℕ+ (ℕ × σ) :=
  fun command (number, state) =>
    let found := store.serve now (surroundings.others number) state
    if surroundings.failing = some number then (.error surroundings.fault, number + 1, found)
    else
      let (answer, after) := store.act now command found
      (answer, number + 1, after)

theorem amid_of_eq
    {store : KeyServer τ σ}
    {now : τ}
    {surroundings : Surroundings}
    {number : ℕ}
    (strikes : surroundings.failing = some number)
    (command : Command ℕ+)
    (state : σ) :
    store.amid now surroundings command (number, state) =
      (.error surroundings.fault, number + 1,
        store.serve now (surroundings.others number) state) := by
  rw [amid, if_pos strikes]

theorem amid_of_ne
    {store : KeyServer τ σ}
    {now : τ}
    {surroundings : Surroundings}
    {number : ℕ}
    (spared : surroundings.failing ≠ some number)
    (command : Command ℕ+)
    (state : σ) :
    store.amid now surroundings command (number, state) =
      ((store.act now command (store.serve now (surroundings.others number) state)).1, number + 1,
        (store.act now command (store.serve now (surroundings.others number) state)).2) := by
  rw [amid, if_neg spared]

/-- The state if the admission sent nothing. -/
def alone
    (store : KeyServer τ σ)
    (now : τ)
    (surroundings : Surroundings)
    (state : σ) : ℕ → σ
  | 0 => state
  | number + 1 =>
    store.serve now (surroundings.others number) (store.alone now surroundings state number)

end KeyServer

/-! ## Traces -/

section Traces

variable {τ σ : Type} [LinearOrder τ] [Sub τ] [NatCast τ]
variable {store : KeyServer τ σ} {lifetime : Option ℕ+} {now : τ} {token address : Text}
variable {stage : Stage} {state alone : σ}

/-- What an admission has changed when it is at a stage: it has reserved its address if it holds it,
and nothing else. -/
structure Trace
    (store : KeyServer τ σ)
    (lifetime : Option ℕ+)
    (now : τ)
    (address : Text)
    (stage : Stage)
    (state alone : σ) : Prop where
  /-- The other keys are as if it had sent nothing. -/
  elsewhere : store.SameBut (addressKey address) now state alone
  /-- So is the key of the address, unless it is held. -/
  unheld : stage.holds .addresses = false → ∀ later, now ≤ later →
    store.has state later (addressKey address) = store.has alone later (addressKey address)
  /-- If it is held, it is there for the lifetime and would not have been there otherwise. -/
  held : stage.holds .addresses = true →
    store.has alone now (addressKey address) = false ∧ ∀ later, now ≤ later →
      store.has state later (addressKey address) =
        lifetime.all fun span : ℕ+ => decide (later - now < ((span : ℕ) : τ))

theorem trace_asking
    (store : KeyServer τ σ)
    (lifetime : Option ℕ+)
    (now : τ)
    (address : Text)
    (state : σ) :
    Trace store lifetime now address .asking state state where
  elsewhere := fun _ _ _ _ => rfl
  unheld := fun _ _ _ => rfl
  held := fun held => absurd held Bool.false_ne_true

/-- Commands of others that do not concern the address leave the trace as it is. -/
theorem Trace.serve
    (trace : Trace store lifetime now address stage state alone)
    {commands : List (Command ℕ+)}
    (apart : ∀ command ∈ commands, command.key? ≠ some (addressKey address)) :
    Trace store lifetime now address stage (store.serve now commands state)
      (store.serve now commands alone) := by
  induction commands generalizing state alone with
  | nil => exact trace
  | cons command rest inductionHypothesis =>
      apply inductionHypothesis _ fun other present => apart other (List.mem_cons_of_mem _ present)
      have own := apart command List.mem_cons_self
      constructor
      · exact trace.elsewhere.act own
      · intro unheld later order
        rw [KeyServer.has_act_of_ne own order, KeyServer.has_act_of_ne own order]
        exact trace.unheld unheld later order
      · intro held
        obtain ⟨free, reserved⟩ := trace.held held
        constructor
        · rw [KeyServer.has_act_of_ne own le_rfl, free]
        · intro later order
          rw [KeyServer.has_act_of_ne own order, reserved later order]

/-- A command that changes nothing leaves the trace as it is. -/
theorem Trace.unchanged
    (trace : Trace store lifetime now address stage state alone)
    {after : σ}
    (same : store.SameFrom now after state)
    {next : Stage}
    (keep : next.holds .addresses = stage.holds .addresses) :
    Trace store lifetime now address next after alone := by
  constructor
  · intro later order name different
    rw [same later order]
    exact trace.elsewhere later order name different
  · intro unheld later order
    rw [same later order]
    exact trace.unheld (keep ▸ unheld) later order
  · intro held
    obtain ⟨free, reserved⟩ := trace.held (keep ▸ held)
    refine ⟨free, fun later order => ?_⟩
    rw [same later order, reserved later order]

/-- The address is reserved. -/
theorem Trace.claim
    (trace : Trace store lifetime now address .claiming state alone)
    (free : store.has state now (addressKey address) = false)
    (token : Text) :
    Trace store lifetime now address .confirming
      (store.act now (.reserve (addressKey address) token lifetime) state).2 alone := by
  constructor
  · intro later order name different
    rw [store.has_reserve_free token lifetime name free order, if_neg different]
    exact trace.elsewhere later order name different
  · intro unheld
    exact absurd unheld.symm Bool.false_ne_true
  · intro held
    constructor
    · rw [← trace.unheld rfl now le_rfl, free]
    · intro later order
      rw [store.has_reserve_free token lifetime _ free order, if_pos rfl]

/-- The address is released. -/
theorem Trace.release
    (trace : Trace store lifetime now address .releasing state alone) :
    Trace store lifetime now address (.ended false)
      (store.act now (.release (addressKey address)) state).2 alone := by
  constructor
  · intro later order name different
    rw [store.has_release _ _ _ order, decide_eq_true different, Bool.true_and]
    exact trace.elsewhere later order name different
  · intro unheld later order
    have free : store.has alone later (addressKey address) = false := by
      rw [← Bool.not_eq_true]
      intro there
      have before := store.has_of_le _ _ order there
      rw [(trace.held rfl).1] at before
      exact Bool.false_ne_true before
    rw [store.has_release _ _ _ order, free]
    simp
  · intro held
    exact absurd held Bool.false_ne_true

/-- A command that was answered leads from the trace of a stage to that of the next stage, unless
the admission succeeds by it. -/
theorem Trace.step
    (trace : Trace store lifetime now address stage state alone)
    {command : Command ℕ+}
    (sent : stage.command? lifetime token address = some command)
    {answer : Bool}
    (answered : (store.act now command state).1 = .ok answer)
    (failed : stage.next answer ≠ .ended true) :
    Trace store lifetime now address (stage.next answer) (store.act now command state).2 alone := by
  cases stage with
  | ended admitted => exact absurd sent (Option.some_ne_none command).symm
  | asking =>
      injection sent with sent
      subst sent
      apply trace.unchanged (store.sameFrom_holds now _ state)
      cases answer <;> rfl
  | claiming =>
      injection sent with sent
      subst sent
      have there := KeyServer.has_of_reserve_answer answered
      cases answer with
      | true => exact trace.claim there token
      | false => exact trace.unchanged (KeyServer.sameFrom_reserve there token lifetime) rfl
  | confirming =>
      injection sent with sent
      subst sent
      have there := KeyServer.has_of_reserve_answer answered
      cases answer with
      | true => exact absurd rfl failed
      | false => exact trace.unchanged (KeyServer.sameFrom_reserve there address lifetime) rfl
  | releasing =>
      injection sent with sent
      subst sent
      exact trace.release

/-- What is left of an admission that does not succeed ends with the trace of some stage, at which
the address is held if and only if a command failed after two had been answered. -/
theorem Trace.run
    {surroundings : Surroundings}
    (apart : ∀ number, ∀ command ∈ surroundings.others number,
      command.key? ≠ some (addressKey address))
    {start : σ}
    {exchange : Exchange ℕ+ Bool}
    {number : ℕ}
    (whole : stage.rest lifetime token address = exchange)
    (count : ∀ command, stage.command? lifetime token address = some command →
      stage.answers.length = number)
    (trace : Trace store lifetime now address stage state
      (store.alone now surroundings start number))
    {outcome : Except CommandFault Bool}
    {sent : ℕ}
    {after : σ}
    (ran : exchange.run (store.amid now surroundings) (number, state) = (outcome, sent, after))
    (failed : outcome ≠ .ok true) :
    ∃ last : Stage,
      Trace store lifetime now address last after (store.alone now surroundings start sent) ∧
      (last.holds .addresses = true ↔ outcome ≠ .ok false ∧ 2 < sent) := by
  -- The induction is on what is left of the exchange.
  induction exchange generalizing stage number state with
  | done result =>
      obtain rfl := Stage.eq_ended_of_rest whole
      injection ran with same counted
      injection counted with sameSent sameAfter
      subst same sameSent sameAfter
      cases result with
      | true => exact absurd rfl failed
      | false => exact ⟨.ended false, trace, by simp⟩
  | ask command next inductionHypothesis =>
      obtain ⟨pending, goesOn⟩ := Stage.command?_of_rest whole
      have counted := count command pending
      have found := trace.serve (apart number)
      by_cases strikes : surroundings.failing = some number
      · rw [Exchange.run, KeyServer.amid_of_eq strikes] at ran
        injection ran with same counted
        injection counted with sameSent sameAfter
        subst same sameSent sameAfter
        refine ⟨stage, found, ?_⟩
        rw [Stage.holds_addresses_iff pending, counted]
        constructor
        · intro enough
          exact ⟨by simp, Nat.lt_succ_of_le enough⟩
        · rintro ⟨-, enough⟩
          exact Nat.le_of_lt_succ enough
      · obtain ⟨answer, answered⟩ := store.exists_answer now command
          (store.serve now (surroundings.others number) state)
        have carriedOut :
            (store.amid now surroundings command (number, state)).1 = .ok answer := by
          rw [KeyServer.amid_of_ne strikes, answered]
        rw [Exchange.run_ask carriedOut, KeyServer.amid_of_ne strikes] at ran
        have through : stage.next answer ≠ .ended true := by
          intro succeeded
          rw [goesOn, succeeded, Stage.rest_ended] at ran
          injection ran with same
          exact failed same.symm
        apply inductionHypothesis answer (goesOn answer).symm _ _ ran
        · intro other otherPending
          rw [Stage.length_answers_next otherPending, counted]
        · exact found.step pending answered through

end Traces

/-! ## Admissions that do not succeed -/

theorem mapError_eq_ok_iff
    {outcome : Except CommandFault Bool}
    {admitted : Bool} :
    outcome.mapError CommandFault.problem = .ok admitted ↔ outcome = .ok admitted := by
  cases outcome with
  | ok own => simp [Except.mapError]
  | error fault => simp [Except.mapError]

variable {τ σ : Type} [Ring τ] [LinearOrder τ] [IsStrictOrderedRing τ]

/-- A trace is left if and only if the address is held. -/
theorem Trace.sameFrom_iff
    {store : KeyServer τ σ}
    {lifetime : Option ℕ+}
    {now : τ}
    {address : Text}
    {stage : Stage}
    {state alone : σ}
    (trace : Trace store lifetime now address stage state alone) :
    store.SameFrom now state alone ↔ stage.holds .addresses = false := by
  constructor
  · intro same
    rw [← Bool.not_eq_true]
    intro held
    obtain ⟨free, reserved⟩ := trace.held held
    have there := reserved now le_rfl
    rw [same now le_rfl, free] at there
    cases lifetime with
    | none => exact Bool.false_ne_true there
    | some span => simp at there
  · intro unheld later order name
    by_cases own : name = addressKey address
    · rw [own]
      exact trace.unheld unheld later order
    · exact trace.elsewhere later order name own

/-- An admission that does not succeed leaves every key but that of its address as the others alone
would have left it. It leaves all keys so if it is refused, or if its first or its second command
fails, and in no other case. -/
theorem failure_leaves_iff
    (store : KeyServer τ σ)
    (lifetime : Option ℕ+)
    (now : τ)
    (token address : Text)
    (state : σ)
    (surroundings : Surroundings)
    (apart : ∀ number, ∀ command ∈ surroundings.others number,
      command.key? ≠ some (addressKey address))
    {answer : Except Problem Bool}
    {sent : ℕ}
    {after : σ}
    (ran : (Gate.shared (store.amid now surroundings) lifetime).grant now token address (0, state) =
      (answer, sent, after))
    (failed : answer ≠ .ok true) :
    store.SameBut (addressKey address) now after (store.alone now surroundings state sent) ∧
      (store.SameFrom now after (store.alone now surroundings state sent) ↔
        answer = .ok false ∨ sent ≤ 2) := by
  rw [Gate.shared_grant] at ran
  generalize outcome : (Exchange.grant lifetime token address).run (store.amid now surroundings)
    (0, state) = result at ran
  obtain ⟨ending, counted, left⟩ := result
  injection ran with same counts
  injection counts with sameSent sameAfter
  subst same sameSent sameAfter
  rw [Ne, mapError_eq_ok_iff] at failed
  obtain ⟨last, trace, held⟩ := Trace.run apart (Stage.rest_asking lifetime token address)
    (fun _ _ => rfl) (trace_asking store lifetime now address state) outcome failed
  refine ⟨trace.elsewhere, ?_⟩
  rw [mapError_eq_ok_iff, trace.sameFrom_iff, ← Bool.not_eq_true, held, not_and_or, not_not, not_lt]

/-- Surroundings in which nothing fails, but others reserve a token before the third command. -/
def Surroundings.race
    (token : Text) : Surroundings where
  others := fun number => if number = 2 then [.reserve (tokenKey token) [] none] else []
  failing := none
  fault := .unreachable

/-- An admission that loses its token to somebody else releases its address. -/
theorem failure_leaves_race :
    (∀ number, ∀ command ∈ (Surroundings.race ['t']).others number,
      command.key? ≠ some (addressKey ['a'])) ∧
    ∃ after,
      (Gate.shared (KeyServer.table.amid (0 : Int) (.race ['t'])) none).grant (0 : Int) ['t'] ['a']
        (0, []) = (.ok false, 4, after) ∧
      KeyServer.table.SameFrom 0 after (KeyServer.table.alone 0 (.race ['t']) [] 4) := by
  have apart : ∀ number, ∀ command ∈ (Surroundings.race ['t']).others number,
      command.key? ≠ some (addressKey ['a']) := by
    intro number command present
    dsimp only [Surroundings.race] at present
    split at present
    · rw [List.mem_singleton] at present
      subst present
      intro same
      exact addressKey_ne_tokenKey ['a'] ['t'] (Option.some.inj same).symm
    · exact absurd present List.not_mem_nil
  refine ⟨apart, _, rfl, ?_⟩
  have leaves := (failure_leaves_iff KeyServer.table none (0 : Int) ['t'] ['a'] [] (.race ['t'])
    apart rfl (by simp)).2
  exact leaves.mpr (Or.inl rfl)

/-- An admission whose token cannot be reserved, because the store cannot be reached any more, has
failed. Yet the key of its address is left behind, and its next attempt is refused. -/
theorem failure_uses_address :
    ∃ after,
      (Gate.shared (KeyServer.table.amid (0 : Int) ⟨fun _ => [], some 2, .unreachable⟩)
          none).grant (0 : Int) ['t'] ['a'] (0, []) =
        (.error (unavailable "ConnectionError"), 3, after) ∧
      KeyServer.table.has [] (0 : Int) (addressKey ['a']) = false ∧
      KeyServer.table.has after 0 (addressKey ['a']) = true ∧
      ((Gate.shared (KeyServer.table.act (0 : Int)) none).grant (0 : Int) ['t'] ['a'] after).1 =
        .ok false :=
  ⟨_, rfl, rfl, rfl, rfl⟩

end Admission
end SqlReview
