import Mathlib.Algebra.Order.Ring.Int
import Mathlib.Logic.Relation
import SqlReview.Proofs.Admission.Stages

/-!
# Workers

Any number of admissions go through one shared store, their commands in any order. Each command is
carried out as a whole, keys do not run out, and the store can be reached. Main statement: at each
point at most one admission of an address or of a token has succeeded, and once all of them have
their answers, the keys that are there are those of the admissions that succeeded. The invariant
behind it is `Held`: the keys that are there are those that some admission holds, and no two
admissions hold the same key. So what an admission releases is its own.

Admissions that race can lose, but not all of them do: whoever finds a key taken finds somebody
ahead (`Workers.Coordinated.exists_leader`).
-/

namespace SqlReview
namespace Admission

variable {τ σ ι : Type}

/-! ## Runs -/

/-- Admissions under way. -/
structure Workers (τ σ ι : Type) where
  /-- The time. -/
  now : τ
  /-- The state of the store. -/
  state : σ
  /-- What is left of each admission. -/
  calls : ι → Exchange ℕ+ Bool

/-- The admissions after a command of one of them was answered. -/
def Workers.resume
    [DecidableEq ι]
    (workers : Workers τ σ ι)
    (call : ι)
    (rest : Exchange ℕ+ Bool)
    (after : σ) : Workers τ σ ι :=
  { workers with
    state := after
    calls := Function.update workers.calls call rest }

theorem Workers.calls_resume
    [DecidableEq ι]
    (workers : Workers τ σ ι)
    (call worker : ι)
    (rest : Exchange ℕ+ Bool)
    (after : σ) :
    (workers.resume call rest after).calls worker =
      if worker = call then rest else workers.calls worker :=
  Function.update_apply workers.calls call rest worker

variable [LinearOrder τ] [Sub τ] [NatCast τ]

/-- The admissions before the first command. -/
def Workers.start
    (store : KeyServer τ σ)
    (now : τ)
    (tokens addresses : ι → Text) : Workers τ σ ι :=
  ⟨now, store.blank, fun call => Exchange.grant none (tokens call) (addresses call)⟩

/-- Time passes, or a command of an admission is carried out. -/
inductive Workers.Step
    [DecidableEq ι]
    (store : KeyServer τ σ) : Workers τ σ ι → Workers τ σ ι → Prop
  | wait
      {workers : Workers τ σ ι}
      {later : τ}
      (order : workers.now ≤ later) :
      Step store workers { workers with now := later }
  | command
      {workers : Workers τ σ ι}
      {call : ι}
      {command : Command ℕ+}
      {next : Bool → Exchange ℕ+ Bool}
      {answer : Bool}
      {after : σ}
      (pending : workers.calls call = .ask command next)
      (answered : store.act workers.now command workers.state = (.ok answer, after)) :
      Step store workers (workers.resume call (next answer) after)

section Schedules

variable [DecidableEq ι]

/-- What one command of an admission leads to, if it has one left. -/
def Workers.advance
    (store : KeyServer τ σ)
    (workers : Workers τ σ ι)
    (call : ι) : Workers τ σ ι :=
  match workers.calls call with
  | .done _ => workers
  | .ask command next =>
    match store.act workers.now command workers.state with
    | (.ok answer, after) => workers.resume call (next answer) after
    | (.error _, _) => workers

/-- Every order of commands is a run. -/
theorem Workers.reached_schedule
    (store : KeyServer τ σ)
    (schedule : List ι)
    (workers : Workers τ σ ι) :
    Relation.ReflTransGen (Workers.Step store) workers
      (schedule.foldl (Workers.advance store) workers) := by
  induction schedule generalizing workers with
  | nil => exact .refl
  | cons call rest inductionHypothesis =>
      apply Relation.ReflTransGen.trans _ (inductionHypothesis (workers.advance store call))
      unfold Workers.advance
      split
      · exact .refl
      next command next pending =>
        split
        next answer after answered => exact .single (.command pending answered)
        next => exact .refl

end Schedules

/-! ## Holding keys -/

section Holding

variable {store : KeyServer τ σ} {now later : τ} {state after : σ}
variable {names : Book → ι → Text} {held heldAfter : Book → ι → Prop}

/-- The keys that are there, and will be, are those that are held, and none is held twice. -/
structure Held
    (store : KeyServer τ σ)
    (now : τ)
    (state : σ)
    (names : Book → ι → Text)
    (held : Book → ι → Prop) : Prop where
  /-- Each key is held at most once. -/
  unique : ∀ book call other, held book call → held book other →
    names book call = names book other → call = other
  /-- The keys that are held are there. -/
  exact : ∀ later, now ≤ later → ∀ book name,
    store.has state later (book.key name) = true ↔ ∃ call, held book call ∧ names book call = name

theorem Held.mono
    (invariant : Held store now state names held)
    (order : now ≤ later) :
    Held store later state names held where
  unique := invariant.unique
  exact := fun last lastOrder => invariant.exact last (le_trans order lastOrder)

/-- A command that changes no key keeps the keys that are held. -/
theorem Held.unchanged
    (invariant : Held store now state names held)
    (same : store.SameFrom now after state)
    (keep : ∀ book worker, heldAfter book worker ↔ held book worker) :
    Held store now after names heldAfter := by
  obtain rfl : heldAfter = held := by
    funext book worker
    exact propext (keep book worker)
  refine ⟨invariant.unique, fun later order book name => ?_⟩
  rw [same later order]
  exact invariant.exact later order book name

/-- Who reserves a key that is not there holds it. -/
theorem Held.reserve
    (invariant : Held store now state names held)
    {book : Book}
    {call : ι}
    (free : store.has state now (book.key (names book call)) = false)
    (value : Text)
    (gain : ∀ other worker, heldAfter other worker ↔
      held other worker ∨ other = book ∧ worker = call) :
    Held store now (store.act now (.reserve (book.key (names book call)) value none) state).2
      names heldAfter := by
  have unheld : ∀ worker, held book worker → names book worker ≠ names book call := by
    intro worker holds same
    have there := (invariant.exact now le_rfl book (names book call)).mpr ⟨worker, holds, same⟩
    rw [free] at there
    exact Bool.false_ne_true there
  constructor
  · intro other worker rival holds rivalHolds same
    rcases (gain other worker).mp holds with before | ⟨rfl, rfl⟩
    · rcases (gain other rival).mp rivalHolds with rivalBefore | ⟨rfl, rfl⟩
      · exact invariant.unique other worker rival before rivalBefore same
      · exact absurd same (unheld worker before)
    · rcases (gain other rival).mp rivalHolds with rivalBefore | ⟨-, rfl⟩
      · exact absurd same.symm (unheld rival rivalBefore)
      · rfl
  · intro later order other name
    have mine : other.key name = book.key (names book call) ↔
        other = book ∧ names book call = name := by
      rw [Book.key_inj, eq_comm (a := name)]
    rw [store.has_reserve_free value none _ free order]
    by_cases hit : other.key name = book.key (names book call)
    · obtain ⟨rfl, same⟩ := mine.mp hit
      rw [if_pos hit]
      exact iff_of_true rfl ⟨call, (gain other call).mpr (Or.inr ⟨rfl, rfl⟩), same⟩
    · rw [if_neg hit, invariant.exact later order]
      constructor
      · rintro ⟨worker, holds, same⟩
        exact ⟨worker, (gain other worker).mpr (Or.inl holds), same⟩
      · rintro ⟨worker, holds, same⟩
        rcases (gain other worker).mp holds with before | ⟨rfl, rfl⟩
        · exact ⟨worker, before, same⟩
        · exact absurd (mine.mpr ⟨rfl, same⟩) hit

/-- Who releases a key that it holds does not hold it any more, and nobody else did. -/
theorem Held.release
    (invariant : Held store now state names held)
    {book : Book}
    {call : ι}
    (mine : held book call)
    (loss : ∀ other worker, heldAfter other worker ↔
      held other worker ∧ ¬(other = book ∧ worker = call)) :
    Held store now (store.act now (.release (book.key (names book call))) state).2
      names heldAfter := by
  constructor
  · intro other worker rival holds rivalHolds same
    exact invariant.unique other worker rival ((loss other worker).mp holds).1
      ((loss other rival).mp rivalHolds).1 same
  · intro later order other name
    rw [store.has_release _ _ _ order, Bool.and_eq_true, decide_eq_true_iff,
      invariant.exact later order]
    constructor
    · rintro ⟨different, worker, holds, same⟩
      refine ⟨worker, (loss other worker).mpr ⟨holds, ?_⟩, same⟩
      rintro ⟨rfl, rfl⟩
      exact different (by rw [same])
    · rintro ⟨worker, holds, same⟩
      obtain ⟨before, others⟩ := (loss other worker).mp holds
      refine ⟨?_, worker, before, same⟩
      intro hit
      obtain ⟨rfl, sameName⟩ := Book.key_inj.mp hit
      exact others ⟨rfl, invariant.unique other worker call before mine (same.trans sameName)⟩

end Holding

/-! ## Holding keys at stages -/

/-- The name of an admission in a book. -/
def nameOf
    (tokens addresses : ι → Text)
    (book : Book)
    (call : ι) : Text :=
  book.name (tokens call) (addresses call)

/-- The keys held at given stages. -/
def heldAt
    (stages : ι → Stage)
    (book : Book)
    (call : ι) : Prop :=
  (stages call).holds book = true

section Updates

variable [DecidableEq ι] {stages : ι → Stage} {call worker : ι} {stage : Stage} {book other : Book}

theorem heldAt_update :
    heldAt (Function.update stages call stage) book worker ↔
      if worker = call then stage.holds book = true else heldAt stages book worker := by
  rw [heldAt, Function.update_apply]
  split
  · rfl
  · rfl

theorem heldAt_update_of_same
    (same : ∀ book, stage.holds book = (stages call).holds book) :
    heldAt (Function.update stages call stage) book worker ↔ heldAt stages book worker := by
  rw [heldAt_update]
  split
  next mine => rw [mine, heldAt, same]
  next => rfl

theorem heldAt_update_of_gain
    (gain : ∀ other, stage.holds other = true ↔ (stages call).holds other = true ∨ other = book) :
    heldAt (Function.update stages call stage) other worker ↔
      heldAt stages other worker ∨ other = book ∧ worker = call := by
  rw [heldAt_update]
  split
  next mine => simp [mine, heldAt, gain]
  next notMine => simp [notMine]

theorem heldAt_update_of_loss
    (loss : ∀ other, stage.holds other = true ↔ (stages call).holds other = true ∧ other ≠ book) :
    heldAt (Function.update stages call stage) other worker ↔
      heldAt stages other worker ∧ ¬(other = book ∧ worker = call) := by
  rw [heldAt_update]
  split
  next mine => simp [mine, heldAt, loss]
  next notMine => simp [notMine]

end Updates

section Commands

variable [DecidableEq ι] {store : KeyServer τ σ} {tokens addresses : ι → Text}
variable {now : τ} {state : σ} {stages : ι → Stage} {call : ι}

/-- A reservation without a lifetime keeps the invariant: who makes it holds the key, and who comes
too late holds as much as before. -/
theorem Held.reservation
    (invariant : Held store now state (nameOf tokens addresses) (heldAt stages))
    (book : Book)
    (value : Text)
    {answer : Bool}
    (answered : (store.act now
      (.reserve (book.key (nameOf tokens addresses book call)) value none) state).1 = .ok answer)
    {stage : Stage}
    (exact : ∀ other, stage.holds other = true ↔
      (stages call).holds other = true ∨ other = book ∧ answer = true) :
    Held store now
      (store.act now (.reserve (book.key (nameOf tokens addresses book call)) value none) state).2
      (nameOf tokens addresses) (heldAt (Function.update stages call stage)) := by
  have there := KeyServer.has_of_reserve_answer answered
  cases answer with
  | false =>
      apply invariant.unchanged (KeyServer.sameFrom_reserve there value none)
      intro other worker
      apply heldAt_update_of_same
      intro other
      rw [Bool.eq_iff_iff, exact]
      simp
  | true =>
      apply invariant.reserve there
      intro other worker
      apply heldAt_update_of_gain
      intro other
      rw [exact]
      simp

/-- The command of one admission keeps the invariant. -/
theorem Held.command
    (invariant : Held store now state (nameOf tokens addresses) (heldAt stages))
    {command : Command ℕ+}
    (sent : (stages call).command? none (tokens call) (addresses call) = some command)
    {answer : Bool}
    (answered : (store.act now command state).1 = .ok answer) :
    Held store now (store.act now command state).2 (nameOf tokens addresses)
      (heldAt (Function.update stages call ((stages call).next answer))) := by
  cases stage : stages call with
  | asking =>
      rw [stage] at sent
      injection sent with sent
      subst sent
      apply invariant.unchanged (store.sameFrom_holds now _ state)
      intro book worker
      apply heldAt_update_of_same
      intro book
      rw [stage]
      cases answer <;> rfl
  | claiming =>
      rw [stage] at sent
      injection sent with sent
      subst sent
      apply invariant.reservation .addresses (tokens call) answered
      intro other
      rw [stage]
      cases answer <;> cases other <;> simp [Stage.next, Stage.holds]
  | confirming =>
      rw [stage] at sent
      injection sent with sent
      subst sent
      apply invariant.reservation .tokens (addresses call) answered
      intro other
      rw [stage]
      cases answer <;> cases other <;> simp [Stage.next, Stage.holds]
  | releasing =>
      rw [stage] at sent
      injection sent with sent
      subst sent
      have mine : heldAt stages .addresses call := by
        rw [heldAt, stage]
        rfl
      apply invariant.release mine
      intro other worker
      apply heldAt_update_of_loss
      intro other
      rw [stage]
      cases other <;> simp [Stage.next, Stage.holds]
  | ended admitted =>
      rw [stage] at sent
      exact absurd sent (Option.some_ne_none command).symm

end Commands

/-! ## The invariant -/

namespace Workers

/-- Each admission is at its stage and holds its keys, and some admission is ahead if any has fallen
behind. -/
structure Coordinated
    (store : KeyServer τ σ)
    (tokens addresses : ι → Text)
    (stages : ι → Stage)
    (workers : Workers τ σ ι) : Prop where
  /-- What is left of each admission is what its stage says. -/
  calls : ∀ call, workers.calls call = (stages call).rest none (tokens call) (addresses call)
  /-- The keys that are there are those that are held. -/
  held : Held store workers.now workers.state (nameOf tokens addresses) (heldAt stages)
  /-- Nobody falls behind unless somebody is ahead. -/
  led : ∀ call, (stages call).trails = true → ∃ leader, (stages leader).leads = true

section Invariant

variable {store : KeyServer τ σ} {tokens addresses : ι → Text} {stages : ι → Stage}
variable {workers after : Workers τ σ ι}

theorem coordinated_start
    (store : KeyServer τ σ)
    (now : τ)
    (tokens addresses : ι → Text) :
    (start store now tokens addresses).Coordinated store tokens addresses fun _ => .asking where
  calls := fun call => rfl
  held := by
    constructor
    · intro book call other held
      exact absurd held Bool.false_ne_true
    · intro later order book name
      apply iff_of_false
      · rw [start, store.has_blank]
        exact Bool.false_ne_true
      · rintro ⟨call, held, same⟩
        exact Bool.false_ne_true held
  led := fun call behind => absurd behind Bool.false_ne_true

/-- Whoever finds a key taken finds somebody ahead. -/
theorem Coordinated.exists_leader
    (invariant : workers.Coordinated store tokens addresses stages)
    (book : Book)
    {name : Text}
    (taken : store.has workers.state workers.now (book.key name) = true) :
    ∃ leader, (stages leader).leads = true := by
  obtain ⟨holder, held, same⟩ := (invariant.held.exact _ le_rfl book name).mp taken
  rcases Stage.leads_or_trails_of_holds held with ahead | behind
  · exact ⟨holder, ahead⟩
  · exact invariant.led holder behind

variable {call : ι} {command : Command ℕ+} {answer : Bool}

/-- An admission that falls behind leaves somebody ahead. -/
theorem Coordinated.exists_leader_of_trails
    (invariant : workers.Coordinated store tokens addresses stages)
    (sent : (stages call).command? none (tokens call) (addresses call) = some command)
    (answered : (store.act workers.now command workers.state).1 = .ok answer)
    (behind : ((stages call).next answer).trails = true) :
    ∃ leader, (stages leader).leads = true := by
  cases stage : stages call with
  | asking =>
      rw [stage] at sent behind
      injection sent with sent
      subst sent
      cases answer with
      | false => exact absurd behind Bool.false_ne_true
      | true => exact invariant.exists_leader .tokens (KeyServer.has_of_holds_answer answered)
  | claiming =>
      rw [stage] at sent behind
      injection sent with sent
      subst sent
      cases answer with
      | false => exact invariant.exists_leader .addresses (KeyServer.has_of_reserve_answer answered)
      | true => exact absurd behind Bool.false_ne_true
  -- It was ahead itself until this answer.
  | confirming => exact ⟨call, by rw [stage]; rfl⟩
  | releasing => exact invariant.led call (by rw [stage]; rfl)
  | ended admitted =>
      rw [stage] at sent
      exact absurd sent (Option.some_ne_none command).symm

variable [DecidableEq ι]

/-- Whoever is ahead succeeds, or loses its token to somebody who has succeeded. -/
theorem Coordinated.exists_leader_after
    (invariant : workers.Coordinated store tokens addresses stages)
    (sent : (stages call).command? none (tokens call) (addresses call) = some command)
    (answered : (store.act workers.now command workers.state).1 = .ok answer)
    {leader : ι}
    (ahead : (stages leader).leads = true) :
    ∃ leader, (Function.update stages call ((stages call).next answer) leader).leads = true := by
  by_cases mine : leader = call
  · subst mine
    cases stage : stages leader with
    | asking | claiming | releasing =>
        rw [stage] at ahead
        exact absurd ahead Bool.false_ne_true
    | ended admitted =>
        rw [stage] at sent
        exact absurd sent (Option.some_ne_none command).symm
    | confirming =>
        rw [stage] at sent
        injection sent with sent
        subst sent
        have taken := KeyServer.has_of_reserve_answer answered
        cases answer with
        | true => exact ⟨leader, by rw [Function.update_self]; rfl⟩
        -- Only who is through holds a token, so the holder is not the one that lost it.
        | false =>
            obtain ⟨holder, held, same⟩ :=
              (invariant.held.exact _ le_rfl .tokens (tokens leader)).mp taken
            have through : stages holder = .ended true := Stage.holds_tokens_iff.mp held
            refine ⟨holder, ?_⟩
            rw [Function.update_of_ne, through]
            · rfl
            · rintro rfl
              rw [stage] at through
              contradiction
  · exact ⟨leader, by rw [Function.update_of_ne mine]; exact ahead⟩

/-- A command keeps the invariant. -/
theorem Coordinated.after_command
    (invariant : workers.Coordinated store tokens addresses stages)
    {next : Bool → Exchange ℕ+ Bool}
    {after : σ}
    (pending : workers.calls call = .ask command next)
    (answered : store.act workers.now command workers.state = (.ok answer, after)) :
    Coordinated store tokens addresses
      (Function.update stages call ((stages call).next answer))
      (workers.resume call (next answer) after) := by
  rw [invariant.calls] at pending
  obtain ⟨sent, goesOn⟩ := Stage.command?_of_rest pending
  have given : (store.act workers.now command workers.state).1 = .ok answer := by rw [answered]
  constructor
  · intro worker
    rw [calls_resume, Function.update_apply]
    split
    next mine => rw [mine, goesOn]
    next => exact invariant.calls worker
  · have kept := invariant.held.command sent given
    rwa [answered] at kept
  · intro worker behind
    have leader : ∃ leader, (stages leader).leads = true := by
      by_cases mine : worker = call
      · rw [mine, Function.update_self] at behind
        exact invariant.exists_leader_of_trails sent given behind
      · rw [Function.update_of_ne mine] at behind
        exact invariant.led worker behind
    obtain ⟨leader, ahead⟩ := leader
    exact invariant.exists_leader_after sent given ahead

theorem Coordinated.step
    (invariant : workers.Coordinated store tokens addresses stages)
    (step : Step store workers after) :
    ∃ stages : ι → Stage, after.Coordinated store tokens addresses stages := by
  cases step with
  | wait order => exact ⟨stages, invariant.calls, invariant.held.mono order, invariant.led⟩
  | command pending answered => exact ⟨_, invariant.after_command pending answered⟩

theorem coordinated_of_reached
    {now : τ}
    (reached : Relation.ReflTransGen (Step store) (start store now tokens addresses) workers) :
    ∃ stages : ι → Stage, workers.Coordinated store tokens addresses stages := by
  induction reached with
  | refl => exact ⟨fun _ => .asking, coordinated_start store now tokens addresses⟩
  | tail before step inductionHypothesis =>
      obtain ⟨stages, invariant⟩ := inductionHypothesis
      exact invariant.step step

end Invariant

variable [DecidableEq ι]

/-- At each point at most one admission of a token, and of an address, has succeeded. Once all have
their answers, a key is there if and only if an admission of its name has succeeded, and unless
there was none at all, one has. -/
theorem workers_exclusive
    (store : KeyServer τ σ)
    (now : τ)
    (tokens addresses : ι → Text)
    {workers : Workers τ σ ι}
    (reached : Relation.ReflTransGen (Step store) (start store now tokens addresses) workers) :
    (∀ book call other, workers.calls call = .done true → workers.calls other = .done true →
      nameOf tokens addresses book call = nameOf tokens addresses book other → call = other) ∧
    ((∀ call, ∃ admitted, workers.calls call = .done admitted) →
      (∀ book name, store.has workers.state workers.now (book.key name) = true ↔
        ∃ call, workers.calls call = .done true ∧ nameOf tokens addresses book call = name) ∧
      ∀ _ : ι, ∃ winner, workers.calls winner = .done true) := by
  obtain ⟨stages, invariant⟩ := coordinated_of_reached reached
  have through (call : ι) : workers.calls call = .done true ↔ stages call = .ended true := by
    rw [invariant.calls]
    constructor
    · exact Stage.eq_ended_of_rest
    · intro stage
      rw [stage, Stage.rest_ended]
  constructor
  · intro book call other callDone otherDone same
    apply invariant.held.unique book call other _ _ same
    · rw [heldAt, (through call).mp callDone, Stage.holds_ended]
    · rw [heldAt, (through other).mp otherDone, Stage.holds_ended]
  · intro finished
    have ended (call : ι) : ∃ admitted, stages call = .ended admitted := by
      obtain ⟨admitted, ended⟩ := finished call
      rw [invariant.calls] at ended
      exact ⟨admitted, Stage.eq_ended_of_rest ended⟩
    constructor
    · intro book name
      rw [invariant.held.exact _ le_rfl book name]
      apply exists_congr
      intro call
      obtain ⟨admitted, stage⟩ := ended call
      rw [through, heldAt, stage, Stage.holds_ended, Stage.ended.injEq]
    · intro call
      obtain ⟨admitted, stage⟩ := ended call
      cases admitted with
      | true => exact ⟨call, (through call).mpr stage⟩
      | false =>
          obtain ⟨leader, ahead⟩ := invariant.led call (by rw [stage]; rfl)
          obtain ⟨succeeded, leaderStage⟩ := ended leader
          rw [leaderStage] at ahead
          cases succeeded with
          | true => exact ⟨leader, (through leader).mpr leaderStage⟩
          | false => exact absurd ahead Bool.false_ne_true

/-- Two admissions that both find their token unused. The second one releases its address. -/
theorem workers_exclusive_race :
    ∃ workers,
      Relation.ReflTransGen (Step KeyServer.table)
        (start KeyServer.table (0 : Int) (fun _ => ['t'])
          fun second : Bool => [cond second 'b' 'a']) workers ∧
      workers.calls false = .done true ∧ workers.calls true = .done false ∧
      KeyServer.table.has workers.state workers.now (addressKey ['b']) = false := by
  have reached := reached_schedule KeyServer.table [false, true, false, true, false, true, true]
    (start KeyServer.table (0 : Int) (fun _ => ['t']) fun second : Bool => [cond second 'b' 'a'])
  refine ⟨_, reached, rfl, rfl, ?_⟩
  rw [← Bool.not_eq_true]
  intro there
  obtain ⟨exact, -⟩ := (workers_exclusive KeyServer.table 0 _ _ reached).2 <| by
    intro call
    cases call with
    | false => exact ⟨true, rfl⟩
    | true => exact ⟨false, rfl⟩
  obtain ⟨call, admitted, same⟩ := (exact .addresses ['b']).mp there
  cases call with
  | false => exact absurd same (by decide)
  | true =>
      injection admitted with admitted
      contradiction

end Workers
end Admission
end SqlReview
