import Mathlib.Algebra.Order.Ring.Cast
import Mathlib.Data.PNat.Defs
import SqlReview.Admission.Gate
import SqlReview.Proofs.Admission.View

/-!
# Servers of keys

A shared store of keys is a program of its own. `KeyServer` says what an admission relies on: keys
are reserved for a whole number of time units or for good, nobody sees a key that has run out, and
each command concerns one key. `KeyServer.table` is such a server. The main statement is that an
admission through any of them answers and reserves as `View.Admits` and `View.after` say, so the
shared store is another way to keep the two books.
-/

namespace SqlReview
namespace Admission

/-! ## Keys -/

theorem addressKey_ne_tokenKey (address token : Text) :
    addressKey address ≠ tokenKey token := by
  intro same
  have heads : (addressKey address).take 9 = (tokenKey token).take 9 := by rw [same]
  have left : (addressKey address).take 9 = "qa:free:i".toList := rfl
  have right : (tokenKey token).take 9 = "qa:free:t".toList := rfl
  rw [left, right] at heads
  exact absurd heads (by decide)

/-- The key of a name in a book. -/
def Book.key
    (book : Book)
    (name : Text) : Text :=
  match book with
  | .addresses => addressKey name
  | .tokens => tokenKey name

/-- No two names share a key, whatever they are. -/
@[simp] theorem Book.key_inj
    {book other : Book}
    {name otherName : Text} :
    book.key name = other.key otherName ↔ book = other ∧ name = otherName := by
  constructor
  · intro same
    cases book <;> cases other
    · exact ⟨rfl, List.append_cancel_left same⟩
    · exact absurd same (addressKey_ne_tokenKey name otherName)
    · exact absurd same.symm (addressKey_ne_tokenKey otherName name)
    · exact ⟨rfl, List.append_cancel_left same⟩
  · rintro ⟨rfl, rfl⟩
    rfl

/-! ## Servers -/

/-- A server that keeps keys. -/
structure KeyServer (τ σ : Type) [LinearOrder τ] [Sub τ] [NatCast τ] where
  /-- What becomes of a command at a time. -/
  act : τ → Server ℕ+ σ
  /-- Whether a key is there at a time, if no command comes before. -/
  has : σ → τ → Text → Bool
  /-- The state in which nothing was ever reserved. -/
  blank : σ
  /-- There is no key at first. -/
  has_blank : ∀ now key, has blank now key = false
  /-- A key that is not there does not come by itself. -/
  has_of_le : ∀ {now later} key state, now ≤ later →
    has state later key = true → has state now key = true
  /-- To be asked for a key, the server says whether it is there. -/
  holds_answer : ∀ now key state, (act now (.holds key) state).1 = .ok (has state now key)
  /-- Asking for a key changes nothing. -/
  has_holds : ∀ {now later} key other state, now ≤ later →
    has (act now (.holds key) state).2 later other = has state later other
  /-- A key is reserved if it is not there. -/
  reserve_answer : ∀ now key value lifetime state,
    (act now (.reserve key value lifetime) state).1 = .ok (!has state now key)
  /-- A key that is there stays as it is. -/
  has_reserve_taken : ∀ {now later key} value lifetime other {state},
    has state now key = true → now ≤ later →
      has (act now (.reserve key value lifetime) state).2 later other = has state later other
  /-- A key that was reserved is there for the lifetime given with it. -/
  has_reserve_free : ∀ {now later key} value lifetime other {state},
    has state now key = false → now ≤ later →
      has (act now (.reserve key value lifetime) state).2 later other =
        if other = key then lifetime.all fun span : ℕ+ => decide (later - now < ((span : ℕ) : τ))
        else has state later other
  /-- Keys can be released. -/
  release_answer : ∀ now key state, ∃ answer, (act now (.release key) state).1 = .ok answer
  /-- A key that was released is not there. -/
  has_release : ∀ {now later} key other state, now ≤ later →
    has (act now (.release key) state).2 later other =
      (decide (other ≠ key) && has state later other)
  /-- The server can be asked for a sign of life. -/
  ping_answer : ∀ now state, (act now .ping state).1 = .ok true
  /-- A sign of life changes nothing. -/
  has_ping : ∀ {now later} other state, now ≤ later →
    has (act now .ping state).2 later other = has state later other

/-- A command that is carried out leads on to the rest of an exchange. -/
theorem Exchange.run_ask
    {δ α σ : Type}
    {server : Server δ σ}
    {command : Command δ}
    {state : σ}
    {answer : Bool}
    (carriedOut : (server command state).1 = .ok answer)
    (next : Bool → Exchange δ α) :
    (Exchange.ask command next).run server state =
      (next answer).run server (server command state).2 := by
  have outcome : server command state = (.ok answer, (server command state).2) :=
    Prod.ext carriedOut rfl
  rw [Exchange.run, outcome]

/-- A gate of a shared store answers what its exchange comes to. -/
theorem Gate.shared_grant
    {δ τ σ : Type}
    (server : Server δ σ)
    (lifetime : Option δ)
    (now : τ)
    (token address : Text)
    (state : σ) :
    (Gate.shared server lifetime).grant now token address state =
      (((Exchange.grant lifetime token address).run server state).1.mapError
          CommandFault.problem,
        ((Exchange.grant lifetime token address).run server state).2) := by
  unfold Gate.shared
  dsimp only
  split
  next outcome => rw [outcome]; rfl
  next outcome => rw [outcome]; rfl

namespace KeyServer

variable {τ σ : Type} [LinearOrder τ] [Sub τ] [NatCast τ]

/-- The names that count in a shared store. -/
def view
    (store : KeyServer τ σ)
    (state : σ) : View τ :=
  fun now book name => store.has state now (book.key name) = true

/-- A lifetime as a difference of times. -/
def duration
    (lifetime : Option ℕ+) : Option τ :=
  lifetime.map fun span : ℕ+ => ((span : ℕ) : τ)

variable {store : KeyServer τ σ} {lifetime : Option ℕ+} {now : τ} {token address : Text}
variable {state after : σ}

theorem has_of_holds_answer
    {key : Text}
    {answer : Bool}
    (answered : (store.act now (.holds key) state).1 = .ok answer) :
    store.has state now key = answer := by
  rw [store.holds_answer] at answered
  injection answered

/-- A key is reserved only by who finds it missing. -/
theorem has_of_reserve_answer
    {key value : Text}
    {answer : Bool}
    (answered : (store.act now (.reserve key value lifetime) state).1 = .ok answer) :
    store.has state now key = !answer := by
  rw [store.reserve_answer] at answered
  injection answered with missing
  rw [← missing, Bool.not_not]

/-- Every command is answered. -/
theorem exists_answer
    (store : KeyServer τ σ)
    (now : τ)
    (command : Command ℕ+)
    (state : σ) :
    ∃ answer, (store.act now command state).1 = .ok answer := by
  cases command with
  | holds key => exact ⟨_, store.holds_answer now key state⟩
  | reserve key value lifetime => exact ⟨_, store.reserve_answer now key value lifetime state⟩
  | release key => exact store.release_answer now key state
  | ping => exact ⟨true, store.ping_answer now state⟩

theorem admits_iff :
    (store.view state).Admits now token address ↔
      store.has state now (addressKey address) = false ∧
        store.has state now (tokenKey token) = false := by
  rw [View.Admits, Book.forall_iff]
  simp [view, Book.key]

/-- Whether the same keys are there from a time on. -/
def SameFrom
    (store : KeyServer τ σ)
    (now : τ)
    (state other : σ) : Prop :=
  ∀ later, now ≤ later → ∀ key, store.has state later key = store.has other later key

theorem SameFrom.trans
    {last : σ}
    (same : store.SameFrom now state after)
    (sameAfter : store.SameFrom now after last) :
    store.SameFrom now state last :=
  fun later order key => (same later order key).trans (sameAfter later order key)

theorem sameFrom_holds
    (store : KeyServer τ σ)
    (now : τ)
    (key : Text)
    (state : σ) :
    store.SameFrom now (store.act now (.holds key) state).2 state :=
  fun _ order other => store.has_holds key other state order

theorem sameFrom_reserve
    {key : Text}
    (taken : store.has state now key = true)
    (value : Text)
    (lifetime : Option ℕ+) :
    store.SameFrom now (store.act now (.reserve key value lifetime) state).2 state :=
  fun _ order other => store.has_reserve_taken value lifetime other taken order

/-- A refusal that changes no key is what the names that count say. -/
theorem agreesFrom_of_sameFrom
    (refused : ¬(store.view state).Admits now token address)
    (same : store.SameFrom now after state)
    (lifetime : Option τ) :
    (store.view after).AgreesFrom now ((store.view state).after lifetime now token address) := by
  rw [View.after_of_refused refused]
  intro later order book name
  rw [view, view, same later order]

/-- Both keys of an admission are there for its lifetime. -/
theorem agreesFrom_of_reserved
    (admitted : (store.view state).Admits now token address)
    (reserved : ∀ later, now ≤ later → ∀ key, store.has after later key =
      if key = tokenKey token ∨ key = addressKey address then
        lifetime.all fun span : ℕ+ => decide (later - now < ((span : ℕ) : τ))
      else store.has state later key) :
    (store.view after).AgreesFrom now
      ((store.view state).after (duration lifetime) now token address) := by
  intro later order book name
  have mine : book.key name = tokenKey token ∨ book.key name = addressKey address ↔
      name = book.name token address := by
    rw [show tokenKey token = Book.tokens.key token from rfl,
      show addressKey address = Book.addresses.key address from rfl, Book.key_inj, Book.key_inj]
    cases book <;> simp
  rw [view, reserved later order, View.after]
  by_cases same : name = book.name token address
  · rw [if_pos (mine.mpr same), if_pos ⟨admitted, same⟩]
    cases lifetime <;> simp [duration]
  · rw [if_neg fun hit => same (mine.mp hit), if_neg fun recorded => same recorded.2]
    rfl

/-- A token that was used is refused. -/
theorem run_grant_of_token
    (seen : store.has state now (tokenKey token) = true) :
    ∃ after,
      (Exchange.grant lifetime token address).run (store.act now) state = (.ok false, after) ∧
      store.SameFrom now after state := by
  rw [Exchange.grant, Exchange.run_ask (store.holds_answer now (tokenKey token) state), seen]
  exact ⟨_, rfl, store.sameFrom_holds now (tokenKey token) state⟩

/-- An address that was used is refused. -/
theorem run_grant_of_address
    (unseen : store.has state now (tokenKey token) = false)
    (taken : store.has state now (addressKey address) = true) :
    ∃ after,
      (Exchange.grant lifetime token address).run (store.act now) state = (.ok false, after) ∧
      store.SameFrom now after state := by
  have asked := store.sameFrom_holds now (tokenKey token) state
  rw [Exchange.grant, Exchange.run_ask (store.holds_answer now (tokenKey token) state), unseen]
  generalize (store.act now (.holds (tokenKey token)) state).2 = first at asked ⊢
  rw [← asked now le_rfl] at taken
  have answered : (store.act now (.reserve (addressKey address) token lifetime) first).1 =
      .ok false := by
    rw [store.reserve_answer, taken, Bool.not_true]
  rw [if_neg Bool.false_ne_true, Exchange.run_ask answered]
  exact ⟨_, rfl, (sameFrom_reserve taken token lifetime).trans asked⟩

/-- A token and an address that were not used are admitted, and both reserved. -/
theorem run_grant_of_free
    (unseen : store.has state now (tokenKey token) = false)
    (free : store.has state now (addressKey address) = false) :
    ∃ after,
      (Exchange.grant lifetime token address).run (store.act now) state = (.ok true, after) ∧
      ∀ later, now ≤ later → ∀ key, store.has after later key =
        if key = tokenKey token ∨ key = addressKey address then
          lifetime.all fun span : ℕ+ => decide (later - now < ((span : ℕ) : τ))
        else store.has state later key := by
  have asked := store.sameFrom_holds now (tokenKey token) state
  rw [Exchange.grant, Exchange.run_ask (store.holds_answer now (tokenKey token) state), unseen]
  generalize (store.act now (.holds (tokenKey token)) state).2 = first at asked ⊢
  rw [← asked now le_rfl] at unseen free
  have claimed : (store.act now (.reserve (addressKey address) token lifetime) first).1 =
      .ok true := by
    rw [store.reserve_answer, free, Bool.not_false]
  have reserved (later : τ) (order : now ≤ later) (key : Text) :=
    store.has_reserve_free token lifetime key free order
  rw [if_neg Bool.false_ne_true, Exchange.run_ask claimed]
  generalize (store.act now (.reserve (addressKey address) token lifetime) first).2 = second
    at reserved ⊢
  have unreserved : store.has second now (tokenKey token) = false := by
    rw [reserved now le_rfl, if_neg (addressKey_ne_tokenKey address token).symm, unseen]
  have confirmed : (store.act now (.reserve (tokenKey token) address lifetime) second).1 =
      .ok true := by
    rw [store.reserve_answer, unreserved, Bool.not_false]
  rw [Bool.not_true, if_neg Bool.false_ne_true, Exchange.run_ask confirmed]
  refine ⟨_, rfl, ?_⟩
  intro later order key
  rw [store.has_reserve_free address lifetime key unreserved order, reserved later order,
    asked later order]
  by_cases tokenHit : key = tokenKey token
  · rw [if_pos tokenHit, if_pos (Or.inl tokenHit)]
  · by_cases addressHit : key = addressKey address
    · rw [if_neg tokenHit, if_pos addressHit, if_pos (Or.inr addressHit)]
    · rw [if_neg tokenHit, if_neg addressHit, if_neg fun hit => hit.elim tokenHit addressHit]

/-- An admission through a server of keys is always answered, and answers and reserves what the
names that count say. -/
theorem run_grant
    (store : KeyServer τ σ)
    (lifetime : Option ℕ+)
    (now : τ)
    (token address : Text)
    (state : σ) :
    ∃ admitted after,
      (Exchange.grant lifetime token address).run (store.act now) state = (.ok admitted, after) ∧
      (admitted = true ↔ (store.view state).Admits now token address) ∧
      (store.view after).AgreesFrom now
        ((store.view state).after (duration lifetime) now token address) := by
  cases seen : store.has state now (tokenKey token) with
  | true =>
      have refused : ¬(store.view state).Admits now token address := by
        rw [admits_iff, seen]
        simp
      obtain ⟨after, outcome, same⟩ := run_grant_of_token seen
      exact ⟨false, after, outcome, iff_of_false Bool.false_ne_true refused,
        agreesFrom_of_sameFrom refused same _⟩
  | false =>
      cases taken : store.has state now (addressKey address) with
      | true =>
          have refused : ¬(store.view state).Admits now token address := by
            rw [admits_iff, taken]
            simp
          obtain ⟨after, outcome, same⟩ := run_grant_of_address seen taken
          exact ⟨false, after, outcome, iff_of_false Bool.false_ne_true refused,
            agreesFrom_of_sameFrom refused same _⟩
      | false =>
          have admitted : (store.view state).Admits now token address :=
            admits_iff.mpr ⟨taken, seen⟩
          obtain ⟨after, outcome, reserved⟩ := run_grant_of_free seen taken
          exact ⟨true, after, outcome, iff_of_true rfl admitted,
            agreesFrom_of_reserved admitted reserved⟩

end KeyServer

/-! ## A server of keys -/

/-- What is kept under a key. -/
structure Entry (τ : Type) where
  /-- The value. -/
  value : Text
  /-- When the key was reserved. -/
  made : τ
  /-- For how long. -/
  lifetime : Option ℕ+

namespace Entry

variable {τ : Type} [LinearOrder τ] [Sub τ] [NatCast τ]

/-- Whether a key is still there at a time. -/
def isThere
    (now : τ)
    (entry : Entry τ) : Bool :=
  entry.lifetime.all fun span : ℕ+ => decide (now - entry.made < ((span : ℕ) : τ))

/-- Whether a key is there among entries. -/
def present
    (entries : Records (Entry τ))
    (now : τ)
    (key : Text) : Bool :=
  (entries.time? key).any (isThere now)

/-- What becomes of a command among entries. -/
def act
    (now : τ) : Server ℕ+ (Records (Entry τ))
  | .holds key, entries => (.ok (present entries now key), entries)
  | .reserve key value lifetime, entries =>
    if present entries now key then (.ok false, entries)
    else (.ok true, entries.put key ⟨value, now, lifetime⟩)
  | .release key, entries => (.ok (present entries now key), entries.erase key)
  | .ping, entries => (.ok true, entries)

end Entry

theorem Entry.isThere_of_le
    {τ : Type}
    [Ring τ]
    [LinearOrder τ]
    [IsStrictOrderedRing τ]
    {now later : τ}
    {entry : Entry τ}
    (order : now ≤ later)
    (alive : entry.isThere later = true) :
    entry.isThere now = true := by
  rw [isThere, Option.all_eq_true] at alive ⊢
  intro span given
  have young := of_decide_eq_true (alive span given)
  exact decide_eq_true (lt_of_le_of_lt (sub_le_sub_right order entry.made) young)

/-- The server of keys that keeps its entries in a list. -/
def KeyServer.table
    {τ : Type}
    [Ring τ]
    [LinearOrder τ]
    [IsStrictOrderedRing τ] : KeyServer τ (Records (Entry τ)) where
  act := Entry.act
  has := Entry.present
  blank := []
  has_blank := fun now key => rfl
  has_of_le := by
    intro now later key state order there
    rw [Entry.present, Option.any_eq_true] at there ⊢
    obtain ⟨entry, found, alive⟩ := there
    exact ⟨entry, found, Entry.isThere_of_le order alive⟩
  holds_answer := fun now key state => rfl
  has_holds := fun key other state order => rfl
  reserve_answer := by
    intro now key value lifetime state
    cases there : Entry.present state now key <;> simp [Entry.act, there]
  has_reserve_taken := by
    intro now later key value lifetime other state there order
    simp [Entry.act, there]
  has_reserve_free := by
    intro now later key value lifetime other state free order
    rw [Entry.act, free, if_neg Bool.false_ne_true, Entry.present, Records.time?_put]
    by_cases same : other = key
    · rw [if_pos same, if_pos same]
      rfl
    · rw [if_neg same, if_neg same]
      rfl
  release_answer := fun now key state => ⟨_, rfl⟩
  has_release := by
    intro now later key other state order
    by_cases same : other = key
    · subst same
      simp [Entry.act, Entry.present, Records.time?_erase_self]
    · simp [Entry.act, Entry.present, Records.time?_erase_of_ne same, same]
  ping_answer := fun now state => rfl
  has_ping := fun other state order => rfl

end Admission
end SqlReview
