import Mathlib.Algebra.Order.Group.Unbundled.Basic
import Mathlib.Algebra.Order.Monoid.Defs
import SqlReview.Admission.Ledger

/-!
# What an admission depends on

A free analysis is recorded in two books, that of the addresses and that of the tokens. All that
matters of a book is which names count at which time: two kinds of records that agree on that from
now on admit the same from now on, however they keep the names, and agree after each admission as
well. The main statement is that the ledger admits and remembers as `View.Admits` and `View.after`
say, although it removes records only when it comes across them.
-/

namespace SqlReview
namespace Admission

/-! ## Books -/

/-- The books in which a free analysis is recorded. -/
inductive Book where
  /-- The book of addresses. -/
  | addresses
  /-- The book of tokens. -/
  | tokens
  deriving DecidableEq

namespace Book

/-- The name under which a free analysis is recorded in a book. -/
def name
    (book : Book)
    (token address : Text) : Text :=
  match book with
  | .addresses => address
  | .tokens => token

@[simp] theorem name_addresses (token address : Text) :
    addresses.name token address = address := rfl

@[simp] theorem name_tokens (token address : Text) :
    tokens.name token address = token := rfl

/-- A book of a ledger. -/
def records
    {τ : Type}
    (book : Book)
    (ledger : Ledger τ) : Records τ :=
  match book with
  | .addresses => ledger.addresses
  | .tokens => ledger.tokens

theorem forall_iff
    {p : Book → Prop} :
    (∀ book, p book) ↔ p .addresses ∧ p .tokens := by
  constructor
  · intro all
    exact ⟨all .addresses, all .tokens⟩
  · rintro ⟨onAddresses, onTokens⟩ book
    cases book with
    | addresses => exact onAddresses
    | tokens => exact onTokens

end Book

/-! ## Views -/

/-- Which names of which book count at a time, if nothing is recorded or removed until then. -/
abbrev View (τ : Type) :=
  τ → Book → Text → Prop

namespace View

variable {τ : Type} {view other : View τ} {now later : τ} {token address : Text}

/-- A free analysis is admitted if neither its address nor its token counts. -/
def Admits
    (view : View τ)
    (now : τ)
    (token address : Text) : Prop :=
  ∀ book : Book, ¬view now book (book.name token address)

open Classical in
/-- What counts after a free analysis was asked for: its names for a lifetime if it was admitted,
and all other names as before. -/
def after
    [Sub τ]
    [LT τ]
    (view : View τ)
    (lifetime : Option τ)
    (now : τ)
    (token address : Text) : View τ :=
  fun later book name =>
    if view.Admits now token address ∧ name = book.name token address then
      ∀ span ∈ lifetime, later - now < span
    else view later book name

/-- Whether the same names count from a time on. -/
def AgreesFrom
    [LE τ]
    (now : τ)
    (view other : View τ) : Prop :=
  ∀ later, now ≤ later → ∀ book name, view later book name ↔ other later book name

theorem after_of_refused
    [Sub τ]
    [LT τ]
    (refused : ¬view.Admits now token address)
    (lifetime : Option τ) :
    view.after lifetime now token address = view := by
  funext later book name
  rw [after, if_neg fun admitted => refused admitted.1]

theorem AgreesFrom.symm
    [LE τ]
    (agree : view.AgreesFrom now other) :
    other.AgreesFrom now view :=
  fun later order book name => (agree later order book name).symm

theorem AgreesFrom.trans
    [LE τ]
    {last : View τ}
    (agree : view.AgreesFrom now other)
    (agreeLast : other.AgreesFrom now last) :
    view.AgreesFrom now last :=
  fun later order book name =>
    (agree later order book name).trans (agreeLast later order book name)

variable [Preorder τ]

theorem AgreesFrom.mono
    (agree : view.AgreesFrom now other)
    (order : now ≤ later) :
    view.AgreesFrom later other :=
  fun last lastOrder => agree last (le_trans order lastOrder)

theorem AgreesFrom.admits_iff
    (agree : view.AgreesFrom now other) :
    view.Admits now token address ↔ other.Admits now token address :=
  forall_congr' fun book => not_congr (agree now le_rfl book _)

/-- Views that agree go on agreeing after the same free analysis. -/
theorem AgreesFrom.after
    [Sub τ]
    (agree : view.AgreesFrom now other)
    (lifetime : Option τ)
    (token address : Text) :
    (view.after lifetime now token address).AgreesFrom now
      (other.after lifetime now token address) := by
  intro later order book name
  rw [View.after, View.after, agree.admits_iff]
  split
  · exact Iff.rfl
  · exact agree later order book name

end View

/-! ## Records -/

namespace Records

variable {τ : Type} {name other : Text}

theorem time?_erase_self (records : Records τ) :
    (records.erase name).time? name = none := by
  rw [time?, erase, List.find?_filter, Option.map_eq_none_iff, List.find?_eq_none]
  simp

theorem time?_erase_of_ne
    (different : other ≠ name)
    (records : Records τ) :
    (records.erase name).time? other = records.time? other := by
  rw [time?, time?, erase, List.find?_filter]
  congr 2
  funext record
  by_cases found : record.1 = other <;> simp [found, different]

theorem time?_put
    (records : Records τ)
    (time : τ) :
    (records.put name time).time? other =
      if other = name then some time else records.time? other := by
  have split : (records.put name time).time? other =
      ((records.erase name).time? other).or (if other = name then some time else none) := by
    rw [time?, put, List.find?_append, Option.map_or]
    by_cases same : other = name
    · simp [time?, same]
    · simp [time?, same, Ne.symm same]
  rw [split]
  by_cases same : other = name
  · subst same
    rw [time?_erase_self, Option.none_or]
    simp
  · rw [time?_erase_of_ne same, if_neg same, if_neg same, Option.or_none]

variable [Sub τ] [LE τ] [DecidableLE τ]

/-- Whether the record under a name counts at a time. -/
def counts
    (lifetime : Option τ)
    (now : τ)
    (name : Text)
    (records : Records τ) : Bool :=
  (records.time? name).any (isLive lifetime now)

theorem counts_put
    {lifetime : Option τ}
    {now later : τ}
    (records : Records τ) :
    (records.put name now).counts lifetime later other =
      if other = name then isLive lifetime later now else records.counts lifetime later other := by
  rw [counts, time?_put]
  split
  · rfl
  · rfl

theorem lookUp_fst
    {lifetime : Option τ}
    {now : τ}
    (records : Records τ) :
    (records.lookUp lifetime now name).1 = records.counts lifetime now name := by
  unfold lookUp counts
  cases records.time? name with
  | none => rfl
  | some made =>
      cases live : isLive lifetime now made with
      | true => simp [live]
      | false => simp [live]

end Records

/-! ## The ledger -/

namespace Ledger

variable {τ : Type} [Sub τ] [LE τ] [DecidableLE τ]
variable {lifetime : Option τ} {now : τ} {token address : Text}

/-- The names that count in a ledger. -/
def view
    (lifetime : Option τ)
    (ledger : Ledger τ) : View τ :=
  fun now book name => (book.records ledger).counts lifetime now name = true

theorem not_view_empty
    {book : Book}
    {name : Text} :
    ¬({} : Ledger τ).view lifetime now book name := by
  cases book with
  | addresses => exact Bool.false_ne_true
  | tokens => exact Bool.false_ne_true

theorem grant_fst (ledger : Ledger τ) :
    (ledger.grant lifetime now token address).1 =
      !(ledger.addresses.counts lifetime now address ||
        ledger.tokens.counts lifetime now token) := by
  rw [← Records.lookUp_fst, ← Records.lookUp_fst]
  unfold grant
  dsimp only
  split
  next seen => rw [seen, Bool.not_true]
  next unseen => rw [Bool.eq_false_iff.mpr unseen, Bool.not_false]

/-- The ledger admits whom its records admit. -/
theorem grant_fst_iff (ledger : Ledger τ) :
    (ledger.grant lifetime now token address).1 = true ↔
      (ledger.view lifetime).Admits now token address := by
  rw [grant_fst, View.Admits, Book.forall_iff]
  simp [view, Book.records]

/-- Each book after a free analysis was asked for: its name was looked up, and recorded if the
analysis was admitted. -/
theorem records_grant
    (ledger : Ledger τ)
    (book : Book) :
    book.records (ledger.grant lifetime now token address).2 =
      if (ledger.grant lifetime now token address).1 then
        ((book.records ledger).lookUp lifetime now (book.name token address)).2.put
          (book.name token address) now
      else ((book.records ledger).lookUp lifetime now (book.name token address)).2 := by
  unfold grant
  dsimp only
  split
  · cases book <;> rfl
  · cases book <;> rfl

end Ledger

/-! ## The passing of time -/

/-- A record counts as long as it is younger than the lifetime. -/
theorem isLive_iff
    {τ : Type}
    [Sub τ]
    [LinearOrder τ]
    {lifetime : Option τ}
    {now made : τ} :
    isLive lifetime now made = true ↔ ∀ span ∈ lifetime, now - made < span := by
  cases lifetime with
  | none => simp [isLive]
  | some span => simp [isLive]

section Times

variable {τ : Type} [AddCommGroup τ] [LinearOrder τ] [IsOrderedAddMonoid τ]
variable {lifetime : Option τ} {now later : τ} {name other : Text}

/-- What counts later has counted all the time before. -/
theorem isLive_of_le
    {made : τ}
    (order : now ≤ later)
    (live : isLive lifetime later made = true) :
    isLive lifetime now made = true := by
  rw [isLive_iff] at live ⊢
  intro span given
  exact lt_of_le_of_lt (sub_le_sub_right order made) (live span given)

namespace Records

/-- Looking a name up removes at most a record that does not count any more. -/
theorem counts_lookUp
    (order : now ≤ later)
    (records : Records τ) :
    (records.lookUp lifetime now name).2.counts lifetime later other =
      records.counts lifetime later other := by
  unfold lookUp
  cases found : records.time? name with
  | none => rfl
  | some made =>
      by_cases live : isLive lifetime now made = true
      · simp [live]
      · have stale : isLive lifetime later made = false :=
          Bool.eq_false_iff.mpr fun liveLater => live (isLive_of_le order liveLater)
        simp only [live]
        by_cases same : other = name
        · subst same
          simp [counts, time?_erase_self, found, stale]
        · simp [counts, time?_erase_of_ne same]

end Records

namespace Ledger

variable {token address : Text}

/-- What counts in a ledger after a free analysis was asked for. -/
theorem view_grant (ledger : Ledger τ) :
    ((ledger.grant lifetime now token address).2.view lifetime).AgreesFrom now
      ((ledger.view lifetime).after lifetime now token address) := by
  intro later order book name
  rw [view, records_grant, View.after, ← grant_fst_iff]
  by_cases admitted : (ledger.grant lifetime now token address).1 = true
  · rw [if_pos admitted, Records.counts_put]
    by_cases same : name = book.name token address
    · rw [if_pos same, if_pos ⟨admitted, same⟩, isLive_iff]
    · rw [if_neg same, if_neg fun recorded => same recorded.2, Records.counts_lookUp order]
      rfl
  · rw [if_neg admitted, if_neg fun recorded => admitted recorded.1, Records.counts_lookUp order]
    rfl

end Ledger
end Times
end Admission
end SqlReview
