import Mathlib.Algebra.Order.Group.Int
import Mathlib.Data.List.Induction
import SqlReview.Proofs.Admission.View

/-!
# The history of a ledger

What a ledger answers over whole runs of calls. Main statement: if the clock never goes back, a free
analysis is refused if and only if its address or its token was admitted before, less than a
lifetime ago and since the records were last cleared. So a run can be read without its ledger, and
calls that were refused may be left out of it, together with the outdated records that they
removed.
-/

namespace SqlReview
namespace Admission

/-! ## Runs -/

/-- A call on a ledger. -/
inductive Call (τ : Type) where
  /-- A free analysis is asked for at a time. -/
  | grant (now : τ) (token address : Text)
  /-- All records are removed. -/
  | clear

/-- The readings of the clock in a run of calls. -/
def times
    {τ : Type}
    (calls : List (Call τ)) : List τ :=
  calls.filterMap fun
    | .grant now _ _ => some now
    | .clear => none

section Times

variable {τ : Type} {calls more : List (Call τ)}

@[simp] theorem times_nil : times ([] : List (Call τ)) = [] := rfl

@[simp] theorem times_append : times (calls ++ more) = times calls ++ times more :=
  List.filterMap_append

@[simp] theorem times_cons_grant
    (now : τ)
    (token address : Text) :
    times (.grant now token address :: calls) = now :: times calls := rfl

@[simp] theorem times_cons_clear : times (.clear :: calls) = times calls := rfl

/-- A call in a run is the last one, or it comes before the last one. -/
theorem concat_eq_append_cons_iff
    {before since : List (Call τ)}
    {last call : Call τ} :
    calls ++ [last] = before ++ call :: since ↔
      (calls = before ∧ last = call ∧ since = []) ∨
        ∃ rest, since = rest ++ [last] ∧ calls = before ++ call :: rest := by
  constructor
  · intro split
    rcases List.eq_nil_or_concat since with rfl | ⟨rest, other, rfl⟩
    · obtain ⟨same, ends⟩ := List.append_inj' split rfl
      exact Or.inl ⟨same, List.singleton_inj.mp ends, rfl⟩
    · rw [List.concat_eq_append, ← List.cons_append, ← List.append_assoc] at split
      obtain ⟨same, ends⟩ := List.append_inj' split rfl
      exact Or.inr ⟨rest, by rw [ends, List.concat_eq_append], same⟩
  · rintro (⟨rfl, rfl, rfl⟩ | ⟨rest, rfl, rfl⟩)
    · rfl
    · simp

end Times

namespace Ledger

section Runs

variable {τ : Type} [Sub τ] [LE τ] [DecidableLE τ]

/-- The ledger after a call. -/
def serve
    (lifetime : Option τ)
    (ledger : Ledger τ) : Call τ → Ledger τ
  | .grant now token address => (ledger.grant lifetime now token address).2
  | .clear => ledger.clear

/-- The ledger after a run of calls. -/
def run
    (lifetime : Option τ)
    (ledger : Ledger τ)
    (calls : List (Call τ)) : Ledger τ :=
  calls.foldl (serve lifetime) ledger

@[simp] theorem run_nil
    (lifetime : Option τ)
    (ledger : Ledger τ) :
    run lifetime ledger [] = ledger := rfl

@[simp] theorem run_cons
    (lifetime : Option τ)
    (ledger : Ledger τ)
    (call : Call τ)
    (calls : List (Call τ)) :
    run lifetime ledger (call :: calls) = run lifetime (ledger.serve lifetime call) calls := rfl

@[simp] theorem run_append
    (lifetime : Option τ)
    (ledger : Ledger τ)
    (calls more : List (Call τ)) :
    run lifetime ledger (calls ++ more) = run lifetime (run lifetime ledger calls) more :=
  List.foldl_append

/-- Whether a run, started without records, admitted a token and an address at a time, and did not
clear its records since. -/
def Admitted
    (lifetime : Option τ)
    (calls : List (Call τ))
    (made : τ)
    (token address : Text) : Prop :=
  ∃ before since, calls = before ++ .grant made token address :: since ∧ .clear ∉ since ∧
    ((run lifetime {} before).grant lifetime made token address).1 = true

variable {lifetime : Option τ} {calls : List (Call τ)} {made : τ} {token address : Text}

theorem not_admitted_nil : ¬Admitted lifetime [] made token address := by
  rintro ⟨before, since, split, -⟩
  simp at split

theorem not_admitted_concat_clear : ¬Admitted lifetime (calls ++ [.clear]) made token address := by
  rintro ⟨before, since, split, kept, -⟩
  rcases concat_eq_append_cons_iff.mp split with ⟨-, cleared, -⟩ | ⟨rest, rfl, -⟩
  · simp at cleared
  · exact kept (List.mem_append_right rest (List.mem_singleton.mpr rfl))

theorem admitted_concat_grant
    {now : τ}
    {newToken newAddress : Text} :
    Admitted lifetime (calls ++ [.grant now newToken newAddress]) made token address ↔
      Admitted lifetime calls made token address ∨
        (((run lifetime {} calls).grant lifetime now newToken newAddress).1 = true ∧
          made = now ∧ token = newToken ∧ address = newAddress) := by
  constructor
  · rintro ⟨before, since, split, kept, granted⟩
    rcases concat_eq_append_cons_iff.mp split with ⟨rfl, same, -⟩ | ⟨rest, rfl, rfl⟩
    · injection same with sameTime sameToken sameAddress
      subst sameTime sameToken sameAddress
      exact Or.inr ⟨granted, rfl, rfl, rfl⟩
    · refine Or.inl ⟨before, rest, rfl, ?_, granted⟩
      intro cleared
      exact kept (List.mem_append_left _ cleared)
  · rintro (⟨before, since, rfl, kept, granted⟩ | ⟨granted, rfl, rfl, rfl⟩)
    · refine ⟨before, since ++ [.grant now newToken newAddress], by simp, ?_, granted⟩
      simpa using kept
    · exact ⟨calls, [], rfl, List.not_mem_nil, granted⟩

end Runs

/-! ## What a history admits -/

variable {τ : Type} [AddCommGroup τ] [LinearOrder τ] [IsOrderedAddMonoid τ]
variable {lifetime : Option τ} {calls : List (Call τ)} {now later : τ} {token address : Text}

/-- The names that count after a run, by what it has admitted. -/
def historyView
    (lifetime : Option τ)
    (calls : List (Call τ)) : View τ :=
  fun now book name =>
    ∃ made token address, Admitted lifetime calls made token address ∧
      name = book.name token address ∧ ∀ span ∈ lifetime, now - made < span

theorem historyView_of_le
    {book : Book}
    {name : Text}
    (order : now ≤ later)
    (counted : historyView lifetime calls later book name) :
    historyView lifetime calls now book name := by
  obtain ⟨made, token, address, admitted, recorded, live⟩ := counted
  refine ⟨made, token, address, admitted, recorded, fun span given => ?_⟩
  exact lt_of_le_of_lt (sub_le_sub_right order made) (live span given)

/-- One more free analysis in a history. -/
theorem historyView_concat_grant
    (exact : ((run lifetime {} calls).grant lifetime now token address).1 = true ↔
      (historyView lifetime calls).Admits now token address) :
    ((historyView lifetime calls).after lifetime now token address).AgreesFrom now
      (historyView lifetime (calls ++ [.grant now token address])) := by
  intro later order book name
  have split : historyView lifetime (calls ++ [.grant now token address]) later book name ↔
      historyView lifetime calls later book name ∨
        ((historyView lifetime calls).Admits now token address ∧
          name = book.name token address) ∧ ∀ span ∈ lifetime, later - now < span := by
    rw [← exact]
    constructor
    · rintro ⟨made, usedToken, usedAddress, admitted, recorded, live⟩
      rcases admitted_concat_grant.mp admitted with before | ⟨granted, rfl, rfl, rfl⟩
      · exact Or.inl ⟨made, usedToken, usedAddress, before, recorded, live⟩
      · exact Or.inr ⟨⟨granted, recorded⟩, live⟩
    · rintro (⟨made, usedToken, usedAddress, before, recorded, live⟩ | ⟨⟨granted, recorded⟩, live⟩)
      · exact ⟨made, usedToken, usedAddress, admitted_concat_grant.mpr (Or.inl before), recorded,
          live⟩
      · exact ⟨now, token, address,
          admitted_concat_grant.mpr (Or.inr ⟨granted, rfl, rfl, rfl⟩), recorded, live⟩
  rw [split, View.after]
  split_ifs with recorded
  · -- An older admission of the name cannot count any more: the new one would have been refused.
    have outdated : ¬historyView lifetime calls later book name := by
      intro counted
      apply recorded.1 book
      rw [← recorded.2]
      exact historyView_of_le order counted
    tauto
  · tauto

/-- The ledger counts what its history says. -/
theorem view_run
    (clock : (times calls ++ [now]).Pairwise (· ≤ ·)) :
    ((run lifetime {} calls).view lifetime).AgreesFrom now (historyView lifetime calls) := by
  induction calls using List.reverseRecOn generalizing now with
  | nil =>
      intro later order book name
      apply iff_of_false not_view_empty
      rintro ⟨made, token, address, admitted, -⟩
      exact not_admitted_nil admitted
  | append_singleton calls call inductionHypothesis =>
      rw [run_append]
      cases call with
      | clear =>
          intro later order book name
          apply iff_of_false not_view_empty
          rintro ⟨made, token, address, admitted, -⟩
          exact not_admitted_concat_clear admitted
      | grant reading token address =>
          rw [times_append, List.pairwise_append] at clock
          obtain ⟨before, -, recent⟩ := clock
          have order : reading ≤ now :=
            recent reading (by simp) now (List.mem_singleton.mpr rfl)
          have agree := inductionHypothesis before
          have exact : ((run lifetime {} calls).grant lifetime reading token address).1 = true ↔
              (historyView lifetime calls).Admits reading token address := by
            rw [grant_fst_iff, agree.admits_iff]
          apply View.AgreesFrom.mono _ order
          apply View.AgreesFrom.trans (view_grant (run lifetime {} calls))
          exact (agree.after lifetime token address).trans (historyView_concat_grant exact)

/-! ## Leaving calls out -/

/-- Ledgers that agree go on agreeing in a run of the same calls. -/
theorem agreesFrom_run
    {ledger other : Ledger τ}
    {start : τ}
    (agree : (ledger.view lifetime).AgreesFrom start (other.view lifetime))
    (clock : (start :: times calls ++ [now]).Pairwise (· ≤ ·)) :
    ((run lifetime ledger calls).view lifetime).AgreesFrom now
      ((run lifetime other calls).view lifetime) := by
  induction calls generalizing ledger other start with
  | nil => exact agree.mono (by simpa using clock)
  | cons call calls inductionHypothesis =>
      cases call with
      | clear =>
          apply inductionHypothesis _ clock
          exact fun later order book name => Iff.rfl
      | grant reading token address =>
          have order : start ≤ reading := List.rel_of_pairwise_cons clock (by simp)
          apply inductionHypothesis _ clock.of_cons
          have agreeNow := agree.mono order
          exact ((view_grant ledger).trans (agreeNow.after lifetime token address)).trans
            (view_grant other).symm

/-- A call that is refused leaves everything as it is from then on. -/
theorem agreesFrom_of_refused
    {ledger : Ledger τ}
    (refused : (ledger.grant lifetime now token address).1 = false) :
    ((ledger.grant lifetime now token address).2.view lifetime).AgreesFrom now
      (ledger.view lifetime) := by
  have agree : ((ledger.grant lifetime now token address).2.view lifetime).AgreesFrom now
      ((ledger.view lifetime).after lifetime now token address) := view_grant ledger
  rwa [View.after_of_refused] at agree
  rw [← grant_fst_iff, refused]
  exact Bool.false_ne_true

/-- The answers of a ledger are those of its history. A free analysis is refused if and only if its
address or its token was admitted since the records were last cleared, and less than a lifetime
ago. Leaving a refused call out, with all the records it may have removed, changes no answer. -/
theorem refuses_iff
    (lifetime : Option τ)
    (calls : List (Call τ))
    (now : τ)
    (token address : Text)
    (clock : (times calls ++ [now]).Pairwise (· ≤ ·)) :
    (((run lifetime {} calls).grant lifetime now token address).1 = false ↔
      ∃ made usedToken usedAddress, Admitted lifetime calls made usedToken usedAddress ∧
        (usedAddress = address ∨ usedToken = token) ∧ ∀ span ∈ lifetime, now - made < span) ∧
    ∀ before made refusedToken refusedAddress since,
      calls = before ++ .grant made refusedToken refusedAddress :: since →
      ((run lifetime {} before).grant lifetime made refusedToken refusedAddress).1 = false →
      ((run lifetime {} (before ++ since)).grant lifetime now token address).1 =
        ((run lifetime {} calls).grant lifetime now token address).1 := by
  constructor
  · rw [← Bool.not_eq_true, grant_fst_iff, (view_run clock).admits_iff, View.Admits,
      Book.forall_iff, not_and_or, not_not, not_not]
    constructor
    · rintro (⟨made, usedToken, usedAddress, admitted, same, live⟩ |
        ⟨made, usedToken, usedAddress, admitted, same, live⟩)
      · exact ⟨made, usedToken, usedAddress, admitted, Or.inl same.symm, live⟩
      · exact ⟨made, usedToken, usedAddress, admitted, Or.inr same.symm, live⟩
    · rintro ⟨made, usedToken, usedAddress, admitted, same | same, live⟩
      · exact Or.inl ⟨made, usedToken, usedAddress, admitted, same.symm, live⟩
      · exact Or.inr ⟨made, usedToken, usedAddress, admitted, same.symm, live⟩
  · rintro before made refusedToken refusedAddress since rfl refused
    have later : (made :: times since ++ [now]).Pairwise (· ≤ ·) := by
      rw [times_append, times_cons_grant, List.append_assoc, List.pairwise_append] at clock
      exact clock.2.1
    have agree := agreesFrom_run (agreesFrom_of_refused refused).symm later
    rw [Bool.eq_iff_iff, grant_fst_iff, grant_fst_iff, run_append, run_append]
    exact agree.admits_iff

/-- In a run with a lifetime of 60, the second admission of an address outlives the first one. -/
theorem refuses_second_use :
    (times [.grant 1000 ['t'] ['a'], .grant 1059 ['u'] ['a'], .grant 1060 ['u'] ['a']] ++
        [(1100 : Int)]).Pairwise (· ≤ ·) ∧
      ((run (some 60) {} [.grant 1000 ['t'] ['a'], .grant 1059 ['u'] ['a'],
        .grant (1060 : Int) ['u'] ['a']]).grant (some 60) 1100 ['t'] ['a']).1 = false := by
  have clock : (times [.grant 1000 ['t'] ['a'], .grant 1059 ['u'] ['a'], .grant 1060 ['u'] ['a']] ++
      [(1100 : Int)]).Pairwise (· ≤ ·) := by decide
  refine ⟨clock, (refuses_iff (some 60) _ 1100 ['t'] ['a'] clock).1.mpr ?_⟩
  exact ⟨1060, ['u'], ['a'], ⟨[.grant 1000 ['t'] ['a'], .grant 1059 ['u'] ['a']], [], rfl,
    List.not_mem_nil, by decide⟩, Or.inl rfl, by decide⟩

end Ledger
end Admission
end SqlReview
