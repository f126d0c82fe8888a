import Mathlib.Data.List.Induction
import SqlReview.Proofs.Advice.Validator
import SqlReview.Proofs.Web.Halves
import SqlReview.Proofs.Web.Visit
import SqlReview.Query.Comment

/-!
# Free uses

Visits to the endpoint for quick analyses, one after the other, where the gate is a ledger that
never forgets. Main statement: the use of a guest is spent if and only if the form holds a query, the
header holds a free token, and neither the token nor the address of the guest belongs to a guest whose
use was spent before; and the guest is answered then if the query is a whole text. The ledger holds just
the tokens and addresses of spent uses, so that visits of users and refused visits may be left out
without any other response changing. So there is a gap: half a code point in the query costs a guest
the use and the answer.
-/

namespace SqlReview

/-! ## Ledgers that never forget -/

namespace Admission

variable {τ : Type} {name other : Text}

theorem Records.time?_eq_none_iff
    {records : Records τ} :
    records.time? name = none ↔ name ∉ records.names := by
  rw [time?, Option.map_eq_none_iff, List.find?_eq_none, names, List.mem_map]
  simp only [decide_eq_true_eq, not_exists, not_and]

theorem Records.mem_names_put
    {records : Records τ}
    {time : τ} :
    other ∈ (records.put name time).names ↔ other = name ∨ other ∈ records.names := by
  by_cases same : other = name
  · simp [put, names, same]
  · simp [put, names, erase, same]

variable [Sub τ] [LE τ] [DecidableLE τ] {now : τ}

theorem Records.lookUp_forever
    (records : Records τ) :
    records.lookUp none now name = (decide (name ∈ records.names), records) := by
  rw [lookUp]
  cases found : records.time? name with
  | none => simp [time?_eq_none_iff.mp found]
  | some made =>
      have present : name ∈ records.names := by
        by_contra absent
        rw [time?_eq_none_iff.mpr absent] at found
        contradiction
      simp [isLive, present]

theorem Ledger.grant_of_used
    {ledger : Ledger τ}
    {token address : Text}
    (used : address ∈ ledger.addresses.names ∨ token ∈ ledger.tokens.names) :
    ledger.grant none now token address = (false, ledger) := by
  simp [grant, Records.lookUp_forever, used]

theorem Ledger.grant_of_unused
    {ledger : Ledger τ}
    {token address : Text}
    (newAddress : address ∉ ledger.addresses.names)
    (newToken : token ∉ ledger.tokens.names) :
    ledger.grant none now token address =
      (true, ⟨ledger.addresses.put address now, ledger.tokens.put token now⟩) := by
  simp [grant, Records.lookUp_forever, newAddress, newToken]

end Admission

namespace Web

open Access Admission Advice

/-! ## Visits one after the other -/

section Runs

variable {τ σ : Type} {readBody : BodyReader} {endpoint : Endpoint}

/-- Visits with the responses to them. -/
abbrev Log (τ : Type) (readBody : BodyReader) (endpoint : Endpoint) :=
  List (Visit τ readBody endpoint × Response)

/-- Visits one after the other with the responses to them. -/
def log
    [CommentRemover]
    (service : Service τ σ)
    (tokens : Fields) :
    List (Visit τ readBody endpoint) → σ → Log τ readBody endpoint
  | [], _ => []
  | visit :: rest, records =>
    let handling := visit.handling service tokens records
    (visit, handling.response) :: log service tokens rest handling.records

/-- The records after visits. -/
def recordsAfter
    [CommentRemover]
    (service : Service τ σ)
    (tokens : Fields)
    (visits : List (Visit τ readBody endpoint))
    (records : σ) : σ :=
  visits.foldl (fun records visit => (visit.handling service tokens records).records) records

variable {service : Service τ σ} {tokens : Fields}
variable {visits more : List (Visit τ readBody endpoint)} {records : σ}

theorem log_cons
    [CommentRemover]
    (visit : Visit τ readBody endpoint) :
    log service tokens (visit :: visits) records =
      (visit, (visit.handling service tokens records).response) ::
        log service tokens visits (visit.handling service tokens records).records := rfl

theorem recordsAfter_concat
    [CommentRemover]
    (visit : Visit τ readBody endpoint) :
    recordsAfter service tokens (visits ++ [visit]) records =
      (visit.handling service tokens (recordsAfter service tokens visits records)).records := by
  rw [recordsAfter, List.foldl_append]
  rfl

theorem log_append [CommentRemover] :
    log service tokens (visits ++ more) records =
      log service tokens visits records ++
        log service tokens more (recordsAfter service tokens visits records) := by
  induction visits generalizing records with
  | nil => rfl
  | cons visit visits inductionHypothesis =>
      rw [List.cons_append, log_cons, log_cons, inductionHypothesis]
      rfl

theorem map_fst_log
    [CommentRemover]
    (service : Service τ σ)
    (tokens : Fields)
    (visits : List (Visit τ readBody endpoint))
    (records : σ) :
    (log service tokens visits records).map Prod.fst = visits := by
  induction visits generalizing records with
  | nil => rfl
  | cons visit visits inductionHypothesis =>
      rw [log_cons, List.map_cons, inductionHypothesis]

/-- An entry of a log is the response to a visit after those before it. -/
theorem exists_of_log_eq
    [CommentRemover]
    {earlier later : Log τ readBody endpoint}
    {visit : Visit τ readBody endpoint}
    {response : Response}
    (split : log service tokens visits records = earlier ++ (visit, response) :: later) :
    ∃ before, earlier = log service tokens before records ∧
      response =
        (visit.handling service tokens (recordsAfter service tokens before records)).response := by
  have parts : visits = earlier.map Prod.fst ++ visit :: later.map Prod.fst := by
    rw [← map_fst_log service tokens visits records, split]
    simp
  subst parts
  rw [log_append, log_cons] at split
  have sameLength : (log service tokens (earlier.map Prod.fst) records).length = earlier.length := by
    rw [← List.length_map Prod.fst, map_fst_log, List.length_map]
  obtain ⟨same, rest⟩ := List.append_inj split sameLength
  refine ⟨earlier.map Prod.fst, same.symm, ?_⟩
  exact (Prod.mk.inj (List.cons.inj rest).1).2.symm

end Runs

/-! ## Guests -/

namespace Visit

variable {τ : Type} {readBody : BodyReader} {endpoint : Endpoint}

/-- Whether the header holds a token for a free analysis. -/
def Carries
    (visit : Visit τ readBody endpoint)
    (token : Text) : Prop :=
  visit.request.headers.get? "x-free-analysis-token" = some token ∧ token ≠ []

/-- The address that a visit comes from. -/
def address (visit : Visit τ readBody endpoint) : Text :=
  clientAddress visit.request.headers visit.request.peer

/-- Whether the query in the form is a whole text: no half of a code point stands alone in it. -/
def AsksWhole (visit : Visit τ readBody endpoint) : Prop :=
  ∀ query, HoldsText visit.form queryField query → query.any visit.form.halves.isHalf = false

variable {tokens : Fields} {visit : Visit τ readBody endpoint}

theorem freeToken_caller_iff
    {token : Text} :
    (visit.caller tokens).freeToken = some token ↔ visit.Carries token := by
  have kept : ∀ given, nonEmpty? given = some token ↔ given = token ∧ token ≠ [] := by
    intro given
    rw [nonEmpty?, Option.ite_none_left_eq_some, List.isEmpty_iff, Option.some.injEq]
    constructor
    · rintro ⟨nonempty, rfl⟩
      exact ⟨rfl, nonempty⟩
    · rintro ⟨rfl, nonempty⟩
      exact ⟨nonempty, rfl⟩
  simp only [caller, callerOf, Carries, Option.bind_eq_some_iff, kept]
  constructor
  · rintro ⟨given, found, rfl, nonempty⟩
    exact ⟨found, nonempty⟩
  · rintro ⟨found, nonempty⟩
    exact ⟨token, found, rfl, nonempty⟩

theorem Carries.unique
    {token other : Text}
    (carries : visit.Carries token)
    (carriesOther : visit.Carries other) :
    other = token :=
  Option.some.inj (carriesOther.1.symm.trans carries.1)

/-- An analysis is sent if the query is a whole text. -/
theorem status_quickResponse_of_holds
    {query : Text}
    (holds : HoldsText visit.form queryField query) :
    let status := (quickResponse visit.form.halves (.ok (Heuristic.analyze query))).status
    visit.AsksWhole ∧ status = 200 ∨ ¬visit.AsksWhole ∧ status = 500 := by
  rw [quickResponse, Halves.occurIn_analysis]
  cases halved : query.any visit.form.halves.isHalf with
  | false =>
      refine Or.inl ⟨?_, rfl⟩
      intro other holdsOther
      rwa [holds.unique holdsOther]
  | true =>
      refine Or.inr ⟨fun whole => ?_, rfl⟩
      rw [whole query holds] at halved
      contradiction

end Visit

/-! ## One visit -/

section OneVisit

variable {τ : Type} {readBody : BodyReader}

/-- Whether a visit carries a free token, and neither the token nor the address is in the ledger. -/
def Unspent
    (visit : Visit τ readBody .analyze)
    (ledger : Ledger τ) : Prop :=
  ∃ token, visit.Carries token ∧ visit.address ∉ ledger.addresses.names ∧
    token ∉ ledger.tokens.names

/-- Whether the use of a guest is spent, given what the ledger holds. -/
def Admissible
    (visit : Visit τ readBody .analyze)
    (ledger : Ledger τ) : Prop :=
  (∃ query, HoldsText visit.form queryField query) ∧ Unspent visit ledger

variable [Sub τ] [LE τ] [DecidableLE τ]

/-- A service with an engine or without, whose ledger never forgets. -/
def openService
    (engine : Option Engine)
    (validate : Validation) : Service τ (Ledger τ) :=
  ⟨Gate.ledger none, engine, validate⟩

variable {engine : Option Engine} {validate : Validation} {tokens : Fields}
variable {visit : Visit τ readBody .analyze} {ledger : Ledger τ}

/-- A visit is a quick analysis by the service for the caller behind it. -/
theorem handling_open
    [CommentRemover]
    (engine : Option Engine)
    (validate : Validation)
    (tokens : Fields)
    (visit : Visit τ readBody .analyze)
    (ledger : Ledger τ) :
    let result := (openService engine validate).freeAnalysis visit.occasion.now
      visit.form.quickInquiry (visit.caller tokens) ledger
    visit.handling (openService engine validate) tokens ledger =
      ⟨openToOrigin visit.request (quickResponse visit.form.halves result.1), [], result.2⟩ := by
  have read : readBody quickFields visit.request = .accepted visit.form := visit.hasForm
  rw [Visit.handling_eq]
  simp only [serve, analyze, read, Reading.form]
  rfl

/-- The visit of a user leaves the ledger as it is. -/
theorem records_handling_of_user [CommentRemover] (isUser : visit.IsUser tokens) :
    (visit.handling (openService engine validate) tokens ledger).records = ledger := by
  rw [handling_open, Service.freeAnalysis]
  split
  · rfl
  · rw [if_pos (Visit.isAuthenticated_caller_iff.mpr isUser)]

/-- The gate asks the ledger about the token that a caller carries. -/
theorem passGate_of_carries
    {token : Text}
    (carries : visit.Carries token) :
    (openService engine validate).passGate visit.occasion.now (visit.caller tokens) ledger =
      (if (ledger.grant none visit.occasion.now token visit.address).1 then .ok ()
        else .error freeLimitReached,
        (ledger.grant none visit.occasion.now token visit.address).2) := by
  have carried : (visit.caller tokens).freeToken = some token :=
    Visit.freeToken_caller_iff.mpr carries
  obtain ⟨c, rest, rfl⟩ := List.exists_cons_of_ne_nil carries.2
  have asked : (openService engine validate).gate.grant visit.occasion.now (c :: rest)
      (visit.caller tokens).address ledger =
        (.ok (ledger.grant none visit.occasion.now (c :: rest) visit.address).1,
          (ledger.grant none visit.occasion.now (c :: rest) visit.address).2) := rfl
  simp only [Service.passGate, carried, asked]
  cases (ledger.grant none visit.occasion.now (c :: rest) visit.address).1 with
  | false => rfl
  | true => rfl

/-- The gate is open just for what is not spent, and enters it in the ledger. -/
theorem passGate_cases
    (engine : Option Engine)
    (validate : Validation)
    (tokens : Fields)
    (visit : Visit τ readBody .analyze)
    (ledger : Ledger τ) :
    let passed := (openService engine validate).passGate visit.occasion.now (visit.caller tokens)
      ledger
    Unspent visit ledger ∧ (∃ token, visit.Carries token ∧
        passed = (.ok (), ⟨ledger.addresses.put visit.address visit.occasion.now,
          ledger.tokens.put token visit.occasion.now⟩)) ∨
      ¬Unspent visit ledger ∧ (passed = (.error noFreeToken, ledger) ∨
        passed = (.error freeLimitReached, ledger)) := by
  cases carried : (visit.caller tokens).freeToken with
  | none =>
      refine Or.inr ⟨?_, Or.inl ?_⟩
      · rintro ⟨token, carries, -⟩
        rw [Visit.freeToken_caller_iff.mpr carries] at carried
        contradiction
      · rw [Service.passGate, carried]
  | some token =>
      have carries := Visit.freeToken_caller_iff.mp carried
      rw [passGate_of_carries carries]
      by_cases used : visit.address ∈ ledger.addresses.names ∨ token ∈ ledger.tokens.names
      · rw [Ledger.grant_of_used used]
        refine Or.inr ⟨?_, Or.inr rfl⟩
        rintro ⟨other, otherCarries, newAddress, newToken⟩
        obtain rfl := carries.unique otherCarries
        exact used.elim newAddress newToken
      · rw [not_or] at used
        rw [Ledger.grant_of_unused used.1 used.2]
        exact Or.inl ⟨⟨token, carries, used⟩, token, carries, rfl⟩

theorem not_refused_of_spent
    {status : Nat}
    (spent : status = 200 ∨ status = 500) :
    ¬(status = 400 ∨ status = 403) := by
  omega

/-- A guest whose use is spent is entered in the ledger, and is answered if the query is a whole text.
One who is refused is not entered. -/
theorem handling_of_guest [CommentRemover] (isGuest : ¬visit.IsUser tokens) :
    let handling := visit.handling (openService engine validate) tokens ledger
    Admissible visit ledger ∧
        (visit.AsksWhole ∧ handling.response.status = 200 ∨
          ¬visit.AsksWhole ∧ handling.response.status = 500) ∧
        (∃ token, visit.Carries token ∧
          handling.records = ⟨ledger.addresses.put visit.address visit.occasion.now,
            ledger.tokens.put token visit.occasion.now⟩) ∨
      ¬Admissible visit ledger ∧ handling.records = ledger ∧
        (handling.response.status = 400 ∨ handling.response.status = 403) := by
  have guest : (visit.caller tokens).isAuthenticated = false := by
    rw [Bool.eq_false_iff, ne_eq, Visit.isAuthenticated_caller_iff]
    exact isGuest
  dsimp only
  rw [handling_open]
  simp only [status_openToOrigin, Service.freeAnalysis, guest, Bool.false_eq_true, if_false,
    Form.quickInquiry]
  cases usable : usableText? (visit.form.part queryField) with
  | none =>
      have inadmissible : ¬Admissible visit ledger := by
        rintro ⟨⟨query, holds⟩, -⟩
        rw [usableText?_part_iff.mpr holds] at usable
        contradiction
      exact Or.inr ⟨inadmissible, rfl, Or.inl rfl⟩
  | some query =>
      have holds : HoldsText visit.form queryField query := usableText?_part_iff.mp usable
      rcases passGate_cases engine validate tokens visit ledger with
        ⟨unspent, token, carries, passed⟩ | ⟨spent, passed | passed⟩
      · rw [passed]
        exact Or.inl ⟨⟨⟨query, holds⟩, unspent⟩, Visit.status_quickResponse_of_holds holds, token,
          carries, rfl⟩
      · rw [passed]
        exact Or.inr ⟨fun admissible => spent admissible.2, rfl, Or.inr rfl⟩
      · rw [passed]
        exact Or.inr ⟨fun admissible => spent admissible.2, rfl, Or.inr rfl⟩

end OneVisit

/-! ## What is remembered -/

section Memory

variable {τ : Type} {readBody : BodyReader}

/-- Whether a visit spends a use: a guest came, and was answered or lost the answer. -/
def SpendsUse
    (tokens : Fields)
    (entry : Visit τ readBody .analyze × Response) : Prop :=
  ¬entry.1.IsUser tokens ∧ (entry.2.status = 200 ∨ entry.2.status = 500)

/-- Whether a log is what remains of another one when some visits of users and some refused visits
are left out. -/
inductive Pruned (tokens : Fields) :
    Log τ readBody .analyze → Log τ readBody .analyze → Prop where
  /-- Nothing remains of an empty log. -/
  | nil : Pruned tokens [] []
  /-- Any visit may stay. -/
  | keep {entries kept : Log τ readBody .analyze} (entry : Visit τ readBody .analyze × Response) :
    Pruned tokens entries kept → Pruned tokens (entry :: entries) (entry :: kept)
  /-- The visit of a user and a refused visit may be left out. -/
  | leave {entries kept : Log τ readBody .analyze} (entry : Visit τ readBody .analyze × Response)
    (needless : entry.1.IsUser tokens ∨ entry.2.status = 400 ∨ entry.2.status = 403) :
    Pruned tokens entries kept → Pruned tokens (entry :: entries) kept

/-- Whether a ledger holds just the addresses and tokens of the uses that a log spends. -/
structure Remembers
    (tokens : Fields)
    (entries : Log τ readBody .analyze)
    (ledger : Ledger τ) : Prop where
  /-- The addresses are those of spent uses. -/
  addresses : ∀ address, address ∈ ledger.addresses.names ↔
    ∃ used ∈ entries, SpendsUse tokens used ∧ used.1.address = address
  /-- The tokens are those of spent uses. -/
  tokens : ∀ token, token ∈ ledger.tokens.names ↔
    ∃ used ∈ entries, SpendsUse tokens used ∧ used.1.Carries token

/-- Whether a guest who comes after some visits has a use: the form holds a query, the header holds a
token, and neither the address nor the token is of a use that was spent before. -/
def HasUse
    (tokens : Fields)
    (earlier : Log τ readBody .analyze)
    (visit : Visit τ readBody .analyze) : Prop :=
  (∃ query, HoldsText visit.form queryField query) ∧
    ∃ token, visit.Carries token ∧ ∀ used ∈ earlier, SpendsUse tokens used →
      used.1.address ≠ visit.address ∧ ¬used.1.Carries token

variable {tokens : Fields} {visit : Visit τ readBody .analyze} {ledger : Ledger τ}
variable {entries : Log τ readBody .analyze}

theorem remembers_nil : Remembers tokens ([] : Log τ readBody .analyze) ({} : Ledger τ) :=
  ⟨by simp [Admission.Records.names], by simp [Admission.Records.names]⟩

/-- A visit that spends no use adds nothing to what is remembered. -/
theorem Remembers.concat_of_not
    (remembers : Remembers tokens entries ledger)
    {entry : Visit τ readBody .analyze × Response}
    (unused : ¬SpendsUse tokens entry) :
    Remembers tokens (entries ++ [entry]) ledger := by
  constructor
  · intro address
    rw [remembers.addresses]
    simp [or_and_right, exists_or, unused]
  · intro token
    rw [remembers.tokens]
    simp [or_and_right, exists_or, unused]

/-- A spent use is remembered. -/
theorem Remembers.concat_of_spendsUse
    (remembers : Remembers tokens entries ledger)
    {response : Response}
    (spends : SpendsUse tokens (visit, response))
    {token : Text}
    (carries : visit.Carries token)
    (now : τ) :
    Remembers tokens (entries ++ [(visit, response)])
      ⟨ledger.addresses.put visit.address now, ledger.tokens.put token now⟩ := by
  constructor
  · intro address
    rw [Admission.Records.mem_names_put, remembers.addresses, or_comm]
    simp [or_and_right, exists_or, spends, eq_comm]
  · intro name
    have own : visit.Carries name ↔ name = token :=
      ⟨carries.unique, fun same => same ▸ carries⟩
    rw [Admission.Records.mem_names_put, remembers.tokens, or_comm]
    simp [or_and_right, exists_or, spends, own]

/-- A guest who comes after some visits is admitted if and only if there is a use left. -/
theorem Remembers.admissible_iff (remembers : Remembers tokens entries ledger) :
    Admissible visit ledger ↔ HasUse tokens entries visit := by
  rw [Admissible, Unspent, HasUse]
  apply and_congr_right
  intro asks
  apply exists_congr
  intro token
  apply and_congr_right
  intro carries
  rw [remembers.addresses, remembers.tokens]
  constructor
  · rintro ⟨newAddress, newToken⟩ used present spends
    exact ⟨fun same => newAddress ⟨used, present, spends, same⟩,
      fun same => newToken ⟨used, present, spends, same⟩⟩
  · intro unused
    exact ⟨fun ⟨used, present, spends, same⟩ => (unused used present spends).1 same,
      fun ⟨used, present, spends, same⟩ => (unused used present spends).2 same⟩

end Memory

/-! ## Runs of visits -/

section ManyVisits

variable {τ : Type} [Sub τ] [LE τ] [DecidableLE τ] {readBody : BodyReader}
variable {engine : Option Engine} {validate : Validation} {tokens : Fields}
variable {visit : Visit τ readBody .analyze} {ledger : Ledger τ}
variable {entries kept : Log τ readBody .analyze} {visits : List (Visit τ readBody .analyze)}

/-- What is remembered after one more visit. -/
theorem Remembers.step [CommentRemover] (remembers : Remembers tokens entries ledger) :
    Remembers tokens
      (entries ++
        [(visit, (visit.handling (openService engine validate) tokens ledger).response)])
      (visit.handling (openService engine validate) tokens ledger).records := by
  by_cases isUser : visit.IsUser tokens
  · rw [records_handling_of_user isUser]
    exact remembers.concat_of_not fun spends => spends.1 isUser
  · rcases handling_of_guest isUser with
      ⟨-, answered, token, carries, after⟩ | ⟨-, after, refused⟩
    · rw [after]
      exact remembers.concat_of_spendsUse ⟨isUser, answered.imp And.right And.right⟩ carries _
    · rw [after]
      apply remembers.concat_of_not
      exact fun spends => not_refused_of_spent spends.2 refused

/-- What is remembered after a run of visits. -/
theorem remembers_recordsAfter [CommentRemover] :
    Remembers tokens (log (openService engine validate) tokens visits {})
      (recordsAfter (openService engine validate) tokens visits {}) := by
  -- The last visit finds the ledger as the visits before it left it.
  induction visits using List.reverseRecOn with
  | nil => exact remembers_nil
  | append_singleton visits visit inductionHypothesis =>
      rw [log_append, recordsAfter_concat]
      exact inductionHypothesis.step

/-- The response to a guest says whether a use was spent, and whether the query was a whole text. -/
theorem status_handling_of_guest [CommentRemover] (isGuest : ¬visit.IsUser tokens) :
    let status := (visit.handling (openService engine validate) tokens ledger).response.status
    (status = 200 ↔ Admissible visit ledger ∧ visit.AsksWhole) ∧
      (status = 500 ↔ Admissible visit ledger ∧ ¬visit.AsksWhole) := by
  dsimp only
  rcases handling_of_guest isGuest with
    ⟨admissible, ⟨whole, answered⟩ | ⟨halved, lost⟩, -⟩ | ⟨inadmissible, -, refused⟩
  · rw [answered]
    exact ⟨iff_of_true rfl ⟨admissible, whole⟩, iff_of_false (by decide) fun both => both.2 whole⟩
  · rw [lost]
    exact ⟨iff_of_false (by decide) fun both => halved both.2,
      iff_of_true rfl ⟨admissible, halved⟩⟩
  · exact ⟨iff_of_false (by omega) fun both => inadmissible both.1,
      iff_of_false (by omega) fun both => inadmissible both.1⟩

/-- A visit that may be left out leaves the ledger as it is. -/
theorem records_handling_of_needless
    [CommentRemover]
    (needless : visit.IsUser tokens ∨
      (visit.handling (openService engine validate) tokens ledger).response.status = 400 ∨
      (visit.handling (openService engine validate) tokens ledger).response.status = 403) :
    (visit.handling (openService engine validate) tokens ledger).records = ledger := by
  by_cases isUser : visit.IsUser tokens
  · exact records_handling_of_user isUser
  · rcases handling_of_guest isUser with ⟨-, spent, -⟩ | ⟨-, after, -⟩
    · have refused := needless.resolve_left isUser
      exact absurd refused (not_refused_of_spent (spent.imp And.right And.right))
    · exact after

/-- Visits that may be left out are missed by no other visit. -/
theorem log_of_pruned
    [CommentRemover]
    (pruned : Pruned tokens (log (openService engine validate) tokens visits ledger) kept) :
    log (openService engine validate) tokens (kept.map Prod.fst) ledger = kept := by
  -- A visit that is left out is followed by visits that find the same ledger without it.
  induction visits generalizing ledger kept with
  | nil =>
      cases pruned
      rfl
  | cons visit visits inductionHypothesis =>
      rw [log_cons] at pruned
      cases pruned with
      | keep _ rest =>
          rw [List.map_cons, log_cons, inductionHypothesis rest]
      | leave _ needless rest =>
          rw [records_handling_of_needless needless] at rest
          exact inductionHypothesis rest

/-- A guest is answered if and only if there is a use left, that is, the form holds a query, the header
holds a free token, and neither the address nor the token is of a use that was spent before, and the
query is a whole text. If it is not, the use is spent and the answer is lost. Visits of users and
refused visits can be left out, and every other response stays the same. What the ledger holds are the
addresses and the tokens of spent uses. -/
theorem free_use_exact
    [CommentRemover]
    (engine : Option Engine)
    (validate : Validation)
    (tokens : Fields)
    (visits : List (Visit τ readBody .analyze)) :
    (∀ earlier visit response later,
      log (openService engine validate) tokens visits {} =
          earlier ++ (visit, response) :: later →
      ¬visit.IsUser tokens →
        (response.status = 200 ↔ HasUse tokens earlier visit ∧ visit.AsksWhole) ∧
        (response.status = 500 ↔ HasUse tokens earlier visit ∧ ¬visit.AsksWhole)) ∧
    (∀ kept, Pruned tokens (log (openService engine validate) tokens visits {}) kept →
      log (openService engine validate) tokens (kept.map Prod.fst) {} = kept) ∧
    Remembers tokens (log (openService engine validate) tokens visits {})
      (recordsAfter (openService engine validate) tokens visits {}) := by
  refine ⟨?_, fun kept pruned => log_of_pruned pruned, remembers_recordsAfter⟩
  intro earlier visit response later split isGuest
  obtain ⟨before, rfl, rfl⟩ := exists_of_log_eq split
  rw [← remembers_recordsAfter.admissible_iff]
  exact status_handling_of_guest isGuest

end ManyVisits

/-! ## Two runs -/

/-- A visit with a query that is a whole text. -/
def wholeVisit
    (headers : Headers)
    (peer query : Text) : Visit Nat (Body.reader 950) .analyze :=
  .ofTexts ⟨0, [], []⟩ headers (some peer) [("query", query)] (List.nodup_singleton _)
    (Nat.succ_pos _)

/-- A document with a query that is half a code point. -/
def halfDocument : Text :=
  "\x7b\"query\": \"\\ud800\"\x7d"

theorem textsIn?_halfDocument :
    textsIn? (Json.lenient (some 950) halfDocument) halfDocument =
      some ([("query", "\uE000")] : List (Text × Text)) := by
  decide +kernel

/-- A visit with a query that is half a code point. -/
def halfVisit
    (headers : Headers)
    (peer : Text) : Visit Nat (Body.reader 950) .analyze :=
  .ofDocument ⟨0, [], []⟩ headers (some peer) (by decide) (parse_of_textsIn? textsIn?_halfDocument)

/-- A service without an engine. -/
def quickService : Service Nat (Ledger Nat) :=
  openService none (Validator.ofSpelling Shape.spelled?).validate

/-- One user. -/
def oneUser : Fields :=
  textFields [("alice", "secret")]

/-- The visit of a guest, the visit of a user from the same address, the visit of a guest with the
token of the first one, and the visit of another guest who asks about half a code point. -/
def fourVisits : List (Visit Nat (Body.reader 950) .analyze) := [
  wholeVisit [("X-Free-Analysis-Token", "t")] "10.0.0.1" "SELECT 1",
  wholeVisit [("Authorization", "Bearer secret")] "10.0.0.1" "SELECT 1",
  wholeVisit [("X-Free-Analysis-Token", "t")] "10.0.0.2" "SELECT 1",
  halfVisit [("X-Free-Analysis-Token", "u")] "10.0.0.3"]

theorem status_log_fourVisits :
    (log quickService oneUser fourVisits {}).map (fun entry => entry.2.status) =
      [200, 200, 403, 500] := by
  decide +kernel

/-- The first guest has a use and is answered. The second one has none, since the token is spent. The
third one has a use and loses it. The user and the refused guest may be left out. -/
theorem free_use_of_fourVisits :
    ∃ first user second third,
      log quickService oneUser fourVisits {} = [first, user, second, third] ∧
      (HasUse oneUser [] first.1 ∧ first.1.AsksWhole) ∧
      ¬HasUse oneUser [first, user] second.1 ∧
      (HasUse oneUser [first, user, second] third.1 ∧ ¬third.1.AsksWhole) ∧
      log quickService oneUser [first.1, third.1] {} = [first, third] := by
  obtain ⟨answers, pruning, -⟩ :=
    free_use_exact none (Validator.ofSpelling Shape.spelled?).validate oneUser fourVisits
  obtain ⟨first, _, entries, firstStatus, rest⟩ := List.map_eq_cons_iff.mp status_log_fourVisits
  obtain ⟨user, _, rfl, -, rest⟩ := List.map_eq_cons_iff.mp rest
  obtain ⟨second, _, rfl, secondStatus, rest⟩ := List.map_eq_cons_iff.mp rest
  obtain ⟨third, _, rfl, thirdStatus, rest⟩ := List.map_eq_cons_iff.mp rest
  obtain rfl := List.map_eq_nil_iff.mp rest
  have visits : fourVisits = [first.1, user.1, second.1, third.1] := by
    rw [← map_fst_log quickService oneUser fourVisits {}, entries]
    rfl
  have identities : fourVisits.map (fun visit => (visit.caller oneUser).isAuthenticated) =
      [false, true, false, false] := by
    decide +kernel
  rw [visits] at identities
  simp only [List.map_cons, List.cons.injEq, List.map_nil, and_true, Bool.eq_false_iff, ne_eq,
    Visit.isAuthenticated_caller_iff] at identities
  obtain ⟨firstGuest, isUser, secondGuest, thirdGuest⟩ := identities
  refine ⟨first, user, second, third, entries, ?_, ?_, ?_, ?_⟩
  · exact (answers [] first.1 first.2 _ entries firstGuest).1.mp firstStatus
  · intro hasUse
    have answer := answers [first, user] second.1 second.2 _ entries secondGuest
    by_cases whole : second.1.AsksWhole
    · have answered := answer.1.mpr ⟨hasUse, whole⟩
      omega
    · have lost := answer.2.mpr ⟨hasUse, whole⟩
      omega
  · exact (answers [first, user, second] third.1 third.2 [] entries thirdGuest).2.mp thirdStatus
  · apply pruning [first, third]
    have remains : Pruned oneUser [first, user, second, third] [first, third] :=
      .keep first (.leave user (Or.inl isUser)
        (.leave second (Or.inr (Or.inr secondStatus)) (.keep third .nil)))
    rwa [← entries] at remains

/-- Whether just those guests are answered who ask about a query and carry a token, and of whom
neither the address nor the token is of a guest who was answered before. -/
def AnswersNewcomers
    (tokens : Fields)
    (entries : Log Nat (Body.reader 950) .analyze) : Prop :=
  ∀ earlier visit response later, entries = earlier ++ (visit, response) :: later →
    ¬visit.IsUser tokens →
      (response.status = 200 ↔ (∃ query, HoldsText visit.form queryField query) ∧
        ∃ token, visit.Carries token ∧ ∀ used ∈ earlier, ¬used.1.IsUser tokens →
          used.2.status = 200 → used.1.address ≠ visit.address ∧ ¬used.1.Carries token)

/-- A guest who asks about half a code point, and then about a query. -/
def twoVisits : List (Visit Nat (Body.reader 950) .analyze) := [
  halfVisit [("X-Free-Analysis-Token", "t")] "10.0.0.1",
  wholeVisit [("X-Free-Analysis-Token", "t")] "10.0.0.1" "SELECT 1"]

theorem status_log_twoVisits :
    (log quickService oneUser twoVisits {}).map (fun entry => entry.2.status) = [500, 403] := by
  decide +kernel

/-- The guest is refused, though nobody was answered before. -/
theorem not_answersNewcomers_twoVisits :
    ¬AnswersNewcomers oneUser (log quickService oneUser twoVisits {}) := by
  intro claimed
  obtain ⟨first, _, entries, firstStatus, rest⟩ := List.map_eq_cons_iff.mp status_log_twoVisits
  obtain ⟨second, _, rfl, secondStatus, rest⟩ := List.map_eq_cons_iff.mp rest
  obtain rfl := List.map_eq_nil_iff.mp rest
  have visits : twoVisits = [first.1, second.1] := by
    rw [← map_fst_log quickService oneUser twoVisits {}, entries]
    rfl
  obtain ⟨-, same⟩ := List.cons.inj visits
  obtain ⟨same, -⟩ := List.cons.inj same
  have isGuest : ¬second.1.IsUser oneUser := by
    rw [← Visit.isAuthenticated_caller_iff, ← same]
    decide +kernel
  have asks : HoldsText second.1.form queryField "SELECT 1" := by
    rw [← same]
    exact ⟨rfl, by decide⟩
  have carries : second.1.Carries "t" := by
    rw [← same]
    exact ⟨rfl, by decide⟩
  have unanswered : ∀ used ∈ [first], ¬used.1.IsUser oneUser → used.2.status = 200 →
      used.1.address ≠ second.1.address ∧ ¬used.1.Carries "t" := by
    intro used present _ answered
    rw [List.mem_singleton.mp present, firstStatus] at answered
    contradiction
  have answered := (claimed [first] second.1 second.2 [] entries isGuest).mpr
    ⟨⟨"SELECT 1", asks⟩, "t", carries, unanswered⟩
  rw [secondStatus] at answered
  contradiction

end Web
end SqlReview
