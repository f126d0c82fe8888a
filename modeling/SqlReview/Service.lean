import SqlReview.Access.Caller
import SqlReview.Admission.Gate
import SqlReview.Advice.Consultation
import SqlReview.Heuristic.Analysis

/-!
# The service

Two ways to have a query analyzed: quickly, which is free once for callers who are no users, and
by the reasoning engine, which is for users only. Who the caller is decides which way is taken.
-/

namespace SqlReview

open Access
open Admission
open Advice

/-- A way to analyze a query. -/
inductive Path where
  /-- The quick analysis. -/
  | heuristic
  /-- The consultation of the engine. -/
  | advisor
  deriving DecidableEq, Repr

/-- The name of a way. -/
def Path.name : Path → Text
  | .heuristic => "heuristic"
  | .advisor => "advisor"

/-- The way for a caller. -/
def Path.ofCaller (caller : Caller) : Path :=
  if caller.isAuthenticated then .advisor else .heuristic

/-- A service with its gate, and with an engine if there is one. -/
structure Service (τ σ : Type) where
  /-- The gate in front of free analyses. -/
  gate : Gate τ σ
  /-- The reasoning engine. -/
  engine : Option Engine := none
  /-- The validation of the engine's answers. -/
  validate : Validation

variable {τ σ : Type} [CommentRemover]

/-! ## Refusals -/

/-- The refusal of a caller without a token. -/
def noFreeToken : Problem :=
  .fail (.admissionDenied "no_free_token") "Create a free account to continue analyzing queries."

/-- The refusal of a caller whose free analysis is used up. -/
def freeLimitReached : Problem :=
  .fail (.admissionDenied "free_limit_reached")
    "Your free analysis has been used. Please sign up for unlimited access."

/-- The text of a query that is a text and not blank. -/
def usableText? (part : Json) : Option Text :=
  part.text?.bind fun text => if Text.isAllBlank text then none else some text

namespace Service

/-! ## Free analyses -/

/-- Passes the gate, or says why not, and gives the records after that. -/
def passGate (service : Service τ σ) (now : τ) (caller : Caller) (records : σ) :
    Except Problem Unit × σ :=
  match caller.freeToken with
  | none | some [] => (.error noFreeToken, records)
  | some token =>
    match service.gate.grant now token caller.address records with
    | (.ok true, after) => (.ok (), after)
    | (.ok false, after) => (.error freeLimitReached, after)
    | (.error problem, after) => (.error problem, after)

/-- A quick analysis. Users pass without the gate. -/
def freeAnalysis (service : Service τ σ) (now : τ) (inquiry : Inquiry) (caller : Caller)
    (records : σ) : Except Problem Heuristic.Analysis × σ :=
  match usableText? inquiry.query with
  | none => (.error (.fail .invalidInput "Invalid request: query is required"), records)
  | some query =>
    if caller.isAuthenticated then (.ok (Heuristic.analyze query), records)
    else
      match service.passGate now caller records with
      | (.ok (), after) => (.ok (Heuristic.analyze query), after)
      | (.error problem, after) => (.error problem, after)

/-! ## Consultations -/

/-- A conversation that ends before the engine is asked. -/
def refused (problem : Problem) : Conversation (Except Problem Report) :=
  .done (.error problem)

/-- The consultation of the engine for a user. -/
def advisorAnalysis (service : Service τ σ) (inquiry : Inquiry) (caller : Caller) :
    Conversation (Except Problem Report) :=
  if !caller.isAuthenticated then refused (.fail .unauthenticated "Unauthorized")
  else if (usableText? inquiry.query).isNone then
    refused (.fail .invalidInput "Query is required")
  else if (usableText? inquiry.database).isNone then
    refused (.fail .invalidInput "Database type is required")
  else if service.engine.isNone then refused notConfigured
  else consult service.validate inquiry

/-- A conversation with the engine of the service, which nobody asked anything before. -/
def hold {α : Type} (service : Service τ σ) (conversation : Conversation α) : Transcript α :=
  conversation.hold (service.engine.getD .absent) []

/-! ## Either way -/

/-- The answer on one of the ways. -/
inductive Answer where
  /-- The quick analysis. -/
  | heuristic (analysis : Heuristic.Analysis)
  /-- The report of a consultation. -/
  | advisor (report : Report)

/-- What comes of a request to analyze a query: the answer, what the engine was asked, and the
records after that. -/
structure Outcome (σ : Type) where
  /-- The answer or what stood in its way. -/
  answer : Except Problem Answer
  /-- The prompts that the engine got, in order. -/
  asked : List Text
  /-- The records of the gate. -/
  records : σ

/-- The analysis of a query on the way for the caller. -/
def analyze (service : Service τ σ) (now : τ) (inquiry : Inquiry) (caller : Caller)
    (records : σ) : Outcome σ :=
  match Path.ofCaller caller with
  | .advisor =>
    let consultation := service.hold (service.advisorAnalysis inquiry caller)
    ⟨consultation.result.map .advisor, consultation.asked, records⟩
  | .heuristic =>
    let (analysis, after) := service.freeAnalysis now inquiry caller records
    ⟨analysis.map .heuristic, [], after⟩

end Service
end SqlReview
