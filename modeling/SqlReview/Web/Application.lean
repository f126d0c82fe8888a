import SqlReview.Service
import SqlReview.Web.Form
import SqlReview.Web.Origin

/-!
# The web application

Three paths: a quick analysis, a consultation, and the state of health. Problems become responses
here: those that are safe to show are shown, and of all others the caller learns no more than that
something went wrong.
-/

namespace SqlReview
namespace Web

open Access
open Advice

/-! ## The application -/

/-- An application: the service and the users with their tokens, if they could be set up, and what
reads the bodies of requests. -/
structure Application (τ σ : Type) where
  /-- The service. -/
  service : Except Problem (Service τ σ)
  /-- The users with their tokens. -/
  tokens : Except Problem Fields
  /-- What reads the bodies of requests. -/
  readBody : BodyReader

/-- When a request is handled, and what it is numbered. -/
structure Occasion (τ : Type) where
  /-- The time for the gate. -/
  now : τ
  /-- The time in writing. -/
  timestamp : Text
  /-- A number for a report. -/
  id : Text

/-- What comes of a request: the response, what the engine was asked, and the records of the gate
after that. -/
structure Handling (σ : Type) where
  /-- The response. -/
  response : Response
  /-- The prompts that the engine got, in order. -/
  asked : List Text
  /-- The records of the gate. -/
  records : σ

variable {τ σ : Type} [CommentRemover]

/-- The parts of an application, without which it does not start: the service and the users. -/
def Application.parts (application : Application τ σ) : Except Problem (Service τ σ × Fields) := do
  pure (← application.service, ← application.tokens)

/-- What is said in a conversation with the engine of the service, which nobody asked anything
before. -/
def Application.hold {α : Type} (application : Application τ σ) (conversation : Conversation α) :
    Transcript α :=
  match application.service with
  | .ok service => service.hold conversation
  | .error _ => conversation.hold .absent []

/-- The version of the service. -/
def version : Text :=
  "1.0.0"

/-! ## Quick analyses -/

/-- The response when something went wrong that the caller cannot change. -/
def serverError : Response :=
  .ofFields 500 [
    ("error", .string "server_error"),
    ("message", .string "Unable to process request. Please try again.")]

/-- The response to a problem of a quick analysis. -/
def quickProblem : Problem → Response
  | .failure ⟨.invalidInput, message, _⟩ => .ofFields 400 [("error", .string message)]
  | .failure ⟨.admissionDenied reason, message, _⟩ =>
    .ofFields 403 [("error", .string reason), ("message", .string message)]
  | _ => serverError

/-- The response to the request for a quick analysis. The analysis can only be written if its texts
are whole. -/
def quickResponse (halves : Halves) : Except Problem Heuristic.Analysis → Response
  | .ok analysis =>
    if halves.occurIn analysis.toJson then .breakdown
    else { status := 200, content := .json analysis.toJson }
  | .error problem => quickProblem problem

/-- The fields of the form of a quick analysis. -/
def quickFields : List FieldNames :=
  [queryField, schemaField, planField, explainField]

/-- Handles the request for a quick analysis. -/
def analyze (application : Application τ σ) (occasion : Occasion τ) (request : Request)
    (records : σ) : Handling σ :=
  match (application.readBody quickFields request).form with
  | .error response => ⟨response, [], records⟩
  | .ok form =>
    match application.parts with
    | .ok (service, tokens) =>
      let caller := callerOf request.headers request.peer tokens
      let (analysis, after) := service.freeAnalysis occasion.now form.quickInquiry caller records
      ⟨quickResponse form.halves analysis, [], after⟩
    | .error _ => ⟨.breakdown, [], records⟩

/-! ## Consultations -/

/-- The response that a consultation failed. -/
def failed (status : Nat) (error : Text) : Response :=
  .ofFields status [("success", .bool false), ("error", .string error)]

/-- The response to a problem of a consultation. -/
def consultationProblem : Problem → Response
  | .failure failure =>
    failed failure.kind.status
      (if failure.kind.isPublic then failure.message else "Internal server error")
  | .fault _ => failed 500 "Internal server error"

/-- The response to the request for a consultation, whose report gets a number. The report can only
be written if the findings are told in whole texts. An answer of the engine has no halves. -/
def consultationResponse (halves : Halves) (id : Text) : Except Problem Report → Response
  | .ok report =>
    if halves.occurInItems (report.findings.map Finding.toJson) then .breakdown
    else .ofFields 200 [("success", .bool true), ("data", report.toJson id)]
  | .error problem => consultationProblem problem

/-- The fields of the form of a consultation. -/
def consultationFields : List FieldNames :=
  [queryField, databaseField, schemaField, planField]

/-- The conversation with the engine about a request for a consultation. -/
def optimize (application : Application τ σ) (occasion : Occasion τ) (request : Request) :
    Conversation Response :=
  match (application.readBody consultationFields request).form with
  | .error response => .done response
  | .ok form =>
    if (request.headers.valueOf "authorization").isEmpty then
      .done (failed 401 "Missing authorization header")
    else
      match application.parts with
      | .ok (service, tokens) =>
        let caller := callerOf request.headers request.peer tokens
        (service.advisorAnalysis form.inquiry caller).map
          (consultationResponse form.halves occasion.id)
      | .error _ => .done .breakdown

/-! ## Health -/

/-- The state of health of a service. -/
def healthReport (service : Service τ σ) (isHealthy : Bool) (timestamp : Text) : Response :=
  .ofFields 200 [
    ("status", .string (if isHealthy then "healthy" else "degraded")),
    ("version", .string version),
    ("engine_configured", .bool service.engine.isSome),
    ("admission_backend", .string service.gate.backend),
    ("admission_healthy", .bool isHealthy),
    ("timestamp", .string timestamp)]

/-- Handles the request for the state of health. -/
def health (application : Application τ σ) (occasion : Occasion τ) (records : σ) : Handling σ :=
  match application.parts with
  | .ok (service, _) =>
    match service.gate.health records with
    | (.ok isHealthy, after) => ⟨healthReport service isHealthy occasion.timestamp, [], after⟩
    | (.error _, after) => ⟨.breakdown, [], after⟩
  | .error _ => ⟨.breakdown, [], records⟩

/-! ## Paths -/

/-- What is found at a path. -/
inductive Endpoint where
  /-- Quick analyses. -/
  | analyze
  /-- Consultations. -/
  | optimize
  /-- The state of health. -/
  | health
  deriving DecidableEq, Repr

namespace Endpoint

/-- All endpoints. -/
def all : List Endpoint :=
  [.analyze, .optimize, .health]

/-- The path of an endpoint. -/
def path : Endpoint → Text
  | .analyze => "/analyze"
  | .optimize => "/optimize"
  | .health => "/health"

/-- The only method of an endpoint. -/
def method : Endpoint → Text
  | .analyze | .optimize => "POST"
  | .health => "GET"

/-- The endpoint at a path. -/
def at? (path : Text) : Option Endpoint :=
  all.find? fun endpoint => endpoint.path = path

end Endpoint

/-- Handles a request that is meant for an endpoint. -/
def serve (application : Application τ σ) (occasion : Occasion τ) (request : Request)
    (records : σ) : Endpoint → Handling σ
  | .analyze => analyze application occasion request records
  | .optimize =>
    let consultation := application.hold (optimize application occasion request)
    ⟨consultation.result, consultation.asked, records⟩
  | .health => health application occasion records

/-- Handles a request by its path and method. -/
def route (application : Application τ σ) (occasion : Occasion τ) (request : Request)
    (records : σ) : Handling σ :=
  match Endpoint.at? request.path with
  | none => ⟨.detail 404 "Not Found", [], records⟩
  | some endpoint =>
    if request.method = endpoint.method then serve application occasion request records endpoint
    else
      ⟨(Response.detail 405 "Method Not Allowed").withHeaders [("allow", endpoint.method)], [],
        records⟩

/-- The response as it is sent: without a body if only the header is asked for, and open to the
page that the request came from. -/
def finish (request : Request) (response : Response) : Response :=
  if request.method = "HEAD".toList then (openToOrigin request response).withoutBody
  else openToOrigin request response

/-- Handles a request. -/
def handle (application : Application τ σ) (occasion : Occasion τ) (request : Request)
    (records : σ) : Handling σ :=
  match askedMethod? request with
  | some method => ⟨answerPreliminary request method, [], records⟩
  | none =>
    let handling := route application occasion request records
    { handling with response := finish request handling.response }

end Web
end SqlReview
