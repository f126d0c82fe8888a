import SqlReview.Advice.Reply
import SqlReview.Text.Blank

/-!
# The reasoning engine

A client for a language model that answers a prompt with a message. The client says which request
it makes and what it takes from the answer; carrying the request over the network is not its
business. Whatever asks the engine is a conversation, so that it is plain what was asked, and when.
-/

namespace SqlReview
namespace Advice

/-! ## Conversations -/

/-- Something that answers prompts with Unicode texts, the same prompt perhaps differently when others
came before. -/
abbrev Engine := (earlier : List Text) → (prompt : Text) → Except Problem Text

/-- The engine where there is none: there is nothing that could be asked. -/
def Engine.absent : Engine :=
  fun _ _ => .error (.fault .noOperation)

/-- A conversation with an engine that ends in a result. -/
inductive Conversation (α : Type) where
  /-- The result. -/
  | done (result : α)
  /-- A prompt, and how to go on with the answer. -/
  | ask (prompt : Text) (next : Except Problem Text → Conversation α)

/-- What was said in a conversation. -/
structure Transcript (α : Type) where
  /-- The prompts that the engine got, in order. -/
  asked : List Text
  /-- The result. -/
  result : α

namespace Conversation

variable {α β : Type}

/-- A conversation with an engine that got some prompts before. -/
def hold (engine : Engine) (earlier : List Text) : Conversation α → Transcript α
  | .done result => ⟨[], result⟩
  | .ask prompt next =>
    let rest := (next (engine earlier prompt)).hold engine (earlier ++ [prompt])
    ⟨prompt :: rest.asked, rest.result⟩

/-- A conversation with another result. -/
def map (convert : α → β) : Conversation α → Conversation β
  | .done result => .done (convert result)
  | .ask prompt next => .ask prompt fun answer => (next answer).map convert

end Conversation

/-! ## The client -/

/-- A client of the language model. Its settings are passed on as they are. -/
structure Client where
  /-- The key. -/
  key : Text
  /-- The name of the model. -/
  model : Json := .string "gpt-4o-mini"
  /-- How freely the model may answer. -/
  temperature : Json := .float 0.3
  /-- How long the model may take, in seconds. -/
  timeout : Json := .float 60
  /-- Where the model is reached, if not at its usual address. -/
  url : Json := .null

/-- What comes back for a request. -/
inductive Completion where
  /-- Messages, of which each may be empty. -/
  | messages (contents : List (Option Text))
  /-- The request was refused or did not arrive, for a cause. -/
  | refused (cause : Text)
  /-- Anything else went wrong. -/
  | fault (fault : Fault)

/-- The failure of a service without a key for the engine. -/
def notConfigured : Problem :=
  .fail .configurationError "OpenAI API key not configured"

/-- The key that a client needs. -/
def requireKey (key : Option Text) : Except Problem Text :=
  match key with
  | none | some [] => .error notConfigured
  | some key => .ok key

namespace Client

/-- The request for a prompt. -/
def request (client : Client) (prompt : Text) : Json :=
  .object [
    ("model", client.model),
    ("messages", .array [.object [("role", .string "user"), ("content", .string prompt)]]),
    ("temperature", client.temperature),
    ("response_format", .object [("type", .string "json_object")])]

end Client

/-- The text of the first message, which must not be blank. -/
def Completion.text : Completion → Except Problem Text
  | .messages contents =>
    match contents.head?.join with
    | some content =>
      if Text.isAllBlank content then
        .error (.failure (Reply.malformed [("reason", .string "empty reply")]))
      else .ok content
    | none => .error (.failure (Reply.malformed [("reason", .string "empty reply")]))
  | .refused cause =>
    .error (.failure ⟨.engineUnavailable, "Failed to analyze query", [("cause", .string cause)]⟩)
  | .fault other => .error (.fault other)

end Advice
end SqlReview
