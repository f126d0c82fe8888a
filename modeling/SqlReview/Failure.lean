import SqlReview.Json.Display

/-!
# Failures

What can go wrong. A failure is part of the service: it has a kind, an HTTP status and a message
for the caller. A fault is anything else that stops an operation; it says nothing but what sort of
thing went wrong.
-/

namespace SqlReview

/-- The kinds of failures. -/
inductive FailureKind where
  /-- A failure of no particular kind. -/
  | general
  /-- The query or the database is missing. -/
  | invalidInput
  /-- The caller could not be identified. -/
  | unauthenticated
  /-- A free analysis is refused for a reason. -/
  | admissionDenied (reason : Text)
  /-- The reasoning engine could not be reached or refused to answer. -/
  | engineUnavailable
  /-- The reasoning engine answered in another form than agreed. -/
  | engineReplyMalformed
  /-- Something inside the service did not work. -/
  | internalFailure
  /-- Something the service needs is not configured. -/
  | configurationError
  deriving DecidableEq, Repr

namespace FailureKind

/-- The name of a kind, which for a refusal is its reason. -/
def name : FailureKind → Text
  | .general => "advisor_error"
  | .invalidInput => "invalid_input"
  | .unauthenticated => "unauthenticated"
  | .admissionDenied reason => reason
  | .engineUnavailable => "engine_unavailable"
  | .engineReplyMalformed => "engine_reply_malformed"
  | .internalFailure => "internal_failure"
  | .configurationError => "configuration_error"

/-- The HTTP status of a kind. -/
def status : FailureKind → Nat
  | .invalidInput => 400
  | .unauthenticated => 401
  | .admissionDenied _ => 403
  | _ => 500

/-- The kind that a kind is a special case of. -/
def broader? : FailureKind → Option FailureKind
  | .general => none
  | .configurationError => some .internalFailure
  | _ => some .general

/-- Whether the message of a failure may be shown to the caller as it is. -/
def isPublic : FailureKind → Bool
  | .invalidInput | .unauthenticated | .configurationError => true
  | .engineUnavailable | .engineReplyMalformed => true
  | _ => false

end FailureKind

/-- A failure of the service. -/
structure Failure where
  /-- The kind. -/
  kind : FailureKind
  /-- The message. -/
  message : Text
  /-- Further details under names. -/
  details : Fields := []

namespace Failure

/-- The failure in one line: the message, and the details if there are any. -/
def text (failure : Failure) : Text :=
  if failure.details.isEmpty then failure.message
  else failure.message ++ " | Details: ".toList ++ Json.display (.object failure.details)

end Failure

/-- Anything else that stops an operation. -/
inductive Fault where
  /-- A value of a type that has no such operation. -/
  | noOperation
  /-- A value of a type that cannot be converted. -/
  | wrongType
  /-- A value that cannot be converted, or that is not allowed. -/
  | badValue
  /-- A number that is too large to be converted. -/
  | tooLarge
  /-- Bytes that are no text. -/
  | undecodable
  /-- A value whose parts are nested too deeply. -/
  | tooDeep
  /-- A file or device that does not work. -/
  | system
  /-- A component that does not work. -/
  | component
  deriving DecidableEq, Repr

/-- Why an operation did not succeed. -/
inductive Problem where
  /-- A failure of the service. -/
  | failure (failure : Failure)
  /-- Anything else. -/
  | fault (fault : Fault)

namespace Problem

/-- A failure without details. -/
def fail (kind : FailureKind) (message : Text) : Problem :=
  .failure ⟨kind, message, []⟩

end Problem
end SqlReview
