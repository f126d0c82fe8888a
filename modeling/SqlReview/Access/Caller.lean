import SqlReview.Json.Display
import SqlReview.Text.Blank
import SqlReview.Web.Message

/-!
# Callers

Who is asking: a user with a configured token, or somebody known only by an address and perhaps a
token for a free analysis. A configured value that is no text is compared as the plain text of the
value. Behind proxies the address is in the header.
-/

namespace SqlReview
namespace Access

open Web

/-! ## Bearer tokens -/

/-- The token that an authorization presents, if it is of the bearer scheme and not blank. -/
def bearerToken (authorization : Text) : Option Text :=
  match Text.cut ' ' (Text.trim authorization) with
  | (scheme, some rest) =>
    if Text.lower scheme = "bearer".toList && !Text.isAllBlank rest then some (Text.trim rest)
    else none
  | (_, none) => none

/-- The user whose configured value is a token. If several are, the last of them. -/
def owner? (tokens : Fields) (token : Text) : Option Text :=
  if token.isEmpty then none
  else
    ((tokens.filter fun entry => entry.2.plainText = token).getLast?).map Prod.fst

/-! ## Identities -/

/-- Who is asking. -/
structure Caller where
  /-- Whether the caller is a user. -/
  isAuthenticated : Bool := false
  /-- The user. -/
  user : Option Text := none
  /-- The token for a free analysis. -/
  freeToken : Option Text := none
  /-- The address. -/
  address : Text := "unknown"

/-- A text, unless it is empty. -/
def nonEmpty? (text : Text) : Option Text :=
  if text.isEmpty then none else some text

/-- The address of a client: the one that an edge network passes on, the first of a chain of
proxies, the one that a single proxy passes on, or the peer of the connection. -/
def clientAddress (headers : Headers) (peer : Option Text) : Text :=
  let passedOn := Text.trim (headers.valueOf "cf-connecting-ip")
  let first := Text.trim (Text.cut ',' (headers.valueOf "x-forwarded-for")).1
  let real := Text.trim (headers.valueOf "x-real-ip")
  ((nonEmpty? passedOn <|> nonEmpty? first <|> nonEmpty? real <|>
    peer.bind nonEmpty?).getD "unknown")

/-- The user whose token the header presents. -/
def presentedUser (headers : Headers) (tokens : Fields) : Option Text :=
  (headers.get? "authorization").bind fun authorization =>
    (bearerToken authorization).bind (owner? tokens)

/-- The caller behind a message. -/
def callerOf (headers : Headers) (peer : Option Text) (tokens : Fields) : Caller :=
  let user := presentedUser headers tokens
  { isAuthenticated := user.isSome
    user := user
    freeToken := (headers.get? "x-free-analysis-token").bind nonEmpty?
    address := clientAddress headers peer }

end Access
end SqlReview
