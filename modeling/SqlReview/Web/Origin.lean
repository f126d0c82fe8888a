import SqlReview.Text.Blank
import SqlReview.Web.Message

/-!
# Other origins

Pages of any origin may use the service. A browser may first ask which methods and header fields it
can use; that question is answered before anything else, on every path.
-/

namespace SqlReview
namespace Web

/-! ## What is allowed -/

/-- The field that allows a page of any origin to read a response. -/
def anyOrigin : Headers :=
  [("access-control-allow-origin", "*")]

/-- The methods that a page may use. -/
def allowedMethods : List Text :=
  ["GET", "POST", "OPTIONS"]

/-- The header fields that a page may send. -/
def allowedFields : List Text :=
  ["Accept", "Accept-Language", "Apikey", "Authorization", "Content-Language", "Content-Type",
    "X-Client-Info", "X-Free-Analysis-Token"]

/-- Whether a page may send a header field. -/
def isAllowedField (name : Text) : Bool :=
  (allowedFields.map Text.lower).contains (Text.trim (Text.lower name))

/-! ## Preliminary questions -/

/-- The method that a browser asks about, if the request is such a question. -/
def askedMethod? (request : Request) : Option Text :=
  if request.method = "OPTIONS".toList && (request.headers.get? "origin").isSome then
    request.headers.get? "access-control-request-method"
  else none

/-- What a browser asks about and may not use. -/
def refusals (request : Request) (method : Text) : List Text :=
  let badMethod := !allowedMethods.contains method
  let badField := (request.headers.get? "access-control-request-headers").any fun names =>
    !(Text.splitAt ',' names).all isAllowedField
  (if badMethod then ["method".toList] else []) ++ (if badField then ["headers".toList] else [])

/-- The fields of the answer to such a question. -/
def preliminaryHeaders : Headers :=
  [("access-control-allow-origin", "*"),
    ("access-control-allow-methods", Text.join ", " allowedMethods),
    ("access-control-max-age", "600"),
    ("access-control-allow-headers", Text.join ", " allowedFields)]

/-- The answer to the question about a method. -/
def answerPreliminary (request : Request) (method : Text) : Response :=
  match refusals request method with
  | [] => (Response.ofText 200 "OK").withHeaders preliminaryHeaders
  | refused =>
    (Response.ofText 400 ("Disallowed CORS ".toList ++ Text.join ", " refused)).withHeaders
      preliminaryHeaders

/-- The response to a request, opened to the page that it came from if it came from one. -/
def openToOrigin (request : Request) (response : Response) : Response :=
  if response.isOpen && (request.headers.get? "origin").isSome then response.withHeaders anyOrigin
  else response

end Web
end SqlReview
