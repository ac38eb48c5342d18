import Shorthand.Service.Message

/-! Requests from pages of other origins. Every origin may read the responses; which methods and
headers such a page may use is answered beforehand. -/
namespace Shorthand.Service.CrossOrigin

/-- The methods a page may use. -/
def methods : List Text := ["GET".toList, "POST".toList, "OPTIONS".toList]

/-- The headers a page may set. -/
def headerNames : List Text :=
  ["Accept".toList, "Accept-Language".toList, "Content-Language".toList, "Content-Type".toList]

/-- Any origin may read the response. -/
def grant : Text × Text := ("access-control-allow-origin".toList, "*".toList)

/-- Every name in a list of header names is one of those a page may set. -/
def allowsHeaders (names : Text) : Bool :=
  (names.splitOnP (· == ',')).all fun name =>
    (headerNames.map Text.lower).contains (Text.trim (Text.lower name))

/-- Answer to the question which method and headers may be used. A page that asks to reach into a
private network may not. -/
def preflight (method : Text) (names : Option Text) (intoNetwork : Bool) : Response :=
  let refused : List Text :=
    (if methods.contains method then [] else ["method".toList]) ++
      (if names.all allowsHeaders then [] else ["headers".toList]) ++
      (if intoNetwork then ["private-network".toList] else [])
  let answer :=
    if refused.isEmpty then Response.plain 200 "OK".toList
    else Response.plain 400 ("Disallowed CORS ".toList ++ Text.join ", ".toList refused)
  answer.withHeaders
    [grant,
     ("access-control-allow-methods".toList, Text.join ", ".toList methods),
     ("access-control-max-age".toList, "600".toList),
     ("access-control-allow-headers".toList, Text.join ", ".toList headerNames)]

/-- The preflight answer, if that is what the request asks for. -/
def preflight? (r : Request) : Option Response :=
  match r.header? "origin".toList, r.header? "access-control-request-method".toList with
  | some _, some method =>
    if r.method == "OPTIONS".toList then
      some (preflight method (r.header? "access-control-request-headers".toList)
        (r.header? "access-control-request-private-network".toList).isSome)
    else none
  | _, _ => none

/-- Add to a response what the page's browser wants to see. -/
def share (r : Request) (response : Response) : Response :=
  if (r.header? "origin".toList).isSome then response.withHeaders [grant] else response

end Shorthand.Service.CrossOrigin
