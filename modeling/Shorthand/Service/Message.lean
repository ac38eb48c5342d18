import Shorthand.Text.Lowercase

/-! Requests and responses of the service. -/
namespace Shorthand.Service

/-- A request; `server` is the server's own name, and `query` is the part of the address after the
question mark, as it was sent. -/
structure Request where
  server : Text
  method : Text
  path : Text
  query : Text := []
  headers : List (Text × Text) := []
  body : List UInt8 := []

/-- Value of a header, whose name may be written in capitals. -/
def Request.header? (r : Request) (name : Text) : Option Text :=
  (r.headers.map fun h => (Text.lower h.1, h.2)).lookup name

/-- A response. -/
structure Response where
  status : Nat
  headers : List (Text × Text) := []
  body : Text := []
  deriving DecidableEq, Repr

namespace Response

/-- A response in plain text. -/
def plain (status : Nat) (body : Text) : Response :=
  { status, headers := [("content-type".toList, "text/plain; charset=utf-8".toList)], body }

/-- A response in JSON. -/
def json (status : Nat) (body : Text) : Response :=
  { status, headers := [("content-type".toList, "application/json".toList)], body }

def withHeaders (r : Response) (headers : List (Text × Text)) : Response :=
  { r with headers := r.headers ++ headers }

end Response
end Shorthand.Service
