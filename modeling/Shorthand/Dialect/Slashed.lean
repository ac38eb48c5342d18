import Shorthand.Dialect.Marker
import Shorthand.FieldType.Basic
import Shorthand.Options.Basic

/-! The slashed dialect: `type:user-email:s/isAdmin:b:o`. The type name stands before the first
hyphen, and slashes separate the chunks between it and the next hyphen. -/
namespace Shorthand.Dialect.Slashed

/-- Starts every text in this dialect. -/
def opening : Text := "type:".toList

/-- The part before the first hyphen, and the part between it and the second. -/
def halves (text : Text) : Text × Text :=
  match text.splitOnP (· == '-') with
  | head :: body :: _ => (head, body)
  | head :: _ => (head, [])
  | [] => ([], [])

/-- A field with the name, type and later segments as read. -/
def field (options : Options) (name : MarkedName) (type : Text) (later : List Text) : Field where
  name := name.name
  type := FieldType.resolve type
  required := name.required.getD (!later.contains ['o'] && !options.optionalByDefault)

/-- Read one chunk: `name:type` or `name:type:o`, with a mark behind the name allowed. -/
def readChunk (options : Options) (chunk : Text) : Except Fault Field :=
  match Text.fragments (· == ':') chunk with
  | first :: type :: later =>
    if (unquote first).isEmpty then .error .badChunk
    else (markedName (unquote first)).map fun name => field options name type later
  | _ => .error .badChunk

/-- Read a record. -/
def read (options : Options) (text : Text) : Except Problem Record :=
  let (head, body) := halves text
  let chunks := Text.fragments (· == '/') body
  let name := unquote (head.drop opening.length)
  if chunks.isEmpty then .error { fault := .missingFields .slashed }
  else if name.isEmpty then .error { fault := .missingName .slashed }
  else (readItems (readChunk options) 0 chunks).map fun fields =>
    ⟨Identifier.typeName name, fields⟩

end Shorthand.Dialect.Slashed
