import Shorthand.Dialect.Marker
import Shorthand.FieldType.Inference
import Shorthand.Options.Basic

/-! The spaced dialect: `User email:s isAdmin?:b tags:s[]`. The type name comes first; blanks,
commas and slashes separate the items after it. -/
namespace Shorthand.Dialect.Spaced

/-- Ends the type name. -/
def isGap (c : Char) : Bool := Text.isBlank c || c == ','

/-- Separates two items. -/
def isBreak (c : Char) : Bool := isGap c || c == '/'

/-- The segments between the colons of an item. -/
def segments (item : Text) : List Text := Text.fragments (· == ':') item

/-- The name part of an item: a later segment `o` stands for a question mark. -/
def namePart (first : Text) (later : List Text) : Text :=
  let name := unquote first
  if later.contains ['o'] && !Text.endsIn '?' name then name ++ ['?'] else name

/-- The name part and the type part, if there is one. -/
def split (item : Text) : Text × Option Text :=
  match segments item with
  | first :: type :: later => (namePart first later, some type)
  | _ => (unquote item, none)

/-- A field with the name and type as read. -/
def field (options : Options) (name : MarkedName) (type : Option Text) : Field where
  name := name.name
  type := match type with
    | some type => FieldType.resolve type
    | none => FieldType.infer name.name
  required := name.required.getD (!options.optionalByDefault)

/-- Read one item: `name`, `name:type` or `name:type:o`, with a mark behind the name and a semicolon
at the end allowed. -/
def readItem (options : Options) (item : Text) : Except Fault Field :=
  let item := dropMark ';' item
  if Text.endsIn ':' item then .error .danglingColon
  else if (split item).1.isEmpty then .error .emptyItem
  else (markedName (split item).1).map fun name => field options name (split item).2

/-- The word in front, and what follows it. -/
def head (text : Text) : Text × Text :=
  let text := text.dropWhile isGap
  (text.takeWhile (!isGap ·), text.dropWhile (!isGap ·))

/-- The items of a text. -/
def items (text : Text) : List Text := Text.fragments isBreak text

/-- Read a record. -/
def read (options : Options) (text : Text) : Except Problem Record :=
  let (word, rest) := head text
  let name := unquote word
  if name.isEmpty then .error { fault := .missingName .spaced }
  else if (items rest).isEmpty then .error { fault := .missingFields .spaced }
  else (readItems (readItem options) 0 (items rest)).map fun fields =>
    ⟨Identifier.typeName name, fields⟩

end Shorthand.Dialect.Spaced
