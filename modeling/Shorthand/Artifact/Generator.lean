import Shorthand.Artifact.Layout
import Shorthand.Artifact.Template
import Shorthand.FieldType.Zod
import Shorthand.Identifier.Case
import Shorthand.Moment
import Shorthand.Record

/-! What is made from a record: a type alias, an interface, a schema module and an example. -/
namespace Shorthand

namespace Field

/-- Declaration of a field, `name: type;`, with a question mark behind an optional name. -/
def declaration (f : Field) : Text :=
  f.name ++ (if f.required then [] else ['?']) ++ ": ".toList ++ f.type ++ ";".toList

/-- The validator of a field. -/
def validator (f : Field) : Text :=
  (FieldType.zod f.type).print ++ (if f.required then [] else ".optional()".toList)

end Field

namespace Artifact

/-- Code of the type alias. -/
def typeAlias (name : Text) (fields : List Field) : Text :=
  tidy (aliasForm name (fields.map Field.declaration))

/-- Code of the interface. -/
def interface (name : Text) (fields : List Field) : Text :=
  tidy (interfaceForm name (fields.map Field.declaration))

/-- Code of the schema module. -/
def schema (name : Text) (fields : List Field) (strict : Bool) : Text :=
  tidy (schemaForm name (fields.map fun f => (f.name, f.validator)) strict)

/-- A value for a field of this type: something empty where there is such a thing, the moment for a
date, and null otherwise. -/
def placeholder (type : Text) (now : Moment) : Except Moment.Fault Json :=
  if FieldType.isArray type then .ok (.arr [])
  else if type == "string".toList then .ok (.str [])
  else if type == "number".toList then .ok (.int 0)
  else if type == "boolean".toList then .ok (.bool false)
  else if type == "Date".toList then now.timestamp.map .str
  else .ok .null

/-- Members of the example object: a value for each required field. Of fields with one name the
first gives the place and the last the value. -/
def sample (fields : List Field) (now : Moment) : Except Moment.Fault (List (Text × Json)) :=
  ((fields.filter Field.required).mapM fun f =>
    (placeholder f.type now).map fun v => (f.name, v)).map Json.ofPairs

/-- Name of the file for one artifact of a type. -/
def fileName (typeName artifact : Text) : Text :=
  Identifier.kebab (if typeName.isEmpty then "type".toList else typeName) ++ '.' :: artifact ++
    ".ts".toList

end Artifact
end Shorthand
