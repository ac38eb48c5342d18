import Shorthand.Json.Basic

/-! Records: a type name with its fields in order. -/
namespace Shorthand

/-- One field of a record. -/
structure Field where
  name : Text
  type : Text
  required : Bool
  deriving DecidableEq, Repr

/-- A named list of fields. -/
structure Record where
  name : Text
  fields : List Field
  deriving DecidableEq, Repr

namespace Field

def toJson (f : Field) : Json :=
  .obj [("name".toList, .str f.name), ("type".toList, .str f.type),
    ("required".toList, .bool f.required)]

end Field

namespace Record

def requiredFields (r : Record) : List Field := r.fields.filter Field.required

def toJson (r : Record) : Json :=
  .obj [("type".toList, .str r.name), ("props".toList, .arr (r.fields.map Field.toJson))]

end Record
end Shorthand
