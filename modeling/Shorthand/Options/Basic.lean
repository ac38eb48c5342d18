import Shorthand.Json.Basic

/-! Options: five switches, set by name. Each switch answers to several names, and any value that
counts as true turns it on. -/
namespace Shorthand

/-- What to read as optional and which artifacts to make. -/
structure Options where
  optionalByDefault : Bool := false
  zod : Bool := true
  interface : Bool := true
  sample : Bool := true
  strictZod : Bool := false
  deriving DecidableEq, Repr

namespace Options

/-- The switches. -/
inductive Switch where
  | optionalByDefault
  | zod
  | interface
  | sample
  | strictZod
  deriving DecidableEq, Repr

/-- The names a switch answers to; the first is the one it is shown under. -/
def Switch.names : Switch → List Text
  | .optionalByDefault => ["optionalByDefault".toList, "optional_by_default".toList]
  | .zod => ["zod".toList, "emitZod".toList, "emitSchema".toList, "emit_zod".toList,
      "emit_schema".toList]
  | .interface => ["interface".toList, "emitInterface".toList, "emit_interface".toList]
  | .sample => ["example".toList, "emitExample".toList, "emit_example".toList]
  | .strictZod => ["strictZod".toList, "strictSchema".toList, "strict_schema".toList,
      "strict_zod".toList]

def Switch.all : List Switch := [.optionalByDefault, .zod, .interface, .sample, .strictZod]

/-- The switch with this name. -/
def Switch.ofName? (name : Text) : Option Switch := Switch.all.find? (·.names.contains name)

/-- Position of a switch. -/
def get (o : Options) : Switch → Bool
  | .optionalByDefault => o.optionalByDefault
  | .zod => o.zod
  | .interface => o.interface
  | .sample => o.sample
  | .strictZod => o.strictZod

/-- Turn a switch. -/
def set (o : Options) (s : Switch) (on : Bool) : Options :=
  match s with
  | .optionalByDefault => { o with optionalByDefault := on }
  | .zod => { o with zod := on }
  | .interface => { o with interface := on }
  | .sample => { o with sample := on }
  | .strictZod => { o with strictZod := on }

/-- Apply one named value; a name of no switch changes nothing. -/
def apply (o : Options) (member : Text × Json) : Options :=
  match Switch.ofName? member.1 with
  | some s => o.set s member.2.isTrue
  | none => o

/-- Apply named values in order. -/
def applyAll (o : Options) (members : List (Text × Json)) : Options := members.foldl apply o

/-- The value given as options is not an object. -/
structure NotObject where
  kind : Text
  deriving DecidableEq, Repr

def NotObject.message (e : NotObject) : Text :=
  "Options must be an object, got ".toList ++ e.kind

/-- Apply the members of an object; null changes nothing and other values are refused. -/
def merge (o : Options) : Json → Except NotObject Options
  | .null => .ok o
  | .obj members => .ok (o.applyAll members)
  | v => .error ⟨v.kind⟩

/-- The names in a value that belong to no switch. -/
def unknownNames : Json → List Text
  | .obj members => (members.map Prod.fst).filter fun name => (Switch.ofName? name).isNone
  | _ => []

def toJson (o : Options) : Json :=
  .obj (Switch.all.map fun s => (s.names.headD [], .bool (o.get s)))

end Options
end Shorthand
