import Shorthand.Artifact.Generator
import Shorthand.Dialect.Reader

/-! Bundles: all that is generated from one record text under given options. -/
namespace Shorthand

/-- A record with its generated artifacts. The type alias is always there, the others unless they
are switched off. -/
structure Bundle where
  record : Record
  typeText : Text
  interfaceText : Option Text := none
  zodText : Option Text := none
  sample : Option (List (Text × Json)) := none

namespace Bundle

/-- Why no bundle was made. -/
inductive Fault where
  | unreadable (problem : Dialect.Problem)
  | clock (fault : Moment.Fault)
  deriving DecidableEq, Repr

/-- The example object, if it is wanted. Only then the clock is looked at. -/
def sampleFor (options : Options) (fields : List Field) (clock : Clock) :
    Except Fault (Option (List (Text × Json))) :=
  if options.sample then
    match clock.read >>= Artifact.sample fields with
    | .ok members => .ok (some members)
    | .error fault => .error (.clock fault)
  else .ok none

/-- The artifacts of a record. -/
def ofRecord (options : Options) (clock : Clock) (r : Record) : Except Fault Bundle :=
  (sampleFor options r.fields clock).map fun members =>
    { record := r
      typeText := Artifact.typeAlias r.name r.fields
      interfaceText :=
        if options.interface then some (Artifact.interface r.name r.fields) else none
      zodText :=
        if options.zod then some (Artifact.schema r.name r.fields options.strictZod) else none
      sample := members }

/-- Read a text and make its artifacts. -/
def build (options : Options) (clock : Clock) (text : Text) : Except Fault Bundle :=
  match Dialect.read options text with
  | .error problem => .error (.unreadable problem)
  | .ok r => ofRecord options clock r

/-- The artifacts that are there, by name. -/
def artifacts (b : Bundle) : List (Text × Json) :=
  ("type".toList, .str b.typeText) ::
    ((b.interfaceText.map fun t => ("interface".toList, Json.str t)).toList ++
      (b.zodText.map fun t => ("zod".toList, Json.str t)).toList ++
      (b.sample.map fun members => ("example".toList, Json.obj members)).toList)

def toJson (b : Bundle) : Json :=
  .obj (("typeName".toList, .str b.record.name) :: ("normalized".toList, b.record.toJson) ::
    b.artifacts)

end Bundle
end Shorthand
