import Shorthand.Bundle.Basic
import Shorthand.Json.Printer

/-! Bundles as text: one artifact, all of them under banners, or the whole bundle as JSON. -/
namespace Shorthand.Bundle

/-- What to show of a bundle. -/
inductive Mode where
  | type
  | interface
  | zod
  | all
  | json
  deriving DecidableEq, Repr

namespace Mode

def list : List Mode := [.type, .interface, .zod, .all, .json]

def name : Mode → Text
  | .type => "type".toList
  | .interface => "interface".toList
  | .zod => "zod".toList
  | .all => "all".toList
  | .json => "json".toList

def ofName? (name : Text) : Option Mode := list.find? (·.name == name)

/-- What is said about a mode that does not exist. -/
def unknownMessage (name : Text) : Text := "Unknown output mode: ".toList ++ name

end Mode

/-- An artifact under its banner, with an empty line after it. -/
def underBanner (banner text : Text) : List Text := [banner, Text.trimRight text, []]

/-- Every artifact under a banner of its own. -/
def renderAll (b : Bundle) : Text :=
  let interface := match b.interfaceText with
    | some t => underBanner "// --- INTERFACE ---".toList t
    | none => []
  let zod := match b.zodText with
    | some t => underBanner "// --- ZOD ---".toList t
    | none => []
  let sample := match b.sample with
    | some members =>
      ["// --- EXAMPLE (required fields only) ---".toList, (Json.obj members).pretty]
    | none => []
  Text.join ['\n'] (underBanner "// --- TYPE ---".toList b.typeText ++ interface ++ zod ++ sample)

/-- The text for a mode, empty for an artifact that was not made. -/
def render (b : Bundle) : Mode → Text
  | .type => b.typeText
  | .interface => b.interfaceText.getD []
  | .zod => b.zodText.getD []
  | .json => b.toJson.pretty
  | .all => b.renderAll

end Shorthand.Bundle
