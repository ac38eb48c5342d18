import Shorthand.Json.Basic

/-! What can be wrong with a record text, and how it is reported. -/
namespace Shorthand.Dialect

/-- The two ways of writing a record: `User email:s isAdmin?:b` with spaces between the fields, and
`type:user-email:s/isAdmin:b:o` with slashes between them. -/
inductive Style where
  | spaced
  | slashed
  deriving DecidableEq, Repr

/-- What is wrong with a record text or with one of its items. -/
inductive Fault where
  | emptyText
  | missingName (style : Style)
  | missingFields (style : Style)
  | badChunk
  | danglingColon
  | emptyItem
  | emptyName
  deriving DecidableEq, Repr

namespace Fault

def message : Fault → Text
  | .emptyText => "Empty DSL".toList
  | .missingName _ => "Missing type name".toList
  | .missingFields .spaced => "No properties provided".toList
  | .missingFields .slashed => "Missing properties after '-' in old DSL".toList
  | .badChunk => "Bad property chunk".toList
  | .danglingColon => "Bad token (dangling ':')".toList
  | .emptyItem => "Empty token".toList
  | .emptyName => "Empty property name".toList

/-- Advice on how to mend the text. -/
def hint : Fault → Text
  | .emptyText =>
    "Example: \"User email:s password:s isAdmin?:b createdAt:d tags:s[]\"".toList
  | .missingName .spaced => "Start with the type name, e.g. \"User email:s\"".toList
  | .missingName .slashed => "type:user-email:s/password:s".toList
  | .missingFields .spaced => "Example: \"User email:s password:s isAdmin?:b\"".toList
  | .missingFields .slashed => "type:user-email:s/password:s".toList
  | .badChunk =>
    "Expected: name:type or name:type:o (optional). Example: isAdmin:b:o".toList
  | .danglingColon => "Use email:s (not email:)".toList
  | .emptyItem => "Example: email:s".toList
  | .emptyName => "Put the name before the '!' or '?' marker, e.g. email!".toList

end Fault

/-- A fault, and the item it was found in with its position among the items. -/
structure Problem where
  fault : Fault
  token : Option Text := none
  index : Option Int := none
  deriving DecidableEq, Repr

/-- What a user is told about a text that cannot be read. -/
structure Report where
  message : Text
  token : Option Text := none
  index : Option Int := none
  hint : Option Text := none
  deriving DecidableEq, Repr

def Problem.report (p : Problem) : Report where
  message := p.fault.message
  token := p.token
  index := p.index
  hint := some p.fault.hint

def Report.toJson (r : Report) : Json :=
  .obj [("error".toList, .str r.message),
    ("index".toList, match r.index with | some i => .int i | none => .null),
    ("token".toList, .ofText? r.token), ("hint".toList, .ofText? r.hint)]

end Shorthand.Dialect
