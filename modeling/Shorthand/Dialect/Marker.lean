import Shorthand.Dialect.Fault
import Shorthand.Identifier.Sanitizer
import Shorthand.Record

/-! The name part of an item: quotes around it, and the mark behind it that makes the field
required (`!`) or optional (`?`). -/
namespace Shorthand.Dialect

/-- Take off one pair of equal quotes around a word. A quote alone counts as a pair. -/
def unquote (raw : Text) : Text :=
  match Text.trim raw with
  | [] => []
  | q :: s => if (q == '\'' || q == '"') && Text.endsIn q (q :: s) then s.dropLast else q :: s

/-- Take the last character off if it is `c`. -/
def dropMark (c : Char) (s : Text) : Text := if Text.endsIn c s then s.dropLast else s

/-- A field name with what its mark says; `none` means that there is no mark. -/
structure MarkedName where
  name : Text
  required : Option Bool
  deriving DecidableEq, Repr

/-- What the mark behind a word says. -/
def markOf (word : Text) : Option Bool :=
  if Text.endsIn '!' word then some true
  else if Text.endsIn '?' word then some false
  else none

/-- The word without its mark. Under an exclamation mark a question mark is taken off too. -/
def unmark (word : Text) : Text := Text.trim (dropMark '?' (dropMark '!' word))

/-- Read a name with its mark. -/
def markedName (raw : Text) : Except Fault MarkedName :=
  let word := Text.trim raw
  if (unmark word).isEmpty then .error .emptyName
  else .ok ⟨Identifier.fieldName (unmark word), markOf word⟩

/-- Read a name with its mark, and say where it stands if there is none. -/
def markedNameAt (token : Option Text) (index : Option Int) (raw : Text) :
    Except Problem MarkedName :=
  (markedName raw).mapError fun fault => ⟨fault, some (token.getD raw), index⟩

/-- Read items in order; the first that cannot be read is reported with its position, counted
from `index`. -/
def readItems (read : Text → Except Fault Field) : (index : Nat) → List Text →
    Except Problem (List Field)
  | _, [] => .ok []
  | index, item :: items =>
    match read item with
    | .error fault => .error ⟨fault, some item, some index⟩
    | .ok field => (readItems read (index + 1) items).map (field :: ·)

end Shorthand.Dialect
