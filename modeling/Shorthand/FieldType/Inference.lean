import Shorthand.FieldType.Basic

/-! The type of a field that is given without one, guessed from its name. -/
namespace Shorthand.FieldType

/-- More than three letters, the last of them an `s`. -/
def isPlural (name : Text) : Bool := decide (3 < name.length) && Text.endsIn 's' name

/-- The part occurs somewhere in the text. -/
def occurs (part : Text) : Text → Bool
  | [] => part.isEmpty
  | c :: s => Text.startsWith part (c :: s) || occurs part s

/-- Ends in `At` or `On`, or has `date` in it, in capitals or not. -/
def namesMoment (name : Text) : Bool :=
  Text.endsWith "At".toList name || Text.endsWith "On".toList name ||
    occurs "date".toList (name.map Char.toLower)

/-- Words that begin the name of a yes-or-no field. -/
def questionWords : List Text :=
  ["is".toList, "has".toList, "can".toList, "should".toList, "did".toList, "was".toList]

/-- A question word with a letter or an underscore right after it. -/
def namesQuestion (name : Text) : Bool :=
  questionWords.any fun word =>
    match Text.after? word name with
    | some (c :: _) => c.isAlpha || c == '_'
    | _ => false

/-- The first rule that fits decides: moments, questions, identifiers, plurals; all else is a
string. -/
def infer (raw : Text) : Text :=
  let name := Text.trim raw
  if namesMoment name then "Date".toList
  else if namesQuestion name then "boolean".toList
  else if name == "id".toList || Text.endsWith "_id".toList name || Text.endsWith "Id".toList name
    then "string".toList
  else if isPlural name then "string[]".toList
  else "string".toList

end Shorthand.FieldType
