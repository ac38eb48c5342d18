import Shorthand.Text.Basic

/-! Types of fields, as they stand in a declaration. One letter abbreviates each of the common
types, brackets at the end make an array, and any other text names a type of its own. -/
namespace Shorthand.FieldType

/-- The brackets of an array type. -/
def brackets : Text := "[]".toList

def isArray (type : Text) : Bool := Text.endsWith brackets type

/-- The type without its last two characters: of an array, the type of its elements. -/
def element (type : Text) : Text := type.dropLast.dropLast

theorem length_element_lt (type : Text) (h : isArray type = true) :
    (element type).length < type.length := by
  have : brackets <:+ type := List.isSuffixOf_iff_suffix.1 h
  have := this.length_le
  simp [brackets] at this
  simp [element]
  omega

theorem length_trim_le (s : Text) : (Text.trim s).length ≤ s.length := by
  have h (p : Char → Bool) (t : Text) : (t.dropWhile p).length ≤ t.length :=
    (List.dropWhile_suffix p).length_le
  simpa [Text.trim, Text.trimRight, Text.trimLeft] using
    Nat.le_trans (h _ _) (by simpa using h Text.isBlank s)

/-- The type a one-letter abbreviation stands for; any other text stands for itself. -/
def expand (word : Text) : Text :=
  match word with
  | ['s'] => "string".toList
  | ['n'] => "number".toList
  | ['b'] => "boolean".toList
  | ['d'] => "Date".toList
  | ['u'] => "unknown".toList
  | ['a'] => "any".toList
  | _ => word

/-- The type that a type word stands for: abbreviations are expanded inside any number of array
brackets, and blank space around the word and before each pair of brackets is dropped. -/
def resolve (raw : Text) : Text :=
  if isArray (Text.trim raw) then resolve (element (Text.trim raw)) ++ brackets
  else expand (Text.trim raw)
termination_by raw.length
decreasing_by
  have := length_trim_le raw
  have := length_element_lt (Text.trim raw) (by assumption)
  omega

end Shorthand.FieldType
