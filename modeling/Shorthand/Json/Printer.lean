import Shorthand.Json.Basic

/-! Writing JSON text, compactly or with one member or element a line. Only quotes, backslashes and
control characters are escaped. -/
namespace Shorthand.Json

/-- One character inside a string. -/
def encodeChar (c : Char) : Text :=
  if c == '"' then "\\\"".toList
  else if c == '\\' then "\\\\".toList
  else if c == '\n' then "\\n".toList
  else if c == '\r' then "\\r".toList
  else if c == '\t' then "\\t".toList
  else if c.toNat == 0x08 then "\\b".toList
  else if c.toNat == 0x0C then "\\f".toList
  else if c.toNat < 0x20 then "\\u".toList ++ Text.hex 4 c.toNat
  else [c]

/-- A string between its quotes. -/
def quote (s : Text) : Text := '"' :: s.flatMap encodeChar ++ ['"']

/-- Digits with the exponent behind them. -/
def Decimal.print : Decimal → Text
  | .finite negative digits e =>
    (if negative then ['-'] else []) ++ Text.ofNat digits ++ 'e' :: Text.ofInt e
  | .infinite negative => if negative then "-Infinity".toList else "Infinity".toList
  | .undefined => "NaN".toList

/-- Text between the tokens: what precedes each item at a depth, what follows a name, and what
precedes the closing bracket. -/
structure Style where
  item : Nat → Text
  colon : Text
  close : Nat → Text

/-- No space at all. -/
def Style.compact : Style := ⟨fun _ => [], [':'], fun _ => []⟩

/-- Each item on a line of its own, two spaces further in than its bracket. -/
def Style.indented : Style where
  item depth := '\n' :: List.replicate (2 * (depth + 1)) ' '
  colon := ": ".toList
  close depth := '\n' :: List.replicate (2 * depth) ' '

mutual

/-- Write a value that stands inside `depth` brackets. -/
def printAt (style : Style) (depth : Nat) : Json → Text
  | null => "null".toList
  | bool true => "true".toList
  | bool false => "false".toList
  | int n => Text.ofInt n
  | decimal d => d.print
  | str s => quote s
  | arr [] => "[]".toList
  | arr (v :: vs) =>
    '[' :: style.item depth ++ printAt style (depth + 1) v ++ printElements style depth vs ++
      style.close depth ++ [']']
  | obj [] => "\x7b\x7d".toList
  | obj ((name, v) :: ms) =>
    '{' :: style.item depth ++ quote name ++ style.colon ++ printAt style (depth + 1) v ++
      printMembers style depth ms ++ style.close depth ++ ['}']

/-- The elements after the first. -/
def printElements (style : Style) (depth : Nat) : List Json → Text
  | [] => []
  | v :: vs =>
    ',' :: style.item depth ++ printAt style (depth + 1) v ++ printElements style depth vs

/-- The members after the first. -/
def printMembers (style : Style) (depth : Nat) : List (Text × Json) → Text
  | [] => []
  | (name, v) :: ms =>
    ',' :: style.item depth ++ quote name ++ style.colon ++ printAt style (depth + 1) v ++
      printMembers style depth ms

end

/-- One item a line. -/
def pretty (v : Json) : Text := printAt .indented 0 v

/-- All on one line. -/
def compact (v : Json) : Text := printAt .compact 0 v

/-- The integer has not more digits than are written. -/
def IsShort (n : Int) : Prop := (Text.ofNat n.natAbs).length ≤ Text.mostDigits

instance (n : Int) : Decidable (IsShort n) := inferInstanceAs (Decidable (_ ≤ _))

mutual

/-- No integer in the value is too long. -/
def isShort : Json → Bool
  | int n => decide (IsShort n)
  | arr vs => allShort vs
  | obj ms => membersShort ms
  | _ => true

/-- No integer in the elements is too long. -/
def allShort : List Json → Bool
  | [] => true
  | v :: vs => isShort v && allShort vs

/-- No integer in the members is too long. -/
def membersShort : List (Text × Json) → Bool
  | [] => true
  | (_, v) :: ms => isShort v && membersShort ms

end

/-- Write a value, one item a line, unless an integer in it is too long. -/
def format (v : Json) : Except LongInteger Text :=
  if v.isShort then .ok v.pretty else .error ⟨none⟩

end Shorthand.Json
