import Shorthand.Text.Basic

/-! Values of the JSON data format. Objects keep their members in order. -/
namespace Shorthand

/-- A number written with a fraction or an exponent: `digits` times ten to the `exponent`, or one of
the values that no digits spell. -/
inductive Json.Decimal where
  | finite (negative : Bool) (digits : Nat) (exponent : Int)
  | infinite (negative : Bool)
  | undefined
  deriving DecidableEq, Repr

/-- A JSON value. -/
inductive Json where
  | null
  | bool (b : Bool)
  | int (n : Int)
  | decimal (d : Json.Decimal)
  | str (s : Text)
  | arr (items : List Json)
  | obj (members : List (Text × Json))
  deriving Repr

namespace Json

/-- A decimal is zero when it is nearer to zero than to the least positive number of double
precision, which is 2 to the power -1074. -/
def Decimal.isZero : Decimal → Bool
  | .finite _ digits exponent =>
    let size : Int := (Nat.toDigits 10 digits).length
    if digits == 0 || size + exponent < -400 then true
    else if 0 ≤ exponent || -300 < size + exponent then false
    else digits * Nat.pow 2 1075 ≤ Nat.pow 10 exponent.natAbs
  | _ => false

/-- What counts as "on" when a value stands for a switch: all but null, false, zero and the empty
text, array and object. -/
def isTrue : Json → Bool
  | null => false
  | bool b => b
  | int n => n != 0
  | decimal d => !d.isZero
  | str s => !s.isEmpty
  | arr items => !items.isEmpty
  | obj members => !members.isEmpty

/-- An integer with more digits than are read or written. Their number is known when it is read. -/
structure LongInteger where
  digits : Option Nat
  deriving DecidableEq, Repr

def LongInteger.message (i : LongInteger) : Text :=
  let count := match i.digits with
    | some n => ": value has ".toList ++ Text.ofNat n ++ " digits".toList
    | none => []
  "Exceeds the limit (".toList ++ Text.ofNat Text.mostDigits ++
    " digits) for integer string conversion".toList ++ count ++
    "; use sys.set_int_max_str_digits() to increase the limit".toList

/-- Name of a value's kind in messages. -/
def kind : Json → Text
  | null => "NoneType".toList
  | bool _ => "bool".toList
  | int _ => "int".toList
  | decimal _ => "float".toList
  | str _ => "str".toList
  | arr _ => "list".toList
  | obj _ => "dict".toList

/-- Add a member: a name that is already there keeps its place and gets the new value. -/
def put {α : Type} (name : Text) (value : α) : List (Text × α) → List (Text × α)
  | [] => [(name, value)]
  | (n, v) :: rest => if n == name then (n, value) :: rest else (n, v) :: put name value rest

/-- Members in order of first appearance, each with its last value. -/
def ofPairs {α : Type} (pairs : List (Text × α)) : List (Text × α) :=
  pairs.foldl (fun members pair => put pair.1 pair.2 members) []

/-- Value of a member. -/
def member? (name : Text) (members : List (Text × Json)) : Option Json := members.lookup name

/-- A text, or null. -/
def ofText? : Option Text → Json
  | some s => str s
  | none => null

end Json
end Shorthand
