import Shorthand.Text.Basic

/-! Decimal digits of all scripts, and the integers written with them. -/
namespace Shorthand.Text

/-- The zeros of the scripts that write decimal numbers; one to nine follow each. -/
def digitZeros : List Nat :=
  [0x30, 0x660, 0x6F0, 0x7C0, 0x966, 0x9E6, 0xA66, 0xAE6, 0xB66, 0xBE6, 0xC66, 0xCE6, 0xD66,
   0xDE6, 0xE50, 0xED0, 0xF20, 0x1040, 0x1090, 0x17E0, 0x1810, 0x1946, 0x19D0, 0x1A80, 0x1A90,
   0x1B50, 0x1BB0, 0x1C40, 0x1C50, 0xA620, 0xA8D0, 0xA900, 0xA9D0, 0xA9F0, 0xAA50, 0xABF0,
   0xFF10, 0x104A0, 0x10D30, 0x11066, 0x110F0, 0x11136, 0x111D0, 0x112F0, 0x11450, 0x114D0,
   0x11650, 0x116C0, 0x11730, 0x118E0, 0x11950, 0x11C50, 0x11D50, 0x11DA0, 0x16A60, 0x16AC0,
   0x16B50, 0x1D7CE, 0x1D7D8, 0x1D7E2, 0x1D7EC, 0x1D7F6, 0x1E140, 0x1E2F0, 0x1E950, 0x1FBF0]

/-- Value of a decimal digit of any script. -/
def digit? (c : Char) : Option Nat :=
  (digitZeros.find? fun z => z ≤ c.toNat && c.toNat < z + 10).map (c.toNat - ·)

/-- Read digits, with single underscores between them, onto the value read so far; `gap` says
that an underscore stands right before. -/
def readDigits (value : Nat) (gap : Bool) : Text → Option Nat
  | [] => if gap then none else some value
  | c :: s =>
    match digit? c with
    | some d => readDigits (10 * value + d) false s
    | none => if c == '_' && !gap then readDigits value true s else none

/-- A natural number starts with a digit, and has not too many of them. -/
def readNat? (s : Text) : Option Nat :=
  if mostDigits < s.countP (· != '_') then none else readDigits 0 true s

/-- Blank space that may surround an integer: all but the four information separators. -/
def isMargin (c : Char) : Bool := isBlank c && !(0x1C ≤ c.toNat && c.toNat ≤ 0x1F)

/-- An integer may have a sign, and blank space around it. -/
def readInt? (s : Text) : Option Int :=
  match ((s.dropWhile isMargin).reverse.dropWhile isMargin).reverse with
  | '-' :: s => (readNat? s).map fun n => -(n : Int)
  | '+' :: s => (readNat? s).map Int.ofNat
  | s => (readNat? s).map Int.ofNat

/-- Digits only, at least one. -/
def isDigits (s : Text) : Bool := !s.isEmpty && s.all fun c => (digit? c).isSome

end Shorthand.Text
