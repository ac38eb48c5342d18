import Shorthand.Text.Utf8

/-! The query of an address: named values between ampersands, with escapes for bytes. -/
namespace Shorthand.Service.Query

/-- The bytes of a text in which a percent sign and two hexadecimal digits stand for a byte. -/
def unescape : Text → List UInt8
  | [] => []
  | '%' :: a :: b :: s =>
    match Text.hexDigit? a, Text.hexDigit? b with
    | some m, some n => UInt8.ofNat (16 * m + n) :: unescape s
    | _, _ => Text.Utf8.encodeChar '%' ++ unescape (a :: b :: s)
  | c :: s => Text.Utf8.encodeChar c ++ unescape s

/-- A name or value: a plus sign stands for a space, and malformed bytes are replaced. -/
def decode (s : Text) : Text :=
  Text.Utf8.decodeLossy (unescape (s.map fun c => if c == '+' then ' ' else c))

/-- The parts before and after the first equals sign. -/
def pair (s : Text) : Text × Text :=
  (decode (s.takeWhile (· != '=')), decode ((s.dropWhile (· != '=')).drop 1))

/-- The named values of a query. -/
def pairs (query : Text) : List (Text × Text) := (Text.fragments (· == '&') query).map pair

/-- The last value with a name. -/
def get? (query name : Text) : Option Text := (pairs query).reverse.lookup name

/-- Characters that stand for themselves in an address. -/
def isPlain (c : Char) : Bool :=
  c.isAlphanum || "_.-~:/%#?=@[]!$&'()*+,;".toList.contains c

/-- Escape a byte by its two hexadecimal digits, in capitals. -/
def escapeByte (b : UInt8) : Text := '%' :: (Text.hex 2 b.toNat).map Char.toUpper

/-- Escape what does not stand for itself. -/
def escape (s : Text) : Text :=
  s.flatMap fun c =>
    if isPlain c then [c] else (Text.Utf8.encodeChar c).flatMap escapeByte

end Shorthand.Service.Query
