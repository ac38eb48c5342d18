/-! Text as a list of characters, with the operations the rest of the library is built from:
blank space and trimming, pieces between cuts, matching at either end, and numerals. -/
namespace Shorthand

/-- Text is a list of characters: every operation on it is an operation on lists. -/
abbrev Text := List Char

namespace Text

/-- Stands for what is no character. -/
def replacement : Char := Char.ofNat 0xFFFD

/-- Blank space: the ASCII blanks and separators, and the spaces of other scripts. Characters that
merely have no width, such as U+200B, are not blank. -/
def isBlank (c : Char) : Bool :=
  let n := c.toNat
  (9 ≤ n && n ≤ 13) || (28 ≤ n && n ≤ 32) || n == 0x85 || n == 0xA0 || n == 0x1680 ||
    (0x2000 ≤ n && n ≤ 0x200A) || n == 0x2028 || n == 0x2029 || n == 0x202F || n == 0x205F ||
    n == 0x3000

/-- Drop the blank space in front. -/
def trimLeft (s : Text) : Text := s.dropWhile isBlank

/-- Drop the blank space at the end. -/
def trimRight (s : Text) : Text := (s.reverse.dropWhile isBlank).reverse

/-- Drop the blank space on both sides. -/
def trim (s : Text) : Text := trimRight (trimLeft s)

def startsWith (part s : Text) : Bool := part.isPrefixOf s
def endsWith (part s : Text) : Bool := part.isSuffixOf s

/-- The last character is `c`. -/
def endsIn (c : Char) (s : Text) : Bool := s.getLast? == some c

/-- The part of `s` after `head`, if `s` starts with it. -/
def after? (head s : Text) : Option Text :=
  if head.isPrefixOf s then some (s.drop head.length) else none

/-- Cut at every character of a class and keep the pieces that hold something. -/
def fragments (cut : Char → Bool) (s : Text) : List Text :=
  (s.splitOnP cut).filter (! ·.isEmpty)

/-- The lines of a text; a line feed at the end is followed by one more, empty line. -/
def lines (s : Text) : List Text := s.splitOnP (· == '\n')

/-- Write pieces one after another with `sep` between them. -/
def join (sep : Text) (pieces : List Text) : Text := List.intercalate sep pieces

/-- Drop the line feeds at the end. -/
def dropFinalNewlines (s : Text) : Text := (s.reverse.dropWhile (· == '\n')).reverse

/-- Both a carriage return and a carriage return with a line feed become a line feed. -/
def unifyNewlines : Text → Text
  | [] => []
  | '\r' :: '\n' :: s => '\n' :: unifyNewlines s
  | c :: s => (if c == '\r' then '\n' else c) :: unifyNewlines s

/-- Decimal numeral. -/
def ofNat (n : Nat) : Text := Nat.toDigits 10 n

/-- Decimal numeral with a minus sign below zero. -/
def ofInt : Int → Text
  | .ofNat n => ofNat n
  | .negSucc n => '-' :: ofNat (n + 1)

/-- The most digits of an integer that is read from text or written as text. -/
def mostDigits : Nat := 4300

/-- Fill up with zeros in front to at least `size` characters. -/
def padZero (size : Nat) (digits : Text) : Text :=
  List.replicate (size - digits.length) '0' ++ digits

/-- Decimal numeral of at least `size` digits. -/
def padded (size n : Nat) : Text := padZero size (ofNat n)

/-- Lower-case hexadecimal numeral of at least `size` digits. -/
def hex (size n : Nat) : Text := padZero size (Nat.toDigits 16 n)

/-- Value of decimal digits. -/
def digitsValue (digits : Text) : Nat := digits.foldl (fun n c => 10 * n + (c.toNat - 48)) 0

/-- Value of a hexadecimal digit. -/
def hexDigit? (c : Char) : Option Nat :=
  if '0' ≤ c && c ≤ '9' then some (c.toNat - 48)
  else if 'a' ≤ c && c ≤ 'f' then some (c.toNat - 87)
  else if 'A' ≤ c && c ≤ 'F' then some (c.toNat - 55)
  else none

end Text
end Shorthand
