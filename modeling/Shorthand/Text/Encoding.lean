import Shorthand.Text.Utf8

/-! Byte sequences of unannounced encoding. A byte order mark decides; without one, the places of
zero bytes among the first four tell the width of a unit and the order of its bytes. Surrogates
without their partner are let through as whatever character the caller has for them. -/
namespace Shorthand.Text

/-- Order of the bytes of one unit. -/
inductive ByteOrder where
  | big
  | little
  deriving DecidableEq, Repr

/-- Encodings of a text as bytes. -/
inductive Encoding where
  | utf8
  | utf16 (order : ByteOrder)
  | utf32 (order : ByteOrder)
  deriving DecidableEq, Repr

namespace Encoding

/-- The byte order marks; one that starts with another stands before it. -/
def marks : List (List UInt8 × Encoding) :=
  [([0x00, 0x00, 0xFE, 0xFF], .utf32 .big), ([0xFF, 0xFE, 0x00, 0x00], .utf32 .little),
   ([0xFE, 0xFF], .utf16 .big), ([0xFF, 0xFE], .utf16 .little), ([0xEF, 0xBB, 0xBF], .utf8)]

/-- The encoding that bytes without a byte order mark show. -/
def shown : List UInt8 → Encoding
  | a :: b :: c :: d :: _ =>
    if a == 0 then (if b == 0 then .utf32 .big else .utf16 .big)
    else if b == 0 then (if c == 0 && d == 0 then .utf32 .little else .utf16 .little)
    else .utf8
  | [a, b] => if a == 0 then .utf16 .big else if b == 0 then .utf16 .little else .utf8
  | _ => .utf8

/-- The encoding, and the bytes after the byte order mark if there is one. -/
def detect (bytes : List UInt8) : Encoding × List UInt8 :=
  match marks.find? (·.1.isPrefixOf bytes) with
  | some mark => (mark.2, bytes.drop mark.1.length)
  | none => (shown bytes, bytes)

/-- Value of the bytes of one unit. -/
def unit (order : ByteOrder) (bytes : List UInt8) : Nat :=
  let ordered := match order with
    | .big => bytes
    | .little => bytes.reverse
  ordered.foldl (fun n b => n * 256 + b.toNat) 0

/-- Two-byte units; an odd byte at the end is an error. -/
def units16? (order : ByteOrder) : List UInt8 → Option (List Nat)
  | [] => some []
  | [_] => none
  | a :: b :: rest => (units16? order rest).map (unit order [a, b] :: ·)

/-- Four-byte units; one to three bytes at the end are an error. -/
def units32? (order : ByteOrder) : List UInt8 → Option (List Nat)
  | [] => some []
  | a :: b :: c :: d :: rest => (units32? order rest).map (unit order [a, b, c, d] :: ·)
  | _ => none

/-- The character with this code point, if it is one. -/
def char? (n : Nat) : Option Char := if n.isValidChar then some (Char.ofNat n) else none

def isHighSurrogate (n : Nat) : Bool := 0xD800 ≤ n && n < 0xDC00
def isLowSurrogate (n : Nat) : Bool := 0xDC00 ≤ n && n < 0xE000

/-- The code point that a pair of surrogates stands for. -/
def joinSurrogates (high low : Nat) : Nat := 0x10000 + (high - 0xD800) * 0x400 + (low - 0xDC00)

/-- The character with this code point, or what stands for this surrogate. -/
def charOr? (lone : Nat → Char) (n : Nat) : Option Char :=
  if isHighSurrogate n || isLowSurrogate n then some (lone n) else char? n

/-- Characters of pieces of UTF-8. A surrogate is spelled like a character, by three bytes of which
none goes on where the one before ends. -/
def chars8? (lone : Nat → Char) : List Utf8.Piece → Option Text
  | [] => some []
  | .char c :: rest => (chars8? lone rest).map (c :: ·)
  | .malformed [0xED] _ :: .malformed [a] _ :: .malformed [b] _ :: rest =>
    if 0xA0 ≤ a && a ≤ 0xBF && 0x80 ≤ b && b ≤ 0xBF then
      (chars8? lone rest).map (lone (Utf8.codePoint 0xED [a, b]) :: ·)
    else none
  | .malformed _ _ :: _ => none

/-- Characters of two-byte units; a pair of surrogates spells one. -/
def chars16? (lone : Nat → Char) : List Nat → Option Text
  | [] => some []
  | [n] => (charOr? lone n).map ([·])
  | n :: m :: rest =>
    if isHighSurrogate n && isLowSurrogate m then do
      let c ← char? (joinSurrogates n m)
      return c :: (← chars16? lone rest)
    else do
      let c ← charOr? lone n
      return c :: (← chars16? lone (m :: rest))

/-- Read bytes in the encoding they show, with `lone` for surrogates without their partner. -/
def decode? (lone : Nat → Char) (bytes : List UInt8) : Option Text :=
  match detect bytes with
  | (.utf8, rest) => chars8? lone (Utf8.pieces rest)
  | (.utf16 order, rest) => units16? order rest >>= chars16? lone
  | (.utf32 order, rest) => units32? order rest >>= fun units => units.mapM (charOr? lone)

end Encoding
end Shorthand.Text
