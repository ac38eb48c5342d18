import Shorthand.Text.Basic

/-! UTF-8: bytes as a sequence of characters and malformed stretches. Reading strictly reports the
first stretch, reading leniently puts a replacement character in the place of each. -/
namespace Shorthand.Text.Utf8

/-- Why a stretch of bytes is no character. -/
inductive Reason where
  | badStart
  | badContinuation
  | truncated
  deriving DecidableEq, Repr

/-- A character, or the longest stretch of bytes that begins one and cannot go on. -/
inductive Piece where
  | char (c : Char)
  | malformed (bytes : List UInt8) (reason : Reason)
  deriving DecidableEq, Repr

/-- What a first byte announces: how many bytes follow, and the range of the next of them. -/
structure Lead where
  tail : Nat
  low : UInt8 := 0x80
  high : UInt8 := 0xBF

/-- Narrower ranges after E0, ED, F0 and F4 exclude overlong forms, surrogates and code points
beyond the last. -/
def lead? (b : UInt8) : Option Lead :=
  if 0xC2 ≤ b && b ≤ 0xDF then some { tail := 1 }
  else if b == 0xE0 then some { tail := 2, low := 0xA0 }
  else if b == 0xED then some { tail := 2, high := 0x9F }
  else if 0xE1 ≤ b && b ≤ 0xEF then some { tail := 2 }
  else if b == 0xF0 then some { tail := 3, low := 0x90 }
  else if b == 0xF4 then some { tail := 3, high := 0x8F }
  else if 0xF1 ≤ b && b ≤ 0xF3 then some { tail := 3 }
  else none

/-- The following bytes that continue the character, at most as many as announced. -/
def continuation : (lead : Lead) → List UInt8 → List UInt8
  | ⟨0, _, _⟩, _ => []
  | _, [] => []
  | ⟨n + 1, low, high⟩, b :: bytes =>
    if low ≤ b && b ≤ high then b :: continuation ⟨n, 0x80, 0xBF⟩ bytes else []

/-- Code point spelled by a first byte and the bytes that follow it: six bits come from each of
those, and one bit fewer from the first byte for each of them. -/
def codePoint (first : UInt8) (rest : List UInt8) : Nat :=
  rest.foldl (fun n b => n * 64 + b.toNat % 64) (first.toNat % Nat.pow 2 (6 - rest.length))

/-- Split bytes into characters and malformed stretches. -/
def pieces : List UInt8 → List Piece
  | [] => []
  | b :: bytes =>
    if b < 0x80 then .char (Char.ofNat b.toNat) :: pieces bytes
    else match lead? b with
      | none => .malformed [b] .badStart :: pieces bytes
      | some lead =>
        let tail := continuation lead bytes
        let piece :=
          if tail.length = lead.tail then .char (Char.ofNat (codePoint b tail))
          else if tail.length = bytes.length then .malformed (b :: tail) .truncated
          else .malformed (b :: tail) .badContinuation
        piece :: pieces (bytes.drop tail.length)
termination_by bytes => bytes.length
decreasing_by all_goals simp_all; try omega

/-- Where and why bytes are not UTF-8. -/
structure Fault where
  position : Nat
  bytes : List UInt8
  reason : Reason
  deriving DecidableEq, Repr

def Reason.message : Reason → Text
  | .badStart => "invalid start byte".toList
  | .badContinuation => "invalid continuation byte".toList
  | .truncated => "unexpected end of data".toList

/-- One byte is shown by its value and position, several by their positions. -/
def Fault.message (f : Fault) : Text :=
  let subject := match f.bytes with
    | [b] => "byte 0x".toList ++ hex 2 b.toNat ++ " in position ".toList ++ ofNat f.position
    | bytes => "bytes in position ".toList ++ ofNat f.position ++ "-".toList ++
        ofNat (f.position + bytes.length - 1)
  "'utf-8' codec can't decode ".toList ++ subject ++ ": ".toList ++ f.reason.message

/-- Bytes of one character. -/
def encodeChar (c : Char) : List UInt8 := String.utf8EncodeChar c

/-- Bytes of a text. -/
def encode (s : Text) : List UInt8 := s.flatMap encodeChar

/-- The characters, or the first malformed stretch; `position` counts the bytes before. -/
def collect (position : Nat) : List Piece → Except Fault Text
  | [] => .ok []
  | .char c :: rest => (collect (position + c.utf8Size) rest).map (c :: ·)
  | .malformed bytes reason :: _ => .error ⟨position, bytes, reason⟩

/-- Read bytes that must be UTF-8 throughout. -/
def decode (bytes : List UInt8) : Except Fault Text := collect 0 (pieces bytes)

/-- Read bytes with a replacement character for each malformed stretch. -/
def decodeLossy (bytes : List UInt8) : Text :=
  (pieces bytes).map fun
    | .char c => c
    | .malformed _ _ => replacement

end Shorthand.Text.Utf8
