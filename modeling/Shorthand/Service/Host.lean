import Shorthand.Text.Basic

/-! The host that a request names: a name or an address in brackets, and a port if it is not the
usual one. -/
namespace Shorthand.Service.Host

/-- Characters that stand for themselves in a name. -/
def isPlain (c : Char) : Bool := c.isAlphanum || "-._~!$&'()*+,;=".toList.contains c

def isHex (c : Char) : Bool := (Text.hexDigit? c).isSome

/-- A name. A percent sign, which begins the escape of a byte, may stand anywhere in it. -/
def isName (s : Text) : Bool := !s.isEmpty && s.all fun c => isPlain c || c == '%'

/-- A port: digits, and not too large a number. -/
def isPort (s : Text) : Bool :=
  !s.isEmpty && s.all Char.isDigit && Text.digitsValue s ≤ 65535

/-- Up to four hexadecimal digits. -/
def isGroup (s : Text) : Bool := !s.isEmpty && s.length ≤ 4 && s.all isHex

/-- A number up to 255 without zeros in front. -/
def isOctet (s : Text) : Bool :=
  !s.isEmpty && s.length ≤ 3 && s.all Char.isDigit && (s == ['0'] || s.head? != some '0') &&
    Text.digitsValue s ≤ 255

/-- Four numbers with points between them. -/
def isQuad (s : Text) : Bool :=
  let octets := s.splitOnP (· == '.')
  octets.length == 4 && octets.all isOctet

/-- How many groups a part of an address has, if it is well-formed. Four numbers at the end count as
two groups where `quad` allows them. -/
def groups? (quad : Bool) : List Text → Option Nat
  | [] => some 0
  | [s] => if isGroup s then some 1 else if quad && isQuad s then some 2 else none
  | s :: rest => if isGroup s then (groups? quad rest).map (· + 1) else none

/-- The parts between single colons; nothing has none. -/
def parts (s : Text) : List Text := if s.isEmpty then [] else s.splitOnP (· == ':')

/-- The texts before and after the first two colons in a row. -/
def splitGap : Text → Option (Text × Text)
  | [] => none
  | ':' :: ':' :: s => some ([], s)
  | c :: s => (splitGap s).map fun r => (c :: r.1, r.2)

/-- Eight groups, or fewer with a gap for one or more groups that are zero. -/
def isAddress (s : Text) : Bool :=
  match splitGap s with
  | none => groups? true (parts s) == some 8
  | some (before, after) =>
    match groups? false (parts before), groups? true (parts after) with
    | some m, some n => m + n ≤ 7
    | _, _ => false

/-- An address of a version yet to come: the version in hexadecimal digits, a point, and more. -/
def isFutureAddress (s : Text) : Bool :=
  match s with
  | 'v' :: t =>
    match t.dropWhile isHex with
    | '.' :: rest =>
      !(t.takeWhile isHex).isEmpty && !rest.isEmpty && rest.all fun c => isPlain c || c == ':'
    | _ => false
  | _ => false

/-- Nothing, or a colon and a port. -/
def isPortPart : Text → Bool
  | [] => true
  | ':' :: port => isPort port
  | _ => false

/-- A host as requests may name it. -/
def isValid (s : Text) : Bool :=
  match s with
  | '[' :: t =>
    let address := t.takeWhile (· != ']')
    t.contains ']' && (isAddress address || isFutureAddress address) &&
      isPortPart ((t.dropWhile (· != ']')).drop 1)
  | s => isName (s.takeWhile (· != ':')) && isPortPart (s.dropWhile (· != ':'))

end Shorthand.Service.Host
