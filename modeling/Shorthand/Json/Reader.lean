import Shorthand.Json.Basic
import Shorthand.Text.Encoding

/-! Reading JSON text. Besides the standard's values, `NaN`, `Infinity` and `-Infinity` are read.
Each step returns what it read and the text after it; a fault names its reason and how many
characters stood from its place to the end. An integer with too many digits ends the reading, too. An
escape may spell a surrogate without its partner, which is read as the character that `lone` has for
it. Values may stand inside each other to any depth. -/
namespace Shorthand.Json

/-- Why a text is not JSON. -/
inductive Reason where
  | byteOrderMark
  | value
  | name
  | colon
  | comma
  | unterminated
  | control
  | escape
  | unicodeEscape
  | extra
  deriving DecidableEq, Repr

def Reason.message : Reason → Text
  | .byteOrderMark => "Unexpected UTF-8 BOM (decode using utf-8-sig)".toList
  | .value => "Expecting value".toList
  | .name => "Expecting property name enclosed in double quotes".toList
  | .colon => "Expecting ':' delimiter".toList
  | .comma => "Expecting ',' delimiter".toList
  | .unterminated => "Unterminated string starting at".toList
  | .control => "Invalid control character at".toList
  | .escape => "Invalid \\escape".toList
  | .unicodeEscape => "Invalid \\uXXXX escape".toList
  | .extra => "Extra data".toList

/-- A fault `left` characters before the end of the text. -/
structure Fault where
  reason : Reason
  left : Nat
  deriving DecidableEq, Repr

/-- The reason with the line, the column and the index of the fault in `text`. -/
def Fault.message (f : Fault) (text : Text) : Text :=
  let index := text.length - f.left
  let before := text.take index
  let line := 1 + before.count '\n'
  let column := 1 + (before.reverse.takeWhile (· != '\n')).length
  f.reason.message ++ ": line ".toList ++ Text.ofNat line ++ " column ".toList ++
    Text.ofNat column ++ " (char ".toList ++ Text.ofNat index ++ ")".toList

/-- Why a text is not read: it is not JSON, or an integer in it is too long. -/
inductive Failure where
  | malformed (fault : Fault)
  | long (integer : LongInteger)
  deriving DecidableEq, Repr

/-- What was read, and the text after it. -/
abbrev Reading (α : Type) := Except Failure (α × Text)

def fail {α : Type} (reason : Reason) (s : Text) : Except Failure α :=
  .error (.malformed ⟨reason, s.length⟩)

/-- Blank space between tokens. -/
def isSpace (c : Char) : Bool := c == ' ' || c == '\t' || c == '\n' || c == '\r'

def skip (s : Text) : Text := s.dropWhile isSpace

/-- Value of four hexadecimal digits. -/
def hex4? : Text → Option Nat
  | [a, b, c, d] => do
    let a ← Text.hexDigit? a
    let b ← Text.hexDigit? b
    let c ← Text.hexDigit? c
    let d ← Text.hexDigit? d
    return ((a * 16 + b) * 16 + c) * 16 + d
  | _ => none

/-- The character of a numbered escape and the length of the escape, for the text after `u`. Four
digits must follow, and something after them. A pair of surrogates spells one character. -/
def numbered (lone : Nat → Char) (s : Text) : Except Reason (Char × Nat) :=
  match hex4? (s.take 4) with
  | none => .error .unicodeEscape
  | some n =>
    if s.length ≤ 4 then .error .unicodeEscape
    else if Text.Encoding.isHighSurrogate n then
      match (s.drop 4).take 2, hex4? ((s.drop 6).take 4) with
      | ['\\', 'u'], some m =>
        if Text.Encoding.isLowSurrogate m && 10 < s.length then
          .ok (Char.ofNat (Text.Encoding.joinSurrogates n m), 10)
        else .ok (lone n, 4)
      | _, _ => .ok (lone n, 4)
    else .ok ((Text.Encoding.char? n).getD (lone n), 4)

/-- The character that a backslash and this letter spell. -/
def escaped? (c : Char) : Option Char :=
  match c with
  | '"' => some '"'
  | '\\' => some '\\'
  | '/' => some '/'
  | 'b' => some '\x08'
  | 'f' => some '\x0c'
  | 'n' => some '\n'
  | 'r' => some '\r'
  | 't' => some '\t'
  | _ => none

/-- A string after its opening quote, which stood `start` characters before the end. -/
def string (lone : Nat → Char) (start : Nat) : Text → Reading Text
  | [] => .error (.malformed ⟨.unterminated, start⟩)
  | c :: s =>
    if c == '"' then .ok ([], s)
    else if c == '\\' then
      match s with
      | [] => .error (.malformed ⟨.unterminated, start⟩)
      | d :: t =>
        if d == 'u' then
          match numbered lone t with
          | .error reason => fail reason s
          | .ok (e, size) => (string lone start (t.drop size)).map fun r => (e :: r.1, r.2)
        else match escaped? d with
          | none => fail .escape (c :: s)
          | some e => (string lone start t).map fun r => (e :: r.1, r.2)
    else if c.toNat < 0x20 then fail .control (c :: s)
    else (string lone start s).map fun r => (c :: r.1, r.2)
termination_by s => s.length
decreasing_by all_goals simp_all; try omega

/-- A zero, or digits that do not start with one. -/
def wholePart? : Text → Option (Text × Text)
  | [] => none
  | c :: s =>
    if c == '0' then some ([c], s)
    else if c.isDigit then some (c :: s.takeWhile Char.isDigit, s.dropWhile Char.isDigit)
    else none

/-- A point with digits after it, if there is one. -/
def fraction (s : Text) : Text × Text :=
  match s with
  | '.' :: t =>
    let digits := t.takeWhile Char.isDigit
    if digits.isEmpty then ([], s) else (digits, t.dropWhile Char.isDigit)
  | _ => ([], s)

/-- An `e` with an optional sign and digits after it, if there is one. -/
def exponent (s : Text) : Option Int × Text :=
  match s with
  | [] => (none, s)
  | e :: t =>
    if e == 'e' || e == 'E' then
      let (negative, u) := match t with
        | '-' :: u => (true, u)
        | '+' :: u => (false, u)
        | u => (false, u)
      let digits := u.takeWhile Char.isDigit
      let n : Int := Text.digitsValue digits
      if digits.isEmpty then (none, s)
      else (some (if negative then -n else n), u.dropWhile Char.isDigit)
    else (none, s)

/-- What the parts of a number come to: with a fraction or an exponent a decimal, else an integer, which
must not have too many digits. -/
def numeral (negative : Bool) (whole places : Text) (e : Option Int) : Except Failure Json :=
  let digits := Text.digitsValue (whole ++ places)
  match e with
  | some e => .ok (.decimal (.finite negative digits (e - places.length)))
  | none =>
    if !places.isEmpty then .ok (.decimal (.finite negative digits (-places.length)))
    else if Text.mostDigits < whole.length then .error (.long ⟨some whole.length⟩)
    else .ok (.int (if negative then -(digits : Int) else digits))

/-- The longest number in front. -/
def number (s : Text) : Reading Json :=
  let (negative, t) := match s with
    | '-' :: t => (true, t)
    | t => (false, t)
  match wholePart? t with
  | none => fail .value s
  | some (whole, u) =>
    let (places, v) := fraction u
    let (e, rest) := exponent v
    (numeral negative whole places e).map (·, rest)

/-- The values that are words. -/
def words : List (Text × Json) :=
  [("null".toList, .null), ("true".toList, .bool true), ("false".toList, .bool false),
   ("NaN".toList, .decimal .undefined), ("Infinity".toList, .decimal (.infinite false)),
   ("-Infinity".toList, .decimal (.infinite true))]

/-- A word or a number. -/
def scalar (s : Text) : Reading Json :=
  match words.findSome? fun w => (Text.after? w.1 s).map (w.2, ·) with
  | some r => .ok r
  | none => number s

mutual

/-- A value in front of the text; `depth` bounds the number of steps. -/
def value (lone : Nat → Char) : (depth : Nat) → Text → Reading Json
  | 0, s => fail .value s
  | n + 1, s =>
    match s with
    | '"' :: t => (string lone s.length t).map fun r => (.str r.1, r.2)
    | '{' :: t =>
      match skip t with
      | '}' :: u => .ok (.obj [], u)
      | u => (members lone n u).map fun r => (.obj (ofPairs r.1), r.2)
    | '[' :: t =>
      match skip t with
      | ']' :: u => .ok (.arr [], u)
      | u => (elements lone n u).map fun r => (.arr r.1, r.2)
    | s => scalar s

/-- Members of an object up to its closing brace, at least one. -/
def members (lone : Nat → Char) : (depth : Nat) → Text → Reading (List (Text × Json))
  | 0, s => fail .name s
  | n + 1, s =>
    match s with
    | '"' :: t =>
      match string lone s.length t with
      | .error f => .error f
      | .ok (name, u) =>
        match skip u with
        | ':' :: u =>
          match value lone n (skip u) with
          | .error f => .error f
          | .ok (v, u) =>
            match skip u with
            | '}' :: u => .ok ([(name, v)], u)
            | ',' :: u => (members lone n (skip u)).map fun r => ((name, v) :: r.1, r.2)
            | u => fail .comma u
        | u => fail .colon u
    | s => fail .name s

/-- Elements of an array up to its closing bracket, at least one. -/
def elements (lone : Nat → Char) : (depth : Nat) → Text → Reading (List Json)
  | 0, s => fail .value s
  | n + 1, s =>
    match value lone n s with
    | .error f => .error f
    | .ok (v, u) =>
      match skip u with
      | ']' :: u => .ok ([v], u)
      | ',' :: u => (elements lone n (skip u)).map fun r => (v :: r.1, r.2)
      | u => fail .comma u

end

/-- Read a text that holds one value and nothing else. Of any two steps one uses up a character, so
twice the length of the text bounds their number. -/
def readWith (lone : Nat → Char) (text : Text) : Except Failure Json :=
  if text.head? == some (Char.ofNat 0xFEFF) then fail .byteOrderMark text
  else match value lone (2 * text.length + 1) (skip text) with
    | .error f => .error f
    | .ok (v, rest) =>
      match skip rest with
      | [] => .ok v
      | rest => fail .extra rest

/-- Read a text in which surrogates without their partner need not be told apart. -/
def read (text : Text) : Except Failure Json := readWith (fun _ => Text.replacement) text

end Shorthand.Json
