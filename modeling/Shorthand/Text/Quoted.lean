import Shorthand.Text.Printable

/-! Quoted text for messages: a text between quotes, with escapes for everything that could not be
seen or would end it early. -/
namespace Shorthand.Text.Quoted

/-- Single quotes, unless the text has one of those and no double quote. -/
def quoteFor (s : Text) : Char := if s.contains '\'' && !s.contains '"' then '"' else '\''

/-- Escape by number, as short as the code point allows. -/
def numeric (n : Nat) : Text :=
  if n < 0x100 then '\\' :: 'x' :: hex 2 n
  else if n < 0x10000 then '\\' :: 'u' :: hex 4 n
  else '\\' :: 'U' :: hex 8 n

/-- One character between the quotes `quote`. -/
def encodeChar (quote c : Char) : Text :=
  if c == quote || c == '\\' then ['\\', c]
  else if c == '\n' then ['\\', 'n']
  else if c == '\r' then ['\\', 'r']
  else if c == '\t' then ['\\', 't']
  else if isPrintable c then [c]
  else numeric c.toNat

/-- The text between quotes. -/
def encode (s : Text) : Text :=
  let quote := quoteFor s
  quote :: s.flatMap (encodeChar quote) ++ [quote]

end Shorthand.Text.Quoted
