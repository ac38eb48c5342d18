import Shorthand.Text.Width

/-! Printing on a screen of text columns. -/
namespace Shorthand.Console

/-- Bell, backspace, vertical tab, form feed and carriage return would move the cursor. -/
def movesCursor (c : Char) : Bool :=
  c.toNat == 7 || c.toNat == 8 || c.toNat == 11 || c.toNat == 12 || c.toNat == 13

/-- Distance of the tab stops. -/
def tabSize : Nat := 8

/-- The first tab stop at or after a column. -/
def tabStop (column : Nat) : Nat := (column + (tabSize - 1)) / tabSize * tabSize

/-- Stretches of a line with a space for the tab between each two, filled up with spaces to the next
stop. The line is printed up to `column`. -/
def fill (column : Nat) : List Text → Text
  | [] => []
  | [stretch] => stretch
  | stretch :: rest =>
    let reached := column + Text.columns (stretch ++ [' '])
    stretch ++ ' ' :: List.replicate (tabStop reached - reached) ' ' ++ fill (tabStop reached) rest

/-- A line with its tabs filled up. -/
def expandTabs (line : Text) : Text := fill 0 (line.splitOnP (· == '\t'))

/-- What is printed for a text, with a line feed after it. -/
def line (s : Text) : Text :=
  Text.join ['\n'] ((Text.lines (s.filter (!movesCursor ·))).map expandTabs) ++ ['\n']

/-- A single backslash at the end is doubled, so that nothing printed after it is taken for an
escape. -/
def protect (s : Text) : Text :=
  match s.reverse with
  | '\\' :: '\\' :: _ => s
  | '\\' :: _ => s ++ ['\\']
  | _ => s

end Shorthand.Console
