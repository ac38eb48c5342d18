import Shorthand.Dialect.Spaced
import Shorthand.Dialect.Slashed

/-! Reading a record text in either dialect. -/
namespace Shorthand.Dialect

/-- A text that starts with `type:` is slashed, any other is spaced. -/
def styleOf (text : Text) : Style :=
  if Text.startsWith Slashed.opening text then .slashed else .spaced

/-- Read a record; blank space around the text does not matter. -/
def read (options : Options) (raw : Text) : Except Problem Record :=
  let text := Text.trim raw
  if text.isEmpty then .error { fault := .emptyText }
  else match styleOf text with
    | .slashed => Slashed.read options text
    | .spaced => Spaced.read options text

end Shorthand.Dialect
