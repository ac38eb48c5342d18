import Shorthand.Bundle.Basic
import Shorthand.Json.Printer

/-! Why the service does not do what a request asks for, as JSON and as plain text. -/
namespace Shorthand.Service

/-- A report about a record text, or a message about anything else. -/
inductive Rejection where
  | report (r : Dialect.Report)
  | message (m : Text)
  deriving DecidableEq, Repr

namespace Rejection

def toJson : Rejection → Json
  | .report r => r.toJson
  | .message m => .obj [("error".toList, .str m)]

def what : Rejection → Text
  | .report r => r.message
  | .message m => m

def hint : Rejection → Text
  | .report r => r.hint.getD []
  | .message _ => []

/-- The message and, if there is one, the hint, each on a line. -/
def text (r : Rejection) : Text :=
  "Error: ".toList ++ r.what ++ ['\n'] ++
    if r.hint.isEmpty then [] else "Hint: ".toList ++ r.hint ++ ['\n']

end Rejection
end Shorthand.Service
