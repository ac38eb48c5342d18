import Shorthand.Text.Basic

/-! Layout of generated code: no blank space at the end of a line, and at most two blank lines one
after another. -/
namespace Shorthand.Artifact

/-- Tidy lines that follow `blank` blank ones. -/
def tidyLines (blank : Nat) : List Text → List Text
  | [] => []
  | line :: lines =>
    let line := Text.trimRight line
    if line.isEmpty then
      if blank < 2 then [] :: tidyLines (blank + 1) lines else tidyLines (blank + 1) lines
    else line :: tidyLines 0 lines

/-- Tidy generated code. -/
def tidy (code : Text) : Text := Text.join ['\n'] (tidyLines 0 (Text.lines code))

end Shorthand.Artifact
