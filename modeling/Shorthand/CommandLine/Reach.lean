import Shorthand.CommandLine.Run

/-! The part of the disk that a run can reach: the places on the way to the file with options and to
the files it may write. -/
namespace Shorthand.CommandLine

/-- The places along some steps, each after the one before. -/
def placesAlong (here : Place) : List Text → List Place
  | [] => [here]
  | step :: steps =>
    here :: placesAlong (if step == "..".toList then here.dropLast else here ++ [step]) steps

/-- The places along a path. -/
def placesTo (cwd : Place) (p : Path) : List Place :=
  placesAlong [] (cwd ++ p.steps |>.drop (if p.root.isEmpty then 0 else cwd.length))

/-- The record text of a run. -/
def recordText (i : Invocation) (stdin : Stream) : Text :=
  if i.text.isEmpty then (stdin.recordText.toOption).getD [] else i.text

/-- The places a run may look at or change. -/
def reach (i : Invocation) (stdin : Stream) (cwd : Place) : List Place :=
  let config := if i.config.isEmpty then [] else placesTo cwd (Path.ofText i.config)
  let outputs := match Dialect.read {} (recordText i stdin), outputFolder i cwd with
    | .ok r, .ok folder =>
      i.requested.flatMap fun o => placesTo cwd (outputPath folder r.name o)
    | _, _ => []
  config ++ outputs

end Shorthand.CommandLine
