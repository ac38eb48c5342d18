import Shorthand.Text.Basic

/-! Paths of files: a root, which a relative path does not have, and the steps from there. -/
namespace Shorthand

/-- A path. Steps that stay in place (empty ones and `.`) are left out; steps upwards are kept. -/
structure Path where
  root : Text
  steps : List Text
  deriving DecidableEq, Repr

namespace Path

/-- Two slashes in front are a root of their own; any other number stands for one. -/
def rootOf (s : Text) : Text :=
  match (s.takeWhile (· == '/')).length with
  | 0 => []
  | 2 => "//".toList
  | _ => "/".toList

/-- The path that a text spells. -/
def ofText (s : Text) : Path :=
  ⟨rootOf s, (Text.fragments (· == '/') s).filter (· != ".".toList)⟩

/-- The text of a path; a path without root and steps is a point. -/
def text (p : Path) : Text :=
  if p.root.isEmpty && p.steps.isEmpty then ".".toList
  else p.root ++ Text.join ['/'] p.steps

/-- A step has a zero byte in it. -/
def hasZero (p : Path) : Bool := p.steps.any (·.contains (Char.ofNat 0))

/-- The path without its last step. -/
def parent (p : Path) : Path := { p with steps := p.steps.dropLast }

/-- The last step. -/
def fileName (p : Path) : Text := p.steps.getLast?.getD []

/-- The path one step further on. -/
def child (p : Path) (step : Text) : Path := { p with steps := p.steps ++ [step] }

/-- The file name from its last point on; a point at either end of the name begins no ending. -/
def ending (p : Path) : Text :=
  let tail := (p.fileName.reverse.takeWhile (· != '.')).reverse
  if tail.isEmpty || p.fileName.length ≤ tail.length + 1 then [] else '.' :: tail

/-- Follow steps from a place by name only; a step upwards undoes the one before. -/
def follow (here : List Text) : List Text → List Text
  | [] => here
  | step :: steps =>
    if step == "..".toList then follow here.dropLast steps else follow (here ++ [step]) steps

/-- The path from the root, without steps upwards, for a path used in the folder `cwd`. -/
def resolve (cwd : List Text) (p : Path) : Path :=
  ⟨"/".toList, follow (if p.root.isEmpty then cwd else []) p.steps⟩

end Path
end Shorthand
