import Shorthand.Disk.Path
import Shorthand.Text.Quoted
import Shorthand.Text.Utf8

/-! A disk: files and folders by their place. There are no links, so that every file has one place, and
everything may be read and written. Operations follow a path step by step and fail, with the operating
system's number and words, where a step cannot be taken. -/
namespace Shorthand

/-- The steps from the root to a file or folder. -/
abbrev Place := List Text

/-- What is at a place. -/
inductive Entry where
  | file (bytes : List UInt8)
  | folder
  deriving DecidableEq, Repr

/-- Files and folders, and the folder where relative paths start. -/
structure Disk where
  cwd : Place
  entries : List (Place × Entry)
  deriving Repr

namespace Disk

/-- Why an operation on a path fails. -/
inductive Cause where
  | notFound
  | occupied
  | notFolder
  | isFolder
  | nameTooLong
  | zeroByte
  deriving DecidableEq, Repr

/-- The operating system's number for a cause. A path with a zero byte cannot be told to it. -/
def Cause.number? : Cause → Option Nat
  | .notFound => some 2
  | .occupied => some 17
  | .notFolder => some 20
  | .isFolder => some 21
  | .nameTooLong => some 36
  | .zeroByte => none

def Cause.words : Cause → Text
  | .notFound => "No such file or directory".toList
  | .occupied => "File exists".toList
  | .notFolder => "Not a directory".toList
  | .isFolder => "Is a directory".toList
  | .nameTooLong => "File name too long".toList
  | .zeroByte => "embedded null byte".toList

/-- A failed operation on a path. -/
structure Fault where
  cause : Cause
  path : Path
  deriving DecidableEq, Repr

def Fault.message (f : Fault) : Text :=
  match f.cause.number? with
  | some number =>
    "[Errno ".toList ++ Text.ofNat number ++ "] ".toList ++ f.cause.words ++ ": ".toList ++
      Text.Quoted.encode f.path.text
  | none => f.cause.words

/-- What is at a place; the root is always there. -/
def entry? (d : Disk) (place : Place) : Option Entry :=
  if place.isEmpty then some .folder else d.entries.lookup place

/-- Put something at a place. -/
def putEntry (place : Place) (entry : Entry) : List (Place × Entry) → List (Place × Entry)
  | [] => [(place, entry)]
  | (q, e) :: rest =>
    if q == place then (place, entry) :: rest else (q, e) :: putEntry place entry rest

def put (d : Disk) (place : Place) (entry : Entry) : Disk :=
  { d with entries := putEntry place entry d.entries }

/-- The longest name of a file or folder, in bytes. -/
def longestName : Nat := 255

/-- Take steps from a place. Each needs a folder to start from, so that only the place reached last
may be empty. -/
def walk (d : Disk) (here : Place) : List Text → Except Cause Place
  | [] => .ok here
  | step :: steps =>
    match d.entry? here with
    | none => .error .notFound
    | some (.file _) => .error .notFolder
    | some .folder =>
      if step == "..".toList then walk d here.dropLast steps
      else if longestName < (Text.Utf8.encode step).length then .error .nameTooLong
      else walk d (here ++ [step]) steps

/-- The longest path, in bytes. -/
def longestPath : Nat := 4095

/-- The place a path leads to. -/
def locate (d : Disk) (p : Path) : Except Cause Place :=
  if p.hasZero then .error .zeroByte
  else if longestPath < (Text.Utf8.encode p.text).length then .error .nameTooLong
  else d.walk (if p.root.isEmpty then d.cwd else []) p.steps

/-- What a path leads to. -/
def find (d : Disk) (p : Path) : Except Cause Entry :=
  match d.locate p with
  | .error cause => .error cause
  | .ok place =>
    match d.entry? place with
    | none => .error .notFound
    | some entry => .ok entry

/-- The path leads to a folder. -/
def isFolder (d : Disk) (p : Path) : Bool :=
  match d.find p with
  | .ok .folder => true
  | _ => false

/-- Contents of a file. -/
def read (d : Disk) (p : Path) : Except Cause (List UInt8) :=
  match d.find p with
  | .error cause => .error cause
  | .ok .folder => .error .isFolder
  | .ok (.file bytes) => .ok bytes

/-- Make a folder where nothing is. -/
def makeFolder (d : Disk) (p : Path) : Except Cause Disk :=
  match d.locate p with
  | .error cause => .error cause
  | .ok place =>
    match d.entry? place with
    | some _ => .error .occupied
    | none => .ok (d.put place .folder)

/-- Make a file, or give it new contents. -/
def overwrite (d : Disk) (p : Path) (bytes : List UInt8) : Except Cause Disk :=
  match d.locate p with
  | .error cause => .error cause
  | .ok place =>
    match d.entry? place with
    | some .folder => .error .isFolder
    | _ => .ok (d.put place (.file bytes))

/-- An attempt to make a folder counts as done when the folder is there. -/
def settle (d : Disk) (p : Path) : Except Cause Disk → Disk × Option Fault
  | .ok d => (d, none)
  | .error cause => if d.isFolder p then (d, none) else (d, some ⟨cause, p⟩)

/-- Make a folder and the folders above it, as far as they are missing. What was made before a
failure stays. -/
def makeFolders (d : Disk) (p : Path) : Disk × Option Fault :=
  match d.makeFolder p with
  | .error .notFound =>
    if p.steps = [] then (d, some ⟨.notFound, p⟩)
    else match makeFolders d p.parent with
      | (d, some fault) => (d, some fault)
      | (d, none) => d.settle p (d.makeFolder p)
  | attempt => d.settle p attempt
termination_by p.steps.length
decreasing_by
  have := List.length_pos_iff.2 ‹¬p.steps = []›
  simp [Path.parent]
  omega

/-- Make a file with these bytes, and the folders above it. -/
def writeBytes (d : Disk) (p : Path) (bytes : List UInt8) : Disk × Option Fault :=
  match d.makeFolders p.parent with
  | (d, some fault) => (d, some fault)
  | (d, none) =>
    match d.overwrite p bytes with
    | .ok d => (d, none)
    | .error cause => (d, some ⟨cause, p⟩)

/-- A text that ends in a line feed. -/
def terminated (content : Text) : Text :=
  if Text.endsIn '\n' content then content else content ++ ['\n']

/-- Write generated code, with a line feed at its end, and make the folders above it. -/
def write (d : Disk) (p : Path) (content : Text) : Disk × Option Fault :=
  d.writeBytes p (Text.Utf8.encode (terminated content))

/-- The files below the folder where relative paths start, by relative path. -/
def files (d : Disk) : List (Text × List UInt8) :=
  d.entries.filterMap fun (place, entry) =>
    match entry with
    | .folder => none
    | .file bytes =>
      if d.cwd.isPrefixOf place then
        some (Text.join ['/'] (place.drop d.cwd.length), bytes)
      else none

/-- The files that are new or have other contents than before. -/
def changes (before after : Disk) : List (Text × List UInt8) :=
  after.files.filter fun f => before.files.lookup f.1 != some f.2

end Disk
end Shorthand
