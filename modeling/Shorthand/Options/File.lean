import Shorthand.Disk.Basic
import Shorthand.Json.Reader
import Shorthand.Log
import Shorthand.Options.Basic
import Shorthand.Text.Lowercase

/-! Options from a file: a JSON object of named values, with further values applied after it. -/
namespace Shorthand.Options

/-- Why options could not be loaded. -/
inductive Fault where
  | missing (path : Path)
  | notJson (path : Path)
  | unreadable (path : Path) (fault : Disk.Fault)
  | malformed (path : Path) (text : Text) (fault : Json.Fault)
  | notObject (path : Path)
  | refused (value : NotObject)
  | undecodable (fault : Text.Utf8.Fault)
  | longInteger (integer : Json.LongInteger)
  | unreachable (fault : Disk.Fault)
  deriving DecidableEq, Repr

def Fault.message : Fault → Text
  | .missing path => "Configuration file not found: ".toList ++ path.text
  | .notJson path => "Configuration file must be JSON: ".toList ++ path.text
  | .unreadable path fault =>
    "Failed to load configuration file ".toList ++ path.text ++ ": ".toList ++ fault.message
  | .malformed path text fault =>
    "Invalid JSON in configuration file ".toList ++ path.text ++ ": ".toList ++ fault.message text
  | .notObject path => "Configuration file must contain a JSON object: ".toList ++ path.text
  | .refused value => value.message
  | .undecodable fault => fault.message
  | .longInteger integer => integer.message
  | .unreachable fault => fault.message

/-- Members of the object in the text of a file. -/
def membersOf (path : Path) (text : Text) : Except Fault (List (Text × Json)) :=
  match Json.read text with
  | .error (.malformed fault) => .error (.malformed path text fault)
  | .error (.long integer) => .error (.longInteger integer)
  | .ok (.obj members) => .ok members
  | .ok _ => .error (.notObject path)

/-- Members of the object in a file, whose name must end in `.json`. -/
def loadFile (disk : Disk) (path : Path) : Except Fault (List (Text × Json)) :=
  match disk.find path with
  | .error .nameTooLong => .error (.unreachable ⟨.nameTooLong, path⟩)
  | .error _ => .error (.missing path)
  | .ok _ =>
    if Text.lower path.ending != ".json".toList then .error (.notJson path)
    else match disk.read path with
      | .error cause => .error (.unreadable path ⟨cause, path⟩)
      | .ok bytes =>
        match Text.Utf8.decode bytes with
        | .error fault => .error (.undecodable fault)
        | .ok text => membersOf path (Text.unifyNewlines text)

/-- Members from the file, none when no file is named. -/
def fileMembers (disk : Disk) (file : Text) : Except Fault (List (Text × Json)) :=
  if file.isEmpty then .ok [] else loadFile disk (Path.ofText file)

/-- Apply the file and then the value `custom` to options. A value that counts as false is left out,
like the empty name of a file. -/
def load (o : Options) (disk : Disk) (file : Text) (custom : Json) : Except Fault Options :=
  match fileMembers disk file with
  | .error fault => .error fault
  | .ok members =>
    if custom.isTrue then ((o.applyAll members).merge custom).mapError .refused
    else .ok (o.applyAll members)

/-- A record for each name in a value that belongs to no switch. -/
def mergeLog (v : Json) : List Log.Record :=
  (unknownNames v).map fun name => ⟨.debug, .options, "Ignoring unknown option: ".toList ++ name⟩

/-- What is logged about loading options. -/
def loadLog (disk : Disk) (file : Text) (custom : Json) : List Log.Record :=
  match fileMembers disk file with
  | .error _ => []
  | .ok members =>
    let loaded : List Log.Record :=
      if file.isEmpty then []
      else [⟨.debug, .options, "Loaded options from ".toList ++ (Path.ofText file).text⟩]
    loaded ++ mergeLog (.obj members) ++ if custom.isTrue then mergeLog custom else []

end Shorthand.Options
