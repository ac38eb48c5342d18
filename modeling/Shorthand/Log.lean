import Shorthand.Text.Quoted
import Shorthand.Text.Uppercase

/-! Log records, and the loggers: their names, and the setting of the level from which on records are
shown. -/
namespace Shorthand.Log

/-- How much a record matters. -/
inductive Level where
  | debug
  | info
  | warning
  | error
  | critical
  deriving DecidableEq, Repr

namespace Level

def list : List Level := [.debug, .info, .warning, .error, .critical]

def name : Level → Text
  | .debug => "debug".toList
  | .info => "info".toList
  | .warning => "warning".toList
  | .error => "error".toList
  | .critical => "critical".toList

def ofName? (name : Text) : Option Level := list.find? (·.name == name)

/-- Levels are ordered by number. -/
def number : Level → Nat
  | .debug => 10
  | .info => 20
  | .warning => 30
  | .error => 40
  | .critical => 50

end Level

/-- Name of the root of all loggers. -/
def rootName : Text := "autotyper".toList

/-- The parts of the program that keep a log. -/
inductive Source where
  | commandLine
  | files
  | reader
  | options
  | bundle
  | service
  | launch
  deriving DecidableEq, Repr

/-- Name of a source's logger. -/
def Source.name : Source → Text
  | .commandLine => "autotyper.cli".toList
  | .files => "autotyper.utils".toList
  | .reader => "autotyper.codegen.parser".toList
  | .options => "autotyper.codegen.config".toList
  | .bundle => "autotyper.codegen.builder".toList
  | .service => "autotyper.http.app".toList
  | .launch => "autotyper.http.runner".toList

/-- One record of the log. -/
structure Record where
  level : Level
  source : Source
  message : Text
  deriving DecidableEq, Repr

/-- The record with the name of its source in front. -/
def Record.line (r : Record) : Text := r.source.name ++ ": ".toList ++ r.message

/-- The records that matter at least as much as `level`. -/
def atLeast (level : Level) (records : List Record) : List Record :=
  records.filter fun r => decide (level.number ≤ r.level.number)

/-- Name of the logger for a name: below the root logger, unless it is that or below it already. -/
def loggerName (name : Text) : Text :=
  if name == rootName || Text.startsWith (rootName ++ ['.']) name then name
  else rootName ++ '.' :: name

/-- What takes the records of a logger: either drops them or shows them on the stream of errors. -/
inductive Handler where
  | silent
  | console
  deriving DecidableEq, Repr

/-- A logger: the number of its level, zero before one is set, and what takes its records. -/
structure Logger where
  level : Nat := 0
  handlers : List Handler := []
  deriving DecidableEq, Repr

/-- The number of a level by its name in capitals. -/
def threshold? (name : Text) : Option Nat :=
  [("DEBUG".toList, 10), ("INFO".toList, 20), ("WARNING".toList, 30), ("WARN".toList, 30),
    ("ERROR".toList, 40), ("CRITICAL".toList, 50), ("FATAL".toList, 50),
    ("NOTSET".toList, 0)].lookup name

/-- No level has this name. -/
structure UnknownLevel where
  name : Text
  deriving DecidableEq, Repr

def UnknownLevel.message (e : UnknownLevel) : Text :=
  "Unknown level: ".toList ++ Text.Quoted.encode e.name

/-- Message about a level that was asked for without a name. -/
def noLevelMessage : Text := "'list' object has no attribute 'upper'".toList

/-- The loggers there are, by name. -/
structure Registry where
  loggers : List (Text × Logger)
  deriving DecidableEq, Repr

namespace Registry

/-- At the start there is the root logger, and its records are dropped. -/
def initial : Registry := ⟨[(rootName, { handlers := [.silent] })]⟩

def find? (r : Registry) (name : Text) : Option Logger := r.loggers.lookup name

/-- Make a logger of this name, unless there is one. -/
def require (r : Registry) (name : Text) : Registry :=
  if (r.find? name).isSome then r else ⟨r.loggers ++ [(name, ({} : Logger))]⟩

/-- Change the logger of this name. -/
def modify (r : Registry) (name : Text) (change : Logger → Logger) : Registry :=
  ⟨r.loggers.map fun entry => if entry.1 == name then (entry.1, change entry.2) else entry⟩

/-- Ask for the logger for a name; the answer is the logger's own name. -/
def get (r : Registry) (name : Text) : Registry × Text :=
  (r.require (loggerName name), loggerName name)

/-- Set the level of the root logger by its name, in small letters or capitals; then take off the
handlers that show its records, and add a new one. The answer is the logger's name. What was done
before a failure stays. -/
def configure (r : Registry) (level : Text) : Registry × Except UnknownLevel Text :=
  let r := r.require rootName
  match threshold? (Text.upper level) with
  | none => (r, .error ⟨Text.upper level⟩)
  | some number =>
    let r := r.modify rootName fun logger => { logger with level := number }
    let r := r.modify rootName fun logger =>
      { logger with handlers := logger.handlers.filter (· != .console) }
    let r := r.modify rootName fun logger =>
      { logger with handlers := logger.handlers ++ [.console] }
    (r, .ok rootName)

end Registry

/-- What can be asked of the loggers. -/
inductive Call where
  | get (name : Text)
  | configure (level : Text)
  deriving DecidableEq, Repr

/-- Carry out a call; the answer is the name of a logger. -/
def Registry.step (r : Registry) : Call → Registry × Except UnknownLevel Text
  | .get name => ((r.get name).1, .ok (r.get name).2)
  | .configure level => r.configure level

end Shorthand.Log
