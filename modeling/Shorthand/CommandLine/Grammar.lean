import Shorthand.Text.Digit
import Shorthand.Text.Quoted

/-! Arguments of a command: options, their values, and words. An option may be shortened as long as
it stays the only one, a value may be joined to its option by an equals sign, and one-letter
options may share a hyphen. The rules are those of the parser of release 3.11 as it was before 3.11.10:
two hyphens joined to an option, as in `--mode=--`, leave it without a value, and a letter behind a flag
that names no option, as in `-vx`, is refused as a value of the flag. -/
namespace Shorthand.CommandLine

/-- Why the value of an option is refused. -/
inductive ValueFault where
  | choice (value : Text) (choices : List Text)
  | integer (value : Text)
  deriving DecidableEq, Repr

/-- What an option does: it ends the run with a text, is a flag, or takes a value. Two hyphens
joined to an option stand for no value, for which there is a setting too. -/
inductive Action (σ : Type) where
  | help
  | version
  | flag (setting : σ)
  | value (read : Text → Except ValueFault σ) (without : σ)

/-- An option: its names and what it does. -/
structure Declared (σ : Type) where
  names : List Text
  action : Action σ

/-- Why arguments are refused. -/
inductive Fault where
  | ambiguous (argument : Text) (candidates : List Text)
  | missingValue (names : List Text)
  | ignoredValue (names : List Text) (value : Text)
  | badValue (names : List Text) (fault : ValueFault)
  | unrecognized (arguments : List Text)
  deriving DecidableEq, Repr

namespace Fault

/-- The option that a fault is about. -/
def about (names : List Text) (what : Text) : Text :=
  "argument ".toList ++ Text.join ['/'] names ++ ": ".toList ++ what

def message : Fault → Text
  | .ambiguous argument candidates => "ambiguous option: ".toList ++ argument ++
      " could match ".toList ++ Text.join ", ".toList candidates
  | .missingValue names => about names "expected one argument".toList
  | .ignoredValue names value =>
    about names ("ignored explicit argument ".toList ++ Text.Quoted.encode value)
  | .badValue names (.choice value choices) => about names ("invalid choice: ".toList ++
      Text.Quoted.encode value ++ " (choose from ".toList ++
      Text.join ", ".toList (choices.map Text.Quoted.encode) ++ ")".toList)
  | .badValue names (.integer value) =>
    about names ("invalid int value: ".toList ++ Text.Quoted.encode value)
  | .unrecognized arguments =>
    "unrecognized arguments: ".toList ++ Text.join [' '] arguments

end Fault

/-- Why a run ends while its arguments are read. -/
inductive Stop where
  | help
  | version
  | fault (f : Fault)
  deriving DecidableEq, Repr

/-- The kinds of arguments. -/
inductive Argument (σ : Type) where
  | word (s : Text)
  | dashes
  | option (declared : Declared σ) (name : Text) (value : Option Text)
  | unknown (s : Text)

variable {σ : Type}

/-- The option with exactly this name. -/
def named? (options : List (Declared σ)) (name : Text) : Option (Declared σ) :=
  options.find? (·.names.contains name)

/-- The parts before and after the first equals sign. -/
def splitValue (s : Text) : Text × Option Text :=
  match s.dropWhile (· != '=') with
  | [] => (s, none)
  | _ :: value => (s.takeWhile (· != '='), some value)

/-- The options that a name may be short for, in the order of their declaration. After one hyphen
only the first letter names the option, and the rest is its value. -/
def candidates (options : List (Declared σ)) (s : Text) :
    List (Declared σ × Text × Option Text) :=
  options.flatMap fun o => o.names.filterMap fun name =>
    if Text.startsWith "--".toList s then
      if Text.startsWith (splitValue s).1 name then some (o, name, (splitValue s).2) else none
    else if name == s.take 2 then some (o, name, some (s.drop 2))
    else if Text.startsWith s name then some (o, name, none)
    else none

/-- A negative number, whole or with a point; a line feed may follow. -/
def isNegativeNumber (s : Text) : Bool :=
  match s with
  | '-' :: t =>
    let t := if Text.endsIn '\n' t then t.dropLast else t
    match t.splitOnP (· == '.') with
    | [whole] => Text.isDigits whole
    | [whole, places] => (whole.isEmpty || Text.isDigits whole) && Text.isDigits places
    | _ => false
  | _ => false

/-- Tell options from words. An argument that starts with a hyphen is an option, unless it is a
hyphen alone, a negative number, or has a space in it and is no option that is declared. -/
def classify (options : List (Declared σ)) (s : Text) : Except Fault (Argument σ) :=
  if s.head? != some '-' then .ok (.word s)
  else match named? options s with
    | some o => .ok (.option o s none)
    | none =>
      if s.length == 1 then .ok (.word s)
      else match (splitValue s).2, named? options (splitValue s).1 with
        | some value, some o => .ok (.option o (splitValue s).1 (some value))
        | _, _ =>
          match candidates options s with
          | [(o, name, value)] => .ok (.option o name value)
          | [] => .ok (if isNegativeNumber s || s.contains ' ' then .word s else .unknown s)
          | many => .error (.ambiguous s (many.map fun m => m.2.1))

/-- The kinds of all arguments; after two hyphens there are only words. -/
def classifyAll (options : List (Declared σ)) : List Text → Except Fault (List (Argument σ))
  | [] => .ok []
  | s :: rest =>
    if s == "--".toList then .ok (.dashes :: rest.map .word)
    else match classify options s with
      | .error f => .error f
      | .ok a => (classifyAll options rest).map (a :: ·)

def takesValue (o : Declared σ) : Bool :=
  match o.action with
  | .value _ _ => true
  | _ => false

/-- The options that share a hyphen: those that take no value, and the last with what is left. -/
def cluster (options : List (Declared σ)) (o : Declared σ) (short : Bool) :
    (value : Text) → Except Fault (List (Declared σ) × Declared σ × Option Text)
  | [] => if takesValue o then .ok ([], o, some []) else .error (.ignoredValue o.names [])
  | c :: rest =>
    if takesValue o then .ok ([], o, some (c :: rest))
    else if short then
      match named? options ['-', c] with
      | none => .error (.ignoredValue o.names (c :: rest))
      | some next =>
        if rest.isEmpty then .ok ([o], next, none)
        else (cluster options next true rest).map fun r => (o :: r.1, r.2)
    else .error (.ignoredValue o.names (c :: rest))

/-- Names with one hyphen are short. -/
def isShort (name : Text) : Bool := name.drop 1 |>.head?.any (· != '-')

/-- What the arguments say, as far as they are read. -/
structure Scan (σ : Type) where
  settings : List σ := []
  words : List Text := []
  extras : List Text := []

/-- Carry out an option that takes no value. -/
def carryOut (scan : Scan σ) (o : Declared σ) : Except Stop (Scan σ) :=
  match o.action with
  | .help => .error .help
  | .version => .error .version
  | .flag setting => .ok { scan with settings := scan.settings ++ [setting] }
  | .value _ _ => .error (.fault (.missingValue o.names))

/-- Carry out an option with its value. -/
def carryOutWith (scan : Scan σ) (o : Declared σ) (value : Text) : Except Stop (Scan σ) :=
  match o.action with
  | .value read without =>
    match if value == "--".toList then .ok without else read value with
    | .ok setting => .ok { scan with settings := scan.settings ++ [setting] }
    | .error f => .error (.fault (.badValue o.names f))
  | _ => .error (.fault (.ignoredValue o.names value))

/-- What becomes of words: they are left over; they are left over but two hyphens in front of them
are dropped; the first run of them is taken; or they belong to the run being taken. -/
inductive Taking where
  | none
  | hyphens
  | run
  | running
  deriving DecidableEq, Repr

/-- An option ends a run of words. -/
def Taking.afterOption : Taking → Taking
  | .running => .none
  | taking => taking

/-- Read arguments of known kinds in order. -/
def scanFrom (options : List (Declared σ)) (taking : Taking) (scan : Scan σ) :
    List (Argument σ) → Except Stop (Scan σ)
  | [] => .ok scan
  | .word s :: rest =>
    match taking with
    | .none | .hyphens => scanFrom options .none { scan with extras := scan.extras ++ [s] } rest
    | .run | .running => scanFrom options .running { scan with words := scan.words ++ [s] } rest
  | .dashes :: rest =>
    match taking with
    | .none => scanFrom options .none { scan with extras := scan.extras ++ ["--".toList] } rest
    | .hyphens => scanFrom options .none scan rest
    | .run | .running => scanFrom options .running scan rest
  | .unknown s :: rest =>
    scanFrom options taking.afterOption { scan with extras := scan.extras ++ [s] } rest
  | .option o name value :: rest =>
    let grouped := match value with
      | some value => cluster options o (isShort name) value
      | none => .ok ([], o, none)
    match grouped with
    | .error f => .error (.fault f)
    | .ok (flags, last, value) =>
      match value with
      | some value =>
        match flags.foldlM carryOut scan >>= fun scan => carryOutWith scan last value with
        | .error stop => .error stop
        | .ok scan => scanFrom options taking.afterOption scan rest
      | none =>
        if takesValue last then
          match rest with
          | .word value :: rest =>
            match flags.foldlM carryOut scan >>= fun scan => carryOutWith scan last value with
            | .error stop => .error stop
            | .ok scan => scanFrom options taking.afterOption scan rest
          | _ => .error (.fault (.missingValue last.names))
        else
          match flags.foldlM carryOut scan >>= fun scan => carryOut scan last with
          | .error stop => .error stop
          | .ok scan => scanFrom options taking.afterOption scan rest

/-- Read arguments in order. -/
def scan (options : List (Declared σ)) (taking : Taking) (arguments : List Text) :
    Except Stop (Scan σ) :=
  match classifyAll options arguments with
  | .error f => .error (.fault f)
  | .ok kinds => scanFrom options taking {} kinds

/-- Nothing may be left over. -/
def complete (scan : Scan σ) : Except Stop (List σ × List Text) :=
  if scan.extras.isEmpty then .ok (scan.settings, scan.words)
  else .error (.fault (.unrecognized scan.extras))

/-- Read the arguments of a command that takes no words. -/
def readOptions (options : List (Declared σ)) (arguments : List Text) : Except Stop (List σ) := do
  return (← complete (← scan options .none arguments)).1

/-- Read the arguments of a command that takes words. The options are taken out first; of what is
left, the first run of words is taken. -/
def readMixed (options : List (Declared σ)) (arguments : List Text) :
    Except Stop (List σ × List Text) := do
  let first ← scan options .hyphens arguments
  let second ← scan options .run first.extras
  complete { second with settings := first.settings ++ second.settings }

end Shorthand.CommandLine
