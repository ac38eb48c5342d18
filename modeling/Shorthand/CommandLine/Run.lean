import Shorthand.Bundle.Journal
import Shorthand.CommandLine.Completion
import Shorthand.CommandLine.Invocation
import Shorthand.Console
import Shorthand.Options.File
import Shorthand.Stream

/-! A run of the command: from arguments, input stream, clock and disk to what is printed, logged
and written. -/
namespace Shorthand.CommandLine

/-- What a run finds. Its arguments are text: one with bytes that make no character is not among them. -/
structure Session where
  arguments : List Text
  stdin : Stream := .text []
  logLevel : Option Text := none
  now : Moment
  disk : Disk

/-- A failure that the run does not report but passes on. -/
inductive Escape where
  | undecodable (fault : Text.Utf8.Fault)
  | longInteger (integer : Json.LongInteger)
  | closedStream
  | clock (fault : Moment.Fault)
  | zeroByte
  | noFolder
  | noLevel
  deriving DecidableEq, Repr

def Escape.message : Escape → Text
  | .undecodable fault => fault.message
  | .longInteger integer => integer.message
  | .closedStream => Stream.Fault.closed.message
  | .clock fault => fault.message
  | .zeroByte => Disk.Cause.zeroByte.words
  | .noFolder => "expected str, bytes or os.PathLike object, not list".toList
  | .noLevel => Log.noLevelMessage

/-- How a run ends. -/
inductive Ending where
  | status (code : Nat)
  | escaped (escape : Escape)
  deriving DecidableEq, Repr

/-- What a run leaves behind. -/
structure Outcome where
  ending : Ending
  stdout : Text := []
  stderr : Text := []
  log : List Log.Record := []
  disk : Disk

/-- Why a run cannot do what it is asked to. -/
inductive Failure where
  | unreadable (problem : Dialect.Problem)
  | refused (message : Text)
  | disk (fault : Disk.Fault)
  | escape (e : Escape)
  deriving DecidableEq, Repr

namespace Failure

def ofBundle : Bundle.Fault → Failure
  | .unreadable problem => .unreadable problem
  | .clock fault => .escape (.clock fault)

def ofDisk (fault : Disk.Fault) : Failure :=
  if fault.cause = .zeroByte then .escape .zeroByte else .disk fault

def ofOptions : Options.Fault → Failure
  | .undecodable fault => .escape (.undecodable fault)
  | .longInteger integer => .escape (.longInteger integer)
  | .unreachable fault => .ofDisk fault
  | fault => .refused fault.message

def ofStream : Stream.Fault → Failure
  | .closed => .escape .closedStream
  | fault => .refused fault.message

def ending : Failure → Ending
  | .escape e => .escaped e
  | _ => .status 1

def log : Failure → List Log.Record
  | .unreadable problem =>
    [⟨.info, .commandLine, "DSL error: ".toList ++ problem.fault.message⟩]
  | .refused message => [⟨.info, .commandLine, "Generation failed: ".toList ++ message⟩]
  | .disk _ => [⟨.debug, .commandLine, "File error".toList⟩]
  | .escape _ => []

end Failure

/-- A line with a label, for error messages. -/
def labelled (label message : Text) : Text := Console.line (label ++ Console.protect message)

def errorLine (message : Text) : Text := labelled "Error: ".toList message

/-- What is printed about a text that cannot be read. -/
def reportLines (r : Dialect.Report) : Text :=
  let hint := match r.hint with
    | some hint => if hint.isEmpty then [] else labelled "Hint: ".toList hint
    | none => []
  let place := match r.index, r.token with
    | some index, some token =>
      if token.isEmpty then []
      else labelled [] ("At token[".toList ++ Text.ofInt index ++ "]: ".toList ++ token)
    | _, _ => []
  errorLine r.message ++ hint ++ place

def Failure.stderr : Failure → Text
  | .unreadable problem => reportLines problem.report
  | .refused message => errorLine message
  | .disk fault => errorLine fault.message
  | .escape _ => []

/-- What a run has done so far. -/
structure Progress where
  disk : Disk
  stdout : Text := []
  log : List Log.Record := []

def Progress.note (p : Progress) (records : List Log.Record) : Progress :=
  { p with log := p.log ++ records }

def Progress.print (p : Progress) (text : Text) : Progress :=
  { p with stdout := p.stdout ++ Console.line text }

/-- The folder for the files of a run. It is looked up even when there are none. -/
def outputFolder (i : Invocation) (cwd : Place) : Except Escape Path :=
  match i.outdir with
  | none => .error .noFolder
  | some outdir =>
    let path := Path.ofText outdir
    if path.hasZero then .error .zeroByte else .ok (path.resolve cwd)

/-- The path of the file for an artifact of a record. -/
def outputPath (folder : Path) (name : Text) (o : Output) : Path :=
  folder.child (Artifact.fileName name o.name)

/-- Write artifacts one after another, or only say so in a dry run, until one was not made or cannot
be written. -/
def emit (dryRun : Bool) (folder : Path) (b : Bundle) (p : Progress) :
    List Output → Progress × Option Failure
  | [] => (p, none)
  | o :: rest =>
    let path := outputPath folder b.record.name o
    match o.textOf b with
    | none =>
      (p, some (.refused ("No ".toList ++ o.name ++ " output (did you disable it?)".toList)))
    | some text =>
      if dryRun then
        emit dryRun folder b (p.note [⟨.info, .commandLine,
          "Dry run, skipping write of ".toList ++ path.text⟩]) rest
      else match p.disk.write path text with
        | (disk, some fault) => ({ p with disk }, some (.ofDisk fault))
        | (disk, none) =>
          let p := { p with disk }
          emit dryRun folder b (p.note [⟨.info, .files, "Wrote ".toList ++ path.text⟩]) rest

/-- What is printed about a written file. -/
def emittedLine (i : Invocation) (path : Path) : Text :=
  (if i.dryRun then "[dry-run] ".toList else "Wrote ".toList) ++ path.text

/-- Print a bundle. Written files take the place of the output unless a mode is asked for. -/
def printBundle (i : Invocation) (b : Bundle) (p : Progress) : Progress × Option Failure :=
  if !i.requested.isEmpty && i.mode.isNone then (p, none)
  else
    let mode := i.mode.getD .type
    let text := b.render mode
    if text.isEmpty then
      (p, some (.refused ("Mode \"".toList ++ mode.name ++
        "\" produced empty output. (Maybe disabled with --no-zod/--no-interface?)".toList)))
    else (p.print (Text.dropFinalNewlines text), none)

/-- Write and print a bundle. -/
def deliver (i : Invocation) (b : Bundle) (p : Progress) : Progress × Option Failure :=
  match outputFolder i p.disk.cwd with
  | .error e => (p, some (.escape e))
  | .ok folder =>
    match emit i.dryRun folder b p i.requested with
    | (p, some failure) => (p, some failure)
    | (p, none) =>
      let paths := i.requested.map (outputPath folder b.record.name)
      printBundle i b (paths.foldl (fun p path => p.print (emittedLine i path)) p)

/-- Generate code from a record text. -/
def generate (i : Invocation) (s : Session) (text : Text) (p : Progress) :
    Progress × Option Failure :=
  let p := p.note (Options.loadLog p.disk i.config i.overrides)
  match Options.load {} p.disk i.config i.overrides with
  | .error fault => (p, some (.ofOptions fault))
  | .ok options =>
    let p := p.note (⟨.info, .commandLine, "Generating from DSL: ".toList ++ text⟩ ::
      Bundle.log options (.present s.now) text)
    match Bundle.build options (.present s.now) text with
    | .error fault => (p, some (.ofBundle fault))
    | .ok b => deliver i b p

/-- End a run that did all it was asked to, or failed. -/
def finish : Progress × Option Failure → Outcome
  | (p, none) => { ending := .status 0, stdout := p.stdout, log := p.log, disk := p.disk }
  | (p, some failure) =>
    { ending := failure.ending, stdout := p.stdout, stderr := failure.stderr,
      log := p.log ++ failure.log, disk := p.disk }

/-- Print the completion script of a shell. -/
def printCompletion (disk : Disk) (shell : Option Text) : Outcome :=
  match Shell.ofName? (shell.getD []) with
  | some shell =>
    { ending := .status 0, stdout := Console.line (Text.dropFinalNewlines shell.script), disk }
  | none => { ending := .status 1, stderr := Console.line completionUsage, disk }

/-- Run with the record text from the words or, without words, from the input stream. -/
def proceed (i : Invocation) (s : Session) : Outcome :=
  let p : Progress := { disk := s.disk }
  if !i.text.isEmpty then finish (generate i s i.text p)
  else
    let p := p.note s.stdin.log
    match s.stdin.recordText with
    | .error fault => finish (p, some (.ofStream fault))
    | .ok [] =>
      { ending := .status 1, stdout := help, stderr := errorLine "No DSL provided.".toList,
        log := p.log, disk := p.disk }
    | .ok text => finish (generate i s text p)

/-- End a run whose arguments are not followed. -/
def stopped (disk : Disk) : Stop → Outcome
  | .help => { ending := .status 0, stdout := help, disk }
  | .version => { ending := .status 0, stdout := versionLine, disk }
  | .fault f =>
    { ending := .status 2
      stderr := usage ++ commandName ++ ": error: ".toList ++ f.message ++ ['\n']
      disk }

/-- Run the command. -/
def run (s : Session) : Outcome :=
  match Invocation.ofArguments s.arguments with
  | .error stop => stopped s.disk stop
  | .ok i =>
    match i.logLevel.getD (some (defaultLevel s.logLevel)) with
    | none => { ending := .escaped .noLevel, disk := s.disk }
    | some level =>
      let outcome :=
        if i.words.head? == some "completion".toList then printCompletion s.disk i.words[1]?
        else proceed i s
      { outcome with log := Log.atLeast level outcome.log }

end Shorthand.CommandLine
