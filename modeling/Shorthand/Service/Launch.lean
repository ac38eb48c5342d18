import Shorthand.CommandLine.Grammar
import Shorthand.CommandLine.Usage
import Shorthand.Log

/-! Starting the service from its command line. -/
namespace Shorthand.Service

open CommandLine (Declared Stop ValueFault)

/-- Where to serve, and how much to log. What was asked for without a value is `none`. -/
structure Listen where
  host : Option Text := some "127.0.0.1".toList
  port : Option Int := some 3000
  logLevel : Option Log.Level := some .info
  deriving DecidableEq, Repr

/-- What one argument asks for. -/
inductive Setting where
  | host (h : Option Text)
  | port (n : Option Int)
  | logLevel (level : Option Log.Level)
  deriving DecidableEq, Repr

def readPort (value : Text) : Except ValueFault Setting :=
  match Text.readInt? value with
  | some n => .ok (.port (some n))
  | none => .error (.integer value)

def readLevel (value : Text) : Except ValueFault Setting :=
  match Log.Level.ofName? value with
  | some level => .ok (.logLevel (some level))
  | none => .error (.choice value (Log.Level.list.map Log.Level.name))

/-- The options of the server. -/
def options : List (Declared Setting) :=
  [⟨["-h".toList, "--help".toList], .help⟩,
   ⟨["--host".toList], .value (.ok ∘ .host ∘ some) (.host none)⟩,
   ⟨["--port".toList], .value readPort (.port none)⟩,
   ⟨["--log-level".toList], .value readLevel (.logLevel none)⟩]

/-- Follow one setting. -/
def Listen.follow (l : Listen) : Setting → Listen
  | .host h => { l with host := h }
  | .port n => { l with port := n }
  | .logLevel level => { l with logLevel := level }

/-- A failure that starting the server does not report but passes on. -/
inductive Launch.Escape where
  | noLevel
  | noPort
  deriving DecidableEq, Repr

def Launch.Escape.message : Launch.Escape → Text
  | .noLevel => Log.noLevelMessage
  | .noPort => "%d format: a real number is required, not list".toList

/-- What comes of starting the server. -/
inductive Launch.Ending where
  | exit (code : Nat)
  | serving (listen : Listen) (logLevel : Log.Level)
  | escaped (escape : Launch.Escape)
  deriving DecidableEq, Repr

/-- What starting the server leaves behind. -/
structure Launch where
  ending : Launch.Ending
  stdout : Text := []
  stderr : Text := []
  log : List Log.Record := []

/-- The message about where the server starts, which needs a port. -/
def started? (listen : Listen) : Option Log.Record :=
  listen.port.map fun port => ⟨.info, .launch, "Starting HTTP server on http://".toList ++
    listen.host.getD "[]".toList ++ ':' :: Text.ofInt port⟩

/-- Serve, after a message about it if the level asks for one. -/
def serve (listen : Listen) (level : Log.Level) : Launch :=
  match started? listen with
  | some record => { ending := .serving listen level, log := Log.atLeast level [record] }
  | none =>
    if level.number ≤ Log.Level.info.number then { ending := .escaped .noPort }
    else { ending := .serving listen level }

/-- Start the server. -/
def launch (arguments : List Text) : Launch :=
  match CommandLine.readOptions options arguments with
  | .error .help => { ending := .exit 0, stdout := CommandLine.serverHelp }
  | .error .version => { ending := .exit 0, stdout := CommandLine.versionLine }
  | .error (.fault f) =>
    { ending := .exit 2
      stderr := CommandLine.serverUsage ++ CommandLine.serverName ++ ": error: ".toList ++
        f.message ++ ['\n'] }
  | .ok settings =>
    let listen := settings.foldl Listen.follow {}
    match listen.logLevel with
    | some level => serve listen level
    | none => { ending := .escaped .noLevel }

end Shorthand.Service
