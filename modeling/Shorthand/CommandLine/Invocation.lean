import Shorthand.Bundle.Render
import Shorthand.CommandLine.Grammar
import Shorthand.Log
import Shorthand.Text.Lowercase

/-! The options of the command, and what a run is asked to do. -/
namespace Shorthand.CommandLine

/-- Artifacts that can be written to files, in the order in which they are written. -/
inductive Output where
  | type
  | interface
  | zod
  deriving DecidableEq, Repr

def Output.list : List Output := [.type, .interface, .zod]

def Output.name : Output → Text
  | .type => "type".toList
  | .interface => "interface".toList
  | .zod => "zod".toList

/-- The text of an artifact, if it was made. -/
def Output.textOf (b : Bundle) : Output → Option Text
  | .type => some b.typeText
  | .interface => b.interfaceText
  | .zod => b.zodText

/-- What one argument asks for. The folder and the level may be left without a value. -/
inductive Setting where
  | mode (m : Bundle.Mode)
  | write (o : Output)
  | outdir (path : Option Text)
  | dryRun
  | turn (s : Options.Switch) (on : Bool)
  | config (file : Text)
  | logLevel (level : Option Log.Level)
  deriving DecidableEq, Repr

/-- Read a value that must be one of several names. -/
def oneOf {α : Type} (choices : List α) (name : α → Text) (use : α → Setting) (value : Text) :
    Except ValueFault Setting :=
  match choices.find? (name · == value) with
  | some a => .ok (use a)
  | none => .error (.choice value (choices.map name))

/-- The options of the command, in the order in which they are told apart. -/
def options : List (Declared Setting) :=
  [⟨["-h".toList, "--help".toList], .help⟩,
   ⟨["-v".toList, "--version".toList], .version⟩,
   ⟨["--mode".toList], .value (oneOf Bundle.Mode.list Bundle.Mode.name .mode) (.mode .type)⟩,
   ⟨["--type".toList], .flag (.write .type)⟩,
   ⟨["--interface".toList], .flag (.write .interface)⟩,
   ⟨["--zod".toList], .flag (.write .zod)⟩,
   ⟨["--outdir".toList], .value (.ok ∘ .outdir ∘ some) (.outdir none)⟩,
   ⟨["--dry-run".toList], .flag .dryRun⟩,
   ⟨["--strict".toList], .flag (.turn .strictZod true)⟩,
   ⟨["--optional-by-default".toList], .flag (.turn .optionalByDefault true)⟩,
   ⟨["--no-zod".toList], .flag (.turn .zod false)⟩,
   ⟨["--no-interface".toList], .flag (.turn .interface false)⟩,
   ⟨["--no-example".toList], .flag (.turn .sample false)⟩,
   ⟨["--config".toList], .value (.ok ∘ .config) (.config [])⟩,
   ⟨["--log-level".toList],
     .value (oneOf Log.Level.list Log.Level.name (.logLevel ∘ some)) (.logLevel none)⟩]

/-- What a run is asked to do. A folder or a level that was asked for without a value is `none`. -/
structure Invocation where
  words : List Text := []
  mode : Option Bundle.Mode := none
  writes : List Output := []
  outdir : Option Text := some "./core".toList
  dryRun : Bool := false
  turns : List (Options.Switch × Bool) := []
  config : Text := []
  logLevel : Option (Option Log.Level) := none
  deriving DecidableEq

namespace Invocation

/-- Follow one setting; the last of several that exclude each other counts. -/
def follow (i : Invocation) : Setting → Invocation
  | .mode m => { i with mode := some m }
  | .write o => { i with writes := i.writes ++ [o] }
  | .outdir path => { i with outdir := path }
  | .dryRun => { i with dryRun := true }
  | .turn s on => { i with turns := i.turns ++ [(s, on)] }
  | .config file => { i with config := file }
  | .logLevel level => { i with logLevel := some level }

def ofSettings (settings : List Setting) (words : List Text) : Invocation :=
  settings.foldl follow { words }

/-- What the arguments ask for. -/
def ofArguments (arguments : List Text) : Except Stop Invocation :=
  (readMixed CommandLine.options arguments).map fun r => ofSettings r.1 r.2

/-- The record text that the words spell. -/
def text (i : Invocation) : Text := Text.trim (Text.join [' '] i.words)

/-- The artifacts to write. -/
def requested (i : Invocation) : List Output := Output.list.filter (i.writes.contains ·)

/-- The switches turned by arguments, as named values. -/
def overrides (i : Invocation) : Json :=
  .obj (Json.ofPairs (i.turns.map fun t => (t.1.names.headD [], .bool t.2)))

end Invocation

/-- The level given in the environment, if it is one, else warnings. -/
def defaultLevel (environment : Option Text) : Log.Level :=
  match environment with
  | some name => (Log.Level.ofName? (Text.lower name)).getD .warning
  | none => .warning

end Shorthand.CommandLine
