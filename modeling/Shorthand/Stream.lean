import Shorthand.Log
import Shorthand.Text.Utf8

/-! The input stream of a run, from which the record text is read when no argument gives it. -/
namespace Shorthand

/-- An input stream. Bytes are read as UTF-8, and where `unified` says so with every line end as a
line feed. -/
inductive Stream where
  | absent
  | closed
  | terminal
  | text (s : Text)
  | bytes (unified : Bool) (b : List UInt8)
  | broken (why : Text)
  deriving Repr

namespace Stream

/-- Why a stream gives no text: reading failed, or it was closed before. -/
inductive Fault where
  | unreadable (why : Text)
  | closed
  deriving DecidableEq, Repr

def Fault.message : Fault → Text
  | .unreadable why => "Failed to read DSL from input: ".toList ++ why
  | .closed => "I/O operation on closed file".toList

/-- All that a stream holds; a terminal is not read, so that nobody has to type. Whether a stream is
one is asked first, and a closed stream has no answer. -/
def contents : Stream → Except Fault (Option Text)
  | .absent => .ok none
  | .closed => .error .closed
  | .terminal => .ok none
  | .text s => .ok (some s)
  | .bytes unified b =>
    match Text.Utf8.decode b with
    | .ok s => .ok (some (if unified then Text.unifyNewlines s else s))
    | .error f => .error (.unreadable f.message)
  | .broken why => .error (.unreadable why)

/-- The record text on a stream, without the blank space around it. -/
def recordText (stream : Stream) : Except Fault Text :=
  stream.contents.map fun s => Text.trim (s.getD [])

/-- What is logged about reading a stream. -/
def log (stream : Stream) : List Log.Record :=
  match stream.contents with
  | .ok none => [⟨.debug, .files, "No piped input available".toList⟩]
  | .ok (some s) => [⟨.debug, .files,
      "Read ".toList ++ Text.ofNat s.length ++ " characters of DSL from input stream".toList⟩]
  | .error (.unreadable why) =>
    [⟨.error, .files, "Failed to read DSL from input stream: ".toList ++ why⟩]
  | .error .closed => []

end Stream
end Shorthand
