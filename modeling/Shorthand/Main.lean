import Shorthand.CommandLine.Reach
import Std.Time.DateTime.Timestamp

/-! The command as a program. It takes a picture of the part of the disk that the run can reach,
runs, and carries over to the disk what the run changed. -/
namespace Shorthand.Main

/-- A place as the operating system writes it. -/
def nativePath (place : Place) : String :=
  "/" ++ String.intercalate "/" (place.map String.ofList)

/-- What is at a place in a folder. -/
def look (place : Place) : IO (Option Entry) := do
  try
    return some (.file (← IO.FS.readBinFile (nativePath place)).toList)
  catch
    | .inappropriateType .. => return some .folder
    | _ => return none

/-- The disk as far as the places show it. -/
def picture (cwd : Place) (places : List Place) : IO Disk := do
  let mut disk : Disk := { cwd, entries := [] }
  for place in places do
    if disk.entry? place.dropLast == some .folder && (disk.entry? place).isNone then
      if let some entry ← look place then
        disk := disk.put place entry
  return disk

/-- Carry over to the disk what changed. -/
def carryOver (before after : Disk) : IO Unit := do
  for (place, entry) in after.entries do
    if before.entry? place != some entry then
      match entry with
      | .folder => IO.FS.createDir (nativePath place)
      | .file bytes => IO.FS.writeBinFile (nativePath place) ⟨bytes.toArray⟩

/-- All bytes of a stream. -/
partial def drain (stream : IO.FS.Stream) (soFar : ByteArray) : IO ByteArray := do
  let chunk ← stream.read 65536
  if chunk.isEmpty then return soFar else drain stream (soFar ++ chunk)

/-- The input stream, which is read only if the arguments hold no record text. -/
def input (i : CommandLine.Invocation) : IO Stream := do
  let stdin ← IO.getStdin
  if !i.text.isEmpty then return .absent
  else if ← stdin.isTty then return .terminal
  else try
    return .bytes false (← drain stdin .empty).toList
  catch e => return .broken e.toString.toList

/-- The present moment. -/
def now : IO Moment := do
  let t ← Std.Time.Timestamp.now
  return .ofEpoch (t.toNanosecondsSinceUnixEpoch.val.toNat / 1000)

end Shorthand.Main

open Shorthand CommandLine Main in
/-- Run the command with the arguments of the process. -/
def main (arguments : List String) : IO UInt32 := do
  let arguments := arguments.map String.toList
  let cwd := Text.fragments (· == '/') (← IO.currentDir).toString.toList
  let (stdin, places) ← match Invocation.ofArguments arguments with
    | .error _ => pure (Stream.absent, [])
    | .ok i => do
      let stdin ← input i
      pure (stdin, reach i stdin cwd)
  let before ← picture cwd places
  let logLevel := (← IO.getEnv "AUTOTYPER_LOG_LEVEL").map String.toList
  let outcome := run { arguments, stdin, logLevel, now := ← now, disk := before }
  carryOver before outcome.disk
  for record in outcome.log do
    IO.eprintln (String.ofList record.line)
  IO.print (String.ofList outcome.stdout)
  IO.eprint (String.ofList outcome.stderr)
  match outcome.ending with
  | .status code => return code.toUInt32
  | .escaped e =>
    IO.eprintln (String.ofList e.message)
    return 1
