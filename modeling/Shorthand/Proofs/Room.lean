import Shorthand.CommandLine.Reach
import Shorthand.Proofs.Bundle
import Shorthand.Service.Routes

/-! Room on the stack. Arrays in arrays, brackets in JSON and folders that have to be made for folders are
worked through by calls within calls. How many of these there is room for is up to the machine and not
to the program, so what is said about every ending of a run and about every answer is said for input
that does not nest more than there is room for. Brackets are counted where they open, whether or not
they stand within each other. -/
namespace Shorthand
open Text

/-- There is room for so many calls within each other. -/
def stackRoom : Nat := 500

/-- A bracket that opens an array, in a record text or in JSON, or an object. -/
def isOpening (c : Char) : Bool := c == '[' || c == '{'

/-- A byte of such a bracket, whichever encoding the bytes are in. -/
def isOpeningByte (b : UInt8) : Bool := isOpening (.ofNat b.toNat)

/-- There is room for the types of a record text, and its items can be numbered. -/
structure Text.HasRoom (s : Text) : Prop where
  size : s.length ≤ 10 ^ mostDigits
  arrays : s.countP isOpening ≤ stackRoom

/-- There is room for the JSON in these bytes. -/
def BytesFit (bytes : List UInt8) : Prop := bytes.countP isOpeningByte ≤ stackRoom

/-- There is room for the JSON in a file, if it can be read. -/
def Disk.HasRoom (disk : Disk) (path : Path) : Prop := ∀ bytes, disk.read path = .ok bytes → BytesFit bytes

/-- What a run is granted: a clock in universal time, a current folder whose name is free of zero bytes,
and room for the record text, the options file and the folders to be made. -/
structure CommandLine.Session.Granted (s : Session) (i : Invocation) : Prop where
  clock : s.now.IsUniversal
  folder : ∀ step ∈ s.disk.cwd, Char.ofNat 0 ∉ step
  text : (recordText i s.stdin).HasRoom
  options : s.disk.HasRoom (Path.ofText i.config)
  outdir : ∀ outdir ∈ i.outdir, (Path.ofText outdir).steps.length ≤ stackRoom

/-- What an answer is granted: a clock in universal time, and room for the body and for the record text
in it. -/
structure Service.Request.Granted (r : Request) (now : Moment) : Prop where
  clock : now.IsUniversal
  body : BytesFit r.body
  text : ∀ lone, (readOrder lone r.body).text.HasRoom

/-- There is room for every short text. -/
lemma Text.hasRoom_of_length_le {s : Text} (h : s.length ≤ stackRoom) : s.HasRoom where
  size := by
    have hpower : mostDigits < 10 ^ mostDigits := Nat.lt_pow_self (by decide)
    exact (h.trans (by decide : stackRoom ≤ mostDigits)).trans hpower.le
  arrays := List.countP_le_length.trans h

lemma bytesFit_of_length_le {bytes : List UInt8} (h : bytes.length ≤ stackRoom) : BytesFit bytes :=
  List.countP_le_length.trans h

end Shorthand
