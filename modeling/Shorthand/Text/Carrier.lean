import Shorthand.Text.Basic

/-! Surrogates without their partner are no characters, and a text cannot hold them. Where one has
to be carried along, a character from a block that the text does not use stands for it, so that
lengths and places stay as they are. -/
namespace Shorthand.Text

/-- A block of characters, one for each surrogate, that starts at a code point. -/
structure Carrier where
  start : Nat
  deriving DecidableEq, Repr

namespace Carrier

/-- The number of surrogates. -/
def size : Nat := 0x800

/-- The blocks to choose from: all of the planes without assigned characters. -/
def all : List Carrier := (List.range 320).map fun k => ⟨0x40000 + size * k⟩

def holds (k : Carrier) (c : Char) : Bool := k.start ≤ c.toNat && c.toNat < k.start + size

/-- The first block that a text does not use. -/
def free? (s : Text) : Option Carrier := all.find? fun k => !s.any k.holds

/-- What stands for a surrogate. -/
def stand (k : Option Carrier) (surrogate : Nat) : Char :=
  match k with
  | some k => Char.ofNat (k.start + (surrogate - 0xD800))
  | none => replacement

/-- The surrogate that a character of the block stands for. -/
def surrogate (k : Carrier) (c : Char) : Nat := 0xD800 + (c.toNat - k.start)

end Carrier

/-- Adjacent surrogates in a text that is to be written as UTF-8. -/
structure Unencodable where
  position : Nat
  surrogates : List Nat
  deriving DecidableEq, Repr

/-- One surrogate is shown by its value and position, several by their positions. -/
def Unencodable.message (u : Unencodable) : Text :=
  let subject := match u.surrogates with
    | [n] => "character '\\u".toList ++ hex 4 n ++ "' in position ".toList ++ ofNat u.position
    | ns => "characters in position ".toList ++ ofNat u.position ++ "-".toList ++
        ofNat (u.position + ns.length - 1)
  "'utf-8' codec can't encode ".toList ++ subject ++ ": surrogates not allowed".toList

/-- The first surrogates that a text carries, if there are any. -/
def Carrier.unencodable? (k : Option Carrier) (s : Text) : Option Unencodable :=
  k.bind fun k =>
    match s.dropWhile (!k.holds ·) with
    | [] => none
    | rest =>
      some ⟨(s.takeWhile (!k.holds ·)).length, (rest.takeWhile k.holds).map k.surrogate⟩

end Shorthand.Text
