import Shorthand.Text.Basic

/-! Tables of code points: classes given by ranges, and case maps given by regular shifts. -/
namespace Shorthand.Text

/-- The code point of `c` lies in one of the ranges, both ends included. -/
def inRanges (ranges : List (Nat × Nat)) (c : Char) : Bool :=
  ranges.any fun r => r.1 ≤ c.toNat && c.toNat ≤ r.2

/-- Every `step`-th code point from `first` to `last` maps to the one `shift` further on. -/
structure CaseShift where
  first : Nat
  last : Nat
  step : Nat
  shift : Int
  deriving Repr

namespace CaseShift

/-- The row speaks about this code point. -/
def covers (row : CaseShift) (n : Nat) : Bool :=
  row.first ≤ n && n ≤ row.last && (n - row.first) % row.step == 0

/-- Follow the first row that covers the character; leave all others alone. -/
def apply (rows : List CaseShift) (c : Char) : Char :=
  match rows.find? (·.covers c.toNat) with
  | some row => Char.ofNat (c.toNat + row.shift).toNat
  | none => c

end CaseShift
end Shorthand.Text
