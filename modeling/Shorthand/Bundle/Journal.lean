import Shorthand.Bundle.Basic
import Shorthand.Log

/-! What is logged about reading a record text and making its artifacts. -/
namespace Shorthand

/-- Records about reading a text. -/
def Dialect.log (options : Options) (raw : Text) : List Log.Record :=
  let text := Text.trim raw
  let begun : List Log.Record :=
    if text.isEmpty then []
    else match styleOf text with
      | .slashed => [⟨.debug, .reader, "Parsing legacy DSL: ".toList ++ text⟩]
      | .spaced => [⟨.debug, .reader, "Parsing DSL: ".toList ++ text⟩]
  match Dialect.read options raw with
  | .error _ => begun
  | .ok r => begun ++ [⟨.debug, .reader, "Parsed ".toList ++ r.name ++ " with ".toList ++
      Text.ofNat r.fields.length ++ " properties".toList⟩]

/-- Records about making a bundle. -/
def Bundle.log (options : Options) (clock : Clock) (text : Text) : List Log.Record :=
  Dialect.log options text ++
    match Bundle.build options clock text with
    | .error _ => []
    | .ok b => [⟨.debug, .bundle, "Generated ".toList ++ b.record.name ++ " (".toList ++
        Text.join ", ".toList (b.artifacts.map Prod.fst) ++ ")".toList⟩]

end Shorthand
