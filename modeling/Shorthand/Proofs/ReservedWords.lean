import Shorthand.Proofs.Identifier

/-! Sanitizers for any set of reserved words. Sanitizing leads out of the set when no word of it is
what the endings make of another, and then sanitizing again changes nothing. -/
namespace Shorthand.Identifier
open Text

namespace Sanitizer
variable {z : Sanitizer} {ending : Text}

/-- An ending that makes no reserved word out of another leads out of the set. -/
lemma avoid_not_mem (h : ∀ w ∈ z.reserved, w ++ ending ∉ z.reserved) (s : Text) :
    z.avoid ending s ∉ z.reserved := by
  by_cases hs : s ∈ z.reserved
  · rw [avoid_of_reserved hs]
    exact h s hs
  · rwa [avoid_of_free hs]

lemma isTypeName_avoid (hending : Run isKept ending) {s : Text} (h : IsTypeName s) :
    IsTypeName (z.avoid ending s) := by
  by_cases hs : s ∈ z.reserved
  · rw [avoid_of_reserved hs]
    exact h.append hending
  · rwa [avoid_of_free hs]

theorem typeName_typeName (hending : Run isKept z.typeEnding)
    (h : ∀ w ∈ z.reserved, w ++ z.typeEnding ∉ z.reserved) (raw : Text) :
    z.typeName (z.typeName raw) = z.typeName raw := by
  have hname : IsTypeName (z.typeName raw) := isTypeName_avoid hending (isTypeName_pascal raw)
  rw [hname.sanitized]
  exact avoid_of_free (avoid_not_mem h _)

/-- An underscore that was put behind a reserved word is dropped, and the reserved word gets it
again. -/
theorem fieldName_fieldName (hending : z.fieldEnding = ['_']) (raw : Text) :
    z.fieldName (z.fieldName raw) = z.fieldName raw := by
  obtain ⟨s, hs, hname⟩ := z.exists_stem raw
  by_cases hmem : s ∈ z.reserved
  · have havoid : z.avoid z.fieldEnding s = s ++ ['_'] := by rw [avoid_of_reserved hmem, hending]
    rw [hname, havoid, hs.sanitized_append, havoid]
  · have hfree : z.avoid z.fieldEnding s = s := avoid_of_free hmem
    rw [hname, hfree, hs.sanitized, hfree]

end Sanitizer

/-- No word of the set is what an ending makes of a reserved word: none ends in an underscore, and
none is another one with `Type` behind it. -/
structure IsEscapable (words : List Text) : Prop where
  field : ∀ w ∈ words, endsIn '_' w = false
  type : ∀ w ∈ words, w ++ "Type".toList ∉ words

lemma IsEscapable.append_underscore {words : List Text} (h : IsEscapable words) (w : Text) :
    w ++ ['_'] ∉ words := by
  intro hmem
  have hends := h.field _ hmem
  rw [endsIn_concat] at hends
  exact absurd hends (by decide)

/-- For every set whose words can be escaped, the sanitizer with the usual endings gives names that
stay as they are when they are sanitized again and are not in the set. The reserved words of
TypeScript are such a set. -/
theorem sanitizing_escapes_reserved_words :
    (∀ words : List Text, IsEscapable words → ∀ raw : Text,
      let z : Sanitizer := { reserved := words }
      z.typeName (z.typeName raw) = z.typeName raw ∧
        z.fieldName (z.fieldName raw) = z.fieldName raw ∧
        z.typeName raw ∉ words ∧ z.fieldName raw ∉ words) ∧
      IsEscapable reservedWords := by
  refine ⟨fun words h raw => ?_, ⟨by decide, by decide⟩⟩
  intro z
  have hfield : ∀ w ∈ z.reserved, w ++ z.fieldEnding ∉ z.reserved := fun w _ =>
    h.append_underscore w
  have hending : Run isKept z.typeEnding := (by decide : Run isKept "Type".toList)
  exact ⟨Sanitizer.typeName_typeName hending h.type raw, Sanitizer.fieldName_fieldName rfl raw,
    Sanitizer.avoid_not_mem (z := z) h.type _, Sanitizer.avoid_not_mem hfield _⟩

/-- The words that stand in for a name of which nothing is kept, and a guarded digit. -/
def awkwardWords : List Text := ["prop".toList, "Type".toList, "_1st".toList]

/-- The sanitizer for them. -/
def awkward : Sanitizer := { reserved := awkwardWords }

theorem sanitizing_escapes_awkward_words :
    IsEscapable awkwardWords ∧
      (awkward.typeName "?".toList = "TypeType".toList ∧
        awkward.typeName "TypeType".toList = "TypeType".toList ∧
        "TypeType".toList ∉ awkwardWords) ∧
      awkward.fieldName "1st".toList = "_1st_".toList ∧
      awkward.fieldName "_1st_".toList = "_1st_".toList ∧ "_1st_".toList ∉ awkwardWords := by
  have hwords : IsEscapable awkwardWords := ⟨by decide, by decide⟩
  have htype : awkward.typeName "?".toList = "TypeType".toList := by decide
  have hfield : awkward.fieldName "1st".toList = "_1st_".toList := by decide
  have hclear := sanitizing_escapes_reserved_words.1 awkwardWords hwords
  obtain ⟨htwice, -, hfree, -⟩ := hclear "?".toList
  obtain ⟨-, htwice', -, hfree'⟩ := hclear "1st".toList
  change awkward.typeName (awkward.typeName _) = awkward.typeName _ at htwice
  change awkward.fieldName (awkward.fieldName _) = awkward.fieldName _ at htwice'
  change awkward.typeName _ ∉ awkwardWords at hfree
  change awkward.fieldName _ ∉ awkwardWords at hfree'
  rw [htype] at htwice hfree
  rw [hfield] at htwice' hfree'
  exact ⟨hwords, ⟨htype, htwice, hfree⟩, hfield, htwice', hfree'⟩

end Shorthand.Identifier
