import Shorthand.Proofs.Body
import Shorthand.Proofs.Items
import Shorthand.Proofs.NameForms
import Shorthand.Proofs.Schema

/-! When the name of a record is an identifier of the generated code. Its characters are always good
ones, but the first of them can be a digit, which is seen in the word that the text gives: it is the
first character of that word that is kept. -/
namespace Shorthand
open Text

namespace Identifier
variable {s : Text}

lemma find?_splitOnP (s : Text) : (s.splitOnP isSeparator).flatten.find? isKept = s.find? isKept := by
  induction s with
  | nil => simp
  | cons c s ih =>
    obtain ⟨word, words, hcut⟩ := List.exists_cons_of_ne_nil (List.splitOnP_ne_nil isSeparator s)
    rw [List.splitOnP_cons_eq_if_modifyHead]
    cases hsep : isSeparator c with
    | true =>
      have hkept : isKept c = false := by
        by_contra hkept
        rw [isSeparator_of_isKept (by simpa using hkept)] at hsep
        cases hsep
      simp only [if_true, List.flatten_cons, List.nil_append, List.find?_cons, hkept, ih]
    | false =>
      rw [hcut, List.flatten_cons] at ih
      simp only [Bool.false_eq_true, if_false, hcut, List.modifyHead_cons, List.flatten_cons,
        List.cons_append, List.find?_cons, ih]

lemma head_capitalize (s : Text) : (capitalize s).head? = s.head?.map Char.toUpper := by
  cases s <;> rfl

/-- Words run together begin with the first character that is kept, as a capital. -/
lemma head_pascal (s : Text) : (pascal s).head? = (s.find? isKept).map Char.toUpper := by
  have hword : ∀ word : Text, (capitalize (word.filter isKept)).head? =
      (word.find? isKept).map Char.toUpper := by
    intro word
    rw [head_capitalize, List.head?_filter]
  rw [pascal, List.head?_flatMap, ← find?_splitOnP, List.find?_flatten]
  simp only [hword, List.map_findSome?]
  rfl

/-- Blank space around a word is not kept. -/
lemma find?_trim (s : Text) : (trim s).find? isKept = s.find? isKept := by
  obtain ⟨lead, trail, hlead, htrail, hs⟩ := exists_trim s
  have hnone : ∀ blanks : Text, Run isBlank blanks → blanks.find? isKept = none := by
    intro blanks hblanks
    rw [List.find?_eq_none]
    intro c hc hkept
    have hblank := hblanks c hc
    rw [isBlank_of_isKept hkept] at hblank
    cases hblank
  conv_rhs => rw [hs]
  simp [List.find?_append, hnone lead hlead, hnone trail htrail]

lemma isDigit_toUpper (c : Char) : c.toUpper.isDigit = c.isDigit := by
  by_cases hlower : c.isLower = true
  · rw [isDigit_of_isLower hlower]
    by_contra hdigit
    have halpha := isAlpha_of_isDigit (by simpa using hdigit)
    simp [Char.isAlpha, hlower] at halpha
  · rw [Char.toUpper_eq_of_not_isLower hlower]

/-- The name of a type begins with a digit if and only if the word does, for what is kept of it. -/
lemma typeName_digit_iff (raw : Text) :
    (∃ c ∈ (typeName raw).head?, c.isDigit = true) ↔ ∃ c ∈ raw.find? isKept, c.isDigit = true := by
  have hhead := head_pascal (trim raw)
  rw [find?_trim] at hhead
  rw [typeName_eq_pascal]
  cases hfirst : raw.find? isKept with
  | none =>
    have hempty : pascal (trim raw) = [] := by simpa [hfirst] using hhead
    simp [hempty]
  | some c =>
    rw [hfirst, Option.map_some] at hhead
    have hempty : (pascal (trim raw)).isEmpty = false := by
      cases hp : pascal (trim raw) with
      | nil => simp [hp] at hhead
      | cons => rfl
    simp [hempty, hhead, isDigit_toUpper]

/-- A name of a type is an identifier but for a digit in front. -/
lemma IsTypeName.isIdentifier_iff (h : IsTypeName s) :
    IsIdentifier s ↔ ¬ ∃ c ∈ s.head?, c.isDigit = true := by
  obtain ⟨c, t, rfl, hc, ht⟩ := isTypeName_iff.mp h
  simp only [List.head?_cons, Option.mem_some_iff, exists_eq_left', Bool.not_eq_true]
  constructor
  · rintro ⟨d, u, heq, hd, -⟩
    obtain ⟨rfl, -⟩ := List.cons.inj heq
    rcases hd with halpha | rfl | rfl
    · by_contra hdigit
      rw [isAlpha_of_isDigit (by simpa using hdigit)] at halpha
      cases halpha
    · rfl
    · rfl
  · intro hdigit
    refine ⟨c, t, rfl, ?_, fun d hd => (ht d hd).imp_right .inr⟩
    rcases hc with hupper | hd | rfl
    · exact .inl (by simp [Char.isAlpha, hupper])
    · rw [hdigit] at hd
      cases hd
    · exact .inr (.inr rfl)

end Identifier

namespace Dialect
variable {options : Options} {raw : Text} {r : Record}

lemma name_of_read (h : read options raw = .ok r) : r.name = Identifier.typeName (typeWord raw) :=
  (read_eq_ok_iff.mp h).2.2.1

end Dialect

namespace Record
variable {r : Record}

/-- The places of the generated code where the name of the record is declared. -/
structure DeclaredByName (r : Record) : Prop where
  typeAlias : "export type ".toList ++ r.name ++ " = \x7b\n".toList <+:
    Artifact.typeAlias r.name r.fields
  interface : "export interface ".toList ++ r.name ++ " \x7b\n".toList <+:
    Artifact.interface r.name r.fields
  schema (strict : Bool) : "import \x7b z \x7d from \"zod\";\n\nexport const ".toList ++ r.name ++
    "Schema = z.object(\x7b\n".toList <+: Artifact.schema r.name r.fields strict
  inferred (strict : Bool) : "\nexport type ".toList ++ r.name ++ " = z.infer<typeof ".toList ++ r.name ++
    "Schema>;\n".toList <:+ Artifact.schema r.name r.fields strict

lemma declaredByName (hname : '\n' ∉ r.name) (hfields : ∀ f ∈ r.fields, '\n' ∉ f.name) :
    r.DeclaredByName where
  typeAlias := by
    refine ⟨r.fields.flatMap Field.block ++ "\x7d;\n".toList, ?_⟩
    rw [Artifact.typeAlias_eq_blocks hname hfields, List.append_assoc _ (r.fields.flatMap _)]
  interface := by
    refine ⟨r.fields.flatMap Field.block ++ "\x7d\n".toList, ?_⟩
    rw [Artifact.interface_eq_blocks hname hfields, List.append_assoc _ (r.fields.flatMap _)]
  schema strict := by
    rw [schema_eq_form hname hfields]
    unfold Artifact.schemaForm
    simp only [List.append_assoc, List.prefix_append_right_inj]
    exact List.prefix_append _ _
  inferred strict := by
    have hbreak : ";\n\nexport type ".toList = ";\n".toList ++ "\nexport type ".toList := rfl
    rw [schema_eq_form hname hfields]
    unfold Artifact.schemaForm
    rw [hbreak]
    simp only [List.append_assoc]
    -- Six parts and the line feed stand in front of it.
    iterate 6 apply List.suffix_append_of_suffix
    exact List.suffix_append _ _

end Record

namespace Dialect
open Identifier
variable {options : Options} {raw : Text} {r : Record}

/-- The name under which a record is declared is made of letters, digits and dollar signs and is no
reserved word. It is an identifier unless the word that it is taken from has a digit in front of all
else that is kept. -/
theorem name_is_identifier_unless_digit_leads (h : read options raw = .ok r) :
    r.DeclaredByName ∧ r.name ≠ [] ∧ (∀ c ∈ r.name, c.isAlphanum = true ∨ c = '$') ∧
      r.name ∉ reservedWords ∧
      (IsIdentifier r.name ↔ ¬ ∃ c ∈ (typeWord raw).find? isKept, c.isDigit = true) := by
  obtain ⟨hname, -, -⟩ := read_names h
  obtain ⟨hline, hlines⟩ := read_lines h
  refine ⟨Record.declaredByName hline hlines, hname.ne_nil, run_isKept_iff.mp hname.kept,
    hname.not_reserved, ?_⟩
  rw [hname.isIdentifier_iff, name_of_read h, typeName_digit_iff]

/-- Quotes, blanks and marks are passed over on the way to the first letter. -/
theorem name_of_quoted_sample_is_identifier :
    ∃ r, read {} "type:' #é user_2nd'-at:d/tags:s[]:o".toList = .ok r ∧ r.name = "User2nd".toList ∧
      r.DeclaredByName ∧ IsIdentifier r.name := by
  have hread : read {} "type:' #é user_2nd'-at:d/tags:s[]:o".toList =
      .ok ⟨"User2nd".toList, [⟨"at".toList, "Date".toList, true⟩,
        ⟨"tags".toList, "string[]".toList, false⟩]⟩ := by decide +kernel
  have hword : (typeWord "type:' #é user_2nd'-at:d/tags:s[]:o".toList).find? isKept = some 'u' := by
    decide +kernel
  obtain ⟨hdeclared, -, -, -, hidentifier⟩ := name_is_identifier_unless_digit_leads hread
  refine ⟨_, hread, rfl, hdeclared, hidentifier.mpr ?_⟩
  rw [hword]
  rintro ⟨c, hc, hdigit⟩
  obtain rfl := Option.mem_some_iff.mp hc
  exact absurd hdigit (by decide)

/-- The digit in front is not guarded, as it is in the name of a field. -/
theorem leading_digit_names_no_identifier :
    ∃ r, read {} "1st 2nd".toList = .ok r ∧ r.name = "1st".toList ∧ ¬ IsIdentifier r.name ∧
      r.fields.map Field.name = ["_2nd".toList] := by
  have hread : read {} "1st 2nd".toList =
      .ok ⟨"1st".toList, [⟨"_2nd".toList, "string".toList, true⟩]⟩ := by decide +kernel
  refine ⟨_, hread, rfl, ?_, rfl⟩
  rintro ⟨c, t, heq, hc, -⟩
  obtain ⟨rfl, -⟩ := List.cons.inj heq
  exact absurd hc (by decide)

end Dialect
end Shorthand
