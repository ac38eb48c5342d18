import Shorthand.Artifact.Generator
import Shorthand.Proofs.Layout

/-! The code of a record, whatever its names and types are: a head, the code of each field, and an end.
The head and the end do not bear on the fields between them, so the type alias and the interface have
the same body. A type may have lines of its own, which are tidied, but a name in front of it that is on
one line stays as it is. -/
namespace Shorthand
open Text

namespace Field
variable {f : Field}

/-- The mark behind the name of a field. -/
def mark (f : Field) : Text := if f.required then [] else ['?']

/-- What follows the name and its mark in generated code. -/
def typePart (type : Text) : Text := Artifact.tidy (": ".toList ++ type ++ ";".toList) ++ ['\n']

/-- The lines of a field in generated code. -/
def block (f : Field) : Text := "  ".toList ++ f.name ++ f.mark ++ typePart f.type

/-- The declaration of a field in generated code, tidied with all the lines it has. -/
def code (f : Field) : Text := Artifact.tidy ("  ".toList ++ f.declaration) ++ ['\n']

lemma declaration_solid (f : Field) : Artifact.Solid f.declaration :=
  Artifact.Solid.append_left ⟨';', rfl, rfl⟩ _

/-- The colon stands right behind the name and its mark. -/
lemma head_typePart (type : Text) : (typePart type).head? = some ':' := by
  have hcolon : (Artifact.tidy (": ".toList ++ type ++ ";".toList)).head? = some ':' :=
    Artifact.head_tidy rfl _
  rw [typePart, List.head?_append, hcolon, Option.some_or]

lemma code_eq_block (h : '\n' ∉ f.name) : f.code = f.block := by
  have hfront : '\n' ∉ "  ".toList ++ f.name ++ f.mark := by
    unfold mark
    cases f.required <;> simp [h]
  have hcode : "  ".toList ++ f.declaration =
      ("  ".toList ++ f.name ++ f.mark) ++ ':' :: (' ' :: f.type ++ ";".toList) := by
    simp [declaration, mark]
  rw [code, hcode, Artifact.tidy_append_left hfront rfl, block, typePart]
  simp

end Field

namespace Artifact
variable {name head : Text} {fields : List Field}

/-- Lines of a body that end in something visible are tidied one by one. -/
theorem tidy_bodyLines {ls : List Text} (h : ∀ line ∈ ls, Solid line) (rest : Text) :
    tidy (ls.flatMap bodyLine ++ rest) =
      (ls.flatMap fun line => tidy ("  ".toList ++ line) ++ ['\n']) ++ tidy rest := by
  induction ls with
  | nil => rfl
  | cons line ls ih =>
    rw [List.forall_mem_cons] at h
    have hcut : (line :: ls).flatMap bodyLine ++ rest =
        ("  ".toList ++ line) ++ '\n' :: (ls.flatMap bodyLine ++ rest) := by
      simp [bodyLine]
    rw [hcut, tidy_append (h.1.append_left _), ih h.2, List.flatMap_cons]
    simp

/-- A line that ends in something visible stays as it is. -/
lemma tidy_line (hline : '\n' ∉ head) (hsolid : Solid head) : tidy head = head := by
  simp [tidy, lines_of_not_mem hline, tidyLines_solid hsolid, tidyLines, join]

/-- The code between the braces of a type alias or an interface. -/
def body (fields : List Field) : Text := fields.flatMap Field.code

/-- Behind an opening brace the fields are tidied one by one, whatever stands ahead of it on its line
and whatever comes after them. -/
lemma tidy_braced (front close : Text) {opening : Text} (hfront : '\n' ∉ front)
    (hopening : '\n' ∉ opening) (hsolid : Solid opening) (hname : '\n' ∉ name) (fields : List Field) :
    tidy (front ++ name ++ (opening ++ ['\n']) ++ (fields.map Field.declaration).flatMap bodyLine ++
        close) =
      front ++ name ++ (opening ++ ['\n']) ++ body fields ++ tidy close := by
  have hhead : '\n' ∉ front ++ name ++ opening := by simp [hfront, hname, hopening]
  have hsolid' : Solid (front ++ name ++ opening) := hsolid.append_left _
  have hdeclarations : ∀ line ∈ fields.map Field.declaration, Solid line := by
    intro line hmem
    obtain ⟨f, -, rfl⟩ := List.mem_map.mp hmem
    exact f.declaration_solid
  have hbody : (fields.map Field.declaration).flatMap (fun line => tidy ("  ".toList ++ line) ++ ['\n']) =
      body fields := by
    rw [List.flatMap_map]
    rfl
  have htidy := tidy_append hsolid' ((fields.map Field.declaration).flatMap bodyLine ++ close)
  rw [tidy_line hhead hsolid', tidy_bodyLines hdeclarations, hbody] at htidy
  simp only [List.append_assoc, List.singleton_append] at htidy ⊢
  exact htidy

lemma typeAlias_eq_body (hname : '\n' ∉ name) (fields : List Field) :
    typeAlias name fields =
      "export type ".toList ++ name ++ " = \x7b\n".toList ++ body fields ++ "\x7d;\n".toList :=
  tidy_braced "export type ".toList "\x7d;\n".toList (by decide) (by decide)
    (show Solid " = \x7b".toList from ⟨'\x7b', rfl, rfl⟩) hname fields

lemma interface_eq_body (hname : '\n' ∉ name) (fields : List Field) :
    interface name fields =
      "export interface ".toList ++ name ++ " \x7b\n".toList ++ body fields ++ "\x7d\n".toList :=
  tidy_braced "export interface ".toList "\x7d\n".toList (by decide) (by decide)
    (show Solid " \x7b".toList from ⟨'\x7b', rfl, rfl⟩) hname fields

/-- For every name on one line and every list of fields, whatever lines and blanks their names and
types have, the type alias and the interface are a head and an end around the same body. -/
theorem alias_and_interface_share_body (hname : '\n' ∉ name) (fields : List Field) :
    typeAlias name fields =
        "export type ".toList ++ name ++ " = \x7b\n".toList ++ body fields ++ "\x7d;\n".toList ∧
      interface name fields =
        "export interface ".toList ++ name ++ " \x7b\n".toList ++ body fields ++ "\x7d\n".toList :=
  ⟨typeAlias_eq_body hname fields, interface_eq_body hname fields⟩

/-- Fields with blank lines in a name and in a type, and with nothing visible in either. -/
def raggedFields : List Field :=
  [⟨"a \n\n\n\n b".toList, "x\n".toList, false⟩, ⟨"\n".toList, " \t".toList, true⟩]

theorem ragged_fields_share_body :
    '\n' ∉ "User".toList ∧
      body raggedFields = "  a\n\n\n b?: x\n;\n\n:  \t;\n".toList ∧
      typeAlias "User".toList raggedFields = "export type ".toList ++ "User".toList ++
        " = \x7b\n".toList ++ body raggedFields ++ "\x7d;\n".toList ∧
      interface "User".toList raggedFields = "export interface ".toList ++ "User".toList ++
        " \x7b\n".toList ++ body raggedFields ++ "\x7d\n".toList :=
  ⟨by decide, by decide, alias_and_interface_share_body (by decide) raggedFields⟩

lemma body_eq_blocks (hfields : ∀ f ∈ fields, '\n' ∉ f.name) :
    body fields = fields.flatMap Field.block :=
  List.flatMap_congr fun f hf => Field.code_eq_block (hfields f hf)

/-- The type alias of a record whose names are each on one line. -/
theorem typeAlias_eq_blocks (hname : '\n' ∉ name) (hfields : ∀ f ∈ fields, '\n' ∉ f.name) :
    typeAlias name fields =
      "export type ".toList ++ name ++ " = \x7b\n".toList ++ fields.flatMap Field.block ++
        "\x7d;\n".toList := by
  rw [typeAlias_eq_body hname, body_eq_blocks hfields]

/-- The interface of a record whose names are each on one line. -/
theorem interface_eq_blocks (hname : '\n' ∉ name) (hfields : ∀ f ∈ fields, '\n' ∉ f.name) :
    interface name fields =
      "export interface ".toList ++ name ++ " \x7b\n".toList ++ fields.flatMap Field.block ++
        "\x7d\n".toList := by
  rw [interface_eq_body hname, body_eq_blocks hfields]

end Artifact
end Shorthand
