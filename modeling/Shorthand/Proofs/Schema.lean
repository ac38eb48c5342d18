import Shorthand.Proofs.Bundle

/-! The schema module of a record: its lines, the expressions that can stand in them, and that
nothing of a custom type gets into it. -/
namespace Shorthand
open Text

namespace Text
variable {part s t : Text}

/-- How often a text occurs in another. -/
def occurrences (part : Text) : Text → Nat
  | [] => 0
  | c :: s => occurrences part s + if startsWith part (c :: s) then 1 else 0

/-- No occurrence begins inside `s`, whatever stands after it. -/
def Clear (part s : Text) : Prop := ∀ t, occurrences part (s ++ t) = occurrences part t

lemma Clear.append (hs : Clear part s) (ht : Clear part t) : Clear part (s ++ t) := by
  intro u
  rw [List.append_assoc, hs, ht]

lemma clear_of_not_mem {c : Char} (h : c ∉ s) : Clear (c :: part) s := by
  intro t
  induction s with
  | nil => rfl
  | cons d s ih =>
    rw [List.mem_cons, not_or] at h
    have hstart : startsWith (c :: part) (d :: (s ++ t)) = false := by
      simp [startsWith, List.isPrefixOf, h.1]
    simp [occurrences, hstart, ih h.2]

lemma Clear.flatMap {α : Type} {f : α → Text} {l : List α} (h : ∀ a ∈ l, Clear part (f a)) :
    Clear part (l.flatMap f) := by
  induction l with
  | nil =>
    intro t
    rfl
  | cons a l ih =>
    rw [List.forall_mem_cons] at h
    rw [List.flatMap_cons]
    exact h.1.append (ih h.2)

end Text

namespace FieldType

/-- The expressions that can stand in a schema, as texts. -/
inductive IsValidator : Text → Prop
  | string : IsValidator "z.string()".toList
  | number : IsValidator "z.number()".toList
  | boolean : IsValidator "z.boolean()".toList
  | date : IsValidator "z.coerce.date()".toList
  | unknown : IsValidator "z.unknown()".toList
  | any : IsValidator "z.any()".toList
  | array {e : Text} : IsValidator e → IsValidator ("z.array(".toList ++ e ++ ")".toList)

lemma isValidator_print (e : ZodExpr) : IsValidator e.print := by
  induction e with
  | string => exact .string
  | number => exact .number
  | boolean => exact .boolean
  | date => exact .date
  | unknown => exact .unknown
  | any => exact .any
  | array e ih => exact .array ih

lemma IsValidator.newline_not_mem {e : Text} (h : IsValidator e) : '\n' ∉ e := by
  induction h with
  | array _ ih => simp [ih]
  | _ => decide

/-- No validator begins to make a schema strict. -/
lemma IsValidator.clear_strict {e : Text} (h : IsValidator e) : Clear ".strict()".toList e := by
  induction h with
  | array _ ih =>
    have hopen : Clear ".strict()".toList "z.array(".toList := fun _ => rfl
    exact (hopen.append ih).append fun _ => rfl
  | _ => exact fun _ => rfl

/-- A type that is no array and has no validator of its own. -/
def IsCustom (type : Text) : Prop := isArray type = false ∧ type ∉ builtins

/-- Types that are the same or have custom types inside the same number of brackets. -/
inductive Alike : Text → Text → Prop
  | refl (type : Text) : Alike type type
  | custom {a b : Text} : IsCustom a → IsCustom b → Alike a b
  | array {a b : Text} : Alike a b → Alike (a ++ brackets) (b ++ brackets)

lemma zod_append (e : Text) : zod (e ++ brackets) = .array (zod e) := by
  rw [zod, isArray_append, element_append]
  rfl

lemma zod_of_custom {type : Text} (h : IsCustom type) : zod type = .unknown := by
  have hne : ∀ known ∈ builtins, (type == known) = false := by
    intro known hmem
    rw [beq_eq_false_iff_ne]
    rintro rfl
    exact h.2 hmem
  simp only [builtins, List.forall_mem_cons] at hne
  obtain ⟨hstring, hnumber, hboolean, hdate, -, hany, -⟩ := hne
  rw [zod, h.1]
  simp only [plainZod, hstring, hnumber, hboolean, hdate, hany, Bool.false_eq_true, if_false]

/-- A validator does not tell custom types apart, at any depth of brackets. -/
theorem zod_eq_of_alike {a b : Text} (h : Alike a b) : zod a = zod b := by
  induction h with
  | refl type => rfl
  | custom ha hb => rw [zod_of_custom ha, zod_of_custom hb]
  | array _ ih => rw [zod_append, zod_append, ih]

end FieldType

namespace Field

/-- Fields that differ at most in a custom type. -/
def Alike (f g : Field) : Prop :=
  f.name = g.name ∧ f.required = g.required ∧ FieldType.Alike f.type g.type

lemma Alike.validator_eq {f g : Field} (h : f.Alike g) : f.validator = g.validator := by
  obtain ⟨-, hrequired, htype⟩ := h
  unfold validator
  rw [hrequired, FieldType.zod_eq_of_alike htype]

end Field

namespace Record
variable {r r' : Record} {strict : Bool}

/-- The line of a field in a schema, with `expr` for its type. -/
def entryLine (expr : Text → Text) (f : Field) : Text :=
  "  ".toList ++ f.name ++ ": ".toList ++ expr f.type ++
    (if f.required then [] else ".optional()".toList) ++ ",".toList

/-- The lines of a schema module, with `expr` for the types. -/
def schemaLines (expr : Text → Text) (strict : Bool) (r : Record) : List Text :=
  ["import \x7b z \x7d from \"zod\";".toList, [],
    "export const ".toList ++ r.name ++ "Schema = z.object(\x7b".toList] ++
  r.fields.map (entryLine expr) ++
  [if strict then "\x7d).strict();".toList else "\x7d);".toList, [],
    "export type ".toList ++ r.name ++ " = z.infer<typeof ".toList ++ r.name ++ "Schema>;".toList]

/-- The expression for a type. -/
def validatorText (type : Text) : Text := (FieldType.zod type).print

lemma bodyLine_entry (f : Field) :
    Artifact.bodyLine (Artifact.schemaEntry (f.name, f.validator)) =
      entryLine validatorText f ++ ['\n'] := by
  unfold Artifact.bodyLine Artifact.schemaEntry Field.validator entryLine validatorText
  simp only [List.append_assoc]

lemma schemaForm_eq_unlines (r : Record) (strict : Bool) :
    Artifact.schemaForm r.name (r.fields.map fun f => (f.name, f.validator)) strict =
      unlines (schemaLines validatorText strict r) := by
  -- The form has its line feeds inside the literals, and two of its lines begin with one.
  have himport : "import \x7b z \x7d from \"zod\";\n\nexport const ".toList =
      "import \x7b z \x7d from \"zod\";".toList ++ '\n' :: '\n' :: "export const ".toList := rfl
  have hopen : "Schema = z.object(\x7b\n".toList = "Schema = z.object(\x7b".toList ++ ['\n'] := rfl
  have hclose : ∀ rest : Text, "\x7d)".toList ++ ((if strict then ".strict()".toList else []) ++
      (";\n\nexport type ".toList ++ rest)) =
      (if strict then "\x7d).strict();".toList else "\x7d);".toList) ++
        '\n' :: '\n' :: ("export type ".toList ++ rest) := by
    cases strict <;> exact fun _ => rfl
  have hlast : "Schema>;\n".toList = "Schema>;".toList ++ ['\n'] := rfl
  have hbody : ((r.fields.map fun f => (f.name, f.validator)).map Artifact.schemaEntry).flatMap
      Artifact.bodyLine = unlines (r.fields.map (entryLine validatorText)) := by
    rw [unlines, List.map_map, List.flatMap_map, List.flatMap_map]
    simp only [Function.comp_def, bodyLine_entry]
  unfold Artifact.schemaForm schemaLines
  simp only [himport, hopen, hlast, hbody, hclose, unlines_append, unlines_cons, unlines_nil,
    List.append_assoc, List.cons_append, List.nil_append]

lemma newline_not_mem_entryLine {expr : Text → Text} {f : Field} (hname : '\n' ∉ f.name)
    (hexpr : '\n' ∉ expr f.type) : '\n' ∉ entryLine expr f := by
  unfold entryLine
  cases f.required <;> simp [hname, hexpr]

lemma newline_not_mem_schemaLines {expr : Text → Text} (hname : '\n' ∉ r.name)
    (hfields : ∀ f ∈ r.fields, '\n' ∉ f.name) (hexpr : ∀ type, '\n' ∉ expr type) :
    ∀ line ∈ schemaLines expr strict r, '\n' ∉ line := by
  have hclose : '\n' ∉ if strict then "\x7d).strict();".toList else "\x7d);".toList := by
    cases strict <;> decide
  intro line hline
  simp only [schemaLines, List.cons_append, List.nil_append, List.mem_cons, List.mem_append,
    List.mem_map, List.not_mem_nil, or_false] at hline
  rcases hline with rfl | rfl | rfl | ⟨f, hf, rfl⟩ | rfl | rfl | rfl
  · decide
  · decide
  · simp [hname]
  · exact newline_not_mem_entryLine (hfields f hf) (hexpr f.type)
  · exact hclose
  · decide
  · simp [hname]

/-- Blank lines stand alone in a schema module, and every other line ends in a mark. -/
lemma settled_schemaLines (expr : Text → Text) (strict : Bool) (r : Record) :
    Artifact.Settled 0 (schemaLines expr strict r ++ [[]]) := by
  have himport : Artifact.Solid "import \x7b z \x7d from \"zod\";".toList := ⟨';', rfl, rfl⟩
  have hopen : Artifact.Solid
      ("export const ".toList ++ r.name ++ "Schema = z.object(\x7b".toList) :=
    Artifact.Solid.append_left ⟨'\x7b', rfl, rfl⟩ _
  have hentries : ∀ line ∈ r.fields.map (entryLine expr), Artifact.Solid line := by
    intro line hline
    obtain ⟨f, -, rfl⟩ := List.mem_map.mp hline
    have hcomma : Artifact.Solid ",".toList := ⟨',', rfl, rfl⟩
    exact hcomma.append_left _
  have hclose : Artifact.Solid
      (if strict then "\x7d).strict();".toList else "\x7d);".toList) := by
    cases strict <;> exact ⟨';', rfl, rfl⟩
  have hlast : Artifact.Solid ("export type ".toList ++ r.name ++ " = z.infer<typeof ".toList ++
      r.name ++ "Schema>;".toList) :=
    Artifact.Solid.append_left ⟨';', rfl, rfl⟩ _
  simp only [schemaLines, List.append_assoc, List.cons_append, List.nil_append]
  refine .solid himport (.blank (by decide) (.solid (by simpa using hopen) ?_))
  refine Artifact.settled_append hentries (.solid hclose (.blank (by decide) ?_))
  exact .solid (by simpa using hlast) (.blank (by decide) .nil)

/-- Tidying the schema module of a record that was read changes nothing. -/
theorem schema_eq_unlines (hname : '\n' ∉ r.name) (hfields : ∀ f ∈ r.fields, '\n' ∉ f.name)
    (strict : Bool) :
    Artifact.schema r.name r.fields strict = unlines (schemaLines validatorText strict r) := by
  have hexpr : ∀ type, '\n' ∉ validatorText type := fun type =>
    (FieldType.isValidator_print (FieldType.zod type)).newline_not_mem
  rw [Artifact.schema, schemaForm_eq_unlines]
  exact Artifact.tidy_unlines (newline_not_mem_schemaLines hname hfields hexpr)
    (settled_schemaLines validatorText strict r)

lemma schema_eq_form (hname : '\n' ∉ r.name) (hfields : ∀ f ∈ r.fields, '\n' ∉ f.name)
    (strict : Bool) :
    Artifact.schema r.name r.fields strict =
      Artifact.schemaForm r.name (r.fields.map fun f => (f.name, f.validator)) strict := by
  rw [schema_eq_unlines hname hfields, schemaForm_eq_unlines]

lemma clear_name {name : Text} (h : Run Identifier.isNameChar name) :
    Clear ".strict()".toList name :=
  clear_of_not_mem fun hmem => absurd (h _ hmem) (by decide)

lemma clear_unlines {ls : List Text} (h : ∀ line ∈ ls, Clear ".strict()".toList line) :
    Clear ".strict()".toList (unlines ls) :=
  Clear.flatMap fun line hline => (h line hline).append fun _ => rfl

lemma clear_entryLine {f : Field} (h : Run Identifier.isNameChar f.name) :
    Clear ".strict()".toList (entryLine validatorText f) := by
  have hexpr := (FieldType.isValidator_print (FieldType.zod f.type)).clear_strict
  have hmark : Clear ".strict()".toList (if f.required then [] else ".optional()".toList) := by
    cases f.required <;> exact fun _ => rfl
  have hindent : Clear ".strict()".toList "  ".toList := fun _ => rfl
  have hcolon : Clear ".strict()".toList ": ".toList := fun _ => rfl
  exact ((((hindent.append (clear_name h)).append hcolon).append hexpr).append hmark).append
    fun _ => rfl

/-- A schema module is made strict at one place or at none. -/
lemma occurrences_strict (hname : Run Identifier.isNameChar r.name)
    (hfields : ∀ f ∈ r.fields, Run Identifier.isNameChar f.name) (strict : Bool) :
    occurrences ".strict()".toList (unlines (schemaLines validatorText strict r)) =
      if strict then 1 else 0 := by
  have hnone : Clear ".strict()".toList [] := fun _ => rfl
  have himport : Clear ".strict()".toList "import \x7b z \x7d from \"zod\";".toList := fun _ => rfl
  have hopen : Clear ".strict()".toList
      ("export const ".toList ++ r.name ++ "Schema = z.object(\x7b".toList) := by
    have hexport : Clear ".strict()".toList "export const ".toList := fun _ => rfl
    exact (hexport.append (clear_name hname)).append fun _ => rfl
  have hentries : ∀ line ∈ r.fields.map (entryLine validatorText),
      Clear ".strict()".toList line := by
    intro line hline
    obtain ⟨f, hf, rfl⟩ := List.mem_map.mp hline
    exact clear_entryLine (hfields f hf)
  have hlast : Clear ".strict()".toList ("export type ".toList ++ r.name ++
      " = z.infer<typeof ".toList ++ r.name ++ "Schema>;".toList) := by
    have hexport : Clear ".strict()".toList "export type ".toList := fun _ => rfl
    have hinfer : Clear ".strict()".toList " = z.infer<typeof ".toList := fun _ => rfl
    exact (((hexport.append (clear_name hname)).append hinfer).append (clear_name hname)).append
      fun _ => rfl
  have hclose : ∀ t, occurrences ".strict()".toList
      ((if strict then "\x7d).strict();".toList else "\x7d);".toList) ++ '\n' :: t) =
      occurrences ".strict()".toList t + if strict then 1 else 0 := by
    cases strict <;> exact fun _ => rfl
  have hfront := clear_unlines (List.forall_mem_append.mpr
    ⟨List.forall_mem_cons.mpr ⟨himport, List.forall_mem_cons.mpr ⟨hnone,
      List.forall_mem_singleton.mpr hopen⟩⟩, hentries⟩)
  have hback := clear_unlines (List.forall_mem_cons.mpr ⟨hnone, List.forall_mem_singleton.mpr hlast⟩) []
  rw [List.append_nil] at hback
  rw [schemaLines, unlines_append, hfront, unlines_cons, hclose, hback]
  exact Nat.zero_add _

lemma entries_eq_of_alike {fields fields' : List Field}
    (h : List.Forall₂ Field.Alike fields fields') :
    (fields.map fun f => (f.name, f.validator)) = fields'.map fun f => (f.name, f.validator) := by
  induction h with
  | nil => rfl
  | cons hfirst _ ih =>
    rw [List.map_cons, List.map_cons, ih, hfirst.1, hfirst.validator_eq]

/-- Nothing of a custom type is left in the expressions. -/
lemma schema_eq_of_alike (hname : r.name = r'.name)
    (hfields : List.Forall₂ Field.Alike r.fields r'.fields) (strict : Bool) :
    Artifact.schema r.name r.fields strict = Artifact.schema r'.name r'.fields strict := by
  rw [Artifact.schema, Artifact.schema, hname, entries_eq_of_alike hfields]

end Record

namespace Bundle
variable {options : Options} {raw : Text} {r : Record}

/-- The schema module of every record that is read, in either dialect, has the lines it should have:
an expression of the grammar for each field and nothing of a custom type, so that two records that
differ only in their custom types have the same module. -/
theorem zodText_is_schema_module (hread : Dialect.read options raw = .ok r)
    (hzod : options.zod = true) :
    ∃ text,
      (∀ clock, (options.sample = true ∧ ∃ fault, build options clock raw = .error (.clock fault)) ∨
        ∃ b, build options clock raw = .ok b ∧ b.record = r ∧ b.zodText = some text) ∧
      (∃ expr : Text → Text, (∀ type, FieldType.IsValidator (expr type)) ∧
        text = unlines (Record.schemaLines expr options.strictZod r) ∧
        lines text = Record.schemaLines expr options.strictZod r ++ [[]]) ∧
      occurrences ".strict()".toList text = (if options.strictZod then 1 else 0) ∧
      ∀ (options' : Options) (clock' : Clock) (raw' : Text) (b' : Bundle),
        build options' clock' raw' = .ok b' → options'.zod = true →
        options'.strictZod = options.strictZod → r.name = b'.record.name →
        List.Forall₂ Field.Alike r.fields b'.record.fields →
        b'.zodText = some text := by
  obtain ⟨hname, -, hfields⟩ := Dialect.read_names hread
  have hline := Identifier.newline_not_mem hname.nameChars
  have hlines : ∀ f ∈ r.fields, '\n' ∉ f.name := fun f hf =>
    Identifier.newline_not_mem (hfields f hf).nameChars
  have hexpr : ∀ type, FieldType.IsValidator (Record.validatorText type) := fun type =>
    FieldType.isValidator_print (FieldType.zod type)
  have htext := Record.schema_eq_unlines hline hlines options.strictZod
  refine ⟨Artifact.schema r.name r.fields options.strictZod, fun clock => ?_,
    ⟨Record.validatorText, hexpr, htext, ?_⟩, ?_, ?_⟩
  · refine (build_cases hread clock).imp_right ?_
    rintro ⟨members, hbuild⟩
    exact ⟨_, hbuild, rfl, by rw [assemble, hzod]; rfl⟩
  · rw [htext]
    exact lines_unlines (Record.newline_not_mem_schemaLines hline hlines
      fun type => (hexpr type).newline_not_mem)
  · rw [htext]
    exact Record.occurrences_strict hname.nameChars (fun f hf => (hfields f hf).nameChars) _
  · intro options' clock' raw' b' hbuild hzod' hstrict hsame halike
    obtain ⟨hread', -⟩ := read_of_build hbuild
    rw [build_of_read_ok hread'] at hbuild
    obtain ⟨members, -, hassemble⟩ := exists_of_map_ok hbuild
    rw [← hassemble, assemble, hzod', hstrict, Record.schema_eq_of_alike hsame halike]
    rfl

/-- A custom type that would close the schema and open a line of its own, if it were written. -/
theorem zodText_of_sample_is_schema_module :
    ∃ text, (∃ b, build { sample := false, strictZod := true } (.given (.ofEpoch 0))
        "type:user-tag:\x7d);\nalert()[]/at?:d".toList = .ok b ∧ b.zodText = some text) ∧
      occurrences ".strict()".toList text = 1 ∧
      ∃ b', build { sample := false, strictZod := true } (.given (.ofEpoch 0))
        "User tag:Other[] at?:d".toList = .ok b' ∧ b'.zodText = some text := by
  have hread : Dialect.read { sample := false, strictZod := true }
      "type:user-tag:\x7d);\nalert()[]/at?:d".toList =
      .ok ⟨"User".toList, [⟨"tag".toList, "\x7d);\nalert()".toList ++ FieldType.brackets, true⟩,
        ⟨"at".toList, "Date".toList, false⟩]⟩ := by decide +kernel
  have hread' : Dialect.read { sample := false, strictZod := true } "User tag:Other[] at?:d".toList =
      .ok ⟨"User".toList, [⟨"tag".toList, "Other".toList ++ FieldType.brackets, true⟩,
        ⟨"at".toList, "Date".toList, false⟩]⟩ := by decide +kernel
  obtain ⟨text, hbuild, -, hstrict, hsame⟩ := zodText_is_schema_module hread rfl
  rcases hbuild (.given (.ofEpoch 0)) with ⟨hsample, -⟩ | ⟨b, hb, -, hzod⟩
  · cases hsample
  have hb' := build_of_read_ok hread' (.given (.ofEpoch 0))
  refine ⟨text, ⟨b, hb, hzod⟩, hstrict, _, hb', hsame _ _ _ _ hb' rfl rfl rfl ?_⟩
  exact .cons ⟨rfl, rfl, .array (.custom ⟨rfl, by decide⟩ ⟨rfl, by decide⟩)⟩
    (.cons ⟨rfl, rfl, .refl _⟩ .nil)

end Bundle
end Shorthand
