import Shorthand.Proofs.Schema

/-! Artifacts do not depend on one another: which of them are made says nothing about the others, and
a strict schema differs in one line. -/
namespace Shorthand
open Text

/-- The names of the members of an object. -/
def Json.memberNames : Json → List Text
  | .obj members => members.map Prod.fst
  | _ => []

namespace Bundle
variable {o o' : Options} {clock : Clock} {raw : Text} {r : Record}

/-- The bundle is shown with the artifacts that are switched on, and with no others. -/
structure Shows (o : Options) (b : Bundle) : Prop where
  type : "type".toList ∈ b.toJson.memberNames
  interface : "interface".toList ∈ b.toJson.memberNames ↔ o.interface = true
  zod : "zod".toList ∈ b.toJson.memberNames ↔ o.zod = true
  sample : "example".toList ∈ b.toJson.memberNames ↔ o.sample = true

/-- The same module but for one line, which makes the schema strict. -/
def StrictLine (text strict : Text) : Prop :=
  ∃ front back : List Text, lines text = front ++ "\x7d);".toList :: back ∧
    lines strict = front ++ "\x7d).strict();".toList :: back

/-- What two bundles have in common if they are made from one text, under `o` and `o'`. -/
structure Agree (o o' : Options) (b b' : Bundle) : Prop where
  record : b.record = b'.record
  typeText : b.typeText = b'.typeText
  interfaceText : o.interface = true → o'.interface = true → b.interfaceText = b'.interfaceText
  zodText : o.zod = true → o'.zod = true → o.strictZod = o'.strictZod → b.zodText = b'.zodText
  sample : o.sample = true → o'.sample = true → b.sample = b'.sample
  strict : o.zod = true → o'.zod = true → o.strictZod = false → o'.strictZod = true →
    ∃ text strict, b.zodText = some text ∧ b'.zodText = some strict ∧ StrictLine text strict

/-- The names under which a bundle is shown, by the artifacts that it has. -/
def shownNames (interface zod sample : Bool) : List Text :=
  ["typeName".toList, "normalized".toList, "type".toList] ++
    (if interface then ["interface".toList] else []) ++ (if zod then ["zod".toList] else []) ++
    (if sample then ["example".toList] else [])

lemma memberNames_toJson (b : Bundle) :
    b.toJson.memberNames = shownNames b.interfaceText.isSome b.zodText.isSome b.sample.isSome := by
  obtain ⟨r, typeText, interfaceText, zodText, sample⟩ := b
  cases interfaceText <;> cases zodText <;> cases sample <;> rfl

lemma mem_shownNames : ∀ interface zod sample : Bool,
    "type".toList ∈ shownNames interface zod sample ∧
      ("interface".toList ∈ shownNames interface zod sample ↔ interface = true) ∧
      ("zod".toList ∈ shownNames interface zod sample ↔ zod = true) ∧
      ("example".toList ∈ shownNames interface zod sample ↔ sample = true) := by
  decide

lemma shows_assemble {members : Option (List (Text × Json))} (h : members.isSome = o.sample) :
    Shows o (assemble o r members) := by
  have hinterface : (assemble o r members).interfaceText.isSome = o.interface := by
    cases hi : o.interface <;> simp [assemble, hi]
  have hzod : (assemble o r members).zodText.isSome = o.zod := by
    cases hz : o.zod <;> simp [assemble, hz]
  have hnames : (assemble o r members).toJson.memberNames =
      shownNames o.interface o.zod o.sample := by
    rw [memberNames_toJson, hinterface, hzod, ← h]
    rfl
  obtain ⟨htype, hi, hz, hs⟩ := mem_shownNames o.interface o.zod o.sample
  rw [← hnames] at htype hi hz hs
  exact ⟨htype, hi, hz, hs⟩

/-- Being strict changes the line that closes the schema. -/
lemma strictLine_schema (hname : '\n' ∉ r.name) (hfields : ∀ f ∈ r.fields, '\n' ∉ f.name) :
    StrictLine (Artifact.schema r.name r.fields false) (Artifact.schema r.name r.fields true) := by
  have hlines : ∀ strict, lines (Artifact.schema r.name r.fields strict) =
      Record.schemaLines Record.validatorText strict r ++ [[]] := by
    intro strict
    rw [Record.schema_eq_unlines hname hfields]
    exact lines_unlines (Record.newline_not_mem_schemaLines hname hfields fun type =>
      (FieldType.isValidator_print (FieldType.zod type)).newline_not_mem)
  refine ⟨["import \x7b z \x7d from \"zod\";".toList, [],
    "export const ".toList ++ r.name ++ "Schema = z.object(\x7b".toList] ++
    r.fields.map (Record.entryLine Record.validatorText), [[], "export type ".toList ++ r.name ++
    " = z.infer<typeof ".toList ++ r.name ++ "Schema>;".toList, []], ?_, ?_⟩
  · rw [hlines, Record.schemaLines, List.append_assoc]
    rfl
  · rw [hlines, Record.schemaLines, List.append_assoc]
    rfl

/-- Bundles of one record agree, whatever is switched on in either. -/
lemma agree_assemble (hname : '\n' ∉ r.name) (hfields : ∀ f ∈ r.fields, '\n' ∉ f.name)
    (members : List (Text × Json)) :
    Agree o o' (assemble o r (if o.sample then some members else none))
      (assemble o' r (if o'.sample then some members else none)) where
  record := rfl
  typeText := rfl
  interfaceText := by
    intro h h'
    simp only [assemble, h, h']
  zodText := by
    intro h h' hstrict
    simp only [assemble, h, h', hstrict]
  sample := by
    intro h h'
    simp only [assemble, h, h']
  strict := by
    intro h h' hoff hon
    refine ⟨_, _, ?_, ?_, strictLine_schema hname hfields⟩
    · simp only [assemble, h, hoff, if_true]
    · simp only [assemble, h', hon, if_true]

/-- Under options that read alike, and a clock in range, a text is refused with the same problem or
gives two bundles that agree in all that both have. Each shows what is switched on and nothing else. -/
theorem artifacts_do_not_interfere (o o' : Options) (raw : Text)
    (hread : o.optionalByDefault = o'.optionalByDefault) (hclock : clock.InRange) :
    (∃ problem, build o clock raw = .error (.unreadable problem) ∧
      build o' clock raw = .error (.unreadable problem)) ∨
    ∃ b b', build o clock raw = .ok b ∧ build o' clock raw = .ok b' ∧ Agree o o' b b' ∧
      Shows o b ∧ Shows o' b' := by
  have hsame := Dialect.read_congr hread raw
  cases hresult : Dialect.read o raw with
  | error problem =>
    refine .inl ⟨problem, build_of_read_error hresult clock, build_of_read_error ?_ clock⟩
    rw [← hsame, hresult]
  | ok r =>
    obtain ⟨hname, hfields⟩ := Dialect.read_lines hresult
    obtain ⟨members, hbuild⟩ := exists_build hclock r
    have hshown : ∀ sample : Bool, (if sample then some members else none).isSome = sample := by
      intro sample
      cases sample <;> rfl
    refine .inr ⟨_, _, hbuild o raw hresult, hbuild o' raw (hsame ▸ hresult), ?_,
      shows_assemble (hshown _), shows_assemble (hshown _)⟩
    exact agree_assemble hname hfields members

/-- A record without required fields, whose example is empty and yet shown, and a strict schema beside
one that is not. -/
theorem sample_artifacts_do_not_interfere :
    ∃ b b', build {} (.given (.ofEpoch 0)) "User at?:d".toList = .ok b ∧
      build { interface := false, strictZod := true } (.given (.ofEpoch 0)) "User at?:d".toList = .ok b' ∧
      b.sample = some [] ∧ b'.sample = some [] ∧
      "example".toList ∈ b'.toJson.memberNames ∧ "interface".toList ∉ b'.toJson.memberNames ∧
      ∃ text strict, b.zodText = some text ∧ b'.zodText = some strict ∧ StrictLine text strict := by
  have hclock : (Clock.given (.ofEpoch 0)).InRange := ⟨_, rfl, by decide⟩
  have hread : Dialect.read {} "User at?:d".toList =
      .ok ⟨"User".toList, [⟨"at".toList, "Date".toList, false⟩]⟩ := by decide +kernel
  have hb := build_of_read_ok hread (.given (.ofEpoch 0))
  rcases artifacts_do_not_interfere {} { interface := false, strictZod := true } "User at?:d".toList
    rfl hclock with
    ⟨problem, hproblem, -⟩ | ⟨b, b', hbuild, hbuild', hagree, -, hshows⟩
  · rw [hb] at hproblem
    cases hproblem
  · rw [hbuild] at hb
    obtain rfl := Except.ok.inj hb
    refine ⟨_, b', hbuild, hbuild', rfl, ?_, hshows.sample.mpr rfl, ?_, hagree.strict rfl rfl rfl rfl⟩
    · rw [← hagree.sample rfl rfl]
      rfl
    · rw [hshows.interface]
      decide

end Bundle
end Shorthand
