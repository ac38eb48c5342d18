import Shorthand.Bundle.Basic
import Shorthand.Proofs.Dialect
import Shorthand.Proofs.Layout

/-! The type alias of a record that was read: its text, line by line, and the record that can be told
from that text. -/
namespace Shorthand
open Text Dialect

namespace Field
variable {f g : Field}

/-- What follows the name in a declaration. -/
def declared (f : Field) : Text :=
  (if f.required then [] else ['?']) ++ ": ".toList ++ f.type ++ ";".toList

lemma declaration_eq (f : Field) : f.declaration = f.name ++ f.declared := by
  simp [declaration, declared]

lemma declared_opens (f : Field) : Opens isSpecial f.declared := by
  unfold declared
  split_ifs <;> exact opens_cons.mpr (by decide)

lemma declared_inj (h : f.declared = g.declared) : f.type = g.type ∧ f.required = g.required := by
  unfold declared at h
  cases hf : f.required <;> cases hg : g.required <;> simp_all

/-- The name ends at the first mark or colon, and the type at the last semicolon. -/
lemma declaration_inj (hf : Identifier.IsFieldName f.name) (hg : Identifier.IsFieldName g.name)
    (h : f.declaration = g.declaration) : f = g := by
  rw [declaration_eq, declaration_eq] at h
  obtain ⟨hname, hrest⟩ := (bare_of_nameChars hf.nameChars).append_inj
    (bare_of_nameChars hg.nameChars) f.declared_opens g.declared_opens h
  obtain ⟨htype, hrequired⟩ := declared_inj hrest
  cases f
  cases g
  simp_all

end Field

/-- All that is written of the record stays on the line it is written on. -/
structure Record.Printable (r : Record) : Prop where
  name : Identifier.IsTypeName r.name
  fields : ∀ f ∈ r.fields, Identifier.IsFieldName f.name ∧ '\n' ∉ f.type

namespace Record
variable {r r' : Record}

/-- Every record that is read can be printed, if a slashed text is on one line. -/
theorem printable_of_read {options : Options} {raw : Text} (h : Dialect.read options raw = .ok r)
    (hline : styleOf (trim raw) = .slashed → '\n' ∉ raw) : r.Printable := by
  cases hstyle : styleOf (trim raw) with
  | spaced =>
    obtain ⟨hname, items, -, hpieces, hitems⟩ := read_spaced_ok hstyle h
    refine ⟨hname, fun f hf => ?_⟩
    obtain ⟨item, hitem, hread⟩ := exists_item_of_field hitems f hf
    have hlegible := Spaced.readItem_legible (hpieces item hitem).2 hread
    refine ⟨hlegible.name, fun hmem => ?_⟩
    exact absurd (hlegible.type.2 _ hmem) (by decide)
  | slashed =>
    obtain ⟨hname, chunks, -, hchunks, hitems⟩ := read_slashed_ok hstyle h
    refine ⟨hname, fun f hf => ?_⟩
    obtain ⟨chunk, hchunk, hread⟩ := exists_item_of_field hitems f hf
    obtain ⟨hfield, word, hword, htype⟩ := Slashed.readChunk_ok hread
    have hfree : Free (· == '\n') word :=
      free_beq_iff.mpr fun hmem => hline hstyle (hchunks chunk hchunk (hword hmem))
    refine ⟨hfield, ?_⟩
    rw [htype, ← free_beq_iff]
    refine FieldType.resolve_free (fun c hc => ?_) hfree
    rw [beq_eq_false_iff_ne]
    rintro rfl
    cases hc

/-- The lines of the type alias. -/
def aliasLines (r : Record) : List Text :=
  ("export type ".toList ++ r.name ++ " = \x7b".toList) ::
    (r.fields.map Field.declaration).map ("  ".toList ++ ·) ++ ["\x7d;".toList]

lemma aliasForm_eq_unlines (r : Record) :
    Artifact.aliasForm r.name (r.fields.map Field.declaration) = unlines r.aliasLines := by
  -- The form has its line feeds inside the literals.
  have hopen : " = \x7b\n".toList = " = \x7b".toList ++ ['\n'] := rfl
  have hclose : "\x7d;\n".toList = "\x7d;".toList ++ ['\n'] := rfl
  unfold Artifact.aliasForm aliasLines
  simp only [Artifact.flatMap_bodyLine, unlines_append, unlines_cons, unlines_nil, hopen, hclose,
    List.append_assoc, List.cons_append, List.nil_append]

lemma newline_not_mem_declaration (h : r.Printable) {f : Field} (hf : f ∈ r.fields) :
    '\n' ∉ f.declaration := by
  obtain ⟨hfield, htype⟩ := h.fields f hf
  have hname := Identifier.newline_not_mem hfield.nameChars
  cases hr : f.required <;> simp [Field.declaration, hr, hname, htype]

lemma mem_aliasLines {line : Text} (h : line ∈ r.aliasLines) :
    line = "export type ".toList ++ r.name ++ " = \x7b".toList ∨
      (∃ f ∈ r.fields, line = "  ".toList ++ f.declaration) ∨ line = "\x7d;".toList := by
  simp only [aliasLines, List.map_map, List.cons_append, List.mem_cons, List.mem_append,
    List.mem_map, List.not_mem_nil, or_false] at h
  rcases h with h | ⟨f, hf, h⟩ | h
  · exact .inl h
  · exact .inr (.inl ⟨f, hf, h.symm⟩)
  · exact .inr (.inr h)

lemma newline_not_mem_aliasLines (h : r.Printable) : ∀ line ∈ r.aliasLines, '\n' ∉ line := by
  intro line hline
  rcases mem_aliasLines hline with rfl | ⟨f, hf, rfl⟩ | rfl
  · simp [Identifier.newline_not_mem h.name.nameChars]
  · simp [newline_not_mem_declaration h hf]
  · decide

lemma solid_aliasLines (r : Record) : ∀ line ∈ r.aliasLines, Artifact.Solid line := by
  intro line hline
  rcases mem_aliasLines hline with rfl | ⟨f, -, rfl⟩ | rfl
  · exact Artifact.Solid.append_left ⟨'\x7b', rfl, by decide⟩ _
  · have hend : Artifact.Solid ";".toList := ⟨';', rfl, by decide⟩
    exact (hend.append_left _).append_left _
  · exact ⟨';', rfl, by decide⟩

/-- Tidying the alias of a printable record changes nothing. -/
theorem typeAlias_eq_unlines (h : r.Printable) :
    Artifact.typeAlias r.name r.fields = unlines r.aliasLines := by
  have hlast : Artifact.Settled 0 [[]] := .blank (by decide) .nil
  rw [Artifact.typeAlias, aliasForm_eq_unlines]
  exact Artifact.tidy_unlines (newline_not_mem_aliasLines h)
    (Artifact.settled_append r.solid_aliasLines hlast)

lemma declarations_inj {fields fields' : List Field}
    (h : ∀ f ∈ fields, Identifier.IsFieldName f.name)
    (h' : ∀ f ∈ fields', Identifier.IsFieldName f.name)
    (heq : fields.map Field.declaration = fields'.map Field.declaration) : fields = fields' := by
  induction fields generalizing fields' with
  | nil => simpa using heq.symm
  | cons f fields ih =>
    cases fields' with
    | nil => simp at heq
    | cons g fields' =>
      rw [List.map_cons, List.map_cons, List.cons.injEq] at heq
      rw [List.forall_mem_cons] at h h'
      rw [Field.declaration_inj h.1 h'.1 heq.1, ih h.2 h'.2 heq.2]

/-- A printable record can be told from the lines of its alias. -/
theorem aliasLines_inj (h : r.Printable) (h' : r'.Printable) (heq : r.aliasLines = r'.aliasLines) :
    r = r' := by
  simp only [aliasLines, List.cons_append, List.cons.injEq, List.append_cancel_right_eq] at heq
  have hname : r.name = r'.name := by simpa using heq.1
  have hmap : r.fields.map Field.declaration = r'.fields.map Field.declaration := by
    -- Every line of the body has the same two blanks in front.
    have hlines := congrArg (List.map (List.drop 2)) heq.2
    simpa [Function.comp_def] using hlines
  have hfields := declarations_inj (fun f hf => (h.fields f hf).1) (fun f hf => (h'.fields f hf).1) hmap
  cases r
  cases r'
  simp_all

end Record

namespace Bundle
variable {options : Options} {clock : Clock} {raw : Text} {b : Bundle}

lemma read_of_build (h : build options clock raw = .ok b) :
    Dialect.read options raw = .ok b.record ∧
      b.typeText = Artifact.typeAlias b.record.name b.record.fields := by
  unfold build at h
  split at h
  · cases h
  · next r hread =>
    obtain ⟨members, -, rfl⟩ := exists_of_map_ok h
    exact ⟨hread, rfl⟩

lemma typeText_eq_unlines (h : build options clock raw = .ok b)
    (hline : styleOf (trim raw) = .slashed → '\n' ∉ raw) :
    b.record.Printable ∧ b.typeText = unlines b.record.aliasLines := by
  obtain ⟨hread, htext⟩ := read_of_build h
  have hprintable := Record.printable_of_read hread hline
  exact ⟨hprintable, htext.trans (Record.typeAlias_eq_unlines hprintable)⟩

/-- The type alias has one line for each field, tidying it changes nothing, and no two records have
the same one. -/
theorem typeText_determines_record (h : build options clock raw = .ok b)
    (hline : styleOf (trim raw) = .slashed → '\n' ∉ raw) :
    b.typeText = "export type ".toList ++ b.record.name ++ " = \x7b\n".toList ++
        (b.record.fields.flatMap fun f => "  ".toList ++ f.declaration ++ "\n".toList) ++
        "\x7d;\n".toList ∧
      Artifact.tidy b.typeText = b.typeText ∧
      ∀ (options' : Options) (clock' : Clock) (raw' : Text) (b' : Bundle),
        build options' clock' raw' = .ok b' →
        (styleOf (trim raw') = .slashed → '\n' ∉ raw') →
        (b.typeText = b'.typeText ↔ b.record = b'.record) := by
  obtain ⟨hprintable, htext⟩ := typeText_eq_unlines h hline
  have htidy : Artifact.tidy (unlines b.record.aliasLines) = unlines b.record.aliasLines := by
    rw [← Record.aliasForm_eq_unlines, ← Artifact.typeAlias, Record.typeAlias_eq_unlines hprintable,
      Record.aliasForm_eq_unlines]
  refine ⟨?_, by rw [htext, htidy], ?_⟩
  · rw [htext, ← Record.aliasForm_eq_unlines]
    unfold Artifact.aliasForm
    rw [List.flatMap_map]
    rfl
  · intro options' clock' raw' b' h' hline'
    obtain ⟨hprintable', htext'⟩ := typeText_eq_unlines h' hline'
    constructor
    · intro heq
      have hlines := congrArg lines heq
      rw [htext, htext', lines_unlines (Record.newline_not_mem_aliasLines hprintable),
        lines_unlines (Record.newline_not_mem_aliasLines hprintable')] at hlines
      exact Record.aliasLines_inj hprintable hprintable' (List.append_cancel_right hlines)
    · intro heq
      rw [htext, htext', heq]

lemma build_of_read (clock : Clock) {r : Record}
    (hread : Dialect.read { sample := false } raw = .ok r) :
    ∃ b, build { sample := false } clock raw = .ok b ∧ b.record = r := by
  unfold build
  rw [hread]
  exact ⟨_, rfl, rfl⟩

/-- A type with blanks in it, which only a slashed text can give, and a mark that makes two texts
differ. -/
theorem typeText_tells_samples_apart :
    ∃ b b', build { sample := false } (.given (.ofEpoch 0)) "type:user-tags:s[]/at?:Date | null".toList =
        .ok b ∧
      build { sample := false } (.given (.ofEpoch 0)) "User tags:s[] at:Date".toList = .ok b' ∧
      b.typeText =
        "export type User = \x7b\n  tags: string[];\n  at?: Date | null;\n\x7d;\n".toList ∧
      b.typeText ≠ b'.typeText := by
  obtain ⟨b, hb, hrecord⟩ := build_of_read (.given (.ofEpoch 0))
    (show Dialect.read { sample := false } "type:user-tags:s[]/at?:Date | null".toList =
      .ok ⟨"User".toList, [⟨"tags".toList, "string[]".toList, true⟩,
        ⟨"at".toList, "Date | null".toList, false⟩]⟩ by decide +kernel)
  obtain ⟨b', hb', hrecord'⟩ := build_of_read (.given (.ofEpoch 0))
    (show Dialect.read { sample := false } "User tags:s[] at:Date".toList =
      .ok ⟨"User".toList, [⟨"tags".toList, "string[]".toList, true⟩,
        ⟨"at".toList, "Date".toList, true⟩]⟩ by decide +kernel)
  obtain ⟨htext, -, hiff⟩ := typeText_determines_record hb (by decide)
  refine ⟨b, b', hb, hb', ?_, fun heq => ?_⟩
  · rw [htext, hrecord]
    decide
  · have hsame := (hiff _ _ _ _ hb' (by decide)).mp heq
    rw [hrecord, hrecord'] at hsame
    revert hsame
    decide

end Bundle
end Shorthand
