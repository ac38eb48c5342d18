import Shorthand.Proofs.Bundle
import Shorthand.Proofs.Items
import Shorthand.Proofs.Json.Writer

/-! Where the characters of a result come from: from the record text, or from visible ASCII. -/
namespace Shorthand
open Text
variable {cut : Char → Bool}

lemma Text.Free.append {s t : Text} (hs : Free cut s) (ht : Free cut t) : Free cut (s ++ t) :=
  free_append.mpr ⟨hs, ht⟩

lemma Identifier.isPlain_of_isNameChar {c : Char} (h : isNameChar c = true) :
    isPlain c = true := by
  rcases Bool.or_eq_true_iff.mp h with hkept | hunder
  · refine isPlain_of_bounds ?_
    have hrange := isKept_bounds hkept
    omega
  · rw [beq_iff_eq.mp hunder]
    rfl

lemma free_nameChars (hcut : AvoidsPlain cut) {name : Text} (h : Run Identifier.isNameChar name) :
    Free cut name :=
  fun c hc => hcut c (Identifier.isPlain_of_isNameChar (h c hc))

lemma isPlain_of_isAlpha {c : Char} (h : c.isAlpha = true) : isPlain c = true := by
  have hrange : (65 ≤ c.toNat ∧ c.toNat ≤ 90) ∨ (97 ≤ c.toNat ∧ c.toNat ≤ 122) := by
    simpa [Char.isAlpha, ← isUpper_iff, ← isLower_iff] using h
  refine isPlain_of_bounds ?_
  omega

namespace Dialect
variable {options : Options} {raw : Text} {r : Record} {problem : Problem}

/-- The item that a text is rejected for stands in the text. -/
theorem read_token_subset (h : read options raw = .error problem) :
    ∀ token ∈ problem.token, token ⊆ raw := by
  rcases read_error_cases h with ⟨hnone, -⟩ | ⟨-, before, item, after, fields, fault, hitems, -, -, rfl⟩
  · simp [hnone]
  · rintro token ⟨⟩
    exact (item_isInfix (by simp [hitems])).subset

/-- The position that a text is rejected for is less than the number of its characters. -/
theorem read_index_lt (h : read options raw = .error problem) :
    ∀ i ∈ problem.index, ∃ n : Nat, i = n ∧ n < raw.length := by
  rcases read_error_cases h with ⟨-, hnone⟩ | ⟨-, before, item, after, fields, fault, hitems, -, -, rfl⟩
  · simp [hnone]
  · rintro i ⟨⟩
    have hlength := length_itemsOf_le raw
    rw [hitems, List.length_append, List.length_cons] at hlength
    exact ⟨before.length, rfl, by omega⟩

lemma Spaced.readItem_word {item : Text} {f : Field} (h : Spaced.readItem options item = .ok f) :
    ∃ word, (word ⊆ item ∨ Run isPlain word) ∧ f.type = FieldType.resolve word := by
  simp only [Spaced.readItem] at h
  split_ifs at h
  obtain ⟨name, -, rfl⟩ := exists_of_map_ok h
  cases hs : (Spaced.split (dropMark ';' item)).2 with
  | none =>
    obtain ⟨word, hmem, hinfer⟩ := FieldType.infer_eq_resolve name.name
    have hwords : ∀ word ∈ ["d".toList, "b".toList, "s".toList, "s[]".toList],
        Run isPlain word := by decide
    exact ⟨word, .inr (hwords word hmem), hinfer⟩
  | some word =>
    exact ⟨word, .inl (List.Subset.trans (Spaced.split_type hs).2 (dropMark_subset _ _)), rfl⟩

/-- A type is what a word stands for that is written in the text or guessed. -/
theorem read_type_word (h : read options raw = .ok r) :
    ∀ f ∈ r.fields, ∃ word, (word ⊆ raw ∨ Run isPlain word) ∧ f.type = FieldType.resolve word := by
  intro f hf
  obtain ⟨-, -, -, hfields⟩ := read_eq_ok_iff.mp h
  obtain ⟨item, hitem, hread⟩ := exists_item_of_field hfields f hf
  have hsub : item ⊆ raw := (item_isInfix hitem).subset
  cases hstyle : styleOf (trim raw) with
  | spaced =>
    rw [hstyle] at hread
    obtain ⟨word, hword, htype⟩ := Spaced.readItem_word hread
    exact ⟨word, hword.imp_left fun hw => List.Subset.trans hw hsub, htype⟩
  | slashed =>
    rw [hstyle] at hread
    obtain ⟨-, word, hword, htype⟩ := Slashed.readChunk_ok hread
    exact ⟨word, .inl (List.Subset.trans hword hsub), htype⟩

theorem read_types_free (hcut : AvoidsPlain cut) (hraw : Free cut raw)
    (h : read options raw = .ok r) : ∀ f ∈ r.fields, Free cut f.type := by
  intro f hf
  obtain ⟨word, hword, htype⟩ := read_type_word h f hf
  rw [htype]
  refine FieldType.resolve_free (fun c hc => hcut c (isPlain_of_isAlpha hc)) ?_
  · rcases hword with hsub | hrun
    · exact hraw.subset hsub
    · exact hcut.free hrun

end Dialect

namespace Artifact
variable {name code : Text} {ls : List Text} {fields : List Field}

/-- Tidying brings in nothing but line feeds. -/
lemma tidy_free (hcut : AvoidsPlain cut) (h : Free cut code) : Free cut (tidy code) := by
  refine join_free (hcut.free (by decide)) (tidyLines_free ?_ 0)
  intro line hline
  exact h.subset (splitOnP_mem _ code line hline).2.subset

lemma bodyLines_free (hcut : AvoidsPlain cut) (h : ∀ line ∈ ls, Free cut line) :
    Free cut (ls.flatMap bodyLine) := by
  intro c hc
  obtain ⟨line, hline, hc⟩ := List.mem_flatMap.mp hc
  have hbody : Free cut (bodyLine line) :=
    ((hcut.free (by decide)).append (h line hline)).append (hcut.free (by decide))
  exact hbody c hc

lemma declaration_free (hcut : AvoidsPlain cut) {f : Field} (hname : Free cut f.name)
    (htype : Free cut f.type) : Free cut f.declaration := by
  have hmark : Free cut (if f.required then [] else ['?']) := by
    split_ifs
    · exact free_nil
    · exact hcut.free (by decide)
  exact (((hname.append hmark).append (hcut.free (by decide))).append htype).append
    (hcut.free (by decide))

lemma print_free (hcut : AvoidsPlain cut) (e : FieldType.ZodExpr) : Free cut e.print := by
  induction e with
  | string | number | boolean | date | unknown | any => exact hcut.free (by decide)
  | array e ih => exact ((hcut.free (by decide)).append ih).append (hcut.free (by decide))

lemma validator_free (hcut : AvoidsPlain cut) (f : Field) : Free cut f.validator := by
  refine (print_free hcut _).append ?_
  split_ifs
  · exact free_nil
  · exact hcut.free (by decide)

lemma declarations_free (hcut : AvoidsPlain cut)
    (hfields : ∀ f ∈ fields, Free cut f.name ∧ Free cut f.type) :
    Free cut ((fields.map Field.declaration).flatMap bodyLine) := by
  refine bodyLines_free hcut fun line hline => ?_
  obtain ⟨f, hf, rfl⟩ := List.mem_map.mp hline
  exact declaration_free hcut (hfields f hf).1 (hfields f hf).2

lemma typeAlias_free (hcut : AvoidsPlain cut) (hname : Free cut name)
    (hfields : ∀ f ∈ fields, Free cut f.name ∧ Free cut f.type) :
    Free cut (typeAlias name fields) :=
  tidy_free hcut (((((hcut.free (by decide)).append hname).append (hcut.free (by decide))).append
    (declarations_free hcut hfields)).append (hcut.free (by decide)))

lemma interface_free (hcut : AvoidsPlain cut) (hname : Free cut name)
    (hfields : ∀ f ∈ fields, Free cut f.name ∧ Free cut f.type) :
    Free cut (interface name fields) :=
  tidy_free hcut (((((hcut.free (by decide)).append hname).append (hcut.free (by decide))).append
    (declarations_free hcut hfields)).append (hcut.free (by decide)))

lemma schema_free (hcut : AvoidsPlain cut) (hname : Free cut name)
    (hfields : ∀ f ∈ fields, Free cut f.name) (strict : Bool) :
    Free cut (schema name fields strict) := by
  have hentries : Free cut
      (((fields.map fun f => (f.name, f.validator)).map schemaEntry).flatMap bodyLine) := by
    refine bodyLines_free hcut fun line hline => ?_
    obtain ⟨entry, hentry, rfl⟩ := List.mem_map.mp hline
    obtain ⟨f, hf, rfl⟩ := List.mem_map.mp hentry
    exact (((hfields f hf).append (hcut.free (by decide))).append (validator_free hcut f)).append
      (hcut.free (by decide))
  have hstrict : Free cut (if strict then ".strict()".toList else []) := by
    split_ifs
    · exact hcut.free (by decide)
    · exact free_nil
  have hopen := (hcut.free (s := "import \x7b z \x7d from \"zod\";\n\nexport const ".toList)
    (by decide)).append (hname.append (hcut.free (s := "Schema = z.object(\x7b\n".toList)
      (by decide)))
  have hclose := (hcut.free (s := "\x7d)".toList) (by decide)).append (hstrict.append
    (hcut.free (s := ";\n\nexport type ".toList) (by decide)))
  have hlast := hname.append ((hcut.free (s := " = z.infer<typeof ".toList) (by decide)).append
    (hname.append (hcut.free (s := "Schema>;\n".toList) (by decide))))
  have hform := hopen.append (hentries.append (hclose.append hlast))
  refine tidy_free hcut ?_
  unfold schemaForm
  simp only [List.append_assoc] at hform ⊢
  exact hform

lemma padded_free (hcut : AvoidsPlain cut) (size n : Nat) : Free cut (padded size n) := by
  refine hcut.free_digits (run_append.mpr ⟨fun c hc => ?_, Json.run_ofNat n⟩)
  rw [List.eq_of_mem_replicate hc]
  rfl

lemma timestamp_free (hcut : AvoidsPlain cut) {m : Moment} {t : Text} (h : m.timestamp = .ok t) :
    Free cut t := by
  unfold Moment.timestamp at h
  split at h
  · cases h
  · obtain rfl := Except.ok.inj h
    unfold Moment.format
    simp [padded_free hcut, hcut '-' rfl, hcut 'T' rfl, hcut ':' rfl, hcut '.' rfl, hcut 'Z' rfl]

lemma placeholder_regular (hcut : AvoidsPlain cut) {type : Text} {now : Moment} {v : Json}
    (h : placeholder type now = .ok v) : Json.Regular (Free cut) v := by
  unfold placeholder at h
  split_ifs at h
  · rw [← Except.ok.inj h]
    exact .arr nofun
  · rw [← Except.ok.inj h]
    exact .str free_nil
  · rw [← Except.ok.inj h]
    exact .int (by decide)
  · rw [← Except.ok.inj h]
    exact .bool false
  · obtain ⟨t, ht, rfl⟩ := exists_of_map_ok h
    exact .str (timestamp_free hcut ht)
  · rw [← Except.ok.inj h]
    exact .null

lemma sample_regular (hcut : AvoidsPlain cut) (hnames : ∀ f ∈ fields, Free cut f.name)
    {now : Moment} {members : List (Text × Json)} (h : sample fields now = .ok members) :
    Json.Regular (Free cut) (.obj members) := by
  obtain ⟨pairs, hpairs, rfl⟩ := sample_eq_ok_iff.mp h
  have hmember : ∀ m ∈ Json.ofPairs pairs, Free cut m.1 ∧ Json.Regular (Free cut) m.2 := by
    intro m hm
    obtain ⟨f, hf, hname, hv⟩ :=
      Dialect.exists_item_of_field hpairs m (Json.mem_of_mem_ofPairs hm)
    rw [hname]
    exact ⟨hnames f (List.mem_filter.mp hf).1, placeholder_regular hcut hv⟩
  exact .obj (Json.nodup_ofPairs pairs) (fun m hm => (hmember m hm).1) (fun m hm => (hmember m hm).2)

end Artifact

lemma Json.regular_obj {ok : Text → Prop} {ms : List (Text × Json)} (hnames : (ms.map Prod.fst).Nodup)
    (h : ∀ m ∈ ms, ok m.1 ∧ Regular ok m.2) : Regular ok (.obj ms) :=
  .obj hnames (fun m hm => (h m hm).1) (fun m hm => (h m hm).2)

lemma Record.toJson_regular (hcut : AvoidsPlain cut) {r : Record} (hname : Free cut r.name)
    (hfields : ∀ f ∈ r.fields, Free cut f.name ∧ Free cut f.type) :
    Json.Regular (Free cut) r.toJson := by
  have hfield (f : Field) (hf : f ∈ r.fields) : Json.Regular (Free cut) f.toJson := by
    obtain ⟨hname, htype⟩ := hfields f hf
    have hkeys : ["name".toList, "type".toList, "required".toList].Nodup := by decide
    refine Json.regular_obj hkeys ?_
    simp only [List.forall_mem_cons]
    exact ⟨⟨hcut.free (by decide), .str hname⟩, ⟨hcut.free (by decide), .str htype⟩,
      ⟨hcut.free (by decide), .bool _⟩, nofun⟩
  have hprops : Json.Regular (Free cut) (.arr (r.fields.map Field.toJson)) := by
    refine .arr fun v hv => ?_
    obtain ⟨f, hf, rfl⟩ := List.mem_map.mp hv
    exact hfield f hf
  have hkeys : ["type".toList, "props".toList].Nodup := by decide
  refine Json.regular_obj hkeys ?_
  simp only [List.forall_mem_cons]
  exact ⟨⟨hcut.free (by decide), .str hname⟩, ⟨hcut.free (by decide), hprops⟩, nofun⟩

namespace Dialect

lemma Fault.message_plain (fault : Fault) : Run isPlain fault.message := by
  cases fault with
  | missingFields style => cases style <;> decide
  | missingName style => cases style <;> decide
  | _ => decide

lemma Fault.hint_plain (fault : Fault) : Run isPlain fault.hint := by
  cases fault with
  | missingFields style => cases style <;> decide
  | missingName style => cases style <;> decide
  | _ => decide

lemma Problem.toJson_report (problem : Problem) :
    problem.report.toJson = .obj [("error".toList, .str problem.fault.message),
      ("index".toList, problem.index.elim .null .int),
      ("token".toList, problem.token.elim .null .str),
      ("hint".toList, .str problem.fault.hint)] := by
  obtain ⟨fault, token, index⟩ := problem
  cases token <;> cases index <;> rfl

/-- What is said about a text that cannot be read, as long as the text has not too many characters to
count them. -/
theorem report_regular (hcut : AvoidsPlain cut) {options : Options} {raw : Text} {problem : Problem}
    (hraw : Free cut raw) (hsize : raw.length ≤ 10 ^ mostDigits)
    (h : read options raw = .error problem) : Json.Regular (Free cut) problem.report.toJson := by
  have hkeys : ["error".toList, "index".toList, "token".toList, "hint".toList].Nodup := by decide
  have hindex : Json.Regular (Free cut) (problem.index.elim .null .int) := by
    cases hindex : problem.index with
    | none => exact .null
    | some i =>
      obtain ⟨n, rfl, hn⟩ := read_index_lt h i hindex
      exact .int (Json.isShort_iff.mpr (hn.trans_le hsize))
  have htoken : Json.Regular (Free cut) (problem.token.elim .null .str) := by
    cases htoken : problem.token with
    | none => exact .null
    | some token => exact .str (hraw.subset (read_token_subset h token htoken))
  rw [Problem.toJson_report]
  refine Json.regular_obj hkeys ?_
  simp only [List.forall_mem_cons]
  exact ⟨⟨hcut.free (by decide), .str (hcut.free problem.fault.message_plain)⟩,
    ⟨hcut.free (by decide), hindex⟩, ⟨hcut.free (by decide), htoken⟩,
    ⟨hcut.free (by decide), .str (hcut.free problem.fault.hint_plain)⟩, List.forall_mem_nil _⟩

end Dialect

namespace Bundle
variable {options : Options} {clock : Clock} {raw : Text} {b : Bundle}

lemma nodup_names (b : Bundle) :
    ("typeName".toList :: "normalized".toList :: b.artifacts.map Prod.fst).Nodup := by
  obtain ⟨record, typeText, interfaceText, zodText, sample⟩ := b
  cases interfaceText <;> cases zodText <;> cases sample <;>
    simp only [artifacts, Option.map_none, Option.map_some, Option.toList_none, Option.toList_some,
      List.nil_append, List.append_nil, List.cons_append, List.map_cons, List.map_nil] <;>
    decide

lemma sampleFor_ok {fields : List Field} {members : List (Text × Json)}
    (h : sampleFor options fields clock = .ok (some members)) :
    ∃ now, Artifact.sample fields now = .ok members := by
  unfold sampleFor at h
  split_ifs at h
  · cases hsample : clock.read >>= Artifact.sample fields with
    | error fault =>
      rw [hsample] at h
      cases h
    | ok members' =>
      rw [hsample] at h
      obtain rfl : members' = members := by simpa using h
      cases hnow : clock.read with
      | error fault =>
        rw [hnow] at hsample
        cases hsample
      | ok now =>
        rw [hnow] at hsample
        exact ⟨now, hsample⟩
  · cases h

/-- All that a bundle says is made of the record text and of plain characters. -/
theorem toJson_regular (hcut : AvoidsPlain cut) (hraw : Free cut raw)
    (h : build options clock raw = .ok b) : Json.Regular (Free cut) b.toJson := by
  cases hread : Dialect.read options raw with
  | error problem =>
    rw [build_of_read_error hread] at h
    cases h
  | ok r =>
    rw [build_of_read_ok hread] at h
    obtain ⟨members, hsample, rfl⟩ := exists_of_map_ok h
    obtain ⟨hname, -, hnames⟩ := Dialect.read_names hread
    have hrecord : Free cut r.name := free_nameChars hcut hname.nameChars
    have hfields : ∀ f ∈ r.fields, Free cut f.name ∧ Free cut f.type := fun f hf =>
      ⟨free_nameChars hcut (hnames f hf).nameChars, Dialect.read_types_free hcut hraw hread f hf⟩
    refine Json.regular_obj (nodup_names _) ?_
    simp only [List.forall_mem_cons, artifacts, assemble]
    refine ⟨⟨hcut.free (by decide), .str hrecord⟩,
      ⟨hcut.free (by decide), Record.toJson_regular hcut hrecord hfields⟩,
      ⟨hcut.free (by decide), .str (Artifact.typeAlias_free hcut hrecord hfields)⟩, ?_⟩
    intro m hm
    simp only [List.mem_append, Option.mem_toList, Option.map_eq_some_iff] at hm
    rcases hm with (⟨t, ht, rfl⟩ | ⟨t, ht, rfl⟩) | ⟨ms, hms, rfl⟩
    · split_ifs at ht
      obtain rfl := Option.some.inj ht
      exact ⟨hcut.free (s := "interface".toList) (by decide),
        .str (Artifact.interface_free hcut hrecord hfields)⟩
    · split_ifs at ht
      obtain rfl := Option.some.inj ht
      exact ⟨hcut.free (s := "zod".toList) (by decide),
        .str (Artifact.schema_free hcut hrecord (fun f hf => (hfields f hf).1) _)⟩
    · subst hms
      obtain ⟨now, hnow⟩ := sampleFor_ok hsample
      exact ⟨hcut.free (s := "example".toList) (by decide),
        Artifact.sample_regular hcut (fun f hf => (hfields f hf).1) hnow⟩

end Bundle
end Shorthand
