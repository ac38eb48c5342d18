import Shorthand.Proofs.Body
import Shorthand.Proofs.Bundle

/-! Reading with fields optional by default. A text is read or refused as it is without the switch;
the record is the same but that fields may have become optional, and so are the code and the example
made from it. -/
namespace Shorthand
open Text

/-- Two attempts that fail with the same fault, or both succeed with results that are related. -/
inductive Concur {ε α β : Type} (R : α → β → Prop) : Except ε α → Except ε β → Prop
  | error (e : ε) : Concur R (.error e) (.error e)
  | ok {a : α} {b : β} : R a b → Concur R (.ok a) (.ok b)

section Concur
variable {ε α β γ δ : Type} {R : α → β → Prop} {S : γ → δ → Prop} {x : Except ε α} {y : Except ε β}

lemma Concur.map {f : α → γ} {g : β → δ} (h : Concur R x y) (hfg : ∀ a b, R a b → S (f a) (g b)) :
    Concur S (x.map f) (y.map g) := by
  cases h with
  | error e => exact .error e
  | ok hR => exact .ok (hfg _ _ hR)

lemma Concur.imp {S : α → β → Prop} (h : Concur R x y) (himp : ∀ a b, x = .ok a → R a b → S a b) :
    Concur S x y := by
  cases h with
  | error e => exact .error e
  | ok hR => exact .ok (himp _ _ rfl hR)

lemma concur_eq (x : Except ε α) : Concur Eq x x := by
  cases x with
  | error e => exact .error e
  | ok a => exact .ok rfl

end Concur

/-- The same field, or the same field made optional. -/
structure Field.Loosened (f g : Field) : Prop where
  name : g.name = f.name
  type : g.type = f.type
  required : g.required = true → f.required = true

/-- The same record, but that fields may be optional. -/
structure Record.Loosened (r r' : Record) : Prop where
  name : r'.name = r.name
  fields : List.Forall₂ Field.Loosened r.fields r'.fields

namespace Dialect
variable {strict loose : Options}

lemma readItems_concur {R : Field → Field → Prop} {read read' : Text → Except Fault Field}
    (h : ∀ item, Concur R (read item) (read' item)) (index : Nat) (items : List Text) :
    Concur (List.Forall₂ R) (readItems read index items) (readItems read' index items) := by
  induction items generalizing index with
  | nil => exact .ok .nil
  | cons item items ih =>
    have hitem := h item
    rw [readItems, readItems]
    generalize read item = x at hitem ⊢
    generalize read' item = y at hitem ⊢
    cases hitem with
    | error fault => exact .error _
    | ok hR => exact (ih (index + 1)).map fun _ _ hrest => .cons hR hrest

/-- A mark decides alone, and without a mark only the switch can make a field optional. -/
lemma Spaced.field_loosened (h : strict.optionalByDefault = false) (name : MarkedName)
    (type : Option Text) : (field strict name type).Loosened (field loose name type) := by
  refine ⟨rfl, rfl, ?_⟩
  cases hmark : name.required with
  | none => simp [field, hmark, h]
  | some mark => simp [field, hmark]

/-- A later segment `o` counts whatever the switch says. -/
lemma Slashed.field_loosened (h : strict.optionalByDefault = false) (name : MarkedName) (type : Text)
    (later : List Text) : (field strict name type later).Loosened (field loose name type later) := by
  refine ⟨rfl, rfl, ?_⟩
  cases hmark : name.required with
  | none =>
    simp only [field, hmark, h, Option.getD_none, Bool.and_eq_true, Bool.not_false, and_true]
    exact And.left
  | some mark => simp [field, hmark]

lemma Spaced.readItem_concur (h : strict.optionalByDefault = false) (item : Text) :
    Concur Field.Loosened (readItem strict item) (readItem loose item) := by
  simp only [readItem]
  split_ifs
  · exact .error _
  · exact .error _
  · refine (concur_eq _).map ?_
    rintro name _ rfl
    exact field_loosened h name _

lemma Slashed.readChunk_concur (h : strict.optionalByDefault = false) (chunk : Text) :
    Concur Field.Loosened (readChunk strict chunk) (readChunk loose chunk) := by
  unfold readChunk
  split
  · next first type later _ =>
    split_ifs
    · exact .error _
    · refine (concur_eq _).map ?_
      rintro name _ rfl
      exact field_loosened h name type later
  · exact .error _

/-- Whatever the dialect, a text is refused alike or read as a record with more optional fields. -/
theorem read_concur (h : strict.optionalByDefault = false) (loose : Options) (raw : Text) :
    Concur Record.Loosened (read strict raw) (read loose raw) := by
  unfold read
  dsimp only
  split_ifs
  · exact .error _
  · cases styleOf (trim raw) with
    | slashed =>
      simp only [Slashed.read]
      split_ifs
      · exact .error _
      · exact .error _
      · exact (readItems_concur (Slashed.readChunk_concur h) 0 _).map fun _ _ hfields => ⟨rfl, hfields⟩
    | spaced =>
      simp only [Spaced.read]
      split_ifs
      · exact .error _
      · exact .error _
      · exact (readItems_concur (Spaced.readItem_concur h) 0 _).map fun _ _ hfields => ⟨rfl, hfields⟩

end Dialect

section Artifacts
variable {f g : Field} {fields fields' : List Field} {name : Text}

/-- The mark that is added when a required field becomes optional. -/
def Field.addedMark (f g : Field) : Text := if f.required && !g.required then ['?'] else []

lemma Field.Loosened.mark_eq (h : f.Loosened g) : g.mark = f.mark ++ f.addedMark g := by
  unfold mark addedMark
  cases hf : f.required with
  | true => cases g.required <;> rfl
  | false =>
    have hg : g.required = false := by
      by_contra hn
      rw [h.required (by simpa using hn)] at hf
      cases hf
    rw [hg]
    rfl

/-- The code of one record is that of another with a question mark added behind the name of each field
that is required in the first and not in the second, and with nothing else changed. -/
def MarksAdded (fields fields' : List Field) (code code' : Text) : Prop :=
  ∃ (front back : Text) (rest : Text → Text), (∀ type, (rest type).head? = some ':') ∧
    code = front ++
      (fields.flatMap fun f => "  ".toList ++ f.name ++ f.mark ++ rest f.type) ++ back ∧
    code' = front ++
      ((fields.zip fields').flatMap fun fg =>
        "  ".toList ++ fg.1.name ++ fg.1.mark ++ fg.1.addedMark fg.2 ++ rest fg.1.type) ++ back

lemma blocks_of_loosened (h : List.Forall₂ Field.Loosened fields fields') :
    fields'.flatMap Field.block =
      (fields.zip fields').flatMap fun fg =>
        "  ".toList ++ fg.1.name ++ fg.1.mark ++ fg.1.addedMark fg.2 ++ Field.typePart fg.1.type := by
  induction h with
  | nil => rfl
  | cons hfirst _ ih =>
    rw [List.flatMap_cons, ih, List.zip_cons_cons, List.flatMap_cons, Field.block, hfirst.name,
      hfirst.type, hfirst.mark_eq]
    simp only [List.append_assoc]

lemma marksAdded_of_loosened (h : List.Forall₂ Field.Loosened fields fields') (front back : Text) :
    MarksAdded fields fields' (front ++ fields.flatMap Field.block ++ back)
      (front ++ fields'.flatMap Field.block ++ back) :=
  ⟨front, back, Field.typePart, Field.head_typePart, rfl, by rw [blocks_of_loosened h]⟩

lemma newlines_of_loosened (h : List.Forall₂ Field.Loosened fields fields')
    (hfields : ∀ f ∈ fields, '\n' ∉ f.name) : ∀ g ∈ fields', '\n' ∉ g.name := by
  intro g hg
  obtain ⟨f, hf, hfg⟩ := Dialect.exists_item_of_field h g hg
  rw [hfg.name]
  exact hfields f hf

lemma typeAlias_marksAdded (h : List.Forall₂ Field.Loosened fields fields') (hname : '\n' ∉ name)
    (hfields : ∀ f ∈ fields, '\n' ∉ f.name) :
    MarksAdded fields fields' (Artifact.typeAlias name fields) (Artifact.typeAlias name fields') := by
  rw [Artifact.typeAlias_eq_blocks hname hfields,
    Artifact.typeAlias_eq_blocks hname (newlines_of_loosened h hfields)]
  exact marksAdded_of_loosened h _ _

lemma interface_marksAdded (h : List.Forall₂ Field.Loosened fields fields') (hname : '\n' ∉ name)
    (hfields : ∀ f ∈ fields, '\n' ∉ f.name) :
    MarksAdded fields fields' (Artifact.interface name fields) (Artifact.interface name fields') := by
  rw [Artifact.interface_eq_blocks hname hfields,
    Artifact.interface_eq_blocks hname (newlines_of_loosened h hfields)]
  exact marksAdded_of_loosened h _ _

end Artifacts

namespace Artifact
variable {now : Moment} {fields fields' : List Field} {members : List (Text × Json)} {name : Text}

lemma map_fst_members {required : List Field} {pairs : List (Text × Json)}
    (h : List.Forall₂ (IsMemberFor now) required pairs) :
    pairs.map Prod.fst = required.map Field.name := by
  induction h with
  | nil => rfl
  | cons hfirst _ ih => rw [List.map_cons, List.map_cons, ih, hfirst.1]

/-- The names in an example are those of the required fields. -/
lemma mem_sample_names (h : sample fields now = .ok members) :
    name ∈ members.map Prod.fst ↔ ∃ f ∈ fields, f.required = true ∧ f.name = name := by
  obtain ⟨pairs, hpairs, rfl⟩ := sample_eq_ok_iff.mp h
  rw [Json.mem_map_fst_ofPairs, map_fst_members hpairs]
  simp [and_assoc]

lemma placeholder_of_sample (h : sample fields now = .ok members) {f : Field} (hf : f ∈ fields)
    (hrequired : f.required = true) : ∃ v, placeholder f.type now = .ok v := by
  obtain ⟨pairs, hpairs, -⟩ := sample_eq_ok_iff.mp h
  obtain ⟨m, -, hm⟩ := Dialect.exists_item_of_field hpairs.flip f (List.mem_filter.mpr ⟨hf, hrequired⟩)
  exact ⟨m.2, hm.2⟩

/-- Where fields are made optional, an example can still be made and gets no new names. -/
theorem sample_of_loosened (hloose : List.Forall₂ Field.Loosened fields fields')
    (h : sample fields now = .ok members) :
    ∃ members', sample fields' now = .ok members' ∧
      members'.map Prod.fst ⊆ members.map Prod.fst := by
  have hback : ∀ g ∈ fields', g.required = true →
      ∃ f ∈ fields, f.required = true ∧ f.name = g.name ∧ f.type = g.type := by
    intro g hg hrequired
    obtain ⟨f, hf, hfg⟩ := Dialect.exists_item_of_field hloose g hg
    exact ⟨f, hf, hfg.required hrequired, hfg.name.symm, hfg.type.symm⟩
  obtain ⟨members', hmembers'⟩ : ∃ members', sample fields' now = .ok members' := by
    refine sample_ok fun g hg hrequired => ?_
    obtain ⟨f, hf, hreq, -, htype⟩ := hback g hg hrequired
    rw [← htype]
    exact placeholder_of_sample h hf hreq
  refine ⟨members', hmembers', fun name hname => ?_⟩
  obtain ⟨g, hg, hrequired, rfl⟩ := (mem_sample_names hmembers').mp hname
  obtain ⟨f, hf, hreq, hsame, -⟩ := hback g hg hrequired
  exact (mem_sample_names h).mpr ⟨f, hf, hreq, hsame⟩

end Artifact

namespace Bundle
variable {strict loose : Options} {clock : Clock} {raw : Text} {b : Bundle}

/-- The names in the example of a bundle, none if there is no example. -/
def sampleNames (b : Bundle) : List Text := (b.sample.getD []).map Prod.fst

/-- A bundle with more optional fields: its example is there when the other is, with no new names. -/
structure Loosened (b b' : Bundle) : Prop where
  record : b.record.Loosened b'.record
  sample : b'.sample.isSome = b.sample.isSome
  names : b'.sampleNames ⊆ b.sampleNames

lemma sampleFor_of_loosened {fields fields' : List Field} {members : Option (List (Text × Json))}
    (hloose : List.Forall₂ Field.Loosened fields fields') (hsame : strict.sample = loose.sample)
    (h : sampleFor strict fields clock = .ok members) :
    ∃ members', sampleFor loose fields' clock = .ok members' ∧ members'.isSome = members.isSome ∧
      (members'.getD []).map Prod.fst ⊆ (members.getD []).map Prod.fst := by
  unfold sampleFor at h ⊢
  rw [← hsame]
  cases hsample : strict.sample with
  | false =>
    rw [hsample] at h
    obtain rfl := Except.ok.inj h
    exact ⟨none, rfl, rfl, List.Subset.refl _⟩
  | true =>
    rw [hsample] at h
    cases hclock : clock.read with
    | error fault =>
      rw [hclock] at h
      cases h
    | ok now =>
      rw [hclock] at h
      cases hmembers : Artifact.sample fields now with
      | error fault =>
        simp only [bind, Except.bind, hmembers] at h
        cases h
      | ok ms =>
        simp only [bind, Except.bind, hmembers] at h
        obtain rfl := Except.ok.inj h
        obtain ⟨ms', hms', hnames⟩ := Artifact.sample_of_loosened hloose hmembers
        refine ⟨some ms', ?_, rfl, hnames⟩
        simp only [bind, Except.bind, hms']
        rfl

/-- What is made without the switch is made with it too. -/
theorem build_of_loosened (hoff : strict.optionalByDefault = false)
    (hsame : strict.sample = loose.sample) (h : build strict clock raw = .ok b) :
    ∃ b', build loose clock raw = .ok b' ∧ b.Loosened b' := by
  have hconcur := Dialect.read_concur hoff loose raw
  obtain ⟨r, members, hread, hmembers, rfl⟩ := exists_of_build h
  rw [hread] at hconcur
  generalize hloose : Dialect.read loose raw = result at hconcur
  cases hconcur with
  | @ok _ r' hr =>
    obtain ⟨members', hmembers', hsome, hnames⟩ := sampleFor_of_loosened hr.fields hsame hmembers
    refine ⟨assemble loose r' members', ?_, hr, hsome, hnames⟩
    rw [build_of_read_ok hloose, hmembers']
    rfl

/-- Making fields optional by default does that and nothing else: every text is refused alike, or read
as a record of the same fields of which more may be optional. The example gets no new names, and to
the code only question marks are added, one behind the name of each field that became optional. -/
theorem optional_by_default_only_loosens (options : Options) (raw : Text) :
    Concur (fun r r' => r.Loosened r' ∧
        MarksAdded r.fields r'.fields (Artifact.typeAlias r.name r.fields)
          (Artifact.typeAlias r'.name r'.fields) ∧
        MarksAdded r.fields r'.fields (Artifact.interface r.name r.fields)
          (Artifact.interface r'.name r'.fields))
      (Dialect.read (options.set .optionalByDefault false) raw)
      (Dialect.read (options.set .optionalByDefault true) raw) ∧
    ∀ (clock : Clock) (b : Bundle),
      build (options.set .optionalByDefault false) clock raw = .ok b →
      ∃ b', build (options.set .optionalByDefault true) clock raw = .ok b' ∧ b.Loosened b' := by
  refine ⟨?_, fun clock b hb => build_of_loosened (by rfl) (by rfl) hb⟩
  have hoff : (options.set .optionalByDefault false).optionalByDefault = false := rfl
  refine (Dialect.read_concur hoff _ raw).imp fun r r' hread hr => ⟨hr, ?_⟩
  obtain ⟨hname, hfields⟩ := Dialect.read_lines hread
  rw [hr.name]
  exact ⟨typeAlias_marksAdded hr.fields hname hfields, interface_marksAdded hr.fields hname hfields⟩

/-- A name that is required once and optional once: without the switch it is in the example, with it
only the field that is marked as required is. -/
theorem optional_by_default_loosens_sample :
    ∃ b b', build (({} : Options).set .optionalByDefault false) (.given (.ofEpoch 0))
        "User a b! c? a?:n".toList = .ok b ∧
      build (({} : Options).set .optionalByDefault true) (.given (.ofEpoch 0))
        "User a b! c? a?:n".toList = .ok b' ∧
      b.Loosened b' ∧ b.sampleNames = ["a".toList, "b".toList] ∧ b'.sampleNames = ["b".toList] := by
  have hstrict : Dialect.read (({} : Options).set .optionalByDefault false)
      "User a b! c? a?:n".toList =
      .ok ⟨"User".toList, [⟨"a".toList, "string".toList, true⟩, ⟨"b".toList, "string".toList, true⟩,
        ⟨"c".toList, "string".toList, false⟩, ⟨"a".toList, "number".toList, false⟩]⟩ := by
    decide +kernel
  have hloose : Dialect.read (({} : Options).set .optionalByDefault true)
      "User a b! c? a?:n".toList =
      .ok ⟨"User".toList, [⟨"a".toList, "string".toList, false⟩, ⟨"b".toList, "string".toList, true⟩,
        ⟨"c".toList, "string".toList, false⟩, ⟨"a".toList, "number".toList, false⟩]⟩ := by
    decide +kernel
  have hb := build_of_read_ok hstrict (.given (.ofEpoch 0))
  obtain ⟨b', hb', hbundle⟩ := (optional_by_default_only_loosens {} _).2 _ _ hb
  refine ⟨_, b', hb, hb', hbundle, rfl, ?_⟩
  have hmade := build_of_read_ok hloose (.given (.ofEpoch 0))
  rw [hb'] at hmade
  obtain rfl := Except.ok.inj hmade
  rfl

end Bundle
end Shorthand
