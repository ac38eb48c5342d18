import Shorthand.Proofs.Bundle

/-! The example object. It is built field by field: a required field adds its name behind the others,
or gives the name a new value where it is there already, and any other field adds nothing. So the
names stand in the order in which they are first required, and the last required field of a name
gives its value. -/
namespace Shorthand.Artifact
variable {now : Moment} {fields fields' : List Field} {members : List (Text × Json)} {f : Field} {v : Json}

/-- The last of the required fields with a name. -/
def LastRequired (name : Text) (f : Field) (fields : List Field) : Prop :=
  ∃ before after, fields = before ++ f :: after ∧ f.required = true ∧ f.name = name ∧
    ∀ g ∈ after, g.required = true → g.name ≠ name

/-- One change among the fields that are not required. -/
inductive OptionalEdit : List Field → List Field → Prop
  | insert (before after : List Field) (f : Field) (hf : f.required = false) :
      OptionalEdit (before ++ after) (before ++ f :: after)
  | delete (before after : List Field) (f : Field) (hf : f.required = false) :
      OptionalEdit (before ++ f :: after) (before ++ after)
  | change (before after : List Field) (f g : Field) (hf : f.required = false)
      (hg : g.required = false) : OptionalEdit (before ++ f :: after) (before ++ g :: after)

/-- The names of the required fields, each where it stands first. -/
def requiredNames (fields : List Field) : List Text :=
  ((fields.filter Field.required).map Field.name).eraseDups

/-- Members with the names that are required, each with a value for its last required field. -/
structure Exhibits (now : Moment) (fields : List Field) (members : List (Text × Json)) : Prop where
  names : members.map Prod.fst = requiredNames fields
  distinct : (members.map Prod.fst).Nodup
  values : ∀ m ∈ members, ∃ f, LastRequired m.1 f fields ∧ placeholder f.type now = .ok m.2

section Step

lemma requiredNames_concat (fields : List Field) (h : f.required = true) :
    requiredNames (fields ++ [f]) =
      if f.name ∈ requiredNames fields then requiredNames fields
      else requiredNames fields ++ [f.name] := by
  have hfilter : [f].filter Field.required = [f] := by simp [h]
  simp only [requiredNames, List.filter_append, hfilter, List.map_append, List.map_singleton,
    List.eraseDups_append, List.mem_eraseDups]
  split_ifs with hmem
  · simp [List.removeAll, hmem]
  · simp [List.removeAll, hmem, List.eraseDups_cons]

lemma LastRequired.concat {name : Text} {g : Field} (h : LastRequired name f fields)
    (hg : g.required = true → g.name ≠ name) : LastRequired name f (fields ++ [g]) := by
  obtain ⟨before, after, rfl, hrequired, hname, hafter⟩ := h
  refine ⟨before, after ++ [g], by simp, hrequired, hname, ?_⟩
  rw [List.forall_mem_append, List.forall_mem_singleton]
  exact ⟨hafter, hg⟩

lemma lastRequired_concat (fields : List Field) (h : f.required = true) :
    LastRequired f.name f (fields ++ [f]) :=
  ⟨fields, [], rfl, h, rfl, List.forall_mem_nil _⟩

/-- A field that is not required adds nothing. -/
lemma sample_concat_optional (h : f.required = false) : sample (fields ++ [f]) now = sample fields now := by
  simp [sample, List.filter_append, h]

lemma Exhibits.concat_optional (hmembers : Exhibits now fields members) (h : f.required = false) :
    Exhibits now (fields ++ [f]) members := by
  refine ⟨?_, hmembers.distinct, fun m hm => ?_⟩
  · rw [hmembers.names, requiredNames, requiredNames, List.filter_append]
    simp [h]
  · obtain ⟨g, hg, hvalue⟩ := hmembers.values m hm
    exact ⟨g, hg.concat (by simp [h]), hvalue⟩

/-- A required field is put in. -/
lemma sample_concat_required (hsample : sample fields now = .ok members) (h : f.required = true)
    (hv : placeholder f.type now = .ok v) :
    sample (fields ++ [f]) now = .ok (Json.put f.name v members) := by
  obtain ⟨pairs, hpairs, rfl⟩ := sample_eq_ok_iff.mp hsample
  refine sample_eq_ok_iff.mpr ⟨pairs ++ [(f.name, v)], ?_, Json.ofPairs_concat pairs (f.name, v)⟩
  have hfilter : [f].filter Field.required = [f] := by simp [h]
  rw [List.filter_append, hfilter]
  exact List.rel_append hpairs (.cons ⟨rfl, hv⟩ .nil)

lemma Exhibits.concat_required (hmembers : Exhibits now fields members) (h : f.required = true)
    (hv : placeholder f.type now = .ok v) :
    Exhibits now (fields ++ [f]) (Json.put f.name v members) := by
  refine ⟨?_, Json.nodup_put hmembers.distinct, fun m hm => ?_⟩
  · rw [Json.map_fst_put, hmembers.names, requiredNames_concat fields h]
  · rcases Json.mem_put_of_nodup hmembers.distinct hm with rfl | ⟨hm, hne⟩
    · exact ⟨f, lastRequired_concat fields h, hv⟩
    · obtain ⟨g, hg, hvalue⟩ := hmembers.values m hm
      exact ⟨g, hg.concat fun _ => hne.symm, hvalue⟩

end Step

section Run

/-- Field by field, an example comes out that exhibits what is required. -/
theorem exists_sample (hdate : now.universal? ≠ none) (fields : List Field) :
    ∃ members, sample fields now = .ok members ∧ Exhibits now fields members := by
  induction fields using List.reverseRecOn with
  | nil => exact ⟨[], rfl, rfl, List.nodup_nil, List.forall_mem_nil _⟩
  | append_singleton fields f ih =>
    obtain ⟨members, hsample, hmembers⟩ := ih
    cases hrequired : f.required with
    | false =>
      exact ⟨members, by rw [sample_concat_optional hrequired, hsample],
        hmembers.concat_optional hrequired⟩
    | true =>
      obtain ⟨v, hv⟩ := placeholder_ok (Moment.exists_timestamp hdate) f.type
      exact ⟨_, sample_concat_required hsample hrequired hv, hmembers.concat_required hrequired hv⟩

/-- Only the required fields are looked at. -/
lemma OptionalEdit.sample_eq (h : OptionalEdit fields fields') (now : Moment) :
    sample fields' now = sample fields now := by
  have hfilter : fields'.filter Field.required = fields.filter Field.required := by
    cases h with
    | insert before after f hf => simp [hf]
    | delete before after f hf => simp [hf]
    | change before after f g hf hg => simp [hf, hg]
  rw [sample, sample, hfilter]

lemma sample_eq_of_edits (h : Relation.ReflTransGen OptionalEdit fields fields') (now : Moment) :
    sample fields' now = sample fields now := by
  induction h with
  | refl => rfl
  | tail _ hedit ih => rw [hedit.sample_eq, ih]

end Run

/-- For a moment that has a date in universal time an example is always made. Its names are those of
the required fields in the order in which they are first required, each name once; the value of a
name is the placeholder for the last required field of that name; and fields that are not required
can be put in, taken out and changed anywhere without changing the example. -/
theorem sample_holds_required_names (fields : List Field) (now : Moment)
    (hdate : now.universal? ≠ none) :
    ∃ members, sample fields now = .ok members ∧
      members.map Prod.fst = ((fields.filter Field.required).map Field.name).eraseDups ∧
      (∀ m ∈ members, ∃ f, LastRequired m.1 f fields ∧ placeholder f.type now = .ok m.2) ∧
      ∀ fields', Relation.ReflTransGen OptionalEdit fields fields' →
        sample fields' now = .ok members := by
  obtain ⟨members, hsample, hmembers⟩ := exists_sample hdate fields
  refine ⟨members, hsample, hmembers.names, hmembers.values, fun fields' hedits => ?_⟩
  rw [sample_eq_of_edits hedits, hsample]

/-- Names that come several times, required and not. -/
def repeatedFields : List Field :=
  [⟨"email".toList, "string".toList, false⟩, ⟨"id".toList, "Date".toList, true⟩,
    ⟨"email".toList, "number".toList, true⟩, ⟨"id".toList, "boolean".toList, false⟩,
    ⟨"email".toList, "UUID[]".toList, true⟩, ⟨"email".toList, "number".toList, false⟩]

/-- An hour and a quarter after midnight, two hours ahead of universal time. -/
def lastOfJanuary : Moment := ⟨⟨2024, 1, 31⟩, 1, 15, 0, 250000, 7200⟩

/-- The first `id` gives the first name, the last required `email` the second value, and a field that
is not required can be taken out. -/
theorem sample_of_repeated_names :
    ∃ members, sample repeatedFields lastOfJanuary = .ok members ∧
      members.map Prod.fst = ["id".toList, "email".toList] ∧
      members = [("id".toList, .str "2024-01-30T23:15:00.250Z".toList), ("email".toList, .arr [])] ∧
      sample repeatedFields.tail lastOfJanuary = .ok members := by
  obtain ⟨members, hsample, hnames, -, hedits⟩ :=
    sample_holds_required_names repeatedFields lastOfJanuary (by decide)
  refine ⟨members, hsample, hnames, ?_, ?_⟩
  · have hvalues : sample repeatedFields lastOfJanuary =
        .ok [("id".toList, .str "2024-01-30T23:15:00.250Z".toList), ("email".toList, .arr [])] := rfl
    exact Except.ok.inj (hsample.symm.trans hvalues)
  · exact hedits _ (.single (.delete [] repeatedFields.tail _ rfl))

end Shorthand.Artifact
