import Shorthand.Proofs.Declaration
import Shorthand.Proofs.Json.Members

/-! When a bundle is made: a text that is read gives one, unless an example is wanted that the clock
cannot date, and a clock in universal time dates every example. -/
namespace Shorthand

namespace Moment
variable {m : Moment}

/-- A time of day in universal time. -/
structure IsUniversal (m : Moment) : Prop where
  hour : m.hour < 24
  minute : m.minute < 60
  second : m.second < 60
  offset : m.offset = 0

/-- The program's own clock tells universal time. -/
lemma ofEpoch_isUniversal (n : Nat) : (ofEpoch n).IsUniversal := by
  constructor
  · change n / 1000000 % 86400 / 3600 < 24
    omega
  · change n / 1000000 % 86400 / 60 % 60 < 60
    omega
  · change n / 1000000 % 86400 % 60 < 60
    omega
  · rfl

lemma IsUniversal.universal? (h : m.IsUniversal) :
    m.universal? = some (m.date, (m.hour * 60 + m.minute) * 60 + m.second) := by
  obtain ⟨hhour, hminute, hsecond, hoffset⟩ := h
  have hlow : ¬ (((m.hour * 60 + m.minute) * 60 + m.second : Int) - m.offset < 0) := by omega
  have hhigh : ¬ secondsPerDay ≤ ((m.hour * 60 + m.minute) * 60 + m.second : Int) - m.offset := by
    unfold secondsPerDay
    omega
  simp only [Moment.universal?, hlow, hhigh, if_false, Option.some.injEq, Prod.mk.injEq, true_and]
  omega

/-- Universal time is what a moment in universal time is told in. -/
lemma IsUniversal.toUniversal (h : m.IsUniversal) : m.toUniversal = .ok m := by
  have hclock := h.universal?
  obtain ⟨hhour, hminute, hsecond, hoffset⟩ := h
  obtain ⟨date, hour, minute, second, microsecond, offset⟩ := m
  dsimp only at hhour hminute hsecond hoffset hclock
  subst hoffset
  have hh : ((hour * 60 + minute) * 60 + second) / 3600 = hour := by omega
  have hm : ((hour * 60 + minute) * 60 + second) / 60 % 60 = minute := by omega
  have hs : ((hour * 60 + minute) * 60 + second) % 60 = second := by omega
  simp only [Moment.toUniversal, hclock, hh, hm, hs]

lemma exists_timestamp (h : m.universal? ≠ none) : ∃ t, m.timestamp = .ok t := by
  obtain ⟨shown, hshown⟩ := Option.ne_none_iff_exists'.mp h
  rw [Moment.timestamp, hshown]
  exact ⟨_, rfl⟩

end Moment

/-- The clock shows a moment that has a date in universal time. -/
def Clock.InRange (clock : Clock) : Prop := ∃ m, clock.read = .ok m ∧ m.universal? ≠ none

lemma Moment.IsUniversal.inRange {m : Moment} (h : m.IsUniversal) : (Clock.present m).InRange :=
  ⟨m, h.toUniversal, by rw [h.universal?]; exact Option.some_ne_none _⟩

namespace Artifact
variable {now : Moment}

lemma placeholder_ok (h : ∃ t, now.timestamp = .ok t) (type : Text) :
    ∃ v, placeholder type now = .ok v := by
  obtain ⟨t, ht⟩ := h
  unfold placeholder
  split_ifs
  · exact ⟨_, rfl⟩
  · exact ⟨_, rfl⟩
  · exact ⟨_, rfl⟩
  · exact ⟨_, rfl⟩
  · exact ⟨_, by rw [ht]; rfl⟩
  · exact ⟨_, rfl⟩

/-- The name of a field with a placeholder for it. -/
def IsMemberFor (now : Moment) (f : Field) (m : Text × Json) : Prop :=
  m.1 = f.name ∧ placeholder f.type now = .ok m.2

/-- The members of an example are a name and a placeholder for each required field. -/
theorem sample_eq_ok_iff {fields : List Field} {members : List (Text × Json)} :
    sample fields now = .ok members ↔
      ∃ pairs, List.Forall₂ (IsMemberFor now) (fields.filter Field.required) pairs ∧
        Json.ofPairs pairs = members := by
  have hmember : IsMemberFor now =
      fun f m => ((placeholder f.type now).map fun v => (f.name, v)) = .ok m := by
    funext f m
    unfold IsMemberFor
    cases placeholder f.type now with
    | error e => simp [Except.map]
    | ok v => simp [Except.map, Prod.ext_iff, eq_comm]
  unfold sample
  simp only [hmember, ← mapM_eq_ok_iff]
  constructor
  · intro h
    exact exists_of_map_ok h
  · rintro ⟨pairs, hpairs, rfl⟩
    rw [hpairs]
    rfl

/-- An example is made when there is a placeholder for each required field. -/
lemma sample_ok {fields : List Field}
    (h : ∀ f ∈ fields, f.required = true → ∃ v, placeholder f.type now = .ok v) :
    ∃ members, sample fields now = .ok members := by
  have hrequired : ∀ f ∈ fields.filter Field.required, ∃ v, placeholder f.type now = .ok v := by
    intro f hf
    obtain ⟨hmem, hreq⟩ := List.mem_filter.mp hf
    exact h f hmem hreq
  obtain ⟨pairs, hpairs⟩ :
      ∃ pairs, List.Forall₂ (IsMemberFor now) (fields.filter Field.required) pairs := by
    generalize fields.filter Field.required = required at hrequired
    induction required with
    | nil => exact ⟨[], .nil⟩
    | cons f required ih =>
      rw [List.forall_mem_cons] at hrequired
      obtain ⟨v, hv⟩ := hrequired.1
      obtain ⟨pairs, hpairs⟩ := ih hrequired.2
      exact ⟨(f.name, v) :: pairs, .cons ⟨rfl, hv⟩ hpairs⟩
  exact ⟨_, sample_eq_ok_iff.mpr ⟨pairs, hpairs, rfl⟩⟩

end Artifact

namespace Bundle
variable {options : Options} {clock : Clock} {raw : Text} {r : Record} {now : Moment}

/-- The bundle of a record with an example as given. -/
def assemble (options : Options) (r : Record) (members : Option (List (Text × Json))) : Bundle where
  record := r
  typeText := Artifact.typeAlias r.name r.fields
  interfaceText := if options.interface then some (Artifact.interface r.name r.fields) else none
  zodText := if options.zod then some (Artifact.schema r.name r.fields options.strictZod) else none
  sample := members

lemma build_of_read_ok (hread : Dialect.read options raw = .ok r) (clock : Clock) :
    build options clock raw = (sampleFor options r.fields clock).map (assemble options r) := by
  unfold build
  rw [hread]
  rfl

/-- What a bundle is made of. -/
lemma exists_of_build {b : Bundle} (h : build options clock raw = .ok b) :
    ∃ r members, Dialect.read options raw = .ok r ∧
      sampleFor options r.fields clock = .ok members ∧ b = assemble options r members := by
  obtain ⟨hread, -⟩ := read_of_build h
  rw [build_of_read_ok hread] at h
  obtain ⟨members, hmembers, hb⟩ := exists_of_map_ok h
  exact ⟨b.record, members, hread, hmembers, hb.symm⟩

lemma sampleFor_error {fields : List Field} {fault : Fault}
    (h : sampleFor options fields clock = .error fault) :
    options.sample = true ∧ ∃ f, fault = .clock f := by
  unfold sampleFor at h
  split_ifs at h with hsample
  refine ⟨hsample, ?_⟩
  cases hclock : clock.read >>= Artifact.sample fields with
  | ok members =>
    rw [hclock] at h
    cases h
  | error f =>
    rw [hclock] at h
    exact ⟨f, (Except.error.inj h).symm⟩

/-- A text that is read gives a bundle, unless an example is wanted that the clock cannot date. -/
theorem build_cases (hread : Dialect.read options raw = .ok r) (clock : Clock) :
    (options.sample = true ∧ ∃ fault, build options clock raw = .error (.clock fault)) ∨
      ∃ members, build options clock raw = .ok (assemble options r members) := by
  rw [build_of_read_ok hread]
  cases hsample : sampleFor options r.fields clock with
  | error fault =>
    obtain ⟨hwanted, f, rfl⟩ := sampleFor_error hsample
    exact .inl ⟨hwanted, f, rfl⟩
  | ok members => exact .inr ⟨members, rfl⟩

/-- A clock in range dates every example: which one depends on the record alone, and the options only
say whether it is there. -/
theorem exists_build (hclock : clock.InRange) (r : Record) :
    ∃ members, ∀ options raw, Dialect.read options raw = .ok r →
      build options clock raw =
        .ok (assemble options r (if options.sample then some members else none)) := by
  obtain ⟨m, hm, hdate⟩ := hclock
  obtain ⟨members, hmembers⟩ := Artifact.sample_ok fun f (_ : f ∈ r.fields) _ =>
    Artifact.placeholder_ok (Moment.exists_timestamp hdate) f.type
  have hsample : clock.read >>= Artifact.sample r.fields = .ok members := by
    rw [hm]
    exact hmembers
  refine ⟨members, fun options raw hread => ?_⟩
  rw [build_of_read_ok hread, sampleFor, hsample]
  cases options.sample with
  | true => rfl
  | false => rfl

/-- The present moment dates every example. -/
theorem build_present (h : now.IsUniversal) (hread : Dialect.read options raw = .ok r) :
    ∃ members, build options (.present now) raw = .ok (assemble options r members) := by
  obtain ⟨members, hbuild⟩ := exists_build h.inRange r
  exact ⟨_, hbuild options raw hread⟩

lemma build_of_read_error {problem : Dialect.Problem}
    (hread : Dialect.read options raw = .error problem) (clock : Clock) :
    build options clock raw = .error (.unreadable problem) := by
  unfold build
  rw [hread]

end Bundle
end Shorthand
