import Shorthand.Proofs.Arguments
import Shorthand.Proofs.Emission

/-! Which value of a switch counts. Wherever values come from, the last member that names the switch
does: of a sequence of values, of the options file and what is given after it, and so a flag among the
arguments over the whole file. -/
namespace Shorthand
open Text

/-- The members of an object; other values have none. -/
def Json.items : Json → List (Text × Json)
  | .obj members => members
  | _ => []

namespace Options
variable {s s' : Switch} {name : Text} {m : Text × Json} {ms ms' members custom : List (Text × Json)}

namespace Switch

lemma mem_all (s : Switch) : s ∈ all := by cases s <;> decide

/-- No name belongs to two switches. -/
lemma eq_of_name (h : name ∈ s.names) (h' : name ∈ s'.names) : s = s' := by
  have hapart : ∀ t ∈ all, ∀ t' ∈ all, ∀ n ∈ t.names, n ∈ t'.names → t = t' := by decide
  exact hapart s s.mem_all s' s'.mem_all name h h'

lemma ofName?_eq_some_iff : ofName? name = some s ↔ name ∈ s.names := by
  constructor
  · intro h
    simpa using List.find?_some h
  · intro h
    unfold ofName?
    cases hfind : all.find? (·.names.contains name) with
    | none =>
      rw [List.find?_eq_none] at hfind
      exact absurd (by simpa using h) (hfind s s.mem_all)
    | some t =>
      have ht : name ∈ t.names := by simpa using List.find?_some hfind
      rw [eq_of_name ht h]

/-- What the last member with a name of the switch says. -/
def last? (s : Switch) (ms : List (Text × Json)) : Option Bool :=
  (ms.reverse.find? fun m => s.names.contains m.1).map fun m => m.2.isTrue

lemma last?_append (s : Switch) (ms ms' : List (Text × Json)) :
    s.last? (ms ++ ms') = (s.last? ms').or (s.last? ms) := by
  unfold last?
  rw [List.reverse_append, List.find?_append]
  cases ms'.reverse.find? fun m => s.names.contains m.1 <;> rfl

lemma last?_singleton (s : Switch) (m : Text × Json) :
    s.last? [m] = if m.1 ∈ s.names then some m.2.isTrue else none := by
  by_cases h : m.1 ∈ s.names <;> simp [last?, h]

/-- Members that agree on a switch say what each of them says. -/
lemma last?_of_forall {on : Bool} (hsome : ∃ m ∈ ms, m.1 ∈ s.names)
    (hall : ∀ m ∈ ms, m.1 ∈ s.names → m.2.isTrue = on) : s.last? ms = some on := by
  unfold last?
  cases hfind : ms.reverse.find? fun m => s.names.contains m.1 with
  | none =>
    obtain ⟨m, hm, hname⟩ := hsome
    rw [List.find?_eq_none] at hfind
    exact absurd (by simpa using hname) (hfind m (List.mem_reverse.mpr hm))
  | some m =>
    have hname : m.1 ∈ s.names := by simpa using List.find?_some hfind
    have hmem := List.mem_reverse.mp (List.mem_of_find?_eq_some hfind)
    rw [Option.map_some, hall m hmem hname]

end Switch

section Merging
variable (o : Options)

lemma get_set (t : Switch) (on : Bool) : (o.set t on).get s = if s = t then on else o.get s := by
  cases s <;> cases t <;> rfl

/-- One member turns the switch that it names, and no other. -/
lemma get_apply (m : Text × Json) :
    (o.apply m).get s = if m.1 ∈ s.names then m.2.isTrue else o.get s := by
  unfold apply
  cases hname : Switch.ofName? m.1 with
  | none =>
    have hother : m.1 ∉ s.names := by
      intro h
      rw [Switch.ofName?_eq_some_iff.mpr h] at hname
      cases hname
    rw [if_neg hother]
  | some t =>
    have ht := Switch.ofName?_eq_some_iff.mp hname
    dsimp only
    rw [get_set]
    by_cases hst : s = t
    · subst hst
      rw [if_pos rfl, if_pos ht]
    · have hother : m.1 ∉ s.names := fun h => hst (Switch.eq_of_name h ht)
      rw [if_neg hst, if_neg hother]

/-- Of some members the last one that names a switch counts. -/
theorem get_applyAll (s : Switch) (ms : List (Text × Json)) :
    (o.applyAll ms).get s = (s.last? ms).getD (o.get s) := by
  induction ms generalizing o with
  | nil => rfl
  | cons m ms ih =>
    have hcons : o.applyAll (m :: ms) = (o.apply m).applyAll ms := rfl
    rw [hcons, ih, get_apply, ← List.singleton_append, Switch.last?_append, Switch.last?_singleton]
    cases s.last? ms with
    | some on => rfl
    | none => split_ifs <;> rfl

/-- Merge a value; one that is refused changes nothing. -/
def override (v : Json) : Options :=
  match o.merge v with
  | .ok merged => merged
  | .error _ => o

lemma override_eq_applyAll (v : Json) : o.override v = o.applyAll v.items := by
  cases v <;> rfl

/-- Of all members of all values the last one that names a switch counts. -/
theorem get_overrides (s : Switch) (vs : List Json) :
    (vs.foldl override o).get s = (s.last? (vs.flatMap Json.items)).getD (o.get s) := by
  have hflat : vs.foldl override o = o.applyAll (vs.flatMap Json.items) := by
    induction vs generalizing o with
    | nil => rfl
    | cons v vs ih =>
      rw [List.foldl_cons, ih, override_eq_applyAll, List.flatMap_cons, applyAll, applyAll, applyAll,
        List.foldl_append]
  rw [hflat, get_applyAll]

lemma apply_of_unknown (h : ∀ s : Switch, m.1 ∉ s.names) : o.apply m = o := by
  have hname : Switch.ofName? m.1 = none := by
    cases hname : Switch.ofName? m.1 with
    | none => rfl
    | some s => exact absurd (Switch.ofName?_eq_some_iff.mp hname) (h s)
  rw [apply, hname]

lemma merge_of_unknown (h : ∀ s : Switch, m.1 ∉ s.names) (ms ms' : List (Text × Json)) :
    o.merge (.obj (ms ++ m :: ms')) = o.merge (.obj (ms ++ ms')) := by
  simp only [merge, applyAll, List.foldl_append, List.foldl_cons, apply_of_unknown _ h]

lemma merge_of_other {v : Json} (hnull : v ≠ .null) (hobj : ∀ ms, v ≠ .obj ms) :
    o.merge v = .error ⟨v.kind⟩ := by
  cases v with
  | null => exact absurd rfl hnull
  | obj ms => exact absurd rfl (hobj ms)
  | _ => rfl

/-- Members given by name are applied after those of the file. -/
lemma load_members {disk : Disk} {file : Text} (h : fileMembers disk file = .ok members)
    (custom : List (Text × Json)) :
    o.load disk file (.obj custom) = .ok ((o.applyAll members).applyAll custom) := by
  unfold load
  rw [h]
  cases custom <;> rfl

end Merging
end Options

namespace CommandLine
open Options
variable {s : Switch} {on : Bool} {i : Invocation} {arguments : List Text}

lemma oneOf_ok {α : Type} {choices : List α} {name : α → Text} {use : α → Setting} {value : Text}
    {setting : Setting} (h : oneOf choices name use value = .ok setting) : ∃ a, use a = setting := by
  unfold oneOf at h
  split at h
  · next a _ => exact ⟨a, Except.ok.inj h⟩
  · cases h

/-- A flag turns its switch away from where it is by default. -/
lemma offers_turn (h : Offers CommandLine.options (.turn s on)) : on = !({} : Options).get s := by
  have hall : ∀ o ∈ CommandLine.options, o.action.Gives (.turn s on) → on = !({} : Options).get s := by
    simp only [CommandLine.options, List.forall_mem_cons]
    refine ⟨nofun, nofun, ?mode, nofun, nofun, nofun, ?outdir, nofun, ?strict, ?optional, ?zod,
      ?interface, ?sample, ?config, ?level, nofun⟩
    case mode | level =>
      rintro (_ | _ | hread)
      obtain ⟨a, ha⟩ := oneOf_ok hread
      cases ha
    case outdir | config =>
      rintro (_ | _ | hread)
      cases hread
    case strict | optional | zod | interface | sample =>
      rintro ⟨⟩
      rfl
  obtain ⟨o, ho, hgives⟩ := h
  exact hall o ho hgives

namespace Invocation

lemma turns_follow (i : Invocation) (settings : List Setting) :
    (settings.foldl follow i).turns = i.turns ++ settings.filterMap fun
      | .turn s on => some (s, on)
      | _ => none := by
  induction settings generalizing i with
  | nil => exact (List.append_nil _).symm
  | cons setting settings ih =>
    rw [List.foldl_cons, ih]
    cases setting <;> simp [follow]

/-- The switches that an invocation turns are those that its settings turn. -/
lemma mem_turns {settings : List Setting} {words : List Text} :
    (s, on) ∈ (ofSettings settings words).turns ↔ .turn s on ∈ settings := by
  rw [ofSettings, turns_follow, List.nil_append, List.mem_filterMap]
  constructor
  · rintro ⟨setting, hmem, hturn⟩
    cases setting with
    | turn s' on' =>
      obtain ⟨rfl, rfl⟩ : s' = s ∧ on' = on := by simpa using hturn
      exact hmem
    | _ => cases hturn
  · intro hmem
    exact ⟨_, hmem, rfl⟩

/-- Every flag among the arguments turns its switch, and each switch is turned one way only. -/
lemma turns_ofArguments (h : ofArguments arguments = .ok i) :
    (∀ s on, GivesFlag CommandLine.options arguments (.turn s on) → (s, on) ∈ i.turns) ∧
      ∀ s on, (s, on) ∈ i.turns → on = !({} : Options).get s := by
  obtain ⟨⟨settings, words⟩, hread, rfl⟩ := exists_of_map_ok h
  obtain ⟨hoffers, hflags⟩ := readMixed_settings hread
  constructor
  · intro s on hgives
    exact mem_turns.mpr (hflags _ hgives)
  · intro s on hturn
    exact offers_turn (hoffers _ (mem_turns.mp hturn))

/-- The members that stand for the flags. -/
def overriding (i : Invocation) : List (Text × Json) :=
  Json.ofPairs (i.turns.map fun t => (t.1.names.headD [], .bool t.2))

lemma headD_mem_names (s : Switch) : s.names.headD [] ∈ s.names := by
  cases s <;> decide

lemma last?_overriding (hturn : (s, on) ∈ i.turns)
    (hway : ∀ on', (s, on') ∈ i.turns → on' = on) : s.last? i.overriding = some on := by
  have hname : s.names.headD [] ∈
      (i.turns.map fun t => ((t.1.names.headD [], .bool t.2) : Text × Json)).map Prod.fst :=
    List.mem_map.mpr ⟨_, List.mem_map.mpr ⟨_, hturn, rfl⟩, rfl⟩
  apply Switch.last?_of_forall
  · obtain ⟨m, hm, hfst⟩ := List.mem_map.mp (Json.mem_map_fst_ofPairs.mpr hname)
    exact ⟨m, hm, hfst ▸ headD_mem_names s⟩
  · intro m hm hnames
    obtain ⟨⟨s', on'⟩, ht, rfl⟩ := List.mem_map.mp (Json.mem_of_mem_ofPairs hm)
    obtain rfl : s' = s := Switch.eq_of_name (headD_mem_names s') hnames
    exact hway on' ht

/-- A flag among the arguments decides its switch, whatever the options file says. -/
theorem load_of_flag {disk : Disk} {members : List (Text × Json)} (h : ofArguments arguments = .ok i)
    (hflag : GivesFlag CommandLine.options arguments (.turn s on))
    (hfile : fileMembers disk i.config = .ok members) :
    ∃ o, optionsOf i disk = .ok o ∧ o.get s = on := by
  obtain ⟨hturns, hways⟩ := turns_ofArguments h
  have hturn := hturns s on hflag
  have hlast := last?_overriding hturn fun on' hon' => (hways s on' hon').trans (hways s on hturn).symm
  refine ⟨_, load_members {} hfile i.overriding, ?_⟩
  rw [get_applyAll, hlast, Option.getD_some]

end Invocation
end CommandLine

namespace Options

/-- Merging goes by the last writer: over any sequence of values, over the options file and what is
given after it, and over the file and the flags of the command. -/
theorem merging_goes_by_last_writer :
    (∀ (o : Options) (vs : List Json) (s : Switch),
      (vs.foldl override o).get s = (s.last? (vs.flatMap Json.items)).getD (o.get s)) ∧
    (∀ o : Options, o.merge .null = .ok o) ∧
    (∀ (o : Options) (m : Text × Json), (∀ s : Switch, m.1 ∉ s.names) →
      ∀ ms ms', o.merge (.obj (ms ++ m :: ms')) = o.merge (.obj (ms ++ ms'))) ∧
    (∀ (o : Options) (v : Json), v ≠ .null → (∀ ms, v ≠ .obj ms) →
      o.merge v = .error ⟨v.kind⟩ ∧ o.override v = o) ∧
    (∀ (o : Options) (disk : Disk) (file : Text) (members custom : List (Text × Json)),
      fileMembers disk file = .ok members → ∃ loaded, o.load disk file (.obj custom) = .ok loaded ∧
        ∀ s : Switch, loaded.get s = (s.last? custom).getD ((s.last? members).getD (o.get s))) ∧
    (∀ (arguments : List Text) (i : CommandLine.Invocation) (s : Switch) (on : Bool),
      CommandLine.Invocation.ofArguments arguments = .ok i →
      CommandLine.GivesFlag CommandLine.options arguments (.turn s on) →
      ∀ disk members, fileMembers disk i.config = .ok members →
        ∃ loaded, CommandLine.optionsOf i disk = .ok loaded ∧ loaded.get s = on) := by
  refine ⟨fun o vs s => o.get_overrides s vs, fun o => rfl, fun o m h => o.merge_of_unknown h,
    fun o v hnull hobj => ?_, fun o disk file members custom hfile => ?_,
    fun arguments i s on hargs hflag disk members hfile =>
      CommandLine.Invocation.load_of_flag hargs hflag hfile⟩
  · have hmerge := o.merge_of_other hnull hobj
    refine ⟨hmerge, ?_⟩
    rw [override, hmerge]
  · refine ⟨_, o.load_members hfile custom, fun s => ?_⟩
    rw [get_applyAll, get_applyAll]

/-- Options that name the schema by two of its names, the later one turning it on. -/
def doubledMembers : List (Text × Json) :=
  [("zod".toList, .bool false), ("strict_schema".toList, .int 0), ("emitSchema".toList, .str ['0'])]

/-- A folder with these options in a file. -/
def doubledDisk : Disk where
  cwd := ["work".toList]
  entries := [(["work".toList], .folder),
    (["work".toList, "o.json".toList], .file (Text.Utf8.encode (Json.obj doubledMembers).compact))]

/-- Arguments that name the file and switch the schema off, by a short form of the flag. -/
def doubledArguments : List Text :=
  ["User a".toList, "--config=o.json".toList, "--no-z".toList]

theorem last_writer_of_doubled_members :
    (∃ loaded, load {} doubledDisk "o.json".toList (.obj [("strictZod".toList, .arr [.null])]) =
      .ok loaded ∧ loaded.get .zod = true ∧ loaded.get .strictZod = true) ∧
    ∃ i loaded, CommandLine.Invocation.ofArguments doubledArguments = .ok i ∧
      CommandLine.optionsOf i doubledDisk = .ok loaded ∧ loaded.get .zod = false := by
  have hregular : Json.Regular (fun _ => True) (.obj doubledMembers) := by
    refine Json.regular_obj (by decide) ?_
    simp only [doubledMembers, List.forall_mem_cons]
    exact ⟨⟨trivial, .bool _⟩, ⟨trivial, .int (by decide)⟩, ⟨trivial, .str trivial⟩, nofun⟩
  have hread : Json.read ((Json.obj doubledMembers).compact ++ []) = .ok (.obj doubledMembers) :=
    Json.readWith_print Json.compact_isBlank hregular Text.run_nil
  rw [List.append_nil] at hread
  have hfile : fileMembers doubledDisk "o.json".toList = .ok doubledMembers :=
    fileMembers_of_read (by decide) rfl hread
  obtain ⟨-, -, -, -, hload, hflag⟩ := merging_goes_by_last_writer
  constructor
  · obtain ⟨loaded, hloaded, hget⟩ := hload {} doubledDisk "o.json".toList doubledMembers
      [("strictZod".toList, .arr [.null])] hfile
    refine ⟨loaded, hloaded, ?_, ?_⟩
    · rw [hget]
      decide
    · rw [hget]
      decide
  · have hargs : CommandLine.Invocation.ofArguments doubledArguments = .ok
        { words := ["User a".toList]
          turns := [(.zod, false)]
          config := "o.json".toList } := by decide +kernel
    have hgives : CommandLine.GivesFlag CommandLine.options doubledArguments (.turn .zod false) :=
      ⟨"--no-z".toList, by decide, _, _, rfl, rfl⟩
    obtain ⟨loaded, hloaded, hget⟩ := hflag _ _ _ _ hargs hgives doubledDisk doubledMembers hfile
    exact ⟨_, loaded, hargs, hloaded, hget⟩

end Options
end Shorthand
