import Shorthand.Options.File
import Shorthand.Proofs.Json.Limits
import Shorthand.Proofs.Json.Variants

/-! Options from named values and from a file: what the members of an object turn does not depend on
the stand-ins for surrogates in their names, and which faults can come of a file. -/
namespace Shorthand.Options
open Json

section Turns
variable {ms ms' : List (Text × Json)}

/-- The members that turn a switch, each with the way it turns it. -/
def turns (ms : List (Text × Json)) : List (Text × Bool) :=
  (ms.filter fun m => (Switch.ofName? m.1).isSome).map fun m => (m.1, m.2.isTrue)

/-- Turn the switch with this name. -/
def turn (o : Options) (t : Text × Bool) : Options := o.apply (t.1, .bool t.2)

lemma applyAll_eq_turns (o : Options) (ms : List (Text × Json)) :
    o.applyAll ms = (turns ms).foldl turn o := by
  unfold applyAll turns
  induction ms generalizing o with
  | nil => rfl
  | cons m ms ih =>
    rw [List.foldl_cons, ih]
    cases hname : Switch.ofName? m.1 with
    | none => simp [apply, hname]
    | some s => simp [apply, turn, hname, Json.isTrue]

lemma turns_ofPairs (ms : List (Text × Json)) : turns (ofPairs ms) = ofPairs (turns ms) := by
  unfold turns
  rw [ofPairs_filter fun name => (Switch.ofName? name).isSome, ofPairs_map]

lemma names_letters (s : Switch) : ∀ name ∈ s.names, Text.Free isForeign name := by
  cases s <;> decide

lemma ofName?_foreign {name : Text} {c : Char} (hc : c ∈ name) (hforeign : isForeign c = true) :
    Switch.ofName? name = none := by
  unfold Switch.ofName?
  rw [List.find?_eq_none]
  intro s _ hname
  have hfree := names_letters s name (by simpa using hname) c hc
  rw [hforeign] at hfree
  cases hfree

lemma turns_twin (h : TwinMembers ms ms') : turns ms = turns ms' := by
  induction h with
  | nil => rfl
  | @cons m m' _ _ hm _ ih =>
    obtain ⟨hname, hvalue⟩ := hm
    unfold turns at ih ⊢
    rcases hname.eq_or_foreign with heq | ⟨⟨c, hc, hforeign⟩, d, hd, hforeign'⟩
    · cases hswitch : Switch.ofName? m'.1 with
      | none => simp [heq, hswitch, ih]
      | some s => simp [heq, hswitch, hvalue, ih]
    · simp [ofName?_foreign hc hforeign, ofName?_foreign hd hforeign', ih]

/-- An object turns the switches alike with different stand-ins for surrogates. -/
theorem applyAll_twin {lone other : Nat → Char} {t : Text} {members members' : List (Text × Json)}
    (hlone : ∀ n, isForeign (lone n) = true) (hother : ∀ n, isForeign (other n) = true)
    (h : Holds lone t (.obj members)) (h' : Holds other t (.obj members')) (o : Options) :
    o.applyAll members = o.applyAll members' := by
  obtain ⟨ms, ms', rfl, htwin, hms'⟩ := h.twin hlone hother
  obtain rfl := Json.obj.inj (h'.unique hms')
  rw [applyAll_eq_turns, applyAll_eq_turns, turns_ofPairs, turns_ofPairs, turns_twin htwin]

end Turns

section Loading
variable {o : Options} {disk : Disk} {file : Text} {path : Path} {custom : Json} {fault : Fault}
  {bytes : List UInt8}

/-- A file that is JSON by its name, and the bytes in it. -/
structure JsonFile (disk : Disk) (path : Path) (bytes : List UInt8) : Prop where
  ending : Text.lower path.ending = ".json".toList
  read : disk.read path = .ok bytes

/-- The bytes of the file are no text, and this is why. -/
def NoText (disk : Disk) (path : Path) (fault : Text.Utf8.Fault) : Prop :=
  ∃ bytes, JsonFile disk path bytes ∧ Text.Utf8.decode bytes = .error fault

/-- An integer in the file is too long. -/
def HasLong (disk : Disk) (path : Path) (integer : LongInteger) : Prop :=
  ∃ bytes text, JsonFile disk path bytes ∧ Text.Utf8.decode bytes = .ok text ∧
    MeetsLong (fun _ => Text.replacement) integer (Text.unifyNewlines text)

/-- The fault is told as one of the configuration. -/
def Fault.isConfiguration : Fault → Bool
  | .undecodable _ => false
  | .longInteger _ => false
  | .unreachable _ => false
  | _ => true

lemma JsonFile.named (h : JsonFile disk (Path.ofText file) bytes) : file ≠ [] := by
  rintro rfl
  exact absurd h.ending (by decide)

lemma JsonFile.find (h : JsonFile disk path bytes) : ∃ entry, disk.find path = .ok entry := by
  cases hfind : disk.find path with
  | error cause =>
    have hread := h.read
    rw [Disk.read, hfind] at hread
    cases hread
  | ok entry => exact ⟨entry, rfl⟩

lemma JsonFile.loadFile_of_text {text : Text} (h : JsonFile disk path bytes)
    (htext : Text.Utf8.decode bytes = .ok text) :
    loadFile disk path = membersOf path (Text.unifyNewlines text) := by
  obtain ⟨entry, hentry⟩ := h.find
  simp [loadFile, hentry, h.ending, h.read, htext]

/-- What is wrong with a file beyond its configuration. -/
inductive Breaks (disk : Disk) (path : Path) : Fault → Prop
  | tooLong (h : disk.find path = .error .nameTooLong) :
      Breaks disk path (.unreachable ⟨.nameTooLong, path⟩)
  | noText {f : Text.Utf8.Fault} (h : NoText disk path f) : Breaks disk path (.undecodable f)
  | hasLong {integer : LongInteger} (h : HasLong disk path integer) :
      Breaks disk path (.longInteger integer)

lemma Breaks.loadFile_eq (h : Breaks disk path fault) : loadFile disk path = .error fault := by
  cases h with
  | tooLong hfind => rw [loadFile, hfind]
  | noText h =>
    obtain ⟨bytes, hbytes, hdecode⟩ := h
    obtain ⟨entry, hentry⟩ := hbytes.find
    simp [loadFile, hentry, hbytes.ending, hbytes.read, hdecode]
  | @hasLong integer h =>
    obtain ⟨bytes, text, hbytes, hdecode, hlong⟩ := h
    have hread : Json.read (Text.unifyNewlines text) = .error (.long integer) :=
      readWith_long_iff.mpr hlong
    rw [hbytes.loadFile_of_text hdecode]
    simp only [membersOf, hread]

lemma membersOf_error {text : Text} (h : membersOf path text = .error fault) :
    fault.isConfiguration = true ∨
      ∃ integer, MeetsLong (fun _ => Text.replacement) integer text ∧ fault = .longInteger integer := by
  unfold membersOf at h
  split at h
  · obtain rfl := Except.error.inj h
    exact .inl rfl
  · next integer hread =>
    exact .inr ⟨integer, readWith_long_iff.mp hread, (Except.error.inj h).symm⟩
  · cases h
  · obtain rfl := Except.error.inj h
    exact .inl rfl

/-- A file is at fault in its configuration or beyond it. -/
lemma loadFile_error (h : loadFile disk path = .error fault) :
    fault.isConfiguration = true ∨ Breaks disk path fault := by
  unfold loadFile at h
  split at h
  · next hfind =>
    obtain rfl := Except.error.inj h
    exact .inr (.tooLong hfind)
  · obtain rfl := Except.error.inj h
    exact .inl rfl
  · split_ifs at h with hending
    · obtain rfl := Except.error.inj h
      exact .inl rfl
    · split at h
      · obtain rfl := Except.error.inj h
        exact .inl rfl
      · next bytes hread =>
        have hbytes : JsonFile disk path bytes := ⟨by simpa using hending, hread⟩
        split at h
        · next f hdecode =>
          obtain rfl := Except.error.inj h
          exact .inr (.noText ⟨bytes, hbytes, hdecode⟩)
        · next text hdecode =>
          rcases membersOf_error h with hfault | ⟨integer, hlong, rfl⟩
          · exact .inl hfault
          · exact .inr (.hasLong ⟨bytes, text, hbytes, hdecode, hlong⟩)

lemma load_error (h : o.load disk file custom = .error fault) :
    (∃ value, fault = .refused value) ∨
      (file ≠ [] ∧ loadFile disk (Path.ofText file) = .error fault) := by
  unfold load fileMembers at h
  split at h
  · next hmembers =>
    obtain rfl := Except.error.inj h
    split_ifs at hmembers with hfile
    exact .inr ⟨by simpa using hfile, hmembers⟩
  · split_ifs at h
    next members _ _ =>
    cases hmerge : (o.applyAll members).merge custom with
    | ok options =>
      rw [hmerge] at h
      cases h
    | error value =>
      rw [hmerge] at h
      exact .inl ⟨value, (Except.error.inj h).symm⟩

/-- Loading fails beyond the configuration exactly when a file is named that does. -/
theorem load_breaks_iff (hfault : fault.isConfiguration = false) :
    o.load disk file custom = .error fault ↔ file ≠ [] ∧ Breaks disk (Path.ofText file) fault := by
  constructor
  · intro h
    rcases load_error h with ⟨value, rfl⟩ | ⟨hnamed, hfile⟩
    · cases hfault
    · rcases loadFile_error hfile with hconfiguration | hbreaks
      · rw [hfault] at hconfiguration
        cases hconfiguration
      · exact ⟨hnamed, hbreaks⟩
  · rintro ⟨hnamed, hbreaks⟩
    have hfile : file.isEmpty = false := by simpa using hnamed
    simp only [load, fileMembers, hfile, hbreaks.loadFile_eq]
    rfl

/-- Loading fails with bytes that are no text exactly when the file holds such bytes. -/
theorem load_undecodable_iff {f : Text.Utf8.Fault} :
    o.load disk file custom = .error (.undecodable f) ↔ NoText disk (Path.ofText file) f := by
  rw [load_breaks_iff rfl]
  constructor
  · rintro ⟨-, hbreaks⟩
    cases hbreaks with
    | noText h => exact h
  · intro h
    obtain ⟨bytes, hbytes, -⟩ := id h
    exact ⟨hbytes.named, .noText h⟩

/-- Loading fails at an integer exactly when the file leads to one that is too long. -/
theorem load_longInteger_iff {integer : LongInteger} :
    o.load disk file custom = .error (.longInteger integer) ↔
      HasLong disk (Path.ofText file) integer := by
  rw [load_breaks_iff rfl]
  constructor
  · rintro ⟨-, hbreaks⟩
    cases hbreaks with
    | hasLong h => exact h
  · intro h
    obtain ⟨bytes, text, hbytes, -⟩ := id h
    exact ⟨hbytes.named, .hasLong h⟩

end Loading
end Shorthand.Options
