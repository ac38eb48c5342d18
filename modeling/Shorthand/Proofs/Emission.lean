import Shorthand.CommandLine.Reach
import Shorthand.Proofs.Bundle
import Shorthand.Proofs.CommandLine
import Shorthand.Proofs.Disk

/-! Writing the artifacts that a run is asked for. They are written one after another, and a run that
is asked for one that is switched off stops there: the files before it stay. -/
namespace Shorthand

namespace CommandLine
open Text

namespace Output
variable {options : Options} {r : Record} {members : Option (List (Text × Json))}

/-- The artifact is made under these options. -/
def enabled (options : Options) : Output → Bool
  | .type => true
  | .interface => options.interface
  | .zod => options.zod

/-- The artifact was made. -/
def made (b : Bundle) (o : Output) : Bool := (o.textOf b).isSome

lemma made_assemble (o : Output) : o.made (Bundle.assemble options r members) = o.enabled options := by
  cases o with
  | type => rfl
  | interface => cases h : options.interface <;> simp [made, textOf, enabled, Bundle.assemble, h]
  | zod => cases h : options.zod <;> simp [made, textOf, enabled, Bundle.assemble, h]

lemma zero_not_mem_name (o : Output) : Char.ofNat 0 ∉ o.name := by
  cases o <;> decide

end Output

section Paths
variable {i : Invocation} {cwd : Place} {folder : Path} {name : Text}

lemma mem_follow {here steps : List Text} {step : Text} (h : step ∈ Path.follow here steps) :
    step ∈ here ∨ step ∈ steps := by
  induction steps generalizing here with
  | nil => exact .inl h
  | cons s steps ih =>
    unfold Path.follow at h
    split_ifs at h with hup
    · rcases ih h with hhere | hsteps
      · exact .inl (List.dropLast_subset _ hhere)
      · exact .inr (List.mem_cons_of_mem _ hsteps)
    · rcases ih h with hhere | hsteps
      · rcases List.mem_append.mp hhere with hhere | hs
        · exact .inl hhere
        · rw [List.mem_singleton.mp hs]
          exact .inr List.mem_cons_self
      · exact .inr (List.mem_cons_of_mem _ hsteps)

lemma zero_not_mem_fileName (h : Run Identifier.isKept name) (o : Output) :
    Char.ofNat 0 ∉ Artifact.fileName name o.name := by
  have hbase : Char.ofNat 0 ∉ Identifier.kebab (if name.isEmpty then "type".toList else name) := by
    have hrun : Run Identifier.isKept (if name.isEmpty then "type".toList else name) := by
      split_ifs
      · decide
      · exact h
    intro hmem
    rcases Identifier.kebab_chars hrun _ hmem with hkept | heq
    · exact absurd hkept (by decide)
    · exact absurd heq (by decide)
  have hname := o.zero_not_mem_name
  unfold Artifact.fileName
  simp only [List.mem_append, List.mem_cons, not_or]
  exact ⟨⟨hbase, by decide, hname⟩, by decide⟩

/-- No zero byte gets into the path of a file. -/
lemma outputPath_hasZero (hfolder : outputFolder i cwd = .ok folder)
    (hcwd : ∀ step ∈ cwd, Char.ofNat 0 ∉ step) (hname : Run Identifier.isKept name) (o : Output) :
    (outputPath folder name o).hasZero = false := by
  have hsteps : ∀ step ∈ folder.steps, Char.ofNat 0 ∉ step := by
    unfold outputFolder at hfolder
    split at hfolder
    · cases hfolder
    · next outdir _ =>
      dsimp only at hfolder
      split_ifs at hfolder with hzero
      obtain rfl := Except.ok.inj hfolder
      intro step hstep
      have hclean : ∀ step ∈ (Path.ofText outdir).steps, Char.ofNat 0 ∉ step := by
        simpa [Path.hasZero] using hzero
      rcases mem_follow hstep with hhere | hpath
      · split_ifs at hhere
        · exact hcwd step hhere
        · cases hhere
      · exact hclean step hpath
  simp only [Path.hasZero, outputPath, Path.child, List.any_eq_false, List.mem_append,
    List.mem_singleton, List.contains_iff_mem]
  rintro step (hstep | rfl)
  · exact hsteps step hstep
  · exact zero_not_mem_fileName hname o

end Paths

section Emit
variable {b : Bundle}

/-- Every file is left as it was, or it is the file of one of the artifacts before the first that was
not made, and holds that artifact. -/
def Confined (folder : Path) (b : Bundle) (outputs : List Output) (before after : Disk) : Prop :=
  ∀ q, after.fileAt q = before.fileAt q ∨
    ∃ o ∈ outputs.takeWhile (·.made b), ∃ text, o.textOf b = some text ∧
      q = before.target (outputPath folder b.record.name o) ∧
      after.fileAt q = some (Utf8.encode (Disk.terminated text))

lemma takeWhile_made {o : Output} {text : Text} (h : o.textOf b = some text) (rest : List Output) :
    (o :: rest).takeWhile (·.made b) = o :: rest.takeWhile (·.made b) := by
  simp [Output.made, h]

/-- What one written file adds to what the rest of the run is confined to. -/
lemma confined_cons {folder : Path} {o : Output} {rest : List Output} {text : Text}
    {d d' d'' : Disk} (htext : o.textOf b = some text)
    (hwrite : d.write (outputPath folder b.record.name o) text = (d', none))
    (hrest : Confined folder b rest d' d'') : Confined folder b (o :: rest) d d'' := by
  obtain ⟨hcwd, hfile⟩ := Disk.write_done hwrite
  have htarget : ∀ path, d'.target path = d.target path := fun path => by
    rw [Disk.target, Disk.target, hcwd]
  intro q
  rw [takeWhile_made htext]
  rcases hrest q with hsame | ⟨o', ho', text', htext', hq, hcontents⟩
  · rw [hsame, hfile q]
    by_cases hq : q = d.target (outputPath folder b.record.name o)
    · rw [if_pos hq]
      exact .inr ⟨o, List.mem_cons_self, text, htext, hq, rfl⟩
    · rw [if_neg hq]
      exact .inl rfl
  · rw [htarget] at hq
    exact .inr ⟨o', List.mem_cons_of_mem _ ho', text', htext', hq, hcontents⟩

/-- Emitting is confined to the artifacts before the first that was not made. -/
theorem emit_confined (dryRun : Bool) (folder : Path) (b : Bundle) (outputs : List Output)
    (p : Progress) : Confined folder b outputs p.disk (emit dryRun folder b p outputs).1.disk := by
  induction outputs generalizing p with
  | nil => exact fun q => .inl rfl
  | cons o rest ih =>
    rw [emit]
    cases htext : o.textOf b with
    | none => exact fun q => .inl rfl
    | some text =>
      cases dryRun with
      | true =>
        intro q
        rw [takeWhile_made htext]
        rcases ih (p.note _) q with hsame | ⟨o', ho', hrest⟩
        · exact .inl hsame
        · exact .inr ⟨o', List.mem_cons_of_mem _ ho', hrest⟩
      | false =>
        dsimp only
        rw [if_neg Bool.false_ne_true]
        rcases hwrite : p.disk.write (outputPath folder b.record.name o) text with ⟨d', _ | fault⟩
        · exact confined_cons htext hwrite (ih _)
        · exact fun q => .inl ((Disk.write_fault hwrite).2 q)

/-- A dry run leaves the disk alone. -/
lemma emit_dryRun (folder : Path) (b : Bundle) (outputs : List Output) (p : Progress) :
    (emit true folder b p outputs).1.disk = p.disk := by
  induction outputs generalizing p with
  | nil => rfl
  | cons o rest ih =>
    rw [emit]
    cases o.textOf b with
    | none => rfl
    | some text => exact ih _

lemma emit_nothing (dryRun : Bool) (folder : Path) {outputs : List Output} (p : Progress)
    (h : outputs.takeWhile (·.made b) = []) :
    (emit dryRun folder b p outputs).1.disk = p.disk := by
  cases outputs with
  | nil => rfl
  | cons o rest =>
    rw [emit]
    cases htext : o.textOf b with
    | none => rfl
    | some text =>
      rw [takeWhile_made htext] at h
      cases h

/-- Whatever stops emitting is reported, as long as no path has a zero byte in it. -/
theorem emit_reported {dryRun : Bool} {folder : Path} {outputs : List Output} {p : Progress}
    {failure : Failure} (hzero : ∀ o, (outputPath folder b.record.name o).hasZero = false)
    (h : (emit dryRun folder b p outputs).2 = some failure) : failure.ending = .status 1 := by
  induction outputs generalizing p with
  | nil => cases h
  | cons o rest ih =>
    rw [emit] at h
    cases htext : o.textOf b with
    | none =>
      rw [htext] at h
      obtain rfl := Option.some.inj h
      rfl
    | some text =>
      rw [htext] at h
      cases dryRun with
      | true => exact ih h
      | false =>
        dsimp only at h
        rw [if_neg Bool.false_ne_true] at h
        rcases hwrite : p.disk.write (outputPath folder b.record.name o) text with ⟨d', _ | fault⟩
        · rw [hwrite] at h
          exact ih h
        · rw [hwrite] at h
          have hcause := Disk.write_zeroByte (hzero o) hwrite
          obtain rfl := Option.some.inj h
          rw [Failure.ofDisk, if_neg hcause]
          rfl

/-- An artifact that was not made stops the run, unless a file before it does. -/
theorem emit_missing (dryRun : Bool) (folder : Path) {outputs : List Output} (p : Progress)
    (hmissing : ∃ o ∈ outputs, o.made b = false) :
    ∃ failure, (emit dryRun folder b p outputs).2 = some failure := by
  induction outputs generalizing p with
  | nil => simp at hmissing
  | cons o rest ih =>
    rw [emit]
    cases htext : o.textOf b with
    | none => exact ⟨_, rfl⟩
    | some text =>
      have hrest : ∃ o ∈ rest, o.made b = false := by
        obtain ⟨o', ho', hnone⟩ := hmissing
        rcases List.mem_cons.mp ho' with rfl | ho'
        · simp [Output.made, htext] at hnone
        · exact ⟨o', ho', hnone⟩
      cases dryRun with
      | true => exact ih _ hrest
      | false =>
        dsimp only
        rw [if_neg Bool.false_ne_true]
        rcases hwrite : p.disk.write (outputPath folder b.record.name o) text with ⟨d', _ | fault⟩
        · exact ih _ hrest
        · exact ⟨_, rfl⟩

end Emit

section Run
variable {s : Session} {i : Invocation} {folder : Path} {p : Progress} {text : Text}

/-- The options of a run, from the file and the arguments. -/
def optionsOf (i : Invocation) (disk : Disk) : Except Options.Fault Options :=
  Options.load {} disk i.config i.overrides

/-- Every file is left as it was, or it is the file of an artifact that the run was asked for ahead of
the first one that is switched off, and holds that artifact. -/
def KeepsOthers (i : Invocation) (s : Session) (folder : Path) (after : Disk) : Prop :=
  ∀ q, after.fileAt q = s.disk.fileAt q ∨
    ∃ options b, optionsOf i s.disk = .ok options ∧
      Bundle.build options (.present s.now) (recordText i s.stdin) = .ok b ∧
      ∃ o ∈ i.requested.takeWhile (·.enabled options), ∃ text, o.textOf b = some text ∧
        q = s.disk.target (outputPath folder b.record.name o) ∧
        after.fileAt q = some (Utf8.encode (Disk.terminated text))

/-- No artifact is to be written ahead of the first one that is switched off. -/
def WritesNothing (i : Invocation) (disk : Disk) : Prop :=
  i.dryRun = true ∨
    ∀ options, optionsOf i disk = .ok options → i.requested.takeWhile (·.enabled options) = []

/-- The run has stopped with a report, and only files ahead of the first missing artifact are
written. -/
structure Stopped (i : Invocation) (s : Session) (folder : Path) (outcome : Outcome) : Prop where
  status : outcome.ending = .status 1
  others : KeepsOthers i s folder outcome.disk
  nothing : WritesNothing i s.disk → outcome.disk = s.disk

lemma stopped_of_same_disk {outcome : Outcome} (hdisk : outcome.disk = s.disk)
    (hending : outcome.ending = .status 1) : Stopped i s folder outcome :=
  ⟨hending, fun q => .inl (by rw [hdisk]), fun _ => hdisk⟩

/-- Options that cannot be loaded are reported, unless the file is no text or holds an integer that is
too long. -/
lemma ofOptions_ending {fault : Options.Fault} (h : optionsOf i s.disk = .error fault)
    (htext : ∀ f, fault ≠ .undecodable f) (hlong : ∀ integer, fault ≠ .longInteger integer) :
    (Failure.ofOptions fault).ending = .status 1 := by
  cases fault with
  | undecodable f => exact absurd rfl (htext f)
  | longInteger integer => exact absurd rfl (hlong integer)
  | unreachable f =>
    cases ((Options.load_breaks_iff rfl).mp h).2 with
    | tooLong hfind => rfl
  | _ => rfl

lemma deliver_of_emit_failure {b : Bundle} {failure : Failure}
    (hfolder : outputFolder i p.disk.cwd = .ok folder)
    (h : (emit i.dryRun folder b p i.requested).2 = some failure) :
    deliver i b p = ((emit i.dryRun folder b p i.requested).1, some failure) := by
  rcases hemit : emit i.dryRun folder b p i.requested with ⟨p', _ | f⟩
  · rw [hemit] at h
    cases h
  · rw [hemit] at h
    obtain rfl := Option.some.inj h
    simp only [deliver, hfolder, hemit]

/-- A bundle is delivered up to the first artifact that is switched off. -/
lemma deliver_stopped {options : Options} {b : Bundle}
    (hfolder : outputFolder i s.disk.cwd = .ok folder)
    (hcwd : ∀ step ∈ s.disk.cwd, Char.ofNat 0 ∉ step) (hname : Run Identifier.isKept b.record.name)
    (hoptions : optionsOf i s.disk = .ok options)
    (hbuild : Bundle.build options (.present s.now) (recordText i s.stdin) = .ok b)
    (hmade : ∀ o : Output, o.made b = o.enabled options)
    (hoff : ∃ o ∈ i.requested, o.enabled options = false) (hdisk : p.disk = s.disk) :
    Stopped i s folder (finish (deliver i b p)) := by
  have htaken : i.requested.takeWhile (·.made b) = i.requested.takeWhile (·.enabled options) := by
    simp only [hmade]
  have hmissing : ∃ o ∈ i.requested, o.made b = false := by simpa only [hmade] using hoff
  obtain ⟨failure, hfailure⟩ := emit_missing i.dryRun folder p hmissing
  have hending := emit_reported (outputPath_hasZero hfolder hcwd hname) hfailure
  rw [deliver_of_emit_failure (hdisk ▸ hfolder) hfailure]
  refine ⟨hending, fun q => ?_, ?_⟩
  · rcases emit_confined i.dryRun folder b i.requested p q with hsame | ⟨o, ho, hrest⟩
    · exact .inl (hdisk ▸ hsame)
    · rw [htaken] at ho
      rw [hdisk] at hrest
      exact .inr ⟨options, b, hoptions, hbuild, o, ho, hrest⟩
  · rintro (hdry | hnone)
    · rw [hdry, ← hdisk]
      exact emit_dryRun folder b i.requested p
    · rw [← hdisk]
      exact emit_nothing i.dryRun folder p (htaken.trans (hnone options hoptions))

/-- How generating comes out: without options, without a record, or with a bundle to deliver. -/
theorem generate_cases (hnow : s.now.IsUniversal) (text : Text) (hdisk : p.disk = s.disk) :
    ∃ log,
      (∃ fault, optionsOf i s.disk = .error fault ∧
        generate i s text p = ({ p with log }, some (.ofOptions fault))) ∨
      (∃ options problem, optionsOf i s.disk = .ok options ∧
        Dialect.read options text = .error problem ∧
        generate i s text p = ({ p with log }, some (.unreadable problem))) ∨
      ∃ options r members, optionsOf i s.disk = .ok options ∧ Dialect.read options text = .ok r ∧
        Bundle.build options (.present s.now) text = .ok (Bundle.assemble options r members) ∧
        generate i s text p = deliver i (Bundle.assemble options r members) { p with log } := by
  unfold generate
  simp only [Progress.note, hdisk]
  rw [← optionsOf]
  cases hoptions : optionsOf i s.disk with
  | error fault => exact ⟨_, .inl ⟨fault, rfl, rfl⟩⟩
  | ok options =>
    cases hread : Dialect.read options text with
    | error problem =>
      simp only [Bundle.build_of_read_error hread]
      exact ⟨_, .inr (.inl ⟨options, problem, rfl, hread, rfl⟩)⟩
    | ok r =>
      obtain ⟨members, hbuild⟩ := Bundle.build_present hnow hread
      simp only [hbuild]
      exact ⟨_, .inr (.inr ⟨options, r, members, rfl, hread, hbuild, rfl⟩)⟩

/-- Generating stops when an artifact is asked for that is switched off. -/
lemma generate_stopped (hnow : s.now.IsUniversal)
    (hfolder : outputFolder i s.disk.cwd = .ok folder)
    (hcwd : ∀ step ∈ s.disk.cwd, Char.ofNat 0 ∉ step)
    (htext : ∀ fault, optionsOf i s.disk ≠ .error (.undecodable fault))
    (hlong : ∀ integer, optionsOf i s.disk ≠ .error (.longInteger integer))
    (hoff : ∀ options, optionsOf i s.disk = .ok options →
      ∃ o ∈ i.requested, o.enabled options = false) (hdisk : p.disk = s.disk) :
    Stopped i s folder (finish (generate i s (recordText i s.stdin) p)) := by
  obtain ⟨log, ⟨fault, hoptions, hgenerate⟩ | ⟨options, problem, -, -, hgenerate⟩ |
    ⟨options, r, members, hoptions, hread, hbuild, hgenerate⟩⟩ :=
      generate_cases (i := i) hnow (recordText i s.stdin) hdisk
  · rw [hgenerate]
    refine stopped_of_same_disk hdisk (ofOptions_ending hoptions ?_ ?_)
    · rintro f rfl
      exact htext f hoptions
    · rintro integer rfl
      exact hlong integer hoptions
  · rw [hgenerate]
    exact stopped_of_same_disk hdisk rfl
  · rw [hgenerate]
    exact deliver_stopped hfolder hcwd (Dialect.read_names hread).1.kept hoptions hbuild
      Output.made_assemble (hoff options hoptions) hdisk

/-- A run with a record text generates code from it. -/
lemma proceed_of_record (h : recordText i s.stdin ≠ []) :
    ∃ earlier, ∀ j : Invocation, j.words = i.words → proceed j s =
      finish (generate j s (recordText i s.stdin) { disk := s.disk, log := earlier }) := by
  have htext : ∀ j : Invocation, j.words = i.words → j.text = i.text := by
    intro j hwords
    rw [Invocation.text, Invocation.text, hwords]
  unfold recordText at h ⊢
  cases hempty : i.text.isEmpty with
  | false =>
    refine ⟨[], fun j hwords => ?_⟩
    simp only [proceed, htext j hwords, hempty]
    rfl
  | true =>
    rw [hempty, if_pos rfl] at h
    cases hstdin : s.stdin.recordText with
    | error fault => simp [hstdin, Except.toOption] at h
    | ok text =>
      rw [hstdin] at h
      obtain ⟨c, rest, rfl⟩ := List.exists_cons_of_ne_nil (l := text) h
      refine ⟨s.stdin.log, fun j hwords => ?_⟩
      simp only [proceed, htext j hwords, hempty, hstdin]
      rfl

/-- The run looks for its text on a stream that is closed. -/
def MeetsClosed (i : Invocation) (s : Session) : Prop := i.text = [] ∧ s.stdin = .closed

/-- A run without a record text leaves the disk alone, and ends with a report unless its stream is
closed. -/
lemma proceed_of_no_record (h : recordText i s.stdin = []) :
    (proceed i s).disk = s.disk ∧ ((proceed i s).ending = .status 1 ∨
      (MeetsClosed i s ∧ (proceed i s).ending = .escaped .closedStream)) := by
  unfold recordText at h
  cases hempty : i.text.isEmpty with
  | false =>
    rw [hempty, if_neg Bool.false_ne_true] at h
    rw [h] at hempty
    cases hempty
  | true =>
    rw [hempty, if_pos rfl] at h
    cases hstdin : s.stdin.recordText with
    | error fault =>
      simp only [proceed, hempty, hstdin]
      cases fault with
      | unreadable why => exact ⟨rfl, .inl rfl⟩
      | closed =>
        exact ⟨rfl, .inr ⟨⟨List.isEmpty_iff.mp hempty, Stream.eq_closed_of_recordText hstdin⟩, rfl⟩⟩
    | ok text =>
      rw [hstdin] at h
      obtain rfl : text = [] := h
      simp only [proceed, hempty, hstdin]
      exact ⟨rfl, .inl rfl⟩

lemma proceed_stopped (hopen : ¬ MeetsClosed i s)
    (hgenerate : ∀ p : Progress, p.disk = s.disk →
      Stopped i s folder (finish (generate i s (recordText i s.stdin) p))) :
    Stopped i s folder (proceed i s) := by
  by_cases hrecord : recordText i s.stdin = []
  · obtain ⟨hdisk, hending | ⟨hclosed, -⟩⟩ := proceed_of_no_record hrecord
    · exact stopped_of_same_disk hdisk hending
    · exact absurd hclosed hopen
  · obtain ⟨earlier, hproceed⟩ := proceed_of_record hrecord
    rw [hproceed i rfl]
    exact hgenerate _ rfl

/-- A run that is asked for an artifact which is switched off, by an argument or by the options file,
ends with status 1. Of the files only those are changed that belong to artifacts asked for ahead of
the first one that is switched off, and each of these is complete. -/
theorem run_stops_at_disabled_artifact (hargs : Invocation.ofArguments s.arguments = .ok i)
    (hlevel : i.logLevel ≠ some none) (hwords : i.words.head? ≠ some "completion".toList)
    (hnow : s.now.IsUniversal) (hfolder : outputFolder i s.disk.cwd = .ok folder)
    (hcwd : ∀ step ∈ s.disk.cwd, Char.ofNat 0 ∉ step) (hopen : ¬ MeetsClosed i s)
    (htext : ∀ fault, optionsOf i s.disk ≠ .error (.undecodable fault))
    (hlong : ∀ integer, optionsOf i s.disk ≠ .error (.longInteger integer))
    (hoff : ∀ options, optionsOf i s.disk = .ok options →
      ∃ o ∈ i.requested, o.enabled options = false) :
    (run s).ending = .status 1 ∧ KeepsOthers i s folder (run s).disk ∧
      (WritesNothing i s.disk → (run s).disk = s.disk) := by
  have hstopped := proceed_stopped hopen fun p hdisk =>
    generate_stopped hnow hfolder hcwd htext hlong hoff hdisk
  have hcompletion : (i.words.head? == some "completion".toList) = false := by simpa using hwords
  unfold run
  simp only [hargs, hcompletion]
  cases hgiven : i.logLevel with
  | none => exact ⟨hstopped.status, hstopped.others, hstopped.nothing⟩
  | some level =>
    cases level with
    | none => exact absurd hgiven hlevel
    | some level => exact ⟨hstopped.status, hstopped.others, hstopped.nothing⟩

/-- A run in an empty folder that is asked for the type alias and, though it is switched off, for the
schema. -/
def mixedSession : Session where
  arguments := ["--type".toList, "--zod".toList, "--no-zod".toList, "User a".toList]
  now := .ofEpoch 0
  disk := ⟨["work".toList], [(["work".toList], .folder)]⟩

/-- What the arguments of that run ask for. -/
def mixedInvocation : Invocation where
  words := ["User a".toList]
  writes := [.type, .zod]
  turns := [(.zod, false)]

/-- The place of the type alias of that run. -/
def mixedPlace : Place := ["work".toList, "core".toList, "user.type.ts".toList]

lemma arguments_mixedSession :
    Invocation.ofArguments mixedSession.arguments = .ok mixedInvocation := by decide +kernel

lemma optionsOf_mixedSession :
    optionsOf mixedInvocation mixedSession.disk = .ok { zod := false } := by decide +kernel

/-- The run reports the missing schema, and the type alias ahead of it stays written. -/
theorem disabled_artifact_leaves_earlier_file :
    Invocation.ofArguments mixedSession.arguments = .ok mixedInvocation ∧
      Output.zod ∈ mixedInvocation.requested ∧
      optionsOf mixedInvocation mixedSession.disk = .ok { zod := false } ∧
      (run mixedSession).ending = .status 1 ∧ mixedSession.disk.fileAt mixedPlace = none ∧
      (run mixedSession).disk.fileAt mixedPlace =
        some (Utf8.encode "export type User = \x7b\n  a: string;\n\x7d;\n".toList) := by
  refine ⟨arguments_mixedSession, by decide, optionsOf_mixedSession, ?_, by decide, ?_⟩
  · decide +kernel
  · decide +kernel

theorem run_mixedSession_stops :
    (run mixedSession).ending = .status 1 ∧
      ∀ q, q ≠ mixedPlace → (run mixedSession).disk.fileAt q = mixedSession.disk.fileAt q := by
  have hoff : ∀ options, optionsOf mixedInvocation mixedSession.disk = .ok options →
      ∃ o ∈ mixedInvocation.requested, o.enabled options = false := by
    intro options hoptions
    rw [optionsOf_mixedSession] at hoptions
    obtain rfl := Except.ok.inj hoptions
    exact ⟨.zod, by decide, rfl⟩
  have hfolder : outputFolder mixedInvocation mixedSession.disk.cwd =
      .ok ⟨"/".toList, ["work".toList, "core".toList]⟩ := by decide +kernel
  obtain ⟨hstatus, hothers, -⟩ := run_stops_at_disabled_artifact arguments_mixedSession
    (by decide) (by decide) ⟨by decide, by decide, by decide, rfl⟩ hfolder (by decide) nofun
    (by rw [optionsOf_mixedSession]; simp) (by rw [optionsOf_mixedSession]; simp) hoff
  refine ⟨hstatus, fun q hq => ?_⟩
  rcases hothers q with hsame | ⟨options, b, hoptions, hbuild, o, ho, text, -, htarget, -⟩
  · exact hsame
  · rw [optionsOf_mixedSession] at hoptions
    obtain rfl := Except.ok.inj hoptions
    have hread : Dialect.read { zod := false } (recordText mixedInvocation mixedSession.stdin) =
        .ok ⟨"User".toList, [⟨"a".toList, "string".toList, true⟩]⟩ := by decide +kernel
    have hrecord := (Bundle.read_of_build hbuild).1
    rw [hread] at hrecord
    obtain rfl : o = .type := by
      have htaken : mixedInvocation.requested.takeWhile (·.enabled { zod := false }) = [.type] := by
        decide
      rw [htaken] at ho
      exact List.mem_singleton.mp ho
    refine absurd ?_ hq
    rw [htarget, ← Except.ok.inj hrecord]
    decide +kernel

end Run

end CommandLine
end Shorthand
