import Shorthand.Proofs.Arguments
import Shorthand.Proofs.Body
import Shorthand.Proofs.Emission
import Shorthand.Proofs.Schema

/-! A dry run says what a run would do. Both get to the same bundle and list the same files; the dry
run leaves the disk alone, and the other changes nothing but the files it lists, which lie in the
output folder itself whatever the record is called. A disk has no links, so these are the files that
are found there. -/
namespace Shorthand
open Text

namespace Disk
variable {d d' d'' : Disk} {folder : Path} {step : Text}

/-- A step that does not lead upwards leads to a place right in the folder. -/
lemma target_child (h : step ≠ "..".toList) (d : Disk) (folder : Path) :
    d.target (folder.child step) = d.target folder ++ [step] := by
  have hup : (step == "..".toList) = false := beq_eq_false_iff_ne.mpr h
  rw [target, target, Path.child, follow_append]
  simp only [Path.follow, hup]
  rfl

/-- The folder holds these files, by name and contents, and every other file is as it was. -/
structure Holds (before : Disk) (folder : Path) (files : List (Text × Text)) (after : Disk) : Prop where
  written : ∀ f ∈ files, after.fileAt (before.target folder ++ [f.1]) = some (Utf8.encode f.2)
  others : ∀ q, (∀ f ∈ files, q ≠ before.target folder ++ [f.1]) → after.fileAt q = before.fileAt q

lemma Holds.nil (d : Disk) (folder : Path) : d.Holds folder [] d :=
  ⟨by simp, fun _ _ => rfl⟩

/-- A file that is written ahead of others with other names. -/
lemma Holds.cons {text : Text} {files : List (Text × Text)} (hstep : step ≠ "..".toList)
    (htext : terminated text = text) (hwrite : d.write (folder.child step) text = (d', none))
    (hfresh : ∀ f ∈ files, f.1 ≠ step) (hrest : d'.Holds folder files d'') :
    d.Holds folder ((step, text) :: files) d'' := by
  obtain ⟨hcwd, hfile⟩ := write_done hwrite
  have htarget : d'.target folder = d.target folder := by rw [target, target, hcwd]
  obtain ⟨hwritten, hothers⟩ := hrest
  rw [htarget] at hwritten hothers
  rw [target_child hstep, htext] at hfile
  refine ⟨List.forall_mem_cons.mpr ⟨?_, hwritten⟩, fun q hq => ?_⟩
  · rw [hothers, hfile, if_pos rfl]
    intro f hf hsame
    have hname : step = f.1 := by simpa using hsame
    exact hfresh f hf hname.symm
  · rw [List.forall_mem_cons] at hq
    rw [hothers q hq.2, hfile, if_neg hq.1]

end Disk

namespace CommandLine
variable {b : Bundle} {o : Output} {name text : Text}

section Files

/-- Names of files for artifacts. -/
def IsFileName (name : Text) : Prop :=
  ∃ (stem : Text) (o : Output), name = stem ++ '.' :: o.name ++ ".ts".toList ∧ Identifier.IsStem stem

/-- The files for the artifacts that were made, by name and contents. -/
def filesOf (b : Bundle) (outputs : List Output) : List (Text × Text) :=
  outputs.filterMap fun o =>
    (o.textOf b).map fun text => (Artifact.fileName b.record.name o.name, text)

lemma isFileName_fileName (h : Identifier.IsTypeName name) (o : Output) :
    IsFileName (Artifact.fileName name o.name) := by
  have hne : name.isEmpty = false := by simpa using h.ne_nil
  refine ⟨Identifier.kebab name, o, ?_, Identifier.isStem_kebab h.ne_nil h.kept⟩
  simp only [Artifact.fileName, hne, Bool.false_eq_true, if_false]

lemma fileName_inj {o' : Output}
    (h : Artifact.fileName name o.name = Artifact.fileName name o'.name) : o = o' := by
  have hname : o.name = o'.name := by simpa [Artifact.fileName] using h
  revert hname
  cases o <;> cases o' <;> decide

lemma fileName_ne_up (name artifact : Text) : Artifact.fileName name artifact ≠ "..".toList := by
  have hends : endsIn 's' (Artifact.fileName name artifact) = true := by
    rw [Artifact.fileName, endsIn_append (by decide)]
    rfl
  intro h
  rw [h] at hends
  exact absurd hends (by decide)

lemma filesOf_cons (h : o.textOf b = some text) (rest : List Output) :
    filesOf b (o :: rest) = (Artifact.fileName b.record.name o.name, text) :: filesOf b rest := by
  simp [filesOf, h]

lemma mem_filesOf {outputs : List Output} {f : Text × Text} (h : f ∈ filesOf b outputs) :
    ∃ o ∈ outputs, o.textOf b = some f.2 ∧ f.1 = Artifact.fileName b.record.name o.name := by
  obtain ⟨o, ho, hf⟩ := List.mem_filterMap.mp h
  obtain ⟨text, htext, rfl⟩ := Option.map_eq_some_iff.mp hf
  exact ⟨o, ho, htext, rfl⟩

/-- All code that is generated ends in a line feed, so that none is added when it is written. -/
lemma terminated_textOf {options : Options} {clock : Clock} {raw : Text}
    (hbuild : Bundle.build options clock raw = .ok b) (h : o.textOf b = some text) :
    Disk.terminated text = text := by
  obtain ⟨r, members, hread, -, rfl⟩ := Bundle.exists_of_build hbuild
  obtain ⟨hline, hlines⟩ := Dialect.read_lines hread
  have hends : endsIn '\n' text = true := by
    cases o with
    | type =>
      obtain rfl := Option.some.inj h
      simp only [Bundle.assemble]
      rw [Artifact.typeAlias_eq_blocks hline hlines, endsIn_append (by decide)]
      rfl
    | interface =>
      simp only [Output.textOf, Bundle.assemble] at h
      split_ifs at h
      obtain rfl := Option.some.inj h
      rw [Artifact.interface_eq_blocks hline hlines, endsIn_append (by decide)]
      rfl
    | zod =>
      simp only [Output.textOf, Bundle.assemble] at h
      split_ifs at h
      obtain rfl := Option.some.inj h
      rw [Record.schema_eq_form hline hlines]
      unfold Artifact.schemaForm
      rw [endsIn_append (by decide)]
      rfl
  rw [Disk.terminated, if_pos hends]

end Files

section Emit
variable {folder : Path} {outputs : List Output} {p p' : Progress}

/-- Emitting that comes to its end has written every artifact. -/
theorem emit_done (hnodup : outputs.Nodup)
    (htexts : ∀ (o : Output) text, o.textOf b = some text → Disk.terminated text = text)
    (h : emit false folder b p outputs = (p', none)) :
    p'.stdout = p.stdout ∧ (∀ o ∈ outputs, o.made b = true) ∧
      p.disk.Holds folder (filesOf b outputs) p'.disk := by
  induction outputs generalizing p with
  | nil =>
    obtain rfl : p = p' := congrArg Prod.fst h
    exact ⟨rfl, by simp, .nil _ _⟩
  | cons o rest ih =>
    rw [List.nodup_cons] at hnodup
    rw [emit] at h
    cases htext : o.textOf b with
    | none =>
      rw [htext] at h
      cases congrArg Prod.snd h
    | some text =>
      simp only [htext, Bool.false_eq_true, if_false] at h
      rcases hwrite : p.disk.write (outputPath folder b.record.name o) text with ⟨d', _ | fault⟩
      · rw [hwrite] at h
        obtain ⟨hstdout, hmade, hholds⟩ := ih hnodup.2 h
        refine ⟨hstdout, List.forall_mem_cons.mpr ⟨by simp [Output.made, htext], hmade⟩, ?_⟩
        rw [filesOf_cons htext]
        refine .cons (fileName_ne_up _ _) (htexts o text htext) hwrite ?_ hholds
        intro f hf hsame
        obtain ⟨o', ho', -, hname⟩ := mem_filesOf hf
        rw [hname] at hsame
        exact hnodup.1 (fileName_inj hsame ▸ ho')
      · rw [hwrite] at h
        cases congrArg Prod.snd h

/-- A dry run comes to its end when every artifact was made. -/
lemma emit_dry (folder : Path) (hmade : ∀ o ∈ outputs, o.made b = true) (p : Progress) :
    ∃ log, emit true folder b p outputs = ({ p with log }, none) := by
  induction outputs generalizing p with
  | nil => exact ⟨p.log, rfl⟩
  | cons o rest ih =>
    rw [List.forall_mem_cons] at hmade
    obtain ⟨text, htext⟩ := Option.isSome_iff_exists.mp hmade.1
    simp only [emit, htext, if_true]
    exact ih hmade.2 _

end Emit

section Deliver
variable {i : Invocation} {folder : Path} {outputs : List Output} {p p' : Progress}

/-- The lines about files in a folder, each with a label. -/
def listed (label : Text) (folder : Path) (files : List (Text × Text)) : Text :=
  files.flatMap fun f => Console.line (label ++ (folder.child f.1).text)

/-- The label of a run. -/
def Invocation.label (i : Invocation) : Text :=
  if i.dryRun then "[dry-run] ".toList else "Wrote ".toList

lemma foldl_print (lineOf : Path → Text) (paths : List Path) (p : Progress) :
    paths.foldl (fun p path => p.print (lineOf path)) p =
      { p with stdout := p.stdout ++ paths.flatMap fun path => Console.line (lineOf path) } := by
  induction paths generalizing p with
  | nil => simp
  | cons path paths ih =>
    rw [List.foldl_cons, ih]
    simp [Progress.print]

lemma paths_filesOf (folder : Path) (hmade : ∀ o ∈ outputs, o.made b = true) :
    outputs.map (outputPath folder b.record.name) =
      (filesOf b outputs).map fun f => folder.child f.1 := by
  induction outputs with
  | nil => rfl
  | cons o rest ih =>
    rw [List.forall_mem_cons] at hmade
    obtain ⟨text, htext⟩ := Option.isSome_iff_exists.mp hmade.1
    rw [filesOf_cons htext, List.map_cons, List.map_cons, ih hmade.2]
    rfl

/-- When all artifacts are emitted, their files are listed and the bundle is printed. -/
lemma deliver_of_emit (hfolder : outputFolder i p.disk.cwd = .ok folder)
    (hmade : ∀ o ∈ i.requested, o.made b = true)
    (hemit : emit i.dryRun folder b p i.requested = (p', none)) :
    deliver i b p = printBundle i b
      { p' with stdout := p'.stdout ++ listed i.label folder (filesOf b i.requested) } := by
  simp only [deliver, hfolder, hemit]
  rw [foldl_print, paths_filesOf folder hmade, List.flatMap_map]
  rfl

/-- What is printed of a bundle does not depend on what was done before. -/
lemma printBundle_ok (h : printBundle i b p = (p', none)) :
    ∃ rest, ∀ q : Progress, printBundle i b q = ({ q with stdout := q.stdout ++ rest }, none) := by
  simp only [printBundle] at h ⊢
  split_ifs at h ⊢
  · exact ⟨[], fun q => by simp⟩
  · cases congrArg Prod.snd h
  · exact ⟨_, fun q => rfl⟩

/-- A bundle that is delivered is delivered by a dry run too, with the same files and output. -/
theorem deliver_ok (hwet : i.dryRun = false)
    (htexts : ∀ (o : Output) text, o.textOf b = some text → Disk.terminated text = text)
    (h : deliver i b p = (p', none)) :
    ∃ folder rest, outputFolder i p.disk.cwd = .ok folder ∧
      (∀ o ∈ i.requested, o.made b = true) ∧
      p.disk.Holds folder (filesOf b i.requested) p'.disk ∧
      p'.stdout = p.stdout ++ listed "Wrote ".toList folder (filesOf b i.requested) ++ rest ∧
      ∀ earlier, ∃ log, deliver i.dry b { p with log := earlier } = ({ p with
        stdout := p.stdout ++ listed "[dry-run] ".toList folder (filesOf b i.requested) ++ rest
        log }, none) := by
  have hnodup : i.requested.Nodup := List.Nodup.filter _ (by decide)
  cases hfolder : outputFolder i p.disk.cwd with
  | error e => simp [deliver, hfolder] at h
  | ok folder =>
    rcases hemit : emit i.dryRun folder b p i.requested with ⟨p₁, _ | failure⟩
    · have hdone := hemit
      rw [hwet] at hdone
      obtain ⟨hstdout, hmade, hholds⟩ := emit_done hnodup htexts hdone
      rw [deliver_of_emit hfolder hmade hemit] at h
      obtain ⟨rest, hprint⟩ := printBundle_ok h
      rw [hprint] at h
      obtain rfl : _ = p' := congrArg Prod.fst h
      refine ⟨folder, rest, rfl, hmade, hholds, ?_, fun earlier => ?_⟩
      · simp only [hstdout, Invocation.label, hwet]
        rfl
      · obtain ⟨log, hdry⟩ := emit_dry folder hmade { p with log := earlier }
        refine ⟨log, ?_⟩
        rw [deliver_of_emit (i := i.dry) (p := { p with log := earlier }) hfolder hmade hdry]
        exact hprint _
    · simp [deliver, hfolder, hemit] at h

end Deliver

section Run
variable {s : Session} {i : Invocation}

/-- The same session, asked for a dry run ahead of all else. -/
def Session.dry (s : Session) : Session :=
  { s with arguments := "--dry-run".toList :: s.arguments }

/-- What a session asks for: no files when the arguments are not followed or ask for a completion
script, and otherwise, in the output folder, the files of all artifacts asked for. -/
inductive Session.Asks (s : Session) (folder : Path) : List (Text × Text) → Prop
  | nothing (h : ∀ i, Invocation.ofArguments s.arguments = .ok i →
      i.words.head? = some "completion".toList) : s.Asks folder []
  | artifacts {i : Invocation} {options : Options} {b : Bundle}
      (arguments : Invocation.ofArguments s.arguments = .ok i)
      (output : outputFolder i s.disk.cwd = .ok folder)
      (load : optionsOf i s.disk = .ok options)
      (build : Bundle.build options (.present s.now) (recordText i s.stdin) = .ok b)
      (made : ∀ o ∈ i.requested, o.made b = true) : s.Asks folder (filesOf b i.requested)

/-- A dry run, and the run whose files it lists. -/
structure Predicts (before : Disk) (folder : Path) (files : List (Text × Text))
    (dry outcome : Outcome) : Prop where
  status : dry.ending = .status 0
  untouched : dry.disk = before
  printed : ∃ rest, outcome.stdout = listed "Wrote ".toList folder files ++ rest ∧
    dry.stdout = listed "[dry-run] ".toList folder files ++ rest
  holds : before.Holds folder files outcome.disk

lemma predicts_self {outcome : Outcome} {disk : Disk} (folder : Path)
    (hstatus : outcome.ending = .status 0) (hdisk : outcome.disk = disk) :
    Predicts disk folder [] outcome outcome :=
  ⟨hstatus, hdisk, ⟨_, rfl, rfl⟩, hdisk ▸ .nil _ _⟩

lemma Predicts.withLogs {before : Disk} {folder : Path} {files : List (Text × Text)}
    {dry outcome : Outcome} (h : Predicts before folder files dry outcome)
    (log log' : List Log.Record) :
    Predicts before folder files { dry with log } { outcome with log := log' } :=
  ⟨h.status, h.untouched, h.printed, h.holds⟩

/-- A run ends with status 0 only if nothing failed. -/
lemma finish_status {result : Progress × Option Failure} (h : (finish result).ending = .status 0) :
    result.2 = none := by
  obtain ⟨p, _ | failure⟩ := result
  · rfl
  · cases failure <;> cases h

/-- Generating that succeeds is predicted by a dry run that starts from the same disk. -/
theorem generate_predicts {earlier : List Log.Record} (hwet : i.dryRun = false)
    (h : (finish (generate i s (recordText i s.stdin)
      { disk := s.disk, log := earlier })).ending = .status 0) :
    ∃ folder options b, outputFolder i s.disk.cwd = .ok folder ∧
      optionsOf i s.disk = .ok options ∧
      Bundle.build options (.present s.now) (recordText i s.stdin) = .ok b ∧
      (∀ o ∈ i.requested, o.made b = true) ∧
      Predicts s.disk folder (filesOf b i.requested)
        (finish (generate i.dry s (recordText i s.stdin) { disk := s.disk, log := earlier }))
        (finish (generate i s (recordText i s.stdin) { disk := s.disk, log := earlier })) := by
  have hnone := finish_status h
  cases hload : optionsOf i s.disk with
  | error fault =>
    rw [optionsOf] at hload
    simp [generate, Progress.note, hload] at hnone
  | ok options =>
    obtain ⟨log, hgenerate⟩ := generate_of_load (i := i) (s := s)
      (p := { disk := s.disk, log := earlier }) hload (recordText i s.stdin)
    obtain ⟨log', hdry⟩ := generate_of_load (i := i.dry) (s := s)
      (p := { disk := s.disk, log := earlier }) hload (recordText i s.stdin)
    rw [hgenerate] at hnone ⊢
    rw [hdry]
    cases hbuild : Bundle.build options (.present s.now) (recordText i s.stdin) with
    | error fault =>
      rw [hbuild] at hnone
      cases hnone
    | ok b =>
      rw [hbuild] at hnone
      dsimp only at hnone ⊢
      rcases hdeliver : deliver i b { disk := s.disk, log } with ⟨p, result⟩
      obtain rfl : result = none := by rwa [hdeliver] at hnone
      obtain ⟨folder, rest, hfolder, hmade, hholds, hprinted, hdelivers⟩ :=
        deliver_ok hwet (fun o text => terminated_textOf hbuild) hdeliver
      obtain ⟨log, hdelivered⟩ := hdelivers log'
      dsimp only at hdelivered
      rw [hdelivered]
      exact ⟨folder, options, b, hfolder, rfl, hbuild, hmade, rfl, rfl, ⟨rest, hprinted, rfl⟩, hholds⟩

/-- A run that succeeds generates code from the text of its words or of its input stream. -/
lemma proceed_generates (h : (proceed i s).ending = .status 0) :
    ∃ earlier, ∀ j : Invocation, j.words = i.words → proceed j s =
      finish (generate j s (recordText i s.stdin) { disk := s.disk, log := earlier }) := by
  refine proceed_of_record fun hnone => ?_
  rcases (proceed_of_no_record hnone).2 with hending | ⟨-, hending⟩
  · cases hending.symm.trans h
  · cases hending.symm.trans h

lemma printCompletion_disk (disk : Disk) (shell : Option Text) :
    (printCompletion disk shell).disk = disk := by
  unfold printCompletion
  cases Shell.ofName? (shell.getD []) <;> rfl

/-- Without arguments to follow, both runs end alike. -/
lemma stopped_predicts {stop : Stop} (folder : Path)
    (hargs : Invocation.ofArguments s.arguments = .error stop)
    (hrun : (run s).ending = .status 0) : Predicts s.disk folder [] (run s.dry) (run s) := by
  have hdryArgs : Invocation.ofArguments s.dry.arguments = .error stop := by
    rw [Session.dry, Invocation.ofArguments_dryRun, hargs]
    rfl
  have hsame : run s.dry = run s := by
    simp only [run, hargs, hdryArgs]
    rfl
  have hdisk : (run s).disk = s.disk := by
    simp only [run, hargs]
    cases stop <;> rfl
  rw [hsame]
  exact predicts_self folder hrun hdisk

/-- A run that succeeds does what its session asks for, and is predicted. -/
theorem run_predicts
    (hset : ∀ i, Invocation.ofArguments s.arguments = .ok i → i.dryRun = false)
    (hrun : (run s).ending = .status 0) :
    ∃ folder files, s.Asks folder files ∧ Predicts s.disk folder files (run s.dry) (run s) := by
  cases hargs : Invocation.ofArguments s.arguments with
  | error stop => exact ⟨⟨[], []⟩, [], .nothing (by simp [hargs]), stopped_predicts _ hargs hrun⟩
  | ok i =>
    cases hlevel : i.logLevel.getD (some (defaultLevel s.logLevel)) with
    | none =>
      simp only [run, hargs, hlevel] at hrun
      cases hrun
    | some level =>
      have hdryArgs : Invocation.ofArguments s.dry.arguments = .ok i.dry := by
        rw [Session.dry, Invocation.ofArguments_dryRun, hargs]
        rfl
      obtain ⟨log, hwet⟩ := run_of_level hargs hlevel
      obtain ⟨log', hdry⟩ := run_of_level (s := s.dry) (i := i.dry) hdryArgs hlevel
      have hwords : i.dry.words = i.words := rfl
      rw [hwords] at hdry
      rw [hwet] at hrun
      rw [hwet, hdry]
      cases hcompletion : i.words.head? == some "completion".toList with
      | true =>
        simp only [hcompletion, if_true] at hrun ⊢
        refine ⟨⟨[], []⟩, [], .nothing fun j hj => ?_, ?_⟩
        · obtain rfl : i = j := Except.ok.inj (hargs.symm.trans hj)
          exact eq_of_beq hcompletion
        · exact (predicts_self _ hrun (printCompletion_disk s.disk i.words[1]?)).withLogs log' log
      | false =>
        simp only [hcompletion, Bool.false_eq_true, if_false] at hrun ⊢
        obtain ⟨earlier, hproceed⟩ := proceed_generates hrun
        have hproceedDry : proceed i.dry s.dry = _ := hproceed i.dry rfl
        rw [hproceed i rfl] at hrun ⊢
        rw [hproceedDry]
        obtain ⟨folder, options, b, hfolder, hload, hbuild, hmade, hboth⟩ :=
          generate_predicts (hset i hargs) hrun
        exact ⟨folder, _, .artifacts hargs hfolder hload hbuild hmade, hboth.withLogs log' log⟩

/-- Whatever the record is called, its files have names of their own in the folder. -/
lemma Session.Asks.fileName {folder : Path} {files : List (Text × Text)} (h : s.Asks folder files) :
    ∀ f ∈ files, IsFileName f.1 ∧ s.disk.target (folder.child f.1) = s.disk.target folder ++ [f.1] := by
  cases h with
  | nothing => simp
  | @artifacts i options b _ _ _ build _ =>
    intro f hf
    obtain ⟨o, -, -, hname⟩ := mem_filesOf hf
    have htype := (Dialect.read_names (Bundle.read_of_build build).1).1
    rw [hname]
    exact ⟨isFileName_fileName htype o, Disk.target_child (fileName_ne_up _ _) s.disk folder⟩

/-- A dry run predicts a run that succeeds: both list the same files, which the run writes and which
lie in the output folder itself, and no other file is touched. But for the label the lines are the
same, unless there is a tab in a path. -/
theorem dry_run_predicts_run (s : Session)
    (hset : ∀ i, Invocation.ofArguments s.arguments = .ok i → i.dryRun = false)
    (hrun : (run s).ending = .status 0) :
    ∃ folder files, s.Asks folder files ∧ Predicts s.disk folder files (run s.dry) (run s) ∧
      (∀ f ∈ files, IsFileName f.1 ∧
        s.disk.target (folder.child f.1) = s.disk.target folder ++ [f.1]) ∧
      ((∀ f ∈ files, '\t' ∉ (folder.child f.1).text) →
        ∀ label ∈ ["Wrote ".toList, "[dry-run] ".toList], listed label folder files =
          files.flatMap fun f => label ++ Console.line (folder.child f.1).text) := by
  have hlabels : ∀ label ∈ ["Wrote ".toList, "[dry-run] ".toList], Free Console.isMoving label := by
    decide
  obtain ⟨folder, files, hasks, hpredicts⟩ := run_predicts hset hrun
  refine ⟨folder, files, hasks, hpredicts, hasks.fileName, fun htabs label hlabel => ?_⟩
  exact List.flatMap_congr fun f hf => Console.line_append (hlabels label hlabel) (htabs f hf)

/-- A run for a record whose name tries to leave the output folder. -/
def upwardSession : Session where
  arguments := ["--type".toList, "--zod".toList, "--mode".toList, "interface".toList,
    "--outdir".toList, "./out/".toList, "../x id:n".toList]
  now := .ofEpoch 0
  disk := ⟨["work".toList], [(["work".toList], .folder),
    (["work".toList, "out".toList], .folder),
    (["work".toList, "out".toList, "x.zod.ts".toList], .file [])]⟩

/-- What the arguments of that run ask for. -/
def upwardInvocation : Invocation where
  words := ["../x id:n".toList]
  mode := some .interface
  writes := [.type, .zod]
  outdir := some "./out/".toList

/-- The files of that run. -/
def upwardFiles : List (Text × Text) :=
  [("x.type.ts".toList, "export type X = \x7b\n  id: number;\n\x7d;\n".toList),
   ("x.zod.ts".toList, "import \x7b z \x7d from \"zod\";\n\nexport const XSchema = ".toList ++
     "z.object(\x7b\n  id: z.number(),\n\x7d);\n\n".toList ++
     "export type X = z.infer<typeof XSchema>;\n".toList)]

theorem dry_run_predicts_upwardSession :
    (run upwardSession).ending = .status 0 ∧
      Predicts upwardSession.disk ⟨"/".toList, ["work".toList, "out".toList]⟩ upwardFiles
        (run upwardSession.dry) (run upwardSession) := by
  have hargs : Invocation.ofArguments upwardSession.arguments = .ok upwardInvocation := by
    decide +kernel
  have hfolder : outputFolder upwardInvocation upwardSession.disk.cwd =
      .ok ⟨"/".toList, ["work".toList, "out".toList]⟩ := by decide +kernel
  have hload : optionsOf upwardInvocation upwardSession.disk = .ok {} := by decide +kernel
  have hread : Dialect.read {} (recordText upwardInvocation upwardSession.stdin) =
      .ok ⟨"X".toList, [⟨"id".toList, "number".toList, true⟩]⟩ := by decide +kernel
  have hrun : (run upwardSession).ending = .status 0 := by decide +kernel
  obtain ⟨folder, files, hasks, hpredicts, -⟩ := dry_run_predicts_run upwardSession
    (by rw [hargs]; rintro i h; cases h; rfl) hrun
  refine ⟨hrun, ?_⟩
  cases hasks with
  | nothing h => exact absurd (h _ hargs) (by decide)
  | @artifacts i options b arguments output load build _ =>
    obtain rfl := Except.ok.inj (hargs.symm.trans arguments)
    obtain rfl := Except.ok.inj (hfolder.symm.trans output)
    obtain rfl := Except.ok.inj (hload.symm.trans load)
    obtain ⟨r, members, hrecord, -, rfl⟩ := Bundle.exists_of_build build
    obtain rfl := Except.ok.inj (hread.symm.trans hrecord)
    -- The example is in no file.
    have hfiles : filesOf (Bundle.assemble {} ⟨"X".toList, [⟨"id".toList, "number".toList, true⟩]⟩
        none) upwardInvocation.requested = upwardFiles := by decide +kernel
    exact hfiles ▸ hpredicts

/-- A run that writes to a folder with a tab in its name. -/
def tabbedSession : Session where
  arguments := ["--type".toList, "--outdir".toList, "/tmp/a\tb".toList, "User id".toList]
  now := .ofEpoch 0
  disk := ⟨["work".toList], [(["work".toList], .folder)]⟩

/-- Behind the longer label the tab ends at another column. -/
theorem label_moves_tab :
    (∃ i, Invocation.ofArguments tabbedSession.arguments = .ok i ∧ i.dryRun = false) ∧
      (run tabbedSession).ending = .status 0 ∧
      ¬ ∃ path, (run tabbedSession).stdout = "Wrote ".toList ++ path ++ ['\n'] ∧
        (run tabbedSession.dry).stdout = "[dry-run] ".toList ++ path ++ ['\n'] := by
  have hargs : Invocation.ofArguments tabbedSession.arguments =
      .ok { words := ["User id".toList], writes := [.type], outdir := some "/tmp/a\tb".toList } := by
    decide +kernel
  have hwrote : (run tabbedSession).stdout = "Wrote /tmp/a    b/user.type.ts\n".toList := by
    decide +kernel
  have hdry : (run tabbedSession.dry).stdout = "[dry-run] /tmp/a        b/user.type.ts\n".toList := by
    decide +kernel
  refine ⟨⟨_, hargs, rfl⟩, by decide +kernel, ?_⟩
  rintro ⟨path, hpath, hpath'⟩
  have hlength := congrArg List.length (hwrote.symm.trans hpath)
  have hlength' := congrArg List.length (hdry.symm.trans hpath')
  simp at hlength hlength'
  omega

end Run
end CommandLine
end Shorthand
