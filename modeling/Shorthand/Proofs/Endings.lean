import Shorthand.Proofs.CommandLine
import Shorthand.Proofs.Emission
import Shorthand.Proofs.Room

/-! How a run ends. Once its arguments are followed, a run ends with status 0 or 1 whatever the input
stream, the options file and the disk are, but for what it passes on: a log level or an output folder
without a value, a zero byte in the name of the output folder, an input stream that is closed, and an
options file whose bytes are no text or that leads to an integer with too many digits. This is said of
arguments that are text, of a disk without links, and where the stack has room. -/
namespace Shorthand
open Text

namespace Options
variable {o : Options} {disk : Disk} {file : Text} {custom : Json} {fault : Fault}

end Options

lemma Path.hasZero_ofText (s : Text) : (Path.ofText s).hasZero = true ↔ Char.ofNat 0 ∈ s := by
  simp only [Path.hasZero, Path.ofText, List.any_eq_true, List.contains_iff_mem, List.mem_filter]
  constructor
  · rintro ⟨step, ⟨hstep, -⟩, hzero⟩
    exact (mem_fragments hstep).2 hzero
  · intro hzero
    obtain ⟨step, hstep, hmem⟩ : ∃ step ∈ fragments (· == '/') s, Char.ofNat 0 ∈ step :=
      exists_mem_fragments (by decide) hzero
    refine ⟨step, ⟨hstep, bne_iff_ne.mpr ?_⟩, hmem⟩
    rintro rfl
    exact absurd hmem (by decide)

namespace CommandLine
variable {s : Session} {i : Invocation} {e : Escape} {b : Bundle} {p : Progress}

lemma outputFolder_error_iff {cwd : Place} :
    outputFolder i cwd = .error e ↔ (i.outdir = none ∧ e = .noFolder) ∨
      ∃ outdir, i.outdir = some outdir ∧ Char.ofNat 0 ∈ outdir ∧ e = .zeroByte := by
  unfold outputFolder
  cases i.outdir with
  | none => simp [eq_comm]
  | some outdir =>
    cases hzero : (Path.ofText outdir).hasZero with
    | true =>
      have hmem := (Path.hasZero_ofText outdir).mp hzero
      simp [hzero, hmem, eq_comm]
    | false =>
      have hmem : Char.ofNat 0 ∉ outdir := by
        rw [← Path.hasZero_ofText, hzero]
        exact Bool.false_ne_true
      simp [hzero, hmem]

/-- The run gets to looking for a record text. -/
structure Follows (i : Invocation) : Prop where
  level : i.logLevel ≠ some none
  words : i.words.head? ≠ some "completion".toList

/-- The run gets to generating code from a record text. -/
structure Generates (i : Invocation) (s : Session) : Prop extends Follows i where
  record : recordText i s.stdin ≠ []

/-- The run gets to delivering a bundle. -/
structure Delivers (i : Invocation) (s : Session) : Prop extends Generates i s where
  read : ∃ options r, optionsOf i s.disk = .ok options ∧
    Dialect.read options (recordText i s.stdin) = .ok r

/-- The failures that a run passes on. The output folder is looked at only when there is a bundle to
deliver, but then also when no file is to be written. -/
inductive Escapes (i : Invocation) (s : Session) : Escape → Prop
  | noLevel (level : i.logLevel = some none) : Escapes i s .noLevel
  | closedStream (follows : Follows i) (closed : MeetsClosed i s) : Escapes i s .closedStream
  | undecodable {fault : Utf8.Fault} (generates : Generates i s)
      (file : Options.NoText s.disk (Path.ofText i.config) fault) : Escapes i s (.undecodable fault)
  | longInteger {integer : Json.LongInteger} (generates : Generates i s)
      (file : Options.HasLong s.disk (Path.ofText i.config) integer) :
      Escapes i s (.longInteger integer)
  | noFolder (delivers : Delivers i s) (outdir : i.outdir = none) : Escapes i s .noFolder
  | zeroByte {folder : Text} (delivers : Delivers i s) (outdir : i.outdir = some folder)
      (zero : Char.ofNat 0 ∈ folder) : Escapes i s .zeroByte

section Run

lemma level_given (h : i.logLevel ≠ some none) (standard : Log.Level) :
    ∃ level, i.logLevel.getD (some standard) = some level := by
  rcases hgiven : i.logLevel with _ | _ | level
  · exact ⟨standard, rfl⟩
  · exact absurd hgiven h
  · exact ⟨level, rfl⟩

lemma Follows.run_ending (h : Follows i) (hargs : Invocation.ofArguments s.arguments = .ok i) :
    (run s).ending = (proceed i s).ending := by
  obtain ⟨level, hlevel⟩ := level_given h.level (defaultLevel s.logLevel)
  have hcompletion : (i.words.head? == some "completion".toList) = false := by simpa using h.words
  obtain ⟨log, hrun⟩ := run_of_level hargs hlevel
  rw [hrun, hcompletion, if_neg Bool.false_ne_true]

/-- A run that generates ends as its generating does. -/
lemma Generates.run_ending (h : Generates i s) (hargs : Invocation.ofArguments s.arguments = .ok i) :
    ∃ earlier, (run s).ending = (finish (generate i s (recordText i s.stdin)
      { disk := s.disk, log := earlier })).ending := by
  obtain ⟨earlier, hproceed⟩ := proceed_of_record h.record
  refine ⟨earlier, ?_⟩
  rw [h.toFollows.run_ending hargs, hproceed i rfl]

/-- A run whose options cannot be loaded ends with that. -/
lemma Generates.run_ending_of_fault {fault : Options.Fault} (h : Generates i s)
    (hargs : Invocation.ofArguments s.arguments = .ok i)
    (hload : ({} : Options).load s.disk i.config i.overrides = .error fault) :
    (run s).ending = (Failure.ofOptions fault).ending := by
  obtain ⟨earlier, hrun⟩ := h.run_ending hargs
  rw [hrun]
  simp only [generate, Progress.note, hload]
  rfl

lemma proceed_of_closed (h : MeetsClosed i s) : (proceed i s).ending = .escaped .closedStream := by
  obtain ⟨htext, hclosed⟩ := h
  simp only [proceed, htext, hclosed]
  rfl

/-- A bundle without a folder for its files is not delivered. -/
lemma Delivers.generate_ending (h : Delivers i s) (hnow : s.now.IsUniversal)
    (hfolder : outputFolder i s.disk.cwd = .error e) (earlier : List Log.Record) :
    (finish (generate i s (recordText i s.stdin) { disk := s.disk, log := earlier })).ending =
      .escaped e := by
  obtain ⟨options, r, hload, hread⟩ := h.read
  obtain ⟨members, hbuild⟩ := Bundle.build_present hnow hread
  obtain ⟨log, hgenerate⟩ := generate_of_load (i := i) (s := s)
    (p := { disk := s.disk, log := earlier }) hload (recordText i s.stdin)
  rw [hgenerate, hbuild]
  simp only [deliver, hfolder]
  rfl

/-- What the run passes on is what it ends with. -/
theorem Escapes.run_ending (h : Escapes i s e) (hargs : Invocation.ofArguments s.arguments = .ok i)
    (hnow : s.now.IsUniversal) : (run s).ending = .escaped e := by
  cases h with
  | noLevel hlevel => simp [run, hargs, hlevel]
  | closedStream hfollows hclosed => rw [hfollows.run_ending hargs, proceed_of_closed hclosed]
  | undecodable hgenerates hfile =>
    exact hgenerates.run_ending_of_fault hargs (Options.load_undecodable_iff.mpr hfile)
  | longInteger hgenerates hfile =>
    exact hgenerates.run_ending_of_fault hargs (Options.load_longInteger_iff.mpr hfile)
  | noFolder hdelivers houtdir =>
    obtain ⟨earlier, hrun⟩ := hdelivers.run_ending hargs
    rw [hrun]
    exact hdelivers.generate_ending hnow (outputFolder_error_iff.mpr (.inl ⟨houtdir, rfl⟩)) earlier
  | zeroByte hdelivers houtdir hzero =>
    obtain ⟨earlier, hrun⟩ := hdelivers.run_ending hargs
    rw [hrun]
    exact hdelivers.generate_ending hnow
      (outputFolder_error_iff.mpr (.inr ⟨_, houtdir, hzero, rfl⟩)) earlier

end Run
end CommandLine
end Shorthand
