import Shorthand.CommandLine.Run
import Shorthand.Proofs.Characters
import Shorthand.Proofs.Except
import Shorthand.Proofs.Options
import Shorthand.Proofs.Utf8

/-! A run that prints a bundle as JSON: what its arguments ask for, which options its file gives, and
what is printed. -/
namespace Shorthand
open Text

namespace Console
variable {s : Text}

/-- Not printed as it is. -/
def isMoving (c : Char) : Bool := movesCursor c || c == '\t'

lemma isMoving_of_visible {c : Char} (h : 0x20 ≤ c.toNat) : isMoving c = false := by
  have htab : c ≠ '\t' := by
    rintro rfl
    revert h
    decide
  simp only [isMoving, movesCursor, Bool.or_eq_false_iff, beq_eq_false_iff_ne]
  exact ⟨by omega, htab⟩

lemma isMoving_avoidsPlain : AvoidsPlain isMoving := by
  intro c hc
  rcases Bool.or_eq_true_iff.mp hc with hline | hvisible
  · rw [eq_of_beq hline]
    rfl
  · simp only [Bool.and_eq_true, decide_eq_true_eq] at hvisible
    exact isMoving_of_visible hvisible.1

lemma expandTabs_of_not_mem (h : '\t' ∉ s) : expandTabs s = s := by
  have hsplit : s.splitOnP (· == '\t') = [s] :=
    List.splitOnP_eq_singleton fun c hc => by simpa using ne_of_mem_of_not_mem hc h
  rw [expandTabs, hsplit, fill]

/-- Of text without tabs all is printed that does not move the cursor. -/
theorem line_of_tabless (h : '\t' ∉ s) : line s = s.filter (!movesCursor ·) ++ ['\n'] := by
  have htabs : (lines (s.filter (!movesCursor ·))).map expandTabs =
      lines (s.filter (!movesCursor ·)) := by
    refine (List.map_congr_left fun l hl => expandTabs_of_not_mem fun htab => ?_).trans
      (List.map_id' _)
    exact h (List.mem_of_mem_filter ((splitOnP_mem _ _ l hl).2.subset htab))
  rw [line, htabs, join_lines]

lemma filter_of_free (h : Free isMoving s) : s.filter (!movesCursor ·) = s := by
  rw [List.filter_eq_self]
  intro c hc
  simp [(Bool.or_eq_false_iff.mp (h c hc)).1]

lemma tab_not_mem (h : Free isMoving s) : '\t' ∉ s := fun hmem => absurd (h '\t' hmem) (by decide)

/-- Text without tabs that does not move the cursor is printed as it is. -/
theorem line_of_free (h : Free isMoving s) : line s = s ++ ['\n'] := by
  rw [line_of_tabless (tab_not_mem h), filter_of_free h]

/-- A label in front of a text without tabs does not change how it is printed. -/
theorem line_append {label : Text} (hlabel : Free isMoving label) (h : '\t' ∉ s) :
    line (label ++ s) = label ++ line s := by
  have hboth : '\t' ∉ label ++ s := by simp [tab_not_mem hlabel, h]
  rw [line_of_tabless hboth, line_of_tabless h, List.filter_append, filter_of_free hlabel,
    List.append_assoc]

end Console

namespace Options
variable {disk : Disk} {file t : Text} {members : List (Text × Json)}

/-- A JSON file in UTF-8 gives the object that its text holds, however its lines end. -/
theorem fileMembers_of_read (hending : lower (Path.ofText file).ending = ".json".toList)
    (hread : disk.read (Path.ofText file) = .ok (Utf8.encode t))
    (ht : Json.read t = .ok (.obj members)) : fileMembers disk file = .ok members := by
  have hfile : file.isEmpty = false := by
    cases file with
    | nil => exact absurd hending (by decide)
    | cons _ _ => rfl
  have hunified : Json.read (unifyNewlines t) = .ok (.obj members) :=
    Json.readWith_eq_ok_iff.mpr (Json.readWith_eq_ok_iff.mp ht).unifyNewlines
  have hbytes : JsonFile disk (Path.ofText file) (Utf8.encode t) := ⟨hending, hread⟩
  simp [fileMembers, hfile, hbytes.loadFile_of_text (Utf8.decode_encode t), membersOf, hunified]

/-- A JSON file in UTF-8 whose text leads to an integer that is too long. -/
lemma hasLong_of_text {path : Path} {integer : Json.LongInteger}
    (hfile : JsonFile disk path (Utf8.encode t)) (hreturn : '\r' ∉ t)
    (hlong : Json.MeetsLong (fun _ => replacement) integer t) : HasLong disk path integer := by
  refine ⟨_, t, hfile, Utf8.decode_encode t, ?_⟩
  rwa [Json.unifyNewlines_of_free hreturn]

lemma load_of_read (hending : lower (Path.ofText file).ending = ".json".toList)
    (hread : disk.read (Path.ofText file) = .ok (Utf8.encode t))
    (ht : Json.read t = .ok (.obj members)) (o : Options) :
    o.load disk file (.obj []) = .ok (o.applyAll members) := by
  rw [load, fileMembers_of_read hending hread ht]
  rfl

end Options

/-- Only a closed stream fails as one. -/
lemma Stream.eq_closed_of_recordText {stream : Stream} (h : stream.recordText = .error .closed) :
    stream = .closed := by
  have hcontents := error_of_map_error h
  unfold contents at hcontents
  split at hcontents
  · cases hcontents
  · rfl
  · cases hcontents
  · cases hcontents
  · split at hcontents <;> cases hcontents
  · cases hcontents

/-- Reading does not look at the blank space around a text. -/
lemma Bundle.build_trim (options : Options) (clock : Clock) (d : Text) :
    build options clock (trim d) = build options clock d := by
  unfold build Dialect.read
  rw [trim_trim]

namespace CommandLine
variable {σ : Type} {declared : List (Declared σ)} {i : Invocation} {s : Session} {f t d : Text}

lemma classifyAll_cons {a : Argument σ} (hdashes : f ≠ "--".toList)
    (h : classify declared f = .ok a) (rest : List Text) :
    classifyAll declared (f :: rest) = (classifyAll declared rest).map (a :: ·) := by
  have hf : (f == "--".toList) = false := beq_eq_false_iff_ne.mpr hdashes
  rw [classifyAll, hf, h]
  rfl

/-- A run that prints a bundle as JSON: the record text `d` is on the input stream, and `t` is the
text of the file with the options, whose name `f` is not taken for an option. -/
structure Session.PrintsJson (s : Session) (f t d : Text) : Prop where
  arguments : s.arguments = ["--mode".toList, "json".toList, "--config".toList, f]
  word : classify CommandLine.options f = .ok (.word f)
  ending : lower (Path.ofText f).ending = ".json".toList
  file : s.disk.read (Path.ofText f) = .ok (Utf8.encode t)
  stdin : s.stdin.contents = .ok (some d)

lemma Session.PrintsJson.ofArguments (h : s.PrintsJson f t d) :
    Invocation.ofArguments s.arguments = .ok { mode := some .json, config := f } := by
  have hf : f ≠ "--".toList := by
    rintro rfl
    exact absurd h.ending (by decide)
  have hkinds : classifyAll CommandLine.options s.arguments = .ok [
      .option ⟨["--mode".toList], .value (oneOf Bundle.Mode.list Bundle.Mode.name .mode) (.mode .type)⟩
        "--mode".toList none,
      .word "json".toList,
      .option ⟨["--config".toList], .value (.ok ∘ .config) (.config [])⟩ "--config".toList none,
      .word f] := by
    rw [h.arguments, classifyAll_cons (by decide) rfl, classifyAll_cons (by decide) rfl,
      classifyAll_cons (by decide) rfl, classifyAll_cons hf h.word]
    rfl
  have hvalue : (f == "--".toList) = false := beq_eq_false_iff_ne.mpr hf
  have hscan : scan CommandLine.options .hyphens s.arguments =
      .ok { settings := [.mode .json, .config f] } := by
    rw [scan, hkinds]
    simp only [scanFrom, takesValue, List.foldlM_nil, pure_bind, carryOutWith, hvalue]
    rfl
  rw [Invocation.ofArguments, readMixed, hscan]
  rfl

/-- A run whose arguments are followed, with a level for its log. -/
lemma run_of_level {level : Log.Level} (hargs : Invocation.ofArguments s.arguments = .ok i)
    (hlevel : i.logLevel.getD (some (defaultLevel s.logLevel)) = some level) :
    ∃ log, run s = { (if i.words.head? == some "completion".toList then
      printCompletion s.disk i.words[1]? else proceed i s) with log } := by
  simp only [run, hargs, hlevel]
  exact ⟨_, rfl⟩

lemma run_eq_proceed (hargs : Invocation.ofArguments s.arguments = .ok i) (hwords : i.words = [])
    (hlevel : i.logLevel = none) : ∃ log, run s = { proceed i s with log } := by
  obtain ⟨log, hrun⟩ := run_of_level hargs (by rw [hlevel]; rfl)
  rw [hwords] at hrun
  exact ⟨log, hrun⟩

lemma proceed_of_stream {text : Text} (hwords : i.text = []) (hstdin : s.stdin.recordText = .ok text)
    (htext : text ≠ []) :
    proceed i s = finish (generate i s text { disk := s.disk, log := s.stdin.log }) := by
  obtain ⟨c, rest, rfl⟩ := List.exists_cons_of_ne_nil htext
  simp only [proceed, hwords, hstdin]
  rfl

lemma generate_of_load {p : Progress} {options : Options}
    (hload : ({} : Options).load p.disk i.config i.overrides = .ok options) (text : Text) :
    ∃ log, generate i s text p = match Bundle.build options (.present s.now) text with
      | .error fault => ({ p with log }, some (.ofBundle fault))
      | .ok b => deliver i b { p with log } := by
  simp only [generate, Progress.note, hload]
  exact ⟨_, rfl⟩

/-- Without files to write, a bundle is only printed. -/
lemma deliver_json (b : Bundle) (p : Progress) :
    deliver { mode := some .json, config := f } b p = (p.print b.toJson.pretty, none) := by
  obtain ⟨inner, hinner⟩ : ∃ inner, b.toJson.pretty = inner ++ ['}'] := ⟨_, rfl⟩
  have htext : dropFinalNewlines b.toJson.pretty = b.toJson.pretty := by
    rw [hinner]
    simp [dropFinalNewlines]
  have hprint : printBundle { mode := some .json, config := f } b p =
      (p.print (dropFinalNewlines b.toJson.pretty), none) := rfl
  rw [htext] at hprint
  exact hprint

lemma Session.PrintsJson.recordText (h : s.PrintsJson f t d) : s.stdin.recordText = .ok (trim d) := by
  rw [Stream.recordText, h.stdin]
  rfl

/-- What such a run gets to: a bundle of the text on the stream, with the options of the file. -/
lemma Session.PrintsJson.run_eq (h : s.PrintsJson f t d) (hd : trim d ≠ [])
    {members : List (Text × Json)} (ht : Json.read t = .ok (.obj members)) :
    ∃ (p : Progress) (log : List Log.Record), p.stdout = [] ∧
      run s = { finish (match Bundle.build (({} : Options).applyAll members) (.present s.now) d with
        | .error fault => (p, some (.ofBundle fault))
        | .ok b => (p.print b.toJson.pretty, none)) with log } := by
  obtain ⟨log, hrun⟩ := run_eq_proceed h.ofArguments rfl rfl
  obtain ⟨log', hgenerate⟩ := generate_of_load (i := { mode := some .json, config := f }) (s := s)
    (p := { disk := s.disk, log := s.stdin.log }) (Options.load_of_read h.ending h.file ht {}) (trim d)
  rw [proceed_of_stream rfl h.recordText hd, hgenerate, Bundle.build_trim] at hrun
  simp only [deliver_json] at hrun
  exact ⟨_, log, rfl, hrun⟩

/-- Such a run ends with its options when these cannot be loaded. -/
lemma Session.PrintsJson.run_of_load_error (h : s.PrintsJson f t d) (hd : trim d ≠ [])
    {fault : Options.Fault} (hload : ({} : Options).load s.disk f (.obj []) = .error fault) :
    (run s).ending = (Failure.ofOptions fault).ending := by
  obtain ⟨log, hrun⟩ := run_eq_proceed h.ofArguments rfl rfl
  rw [hrun, proceed_of_stream rfl h.recordText hd]
  have hoverrides : ({ mode := some .json, config := f } : Invocation).overrides = .obj [] := rfl
  simp only [generate, Progress.note, hoverrides, hload]
  rfl

variable {members : List (Text × Json)}

/-- A bundle is printed as JSON, and nothing else is. -/
theorem Session.PrintsJson.run_of_build_ok (h : s.PrintsJson f t d) (hd : trim d ≠ [])
    (ht : Json.read t = .ok (.obj members)) {b : Bundle}
    (hb : Bundle.build (({} : Options).applyAll members) (.present s.now) d = .ok b) :
    (run s).ending = .status 0 ∧ Json.read (run s).stdout = .ok b.toJson := by
  obtain ⟨p, log, hp, hrun⟩ := h.run_eq hd ht
  rw [hb] at hrun
  rw [hrun]
  refine ⟨rfl, ?_⟩
  have hregular : Json.Regular (Free fun _ => false) b.toJson :=
    Bundle.toJson_regular (fun _ _ => rfl) (fun _ _ => rfl) hb
  have hfree : Free Console.isMoving b.toJson.pretty :=
    Json.printAt_free Console.isMoving_avoidsPlain
      (Json.indented_isFree Console.isMoving_avoidsPlain)
      (fun _ _ => Json.free_quote Console.isMoving_avoidsPlain
        fun _ _ hc => Console.isMoving_of_visible hc) hregular 0
  have hstdout : (p.print b.toJson.pretty).stdout = b.toJson.pretty ++ ['\n'] := by
    rw [Progress.print, hp, Console.line_of_free hfree]
    rfl
  simp only [finish, hstdout]
  exact Json.readWith_print Json.indented_isBlank hregular (by decide)

/-- What is wrong with a text is reported, and no bundle is printed. -/
theorem Session.PrintsJson.run_of_read_error (h : s.PrintsJson f t d) (hd : trim d ≠ [])
    (ht : Json.read t = .ok (.obj members)) {problem : Dialect.Problem}
    (hread : Dialect.read (({} : Options).applyAll members) d = .error problem) :
    (run s).ending = .status 1 ∧ (run s).stdout = [] ∧
      (run s).stderr = reportLines problem.report := by
  obtain ⟨p, log, hp, hrun⟩ := h.run_eq hd ht
  rw [Bundle.build_of_read_error hread] at hrun
  rw [hrun]
  exact ⟨rfl, hp, rfl⟩

end CommandLine
end Shorthand
