import Shorthand.Proofs.CommandLine
import Shorthand.Proofs.Service

/-! The command and the service agree: from the same text, options and moment both make the same
bundle, or both report the same problem. Options that lead to an integer with too many digits are
passed on by both. -/
namespace Shorthand
open Text Service CommandLine

/-- The text of a member of an object. -/
def Json.textAt? (name : Text) : Json → Option Text
  | .obj members =>
    match member? name members with
    | some (.str s) => some s
    | _ => none
  | _ => none

lemma Bundle.textAt?_type (b : Bundle) : b.toJson.textAt? "type".toList = some b.typeText := rfl

section Verdicts
variable {now : Moment} {b : Bundle} {report : Dialect.Report} {d t : Text}
  {options : List (Text × Json)}

/-- Both front ends deliver the bundle: the response and the output hold it as JSON. -/
structure Delivered (b : Bundle) (now : Moment) (r : Request) (outcome : Outcome) : Prop where
  response : ∃ body, Answers now r 200 body ∧ Json.read body = .ok b.toJson
  ending : outcome.ending = .status 0
  stdout : Json.read outcome.stdout = .ok b.toJson

/-- Both front ends report the same: the response as JSON, the command in lines. -/
structure Reported (report : Dialect.Report) (now : Moment) (r : Request) (outcome : Outcome) :
    Prop where
  response : ∃ body, Answers now r 400 body ∧ Json.read body = .ok report.toJson
  ending : outcome.ending = .status 1
  stdout : outcome.stdout = []
  stderr : outcome.stderr = reportLines report

/-- The service shows the bundle in plain text: its type alias, or all of it. -/
structure ShownAsText (b : Bundle) (now : Moment) (d : Text) : Prop where
  type : ∀ r : Request, r.Asks "/t".toList d →
    ∃ text, b.toJson.textAt? "type".toList = some text ∧ Answers now r 200 text
  all : ∀ r : Request, r.Asks "/all".toList d → Answers now r 200 b.renderAll

/-- The service reports a problem in plain text: its message and its hint. -/
def ReportedAsText (report : Dialect.Report) (now : Moment) (d : Text) : Prop :=
  ∀ r : Request, r.Asks "/t".toList d ∨ r.Asks "/all".toList d →
    Answers now r 400 (Rejection.report report).text

lemma shownAsText (hnow : now.IsUniversal) (hb : Bundle.build {} (.present now) d = .ok b) :
    ShownAsText b now d := by
  refine ⟨fun r hr => ⟨_, b.textAt?_type, ?_⟩, fun r hr => hr.answers_all.1 b hb⟩
  cases hread : Dialect.read {} d with
  | error problem =>
    rw [Bundle.build_of_read_error hread] at hb
    cases hb
  | ok record =>
    obtain ⟨members, hmembers⟩ := Bundle.build_present hnow hread
    rw [hmembers] at hb
    obtain rfl := Except.ok.inj hb
    exact (hr.answers_type hnow).1 record hread

lemma reportedAsText (hnow : now.IsUniversal) {problem : Dialect.Problem}
    (hread : Dialect.read {} d = .error problem) : ReportedAsText problem.report now d := by
  rintro r (hr | hr)
  · exact (hr.answers_type hnow).2 problem hread
  · exact hr.answers_all.2 problem hread

lemma Delivered.status_iff {r : Request} {outcome : Outcome} (h : Delivered b now r outcome) :
    (∃ body, Answers now r 200 body) ↔ outcome.ending = .status 0 := by
  obtain ⟨body, hbody, -⟩ := h.response
  exact ⟨fun _ => h.ending, fun _ => ⟨body, hbody⟩⟩

lemma Reported.status_iff {r : Request} {outcome : Outcome} (h : Reported report now r outcome) :
    (∃ body, Answers now r 200 body) ↔ outcome.ending = .status 0 := by
  obtain ⟨body, hbody, -⟩ := h.response
  constructor
  · rintro ⟨body', hbody'⟩
    cases (hbody.unique hbody').1
  · intro hending
    rw [h.ending] at hending
    cases hending

end Verdicts

/-- A request to generate code answers 200 exactly when the run that prints JSON ends well. Then both
give the same bundle, and otherwise both report the same problem. With no options, so does the service
in plain text. -/
theorem service_agrees_with_command {s : Session} {r : Request} {f d t : Text}
    {options : List (Text × Json)} (hs : s.PrintsJson f t d) (hr : r.Orders d t)
    (ht : Json.read t = .ok (.obj options)) (hd : trim d ≠ [])
    (hsize : d.length ≤ 10 ^ mostDigits) (hnow : s.now.IsUniversal) :
    ((∃ body, Answers s.now r 200 body) ↔ (run s).ending = .status 0) ∧
    ((∃ b, Bundle.build (({} : Options).applyAll options) (.present s.now) d = .ok b ∧
        Delivered b s.now r (run s) ∧ (options = [] → ShownAsText b s.now d)) ∨
      ∃ problem, Dialect.read (({} : Options).applyAll options) d = .error problem ∧
        Reported problem.report s.now r (run s) ∧
        (options = [] → ReportedAsText problem.report s.now d)) := by
  -- Reading the text decides: with a clock in universal time nothing else can fail on either side.
  cases hread : Dialect.read (({} : Options).applyAll options) d with
  | ok record =>
    obtain ⟨members, hb⟩ := Bundle.build_present hnow hread
    obtain ⟨hending, hstdout⟩ := hs.run_of_build_ok hd ht hb
    have hdelivered : Delivered _ s.now r (run s) := ⟨hr.answers_of_build_ok ht hb, hending, hstdout⟩
    refine ⟨hdelivered.status_iff, .inl ⟨_, hb, hdelivered, ?_⟩⟩
    rintro rfl
    exact shownAsText hnow hb
  | error problem =>
    obtain ⟨hending, hstdout, hstderr⟩ := hs.run_of_read_error hd ht hread
    have hreported : Reported problem.report s.now r (run s) :=
      ⟨hr.answers_of_read_error ht hsize hread, hending, hstdout, hstderr⟩
    refine ⟨hreported.status_iff, .inr ⟨problem, rfl, hreported, ?_⟩⟩
    rintro rfl
    exact reportedAsText hnow hread

section Samples

/-- A run in a folder with one file `f`, which holds `t`, and with `d` on the input stream. -/
def pipedSession (f t d : Text) : Session where
  arguments := ["--mode".toList, "json".toList, "--config".toList, f]
  stdin := .text d
  now := .ofEpoch 0
  disk := ⟨["work".toList], [(["work".toList], .folder), (["work".toList, f], .file (Utf8.encode t))]⟩

/-- The request that orders the same. -/
def orderRequest (t d : Text) : Request where
  server := "localhost".toList
  method := "POST".toList
  path := "/dsl".toList
  body := Utf8.encode (envelope d t)

/-- The request that asks for the same text in its query. -/
def queryRequest (path d : Text) : Request where
  server := "localhost".toList
  method := "GET".toList
  path := path
  query := "dsl=".toList ++ Query.escapeAll d

lemma printsJson_pipedSession (t d : Text) :
    (pipedSession "o.json".toList t d).PrintsJson "o.json".toList t d where
  arguments := rfl
  word := rfl
  ending := by decide
  file := rfl
  stdin := rfl

lemma orders_orderRequest {t : Text} {options : List (Text × Json)}
    (ht : Json.read t = .ok (.obj options)) (d : Text) : (orderRequest t d).Orders d t :=
  orders_envelope ht rfl rfl rfl

lemma ofEpoch_zero_isUniversal : (Moment.ofEpoch 0).IsUniversal := Moment.ofEpoch_isUniversal 0

lemma read_userId : Dialect.read {} "User id".toList =
    .ok ⟨"User".toList, [⟨"id".toList, "string".toList, true⟩]⟩ := by decide +kernel

theorem service_and_command_on_samples :
    ((run (pipedSession "o.json".toList "\x7b\x7d".toList "User id".toList)).ending = .status 0 ∧
      Answers (.ofEpoch 0) (queryRequest "/t".toList "User id".toList) 200
        "export type User = \x7b\n  id: string;\n\x7d;\n".toList) ∧
    ((run (pipedSession "o.json".toList "\x7b\"zod\":[]\x7d\r\n".toList
        "User".toList)).ending = .status 1 ∧
      ∃ body, Answers (.ofEpoch 0) (orderRequest "\x7b\"zod\":[]\x7d\r\n".toList
        "User".toList) 400 body) := by
  have hempty : Json.read "\x7b\x7d".toList = .ok (.obj []) := rfl
  have hregular : Json.Regular (Free fun _ => false) (.obj [("zod".toList, .arr [])]) :=
    Json.regular_obj (by simp) (by simp [Free, Json.Regular.arr])
  have hoff : Json.read "\x7b\"zod\":[]\x7d\r\n".toList = .ok (.obj [("zod".toList, .arr [])]) :=
    Json.readWith_print Json.compact_isBlank hregular (w := "\r\n".toList) (by decide)
  have htype : Artifact.typeAlias "User".toList [⟨"id".toList, "string".toList, true⟩] =
      "export type User = \x7b\n  id: string;\n\x7d;\n".toList := by decide +kernel
  have hmissing : Dialect.read { zod := false } "User".toList =
      .error { fault := .missingFields .spaced } := by decide +kernel
  constructor
  · obtain ⟨-, ⟨b, hb, hdelivered, hshown⟩ | ⟨problem, hproblem, -⟩⟩ := service_agrees_with_command
      (printsJson_pipedSession _ "User id".toList) (orders_orderRequest hempty _) hempty
      (by decide) (by decide +kernel) ofEpoch_zero_isUniversal
    · obtain ⟨members, hmembers⟩ := Bundle.build_present ofEpoch_zero_isUniversal read_userId
      obtain rfl := Except.ok.inj (hb.symm.trans hmembers)
      obtain ⟨text, htext, hanswers⟩ := (hshown rfl).type
        (queryRequest "/t".toList "User id".toList) (asks_escaped rfl rfl rfl)
      refine ⟨hdelivered.ending, ?_⟩
      rw [Bundle.textAt?_type] at htext
      obtain rfl := Option.some.inj htext
      rw [← htype]
      exact hanswers
    · cases read_userId.symm.trans hproblem
  · obtain ⟨-, ⟨b, hb, -⟩ | ⟨problem, -, hreported, -⟩⟩ := service_agrees_with_command
      (printsJson_pipedSession _ "User".toList) (orders_orderRequest hoff _) hoff
      (by decide) (by decide +kernel) ofEpoch_zero_isUniversal
    · cases hb.symm.trans (Bundle.build_of_read_error hmissing _)
    · obtain ⟨body, hbody, -⟩ := hreported.response
      exact ⟨hreported.ending, body, hbody⟩

/-- A file whose name is taken for an option stops the command. -/
example : (run (pipedSession "-o.json".toList "\x7b\x7d".toList "User id".toList)).ending =
    .status 2 := by
  decide +kernel

/-- Options with an integer that is too long are passed on by both front ends: the service does not
answer, and the command ends without a status. -/
theorem overlong_option_escapes_both :
    (respond (.ofEpoch 0) (orderRequest Json.overlongObject "User id".toList)).result =
        .error (.longInteger ⟨some (mostDigits + 1)⟩) ∧
      (run (pipedSession "o.json".toList Json.overlongObject "User id".toList)).ending =
        .escaped (.longInteger ⟨some (mostDigits + 1)⟩) := by
  have hlong : Overlong (orderRequest Json.overlongObject "User id".toList).body
      ⟨some (mostDigits + 1)⟩ :=
    overlong_envelope Json.overlongObject_leads
  have hsession := printsJson_pipedSession Json.overlongObject "User id".toList
  have hfile := Options.hasLong_of_text ⟨hsession.ending, hsession.file⟩
    Json.return_not_mem_overlongObject (Json.overlongObject_meets _)
  exact ⟨hlong.respond_eq rfl rfl, hsession.run_of_load_error (by decide)
    (Options.load_longInteger_iff.mpr hfile)⟩

end Samples
end Shorthand
