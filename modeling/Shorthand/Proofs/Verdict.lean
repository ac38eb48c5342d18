import Shorthand.Proofs.ReadBack
import Shorthand.Proofs.Room
import Shorthand.Proofs.Service

/-! Every body gets an answer that does not lead to an integer with too many digits. The checks on the
body of a request to generate code stand in a fixed order: it must be JSON, an object, with a text, with
options, and the text must be readable. The first check that fails is told with status 400; when none
fails, the bundle is sent with status 200. -/
namespace Shorthand.Service
open Text

section Checks

/-- The body is JSON for a value, whatever stands for surrogates. -/
def Reads (body : List UInt8) (v : Json) : Prop :=
  ∀ lone, (Encoding.decode? lone body).map (Json.readWith lone) = some (.ok v)

/-- The body reads alike whatever stands for surrogates without their partner, since it holds none. -/
def HoldsNoSurrogate (body : List UInt8) : Prop :=
  ∀ lone other, (Encoding.decode? lone body).map (Json.readWith lone) =
    (Encoding.decode? other body).map (Json.readWith other)

/-- The text that an object gives: nothing counts as the empty text, and so does all that counts as
false. -/
inductive GivesText (members : List (Text × Json)) : Text → Prop
  | absent (h : Json.member? "dsl".toList members = none) : GivesText members []
  | text {text : Text} (h : Json.member? "dsl".toList members = some (.str text)) :
      GivesText members text
  | falsy {v : Json} (h : Json.member? "dsl".toList members = some v) (hv : v.isTrue = false) :
      GivesText members []

/-- The options that an object gives: the standard ones, with the switches turned that it names. -/
inductive GivesOptions (members : List (Text × Json)) : Options → Prop
  | absent (h : Json.member? "options".toList members = none) : GivesOptions members {}
  | null (h : Json.member? "options".toList members = some .null) : GivesOptions members {}
  | object {turned : List (Text × Json)}
      (h : Json.member? "options".toList members = some (.obj turned)) :
      GivesOptions members (({} : Options).applyAll turned)

/-- A body that passes every check. -/
def Accepts (body : List UInt8) : Prop :=
  ∃ members text options record, Reads body (.obj members) ∧ GivesText members text ∧
    GivesOptions members options ∧ Dialect.read options text = .ok record

/-- A message about the body as a whole. -/
def complaint (message : Text) : Json := .obj [("error".toList, .str message)]

/-- The status and the value that a body is answered with: each constructor is the first check that
fails, the last one is that none does. Only what is wrong with the text has a place. -/
inductive Verdict (now : Moment) (body : List UInt8) : Nat → Json → Prop
  | notJson (short : ∀ integer, ¬ Overlong body integer) (h : ∀ v, ¬ Reads body v) :
      Verdict now body 400 (complaint "Request body must be valid JSON".toList)
  | notObject {v : Json} (reads : Reads body v) (h : ∀ members, v ≠ .obj members) :
      Verdict now body 400 (complaint "Request body must be a JSON object".toList)
  | notText {members : List (Text × Json)} {v : Json} (reads : Reads body (.obj members))
      (member : Json.member? "dsl".toList members = some v) (truthy : v.isTrue = true)
      (h : ∀ text, v ≠ .str text) :
      Verdict now body 400 (complaint "'dsl' must be a string".toList)
  | notOptions {members : List (Text × Json)} {text : Text} {v : Json}
      (reads : Reads body (.obj members)) (gives : GivesText members text)
      (member : Json.member? "options".toList members = some v) (notNull : v ≠ .null)
      (h : ∀ turned, v ≠ .obj turned) :
      Verdict now body 400 (complaint ("Options must be an object, got ".toList ++ v.kind))
  | unreadable {members : List (Text × Json)} {text : Text} {options : Options}
      {problem : Dialect.Problem} (reads : Reads body (.obj members))
      (gives : GivesText members text) (givesOptions : GivesOptions members options)
      (h : Dialect.read options text = .error problem) :
      Verdict now body 400 (.obj [("error".toList, .str problem.fault.message),
        ("index".toList, problem.index.elim .null .int),
        ("token".toList, problem.token.elim .null .str),
        ("hint".toList, .str problem.fault.hint)])
  | bundle {members : List (Text × Json)} {text : Text} {options : Options} {b : Bundle}
      (reads : Reads body (.obj members)) (gives : GivesText members text)
      (givesOptions : GivesOptions members options)
      (h : Bundle.build options (.present now) text = .ok b) : Verdict now body 200 b.toJson

end Checks

variable {now : Moment} {body : List UInt8} {members : List (Text × Json)} {text : Text}
  {options : Options} {v : Json} {status : Nat} {r : Request} {lone : Nat → Char}
  {integer : Json.LongInteger}

section Orders

/-- Without surrogates, one reading that ends at an integer is enough. -/
lemma HoldsNoSurrogate.overlong (hbody : HoldsNoSurrogate body)
    (h : (Encoding.decode? lone body).map (Json.readWith lone) = some (.error (.long integer))) :
    Overlong body integer := by
  intro other
  obtain ⟨text, htext, hread⟩ := Option.map_eq_some_iff.mp ((hbody other lone).trans h)
  exact ⟨text, htext, Json.readWith_long_iff.mp hread⟩

lemma readOrder_of_notJson (hbody : HoldsNoSurrogate body)
    (hshort : ∀ integer, ¬ Overlong body integer) (h : ∀ v, ¬ Reads body v) :
    readOrder lone body = .invalid := by
  unfold readOrder
  cases hread : (Encoding.decode? lone body).map (Json.readWith lone) with
  | none => rfl
  | some result =>
    cases result with
    | error failure =>
      cases failure with
      | malformed fault => rfl
      | long integer => exact absurd (hbody.overlong hread) (hshort integer)
    | ok v => exact absurd (fun other => (hbody other lone).trans hread) (h v)

lemma readOrder_of_notObject (hreads : Reads body v) (h : ∀ members, v ≠ .obj members) :
    readOrder lone body = .notObject := by
  unfold readOrder
  rw [hreads lone]
  cases v with
  | obj members => exact absurd rfl (h members)
  | _ => rfl

lemma readOrder_of_notText (hreads : Reads body (.obj members))
    (hmember : Json.member? "dsl".toList members = some v) (htrue : v.isTrue = true)
    (h : ∀ text, v ≠ .str text) : readOrder lone body = .notText := by
  unfold readOrder
  rw [hreads lone]
  simp only [hmember, Option.getD_some]
  cases v with
  | str text => exact absurd rfl (h text)
  | _ => simp only [htrue, if_true]

lemma readOrder_of_text (hreads : Reads body (.obj members)) (h : GivesText members text) :
    readOrder lone body = .order text ((Json.member? "options".toList members).getD .null) := by
  unfold readOrder
  rw [hreads lone]
  cases h with
  | absent hmember =>
    simp only [hmember, Option.getD_none]
    rfl
  | text hmember => simp only [hmember, Option.getD_some]
  | @falsy v hmember hfalse =>
    simp only [hmember, Option.getD_some]
    cases v with
    | str text =>
      obtain rfl : text = [] := by simpa [Json.isTrue] using hfalse
      rfl
    | _ => simp [hfalse]

lemma GivesOptions.merge (h : GivesOptions members options) :
    ({} : Options).merge ((Json.member? "options".toList members).getD .null) = .ok options := by
  cases h with
  | absent hmember => rw [hmember]; rfl
  | null hmember => rw [hmember]; rfl
  | object hmember => rw [hmember]; rfl

lemma merge_of_notOptions (hmember : Json.member? "options".toList members = some v)
    (hnull : v ≠ .null) (h : ∀ turned, v ≠ .obj turned) :
    ({} : Options).merge ((Json.member? "options".toList members).getD .null) = .error ⟨v.kind⟩ := by
  rw [hmember, Option.getD_some]
  cases v with
  | null => exact absurd rfl hnull
  | obj turned => exact absurd rfl (h turned)
  | _ => rfl

end Orders

section Verdicts

/-- What a body is answered with is what comes of its order. -/
theorem Verdict.fulfil_eq (h : Verdict now body status v) (hbody : HoldsNoSurrogate body)
    (lone : Nat → Char) :
    (fulfil now (readOrder lone body)).result = .ok (.json status v.compact) := by
  cases h with
  | notJson hshort h =>
    rw [readOrder_of_notJson hbody hshort h]
    rfl
  | notObject hreads h =>
    rw [readOrder_of_notObject hreads h]
    rfl
  | notText hreads hmember htrue h =>
    rw [readOrder_of_notText hreads hmember htrue h]
    rfl
  | notOptions hreads hgives hmember hnull h =>
    rw [readOrder_of_text hreads hgives]
    simp only [fulfil, merge_of_notOptions hmember hnull h]
    rfl
  | unreadable hreads hgives hoptions h =>
    rw [readOrder_of_text hreads hgives]
    simp only [fulfil, hoptions.merge, present, Bundle.build_of_read_error h]
    rw [← Dialect.Problem.toJson_report]
    rfl
  | bundle hreads hgives hoptions h =>
    rw [readOrder_of_text hreads hgives]
    simp only [fulfil, hoptions.merge, present, h]
    rfl

lemma kind_plain (v : Json) : Run isPlain v.kind := by
  cases v with
  | null => exact (by decide : Run isPlain "NoneType".toList)
  | bool _ => exact (by decide : Run isPlain "bool".toList)
  | int _ => exact (by decide : Run isPlain "int".toList)
  | decimal _ => exact (by decide : Run isPlain "float".toList)
  | str _ => exact (by decide : Run isPlain "str".toList)
  | arr _ => exact (by decide : Run isPlain "list".toList)
  | obj _ => exact (by decide : Run isPlain "dict".toList)

lemma complaint_regular {cut : Char → Bool} {message : Text} (hcut : AvoidsPlain cut)
    (h : Run isPlain message) : Json.Regular (Free cut) (complaint message) := by
  have hname : Free cut "error".toList := hcut.free (by decide)
  refine Json.regular_obj (List.nodup_singleton _) ?_
  rw [List.forall_mem_singleton]
  exact ⟨hname, .str (hcut.free h)⟩

/-- All that an answer says is made of the text of the order and of plain characters. -/
theorem Verdict.regular (h : Verdict now body status v) (hroom : (readOrder lone body).text.HasRoom)
    {cut : Char → Bool} (hcut : AvoidsPlain cut) (hfree : Free cut (readOrder lone body).text) :
    Json.Regular (Free cut) v := by
  cases h with
  | notJson => exact complaint_regular hcut (by decide)
  | notObject => exact complaint_regular hcut (by decide)
  | notText => exact complaint_regular hcut (by decide)
  | notOptions => exact complaint_regular hcut (run_append.mpr ⟨by decide, kind_plain _⟩)
  | unreadable hreads hgives _ h =>
    rw [readOrder_of_text hreads hgives] at hfree hroom
    rw [← Dialect.Problem.toJson_report]
    exact Dialect.report_regular hcut hfree hroom.size h
  | bundle hreads hgives _ h =>
    rw [readOrder_of_text hreads hgives] at hfree
    exact Bundle.toJson_regular hcut hfree h

lemma exists_text (members : List (Text × Json)) :
    (∃ text, GivesText members text) ∨ ∃ v, Json.member? "dsl".toList members = some v ∧
      v.isTrue = true ∧ ∀ text, v ≠ .str text := by
  cases hmember : Json.member? "dsl".toList members with
  | none => exact .inl ⟨[], .absent hmember⟩
  | some v =>
    by_cases htext : ∃ text, v = .str text
    · obtain ⟨text, rfl⟩ := htext
      exact .inl ⟨text, .text hmember⟩
    · cases htrue : v.isTrue with
      | false => exact .inl ⟨[], .falsy hmember htrue⟩
      | true => exact .inr ⟨v, rfl, htrue, not_exists.mp htext⟩

lemma exists_options (members : List (Text × Json)) :
    (∃ options, GivesOptions members options) ∨ ∃ v, Json.member? "options".toList members = some v ∧
      v ≠ .null ∧ ∀ turned, v ≠ .obj turned := by
  cases hmember : Json.member? "options".toList members with
  | none => exact .inl ⟨{}, .absent hmember⟩
  | some v =>
    cases v with
    | null => exact .inl ⟨{}, .null hmember⟩
    | obj turned => exact .inl ⟨_, .object hmember⟩
    | _ => exact .inr ⟨_, rfl, by simp, by simp⟩

/-- Some check is the first that fails, or none does. -/
theorem exists_verdict (hnow : now.IsUniversal) (hshort : ∀ integer, ¬ Overlong body integer) :
    ∃ status v, Verdict now body status v := by
  by_cases hjson : ∃ v, Reads body v
  · obtain ⟨v, hreads⟩ := hjson
    by_cases hobject : ∃ members, v = .obj members
    · obtain ⟨members, rfl⟩ := hobject
      obtain ⟨text, hgives⟩ | ⟨v, hmember, htrue, htext⟩ := exists_text members
      · obtain ⟨options, hoptions⟩ | ⟨v, hmember, hnull, hother⟩ := exists_options members
        · cases hread : Dialect.read options text with
          | error problem => exact ⟨_, _, .unreadable hreads hgives hoptions hread⟩
          | ok record =>
            obtain ⟨sample, hbuild⟩ := Bundle.build_present hnow hread
            exact ⟨_, _, .bundle hreads hgives hoptions hbuild⟩
        · exact ⟨_, _, .notOptions hreads hgives hmember hnull hother⟩
      · exact ⟨_, _, .notText hreads hmember htrue htext⟩
    · exact ⟨_, _, .notObject hreads (not_exists.mp hobject)⟩
  · exact ⟨_, _, .notJson hshort (not_exists.mp hjson)⟩

end Verdicts

section Answers

/-- A request is answered with a value, which is read back from the response. -/
structure Replies (now : Moment) (r : Request) (status : Nat) (v : Json) : Prop where
  handler : (generate now r).result = .ok (.json status v.compact)
  answer : r.method = "POST".toList → r.path = "/dsl".toList → Answers now r status v.compact
  body : Json.read v.compact = .ok v

lemma Replies.unique {status' : Nat} {v' : Json} (h : Replies now r status v)
    (h' : Replies now r status' v') : status = status' ∧ v = v' := by
  have hresponse : Response.json status v.compact = .json status' v'.compact :=
    Except.ok.inj (h.handler.symm.trans h'.handler)
  have hcompact : v.compact = v'.compact := congrArg Response.body hresponse
  have hvalue := h.body
  rw [hcompact, h'.body] at hvalue
  exact ⟨congrArg Response.status hresponse, (Except.ok.inj hvalue).symm⟩

theorem Verdict.replies (h : Verdict now r.body status v) (hbody : HoldsNoSurrogate r.body)
    (hr : r.Granted now) : Replies now r status v := by
  -- The block for surrogates is chosen for the text of the order, which holds none of its characters.
  have hregular : ∀ cut, AvoidsPlain cut →
      Free cut (readOrder (fun _ => replacement) r.body).text → Json.Regular (Free cut) v :=
    fun cut hcut hfree => h.regular (hr.text _) hcut hfree
  have hhandler : (generate now r).result = .ok (.json status v.compact) := by
    simp only [generate, h.fulfil_eq hbody]
    exact send_regular hregular
  exact ⟨hhandler, fun hmethod hpath => answers_of_generate hmethod hpath hhandler,
    read_compact_regular hregular⟩

lemma Accepts.verdict (h : Accepts body) (hnow : now.IsUniversal) : ∃ v, Verdict now body 200 v := by
  obtain ⟨members, text, options, record, hreads, hgives, hoptions, hread⟩ := h
  obtain ⟨sample, hbuild⟩ := Bundle.build_present hnow hread
  exact ⟨_, .bundle hreads hgives hoptions hbuild⟩

lemma Verdict.status_cases (h : Verdict now body status v) :
    (status = 200 ∧ Accepts body) ∨ status = 400 := by
  cases h with
  | bundle hreads hgives hoptions h =>
    exact .inl ⟨rfl, _, _, _, _, hreads, hgives, hoptions, (Bundle.read_of_build h).1⟩
  | _ => exact .inr rfl

lemma Overlong.not_replies (h : Overlong r.body integer) : ¬ Replies now r status v := by
  intro hreplies
  cases h.generate_eq.symm.trans hreplies.handler

/-- A request to generate code is answered exactly when its body does not lead to an integer that is too
long, and by the verdict on the body: with status 200 and the bundle when the body passes every check,
and otherwise with status 400 and what the first check says that fails. -/
theorem body_is_answered_unless_overlong (hr : r.Granted now) (hbody : HoldsNoSurrogate r.body) :
    ((∃ status v, Replies now r status v) ↔ ∀ integer, ¬ Overlong r.body integer) ∧
      (∀ e, (generate now r).result = .error e ↔
        ∃ integer, Overlong r.body integer ∧ e = .longInteger integer) ∧
      (∀ status v, Replies now r status v ↔ Verdict now r.body status v) ∧
      ∀ status v, Replies now r status v →
        (status = 200 ∧ Accepts r.body) ∨ (status = 400 ∧ ¬ Accepts r.body) := by
  have hanswered : (∀ integer, ¬ Overlong r.body integer) → ∃ status v, Replies now r status v := by
    intro hshort
    obtain ⟨status, v, hverdict⟩ := exists_verdict hr.clock hshort
    exact ⟨status, v, hverdict.replies hbody hr⟩
  have hiff : ∀ status v, Replies now r status v ↔ Verdict now r.body status v := by
    refine fun status v => ⟨fun h => ?_, fun h => h.replies hbody hr⟩
    obtain ⟨status', v', hverdict⟩ := exists_verdict hr.clock fun integer hlong => hlong.not_replies h
    obtain ⟨rfl, rfl⟩ := h.unique (hverdict.replies hbody hr)
    exact hverdict
  refine ⟨⟨?_, hanswered⟩, fun e => ⟨fun he => ?_, ?_⟩, hiff, fun status v h => ?_⟩
  · rintro ⟨status, v, h⟩ integer hlong
    exact hlong.not_replies h
  · obtain ⟨integer, hlong⟩ : ∃ integer, Overlong r.body integer := by
      by_contra hshort
      obtain ⟨status, v, h⟩ := hanswered (not_exists.mp hshort)
      cases h.handler.symm.trans he
    exact ⟨integer, hlong, Except.error.inj (he.symm.trans hlong.generate_eq)⟩
  · rintro ⟨integer, hlong, rfl⟩
    exact hlong.generate_eq
  · rcases ((hiff status v).mp h).status_cases with haccepts | rfl
    · exact .inl haccepts
    · refine .inr ⟨rfl, fun haccepts => ?_⟩
      obtain ⟨u, hu⟩ := haccepts.verdict hr.clock
      exact absurd (h.unique (hu.replies hbody hr)).1 (by decide)

lemma Reads.holdsNoSurrogate (h : Reads body v) : HoldsNoSurrogate body :=
  fun lone other => (h lone).trans (h other).symm

/-- An order with a text that counts as empty and with options that are none. -/
def doubtfulMembers : List (Text × Json) := [("dsl".toList, .int 0), ("options".toList, .arr [])]

def doubtfulRequest : Request where
  server := "localhost".toList
  method := "POST".toList
  path := "/dsl".toList
  body := Utf8.encode (Json.obj doubtfulMembers).pretty

lemma reads_doubtfulRequest : Reads doubtfulRequest.body (.obj doubtfulMembers) := by
  have hexact : (Json.obj doubtfulMembers).IsExact := by
    refine Json.regular_obj (by decide : ["dsl".toList, "options".toList].Nodup) ?_
    simp only [doubtfulMembers, List.forall_mem_cons]
    exact ⟨⟨trivial, .int (by decide)⟩, ⟨trivial, .arr nofun⟩, nofun⟩
  exact hexact.readsBack.body

lemma givesText_doubtfulMembers : GivesText doubtfulMembers [] :=
  .falsy (v := .int 0) rfl rfl

lemma granted_doubtfulRequest : doubtfulRequest.Granted (.ofEpoch 0) where
  clock := Moment.ofEpoch_isUniversal 0
  body := bytesFit_of_length_le (by decide +kernel)
  text lone := by
    rw [readOrder_of_text reads_doubtfulRequest givesText_doubtfulMembers]
    exact hasRoom_of_length_le (Nat.zero_le _)

/-- Of the two faults, the options come first. -/
theorem doubtful_options_are_told_first :
    Replies (.ofEpoch 0) doubtfulRequest 400
      (complaint "Options must be an object, got list".toList) := by
  obtain ⟨-, -, hiff, -⟩ := body_is_answered_unless_overlong granted_doubtfulRequest
    reads_doubtfulRequest.holdsNoSurrogate
  exact (hiff 400 _).mpr
    (.notOptions reads_doubtfulRequest givesText_doubtfulMembers rfl nofun nofun)

/-- An order with an option that is an integer of one digit too many. -/
def overlongRequest : Request where
  server := "localhost".toList
  method := "POST".toList
  path := "/dsl".toList
  body := Utf8.encode (envelope "User a".toList Json.overlongObject)

/-- The order gets no answer, neither a bundle nor a report. -/
theorem overlong_order_is_not_answered :
    (respond (.ofEpoch 0) overlongRequest).result = .error (.longInteger ⟨some (mostDigits + 1)⟩) ∧
      ∀ status body, ¬ Answers (.ofEpoch 0) overlongRequest status body := by
  have hlong : Overlong overlongRequest.body ⟨some (mostDigits + 1)⟩ :=
    overlong_envelope Json.overlongObject_leads
  have hrespond : (respond (.ofEpoch 0) overlongRequest).result =
      .error (.longInteger ⟨some (mostDigits + 1)⟩) := hlong.respond_eq rfl rfl
  refine ⟨hrespond, ?_⟩
  rintro status body ⟨response, hresponse, -⟩
  cases hrespond.symm.trans hresponse

end Answers
end Shorthand.Service
