import Shorthand.Service.Routes
import Shorthand.Proofs.Characters
import Shorthand.Proofs.Json.Limits
import Shorthand.Proofs.Options
import Shorthand.Proofs.Utf8

/-! What the service answers to a record text, in the body of a request or in its query. -/
namespace Shorthand
open Text

lemma Json.isPlain_of_not_foreign {c : Char} (h : isForeign c = false) : isPlain c = true := by
  simp only [isForeign, Bool.not_eq_false', Bool.or_eq_true, beq_iff_eq] at h
  rcases h with hletter | rfl
  · exact isPlain_of_isAlpha hletter
  · rfl

namespace Text.Carrier
variable {carrier : Option Carrier} {k : Carrier} {s : Text}

lemma start_of_mem_all (hk : k ∈ all) : 0x40000 ≤ k.start := by
  obtain ⟨n, -, rfl⟩ := List.mem_map.mp hk
  exact Nat.le_add_right _ _

/-- The block that is chosen for a text is none that the text uses. -/
lemma free?_eq_some (h : free? s = some k) : k ∈ all ∧ Free k.holds s := by
  refine ⟨List.mem_of_find?_eq_some h, fun c hc => ?_⟩
  have hfree := List.find?_some h
  simp only [Bool.not_eq_true', List.any_eq_false, Bool.not_eq_true] at hfree
  exact hfree c hc

lemma holds_avoidsPlain (hk : k ∈ all) : AvoidsPlain k.holds := by
  intro c hc
  have hstart := start_of_mem_all hk
  have hsmall := (bounds_of_isPlain hc).2
  have hout : ¬ k.start ≤ c.toNat := by omega
  simp [holds, hout]

/-- No letter stands for a surrogate. -/
lemma isForeign_stand (hk : ∀ k ∈ carrier, k ∈ all) (n : Nat) :
    Json.isForeign (stand carrier n) = true := by
  by_contra hn
  have hbounds := bounds_of_isPlain (Json.isPlain_of_not_foreign (by simpa using hn))
  cases carrier with
  | none =>
    rw [stand] at hbounds
    exact absurd hbounds (by decide)
  | some k =>
    have hstart := start_of_mem_all (hk k rfl)
    rw [stand, Char.toNat_ofNat] at hbounds
    split_ifs at hbounds <;> omega

/-- A text without characters of the block can be sent. -/
lemma unencodable?_eq_none (h : ∀ k ∈ carrier, Free k.holds s) : unencodable? carrier s = none := by
  cases carrier with
  | none => rfl
  | some k =>
    have hdrop : s.dropWhile (!k.holds ·) = [] := by
      rw [List.dropWhile_eq_nil_iff]
      intro c hc
      simp [h k rfl c hc]
    rw [unencodable?, Option.bind_some, hdrop]

end Text.Carrier

namespace Service
variable {r : Request} {response : Response} {now : Moment} {d t : Text}

namespace CrossOrigin

@[simp] lemma share_status (r : Request) (response : Response) :
    (share r response).status = response.status := by
  unfold share
  split_ifs <;> rfl

@[simp] lemma share_body (r : Request) (response : Response) :
    (share r response).body = response.body := by
  unfold share
  split_ifs <;> rfl

lemma preflight?_eq_none (h : r.method ≠ "OPTIONS".toList) : preflight? r = none := by
  have hmethod : (r.method == "OPTIONS".toList) = false := beq_eq_false_iff_ne.mpr h
  unfold preflight?
  rw [hmethod]
  split <;> rfl

end CrossOrigin

/-- The service answers the request by a response with this status and body. -/
def Answers (now : Moment) (r : Request) (status : Nat) (body : Text) : Prop :=
  ∃ response, (respond now r).result = .ok response ∧ response.status = status ∧ response.body = body

lemma Answers.unique {status status' : Nat} {body body' : Text} (h : Answers now r status body)
    (h' : Answers now r status' body') : status = status' ∧ body = body' := by
  obtain ⟨response, hresponse, rfl, rfl⟩ := h
  obtain ⟨response', hresponse', rfl, rfl⟩ := h'
  rw [hresponse] at hresponse'
  obtain rfl := Except.ok.inj hresponse'
  exact ⟨rfl, rfl⟩

/-- A request by a method that its route takes gets what the route answers. -/
lemma respond_of_route {route : Route} (hroute : routeAt? r.path = some route)
    (hmethod : route.methods.contains r.method = true) (hoptions : r.method ≠ "OPTIONS".toList) :
    (respond now r).result = (route.answer now r).result.map (CrossOrigin.share r) := by
  unfold respond
  rw [CrossOrigin.preflight?_eq_none hoptions]
  simp only [dispatch, hroute, hmethod, if_true]

lemma answers_of_route {route : Route} (hroute : routeAt? r.path = some route)
    (hmethod : route.methods.contains r.method = true) (hoptions : r.method ≠ "OPTIONS".toList)
    (hanswer : (route.answer now r).result = .ok response) :
    Answers now r response.status response.body := by
  refine ⟨CrossOrigin.share r response, ?_, CrossOrigin.share_status r _, CrossOrigin.share_body r _⟩
  rw [respond_of_route hroute hmethod hoptions, hanswer]
  rfl

section Order

lemma routeAt?_generate (hpath : r.path = "/dsl".toList) :
    routeAt? r.path = some ⟨"/dsl".toList, ["POST".toList], generate⟩ := by
  rw [hpath]
  rfl

lemma answers_of_generate (hmethod : r.method = "POST".toList) (hpath : r.path = "/dsl".toList)
    (hanswer : (generate now r).result = .ok response) :
    Answers now r response.status response.body :=
  answers_of_route (routeAt?_generate hpath) (by rw [hmethod]; rfl) (by rw [hmethod]; decide) hanswer

/-- Nothing of the block is in the record text, so nothing of it is in a response that is made of the
text and of plain characters. -/
lemma send_regular {status : Nat} {v : Json}
    (hv : ∀ cut, AvoidsPlain cut → Free cut d → Json.Regular (Free cut) v) :
    send (Carrier.free? d) (.json status v.compact) = .ok (.json status v.compact) := by
  have hfree : ∀ k ∈ Carrier.free? d, Free k.holds v.compact := by
    intro k hk
    obtain ⟨hall, hd⟩ := Carrier.free?_eq_some hk
    have hcut := Carrier.holds_avoidsPlain hall
    exact Json.printAt_free hcut (Json.compact_isFree hcut)
      (fun s hs => Json.free_quote hcut fun c hc _ => hs c hc) (hv _ hcut hd) 0
  unfold send
  rw [Response.json, Carrier.unencodable?_eq_none hfree]

lemma read_compact_regular {v : Json}
    (hv : ∀ cut, AvoidsPlain cut → Free cut d → Json.Regular (Free cut) v) :
    Json.read v.compact = .ok v := by
  have hread : Json.read (v.compact ++ []) = .ok v :=
    Json.readWith_print Json.compact_isBlank (hv (fun _ => false) (fun _ _ => rfl) fun _ _ => rfl)
      (by decide)
  rwa [List.append_nil] at hread

/-- A request to generate code from the text `d` with the object that `t` holds as options, whatever
stands for surrogates, as long as it is no letter. -/
structure Request.Orders (r : Request) (d t : Text) : Prop where
  method : r.method = "POST".toList
  path : r.path = "/dsl".toList
  body : ∀ lone, (∀ n, Json.isForeign (lone n) = true) →
    ∃ members options, Json.readWith lone t = .ok (.obj options) ∧
      (Encoding.decode? lone r.body).map (Json.readWith lone) = some (.ok (.obj members)) ∧
      Json.member? "dsl".toList members = some (.str d) ∧
      Json.member? "options".toList members = some (.obj options)

lemma Request.Orders.readOrder (h : r.Orders d t) (lone : Nat → Char)
    (hlone : ∀ n, Json.isForeign (lone n) = true) :
    ∃ options, Json.readWith lone t = .ok (.obj options) ∧
      Service.readOrder lone r.body = .order d (.obj options) := by
  obtain ⟨members, options, ht, hbody, hdsl, hoptions⟩ := h.body lone hlone
  refine ⟨options, ht, ?_⟩
  simp only [Service.readOrder, hbody, hdsl, hoptions, Option.getD_some]

lemma Request.Orders.carrierFor (h : r.Orders d t) : carrierFor r.body = Carrier.free? d := by
  obtain ⟨options, -, horder⟩ := h.readOrder (fun _ => replacement) fun _ => rfl
  rw [Service.carrierFor, horder, Order.text]

/-- An order is carried out with the options that its object gives, whatever stands for surrogates. -/
lemma Request.Orders.generate_eq (h : r.Orders d t) {options : List (Text × Json)}
    (ht : Json.read t = .ok (.obj options)) :
    (generate now r).result =
      (present asJson (({} : Options).applyAll options) now d).result >>= send (Carrier.free? d) := by
  -- The body is read twice: with one stand-in to choose the block, with the block for the order.
  have hforeign : ∀ n, Json.isForeign (Carrier.stand (Carrier.free? d) n) = true :=
    Carrier.isForeign_stand fun k hk => (Carrier.free?_eq_some hk).1
  obtain ⟨options', ht', horder⟩ := h.readOrder _ hforeign
  have hsame : ({} : Options).applyAll options' = ({} : Options).applyAll options :=
    Options.applyAll_twin hforeign (fun _ => rfl) (Json.readWith_eq_ok_iff.mp ht')
      (Json.readWith_eq_ok_iff.mp ht) {}
  simp only [generate, h.carrierFor, horder, fulfil, Options.merge, hsame]

/-- A value whose texts are free of all that the record text is free of can be sent, and is read back
from the response. -/
lemma Request.Orders.answers_of_present (h : r.Orders d t) {options : List (Text × Json)}
    (ht : Json.read t = .ok (.obj options)) {status : Nat} {v : Json}
    (hpresent : (present asJson (({} : Options).applyAll options) now d).result =
      .ok (.json status v.compact))
    (hv : ∀ cut, AvoidsPlain cut → Free cut d → Json.Regular (Free cut) v) :
    ∃ body, Answers now r status body ∧ Json.read body = .ok v := by
  have hanswer : (generate now r).result = .ok (.json status v.compact) := by
    rw [h.generate_eq ht, hpresent]
    exact send_regular hv
  exact ⟨v.compact, answers_of_generate h.method h.path hanswer, read_compact_regular hv⟩

variable {options : List (Text × Json)}

/-- A bundle is sent as JSON. -/
theorem Request.Orders.answers_of_build_ok (h : r.Orders d t) (ht : Json.read t = .ok (.obj options))
    {b : Bundle} (hb : Bundle.build (({} : Options).applyAll options) (.present now) d = .ok b) :
    ∃ body, Answers now r 200 body ∧ Json.read body = .ok b.toJson := by
  refine h.answers_of_present ht ?_ fun cut hcut hd => Bundle.toJson_regular hcut hd hb
  simp only [present, hb]
  rfl

/-- What is wrong with a text is sent as JSON. -/
theorem Request.Orders.answers_of_read_error (h : r.Orders d t)
    (ht : Json.read t = .ok (.obj options)) (hsize : d.length ≤ 10 ^ mostDigits)
    {problem : Dialect.Problem}
    (hread : Dialect.read (({} : Options).applyAll options) d = .error problem) :
    ∃ body, Answers now r 400 body ∧ Json.read body = .ok problem.report.toJson := by
  refine h.answers_of_present ht ?_ fun cut hcut hd => Dialect.report_regular hcut hd hsize hread
  simp only [present, Bundle.build_of_read_error hread]
  rfl

/-- The body that orders code for a text, with an object as it is written. -/
def envelope (d t : Text) : Text :=
  "\x7b\"dsl\": ".toList ++ Json.quote d ++ ", \"options\": ".toList ++ t ++ ['}']

lemma spells_envelope {lone : Nat → Char} {w p w' : Text} {v : Json} (hw : Run Json.isSpace w)
    (hp : Json.Spells lone p (.value v)) (hw' : Run Json.isSpace w') :
    Json.Spells lone (envelope d (w ++ (p ++ w')))
      (.value (.obj [("dsl".toList, .str d), ("options".toList, v)])) := by
  have hdsl : Json.StringBody lone "dsl\"".toList "dsl".toList :=
    Json.stringBody_quoted "dsl".toList
  have hoptions : Json.StringBody lone "options\"".toList "options".toList :=
    Json.stringBody_quoted "options".toList
  have hnil : Run Json.isSpace [] := run_nil
  have hspace : Run Json.isSpace [' '] := by decide
  have hmembers := Json.Spells.member hdsl hnil hspace (Json.spells_quote d)
    (.nextMember hnil hspace (.member hoptions hnil (run_append.mpr ⟨hspace, hw⟩) hp
      (.lastMember hw')))
  have hpairs : Json.ofPairs [("dsl".toList, Json.str d), ("options".toList, v)] =
      [("dsl".toList, Json.str d), ("options".toList, v)] := rfl
  have hobject := Json.Spells.object hnil hmembers
  rw [hpairs] at hobject
  unfold envelope
  simp only [List.nil_append, List.append_assoc] at hobject ⊢
  exact hobject

lemma decode?_envelope (lone : Nat → Char) :
    Encoding.decode? lone (Utf8.encode (envelope d t)) = some (envelope d t) := by
  obtain ⟨s, hs⟩ : ∃ s, envelope d t = '{' :: '"' :: s := ⟨_, rfl⟩
  rw [hs]
  exact Encoding.decode?_encode (by decide) (by decide) (by simp) lone

/-- Every text and every object can be ordered. -/
theorem orders_envelope (ht : Json.read t = .ok (.obj options)) (hmethod : r.method = "POST".toList)
    (hpath : r.path = "/dsl".toList) (hbody : r.body = Utf8.encode (envelope d t)) :
    r.Orders d t := by
  refine ⟨hmethod, hpath, fun lone hlone => ?_⟩
  obtain ⟨-, ms, -, -, hms⟩ := (Json.readWith_eq_ok_iff.mp ht).twin (fun _ => rfl) hlone
  refine ⟨[("dsl".toList, .str d), ("options".toList, .obj (Json.ofPairs ms))], _,
    Json.readWith_eq_ok_iff.mpr hms, ?_, rfl, rfl⟩
  obtain ⟨w, p, w', rfl, hw, hw', hp⟩ := hms
  have hread : Json.readWith lone (envelope d (w ++ (p ++ w'))) =
      .ok (.obj [("dsl".toList, .str d), ("options".toList, .obj (Json.ofPairs ms))]) :=
    Json.readWith_eq_ok_iff.mpr ⟨[], _, [], by simp, by simp, by simp, spells_envelope hw hp hw'⟩
  rw [hbody, decode?_envelope, Option.map_some, hread]

end Order

section Overlong
variable {integer : Json.LongInteger} {body : List UInt8}

/-- The body leads to an integer that is too long, whatever stands for surrogates. -/
def Overlong (body : List UInt8) (integer : Json.LongInteger) : Prop :=
  ∀ lone, ∃ text, Encoding.decode? lone body = some text ∧ Json.MeetsLong lone integer text

lemma Overlong.readOrder (h : Overlong body integer) (lone : Nat → Char) :
    readOrder lone body = .long integer := by
  obtain ⟨text, htext, hlong⟩ := h lone
  simp only [Service.readOrder, htext, Option.map_some, Json.readWith_long_iff.mpr hlong]

/-- Such a body is not answered. -/
theorem Overlong.generate_eq (h : Overlong r.body integer) :
    (generate now r).result = .error (.longInteger integer) := by
  simp only [generate, h.readOrder, fulfil]
  rfl

lemma Overlong.respond_eq (h : Overlong r.body integer) (hmethod : r.method = "POST".toList)
    (hpath : r.path = "/dsl".toList) : (respond now r).result = .error (.longInteger integer) := by
  rw [respond_of_route (routeAt?_generate hpath) (by rw [hmethod]; rfl) (by rw [hmethod]; decide),
    h.generate_eq]
  rfl

/-- Options that lead to such an integer lead to it in the body. -/
lemma overlong_envelope (h : ∀ lone u, Json.LeadsToLong lone integer .value (t ++ u)) :
    Overlong (Utf8.encode (envelope d t)) integer := by
  intro lone
  have hdsl : Json.StringBody lone "dsl\"".toList "dsl".toList :=
    Json.stringBody_quoted "dsl".toList
  have hoptions : Json.StringBody lone "options\"".toList "options".toList :=
    Json.stringBody_quoted "options".toList
  have hspace : Run Json.isSpace [' '] := by decide
  have hleads := Json.LeadsToLong.object run_nil (.laterMember hdsl run_nil hspace
    (Json.spells_quote d) run_nil hspace (.member hoptions run_nil hspace (h lone ['}'])))
  refine ⟨envelope d t, decode?_envelope lone, [], envelope d t, rfl, run_nil, ?_⟩
  unfold envelope
  simp only [List.nil_append, List.append_assoc] at hleads ⊢
  exact hleads

end Overlong

namespace Query

/-- A text with each of its bytes escaped. -/
def escapeAll (s : Text) : Text := (Utf8.encode s).flatMap escapeByte

/-- A hexadecimal digit, in capitals. -/
def hexCapital (n : Nat) : Char := (Nat.digitChar n).toUpper

lemma escapeByte_ofNat : ∀ n < 256, escapeByte (UInt8.ofNat n) =
    ['%', hexCapital (n / 16), hexCapital (n % 16)] := by decide +kernel

lemma hexDigit?_hexCapital : ∀ n < 16, hexDigit? (hexCapital n) = some n := by decide

lemma hexCapital_isAlphanum : ∀ n < 16, (hexCapital n).isAlphanum = true := by decide

lemma escapeByte_eq (b : UInt8) :
    escapeByte b = ['%', hexCapital (b.toNat / 16), hexCapital (b.toNat % 16)] := by
  have h := escapeByte_ofNat b.toNat b.toNat_lt
  rwa [UInt8.ofNat_toNat] at h

/-- Escaped bytes hold neither a plus sign nor what separates the parts of a query. -/
lemma escapeAll_chars (s : Text) : ∀ c ∈ escapeAll s, c = '%' ∨ c.isAlphanum = true := by
  intro c hc
  obtain ⟨b, -, hc⟩ := List.mem_flatMap.mp hc
  have hbyte := b.toNat_lt
  rw [escapeByte_eq] at hc
  simp only [List.mem_cons, List.not_mem_nil, or_false] at hc
  rcases hc with rfl | rfl | rfl
  · exact .inl rfl
  · exact .inr (hexCapital_isAlphanum _ (by omega))
  · exact .inr (hexCapital_isAlphanum _ (by omega))

lemma unescape_escapeBytes (bytes : List UInt8) : unescape (bytes.flatMap escapeByte) = bytes := by
  induction bytes with
  | nil => rfl
  | cons b bytes ih =>
    have hbyte := b.toNat_lt
    have hhigh := hexDigit?_hexCapital (b.toNat / 16) (by omega)
    have hlow := hexDigit?_hexCapital (b.toNat % 16) (by omega)
    have hsum : 16 * (b.toNat / 16) + b.toNat % 16 = b.toNat := Nat.div_add_mod _ _
    rw [List.flatMap_cons, escapeByte_eq]
    simp [unescape, hhigh, hlow, hsum, ih]

lemma decode_escapeAll (s : Text) : decode (escapeAll s) = s := by
  have hplus : (escapeAll s).map (fun c => if c == '+' then ' ' else c) = escapeAll s := by
    refine (List.map_congr_left fun c hc => ?_).trans (List.map_id' _)
    have hne : c ≠ '+' := by
      rintro rfl
      exact absurd (escapeAll_chars s _ hc) (by decide)
    simp [hne]
  rw [decode, hplus, escapeAll, unescape_escapeBytes, Utf8.decodeLossy_encode]

lemma pairs_escapeAll (d : Text) : pairs ("dsl=".toList ++ escapeAll d) = [("dsl".toList, d)] := by
  have hfree : Free (· == '&') ("dsl=".toList ++ escapeAll d) := by
    refine free_append.mpr ⟨by decide, fun c hc => ?_⟩
    rw [beq_eq_false_iff_ne]
    rintro rfl
    exact absurd (escapeAll_chars d _ hc) (by decide)
  have hname : decode "dsl".toList = "dsl".toList := by decide +kernel
  have hvalue : pair ("dsl=".toList ++ escapeAll d) = ("dsl".toList, d) :=
    congrArg₂ Prod.mk hname (decode_escapeAll d)
  rw [pairs, fragments_of_piece ⟨by simp, hfree⟩, List.map_singleton, hvalue]

end Query

section Question

/-- A request that asks for the text `d` at a path, and not for a strict schema. -/
structure Request.Asks (r : Request) (path d : Text) : Prop where
  method : r.method = "GET".toList
  path : r.path = path
  text : Query.get? r.query "dsl".toList = some d
  lax : Query.get? r.query "strict".toList = none

/-- Every text can be asked for, by a query in which its bytes are escaped. -/
theorem asks_escaped {path : Text} (hmethod : r.method = "GET".toList) (hpath : r.path = path)
    (hquery : r.query = "dsl=".toList ++ Query.escapeAll d) : r.Asks path d where
  method := hmethod
  path := hpath
  text := by
    rw [Query.get?, hquery, Query.pairs_escapeAll]
    rfl
  lax := by
    rw [Query.get?, hquery, Query.pairs_escapeAll]
    rfl

variable {path name : Text} {view : Bundle → Text} {options : Options}

/-- How a route that shows bundles as plain text answers. -/
lemma Request.Asks.answers_of_present (h : r.Asks path d) {route : Route}
    (hroute : routeAt? path = some route) (hget : route.methods.contains "GET".toList = true)
    (hanswer : route.answer now r = present (asText name view) options now d) :
    (∀ b, Bundle.build options (.present now) d = .ok b → Answers now r 200 (view b)) ∧
    (∀ problem, Dialect.read options d = .error problem →
      Answers now r 400 (Rejection.report problem.report).text) := by
  have hshown (response : Response)
      (hresult : (present (asText name view) options now d).result = .ok response) :
      Answers now r response.status response.body :=
    answers_of_route (by rw [h.path]; exact hroute) (by rw [h.method]; exact hget)
      (by rw [h.method]; decide) (by rw [hanswer]; exact hresult)
  refine ⟨fun b hb => hshown (.plain 200 (view b)) ?_,
    fun problem hread => hshown (.plain 400 (Rejection.report problem.report).text) ?_⟩
  · simp only [present, hb]
    rfl
  · simp only [present, Bundle.build_of_read_error hread]
    rfl

/-- The type alias of a text that is read, or what is wrong with it. -/
theorem Request.Asks.answers_type (h : r.Asks "/t".toList d) (hnow : now.IsUniversal) :
    (∀ record, Dialect.read {} d = .ok record →
      Answers now r 200 (Artifact.typeAlias record.name record.fields)) ∧
    (∀ problem, Dialect.read {} d = .error problem →
      Answers now r 400 (Rejection.report problem.report).text) := by
  have hanswer : typeText now r = present (asText "GET /t".toList Bundle.typeText)
      { zod := false, interface := false, sample := false } now d := by
    rw [typeText, queryText, h.text]
    rfl
  have hread : Dialect.read {} d = Dialect.read { zod := false, interface := false, sample := false } d :=
    Dialect.read_congr rfl d
  obtain ⟨hok, herror⟩ := h.answers_of_present rfl rfl hanswer
  rw [hread]
  refine ⟨fun record hrecord => ?_, herror⟩
  obtain ⟨members, hb⟩ := Bundle.build_present hnow hrecord
  exact hok _ hb

/-- Every artifact of a text that is read, or what is wrong with it. -/
theorem Request.Asks.answers_all (h : r.Asks "/all".toList d) :
    (∀ b, Bundle.build {} (.present now) d = .ok b → Answers now r 200 b.renderAll) ∧
    (∀ problem, Dialect.read {} d = .error problem →
      Answers now r 400 (Rejection.report problem.report).text) := by
  have hanswer : allText now r = present (asText "GET /all".toList Bundle.renderAll) {} now d := by
    rw [allText, h.lax, queryText, h.text]
    rfl
  exact h.answers_of_present rfl rfl hanswer

end Question
end Service
end Shorthand
