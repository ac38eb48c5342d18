import Shorthand.Bundle.Journal
import Shorthand.Bundle.Render
import Shorthand.Json.Reader
import Shorthand.Options.File
import Shorthand.Service.CrossOrigin
import Shorthand.Service.Host
import Shorthand.Service.Query
import Shorthand.Service.Rejection
import Shorthand.Text.Carrier
import Shorthand.Text.Encoding

/-! The service: what each address answers. -/
namespace Shorthand.Service

/-- A failure for which there is no response. -/
inductive Escape where
  | clock (fault : Moment.Fault)
  | unencodable (fault : Text.Unencodable)
  | longInteger (integer : Json.LongInteger)
  deriving DecidableEq, Repr

def Escape.message : Escape → Text
  | .clock fault => fault.message
  | .unencodable fault => fault.message
  | .longInteger integer => integer.message

/-- What comes of a request: a response or a failure, and log records. -/
structure Answer where
  result : Except Escape Response
  log : List Log.Record := []

/-- Notes on how to use the service. -/
def usage : Text := Text.join ['\n']
  ["Try:".toList,
   "POST /dsl  \x7b\"dsl\":\"User email:s password:s name:s isAdmin?:b createdAt:d ".toList ++
     "tags:s[]\"\x7d".toList,
   "GET  /t?dsl=User%20email:s%20password:s%20isAdmin?:b%20createdAt:d%20tags:s[]".toList,
   "GET  /all?dsl=User%20email:s%20password:s%20isAdmin?:b%20createdAt:d%20tags:s[]".toList,
   "GET  /all?dsl=...&strict=true   (Zod strict mode)".toList,
   [],
   "Also supports your old format:".toList,
   "type:user-email:s/password:s/name:s/isAdmin:b:o".toList,
   [],
   "Notes:".toList,
   "- prop? optional, prop! required".toList,
   "- Names are sanitized into valid TS identifiers".toList]

/-- A record that a request failed. -/
def failed (route message : Text) : Log.Record :=
  ⟨.info, .service, route ++ " failed: ".toList ++ message⟩

/-- How a route shows a bundle, or that a text cannot be read. -/
structure Presentation where
  route : Text
  success : Bundle → Response
  rejection : Rejection → Response

/-- Make a bundle and present it. -/
def present (how : Presentation) (options : Options) (now : Moment) (text : Text) : Answer :=
  let log := Bundle.log options (.present now) text
  match Bundle.build options (.present now) text with
  | .ok b => ⟨.ok (how.success b), log⟩
  | .error (.unreadable problem) =>
    ⟨.ok (how.rejection (.report problem.report)), log ++ [failed how.route problem.fault.message]⟩
  | .error (.clock fault) => ⟨.error (.clock fault), log⟩

def rejectJson (r : Rejection) : Response := .json 400 r.toJson.compact

/-- Bundles as JSON. -/
def asJson : Presentation :=
  ⟨"POST /dsl".toList, fun b => .json 200 b.toJson.compact, rejectJson⟩

/-- Bundles as plain text. -/
def asText (route : Text) (text : Bundle → Text) : Presentation :=
  ⟨route, fun b => .plain 200 (text b), fun r => .plain 400 r.text⟩

/-- What the body of a request to generate code asks for. -/
inductive Order where
  | invalid
  | long (integer : Json.LongInteger)
  | notObject
  | notText
  | order (text : Text) (options : Json)

/-- The text of an order. -/
def Order.text : Order → Text
  | .order text _ => text
  | _ => []

/-- Read the body of a request to generate code. A value for the text that counts as false stands
for the empty text. -/
def readOrder (lone : Nat → Char) (body : List UInt8) : Order :=
  match (Text.Encoding.decode? lone body).map (Json.readWith lone) with
  | some (.ok (.obj members)) =>
    let options := (Json.member? "options".toList members).getD .null
    match (Json.member? "dsl".toList members).getD .null with
    | .str text => .order text options
    | v => if v.isTrue then .notText else .order [] options
  | some (.ok _) => .notObject
  | some (.error (.long integer)) => .long integer
  | some (.error (.malformed _)) => .invalid
  | none => .invalid

/-- The block for surrogates in the text of an order. -/
def carrierFor (body : List UInt8) : Option Text.Carrier :=
  Text.Carrier.free? (readOrder (fun _ => Text.replacement) body).text

/-- A response that carries surrogates cannot be sent. -/
def send (carrier : Option Text.Carrier) (response : Response) : Except Escape Response :=
  match Text.Carrier.unencodable? carrier response.body with
  | some fault => .error (.unencodable fault)
  | none => .ok response

/-- Carry out an order. Nothing is answered when an integer in the body is too long. -/
def fulfil (now : Moment) : Order → Answer
  | .long integer => ⟨.error (.longInteger integer), []⟩
  | .invalid =>
    ⟨.ok (rejectJson (.message "Request body must be valid JSON".toList)),
      [⟨.info, .service, "Rejected request with invalid JSON body".toList⟩]⟩
  | .notObject => ⟨.ok (rejectJson (.message "Request body must be a JSON object".toList)), []⟩
  | .notText => ⟨.ok (rejectJson (.message "'dsl' must be a string".toList)), []⟩
  | .order text value =>
    match ({} : Options).merge value with
    | .error e => ⟨.ok (rejectJson (.message e.message)), [failed asJson.route e.message]⟩
    | .ok options =>
      let answer := present asJson options now text
      { answer with log := Options.mergeLog value ++ answer.log }

/-- Generate everything from the record text in the body. -/
def generate (now : Moment) (r : Request) : Answer :=
  let carrier := carrierFor r.body
  let answer := fulfil now (readOrder (Text.Carrier.stand carrier) r.body)
  { answer with result := answer.result >>= send carrier }

/-- The record text in the query. -/
def queryText (r : Request) : Text := (Query.get? r.query "dsl".toList).getD []

/-- The type alias for the record text in the query. -/
def typeText (now : Moment) (r : Request) : Answer :=
  present (asText "GET /t".toList Bundle.typeText)
    { zod := false, interface := false, sample := false } now (queryText r)

/-- Everything for the record text in the query. -/
def allText (now : Moment) (r : Request) : Answer :=
  let strict := Query.get? r.query "strict".toList == some "true".toList
  present (asText "GET /all".toList Bundle.renderAll) { strictZod := strict } now (queryText r)

/-- An address that is served: the methods it takes, and how it answers. -/
structure Route where
  path : Text
  methods : List Text
  answer : Moment → Request → Answer

def routes : List Route :=
  [⟨"/".toList, ["GET".toList, "HEAD".toList], fun _ _ => ⟨.ok (.plain 200 usage), []⟩⟩,
   ⟨"/dsl".toList, ["POST".toList], generate⟩,
   ⟨"/t".toList, ["GET".toList, "HEAD".toList], typeText⟩,
   ⟨"/all".toList, ["GET".toList, "HEAD".toList], allText⟩]

/-- The route for a path; a line feed at its end is overlooked. -/
def routeAt? (path : Text) : Option Route :=
  routes.find? fun route => path == route.path || path == route.path ++ ['\n']

/-- The host that a request was sent to: the one it names, if that can be one, or the server. -/
def hostOf (r : Request) : Text :=
  match r.header? "host".toList with
  | some host => if Host.isValid host then host else r.server
  | none => r.server

/-- The address of a path on the host that a request was sent to. -/
def address (r : Request) (path : Text) : Text :=
  Query.escape ("http://".toList ++ hostOf r ++ path ++
    if r.query.isEmpty then [] else '?' :: r.query)

/-- The path without the slashes at its end or, if there are none, with one. -/
def toggleSlash (path : Text) : Text :=
  if Text.endsIn '/' path then (path.reverse.dropWhile (· == '/')).reverse else path ++ ['/']

/-- Answer to a path that is not served: if it would be with or without a slash at its end, say so.
-/
def misrouted (r : Request) : Response :=
  if r.path != "/".toList && (routeAt? (toggleSlash r.path)).isSome then
    { status := 307, headers := [("location".toList, address r (toggleSlash r.path))] }
  else .plain 404 "Not Found".toList

/-- Answer a request by its path and method. -/
def dispatch (now : Moment) (r : Request) : Answer :=
  match routeAt? r.path with
  | none => ⟨.ok (misrouted r), []⟩
  | some route =>
    if route.methods.contains r.method then route.answer now r
    else
      ⟨.ok ((Response.plain 405 "Method Not Allowed".toList).withHeaders
        [("allow".toList, Text.join ", ".toList route.methods)]), []⟩

/-- Answer a request. -/
def respond (now : Moment) (r : Request) : Answer :=
  match CrossOrigin.preflight? r with
  | some response => ⟨.ok response, []⟩
  | none =>
    let answer := dispatch now r
    { answer with result := answer.result.map (CrossOrigin.share r) }

end Shorthand.Service
