import ExtractionPrompt.Http.Body
import ExtractionPrompt.Http.MediaType
import ExtractionPrompt.Http.Response
import ExtractionPrompt.Http.Target

/-!
The HTTP interface: a request and a store give a response and a store.  Paths are matched first,
then methods; the parts of a request are read before anything is done with it.  The body of a
request is a text: bodies that are not UTF-8 are left out, and so is what the layers in front of the
routes do, which log requests and answer for other origins.
-/

namespace ExtractionPrompt.Http

structure Request where
  method : Method
  uri : String
  contentType : Option String
  body : String

def health : Json :=
  .object [("status", .string "ok"), ("version", .string "0.1.0"),
    ("service", .string "extraction-config-api")]

/-- The bytes that the body of a request may have, two mebibytes. -/
def maxBodySize : Nat := 2097152

/-- What an endpoint does with the body of a request, once it is announced as JSON, not too large,
and read. -/
def withBody {α : Type} (q : Request) (s : Store) (read : String → Except BodyFault α)
    (serve : α → Response × Store) :
    Response × Store :=
  if (q.contentType.map isJsonType).getD false then
    if maxBodySize < q.body.utf8ByteSize then
      (.text 413 "Failed to buffer the request body: length limit exceeded", s)
    else
      match read q.body with
      | .ok a => serve a
      | .error .malformed => (.text 400 BodyFault.malformed.message, s)
      | .error fault => (.text 422 fault.message, s)
  else (.text 415 "Expected request with `Content-Type: application/json`", s)

def withIdentifier (segment : String) (s : Store) (serve : Identifier → Response × Store) :
    Response × Store :=
  match identifierOfPath segment with
  | .ok id => serve id
  | .error fault => (.text 400 fault.message, s)

def listConfigs (s : Store) (query : List Char) : Response :=
  match userOfQuery query with
  | .error fault => .text 400 ("Failed to deserialize query string: " ++ fault.message)
  | .ok userId =>
    match s.ofUser userId with
    | .ok records => .json 200 (.array (records.map StoredRecord.toJson))
    | .error e => .ofFailure e

def createConfig (s : Store) (q : CreateRequest) : Response × Store :=
  match s.create q with
  | .ok (made, s) => (.json 201 made.toJson, s)
  | .error e => (.ofFailure e, s)

def previewConfig (config : Json) : Response :=
  match ExtractionPrompt.preview config with
  | .ok p => .json 200 p.toJson
  | .error e => .ofFailure e

def getConfig (s : Store) (id : Identifier) : Response :=
  match s.fetch id with
  | .ok record => .json 200 record.toJson
  | .error e => .ofFailure e

def getPrompt (s : Store) (id : Identifier) : Response :=
  match s.promptOf id with
  | .ok (prompt, keys) =>
    .json 200 (.object [("prompt", .string prompt), ("field_keys", Json.strings keys)])
  | .error e => .ofFailure e

def deleteConfig (s : Store) (id : Identifier) : Response × Store :=
  match s.remove id with
  | .ok s => (.empty 204, s)
  | .error e => (.ofFailure e, s)

/-- An endpoint's answer to one of its methods; a request for the head alone is answered like one
for the whole. -/
def serve (s : Store) (q : Request) (query : List Char) : Endpoint → Response × Store
  | .health => (.json 200 health, s)
  | .configs =>
    if q.method = .post then withBody q s readCreate fun request => createConfig s request
    else (listConfigs s query, s)
  | .preview => withBody q s readPreview fun config => (previewConfig config, s)
  | .normalizeKey =>
    withBody q s readLabel fun label =>
      (.json 200 (.object [("key", .string (Key.normalize label))]), s)
  | .config id =>
    if q.method = .delete then withIdentifier id s fun id => deleteConfig s id
    else withIdentifier id s fun id => (getConfig s id, s)
  | .prompt id => withIdentifier id s fun id => (getPrompt s id, s)

def notAllowed (e : Endpoint) : Response :=
  { status := 405, allow := some (String.intercalate "," (e.methods.map Method.name)),
    isJson := false, body := "" }

def respond (s : Store) (q : Request) : Response × Store :=
  let target := Target.ofUri q.uri
  match Endpoint.ofPath? target.path with
  | none => (.empty 404, s)
  | some e =>
    if e.methods.contains q.method then
      let (response, s) := serve s q target.query e
      (if q.method = .head then response.withoutBody else response, s)
    else (notAllowed e, s)

def respondAll (s : Store) : List Request → List Response × Store
  | [] => ([], s)
  | q :: rest =>
    let (response, s) := respond s q
    let (responses, s) := respondAll s rest
    (response :: responses, s)

theorem respondAll_concat (s : Store) (past : List Request) (q : Request) :
    respondAll s (past ++ [q]) =
      ((respondAll s past).1 ++ [(respond (respondAll s past).2 q).1],
        (respond (respondAll s past).2 q).2) := by
  induction past generalizing s with
  | nil => rfl
  | cons first rest ih => simp [respondAll, ih]

end ExtractionPrompt.Http
