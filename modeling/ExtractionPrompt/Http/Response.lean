import ExtractionPrompt.Config.Encode
import ExtractionPrompt.Registry.Service

/-!
Responses, and the JSON bodies they carry.  An error of the server tells nothing about its cause.
-/

namespace ExtractionPrompt

def Collision.toJson (c : Collision) : Json :=
  .object [("key", .string c.key),
    ("field_indices", .array (c.fieldIndices.map fun (index : Nat) => Json.integer index))]

def StoredRecord.toJson (r : StoredRecord) : Json :=
  .object [("id", .string r.id.text), ("user_id", .string r.userId.text), ("name", .string r.name),
    ("config", r.config), ("prompt", .string r.prompt), ("created_at", .string r.createdAt.text),
    ("updated_at", .string r.updatedAt.text)]

def Created.toJson (c : Created) : Json :=
  .object [("record", c.record.toJson),
    ("key_collisions", .array (c.collisions.map Collision.toJson))]

def Preview.toJson (p : Preview) : Json :=
  .object [("prompt", .string p.prompt), ("field_keys", Json.strings p.keys),
    ("key_collisions", .array (p.collisions.map Collision.toJson))]

namespace Http

/-- `isJson` says whether the body is announced as JSON. -/
structure Response where
  status : Nat
  allow : Option String
  isJson : Bool
  body : String
  deriving DecidableEq, Repr

namespace Response

def json (status : Nat) (v : Json) : Response := ⟨status, none, true, v.compress⟩

def text (status : Nat) (body : String) : Response := ⟨status, none, false, body⟩

def empty (status : Nat) : Response := text status ""

def withoutBody (r : Response) : Response := { r with body := "" }

end Response

/-- Status, code and message of a failure, as a client sees it. -/
def failureParts : Failure → Nat × String × String
  | .notFound detail => (404, "NOT_FOUND", detail)
  | .invalid detail => (400, "VALIDATION_ERROR", detail)
  | .config error => (422, "INVALID_CONFIG", error.message)
  | .database _ => (500, "DATABASE_ERROR", "A database error occurred")
  | .internal _ => (500, "INTERNAL_ERROR", "An internal server error occurred")

def Response.ofFailure (e : Failure) : Response :=
  let (status, code, message) := failureParts e
  .json status (.object [("error", .object [("code", .string code), ("message", .string message)])])

end Http

end ExtractionPrompt
