import ExtractionPrompt.Prompt.Compile
import ExtractionPrompt.Registry.Store

/-!
What clients can do with extraction configs: create a record, look at a prompt before that, fetch
and delete records.  All checks of a submission come before the store is reached.
-/

namespace ExtractionPrompt

structure CreateRequest where
  userId : Identifier
  name : String
  config : Json

structure Created where
  record : StoredRecord
  collisions : List Collision

structure Preview where
  prompt : String
  keys : List String
  collisions : List Collision

/-- The length that the name of a record may have. -/
def maxNameLength : Nat := 128

/-- What a request would store, and the keys it shares. -/
def CreateRequest.vet (q : CreateRequest) : Except Failure (Draft × List Collision) :=
  let name := Text.trim q.name
  if name = "" then .error (.invalid "name cannot be empty")
  else if maxNameLength < name.length then
    .error (.invalid ("name cannot exceed " ++ toString maxNameLength ++ " characters"))
  else do
    let c ← prepare q.config
    .ok (⟨q.userId, name, c.toJson, c.prompt⟩, c.collisions)

def preview (config : Json) : Except Failure Preview := do
  let c ← prepare config
  .ok ⟨c.prompt, c.keys, c.collisions⟩

/-- The keys in a stored config, read leniently: what is not a field with a text for its key is
passed over. -/
def storedKeys (config : Json) : List String :=
  match config.property? "fields" with
  | some (.array fields) => fields.filterMap fun f => (f.property? "key").bind Json.asString?
  | _ => []

def noRecord (id : Identifier) : Failure :=
  .notFound ("Extraction config " ++ id.text ++ " not found")

namespace Store

def create (s : Store) (q : CreateRequest) : Except Failure (Created × Store) := do
  let (draft, collisions) ← q.vet
  let (record, s) ← s.save draft
  .ok (⟨record, collisions⟩, s)

def fetch (s : Store) (id : Identifier) : Except Failure StoredRecord := do
  match ← s.get? id with
  | some record => .ok record
  | none => .error (noRecord id)

/-- A stored prompt, and the keys that an extractor has to return. -/
def promptOf (s : Store) (id : Identifier) : Except Failure (String × List String) := do
  let record ← s.fetch id
  .ok (record.prompt, storedKeys record.config)

def remove (s : Store) (id : Identifier) : Except Failure Store := do
  let (found, s) ← s.delete id
  if found then .ok s else .error (noRecord id)

end Store

end ExtractionPrompt
