import ExtractionPrompt.Registry.Service

/-!
Sessions: one operation after another on a store.  A failed operation leaves the store as it was.
`save` puts a draft into the store as it is, the way a record of an earlier compiler got there.
-/

namespace ExtractionPrompt

inductive Operation where
  | create (request : CreateRequest)
  | save (draft : Draft)
  | get (id : Identifier)
  | prompt (id : Identifier)
  | delete (id : Identifier)

inductive Answer where
  | created (created : Created)
  | saved (id : Identifier)
  | found (record : StoredRecord)
  | prompt (text : String) (keys : List String)
  | deleted
  | failed (failure : Failure)

namespace Store

def next (s : Store) : Operation → Answer × Store
  | .create q =>
    match s.create q with
    | .ok (made, s) => (.created made, s)
    | .error e => (.failed e, s)
  | .save d =>
    match s.save d with
    | .ok (record, s) => (.saved record.id, s)
    | .error e => (.failed e, s)
  | .get id =>
    match s.fetch id with
    | .ok record => (.found record, s)
    | .error e => (.failed e, s)
  | .prompt id =>
    match s.promptOf id with
    | .ok (text, keys) => (.prompt text keys, s)
    | .error e => (.failed e, s)
  | .delete id =>
    match s.remove id with
    | .ok s => (.deleted, s)
    | .error e => (.failed e, s)

def run (s : Store) : List Operation → List Answer × Store
  | [] => ([], s)
  | operation :: rest =>
    let (answer, s) := s.next operation
    let (answers, s) := s.run rest
    (answer :: answers, s)

end Store

end ExtractionPrompt
