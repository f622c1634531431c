import ExtractionPrompt.Decode.Fault
import ExtractionPrompt.Registry.Identifier
import ExtractionPrompt.Text.Percent
import ExtractionPrompt.Text.Pieces

/-!
The target of a request: its path, which names an endpoint, and its query.
-/

namespace ExtractionPrompt.Http

structure Target where
  path : List Char
  query : List Char
  deriving DecidableEq, Repr

/-- An absolute target without its scheme and authority. -/
def originForm (uri : List Char) : List Char :=
  match Text.cutAt ':' uri with
  | (_, some ('/' :: '/' :: rest)) =>
    if uri.head? = some '/' then uri else rest.dropWhile fun c => !(['/', '?', '#'].contains c)
  | _ => uri

/-- A fragment is not part of a target. -/
def Target.ofUri (uri : String) : Target :=
  let (whole, _) := Text.cutAt '#' (originForm uri.toList)
  let (path, query) := Text.cutAt '?' whole
  ⟨path, query.getD []⟩

inductive Endpoint where
  | health
  | configs
  | preview
  | normalizeKey
  | config (id : String)
  | prompt (id : String)
  deriving DecidableEq, Repr

/-- A fixed path wins over one with an identifier, which is any segment; at the end of a path it is
not empty. -/
def Endpoint.ofPath? (path : List Char) : Option Endpoint :=
  match (Text.pieces '/' path).map String.ofList with
  | ["", "health"] => some .health
  | "" :: "api" :: "v1" :: "extraction-configs" :: rest =>
    match rest with
    | [] => some .configs
    | ["preview"] => some .preview
    | ["normalize-key"] => some .normalizeKey
    | [id] => if id = "" then none else some (.config id)
    | [id, "prompt"] => some (.prompt id)
    | _ => none
  | _ => none

inductive Method where
  | get
  | head
  | post
  | delete
  | other (name : String)
  deriving DecidableEq, Repr

def Method.ofName (name : String) : Method :=
  if name = "GET" then get
  else if name = "HEAD" then head
  else if name = "POST" then post
  else if name = "DELETE" then delete
  else other name

def Method.name : Method → String
  | get => "GET"
  | head => "HEAD"
  | post => "POST"
  | delete => "DELETE"
  | other name => name

/-- What an endpoint answers to, in the order in which it says so. -/
def Endpoint.methods : Endpoint → List Method
  | health => [.get, .head]
  | configs => [.get, .head, .post]
  | preview => [.post]
  | normalizeKey => [.post]
  | config _ => [.get, .head, .delete]
  | prompt _ => [.get, .head]

/-- Names and values of a query, with plus signs for blanks.  What is not well-formed UTF-8 is no
text. -/
def queryPairs (query : List Char) : List (Option String × Option String) :=
  let decode := fun s => Text.percentDecode? (s.map fun c => if c = '+' then ' ' else c)
  ((Text.pieces '&' query).filter fun piece => !piece.isEmpty).map fun piece =>
    let (name, value) := Text.cutAt '=' piece
    (decode name, decode (value.getD []))

/-- The user that the pairs name, `found` being the one named before. -/
def findUser (found : Option Identifier) :
    List (Option String × Option String) → Except Fault Identifier
  | [] =>
    match found with
    | some id => .ok id
    | none => .error (.missingProperty "user_id")
  | (name, value) :: rest =>
    if name = some "user_id" then
      if found.isSome then .error (.repeatedProperty "user_id")
      else
        match value.bind Identifier.parse? with
        | some id => findUser (some id) rest
        | none => .error .notIdentifier
    else findUser found rest

def userOfQuery (query : List Char) : Except Fault Identifier := findUser none (queryPairs query)

inductive PathFault where
  | notText
  | notIdentifier
  deriving DecidableEq, Repr

def PathFault.message : PathFault → String
  | notText => "Invalid URL: Invalid UTF-8 in `id`"
  | notIdentifier => "Invalid URL: " ++ Fault.notIdentifier.message

def identifierOfPath (segment : String) : Except PathFault Identifier :=
  match Text.percentDecode? segment.toList with
  | none => .error .notText
  | some s =>
    match Identifier.parse? s with
    | some id => .ok id
    | none => .error .notIdentifier

end ExtractionPrompt.Http
