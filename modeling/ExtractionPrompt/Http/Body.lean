import ExtractionPrompt.Decode.Fault
import ExtractionPrompt.Json.Reader
import ExtractionPrompt.Json.Skip
import ExtractionPrompt.Registry.Service

/-!
Reading the JSON body of a request.  The body is read from the front and the first fault ends it, so
what comes after a complete request, or after a value of the wrong kind, is never looked at.
Properties nobody asks for are skipped.
-/

namespace ExtractionPrompt.Http

/-- The properties that requests are made of. -/
inductive Part where
  | userId
  | name
  | config
  | label
  deriving DecidableEq, Repr

def Part.key : Part → String
  | userId => "user_id"
  | name => "name"
  | config => "config"
  | label => "label"

structure Parts where
  userId : Option Identifier
  name : Option String
  config : Option Json
  label : Option String

def Parts.none : Parts := ⟨.none, .none, .none, .none⟩

def Parts.has (parts : Parts) : Part → Bool
  | .userId => parts.userId.isSome
  | .name => parts.name.isSome
  | .config => parts.config.isSome
  | .label => parts.label.isSome

/-- Either the body is not JSON as far as it was read, or a value in it is not what the request
needs; the place is empty for the body itself. -/
inductive BodyFault where
  | malformed
  | mismatch (place : String) (fault : Fault)

def BodyFault.message : BodyFault → String
  | malformed => "Failed to parse the request body as JSON"
  | mismatch place fault =>
    "Failed to deserialize the JSON body into the target type: " ++
      (if place = "" then "" else place ++ ": ") ++ fault.message

/-- Where in the body a text cannot be read as JSON does not matter. -/
def BodyFault.ofText (_ : TextFault) : BodyFault := malformed

def placeInside (place : String) : Json.Step → String
  | .item index => place ++ "[" ++ toString index ++ "]"
  | .property name => place ++ "." ++ name

/-- The fault of a value at that place. -/
def BodyFault.ofRead (place : String) : Json.ReadFault → BodyFault
  | .malformed fault => .ofText fault
  | .embedding steps cause => .mismatch (steps.foldl placeInside place) (.ofEmbedding cause)

/-- The nesting left for a config, which stands inside the body. -/
def configDepth : Nat := Json.maxDepth - 1

/-- The fault of a value that is not of the expected kind. -/
def wrongKind (place : String) (expected : Expectation) (s : List Char) : BodyFault :=
  match Json.outline s with
  | .ok found => .mismatch place (.wrongType found expected)
  | .error fault => .ofText fault

def readText (place : String) (expected : Expectation) (s : List Char) :
    Except BodyFault (String × List Char) :=
  match Json.skipBlank s with
  | '"' :: rest => (Json.readString rest).mapError .ofText
  | s => .error (wrongKind place expected s)

def Part.read (part : Part) (place : String) (parts : Parts) (s : List Char) :
    Except BodyFault (Parts × List Char) :=
  match part with
  | userId => do
    let (t, rest) ← readText place .identifier s
    match Identifier.parse? t with
    | some id => .ok ({ parts with userId := some id }, rest)
    | none => .error (.mismatch place .notIdentifier)
  | name => do
    let (t, rest) ← readText place .text s
    .ok ({ parts with name := some t }, rest)
  | config => do
    let (v, rest) ← (Json.readValue true (Json.fuelFor s) configDepth s).mapError (.ofRead place)
    .ok ({ parts with config := some v }, rest)
  | label => do
    let (t, rest) ← readText place .text s
    .ok ({ parts with label := some t }, rest)

/-- The text of the next entry, or nothing at the closing bracket. -/
def nextEntry (closing : Char) (first : Bool) (s : List Char) :
    Except BodyFault (Option (List Char)) :=
  match Json.skipBlank s with
  | [] => .error .malformed
  | c :: rest =>
    if c = closing then .ok none
    else if first then .ok (some (c :: rest))
    else if c = ',' then .ok (some rest)
    else .error .malformed

/-- A property is refused the second time as soon as its name is read. -/
def readNamed (wanted : List Part) (fuel : Nat) (first : Bool) (parts : Parts) (s : List Char) :
    Except BodyFault Parts :=
  match fuel with
  | 0 => .error .malformed
  | fuel + 1 => do
    match ← nextEntry '}' first s with
    | none => .ok parts
    | some entry => do
      let (key, rest) ← (Json.readName first entry).mapError .ofText
      match wanted.find? fun part => part.key == key with
      | some part =>
        if parts.has part then .error (.mismatch "" (.repeatedProperty key))
        else do
          let rest ← (Json.colon rest).mapError .ofText
          let (parts, rest) ← part.read key parts rest
          readNamed wanted fuel false parts rest
      | none => do
        let rest ← (Json.colon rest).mapError .ofText
        match Json.skipValue? (Json.fuelFor rest) rest with
        | some rest => readNamed wanted fuel false parts rest
        | none => .error .malformed

/-- An array holds the properties in their order, and no more. -/
def readPlaced (name : String) (size : Nat) (place : Nat) (parts : Parts) (s : List Char) :
    List Part → Except BodyFault Parts
  | [] => do
    match ← nextEntry ']' (place == 0) s with
    | none => .ok parts
    | some _ => .error .malformed
  | part :: more => do
    match ← nextEntry ']' (place == 0) s with
    | none => .error (.mismatch "" (.wrongLength place (.recordOf name size)))
    | some entry =>
      let (parts, rest) ← part.read ("[" ++ toString place ++ "]") parts entry
      readPlaced name size (place + 1) parts rest more

/-- Reads the wanted parts of the request of that name, as far as they are there. -/
def readParts (name : String) (wanted : List Part) (body : String) : Except BodyFault Parts :=
  match Json.skipBlank body.toList with
  | '{' :: rest => readNamed wanted (rest.length + 1) true .none rest
  | '[' :: rest => readPlaced name wanted.length 0 .none rest wanted
  | s => .error (wrongKind "" (.record name) s)

def need {α : Type} (part : Part) : Option α → Except BodyFault α
  | some a => .ok a
  | none => .error (.mismatch "" (.missingProperty part.key))

def readCreate (body : String) : Except BodyFault CreateRequest := do
  let parts ← readParts "CreateConfigRequest" [.userId, .name, .config] body
  let userId ← need .userId parts.userId
  let name ← need .name parts.name
  let config ← need .config parts.config
  .ok ⟨userId, name, config⟩

def readPreview (body : String) : Except BodyFault Json := do
  let parts ← readParts "PreviewRequest" [.config] body
  need .config parts.config

def readLabel (body : String) : Except BodyFault String := do
  let parts ← readParts "NormalizeKeyRequest" [.label] body
  need .label parts.label

end ExtractionPrompt.Http
