import ExtractionPrompt.Decode.Fault
import ExtractionPrompt.Json.Reader

/-!
Decoders of JSON values, for scalars, lists, mappings, closed vocabularies and free values.  Where
in an embedded text a fault stands is left out of the fault.
-/

namespace ExtractionPrompt

/-- Whether a value is read straight from its document, or back from a buffer that kept it until its
type was known.  Two faults are worded differently, and a buffered value is given more leeway where
a tag is read. -/
inductive Reading where
  | direct
  | buffered
  deriving DecidableEq, Repr

abbrev Decoder (α : Type) := Reading → Json → Except Fault α

namespace Decoder

def map {α β : Type} (f : α → β) (d : Decoder α) : Decoder β :=
  fun r v => (d r v).map f

/-- An object that stands for a text has no other property. -/
def surplus (r : Reading) (count : Nat) : Fault :=
  match r with
  | .direct => .wrongLength count .shorterMapping
  | .buffered => .wrongLength count (.entries 1)

/-- The value of the text that an object of that many properties stands for.  The other properties
are looked at after the text. -/
def embedded (r : Reading) (count : Nat) : Json → Except Fault Json
  | .string s => do
    let v ← (Json.parseAs true s).mapError .ofRead
    if count = 1 then .ok v else .error (surplus r count)
  | v => .error (.wrongType v .embeddedText)

mutual

/-- Any value.  An object that stands for a text gives the value of that text, as it does in a
document; a value that was read from a document has no such object left. -/
def free (r : Reading) : Json → Except Fault Json
  | .array items => (freeItems r items).map .array
  | .object properties =>
    match Json.embedding? properties with
    | some v => embedded r properties.length v
    | none => (freeProperties r properties).map .object
  | v => .ok v

def freeItems (r : Reading) : List Json → Except Fault (List Json)
  | [] => .ok []
  | v :: rest => do
    let a ← free r v
    let more ← freeItems r rest
    .ok (a :: more)

def freeProperties (r : Reading) : List (String × Json) → Except Fault (List (String × Json))
  | [] => .ok []
  | (name, v) :: rest => do
    let a ← free r v
    let more ← freeProperties r rest
    .ok ((name, a) :: more)

end

def text : Decoder String
  | _, .string s => .ok s
  | _, v => .error (.wrongType v .text)

def boolean : Decoder Bool
  | _, .bool b => .ok b
  | _, v => .error (.wrongType v .boolean)

/-- An integer of 64 bits with a sign; a number with a fraction or an exponent is none, even when it
is whole. -/
def integer : Decoder Int
  | _, .number (.integer n) =>
    if -Int.pow 2 63 ≤ n ∧ n < Int.pow 2 63 then .ok n else .error (.outOfRange n .integer)
  | _, v => .error (.wrongType v .integer)

/-- Any number, an integer by its nearest binary value. -/
def number : Decoder Number.Binary64
  | _, .number (.binary x) => .ok x
  | _, .number (.integer n) =>
    match Number.Binary64.ofInt? n with
    | some x => .ok x
    | none => .error (.outOfRange n .number)
  | _, v => .error (.wrongType v .number)

/-- `null` stands for nothing. -/
def nullable {α : Type} (d : Decoder α) : Decoder (Option α)
  | _, .null => .ok none
  | r, v => (d r v).map some

def list {α : Type} (d : Decoder α) : Decoder (List α)
  | r, .array items => items.mapM (d r)
  | _, v => .error (.wrongType v .list)

def entries {α : Type} (d : Decoder α) (r : Reading) :
    List (String × Json) → Except Fault (List (String × α))
  | [] => .ok []
  | (name, v) :: rest => do
    let a ← d r v
    let more ← entries d r rest
    .ok ((name, a) :: more)

/-- The properties of an object, in their order. -/
def mapping {α : Type} (d : Decoder α) : Decoder (List (String × α))
  | r, .object properties => entries d r properties
  | _, v => .error (.wrongType v .mapping)

def named {α : Type} (known : List (String × α)) (name : String) : Except Fault α :=
  match known.lookup name with
  | some a => .ok a
  | none => .error (.unknownVariant name (known.map Prod.fst))

def noValue (r : Reading) (v : Json) : Except Fault Unit :=
  match r, v with
  | _, .null => .ok ()
  | .buffered, .object [] => .ok ()
  | _, v => .error (.wrongType v .noValue)

/-- One of the known names: as a string, or as the only property of an object, which then holds
nothing. -/
def vocabulary {α : Type} (known : List (String × α)) : Decoder α
  | _, .string name => named known name
  | r, .object [(name, v)] => do
    let a ← named known name
    noValue r v
    .ok a
  | _, .object _ => .error .notOneEntry
  | _, v => .error (.wrongType v .vocabularyEntry)

/-- More items came than were asked for. -/
def tooLong (r : Reading) (length expected : Nat) : Fault :=
  match r with
  | .direct => .wrongLength length .shorterList
  | .buffered => .wrongLength length (.items expected)

end Decoder

end ExtractionPrompt
