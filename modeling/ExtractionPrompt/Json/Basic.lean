import ExtractionPrompt.Number.Binary64

/-!
JSON values.  An object is the list of its properties in the order they were written.  Readers keep
property names distinct; nothing below relies on it unless it says so.
-/

namespace ExtractionPrompt

inductive JsonNumber where
  | integer (n : Int)
  | binary (x : Number.Binary64)
  deriving DecidableEq

inductive Json where
  | null
  | bool (b : Bool)
  | number (n : JsonNumber)
  | string (s : String)
  | array (items : List Json)
  | object (properties : List (String × Json))

namespace Json

/-- Property names are distinct in every object, at any depth. -/
inductive WellFormed : Json → Prop where
  | null : WellFormed .null
  | bool (b : Bool) : WellFormed (.bool b)
  | number (n : JsonNumber) : WellFormed (.number n)
  | string (s : String) : WellFormed (.string s)
  | array (items : List Json) (each : ∀ v ∈ items, WellFormed v) : WellFormed (.array items)
  | object (properties : List (String × Json)) (distinct : (properties.map Prod.fst).Nodup)
      (each : ∀ p ∈ properties, WellFormed p.2) : WellFormed (.object properties)

def property? (name : String) : Json → Option Json
  | object properties => properties.lookup name
  | _ => none

def asString? : Json → Option String
  | string s => some s
  | _ => none

def isNull : Json → Bool
  | null => true
  | _ => false

end Json

end ExtractionPrompt
