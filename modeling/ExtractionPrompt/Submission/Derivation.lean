import ExtractionPrompt.Config.Basic
import ExtractionPrompt.Key.Basic

/-!
Deriving missing keys: a field without a key takes the normal form of its label.  The count is of
the fields whose label was used, whatever came out of it.
-/

namespace ExtractionPrompt

/-- Whether a field's key is to be taken from its label. -/
def wantsKey (key : String) (label : Option String) : Bool := key == "" && label.isSome

def derivedKey (key : String) (label : Option String) : String :=
  match label with
  | some label => if key = "" then Key.normalize label else key
  | none => key

def SimpleField.deriveKey (f : SimpleField) : SimpleField :=
  { f with key := derivedKey f.key f.label }

def DetailedField.deriveKey (f : DetailedField) : DetailedField :=
  { f with key := derivedKey f.key f.label }

namespace Config

def deriveKeys : Config → Config
  | simple body => simple { body with fields := body.fields.map SimpleField.deriveKey }
  | detailed body => detailed { body with fields := body.fields.map DetailedField.deriveKey }

def derivedCount : Config → Nat
  | simple body => body.fields.countP fun f => wantsKey f.key f.label
  | detailed body => body.fields.countP fun f => wantsKey f.key f.label

end Config

end ExtractionPrompt
