import ExtractionPrompt.Decode.Basic

/-!
Choices: a value beside the tag that says which kind it is, as the properties `type` and `rule` of
an object in either order, or as an array of the two.
-/

namespace ExtractionPrompt.Decoder

/-- The tag at the head of an array.  A buffered one may be the place of a name among the known
ones. -/
def leadingTag {α : Type} (known : List (String × α)) : Decoder α
  | _, .string name => named known name
  | .buffered, .number (.integer (.ofNat index)) =>
    match known[index]? with
    | some (_, a) => .ok a
    | none => .error (.variantIndex index known.length)
  | _, v => .error (.wrongType v .choiceTag)

/-- A body written before its tag has to wait for it in a buffer. -/
def bodyReading (r : Reading) (properties : List (String × Json)) : Reading :=
  match properties.find? fun (name, _) => name == "type" || name == "rule" with
  | some ("rule", _) => .buffered
  | _ => r

def choice {α : Type} (name : String) (cases : List (String × Decoder α)) : Decoder α
  | r, .object properties =>
    match properties.lookup "type" with
    | none => .error (.missingProperty "type")
    | some tag => do
      let body ← vocabulary cases r tag
      match properties.lookup "rule" with
      | none => .error (.missingProperty "rule")
      | some v => body (bodyReading r properties) v
  | _, .array [] => .error (.wrongLength 0 (.choice name))
  | r, .array (tag :: rest) => do
    let body ← leadingTag cases r tag
    match rest with
    | [] => .error (.wrongLength 1 (.choice name))
    | v :: more =>
      let a ← body r v
      if more.isEmpty then .ok a else .error (tooLong r (more.length + 2) 2)
  | _, v => .error (.wrongType v (.choice name))

end ExtractionPrompt.Decoder
