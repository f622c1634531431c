import ExtractionPrompt.Config.Basic
import ExtractionPrompt.Key.Basic

/-!
The rules that a submitted config has to meet.  Every violation is reported, in a fixed order: name,
description, keys, then what the version asks of its fields.
-/

namespace ExtractionPrompt

structure Issue where
  path : String
  message : String
  deriving DecidableEq, Repr

/-- A required field has a default of at least this many characters. -/
def minRequiredDefault : Nat := 4

namespace Issue

def fieldPath (index : Nat) (property : String) : String :=
  "fields." ++ toString index ++ "." ++ property

def fixedText (path expected actual : String) : List Issue :=
  if actual = expected then [] else [⟨path, "must be \"" ++ expected ++ "\""⟩]

def ofKey (index : Nat) (key : String) : List Issue :=
  if key = "" then [⟨fieldPath index "key", "is empty and no label was given to derive it from"⟩]
  else if Key.isValid key then []
  else [⟨fieldPath index "key",
    "'" ++ key ++ "' must be lowercase letters, digits, and single inner underscores"⟩]

def ofPrompt (index : Nat) (prompt : String) : List Issue :=
  if Text.trim prompt = "" then [⟨fieldPath index "prompt", "cannot be empty"⟩] else []

def ofDefault (index : Nat) (f : DetailedField) : List Issue :=
  if f.required ∧ f.defaultValue.length < minRequiredDefault then
    [⟨fieldPath index "default_value",
      "required fields need a default of at least " ++ toString minRequiredDefault ++
        " characters"⟩]
  else []

/-- The issues of a list of parts, each told its place. -/
def indexed {α : Type} (issues : Nat → α → List Issue) (start : Nat) : List α → List Issue
  | [] => []
  | a :: rest => issues start a ++ indexed issues (start + 1) rest

end Issue

namespace Config

def versionIssues : Config → List Issue
  | simple body =>
    (if body.fields.isEmpty then [⟨"fields", "config should have at least 1 field"⟩] else []) ++
      Issue.indexed (fun index f => Issue.ofPrompt index f.prompt) 0 body.fields
  | detailed body => Issue.indexed Issue.ofDefault 0 body.fields

def issues (c : Config) : List Issue :=
  Issue.fixedText "name" c.version.title c.name ++
    Issue.fixedText "description" c.version.summary c.description ++
    Issue.indexed Issue.ofKey 0 c.keys ++ c.versionIssues

def passes (c : Config) : Bool := c.issues.isEmpty

end Config

/-- All issues on one line. -/
def summaryOf (issues : List Issue) : String :=
  String.intercalate "; " (issues.map fun i => i.path ++ ": " ++ i.message)

end ExtractionPrompt
