import ExtractionPrompt.Prompt.Compile
import ExtractionPrompt.Proofs.Json.Texts

/-!
The texts that a config brings into its prompt.  Bare ones stand there as they are, quoted ones as
JSON strings.  Names of closed vocabularies and numbers are not among them, nor the fixed name and
description of a version.
-/

namespace ExtractionPrompt

open Json

/-- A string stands bare among values, and the texts of anything else are quoted. -/
def Json.quotedTexts : Json → List String
  | string _ => []
  | other => other.texts

def PatternDetection.bareTexts (r : PatternDetection) : List String := r.pattern :: r.flags.toList

def DetectionRule.bareTexts : DetectionRule → List String
  | pattern r => r.bareTexts
  | keyword r => r.keywords
  | heading r => r.headings
  | custom text => [text]

def PatternCheck.bareTexts (r : PatternCheck) : List String := r.pattern :: r.errorMessage.toList

def AllowedValues.bareTexts (r : AllowedValues) : List String := r.values.filterMap asString?

def AllowedValues.quotedTexts (r : AllowedValues) : List String := r.values.flatMap Json.quotedTexts

def ValidationRule.bareTexts : ValidationRule → List String
  | pattern r => r.bareTexts
  | length r => r.errorMessage.toList
  | allowed r => r.bareTexts
  | custom text => [text]

def ValidationRule.quotedTexts : ValidationRule → List String
  | allowed r => r.quotedTexts
  | _ => []

def Replacement.bareTexts (r : Replacement) : List String :=
  r.pattern :: r.replacement :: r.flags.toList

def SanitizationRule.bareTexts : SanitizationRule → List String
  | replace r => r.bareTexts
  | trim r => r.characters.toList
  | format r => [r.template]
  | custom text => [text]

/-- The names and the texts of a format's components. -/
def SanitizationRule.quotedTexts : SanitizationRule → List String
  | format r => r.componentsJson.texts
  | _ => []

def ValueMapping.bareTexts (r : ValueMapping) : List String := r.source.filterMap asString?

def ValueMapping.quotedTexts (r : ValueMapping) : List String :=
  r.source.flatMap Json.quotedTexts ++ r.target.texts

/-- The texts of a part, when there is one. -/
def textsOf {α : Type} (texts : α → List String) : Option α → List String
  | some a => texts a
  | none => []

def OutputSchema.bareTexts (o : OutputSchema) : List String :=
  textsOf id o.examples ++ textsOf ValueMapping.bareTexts o.mapping

def OutputSchema.quotedTexts (o : OutputSchema) : List String :=
  textsOf ValueMapping.quotedTexts o.mapping

def SimpleField.bareTexts (f : SimpleField) : List String :=
  f.heading :: f.prompt :: f.sample.toList

def DetailedField.bareTexts (f : DetailedField) : List String :=
  f.heading :: f.key :: (f.description.toList ++ f.note.toList ++
    textsOf (List.flatMap DetectionRule.bareTexts) f.detection ++
    textsOf (List.flatMap ValidationRule.bareTexts) f.validation ++
    textsOf (List.flatMap SanitizationRule.bareTexts) f.sanitization ++
    f.defaultValue :: textsOf OutputSchema.bareTexts f.output)

/-- What a field's block quotes; the template comes besides. -/
def DetailedField.quotedTexts (f : DetailedField) : List String :=
  textsOf (List.flatMap ValidationRule.quotedTexts) f.validation ++
    textsOf (List.flatMap SanitizationRule.quotedTexts) f.sanitization ++
    textsOf OutputSchema.quotedTexts f.output

namespace Config

/-- The texts that stand bare in the instructions. -/
def bareTexts : Config → List String
  | simple body => body.fields.flatMap SimpleField.bareTexts
  | detailed body => body.fields.flatMap DetailedField.bareTexts

/-- The texts that stand quoted in the instructions or in the template. -/
def quotedTexts : Config → List String
  | simple body => body.fields.map (·.key)
  | detailed body => body.fields.flatMap fun f => f.quotedTexts ++ [f.key, f.defaultValue]

def texts (c : Config) : List String := c.bareTexts ++ c.quotedTexts

end Config

end ExtractionPrompt
