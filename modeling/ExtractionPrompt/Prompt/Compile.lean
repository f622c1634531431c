import ExtractionPrompt.Json.Collect
import ExtractionPrompt.Prompt.RuleLine
import ExtractionPrompt.Prompt.Wording
import ExtractionPrompt.Text.Substitute

/-!
The prompt of a config: a fixed head, one block of lines a field, the output template, and the slot
for the document at the end.  The same config always has the same prompt.
-/

namespace ExtractionPrompt

def paragraphs (texts : List String) : String := String.intercalate "\n\n" texts

def lines (texts : List String) : String := String.intercalate "\n" texts

/-- A template's properties: a key stands where it is first used and has the value of its last
use. -/
def templateOf (entries : List (String × Json)) : Json := .object (Json.collect entries)

namespace SimpleField

def heading (f : SimpleField) : String := f.label.getD f.key

def block (f : SimpleField) : List String :=
  ["• " ++ f.heading ++ ":", "   - " ++ f.prompt, "   - Example: " ++ f.sample.getD "null"]

end SimpleField

namespace ConfigBody

def simpleTemplate (body : ConfigBody SimpleField) : Json :=
  templateOf (body.fields.map fun f => (f.key, .string ""))

/-- Everything before the slot. -/
def simpleLead (body : ConfigBody SimpleField) : String :=
  paragraphs [
    "Role: " ++ Wording.simpleRole,
    "Context: " ++ Wording.simpleContext,
    "Action: " ++ Wording.simpleAction,
    "INSTRUCTIONS:",
    "EXTRACT THESE FIELDS:\n" ++ paragraphs (body.fields.map fun f => lines f.block),
    "RULES:\n" ++ lines Wording.simpleRules,
    "STRICT OUTPUT FORMAT:\n" ++ body.simpleTemplate.pretty,
    "RESUME TEXT:\n"]

def simplePrompt (body : ConfigBody SimpleField) : String := body.simpleLead ++ Wording.slot ++ "\n"

end ConfigBody

/-- Form clients send an empty text for one that was not touched. -/
def textLine (lead : String) : Option String → List String
  | some text => if text = "" then [] else [lead ++ text]
  | none => []

def ruleLines {α : Type} (title : String) (line : α → String) : Option (List α) → List String
  | some rules => ("  – " ++ title ++ " rules:") :: rules.map fun r => "    – " ++ line r
  | none => []

def outputLine (title : String) {α : Type} (text : α → String) : Option α → List String
  | some a => ["    • " ++ title ++ ": " ++ text a]
  | none => []

def OutputSchema.block (o : OutputSchema) : List String :=
  ["  – Output schema:", "    • Type: " ++ o.dataType.name] ++
    outputLine "Format" OutputFormat.name o.format ++
    outputLine "Cardinality" Cardinality.name o.cardinality ++
    outputLine "Examples" commaList o.examples ++
    outputLine "Normalization" ValueMapping.line o.mapping

namespace DetailedField

def heading (f : DetailedField) : String := f.label.getD f.key

def outputBlock : Option OutputSchema → List String
  | some o => o.block
  | none => []

def block (f : DetailedField) : List String :=
  ("• **" ++ f.heading ++ "** (`" ++ f.key ++ "`)") ::
    textLine "  – Description: " f.description ++ textLine "  – Note: " f.note ++
    ruleLines "Detection" DetectionRule.line f.detection ++
    ruleLines "Validation" ValidationRule.line f.validation ++
    ruleLines "Sanitization" SanitizationRule.line f.sanitization ++
    ["  – Required: " ++ (if f.required then "true" else "false"),
      "  – Default: " ++ f.defaultValue] ++
    outputBlock f.output

/-- What the template offers for a field: its default, or null when that is empty. -/
def templateValue (f : DetailedField) : Json :=
  if f.defaultValue = "" then .null else .string f.defaultValue

end DetailedField

namespace ConfigBody

def detailedTemplate (body : ConfigBody DetailedField) : Json :=
  templateOf (body.fields.map fun f => (f.key, f.templateValue))

def detailedLead (body : ConfigBody DetailedField) : String :=
  paragraphs [
    "Role:\n" ++ Wording.detailedRole,
    "Context:\n" ++ Wording.detailedContext,
    "Action:\n" ++ Wording.detailedAction,
    "Instructions:\n" ++ Wording.detailedInstructions,
    "Fields to extract:\n" ++ paragraphs (body.fields.map fun f => lines f.block),
    "Strict output format:\n```json\n" ++ body.detailedTemplate.pretty ++ "\n```",
    "Resume text:\n"]

def detailedPrompt (body : ConfigBody DetailedField) : String := body.detailedLead ++ Wording.slot

end ConfigBody

namespace Config

def template : Config → Json
  | simple body => body.simpleTemplate
  | detailed body => body.detailedTemplate

/-- The compiled prompt, with the slot still in it. -/
def prompt : Config → String
  | simple body => body.simplePrompt
  | detailed body => body.detailedPrompt

end Config

/-- Puts a document's text into a prompt, wherever the slot's token stands. -/
def fillPrompt (prompt document : String) : String := Text.substitute Wording.slot document prompt

end ExtractionPrompt
