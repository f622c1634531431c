import ExtractionPrompt.Proofs.Prompt.Parts

/-!
The lines that a field has in the instructions, by what they say, and the wording of each.  A simple
field has three.  A detailed one has a header, its description and its note when they are not empty,
for each rule schema that is there a heading and one line a rule, two lines for what is required and
the default, and for an output schema a heading, its type and each part that is there.
-/

namespace ExtractionPrompt

inductive FieldLine where
  | title (heading : String)
  | instruction (prompt : String)
  | sample (text : String)
  | header (heading key : String)
  | description (text : String)
  | note (text : String)
  | detectionHeading
  | detection (rule : DetectionRule)
  | validationHeading
  | validation (rule : ValidationRule)
  | sanitizationHeading
  | sanitization (rule : SanitizationRule)
  | required (b : Bool)
  | default (text : String)
  | outputHeading
  | type (t : DataType)
  | format (f : OutputFormat)
  | cardinality (c : Cardinality)
  | examples (texts : List String)
  | normalization (mapping : ValueMapping)

namespace FieldLine

/-- The fixed words that a line starts with. -/
def lead : FieldLine → String
  | title _ => "• "
  | instruction _ => "   - "
  | sample _ => "   - Example: "
  | header _ _ => "• **"
  | description _ => "  – Description: "
  | note _ => "  – Note: "
  | detectionHeading => "  – Detection rules:"
  | detection _ => "    – "
  | validationHeading => "  – Validation rules:"
  | validation _ => "    – "
  | sanitizationHeading => "  – Sanitization rules:"
  | sanitization _ => "    – "
  | required _ => "  – Required: "
  | default _ => "  – Default: "
  | outputHeading => "  – Output schema:"
  | type _ => "    • Type: "
  | format _ => "    • Format: "
  | cardinality _ => "    • Cardinality: "
  | examples _ => "    • Examples: "
  | normalization _ => "    • Normalization: "

/-- What stands behind them; a rule and a mapping are told in their own prose. -/
def content : FieldLine → String
  | title heading => heading ++ ":"
  | instruction s => s
  | sample s => s
  | header heading key => heading ++ "** (`" ++ key ++ "`)"
  | description s => s
  | note s => s
  | detectionHeading => ""
  | detection rule => rule.line
  | validationHeading => ""
  | validation rule => rule.line
  | sanitizationHeading => ""
  | sanitization rule => rule.line
  | required b => if b then "true" else "false"
  | default s => s
  | outputHeading => ""
  | type t => t.name
  | format f => f.name
  | cardinality c => c.name
  | examples texts => commaList texts
  | normalization mapping => mapping.line

def text (line : FieldLine) : String := line.lead ++ line.content

end FieldLine

/-- A text, when it is given and not empty. -/
def shownText (text : Option String) : List String := text.toList.filter (· ≠ "")

/-- The heading of a schema that is there, and a line for each of its rules in their order. -/
def schemaLines {α : Type} (heading : FieldLine) (line : α → FieldLine) :
    Option (List α) → List FieldLine
  | some rules => heading :: rules.map line
  | none => []

def SimpleField.fieldLines (f : SimpleField) : List FieldLine :=
  [.title (f.label.getD f.key), .instruction f.prompt, .sample (f.sample.getD "null")]

def OutputSchema.fieldLines (o : OutputSchema) : List FieldLine :=
  [.outputHeading, .type o.dataType] ++ o.format.toList.map .format ++
    o.cardinality.toList.map .cardinality ++ o.examples.toList.map .examples ++
    o.mapping.toList.map .normalization

def DetailedField.fieldLines (f : DetailedField) : List FieldLine :=
  [.header (f.label.getD f.key) f.key] ++ (shownText f.description).map .description ++
    (shownText f.note).map .note ++ schemaLines .detectionHeading .detection f.detection ++
    schemaLines .validationHeading .validation f.validation ++
    schemaLines .sanitizationHeading .sanitization f.sanitization ++
    [.required f.required, .default f.defaultValue] ++
    f.output.toList.flatMap OutputSchema.fieldLines

/-- The lines of the fields, field by field. -/
def Config.fieldLines : Config → List (List FieldLine)
  | simple body => body.fields.map SimpleField.fieldLines
  | detailed body => body.fields.map DetailedField.fieldLines

def textCount (text : Option String) : Nat := (text.toList.filter (· ≠ "")).length

def ruleCount {α : Type} (rules : Option (List α)) : Nat := rules.elim 0 (·.length + 1)

def OutputSchema.lineCount (o : OutputSchema) : Nat :=
  2 + o.format.toList.length + o.cardinality.toList.length + o.examples.toList.length +
    o.mapping.toList.length

def DetailedField.lineCount (f : DetailedField) : Nat :=
  1 + textCount f.description + textCount f.note + ruleCount f.detection + ruleCount f.validation +
    ruleCount f.sanitization + 2 + f.output.elim 0 OutputSchema.lineCount

/-- How many lines every field has. -/
def Config.lineCounts : Config → List Nat
  | simple body => body.fields.map fun _ => 3
  | detailed body => body.fields.map DetailedField.lineCount

theorem length_shownText (text : Option String) : (shownText text).length = textCount text := rfl

theorem length_schemaLines {α : Type} (heading : FieldLine) (line : α → FieldLine)
    (rules : Option (List α)) : (schemaLines heading line rules).length = ruleCount rules := by
  cases rules with
  | none => rfl
  | some rules => simp only [schemaLines, List.length_cons, List.length_map, ruleCount, Option.elim]

theorem OutputSchema.length_fieldLines (o : OutputSchema) : o.fieldLines.length = o.lineCount := by
  simp only [fieldLines, lineCount, List.length_append, List.length_map, List.length_cons,
    List.length_nil]

theorem DetailedField.length_fieldLines (f : DetailedField) :
    f.fieldLines.length = f.lineCount := by
  have output : (f.output.toList.flatMap OutputSchema.fieldLines).length =
      f.output.elim 0 OutputSchema.lineCount := by
    cases f.output with
    | none => rfl
    | some o =>
      rw [Option.toList_some, List.flatMap_singleton]
      exact o.length_fieldLines
  simp only [fieldLines, lineCount, List.length_append, List.length_map, List.length_cons,
    List.length_nil, length_shownText, length_schemaLines, output]

theorem Config.length_fieldLines (c : Config) : c.fieldLines.map List.length = c.lineCounts := by
  cases c with
  | simple body =>
    rw [fieldLines, List.map_map]
    exact List.map_congr_left fun f _ => rfl
  | detailed body =>
    rw [fieldLines, List.map_map]
    exact List.map_congr_left fun f _ => f.length_fieldLines

theorem textLine_eq (lead : String) (text : Option String) :
    textLine lead text = (shownText text).map (lead ++ ·) := by
  cases text with
  | none => rfl
  | some text => by_cases empty : text = "" <;> simp [textLine, shownText, empty]

theorem ruleLines_eq {α : Type} {title : String} {line : α → String} {heading : FieldLine}
    {ruleLine : α → FieldLine} (headed : "  – " ++ title ++ " rules:" = heading.text)
    (each : ∀ rule, "    – " ++ line rule = (ruleLine rule).text) (rules : Option (List α)) :
    ruleLines title line rules = (schemaLines heading ruleLine rules).map FieldLine.text := by
  cases rules with
  | none => rfl
  | some rules =>
    simp only [ruleLines, schemaLines, headed, each, List.map_cons, List.map_map, Function.comp_def]

theorem outputLine_eq {α : Type} {title lead : String} (spelled : "    • " ++ title ++ ": " = lead)
    (text : α → String) (o : Option α) :
    outputLine title text o = o.toList.map fun a => lead ++ text a := by
  cases o with
  | none => rfl
  | some a => simp only [outputLine, spelled, Option.toList_some, List.map_cons, List.map_nil]

open FieldLine (lead content)

theorem SimpleField.block_eq (f : SimpleField) : f.block = f.fieldLines.map FieldLine.text := by
  simp only [block, heading, fieldLines, List.map_cons, List.map_nil, FieldLine.text, lead, content,
    String.append_assoc]

theorem OutputSchema.block_eq (o : OutputSchema) : o.block = o.fieldLines.map FieldLine.text := by
  have format : "    • " ++ "Format" ++ ": " = "    • Format: " := by decide
  have cardinality : "    • " ++ "Cardinality" ++ ": " = "    • Cardinality: " := by decide
  have examples : "    • " ++ "Examples" ++ ": " = "    • Examples: " := by decide
  have mapping : "    • " ++ "Normalization" ++ ": " = "    • Normalization: " := by decide
  simp only [block, fieldLines, List.map_append, List.map_cons, List.map_nil, List.map_map,
    FieldLine.text, lead, content, Function.comp_def, String.append_empty, outputLine_eq format,
    outputLine_eq cardinality, outputLine_eq examples, outputLine_eq mapping]

theorem DetailedField.block_eq (f : DetailedField) : f.block = f.fieldLines.map FieldLine.text := by
  have detection : ruleLines "Detection" DetectionRule.line f.detection =
      (schemaLines .detectionHeading .detection f.detection).map FieldLine.text :=
    ruleLines_eq (by decide) (fun _ => rfl) f.detection
  have validation : ruleLines "Validation" ValidationRule.line f.validation =
      (schemaLines .validationHeading .validation f.validation).map FieldLine.text :=
    ruleLines_eq (by decide) (fun _ => rfl) f.validation
  have sanitization : ruleLines "Sanitization" SanitizationRule.line f.sanitization =
      (schemaLines .sanitizationHeading .sanitization f.sanitization).map FieldLine.text :=
    ruleLines_eq (by decide) (fun _ => rfl) f.sanitization
  have output : outputBlock f.output =
      (f.output.toList.flatMap OutputSchema.fieldLines).map FieldLine.text := by
    cases f.output with
    | none => rfl
    | some o => simp only [outputBlock, o.block_eq, Option.toList_some, List.flatMap_singleton]
  simp only [block, heading, fieldLines, textLine_eq, detection, validation, sanitization, output,
    List.map_append, List.map_cons, List.map_nil, List.map_map, List.cons_append, List.nil_append,
    Function.comp_def, FieldLine.text, lead, content, String.append_assoc]

theorem Config.blocks_eq (c : Config) : c.blocks = c.fieldLines.map (·.map FieldLine.text) := by
  cases c with
  | simple body =>
    rw [blocks, fieldLines, List.map_map]
    exact List.map_congr_left fun f _ => f.block_eq
  | detailed body =>
    rw [blocks, fieldLines, List.map_map]
    exact List.map_congr_left fun f _ => f.block_eq

theorem Config.toList_blocks (c : Config) :
    c.blocks.map (·.map String.toList) = c.fieldLines.map (·.map fun line => line.text.toList) := by
  rw [blocks_eq, List.map_map]
  apply List.map_congr_left
  intro lines _
  rw [Function.comp_apply, List.map_map]
  rfl

end ExtractionPrompt
