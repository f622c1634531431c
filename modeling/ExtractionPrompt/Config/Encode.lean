import ExtractionPrompt.Config.Vocabulary

/-!
Configs as JSON: the properties in declaration order, absent optional ones left out.
-/

namespace ExtractionPrompt

namespace Json

def strings (texts : List String) : Json := array (texts.map string)

def integer (n : Int) : Json := number (.integer n)

def binary (x : Number.Binary64) : Json := number (.binary x)

/-- A property, when there is a value for it. -/
def given {α : Type} (name : String) (encode : α → Json) : Option α → List (String × Json)
  | some a => [(name, encode a)]
  | none => []

/-- A value beside its tag. -/
def tagged (tag : String) (body : Json) : Json := object [("type", string tag), ("rule", body)]

def instruction (text : String) : Json := object [("prompt", string text)]

def ruleBlock {α : Type} (encode : α → Json) (rules : List α) : Json :=
  object [("rules", array (rules.map encode))]

end Json

open Json

def PatternDetection.toJson (r : PatternDetection) : Json :=
  object (("pattern", string r.pattern) :: given "flags" string r.flags ++
    given "target" (fun t => string t.name) r.target ++ given "group" integer r.group)

def KeywordDetection.toJson (r : KeywordDetection) : Json :=
  object (("keywords", strings r.keywords) :: given "context_window" integer r.contextWindow ++
    given "strategy" (fun s => string s.name) r.strategy)

def HeadingDetection.toJson (r : HeadingDetection) : Json :=
  object (("section_headers", strings r.headings) ::
    given "extraction_strategy" (fun s => string s.name) r.strategy)

def DetectionRule.toJson : DetectionRule → Json
  | pattern r => tagged "regex" r.toJson
  | keyword r => tagged "keyword" r.toJson
  | heading r => tagged "section" r.toJson
  | custom text => tagged "custom" (instruction text)

def PatternCheck.toJson (r : PatternCheck) : Json :=
  object (("pattern", string r.pattern) :: given "error_message" string r.errorMessage)

def LengthCheck.toJson (r : LengthCheck) : Json :=
  object (given "min" binary r.min ++ given "max" binary r.max ++
    given "error_message" string r.errorMessage)

def AllowedValues.toJson (r : AllowedValues) : Json :=
  object (("values", array r.values) :: given "case_sensitive" bool r.caseSensitive)

def ValidationRule.toJson : ValidationRule → Json
  | pattern r => tagged "regex" r.toJson
  | length r => tagged "length" r.toJson
  | allowed r => tagged "allowed_values" r.toJson
  | custom text => tagged "custom" (instruction text)

def Replacement.toJson (r : Replacement) : Json :=
  object (("pattern", string r.pattern) :: ("replacement", string r.replacement) ::
    given "flags" string r.flags)

def Trimming.toJson (r : Trimming) : Json := object (given "characters" string r.characters)

def Formatting.componentsJson (r : Formatting) : Json :=
  object (r.components.map fun (name, text) => (name, string text))

def Formatting.toJson (r : Formatting) : Json :=
  object [("template", string r.template), ("components", r.componentsJson)]

def SanitizationRule.toJson : SanitizationRule → Json
  | replace r => tagged "regex_replace" r.toJson
  | trim r => tagged "trim" r.toJson
  | format r => tagged "format" r.toJson
  | custom text => tagged "custom" (instruction text)

/-- The target is written even when it is null. -/
def ValueMapping.toJson (r : ValueMapping) : Json :=
  object [("source", array r.source), ("target", r.target)]

def OutputSchema.toJson (o : OutputSchema) : Json :=
  object (("data_type", string o.dataType.name) ::
    given "format" (fun f => string f.name) o.format ++
    given "cardinality" (fun c => string c.name) o.cardinality ++
    given "examples" strings o.examples ++
    given "normalization" (fun m => tagged "mapping" m.toJson) o.mapping)

def SimpleField.toJson (f : SimpleField) : Json :=
  object (("key", string f.key) :: given "label" string f.label ++ ("prompt", string f.prompt) ::
    given "example" string f.sample)

def DetailedField.toJson (f : DetailedField) : Json :=
  object (("key", string f.key) :: given "label" string f.label ++
    given "description" string f.description ++ given "note" string f.note ++
    ("required", bool f.required) :: ("default_value", string f.defaultValue) ::
    given "detection_schema" (ruleBlock DetectionRule.toJson) f.detection ++
    given "validation_schema" (ruleBlock ValidationRule.toJson) f.validation ++
    given "sanitization_schema" (ruleBlock SanitizationRule.toJson) f.sanitization ++
    given "output_schema" OutputSchema.toJson f.output)

def ConfigBody.toJson {Field : Type} (version : Version) (encode : Field → Json)
    (body : ConfigBody Field) : Json :=
  object [("version", string version.tag), ("name", string body.name),
    ("description", string body.description), ("fields", array (body.fields.map encode))]

def Config.toJson : Config → Json
  | simple body => body.toJson .simple SimpleField.toJson
  | detailed body => body.toJson .detailed DetailedField.toJson

end ExtractionPrompt
