import ExtractionPrompt.Config.Vocabulary
import ExtractionPrompt.Decode.Choice
import ExtractionPrompt.Decode.Record

/-!
Configs from JSON.  The version tag is looked at first; an unknown one is named in the error.  The
rest of a config is read back from the buffer that holds it meanwhile.
-/

namespace ExtractionPrompt

open Decoder Record

def ruleBlock {α : Type} (rule : Decoder α) : Decoder (List α) :=
  Record.decode (required "rules" (list rule)) "RuleSchema"

def instruction : Decoder String := Record.decode (required "prompt" text) "CustomRule"

def PatternDetection.decoder : Decoder PatternDetection :=
  Record.decode (mk <$> required "pattern" text <*> optional "flags" text <*>
    optional "target" (vocabulary MatchTarget.names) <*> optional "group" integer) "RegexDetection"

def KeywordDetection.decoder : Decoder KeywordDetection :=
  Record.decode (mk <$> required "keywords" (list text) <*> optional "context_window" integer <*>
    optional "strategy" (vocabulary KeywordStrategy.names)) "KeywordDetection"

def HeadingDetection.decoder : Decoder HeadingDetection :=
  Record.decode (mk <$> required "section_headers" (list text) <*>
    optional "extraction_strategy" (vocabulary HeadingStrategy.names)) "SectionDetection"

def DetectionRule.decoder : Decoder DetectionRule :=
  choice "DetectionRule" [("regex", PatternDetection.decoder.map pattern),
    ("keyword", KeywordDetection.decoder.map keyword),
    ("section", HeadingDetection.decoder.map heading),
    ("custom", instruction.map custom)]

def PatternCheck.decoder : Decoder PatternCheck :=
  Record.decode (mk <$> required "pattern" text <*> optional "error_message" text) "RegexValidation"

def LengthCheck.decoder : Decoder LengthCheck :=
  Record.decode (mk <$> optional "min" number <*> optional "max" number <*>
    optional "error_message" text) "LengthValidation"

def AllowedValues.decoder : Decoder AllowedValues :=
  Record.decode (mk <$> required "values" (list free) <*> optional "case_sensitive" boolean)
    "AllowedValuesValidation"

def ValidationRule.decoder : Decoder ValidationRule :=
  choice "ValidationRule" [("regex", PatternCheck.decoder.map pattern),
    ("length", LengthCheck.decoder.map length),
    ("allowed_values", AllowedValues.decoder.map allowed),
    ("custom", instruction.map custom)]

def Replacement.decoder : Decoder Replacement :=
  Record.decode (mk <$> required "pattern" text <*> required "replacement" text <*>
    optional "flags" text) "RegexReplaceSanitization"

def Trimming.decoder : Decoder Trimming :=
  Record.decode (mk <$> optional "characters" text) "TrimSanitization"

def Formatting.decoder : Decoder Formatting :=
  Record.decode (mk <$> required "template" text <*> required "components" (mapping text))
    "FormatSanitization"

def SanitizationRule.decoder : Decoder SanitizationRule :=
  choice "SanitizationRule" [("regex_replace", Replacement.decoder.map replace),
    ("trim", Trimming.decoder.map trim),
    ("format", Formatting.decoder.map format),
    ("custom", instruction.map custom)]

/-- A missing target is null. -/
def ValueMapping.decoder : Decoder ValueMapping :=
  Record.decode (mk <$> required "source" (list free) <*>
    defaulted "target" free .null) "MappingRule"

def normalization : Decoder ValueMapping :=
  choice "Normalization" [("mapping", ValueMapping.decoder)]

def OutputSchema.decoder : Decoder OutputSchema :=
  Record.decode (mk <$> required "data_type" (vocabulary DataType.names) <*>
    optional "format" (vocabulary OutputFormat.names) <*>
    optional "cardinality" (vocabulary Cardinality.names) <*> optional "examples" (list text) <*>
    optional "normalization" normalization) "OutputSchema"

def SimpleField.decoder : Decoder SimpleField :=
  Record.decode (mk <$> defaulted "key" text "" <*> optional "label" text <*>
    required "prompt" text <*> optional "example" text) "V0Field"

def DetailedField.decoder : Decoder DetailedField :=
  Record.decode (mk <$> defaulted "key" text "" <*> optional "label" text <*>
    optional "description" text <*> optional "note" text <*> Record.required "required" boolean <*>
    Record.required "default_value" text <*>
    optional "detection_schema" (ruleBlock DetectionRule.decoder) <*>
    optional "validation_schema" (ruleBlock ValidationRule.decoder) <*>
    optional "sanitization_schema" (ruleBlock SanitizationRule.decoder) <*>
    optional "output_schema" OutputSchema.decoder) "V1Field"

def ConfigBody.decoder {Field : Type} (version : Version) (field : Decoder Field) (name : String) :
    Decoder (ConfigBody Field) :=
  Record.decode (ConfigBody.mk <$> defaulted "name" text version.title <*>
    defaulted "description" text version.summary <*> required "fields" (list field)) name

inductive ConfigError where
  | missingVersion
  | unsupportedVersion (tag : String)
  | malformed (fault : Fault)

def ConfigError.message : ConfigError → String
  | missingVersion => "extraction config has no version tag"
  | unsupportedVersion tag => "unsupported extraction config version '" ++ tag ++ "'"
  | malformed fault => "malformed extraction config: " ++ fault.message

/-- A tag that is no string is shown by its text. -/
def Version.ofJson (v : Json) : Except ConfigError Version :=
  match v.property? "version" with
  | none | some .null => .error .missingVersion
  | some (.string tag) =>
    match ofTag? tag with
    | some version => .ok version
    | none => .error (.unsupportedVersion tag)
  | some other => .error (.unsupportedVersion other.compress)

def Config.decoder : Version → Decoder Config
  | .simple => (ConfigBody.decoder .simple SimpleField.decoder "V0Config").map simple
  | .detailed => (ConfigBody.decoder .detailed DetailedField.decoder "V1Config").map detailed

def Config.ofJson (v : Json) : Except ConfigError Config := do
  let version ← Version.ofJson v
  match decoder version .buffered v with
  | .ok c => .ok c
  | .error fault => .error (.malformed fault)

end ExtractionPrompt
