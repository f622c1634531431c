import ExtractionPrompt.Config.Vocabulary
import ExtractionPrompt.Config.Encode
import ExtractionPrompt.Json.Printer

/-!
One line of prose for each rule.  An absent option is shown by its display default, which is never
written back into the rule; empty flags and an empty error message count as absent.
-/

namespace ExtractionPrompt

def commaList (texts : List String) : String := String.intercalate ", " texts

def integerText (n : Int) : String := String.ofList (JsonNumber.integer n).text

def proseNumber (x : Number.Binary64) : String := String.ofList (x.text .prose)

def flagsSuffix : Option String → String
  | some flags => if flags = "" then "" else " with flags `" ++ flags ++ "`"
  | none => ""

def elseSuffix : Option String → String
  | some message => if message = "" then "" else "; else: \"" ++ message ++ "\""
  | none => ""

/-- Strings stand bare, null is empty, anything else is its JSON text. -/
def Json.bare : Json → String
  | string s => s
  | null => ""
  | other => other.compress

def PatternDetection.line (r : PatternDetection) : String :=
  let target := r.target.getD .all
  let plural := if target = .all then "es" else ""
  "Use regex `" ++ r.pattern ++ "`" ++ flagsSuffix r.flags ++ " to extract " ++ target.name ++
    " match" ++ plural ++ " (group " ++ integerText (r.group.getD 0) ++ ")."

def KeywordDetection.line (r : KeywordDetection) : String :=
  "Look for keywords [" ++ commaList r.keywords ++ "] using " ++
    (r.strategy.getD .proximity).name ++ " within ±" ++
    integerText (r.contextWindow.getD 0) ++ " words."

def HeadingStrategy.phrase : HeadingStrategy → String
  | firstOccurrence => "first occurrence"
  | mostRecent => "most recent"

def HeadingDetection.line (r : HeadingDetection) : String :=
  "In sections titled [" ++ commaList r.headings ++ "], take the " ++
    (r.strategy.getD .firstOccurrence).phrase ++ "."

def DetectionRule.line : DetectionRule → String
  | pattern r => r.line
  | keyword r => r.line
  | heading r => r.line
  | custom text => text

def PatternCheck.line (r : PatternCheck) : String :=
  "Must match regex `" ++ r.pattern ++ "`" ++ elseSuffix r.errorMessage ++ "."

def bound (relation : String) : Option Number.Binary64 → String
  | some x => relation ++ proseNumber x
  | none => ""

def LengthCheck.line (r : LengthCheck) : String :=
  "Length must be" ++ bound " ≥ " r.min ++ bound " and ≤ " r.max ++ elseSuffix r.errorMessage ++ "."

def AllowedValues.line (r : AllowedValues) : String :=
  "Value must be one of [" ++ commaList (r.values.map Json.bare) ++ "]" ++
    (if r.caseSensitive = some true then " (case-sensitive)" else "") ++ "."

def ValidationRule.line : ValidationRule → String
  | pattern r => r.line
  | length r => r.line
  | allowed r => r.line
  | custom text => text

def Replacement.line (r : Replacement) : String :=
  "Replace `" ++ r.pattern ++ "` → `" ++ r.replacement ++ "`" ++ flagsSuffix r.flags ++ "."

/-- What a trimming without characters shows. -/
def blankMarker : String := "\\s"

def Trimming.line (r : Trimming) : String :=
  "Trim characters [" ++ r.characters.getD blankMarker ++ "]."

def Formatting.line (r : Formatting) : String :=
  "Format with template \"" ++ r.template ++ "\", components " ++ r.componentsJson.compress ++ "."

def SanitizationRule.line : SanitizationRule → String
  | replace r => r.line
  | trim r => r.line
  | format r => r.line
  | custom text => text

def ValueMapping.line (r : ValueMapping) : String :=
  "map [" ++ commaList (r.source.map Json.bare) ++ "] → " ++ r.target.compress

end ExtractionPrompt
