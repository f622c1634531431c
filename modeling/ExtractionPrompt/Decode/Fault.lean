import ExtractionPrompt.Json.Fault
import ExtractionPrompt.Json.Printer
import ExtractionPrompt.Text.Quoted

/-!
Why a JSON value is not what a decoder was ready for, and how each cause is worded.
-/

namespace ExtractionPrompt

inductive Expectation where
  | text
  | boolean
  | integer
  | number
  | list
  | mapping
  | identifier
  | vocabularyEntry
  | choiceTag
  | noValue
  | record (name : String)
  | choice (name : String)
  | recordOf (name : String) (size : Nat)
  | items (count : Nat)
  | shorterList
  | entries (count : Nat)
  | shorterMapping
  | embeddedText
  deriving DecidableEq, Repr

inductive Fault where
  | wrongType (found : Json) (expected : Expectation)
  | wrongLength (length : Nat) (expected : Expectation)
  | outOfRange (n : Int) (expected : Expectation)
  | missingProperty (name : String)
  | repeatedProperty (name : String)
  | unknownVariant (name : String) (known : List String)
  | variantIndex (index : Nat) (count : Nat)
  | notOneEntry
  | notIdentifier
  | notJson (fault : TextFault)

namespace Fault

/-- The fault of an object that stands for a text. -/
def ofEmbedding : Json.EmbeddingFault → Fault
  | .notText found => wrongType found .embeddedText
  | .notJson fault => notJson fault

/-- The fault of a text as that of the object that stands for it, wherever in the text it is. -/
def ofRead : Json.ReadFault → Fault
  | .malformed fault => notJson fault
  | .embedding _ cause => ofEmbedding cause

end Fault

def countOf (count : Nat) (noun : String) : String :=
  if count = 1 then "1 " ++ noun else toString count ++ " " ++ noun ++ "s"

def Expectation.phrase : Expectation → String
  | text => "a string"
  | boolean => "a boolean"
  | integer => "i64"
  | number => "f64"
  | list => "a sequence"
  | mapping => "a map"
  | identifier => "a formatted UUID string"
  | vocabularyEntry => "string or map"
  | choiceTag => "variant identifier"
  | noValue => "unit"
  | record name => "struct " ++ name
  | choice name => "adjacently tagged enum " ++ name
  | recordOf name size => "struct " ++ name ++ " with " ++ countOf size "element"
  | items count => countOf count "element" ++ " in sequence"
  | shorterList => "fewer elements in array"
  | entries count => countOf count "element" ++ " in map"
  | shorterMapping => "fewer elements in map"
  | embeddedText => "raw value"

def ticked (s : String) : String := "`" ++ s ++ "`"

/-- A value as a fault names it: its kind, and the value itself when it is a scalar. -/
def Json.phrase : Json → String
  | null => "null"
  | bool b => "boolean " ++ ticked (if b then "true" else "false")
  | number (.integer n) => "integer " ++ ticked (String.ofList (JsonNumber.integer n).text)
  | number (.binary x) => "floating point " ++ ticked (String.ofList (JsonNumber.binary x).text)
  | string s => "string " ++ Text.quoted s
  | array _ => "sequence"
  | object _ => "map"

def knownVariants : List String → String
  | [] => "there are no variants"
  | [a] => "expected " ++ ticked a
  | [a, b] => "expected " ++ ticked a ++ " or " ++ ticked b
  | names => "expected one of " ++ String.intercalate ", " (names.map ticked)

def Fault.message : Fault → String
  | wrongType found expected => "invalid type: " ++ found.phrase ++ ", expected " ++ expected.phrase
  | wrongLength length expected =>
    "invalid length " ++ toString length ++ ", expected " ++ expected.phrase
  | outOfRange n expected =>
    "invalid value: " ++ (Json.number (.integer n)).phrase ++ ", expected " ++ expected.phrase
  | missingProperty name => "missing field " ++ ticked name
  | repeatedProperty name => "duplicate field " ++ ticked name
  | unknownVariant name known => "unknown variant " ++ ticked name ++ ", " ++ knownVariants known
  | variantIndex index count =>
    "invalid value: " ++ (Json.number (.integer index)).phrase ++
      ", expected variant index 0 <= i < " ++ toString count
  | notOneEntry => "invalid value: map, expected map with a single key"
  | notIdentifier => "UUID parsing failed"
  | notJson fault => fault.message

end ExtractionPrompt
