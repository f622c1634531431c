import ExtractionPrompt.Json.Basic

/-!
The rules of a detailed field: how a value is found in a document, when it is acceptable, how it is
cleaned, and how known spellings are mapped to one.  Every family is closed.
-/

namespace ExtractionPrompt

inductive MatchTarget where
  | all
  | first
  | last
  deriving DecidableEq, Repr

inductive KeywordStrategy where
  | proximity
  | withinSection
  deriving DecidableEq, Repr

inductive HeadingStrategy where
  | firstOccurrence
  | mostRecent
  deriving DecidableEq, Repr

structure PatternDetection where
  pattern : String
  flags : Option String
  target : Option MatchTarget
  group : Option Int
  deriving DecidableEq

structure KeywordDetection where
  keywords : List String
  contextWindow : Option Int
  strategy : Option KeywordStrategy
  deriving DecidableEq

structure HeadingDetection where
  headings : List String
  strategy : Option HeadingStrategy
  deriving DecidableEq

inductive DetectionRule where
  | pattern (rule : PatternDetection)
  | keyword (rule : KeywordDetection)
  | heading (rule : HeadingDetection)
  | custom (instruction : String)
  deriving DecidableEq

structure PatternCheck where
  pattern : String
  errorMessage : Option String
  deriving DecidableEq

/-- The bounds are any numbers, not only whole ones. -/
structure LengthCheck where
  min : Option Number.Binary64
  max : Option Number.Binary64
  errorMessage : Option String
  deriving DecidableEq

structure AllowedValues where
  values : List Json
  caseSensitive : Option Bool

inductive ValidationRule where
  | pattern (rule : PatternCheck)
  | length (rule : LengthCheck)
  | allowed (rule : AllowedValues)
  | custom (instruction : String)

structure Replacement where
  pattern : String
  replacement : String
  flags : Option String
  deriving DecidableEq

/-- Without characters, blanks are trimmed. -/
structure Trimming where
  characters : Option String
  deriving DecidableEq

/-- The components keep the order they were entered in. -/
structure Formatting where
  template : String
  components : List (String × String)
  deriving DecidableEq

inductive SanitizationRule where
  | replace (rule : Replacement)
  | trim (rule : Trimming)
  | format (rule : Formatting)
  | custom (instruction : String)
  deriving DecidableEq

/-- Every value of the source is replaced by the target. -/
structure ValueMapping where
  source : List Json
  target : Json

end ExtractionPrompt
