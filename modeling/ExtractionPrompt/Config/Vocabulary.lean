import ExtractionPrompt.Config.Basic

/-!
The names that the closed vocabularies of a config have in documents, in the order in which faults
list them.
-/

namespace ExtractionPrompt

def MatchTarget.names : List (String × MatchTarget) :=
  [("all", all), ("first", first), ("last", last)]

def MatchTarget.name : MatchTarget → String
  | all => "all"
  | first => "first"
  | last => "last"

theorem MatchTarget.lookup_name (m : MatchTarget) : names.lookup m.name = some m := by
  cases m <;> rfl

def KeywordStrategy.names : List (String × KeywordStrategy) :=
  [("proximity", proximity), ("section", withinSection)]

def KeywordStrategy.name : KeywordStrategy → String
  | proximity => "proximity"
  | withinSection => "section"

theorem KeywordStrategy.lookup_name (k : KeywordStrategy) : names.lookup k.name = some k := by
  cases k <;> rfl

def HeadingStrategy.names : List (String × HeadingStrategy) :=
  [("first_occurrence", firstOccurrence), ("most_recent", mostRecent)]

def HeadingStrategy.name : HeadingStrategy → String
  | firstOccurrence => "first_occurrence"
  | mostRecent => "most_recent"

theorem HeadingStrategy.lookup_name (h : HeadingStrategy) : names.lookup h.name = some h := by
  cases h <;> rfl

def DataType.names : List (String × DataType) :=
  [("string", string), ("number", number), ("array", array), ("object", object)]

def DataType.name : DataType → String
  | string => "string"
  | number => "number"
  | array => "array"
  | object => "object"

theorem DataType.lookup_name (d : DataType) : names.lookup d.name = some d := by
  cases d <;> rfl

def OutputFormat.names : List (String × OutputFormat) :=
  [("email", email), ("phone", phone), ("url", url), ("text", text), ("custom", custom)]

def OutputFormat.name : OutputFormat → String
  | email => "email"
  | phone => "phone"
  | url => "url"
  | text => "text"
  | custom => "custom"

theorem OutputFormat.lookup_name (o : OutputFormat) : names.lookup o.name = some o := by
  cases o <;> rfl

def Cardinality.names : List (String × Cardinality) := [("single", single), ("multiple", multiple)]

def Cardinality.name : Cardinality → String
  | single => "single"
  | multiple => "multiple"

theorem Cardinality.lookup_name (c : Cardinality) : names.lookup c.name = some c := by
  cases c <;> rfl

end ExtractionPrompt
