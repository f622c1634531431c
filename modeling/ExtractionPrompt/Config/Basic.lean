import ExtractionPrompt.Config.Rule

/-!
Extraction configs: which fields to take out of a document, and how.  A simple config has one
instruction a field, a detailed one a pipeline of rules.  Each version has its fixed name and
description.
-/

namespace ExtractionPrompt

inductive Version where
  | simple
  | detailed
  deriving DecidableEq, Repr

def Version.tag : Version → String
  | simple => "v0"
  | detailed => "v1"

def Version.ofTag? (tag : String) : Option Version :=
  if tag = "v0" then some .simple else if tag = "v1" then some .detailed else none

def Version.title : Version → String
  | simple => "Simple Config"
  | detailed => "Detailed Config"

def Version.summary : Version → String
  | simple => "Basic resume extraction config"
  | detailed => "Detailed resume extraction config"

inductive DataType where
  | string
  | number
  | array
  | object
  deriving DecidableEq, Repr

inductive OutputFormat where
  | email
  | phone
  | url
  | text
  | custom
  deriving DecidableEq, Repr

inductive Cardinality where
  | single
  | multiple
  deriving DecidableEq, Repr

structure OutputSchema where
  dataType : DataType
  format : Option OutputFormat
  cardinality : Option Cardinality
  examples : Option (List String)
  mapping : Option ValueMapping

/-- The key is empty until it is derived from the label. -/
structure SimpleField where
  key : String
  label : Option String
  prompt : String
  sample : Option String
  deriving DecidableEq

/-- A list of rules that is there and empty is not the same as none. -/
structure DetailedField where
  key : String
  label : Option String
  description : Option String
  note : Option String
  required : Bool
  defaultValue : String
  detection : Option (List DetectionRule)
  validation : Option (List ValidationRule)
  sanitization : Option (List SanitizationRule)
  output : Option OutputSchema

structure ConfigBody (Field : Type) where
  name : String
  description : String
  fields : List Field

inductive Config where
  | simple (body : ConfigBody SimpleField)
  | detailed (body : ConfigBody DetailedField)

namespace Config

def version : Config → Version
  | simple _ => .simple
  | detailed _ => .detailed

def name : Config → String
  | simple body => body.name
  | detailed body => body.name

def description : Config → String
  | simple body => body.description
  | detailed body => body.description

/-- The keys of the fields in declaration order, repeated ones included. -/
def keys : Config → List String
  | simple body => body.fields.map (·.key)
  | detailed body => body.fields.map (·.key)

def labels : Config → List (Option String)
  | simple body => body.fields.map (·.label)
  | detailed body => body.fields.map (·.label)

def fieldCount (c : Config) : Nat := c.keys.length

end Config

/-- A config of a version's own name and description. -/
def ConfigBody.ofFields {Field : Type} (version : Version) (fields : List Field) :
    ConfigBody Field :=
  ⟨version.title, version.summary, fields⟩

/-- A field without rules and without an output schema. -/
def DetailedField.plain (key : String) (required : Bool) (defaultValue : String) :
    DetailedField where
  key := key
  label := none
  description := none
  note := none
  required := required
  defaultValue := defaultValue
  detection := none
  validation := none
  sanitization := none
  output := none

def OutputSchema.ofType (dataType : DataType) : OutputSchema := ⟨dataType, none, none, none, none⟩

end ExtractionPrompt
