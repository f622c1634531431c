import ExtractionPrompt.Json.Basic

/-!
Why a text cannot be read as a JSON value.  Reading stops at the first fault, so there is one cause;
the line and the column where it stands are left out.
-/

namespace ExtractionPrompt

/-- How a text departs from the grammar. -/
inductive TextFault where
  | endInList
  | endInObject
  | endInString
  | endInValue
  | noColon
  | noListSeparator
  | noObjectSeparator
  | noName
  | noValue
  | unknownWord
  | badNumber
  | numberOutOfRange
  | badEscape
  | controlCharacter
  | loneSurrogate
  | halfPair
  | trailingComma
  | trailingText
  | tooDeep
  deriving DecidableEq, Repr

def TextFault.message : TextFault → String
  | endInList => "EOF while parsing a list"
  | endInObject => "EOF while parsing an object"
  | endInString => "EOF while parsing a string"
  | endInValue => "EOF while parsing a value"
  | noColon => "expected `:`"
  | noListSeparator => "expected `,` or `]`"
  | noObjectSeparator => "expected `,` or `\x7d`"
  | noName => "key must be a string"
  | noValue => "expected value"
  | unknownWord => "expected ident"
  | badNumber => "invalid number"
  | numberOutOfRange => "number out of range"
  | badEscape => "invalid escape"
  | controlCharacter => "control character (\\u0000-\\u001F) found while parsing a string"
  | loneSurrogate => "lone leading surrogate in hex escape"
  | halfPair => "unexpected end of hex escape"
  | trailingComma => "trailing comma"
  | trailingText => "trailing characters"
  | tooDeep => "recursion limit exceeded"

namespace Json

/-- A step from an array or an object to a value in it. -/
inductive Step where
  | item (index : Nat)
  | property (name : String)
  deriving DecidableEq, Repr

/-- What stands in place of an embedded text: a value that is no text, or a text that is no JSON. -/
inductive EmbeddingFault where
  | notText (found : Json)
  | notJson (fault : TextFault)

/-- Either the text is not JSON as far as it was read, or a text embedded in it cannot be read; then
the place is where that text was looked for. -/
inductive ReadFault where
  | malformed (fault : TextFault)
  | embedding (place : List Step) (cause : EmbeddingFault)

/-- The fault of a value as seen from what holds the value. -/
def ReadFault.inside (step : Step) : ReadFault → ReadFault
  | malformed fault => malformed fault
  | embedding place cause => embedding (step :: place) cause

/-- The fault of an embedded text as that of the object that stands for it. -/
def ReadFault.ofEmbedded : ReadFault → ReadFault
  | malformed fault => embedding [] (.notJson fault)
  | embedding _ cause => embedding [] cause

end Json

end ExtractionPrompt
