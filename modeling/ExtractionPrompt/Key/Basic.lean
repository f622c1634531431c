import ExtractionPrompt.Text.Blank
import ExtractionPrompt.Text.Lowercase

/-!
Field keys: the property names an extractor must return.  A key is made of small letters, digits and
single underscores between them.  A label is normalized to one; labels that differ may share it.
-/

namespace ExtractionPrompt.Key

def isKeyChar (c : Char) : Bool := ('a' ≤ c && c ≤ 'z') || ('0' ≤ c && c ≤ '9') || c == '_'

/-- Every run of blanks becomes one underscore; `inRun` says whether the character before was a
blank. -/
def joinBlanks (inRun : Bool) : List Char → List Char
  | [] => []
  | c :: rest =>
    if Text.isLabelBlank c then
      (if inRun then joinBlanks true rest else '_' :: joinBlanks true rest)
    else c :: joinBlanks false rest

/-- Every run of a character becomes one of it; `inRun` says whether the character before was it. -/
def collapse (target : Char) (inRun : Bool) : List Char → List Char
  | [] => []
  | c :: rest =>
    if c = target then (if inRun then collapse target true rest else c :: collapse target true rest)
    else c :: collapse target false rest

/-- Runs of hyphens are looked for too, although no hyphen is kept before. -/
def normalizeChars (label : List Char) : List Char :=
  let lowered := (Text.trimBy Text.isLabelBlank label).flatMap Text.lowercase
  let kept := (joinBlanks false lowered).filter isKeyChar
  Text.trimBy (· == '_') (collapse '-' false (collapse '_' false kept))

def normalize (label : String) : String := String.ofList (normalizeChars label.toList)

/-- No two underscores stand next to each other. -/
def singleUnderscores : List Char → Bool
  | '_' :: '_' :: _ => false
  | _ :: rest => singleUnderscores rest
  | [] => true

def isValidChars (key : List Char) : Bool :=
  key.all isKeyChar && key.head? != some '_' && key.getLast? != some '_' && singleUnderscores key

/-- Whether a key is in normal form; the empty one is. -/
def isValid (key : String) : Bool := isValidChars key.toList

end ExtractionPrompt.Key
