import ExtractionPrompt.Json.Collect
import ExtractionPrompt.Json.Lexeme

/-!
Reading a JSON value.  An object may stand for the value of a text that it holds, so that a value
can be passed on as it was written: its only property then has the name `embeddedName`.  Where such
objects are read for what they stand for, none is left in the value.

The fuel bounds the work and the depth the nesting; `2 * s.length + 2` is fuel enough for any text
`s`, so only the text and the depth decide what is read.
-/

namespace ExtractionPrompt.Json

/-- The fuel for a text: every character read costs at most two steps. -/
def fuelFor (s : List Char) : Nat := 2 * s.length + 2

/-- The deepest nesting of arrays and objects in a text. -/
def maxDepth : Nat := 127

/-- A value other than an array or an object. -/
def readScalar : List Char → Except TextFault (Json × List Char)
  | 'n' :: rest => (word ['u', 'l', 'l'] rest).map fun rest => (null, rest)
  | 't' :: rest => (word ['r', 'u', 'e'] rest).map fun rest => (bool true, rest)
  | 'f' :: rest => (word ['a', 'l', 's', 'e'] rest).map fun rest => (bool false, rest)
  | '"' :: rest => (readString rest).map fun (t, rest) => (string t, rest)
  | s => (readNumber s).map fun (n, rest) => (number n, rest)

/-- The value that a text starts with, of an array or an object only that it is one. -/
def outline : List Char → Except TextFault Json
  | '[' :: _ => .ok (array [])
  | '{' :: _ => .ok (object [])
  | s => (readScalar s).map Prod.fst

/-- The name by which an object says that it stands for the value of a text. -/
def embeddedName : String := "$serde_json::private::RawValue"

/-- What stands in place of the text, in the properties of an object that stands for one: that
object has the name first. -/
def embedding? : List (String × Json) → Option Json
  | (name, v) :: _ => if name = embeddedName then some v else none
  | [] => none

/-- The text that an object stands for, from behind its name. -/
def embeddedText (s : List Char) : Except ReadFault (String × List Char) := do
  let rest ← (colon s).mapError .malformed
  match skipBlank rest with
  | '"' :: rest => (readString rest).mapError .malformed
  | rest =>
    let found ← (outline rest).mapError .malformed
    .error (.embedding [.property embeddedName] (.notText found))

/-- The end of an object that stands for a text; it has no other property. -/
def embeddedEnd (s : List Char) : Except TextFault (List Char) :=
  match skipBlank s with
  | '}' :: rest => .ok rest
  | ',' :: _ => .error .trailingComma
  | [] => .error .endInObject
  | _ => .error .trailingText

/-- A value that was read, when nothing but blanks is left behind it. -/
def alone (read : Json × List Char) : Except ReadFault Json :=
  if (skipBlank read.2).isEmpty then .ok read.1 else .error (.malformed .trailingText)

mutual

/-- The value that comes next.  Whether objects may stand for texts is the first argument. -/
def readValue (embeds : Bool) (fuel depth : Nat) (s : List Char) :
    Except ReadFault (Json × List Char) :=
  match fuel with
  | 0 => .error (.malformed .endInValue)
  | fuel + 1 =>
    match skipBlank s with
    | '[' :: rest =>
      match depth with
      | 0 => .error (.malformed .tooDeep)
      | depth + 1 =>
        match skipBlank rest with
        | ']' :: rest => .ok (array [], rest)
        | [] => .error (.malformed .endInList)
        | rest => (readItems embeds fuel depth 0 rest).map fun (items, rest) => (array items, rest)
    | '{' :: rest =>
      match depth with
      | 0 => .error (.malformed .tooDeep)
      | depth + 1 =>
        match skipBlank rest with
        | '}' :: rest => .ok (object [], rest)
        | rest => do
          let (name, rest) ← (readName true rest).mapError .malformed
          if embeds && name == embeddedName then readEmbedded embeds fuel rest
          else (readProperties embeds fuel depth name rest).map fun (entries, rest) =>
            (object (collect entries), rest)
    | rest => (readScalar rest).mapError .malformed

/-- The items from the one of that index on, and the closing bracket. -/
def readItems (embeds : Bool) (fuel depth index : Nat) (s : List Char) :
    Except ReadFault (List Json × List Char) :=
  match fuel with
  | 0 => .error (.malformed .endInValue)
  | fuel + 1 => do
    let (v, rest) ← (readValue embeds fuel depth s).mapError (.inside (.item index))
    match skipBlank rest with
    | ',' :: rest =>
      match skipBlank rest with
      | ']' :: _ => .error (.malformed .trailingComma)
      | rest => do
        let (items, rest) ← readItems embeds fuel depth (index + 1) rest
        .ok (v :: items, rest)
    | ']' :: rest => .ok ([v], rest)
    | [] => .error (.malformed .endInList)
    | _ => .error (.malformed .noListSeparator)

/-- The properties from the one of that name on, which has been read, and the closing bracket. -/
def readProperties (embeds : Bool) (fuel depth : Nat) (name : String) (s : List Char) :
    Except ReadFault (List (String × Json) × List Char) :=
  match fuel with
  | 0 => .error (.malformed .endInValue)
  | fuel + 1 => do
    let rest ← (colon s).mapError .malformed
    let (v, rest) ← (readValue embeds fuel depth rest).mapError (.inside (.property name))
    match skipBlank rest with
    | ',' :: rest => do
      let (next, rest) ← (readName false rest).mapError .malformed
      let (entries, rest) ← readProperties embeds fuel depth next rest
      .ok ((name, v) :: entries, rest)
    | '}' :: rest => .ok ([(name, v)], rest)
    | [] => .error (.malformed .endInObject)
    | _ => .error (.malformed .noObjectSeparator)

/-- The value of the text that an object stands for, from behind its name.  The text is nested as
deep as any other, whatever it stands in. -/
def readEmbedded (embeds : Bool) (fuel : Nat) (s : List Char) :
    Except ReadFault (Json × List Char) :=
  match fuel with
  | 0 => .error (.malformed .endInValue)
  | fuel + 1 => do
    let (text, rest) ← embeddedText s
    let v ← ((readValue embeds fuel maxDepth text.toList).bind alone).mapError .ofEmbedded
    let rest ← (embeddedEnd rest).mapError .malformed
    .ok (v, rest)

end

def parseAs (embeds : Bool) (s : String) : Except ReadFault Json :=
  (readValue embeds (fuelFor s.toList) maxDepth s.toList).bind alone

/-- The value that a text holds, with nothing but blanks around it. -/
def parse? (s : String) : Option Json := (parseAs true s).toOption

/-- The value that a text holds by the grammar alone: every object stands for itself. -/
def parsePlain? (s : String) : Option Json := (parseAs false s).toOption

end ExtractionPrompt.Json
