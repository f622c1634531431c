import ExtractionPrompt.Json.Basic
import ExtractionPrompt.Number.Layout

/-!
The text of a JSON value, compact and indented.  Only the quote, the backslash and the controls are
escaped, so no text holds a line break that the layout did not put there.
-/

namespace ExtractionPrompt

def JsonNumber.text : JsonNumber → List Char
  | integer n => (if n < 0 then ['-'] else []) ++ Nat.toDigits 10 n.natAbs
  | binary x => x.text .document

namespace Json

def hexDigit (n : Nat) : Char :=
  if n < 10 then Char.ofNat ('0'.toNat + n) else Char.ofNat ('a'.toNat + (n - 10))

def escapeChar (c : Char) : List Char :=
  if c = '"' then ['\\', '"']
  else if c = '\\' then ['\\', '\\']
  else if c = '\n' then ['\\', 'n']
  else if c = '\r' then ['\\', 'r']
  else if c = '\t' then ['\\', 't']
  else if c = '\x08' then ['\\', 'b']
  else if c = '\x0C' then ['\\', 'f']
  else if c.toNat < 0x20 then
    ['\\', 'u', '0', '0', hexDigit (c.toNat / 16), hexDigit (c.toNat % 16)]
  else [c]

def escape (s : List Char) : List Char := s.flatMap escapeChar

def stringText (s : String) : List Char := '"' :: escape s.toList ++ ['"']

theorem hexDigit_ne_newline (n : Nat) (h : n < 16) : hexDigit n ≠ '\n' := by
  revert h n; decide

theorem newline_notMem_escapeChar (c : Char) : '\n' ∉ escapeChar c := by
  by_cases control : c.toNat < 0x20
  · have := hexDigit_ne_newline (c.toNat / 16) (by omega)
    have := hexDigit_ne_newline (c.toNat % 16) (by omega)
    simp only [escapeChar]
    repeat' split
    all_goals grind
  · simp only [escapeChar, if_neg control]
    repeat' split
    all_goals grind

theorem newline_notMem_escape (s : List Char) : '\n' ∉ escape s := by
  simp [escape, newline_notMem_escapeChar]

mutual

def compact : Json → List Char
  | null => ['n', 'u', 'l', 'l']
  | bool true => ['t', 'r', 'u', 'e']
  | bool false => ['f', 'a', 'l', 's', 'e']
  | number n => n.text
  | string s => stringText s
  | array [] => ['[', ']']
  | array (v :: rest) => '[' :: compact v ++ compactItems rest ++ [']']
  | object [] => ['{', '}']
  | object ((name, v) :: rest) =>
    '{' :: stringText name ++ ':' :: compact v ++ compactProperties rest ++ ['}']

/-- The items after the first, each behind its comma. -/
def compactItems : List Json → List Char
  | [] => []
  | v :: rest => ',' :: compact v ++ compactItems rest

def compactProperties : List (String × Json) → List Char
  | [] => []
  | (name, v) :: rest => ',' :: stringText name ++ ':' :: compact v ++ compactProperties rest

end

/-- A new line, indented two blanks a level. -/
def newLine (level : Nat) : List Char := '\n' :: List.replicate (2 * level) ' '

mutual

def indented (level : Nat) : Json → List Char
  | array (v :: rest) =>
    '[' :: newLine (level + 1) ++ indented (level + 1) v ++ indentedItems (level + 1) rest ++
      newLine level ++ [']']
  | object ((name, v) :: rest) =>
    '{' :: newLine (level + 1) ++ stringText name ++ ':' :: ' ' :: indented (level + 1) v ++
      indentedProperties (level + 1) rest ++ newLine level ++ ['}']
  | null => ['n', 'u', 'l', 'l']
  | bool true => ['t', 'r', 'u', 'e']
  | bool false => ['f', 'a', 'l', 's', 'e']
  | number n => n.text
  | string s => stringText s
  | array [] => ['[', ']']
  | object [] => ['{', '}']

def indentedItems (level : Nat) : List Json → List Char
  | [] => []
  | v :: rest => ',' :: newLine level ++ indented level v ++ indentedItems level rest

def indentedProperties (level : Nat) : List (String × Json) → List Char
  | [] => []
  | (name, v) :: rest =>
    ',' :: newLine level ++ stringText name ++ ':' :: ' ' :: indented level v ++
      indentedProperties level rest

end

def compress (v : Json) : String := String.ofList v.compact

def pretty (v : Json) : String := String.ofList (v.indented 0)

end Json

end ExtractionPrompt
