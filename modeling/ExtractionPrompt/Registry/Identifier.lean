import ExtractionPrompt.Text.Numeral

/-!
Identifiers of users and records: 32 hexadecimal digits, kept as their hyphenated text in small
letters.
-/

namespace ExtractionPrompt

structure Identifier where
  text : String
  deriving DecidableEq, Repr

namespace Identifier

def isHex (c : Char) : Bool := (Text.hexValue? c).isSome

/-- The digits between the hyphens of the hyphenated form. -/
def hyphenatedDigits? (s : List Char) : Option (List Char) :=
  if s.length = 36 ∧ [8, 13, 18, 23].all (fun place => s[place]? == some '-') then
    some (s.take 8 ++ (s.drop 9).take 4 ++ (s.drop 14).take 4 ++ (s.drop 19).take 4 ++ s.drop 24)
  else none

def hyphenated (digits : List Char) : String :=
  String.ofList (digits.take 8 ++ '-' :: (digits.drop 8).take 4 ++ '-' :: (digits.drop 12).take 4 ++
    '-' :: (digits.drop 16).take 4 ++ '-' :: digits.drop 20)

def urnLead : List Char := "urn:uuid:".toList

/-- The digits of any accepted form: bare, hyphenated, or hyphenated in braces or behind the URN
lead, which may be written in small and capital letters. -/
def digits? (s : List Char) : Option (List Char) :=
  if s.length = 32 then some s
  else if s.length = 38 ∧ s.head? = some '{' ∧ s.getLast? = some '}' then
    hyphenatedDigits? (s.tail.dropLast)
  else if (s.take urnLead.length).map Char.toLower = urnLead then
    hyphenatedDigits? (s.drop urnLead.length)
  else hyphenatedDigits? s

def parse? (s : String) : Option Identifier := do
  let digits ← digits? s.toList
  if digits.all isHex then some ⟨hyphenated (digits.map Char.toLower)⟩ else none

/-- The identifier of the record saved as the `n`th. -/
def numbered (n : Nat) : Identifier :=
  ⟨String.ofList ("00000000-0000-4000-8000-".toList ++ Text.padded 12 n)⟩

end Identifier

end ExtractionPrompt
