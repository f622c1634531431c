import ExtractionPrompt.Json.Fault
import ExtractionPrompt.Text.Numeral

/-!
Reading the smallest parts of JSON text: blanks, separators, words, strings and numbers.  Each
reader takes the text from where it stands and gives back what it read and the text after it, or the
fault at which it stopped.
-/

namespace ExtractionPrompt.Json

def isBlank (c : Char) : Bool := c == ' ' || c == '\n' || c == '\t' || c == '\r'

def skipBlank (s : List Char) : List Char := s.dropWhile isBlank

/-- The number that four hexadecimal digits stand for.  A text with fewer than four bytes left ends
too early, whatever they are. -/
def hexUnit : List Char → Except TextFault (Nat × List Char)
  | a :: b :: c :: d :: rest =>
    match Text.hexValue? a, Text.hexValue? b, Text.hexValue? c, Text.hexValue? d with
    | some a, some b, some c, some d => .ok (((a * 16 + b) * 16 + c) * 16 + d, rest)
    | _, _, _, _ => .error .badEscape
  | s => .error (if (String.ofList s).utf8ByteSize < 4 then .endInString else .badEscape)

/-- The character that an escaped high surrogate and the text after it stand for. -/
def surrogatePair (high : Nat) : List Char → Except TextFault (Char × List Char)
  | [] => .error .endInString
  | ['\\'] => .error .endInString
  | '\\' :: 'u' :: rest => do
    let (low, rest) ← hexUnit rest
    if 0xDC00 ≤ low ∧ low ≤ 0xDFFF then
      .ok (Char.ofNat (0x10000 + (high - 0xD800) * 0x400 + (low - 0xDC00)), rest)
    else .error .loneSurrogate
  | _ => .error .halfPair

/-- The character that the text after a backslash stands for.  A high surrogate needs its low one,
and no surrogate stands alone. -/
def escaped : List Char → Except TextFault (Char × List Char)
  | '"' :: rest => .ok ('"', rest)
  | '\\' :: rest => .ok ('\\', rest)
  | '/' :: rest => .ok ('/', rest)
  | 'b' :: rest => .ok ('\x08', rest)
  | 'f' :: rest => .ok ('\x0C', rest)
  | 'n' :: rest => .ok ('\n', rest)
  | 'r' :: rest => .ok ('\r', rest)
  | 't' :: rest => .ok ('\t', rest)
  | 'u' :: rest => do
    let (unit, rest) ← hexUnit rest
    if unit < 0xD800 ∨ 0xDFFF < unit then .ok (Char.ofNat unit, rest)
    else if 0xDC00 ≤ unit then .error .loneSurrogate
    else surrogatePair unit rest
  | [] => .error .endInString
  | _ => .error .badEscape

/-- The rest of a string whose opening quote has been read. -/
def stringRest : Nat → List Char → Except TextFault (List Char × List Char)
  | _, [] => .error .endInString
  | 0, _ => .error .endInString
  | _ + 1, '"' :: rest => .ok ([], rest)
  | fuel + 1, '\\' :: rest => do
    let (c, rest) ← escaped rest
    let (cs, rest) ← stringRest fuel rest
    .ok (c :: cs, rest)
  | fuel + 1, c :: rest =>
    if c.toNat < 0x20 then .error .controlCharacter
    else do
      let (cs, rest) ← stringRest fuel rest
      .ok (c :: cs, rest)

def readString (s : List Char) : Except TextFault (String × List Char) :=
  (stringRest s.length s).map fun (cs, rest) => (String.ofList cs, rest)

/-- The text after a word, which has to come next. -/
def word : List Char → List Char → Except TextFault (List Char)
  | [], s => .ok s
  | _ :: _, [] => .error .endInValue
  | c :: more, d :: s => if c = d then word more s else .error .unknownWord

/-- The text after the colon behind a name. -/
def colon (s : List Char) : Except TextFault (List Char) :=
  match skipBlank s with
  | ':' :: rest => .ok rest
  | [] => .error .endInObject
  | _ => .error .noColon

/-- The name of a property; the first one stands behind the opening bracket, the others behind a
comma. -/
def readName (first : Bool) (s : List Char) : Except TextFault (String × List Char) :=
  match skipBlank s with
  | '"' :: rest => readString rest
  | [] => .error (if first then .endInObject else .endInValue)
  | '}' :: _ => .error (if first then .noName else .trailingComma)
  | _ => .error .noName

/-- A significand that is kept below `2 ^ 64`. -/
def fits (n : Nat) : Bool := n < Nat.pow 2 64

/-- The digits before the point: those that fit the significand, and the count of those after
them. -/
def wholePart (significand : Nat) : List Char → Nat × Nat × List Char
  | [] => (significand, 0, [])
  | c :: rest =>
    if c.isDigit then
      if fits (significand * 10 + Text.digitValue c) then
        wholePart (significand * 10 + Text.digitValue c) rest
      else (significand, (c :: rest).takeWhile Char.isDigit |>.length,
        (c :: rest).dropWhile Char.isDigit)
    else (significand, 0, c :: rest)

/-- The digits after the point that still fit the significand, and how many they are; the others are
passed over. -/
def fractionPart (significand : Nat) : List Char → Nat × Nat × List Char
  | [] => (significand, 0, [])
  | c :: rest =>
    if c.isDigit then
      if fits (significand * 10 + Text.digitValue c) then
        let (significand, count, rest) := fractionPart (significand * 10 + Text.digitValue c) rest
        (significand, count + 1, rest)
      else (significand, 0, (c :: rest).dropWhile Char.isDigit)
    else (significand, 0, c :: rest)

/-- The text itself where a digit has to come next. -/
def atDigit : List Char → Except TextFault (List Char)
  | [] => .error .endInValue
  | c :: rest => if c.isDigit then .ok (c :: rest) else .error .badNumber

/-- An exponent after its `e`: a sign or none, and at least one digit. -/
def exponentPart (s : List Char) : Except TextFault (Int × List Char) := do
  let (negative, s) := match s with
    | '+' :: rest => (false, rest)
    | '-' :: rest => (true, rest)
    | s => (false, s)
  let s ← atDigit s
  let magnitude := (s.takeWhile Char.isDigit).foldl (fun n c => n * 10 + Text.digitValue c) 0
  .ok (if negative then -(magnitude : Int) else magnitude, s.dropWhile Char.isDigit)

def startsExponent : List Char → Option (List Char)
  | 'e' :: rest => some rest
  | 'E' :: rest => some rest
  | _ => none

/-- A numeral without its sign, as the parts that its grammar tells apart. -/
structure Numeral where
  significand : Nat
  /-- The power of ten by which the significand is off because of the digits counted but not
  kept. -/
  shift : Int
  /-- Whether the numeral is digits only, all of which fit the significand. -/
  whole : Bool
  exponent : Int

/-- The digits before the point.  A leading zero is the whole of them. -/
def numeralWhole (s : List Char) : Except TextFault (Nat × Nat × List Char) := do
  match ← atDigit s with
  | '0' :: c :: rest => if c.isDigit then .error .badNumber else .ok (0, 0, c :: rest)
  | c :: rest => .ok (wholePart (Text.digitValue c) rest)
  | [] => .error .endInValue

def numeral (s : List Char) : Except TextFault (Numeral × List Char) := do
  let (significand, dropped, rest) ← numeralWhole s
  let (significand, shift, pointed, rest) ← match rest with
    | '.' :: rest => do
      let (significand, count, rest) := fractionPart significand (← atDigit rest)
      .ok (significand, (dropped : Int) - count, true, rest)
    | rest => .ok (significand, (dropped : Int), false, rest)
  match startsExponent rest with
  | some rest => do
    let (exponent, rest) ← exponentPart rest
    .ok (⟨significand, shift, false, exponent⟩, rest)
  | none => .ok (⟨significand, shift, !pointed && dropped == 0, 0⟩, rest)

/-- An integer when the numeral is whole and, if negative, within 63 bits and not zero; else a
binary value.  None when the value is too large for one. -/
def Numeral.value? (negative : Bool) (n : Numeral) : Option JsonNumber :=
  if n.whole && !negative then some (.integer n.significand)
  else if n.whole && 0 < n.significand && n.significand ≤ Nat.pow 2 63 then
    some (.integer (-(n.significand : Int)))
  else
    (Number.Binary64.ofDecimal? n.significand (n.shift + n.exponent)).map fun x =>
      .binary (if negative then x.negate else x)

def signedNumber (negative : Bool) (s : List Char) : Except TextFault (JsonNumber × List Char) := do
  let (n, rest) ← numeral s
  match n.value? negative with
  | some value => .ok (value, rest)
  | none => .error .numberOutOfRange

def readNumber : List Char → Except TextFault (JsonNumber × List Char)
  | '-' :: rest => signedNumber true rest
  | c :: rest => if c.isDigit then signedNumber false (c :: rest) else .error .noValue
  | [] => .error .endInValue

end ExtractionPrompt.Json
