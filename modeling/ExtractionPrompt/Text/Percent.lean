import ExtractionPrompt.Text.Numeral

/-!
Percent encoding: `%` and two hexadecimal digits stand for one byte of the text's UTF-8 form.
-/

namespace ExtractionPrompt.Text

def utf8Bytes (c : Char) : List UInt8 := (String.singleton c).toUTF8.toList

/-- A percent sign that two hexadecimal digits do not follow stands for itself. -/
def percentBytes : List Char → List UInt8
  | '%' :: a :: b :: rest =>
    match hexValue? a, hexValue? b with
    | some high, some low => UInt8.ofNat (16 * high + low) :: percentBytes rest
    | _, _ => utf8Bytes '%' ++ percentBytes (a :: b :: rest)
  | c :: rest => utf8Bytes c ++ percentBytes rest
  | [] => []

/-- No text when the bytes are not well-formed UTF-8. -/
def percentDecode? (s : List Char) : Option String :=
  String.fromUTF8? ⟨(percentBytes s).toArray⟩

end ExtractionPrompt.Text
