/-!
Two classes of blank characters.  `isWhiteSpace` is the Unicode property White_Space.
`isLabelBlank` is what a form client's pattern `\s` matches in a label: the same class without the
next-line control and with the byte order mark.
-/

namespace ExtractionPrompt.Text

def isWhiteSpace (c : Char) : Bool :=
  let n := c.toNat
  (0x09 ≤ n && n ≤ 0x0D) || n == 0x20 || n == 0x85 || n == 0xA0 || n == 0x1680 ||
    (0x2000 ≤ n && n ≤ 0x200A) || n == 0x2028 || n == 0x2029 || n == 0x202F ||
    n == 0x205F || n == 0x3000

def isLabelBlank (c : Char) : Bool :=
  (isWhiteSpace c && c.toNat != 0x85) || c.toNat == 0xFEFF

/-- Drops the longest run of characters in the class from either end. -/
def trimBy (inClass : Char → Bool) (s : List Char) : List Char :=
  ((s.dropWhile inClass).reverse.dropWhile inClass).reverse

theorem trimBy_prefix (inClass : Char → Bool) (s : List Char) :
    trimBy inClass s <+: s.dropWhile inClass := by
  have h := List.dropWhile_suffix inClass (l := (s.dropWhile inClass).reverse)
  simpa [trimBy] using List.reverse_prefix.2 h

theorem head?_trimBy (inClass : Char → Bool) (s : List Char) (c : Char)
    (first : (trimBy inClass s).head? = some c) : inClass c = false := by
  obtain ⟨rest, split⟩ := trimBy_prefix inClass s
  have h : (s.dropWhile inClass).head? = some c := by
    rw [← split, List.head?_append, first]
    rfl
  have := List.head?_dropWhile_not inClass s
  rw [h] at this
  simpa using this

theorem getLast?_trimBy (inClass : Char → Bool) (s : List Char) (c : Char)
    (last : (trimBy inClass s).getLast? = some c) : inClass c = false := by
  rw [trimBy, List.getLast?_reverse] at last
  have := List.head?_dropWhile_not inClass (s.dropWhile inClass).reverse
  rw [last] at this
  simpa using this

def trim (s : String) : String :=
  String.ofList (trimBy isWhiteSpace s.toList)

end ExtractionPrompt.Text
