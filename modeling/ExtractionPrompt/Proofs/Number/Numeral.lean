import ExtractionPrompt.Json.Printer

/-!
What numerals are made of.  In every layout a number is written with digits, signs, the point and
the mark of the exponent, so no numeral holds a line break or a bracket.
-/

namespace ExtractionPrompt

namespace Number

def isNumeralChar (c : Char) : Bool := c.isDigit || c == '-' || c == '+' || c == '.' || c == 'e'

theorem isNumeralChar_of_mem_toDigits {n : Nat} {c : Char} (member : c ∈ Nat.toDigits 10 n) :
    isNumeralChar c = true := by
  simp [isNumeralChar, Nat.isDigit_of_mem_toDigits (by decide) (by decide) member]

theorem isNumeralChar_of_mem_zeros {n : Nat} {c : Char} (member : c ∈ zeros n) :
    isNumeralChar c = true := by
  rw [List.eq_of_mem_replicate member]
  rfl

theorem isNumeralChar_of_mem_shortest {x : Binary64} {tie : Tie} {c : Char}
    (member : c ∈ (x.shortest tie).digits) :
    isNumeralChar c = true := by
  unfold Binary64.shortest at member
  split at member
  · rw [List.mem_singleton.1 member]
    rfl
  · apply isNumeralChar_of_mem_toDigits
    simp only [dropTrailingZeros, List.mem_reverse] at member
    exact List.mem_reverse.1 ((List.dropWhile_sublist _).subset member)

theorem isNumeralChar_of_mem_positionalText {pointZero : Bool} {d : Digits} {c : Char}
    (digits : ∀ c ∈ d.digits, isNumeralChar c = true) (member : c ∈ positionalText pointZero d) :
    isNumeralChar c = true := by
  have fraction : ∀ c ∈ (if pointZero then ['.', '0'] else []), isNumeralChar c = true := by
    rw [← List.all_eq_true]
    cases pointZero <;> decide
  unfold positionalText at member
  dsimp only at member
  split at member
  · simp only [List.cons_append, List.mem_cons, List.mem_append] at member
    rcases member with rfl | rfl | zero | digit
    · rfl
    · rfl
    · exact isNumeralChar_of_mem_zeros zero
    · exact digits c digit
  · split at member
    · simp only [List.mem_append] at member
      rcases member with (digit | zero) | rest
      · exact digits c digit
      · exact isNumeralChar_of_mem_zeros zero
      · exact fraction c rest
    · simp only [List.mem_append, List.mem_cons] at member
      rcases member with digit | rfl | digit
      · exact digits c (List.mem_of_mem_take digit)
      · rfl
      · exact digits c (List.mem_of_mem_drop digit)

theorem isNumeralChar_of_mem_exponentText {d : Digits} {c : Char}
    (digits : ∀ c ∈ d.digits, isNumeralChar c = true)
    (member : c ∈ exponentText d) : isNumeralChar c = true := by
  have power : ∀ c ∈ 'e' :: (if d.exponent < 0 then '-' else '+') ::
      Nat.toDigits 10 d.exponent.natAbs, isNumeralChar c = true := by
    intro c member
    rcases List.mem_cons.1 member with rfl | behind
    · rfl
    rcases List.mem_cons.1 behind with rfl | digit
    · split <;> rfl
    · exact isNumeralChar_of_mem_toDigits digit
  unfold exponentText at member
  dsimp only at member
  split at member
  · exact power c member
  · rename_i lead spelled
    rcases List.mem_cons.1 member with rfl | rest
    · exact digits c (by simp [spelled])
    · exact power c rest
  · rename_i lead rest _ spelled
    simp only [List.cons_append, List.mem_cons, List.mem_append] at member
    rcases member with rfl | rfl | digit | last
    · exact digits c (by simp [spelled])
    · rfl
    · exact digits c (by simp [spelled, digit])
    · exact power c (by simpa using last)

theorem isNumeralChar_of_mem_text {x : Binary64} {layout : Layout} {c : Char}
    (member : c ∈ x.text layout) :
    isNumeralChar c = true := by
  have digits : ∀ c ∈ (x.shortest layout.tie).digits, isNumeralChar c = true :=
    fun _ => isNumeralChar_of_mem_shortest
  have magnitude : ∀ c ∈ (if layout.positional (x.shortest layout.tie).exponent
      then positionalText layout.pointZero (x.shortest layout.tie)
      else exponentText (x.shortest layout.tie)), isNumeralChar c = true := by
    intro c member
    split at member
    · exact isNumeralChar_of_mem_positionalText digits member
    · exact isNumeralChar_of_mem_exponentText digits member
  unfold Binary64.text at member
  dsimp only at member
  split at member
  · rcases List.mem_cons.1 member with rfl | rest
    · rfl
    · exact magnitude c rest
  · exact magnitude c member

end Number

open Number

theorem isNumeralChar_of_mem_jsonNumber {n : JsonNumber} {c : Char} (member : c ∈ n.text) :
    isNumeralChar c = true := by
  cases n with
  | integer n =>
    rcases List.mem_append.1 member with sign | digit
    · split at sign
      · rw [List.mem_singleton.1 sign]
        rfl
      · cases sign
    · exact isNumeralChar_of_mem_toDigits digit
  | binary x => exact isNumeralChar_of_mem_text member

end ExtractionPrompt
