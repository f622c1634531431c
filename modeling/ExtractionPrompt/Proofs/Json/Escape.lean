import ExtractionPrompt.Json.Reader
import ExtractionPrompt.Json.Printer

/-!
Strings in JSON text.  The reader undoes the escaping of every character, so a written string is
read as it was.
-/

namespace ExtractionPrompt.Json

theorem hexValue?_hexDigit (n : Nat) (small : n < 16) : Text.hexValue? (hexDigit n) = some n := by
  revert n; decide

theorem escaped_control (c : Char) (control : c.toNat < 0x20) (s : List Char) :
    escaped ('u' :: '0' :: '0' :: hexDigit (c.toNat / 16) :: hexDigit (c.toNat % 16) :: s) =
      .ok (c, s) := by
  have leading : Text.hexValue? '0' = some 0 := rfl
  have high := hexValue?_hexDigit (c.toNat / 16) (by omega)
  have low := hexValue?_hexDigit (c.toNat % 16) (by omega)
  have unit : hexUnit ('0' :: '0' :: hexDigit (c.toNat / 16) :: hexDigit (c.toNat % 16) :: s) =
      .ok (c.toNat, s) := by
    simp only [hexUnit, leading, high, low]
    congr 2
    omega
  have small : c.toNat < 0xD800 := by omega
  simp [escaped, unit, small, bind, Except.bind, Char.ofNat_toNat]

/-- A character is either written as it is or behind a backslash, from which it is read back. -/
theorem escapeChar_cases (c : Char) :
    (escapeChar c = [c] ∧ c ≠ '"' ∧ c ≠ '\\' ∧ ¬ c.toNat < 0x20) ∨
      ∃ t, escapeChar c = '\\' :: t ∧ ∀ s, escaped (t ++ s) = .ok (c, s) := by
  unfold escapeChar
  by_cases quote : c = '"'
  · exact .inr ⟨['"'], by simp [quote], fun s => by simp [quote, escaped]⟩
  by_cases backslash : c = '\\'
  · exact .inr ⟨['\\'], by simp [backslash], fun s => by simp [backslash, escaped]⟩
  by_cases newline : c = '\n'
  · exact .inr ⟨['n'], by simp [newline], fun s => by simp [newline, escaped]⟩
  by_cases carriage : c = '\r'
  · exact .inr ⟨['r'], by simp [carriage], fun s => by simp [carriage, escaped]⟩
  by_cases tab : c = '\t'
  · exact .inr ⟨['t'], by simp [tab], fun s => by simp [tab, escaped]⟩
  by_cases backspace : c = '\x08'
  · exact .inr ⟨['b'], by simp [backspace], fun s => by simp [backspace, escaped]⟩
  by_cases feed : c = '\x0C'
  · exact .inr ⟨['f'], by simp [feed], fun s => by simp [feed, escaped]⟩
  by_cases control : c.toNat < 0x20
  · refine .inr ⟨['u', '0', '0', hexDigit (c.toNat / 16), hexDigit (c.toNat % 16)], ?_,
      escaped_control c control⟩
    simp [*]
  · exact .inl ⟨by simp [*], quote, backslash, control⟩

theorem stringRest_escape (text rest : List Char) (fuel : Nat) (enough : text.length < fuel) :
    stringRest fuel (escape text ++ '"' :: rest) = .ok (text, rest) := by
  induction text generalizing fuel with
  | nil =>
    obtain ⟨n, rfl⟩ := Nat.exists_eq_succ_of_ne_zero (by omega : fuel ≠ 0)
    rfl
  | cons c more ih =>
    obtain ⟨n, rfl⟩ := Nat.exists_eq_succ_of_ne_zero (by omega : fuel ≠ 0)
    have later := ih n (by simp only [List.length_cons] at enough; omega)
    have split : escape (c :: more) ++ '"' :: rest =
        escapeChar c ++ (escape more ++ '"' :: rest) := by
      simp [escape]
    rw [split]
    rcases escapeChar_cases c with ⟨bare, quote, backslash, control⟩ | ⟨t, behind, back⟩
    · simp [bare, stringRest, control, later, bind, Except.bind]
    · simp [behind, stringRest, back, later, bind, Except.bind]

theorem length_le_length_escape (text : List Char) : text.length ≤ (escape text).length := by
  induction text with
  | nil => simp [escape]
  | cons c more ih =>
    have one : 1 ≤ (escapeChar c).length := by
      rcases escapeChar_cases c with ⟨bare, -⟩ | ⟨t, behind, -⟩
      · simp [bare]
      · simp [behind]
    have split : (escape (c :: more)).length = (escapeChar c).length + (escape more).length := by
      simp [escape]
    rw [split, List.length_cons]
    omega

theorem readString_escape (s : String) (rest : List Char) :
    readString (escape s.toList ++ '"' :: rest) = .ok (s, rest) := by
  have length := length_le_length_escape s.toList
  unfold readString
  rw [stringRest_escape s.toList rest
    _ (by simp only [List.length_append, List.length_cons]; omega)]
  simp [Except.map]

theorem newline_notMem_stringText (s : String) : '\n' ∉ stringText s := by
  simp [stringText, newline_notMem_escape]

end ExtractionPrompt.Json
