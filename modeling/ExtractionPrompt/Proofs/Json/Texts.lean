import ExtractionPrompt.Proofs.Json.Escape
import ExtractionPrompt.Proofs.Number.Numeral
import ExtractionPrompt.Proofs.Text.Excerpt

/-!
The texts inside a value.  A compact text of a value has no line break, however its strings and its
property names break, for all of them are escaped.
-/

namespace ExtractionPrompt.Json

mutual

/-- The strings and the property names of a value, at any depth. -/
def texts : Json → List String
  | string s => [s]
  | array items => textsOfItems items
  | object properties => textsOfProperties properties
  | null => []
  | bool _ => []
  | number _ => []

def textsOfItems : List Json → List String
  | [] => []
  | v :: rest => texts v ++ textsOfItems rest

def textsOfProperties : List (String × Json) → List String
  | [] => []
  | (name, v) :: rest => name :: (texts v ++ textsOfProperties rest)

end

theorem newline_notMem_number (n : JsonNumber) : '\n' ∉ n.text := by
  intro member
  exact absurd (isNumeralChar_of_mem_jsonNumber member) (by decide)

mutual

theorem newline_notMem_compact (v : Json) : '\n' ∉ compact v := by
  match v with
  | array (v :: rest) => simp [compact, newline_notMem_compact, newline_notMem_compactItems]
  | object ((name, v) :: rest) =>
    simp [compact, newline_notMem_stringText, newline_notMem_compact,
      newline_notMem_compactProperties]
  | number n => simp [compact, newline_notMem_number]
  | string s => simp [compact, newline_notMem_stringText]
  | null | bool true | bool false | array [] | object [] => simp [compact]

theorem newline_notMem_compactItems (items : List Json) : '\n' ∉ compactItems items := by
  match items with
  | [] => simp [compactItems]
  | v :: rest => simp [compactItems, newline_notMem_compact, newline_notMem_compactItems]

theorem newline_notMem_compactProperties (properties : List (String × Json)) :
    '\n' ∉ compactProperties properties := by
  match properties with
  | [] => simp [compactProperties]
  | (name, v) :: rest =>
    simp [compactProperties, newline_notMem_stringText, newline_notMem_compact,
      newline_notMem_compactProperties]

end

/-- A mark whose characters are written as they are starts an escaped text exactly when it starts
the text. -/
theorem prefix_escape_iff {mark : List Char} (bare : ∀ c ∈ mark, escapeChar c = [c])
    (s : List Char) :
    mark <+: escape s ↔ mark <+: s := by
  induction mark generalizing s with
  | nil => simp
  | cons d mark ih =>
    have first : escapeChar d = [d] := bare d List.mem_cons_self
    cases s with
    | nil => simp [escape]
    | cons c s =>
      have split : escape (c :: s) = escapeChar c ++ escape s := by
        simp [escape]
      rw [split]
      rcases escapeChar_cases c with ⟨same, -⟩ | ⟨t, behind, -⟩
      · rw [same, List.singleton_append, List.cons_prefix_cons, List.cons_prefix_cons,
          ih fun e member => bare e (List.mem_cons_of_mem d member)]
      · have notBackslash : d ≠ '\\' := by
          rintro rfl
          exact absurd first (by decide)
        have other : d ≠ c := by
          rintro rfl
          rw [first] at behind
          exact notBackslash (List.cons.inj behind).1
        rw [behind, List.cons_append, List.cons_prefix_cons, List.cons_prefix_cons]
        simp [notBackslash, other]

theorem brace_notMem_escapeChar {c : Char} (other : c ≠ '{') : '{' ∉ escapeChar c := by
  have digit : ∀ n < 16, hexDigit n ≠ '{' := by decide
  by_cases control : c.toNat < 0x20
  · have := digit (c.toNat / 16) (by omega)
    have := digit (c.toNat % 16) (by omega)
    simp only [escapeChar]
    repeat' split
    all_goals grind
  · simp only [escapeChar, if_neg control]
    repeat' split
    all_goals grind

/-- Escaping neither makes nor breaks an occurrence of a mark that starts with a bracket. -/
theorem infix_escape_iff {mark : List Char} (bare : ∀ c ∈ '{' :: mark, escapeChar c = [c])
    (s : List Char) :
    '{' :: mark <:+: escape s ↔ '{' :: mark <:+: s := by
  induction s with
  | nil => simp [escape]
  | cons c s ih =>
    have split : escape (c :: s) = escapeChar c ++ escape s := by
      simp [escape]
    by_cases brace : c = '{'
    · subst brace
      have start := prefix_escape_iff bare ('{' :: s)
      have here : escapeChar '{' = ['{'] := bare '{' List.mem_cons_self
      rw [split, here, List.singleton_append] at start ⊢
      rw [List.infix_cons_iff, List.infix_cons_iff, ih, start]
    · have fresh := brace_notMem_escapeChar brace
      rw [split, List.infix_cons_iff, List.cons_prefix_cons, ← ih]
      simp only [Ne.symm brace, false_and, false_or]
      constructor
      · exact Text.infix_of_infix_append fresh
      · exact fun inside => inside.trans (List.suffix_append _ _).isInfix

end ExtractionPrompt.Json
