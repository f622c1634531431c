import ExtractionPrompt.Proofs.Json.ReadBack
import ExtractionPrompt.Proofs.Json.Texts
import ExtractionPrompt.Proofs.Text.Token
import ExtractionPrompt.Prompt.Wording

/-!
Where the slot's token can occur.  It starts with two opening brackets and holds neither blanks nor
punctuation, so fixed prose passes it by, a text that is closed by punctuation holds it by itself or
not at all, and neither escaping nor the layout of a JSON value makes one.
-/

namespace ExtractionPrompt

open Json Text

/-- The slot's token occurs in the text. -/
def HoldsSlot (s : List Char) : Prop := Wording.slot.toList <:+: s

/-- The slot's token occurs in one of the texts. -/
def AnyHoldsSlot (texts : List String) : Prop := ∃ s ∈ texts, HoldsSlot s.toList

instance (s : List Char) : Decidable (HoldsSlot s) :=
  inferInstanceAs (Decidable (Wording.slot.toList <:+: s))

instance (texts : List String) : Decidable (AnyHoldsSlot texts) :=
  inferInstanceAs (Decidable (∃ s ∈ texts, HoldsSlot s.toList))

theorem slot_eq_cons :
    Wording.slot.toList = '{' :: '{' :: 'r' :: 'e' :: 's' :: 'u' :: 'm' :: 'e' :: '_' ::
      "content\x7d\x7d".toList := by
  decide

theorem slot_ne_nil : Wording.slot.toList ≠ [] := by
  decide

@[simp] theorem not_holdsSlot_nil : ¬ HoldsSlot [] := by
  intro inside
  exact slot_ne_nil (List.infix_nil.1 inside)

theorem holdsSlot_cons {c : Char} (other : c ≠ '{') (t : List Char) :
    HoldsSlot (c :: t) ↔ HoldsSlot t := by
  rw [HoldsSlot, HoldsSlot, List.infix_cons_iff, slot_eq_cons, List.cons_prefix_cons]
  simp [Ne.symm other]

/-- One opening bracket before something else does not start the token. -/
theorem holdsSlot_brace_cons {d : Char} (other : d ≠ '{') (t : List Char) :
    HoldsSlot ('{' :: d :: t) ↔ HoldsSlot (d :: t) := by
  rw [HoldsSlot, HoldsSlot, List.infix_cons_iff, slot_eq_cons, List.cons_prefix_cons,
    List.cons_prefix_cons]
  simp [Ne.symm other]

theorem holdsSlot_append {front : List Char} (fresh : '{' ∉ front) (t : List Char) :
    HoldsSlot (front ++ t) ↔ HoldsSlot t := by
  induction front with
  | nil => rfl
  | cons c front ih =>
    simp only [List.mem_cons, not_or] at fresh
    rw [List.cons_append, holdsSlot_cons (Ne.symm fresh.1), ih fresh.2]

theorem not_holdsSlot_of_notMem {s : List Char} (fresh : '{' ∉ s) : ¬ HoldsSlot s := by
  have dropped := holdsSlot_append fresh []
  rw [List.append_nil] at dropped
  rw [dropped]
  exact not_holdsSlot_nil

/-- A character that the token does not have closes a text. -/
theorem holdsSlot_append_cons {c : Char} (fresh : c ∉ Wording.slot.toList) (s t : List Char) :
    HoldsSlot (s ++ c :: t) ↔ HoldsSlot s ∨ HoldsSlot t :=
  infix_append_cons_iff s t slot_ne_nil fresh

@[simp] theorem not_anyHoldsSlot_nil : ¬ AnyHoldsSlot [] := by
  simp [AnyHoldsSlot]

@[simp] theorem anyHoldsSlot_cons (s : String) (rest : List String) :
    AnyHoldsSlot (s :: rest) ↔ HoldsSlot s.toList ∨ AnyHoldsSlot rest := by
  simp [AnyHoldsSlot]

@[simp] theorem anyHoldsSlot_append (first second : List String) :
    AnyHoldsSlot (first ++ second) ↔ AnyHoldsSlot first ∨ AnyHoldsSlot second := by
  simp only [AnyHoldsSlot, List.mem_append, or_and_right, exists_or]

theorem anyHoldsSlot_flatMap {α : Type} (parts : List α) (texts : α → List String) :
    AnyHoldsSlot (parts.flatMap texts) ↔ ∃ a ∈ parts, AnyHoldsSlot (texts a) := by
  simp only [AnyHoldsSlot, List.mem_flatMap]
  constructor
  · rintro ⟨s, ⟨a, part, member⟩, holds⟩
    exact ⟨a, part, s, member, holds⟩
  · rintro ⟨a, part, s, member, holds⟩
    exact ⟨s, ⟨a, part, member⟩, holds⟩

/-- Parts that are joined by punctuation or breaks hold the token one by one. -/
theorem holdsSlot_intercalate {c : Char} {rest : List Char} (closes : c ∉ Wording.slot.toList)
    (fresh : '{' ∉ rest) (parts : List (List Char)) :
    HoldsSlot ((c :: rest).intercalate parts) ↔
      ∃ s ∈ parts, HoldsSlot s := by
  induction parts with
  | nil => simp
  | cons s more ih =>
    cases more with
    | nil => simp
    | cons next more =>
      rw [List.intercalate_cons_cons, List.append_assoc, List.cons_append,
        holdsSlot_append_cons closes, holdsSlot_append fresh, ih]
      simp

theorem holdsSlot_join {sep : String} {c : Char} {rest : List Char}
    (spelled : sep.toList = c :: rest)
    (closes : c ∉ Wording.slot.toList) (fresh : '{' ∉ rest) (texts : List String) :
    HoldsSlot (sep.intercalate texts).toList ↔ AnyHoldsSlot texts := by
  rw [String.toList_intercalate, spelled, holdsSlot_intercalate closes fresh]
  simp [AnyHoldsSlot]

theorem escapeChar_of_mem_slot {c : Char} (member : c ∈ Wording.slot.toList) :
    escapeChar c = [c] := by
  have each : (Wording.slot.toList.all fun c => escapeChar c == [c]) = true := by decide
  exact eq_of_beq (List.all_eq_true.1 each c member)

theorem holdsSlot_escape (s : List Char) : HoldsSlot (escape s) ↔ HoldsSlot s := by
  have bare : ∀ c ∈ Wording.slot.toList, escapeChar c = [c] := fun c => escapeChar_of_mem_slot
  rw [slot_eq_cons] at bare
  rw [HoldsSlot, HoldsSlot, slot_eq_cons]
  exact infix_escape_iff bare s

theorem holdsSlot_stringText_append (s : String) (t : List Char) :
    HoldsSlot (stringText s ++ t) ↔ HoldsSlot s.toList ∨ HoldsSlot t := by
  rw [stringText, List.append_assoc, List.cons_append, holdsSlot_cons (by decide),
    List.singleton_append, holdsSlot_append_cons (by decide), holdsSlot_escape]

theorem brace_notMem_of_isBlank {blanks : List Char} (blank : ∀ c ∈ blanks, isBlank c = true) :
    '{' ∉ blanks := by
  intro member
  exact absurd (blank '{' member) (by decide)

theorem brace_notMem_number (n : JsonNumber) : '{' ∉ n.text := by
  intro member
  exact absurd (isNumeralChar_of_mem_jsonNumber member) (by decide)

/-- The bracket of an object stands before a blank or a quote. -/
theorem holdsSlot_brace_blanks {blanks : List Char} (blank : ∀ c ∈ blanks, isBlank c = true)
    (s : String) (t : List Char) :
    HoldsSlot ('{' :: (blanks ++ (stringText s ++ t))) ↔ HoldsSlot s.toList ∨ HoldsSlot t := by
  have fresh := brace_notMem_of_isBlank blank
  have quoted := holdsSlot_stringText_append s t
  cases blanks with
  | nil =>
    rw [stringText, List.cons_append, List.cons_append] at quoted ⊢
    rw [List.nil_append, holdsSlot_brace_cons (by decide), quoted]
  | cons c rest =>
    have other : c ≠ '{' := by
      rintro rfl
      exact fresh List.mem_cons_self
    rw [List.cons_append, holdsSlot_brace_cons other, ← List.cons_append,
      holdsSlot_append fresh, quoted]

namespace Json

mutual

/-- The text of a value holds the token exactly when a string or a property name in it does,
whatever stands behind. -/
theorem holdsSlot_spaced_append (p : Spacing) (level : Nat) (v : Json) (t : List Char) :
    HoldsSlot (spaced p level v ++ t) ↔ AnyHoldsSlot v.texts ∨ HoldsSlot t := by
  have gap (level : Nat) := brace_notMem_of_isBlank (p.gap_blank level)
  have afterColon := brace_notMem_of_isBlank p.afterColon_blank
  match v with
  | array (v :: rest) =>
    simp only [spaced, List.cons_append, List.append_assoc, List.nil_append,
      holdsSlot_cons (by decide : '[' ≠ '{'), holdsSlot_append (gap _), holdsSlot_spaced_append,
      holdsSlot_spacedItems_append, holdsSlot_cons (by decide : ']' ≠ '{'), texts, textsOfItems,
      anyHoldsSlot_append, or_assoc]
  | object ((name, v) :: rest) =>
    simp only [spaced, List.cons_append, List.append_assoc, List.nil_append,
      holdsSlot_brace_blanks (p.gap_blank _), holdsSlot_cons (by decide : ':' ≠ '{'),
      holdsSlot_append afterColon, holdsSlot_append (gap _), holdsSlot_spaced_append,
      holdsSlot_spacedProperties_append, holdsSlot_cons (by decide : '}' ≠ '{'), texts,
      textsOfProperties, anyHoldsSlot_cons, anyHoldsSlot_append, or_assoc]
  | string s => simp [spaced, holdsSlot_stringText_append, texts]
  | number n => simp [spaced, holdsSlot_append (brace_notMem_number n), texts]
  | object [] => simp [spaced, holdsSlot_brace_cons, holdsSlot_cons, texts, textsOfProperties]
  | array [] => simp [spaced, holdsSlot_cons, texts, textsOfItems]
  | null | bool true | bool false => simp [spaced, holdsSlot_cons, texts]

theorem holdsSlot_spacedItems_append (p : Spacing) (level : Nat) (items : List Json)
    (t : List Char) :
    HoldsSlot (spacedItems p level items ++ t) ↔
      AnyHoldsSlot (textsOfItems items) ∨ HoldsSlot t := by
  have gap := brace_notMem_of_isBlank (p.gap_blank level)
  match items with
  | [] => simp [spacedItems, textsOfItems]
  | v :: rest =>
    simp only [spacedItems, List.cons_append, List.append_assoc,
      holdsSlot_cons (by decide : ',' ≠ '{'), holdsSlot_append gap, holdsSlot_spaced_append,
      holdsSlot_spacedItems_append, textsOfItems, anyHoldsSlot_append, or_assoc]

theorem holdsSlot_spacedProperties_append (p : Spacing) (level : Nat)
    (properties : List (String × Json)) (t : List Char) :
    HoldsSlot (spacedProperties p level properties ++ t) ↔
      AnyHoldsSlot (textsOfProperties properties) ∨ HoldsSlot t := by
  have gap := brace_notMem_of_isBlank (p.gap_blank level)
  have afterColon := brace_notMem_of_isBlank p.afterColon_blank
  match properties with
  | [] => simp [spacedProperties, textsOfProperties]
  | (name, v) :: rest =>
    simp only [spacedProperties, List.cons_append, List.append_assoc,
      holdsSlot_cons (by decide : ',' ≠ '{'), holdsSlot_append gap, holdsSlot_stringText_append,
      holdsSlot_cons (by decide : ':' ≠ '{'), holdsSlot_append afterColon, holdsSlot_spaced_append,
      holdsSlot_spacedProperties_append, textsOfProperties, anyHoldsSlot_cons,
      anyHoldsSlot_append, or_assoc]

end

theorem holdsSlot_compress (v : Json) : HoldsSlot v.compress.toList ↔ AnyHoldsSlot v.texts := by
  have whole := holdsSlot_spaced_append .none 0 v []
  rw [List.append_nil, spaced_none] at whole
  rw [compress, String.toList_ofList, whole]
  simp

theorem holdsSlot_pretty (v : Json) : HoldsSlot v.pretty.toList ↔ AnyHoldsSlot v.texts := by
  have whole := holdsSlot_spaced_append .lines 0 v []
  rw [List.append_nil, spaced_lines] at whole
  rw [pretty, String.toList_ofList, whole]
  simp

end Json

end ExtractionPrompt
