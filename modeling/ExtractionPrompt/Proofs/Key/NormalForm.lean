import ExtractionPrompt.Key.Basic
import Mathlib.Data.List.Chain

/-!
Normal forms of keys.  A valid key passes through every step of the normalizer unchanged, and
whatever comes out at the end is valid: the valid keys are the fixed points of the normalizer, and
the keys that it gives.
-/

namespace ExtractionPrompt

namespace Text

/-- The code points of the label blanks. -/
def labelBlanks : List Nat := [
  0x09, 0x0A, 0x0B, 0x0C, 0x0D, 0x20, 0xA0, 0x1680, 0x2000, 0x2001, 0x2002, 0x2003, 0x2004, 0x2005,
  0x2006, 0x2007, 0x2008, 0x2009, 0x200A, 0x2028, 0x2029, 0x202F, 0x205F, 0x3000, 0xFEFF]

theorem mem_labelBlanks {c : Char} (blank : isLabelBlank c = true) : c.toNat ∈ labelBlanks := by
  simp only [isLabelBlank, isWhiteSpace, Bool.or_eq_true, Bool.and_eq_true,
    decide_eq_true_eq, beq_iff_eq, bne_iff_ne] at blank
  simp only [labelBlanks, List.mem_cons, List.not_mem_nil, or_false]
  omega

theorem lowercase_of_isLabelBlank {c : Char} (blank : isLabelBlank c = true) :
    lowercase c = [c] := by
  have all : ∀ n ∈ labelBlanks, lowercase (Char.ofNat n) = [Char.ofNat n] := by decide +kernel
  have here := all c.toNat (mem_labelBlanks blank)
  rwa [Char.ofNat_toNat] at here

/-- A text with other characters at both ends is trimmed already. -/
theorem trimBy_eq_self {inClass : Char → Bool} {s : List Char}
    (first : ∀ c, s.head? = some c → inClass c = false)
    (last : ∀ c, s.getLast? = some c → inClass c = false) : trimBy inClass s = s := by
  have dropWhile_eq_self : ∀ t : List Char, (∀ c, t.head? = some c → inClass c = false) →
      t.dropWhile inClass = t := by
    intro t other
    cases t with
    | nil => rfl
    | cons c rest => exact List.dropWhile_cons_of_neg (by simpa using other c rfl)
  rw [trimBy, dropWhile_eq_self s first, dropWhile_eq_self s.reverse, List.reverse_reverse]
  rwa [List.head?_reverse]

theorem trimBy_within (inClass : Char → Bool) (s : List Char) : trimBy inClass s <:+: s := by
  have front := trimBy_prefix inClass s
  exact front.isInfix.trans (List.dropWhile_suffix inClass).isInfix

end Text

namespace Key

/-- The characters of a word: those of a key, the underscore apart. -/
def isWordChar (c : Char) : Bool := ('a' ≤ c && c ≤ 'z') || ('0' ≤ c && c ≤ '9')

theorem isKeyChar_eq (c : Char) : isKeyChar c = (isWordChar c || c == '_') := rfl

theorem toNat_lt_of_isKeyChar {c : Char} (inKey : isKeyChar c = true) : c.toNat < 128 := by
  simp only [isKeyChar, Bool.or_eq_true, Bool.and_eq_true, decide_eq_true_eq, beq_iff_eq] at inKey
  rcases inKey with (⟨-, atMost⟩ | ⟨-, atMost⟩) | rfl
  · exact Nat.lt_of_le_of_lt atMost (by decide)
  · exact Nat.lt_of_le_of_lt atMost (by decide)
  · decide

theorem lowercase_of_isKeyChar {c : Char} (inKey : isKeyChar c = true) :
    Text.lowercase c = [c] := by
  have all : ∀ n < 128, isKeyChar (Char.ofNat n) = true →
      Text.lowercase (Char.ofNat n) = [Char.ofNat n] := by decide +kernel
  have here := all c.toNat (toNat_lt_of_isKeyChar inKey)
  rw [Char.ofNat_toNat] at here
  exact here inKey

theorem not_isLabelBlank_of_isKeyChar {c : Char} (inKey : isKeyChar c = true) :
    Text.isLabelBlank c = false := by
  rw [Bool.eq_false_iff]
  intro blank
  have apart : ∀ n ∈ Text.labelBlanks, isKeyChar (Char.ofNat n) = false := by decide
  have here := apart c.toNat (Text.mem_labelBlanks blank)
  rw [Char.ofNat_toNat, inKey] at here
  cases here

/-- No two underscores stand next to each other. -/
def Single (s : List Char) : Prop := s.IsChain fun c d => c = '_' → d ≠ '_'

theorem singleUnderscores_iff (s : List Char) : singleUnderscores s = true ↔ Single s := by
  induction s with
  | nil => simp [singleUnderscores, Single]
  | cons c rest ih =>
    cases rest with
    | nil => by_cases under : c = '_' <;> simp [singleUnderscores, Single, under]
    | cons d more =>
      rw [Single, List.isChain_cons_cons, ← Single, ← ih]
      by_cases here : c = '_' ∧ d = '_'
      · obtain ⟨rfl, rfl⟩ := here
        simp [singleUnderscores]
      · have apart : c = '_' → d ≠ '_' := fun left right => here ⟨left, right⟩
        rw [singleUnderscores]
        · exact ⟨fun single => ⟨apart, single⟩, And.right⟩
        · rintro rest rfl same
          cases same
          exact apart rfl rfl

/-- What a valid key is made of. -/
theorem isValidChars_iff (key : List Char) :
    isValidChars key = true ↔
      (∀ c ∈ key, isKeyChar c = true) ∧ key.head? ≠ some '_' ∧ key.getLast? ≠ some '_' ∧
      Single key := by
  simp only [isValidChars, Bool.and_eq_true, List.all_eq_true, bne_iff_ne,
    singleUnderscores_iff, and_assoc]

theorem joinBlanks_eq_self {s : List Char} (inRun : Bool)
    (unblank : ∀ c ∈ s, Text.isLabelBlank c = false) :
    joinBlanks inRun s = s := by
  induction s generalizing inRun with
  | nil => rfl
  | cons c rest ih =>
    obtain ⟨here, later⟩ := List.forall_mem_cons.1 unblank
    rw [joinBlanks, here, if_neg Bool.false_ne_true, ih false later]

/-- Runs of one are kept; the run before ends at another character. -/
theorem collapse_eq_self {s : List Char} (inRun : Bool) (single : Single s)
    (ended : inRun = true → s.head? ≠ some '_') : collapse '_' inRun s = s := by
  induction s generalizing inRun with
  | nil => rfl
  | cons c rest ih =>
    rw [Single, List.isChain_cons] at single
    obtain ⟨next, later⟩ := single
    by_cases under : c = '_'
    · subst under
      have first : inRun = false := by
        rw [Bool.eq_false_iff]
        exact fun inside => ended inside rfl
      have other : rest.head? ≠ some '_' := fun same => next '_' same rfl rfl
      rw [collapse, if_pos rfl, first, if_neg Bool.false_ne_true, ih true later fun _ => other]
    · rw [collapse, if_neg under, ih false later (by simp)]

theorem collapse_sublist (target : Char) (inRun : Bool) (s : List Char) :
    (collapse target inRun s).Sublist s := by
  induction s generalizing inRun with
  | nil => exact .slnil
  | cons c rest ih =>
    rw [collapse]
    split
    · split
      · exact (ih true).cons c
      · exact (ih true).cons_cons c
    · exact (ih false).cons_cons c

theorem collapse_of_notMem {target : Char} {s : List Char} (absent : target ∉ s) :
    collapse target false s = s := by
  induction s with
  | nil => rfl
  | cons c rest ih =>
    obtain ⟨other, later⟩ := not_or.1 (mt List.mem_cons.2 absent)
    rw [collapse, if_neg (Ne.symm other), ih later]

/-- No hyphen is a key character, so only runs of underscores are left to collapse. -/
theorem normalizeChars_eq_trimBy (label : List Char) :
    normalizeChars label = Text.trimBy (· == '_') (collapse '_' false
      ((joinBlanks false ((Text.trimBy Text.isLabelBlank label).flatMap Text.lowercase)).filter
        isKeyChar)) := by
  have absent (s : List Char) : '-' ∉ collapse '_' false (s.filter isKeyChar) := by
    intro hyphen
    have kept := List.mem_filter.1 ((collapse_sublist _ _ _).subset hyphen)
    exact absurd kept.2 (by decide)
  rw [normalizeChars, collapse_of_notMem (absent _)]

/-- Every step of the normalizer leaves a valid key as it is. -/
theorem normalizeChars_of_isValidChars {key : List Char} (valid : isValidChars key = true) :
    normalizeChars key = key := by
  obtain ⟨chars, first, last, single⟩ := (isValidChars_iff key).1 valid
  have unblank : ∀ c ∈ key, Text.isLabelBlank c = false := fun c member =>
    not_isLabelBlank_of_isKeyChar (chars c member)
  have trimmed : Text.trimBy Text.isLabelBlank key = key :=
    Text.trimBy_eq_self (fun c at_head => unblank c (List.mem_of_mem_head? at_head))
      fun c at_last => unblank c (List.mem_of_mem_getLast? at_last)
  have lowered : key.flatMap Text.lowercase = key := by
    rw [List.flatMap_congr fun c member => lowercase_of_isKeyChar (chars c member),
      List.flatMap_singleton']
  have kept : key.filter isKeyChar = key := List.filter_eq_self.2 chars
  have stripped : Text.trimBy (· == '_') key = key := by
    apply Text.trimBy_eq_self
    · rintro c at_head
      simpa using fun same : c = '_' => first (same ▸ at_head)
    · rintro c at_last
      simpa using fun same : c = '_' => last (same ▸ at_last)
  rw [normalizeChars_eq_trimBy, trimmed, lowered, joinBlanks_eq_self false unblank, kept,
    collapse_eq_self false single (by simp),
    stripped]

/-- Inside a run, what is left does not start with an underscore. -/
theorem single_collapse (inRun : Bool) (s : List Char) :
    Single (collapse '_' inRun s) ∧ (inRun = true → (collapse '_' inRun s).head? ≠ some '_') := by
  induction s generalizing inRun with
  | nil => simp [collapse, Single]
  | cons c rest ih =>
    by_cases under : c = '_'
    · subst under
      obtain ⟨single, other⟩ := ih true
      rw [collapse, if_pos rfl]
      cases inRun with
      | true => exact ⟨single, other⟩
      | false =>
        rw [if_neg Bool.false_ne_true, Single, List.isChain_cons]
        refine ⟨⟨?_, single⟩, by simp⟩
        rintro d at_head - rfl
        exact other rfl at_head
    · rw [collapse, if_neg under, Single, List.isChain_cons]
      exact ⟨⟨fun d _ same => absurd same under, (ih false).1⟩, fun _ => by simpa using under⟩

theorem isValidChars_normalizeChars (label : List Char) :
    isValidChars (normalizeChars label) = true := by
  rw [isValidChars_iff, normalizeChars_eq_trimBy]
  generalize joinBlanks false ((Text.trimBy Text.isLabelBlank label).flatMap Text.lowercase) =
    joined
  refine ⟨?chars, ?first, ?last, ?single⟩
  case chars =>
    intro c member
    have inCollapsed := (Text.trimBy_within _ _).subset member
    exact (List.mem_filter.1 ((collapse_sublist _ _ _).subset inCollapsed)).2
  case first =>
    intro first
    have other := Text.head?_trimBy _ _ _ first
    simp at other
  case last =>
    intro last
    have other := Text.getLast?_trimBy _ _ _ last
    simp at other
  case single => exact List.IsChain.infix (single_collapse false _).1 (Text.trimBy_within _ _)

theorem isValid_normalize (label : String) : isValid (normalize label) = true := by
  rw [isValid, normalize, String.toList_ofList]
  exact isValidChars_normalizeChars label.toList

theorem normalize_of_isValid {key : String} (valid : isValid key = true) : normalize key = key := by
  rw [normalize, normalizeChars_of_isValidChars valid, String.ofList_toList]

/-- The validator and the normalizer mean the same by a key: the valid keys are the fixed points of
the normalizer and the keys that it gives, and a second run changes nothing. -/
theorem isValid_iff_normal_form :
    (∀ key, isValid key = true ↔ normalize key = key) ∧
      (∀ label, isValid (normalize label) = true) ∧
      (∀ key, isValid key = true ↔ ∃ label, normalize label = key) ∧
      ∀ label, normalize (normalize label) = normalize label := by
  refine ⟨?fixed, isValid_normalize, ?image, ?idempotent⟩
  case fixed =>
    intro key
    constructor
    · exact normalize_of_isValid
    · intro same
      rw [← same]
      exact isValid_normalize key
  case image =>
    intro key
    constructor
    · intro valid
      exact ⟨key, normalize_of_isValid valid⟩
    · rintro ⟨label, rfl⟩
      exact isValid_normalize label
  case idempotent =>
    intro label
    exact normalize_of_isValid (isValid_normalize label)

end Key

end ExtractionPrompt
