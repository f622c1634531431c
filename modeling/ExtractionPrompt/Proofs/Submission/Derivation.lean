import ExtractionPrompt.Proofs.Key.Words
import ExtractionPrompt.Submission.Derivation

/-!
What derivation does to the keys of a config.  A field without a key gets the key of its label, and
that is empty when the label is wordless; every other field keeps its own.  The count is of the
labels that were used: the wordless ones are in it too, and a later call counts them once more.
-/

namespace ExtractionPrompt

theorem derivedKey_of_ne {key : String} (label : Option String) (keyed : key ≠ "") :
    derivedKey key label = key := by
  cases label with
  | none => rfl
  | some label => exact if_neg keyed

theorem wantsKey_of_ne {key : String} (label : Option String) (keyed : key ≠ "") :
    wantsKey key label = false := by
  simp [wantsKey, keyed]

theorem SimpleField.deriveKey_of_ne {f : SimpleField} (keyed : f.key ≠ "") : f.deriveKey = f := by
  rw [deriveKey, derivedKey_of_ne f.label keyed]

theorem DetailedField.deriveKey_of_ne {f : DetailedField} (keyed : f.key ≠ "") :
    f.deriveKey = f := by
  rw [deriveKey, derivedKey_of_ne f.label keyed]

/-- A field has no key, and no label that one can be derived from. -/
def Unkeyable (key : String) (label : Option String) : Prop :=
  key = "" ∧ ∀ l ∈ label, Key.normalize l = ""

instance (key : String) (label : Option String) : Decidable (Unkeyable key label) :=
  inferInstanceAs (Decidable (key = "" ∧ ∀ l ∈ label, Key.normalize l = ""))

theorem derivedKey_of_unkeyable {key : String} {label : Option String}
    (unkeyable : Unkeyable key label) :
    derivedKey key label = "" := by
  obtain ⟨rfl, wordless⟩ := unkeyable
  cases label with
  | none => rfl
  | some label => exact wordless label rfl

theorem derivedKey_eq_empty_iff {key : String} {label : Option String} :
    derivedKey key label = "" ↔ Unkeyable key label := by
  refine ⟨?_, derivedKey_of_unkeyable⟩
  intro empty
  cases label with
  | none => exact ⟨empty, by simp⟩
  | some label =>
    by_cases without : key = ""
    · rw [derivedKey, if_pos without] at empty
      exact ⟨without, by simpa using empty⟩
    · rw [derivedKey, if_neg without] at empty
      exact absurd empty without

/-- A field that had no key has one now. -/
def gainsKey (old new : String) : Bool := old == "" && new != ""

/-- A field has no key, and a label that gives it none. -/
def staysUnkeyed (key : String) (label : Option String) : Bool :=
  key == "" && label.any fun l => Key.normalize l == ""

/-- A label that is used gives its field a key, or leaves it without one. -/
theorem ite_wantsKey_eq_add (key : String) (label : Option String) :
    (if wantsKey key label then 1 else 0) =
      (if gainsKey key (derivedKey key label) then 1 else 0) +
        if staysUnkeyed key label then 1 else 0 := by
  cases label with
  | none =>
    by_cases without : key = "" <;> simp [wantsKey, gainsKey, staysUnkeyed, derivedKey, without]
  | some label =>
    by_cases without : key = ""
    · by_cases wordless : Key.normalize label = "" <;>
        simp [wantsKey, gainsKey, staysUnkeyed, derivedKey, without, wordless]
    · simp [wantsKey, gainsKey, staysUnkeyed, without]

/-- After derivation only those labels are used again that gave no key. -/
theorem wantsKey_derivedKey (key : String) (label : Option String) :
    wantsKey (derivedKey key label) label = staysUnkeyed key label := by
  cases label with
  | none => simp [wantsKey, staysUnkeyed]
  | some label =>
    by_cases without : key = ""
    · simp [wantsKey, staysUnkeyed, derivedKey, without]
    · simp [wantsKey, staysUnkeyed, derivedKey, without]

theorem countP_wantsKey (keys : List String) (labels : List (Option String)) :
    (keys.zip labels).countP (fun p => wantsKey p.1 p.2) =
      (keys.zip (keys.zipWith derivedKey labels)).countP (fun p => gainsKey p.1 p.2) +
        (keys.zip labels).countP fun p => staysUnkeyed p.1 p.2 := by
  induction keys generalizing labels with
  | nil => simp
  | cons key rest ih =>
    cases labels with
    | nil => simp
    | cons label more =>
      have here := ite_wantsKey_eq_add key label
      simp only [List.zip_cons_cons, List.zipWith_cons_cons, List.countP_cons, ih]
      rw [here, Nat.add_add_add_comm]

theorem countP_wantsKey_derivedKey (keys : List String) (labels : List (Option String)) :
    ((keys.zipWith derivedKey labels).zip labels).countP (fun p => wantsKey p.1 p.2) =
      (keys.zip labels).countP fun p => staysUnkeyed p.1 p.2 := by
  induction keys generalizing labels with
  | nil => simp
  | cons key rest ih =>
    cases labels with
    | nil => simp
    | cons label more =>
      simp only [List.zip_cons_cons, List.zipWith_cons_cons, List.countP_cons, ih,
        wantsKey_derivedKey]

namespace Config

theorem version_deriveKeys (c : Config) : c.deriveKeys.version = c.version := by
  cases c <;> rfl

theorem name_deriveKeys (c : Config) : c.deriveKeys.name = c.name := by
  cases c <;> rfl

theorem description_deriveKeys (c : Config) : c.deriveKeys.description = c.description := by
  cases c <;> rfl

theorem keys_deriveKeys (c : Config) : c.deriveKeys.keys = c.keys.zipWith derivedKey c.labels := by
  cases c with
  | simple body =>
    simp [deriveKeys, keys, labels, SimpleField.deriveKey, List.zipWith_map, Function.comp_def]
  | detailed body =>
    simp [deriveKeys, keys, labels, DetailedField.deriveKey, List.zipWith_map, Function.comp_def]

theorem labels_deriveKeys (c : Config) : c.deriveKeys.labels = c.labels := by
  cases c with
  | simple body => simp [deriveKeys, labels, SimpleField.deriveKey, Function.comp_def]
  | detailed body => simp [deriveKeys, labels, DetailedField.deriveKey, Function.comp_def]

theorem derivedCount_eq_countP (c : Config) :
    c.derivedCount = (c.keys.zip c.labels).countP fun p => wantsKey p.1 p.2 := by
  cases c with
  | simple body =>
    simp [derivedCount, keys, labels, List.zip_map', List.countP_map, Function.comp_def]
  | detailed body =>
    simp [derivedCount, keys, labels, List.zip_map', List.countP_map, Function.comp_def]

/-- How many fields without a key have one in the later config. -/
def newlyKeyed (before after : Config) : Nat :=
  (before.keys.zip after.keys).countP fun p => gainsKey p.1 p.2

/-- How many fields without a key have a label that gives them none. -/
def unkeyedCount (c : Config) : Nat := (c.keys.zip c.labels).countP fun p => staysUnkeyed p.1 p.2

theorem unkeyedCount_eq_zero_iff (c : Config) :
    c.unkeyedCount = 0 ↔
      ∀ (index : Nat) (label : String), c.keys[index]? = some "" →
        c.labels[index]? = some (some label) → ¬ Key.Wordless label := by
  rw [unkeyedCount, List.countP_eq_zero]
  constructor
  · intro never index label key named wordless
    have member : ("", some label) ∈ c.keys.zip c.labels :=
      List.mem_of_getElem? (List.getElem?_zip_eq_some.2 ⟨key, named⟩)
    refine never _ member ?_
    simpa [staysUnkeyed] using (Key.normalize_eq_empty_iff label).2 wordless
  · rintro each ⟨key, label⟩ member unkeyed
    obtain ⟨index, found⟩ := List.mem_iff_getElem?.1 member
    obtain ⟨here, named⟩ := List.getElem?_zip_eq_some.1 found
    simp only [staysUnkeyed, Bool.and_eq_true, beq_iff_eq, Option.any_eq_true] at unkeyed
    obtain ⟨rfl, l, rfl, empty⟩ := unkeyed
    exact each index l here named ((Key.normalize_eq_empty_iff l).1 empty)

/-- The count is of the fields that have got a key, and besides them of those whose label gave them
none; a second call counts only these.  So it tells how many keys were derived, and a second call
finds nothing to do, exactly when every label of a field without a key has something of a word in
it. -/
theorem derivedCount_accounts (c : Config) :
    c.derivedCount = newlyKeyed c c.deriveKeys + c.unkeyedCount ∧
      c.deriveKeys.derivedCount = c.unkeyedCount ∧
      ((c.derivedCount = newlyKeyed c c.deriveKeys ∧ c.deriveKeys.derivedCount = 0) ↔
        ∀ (index : Nat) (label : String), c.keys[index]? = some "" →
          c.labels[index]? = some (some label) → ¬ Key.Wordless label) := by
  have first : c.derivedCount = newlyKeyed c c.deriveKeys + c.unkeyedCount := by
    rw [derivedCount_eq_countP, newlyKeyed, keys_deriveKeys, countP_wantsKey, unkeyedCount]
  have second : c.deriveKeys.derivedCount = c.unkeyedCount := by
    rw [derivedCount_eq_countP, labels_deriveKeys, keys_deriveKeys, countP_wantsKey_derivedKey,
      unkeyedCount]
  refine ⟨first, second, ?_⟩
  rw [← unkeyedCount_eq_zero_iff]
  omega

/-- A label in letters that no key has. -/
def foreignLabel : Config := .simple (.ofFields .simple [⟨"", some "姓名", "The full name", none⟩])

/-- The one label is counted by every call, and its field never has a key. -/
theorem derivedCount_ne_newlyKeyed :
    ¬ ∀ c : Config, c.derivedCount = newlyKeyed c c.deriveKeys ∧ c.deriveKeys.derivedCount = 0 := by
  intro each
  exact absurd (each foreignLabel) (by decide +kernel)

end Config

end ExtractionPrompt
