import ExtractionPrompt.Proofs.Submission.Derivation
import ExtractionPrompt.Proofs.Submission.Issues

/-!
The issues of keys after derivation, told from what was submitted.  A field has one when its key was
given in another form than the normal one, or when it had none and nothing could be derived; no key
that was derived is ever faulted.
-/

namespace ExtractionPrompt

/-- A key that was given and is not in normal form. -/
def Misspelt (key : String) : Prop := key ≠ "" ∧ Key.normalize key ≠ key

instance (key : String) : Decidable (Misspelt key) :=
  inferInstanceAs (Decidable (key ≠ "" ∧ Key.normalize key ≠ key))

theorem not_isValid_of_misspelt {key : String} (misspelt : Misspelt key) :
    Key.isValid key = false := by
  rw [Bool.eq_false_iff]
  exact fun valid => misspelt.2 (Key.normalize_of_isValid valid)

theorem isValid_of_not_misspelt {key : String} (given : key ≠ "") (fine : ¬ Misspelt key) :
    Key.isValid key = true := by
  by_contra invalid
  refine fine ⟨given, fun same => invalid ?_⟩
  rw [← same]
  exact Key.isValid_normalize key

/-- A key that is derived is valid. -/
theorem isValid_derivedKey (label : Option String) : Key.isValid (derivedKey "" label) = true := by
  cases label with
  | none => decide
  | some label => exact Key.isValid_normalize label

namespace Issue

/-- The issue of an empty key.  Its text says that the field has no label. -/
def unkeyed (index : Nat) : Issue :=
  ⟨fieldPath index "key", "is empty and no label was given to derive it from"⟩

def misspelt (index : Nat) (key : String) : Issue :=
  ⟨fieldPath index "key",
    "'" ++ key ++ "' must be lowercase letters, digits, and single inner underscores"⟩

theorem unkeyed_ne_misspelt (index : Nat) (key : String) : unkeyed index ≠ misspelt index key := by
  intro same
  have starts := congrArg (fun i => i.message.toList.head?) same
  simp [unkeyed, misspelt] at starts

theorem ofKey_empty (index : Nat) : ofKey index "" = [unkeyed index] := rfl

theorem ofKey_of_misspelt (index : Nat) {key : String} (fault : Misspelt key) :
    ofKey index key = [misspelt index key] := by
  rw [ofKey, if_neg fault.1, if_neg (by simp [not_isValid_of_misspelt fault]), misspelt]

theorem ofKey_of_isValid (index : Nat) {key : String} (given : key ≠ "")
    (valid : Key.isValid key = true) :
    ofKey index key = [] := by
  rw [ofKey, if_neg given, if_pos valid]

/-- What is wrong with the key of a field after derivation. -/
theorem mem_ofKey_derivedKey_iff {index : Nat} {key : String} {label : Option String} {i : Issue} :
    i ∈ ofKey index (derivedKey key label) ↔
      Misspelt key ∧ i = misspelt index key ∨ Unkeyable key label ∧ i = unkeyed index := by
  by_cases given : key = ""
  · subst given
    have unspelt : ¬ Misspelt "" := fun fault => fault.1 rfl
    by_cases unkeyable : Unkeyable "" label
    · rw [derivedKey_of_unkeyable unkeyable, ofKey_empty]
      simp [unspelt, unkeyable]
    · have derived := mt derivedKey_eq_empty_iff.1 unkeyable
      rw [ofKey_of_isValid index derived (isValid_derivedKey label)]
      simp [unspelt, unkeyable]
  · have keyed : ¬ Unkeyable key label := fun unkeyable => given unkeyable.1
    rw [derivedKey_of_ne label given]
    by_cases fault : Misspelt key
    · rw [ofKey_of_misspelt index fault]
      simp [fault, keyed]
    · rw [ofKey_of_isValid index given (isValid_of_not_misspelt given fault)]
      simp [fault, keyed]

/-- Derivation takes the issue of an empty key away, or leaves the issues of a key as they are. -/
theorem ofKey_derivedKey_sublist (index : Nat) (key : String) (label : Option String) :
    (ofKey index (derivedKey key label)).Sublist (ofKey index key) := by
  by_cases given : key = ""
  · subst given
    by_cases unkeyable : Unkeyable "" label
    · rw [derivedKey_of_unkeyable unkeyable]
    · rw [ofKey_of_isValid index (mt derivedKey_eq_empty_iff.1 unkeyable)
        (isValid_derivedKey label)]
      exact List.nil_sublist _
  · rw [derivedKey_of_ne label given]

theorem path_of_mem_ofKey {index : Nat} {key : String} {i : Issue} (member : i ∈ ofKey index key) :
    i.path = fieldPath index "key" := by
  have named := List.mem_map_of_mem (f := Issue.path) member
  rw [map_path_ofKey] at named
  split at named
  · cases named
  · exact List.mem_singleton.1 named

theorem mem_indexed_iff {α : Type} {issues : Nat → α → List Issue} {start : Nat}
    {parts : List α} {i : Issue} :
    i ∈ indexed issues start parts ↔
      ∃ index a, parts[index]? = some a ∧ i ∈ issues (start + index) a := by
  induction parts generalizing start with
  | nil => simp [indexed]
  | cons a rest ih =>
    rw [indexed, List.mem_append, ih]
    constructor
    · rintro (here | ⟨index, b, found, later⟩)
      · exact ⟨0, a, rfl, here⟩
      · exact ⟨index + 1, b, found, by rwa [Nat.add_right_comm] at later⟩
    · rintro ⟨index, b, found, inside⟩
      cases index with
      | zero =>
        cases found
        exact .inl inside
      | succ index => exact .inr ⟨index, b, found, by rwa [Nat.add_right_comm]⟩

theorem indexed_zipWith_sublist {α β : Type} {issues : Nat → α → List Issue} {f : α → β → α}
    (each : ∀ index a b, (issues index (f a b)).Sublist (issues index a)) (start : Nat)
    (parts : List α) (others : List β) :
    (indexed issues start (parts.zipWith f others)).Sublist (indexed issues start parts) := by
  induction parts generalizing start others with
  | nil => simp [indexed]
  | cons a rest ih =>
    cases others with
    | nil => simp [indexed]
    | cons b more => exact (each start a b).append (ih (start + 1) more)

theorem indexed_map {α β : Type} (issues : Nat → β → List Issue) (f : α → β) (start : Nat)
    (parts : List α) :
    indexed issues start (parts.map f) =
      indexed (fun index a => issues index (f a)) start parts := by
  induction parts generalizing start with
  | nil => rfl
  | cons a rest ih => rw [List.map_cons, indexed, indexed, ih]

end Issue

namespace Config

/-- What a version asks besides the keys does not depend on them. -/
theorem versionIssues_deriveKeys (c : Config) : c.deriveKeys.versionIssues = c.versionIssues := by
  cases c with
  | simple body =>
    have prompts :=
      Issue.indexed_map (fun index f => Issue.ofPrompt index f.prompt)
        SimpleField.deriveKey 0 body.fields
    rw [deriveKeys, versionIssues, versionIssues, prompts, List.isEmpty_map]
    rfl
  | detailed body =>
    have defaults := Issue.indexed_map Issue.ofDefault DetailedField.deriveKey 0 body.fields
    rw [deriveKeys, versionIssues, versionIssues, defaults]
    rfl

/-- Derivation adds no issue. -/
theorem issues_deriveKeys_sublist (c : Config) : c.deriveKeys.issues.Sublist c.issues := by
  have keys := Issue.indexed_zipWith_sublist Issue.ofKey_derivedKey_sublist 0 c.keys c.labels
  rw [issues, issues, version_deriveKeys, name_deriveKeys, description_deriveKeys,
    versionIssues_deriveKeys, keys_deriveKeys]
  exact ((List.Sublist.refl _).append keys).append (List.Sublist.refl _)

/-- The issues at the path of a key are those of that key. -/
theorem mem_issues_of_key_iff {c : Config} {index : Nat} {i : Issue}
    (named : i.path = Issue.fieldPath index "key") :
    i ∈ c.issues ↔ ∃ key, c.keys[index]? = some key ∧ i ∈ Issue.ofKey index key := by
  have fixed : ∀ path expected actual, "fields.".toList.isPrefixOf path.toList = false →
      i ∉ Issue.fixedText path expected actual := by
    intro path expected actual other member
    have same := List.mem_map_of_mem (f := Issue.path) member
    rw [Issue.map_path_fixedText] at same
    split at same
    · cases same
    · exact Issue.fieldPath_ne path other index "key" (named.symm.trans (List.mem_singleton.1 same))
  have version : i ∉ c.versionIssues := by
    intro member
    have violated := List.mem_map_of_mem (f := Issue.path) member
    rw [map_path_versionIssues] at violated
    obtain ⟨r, required, same⟩ := List.mem_map.1 violated
    have key : r = .key index := Requirement.path_injective (same.trans named)
    have asked : Requirement.key index ∈ c.versionRequirements :=
      key ▸ (List.mem_filter.1 required).1
    cases c <;> simp [versionRequirements] at asked
  rw [issues, List.mem_append, List.mem_append, List.mem_append, Issue.mem_indexed_iff]
  constructor
  · rintro (((title | summary) | ⟨place, key, found, inside⟩) | other)
    · exact absurd title (fixed _ _ _ (by decide))
    · exact absurd summary (fixed _ _ _ (by decide))
    · have same := (Issue.path_of_mem_ofKey inside).symm.trans named
      obtain ⟨rfl, -⟩ := Issue.fieldPath_inj.1 same
      rw [Nat.zero_add] at inside ⊢
      exact ⟨key, found, inside⟩
    · exact absurd other version
  · rintro ⟨key, found, inside⟩
    exact .inl (.inr ⟨index, key, found, by rwa [Nat.zero_add]⟩)

theorem getElem?_keys_deriveKeys {c : Config} {index : Nat} {key : String} :
    c.deriveKeys.keys[index]? = some key ↔
      ∃ old label, c.keys[index]? = some old ∧ c.labels[index]? = some label ∧
        derivedKey old label = key := by
  rw [keys_deriveKeys, List.getElem?_zipWith_eq_some]

/-- The issues at the path of a key after derivation, told from the key and the label of the field
before it. -/
theorem mem_issues_deriveKeys_iff {c : Config} {index : Nat} {i : Issue}
    (named : i.path = Issue.fieldPath index "key") :
    i ∈ c.deriveKeys.issues ↔
      ∃ key label, c.keys[index]? = some key ∧ c.labels[index]? = some label ∧
      (Misspelt key ∧ i = .misspelt index key ∨ Unkeyable key label ∧ i = .unkeyed index) := by
  rw [mem_issues_of_key_iff named]
  simp only [getElem?_keys_deriveKeys, ← Issue.mem_ofKey_derivedKey_iff]
  constructor
  · rintro ⟨_, ⟨key, label, found, given, rfl⟩, inside⟩
    exact ⟨key, label, found, given, inside⟩
  · rintro ⟨key, label, found, given, inside⟩
    exact ⟨_, ⟨key, label, found, given, rfl⟩, inside⟩

/-- After derivation a key is faulted exactly when it was given and is not in normal form, or was
not given and its field has no label or one with the empty normal form; each fault is reported once,
and none is new.  Every other field has a valid key then. -/
theorem key_issues_deriveKeys (c : Config) :
    (∀ index text, ⟨Issue.fieldPath index "key", text⟩ ∈ c.deriveKeys.issues ↔
      ∃ key label, c.keys[index]? = some key ∧ c.labels[index]? = some label ∧
        (Misspelt key ∧ text = (Issue.misspelt index key).message ∨
          Unkeyable key label ∧ text = (Issue.unkeyed index).message)) ∧
      (c.deriveKeys.issues.map Issue.path).Nodup ∧ c.deriveKeys.issues.Sublist c.issues ∧
      ∀ (index : Nat) (key : String) (label : Option String), c.keys[index]? = some key →
        c.labels[index]? = some label → ¬ Misspelt key → ¬ Unkeyable key label →
        ∃ derived, c.deriveKeys.keys[index]? = some derived ∧ derived ≠ "" ∧
          Key.isValid derived = true := by
  refine ⟨?faulted, c.deriveKeys.nodup_issuePaths, c.issues_deriveKeys_sublist, ?sound⟩
  case faulted =>
    intro index text
    rw [mem_issues_deriveKeys_iff rfl]
    simp [Issue.misspelt, Issue.unkeyed]
  case sound =>
    intro index key label found given fine keyable
    refine ⟨derivedKey key label, getElem?_keys_deriveKeys.2 ⟨key, label, found, given, rfl⟩,
      mt derivedKey_eq_empty_iff.1 keyable, ?_⟩
    by_cases without : key = ""
    · rw [without]
      exact isValid_derivedKey label
    · rw [derivedKey_of_ne label without]
      exact isValid_of_not_misspelt without fine

/-- Fields with a key in another form, with a wordless label, without a label, and with one that
gives a key. -/
def unevenKeys : Config := .simple (.ofFields .simple [
  ⟨"Job_title", some "Job title", "The post", none⟩, ⟨"", some "é", "The town", none⟩,
  ⟨"", none, "The phone", none⟩, ⟨"", some "Full Name", "The name", none⟩])

theorem key_issues_deriveKeys_uneven :
    ⟨"fields.1.key", "is empty and no label was given to derive it from"⟩ ∈
      unevenKeys.deriveKeys.issues ∧
      (∀ text, ⟨"fields.3.key", text⟩ ∉ unevenKeys.deriveKeys.issues) ∧
      unevenKeys.keys[3]? = some "" ∧
      unevenKeys.labels[3]? = some (some "Full Name") ∧ ¬ Misspelt "" ∧
      ¬ Unkeyable "" (some "Full Name") ∧
      ∃ derived, unevenKeys.deriveKeys.keys[3]? = some derived ∧ derived ≠ "" ∧
        Key.isValid derived = true := by
  obtain ⟨faulted, -, -, sound⟩ := key_issues_deriveKeys unevenKeys
  have misspelt : ¬ Misspelt "" := fun fault => fault.1 rfl
  have keyable : ¬ Unkeyable "" (some "Full Name") := by decide +kernel
  have wordless : Unkeyable "" (some "é") := by decide +kernel
  refine ⟨(faulted 1 _).2 ⟨"", some "é", rfl, rfl, .inr ⟨wordless, rfl⟩⟩, ?_, rfl, rfl,
    misspelt, keyable, sound 3 "" (some "Full Name") rfl rfl misspelt keyable⟩
  intro text member
  obtain ⟨key, label, found, given, fault⟩ := (faulted 3 text).1 member
  cases found
  cases given
  rcases fault with ⟨fault, -⟩ | ⟨fault, -⟩
  · exact misspelt fault
  · exact keyable fault

end Config

end ExtractionPrompt
