import Mathlib.Data.List.Forall2
import ExtractionPrompt.Proofs.Submission.Derivation

/-!
What derivation changes in a config, and what it leaves alone.  A field that has a key, or no label
to take one from, is kept as it is; any other gets a new key and keeps the rest.  A second
derivation changes nothing, although it goes through the wordless labels once more.
-/

namespace ExtractionPrompt

theorem derivedKey_derivedKey (key : String) (label : Option String) :
    derivedKey (derivedKey key label) label = derivedKey key label := by
  by_cases unkeyed : derivedKey key label = ""
  · -- The label, if there is one, is used again, and gives nothing again.
    have unkeyable := derivedKey_eq_empty_iff.1 unkeyed
    rw [unkeyed, derivedKey_of_unkeyable ⟨rfl, unkeyable.2⟩]
  · exact derivedKey_of_ne label unkeyed

/-- A field of either version. -/
inductive Field where
  | simple (f : SimpleField)
  | detailed (f : DetailedField)

namespace Field

def key : Field → String
  | simple f => f.key
  | detailed f => f.key

def label : Field → Option String
  | simple f => f.label
  | detailed f => f.label

/-- The field with another key and nothing else changed. -/
def withKey (key : String) : Field → Field
  | simple f => simple { f with key := key }
  | detailed f => detailed { f with key := key }

theorem withKey_key (f : Field) : f.withKey f.key = f := by
  cases f <;> rfl

@[simp] theorem key_withKey (key : String) (f : Field) : (f.withKey key).key = key := by
  cases f <;> rfl

@[simp] theorem label_withKey (key : String) (f : Field) : (f.withKey key).label = f.label := by
  cases f <;> rfl

@[simp] theorem withKey_withKey (key first : String) (f : Field) :
    (f.withKey first).withKey key = f.withKey key := by
  cases f <;> rfl

/-- What a field may become when missing keys are derived. -/
inductive Derived : Field → Field → Prop where
  | kept {f : Field} (settled : f.key ≠ "" ∨ f.label = none) : Derived f f
  | keyed {f : Field} {label : String} (without : f.key = "") (given : f.label = some label) :
      Derived f (f.withKey (Key.normalize label))

/-- There is one thing that a field becomes. -/
theorem derived_iff {f g : Field} : Derived f g ↔ f.withKey (derivedKey f.key f.label) = g := by
  constructor
  · intro derived
    cases derived with
    | kept settled =>
      have same : derivedKey f.key f.label = f.key := by
        rcases settled with given | unlabelled
        · exact derivedKey_of_ne f.label given
        · rw [unlabelled, derivedKey]
      rw [same, withKey_key]
    | keyed without given => rw [without, given, derivedKey, if_pos rfl]
  · rintro rfl
    by_cases without : f.key = ""
    · cases given : f.label with
      | none =>
        rw [derivedKey, withKey_key]
        exact .kept (.inr given)
      | some label =>
        rw [derivedKey, if_pos without]
        exact .keyed without given
    · rw [derivedKey_of_ne f.label without, withKey_key]
      exact .kept (.inl without)

end Field

namespace Config

def fields : Config → List Field
  | simple body => body.fields.map .simple
  | detailed body => body.fields.map .detailed

theorem fields_deriveKeys (c : Config) :
    c.deriveKeys.fields = c.fields.map fun f => f.withKey (derivedKey f.key f.label) := by
  cases c with
  | simple body =>
    simp [deriveKeys, fields, SimpleField.deriveKey, Field.withKey, Field.key, Field.label]
  | detailed body =>
    simp [deriveKeys, fields, DetailedField.deriveKey, Field.withKey, Field.key, Field.label]

/-- There is nothing more to a config than its version, its name, its description and its fields. -/
theorem eq_of_parts {c d : Config} (version : c.version = d.version) (name : c.name = d.name)
    (description : c.description = d.description) (fields : c.fields = d.fields) : c = d := by
  have injective : Function.Injective Field.simple ∧ Function.Injective Field.detailed :=
    ⟨fun _ _ => Field.simple.inj, fun _ _ => Field.detailed.inj⟩
  rcases c with ⟨first, _, fs⟩ | ⟨first, _, fs⟩ <;> rcases d with ⟨second, _, gs⟩ | ⟨second, _, gs⟩
  · obtain rfl : first = second := name
    obtain rfl := description
    obtain rfl := injective.1.list_map fields
    rfl
  · cases version
  · cases version
  · obtain rfl : first = second := name
    obtain rfl := description
    obtain rfl := injective.2.list_map fields
    rfl

/-- One config is the other with its missing keys derived, field by field in their order. -/
structure KeysDerived (c d : Config) : Prop where
  version : d.version = c.version
  name : d.name = c.name
  description : d.description = c.description
  fields : List.Forall₂ Field.Derived c.fields d.fields

theorem derivedFields_iff {fs gs : List Field} :
    List.Forall₂ Field.Derived fs gs ↔
      (fs.map fun f => f.withKey (derivedKey f.key f.label)) = gs := by
  have each : Field.Derived = fun f g => f.withKey (derivedKey f.key f.label) = g := by
    funext f g
    exact propext Field.derived_iff
  rw [each, ← List.forall₂_eq_eq_eq, List.forall₂_map_left_iff]

theorem keysDerived_iff {c d : Config} : c.KeysDerived d ↔ c.deriveKeys = d := by
  constructor
  · intro derived
    apply eq_of_parts
    · rw [version_deriveKeys, derived.version]
    · rw [name_deriveKeys, derived.name]
    · rw [description_deriveKeys, derived.description]
    · rw [fields_deriveKeys, derivedFields_iff.1 derived.fields]
  · rintro rfl
    exact ⟨c.version_deriveKeys, c.name_deriveKeys, c.description_deriveKeys,
      derivedFields_iff.2 c.fields_deriveKeys.symm⟩

/-- After one derivation there is nothing that a second could change. -/
theorem deriveKeys_deriveKeys (c : Config) : c.deriveKeys.deriveKeys = c.deriveKeys := by
  apply eq_of_parts
  · rw [version_deriveKeys]
  · rw [name_deriveKeys]
  · rw [description_deriveKeys]
  · rw [fields_deriveKeys, fields_deriveKeys, List.map_map]
    apply List.map_congr_left
    intro f _
    simp [derivedKey_derivedKey]

/-- Derivation keeps the version, the name and the description of a config, and the number and the
order of its fields; a field that has a key or no label is kept as it is, and one with a label in
place of a key gets the normal form of that and keeps the rest.  No other config is so related to
it, and deriving once more changes nothing. -/
theorem deriveKeys_framed (c : Config) :
    (∀ d, c.KeysDerived d ↔ c.deriveKeys = d) ∧ c.deriveKeys.deriveKeys = c.deriveKeys :=
  ⟨fun _ => keysDerived_iff, c.deriveKeys_deriveKeys⟩

end Config

end ExtractionPrompt
