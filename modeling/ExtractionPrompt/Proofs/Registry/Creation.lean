import ExtractionPrompt.Proofs.Submission.Acceptance
import ExtractionPrompt.Registry.Service

/-!
Creating records.  A record is created exactly when its name may be one and its config is accepted;
what is stored then is the accepted config and its prompt.  So a stored config can be submitted
again, and stores the same once more.
-/

namespace ExtractionPrompt

/-- What the name of a record may be, blanks at its ends aside. -/
def Admissible (name : String) : Prop :=
  Text.trim name ≠ "" ∧ (Text.trim name).length ≤ maxNameLength

instance (name : String) : Decidable (Admissible name) := inferInstanceAs (Decidable (_ ∧ _))

namespace CreateRequest

/-- What is stored for a request whose config was accepted as `c`. -/
def draftOf (q : CreateRequest) (c : Config) : Draft :=
  ⟨q.userId, Text.trim q.name, c.toJson, c.prompt⟩

theorem vet_of_admissible {q : CreateRequest} (named : Admissible q.name) :
    q.vet = (prepare q.config).map fun c => (q.draftOf c, c.collisions) := by
  obtain ⟨present, fits⟩ := named
  rw [vet, if_neg present, if_neg (Nat.not_lt.2 fits)]
  cases prepare q.config with
  | error e => rfl
  | ok c => rfl

theorem vet_eq_ok_iff {q : CreateRequest} {d : Draft} {collisions : List Collision} :
    q.vet = .ok (d, collisions) ↔
      Admissible q.name ∧ ∃ c, prepare q.config = .ok c ∧ d = q.draftOf c ∧
        collisions = c.collisions := by
  by_cases named : Admissible q.name
  · rw [vet_of_admissible named, map_eq_ok_iff]
    constructor
    · rintro ⟨c, accepted, same⟩
      cases same
      exact ⟨named, c, accepted, rfl, rfl⟩
    · rintro ⟨-, c, accepted, rfl, rfl⟩
      exact ⟨c, accepted, rfl⟩
  · refine iff_of_false ?_ fun vetted => named vetted.1
    intro vetted
    unfold vet at vetted
    dsimp only at vetted
    split at vetted
    · cases vetted
    · rename_i present
      split at vetted
      · cases vetted
      · rename_i fits
        exact named ⟨present, Nat.not_lt.1 fits⟩

end CreateRequest

namespace Store

theorem create_of_admissible (t : Table) {q : CreateRequest} (named : Admissible q.name) :
    (memory t).create q = (prepare q.config).map fun c =>
      (⟨t.nextRecord (q.draftOf c), c.collisions⟩, memory (t.save (q.draftOf c))) := by
  rw [create, CreateRequest.vet_of_admissible named]
  cases prepare q.config with
  | error e => rfl
  | ok c => rfl

/-- A record is created in a store that is open, for a name that may be one and a config that is
accepted. -/
theorem create_eq_ok_iff {s s₁ : Store} {q : CreateRequest} {made : Created} :
    s.create q = .ok (made, s₁) ↔
      ∃ t c, s = memory t ∧ Admissible q.name ∧ prepare q.config = .ok c ∧
        made = ⟨t.nextRecord (q.draftOf c), c.collisions⟩ ∧ s₁ = memory (t.save (q.draftOf c)) := by
  constructor
  · intro created
    obtain ⟨⟨d, collisions⟩, vetted, rest⟩ := bind_eq_ok_iff.1 created
    obtain ⟨⟨record, after⟩, saved, same⟩ := bind_eq_ok_iff.1 rest
    obtain ⟨named, c, accepted, rfl, rfl⟩ := CreateRequest.vet_eq_ok_iff.1 vetted
    cases s with
    | memory t =>
      cases saved
      cases same
      exact ⟨t, c, rfl, named, accepted, rfl, rfl⟩
    | closed => cases saved
  · rintro ⟨t, c, rfl, named, accepted, rfl, rfl⟩
    have vetted := CreateRequest.vet_eq_ok_iff.2 ⟨named, c, accepted, rfl, rfl⟩
    simp [create, vetted, save, bind]

/-- A stored config can be submitted again under any name that may be one.  No key is left to
derive, and the new record has the config and the prompt of the old one, which is the prompt of the
config as it is stored. -/
theorem create_stored_config {s s₁ : Store} {q : CreateRequest} {made : Created}
    (created : s.create q = .ok (made, s₁)) (again : CreateRequest) (named : Admissible again.name)
    (resubmitted : again.config = made.record.config) (t : Table) :
    ∃ c, Config.ofJson made.record.config = .ok c ∧ c.derivedCount = 0 ∧ c.deriveKeys = c ∧
      made.record.prompt = c.prompt ∧ made.collisions = c.collisions ∧
      ∃ remade t₁, (memory t).create again = .ok (remade, memory t₁) ∧
        remade.record.config = made.record.config ∧
        remade.record.prompt = made.record.prompt ∧ remade.collisions = made.collisions := by
  obtain ⟨_, c, -, -, accepted, rfl, -⟩ := create_eq_ok_iff.1 created
  have keyed : c.Keyed := Config.keyed_of_passes (prepare_eq_ok_iff.1 accepted).2
  have acceptedAgain : prepare again.config = .ok c := by
    rw [resubmitted]
    exact prepare_toJson accepted
  have createdAgain := create_eq_ok_iff.2 ⟨t, c, rfl, named, acceptedAgain, rfl, rfl⟩
  refine ⟨c, ofJson_toJson_of_prepare accepted, Config.derivedCount_of_keyed keyed,
    Config.deriveKeys_of_keyed keyed, rfl, rfl, ?_⟩
  exact ⟨_, _, createdAgain, rfl, rfl, rfl⟩

/-- Blanks around the name, a label for the key, a null for an option, and the fields before their
version. -/
def unkeyedRequest : CreateRequest where
  userId := Identifier.numbered 1
  name := " First "
  config :=
    .object [("fields", .array [.object [
        ("label", .string "Full Name"), ("prompt", .string "The name."), ("example", .null)]]),
      ("version", .string "v0")]

theorem create_stored_config_unkeyed :
    ∃ made t remade t₁, fresh.create unkeyedRequest = .ok (made, memory t) ∧
      (memory t).create ⟨Identifier.numbered 2, "Again", made.record.config⟩ =
        .ok (remade, memory t₁) ∧
      remade.record.config = made.record.config ∧ remade.record.prompt = made.record.prompt := by
  obtain ⟨made, t, created⟩ : ∃ made t, fresh.create unkeyedRequest = .ok (made, memory t) :=
    ⟨_, _, rfl⟩
  have named : Admissible "Again" := by decide
  obtain ⟨-, -, -, -, -, -, remade, t₁, createdAgain, config, prompt, -⟩ :=
    create_stored_config created ⟨Identifier.numbered 2, "Again", made.record.config⟩ named rfl t
  exact ⟨made, t, remade, t₁, created, createdAgain, config, prompt⟩

end Store

end ExtractionPrompt
