import ExtractionPrompt.Proofs.Registry.Numbering

/-!
A prompt before it is stored and after.  A preview and a creation accept the same configs and fail
alike, and what a later lookup reads out of the stored record is what the preview said, though it
finds the keys in JSON.
-/

namespace ExtractionPrompt

open Json

theorem SimpleField.property?_key (f : SimpleField) :
    f.toJson.property? "key" = some (.string f.key) := by
  simp [toJson, property?]

theorem DetailedField.property?_key (f : DetailedField) :
    f.toJson.property? "key" = some (.string f.key) := by
  simp [toJson, property?]

theorem ConfigBody.property?_fields {Field : Type} (version : Version) (encode : Field → Json)
    (body : ConfigBody Field) :
    (body.toJson version encode).property? "fields" = some (.array (body.fields.map encode)) := by
  simp [toJson, property?, lookup_cons_eq_ite]

theorem filterMap_key {Field : Type} {encode : Field → Json} {key : Field → String}
    (fields : List Field) (keyed : ∀ f, (encode f).property? "key" = some (.string (key f))) :
    ((fields.map encode).filterMap fun f => (f.property? "key").bind asString?) =
      fields.map key := by
  induction fields with
  | nil => rfl
  | cons f rest ih =>
    rw [List.map_cons, List.filterMap_cons, keyed, ih, Option.bind_some, asString?, List.map_cons]

/-- No key is lost on the way into the store. -/
theorem storedKeys_toJson (c : Config) : storedKeys c.toJson = c.keys := by
  cases c with
  | simple body =>
    rw [storedKeys, Config.toJson, ConfigBody.property?_fields]
    exact filterMap_key body.fields SimpleField.property?_key
  | detailed body =>
    rw [storedKeys, Config.toJson, ConfigBody.property?_fields]
    exact filterMap_key body.fields DetailedField.property?_key

theorem preview_eq_map (config : Json) :
    preview config = (prepare config).map fun c => ⟨c.prompt, c.keys, c.collisions⟩ := by
  rw [preview]
  cases prepare config with
  | error e => rfl
  | ok c => rfl

namespace Store

theorem promptOf_of_get? {t : Table} {id : Identifier} {r : StoredRecord}
    (held : t.get? id = some r) : (memory t).promptOf id = .ok (r.prompt, storedKeys r.config) := by
  simp [promptOf, fetch, get?, held, bind]

/-- In every store that a session can reach, a request under a name that may be one is created
exactly when its config has a preview, and fails as the preview does.  What was created has the
preview's prompt and collisions, and until it is deleted a lookup answers with the preview's prompt
and keys. -/
theorem create_agrees_with_preview {s : Store} (reached : s.Reachable) (q : CreateRequest)
    (named : Admissible q.name) :
    (∀ e, s.create q = .error e ↔ preview q.config = .error e) ∧
      ((∃ made s₁, s.create q = .ok (made, s₁)) ↔ ∃ p, preview q.config = .ok p) ∧
      ∀ made s₁ p, s.create q = .ok (made, s₁) → preview q.config = .ok p →
        made.record.prompt = p.prompt ∧ made.collisions = p.collisions ∧
        ∀ later, .delete made.record.id ∉ later →
          (s₁.run later).2.promptOf made.record.id = .ok (p.prompt, p.keys) := by
  obtain ⟨t, rfl, numbered⟩ := reached.numbered
  rw [create_of_admissible t named, preview_eq_map]
  cases prepare q.config with
  | error e =>
    refine ⟨?_, ?_, ?_⟩
    · simp [Except.map]
    · simp [Except.map]
    · intro made s₁ p created
      cases created
  | ok c =>
    refine ⟨?_, ?_, ?_⟩
    · simp
    · simp
    · intro made s₁ p created previewed
      cases created
      cases previewed
      refine ⟨rfl, rfl, ?_⟩
      intro later kept
      have held := numbered.get?_save_nextRecord (q.draftOf c)
      obtain ⟨t', ran, stillHeld⟩ := exists_run_of_get? held kept
      have keys : storedKeys (t.nextRecord (q.draftOf c)).config = c.keys := storedKeys_toJson c
      rw [ran, promptOf_of_get? stillHeld, keys]
      rfl

/-- The first of two records is deleted, and the second is looked up. -/
theorem create_agrees_with_preview_unkeyed :
    ∃ made s₁ p, (fresh.run [.create unkeyedRequest]).2.create unkeyedRequest = .ok (made, s₁) ∧
      preview unkeyedRequest.config = .ok p ∧
      (s₁.run [.delete (Identifier.numbered 1), .get made.record.id]).2.promptOf made.record.id =
        .ok (p.prompt, p.keys) := by
  have reached : (fresh.run [.create unkeyedRequest]).2.Reachable := ⟨_, rfl⟩
  have named : Admissible unkeyedRequest.name := by decide
  obtain ⟨made, s₁, created, second⟩ : ∃ made s₁,
      (fresh.run [.create unkeyedRequest]).2.create unkeyedRequest = .ok (made, s₁) ∧
        made.record.id = Identifier.numbered 2 := ⟨_, _, rfl, rfl⟩
  obtain ⟨p, previewed⟩ : ∃ p, preview unkeyedRequest.config = .ok p := ⟨_, rfl⟩
  obtain ⟨-, -, agree⟩ := create_agrees_with_preview reached unkeyedRequest named
  obtain ⟨-, -, answered⟩ := agree made s₁ p created previewed
  refine ⟨made, s₁, p, created, previewed, answered _ ?_⟩
  rw [second]
  have other : Identifier.numbered 2 ≠ Identifier.numbered 1 := by decide
  simp [other]

end Store

end ExtractionPrompt
