import ExtractionPrompt.Proofs.Key.Collision
import ExtractionPrompt.Proofs.Prompt.Template
import ExtractionPrompt.Proofs.Submission.Acceptance

/-!
What the template offers for a required field.  A key has one value there, which the last field with
it decides, so a required field keeps its default when it is the last one; and when it is not, its
key is reported as shared.
-/

namespace ExtractionPrompt

open Json

/-- The last part with the key of a given one. -/
theorem exists_last_use {Field : Type} (key : Field → String) {fields : List Field}
    {i : Nat} {f : Field} (found : fields[i]? = some f) :
    ∃ j g, i ≤ j ∧ fields[j]? = some g ∧ key g = key f ∧
      (∀ m h, j < m → fields[m]? = some h → key h ≠ key f) ∧
      fields.reverse.find? (fun h => key h = key f) = some g := by
  have member : f ∈ fields.reverse := List.mem_reverse.2 (List.mem_of_getElem? found)
  have used : (fields.reverse.find? fun h => key h = key f).isSome := by
    rw [List.find?_isSome]
    exact ⟨f, member, by simp⟩
  obtain ⟨g, last⟩ := Option.isSome_iff_exists.1 used
  obtain ⟨same, behind, before, split, others⟩ := List.find?_eq_some_iff_append.1 last
  have whole : fields = before.reverse ++ g :: behind.reverse := by
    have turned := congrArg List.reverse split
    simpa using turned
  have later : ∀ m h, before.length < m → fields[m]? = some h → key h ≠ key f := by
    intro m h beyond there
    rw [whole, List.getElem?_append_right (by rw [List.length_reverse]; omega),
      List.length_reverse] at there
    obtain ⟨n, place⟩ : ∃ n, m - before.length = n + 1 := ⟨m - before.length - 1, by omega⟩
    rw [place, List.getElem?_cons_succ] at there
    have inside := List.mem_reverse.1 (List.mem_of_getElem? there)
    simpa using others h inside
  refine ⟨before.length, g, ?_, ?_, by simpa using same, later, last⟩
  · apply Nat.le_of_not_lt
    intro beyond
    exact later i f beyond found rfl
  · rw [whole, List.getElem?_append_right (by rw [List.length_reverse]), List.length_reverse]
    simp

namespace Config

theorem excerpt?_prompt (c : Config) : c.version.excerpt? c.prompt = some c.template.pretty := by
  obtain ⟨front, whole⟩ := c.prompt_eq
  obtain ⟨tidy, ended⟩ := isChain_indented_object (collect c.offers) fun p => isOffer_of_mem_collect
  rw [whole]
  apply Version.excerpt?_eq_some
  · rwa [pretty, String.toList_ofList, template_eq]
  · rwa [pretty, String.toList_ofList, template_eq]

theorem parsePlain?_template (c : Config) :
    parsePlain? c.template.pretty = some (.object (collect c.offers)) := by
  rw [parsePlain?, parseAs_pretty (c.legible_template (.inl rfl)), template_eq]
  rfl

/-- The template of a detailed config has the offer of the last field with a key. -/
theorem lookup_collect_offers {body : ConfigBody DetailedField} {key : String} {g : DetailedField}
    (last : body.fields.reverse.find? (fun h => h.key = key) = some g) :
    (collect (detailed body).offers).lookup key = some g.templateValue := by
  rw [lookup_collect, offers, ← List.map_reverse, lookup_map_eq_find?, last]
  rfl

theorem templateValue_of_required {body : ConfigBody DetailedField}
    (passes : (detailed body).passes = true) {g : DetailedField} (member : g ∈ body.fields)
    (required : g.required = true) :
    g.templateValue = .string g.defaultValue ∧ minRequiredDefault ≤ g.defaultValue.length := by
  have long := length_default_of_passes passes member required
  refine ⟨?_, long⟩
  apply if_neg
  intro empty
  rw [empty] at long
  exact absurd long (by decide)

/-- In the prompt of an accepted config, the key of a required field has what the last field with
that key offers.  When that one is required too, and so when no later field has the key, it is a
text of four characters at least; and when there is a later one, the key is reported with both
places. -/
theorem fallback_of_accepted {v : Json} {body : ConfigBody DetailedField}
    (accepted : prepare v = .ok (detailed body)) :
    ∃ text properties, Version.detailed.excerpt? (detailed body).prompt = some text ∧
      parsePlain? text = some (.object properties) ∧
      ∀ i f, body.fields[i]? = some f → f.required = true →
        ∃ j g, i ≤ j ∧ body.fields[j]? = some g ∧ g.key = f.key ∧
          (∀ m h, j < m → body.fields[m]? = some h → h.key ≠ f.key) ∧
          properties.lookup f.key = some g.templateValue ∧
          (g.required = true → ∃ s, properties.lookup f.key = some (.string s) ∧ 4 ≤ s.length) ∧
          (i ≠ j → ∃ shared ∈ (detailed body).collisions, shared.key = f.key ∧
            i ∈ shared.fieldIndices ∧ j ∈ shared.fieldIndices) := by
  obtain ⟨-, passes⟩ := prepare_eq_ok_iff.1 accepted
  refine ⟨_, _, (detailed body).excerpt?_prompt, (detailed body).parsePlain?_template, ?_⟩
  intro i f found _
  obtain ⟨j, g, order, there, same, later, last⟩ := exists_last_use DetailedField.key found
  have value := lookup_collect_offers last
  refine ⟨j, g, order, there, same, later, value, ?required, ?shared⟩
  case required =>
    intro required
    obtain ⟨shown, long⟩ := templateValue_of_required passes (List.mem_of_getElem? there) required
    exact ⟨g.defaultValue, by rw [value, shown], long⟩
  case shared =>
    intro apart
    have left : (detailed body).keys[i]? = some f.key := by simp [keys, found]
    have right : (detailed body).keys[j]? = some f.key := by simp [keys, there, same]
    exact Collision.exists_mem_find apart left right

/-- A required field behind an optional one with its key. -/
def requiredLast : ConfigBody DetailedField :=
  .ofFields .detailed [.plain "city" false "", .plain "city" true "Unknown"]

theorem fallback_of_accepted_last :
    prepare (detailed requiredLast).toJson = .ok (detailed requiredLast) ∧
      ∃ text properties, Version.detailed.excerpt? (detailed requiredLast).prompt = some text ∧
        parsePlain? text = some (.object properties) ∧
        ∃ s, properties.lookup "city" = some (.string s) ∧ 4 ≤ s.length := by
  have accepted : prepare (detailed requiredLast).toJson = .ok (detailed requiredLast) :=
    prepare_toJson_of_passes (by decide) (by decide +kernel)
  obtain ⟨text, properties, cut, read, each⟩ := fallback_of_accepted accepted
  obtain ⟨j, g, order, there, -, -, -, kept, -⟩ := each 1 (.plain "city" true "Unknown") rfl rfl
  have required : g.required = true := by
    obtain ⟨bound, rfl⟩ := List.getElem?_eq_some_iff.1 there
    have short : requiredLast.fields.length = 2 := rfl
    obtain rfl : j = 1 := by omega
    rfl
  exact ⟨accepted, text, properties, cut, read, kept required⟩

/-- A required field before an optional one with its key. -/
def requiredFirst : ConfigBody DetailedField :=
  .ofFields .detailed [.plain "country" true "Unknown", .plain "country" false ""]

/-- Sharing a key is no reason to be refused, and the required field loses its default. -/
theorem accepted_without_fallback :
    prepare (detailed requiredFirst).toJson = .ok (detailed requiredFirst) ∧
      requiredFirst.fields[0]? = some (.plain "country" true "Unknown") ∧
      ∃ text properties, Version.detailed.excerpt? (detailed requiredFirst).prompt = some text ∧
        parsePlain? text = some (.object properties) ∧
        properties.lookup "country" = some .null := by
  have accepted : prepare (detailed requiredFirst).toJson = .ok (detailed requiredFirst) :=
    prepare_toJson_of_passes (by decide) (by decide +kernel)
  have last : requiredFirst.fields.reverse.find? (fun h => h.key = "country") =
      some (.plain "country" false "") := rfl
  exact ⟨accepted, rfl, _, _, (detailed requiredFirst).excerpt?_prompt,
    (detailed requiredFirst).parsePlain?_template, lookup_collect_offers last⟩

end Config

end ExtractionPrompt
