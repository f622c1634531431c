import ExtractionPrompt.Proofs.Config.RoundTrip
import ExtractionPrompt.Proofs.Submission.Derivation
import ExtractionPrompt.Proofs.Submission.Issues
import ExtractionPrompt.Submission.Prepare

/-!
Accepted configs.  One is accepted only when every field has its key, so there is nothing left to
derive: what was accepted and written is accepted as it is.
-/

namespace ExtractionPrompt

namespace Config

/-- Every field has a key. -/
def Keyed (c : Config) : Prop := ∀ key ∈ c.keys, key ≠ ""

theorem valid_key_of_passes {c : Config} (passes : c.passes = true) {key : String}
    (member : key ∈ c.keys) :
    key ≠ "" ∧ Key.isValid key = true :=
  (c.passes_iff.1 passes).keys key member

theorem keyed_of_passes {c : Config} (passes : c.passes = true) : c.Keyed := by
  intro key member
  exact (valid_key_of_passes passes member).1

/-- The default of a required field is not too short. -/
theorem length_default_of_passes {body : ConfigBody DetailedField}
    (passes : (detailed body).passes = true) {f : DetailedField} (member : f ∈ body.fields)
    (required : f.required = true) :
    minRequiredDefault ≤ f.defaultValue.length :=
  ((passes_iff _).1 passes).fields f member required

theorem deriveKeys_of_keyed {c : Config} (keyed : c.Keyed) : c.deriveKeys = c := by
  cases c with
  | simple body =>
    have each : ∀ f ∈ body.fields, f.deriveKey = id f := fun f member =>
      f.deriveKey_of_ne (keyed f.key (List.mem_map_of_mem member))
    rw [deriveKeys, List.map_congr_left each, List.map_id]
  | detailed body =>
    have each : ∀ f ∈ body.fields, f.deriveKey = id f := fun f member =>
      f.deriveKey_of_ne (keyed f.key (List.mem_map_of_mem member))
    rw [deriveKeys, List.map_congr_left each, List.map_id]

theorem derivedCount_of_keyed {c : Config} (keyed : c.Keyed) : c.derivedCount = 0 := by
  rw [derivedCount_eq_countP, List.countP_eq_zero]
  rintro ⟨key, label⟩ member
  rw [wantsKey_of_ne label (keyed key (List.of_mem_zip member).1)]
  exact Bool.false_ne_true

end Config

theorem prepare_eq_ok_iff {v : Json} {c : Config} :
    prepare v = .ok c ↔ (∃ read, Config.ofJson v = .ok read ∧ read.deriveKeys = c) ∧
      c.passes = true := by
  constructor
  · intro accepted
    unfold prepare at accepted
    split at accepted
    · cases accepted
    · rename_i read found
      split at accepted
      · rename_i passes
        cases accepted
        exact ⟨⟨read, found, rfl⟩, passes⟩
      · cases accepted
  · rintro ⟨⟨read, found, rfl⟩, passes⟩
    simp [prepare, found, passes]

/-- A config is refused for what is wrong with reading it, or else for its issues. -/
theorem prepare_eq_error_iff {v : Json} {e : Failure} :
    prepare v = .error e ↔ (∃ error, Config.ofJson v = .error error ∧ .config error = e) ∨
      ∃ read, Config.ofJson v = .ok read ∧ read.deriveKeys.issues ≠ [] ∧
        .invalid (summaryOf read.deriveKeys.issues) = e := by
  unfold prepare
  cases Config.ofJson v with
  | error error => simp
  | ok read =>
    by_cases passes : read.deriveKeys.issues = []
    · simp [Config.passes, passes]
    · simp [Config.passes, passes]

/-- A config that passes is accepted as it is written, when its numbers fit. -/
theorem prepare_toJson_of_passes {c : Config} (fits : c.Fits) (passes : c.passes = true) :
    prepare c.toJson = .ok c := by
  have back := (Config.ofJson_toJson_iff_fits c).2 fits
  have whole := Config.deriveKeys_of_keyed (Config.keyed_of_passes passes)
  exact prepare_eq_ok_iff.2 ⟨⟨c, back, whole⟩, passes⟩

theorem fits_of_prepare {v : Json} {c : Config} (accepted : prepare v = .ok c) : c.Fits := by
  obtain ⟨⟨read, found, rfl⟩, -⟩ := prepare_eq_ok_iff.1 accepted
  exact Config.fits_deriveKeys (Config.fits_of_ofJson found)

/-- What was accepted and written is read back as it was. -/
theorem ofJson_toJson_of_prepare {v : Json} {c : Config} (accepted : prepare v = .ok c) :
    Config.ofJson c.toJson = .ok c :=
  (Config.ofJson_toJson_iff_fits c).2 (fits_of_prepare accepted)

/-- What was accepted and written is accepted as it is. -/
theorem prepare_toJson {v : Json} {c : Config} (accepted : prepare v = .ok c) :
    prepare c.toJson = .ok c :=
  prepare_toJson_of_passes (fits_of_prepare accepted) (prepare_eq_ok_iff.1 accepted).2

end ExtractionPrompt
