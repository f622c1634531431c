import ExtractionPrompt.Proofs.Registry.Lookup
import ExtractionPrompt.Proofs.Registry.Refusal
import ExtractionPrompt.Proofs.Submission.KeyIssues

/-!
What a rejection says of a field without a key.  Its text is that no label was given, and it is said
after derivation, of every field that is without a key by then: of those that have no label, and of
those that have a wordless one.
-/

namespace ExtractionPrompt

/-- A config is rejected for its issues, when a prompt is looked at or when a record is created
under a proper name. -/
inductive Rejected (v : Json) (summary : String) : Prop where
  | previewed (failed : preview v = .error (.invalid summary))
  | submitted (s : Store) (q : CreateRequest) (named : Admissible q.name) (same : q.config = v)
      (failed : s.create q = .error (.invalid summary))

/-- A store that fails to create for a reason that is no outage was not reached. -/
theorem prepare_of_create_invalid {s : Store} {q : CreateRequest} (named : Admissible q.name)
    {summary : String} (failed : s.create q = .error (.invalid summary)) :
    prepare q.config = .error (.invalid summary) := by
  rcases q.refused_or_vetted with ⟨e, refused⟩ | ⟨d, collisions, vetted⟩
  · rw [Store.create_of_refused refused] at failed
    cases failed
    exact (CreateRequest.refused_iff_of_admissible named).1 refused
  · rw [Store.create_of_vetted vetted] at failed
    cases s <;> cases failed

theorem prepare_of_preview_error {v : Json} {e : Failure} (failed : preview v = .error e) :
    prepare v = .error e := by
  rw [preview_eq_map] at failed
  cases accepted : prepare v with
  | error e' =>
    rw [accepted] at failed
    cases failed
    rfl
  | ok c =>
    rw [accepted] at failed
    cases failed

/-- What is rejected was read, and the summary is of the issues that it has after derivation. -/
theorem Rejected.exists_issues {v : Json} {summary : String} (rejected : Rejected v summary) :
    ∃ c, Config.ofJson v = .ok c ∧ c.deriveKeys.issues ≠ [] ∧
      summaryOf c.deriveKeys.issues = summary := by
  have failed : prepare v = .error (.invalid summary) := by
    cases rejected with
    | previewed failed => exact prepare_of_preview_error failed
    | submitted s q named same failed => exact same ▸ prepare_of_create_invalid named failed
  rcases prepare_eq_error_iff.1 failed with ⟨cause, -, other⟩ | ⟨c, read, faulty, same⟩
  · cases other
  · cases same
    exact ⟨c, read, faulty, rfl⟩

theorem Config.unkeyed_mem_issues_iff {c : Config} {index : Nat} :
    Issue.unkeyed index ∈ c.deriveKeys.issues ↔
      ∃ label, c.keys[index]? = some "" ∧ c.labels[index]? = some label ∧
        ∀ l ∈ label, Key.Wordless l := by
  rw [Config.mem_issues_deriveKeys_iff rfl]
  constructor
  · rintro ⟨key, label, found, given, ⟨fault, same⟩ | ⟨⟨rfl, normless⟩, -⟩⟩
    · exact absurd same (Issue.unkeyed_ne_misspelt index key)
    · exact ⟨label, found, given,
        fun l inside => (Key.normalize_eq_empty_iff l).1 (normless l inside)⟩
  · rintro ⟨label, found, given, wordless⟩
    exact ⟨"", label, found, given,
      .inr ⟨⟨rfl, fun l inside => (Key.normalize_eq_empty_iff l).2 (wordless l inside)⟩, rfl⟩⟩

/-- A rejection says of a field that it has no key and was given no label exactly when the submitted
field has no key, and no label or a wordless one. -/
theorem unkeyed_of_rejected {v : Json} {summary : String} (rejected : Rejected v summary) :
    ∃ c, Config.ofJson v = .ok c ∧ c.deriveKeys.issues ≠ [] ∧
      summaryOf c.deriveKeys.issues = summary ∧
      ∀ index, ⟨Issue.fieldPath index "key", "is empty and no label was given to derive it from"⟩ ∈
        c.deriveKeys.issues ↔
        ∃ label, c.keys[index]? = some "" ∧ c.labels[index]? = some label ∧
          ∀ l ∈ label, Key.Wordless l := by
  obtain ⟨c, read, faulty, same⟩ := rejected.exists_issues
  exact ⟨c, read, faulty, same, fun index => Config.unkeyed_mem_issues_iff⟩

/-- A config that has issues after derivation is rejected as it is written. -/
theorem rejected_toJson {c : Config} (fits : c.Fits) (faulty : c.deriveKeys.issues ≠ []) :
    Rejected c.toJson (summaryOf c.deriveKeys.issues) := by
  have read := (Config.ofJson_toJson_iff_fits c).2 fits
  refine .previewed ?_
  rw [preview_eq_map, prepare_eq_error_iff.2 (.inr ⟨c, read, faulty, rfl⟩)]
  rfl

/-- Of four fields two have no key after derivation, and one of these has a label. -/
theorem unkeyed_of_rejected_uneven :
    Rejected Config.unevenKeys.toJson (summaryOf Config.unevenKeys.deriveKeys.issues) ∧
      ⟨"fields.1.key", "is empty and no label was given to derive it from"⟩ ∈
        Config.unevenKeys.deriveKeys.issues ∧
      ⟨"fields.2.key", "is empty and no label was given to derive it from"⟩ ∈
        Config.unevenKeys.deriveKeys.issues ∧
      ⟨"fields.3.key", "is empty and no label was given to derive it from"⟩ ∉
        Config.unevenKeys.deriveKeys.issues := by
  have rejected := rejected_toJson (c := Config.unevenKeys) trivial (by decide +kernel)
  obtain ⟨c, read, -, -, blamed⟩ := unkeyed_of_rejected rejected
  cases ((Config.ofJson_toJson_iff_fits Config.unevenKeys).2 trivial).symm.trans read
  have wordless : ∀ l ∈ some "é", Key.Wordless l := by decide +kernel
  have named : ¬ Key.Wordless "Full Name" := by decide +kernel
  refine ⟨rejected, (blamed 1).2 ⟨some "é", rfl, rfl, wordless⟩,
    (blamed 2).2 ⟨none, rfl, rfl, by simp⟩, ?_⟩
  intro member
  obtain ⟨label, -, given, gone⟩ := (blamed 3).1 member
  cases given
  exact named (gone "Full Name" rfl)

/-- A field can be told that it was given no label when it was given one. -/
theorem labelled_field_blamed :
    ¬ ∀ v summary c index, Rejected v summary → Config.ofJson v = .ok c →
      ⟨Issue.fieldPath index "key", "is empty and no label was given to derive it from"⟩ ∈
        c.deriveKeys.issues → c.labels[index]? = some none := by
  intro unlabelled
  have blamed : Issue.unkeyed 0 ∈ Config.foreignLabel.deriveKeys.issues := by decide +kernel
  have rejected := rejected_toJson (c := Config.foreignLabel) trivial (List.ne_nil_of_mem blamed)
  have read := (Config.ofJson_toJson_iff_fits Config.foreignLabel).2 trivial
  cases unlabelled _ _ _ 0 rejected read blamed

end ExtractionPrompt
