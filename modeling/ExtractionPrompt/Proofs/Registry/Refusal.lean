import ExtractionPrompt.Proofs.Registry.Creation
import ExtractionPrompt.Registry.Session

/-!
Why a record is not created.  A request is refused for the first of four causes, and none of them is
to be found in the store; so every store refuses the same requests for the same causes and stays as
it was.  Only a request that nothing speaks against reaches the store, and gains it one record or
meets its outage.
-/

namespace ExtractionPrompt

namespace CreateRequest

/-- The causes in their order: each holds only where those before it do not. -/
inductive Refused (q : CreateRequest) : Failure → Prop where
  | blankName (blank : Text.trim q.name = "") : Refused q (.invalid "name cannot be empty")
  | longName (present : Text.trim q.name ≠ "") (long : 128 < (Text.trim q.name).length) :
      Refused q (.invalid "name cannot exceed 128 characters")
  | unreadable (named : Admissible q.name) {error : ConfigError}
      (unread : Config.ofJson q.config = .error error) : Refused q (.config error)
  | faulty (named : Admissible q.name) {c : Config} (read : Config.ofJson q.config = .ok c)
      (issues : c.deriveKeys.issues ≠ []) : Refused q (.invalid (summaryOf c.deriveKeys.issues))

theorem refused_iff_of_admissible {q : CreateRequest} (named : Admissible q.name) {e : Failure} :
    q.Refused e ↔ prepare q.config = .error e := by
  rw [prepare_eq_error_iff]
  constructor
  · intro refused
    cases refused with
    | blankName blank => exact absurd blank named.1
    | longName present long => exact absurd long (Nat.not_lt.2 named.2)
    | unreadable named unread => exact .inl ⟨_, unread, rfl⟩
    | faulty named read issues => exact .inr ⟨_, read, issues, rfl⟩
  · rintro (⟨cause, unread, rfl⟩ | ⟨c, read, issues, rfl⟩)
    · exact .unreadable named unread
    · exact .faulty named read issues

theorem vet_eq_error_iff {q : CreateRequest} {e : Failure} : q.vet = .error e ↔ q.Refused e := by
  by_cases blank : Text.trim q.name = ""
  · rw [vet, if_pos blank]
    constructor
    · intro same
      cases same
      exact .blankName blank
    · intro refused
      cases refused with
      | blankName => rfl
      | longName present => exact absurd blank present
      | unreadable named | faulty named => exact absurd blank named.1
  · by_cases long : maxNameLength < (Text.trim q.name).length
    · rw [vet, if_neg blank, if_pos long]
      constructor
      · intro same
        cases same
        exact .longName blank long
      · intro refused
        cases refused with
        | blankName empty => exact absurd empty blank
        | longName => rfl
        | unreadable named | faulty named => exact absurd long (Nat.not_lt.2 named.2)
    · have named : Admissible q.name := ⟨blank, Nat.not_lt.1 long⟩
      rw [refused_iff_of_admissible named, vet_of_admissible named]
      cases prepare q.config <;> simp [Except.map]

/-- A request is refused, or else it is known what is to be stored for it. -/
theorem refused_or_vetted (q : CreateRequest) :
    (∃ e, q.Refused e) ∨ ∃ d collisions, q.vet = .ok (d, collisions) := by
  cases vetted : q.vet with
  | error e => exact .inl ⟨e, vet_eq_error_iff.1 vetted⟩
  | ok result => exact .inr ⟨result.1, result.2, rfl⟩

end CreateRequest

namespace Store

/-- No store is asked about a request that is refused. -/
theorem create_of_refused {q : CreateRequest} {e : Failure} (refused : q.Refused e) (s : Store) :
    s.create q = .error e := by
  rw [create, CreateRequest.vet_eq_error_iff.2 refused]
  rfl

/-- What is not refused is saved at once, and nothing can go wrong after that. -/
theorem create_of_vetted {q : CreateRequest} {d : Draft} {collisions : List Collision}
    (vetted : q.vet = .ok (d, collisions)) (s : Store) :
    s.create q = (s.save d).map fun (record, after) => (⟨record, collisions⟩, after) := by
  rw [create, vetted]
  cases s <;> rfl

/-- An open store fails to create exactly what is refused, whatever it holds; it stays as it was,
and a store that has lost its database fails alike.  What is not refused adds one record to the end
of an open store, and only then does an outage show. -/
theorem create_refused_before_store (t : Table) (q : CreateRequest) :
    (∀ e, (memory t).create q = .error e ↔ q.Refused e) ∧
      (∀ e, q.Refused e → (memory t).next (.create q) = (.failed e, memory t) ∧
        closed.create q = .error e) ∧
      ((∀ e, ¬ q.Refused e) → ∃ made t', (memory t).next (.create q) = (.created made, memory t') ∧
        t'.records = t.records ++ [made.record] ∧ closed.create q = .error outage) := by
  refine ⟨?_, ?_, ?_⟩
  · intro e
    constructor
    · intro failed
      rcases q.refused_or_vetted with ⟨other, refused⟩ | ⟨d, collisions, vetted⟩
      · rw [create_of_refused refused] at failed
        cases failed
        exact refused
      · rw [create_of_vetted vetted] at failed
        cases failed
    · intro refused
      exact create_of_refused refused (memory t)
  · intro e refused
    refine ⟨?_, create_of_refused refused closed⟩
    rw [next, create_of_refused refused]
  · intro never
    rcases q.refused_or_vetted with ⟨e, refused⟩ | ⟨d, collisions, vetted⟩
    · exact absurd refused (never e)
    · refine ⟨⟨t.nextRecord d, collisions⟩, t.save d, ?_, rfl, ?_⟩
      · rw [next, create_of_vetted vetted]
        rfl
      · rw [create_of_vetted vetted]
        rfl

/-- Neither its name nor its config would do; the name comes first. -/
def namelessRequest : CreateRequest := ⟨Identifier.numbered 1, "\u2003 ", .null⟩

/-- A refused request and one that is not, on a store with a record. -/
theorem create_refused_before_store_nameless :
    ∃ t made t', t.records.length = 1 ∧
      (memory t).next (.create namelessRequest) =
        (.failed (.invalid "name cannot be empty"), memory t) ∧
      closed.create namelessRequest = .error (.invalid "name cannot be empty") ∧
      (memory t).next (.create unkeyedRequest) = (.created made, memory t') ∧
      t'.records = t.records ++ [made.record] ∧ closed.create unkeyedRequest = .error outage := by
  obtain ⟨first, t, created⟩ : ∃ made t, fresh.create unkeyedRequest = .ok (made, memory t) :=
    ⟨_, _, rfl⟩
  have one : t.records.length = 1 := by
    cases created
    rfl
  have blank : namelessRequest.Refused (.invalid "name cannot be empty") := .blankName (by decide)
  obtain ⟨-, unchanged, -⟩ := create_refused_before_store t namelessRequest
  obtain ⟨failed, failedAlike⟩ := unchanged _ blank
  have fine : ∀ e, ¬ unkeyedRequest.Refused e := by
    intro e refused
    rw [create_of_refused refused] at created
    cases created
  obtain ⟨-, -, grown⟩ := create_refused_before_store t unkeyedRequest
  obtain ⟨made, t', added, last, lost⟩ := grown fine
  exact ⟨t, made, t', one, failed, failedAlike, added, last, lost⟩

end Store

end ExtractionPrompt
