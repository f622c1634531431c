import ExtractionPrompt.Proofs.Registry.Creation
import ExtractionPrompt.Registry.Session

/-!
Sessions on a table.  An operation adds at most one record or removes those of one identifier.
Every record has the number of its save and no number is given twice, so a record is found under its
identifier until it is deleted.
-/

namespace ExtractionPrompt

theorem Text.ofDigitChars_padded (width n : Nat) : Nat.ofDigitChars 10 (padded width n) 0 = n := by
  rw [padded, Nat.ofDigitChars_append, Nat.ofDigitChars_replicate_zero, Nat.mul_zero,
    Nat.ofDigitChars_ten_toDigits]

theorem Identifier.eq_of_numbered_eq {m n : Nat} (same : numbered m = numbered n) : m = n := by
  have texts := String.ofList_injective (Identifier.mk.inj same)
  have digits := congrArg (fun s => Nat.ofDigitChars 10 s 0) (List.append_cancel_left texts)
  simpa only [Text.ofDigitChars_padded] using digits

namespace Table

/-- What an operation can do to a table. -/
inductive Step : Table → Operation → Table → Prop where
  | keep (t : Table) (o : Operation) : Step t o t
  | create (t : Table) (q : CreateRequest) (c : Config) (named : Admissible q.name)
      (accepted : prepare q.config = .ok c) : Step t (.create q) (t.save (q.draftOf c))
  | save (t : Table) (d : Draft) : Step t (.save d) (t.save d)
  | erase (t : Table) (id : Identifier) : Step t (.delete id) (t.erase id)

/-- Every record has the number of a save. -/
def Numbered (t : Table) : Prop := ∀ r ∈ t.records, ∃ n ≤ t.saved, r.id = Identifier.numbered n

theorem numbered_empty : empty.Numbered := by
  intro r member
  cases member

theorem Numbered.save {t : Table} (numbered : t.Numbered) (d : Draft) : (t.save d).Numbered := by
  intro r member
  rcases List.mem_append.1 member with old | new
  · obtain ⟨n, bound, same⟩ := numbered r old
    exact ⟨n, Nat.le_succ_of_le bound, same⟩
  · rw [List.mem_singleton.1 new]
    exact ⟨t.saved + 1, Nat.le_refl _, rfl⟩

theorem Numbered.erase {t : Table} (numbered : t.Numbered) (id : Identifier) :
    (t.erase id).Numbered := by
  intro r member
  exact numbered r (List.mem_filter.1 member).1

/-- The identifier of the next record is not in use. -/
theorem Numbered.get?_nextRecord {t : Table} (numbered : t.Numbered) (d : Draft) :
    t.get? (t.nextRecord d).id = none := by
  refine List.find?_eq_none.2 fun r member => ?_
  obtain ⟨n, bound, same⟩ := numbered r member
  rw [decide_eq_true_iff, same]
  intro next
  have : n = t.saved + 1 := Identifier.eq_of_numbered_eq next
  omega

theorem Numbered.get?_save_nextRecord {t : Table} (numbered : t.Numbered) (d : Draft) :
    (t.save d).get? (t.nextRecord d).id = some (t.nextRecord d) := by
  rw [get?_save, numbered.get?_nextRecord, if_pos rfl, Option.none_or]

theorem Step.numbered {t t' : Table} {o : Operation} (step : Step t o t') (numbered : t.Numbered) :
    t'.Numbered := by
  cases step with
  | keep => exact numbered
  | create q c => exact numbered.save (q.draftOf c)
  | save d => exact numbered.save d
  | erase id => exact numbered.erase id

theorem get?_save_of_eq_some {t : Table} {id : Identifier} {r : StoredRecord}
    (held : t.get? id = some r) (d : Draft) : (t.save d).get? id = some r := by
  rw [get?_save, held, Option.some_or]

/-- A record stays under its identifier as long as it is not deleted. -/
theorem Step.get?_eq_some {t t' : Table} {o : Operation} {id : Identifier} {r : StoredRecord}
    (step : Step t o t') (held : t.get? id = some r) (kept : o ≠ .delete id) :
    t'.get? id = some r := by
  cases step with
  | keep => exact held
  | create q c => exact get?_save_of_eq_some held (q.draftOf c)
  | save d => exact get?_save_of_eq_some held d
  | erase erased =>
    have other : id ≠ erased := by
      rintro rfl
      exact kept rfl
    rw [get?_erase, if_neg other, held]

end Table

namespace Store

open Table (Step)

theorem exists_next (t : Table) (o : Operation) :
    ∃ t', ((memory t).next o).2 = memory t' ∧ Step t o t' := by
  cases o with
  | create q =>
    cases created : (memory t).create q with
    | error e => exact ⟨t, by rw [next, created], .keep t _⟩
    | ok result =>
      obtain ⟨made, s⟩ := result
      obtain ⟨_, c, same, named, accepted, rfl, rfl⟩ := create_eq_ok_iff.1 created
      cases same
      exact ⟨_, by rw [next, created], .create t q c named accepted⟩
  | save d => exact ⟨_, rfl, .save t d⟩
  | get id =>
    refine ⟨t, ?_, .keep t _⟩
    rw [next]
    split <;> rfl
  | prompt id =>
    refine ⟨t, ?_, .keep t _⟩
    rw [next]
    split <;> rfl
  | delete id =>
    by_cases found : (t.get? id).isSome
    · refine ⟨t.erase id, ?_, .erase t id⟩
      simp [next, remove, delete, found, bind]
    · refine ⟨t, ?_, .keep t _⟩
      simp [next, remove, delete, found, bind]

/-- What every operation of a session keeps, the session keeps. -/
theorem exists_run {P : Table → Prop} (operations : List Operation) {t : Table} (start : P t)
    (each : ∀ o ∈ operations, ∀ t t', Step t o t' → P t → P t') :
    ∃ t', ((memory t).run operations).2 = memory t' ∧ P t' := by
  induction operations generalizing t with
  | nil => exact ⟨t, rfl, start⟩
  | cons o rest ih =>
    obtain ⟨t₁, first, step⟩ := exists_next t o
    have middle : P t₁ := each o List.mem_cons_self t t₁ step start
    obtain ⟨t', later, done⟩ := ih middle fun p member => each p (List.mem_cons_of_mem o member)
    refine ⟨t', ?_, done⟩
    rw [run]
    dsimp only
    rw [first, later]

/-- What a session can make of a fresh store. -/
def Reachable (s : Store) : Prop := ∃ operations, (fresh.run operations).2 = s

theorem Reachable.numbered {s : Store} (reached : s.Reachable) :
    ∃ t, s = memory t ∧ t.Numbered := by
  obtain ⟨operations, rfl⟩ := reached
  exact exists_run operations Table.numbered_empty fun _ _ _ _ step numbered =>
    step.numbered numbered

/-- A record stays under its identifier through every session that does not delete it. -/
theorem exists_run_of_get? {t : Table} {id : Identifier} {r : StoredRecord}
    (held : t.get? id = some r) {operations : List Operation} (kept : .delete id ∉ operations) :
    ∃ t', ((memory t).run operations).2 = memory t' ∧ t'.get? id = some r := by
  refine exists_run operations held fun o member t t' step held => step.get?_eq_some held ?_
  rintro rfl
  exact kept member

end Store

end ExtractionPrompt
