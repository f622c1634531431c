import ExtractionPrompt.Proofs.Registry.Numbering

/-!
The life of a record over whole sessions.  From its creation on it is answered as it was made, until
its identifier is deleted with success; from then on the identifier is not found, for no later save
can take it again.  No other operation touches the record, and none that fails touches the store.
-/

namespace ExtractionPrompt

/-- What a record is when it was created: under a name without blanks at its ends, with a config
that passes. -/
structure StoredRecord.Admitted (r : StoredRecord) : Prop where
  blankFirst : ∀ c, r.name.toList.head? = some c → Text.isWhiteSpace c = false
  blankLast : ∀ c, r.name.toList.getLast? = some c → Text.isWhiteSpace c = false
  present : 1 ≤ r.name.length
  fits : r.name.length ≤ maxNameLength
  passes : ∃ c, Config.ofJson r.config = .ok c ∧ c.passes = true

namespace Table

/-- The identifier was given to a record, which may have been deleted since. -/
def Issued (t : Table) (id : Identifier) : Prop := ∃ n ≤ t.saved, id = Identifier.numbered n

theorem issued_save (t : Table) (d : Draft) : (t.save d).Issued (t.nextRecord d).id :=
  ⟨t.saved + 1, Nat.le_refl _, rfl⟩

/-- An identifier that was given is not given again. -/
theorem Issued.ne_nextRecord {t : Table} {id : Identifier} (issued : t.Issued id) (d : Draft) :
    (t.nextRecord d).id ≠ id := by
  obtain ⟨n, bound, rfl⟩ := issued
  intro same
  have : t.saved + 1 = n := Identifier.eq_of_numbered_eq same
  omega

theorem Issued.get?_save {t : Table} {id : Identifier} (issued : t.Issued id) (d : Draft) :
    (t.save d).get? id = t.get? id := by
  rw [Table.get?_save, if_neg (issued.ne_nextRecord d), Option.or_none]

theorem Step.issued {t t' : Table} {o : Operation} {id : Identifier} (step : Step t o t')
    (issued : t.Issued id) :
    t'.Issued id := by
  obtain ⟨n, bound, same⟩ := issued
  cases step with
  | keep => exact ⟨n, bound, same⟩
  | create q c => exact ⟨n, Nat.le_succ_of_le bound, same⟩
  | save d => exact ⟨n, Nat.le_succ_of_le bound, same⟩
  | erase erased => exact ⟨n, bound, same⟩

/-- Only a deletion of its own identifier touches what is held under one that was given. -/
theorem Step.get?_eq {t t' : Table} {o : Operation} {id : Identifier} (step : Step t o t')
    (issued : t.Issued id) (other : o ≠ .delete id) : t'.get? id = t.get? id := by
  cases step with
  | keep => rfl
  | create q c => exact issued.get?_save (q.draftOf c)
  | save d => exact issued.get?_save d
  | erase erased =>
    have apart : id ≠ erased := by
      rintro rfl
      exact other rfl
    rw [get?_erase, if_neg apart]

end Table

namespace Store

open Table (Step)

/-- What a session did: every operation beside its answer. -/
def transcript (s : Store) (operations : List Operation) : List (Operation × Answer) :=
  operations.zip (s.run operations).1

theorem transcript_cons (s : Store) (o : Operation) (rest : List Operation) :
    s.transcript (o :: rest) = (o, (s.next o).1) :: (s.next o).2.transcript rest := rfl

/-- A failed operation leaves the store as it was. -/
theorem next_of_failed {s : Store} {o : Operation} {e : Failure}
    (failed : (s.next o).1 = .failed e) : (s.next o).2 = s := by
  cases o with
  | create q | save d | get id | prompt id | delete id =>
    rw [next] at failed ⊢
    split at failed
    · cases failed
    · rfl

/-- The record is answered as it was made, and it can be deleted. -/
structure Answers (s : Store) (r : StoredRecord) : Prop where
  get : s.next (.get r.id) = (.found r, s)
  prompt : s.next (.prompt r.id) = (.prompt r.prompt (storedKeys r.config), s)
  delete : (s.next (.delete r.id)).1 = .deleted

/-- No operation finds the identifier. -/
structure Lacks (s : Store) (id : Identifier) : Prop where
  get : s.next (.get id) = (.failed (noRecord id), s)
  prompt : s.next (.prompt id) = (.failed (noRecord id), s)
  delete : s.next (.delete id) = (.failed (noRecord id), s)

theorem answers_of_get? {t : Table} {r : StoredRecord} (held : t.get? r.id = some r) :
    (memory t).Answers r := by
  constructor
  · simp [next, fetch, get?, held, bind]
  · simp [next, promptOf, fetch, get?, held, bind]
  · simp [next, remove, delete, held, bind]

theorem lacks_of_get? {t : Table} {id : Identifier} (absent : t.get? id = none) :
    (memory t).Lacks id := by
  constructor
  · simp [next, fetch, get?, absent, bind]
  · simp [next, promptOf, fetch, get?, absent, bind, Except.bind]
  · simp [next, remove, delete, absent, bind]

/-- What an operation does to an identifier that was given: a deletion with success takes its record
away, and nothing else touches it. -/
theorem exists_next_of_issued {t : Table} {id : Identifier} (issued : t.Issued id) (o : Operation) :
    ∃ t', ((memory t).next o).2 = memory t' ∧ t'.Issued id ∧
      (o = .delete id ∧ ((memory t).next o).1 = .deleted ∧ t'.get? id = none ∨
        (o, ((memory t).next o).1) ≠ (.delete id, .deleted) ∧ t'.get? id = t.get? id) := by
  obtain ⟨t', after, step⟩ := exists_next t o
  refine ⟨t', after, step.issued issued, ?_⟩
  by_cases own : o = .delete id
  · subst own
    cases held : t.get? id with
    | none =>
      have lacks := lacks_of_get? held
      rw [lacks.delete] at after ⊢
      cases after
      exact .inr ⟨by simp, held⟩
    | some r =>
      have erased : (memory t).next (.delete id) = (.deleted, memory (t.erase id)) := by
        simp [next, remove, delete, held, bind]
      rw [erased] at after ⊢
      cases after
      refine .inl ⟨rfl, rfl, ?_⟩
      rw [Table.get?_erase, if_pos rfl]
  · refine .inr ⟨?_, step.get?_eq issued own⟩
    intro same
    exact own (Prod.mk.inj same).1

/-- After a session, what is held under an identifier that was given before is what was held then,
unless the session deleted it. -/
theorem exists_run_of_issued {t : Table} {id : Identifier} (issued : t.Issued id)
    (operations : List Operation) :
    ∃ t', ((memory t).run operations).2 = memory t' ∧ t'.Issued id ∧
      ((.delete id, .deleted) ∈ (memory t).transcript operations → t'.get? id = none) ∧
      ((.delete id, .deleted) ∉ (memory t).transcript operations → t'.get? id = t.get? id) := by
  induction operations generalizing t with
  | nil => exact ⟨t, rfl, issued, fun member => absurd member List.not_mem_nil, fun _ => rfl⟩
  | cons o rest ih =>
    obtain ⟨t₁, first, given, effect⟩ := exists_next_of_issued issued o
    obtain ⟨t', later, stillGiven, gone, kept⟩ := ih given
    refine ⟨t', ?_, stillGiven, ?_⟩
    · rw [run]
      dsimp only
      rw [first, later]
    · rw [transcript_cons, first]
      rcases effect with ⟨rfl, deleted, absent⟩ | ⟨other, same⟩
      · -- Whether it is deleted once more or not, nothing is held any longer.
        have unheld : t'.get? id = none := by
          by_cases again : (.delete id, .deleted) ∈ (memory t₁).transcript rest
          · exact gone again
          · rw [kept again, absent]
        rw [deleted]
        exact ⟨fun _ => unheld, fun never => absurd List.mem_cons_self never⟩
      · constructor
        · intro member
          rcases List.mem_cons.1 member with here | behind
          · exact absurd here.symm other
          · exact gone behind
        · intro never
          rw [List.mem_cons, not_or] at never
          rw [kept never.2, same]

/-- What was created is admitted. -/
theorem admitted_of_create {s s₁ : Store} {q : CreateRequest} {made : Created}
    (created : s.create q = .ok (made, s₁)) :
    made.record.Admitted := by
  obtain ⟨t, c, -, ⟨present, fits⟩, accepted, rfl, -⟩ := create_eq_ok_iff.1 created
  have trimmed : (t.nextRecord (q.draftOf c)).name = Text.trim q.name := rfl
  constructor
  · intro d first
    rw [trimmed, Text.trim, String.toList_ofList] at first
    exact Text.head?_trimBy _ _ d first
  · intro d last
    rw [trimmed, Text.trim, String.toList_ofList] at last
    exact Text.getLast?_trimBy _ _ d last
  · rw [trimmed, Nat.one_le_iff_ne_zero]
    intro empty
    exact present (String.length_eq_zero_iff.1 empty)
  · exact fits
  · exact ⟨c, ofJson_toJson_of_prepare accepted, (prepare_eq_ok_iff.1 accepted).2⟩

/-- In every session, what a creation made is admitted; it is answered as it was made until its
identifier is deleted with success, and never found after that.  Operations that name other
identifiers and those that fail leave it as it is. -/
theorem record_life {before : List Operation} {q : CreateRequest} {made : Created} {s₁ : Store}
    (created : (fresh.run before).2.next (.create q) = (.created made, s₁)) :
    made.record.Admitted ∧ ∀ later s, (s₁.run later).2 = s →
      ((.delete made.record.id, .deleted) ∉ s₁.transcript later → s.Answers made.record) ∧
      ((.delete made.record.id, .deleted) ∈ s₁.transcript later → s.Lacks made.record.id) ∧
      (∀ o, o ≠ .delete made.record.id → (s.next o).2.get? made.record.id = s.get? made.record.id) ∧
      (∀ o e, (s.next o).1 = .failed e → (s.next o).2 = s) := by
  have done : (fresh.run before).2.create q = .ok (made, s₁) := by
    rw [next] at created
    split at created
    · rename_i found
      cases created
      exact found
    · cases created
  have reached : (fresh.run before).2.Reachable := ⟨before, rfl⟩
  obtain ⟨_, same, numbered⟩ := reached.numbered
  obtain ⟨t, c, start, -, -, rfl, rfl⟩ := create_eq_ok_iff.1 done
  cases start.symm.trans same
  have held := numbered.get?_save_nextRecord (q.draftOf c)
  refine ⟨admitted_of_create done, ?_⟩
  rintro later s rfl
  obtain ⟨t', ran, issued, gone, kept⟩ :=
    exists_run_of_issued (Table.issued_save _ (q.draftOf c)) later
  rw [ran]
  refine ⟨?_, ?_, ?_, ?_⟩
  · intro never
    exact answers_of_get? ((kept never).trans held)
  · intro deleted
    exact lacks_of_get? (gone deleted)
  · intro o other
    obtain ⟨t'', after, step⟩ := exists_next t' o
    rw [after]
    exact congrArg Except.ok (step.get?_eq issued other)
  · intro o e failed
    exact next_of_failed failed

/-- A record as an earlier compiler may have left it. -/
def oddDraft : Draft := ⟨Identifier.numbered 7, " ", .null, "old"⟩

/-- The second record of a session, between deletions of the first one, and behind its own. -/
theorem record_life_unkeyed :
    ∃ made s₁,
      (fresh.run [.save oddDraft, .delete (Identifier.numbered 1)]).2.next
          (.create unkeyedRequest) = (.created made, s₁) ∧
      made.record.Admitted ∧
      (s₁.run [.delete (Identifier.numbered 1), .save oddDraft]).2.Answers made.record ∧
      (s₁.run [.delete (Identifier.numbered 2), .create unkeyedRequest]).2.Lacks
        made.record.id := by
  obtain ⟨made, s₁, created, second, failed, deleted⟩ : ∃ made s₁,
      (fresh.run [.save oddDraft, .delete (Identifier.numbered 1)]).2.next
          (.create unkeyedRequest) = (.created made, s₁) ∧
        made.record.id = Identifier.numbered 2 ∧
        (s₁.next (.delete (Identifier.numbered 1))).1 = .failed (noRecord (Identifier.numbered 1)) ∧
        (s₁.next (.delete (Identifier.numbered 2))).1 = .deleted := ⟨_, _, rfl, rfl, rfl, rfl⟩
  obtain ⟨admitted, life⟩ := record_life created
  refine ⟨made, s₁, created, admitted, (life _ _ rfl).1 ?_, (life _ _ rfl).2.1 ?_⟩
  · rw [second, transcript_cons, failed, transcript_cons]
    simp [transcript]
  · rw [second, transcript_cons, deleted]
    exact List.mem_cons_self

end Store

end ExtractionPrompt
