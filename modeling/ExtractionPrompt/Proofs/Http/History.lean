import ExtractionPrompt.Proofs.Http.Call
import Mathlib.Data.List.Induction
import Mathlib.Data.List.Nodup

/-!
What a sequence of requests does to a store.  An exchange that is answered 201 appends the record
that the answer shows, one that is answered 204 takes away the record whose identifier is in the
path, and every other leaves the store as it is; none is answered as an error of the server.  So a
list is what was created and not removed since.
-/

namespace ExtractionPrompt

namespace Table

/-- No two records have one identifier. -/
def Distinct (t : Table) : Prop := (t.records.map (·.id)).Nodup

theorem distinct_empty : empty.Distinct := List.nodup_nil

theorem Numbered.nextRecord_notMem {t : Table} (numbered : t.Numbered) (d : Draft) :
    (t.nextRecord d).id ∉ t.records.map (·.id) := by
  intro member
  obtain ⟨r, held, same⟩ := List.mem_map.1 member
  have absent := List.find?_eq_none.1 (numbered.get?_nextRecord d) r held
  exact absent (decide_eq_true same)

/-- A record among others has an identifier that none of them has. -/
theorem distinct_middle_iff {before after : List StoredRecord} {r : StoredRecord} {saved : Nat} :
    Distinct ⟨before ++ r :: after, saved⟩ ↔
      (∀ other ∈ before ++ after, other.id ≠ r.id) ∧ Distinct ⟨before ++ after, saved⟩ := by
  simp only [Distinct, List.map_append, List.map_cons, List.nodup_middle, List.nodup_cons]
  rw [← List.map_append, List.mem_map]
  constructor
  · rintro ⟨absent, others⟩
    exact ⟨fun other member same => absent ⟨other, member, same⟩, others⟩
  · rintro ⟨apart, others⟩
    exact ⟨fun ⟨other, member, same⟩ => apart other member same, others⟩

theorem filter_middle {keep : StoredRecord → Bool} {before after : List StoredRecord}
    {r : StoredRecord} (others : ∀ other ∈ before ++ after, keep other = true)
    (dropped : keep r = false) : (before ++ r :: after).filter keep = before ++ after := by
  rw [List.filter_append, List.filter_cons_of_neg (by simp [dropped]), ← List.filter_append,
    List.filter_eq_self.2 others]

/-- Erasing takes away the one record that is found. -/
theorem Distinct.exists_erase {t : Table} (distinct : t.Distinct) {id : Identifier}
    {r : StoredRecord} (held : t.get? id = some r) :
    ∃ before after, r.id = id ∧ t = ⟨before ++ r :: after, t.saved⟩ ∧
      t.erase id = ⟨before ++ after, t.saved⟩ := by
  obtain ⟨found, before, after, split, -⟩ := List.find?_eq_some_iff_append.1 held
  obtain ⟨records, saved⟩ := t
  cases split
  cases of_decide_eq_true found
  obtain ⟨apart, -⟩ := distinct_middle_iff.1 distinct
  refine ⟨before, after, rfl, rfl, ?_⟩
  rw [erase]
  congr 1
  exact filter_middle (fun other member => decide_eq_true (apart other member)) (by simp)

end Table

namespace Http

open Request Store

/-- What an answer says that was done. -/
inductive Effect where
  | created (record : StoredRecord)
  | removed (id : Identifier)
  | nothing

/-- A request, its answer, what was done, and the table before and after it. -/
inductive Exchange (q : Request) : Response → Effect → Table → Table → Prop where
  | created (t : Table) (record : StoredRecord) (collisions : List Collision)
      (fresh : record.id ∉ t.records.map (·.id)) :
      Exchange q (.json 201 (Created.toJson ⟨record, collisions⟩)) (.created record) t
        ⟨t.records ++ [record], t.saved + 1⟩
  | removed (before after : List StoredRecord) (record : StoredRecord) (saved : Nat)
      {segment : String}
      (place : q.endpoint? = some (.config segment))
    (named : identifierOfPath segment = .ok record.id) :
      Exchange q (.empty 204)
        (.removed record.id) ⟨before ++ record :: after, saved⟩ ⟨before ++ after, saved⟩
  | nothing (r : Response) (t : Table) (noError : r.status < 500) (notCreated : r.status ≠ 201)
      (notRemoved : r.status ≠ 204) : Exchange q r .nothing t t

/-- Requests, their answers and what was done, from an empty table to the last. -/
inductive History : List Request → List Response → List Effect → Table → Prop where
  | start : History [] [] [] .empty
  | next {requests : List Request} {responses : List Response} {effects : List Effect}
      {t t' : Table} {q : Request}
      {r : Response} {effect : Effect} (past : History requests responses effects t)
      (answered : respond (memory t) q = (r, memory t')) (exchange : Exchange q r effect t t') :
      History (requests ++ [q]) (responses ++ [r]) (effects ++ [effect]) t'

def Effect.removes (id : Identifier) : Effect → Bool
  | removed other => other == id
  | _ => false

/-- The records that were created and not removed later, in the order of their creation. -/
def survivors : List Effect → List StoredRecord
  | [] => []
  | .created record :: later =>
    if later.any (Effect.removes record.id) then survivors later else record :: survivors later
  | _ :: later => survivors later

theorem survivors_append (effects : List Effect) (last : Effect) :
    survivors (effects ++ [last]) = ((survivors effects).filter fun r => !last.removes r.id) ++
      survivors [last] := by
  induction effects with
  | nil => rfl
  | cons first later ih =>
    cases first with
    | created record =>
      simp only [List.cons_append, survivors, List.any_append, List.any_cons,
        List.any_nil, Bool.or_false]
      by_cases gone : later.any (Effect.removes record.id) = true
      · simp [gone, ih]
      · by_cases now : last.removes record.id = true
        · simp [gone, now, ih]
        · simp [gone, now, ih]
    | removed id => exact ih
    | nothing => exact ih

theorem Exchange.distinct {q : Request} {r : Response} {effect : Effect} {t t' : Table}
    (exchange : Exchange q r effect t t') (distinct : t.Distinct) : t'.Distinct := by
  cases exchange with
  | created t record collisions fresh =>
    rw [Table.Distinct, List.map_append]
    refine List.nodup_append.2 ⟨distinct, by simp, ?_⟩
    rintro id old other new rfl
    cases List.mem_singleton.1 new
    exact fresh old
  | removed before after record saved place named => exact (Table.distinct_middle_iff.1 distinct).2
  | nothing => exact distinct

theorem History.distinct {requests : List Request} {responses : List Response}
    {effects : List Effect} {t : Table} (history : History requests responses effects t) :
    t.Distinct := by
  induction history with
  | start => exact Table.distinct_empty
  | next past answered exchange ih => exact exchange.distinct ih

/-- A table holds what was created and not removed since. -/
theorem History.records_eq {requests : List Request} {responses : List Response}
    {effects : List Effect} {t : Table} (history : History requests responses effects t) :
    t.records = survivors effects := by
  induction history with
  | start => rfl
  | next past answered exchange ih =>
    have distinct := past.distinct
    rw [survivors_append, ← ih]
    cases exchange with
    | created t record collisions fresh => simp [Effect.removes, survivors]
    | removed before after record saved place named =>
      obtain ⟨apart, -⟩ := Table.distinct_middle_iff.1 distinct
      have others : ∀ other ∈ before ++ after,
          (!(Effect.removed record.id).removes other.id) = true := by
        intro other member
        simpa [Effect.removes] using (apart other member).symm
      rw [Table.filter_middle others (by simp [Effect.removes])]
      exact (List.append_nil _).symm
    | nothing r t => simp [Effect.removes, survivors]

theorem receives_of_ne {q : Request} (method : q.method ≠ .head) (r : Response) :
    q.receives r = r := if_neg method

theorem status_getConfig (t : Table) (id : Identifier) :
    (getConfig (memory t) id).status ∈ idleStatuses := by
  cases held : t.get? id with
  | none =>
    have missing : getConfig (memory t) id = .ofFailure (noRecord id) := by
      simp [getConfig, fetch, Store.get?, held, bind]
    rw [missing]
    exact (by decide : 404 ∈ idleStatuses)
  | some r =>
    have found : getConfig (memory t) id = .json 200 r.toJson := by
      simp [getConfig, fetch, Store.get?, held, bind]
    rw [found]
    exact (by decide : 200 ∈ idleStatuses)

theorem status_getPrompt (t : Table) (id : Identifier) :
    (getPrompt (memory t) id).status ∈ idleStatuses := by
  cases held : t.get? id with
  | none =>
    have missing : getPrompt (memory t) id = .ofFailure (noRecord id) := by
      simp [getPrompt, promptOf, fetch, Store.get?, held, bind, Except.bind]
    rw [missing]
    exact (by decide : 404 ∈ idleStatuses)
  | some r =>
    rw [getPrompt, promptOf_of_get? held]
    exact (by decide : 200 ∈ idleStatuses)

theorem deleteConfig_of_none {t : Table} {id : Identifier} (absent : t.get? id = none) :
    deleteConfig (memory t) id = (Response.ofFailure (noRecord id), memory t) := by
  simp [deleteConfig, remove, Store.delete, absent, bind]

theorem deleteConfig_of_some {t : Table} {id : Identifier} {r : StoredRecord}
    (held : t.get? id = some r) :
    deleteConfig (memory t) id = (Response.empty 204, memory (t.erase id)) := by
  simp [deleteConfig, remove, Store.delete, held, bind]

theorem Exchange.of_idle {q : Request} {r : Response} (t : Table) (idle : r.status ∈ idleStatuses) :
    Exchange q r .nothing t t := by
  have harmless : ∀ n ∈ idleStatuses, n < 500 ∧ n ≠ 201 ∧ n ≠ 204 := by decide
  obtain ⟨noError, notCreated, notRemoved⟩ := harmless r.status idle
  exact .nothing r t noError notCreated notRemoved

/-- Every request makes an exchange with a table that came about by exchanges. -/
theorem exists_exchange {t : Table} (numbered : t.Numbered) (distinct : t.Distinct) (q : Request) :
    ∃ effect t', (respond (memory t) q).2 = memory t' ∧
      Exchange q (respond (memory t) q).1 effect t t' ∧
      t'.Numbered := by
  have looked {r : Response} (idle : r.status ∈ idleStatuses) :
      Exchange q (q.receives r) .nothing t t :=
    .of_idle t ((status_receives q r).symm ▸ idle)
  rcases makes_or_settled q with ⟨call, makes⟩ | ⟨r, idle, same⟩
  · rw [respond_of_makes makes]
    cases makes with
    | list place method user =>
      exact ⟨.nothing, t, rfl, looked (by decide : 200 ∈ idleStatuses), numbered⟩
    | @create r d collisions place method body vetted =>
      rw [receives_of_ne (by simp [method])]
      exact ⟨_, t.save d, rfl,
        .created t (t.nextRecord d) collisions (numbered.nextRecord_notMem d), numbered.save d⟩
    | @get segment id place method named =>
      exact ⟨.nothing, t, rfl, looked (status_getConfig t id), numbered⟩
    | @prompt segment id place method named =>
      exact ⟨.nothing, t, rfl, looked (status_getPrompt t id), numbered⟩
    | @delete segment id place method named =>
      rw [Call.answer]
      cases held : t.get? id with
      | none =>
        rw [deleteConfig_of_none held]
        exact ⟨.nothing, t, rfl, looked (by decide : 404 ∈ idleStatuses), numbered⟩
      | some r =>
        obtain ⟨before, after, rfl, whole, erased⟩ := distinct.exists_erase held
        rw [deleteConfig_of_some held, receives_of_ne (by simp [method])]
        refine ⟨.removed r.id, t.erase r.id, rfl, ?_, numbered.erase r.id⟩
        rw [erased, whole]
        exact .removed before after r t.saved place named
  · rw [same]
    exact ⟨.nothing, t, rfl, .of_idle t idle, numbered⟩

theorem exists_history (requests : List Request) :
    ∃ effects t, (respondAll fresh requests).2 = memory t ∧
      History requests (respondAll fresh requests).1 effects t ∧ t.Numbered := by
  induction requests using List.reverseRecOn with
  | nil => exact ⟨[], .empty, rfl, .start, Table.numbered_empty⟩
  | append_singleton past q ih =>
    obtain ⟨effects, t, reached, history, numbered⟩ := ih
    obtain ⟨effect, t', after, exchange, stillNumbered⟩ :=
      exists_exchange numbered history.distinct q
    have answered : respond (memory t) q = ((respond (memory t) q).1, memory t') := by rw [← after]
    rw [respondAll_concat, reached]
    exact ⟨effects ++ [effect], t', after, history.next answered exchange, stillNumbered⟩

theorem History.status_lt {requests : List Request} {responses : List Response}
    {effects : List Effect} {t : Table} (history : History requests responses effects t) :
    ∀ r ∈ responses, r.status < 500 := by
  induction history with
  | start => simp
  | next past answered exchange ih =>
    intro r member
    rcases List.mem_append.1 member with earlier | last
    · exact ih r earlier
    · cases List.mem_singleton.1 last
      cases exchange with
      | created t record collisions fresh => exact (by decide : 201 < 500)
      | removed before after record saved place named => exact (by decide : 204 < 500)
      | nothing r t noError => exact noError

def creation (contentType : String) : Request :=
  ⟨.post, "/api/v1/extraction-configs", some contentType,
    "[\"00000000-0000-4000-8000-00000000000a\",\"A\",\x7b\"version\":\"v1\",\"fields\":[]\x7d]"⟩

/-- Two records of one user, and the first of them deleted under another spelling of its
identifier. -/
def firstDeleted : List Request :=
  [creation "application/json", creation "text/json", creation "application/json",
    ⟨.delete, "/api/v1/extraction-configs/00000000000040008000000000000001", none, ""⟩]

def listing : Request :=
  ⟨.get, "/api/v1/extraction-configs?user_id=00000000-0000-4000-8000-00000000000A", none, ""⟩

def owner : Identifier := ⟨"00000000-0000-4000-8000-00000000000a"⟩

end Http

end ExtractionPrompt
