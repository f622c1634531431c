import ExtractionPrompt.Http.Service
import ExtractionPrompt.Proofs.Registry.Lookup
import ExtractionPrompt.Proofs.Registry.Refusal

/-!
What a request asks of the store.  A request whose parts can all be read, and which is not refused,
makes one call and is answered with what comes of it.  Every other request has its answer before a
store is reached, the same for every store.
-/

namespace ExtractionPrompt.Http

/-- The calls that reach a store. -/
inductive Call where
  | list (userId : Identifier)
  | save (draft : Draft) (collisions : List Collision)
  | get (id : Identifier)
  | prompt (id : Identifier)
  | delete (id : Identifier)

def Call.answer (s : Store) : Call → Response × Store
  | list userId =>
    match s.ofUser userId with
    | .ok records => (.json 200 (.array (records.map StoredRecord.toJson)), s)
    | .error e => (.ofFailure e, s)
  | save d collisions =>
    match s.save d with
    | .ok (record, s) => (.json 201 (Created.toJson ⟨record, collisions⟩), s)
    | .error e => (.ofFailure e, s)
  | get id => (getConfig s id, s)
  | prompt id => (getPrompt s id, s)
  | delete id => deleteConfig s id

namespace Request

def target (q : Request) : Target := Target.ofUri q.uri

def endpoint? (q : Request) : Option Endpoint := Endpoint.ofPath? q.target.path

/-- The body is announced as JSON, not too large, and holds `a`. -/
structure Carries {α : Type} (q : Request) (read : String → Except BodyFault α) (a : α) : Prop where
  announced : (q.contentType.map isJsonType).getD false = true
  fits : q.body.utf8ByteSize ≤ maxBodySize
  holds : read q.body = .ok a

/-- What has to be read of a request, and not to be refused, for each call. -/
inductive Makes (q : Request) : Call → Prop where
  | list {userId : Identifier} (place : q.endpoint? = some .configs)
      (method : q.method = .get ∨ q.method = .head)
      (user : userOfQuery q.target.query = .ok userId) : Makes q (.list userId)
  | create {r : CreateRequest} {d : Draft} {collisions : List Collision}
      (place : q.endpoint? = some .configs) (method : q.method = .post)
      (body : q.Carries readCreate r) (vetted : r.vet = .ok (d, collisions)) :
      Makes q (.save d collisions)
  | get {segment : String} {id : Identifier} (place : q.endpoint? = some (.config segment))
      (method : q.method = .get ∨ q.method = .head) (named : identifierOfPath segment = .ok id) :
      Makes q (.get id)
  | prompt {segment : String} {id : Identifier} (place : q.endpoint? = some (.prompt segment))
      (method : q.method = .get ∨ q.method = .head) (named : identifierOfPath segment = .ok id) :
      Makes q (.prompt id)
  | delete {segment : String} {id : Identifier} (place : q.endpoint? = some (.config segment))
      (method : q.method = .delete) (named : identifierOfPath segment = .ok id) :
      Makes q (.delete id)

/-- Only the head of an answer is sent to a request that asks for no more. -/
def receives (q : Request) (r : Response) : Response :=
  if q.method = .head then r.withoutBody else r

/-- The statuses of the answers to requests that change nothing and meet no error of the server. -/
def idleStatuses : List Nat := [200, 400, 404, 405, 413, 415, 422]

/-- The answer is the same for every store, and leaves it as it is. -/
def Settled (q : Request) : Prop :=
  ∃ r : Response, r.status ∈ idleStatuses ∧ ∀ s, respond s q = (r, s)

end Request

open Request

theorem withBody_of_carries {α : Type} {q : Request} {read : String → Except BodyFault α} {a : α}
    (carries : q.Carries read a) (s : Store) (serve : α → Response × Store) :
    withBody q s read serve = serve a := by
  obtain ⟨announced, fits, holds⟩ := carries
  rw [withBody, if_pos announced, if_neg (Nat.not_lt.2 fits), holds]

theorem carries_or_settled {α : Type} (q : Request) (read : String → Except BodyFault α) :
    (∃ a, q.Carries read a) ∨ ∃ r : Response, r.status ∈ idleStatuses ∧
      ∀ (s : Store) (serve : α → Response × Store), withBody q s read serve = (r, s) := by
  by_cases announced : (q.contentType.map isJsonType).getD false = true
  · by_cases large : maxBodySize < q.body.utf8ByteSize
    · refine .inr ⟨_, ?_, fun s serve => by rw [withBody, if_pos announced, if_pos large]⟩
      exact (by decide : 413 ∈ idleStatuses)
    · cases holds : read q.body with
      | ok a => exact .inl ⟨a, announced, Nat.not_lt.1 large, holds⟩
      | error fault =>
        cases fault with
        | malformed =>
          refine .inr ⟨.text 400 BodyFault.malformed.message, (by decide : 400 ∈ idleStatuses),
            fun s serve => ?_⟩
          rw [withBody, if_pos announced, if_neg large, holds]
        | mismatch place fault =>
          refine .inr ⟨.text 422 (BodyFault.mismatch place fault).message,
            (by decide : 422 ∈ idleStatuses), fun s serve => ?_⟩
          rw [withBody, if_pos announced, if_neg large, holds]
  · refine .inr ⟨_, ?_, fun s serve => by rw [withBody, if_neg announced]⟩
    exact (by decide : 415 ∈ idleStatuses)

theorem withIdentifier_of_named {segment : String} {id : Identifier}
    (named : identifierOfPath segment = .ok id) (s : Store)
    (serve : Identifier → Response × Store) : withIdentifier segment s serve = serve id := by
  rw [withIdentifier, named]

theorem named_or_settled (segment : String) :
    (∃ id, identifierOfPath segment = .ok id) ∨ ∃ r : Response, r.status ∈ idleStatuses ∧
      ∀ (s : Store) (serve : Identifier → Response × Store),
        withIdentifier segment s serve = (r, s) := by
  cases named : identifierOfPath segment with
  | ok id => exact .inl ⟨id, rfl⟩
  | error fault =>
    refine .inr ⟨.text 400 fault.message, (by decide : 400 ∈ idleStatuses), fun s serve => ?_⟩
    rw [withIdentifier, named]

/-- A request that is refused was at fault itself. -/
theorem status_ofFailure_of_refused {r : CreateRequest} {e : Failure} (refused : r.Refused e) :
    (Response.ofFailure e).status ∈ idleStatuses := by
  cases refused with
  | blankName | longName | faulty => exact (by decide : 400 ∈ idleStatuses)
  | unreadable => exact (by decide : 422 ∈ idleStatuses)

theorem status_previewConfig (config : Json) : (previewConfig config).status ∈ idleStatuses := by
  rw [previewConfig, preview_eq_map]
  cases prepared : prepare config with
  | ok c => exact (by decide : 200 ∈ idleStatuses)
  | error e =>
    rcases prepare_eq_error_iff.1 prepared with ⟨cause, -, rfl⟩ | ⟨c, -, -, rfl⟩
    · exact (by decide : 422 ∈ idleStatuses)
    · exact (by decide : 400 ∈ idleStatuses)

/-- A request whose place answers to its method is served there. -/
theorem respond_of_allowed {q : Request} {e : Endpoint} (place : q.endpoint? = some e)
    (allowed : q.method ∈ e.methods) (s : Store) :
    respond s q = (q.receives (serve s q q.target.query e).1, (serve s q q.target.query e).2) := by
  have contained : e.methods.contains q.method = true := List.contains_iff_mem.2 allowed
  have found : Endpoint.ofPath? (Target.ofUri q.uri).path = some e := place
  rw [respond]
  simp only [found, contained, if_true]
  rfl

/-- A request that makes a call is answered with what comes of it. -/
theorem respond_of_makes {q : Request} {call : Call} (makes : q.Makes call) (s : Store) :
    respond s q = (q.receives (call.answer s).1, (call.answer s).2) := by
  cases makes with
  | list place method user =>
    have allowed : q.method ∈ Endpoint.configs.methods := by
      rcases method with same | same <;> simp [Endpoint.methods, same]
    have other : q.method ≠ .post := by rcases method with same | same <;> simp [same]
    rw [respond_of_allowed place allowed]
    simp only [serve, if_neg other, listConfigs, user, Call.answer]
    cases s.ofUser _ <;> rfl
  | create place method body vetted =>
    have allowed : q.method ∈ Endpoint.configs.methods := by simp [Endpoint.methods, method]
    rw [respond_of_allowed place allowed]
    simp only [serve, if_pos method, withBody_of_carries body, createConfig,
      Store.create_of_vetted vetted, Call.answer]
    cases s.save _ <;> rfl
  | @get segment id place method named =>
    have allowed : q.method ∈ (Endpoint.config segment).methods := by
      rcases method with same | same <;> simp [Endpoint.methods, same]
    have other : q.method ≠ .delete := by rcases method with same | same <;> simp [same]
    rw [respond_of_allowed place allowed]
    simp only [serve, if_neg other, withIdentifier_of_named named, Call.answer]
  | @prompt segment id place method named =>
    have allowed : q.method ∈ (Endpoint.prompt segment).methods := by
      rcases method with same | same <;> simp [Endpoint.methods, same]
    rw [respond_of_allowed place allowed]
    simp only [serve, withIdentifier_of_named named, Call.answer]
  | @delete segment id place method named =>
    have allowed : q.method ∈ (Endpoint.config segment).methods := by
      simp [Endpoint.methods, method]
    rw [respond_of_allowed place allowed]
    simp only [serve, if_pos method, withIdentifier_of_named named, Call.answer]

@[simp] theorem Request.status_receives (q : Request) (r : Response) :
    (q.receives r).status = r.status := by
  rw [receives]
  split <;> rfl

theorem Request.Settled.of_serve {q : Request} {e : Endpoint} {r : Response}
    (place : q.endpoint? = some e) (allowed : q.method ∈ e.methods)
    (known : r.status ∈ idleStatuses) (served : ∀ s, serve s q q.target.query e = (r, s)) :
    q.Settled := by
  refine ⟨q.receives r, ?_, fun s => ?_⟩
  · rwa [status_receives]
  · rw [respond_of_allowed place allowed, served]

/-- The identifier in a path is read, or the request is settled. -/
theorem named_or_settled_of_serve {q : Request} {e : Endpoint} {segment : String}
    (place : q.endpoint? = some e) (allowed : q.method ∈ e.methods)
    {served : Store → Identifier → Response × Store}
    (same : ∀ s, serve s q q.target.query e = withIdentifier segment s (served s)) :
    (∃ id, identifierOfPath segment = .ok id) ∨ q.Settled := by
  rcases named_or_settled segment with named | ⟨r, known, refused⟩
  · exact .inl named
  · exact .inr (.of_serve place allowed known fun s => by rw [same, refused])

/-- The body of a request is read, or the request is settled. -/
theorem carries_or_settled_of_serve {α : Type} {q : Request} {e : Endpoint}
    {read : String → Except BodyFault α} (place : q.endpoint? = some e)
    (allowed : q.method ∈ e.methods)
    {served : Store → α → Response × Store}
    (same : ∀ s, serve s q q.target.query e = withBody q s read (served s)) :
    (∃ a, q.Carries read a) ∨ q.Settled := by
  rcases carries_or_settled q read with carries | ⟨r, known, refused⟩
  · exact .inl carries
  · exact .inr (.of_serve place allowed known fun s => by rw [same, refused])

theorem settled_of_nowhere {q : Request} (place : q.endpoint? = none) : q.Settled := by
  have nowhere : Endpoint.ofPath? (Target.ofUri q.uri).path = none := place
  refine ⟨.empty 404, (by decide : 404 ∈ idleStatuses), fun s => ?_⟩
  rw [respond]
  simp only [nowhere]

theorem settled_of_not_allowed {q : Request} {e : Endpoint} (place : q.endpoint? = some e)
    (refused : q.method ∉ e.methods) : q.Settled := by
  have found : Endpoint.ofPath? (Target.ofUri q.uri).path = some e := place
  refine ⟨notAllowed e, (by decide : 405 ∈ idleStatuses), fun s => ?_⟩
  rw [respond]
  simp [found, refused]

/-- A new config is refused without a look at the store; a list needs no more than its user. -/
theorem makes_or_settled_configs {q : Request} (place : q.endpoint? = some .configs)
    (allowed : q.method ∈ Endpoint.configs.methods) : (∃ call, q.Makes call) ∨ q.Settled := by
  by_cases post : q.method = .post
  · have same (s : Store) : serve s q q.target.query .configs = withBody q s readCreate fun r =>
      createConfig s r := by
      rw [serve, if_pos post]
    rcases carries_or_settled_of_serve place allowed same with ⟨r, carries⟩ | settled
    · rcases r.refused_or_vetted with ⟨e, refused⟩ | ⟨d, collisions, vetted⟩
      · refine .inr (.of_serve place allowed (status_ofFailure_of_refused refused) fun s => ?_)
        rw [same, withBody_of_carries carries, createConfig, Store.create_of_refused refused]
      · exact .inl ⟨_, .create place post carries vetted⟩
    · exact .inr settled
  · have method : q.method = .get ∨ q.method = .head := by
      simpa [Endpoint.methods, post] using allowed
    cases user : userOfQuery q.target.query with
    | ok userId => exact .inl ⟨_, .list place method user⟩
    | error fault =>
      refine .inr (.of_serve place allowed ?_ fun s => by rw [serve, if_neg post,
        listConfigs, user])
      exact (by decide : 400 ∈ idleStatuses)

theorem makes_or_settled_config {q : Request} {segment : String}
    (place : q.endpoint? = some (.config segment))
    (allowed : q.method ∈ (Endpoint.config segment).methods) :
    (∃ call, q.Makes call) ∨ q.Settled := by
  by_cases delete : q.method = .delete
  · have same (s : Store) : serve s q q.target.query (.config segment) =
        withIdentifier segment s fun id => deleteConfig s id := by
      rw [serve, if_pos delete]
    rcases named_or_settled_of_serve place allowed same with ⟨id, named⟩ | settled
    · exact .inl ⟨_, .delete place delete named⟩
    · exact .inr settled
  · have method : q.method = .get ∨ q.method = .head := by
      simpa [Endpoint.methods, delete] using allowed
    have same (s : Store) : serve s q q.target.query (.config segment) =
        withIdentifier segment s fun id => (getConfig s id, s) := by
      rw [serve, if_neg delete]
    rcases named_or_settled_of_serve place allowed same with ⟨id, named⟩ | settled
    · exact .inl ⟨_, .get place method named⟩
    · exact .inr settled

/-- Routing, reading and the checks of a submission settle every request that makes no call. -/
theorem makes_or_settled (q : Request) : (∃ call, q.Makes call) ∨ q.Settled := by
  cases place : q.endpoint? with
  | none => exact .inr (settled_of_nowhere place)
  | some e =>
    by_cases allowed : q.method ∈ e.methods
    · cases e with
      | health => exact .inr (.of_serve place allowed (by decide : 200 ∈ idleStatuses) fun s => rfl)
      | configs => exact makes_or_settled_configs place allowed
      | preview =>
        rcases carries_or_settled_of_serve place allowed fun s => rfl
          with ⟨config, carries⟩ | settled
        · refine .inr (.of_serve place allowed (status_previewConfig config) fun s => ?_)
          rw [serve, withBody_of_carries carries]
        · exact .inr settled
      | normalizeKey =>
        rcases carries_or_settled_of_serve place allowed fun s => rfl
          with ⟨label, carries⟩ | settled
        · refine .inr
            (.of_serve place allowed ?_ fun s => by rw [serve, withBody_of_carries carries])
          exact (by decide : 200 ∈ idleStatuses)
        · exact .inr settled
      | config segment => exact makes_or_settled_config place allowed
      | prompt segment =>
        have method : q.method = .get ∨ q.method = .head := by
          simpa [Endpoint.methods] using allowed
        rcases named_or_settled_of_serve place allowed fun s => rfl with ⟨id, named⟩ | settled
        · exact .inl ⟨_, .prompt place method named⟩
        · exact .inr settled
    · exact .inr (settled_of_not_allowed place allowed)

end ExtractionPrompt.Http
