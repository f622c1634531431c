import ExtractionPrompt.Http.Response
import ExtractionPrompt.Proofs.Json.ReadBack

/-!
What the response to a failure tells.  A client is told of its own faults in their own words,
without those by which a log names the kind; of a fault of the server it is told the kind only.  The
bodies keep apart exactly what they tell.
-/

namespace ExtractionPrompt

open Json

inductive FailureKind where
  | notFound
  | invalid
  | config
  | database
  | internal
  deriving DecidableEq, Repr

namespace FailureKind

/-- Whether the fault lies with the client and not with the server. -/
def isClient : FailureKind → Bool
  | notFound | invalid | config => true
  | database | internal => false

def code : FailureKind → String
  | notFound => "NOT_FOUND"
  | invalid => "VALIDATION_ERROR"
  | config => "INVALID_CONFIG"
  | database => "DATABASE_ERROR"
  | internal => "INTERNAL_ERROR"

/-- The words by which a log names the kind. -/
def lead : FailureKind → String
  | notFound => "Not found: "
  | invalid => "Validation error: "
  | config => "Config error: "
  | database => "Database error: "
  | internal => "Internal server error: "

theorem code_injective : Function.Injective code := by
  intro k l same
  cases k <;> cases l <;> simp [code] at same ⊢

end FailureKind

namespace Failure

def kind : Failure → FailureKind
  | notFound _ => .notFound
  | invalid _ => .invalid
  | config _ => .config
  | database _ => .database
  | internal _ => .internal

/-- What went wrong, in the words that come with the failure. -/
def detail : Failure → String
  | notFound detail => detail
  | invalid detail => detail
  | config error => error.message
  | database detail => detail
  | internal detail => detail

theorem message_eq (e : Failure) : e.message = e.kind.lead ++ e.detail := by
  cases e <;> rfl

end Failure

namespace Http

/-- The body of every error. -/
def errorObject (code message : String) : Json :=
  .object [("error", .object [("code", .string code), ("message", .string message)])]

theorem legible_errorObject (embeds : Bool) (code message : String) :
    Legible embeds maxDepth (errorObject code message) := by
  have inner : Legible embeds 126
      (.object [("code", .string code), ("message", .string message)]) := by
    refine .object 125 _ (by simp) (.inr (by simp [embeddedName])) ?_
    intro p member
    rcases List.mem_cons.1 member with rfl | last
    · exact .string 125 code
    · exact List.mem_singleton.1 last ▸ .string 125 message
  refine .object 126 _ (by simp) (.inr (by simp [embeddedName])) ?_
  intro p member
  exact List.mem_singleton.1 member ▸ inner

/-- What a failure says to the client. -/
def told (e : Failure) : String := (failureParts e).2.2

theorem told_of_client {e : Failure} (client : e.kind.isClient = true) : told e = e.detail := by
  cases e with
  | notFound | invalid | config => rfl
  | database | internal => cases client

theorem failureParts_of_server {e other : Failure} (same : e.kind = other.kind)
    (server : e.kind.isClient = false) :
    failureParts e = failureParts other := by
  cases e with
  | notFound | invalid | config => cases server
  | database =>
    cases other with
    | database => rfl
    | notFound | invalid | config | internal => cases same
  | internal =>
    cases other with
    | internal => rfl
    | notFound | invalid | config | database => cases same

theorem body_ofFailure (e : Failure) :
    (Response.ofFailure e).body = (errorObject e.kind.code (told e)).compress := by
  cases e <;> rfl

theorem parseAs_body (e : Failure) (embeds : Bool) :
    parseAs embeds (Response.ofFailure e).body = .ok (errorObject e.kind.code (told e)) := by
  rw [body_ofFailure, parseAs_compress (legible_errorObject embeds _ _)]

/-- Two bodies are the same only if the same is read from them. -/
theorem body_eq_iff {e other : Failure} :
    (Response.ofFailure e).body = (Response.ofFailure other).body ↔
      e.kind = other.kind ∧ told e = told other := by
  constructor
  · intro same
    have read := parseAs_body e true
    rw [same, parseAs_body other true] at read
    simp only [errorObject, Except.ok.injEq, Json.object.injEq, List.cons.injEq, Prod.mk.injEq,
      Json.string.injEq, true_and, and_true] at read
    exact ⟨FailureKind.code_injective read.1.symm, read.2.symm⟩
  · rintro ⟨kind, told⟩
    rw [body_ofFailure, body_ofFailure, kind, told]

/-- The body for a fault of the client is read as an error with the code of its kind and its own
words, which its message has behind the lead of that kind.  Two failures get the same body exactly
when they are of one kind and, if it is the client's, say the same; faults of the server of one kind
get the same response whatever they say. -/
theorem ofFailure_discloses (e : Failure) :
    e.message = e.kind.lead ++ e.detail ∧
      (e.kind.isClient = true → ∀ embeds,
        parseAs embeds (Response.ofFailure e).body = .ok (errorObject e.kind.code e.detail)) ∧
      ∀ other : Failure,
        ((Response.ofFailure e).body = (Response.ofFailure other).body ↔
          e.kind = other.kind ∧ (e.kind.isClient = true → e.detail = other.detail)) ∧
        (e.kind = other.kind → e.kind.isClient = false →
          Response.ofFailure e = Response.ofFailure other) := by
  refine ⟨e.message_eq, ?read, ?others⟩
  case read =>
    intro client embeds
    rw [parseAs_body, told_of_client client]
  case others =>
    intro other
    refine ⟨?_, ?_⟩
    · rw [body_eq_iff]
      refine and_congr_right fun same => ?_
      cases fault : e.kind.isClient with
      | true => simp [told_of_client fault, told_of_client (same ▸ fault)]
      | false => simp [told, failureParts_of_server same fault]
    · intro same server
      rw [Response.ofFailure, Response.ofFailure, failureParts_of_server same server]

/-- A fault with everything in its text that a body has to escape. -/
def escapedFault : Failure :=
  .invalid "fields.0.key: '\"\\\n' must be lowercase letters, digits, and single inner underscores"

theorem ofFailure_discloses_escaped :
    escapedFault.kind.isClient = true ∧
      parseAs false (Response.ofFailure escapedFault).body =
        .ok (errorObject "VALIDATION_ERROR" escapedFault.detail) ∧
      (Response.ofFailure escapedFault).body ≠
        (Response.ofFailure (.invalid "name cannot be empty")).body ∧
      (Failure.internal "a").kind = (Failure.internal "b").kind ∧
      (Failure.internal "a").kind.isClient = false ∧
      Response.ofFailure (.internal "a") = Response.ofFailure (.internal "b") := by
  obtain ⟨-, read, others⟩ := ofFailure_discloses escapedFault
  obtain ⟨-, -, hidden⟩ := ofFailure_discloses (.internal "a")
  refine ⟨rfl, read rfl false, ?_, rfl, rfl, (hidden (.internal "b")).2 rfl rfl⟩
  intro same
  have told := ((others _).1.1 same).2 rfl
  exact absurd told (by decide)

end Http

end ExtractionPrompt
