import ExtractionPrompt.Proofs.Http.Call

/-!
A lost database, seen by clients.  The requests that make a call are all told the same, and nothing
of what the store held or of why it is lost; the others cannot tell that anything happened.
-/

namespace ExtractionPrompt.Http

open Request Store

/-- The one answer to every call while the database is lost. -/
def databaseError : Response :=
  .json 500 (.object [("error",
    .object [("code", .string "DATABASE_ERROR"),
      ("message", .string "A database error occurred")])])

example : databaseError.body =
    "\x7b\"error\":\x7b\"code\":\"DATABASE_ERROR\"," ++
      "\"message\":\"A database error occurred\"\x7d\x7d" := by
  rfl

theorem Call.answer_closed (call : Call) : call.answer closed = (databaseError, closed) := by
  cases call <;> rfl

theorem respond_closed_of_makes {q : Request} {call : Call} (makes : q.Makes call) :
    respond closed q = (q.receives databaseError, closed) := by
  rw [respond_of_makes makes, Call.answer_closed]

theorem status_closed_of_makes {q : Request} {call : Call} (makes : q.Makes call) :
    (respond closed q).1.status = 500 := by
  rw [respond_closed_of_makes makes, status_receives]
  rfl

theorem Request.Settled.status_ne {q : Request} (settled : q.Settled) (s : Store) :
    (respond s q).1.status ≠ 500 := by
  obtain ⟨r, known, always⟩ := settled
  rw [always]
  intro lost
  exact absurd (lost ▸ known) (by decide : 500 ∉ idleStatuses)

/-- No answer is settled as an error of the server, so what makes a call is not settled. -/
theorem Request.Settled.not_makes {q : Request} (settled : q.Settled) : ¬ ∃ call, q.Makes call := by
  rintro ⟨call, makes⟩
  exact settled.status_ne closed (status_closed_of_makes makes)

theorem Request.settled_iff (q : Request) : q.Settled ↔ ¬ ∃ call, q.Makes call := by
  constructor
  · exact Settled.not_makes
  · exact (makes_or_settled q).resolve_left

/-- Some places are never in need of a store. -/
theorem Request.not_makes_of_place {q : Request}
    (place : q.endpoint? ∈ [none, some .health, some .preview, some .normalizeKey]) :
    ¬ ∃ call, q.Makes call := by
  rintro ⟨call, makes⟩
  cases makes with
  | list found | create found | get found | prompt found | delete found => simp [found] at place

/-- The head of a prompt, under an identifier in another spelling. -/
def promptHead : Request :=
  ⟨.head, "/api/v1/extraction-configs/urn%3AUUID:00000000-0000-4000-8000-00000000000A/prompt?x=1",
    none, ""⟩

/-- A preview of a config without a version. -/
def versionlessPreview : Request :=
  ⟨.post, "/api/v1/extraction-configs/preview", some "application/json", "[[null]]"⟩

end ExtractionPrompt.Http
