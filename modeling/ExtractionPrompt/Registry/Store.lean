import ExtractionPrompt.Registry.Identifier
import ExtractionPrompt.Registry.Instant
import ExtractionPrompt.Submission.Prepare

/-!
Stored records and the store.  A store either holds a table in memory or has lost its database; then
every operation fails alike and changes nothing.
-/

namespace ExtractionPrompt

structure Draft where
  userId : Identifier
  name : String
  config : Json
  prompt : String

/-- The config is stored as it was normalized, and the prompt as it was compiled then. -/
structure StoredRecord where
  id : Identifier
  userId : Identifier
  name : String
  config : Json
  prompt : String
  createdAt : Instant
  updatedAt : Instant

/-- Oldest record first.  `saved` counts every save, so that no identifier is given twice. -/
structure Table where
  records : List StoredRecord
  saved : Nat

namespace Table

def empty : Table := ⟨[], 0⟩

/-- The record of the next save, which happens `saved + 1` seconds after the origin of time. -/
def nextRecord (t : Table) (d : Draft) : StoredRecord :=
  let now : Instant := ⟨Instant.origin.seconds + (t.saved + 1)⟩
  ⟨Identifier.numbered (t.saved + 1), d.userId, d.name, d.config, d.prompt, now, now⟩

def save (t : Table) (d : Draft) : Table := ⟨t.records ++ [t.nextRecord d], t.saved + 1⟩

def get? (t : Table) (id : Identifier) : Option StoredRecord := t.records.find? fun r => r.id = id

/-- A user's records, newest first. -/
def ofUser (t : Table) (userId : Identifier) : List StoredRecord :=
  (t.records.filter fun r => r.userId = userId).reverse

def erase (t : Table) (id : Identifier) : Table :=
  { t with records := t.records.filter fun r => r.id ≠ id }

theorem get?_save (t : Table) (d : Draft) (id : Identifier) :
    (t.save d).get? id =
      (t.get? id).or (if (t.nextRecord d).id = id then some (t.nextRecord d) else none) := by
  by_cases same : (t.nextRecord d).id = id <;> simp [get?, save, List.find?_append, same]

theorem get?_erase (t : Table) (erased id : Identifier) :
    (t.erase erased).get? id = if id = erased then none else t.get? id := by
  unfold get? erase
  rw [List.find?_filter]
  split
  · rename_i same
    subst same
    simp
  · rename_i other
    congr 1
    funext r
    by_cases here : r.id = id
    · simp [here, other]
    · simp [here]

theorem ofUser_save (t : Table) (d : Draft) (userId : Identifier) :
    (t.save d).ofUser userId =
      if d.userId = userId then t.nextRecord d :: t.ofUser userId else t.ofUser userId := by
  by_cases same : d.userId = userId <;> simp [ofUser, save, nextRecord, List.filter_append, same]

end Table

inductive Store where
  | memory (table : Table)
  | closed

namespace Store

def fresh : Store := memory Table.empty

def outage : Failure := .database "attempted to acquire a connection on a closed pool"

def save : Store → Draft → Except Failure (StoredRecord × Store)
  | memory t, d => .ok (t.nextRecord d, memory (t.save d))
  | closed, _ => .error outage

def get? : Store → Identifier → Except Failure (Option StoredRecord)
  | memory t, id => .ok (t.get? id)
  | closed, _ => .error outage

def ofUser : Store → Identifier → Except Failure (List StoredRecord)
  | memory t, userId => .ok (t.ofUser userId)
  | closed, _ => .error outage

/-- Whether there was a record to delete, and the store without it. -/
def delete : Store → Identifier → Except Failure (Bool × Store)
  | memory t, id => .ok ((t.get? id).isSome, memory (t.erase id))
  | closed, _ => .error outage

end Store

end ExtractionPrompt
