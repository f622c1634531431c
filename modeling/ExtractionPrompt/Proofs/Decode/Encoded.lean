import ExtractionPrompt.Config.Decode
import ExtractionPrompt.Config.Encode
import ExtractionPrompt.Json.Collect
import ExtractionPrompt.Proofs.Decode.Free

/-!
Decoders on encoded values.  Each combinator gives back what its encoder wrote as soon as its parts
do, so the law of a record is put together from the laws of its properties.
-/

namespace ExtractionPrompt

namespace Json

@[simp] theorem isNull_string (s : String) : (string s).isNull = false := by
  simp [isNull]

@[simp] theorem isNull_bool (b : Bool) : (bool b).isNull = false := by
  simp [isNull]

theorem lookup_given {α : Type} (name other : String) (encode : α → Json) (o : Option α) :
    (given name encode o).lookup other = if other = name then o.map encode else none := by
  cases o <;> by_cases same : other = name <;> simp [given, lookup_cons_eq_ite, same]

theorem lookup_given_append {α : Type} (name other : String) (encode : α → Json) (o : Option α)
    (rest : List (String × Json)) :
    (given name encode o ++ rest).lookup other =
      if other = name then (o.map encode).or (rest.lookup other) else rest.lookup other := by
  cases o <;> by_cases same : other = name <;> simp [given, lookup_cons_eq_ite, same]

end Json

/-- Whether an integer has its place in 64 bits with a sign. -/
def FitsWord (n : Int) : Prop := -Int.pow 2 63 ≤ n ∧ n < Int.pow 2 63

namespace Decoder

@[simp] theorem text_string (r : Reading) (s : String) : text r (.string s) = .ok s := by
  rw [text]

@[simp] theorem boolean_bool (r : Reading) (b : Bool) : boolean r (.bool b) = .ok b := by
  rw [boolean]

@[simp] theorem number_binary (r : Reading) (x : Number.Binary64) :
    number r (Json.binary x) = .ok x := by
  rw [Json.binary, number]

theorem integer_eq_ok {n : Int} (fits : FitsWord n) (r : Reading) :
    integer r (Json.integer n) = .ok n := by
  unfold FitsWord at fits
  simp only [Json.integer, integer, fits, and_self, if_true]

theorem map_eq_ok {α β : Type} {d : Decoder α} {v : Json} {a : α} (f : α → β)
    (reads : ∀ r, d r v = .ok a) (r : Reading) : d.map f r v = .ok (f a) := by
  simp [Decoder.map, reads]

theorem mapM_map_eq_ok {α : Type} {d : Json → Except Fault α} {encode : α → Json} {l : List α}
    (each : ∀ a ∈ l, d (encode a) = .ok a) : (l.map encode).mapM d = .ok l := by
  induction l with
  | nil => rfl
  | cons a rest ih =>
    have first := each a List.mem_cons_self
    have others := ih fun b member => each b (List.mem_cons_of_mem _ member)
    simp only [List.map_cons, List.mapM_cons, first, others]
    rfl

theorem list_eq_ok {α : Type} {d : Decoder α} {encode : α → Json} {r : Reading} {l : List α}
    (each : ∀ a ∈ l, d r (encode a) = .ok a) : list d r (.array (l.map encode)) = .ok l :=
  mapM_map_eq_ok each

@[simp] theorem list_text (r : Reading) (texts : List String) :
    list text r (Json.strings texts) = .ok texts :=
  list_eq_ok fun s _ => text_string r s

theorem list_free {values : List Json} (literal : ∀ v ∈ values, v.isLiteral = true) (r : Reading) :
    list free r (.array values) = .ok values := by
  have each : ∀ v ∈ values, free r (id v) = .ok v := fun v member =>
    free_of_isLiteral r v (literal v member)
  simpa using list_eq_ok each

theorem mapping_texts (r : Reading) (texts : List (String × String)) :
    mapping text r (.object (texts.map fun (name, s) => (name, .string s))) = .ok texts := by
  show entries text r _ = _
  induction texts with
  | nil => rfl
  | cons p rest ih => simp [entries, ih, bind]

theorem vocabulary_eq_ok {α : Type} {known : List (String × α)} {name : String} {a : α}
    (found : known.lookup name = some a) (r : Reading) :
    vocabulary known r (.string name) = .ok a := by
  simp [vocabulary, named, found]

/-- A tag is always written before its body, so the body may be read either way. -/
theorem choice_eq_ok {α : Type} {name tag : String} {cases : List (String × Decoder α)}
    {body : Decoder α} {v : Json} {a : α} (found : cases.lookup tag = some body)
    (reads : ∀ r, body r v = .ok a) (r : Reading) :
    choice name cases r (Json.tagged tag v) = .ok a := by
  have heading : vocabulary cases r (.string tag) = .ok body := vocabulary_eq_ok found r
  simp [choice, Json.tagged, Json.lookup_cons_eq_ite, heading, reads, bind]

/-- What an optional property is read as, from the value found for it. -/
def optionally {α : Type} (d : Decoder α) (r : Reading) : Option Json → Except Fault (Option α)
  | some v => d.nullable r v
  | none => .ok none

/-- `null` stands for nothing, so only what is not written as `null` is given back. -/
theorem optionally_map {α : Type} {d : Decoder α} {r : Reading} {encode : α → Json} {o : Option α}
    (each : ∀ a ∈ o, d r (encode a) = .ok a) (present : ∀ a ∈ o, (encode a).isNull = false) :
    d.optionally r (o.map encode) = .ok o := by
  cases o with
  | none => rfl
  | some a =>
    have reads : d r (encode a) = .ok a := each a rfl
    have written : (encode a).isNull = false := present a rfl
    show d.nullable r (encode a) = .ok (some a)
    cases found : encode a with
    | null => simp [found, Json.isNull] at written
    | _ => simp [nullable, ← found, reads]

end Decoder

namespace Record

@[simp] theorem read_required {α : Type} (name : String) (d : Decoder α) (r : Reading) (v : Json)
    (properties : List (String × Json)) (place : Nat) (found : properties.lookup name = some v) :
    (required name d).read r (fromObject properties) place = d r v := by
  simp [required, field, fromObject, found]

@[simp] theorem read_defaulted {α : Type} (name : String) (d : Decoder α) (a : α)
    (r : Reading) (v : Json) (properties : List (String × Json)) (place : Nat)
    (found : properties.lookup name = some v) :
    (defaulted name d a).read r (fromObject properties) place = d r v := by
  simp [defaulted, field, fromObject, found]

@[simp] theorem read_optional {α : Type} (name : String) (d : Decoder α) (r : Reading)
    (properties : List (String × Json)) (place : Nat) :
    (optional name d).read r (fromObject properties) place =
      d.optionally r (properties.lookup name) := by
  cases found : properties.lookup name <;> simp [optional, field, fromObject,
    Decoder.optionally, found]

end Record

end ExtractionPrompt
