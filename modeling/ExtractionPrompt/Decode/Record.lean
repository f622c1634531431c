import ExtractionPrompt.Decode.Basic

/-!
Records: a fixed list of properties, each with its decoder, written as an object or as an array in
declaration order.  Properties nobody asks for are passed over.  An object's record depends on what
its properties are and not on their order; only which of several faults is reported does.
-/

namespace ExtractionPrompt

/-- Where the properties of a record come from, by place or by name, and the fault of a missing
one. -/
structure Slots where
  value? : Nat → String → Option Json
  absent : Nat → String → Fault

/-- `vets` are the decoders of the properties with their results left out, for finding the first
fault in an object. -/
structure Record (α : Type) where
  size : Nat
  vets : List (String × (Reading → Json → Option Fault))
  read : Reading → Slots → Nat → Except Fault α

namespace Record

def vet {α : Type} (d : Decoder α) (r : Reading) (v : Json) : Option Fault :=
  match d r v with
  | .ok _ => none
  | .error e => some e

/-- A property that must be there when `fallback` is none. -/
def field {α : Type} (name : String) (d : Decoder α) (fallback : Option α) : Record α where
  size := 1
  vets := [(name, vet d)]
  read := fun r slots place =>
    match slots.value? place name with
    | some v => d r v
    | none =>
      match fallback with
      | some a => .ok a
      | none => .error (slots.absent place name)

def required {α : Type} (name : String) (d : Decoder α) : Record α := field name d none

def defaulted {α : Type} (name : String) (d : Decoder α) (a : α) : Record α := field name d (some a)

/-- An absent property and `null` both stand for nothing. -/
def optional {α : Type} (name : String) (d : Decoder α) : Record (Option α) :=
  field name d.nullable (some none)

instance : Applicative Record where
  pure a := { size := 0, vets := [], read := fun _ _ _ => .ok a }
  seq f a :=
    { size := f.size + (a ()).size
      vets := f.vets ++ (a ()).vets
      read := fun r slots place => do
        let g ← f.read r slots place
        let x ← (a ()).read r slots (place + f.size)
        .ok (g x) }

@[simp] theorem size_map {α β : Type} (f : α → β) (a : Record α) : (f <$> a).size = a.size := by
  show 0 + a.size = a.size
  omega

@[simp] theorem size_seq {α β : Type} (f : Record (α → β)) (a : Record α) :
    (f <*> a).size = f.size + a.size := rfl

@[simp] theorem read_map {α β : Type} (f : α → β) (a : Record α) (r : Reading) (slots : Slots)
    (place : Nat) : (f <$> a).read r slots place = (a.read r slots place).map f := by
  show (Pure.pure f <*> a).read r slots place = _
  simp only [Seq.seq, Pure.pure, bind, Except.bind, Except.map, Nat.add_zero]

@[simp] theorem read_seq {α β : Type} (f : Record (α → β)) (a : Record α) (r : Reading)
    (slots : Slots) (place : Nat) :
    (f <*> a).read r slots place =
      (f.read r slots place).bind fun g => (a.read r slots (place + f.size)).map g := rfl

/-- The fault of the first property, in the order written, that its decoder refuses. -/
def firstFault? {α : Type} (record : Record α) (r : Reading) (properties : List (String × Json)) :
    Option Fault :=
  properties.findSome? fun (name, v) => (record.vets.lookup name).bind fun check => check r v

def fromObject (properties : List (String × Json)) : Slots where
  value? := fun _ name => properties.lookup name
  absent := fun _ name => .missingProperty name

def fromArray (name : String) (size : Nat) (items : List Json) : Slots where
  value? := fun place _ => items[place]?
  absent := fun place _ => .wrongLength place (.recordOf name size)

def decode {α : Type} (record : Record α) (name : String) : Decoder α
  | r, .object properties =>
    match record.read r (fromObject properties) 0 with
    | .ok a => .ok a
    | .error fault => .error ((record.firstFault? r properties).getD fault)
  | r, .array items => do
    let a ← record.read r (fromArray name record.size items) 0
    if items.length ≤ record.size then .ok a
      else .error (Decoder.tooLong r items.length record.size)
  | _, v => .error (.wrongType v (.record name))

theorem decode_object_eq_ok_iff {α : Type} (record : Record α) (name : String) (r : Reading)
    (properties : List (String × Json)) (a : α) :
    record.decode name r (.object properties) = .ok a ↔
      record.read r (fromObject properties) 0 = .ok a := by
  cases h : record.read r (fromObject properties) 0 <;> simp [decode, h]

end Record

end ExtractionPrompt
