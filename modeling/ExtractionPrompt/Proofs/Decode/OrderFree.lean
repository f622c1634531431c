import ExtractionPrompt.Proofs.Decode.Free
import ExtractionPrompt.Proofs.Decode.Given
import ExtractionPrompt.Proofs.Json.Reordered

/-!
Decoders for which the order of properties does not matter.  Of two values that differ only in that
order, a decoder refuses both, with any fault, or reads both, with related results.  Every
combinator keeps this, so a decoder of a record has it as soon as the decoders of its properties do.
There is one exception: an object that stands for a text is one by its first name, so a decoder of
free values may refuse one of the two for its embedded text and read the other.

Only values read back from a buffer are compared: read straight from a document, a body in front of
its tag is buffered and one behind it is not.
-/

namespace ExtractionPrompt

/-- The fault is that of an object that stands for a text: of the text, or of another property. -/
inductive Fault.OfEmbedding : Fault → Prop where
  | text (cause : Json.EmbeddingFault) : OfEmbedding (.ofEmbedding cause)
  | surplus (r : Reading) (count : Nat) : OfEmbedding (Decoder.surplus r count)

theorem Fault.ofEmbedding_ofRead (fault : Json.ReadFault) : (Fault.ofRead fault).OfEmbedding := by
  cases fault with
  | malformed fault => exact .text (.notJson fault)
  | embedding _ cause => exact .text cause

namespace Decoder

/-- Both values are refused, with whatever fault, or both are read, with related results. -/
abbrev SameOutcome {α : Type} (R : α → α → Prop) : Except Fault α → Except Fault α → Prop :=
  Agree (fun _ _ => True) R

theorem SameOutcome.refl {α : Type} (x : Except Fault α) : SameOutcome (· = ·) x x :=
  Agree.refl (fun _ => trivial) x

theorem SameOutcome.trans {α : Type} {R S T : α → α → Prop} {x y z : Except Fault α}
    (first : SameOutcome R x y) (second : SameOutcome S y z)
    (through : ∀ {a b c}, R a b → S b c → T a c) : SameOutcome T x z := by
  cases first with
  | ok same =>
    cases second with
    | ok next => exact .ok (through same next)
  | error =>
    cases second with
    | error => exact .error trivial

/-- The outcome is the same, or one value alone is refused, for an object that stands for a text.
`M` is the reason that the first has for such a fault, `N` that of the second. -/
inductive AgreeUnless {α : Type} (M N : Prop) (R : α → α → Prop) :
    Except Fault α → Except Fault α → Prop where
  | ok {a b : α} (same : R a b) : AgreeUnless M N R (.ok a) (.ok b)
  | error {e f : Fault} : AgreeUnless M N R (.error e) (.error f)
  | first {e : Fault} {b : α} (reason : M) (embedding : e.OfEmbedding) :
      AgreeUnless M N R (.error e) (.ok b)
  | second {a : α} {f : Fault} (reason : N) (embedding : f.OfEmbedding) :
      AgreeUnless M N R (.ok a) (.error f)

namespace AgreeUnless

variable {M N : Prop} {α β : Type} {R : α → α → Prop} {S : β → β → Prop}

theorem refl (x : Except Fault α) : AgreeUnless M N (· = ·) x x := by
  cases x with
  | ok a => exact .ok rfl
  | error e => exact .error

theorem refusedFirst {e : Fault} (reason : M) (embedding : e.OfEmbedding) (y : Except Fault α) :
    AgreeUnless M N R (.error e) y := by
  cases y with
  | ok b => exact .first reason embedding
  | error f => exact .error

theorem refusedSecond {f : Fault} (reason : N) (embedding : f.OfEmbedding) (x : Except Fault α) :
    AgreeUnless M N R x (.error f) := by
  cases x with
  | ok a => exact .second reason embedding
  | error e => exact .error

variable {x y : Except Fault α}

theorem imp {R' : α → α → Prop} (same : AgreeUnless M N R x y) (weaken : ∀ a b, R a b → R' a b) :
    AgreeUnless M N R' x y := by
  cases same with
  | ok same => exact .ok (weaken _ _ same)
  | error => exact .error
  | first reason embedding => exact .first reason embedding
  | second reason embedding => exact .second reason embedding

theorem bind {f g : α → Except Fault β} (same : AgreeUnless M N R x y)
    (rest : ∀ a b, R a b → AgreeUnless M N S (f a) (g b)) :
    AgreeUnless M N S (x.bind f) (y.bind g) := by
  cases same with
  | ok same => exact rest _ _ same
  | error => exact .error
  | first reason embedding => exact refusedFirst reason embedding _
  | second reason embedding => exact refusedSecond reason embedding _

theorem map {f g : α → β} (same : AgreeUnless M N R x y) (lift : ∀ a b, R a b → S (f a) (g b)) :
    AgreeUnless M N S (x.map f) (y.map g) := by
  cases same with
  | ok same => exact .ok (lift _ _ same)
  | error => exact .error
  | first reason embedding => exact .first reason embedding
  | second reason embedding => exact .second reason embedding

/-- The relation may say as well what the first of the two gave. -/
theorem withFirst (same : AgreeUnless M N R x y) :
    AgreeUnless M N (fun a b => R a b ∧ x = .ok a) x y := by
  cases same with
  | ok same => exact .ok ⟨same, rfl⟩
  | error => exact .error
  | first reason embedding => exact .first reason embedding
  | second reason embedding => exact .second reason embedding

theorem mapM {γ : Type} {d : γ → Except Fault α} {items others : List γ}
    (each : List.Forall₂ (fun v w => AgreeUnless M N R (d v) (d w)) items others) :
    AgreeUnless M N (List.Forall₂ R) (items.mapM d) (others.mapM d) := by
  induction each with
  | nil => exact .ok .nil
  | cons first _ ih =>
    rw [List.mapM_cons, List.mapM_cons]
    exact first.bind fun a b same => ih.bind fun l m rest => .ok (.cons same rest)

end AgreeUnless

/-- The order of properties decides neither whether a value is read nor, up to `R`, as what, unless
one of the two is refused for an object that stands for a text. -/
def OrderFree {α : Type} (R : α → α → Prop) (d : Decoder α) : Prop :=
  ∀ ⦃M N : Prop⦄ ⦃v w : Json⦄, v.Rearranged M N w →
    AgreeUnless M N R (d .buffered v) (d .buffered w)

variable {α β : Type} {R : α → α → Prop} {d : Decoder α}

/-- What neither reads arrays nor objects never meets a property. -/
theorem orderFree_of_scalar (arrays : ∀ items, ∃ e, d .buffered (.array items) = .error e)
    (objects : ∀ properties, ∃ e, d .buffered (.object properties) = .error e) :
    d.OrderFree (· = ·) := by
  intro M N v w same
  cases same.reordered with
  | @array items others =>
    obtain ⟨e, refused⟩ := arrays items
    obtain ⟨f, refused'⟩ := arrays others
    rw [refused, refused']
    exact .error
  | @object properties _ others =>
    obtain ⟨e, refused⟩ := objects properties
    obtain ⟨f, refused'⟩ := objects others
    rw [refused, refused']
    exact .error
  | _ => exact .refl _

theorem orderFree_text : text.OrderFree (· = ·) :=
  orderFree_of_scalar (fun _ => ⟨_, rfl⟩) fun _ => ⟨_, rfl⟩

theorem orderFree_boolean : boolean.OrderFree (· = ·) :=
  orderFree_of_scalar (fun _ => ⟨_, rfl⟩) fun _ => ⟨_, rfl⟩

theorem orderFree_integer : integer.OrderFree (· = ·) :=
  orderFree_of_scalar (fun _ => ⟨_, rfl⟩) fun _ => ⟨_, rfl⟩

theorem orderFree_number : number.OrderFree (· = ·) :=
  orderFree_of_scalar (fun _ => ⟨_, rfl⟩) fun _ => ⟨_, rfl⟩

theorem orderFree_leadingTag (known : List (String × α)) : (leadingTag known).OrderFree (· = ·) :=
  orderFree_of_scalar (fun _ => ⟨_, rfl⟩) fun _ => ⟨_, rfl⟩

/-- Entries that keep their places. -/
theorem entries_inPlace {M N : Prop} {properties inPlace : List (String × Json)}
    (each : List.Forall₂
      (Json.SameName fun v w => AgreeUnless M N R (d .buffered v) (d .buffered w))
        properties inPlace) :
    AgreeUnless M N (List.Forall₂ (Json.SameName R))
      (entries d .buffered properties) (entries d .buffered inPlace) := by
  induction each with
  | nil => exact .ok .nil
  | cons first _ ih =>
    obtain ⟨name, same⟩ := first
    exact same.bind fun a b same => ih.bind fun l m rest => .ok (.cons (.intro name same) rest)

/-- Entries that change places. -/
theorem entries_perm (d : Decoder α) (r : Reading) {properties others : List (String × Json)}
    (order : properties.Perm others) :
    SameOutcome List.Perm (entries d r properties) (entries d r others) := by
  induction order with
  | nil => exact .ok .nil
  | cons p _ ih =>
    obtain ⟨name, v⟩ := p
    exact (SameOutcome.refl (d r v)).bind fun a b same =>
      same ▸ ih.bind fun l m order => .ok (order.cons (name, a))
  | swap p q rest =>
    simp only [entries]
    cases d r p.2 with
    | error => cases d r q.2 <;> exact .error trivial
    | ok a =>
      cases d r q.2 with
      | error => exact .error trivial
      | ok b =>
        cases entries d r rest with
        | error => exact .error trivial
        | ok l => exact .ok (.swap (p.1, a) (q.1, b) l)
  | trans _ _ first second => exact first.trans second .trans

theorem read_of_entries {r : Reading} {properties : List (String × Json)} {l : List (String × α)}
    (read : entries d r properties = .ok l) : ∀ p ∈ properties, ∃ a, d r p.2 = .ok a := by
  induction properties generalizing l with
  | nil => simp
  | cons p rest ih =>
    obtain ⟨a, first, others⟩ := bind_eq_ok_iff.1 read
    obtain ⟨more, later, -⟩ := bind_eq_ok_iff.1 others
    exact List.forall_mem_cons.2 ⟨⟨a, first⟩, ih later⟩

theorem refused_of_entries {r : Reading} {properties : List (String × Json)} {e : Fault}
    (refused : entries d r properties = .error e) : ∃ p ∈ properties, d r p.2 = .error e := by
  induction properties with
  | nil => cases refused
  | cons p rest ih =>
    cases first : d r p.2 with
    | error f =>
      simp only [entries, first, bind, Except.bind, Except.error.injEq] at refused
      exact ⟨p, List.mem_cons_self, refused ▸ first⟩
    | ok a =>
      cases later : entries d r rest with
      | error f =>
        simp only [entries, first, later, bind, Except.bind, Except.error.injEq] at refused
        obtain ⟨q, member, inner⟩ := ih (refused ▸ later)
        exact ⟨q, List.mem_cons_of_mem _ member, inner⟩
      | ok more => simp [entries, first, later, bind] at refused

/-- When only the first object is read, every fault of the second is one of an embedded text, so the
one that comes first in the second's own order is. -/
theorem entries_upToOrder {M N : Prop} {properties others : List (String × Json)}
    (each : Json.UpToOrder (fun v w => AgreeUnless M N R (d .buffered v) (d .buffered w))
      properties others) :
    AgreeUnless M N (Json.UpToOrder R)
      (entries d .buffered properties) (entries d .buffered others) := by
  obtain @⟨inPlace, each, order⟩ := each
  have same := entries_inPlace each
  have moved := entries_perm d .buffered order
  generalize entries d .buffered inPlace = x at same moved
  cases readFirst : entries d .buffered properties with
  | error e =>
    rw [readFirst] at same
    generalize entries d .buffered others = y at moved
    cases moved with
    | error => exact .error
    | ok order =>
      cases same with
      | first reason embedding => exact .first reason embedding
  | ok l =>
    cases readSecond : entries d .buffered others with
    | ok m =>
      rw [readFirst] at same
      rw [readSecond] at moved
      cases moved with
      | ok order =>
        cases same with
        | ok each => exact .ok (.intro each order)
    | error f =>
      obtain ⟨q, member, refused⟩ := refused_of_entries readSecond
      obtain ⟨p, inFirst, related⟩ := Json.exists_of_forall₂ each (order.symm.subset member)
      obtain ⟨a, accepted⟩ := read_of_entries readFirst p inFirst
      obtain ⟨name, outcome⟩ := related
      rw [accepted, refused] at outcome
      cases outcome with
      | second reason embedding => exact .second reason embedding

section Free

variable {M N : Prop}

/-- An object that stands for a text is refused as soon as there is another property. -/
theorem refused_of_overfull (v : Json) (next : String × Json) (more : List (String × Json)) :
    ∃ e, free .buffered (.object ((Json.embeddedName, v) :: next :: more)) = .error e ∧
      e.OfEmbedding := by
  rw [free_object_of_some (Json.embedding?_embeddedName v _)]
  cases v with
  | string s =>
    cases read : Json.parseAs true s with
    | error fault =>
      refine ⟨.ofRead fault, ?_, Fault.ofEmbedding_ofRead fault⟩
      simp [embedded, read, Except.mapError, bind, Except.bind]
    | ok inner =>
      refine ⟨_, ?_, .surplus .buffered (next :: more).length.succ⟩
      simp [embedded, read, bind]
  | _ => exact ⟨_, rfl, .text (.notText _)⟩

theorem agree_embedded {v w : Json} (same : v.Rearranged M N w) :
    AgreeUnless M N Json.Reordered (embedded .buffered 1 v) (embedded .buffered 1 w) := by
  cases same.reordered with
  | string s => exact (AgreeUnless.refl _).imp fun a _ eq => eq ▸ .refl a
  | _ => exact .error

/-- Objects whose properties are read alike.  When one of them stands for a text, either both do,
with nothing behind it, or that one is overfull. -/
theorem agree_freeObject {properties others : List (String × Json)}
    (same : (Json.object properties).Rearranged M N (.object others))
    (each : Json.UpToOrder
      (fun v w => AgreeUnless M N Json.Reordered (free .buffered v) (free .buffered w))
      properties others) :
    AgreeUnless M N Json.Reordered
      (free .buffered (.object properties)) (free .buffered (.object others)) := by
  have sizes := same.upToOrder.length_eq
  cases stands : Json.embedding? properties with
  | some v =>
    obtain ⟨rest, rfl⟩ := Json.eq_cons_of_embedding? stands
    cases rest with
    | nil =>
      obtain ⟨_, rfl, name, inner⟩ := same.upToOrder.of_singleton
      rw [free_object_of_some stands, free_object_of_some (Json.embedding?_embeddedName _ _)]
      exact agree_embedded inner
    | cons next more =>
      obtain ⟨e, refused, embedding⟩ := refused_of_overfull v next more
      rw [refused]
      exact .refusedFirst (same.first (.here v next more)) embedding _
  | none =>
    cases stands' : Json.embedding? others with
    | some w =>
      obtain ⟨rest, rfl⟩ := Json.eq_cons_of_embedding? stands'
      cases rest with
      | nil =>
        obtain ⟨p, rfl⟩ := List.length_eq_one_iff.1 sizes
        obtain ⟨_, eq, name, inner⟩ := same.upToOrder.of_singleton
        obtain ⟨rfl, rfl⟩ := Prod.mk.inj (List.singleton_inj.1 eq)
        exact absurd stands (by simp [Json.embedding?])
      | cons next more =>
        obtain ⟨f, refused, embedding⟩ := refused_of_overfull w next more
        rw [refused]
        exact .refusedSecond (same.second (.here w next more)) embedding _
    | none =>
      rw [free_object_of_none stands, free_object_of_none stands']
      exact (entries_upToOrder each).map fun _ _ same => same.reordered

mutual

theorem agree_free {v w : Json} (same : v.Rearranged M N w) :
    AgreeUnless M N Json.Reordered (free .buffered v) (free .buffered w) := by
  match v with
  | .null | .bool b | .number n | .string s =>
    cases same.reordered
    exact (AgreeUnless.refl _).imp fun a _ eq => eq ▸ .refl a
  | .array items =>
    cases same.reordered
    rw [free_array, free_array]
    exact (AgreeUnless.mapM (agree_freeItems same.items)).map fun _ _ => .array
  | .object properties =>
    cases same.reordered
    obtain ⟨inPlace, order⟩ := same.upToOrder
    exact agree_freeObject same (.intro (agree_freeProperties inPlace) order)

theorem agree_freeItems {items others : List Json}
    (each : List.Forall₂ (Json.Rearranged M N) items others) :
    List.Forall₂ (fun v w => AgreeUnless M N Json.Reordered (free .buffered v) (free .buffered w))
      items others := by
  match items, each with
  | [], .nil => exact .nil
  | v :: rest, .cons same more => exact .cons (agree_free same) (agree_freeItems more)

theorem agree_freeProperties {properties inPlace : List (String × Json)}
    (each : List.Forall₂ (Json.SameName (Json.Rearranged M N)) properties inPlace) :
    List.Forall₂ (Json.SameName fun v w =>
      AgreeUnless M N Json.Reordered (free .buffered v) (free .buffered w)) properties inPlace := by
  match properties, each with
  | [], .nil => exact .nil
  | (name, v) :: rest, .cons (.intro _ same) more =>
    exact .cons (.intro name (agree_free same)) (agree_freeProperties more)

end

theorem orderFree_free : OrderFree Json.Reordered free := fun _ _ _ _ => agree_free

end Free

namespace OrderFree

theorem map {S : β → β → Prop} (f : α → β) (inner : d.OrderFree R)
    (lift : ∀ a b, R a b → S (f a) (f b)) : (d.map f).OrderFree S :=
  fun _ _ _ _ same => (inner same).map lift

theorem nullable (inner : d.OrderFree R) : d.nullable.OrderFree (Option.Rel R) := by
  intro M N v w same
  have present := (inner same).map fun _ _ => Option.Rel.some
  cases same.reordered with
  | null => exact .ok .none
  | _ => exact present

theorem list (inner : d.OrderFree R) : (list d).OrderFree (List.Forall₂ R) := by
  intro M N v w same
  cases same.reordered with
  | array => exact .mapM (same.items.imp fun _ _ item => inner item)
  | _ => exact .error

theorem mapping (inner : d.OrderFree R) : (mapping d).OrderFree (Json.UpToOrder R) := by
  intro M N v w same
  cases same.reordered with
  | object =>
    exact entries_upToOrder (same.upToOrder.imp fun _ _ item => inner item)
  | _ => exact .error

theorem imp {R' : α → α → Prop} (inner : d.OrderFree R) (weaken : ∀ a b, R a b → R' a b) :
    d.OrderFree R' :=
  fun _ _ _ _ same => (inner same).imp weaken

theorem map_eq (f : α → β) (inner : d.OrderFree (· = ·)) : (d.map f).OrderFree (· = ·) :=
  inner.map f fun _ _ => congrArg f

theorem list_eq (inner : d.OrderFree (· = ·)) : (Decoder.list d).OrderFree (· = ·) :=
  inner.list.imp fun l m same => by rwa [List.forall₂_eq_eq_eq] at same

end OrderFree

theorem orderFree_noValue : OrderFree (· = ·) noValue := by
  intro M N v w same
  cases same.reordered with
  | null => exact .ok rfl
  | @object properties _ others =>
    have sizes := same.upToOrder.length_eq
    match properties, others with
    | [], [] => exact .ok rfl
    | _ :: _, _ :: _ => exact .error
  | _ => exact .error

theorem orderFree_vocabulary (known : List (String × α)) :
    (vocabulary known).OrderFree (· = ·) := by
  intro M N v w same
  cases same.reordered with
  | string name => exact .refl _
  | @object properties _ others =>
    match properties with
    | [p] =>
      obtain ⟨_, rfl, name, inner⟩ := same.upToOrder.of_singleton
      refine (AgreeUnless.refl (named known name)).bind ?_
      rintro a _ rfl
      exact (orderFree_noValue inner).bind fun _ _ _ => .ok rfl
    | [] | _ :: _ :: _ =>
      have sizes := same.upToOrder.length_eq
      match others with
      | [] | _ :: _ :: _ => exact .error
  | _ => exact .error

@[simp] theorem bodyReading_buffered (properties : List (String × Json)) :
    bodyReading .buffered properties = .buffered := by
  unfold bodyReading
  split <;> rfl

theorem orderFree_choice {name : String} {cases : List (String × Decoder α)}
    (each : ∀ p ∈ cases, p.2.OrderFree R) : (choice name cases).OrderFree R := by
  intro M N v w same
  cases same.reordered with
  | @object properties _ others =>
    simp only [choice, bodyReading_buffered]
    have tags := same.lookup "type"
    have bodies := same.lookup "rule"
    generalize properties.lookup "type" = tag?, others.lookup "type" = tag'? at tags ⊢
    generalize properties.lookup "rule" = body?, others.lookup "rule" = body'? at bodies ⊢
    cases tags with
    | none => exact .error
    | some tag =>
      refine (orderFree_vocabulary cases tag).withFirst.bind ?_
      rintro body _ ⟨rfl, read⟩
      obtain ⟨p, member, rfl⟩ := mem_of_vocabulary read
      cases bodies with
      | none => exact .error
      | some inner => exact each p member inner
  | array =>
    cases same.items with
    | nil => exact .error
    | cons tag rest =>
      refine (orderFree_leadingTag cases tag).withFirst.bind ?_
      rintro body _ ⟨rfl, read⟩
      obtain ⟨p, member, rfl⟩ := mem_of_leadingTag read
      cases rest with
      | nil => exact .error
      | cons inner more =>
        refine (each p member inner).bind fun a b related => ?_
        cases more with
        | nil => exact .ok related
        | cons => exact .error
  | _ => exact .error

/-- Where only the second value is read, the first is refused for an object that stands for a
text. -/
def RefusedForText (v w : Json) : Prop :=
  ∀ {α : Type} {R : α → α → Prop} {d : Decoder α}, d.OrderFree R →
    ∀ {e b}, d .buffered v = .error e → d .buffered w = .ok b → e.OfEmbedding

theorem refusedForText_first {M N : Prop} {v w : Json} (same : v.Rearranged M N w) :
    RefusedForText v w := by
  intro α R d inner e b refused read
  have outcome := inner same
  rw [refused, read] at outcome
  cases outcome with
  | first _ embedding => exact embedding

theorem refusedForText_second {M N : Prop} {v w : Json} (same : v.Rearranged M N w) :
    RefusedForText w v := by
  intro α R d inner e b refused read
  have outcome := inner same
  rw [refused, read] at outcome
  cases outcome with
  | second _ embedding => exact embedding

end Decoder

namespace Record

/-- Two sources have values at the same places and names, and these are rearranged. -/
def Slots.Alike (M N : Prop) (s t : Slots) : Prop :=
  ∀ place name, Option.Rel (Json.Rearranged M N) (s.value? place name) (t.value? place name)

section Sources

variable {M N : Prop}

theorem alike_fromObject {properties others : List (String × Json)}
    (same : (Json.object properties).Rearranged M N (.object others)) :
    Slots.Alike M N (fromObject properties) (fromObject others) :=
  fun _ name => same.lookup name

theorem alike_fromArray (name : String) (size : Nat) {items others : List Json}
    (same : (Json.array items).Rearranged M N (.array others)) :
    Slots.Alike M N (fromArray name size items) (fromArray name size others) := by
  intro place _
  show Option.Rel _ items[place]? others[place]?
  have each := same.items
  clear same
  induction each generalizing place with
  | nil => exact .none
  | cons first _ ih =>
    cases place with
    | zero => exact .some first
    | succ place => exact ih place

end Sources

/-- What is read of two sources is the same up to `R`.  The vets are those of decoders for which the
order of properties does not matter, and an object whose record is read passes all of them; so an
object that is refused alone has a fault of an embedded text, whichever fault is reported first. -/
structure OrderFree {α : Type} (R : α → α → Prop) (record : Record α) : Prop where
  read : ∀ ⦃M N : Prop⦄ ⦃s t : Slots⦄, Slots.Alike M N s t → ∀ place,
    Decoder.AgreeUnless M N R (record.read .buffered s place) (record.read .buffered t place)
  vets : ∀ p ∈ record.vets, ∃ (β : Type) (S : β → β → Prop) (d : Decoder β),
    p.2 = vet d ∧ d.OrderFree S
  passed : ∀ properties place a, record.read .buffered (fromObject properties) place = .ok a →
    ∀ p ∈ record.vets, ∀ v, properties.lookup p.1 = some v → p.2 .buffered v = none

variable {α β : Type} {R : α → α → Prop} {S : β → β → Prop} {d : Decoder α}

theorem vet_eq_none_iff (d : Decoder α) (r : Reading) (v : Json) :
    vet d r v = none ↔ ∃ a, d r v = .ok a := by
  cases found : d r v <;> simp [vet, found]

theorem vet_eq_some_iff (d : Decoder α) (r : Reading) (v : Json) (e : Fault) :
    vet d r v = some e ↔ d r v = .error e := by
  cases found : d r v <;> simp [vet, found]

theorem orderFree_field (name : String) (inner : d.OrderFree R) (fallback : Option α)
    (itself : ∀ a ∈ fallback, R a a) : (field name d fallback).OrderFree R where
  read := by
    intro M N s t same place
    have values := same place name
    simp only [field]
    generalize s.value? place name = v, t.value? place name = w at values ⊢
    cases values with
    | some value => exact inner value
    | none =>
      cases fallback with
      | none => exact .error
      | some a => exact .ok (itself a rfl)
  vets := by
    intro p member
    rw [List.mem_singleton.1 member]
    exact ⟨α, R, d, rfl, inner⟩
  passed := by
    intro properties place a read p member v found
    rw [List.mem_singleton.1 member] at found ⊢
    refine (vet_eq_none_iff d .buffered v).2 ⟨a, ?_⟩
    simpa only [field, fromObject, found] using read

theorem orderFree_required (name : String) (inner : d.OrderFree R) :
    (required name d).OrderFree R :=
  orderFree_field name inner none (by simp)

theorem orderFree_defaulted (name : String) (inner : d.OrderFree R) {a : α} (itself : R a a) :
    (defaulted name d a).OrderFree R :=
  orderFree_field name inner (some a) (by simpa using itself)

theorem orderFree_optional (name : String) (inner : d.OrderFree R) :
    (optional name d).OrderFree (Option.Rel R) :=
  orderFree_field name inner.nullable (some none) (by simp)

namespace OrderFree

theorem imp {R' : α → α → Prop} {record : Record α} (inner : record.OrderFree R)
    (weaken : ∀ a b, R a b → R' a b) : record.OrderFree R' :=
  ⟨fun _ _ _ _ same place => (inner.read same place).imp weaken, inner.vets, inner.passed⟩

theorem map {record : Record α} {f : α → β} (inner : record.OrderFree R)
    (lift : ∀ a b, R a b → S (f a) (f b)) : (f <$> record).OrderFree S where
  read := by
    intro M N s t same place
    rw [read_map, read_map]
    exact (inner.read same place).map lift
  vets := inner.vets
  passed := by
    intro properties place b read
    rw [read_map] at read
    obtain ⟨a, first, -⟩ := map_eq_ok_iff.1 read
    exact inner.passed properties place a first

theorem seq {f : Record (α → β)} {record : Record α}
    (first : f.OrderFree fun g h => ∀ a b, R a b → S (g a) (h b)) (second : record.OrderFree R) :
    (f <*> record).OrderFree S where
  read := by
    intro M N s t same place
    rw [read_seq, read_seq]
    exact (first.read same place).bind fun g h lift => (second.read same _).map lift
  vets := by
    intro p member
    rcases List.mem_append.1 member with before | last
    · exact first.vets p before
    · exact second.vets p last
  passed := by
    intro properties place b read p member
    rw [read_seq] at read
    obtain ⟨g, firstRead, rest⟩ := bind_eq_ok_iff.1 read
    obtain ⟨a, secondRead, -⟩ := map_eq_ok_iff.1 rest
    rcases List.mem_append.1 member with before | last
    · exact first.passed properties place g firstRead p before
    · exact second.passed properties _ a secondRead p last

theorem map_eq {record : Record α} (f : α → β) (inner : record.OrderFree (· = ·)) :
    (f <$> record).OrderFree (· = ·) :=
  inner.map fun _ _ => congrArg f

theorem seq_eq {f : Record (α → β)} {record : Record α} (first : f.OrderFree (· = ·))
    (second : record.OrderFree (· = ·)) : (f <*> record).OrderFree (· = ·) :=
  .seq (first.imp fun _ _ eq _ _ => congr eq) second

/-- An object is refused alone for an embedded text, whichever of its properties comes first. -/
theorem ofEmbedding_firstFault {record : Record α} (inner : record.OrderFree R)
    {properties others : List (String × Json)} {b : α} {fault : Fault}
    (distinct : (properties.map Prod.fst).Nodup)
    (each : ∀ name v, properties.lookup name = some v →
      ∃ w, others.lookup name = some w ∧ Decoder.RefusedForText v w)
    (read : record.read .buffered (fromObject others) 0 = .ok b) (embedding : fault.OfEmbedding) :
    ((record.firstFault? .buffered properties).getD fault).OfEmbedding := by
  cases found : record.firstFault? .buffered properties with
  | none => exact embedding
  | some e =>
    obtain ⟨⟨name, v⟩, member, refused⟩ := List.exists_of_findSome?_eq_some found
    obtain ⟨check, known, refused⟩ := Option.bind_eq_some_iff.1 refused
    obtain ⟨β, S, d, rfl, orderFree⟩ := inner.vets _ (Json.mem_of_lookup known)
    obtain ⟨w, written, refusedForText⟩ := each name v (Json.lookup_of_mem distinct member)
    have passes := inner.passed others 0 b read _ (Json.mem_of_lookup known) w written
    obtain ⟨c, accepted⟩ := (vet_eq_none_iff d .buffered w).1 passes
    exact refusedForText orderFree ((vet_eq_some_iff d .buffered v e).1 refused) accepted

theorem decode {record : Record α} (inner : record.OrderFree R) (name : String) :
    (record.decode name).OrderFree R := by
  intro M N v w same
  cases same.reordered with
  | @object properties _ others =>
    have outcome := inner.read (alike_fromObject same) 0
    simp only [Record.decode]
    generalize first : record.read .buffered (fromObject properties) 0 = x,
      second : record.read .buffered (fromObject others) 0 = y at outcome ⊢
    cases outcome with
    | ok related => exact .ok related
    | error => exact .error
    | first reason embedding =>
      refine .first reason (inner.ofEmbedding_firstFault same.distinct.1 ?_ second embedding)
      intro name v found
      obtain ⟨w, written, inside⟩ := same.of_lookup_first found
      exact ⟨w, written, Decoder.refusedForText_first inside⟩
    | second reason embedding =>
      refine .second reason (inner.ofEmbedding_firstFault same.distinct.2 ?_ first embedding)
      intro name w found
      obtain ⟨v, written, inside⟩ := same.of_lookup_second found
      exact ⟨v, written, Decoder.refusedForText_second inside⟩
  | @array items others =>
    refine (inner.read (alike_fromArray name record.size same) 0).bind fun a b related => ?_
    rw [same.items.length_eq]
    split
    · exact .ok related
    · exact .error
  | _ => exact .error

end OrderFree

theorem orderFree_optional_eq (name : String) (inner : d.OrderFree (· = ·)) :
    (optional name d).OrderFree (· = ·) := by
  refine (orderFree_optional name inner).imp fun o o' related => ?_
  cases related with
  | none => rfl
  | some eq => rw [eq]

end Record

end ExtractionPrompt
