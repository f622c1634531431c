import ExtractionPrompt.Json.Reader
import Mathlib.Data.List.Forall2

/-!
Values that differ only in the order of properties, inside objects at any depth.  Two such objects
hold values of this kind again under every name, because a name stands only once in each.  Their
order does matter to an object that stands for a text: only its first name says that it does.
-/

namespace ExtractionPrompt.Json

/-- Two properties of one name, with related values. -/
inductive SameName {α : Type} (R : α → α → Prop) : String × α → String × α → Prop where
  | intro (name : String) {a b : α} (same : R a b) : SameName R (name, a) (name, b)

/-- Each property of an object keeps its name, and its value up to order; then the properties may
change places. -/
inductive Reordered : Json → Json → Prop where
  | null : Reordered .null .null
  | bool (b : Bool) : Reordered (.bool b) (.bool b)
  | number (n : JsonNumber) : Reordered (.number n) (.number n)
  | string (s : String) : Reordered (.string s) (.string s)
  | array {items others : List Json} (each : List.Forall₂ Reordered items others) :
      Reordered (.array items) (.array others)
  | object {properties inPlace others : List (String × Json)}
      (each : List.Forall₂ (SameName Reordered) properties inPlace) (order : inPlace.Perm others) :
      Reordered (.object properties) (.object others)

mutual

/-- The properties of every object the other way round, at any depth. -/
def reversed : Json → Json
  | null => null
  | bool b => bool b
  | number n => number n
  | string s => string s
  | array items => array (reversedItems items)
  | object properties => object (reversedProperties properties).reverse

def reversedItems : List Json → List Json
  | [] => []
  | v :: rest => reversed v :: reversedItems rest

def reversedProperties : List (String × Json) → List (String × Json)
  | [] => []
  | (name, v) :: rest => (name, reversed v) :: reversedProperties rest

end

mutual

theorem reordered_reversed (v : Json) : v.Reordered v.reversed := by
  match v with
  | null => exact .null
  | bool b => exact .bool b
  | number n => exact .number n
  | string s => exact .string s
  | array items => exact .array (reordered_reversedItems items)
  | object properties =>
    exact .object (sameName_reversedProperties properties) (List.reverse_perm _).symm

theorem reordered_reversedItems (items : List Json) :
    List.Forall₂ Reordered items (reversedItems items) := by
  match items with
  | [] => exact .nil
  | v :: rest => exact .cons (reordered_reversed v) (reordered_reversedItems rest)

theorem sameName_reversedProperties (properties : List (String × Json)) :
    List.Forall₂ (SameName Reordered) properties (reversedProperties properties) := by
  match properties with
  | [] => exact .nil
  | (name, v) :: rest =>
    exact .cons (.intro name (reordered_reversed v)) (sameName_reversedProperties rest)

end

mutual

theorem Reordered.refl (v : Json) : v.Reordered v := by
  match v with
  | .null => exact .null
  | .bool b => exact .bool b
  | .number n => exact .number n
  | .string s => exact .string s
  | .array items => exact .array (reordered_items items)
  | .object properties => exact .object (sameName_properties properties) (.refl _)

theorem reordered_items (items : List Json) : List.Forall₂ Reordered items items := by
  match items with
  | [] => exact .nil
  | v :: rest => exact .cons (Reordered.refl v) (reordered_items rest)

theorem sameName_properties (properties : List (String × Json)) :
    List.Forall₂ (SameName Reordered) properties properties := by
  match properties with
  | [] => exact .nil
  | (name, v) :: rest => exact .cons (.intro name (Reordered.refl v)) (sameName_properties rest)

end

theorem wellFormed_array_iff (items : List Json) :
    (array items).WellFormed ↔ ∀ v ∈ items, v.WellFormed := by
  constructor
  · intro wellFormed
    cases wellFormed with
    | array _ each => exact each
  · exact .array items

theorem wellFormed_object_iff (properties : List (String × Json)) :
    (object properties).WellFormed ↔
      (properties.map Prod.fst).Nodup ∧ ∀ p ∈ properties, p.2.WellFormed := by
  constructor
  · intro wellFormed
    cases wellFormed with
    | object _ distinct each => exact ⟨distinct, each⟩
  · rintro ⟨distinct, each⟩
    exact .object properties distinct each

section

variable {α : Type} {R : α → α → Prop} {properties others : List (String × α)}

/-- Each property keeps its name and has a related value; then the properties may change places. -/
inductive UpToOrder (R : α → α → Prop) (properties others : List (String × α)) : Prop where
  | intro {inPlace : List (String × α)} (each : List.Forall₂ (SameName R) properties inPlace)
      (order : inPlace.Perm others) : UpToOrder R properties others

theorem map_fst_of_sameName (each : List.Forall₂ (SameName R) properties others) :
    properties.map Prod.fst = others.map Prod.fst := by
  induction each with
  | nil => rfl
  | cons first _ ih =>
    obtain ⟨name, -⟩ := first
    rw [List.map_cons, List.map_cons, ih]

theorem lookup_of_sameName (each : List.Forall₂ (SameName R) properties others) (name : String) :
    Option.Rel R (properties.lookup name) (others.lookup name) := by
  induction each with
  | nil => exact .none
  | cons first _ ih =>
    obtain ⟨other, same⟩ := first
    rw [lookup_cons_eq_ite, lookup_cons_eq_ite]
    split
    · exact .some same
    · exact ih

/-- Properties of distinct names are found wherever they stand. -/
theorem lookup_eq_of_perm (distinct : (properties.map Prod.fst).Nodup)
    (order : properties.Perm others) (name : String) :
    properties.lookup name = others.lookup name := by
  have distinct' : (others.map Prod.fst).Nodup := (order.map Prod.fst).nodup_iff.1 distinct
  apply Option.ext
  intro a
  constructor
  · intro found
    exact lookup_of_mem distinct' (order.subset (mem_of_lookup found))
  · intro found
    exact lookup_of_mem distinct (order.symm.subset (mem_of_lookup found))

theorem UpToOrder.imp {S : α → α → Prop} (same : UpToOrder R properties others)
    (weaken : ∀ a b, R a b → S a b) : UpToOrder S properties others := by
  obtain ⟨each, order⟩ := same
  refine .intro (each.imp ?_) order
  rintro _ _ ⟨name, related⟩
  exact .intro name (weaken _ _ related)

theorem UpToOrder.nodup (same : UpToOrder R properties others)
    (distinct : (properties.map Prod.fst).Nodup) : (others.map Prod.fst).Nodup := by
  obtain ⟨each, order⟩ := same
  rw [map_fst_of_sameName each] at distinct
  exact (order.map Prod.fst).nodup_iff.1 distinct

theorem UpToOrder.length_eq (same : UpToOrder R properties others) :
    properties.length = others.length := by
  obtain ⟨each, order⟩ := same
  rw [each.length_eq, order.length_eq]

theorem UpToOrder.perm (same : UpToOrder (· = ·) properties others) : properties.Perm others := by
  obtain ⟨each, order⟩ := same
  have inPlace : List.Forall₂ (· = ·) properties _ := each.imp fun _ _ first => by
    obtain ⟨name, eq⟩ := first
    rw [eq]
  rw [List.forall₂_eq_eq_eq] at inPlace
  exact inPlace ▸ order

theorem UpToOrder.of_singleton {p : String × α} (same : UpToOrder R [p] others) :
    ∃ q, others = [q] ∧ SameName R p q := by
  obtain ⟨each, order⟩ := same
  cases each with
  | cons first others =>
    cases others
    exact ⟨_, List.singleton_perm.1 order |>.symm, first⟩

theorem UpToOrder.lookup (same : UpToOrder R properties others)
    (distinct : (properties.map Prod.fst).Nodup) (name : String) :
    Option.Rel R (properties.lookup name) (others.lookup name) := by
  obtain ⟨each, order⟩ := same
  rw [map_fst_of_sameName each] at distinct
  rw [← lookup_eq_of_perm distinct order]
  exact lookup_of_sameName each name

end

theorem UpToOrder.reordered {properties others : List (String × Json)}
    (same : UpToOrder Reordered properties others) :
    (object properties).Reordered (object others) := by
  obtain ⟨each, order⟩ := same
  exact .object each order

/-- Some object, at any depth, stands for a text and has another property behind it. -/
inductive Overfull : Json → Prop where
  | here (v : Json) (next : String × Json) (more : List (String × Json)) :
      Overfull (.object ((embeddedName, v) :: next :: more))
  | item {items : List Json} {v : Json} (member : v ∈ items) (inner : v.Overfull) :
      Overfull (.array items)
  | property {properties : List (String × Json)} {p : String × Json} (member : p ∈ properties)
      (inner : p.2.Overfull) : Overfull (.object properties)

/-- Two values that differ only in the order of properties, and name no property of an object
twice.  `M` holds when the first is overfull, `N` when the second is. -/
structure Rearranged (M N : Prop) (v w : Json) : Prop where
  wellFormed : v.WellFormed
  reordered : v.Reordered w
  first : v.Overfull → M
  second : w.Overfull → N

theorem forall₂_of_mem {α β : Type} {R S : α → β → Prop} {l : List α} {m : List β}
    (each : List.Forall₂ R l m) (lift : ∀ a ∈ l, ∀ b ∈ m, R a b → S a b) : List.Forall₂ S l m := by
  induction each with
  | nil => exact .nil
  | cons related _ ih =>
    refine .cons (lift _ List.mem_cons_self _ List.mem_cons_self related) (ih ?_)
    intro a inFirst b inSecond
    exact lift a (List.mem_cons_of_mem _ inFirst) b (List.mem_cons_of_mem _ inSecond)

theorem exists_of_forall₂ {α β : Type} {R : α → β → Prop} {l : List α} {m : List β}
    (each : List.Forall₂ R l m) {b : β} (member : b ∈ m) : ∃ a ∈ l, R a b := by
  induction each with
  | nil => cases member
  | cons related _ ih =>
    rcases List.mem_cons.1 member with rfl | later
    · exact ⟨_, List.mem_cons_self, related⟩
    · obtain ⟨a, inside, related⟩ := ih later
      exact ⟨a, List.mem_cons_of_mem _ inside, related⟩

namespace Rearranged

variable {M N : Prop}

theorem items {items others : List Json} (same : (array items).Rearranged M N (array others)) :
    List.Forall₂ (Rearranged M N) items others := by
  have wellFormed := (wellFormed_array_iff items).1 same.wellFormed
  cases same.reordered with
  | array each =>
    refine forall₂_of_mem each fun v inFirst w inSecond reordered => ?_
    exact ⟨wellFormed v inFirst, reordered, fun inner => same.first (.item inFirst inner),
      fun inner => same.second (.item inSecond inner)⟩

variable {properties others : List (String × Json)}

theorem upToOrder (same : (object properties).Rearranged M N (object others)) :
    UpToOrder (Rearranged M N) properties others := by
  have wellFormed := ((wellFormed_object_iff properties).1 same.wellFormed).2
  cases same.reordered with
  | @object _ inPlace _ each order =>
    refine .intro (forall₂_of_mem each fun p inFirst q inSecond related => ?_) order
    have moved : q ∈ others := order.subset inSecond
    obtain ⟨name, reordered⟩ := related
    exact .intro name ⟨wellFormed _ inFirst, reordered,
      fun inner => same.first (.property inFirst inner),
      fun inner => same.second (.property moved inner)⟩

theorem distinct (same : (object properties).Rearranged M N (object others)) :
    (properties.map Prod.fst).Nodup ∧ (others.map Prod.fst).Nodup := by
  have distinct := ((wellFormed_object_iff properties).1 same.wellFormed).1
  exact ⟨distinct, same.upToOrder.nodup distinct⟩

/-- Under every name both objects hold nothing, or values that are rearranged again. -/
theorem lookup (same : (object properties).Rearranged M N (object others)) (name : String) :
    Option.Rel (Rearranged M N) (properties.lookup name) (others.lookup name) :=
  same.upToOrder.lookup same.distinct.1 name

theorem of_lookup_first (same : (object properties).Rearranged M N (object others)) {name : String}
    {v : Json} (found : properties.lookup name = some v) :
    ∃ w, others.lookup name = some w ∧ v.Rearranged M N w := by
  have values := same.lookup name
  rw [found] at values
  generalize others.lookup name = o at values
  cases values with
  | some inside => exact ⟨_, rfl, inside⟩

theorem of_lookup_second (same : (object properties).Rearranged M N (object others)) {name : String}
    {w : Json} (found : others.lookup name = some w) :
    ∃ v, properties.lookup name = some v ∧ v.Rearranged M N w := by
  have values := same.lookup name
  rw [found] at values
  generalize properties.lookup name = o at values
  cases values with
  | some inside => exact ⟨_, rfl, inside⟩

end Rearranged

end ExtractionPrompt.Json
