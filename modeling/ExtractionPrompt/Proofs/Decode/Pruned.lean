import ExtractionPrompt.Proofs.Decode.OrderFree
import Mathlib.Data.List.Forall2

/-!
Properties that say nothing: those that a record does not know, and `null` where it stands for
nothing.  A pruner is made beside a decoder, part by part, and leaves such properties out of the
objects that the decoder reads as records or choices.  A decoder is indifferent to its pruner when
it takes what was pruned as it takes the whole; every combinator keeps this.

Which of the properties go is up to a selection of places, so a law for every selection is one for
every subset of them.
-/

namespace ExtractionPrompt

/-- A step into a value. -/
inductive PathStep where
  | property (name : String)
  | item (index : Nat)
  deriving DecidableEq

/-- The chosen places; a place is the path to it from the outside. -/
abbrev Selection := List PathStep → Bool

/-- What is chosen behind a step, seen from there. -/
def Selection.behind (chosen : Selection) (step : PathStep) : Selection :=
  fun place => chosen (step :: place)

/-- What goes from objects and from the items of arrays.  Scalars, `null` among them, stay what they
are. -/
structure Pruner where
  properties : Selection → List (String × Json) → List (String × Json)
  items : Selection → List Json → List Json

namespace Pruner

def prune (p : Pruner) (chosen : Selection) : Json → Json
  | .object properties => .object (p.properties chosen properties)
  | .array items => .array (p.items chosen items)
  | v => v

/-- For free values, and for what is no record. -/
def keep : Pruner := ⟨fun _ properties => properties, fun _ items => items⟩

def each (item : Pruner) : Pruner where
  properties _ properties := properties
  items chosen items := items.mapIdx fun index v => item.prune (chosen.behind (.item index)) v

end Pruner

/-- A property that a record knows, whether `null` is the same as leaving it out, and what goes from
its value. -/
structure Property where
  name : String
  nullable : Bool
  pruner : Pruner

def needed (name : String) (pruner : Pruner) : Property := ⟨name, false, pruner⟩

def spare (name : String) (pruner : Pruner) : Property := ⟨name, true, pruner⟩

namespace Pruner

/-- What is left of a property of an object, if anything. -/
def pruneProperty (known : List Property) (chosen : Selection) (name : String) (v : Json) :
    Option Json :=
  match known.find? (·.name == name) with
  | none => if chosen [.property name] then none else some v
  | some p =>
    if p.nullable && v.isNull && chosen [.property name] then none
    else some (p.pruner.prune (chosen.behind (.property name)) v)

/-- In an array the properties are known by their places, and none can go. -/
def record (known : List Property) : Pruner where
  properties chosen properties := properties.filterMap fun (name, v) =>
    (pruneProperty known chosen name v).map fun left => (name, left)
  items chosen items := items.mapIdx fun index v =>
    match known[index]? with
    | none => v
    | some p => p.pruner.prune (chosen.behind (.item index)) v

/-- What goes from a body is up to its tag; behind no tag that is known, nothing does. -/
def announced (read : Decoder Pruner) : Option Json → Pruner
  | none => keep
  | some tag => ((read .buffered tag).toOption).getD keep

def tagged (body : Pruner) : Pruner := record [needed "type" keep, needed "rule" body]

def choice (cases : List (String × Pruner)) : Pruner where
  properties chosen properties :=
    (tagged (announced (Decoder.vocabulary cases) (properties.lookup "type"))).properties
      chosen properties
  items chosen items :=
    (tagged (announced (Decoder.leadingTag cases) items.head?)).items chosen items

theorem prune_keep (chosen : Selection) (v : Json) : keep.prune chosen v = v := by
  cases v <;> rfl

end Pruner

namespace Json

variable {α β : Type}

/-- Names that are distinct keep what is found under them apart. -/
theorem lookup_filterMap {properties : List (String × α)}
    (distinct : (properties.map Prod.fst).Nodup) (f : String → α → Option β) (name : String) :
    (properties.filterMap fun (name, a) => (f name a).map fun b => (name, b)).lookup name =
      (properties.lookup name).bind (f name) := by
  induction properties with
  | nil => rfl
  | cons p rest ih =>
    obtain ⟨first, a⟩ := p
    obtain ⟨absent, others⟩ := List.nodup_cons.1 distinct
    have later := ih others
    rw [lookup_cons_eq_ite]
    by_cases here : name = first
    · subst here
      have missing : rest.lookup name = none := by
        rw [List.lookup_eq_none_iff]
        rintro ⟨other, b⟩ member
        rw [bne_iff_ne]
        rintro rfl
        exact absent (List.mem_map.2 ⟨(name, b), member, rfl⟩)
      cases left : f name a with
      | none => simp [left, later, missing]
      | some b => simp [left]
    · cases left : f first a with
      | none => simp [left, later, here]
      | some b => simp [left, lookup_cons_eq_ite, later, here]

end Json

namespace Decoder

/-- What was pruned is refused with the whole, with whatever fault, or read as the same. -/
def Indifferent {α : Type} (d : Decoder α) (p : Pruner) : Prop :=
  ∀ ⦃v : Json⦄, v.WellFormed →
    ∀ chosen, SameOutcome (· = ·) (d .buffered v) (d .buffered (p.prune chosen v))

variable {α β : Type} {d : Decoder α} {p : Pruner}

theorem indifferent_keep (d : Decoder α) : d.Indifferent .keep := by
  intro v _ chosen
  rw [Pruner.prune_keep]
  exact SameOutcome.refl _

namespace Indifferent

theorem map (f : α → β) (inner : d.Indifferent p) : (d.map f).Indifferent p :=
  fun _ wellFormed chosen => (inner wellFormed chosen).map fun _ _ => congrArg f

theorem nullable (inner : d.Indifferent p) : d.nullable.Indifferent p := by
  intro v wellFormed chosen
  have present := (inner wellFormed chosen).map fun _ _ => congrArg Option.some
  cases v with
  | object => exact present
  | array => exact present
  | _ => exact SameOutcome.refl _

theorem list (inner : d.Indifferent p) : (list d).Indifferent (.each p) := by
  intro v wellFormed chosen
  cases v with
  | array items =>
    have each : List.Forall₂ (fun v w => SameOutcome (· = ·) (d .buffered v) (d .buffered w)) items
        (items.mapIdx fun index v => p.prune (chosen.behind (.item index)) v) := by
      rw [List.forall₂_iff_get]
      refine ⟨by simp, ?_⟩
      intro i here there
      simpa using inner ((Json.wellFormed_array_iff items).1 wellFormed _ (List.getElem_mem here)) _
    exact (Agree.mapM each).imp fun _ _ same => by rwa [List.forall₂_eq_eq_eq] at same
  | _ => exact .error trivial

end Indifferent

end Decoder

/-- What a record finds for one of its properties in what was pruned, and in the whole. -/
inductive Property.Pruned (p : Property) : Option Json → Option Json → Prop where
  | absent : p.Pruned none none
  | kept {v : Json} (wellFormed : v.WellFormed) (chosen : Selection) :
      p.Pruned (some v) (some (p.pruner.prune chosen v))
  | dropped (nullable : p.nullable = true) : p.Pruned (some .null) none

namespace Record

/-- What is found for the known properties, the first of them at this place. -/
def Slots.Pruned (known : List Property) (place : Nat) (s t : Slots) : Prop :=
  ∀ (i : Nat) (p : Property), known[i]? = some p →
    p.Pruned (s.value? (place + i) p.name) (t.value? (place + i) p.name)

/-- The record has these properties, in this order, and takes what was pruned as it takes the
whole. -/
structure Indifferent {α : Type} (record : Record α) (known : List Property) : Prop where
  size : record.size = known.length
  read : ∀ s t place, Slots.Pruned known place s t →
    Decoder.SameOutcome (· = ·) (record.read .buffered s place) (record.read .buffered t place)

variable {α β : Type} {d : Decoder α} {p : Pruner}

theorem indifferent_field (name : String) (inner : d.Indifferent p)
    {fallback : Option α} {nullable : Bool}
    (nothing : nullable = true → ∃ a, fallback = some a ∧ d .buffered .null = .ok a) :
    (field name d fallback).Indifferent [⟨name, nullable, p⟩] where
  size := rfl
  read s t place same := by
    have found := same 0 _ rfl
    dsimp only [Nat.add_zero] at found
    simp only [field]
    generalize s.value? place name = v, t.value? place name = w at found ⊢
    cases found with
    | absent =>
      cases fallback with
      | none => exact .error trivial
      | some a => exact .ok rfl
    | kept wellFormed chosen => exact inner wellFormed chosen
    | dropped nullable =>
      obtain ⟨a, rfl, read⟩ := nothing nullable
      dsimp only
      rw [read]
      exact .ok rfl

theorem indifferent_required (name : String) (inner : d.Indifferent p) :
    (required name d).Indifferent [needed name p] :=
  indifferent_field name inner fun nullable => absurd nullable Bool.false_ne_true

theorem indifferent_defaulted (name : String) (inner : d.Indifferent p) (a : α) :
    (defaulted name d a).Indifferent [needed name p] :=
  indifferent_field name inner fun nullable => absurd nullable Bool.false_ne_true

theorem indifferent_optional (name : String) (inner : d.Indifferent p) :
    (optional name d).Indifferent [spare name p] :=
  indifferent_field name inner.nullable fun _ => ⟨none, rfl, rfl⟩

namespace Indifferent

theorem map {record : Record α} {known : List Property} (f : α → β)
    (inner : record.Indifferent known) : (f <$> record).Indifferent known where
  size := by rw [size_map, inner.size]
  read s t place same := by
    rw [read_map, read_map]
    exact (inner.read s t place same).map fun _ _ => congrArg f

theorem seq {f : Record (α → β)} {record : Record α} {known more : List Property}
    (first : f.Indifferent known) (second : record.Indifferent more) :
    (f <*> record).Indifferent (known ++ more) where
  size := by rw [size_seq, first.size, second.size, List.length_append]
  read s t place same := by
    have before : Slots.Pruned known place s t := by
      intro i p here
      obtain ⟨short, -⟩ := List.getElem?_eq_some_iff.1 here
      apply same
      rw [List.getElem?_append_left short, here]
    have after : Slots.Pruned more (place + f.size) s t := by
      intro i p here
      rw [first.size, Nat.add_assoc]
      apply same
      rw [List.getElem?_append_right (Nat.le_add_right _ _), Nat.add_sub_cancel_left, here]
    rw [read_seq, read_seq]
    refine (first.read s t place before).bind ?_
    rintro g _ rfl
    exact (second.read s t _ after).map fun _ _ => congrArg g

end Indifferent

/-- The known properties have distinct names, so each is found under its own. -/
theorem find?_known {known : List Property} (distinct : (known.map (·.name)).Nodup) {p : Property}
    (member : p ∈ known) : known.find? (·.name == p.name) = some p := by
  induction known with
  | nil => cases member
  | cons q rest ih =>
    obtain ⟨absent, others⟩ := List.nodup_cons.1 distinct
    rcases List.mem_cons.1 member with rfl | later
    · simp
    · have other : q.name ≠ p.name := fun same => absent (List.mem_map.2 ⟨p, later, same.symm⟩)
      rw [List.find?_cons_of_neg (by simpa using other), ih others later]

theorem lookup_pruned {known : List Property} {properties : List (String × Json)}
    (wellFormed : (Json.object properties).WellFormed) (chosen : Selection) (name : String) :
    ((Pruner.record known).properties chosen properties).lookup name =
      (properties.lookup name).bind (Pruner.pruneProperty known chosen name) :=
  Json.lookup_filterMap ((Json.wellFormed_object_iff properties).1 wellFormed).1 _ name

/-- A property that is needed stays. -/
theorem lookup_needed {known : List Property} (distinct : (known.map (·.name)).Nodup)
    {name : String} {p : Pruner} (member : needed name p ∈ known)
    {properties : List (String × Json)} (wellFormed : (Json.object properties).WellFormed)
    (chosen : Selection) :
    ((Pruner.record known).properties chosen properties).lookup name =
      (properties.lookup name).map (p.prune (chosen.behind (.property name))) := by
  have known : known.find? (·.name == name) = some (needed name p) := find?_known distinct member
  rw [lookup_pruned wellFormed]
  cases properties.lookup name with
  | none => rfl
  | some v => simp [Pruner.pruneProperty, known, needed]

theorem lookup_kept {known : List Property} (distinct : (known.map (·.name)).Nodup) {name : String}
    (member : needed name .keep ∈ known) {properties : List (String × Json)}
    (wellFormed : (Json.object properties).WellFormed) (chosen : Selection) :
    ((Pruner.record known).properties chosen properties).lookup name = properties.lookup name := by
  rw [lookup_needed distinct member wellFormed, funext (Pruner.prune_keep _), Option.map_id']

theorem pruned_lookup {known : List Property} (distinct : (known.map (·.name)).Nodup) {p : Property}
    (member : p ∈ known) {properties : List (String × Json)}
    (wellFormed : (Json.object properties).WellFormed) (chosen : Selection) :
    p.Pruned (properties.lookup p.name)
      (((Pruner.record known).properties chosen properties).lookup p.name) := by
  rw [lookup_pruned wellFormed]
  cases found : properties.lookup p.name with
  | none => exact .absent
  | some v =>
    have inside :=
      ((Json.wellFormed_object_iff properties).1 wellFormed).2 _ (Json.mem_of_lookup found)
    rw [Option.bind_some, Pruner.pruneProperty, find?_known distinct member]
    dsimp only
    split
    · rename_i dropped
      simp only [Bool.and_eq_true] at dropped
      obtain ⟨⟨nullable, isNull⟩, -⟩ := dropped
      cases v with
      | null => exact .dropped nullable
      | _ => cases isNull
    · exact .kept inside _

theorem pruned_getElem? (known : List Property)
    {items : List Json} (wellFormed : (Json.array items).WellFormed) (chosen : Selection) {i : Nat}
    {p : Property} (here : known[i]? = some p) :
    p.Pruned items[i]? ((Pruner.record known).items chosen items)[i]? := by
  rw [Pruner.record, List.getElem?_mapIdx]
  cases found : items[i]? with
  | none => exact .absent
  | some v =>
    have inside := (Json.wellFormed_array_iff items).1 wellFormed v (List.mem_of_getElem? found)
    rw [Option.map_some, here]
    exact .kept inside _

/-- In an object there may be properties of the record's own and others that are kept for someone
else. -/
theorem Indifferent.decode_object {record : Record α} {own known : List Property}
    (inner : record.Indifferent own) (distinct : (known.map (·.name)).Nodup) (within : own ⊆ known)
    (name : String) {properties : List (String × Json)}
    (wellFormed : (Json.object properties).WellFormed) (chosen : Selection) :
    Decoder.SameOutcome (· = ·) (record.decode name .buffered (.object properties))
      (record.decode name .buffered
        (.object ((Pruner.record known).properties chosen properties))) := by
  have same : Slots.Pruned own 0 (fromObject properties)
      (fromObject ((Pruner.record known).properties chosen properties)) :=
    fun i p here => pruned_lookup distinct (within (List.mem_of_getElem? here)) wellFormed chosen
  have read := inner.read _ _ 0 same
  simp only [Record.decode]
  generalize record.read .buffered (fromObject properties) 0 = x, record.read .buffered
    (fromObject ((Pruner.record known).properties chosen properties)) 0 = y at read ⊢
  cases read with
  | ok related => exact .ok related
  | error => exact .error trivial

theorem Indifferent.decode {record : Record α} {known : List Property}
    (inner : record.Indifferent known) (distinct : (known.map (·.name)).Nodup) (name : String) :
    (record.decode name).Indifferent (.record known) := by
  intro v wellFormed chosen
  cases v with
  | object properties =>
    exact inner.decode_object distinct (List.Subset.refl known) name wellFormed chosen
  | array items =>
    have same : Slots.Pruned known 0 (fromArray name record.size items)
        (fromArray name record.size ((Pruner.record known).items chosen items)) := by
      intro i p here
      rw [Nat.zero_add]
      exact pruned_getElem? known wellFormed chosen here
    have length : ((Pruner.record known).items chosen items).length = items.length :=
      List.length_mapIdx
    refine (inner.read _ _ 0 same).bind ?_
    rintro a _ rfl
    rw [length]
    exact Decoder.SameOutcome.refl _
  | _ => exact .error trivial

end Record

namespace Decoder

variable {α β : Type}

theorem lookup_map (known : List (String × α)) (f : α → β) (name : String) :
    (known.map fun c => (c.1, f c.2)).lookup name = (known.lookup name).map f := by
  induction known with
  | nil => rfl
  | cons c rest ih =>
    rw [List.map_cons, Json.lookup_cons_eq_ite, Json.lookup_cons_eq_ite, ih]
    split <;> rfl

theorem named_map (known : List (String × α)) (f : α → β) (name : String) :
    named (known.map fun c => (c.1, f c.2)) name = (named known name).map f := by
  rw [named, named, lookup_map]
  cases known.lookup name with
  | none => simp [Except.map, Function.comp_def]
  | some a => rfl

section

variable {properties : List (String × Json)} (wellFormed : (Json.object properties).WellFormed)
  (body : Pruner)
  (chosen : Selection)

theorem taggedNames_nodup : ([needed "type" .keep, needed "rule" body].map (·.name)).Nodup := by
  simp [needed]

include wellFormed in
theorem lookup_type_tagged :
    ((Pruner.tagged body).properties chosen properties).lookup "type" = properties.lookup "type" :=
  Record.lookup_kept (taggedNames_nodup body) List.mem_cons_self wellFormed chosen

include wellFormed in
theorem lookup_rule_tagged :
    ((Pruner.tagged body).properties chosen properties).lookup "rule" =
      (properties.lookup "rule").map (body.prune (chosen.behind (.property "rule"))) :=
  Record.lookup_needed (taggedNames_nodup body) (List.mem_cons_of_mem _ List.mem_cons_self)
    wellFormed chosen

theorem items_tagged_singleton (tag : Json) : (Pruner.tagged body).items chosen [tag] = [tag] := by
  simp [Pruner.tagged, Pruner.record, needed, Pruner.prune_keep]

theorem items_tagged (tag v : Json) (more : List Json) :
    (Pruner.tagged body).items chosen (tag :: v :: more) =
      tag :: body.prune (chosen.behind (.item 1)) v :: more := by
  have others : more.mapIdx (fun _ v => v) = more := List.mapIdx_eq_iff.2 fun i => by simp
  simp [Pruner.tagged, Pruner.record, needed, Pruner.prune_keep, List.mapIdx_cons, others]

end

/-- What a tag stands for is found by its name alone. -/
theorem vocabulary_map (known : List (String × α)) (f : α → β) (r : Reading) (tag : Json) :
    vocabulary (known.map fun c => (c.1, f c.2)) r tag = (vocabulary known r tag).map f := by
  cases tag with
  | string name => exact named_map known f name
  | object properties =>
    match properties with
    | [(name, v)] =>
      simp only [vocabulary, named_map]
      cases named known name with
      | error => rfl
      | ok a =>
        cases noValue r v with
        | error => rfl
        | ok => rfl
    | [] => rfl
    | _ :: _ :: _ => rfl
  | _ => rfl

theorem leadingTag_map (known : List (String × α)) (f : α → β) (tag : Json) :
    leadingTag (known.map fun c => (c.1, f c.2)) .buffered tag =
      (leadingTag known .buffered tag).map f := by
  match tag with
  | .string name => exact named_map known f name
  | .number (.integer (.ofNat index)) =>
    simp only [leadingTag, List.getElem?_map, List.length_map]
    cases known[index]? with
    | none => rfl
    | some => rfl
  | .number (.integer (.negSucc _)) => rfl
  | .number (.binary _) => rfl
  | .null | .bool _ | .array _ | .object _ => rfl

theorem indifferent_choice (name : String) {cases : List (String × Decoder α × Pruner)}
    (each : ∀ c ∈ cases, c.2.1.Indifferent c.2.2) :
    (choice name (cases.map fun c => (c.1, c.2.1))).Indifferent
      (.choice (cases.map fun c => (c.1, c.2.2))) := by
  intro v wellFormed chosen
  cases v with
  | object properties =>
    simp only [choice, bodyReading_buffered, Pruner.prune, Pruner.choice,
      lookup_type_tagged wellFormed, lookup_rule_tagged wellFormed]
    cases properties.lookup "type" with
    | none => exact .error trivial
    | some tag =>
      simp only [Pruner.announced, vocabulary_map]
      cases read : vocabulary cases .buffered tag with
      | error => exact .error trivial
      | ok c =>
        obtain ⟨p, member, rfl⟩ := mem_of_vocabulary read
        cases found : properties.lookup "rule" with
        | none => exact .error trivial
        | some body =>
          have inside :=
            ((Json.wellFormed_object_iff properties).1 wellFormed).2 _ (Json.mem_of_lookup found)
          exact each p member inside _
  | array items =>
    have inside := (Json.wellFormed_array_iff items).1 wellFormed
    cases items with
    | nil => exact .error trivial
    | cons tag rest =>
      cases rest with
      | nil =>
        simp only [Pruner.prune, Pruner.choice, items_tagged_singleton]
        exact SameOutcome.refl _
      | cons body more =>
        simp only [choice, Pruner.prune, Pruner.choice, items_tagged, List.head?_cons,
          Pruner.announced, leadingTag_map]
        cases read : leadingTag cases .buffered tag with
        | error => exact .error trivial
        | ok c =>
          obtain ⟨p, member, rfl⟩ := mem_of_leadingTag read
          refine (each p member (inside body (by simp)) _).bind ?_
          rintro a _ rfl
          exact SameOutcome.refl _
  | _ => exact .error trivial

end Decoder

end ExtractionPrompt
