import ExtractionPrompt.Json.Reader
import ExtractionPrompt.Proofs.Except

/-!
What every value is that was read from a text.  It names no property of an object twice, however
the text repeats them; and where objects may stand for texts, none of its objects does.
-/

namespace ExtractionPrompt.Json

/-- A property of values that each step of the reader keeps.  An object is made of what was read
in the order of the text, and where objects may stand for texts it does not begin like one. -/
structure Kept (embeds : Bool) (P : Json → Prop) : Prop where
  null : P .null
  bool : ∀ b, P (.bool b)
  number : ∀ n, P (.number n)
  string : ∀ s, P (.string s)
  array : ∀ items, (∀ v ∈ items, P v) → P (.array items)
  noProperty : P (.object [])
  object : ∀ name v rest, (embeds && name == embeddedName) = false →
    (∀ p ∈ (name, v) :: rest, P p.2) → P (.object (collect ((name, v) :: rest)))

/-- Neither an array nor an object is a scalar. -/
theorem Kept.of_readScalar {embeds : Bool} {P : Json → Prop} (kept : Kept embeds P)
    {s rest : List Char} {v : Json} (read : readScalar s = .ok (v, rest)) : P v := by
  unfold readScalar at read
  split at read <;> obtain ⟨p, -, same⟩ := map_eq_ok_iff.1 read <;> cases same
  · exact kept.null
  · exact kept.bool true
  · exact kept.bool false
  · exact kept.string _
  · exact kept.number _

theorem exists_of_alone {x : Except ReadFault (Json × List Char)} {v : Json}
    (read : x.bind alone = .ok v) : ∃ rest, x = .ok (v, rest) := by
  obtain ⟨⟨w, rest⟩, found, last⟩ := bind_eq_ok_iff.1 read
  unfold alone at last
  split at last
  · cases last
    exact ⟨rest, found⟩
  · cases last

/-- What a reader of each kind gives, with that much fuel. -/
structure Reads (embeds : Bool) (P : Json → Prop) (fuel : Nat) : Prop where
  value : ∀ depth s v rest, readValue embeds fuel depth s = .ok (v, rest) → P v
  items : ∀ depth index s items rest, readItems embeds fuel depth index s = .ok (items, rest) →
    ∀ v ∈ items, P v
  properties : ∀ depth name s entries rest,
    readProperties embeds fuel depth name s = .ok (entries, rest) →
    ∃ v more, entries = (name, v) :: more ∧ ∀ p ∈ entries, P p.2
  embedded : ∀ s v rest, readEmbedded embeds fuel s = .ok (v, rest) → P v

namespace Reads

variable {embeds : Bool} {P : Json → Prop} {fuel : Nat}

theorem value_succ (kept : Kept embeds P) (known : Reads embeds P fuel) {depth : Nat}
    {s rest : List Char} {v : Json}
    (read : readValue embeds (fuel + 1) depth s = .ok (v, rest)) : P v := by
  unfold readValue at read
  split at read
  · split at read
    · cases read
    · split at read
      · cases read
        exact kept.array [] (by simp)
      · cases read
      · obtain ⟨⟨items, after⟩, inner, same⟩ := map_eq_ok_iff.1 read
        cases same
        exact kept.array items (known.items _ _ _ _ _ inner)
  · split at read
    · cases read
    · split at read
      · cases read
        exact kept.noProperty
      · obtain ⟨⟨name, after⟩, -, last⟩ := bind_eq_ok_iff.1 read
        dsimp only at last
        split at last
        · exact known.embedded _ _ _ last
        · rename_i itself
          obtain ⟨⟨entries, after⟩, inner, same⟩ := map_eq_ok_iff.1 last
          cases same
          obtain ⟨v, more, rfl, each⟩ := known.properties _ _ _ _ _ inner
          exact kept.object name v more (Bool.eq_false_iff.2 itself) each
  · exact kept.of_readScalar (mapError_eq_ok_iff.1 read)

theorem items_succ (known : Reads embeds P fuel) {depth index : Nat} {s rest : List Char}
    {items : List Json} (read : readItems embeds (fuel + 1) depth index s = .ok (items, rest)) :
    ∀ v ∈ items, P v := by
  unfold readItems at read
  obtain ⟨⟨v, after⟩, first, others⟩ := bind_eq_ok_iff.1 read
  have head : P v := known.value _ _ _ _ (mapError_eq_ok_iff.1 first)
  dsimp only at others
  split at others
  · split at others
    · cases others
    · obtain ⟨⟨more, last⟩, inner, same⟩ := bind_eq_ok_iff.1 others
      cases same
      exact List.forall_mem_cons.2 ⟨head, known.items _ _ _ _ _ inner⟩
  · cases others
    exact List.forall_mem_cons.2 ⟨head, by simp⟩
  · cases others
  · cases others

theorem properties_succ (known : Reads embeds P fuel) {depth : Nat} {name : String}
    {s rest : List Char} {entries : List (String × Json)}
    (read : readProperties embeds (fuel + 1) depth name s = .ok (entries, rest)) :
    ∃ v more, entries = (name, v) :: more ∧ ∀ p ∈ entries, P p.2 := by
  unfold readProperties at read
  obtain ⟨before, -, body⟩ := bind_eq_ok_iff.1 read
  obtain ⟨⟨v, after⟩, first, others⟩ := bind_eq_ok_iff.1 body
  have head : P v := known.value _ _ _ _ (mapError_eq_ok_iff.1 first)
  dsimp only at others
  split at others
  · obtain ⟨⟨next, start⟩, -, more⟩ := bind_eq_ok_iff.1 others
    obtain ⟨⟨entries, last⟩, inner, same⟩ := bind_eq_ok_iff.1 more
    cases same
    obtain ⟨_, _, -, each⟩ := known.properties _ _ _ _ _ inner
    exact ⟨v, entries, rfl, List.forall_mem_cons.2 ⟨head, each⟩⟩
  · cases others
    exact ⟨v, [], rfl, List.forall_mem_cons.2 ⟨head, by simp⟩⟩
  · cases others
  · cases others

theorem embedded_succ (known : Reads embeds P fuel) {s rest : List Char} {v : Json}
    (read : readEmbedded embeds (fuel + 1) s = .ok (v, rest)) : P v := by
  unfold readEmbedded at read
  obtain ⟨⟨text, after⟩, -, body⟩ := bind_eq_ok_iff.1 read
  obtain ⟨w, inner, others⟩ := bind_eq_ok_iff.1 body
  obtain ⟨last, -, same⟩ := bind_eq_ok_iff.1 others
  cases same
  obtain ⟨_, found⟩ := exists_of_alone (mapError_eq_ok_iff.1 inner)
  exact known.value _ _ _ _ found

end Reads

theorem Kept.reads {embeds : Bool} {P : Json → Prop} (kept : Kept embeds P) (fuel : Nat) :
    Reads embeds P fuel := by
  induction fuel with
  | zero =>
    constructor
    · intro depth s v rest read
      simp [readValue] at read
    · intro depth index s items rest read
      simp [readItems] at read
    · intro depth name s entries rest read
      simp [readProperties] at read
    · intro s v rest read
      simp [readEmbedded] at read
  | succ fuel known =>
    constructor
    · intro depth s v rest read
      exact known.value_succ kept read
    · intro depth index s items rest read
      exact known.items_succ read
    · intro depth name s entries rest read
      exact known.properties_succ read
    · intro s v rest read
      exact known.embedded_succ read

theorem Kept.of_parseAs {embeds : Bool} {P : Json → Prop} (kept : Kept embeds P) {s : String}
    {v : Json} (read : parseAs embeds s = .ok v) : P v := by
  obtain ⟨rest, found⟩ := exists_of_alone read
  exact (kept.reads _).value _ _ _ _ found

theorem kept_wellFormed (embeds : Bool) : Kept embeds WellFormed where
  null := .null
  bool := .bool
  number := .number
  string := .string
  array := .array
  noProperty := .object [] (by simp) (by simp)
  object _ _ _ _ each := .object _ (nodup_collect _) fun p member =>
    each p (mem_of_mem_collect member)

theorem wellFormed_of_parseAs {embeds : Bool} {s : String} {v : Json}
    (read : parseAs embeds s = .ok v) : v.WellFormed :=
  (kept_wellFormed embeds).of_parseAs read

mutual

/-- No object stands for a text, at any depth. -/
def isLiteral : Json → Bool
  | array items => literalItems items
  | object properties => (embedding? properties).isNone && literalProperties properties
  | null => true
  | bool _ => true
  | number _ => true
  | string _ => true

def literalItems : List Json → Bool
  | [] => true
  | v :: rest => isLiteral v && literalItems rest

def literalProperties : List (String × Json) → Bool
  | [] => true
  | (_, v) :: rest => isLiteral v && literalProperties rest

end

theorem literalItems_iff (items : List Json) :
    literalItems items = true ↔ ∀ v ∈ items, v.isLiteral = true := by
  induction items with
  | nil => simp [literalItems]
  | cons v rest ih => simp [literalItems, ih]

theorem literalProperties_iff (properties : List (String × Json)) :
    literalProperties properties = true ↔ ∀ p ∈ properties, p.2.isLiteral = true := by
  induction properties with
  | nil => simp [literalProperties]
  | cons p rest ih => simp [literalProperties, ih]

theorem isLiteral_array_iff (items : List Json) :
    (array items).isLiteral = true ↔ ∀ v ∈ items, v.isLiteral = true := by
  rw [isLiteral, literalItems_iff]

theorem isLiteral_object_iff (properties : List (String × Json)) :
    (object properties).isLiteral = true ↔
      embedding? properties = none ∧ ∀ p ∈ properties, p.2.isLiteral = true := by
  rw [isLiteral, Bool.and_eq_true, Option.isNone_iff_eq_none, literalProperties_iff]

theorem embedding?_embeddedName (v : Json) (rest : List (String × Json)) :
    embedding? ((embeddedName, v) :: rest) = some v := by
  simp [embedding?]

theorem eq_cons_of_embedding? {properties : List (String × Json)} {v : Json}
    (stands : embedding? properties = some v) : ∃ rest, properties = (embeddedName, v) :: rest := by
  cases properties with
  | nil => cases stands
  | cons p rest =>
    simp only [embedding?, Option.ite_none_right_eq_some, Option.some.injEq] at stands
    obtain ⟨name, rfl⟩ := stands
    exact ⟨rest, by rw [← name]⟩

/-- Whether an object stands for a text depends on its first name alone. -/
theorem embedding?_eq_none_iff (properties : List (String × Json)) :
    embedding? properties = none ↔ (properties.map Prod.fst).head? ≠ some embeddedName := by
  cases properties <;> simp [embedding?]

theorem kept_isLiteral : Kept true fun v => v.isLiteral = true where
  null := rfl
  bool _ := rfl
  number _ := rfl
  string _ := rfl
  array items := (isLiteral_array_iff items).2
  noProperty := rfl
  object name v rest itself each := by
    have other : name ≠ embeddedName := by simpa using itself
    refine (isLiteral_object_iff _).2 ⟨?_, fun p member => each p (mem_of_mem_collect member)⟩
    rw [embedding?_eq_none_iff, map_fst_collect, List.map_cons, List.eraseDups_cons]
    simpa using other

/-- A reader that takes objects for the texts they stand for leaves none to be taken so again. -/
theorem isLiteral_of_parseAs {s : String} {v : Json} (read : parseAs true s = .ok v) :
    v.isLiteral = true :=
  kept_isLiteral.of_parseAs read

end ExtractionPrompt.Json
