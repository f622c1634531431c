import ExtractionPrompt.Proofs.Decode.Encoded

/-!
What decoders can give at all.  Whatever a compound decoder gives is put together from what its
parts give, so a bound that a scalar decoder checks holds wherever that scalar stands.
-/

namespace ExtractionPrompt

/-- The decoder reads some value as this one. -/
def Decoder.Gives {α : Type} (d : Decoder α) (a : α) : Prop := ∃ r v, d r v = .ok a

/-- The record is this one for some properties. -/
def Record.Gives {α : Type} (record : Record α) (a : α) : Prop :=
  ∃ r slots place, record.read r slots place = .ok a

namespace Decoder

theorem fitsWord_of_gives {n : Int} (given : integer.Gives n) : FitsWord n := by
  obtain ⟨r, v, read⟩ := given
  unfold integer at read
  split at read
  · split at read
    · rename_i within
      cases read
      exact within
    · cases read
  · cases read

theorem isLiteral_of_gives {v : Json} (given : Decoder.Gives free v) : v.isLiteral = true := by
  obtain ⟨r, w, read⟩ := given
  exact isLiteral_of_free read

theorem gives_of_map {α β : Type} {f : α → β} {d : Decoder α} {b : β} (given : (d.map f).Gives b) :
    ∃ a, d.Gives a ∧ f a = b := by
  obtain ⟨r, v, read⟩ := given
  obtain ⟨a, inner, same⟩ := map_eq_ok_iff.1 read
  exact ⟨a, ⟨r, v, inner⟩, same⟩

theorem gives_of_nullable {α : Type} {d : Decoder α} {o : Option α} (given : d.nullable.Gives o) :
    ∀ a ∈ o, d.Gives a := by
  obtain ⟨r, v, read⟩ := given
  intro a member
  unfold nullable at read
  split at read
  · cases read
    cases member
  · obtain ⟨b, inner, same⟩ := map_eq_ok_iff.1 read
    subst same
    cases member
    exact ⟨r, v, inner⟩

theorem mem_of_mapM_eq_ok {α : Type} {d : Json → Except Fault α} {items : List Json} {l : List α}
    (read : items.mapM d = .ok l) : ∀ a ∈ l, ∃ v, d v = .ok a := by
  induction items generalizing l with
  | nil =>
    cases read
    simp
  | cons v rest ih =>
    rw [List.mapM_cons] at read
    obtain ⟨b, first, others⟩ := bind_eq_ok_iff.1 read
    obtain ⟨more, later, same⟩ := bind_eq_ok_iff.1 others
    cases same
    intro a member
    rcases List.mem_cons.1 member with rfl | inside
    · exact ⟨v, first⟩
    · exact ih later a inside

theorem gives_of_list {α : Type} {d : Decoder α} {l : List α} (given : (list d).Gives l) :
    ∀ a ∈ l, d.Gives a := by
  obtain ⟨r, v, read⟩ := given
  intro a member
  unfold list at read
  split at read
  · obtain ⟨w, inner⟩ := mem_of_mapM_eq_ok read a member
    exact ⟨r, w, inner⟩
  · cases read

theorem mem_of_named {α : Type} {known : List (String × α)} {name : String} {a : α}
    (read : named known name = .ok a) :
    ∃ p ∈ known, p.2 = a := by
  unfold named at read
  split at read
  · rename_i found
    cases read
    exact ⟨(name, _), Json.mem_of_lookup found, rfl⟩
  · cases read

theorem mem_of_vocabulary {α : Type} {known : List (String × α)} {r : Reading} {v : Json} {a : α}
    (read : vocabulary known r v = .ok a) : ∃ p ∈ known, p.2 = a := by
  unfold vocabulary at read
  split at read
  · exact mem_of_named read
  · obtain ⟨b, found, rest⟩ := bind_eq_ok_iff.1 read
    obtain ⟨_, _, same⟩ := bind_eq_ok_iff.1 rest
    cases same
    exact mem_of_named found
  · cases read
  · cases read

theorem mem_of_leadingTag {α : Type} {known : List (String × α)} {r : Reading} {v : Json} {a : α}
    (read : leadingTag known r v = .ok a) : ∃ p ∈ known, p.2 = a := by
  unfold leadingTag at read
  split at read
  · exact mem_of_named read
  · split at read
    · rename_i found
      cases read
      exact ⟨_, List.mem_of_getElem? found, rfl⟩
    · cases read
  · cases read

/-- A choice gives what the body of one of its cases gives. -/
theorem gives_of_choice {α : Type} {name : String} {cases : List (String × Decoder α)} {a : α}
    (given : (choice name cases).Gives a) : ∃ p ∈ cases, p.2.Gives a := by
  obtain ⟨r, v, read⟩ := given
  unfold choice at read
  split at read
  · split at read
    · cases read
    · obtain ⟨body, tagged, rest⟩ := bind_eq_ok_iff.1 read
      obtain ⟨p, member, rfl⟩ := mem_of_vocabulary tagged
      split at rest
      · cases rest
      · exact ⟨p, member, _, _, rest⟩
  · cases read
  · obtain ⟨body, tagged, rest⟩ := bind_eq_ok_iff.1 read
    obtain ⟨p, member, rfl⟩ := mem_of_leadingTag tagged
    split at rest
    · cases rest
    · obtain ⟨b, inner, last⟩ := bind_eq_ok_iff.1 rest
      split at last
      · cases last
        exact ⟨p, member, _, _, inner⟩
      · cases last
  · cases read

end Decoder

namespace Record

theorem gives_of_decode {α : Type} {record : Record α} {name : String} {a : α}
    (given : (record.decode name).Gives a) : record.Gives a := by
  obtain ⟨r, v, read⟩ := given
  cases v with
  | object properties =>
    exact ⟨r, _, 0, (decode_object_eq_ok_iff record name r properties a).1 read⟩
  | array items =>
    obtain ⟨b, inner, last⟩ := bind_eq_ok_iff.1 read
    split at last
    · cases last
      exact ⟨r, _, 0, inner⟩
    · cases last
  | _ => cases read

theorem gives_of_map {α β : Type} {f : α → β} {record : Record α} {b : β}
    (given : (f <$> record).Gives b) :
    ∃ a, record.Gives a ∧ f a = b := by
  obtain ⟨r, slots, place, read⟩ := given
  rw [read_map] at read
  obtain ⟨a, inner, same⟩ := map_eq_ok_iff.1 read
  exact ⟨a, ⟨r, slots, place, inner⟩, same⟩

theorem gives_of_seq {α β : Type} {f : Record (α → β)} {record : Record α} {b : β}
    (given : (f <*> record).Gives b) :
    ∃ g a, f.Gives g ∧ record.Gives a ∧ g a = b := by
  obtain ⟨r, slots, place, read⟩ := given
  rw [read_seq] at read
  obtain ⟨g, first, rest⟩ := bind_eq_ok_iff.1 read
  obtain ⟨a, second, same⟩ := map_eq_ok_iff.1 rest
  exact ⟨g, a, ⟨r, slots, place, first⟩, ⟨r, slots, _, second⟩, same⟩

theorem gives_of_required {α : Type} {name : String} {d : Decoder α} {a : α}
    (given : (required name d).Gives a) :
    d.Gives a := by
  obtain ⟨r, slots, place, read⟩ := given
  simp only [required, field] at read
  split at read
  · exact ⟨r, _, read⟩
  · cases read

theorem gives_of_defaulted {α : Type} {name : String} {d : Decoder α} {fallback a : α}
    (given : (defaulted name d fallback).Gives a) : a = fallback ∨ d.Gives a := by
  obtain ⟨r, slots, place, read⟩ := given
  simp only [defaulted, field] at read
  split at read
  · exact .inr ⟨r, _, read⟩
  · cases read
    exact .inl rfl

theorem gives_of_optional {α : Type} {name : String} {d : Decoder α} {o : Option α}
    (given : (optional name d).Gives o) : ∀ a ∈ o, d.Gives a := by
  obtain ⟨r, slots, place, read⟩ := given
  simp only [optional, field] at read
  split at read
  · exact Decoder.gives_of_nullable ⟨r, _, read⟩
  · cases read
    simp

end Record

end ExtractionPrompt
