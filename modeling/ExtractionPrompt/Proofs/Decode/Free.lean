import ExtractionPrompt.Decode.Basic
import ExtractionPrompt.Proofs.Json.ReadValue

/-!
Free values.  A value is given as it is exactly when none of its objects stands for a text, and so
is whatever was given for a free value, and every value of a document.
-/

namespace ExtractionPrompt.Decoder

open Json

theorem freeItems_eq_mapM (r : Reading) (items : List Json) :
    freeItems r items = items.mapM (free r) := by
  induction items with
  | nil => rfl
  | cons v rest ih =>
    rw [freeItems, List.mapM_cons, ih]
    rfl

theorem freeProperties_eq_entries (r : Reading) (properties : List (String × Json)) :
    freeProperties r properties = entries free r properties := by
  induction properties with
  | nil => rfl
  | cons p rest ih => rw [freeProperties, entries, ih]

theorem free_array (r : Reading) (items : List Json) :
    free r (.array items) = (items.mapM (free r)).map .array := by
  rw [free, freeItems_eq_mapM]

theorem free_object_of_none {properties : List (String × Json)}
    (itself : embedding? properties = none) (r : Reading) :
    free r (.object properties) = (entries free r properties).map .object := by
  rw [free, itself, freeProperties_eq_entries]

theorem free_object_of_some {properties : List (String × Json)} {v : Json}
    (stands : embedding? properties = some v) (r : Reading) :
    free r (.object properties) = embedded r properties.length v := by
  rw [free, stands]

theorem isLiteral_of_embedded {r : Reading} {count : Nat} {v w : Json}
    (read : embedded r count v = .ok w) : w.isLiteral = true := by
  unfold embedded at read
  split at read
  · obtain ⟨inner, text, last⟩ := bind_eq_ok_iff.1 read
    split at last
    · cases last
      exact isLiteral_of_parseAs (mapError_eq_ok_iff.1 text)
    · cases last
  · cases read

mutual

theorem free_of_isLiteral (r : Reading) (v : Json) (literal : v.isLiteral = true) :
    free r v = .ok v := by
  match v with
  | .null => rfl
  | .bool b => rfl
  | .number n => rfl
  | .string s => rfl
  | .array items =>
    rw [isLiteral] at literal
    rw [free, freeItems_of_literal r items literal, ok_map]
  | .object properties =>
    rw [isLiteral, Bool.and_eq_true, Option.isNone_iff_eq_none] at literal
    obtain ⟨itself, inside⟩ := literal
    rw [free, itself]
    dsimp only
    rw [freeProperties_of_literal r properties inside, ok_map]

theorem freeItems_of_literal (r : Reading) (items : List Json)
    (literal : literalItems items = true) : freeItems r items = .ok items := by
  match items with
  | [] => rfl
  | v :: rest =>
    rw [literalItems, Bool.and_eq_true] at literal
    rw [freeItems, free_of_isLiteral r v literal.1, freeItems_of_literal r rest literal.2]
    rfl

theorem freeProperties_of_literal (r : Reading) (properties : List (String × Json))
    (literal : literalProperties properties = true) :
    freeProperties r properties = .ok properties := by
  match properties with
  | [] => rfl
  | (name, v) :: rest =>
    rw [literalProperties, Bool.and_eq_true] at literal
    rw [freeProperties, free_of_isLiteral r v literal.1, freeProperties_of_literal r rest literal.2]
    rfl

end

mutual

theorem isLiteral_of_free {r : Reading} {v w : Json} (read : free r v = .ok w) :
    w.isLiteral = true := by
  match v with
  | .null | .bool b | .number n | .string s =>
    rw [free] at read
    · cases read
      rfl
    all_goals exact fun _ => Json.noConfusion
  | .array items =>
    rw [free] at read
    obtain ⟨given, inner, rfl⟩ := map_eq_ok_iff.1 read
    exact literalItems_of_free inner
  | .object properties =>
    rw [free] at read
    split at read
    · exact isLiteral_of_embedded read
    · rename_i itself
      obtain ⟨given, inner, rfl⟩ := map_eq_ok_iff.1 read
      obtain ⟨names, each⟩ := literalProperties_of_free inner
      rw [embedding?_eq_none_iff, ← names, ← embedding?_eq_none_iff] at itself
      rw [isLiteral, itself, each]
      rfl

theorem literalItems_of_free {r : Reading} {items given : List Json}
    (read : freeItems r items = .ok given) : literalItems given = true := by
  match items with
  | [] =>
    cases read
    rfl
  | v :: rest =>
    obtain ⟨a, first, others⟩ := bind_eq_ok_iff.1 read
    obtain ⟨more, later, same⟩ := bind_eq_ok_iff.1 others
    cases same
    rw [literalItems, isLiteral_of_free first, literalItems_of_free later, Bool.and_self]

theorem literalProperties_of_free {r : Reading} {properties given : List (String × Json)}
    (read : freeProperties r properties = .ok given) :
    given.map Prod.fst = properties.map Prod.fst ∧ literalProperties given = true := by
  match properties with
  | [] =>
    cases read
    exact ⟨rfl, rfl⟩
  | (name, v) :: rest =>
    obtain ⟨a, first, others⟩ := bind_eq_ok_iff.1 read
    obtain ⟨more, later, same⟩ := bind_eq_ok_iff.1 others
    cases same
    obtain ⟨names, each⟩ := literalProperties_of_free later
    refine ⟨congrArg (name :: ·) names, ?_⟩
    rw [literalProperties, isLiteral_of_free first, each, Bool.and_self]

end

theorem free_eq_self_iff (r : Reading) (v : Json) : free r v = .ok v ↔ v.isLiteral = true :=
  ⟨isLiteral_of_free, free_of_isLiteral r v⟩

theorem free_of_parseAs {s : String} {v : Json} (read : parseAs true s = .ok v) (r : Reading) :
    free r v = .ok v :=
  free_of_isLiteral r v (isLiteral_of_parseAs read)

end ExtractionPrompt.Decoder
