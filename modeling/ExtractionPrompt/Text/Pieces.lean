/-!
Cutting a text at every occurrence of a character.
-/

namespace ExtractionPrompt.Text

/-- The texts between the occurrences, one more than there are of them. -/
def pieces (separator : Char) : List Char → List (List Char)
  | [] => [[]]
  | c :: rest =>
    if c = separator then [] :: pieces separator rest
    else
      match pieces separator rest with
      | [] => [[c]]
      | piece :: more => (c :: piece) :: more

theorem pieces_ne_nil (separator : Char) (s : List Char) : pieces separator s ≠ [] := by
  cases s with
  | nil => simp [pieces]
  | cons c rest =>
    rw [pieces]
    split
    · simp
    · split <;> simp

theorem notMem_of_mem_pieces {separator : Char} {s piece : List Char}
    (member : piece ∈ pieces separator s) :
    separator ∉ piece := by
  induction s generalizing piece with
  | nil => simp_all [pieces]
  | cons c rest ih =>
    rw [pieces] at member
    split at member
    · rcases List.mem_cons.1 member with rfl | later
      · simp
      · exact ih later
    · rename_i other
      split at member
      · rw [List.mem_singleton] at member
        subst member
        simpa using fun same => other same.symm
      · rename_i first more found
        rcases List.mem_cons.1 member with rfl | later
        · have inner : separator ∉ first := ih (found ▸ List.mem_cons_self)
          simpa [inner] using fun same => other same.symm
        · exact ih (found ▸ List.mem_cons_of_mem _ later)

theorem intercalate_pieces (separator : Char) (s : List Char) :
    [separator].intercalate (pieces separator s) = s := by
  induction s with
  | nil => rfl
  | cons c rest ih =>
    rw [pieces]
    split
    · rename_i same
      obtain ⟨first, more, found⟩ := List.exists_cons_of_ne_nil (pieces_ne_nil separator rest)
      rw [found] at ih ⊢
      simp only [List.intercalate, List.intersperse_cons_cons, List.flatten_cons] at ih ⊢
      simp [ih, same]
    · split
      · rename_i empty
        exact absurd empty (pieces_ne_nil separator rest)
      · rename_i first more found
        rw [found] at ih
        cases more with
        | nil => simpa [List.intercalate] using ih
        | cons second more => simpa [List.intercalate, List.intersperse_cons_cons] using ih

/-- The text before the first occurrence, and the text after it if there is one. -/
def cutAt (separator : Char) (s : List Char) : List Char × Option (List Char) :=
  match s.dropWhile (· != separator) with
  | [] => (s, none)
  | _ :: rest => (s.takeWhile (· != separator), some rest)

theorem cutAt_append_cons {separator : Char} {s : List Char} (absent : separator ∉ s)
    (rest : List Char) :
    cutAt separator (s ++ separator :: rest) = (s, some rest) := by
  have before : ∀ c ∈ s, (c != separator) = true := by
    intro c member
    rw [bne_iff_ne]
    rintro rfl
    exact absent member
  simp [cutAt, List.dropWhile_append_of_pos before, List.takeWhile_append_of_pos before]

end ExtractionPrompt.Text
