import ExtractionPrompt.Proofs.Text.Excerpt
import ExtractionPrompt.Text.Substitute

/-!
Occurrences of a token in a text that was put together.  Where a character that the token does not
have stands between two parts, the token occurs in the parts or not at all, and it is replaced in
each part by itself.
-/

namespace ExtractionPrompt.Text

/-- How often a mark occurs. -/
def occurrences (mark : List Char) : List Char → Nat
  | [] => 0
  | c :: rest => (if mark.isPrefixOf (c :: rest) then 1 else 0) + occurrences mark rest

section Seam

variable {mark : List Char} {c : Char}

theorem prefix_append_cons_iff (s t : List Char) (fresh : c ∉ mark) :
    mark <+: s ++ c :: t ↔ mark <+: s := by
  constructor
  · intro start
    rcases List.prefix_or_prefix_of_prefix start (List.prefix_append s (c :: t)) with short | long
    · exact short
    · obtain ⟨rest, rfl⟩ := long
      rw [List.prefix_append_right_inj] at start
      cases rest with
      | nil => simp
      | cons d rest =>
        obtain ⟨rfl, -⟩ := List.cons_prefix_cons.1 start
        simp at fresh
  · intro start
    exact start.trans (List.prefix_append s (c :: t))

theorem isPrefixOf_append_cons (s t : List Char) (fresh : c ∉ mark) :
    mark.isPrefixOf (s ++ c :: t) = mark.isPrefixOf s := by
  rw [Bool.eq_iff_iff, List.isPrefixOf_iff_prefix, List.isPrefixOf_iff_prefix,
    prefix_append_cons_iff s t fresh]

theorem occurrences_append_cons (s t : List Char) (nonempty : mark ≠ []) (fresh : c ∉ mark) :
    occurrences mark (s ++ c :: t) = occurrences mark s + occurrences mark t := by
  induction s with
  | nil =>
    have other : mark.isPrefixOf (c :: t) = false := by
      apply isPrefixOf_eq_false
      intro start
      obtain ⟨d, rest, rfl⟩ := List.exists_cons_of_ne_nil nonempty
      obtain ⟨rfl, -⟩ := List.cons_prefix_cons.1 start
      exact fresh List.mem_cons_self
    simp [occurrences, other]
  | cons d s ih =>
    have here := isPrefixOf_append_cons (d :: s) t fresh
    rw [List.cons_append] at here
    rw [List.cons_append, occurrences, occurrences, here, ih, Nat.add_assoc]

theorem occurrences_eq_zero_iff {s : List Char} (nonempty : mark ≠ []) :
    occurrences mark s = 0 ↔ ¬ mark <:+: s := by
  induction s with
  | nil => simp [occurrences, nonempty]
  | cons d s ih =>
    rw [occurrences, Nat.add_eq_zero_iff, ih, List.infix_cons_iff, not_or,
      ← List.isPrefixOf_iff_prefix]
    simp

theorem infix_append_cons_iff (s t : List Char) (nonempty : mark ≠ []) (fresh : c ∉ mark) :
    mark <:+: s ++ c :: t ↔ mark <:+: s ∨ mark <:+: t := by
  have total := occurrences_append_cons s t nonempty fresh
  have whole := occurrences_eq_zero_iff (s := s ++ c :: t) nonempty
  have left := occurrences_eq_zero_iff (s := s) nonempty
  have right := occurrences_eq_zero_iff (s := t) nonempty
  rw [total, Nat.add_eq_zero_iff, left, right] at whole
  tauto

theorem substituteFrom_append_cons (body s t : List Char) (fresh : c ∉ mark) (nonempty : mark ≠ [])
    {skipped : Nat} (inside : skipped ≤ s.length) :
    substituteFrom mark body skipped (s ++ c :: t) =
      substituteFrom mark body skipped s ++ c :: substituteFrom mark body 0 t := by
  induction s generalizing skipped with
  | nil =>
    obtain rfl : skipped = 0 := by simpa using inside
    have other := isPrefixOf_append_cons [] t fresh
    obtain ⟨d, rest, rfl⟩ := List.exists_cons_of_ne_nil nonempty
    rw [List.nil_append] at other ⊢
    simp [substituteFrom, other]
  | cons d s ih =>
    have here := isPrefixOf_append_cons (d :: s) t fresh
    rw [List.cons_append] at here ⊢
    cases skipped with
    | succ n =>
      rw [List.length_cons] at inside
      rw [substituteFrom, substituteFrom, ih (by omega)]
    | zero =>
      rw [substituteFrom, substituteFrom, here]
      split
      · rename_i start
        have fits := (List.isPrefixOf_iff_prefix.1 start).length_le
        rw [List.length_cons] at fits
        rw [ih (by omega), List.append_assoc]
      · rw [ih (Nat.zero_le _), List.cons_append]

theorem substituteFrom_length_append (body front t : List Char) :
    substituteFrom mark body front.length (front ++ t) = substituteFrom mark body 0 t := by
  induction front with
  | nil => rfl
  | cons c front ih => exact ih

theorem substituteFrom_mark_append (body t : List Char) (nonempty : mark ≠ []) :
    substituteFrom mark body 0 (mark ++ t) = body ++ substituteFrom mark body 0 t := by
  obtain ⟨c, rest, rfl⟩ := List.exists_cons_of_ne_nil nonempty
  have here : (c :: rest).isPrefixOf (c :: (rest ++ t)) = true :=
    List.isPrefixOf_iff_prefix.2 ⟨t, rfl⟩
  rw [List.cons_append, substituteFrom, if_pos here, List.length_cons, Nat.add_sub_cancel,
    substituteFrom_length_append]

end Seam

end ExtractionPrompt.Text
