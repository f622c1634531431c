import Mathlib.Data.List.Chain

/-!
Cutting a text out of another one by marks: what stands behind the last occurrence of a mark, and
what stands before the first.  The second half says when a text that was put between two marks is
the one that is cut out, although it was written by somebody else: no line of it may end or start as
a mark does.
-/

namespace ExtractionPrompt.Text

/-- The text behind the last occurrence of a mark. -/
def afterLast? (mark : List Char) : List Char → Option (List Char)
  | [] => none
  | c :: rest =>
    match afterLast? mark rest with
    | some s => some s
    | none => if mark.isPrefixOf (c :: rest) then some ((c :: rest).drop mark.length) else none

/-- The text before the first occurrence of a mark. -/
def beforeFirst? (mark : List Char) : List Char → Option (List Char)
  | [] => none
  | c :: rest =>
    if mark.isPrefixOf (c :: rest) then some [] else (beforeFirst? mark rest).map (c :: ·)

theorem isPrefixOf_eq_false {mark s : List Char} (other : ¬ mark <+: s) :
    mark.isPrefixOf s = false := by
  rw [Bool.eq_false_iff]
  exact fun h => other (List.isPrefixOf_iff_prefix.1 h)

theorem afterLast?_eq_none {mark : List Char} (s : List Char) (absent : ¬ mark <:+: s) :
    afterLast? mark s = none := by
  induction s with
  | nil => rfl
  | cons c rest ih =>
    rw [List.infix_cons_iff, not_or] at absent
    simp [afterLast?, ih absent.2, isPrefixOf_eq_false absent.1]

/-- What stands before an occurrence does not matter to the text behind the last one. -/
theorem afterLast?_append_of_eq_some {mark s found : List Char} (front : List Char)
    (last : afterLast? mark s = some found) : afterLast? mark (front ++ s) = some found := by
  induction front with
  | nil => exact last
  | cons c front ih => simp [afterLast?, ih]

theorem afterLast?_mark_append {c : Char} {mark s : List Char} (front : List Char)
    (absent : ¬ c :: mark <:+: mark ++ s) :
    afterLast? (c :: mark) (front ++ (c :: mark ++ s)) = some s := by
  apply afterLast?_append_of_eq_some
  have here : (c :: mark).isPrefixOf (c :: (mark ++ s)) = true :=
    List.isPrefixOf_iff_prefix.2 ⟨s, rfl⟩
  rw [List.cons_append, afterLast?, afterLast?_eq_none _ absent, here]
  simp

example : afterLast? "ab".toList "cabdabe".toList = some ['e'] := by decide

theorem infix_of_infix_append {c : Char} {mark front s : List Char} (fresh : c ∉ front)
    (inside : c :: mark <:+: front ++ s) : c :: mark <:+: s := by
  induction front with
  | nil => exact inside
  | cons d front ih =>
    simp only [List.mem_cons, not_or] at fresh
    rw [List.cons_append, List.infix_cons_iff] at inside
    rcases inside with ⟨rest, same⟩ | later
    · exact absurd (List.cons.inj same).1 fresh.1
    · exact ih fresh.2 later

/-- A line that ends in a colon is not the start of lines none of which does. -/
theorem not_prefix_of_isChain {title mark lines s : List Char} (oneLine : '\n' ∉ title)
    (chain : (lines ++ ['\n']).IsChain fun c d => d = '\n' → c ≠ ':') :
    ¬ title ++ ':' :: '\n' :: mark <+: lines ++ '\n' :: s := by
  intro start
  -- Title, colon and break cannot reach past the first line, and no line of these ends in a colon.
  have left : title ++ [':'] ++ ['\n'] <+: lines ++ '\n' :: s := by
    refine List.IsPrefix.trans ?_ start
    simp
  have right : lines ++ ['\n'] <+: lines ++ '\n' :: s := by
    simp
  have ends : ¬ title ++ [':'] ++ ['\n'] <+: lines ++ ['\n'] := by
    intro shorter
    have pair := chain.prefix shorter
    rw [List.append_assoc, List.singleton_append] at pair
    have split := (List.isChain_split.1 pair).2
    exact (List.isChain_pair.1 split) rfl rfl
  rcases List.prefix_or_prefix_of_prefix left right with shorter | longer
  · exact ends shorter
  · rcases List.prefix_concat_iff.1 longer with same | inner
    · exact ends ⟨[], by rw [same]; simp⟩
    · have member : '\n' ∈ title ++ [':'] := inner.subset (by simp)
      simp [oneLine] at member

/-- A mark that is a line with a colon at its end does not occur where lines without one are
followed by a text without the mark. -/
theorem not_infix_of_isChain (title : List Char) {mark lines s : List Char} (oneLine : '\n' ∉ title)
    (chain : (lines ++ ['\n']).IsChain fun c d => d = '\n' → c ≠ ':')
    (absent : ¬ title ++ ':' :: '\n' :: mark <:+: '\n' :: s) :
    ¬ title ++ ':' :: '\n' :: mark <:+: lines ++ '\n' :: s := by
  induction lines with
  | nil => exact absent
  | cons c lines ih =>
    intro inside
    rw [List.cons_append, List.infix_cons_iff] at inside
    rcases inside with start | later
    · exact not_prefix_of_isChain oneLine chain start
    · exact ih (List.isChain_of_isChain_cons chain) later

/-- A text is cut out before a mark that starts with a line break when no line of it but the first
starts as the line after the break does. -/
theorem beforeFirst?_of_isChain {d : Char} {mark lines s : List Char}
    (chain : lines.IsChain fun c e => c = '\n' → e ≠ d) (ended : lines.getLast? ≠ some '\n') :
    beforeFirst? ('\n' :: d :: mark) (lines ++ ('\n' :: d :: mark ++ s)) = some lines := by
  induction lines with
  | nil => simp [beforeFirst?, List.isPrefixOf_iff_prefix]
  | cons c lines ih =>
    have other : ¬ '\n' :: d :: mark <+: c :: (lines ++ ('\n' :: d :: mark ++ s)) := by
      rintro ⟨rest, same⟩
      obtain ⟨first, tail⟩ := List.cons.inj same
      cases lines with
      | nil => exact ended (by rw [← first]; rfl)
      | cons e lines =>
        have next : e = d := (List.cons.inj tail).1.symm
        exact (List.isChain_cons_cons.1 chain).1 first.symm next
    have ending : lines.getLast? ≠ some '\n' := by
      cases lines with
      | nil => simp
      | cons e lines => simpa [List.getLast?_cons_cons] using ended
    rw [List.cons_append, beforeFirst?, isPrefixOf_eq_false other,
      ih (List.isChain_of_isChain_cons chain) ending]
    rfl

end ExtractionPrompt.Text
