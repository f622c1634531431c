import ExtractionPrompt.Proofs.Text.Excerpt

/-!
Taking a text apart where it was put together: what stands behind the first occurrence of a mark,
and the pieces between all of them.  Pieces come back as they were joined when no occurrence starts
inside one.  Paragraphs are pieces between empty lines; those whose lines are not empty come back,
and no mark of a later paragraph is found among them.
-/

namespace ExtractionPrompt.Text

/-- The text behind the first occurrence of a mark. -/
def afterFirst? (mark : List Char) : List Char → Option (List Char)
  | [] => none
  | c :: rest =>
    if mark.isPrefixOf (c :: rest) then some ((c :: rest).drop mark.length)
      else afterFirst? mark rest

/-- `skipped` counts the characters ahead that belong to an occurrence already found. -/
def splitFrom (mark : List Char) (skipped : Nat) : List Char → List (List Char)
  | [] => [[]]
  | c :: rest =>
    match skipped with
    | n + 1 => splitFrom mark n rest
    | 0 =>
      if mark.isPrefixOf (c :: rest) then [] :: splitFrom mark (mark.length - 1) rest
      else (splitFrom mark 0 rest).modifyHead (c :: ·)

/-- The pieces between the occurrences of a mark, from the left and without overlap.  The mark is
not empty. -/
def splitOn (mark s : List Char) : List (List Char) := splitFrom mark 0 s

section Marks

variable {mark : List Char}

theorem isPrefixOf_append_self (mark t : List Char) : mark.isPrefixOf (mark ++ t) = true :=
  List.isPrefixOf_iff_prefix.2 (List.prefix_append mark t)

/-- An occurrence that starts in front of another one ends before it does. -/
theorem isPrefixOf_append_eq_false {c : Char} {s : List Char} (t : List Char)
    (absent : ¬ mark <:+: c :: s ++ mark.dropLast) :
    mark.isPrefixOf (c :: (s ++ (mark ++ t))) = false := by
  apply isPrefixOf_eq_false
  intro start
  have inside : c :: s ++ mark.dropLast <+: c :: (s ++ (mark ++ t)) := by
    rw [← List.cons_append]
    exact List.prefix_append_right_inj _ |>.2
      ((List.dropLast_prefix mark).trans (List.prefix_append mark t))
  have short : mark.length ≤ (c :: s ++ mark.dropLast).length := by
    simp only [List.cons_append, List.length_cons, List.length_append, List.length_dropLast]
    omega
  exact absent (List.prefix_of_prefix_length_le start inside short).isInfix

theorem afterFirst?_append {front : List Char} (t : List Char) (nonempty : mark ≠ [])
    (absent : ¬ mark <:+: front ++ mark.dropLast) :
    afterFirst? mark (front ++ (mark ++ t)) = some t := by
  induction front with
  | nil =>
    obtain ⟨c, rest, rfl⟩ := List.exists_cons_of_ne_nil nonempty
    have here := isPrefixOf_append_self (c :: rest) t
    rw [List.nil_append, List.cons_append, afterFirst?, ← List.cons_append, if_pos here,
      List.drop_left]
  | cons c front ih =>
    have later : ¬ mark <:+: front ++ mark.dropLast := fun inside => absent (List.infix_cons inside)
    rw [List.cons_append, afterFirst?, isPrefixOf_append_eq_false t absent, ih later]
    rfl

theorem splitFrom_length_append (front t : List Char) :
    splitFrom mark front.length (front ++ t) = splitFrom mark 0 t := by
  induction front with
  | nil => rfl
  | cons c front ih => exact ih

theorem splitOn_append {s : List Char} (t : List Char) (nonempty : mark ≠ [])
    (absent : ¬ mark <:+: s ++ mark.dropLast) :
    splitOn mark (s ++ (mark ++ t)) = s :: splitOn mark t := by
  unfold splitOn
  induction s with
  | nil =>
    obtain ⟨c, rest, rfl⟩ := List.exists_cons_of_ne_nil nonempty
    have here := isPrefixOf_append_self (c :: rest) t
    rw [List.cons_append] at here
    rw [List.nil_append, List.cons_append, splitFrom, if_pos here, List.length_cons,
      Nat.add_sub_cancel, splitFrom_length_append]
  | cons c s ih =>
    have later : ¬ mark <:+: s ++ mark.dropLast := fun inside => absent (List.infix_cons inside)
    rw [List.cons_append, splitFrom, isPrefixOf_append_eq_false t absent, ih later]
    rfl

theorem splitOn_of_not_infix {s : List Char} (absent : ¬ mark <:+: s) : splitOn mark s = [s] := by
  unfold splitOn
  induction s with
  | nil => rfl
  | cons c s ih =>
    rw [List.infix_cons_iff, not_or] at absent
    rw [splitFrom, isPrefixOf_eq_false absent.1, ih absent.2]
    rfl

/-- Pieces in which no occurrence of the mark starts come back as they were joined. -/
theorem splitOn_intercalate {pieces : List (List Char)} (nonempty : mark ≠ []) (one : pieces ≠ [])
    (absent : ∀ s ∈ pieces, ¬ mark <:+: s ++ mark.dropLast) :
    splitOn mark (mark.intercalate pieces) = pieces := by
  induction pieces with
  | nil => exact absurd rfl one
  | cons s rest ih =>
    have first := absent s List.mem_cons_self
    cases rest with
    | nil =>
      rw [List.intercalate_singleton]
      exact splitOn_of_not_infix fun inside => first (inside.trans (List.prefix_append s _).isInfix)
    | cons next rest =>
      have others := ih (by simp) fun u member => absent u (List.mem_cons_of_mem s member)
      rw [List.intercalate_cons_cons, List.append_assoc, splitOn_append _ nonempty first, others]

end Marks

/-- No part of a text, from any place on, can go on to a mark. -/
def skips (mark : List Char) : List Char → Bool
  | [] => true
  | c :: rest => !((c :: rest).isPrefixOf mark || mark.isPrefixOf (c :: rest)) && skips mark rest

theorem skips_cons_iff {mark rest : List Char} {c : Char} :
    skips mark (c :: rest) = true ↔ (¬ c :: rest <+: mark ∧ ¬ mark <+: c :: rest) ∧
      skips mark rest = true := by
  rw [skips, Bool.and_eq_true, Bool.not_eq_true', Bool.or_eq_false_iff, Bool.eq_false_iff,
    Bool.eq_false_iff, ne_eq, ne_eq, List.isPrefixOf_iff_prefix, List.isPrefixOf_iff_prefix]

theorem not_prefix_append {mark front : List Char} (s : List Char) (part : ¬ front <+: mark)
    (whole : ¬ mark <+: front) : ¬ mark <+: front ++ s := by
  intro start
  rcases List.prefix_or_prefix_of_prefix start (List.prefix_append front s) with inside | beyond
  · exact whole inside
  · exact part beyond

/-- A text that cannot go on to a mark is skipped in the search for it. -/
theorem not_infix_append {mark front s : List Char} (skipped : skips mark front = true)
    (absent : ¬ mark <:+: s) :
    ¬ mark <:+: front ++ s := by
  induction front with
  | nil => exact absent
  | cons c front ih =>
    obtain ⟨⟨part, whole⟩, later⟩ := skips_cons_iff.1 skipped
    rw [List.cons_append, List.infix_cons_iff, not_or]
    exact ⟨not_prefix_append s part whole, ih later⟩

theorem skips_append {mark first second : List Char} (skipped : skips mark first = true)
    (later : skips mark second = true) : skips mark (first ++ second) = true := by
  induction first with
  | nil => exact later
  | cons c first ih =>
    obtain ⟨⟨part, whole⟩, rest⟩ := skips_cons_iff.1 skipped
    refine skips_cons_iff.2 ⟨⟨?_, not_prefix_append second part whole⟩, ih rest⟩
    intro longer
    exact part ((List.prefix_append (c :: first) second).trans longer)

/-- A text is skipped in the search for every one of the marks. -/
def Skipped (marks : List (List Char)) (s : String) : Prop :=
  ∀ mark ∈ marks, skips mark s.toList = true

namespace Skipped

variable {marks : List (List Char)}

/-- The characters of a literal are told to the checker as a list. -/
theorem ofList {l : List Char} (each : marks.all (skips · l) = true) :
    Skipped marks (String.ofList l) := by
  intro mark member
  rw [String.toList_ofList]
  exact List.all_eq_true.1 each mark member

theorem append {s t : String} (first : Skipped marks s) (second : Skipped marks t) :
    Skipped marks (s ++ t) := by
  intro mark member
  rw [String.toList_append]
  exact skips_append (first mark member) (second mark member)

theorem intercalate {sep : String} {texts : List String} (between : Skipped marks sep)
    (each : ∀ s ∈ texts, Skipped marks s) : Skipped marks (sep.intercalate texts) := by
  induction texts with
  | nil => exact fun _ _ => rfl
  | cons s rest ih =>
    obtain ⟨first, others⟩ := List.forall_mem_cons.1 each
    cases rest with
    | nil => rwa [String.intercalate_singleton]
    | cons next rest =>
      rw [String.intercalate_cons_cons]
      exact (first.append between).append (ih others)

end Skipped

/-- No line behind the first is empty, and the last is not left open. -/
def Unbroken (s : List Char) : Prop := (s ++ ['\n']).IsChain fun c d => c = '\n' → d ≠ '\n'

theorem Unbroken.not_infix {s : List Char} (unbroken : Unbroken s) :
    ¬ ['\n', '\n'] <:+: s ++ ['\n'] := by
  intro inside
  have pair := List.IsChain.infix unbroken inside
  exact List.isChain_pair.1 pair rfl rfl

theorem Unbroken.of_cons {c : Char} {s : List Char} (unbroken : Unbroken (c :: s)) : Unbroken s :=
  List.isChain_of_isChain_cons unbroken

theorem isChain_line {line : List Char} (oneLine : '\n' ∉ line) :
    line.IsChain fun c d => c = '\n' → d ≠ '\n' := by
  induction line with
  | nil => exact .nil
  | cons c rest ih =>
    simp only [List.mem_cons, not_or] at oneLine
    refine List.isChain_cons.2 ⟨?_, ih oneLine.2⟩
    rintro d - rfl
    exact absurd rfl oneLine.1

/-- A line with a text behind it is unbroken when the text is and does not start with a break. -/
theorem isChain_line_cons {line s : List Char} (oneLine : '\n' ∉ line) (start : s.head? ≠ some '\n')
    (chain : s.IsChain fun c d => c = '\n' → d ≠ '\n') :
    (line ++ '\n' :: s).IsChain fun c d => c = '\n' → d ≠ '\n' := by
  refine List.isChain_append.2 ⟨isChain_line oneLine, List.isChain_cons.2 ⟨?_, chain⟩, ?_⟩
  · rintro d next - rfl
    exact start next
  · rintro c last d - rfl
    exact absurd (List.mem_of_getLast? last) oneLine

theorem head?_ne_newline {line : List Char} (t : List Char) (nonempty : line ≠ [])
    (oneLine : '\n' ∉ line) : (line ++ t).head? ≠ some '\n' := by
  obtain ⟨c, rest, rfl⟩ := List.exists_cons_of_ne_nil nonempty
  rintro same
  cases same
  exact oneLine List.mem_cons_self

/-- Lines that are not empty make an unbroken text. -/
theorem unbroken_intercalate {lines : List (List Char)} (one : lines ≠ [])
    (each : ∀ line ∈ lines, line ≠ [] ∧ '\n' ∉ line) : Unbroken (['\n'].intercalate lines) := by
  induction lines with
  | nil => exact absurd rfl one
  | cons line rest ih =>
    obtain ⟨-, oneLine⟩ := each line List.mem_cons_self
    cases rest with
    | nil =>
      rw [List.intercalate_singleton]
      exact isChain_line_cons oneLine (by simp) .nil
    | cons next rest =>
      have others := ih (by simp) fun u member => each u (List.mem_cons_of_mem line member)
      obtain ⟨nonempty, nextOneLine⟩ := each next (by simp)
      have start : (['\n'].intercalate (next :: rest) ++ ['\n']).head? ≠ some '\n' := by
        cases rest with
        | nil => simpa using head?_ne_newline ['\n'] nonempty nextOneLine
        | cons third rest =>
          rw [List.intercalate_cons_cons, List.append_assoc, List.append_assoc]
          exact head?_ne_newline _ nonempty nextOneLine
      rw [Unbroken, List.intercalate_cons_cons, List.append_assoc, List.append_assoc]
      exact isChain_line_cons oneLine start others

/-- A mark that starts with an empty line does not start inside an unbroken text. -/
theorem beforeFirst?_unbroken_append {s : List Char} (mark t : List Char) (unbroken : Unbroken s) :
    beforeFirst? ('\n' :: '\n' :: mark) (s ++ '\n' :: '\n' :: t) =
      (beforeFirst? ('\n' :: '\n' :: mark) ('\n' :: '\n' :: t)).map (s ++ ·) := by
  induction s with
  | nil => simp
  | cons c s ih =>
    have other : ¬ '\n' :: '\n' :: mark <+: c :: (s ++ '\n' :: '\n' :: t) := by
      intro start
      obtain ⟨rfl, tail⟩ := List.cons_prefix_cons.1 start
      cases s with
      | nil => exact (List.isChain_cons_cons.1 unbroken).1 rfl rfl
      | cons d s =>
        obtain ⟨rfl, -⟩ := List.cons_prefix_cons.1 tail
        exact (List.isChain_cons_cons.1 unbroken).1 rfl rfl
    rw [List.cons_append, beforeFirst?, isPrefixOf_eq_false other, ih unbroken.of_cons]
    simp [Function.comp_def]

theorem exists_intercalate_eq_cons (sep : List Char) (c : Char) (more : List Char)
    (rest : List (List Char)) :
    ∃ tail, sep.intercalate ((c :: more) :: rest) = c :: tail := by
  cases rest with
  | nil => exact ⟨more, by rw [List.intercalate_singleton]⟩
  | cons next rest =>
    exact ⟨more ++ (sep ++ sep.intercalate (next :: rest)), by simp [List.intercalate_cons_cons]⟩

/-- Unbroken paragraphs are cut out whole before the mark of a later one, when none of them starts
as it does. -/
theorem beforeFirst?_intercalate {d : Char} {texts : List (List Char)} (mark t : List Char)
    (one : texts ≠ []) (unbroken : ∀ s ∈ texts, Unbroken s)
    (start : ∀ s ∈ texts, ∃ c rest, s = c :: rest ∧ c ≠ '\n' ∧ c ≠ d) :
    beforeFirst? ('\n' :: '\n' :: d :: mark)
        (['\n', '\n'].intercalate texts ++ ('\n' :: '\n' :: d :: mark ++ t)) =
      some (['\n', '\n'].intercalate texts) := by
  induction texts with
  | nil => exact absurd rfl one
  | cons s rest ih =>
    have first := unbroken s List.mem_cons_self
    cases rest with
    | nil =>
      have here := isPrefixOf_append_self ('\n' :: '\n' :: d :: mark) t
      rw [List.intercalate_singleton, List.cons_append, List.cons_append,
        beforeFirst?_unbroken_append _ _ first, beforeFirst?, ← List.cons_append,
        ← List.cons_append, if_pos here, Option.map_some, List.append_nil]
    | cons next rest =>
      have others := ih (by simp) (fun u member => unbroken u (List.mem_cons_of_mem s member))
        fun u member => start u (List.mem_cons_of_mem s member)
      obtain ⟨c, more, rfl, notBreak, notMark⟩ := start next (by simp)
      obtain ⟨tail, spelled⟩ := exists_intercalate_eq_cons ['\n', '\n'] c more rest
      have here : ¬ '\n' :: '\n' :: d :: mark <+: '\n' :: '\n' :: c ::
          (tail ++ ('\n' :: '\n' :: d :: mark ++ t)) := by
        simp only [List.cons_prefix_cons, true_and, not_and]
        exact fun same => absurd same.symm notMark
      have behind : ¬ '\n' :: '\n' :: d :: mark <+: '\n' :: c ::
          (tail ++ ('\n' :: '\n' :: d :: mark ++ t)) := by
        simp only [List.cons_prefix_cons, true_and, not_and]
        exact fun same => absurd same.symm notBreak
      rw [spelled, List.cons_append] at others
      rw [List.intercalate_cons_cons, List.append_assoc, List.append_assoc, spelled,
        List.cons_append, List.cons_append, List.cons_append, List.nil_append,
        beforeFirst?_unbroken_append _ _ first, beforeFirst?, isPrefixOf_eq_false here,
        beforeFirst?, isPrefixOf_eq_false behind, others]
      simp

end ExtractionPrompt.Text
