import ExtractionPrompt.Proofs.Except
import ExtractionPrompt.Proofs.Json.Escape

/-!
Reading back printed values.  Both printers are one with different blanks between the parts, and the
reader passes over blanks; so a value without numbers, whose property names are distinct and which
is nested no deeper than allowed, is read as it was from either text.
-/

namespace ExtractionPrompt.Json

/-- Blanks between the parts of a text: before an item or a property of each level, and after a
colon. -/
structure Spacing where
  gap : Nat → List Char
  afterColon : List Char
  gap_blank : ∀ level, ∀ c ∈ gap level, isBlank c = true
  afterColon_blank : ∀ c ∈ afterColon, isBlank c = true

namespace Spacing

def none : Spacing := ⟨fun _ => [], [], by simp, by simp⟩

def lines : Spacing where
  gap := newLine
  afterColon := [' ']
  gap_blank := by
    intro level c member
    rcases List.mem_cons.1 member with rfl | inside
    · rfl
    · rw [List.eq_of_mem_replicate inside]
      rfl
  afterColon_blank := by simp [isBlank]

@[simp] theorem gap_none (level : Nat) : none.gap level = [] := rfl

@[simp] theorem afterColon_none : none.afterColon = [] := rfl

@[simp] theorem gap_lines : lines.gap = newLine := rfl

@[simp] theorem afterColon_lines : lines.afterColon = [' '] := rfl

end Spacing

mutual

/-- The text of a value with that spacing. -/
def spaced (p : Spacing) (level : Nat) : Json → List Char
  | array (v :: rest) =>
    '[' :: p.gap (level + 1) ++ spaced p (level + 1) v ++ spacedItems p (level + 1) rest ++
      p.gap level ++ [']']
  | object ((name, v) :: rest) =>
    '{' :: p.gap (level + 1) ++ stringText name ++ ':' :: p.afterColon ++ spaced p (level + 1) v ++
      spacedProperties p (level + 1) rest ++ p.gap level ++ ['}']
  | null => ['n', 'u', 'l', 'l']
  | bool true => ['t', 'r', 'u', 'e']
  | bool false => ['f', 'a', 'l', 's', 'e']
  | number n => n.text
  | string s => stringText s
  | array [] => ['[', ']']
  | object [] => ['{', '}']

def spacedItems (p : Spacing) (level : Nat) : List Json → List Char
  | [] => []
  | v :: rest => ',' :: p.gap level ++ spaced p level v ++ spacedItems p level rest

def spacedProperties (p : Spacing) (level : Nat) : List (String × Json) → List Char
  | [] => []
  | (name, v) :: rest =>
    ',' :: p.gap level ++ stringText name ++ ':' :: p.afterColon ++ spaced p level v ++
      spacedProperties p level rest

end

mutual

theorem spaced_none (level : Nat) (v : Json) : spaced .none level v = compact v := by
  match v with
  | array (v :: rest) => simp [spaced, compact, spaced_none, spacedItems_none]
  | object ((name, v) :: rest) => simp [spaced, compact, spaced_none, spacedProperties_none]
  | null | bool true | bool false | number _ | string _ | array [] | object [] =>
    simp [spaced, compact]

theorem spacedItems_none (level : Nat) (items : List Json) :
    spacedItems .none level items = compactItems items := by
  match items with
  | [] => rfl
  | v :: rest => simp [spacedItems, compactItems, spaced_none, spacedItems_none]

theorem spacedProperties_none (level : Nat) (properties : List (String × Json)) :
    spacedProperties .none level properties = compactProperties properties := by
  match properties with
  | [] => rfl
  | (name, v) :: rest =>
    simp [spacedProperties, compactProperties, spaced_none, spacedProperties_none]

end

mutual

theorem spaced_lines (level : Nat) (v : Json) : spaced .lines level v = indented level v := by
  match v with
  | array (v :: rest) => simp [spaced, indented, spaced_lines, spacedItems_lines]
  | object ((name, v) :: rest) => simp [spaced, indented, spaced_lines, spacedProperties_lines]
  | null | bool true | bool false | number _ | string _ | array [] | object [] =>
    simp [spaced, indented]

theorem spacedItems_lines (level : Nat) (items : List Json) :
    spacedItems .lines level items = indentedItems level items := by
  match items with
  | [] => rfl
  | v :: rest => simp [spacedItems, indentedItems, spaced_lines, spacedItems_lines]

theorem spacedProperties_lines (level : Nat) (properties : List (String × Json)) :
    spacedProperties .lines level properties = indentedProperties level properties := by
  match properties with
  | [] => rfl
  | (name, v) :: rest =>
    simp [spacedProperties, indentedProperties, spaced_lines, spacedProperties_lines]

end

theorem skipBlank_append {blanks : List Char} (blank : ∀ c ∈ blanks, isBlank c = true)
    (s : List Char) :
    skipBlank (blanks ++ s) = skipBlank s := by
  induction blanks with
  | nil => rfl
  | cons c rest ih =>
    have later := ih fun d member => blank d (List.mem_cons_of_mem _ member)
    have here : isBlank c = true := blank c List.mem_cons_self
    simpa [skipBlank, here] using later

theorem skipBlank_cons {c : Char} (dark : isBlank c = false) (s : List Char) :
    skipBlank (c :: s) = c :: s := by
  simp [skipBlank, dark]

/-- Blanks before a value are passed over. -/
theorem readValue_append {blanks : List Char} (blank : ∀ c ∈ blanks, isBlank c = true)
    (embeds : Bool) (fuel depth : Nat) (s : List Char) :
    readValue embeds fuel depth (blanks ++ s) = readValue embeds fuel depth s := by
  cases fuel with
  | zero => simp [readValue]
  | succ fuel => simp [readValue, skipBlank_append blank]

/-- Values that are read as they are written: without numbers, property names distinct, nested no
deeper than allowed, and with no object that would stand for a text. -/
inductive Legible (embeds : Bool) : Nat → Json → Prop where
  | null (depth : Nat) : Legible embeds depth .null
  | bool (depth : Nat) (b : Bool) : Legible embeds depth (.bool b)
  | string (depth : Nat) (s : String) : Legible embeds depth (.string s)
  | array (depth : Nat) (items : List Json) (each : ∀ v ∈ items, Legible embeds depth v) :
      Legible embeds (depth + 1) (.array items)
  | object (depth : Nat) (properties : List (String × Json))
      (distinct : (properties.map Prod.fst).Nodup)
      (itself : embeds = false ∨ properties.head?.map Prod.fst ≠ some embeddedName)
      (each : ∀ p ∈ properties, Legible embeds depth p.2) :
    Legible embeds (depth + 1) (.object properties)

/-- The text of the value is read as the value, whatever follows it. -/
def ReadsBack (p : Spacing) (embeds : Bool) (depth : Nat) (v : Json) : Prop :=
  ∀ level fuel rest, 2 * (spaced p level v).length ≤ fuel →
    readValue embeds fuel depth (spaced p level v ++ rest) = .ok (v, rest)

/-- A text of a value starts with neither a blank nor the end of a list. -/
theorem spaced_head (p : Spacing) (level : Nat) {embeds : Bool} {depth : Nat} {v : Json}
    (legible : Legible embeds depth v) :
    ∃ c s, spaced p level v = c :: s ∧ isBlank c = false ∧ c ≠ ']' := by
  cases legible with
  | null => exact ⟨'n', _, by rw [spaced], by decide, by decide⟩
  | bool depth b =>
    cases b with
    | false => exact ⟨'f', _, by rw [spaced], by decide, by decide⟩
    | true => exact ⟨'t', _, by rw [spaced], by decide, by decide⟩
  | string depth s =>
    exact ⟨'"', escape s.toList ++ ['"'], by simp [spaced, stringText], by decide, by decide⟩
  | array depth items each =>
    cases items with
    | nil => exact ⟨'[', _, by rw [spaced], by decide, by decide⟩
    | cons v rest =>
      exact ⟨'[', _, by simp only [spaced, List.cons_append]; rfl, by decide, by decide⟩
  | object depth properties distinct itself each =>
    cases properties with
    | nil => exact ⟨'{', _, by rw [spaced], by decide, by decide⟩
    | cons q rest =>
      exact ⟨'{', _, by simp only [spaced, List.cons_append]; rfl, by decide, by decide⟩

theorem spacedItems_append (p : Spacing) (level : Nat) (v : Json) (rest : List Json)
    (tail : List Char) :
    spacedItems p level (v :: rest) ++ tail =
      ',' :: (p.gap level ++ (spaced p level v ++ (spacedItems p level rest ++ tail))) := by
  simp [spacedItems]

theorem spacedProperties_append (p : Spacing) (level : Nat) (name : String) (v : Json)
    (rest : List (String × Json)) (tail : List Char) :
    spacedProperties p level ((name, v) :: rest) ++ tail =
      ',' :: (p.gap level ++ '"' :: (escape name.toList ++ '"' :: ':' ::
        (p.afterColon ++ (spaced p level v ++ (spacedProperties p level rest ++ tail))))) := by
  simp [spacedProperties, stringText]

theorem readItems_spaced (p : Spacing) {embeds : Bool} {depth : Nat} (level : Nat)
    {tail rest : List Char} (close : skipBlank tail = ']' :: rest) (v : Json) (more : List Json)
    (legible : ∀ w ∈ v :: more, Legible embeds depth w)
    (each : ∀ w ∈ v :: more, ReadsBack p embeds depth w) (fuel index : Nat)
    (enough : 2 * (spaced p level v ++ spacedItems p level more).length + 1 ≤ fuel) :
    readItems embeds fuel depth index (spaced p level v ++ (spacedItems p level more ++ tail)) =
      .ok (v :: more, rest) := by
  induction more generalizing v fuel index with
  | nil =>
    obtain ⟨n, rfl⟩ := Nat.exists_eq_succ_of_ne_zero (by omega : fuel ≠ 0)
    have first :=
      each v List.mem_cons_self level n tail (by simp only [List.length_append] at enough; omega)
    rw [readItems]
    simp [spacedItems, first, bind, close]
  | cons w more ih =>
    obtain ⟨n, rfl⟩ := Nat.exists_eq_succ_of_ne_zero (by omega : fuel ≠ 0)
    simp only [List.length_append, spacedItems, List.length_cons] at enough
    have first :=
      each v List.mem_cons_self level n (spacedItems p level (w :: more) ++ tail) (by omega)
    have others := ih w (fun u member => legible u (List.mem_cons_of_mem _ member))
      (fun u member => each u (List.mem_cons_of_mem _ member)) n (index + 1)
      (by simp only [List.length_append]; omega)
    obtain ⟨c, s, head, dark, notEnd⟩ := spaced_head p level (legible w (by simp))
    rw [head, List.cons_append] at others
    have comma : skipBlank (spacedItems p level (w :: more) ++ tail) =
        ',' :: (p.gap level ++ c :: (s ++ (spacedItems p level more ++ tail))) := by
      rw [spacedItems_append, head, List.cons_append, skipBlank_cons (by decide)]
    have next : skipBlank (p.gap level ++ c :: (s ++ (spacedItems p level more ++ tail))) =
        c :: (s ++ (spacedItems p level more ++ tail)) := by
      rw [skipBlank_append (p.gap_blank level), skipBlank_cons dark]
    rw [readItems, first]
    simp only [ok_mapError, bind, ok_bind, comma, next]
    split
    · rename_i found
      exact absurd (List.cons.inj found).1 notEnd
    · rw [others, ok_bind]

theorem readProperties_spaced (p : Spacing) {embeds : Bool} {depth : Nat} (level : Nat)
    {tail rest : List Char} (close : skipBlank tail = '}' :: rest) (name : String) (v : Json)
    (more : List (String × Json)) (each : ∀ q ∈ (name, v) :: more, ReadsBack p embeds depth q.2)
    (fuel : Nat)
    (enough : 2 * (spaced p level v ++ spacedProperties p level more).length + 1 ≤ fuel) :
    readProperties embeds fuel depth name
        (':' :: (p.afterColon ++ (spaced p level v ++ (spacedProperties p level more ++ tail)))) =
      .ok ((name, v) :: more, rest) := by
  induction more generalizing name v fuel with
  | nil =>
    obtain ⟨n, rfl⟩ := Nat.exists_eq_succ_of_ne_zero (by omega : fuel ≠ 0)
    have value : ReadsBack p embeds depth v := each (name, v) List.mem_cons_self
    have first := value level n tail (by simp only [List.length_append] at enough; omega)
    rw [readProperties, colon, skipBlank_cons (by decide)]
    simp [spacedProperties, readValue_append p.afterColon_blank, first, bind, close]
  | cons q more ih =>
    obtain ⟨next, w⟩ := q
    obtain ⟨n, rfl⟩ := Nat.exists_eq_succ_of_ne_zero (by omega : fuel ≠ 0)
    simp only [List.length_append, spacedProperties, List.length_cons] at enough
    have value : ReadsBack p embeds depth v := each (name, v) List.mem_cons_self
    have first := value level n (spacedProperties p level ((next, w) :: more) ++ tail) (by omega)
    have others := ih next w (fun u member => each u (List.mem_cons_of_mem _ member)) n
      (by simp only [List.length_append]; omega)
    have named : readName false (p.gap level ++ '"' :: (escape next.toList ++ '"' :: ':' ::
        (p.afterColon ++ (spaced p level w ++ (spacedProperties p level more ++ tail))))) =
          .ok (next,
              ':' :: (p.afterColon ++
                  (spaced p level w ++ (spacedProperties p level more ++ tail)))) := by
      rw [readName, skipBlank_append (p.gap_blank level), skipBlank_cons (by decide)]
      exact readString_escape next _
    rw [readProperties, colon, skipBlank_cons (by decide)]
    simp only [readValue_append p.afterColon_blank, first, ok_mapError, bind, ok_bind]
    rw [spacedProperties_append, skipBlank_cons (by decide)]
    simp only [named, others, ok_mapError, ok_bind]

/-- A value whose text starts as neither a list nor an object is read as a scalar. -/
theorem readsBack_of_readScalar (p : Spacing)
    {embeds : Bool} {depth : Nat} {v : Json} {c : Char} {s : List Char}
    (spelled : ∀ level, spaced p level v = c :: s) (dark : isBlank c = false) (noList : c ≠ '[')
    (noObject : c ≠ '{') (read : ∀ rest, readScalar (c :: (s ++ rest)) = .ok (v, rest)) :
    ReadsBack p embeds depth v := by
  intro level fuel rest enough
  rw [spelled] at enough ⊢
  rw [List.length_cons] at enough
  obtain ⟨n, rfl⟩ := Nat.exists_eq_add_one_of_ne_zero (by omega : fuel ≠ 0)
  rw [readValue, List.cons_append, skipBlank_cons dark]
  split
  · rename_i found
    exact absurd (List.cons.inj found).1 noList
  · rename_i found
    exact absurd (List.cons.inj found).1 noObject
  · rw [read, ok_mapError]

theorem readsBack_bool (p : Spacing) (embeds : Bool) (depth : Nat) (b : Bool) :
    ReadsBack p embeds depth (.bool b) := by
  cases b with
  | false =>
    refine readsBack_of_readScalar p (fun _ => by rw [spaced]) (by decide) (by decide)
      (by decide) fun rest => ?_
    simp [readScalar, word]
  | true =>
    refine readsBack_of_readScalar p (fun _ => by rw [spaced]) (by decide) (by decide)
      (by decide) fun rest => ?_
    simp [readScalar, word]

theorem readsBack_string (p : Spacing) (embeds : Bool) (depth : Nat) (s : String) :
    ReadsBack p embeds depth (.string s) := by
  have spelled : ∀ level, spaced p level (.string s) = '"' :: (escape s.toList ++ ['"']) :=
    fun level => by
    rw [spaced, stringText, List.cons_append]
  refine readsBack_of_readScalar p spelled (by decide) (by decide) (by decide) fun rest => ?_
  simp [readScalar, readString_escape]

theorem readsBack_array (p : Spacing) {embeds : Bool} {depth : Nat} {items : List Json}
    (legible : ∀ v ∈ items, Legible embeds depth v)
    (each : ∀ v ∈ items, ReadsBack p embeds depth v) :
    ReadsBack p embeds (depth + 1) (.array items) := by
  intro level fuel rest enough
  cases items with
  | nil =>
    rw [spaced] at enough ⊢
    simp only [List.length_cons] at enough
    obtain ⟨n, rfl⟩ := Nat.exists_eq_add_one_of_ne_zero (by omega : fuel ≠ 0)
    simp [readValue, skipBlank_cons, isBlank]
  | cons v more =>
    simp only [spaced, List.length_append, List.length_cons] at enough
    obtain ⟨n, rfl⟩ := Nat.exists_eq_add_one_of_ne_zero (by omega : fuel ≠ 0)
    have close : skipBlank (p.gap level ++ ']' :: rest) = ']' :: rest := by
      rw [skipBlank_append (p.gap_blank level), skipBlank_cons (by decide)]
    have items :=
      readItems_spaced p (level + 1) close v more legible each n 0
        (by simp only [List.length_append]; omega)
    obtain ⟨c, s, head, dark, notEnd⟩ := spaced_head p (level + 1) (legible v (by simp))
    rw [head, List.cons_append] at items
    have first : skipBlank (p.gap (level + 1) ++ c :: (s ++ (spacedItems p (level + 1) more ++
        (p.gap level ++ ']' :: rest)))) =
          c :: (s ++ (spacedItems p (level + 1) more ++ (p.gap level ++ ']' :: rest))) := by
      rw [skipBlank_append (p.gap_blank _), skipBlank_cons dark]
    simp only [spaced, List.cons_append, List.append_assoc, List.nil_append, head]
    rw [readValue, skipBlank_cons (by decide)]
    simp only [first]
    split
    · rename_i found
      exact absurd (List.cons.inj found).1 notEnd
    · rename_i found
      cases found
    · rw [items, ok_map]

theorem readsBack_object (p : Spacing)
    {embeds : Bool} {depth : Nat} {properties : List (String × Json)}
    (distinct : (properties.map Prod.fst).Nodup)
    (itself : embeds = false ∨ properties.head?.map Prod.fst ≠ some embeddedName)
    (each : ∀ q ∈ properties, ReadsBack p embeds depth q.2) :
    ReadsBack p embeds (depth + 1) (.object properties) := by
  intro level fuel rest enough
  cases properties with
  | nil =>
    rw [spaced] at enough ⊢
    simp only [List.length_cons] at enough
    obtain ⟨n, rfl⟩ := Nat.exists_eq_add_one_of_ne_zero (by omega : fuel ≠ 0)
    simp [readValue, skipBlank_cons, isBlank]
  | cons q more =>
    obtain ⟨name, v⟩ := q
    simp only [spaced, List.length_append, List.length_cons] at enough
    obtain ⟨n, rfl⟩ := Nat.exists_eq_add_one_of_ne_zero (by omega : fuel ≠ 0)
    have close : skipBlank (p.gap level ++ '}' :: rest) = '}' :: rest := by
      rw [skipBlank_append (p.gap_blank level), skipBlank_cons (by decide)]
    have entries := readProperties_spaced p (level + 1) close name v more each n
      (by simp only [List.length_append]; omega)
    have stands : (embeds && name == embeddedName) = false := by
      rcases itself with plain | other
      · simp [plain]
      · simpa using fun _ same => other (by simp [same])
    have first (s : List Char) : skipBlank (p.gap (level + 1) ++ '"' :: s) = '"' :: s := by
      rw [skipBlank_append (p.gap_blank _), skipBlank_cons (by decide)]
    have named (s : List Char) : readName true ('"' :: (escape name.toList ++ '"' :: s)) =
        .ok (name, s) := by
      rw [readName, skipBlank_cons (by decide)]
      exact readString_escape name s
    simp only [spaced, stringText, List.cons_append, List.append_assoc, List.nil_append]
    rw [readValue, skipBlank_cons (by decide)]
    simp only [first]
    split
    · rename_i found
      exact absurd (List.cons.inj found).1 (by decide)
    · simp only [named, ok_mapError, bind, ok_bind, stands, Bool.false_eq_true, if_false,
        entries, ok_map, collect_of_nodup _ distinct]

theorem readsBack_of_legible (p : Spacing)
    {embeds : Bool} {depth : Nat} {v : Json} (legible : Legible embeds depth v) :
    ReadsBack p embeds depth v := by
  induction legible with
  | null depth =>
    refine readsBack_of_readScalar p (fun _ => by rw [spaced]) (by decide) (by decide)
      (by decide) fun rest => ?_
    simp [readScalar, word]
  | bool depth b => exact readsBack_bool p embeds depth b
  | string depth s => exact readsBack_string p embeds depth s
  | array depth items each ih => exact readsBack_array p each ih
  | object depth properties distinct itself each ih => exact readsBack_object p distinct itself ih

/-- A whole text of a legible value is read as it. -/
theorem parseAs_spaced (p : Spacing) (embeds : Bool) (v : Json)
    (legible : Legible embeds maxDepth v) :
    parseAs embeds (String.ofList (spaced p 0 v)) = .ok v := by
  have read :=
    readsBack_of_legible p legible 0 (fuelFor (spaced p 0 v)) [] (by unfold fuelFor; omega)
  rw [List.append_nil] at read
  simp [parseAs, read, alone, skipBlank, Except.bind]

theorem parseAs_compress {embeds : Bool} {v : Json} (legible : Legible embeds maxDepth v) :
    parseAs embeds v.compress = .ok v := by
  rw [compress, ← spaced_none 0]
  exact parseAs_spaced .none embeds v legible

theorem parseAs_pretty {embeds : Bool} {v : Json} (legible : Legible embeds maxDepth v) :
    parseAs embeds v.pretty = .ok v := by
  rw [pretty, ← spaced_lines]
  exact parseAs_spaced .lines embeds v legible

end ExtractionPrompt.Json
