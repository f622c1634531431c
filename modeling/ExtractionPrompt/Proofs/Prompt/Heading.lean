import ExtractionPrompt.Proofs.Key.NormalForm
import ExtractionPrompt.Proofs.Prompt.Parts
import ExtractionPrompt.Proofs.Submission.Acceptance

/-!
The headings of fields in a prompt.  A field is headed by its label, and by its key when it has
none.  The keys of an accepted config name their fields; its labels have not been looked at, so a
blank one is put in the place of the name.
-/

namespace ExtractionPrompt

open Text

theorem infix_intercalate {sep : List Char} {parts : List (List Char)} {part : List Char}
    (member : part ∈ parts) :
    part <:+: sep.intercalate parts := by
  induction parts with
  | nil => cases member
  | cons first rest ih =>
    cases rest with
    | nil =>
      obtain rfl := List.mem_singleton.1 member
      simp
    | cons second more =>
      rw [List.intercalate_cons_cons]
      rcases List.mem_cons.1 member with rfl | later
      · exact List.infix_append_of_infix_left (List.prefix_append _ _).isInfix
      · exact (ih later).trans (List.suffix_append _ _).isInfix

theorem Text.not_notBlank_empty : ¬ NotBlank "" := by
  rintro ⟨c, member, -⟩
  simp at member

namespace Key

theorem not_isWhiteSpace_of_isKeyChar {c : Char} (inKey : isKeyChar c = true) :
    isWhiteSpace c = false := by
  have label := not_isLabelBlank_of_isKeyChar inKey
  have ascii := toNat_lt_of_isKeyChar inKey
  have other : (c.toNat != 0x85) = true := by
    rw [bne_iff_ne]
    omega
  rw [isLabelBlank, Bool.or_eq_false_iff, other, Bool.and_true] at label
  exact label.1

/-- A key that is valid and not empty can be seen. -/
theorem notBlank_of_isValid {key : String} (given : key ≠ "") (valid : isValid key = true) :
    NotBlank key := by
  obtain ⟨c, rest, found⟩ := List.exists_cons_of_ne_nil (mt String.toList_eq_nil_iff.1 given)
  have chars := ((isValidChars_iff key.toList).1 valid).1
  have member : c ∈ key.toList := found ▸ List.mem_cons_self
  exact ⟨c, member, not_isWhiteSpace_of_isKeyChar (chars c member)⟩

end Key

/-- The first line of a field's block. -/
def Version.headline (heading key : String) : Version → String
  | simple => "• " ++ heading ++ ":"
  | detailed => "• **" ++ heading ++ "** (`" ++ key ++ "`)"

namespace Config

/-- The block of every field is headed by the label, or by the key. -/
theorem exists_block {c : Config} {index : Nat} {label : Option String}
    (given : c.labels[index]? = some label) :
    ∃ key block, c.keys[index]? = some key ∧ c.blocks[index]? = some block ∧
      block.head? = some (c.version.headline (label.getD key) key) := by
  cases c with
  | simple body =>
    simp only [labels, List.getElem?_map, Option.map_eq_some_iff] at given
    obtain ⟨f, found, rfl⟩ := given
    exact ⟨f.key, f.block, by simp [keys, found], by simp [blocks, found], rfl⟩
  | detailed body =>
    simp only [labels, List.getElem?_map, Option.map_eq_some_iff] at given
    obtain ⟨f, found, rfl⟩ := given
    exact ⟨f.key, f.block, by simp [keys, found], by simp [blocks, found], rfl⟩

theorem block_infix_prompt {c : Config} {block : List String} (member : block ∈ c.blocks) :
    (lines block).toList <:+: c.prompt.toList := by
  have inside : (lines block).toList <:+: c.instructions.toList := by
    rw [instructions, paragraphs, String.toList_intercalate]
    exact infix_intercalate (List.mem_map_of_mem (List.mem_map_of_mem member))
  rw [prompt_eq_parts]
  simp only [String.toList_append]
  refine inside.trans ?_
  rw [← List.append_assoc, ← List.append_assoc]
  exact List.infix_append _ _ _

/-- In the prompt of an accepted config every field has its block, and that starts with the label in
the place of a heading, or with the key when no label was submitted.  The key names the field; so
the heading does, unless the label is there and blank. -/
theorem heading_of_accepted {v : Json} {c : Config} (accepted : prepare v = .ok c) :
    (∃ read, Config.ofJson v = .ok read ∧ read.labels = c.labels) ∧
      ∀ (index : Nat) (label : Option String), c.labels[index]? = some label →
        ∃ key block, c.keys[index]? = some key ∧ c.blocks[index]? = some block ∧
          (lines block).toList <:+: c.prompt.toList ∧
          block.head? = some (c.version.headline (label.getD key) key) ∧ NotBlank key ∧
          (NotBlank (label.getD key) ↔ ∀ l ∈ label, NotBlank l) := by
  obtain ⟨⟨read, found, same⟩, passes⟩ := prepare_eq_ok_iff.1 accepted
  refine ⟨⟨read, found, by rw [← same, labels_deriveKeys]⟩, ?_⟩
  intro index label given
  obtain ⟨key, block, here, there, head⟩ := exists_block given
  obtain ⟨present, valid⟩ := valid_key_of_passes passes (List.mem_of_getElem? here)
  have named := Key.notBlank_of_isValid present valid
  refine ⟨key, block, here, there, block_infix_prompt (List.mem_of_getElem? there), head, named, ?_⟩
  cases label with
  | none => simp [named]
  | some label => simp

/-- A field without a label, and one with a label that was not touched. -/
def untouchedLabel : Config := .simple (.ofFields .simple [
  ⟨"email", none, "The address", none⟩, ⟨"city", some "", "The town", none⟩])

theorem prepare_untouchedLabel : prepare untouchedLabel.toJson = .ok untouchedLabel :=
  prepare_toJson_of_passes (by decide) (by decide +kernel)

theorem heading_of_accepted_untouched :
    prepare untouchedLabel.toJson = .ok untouchedLabel ∧ untouchedLabel.labels[0]? = some none ∧
      untouchedLabel.labels[1]? = some (some "") ∧
      (∃ block, untouchedLabel.blocks[0]? = some block ∧ block.head? = some "• email:") ∧
      NotBlank "email" ∧
      (∃ block, untouchedLabel.blocks[1]? = some block ∧ block.head? = some "• :") ∧
      ¬ NotBlank "" := by
  obtain ⟨-, each⟩ := heading_of_accepted prepare_untouchedLabel
  obtain ⟨_, first, key, found, -, heading, -, named⟩ := each 0 none rfl
  obtain ⟨_, second, key', found', -, heading', -, unnamed⟩ := each 1 (some "") rfl
  cases key
  cases key'
  refine ⟨prepare_untouchedLabel, rfl, rfl, ⟨first, found, heading⟩, named.2 (by simp),
    ⟨second, found', heading'⟩, ?_⟩
  intro seen
  exact not_notBlank_empty (unnamed.1 seen "" rfl)

/-- An accepted config can have a field with nothing in the place of its name. -/
theorem accepted_without_heading :
    ¬ ∀ v c, prepare v = .ok c → ∀ (index : Nat) (heading key : String) (block : List String),
      c.keys[index]? = some key → c.blocks[index]? = some block →
        block.head? = some (c.version.headline heading key) → NotBlank heading := by
  intro named
  have seen :=
    named _ _ prepare_untouchedLabel 1 "" "city" ["• :", "   - The town",
      "   - Example: null"] rfl rfl rfl
  exact not_notBlank_empty seen

end Config

end ExtractionPrompt
