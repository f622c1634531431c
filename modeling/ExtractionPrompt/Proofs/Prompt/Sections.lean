import ExtractionPrompt.Proofs.Prompt.Block
import ExtractionPrompt.Proofs.Prompt.FieldLines
import ExtractionPrompt.Proofs.Text.Paragraph

/-!
The instructions for the fields inside a prompt.  They are what stands between the first mark and
the next closing mark, and taken apart at empty lines and at line breaks they are the blocks of the
fields with their lines.  Texts without a line break cannot change that, whatever marks, bullets or
headings they spell.
-/

namespace ExtractionPrompt

open Text

namespace Version

/-- The first thing in a prompt behind the instructions for the fields. -/
def fieldsEnd : Version → String
  | simple => "\n\nRULES:\n"
  | detailed => "\n\nStrict output format:"

/-- The text of a prompt that stands for the fields: behind the first mark, up to the next closing
mark. -/
def fieldSection? (v : Version) (prompt : String) : Option (List Char) :=
  (afterFirst? v.fieldsMark.toList prompt.toList).bind (beforeFirst? v.fieldsEnd.toList)

theorem fieldsMark_simple :
    simple.fieldsMark.toList = 'E' :: 'X' :: "TRACT THESE FIELDS:\n".toList := by
  decide

theorem fieldsMark_detailed :
    detailed.fieldsMark.toList = 'F' :: 'i' :: 'e' :: "lds to extract:\n".toList := by
  decide

theorem fieldsMark_ne_nil (v : Version) : v.fieldsMark.toList ≠ [] := by
  cases v with
  | simple => simp [fieldsMark_simple]
  | detailed => simp [fieldsMark_detailed]

/-- Neither the mark nor the slot's token starts in front of the mark. -/
theorem skipped_preface (v : Version) :
    Skipped [v.fieldsMark.toList, Wording.slot.toList] v.preface := by
  cases v with
  | simple =>
    rw [fieldsMark_simple, slot_eq_cons]
    refine .intercalate (.ofList (by decide)) ?_
    simp only [List.forall_mem_cons, List.not_mem_nil, false_implies, implies_true, and_true]
    refine ⟨?role, ?context, ?action, .ofList (by decide), .ofList (by decide)⟩
    case role =>
      exact .append (.ofList (by decide)) (.append (.ofList (by decide)) (.ofList (by decide)))
    case context =>
      exact .append (.ofList (by decide))
        (.append (.append (.ofList (by decide)) (.ofList (by decide))) (.ofList (by decide)))
    case action =>
      exact .append (.ofList (by decide))
        (.append (.append (.ofList (by decide)) (.ofList (by decide))) (.ofList (by decide)))
  | detailed =>
    rw [fieldsMark_detailed, slot_eq_cons]
    refine .intercalate (.ofList (by decide)) ?_
    simp only [List.forall_mem_cons, List.not_mem_nil, false_implies, implies_true, and_true]
    refine ⟨?role, ?context, ?action, ?instructions, .ofList (by decide)⟩
    case role =>
      exact .append (.ofList (by decide)) (.append (.ofList (by decide)) (.ofList (by decide)))
    case context =>
      exact .append (.ofList (by decide))
        (.append (.append (.ofList (by decide)) (.ofList (by decide))) (.ofList (by decide)))
    case action =>
      exact .append (.ofList (by decide))
        (.append (.append (.ofList (by decide)) (.ofList (by decide))) (.ofList (by decide)))
    case instructions =>
      exact .append (.ofList (by decide)) (.append (.ofList (by decide)) (.ofList (by decide)))

theorem fieldsEnd_eq_cons (v : Version) :
    ∃ d mark, v.fieldsEnd.toList = '\n' :: '\n' :: d :: mark ∧ d ≠ '•' := by
  cases v with
  | simple => exact ⟨'R', "ULES:\n".toList, by decide, by decide⟩
  | detailed => exact ⟨'S', "trict output format:".toList, by decide, by decide⟩

/-- The mark is first found where it stands. -/
theorem fieldsMark_absent (v : Version) :
    ¬ v.fieldsMark.toList <:+: v.preface.toList ++ v.fieldsMark.toList.dropLast := by
  refine not_infix_append (v.skipped_preface _ List.mem_cons_self) ?_
  intro inside
  have long := inside.length_le
  have positive := List.length_pos_of_ne_nil v.fieldsMark_ne_nil
  rw [List.length_dropLast] at long
  omega

theorem bridge_eq (v : Version) : ∃ rest, v.bridge = v.fieldsEnd ++ rest := by
  cases v with
  | simple =>
    refine ⟨lines Wording.simpleRules ++ ("\n\n" ++ simple.templateMark), ?_⟩
    have joined : "\n\n" ++ "RULES:\n" = simple.fieldsEnd := by decide
    rw [bridge, ← String.append_assoc, joined]
  | detailed => exact ⟨"\n```json\n", by decide⟩

end Version

namespace Config

theorem blocks_ne_nil {c : Config} (one : c.keys ≠ []) : c.blocks ≠ [] := by
  cases c with
  | simple body => simpa [blocks, keys] using one
  | detailed body => simpa [blocks, keys] using one

theorem isLine_of_mem_blocks {c : Config} (oneLine : ∀ s ∈ c.bareTexts, '\n' ∉ s.toList) :
    ∀ block ∈ c.blocks, ∀ line ∈ block, IsLine line := by
  cases c with
  | simple body =>
    simp only [blocks, List.forall_mem_map]
    intro f member
    refine f.isLine_of_mem_block (totalBreaks_eq_zero_iff.2 ?_)
    intro s text
    exact oneLine s (List.mem_flatMap.2 ⟨f, member, text⟩)
  | detailed body =>
    simp only [blocks, List.forall_mem_map]
    intro f member
    refine f.isLine_of_mem_block (totalBreaks_eq_zero_iff.2 ?_)
    intro s text
    exact oneLine s (List.mem_flatMap.2 ⟨f, member, text⟩)

/-- Every block starts with a bullet. -/
theorem bullet_of_mem_blocks (c : Config) :
    ∀ block ∈ c.blocks, ∃ more rest, block.map String.toList = ('•' :: more) :: rest := by
  cases c with
  | simple body =>
    simp only [blocks, List.forall_mem_map]
    intro f _
    refine ⟨' ' :: (f.heading ++ ":").toList, f.block.tail.map String.toList, ?_⟩
    simp [SimpleField.block]
  | detailed body =>
    simp only [blocks, List.forall_mem_map]
    intro f _
    refine ⟨' ' :: '*' :: '*' :: (f.heading ++ "** (`" ++ f.key ++ "`)").toList,
      f.block.tail.map String.toList, ?_⟩
    simp [DetailedField.block]

/-- The blocks as they stand in the instructions. -/
def blockTexts (c : Config) : List (List Char) :=
  c.blocks.map fun block => ['\n'].intercalate (block.map String.toList)

theorem toList_instructions (c : Config) :
    c.instructions.toList = ['\n', '\n'].intercalate c.blockTexts := by
  have shown (block : List String) : (lines block).toList =
      ['\n'].intercalate (block.map String.toList) :=
    String.toList_intercalate
  rw [instructions, paragraphs, String.toList_intercalate, List.map_map]
  simp [blockTexts, Function.comp_def, shown]

theorem blockTexts_ne_nil {c : Config} (one : c.keys ≠ []) : c.blockTexts ≠ [] := by
  simpa [blockTexts] using blocks_ne_nil one

/-- The lines of a block in which no bare text breaks. -/
theorem lines_of_mem_blocks {c : Config} (oneLine : ∀ s ∈ c.bareTexts, '\n' ∉ s.toList)
    {block : List String} (member : block ∈ c.blocks) :
    block.map String.toList ≠ [] ∧ ∀ line ∈ block.map String.toList, line ≠ [] ∧ '\n' ∉ line := by
  constructor
  · obtain ⟨more, rest, start⟩ := c.bullet_of_mem_blocks block member
    simp [start]
  · intro line inside
    obtain ⟨text, within, rfl⟩ := List.mem_map.1 inside
    obtain ⟨shown, one⟩ := isLine_of_mem_blocks oneLine block member text within
    exact ⟨by simpa using shown, List.count_eq_zero.1 one⟩

theorem unbroken_of_mem_blockTexts {c : Config} (oneLine : ∀ s ∈ c.bareTexts, '\n' ∉ s.toList) :
    ∀ s ∈ c.blockTexts, Unbroken s := by
  intro s member
  obtain ⟨block, inside, rfl⟩ := List.mem_map.1 member
  obtain ⟨nonempty, each⟩ := lines_of_mem_blocks oneLine inside
  exact unbroken_intercalate nonempty each

theorem bullet_of_mem_blockTexts (c : Config) : ∀ s ∈ c.blockTexts, ∃ more, s = '•' :: more := by
  intro s member
  obtain ⟨block, inside, rfl⟩ := List.mem_map.1 member
  obtain ⟨more, rest, bullet⟩ := c.bullet_of_mem_blocks block inside
  rw [bullet]
  exact exists_intercalate_eq_cons ['\n'] '•' more rest

/-- When no bare text breaks, the instructions are cut out of a prompt whole. -/
theorem fieldSection?_prompt {c : Config} (one : c.keys ≠ [])
    (oneLine : ∀ s ∈ c.bareTexts, '\n' ∉ s.toList) :
    c.version.fieldSection? c.prompt = some c.instructions.toList := by
  obtain ⟨d, mark, spelled, other⟩ := c.version.fieldsEnd_eq_cons
  obtain ⟨rest, bridge⟩ := c.version.bridge_eq
  have start : ∀ s ∈ c.blockTexts, ∃ e more, s = e :: more ∧ e ≠ '\n' ∧ e ≠ d := by
    intro s member
    obtain ⟨more, rfl⟩ := c.bullet_of_mem_blockTexts s member
    exact ⟨'•', more, rfl, by decide, other.symm⟩
  have cut (t : List Char) :=
    beforeFirst?_intercalate mark t (blockTexts_ne_nil one)
      (unbroken_of_mem_blockTexts oneLine) start
  rw [Version.fieldSection?, prompt_eq_parts, bridge]
  simp only [String.append_assoc, String.toList_append]
  rw [afterFirst?_append _ c.version.fieldsMark_ne_nil c.version.fieldsMark_absent,
    Option.bind_some, spelled, toList_instructions, cut]

/-- The text of a config cannot forge the structure of its instructions without a line break: cut
out by their marks and taken apart at empty lines they are one block for each field in order, and
every block taken apart at its breaks is the lines that the field has, each in its wording. -/
theorem fieldSection_of_prompt (c : Config) (one : c.keys ≠ [])
    (oneLine : ∀ s ∈ c.bareTexts, '\n' ∉ s.toList) :
    ∃ text, c.version.fieldSection? c.prompt = some text ∧
      (splitOn ['\n', '\n'] text).map (List.splitOn '\n') =
        c.fieldLines.map (·.map fun line => line.text.toList) ∧
      c.fieldLines.map List.length = c.lineCounts := by
  refine ⟨c.instructions.toList, fieldSection?_prompt one oneLine, ?_, c.length_fieldLines⟩
  have apart : ∀ s ∈ c.blockTexts, ¬ ['\n', '\n'] <:+: s ++ ['\n'] := by
    intro s member
    exact Unbroken.not_infix (unbroken_of_mem_blockTexts oneLine s member)
  rw [toList_instructions, splitOn_intercalate (by simp) (blockTexts_ne_nil one) apart,
    ← toList_blocks, blockTexts, List.map_map]
  apply List.map_congr_left
  intro block member
  obtain ⟨nonempty, each⟩ := lines_of_mem_blocks oneLine member
  exact List.splitOn_intercalate '\n' (fun line inside => (each line inside).2) nonempty

/-- Bare texts that spell marks, bullets and headings, and quoted ones with empty lines and the
closing mark. -/
def forgedStructure : Config := .detailed (.ofFields .detailed [
  { key := "city"
    label := some "• **Town** (`town`)"
    description := some "Strict output format:"
    note := some ""
    required := true
    defaultValue := "  – Output schema:"
    detection :=
      some [.custom "Fields to extract:", .keyword ⟨["  – Note: ", "    – "], none, none⟩]
    validation :=
      some [.allowed
        ⟨[.string "  – Validation rules:", .array [.string "\n\n• **Zip** (`zip`)"]], none⟩]
    sanitization := some [.format ⟨"`", [("\n\nStrict output format:", "\n")]⟩]
    output := some ⟨.string, none, some .single, some ["• "],
      some ⟨[.object [("\n\n", .null)], .null], .string "\n"⟩⟩ },
  .plain "country" false ""])

theorem fieldSection_of_prompt_forged :
    (∀ s ∈ forgedStructure.bareTexts, '\n' ∉ s.toList) ∧
      ∃ text, Version.detailed.fieldSection? forgedStructure.prompt = some text ∧
        (splitOn ['\n', '\n'] text).map (List.splitOn '\n') =
          forgedStructure.fieldLines.map (·.map fun line => line.text.toList) ∧
        forgedStructure.fieldLines.map List.length = [16, 3] := by
  have oneLine : ∀ s ∈ forgedStructure.bareTexts, '\n' ∉ s.toList := by decide
  obtain ⟨text, cut, apart, counts⟩ := fieldSection_of_prompt forgedStructure (by decide) oneLine
  exact ⟨oneLine, text, cut, apart, counts⟩

end Config

end ExtractionPrompt
