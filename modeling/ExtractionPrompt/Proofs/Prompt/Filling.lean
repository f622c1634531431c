import ExtractionPrompt.Proofs.Prompt.Sections
import ExtractionPrompt.Proofs.Prompt.Template
import ExtractionPrompt.Proofs.Submission.Acceptance

/-!
Putting a document into a prompt.  A prompt ends with a part of its own for the document, and the
slot there is filled.  The token may occur before it too: nothing that is checked when a config is
submitted looks for it, so the instructions and the template hold it exactly when a text of the
config does, and there the document is put as well.
-/

namespace ExtractionPrompt

open Json Text

theorem Json.mem_textsOfProperties {s : String} {properties : List (String × Json)} :
    s ∈ textsOfProperties properties ↔ ∃ p ∈ properties, s = p.1 ∨ s ∈ p.2.texts := by
  induction properties with
  | nil => simp [textsOfProperties]
  | cons p rest ih =>
    obtain ⟨name, v⟩ := p
    simp only [textsOfProperties, List.mem_cons, List.mem_append, ih, exists_eq_or_imp, or_assoc]

/-- A line of its own without the token, in the middle of a text. -/
theorem occurrences_line {s line t : List Char} (absent : ¬ HoldsSlot line) :
    occurrences Wording.slot.toList (s ++ '\n' :: (line ++ '\n' :: t)) =
      occurrences Wording.slot.toList s + occurrences Wording.slot.toList t := by
  have unmarked : occurrences Wording.slot.toList line = 0 :=
    (occurrences_eq_zero_iff slot_ne_nil).2 absent
  rw [occurrences_append_cons _ _ slot_ne_nil (by decide),
    occurrences_append_cons _ _ slot_ne_nil (by decide), unmarked, Nat.zero_add]

theorem substituteFrom_line {s line t : List Char} (body : List Char) (absent : ¬ HoldsSlot line) :
    substituteFrom Wording.slot.toList body 0 (s ++ '\n' :: (line ++ '\n' :: t)) =
      substituteFrom Wording.slot.toList body 0 s ++
        '\n' :: (line ++ '\n' :: substituteFrom Wording.slot.toList body 0 t) := by
  rw [substituteFrom_append_cons body _ _ (by decide) slot_ne_nil (Nat.zero_le _),
    substituteFrom_append_cons body _ _ (by decide) slot_ne_nil (Nat.zero_le _),
    substituteFrom_of_not_infix _ body line absent]

/-- A text without the token is filled as it is. -/
theorem fillPrompt_of_not_holdsSlot {s : String} (document : String)
    (absent : ¬ HoldsSlot s.toList) :
    fillPrompt s document = s := by
  rw [fillPrompt, substitute, substituteFrom_of_not_infix _ _ _ absent, String.ofList_toList]

theorem not_holdsSlot_ofList {l : List Char} (fresh : '{' ∉ l) :
    ¬ HoldsSlot (String.ofList l).toList := by
  rw [String.toList_ofList]
  exact not_holdsSlot_of_notMem fresh

namespace Version

/-- What stands behind the template, up to the heading for the document. -/
def templateClose : Version → String
  | simple => "\n"
  | detailed => "\n```\n"

/-- The line before the document. -/
def documentHeading : Version → String
  | simple => "RESUME TEXT:"
  | detailed => "Resume text:"

/-- What stands behind the document. -/
def documentEnd : Version → String
  | simple => "\n"
  | detailed => ""

/-- The part for a document, with the document in it. -/
def documentSection (v : Version) (document : String) : String :=
  "\n" ++ (v.documentHeading ++ ("\n" ++ (document ++ v.documentEnd)))

theorem closing_eq (v : Version) :
    v.templateEnd ++ v.documentPart = v.templateClose ++ v.documentSection Wording.slot := by
  cases v with
  | simple => decide
  | detailed => decide

theorem toList_documentSection (v : Version) (document : String) :
    (v.documentSection document).toList =
      '\n' :: (v.documentHeading.toList ++ '\n' :: (document.toList ++ v.documentEnd.toList)) := by
  simp only [documentSection, String.toList_append]
  rfl

theorem not_holdsSlot_documentHeading (v : Version) : ¬ HoldsSlot v.documentHeading.toList := by
  cases v with
  | simple => exact not_holdsSlot_fixed (by decide)
  | detailed => exact not_holdsSlot_fixed (by decide)

theorem occurrences_slot (v : Version) :
    occurrences Wording.slot.toList (Wording.slot.toList ++ v.documentEnd.toList) = 1 := by
  cases v with
  | simple => decide
  | detailed => decide

theorem not_holdsSlot_documentEnd (v : Version) : ¬ HoldsSlot v.documentEnd.toList := by
  cases v with
  | simple => exact not_holdsSlot_fixed (by decide)
  | detailed => exact not_holdsSlot_fixed (by decide)

theorem holdsSlot_preface (v : Version) (t : String) :
    HoldsSlot (v.preface ++ t).toList ↔ HoldsSlot t.toList := by
  have skipped := v.skipped_preface Wording.slot.toList (by simp)
  rw [String.toList_append]
  constructor
  · intro inside
    by_contra absent
    exact not_infix_append skipped absent inside
  · intro inside
    exact inside.trans (List.suffix_append _ _).isInfix

theorem holdsSlot_fieldsMark (v : Version) (t : String) :
    HoldsSlot (v.fieldsMark ++ t).toList ↔ HoldsSlot t.toList := by
  apply holdsSlot_passed
  cases v with
  | simple => decide
  | detailed => decide

theorem not_holdsSlot_simpleRules : ¬ HoldsSlot (lines Wording.simpleRules).toList := by
  rw [holdsSlot_lines, Wording.simpleRules]
  simp only [anyHoldsSlot_cons, not_anyHoldsSlot_nil, or_false, not_or]
  exact ⟨not_holdsSlot_fixed (by decide), not_holdsSlot_ofList (by decide),
    not_holdsSlot_ofList (by decide), not_holdsSlot_ofList (by decide),
    not_holdsSlot_ofList (by decide), not_holdsSlot_ofList (by decide)⟩

/-- What stands between the instructions and the template closes the ones and does not reach into
the other. -/
theorem holdsSlot_bridge (v : Version) (s t : String) :
    HoldsSlot (s ++ (v.bridge ++ t)).toList ↔ HoldsSlot s.toList ∨ HoldsSlot t.toList := by
  cases v with
  | simple =>
    have rules := not_holdsSlot_simpleRules
    unfold bridge
    generalize lines Wording.simpleRules = text at rules
    simp (disch := decide) only [templateMark, String.append_assoc, holdsSlot_closed,
      holdsSlot_passed, rules, false_or]
  | detailed =>
    simp (disch := decide) only [bridge, templateMark, String.append_assoc, holdsSlot_closed,
      holdsSlot_passed]

theorem holdsSlot_templateClose (v : Version) (s : String) :
    HoldsSlot (s ++ v.templateClose).toList ↔ HoldsSlot s.toList := by
  cases v with
  | simple =>
    simp (disch := decide) only [templateClose, holdsSlot_closed_last,
      not_holdsSlot_fixed, or_false]
  | detailed =>
    simp (disch := decide) only [templateClose, holdsSlot_closed_last,
      not_holdsSlot_fixed, or_false]

end Version

namespace Config

theorem holdsSlot_instructions (c : Config) :
    HoldsSlot c.instructions.toList ↔ ∃ block ∈ c.blocks, AnyHoldsSlot block := by
  have joined : HoldsSlot c.instructions.toList ↔ AnyHoldsSlot (c.blocks.map lines) :=
    holdsSlot_join rfl (by decide) (by decide) _
  simp only [joined, anyHoldsSlot_map, holdsSlot_lines]

theorem anyHoldsSlot_of_template {c : Config} (holds : HoldsSlot c.template.pretty.toList) :
    ∃ p ∈ c.offers, HoldsSlot p.1.toList ∨ AnyHoldsSlot p.2.texts := by
  rw [holdsSlot_pretty, template_eq] at holds
  obtain ⟨s, text, inside⟩ := holds
  obtain ⟨p, member, name | value⟩ := mem_textsOfProperties.1 text
  · exact ⟨p, mem_of_mem_collect member, .inl (name ▸ inside)⟩
  · exact ⟨p, mem_of_mem_collect member, .inr ⟨s, value, inside⟩⟩

theorem holdsSlot_template_of_key {c : Config} {key : String} (member : key ∈ c.keys)
    (holds : HoldsSlot key.toList) :
    HoldsSlot c.template.pretty.toList := by
  have known : key ∈ (collect c.offers).map Prod.fst := by
    rw [map_fst_collect, map_fst_offers]
    exact List.mem_eraseDups.2 member
  obtain ⟨p, offered, rfl⟩ := List.mem_map.1 known
  rw [holdsSlot_pretty, template_eq]
  exact ⟨p.1, mem_textsOfProperties.2 ⟨p, offered, .inl rfl⟩, holds⟩

theorem holdsSlot_instructions_simple (body : ConfigBody SimpleField) :
    HoldsSlot (simple body).instructions.toList ↔ AnyHoldsSlot (simple body).bareTexts := by
  rw [holdsSlot_instructions, bareTexts, anyHoldsSlot_flatMap]
  simp only [blocks, List.mem_map, exists_exists_and_eq_and, SimpleField.anyHoldsSlot_block]

theorem holdsSlot_instructions_detailed (body : ConfigBody DetailedField) :
    HoldsSlot (detailed body).instructions.toList ↔
      AnyHoldsSlot (detailed body).bareTexts ∨ ∃ f ∈ body.fields, AnyHoldsSlot f.quotedTexts := by
  rw [holdsSlot_instructions, bareTexts, anyHoldsSlot_flatMap]
  simp only [blocks, List.mem_map, exists_exists_and_eq_and, DetailedField.anyHoldsSlot_block,
    and_or_left, exists_or]

theorem holdsSlot_template_simple (body : ConfigBody SimpleField) :
    HoldsSlot (simple body).template.pretty.toList ↔ AnyHoldsSlot (simple body).quotedTexts := by
  constructor
  · intro template
    obtain ⟨p, offered, held⟩ := anyHoldsSlot_of_template template
    obtain ⟨f, member, rfl⟩ := List.mem_map.1 offered
    rcases held with name | value
    · exact ⟨f.key, List.mem_map_of_mem member, name⟩
    · simp [Json.texts] at value
  · rintro ⟨key, member, holds⟩
    exact holdsSlot_template_of_key member holds

theorem bareTexts_of_field {body : ConfigBody DetailedField} {f : DetailedField}
    (member : f ∈ body.fields) :
    f.key ∈ (detailed body).bareTexts ∧ f.defaultValue ∈ (detailed body).bareTexts := by
  constructor
  · exact List.mem_flatMap.2 ⟨f, member, by simp [DetailedField.bareTexts]⟩
  · exact List.mem_flatMap.2 ⟨f, member, by simp [DetailedField.bareTexts]⟩

/-- What the template of a detailed config quotes stands bare in the instructions. -/
theorem bareTexts_of_template {body : ConfigBody DetailedField}
    (holds : HoldsSlot (detailed body).template.pretty.toList) :
    AnyHoldsSlot (detailed body).bareTexts := by
  obtain ⟨p, offered, held⟩ := anyHoldsSlot_of_template holds
  obtain ⟨f, member, rfl⟩ := List.mem_map.1 offered
  obtain ⟨bareKey, bareDefault⟩ := bareTexts_of_field member
  rcases held with name | value
  · exact ⟨f.key, bareKey, name⟩
  · simp only [DetailedField.templateValue] at value
    split at value
    · simp [Json.texts] at value
    · exact ⟨f.defaultValue, bareDefault, by simpa [Json.texts] using value⟩

/-- The instructions or the template hold the token exactly when a text of the config does. -/
theorem holdsSlot_instructions_or_template (c : Config) :
    HoldsSlot c.instructions.toList ∨ HoldsSlot c.template.pretty.toList ↔
      AnyHoldsSlot c.texts := by
  rw [texts, anyHoldsSlot_append]
  cases c with
  | simple body => rw [holdsSlot_instructions_simple, holdsSlot_template_simple]
  | detailed body =>
    rw [holdsSlot_instructions_detailed]
    constructor
    · rintro ((bare | ⟨f, member, s, text, holds⟩) | template)
      · exact .inl bare
      · exact .inr ⟨s, List.mem_flatMap.2 ⟨f, member, List.mem_append_left _ text⟩, holds⟩
      · exact .inl (bareTexts_of_template template)
    · rintro (bare | ⟨s, text, holds⟩)
      · exact .inl (.inl bare)
      · obtain ⟨f, member, inside⟩ := List.mem_flatMap.1 text
        obtain ⟨bareKey, bareDefault⟩ := bareTexts_of_field member
        rcases List.mem_append.1 inside with quoted | template
        · exact .inl (.inr ⟨f, member, s, quoted, holds⟩)
        · simp only [List.mem_cons, List.not_mem_nil, or_false] at template
          rcases template with rfl | rfl
          · exact .inl (.inl ⟨f.key, bareKey, holds⟩)
          · exact .inl (.inl ⟨f.defaultValue, bareDefault, holds⟩)

/-- Everything before the line for the document. -/
def front (c : Config) : String :=
  c.version.preface ++ (c.version.fieldsMark ++ (c.instructions ++ (c.version.bridge ++
    (c.template.pretty ++ c.version.templateClose))))

theorem prompt_eq_front (c : Config) :
    c.prompt = c.front ++ c.version.documentSection Wording.slot := by
  rw [prompt_eq_parts, c.version.closing_eq, front]
  simp only [String.append_assoc]

theorem holdsSlot_front (c : Config) : HoldsSlot c.front.toList ↔ AnyHoldsSlot c.texts := by
  rw [← holdsSlot_instructions_or_template, front, Version.holdsSlot_preface,
    Version.holdsSlot_fieldsMark, Version.holdsSlot_bridge, Version.holdsSlot_templateClose]

theorem occurrences_prompt (c : Config) :
    occurrences Wording.slot.toList c.prompt.toList =
      occurrences Wording.slot.toList c.front.toList + 1 := by
  rw [prompt_eq_front, String.toList_append, Version.toList_documentSection,
    occurrences_line c.version.not_holdsSlot_documentHeading, c.version.occurrences_slot]

/-- The token stands in a prompt once exactly when no text of the config holds it. -/
theorem occurrences_prompt_eq_one_iff (c : Config) :
    occurrences Wording.slot.toList c.prompt.toList = 1 ↔ ¬ AnyHoldsSlot c.texts := by
  rw [← holdsSlot_front, HoldsSlot, ← occurrences_eq_zero_iff slot_ne_nil, occurrences_prompt]
  omega

/-- A document is put into its own part, and besides wherever a text of the config holds the
token. -/
theorem fillPrompt_prompt (c : Config) (document : String) :
    fillPrompt c.prompt document =
      fillPrompt c.front document ++ c.version.documentSection document := by
  apply String.toList_inj.1
  rw [fillPrompt, fillPrompt, substitute, substitute, String.toList_append, String.toList_ofList,
    String.toList_ofList, prompt_eq_front, String.toList_append, Version.toList_documentSection,
    Version.toList_documentSection, substituteFrom_line _ c.version.not_holdsSlot_documentHeading,
    substituteFrom_mark_append _ _ slot_ne_nil,
    substituteFrom_of_not_infix _ _ _ c.version.not_holdsSlot_documentEnd]

theorem not_holdsSlot_of_isValid {key : String} (valid : Key.isValid key = true) :
    ¬ HoldsSlot key.toList := by
  apply not_holdsSlot_of_notMem
  intro member
  simp only [Key.isValid, Key.isValidChars, Bool.and_eq_true] at valid
  obtain ⟨⟨⟨chars, -⟩, -⟩, -⟩ := valid
  exact absurd (List.all_eq_true.1 chars '{' member) (by decide)

/-- The prompt of an accepted config has its slot in a part of its own at the end.  That is the only
one exactly when no text of the config holds the token, which no key can; then a document is put
there and the rest stays as it was. -/
theorem slots_of_accepted {v : Json} {c : Config} (accepted : prepare v = .ok c) :
    (∀ key ∈ c.keys, ¬ HoldsSlot key.toList) ∧
      c.prompt = c.front ++ c.version.documentSection Wording.slot ∧
      (occurrences Wording.slot.toList c.prompt.toList = 1 ↔ ¬ AnyHoldsSlot c.texts) ∧
      ∀ document, fillPrompt c.prompt document =
        fillPrompt c.front document ++ c.version.documentSection document ∧
        (¬ AnyHoldsSlot c.texts → fillPrompt c.front document = c.front) := by
  obtain ⟨-, passes⟩ := prepare_eq_ok_iff.1 accepted
  refine ⟨?_, c.prompt_eq_front, c.occurrences_prompt_eq_one_iff, ?_⟩
  · intro key member
    exact not_holdsSlot_of_isValid (valid_key_of_passes passes member).2
  · intro document
    refine ⟨c.fillPrompt_prompt document, ?_⟩
    intro absent
    apply fillPrompt_of_not_holdsSlot
    rwa [holdsSlot_front]

/-- Texts that are almost the token, and parts of it next to each other. -/
def brokenSlot : Config := .detailed (.ofFields .detailed [
  { DetailedField.plain "resume_content" true "\x7b\x7bresume_content\x7d" with
    label := some "\x7b\x7b"
    detection := some [.custom "\x7bresume_content\x7d\x7d",
      .keyword ⟨["\x7b\x7bresume_", "content\x7d\x7d"], none, none⟩] }])

theorem slots_of_accepted_broken :
    prepare brokenSlot.toJson = .ok brokenSlot ∧
      occurrences Wording.slot.toList brokenSlot.prompt.toList = 1 ∧
      fillPrompt brokenSlot.prompt "Jane" =
        brokenSlot.front ++ Version.detailed.documentSection "Jane" := by
  have accepted : prepare brokenSlot.toJson = .ok brokenSlot :=
    prepare_toJson_of_passes (by decide) (by decide +kernel)
  have absent : ¬ AnyHoldsSlot brokenSlot.texts := by decide +kernel
  obtain ⟨-, -, once, filled⟩ := slots_of_accepted accepted
  obtain ⟨whole, front⟩ := filled "Jane"
  rw [front absent] at whole
  exact ⟨accepted, once.2 absent, whole⟩

/-- A field that asks for the token. -/
def slotInPrompt : Config := .simple (.ofFields .simple [
  ⟨"summary", none, "Copy \x7b\x7bresume_content\x7d\x7d here.", none⟩])

/-- Nothing that is checked keeps the token out of the instructions. -/
theorem accepted_with_more_slots :
    prepare slotInPrompt.toJson = .ok slotInPrompt ∧
      occurrences Wording.slot.toList slotInPrompt.prompt.toList ≠ 1 := by
  refine ⟨prepare_toJson_of_passes (by decide) (by decide +kernel), ?_⟩
  rw [ne_eq, occurrences_prompt_eq_one_iff, not_not]
  decide +kernel

/-- A prompt up to its slot. -/
def lead : Config → String
  | simple body => body.simpleLead
  | detailed body => body.detailedLead

theorem prompt_eq_lead (c : Config) :
    c.prompt = c.lead ++ Wording.slot ++ c.version.documentEnd := by
  cases c with
  | simple body => rfl
  | detailed body => exact String.append_empty.symm

/-- The line for the document stands between the token and everything before it. -/
theorem toList_lead (c : Config) :
    c.lead.toList = c.front.toList ++ '\n' :: (c.version.documentHeading.toList ++ ['\n']) := by
  have two := c.prompt_eq_lead.symm.trans c.prompt_eq_front
  have texts := congrArg String.toList two
  rw [String.toList_append, String.toList_append, String.toList_append,
    Version.toList_documentSection] at texts
  apply (List.append_left_inj (Wording.slot.toList ++ c.version.documentEnd.toList)).1
  simpa using texts

theorem holdsSlot_lead (c : Config) : HoldsSlot c.lead.toList ↔ AnyHoldsSlot c.texts := by
  have line : ¬ HoldsSlot (c.version.documentHeading.toList ++ ['\n']) := by
    rw [holdsSlot_append_cons (by decide)]
    simp [c.version.not_holdsSlot_documentHeading]
  rw [toList_lead, holdsSlot_append_cons (by decide), holdsSlot_front]
  simp [line]

/-- The document is put into the slot whatever stands before it, and that is filled by itself. -/
theorem fillPrompt_eq_lead (c : Config) (document : String) :
    fillPrompt c.prompt document = fillPrompt c.lead document ++ document ++
      c.version.documentEnd := by
  have inLead : (fillPrompt c.lead document).toList =
      (fillPrompt c.front document).toList ++
        '\n' :: (c.version.documentHeading.toList ++ ['\n']) := by
    rw [fillPrompt, fillPrompt, substitute, substitute, String.toList_ofList,
      String.toList_ofList, toList_lead,
      substituteFrom_line _ c.version.not_holdsSlot_documentHeading]
    rfl
  apply String.toList_inj.1
  rw [fillPrompt_prompt, String.toList_append, String.toList_append, String.toList_append, inLead,
    Version.toList_documentSection]
  simp

/-- A prompt is its lead, the slot, and what ends it.  Whatever the document says, it is put into
the slot, and besides only where the lead holds the token; which it does exactly when a text of the
config does, so no seam between texts, and no escape, makes a token. -/
theorem fill_reaches_slot (c : Config) :
    c.prompt = c.lead ++ Wording.slot ++ c.version.documentEnd ∧
      (HoldsSlot c.lead.toList ↔ AnyHoldsSlot c.texts) ∧
      ∀ document,
        fillPrompt c.prompt document =
          fillPrompt c.lead document ++ document ++ c.version.documentEnd ∧
        (¬ AnyHoldsSlot c.texts →
          fillPrompt c.prompt document = c.lead ++ document ++ c.version.documentEnd) := by
  refine ⟨c.prompt_eq_lead, c.holdsSlot_lead, ?_⟩
  intro document
  have filled := c.fillPrompt_eq_lead document
  refine ⟨filled, ?_⟩
  intro absent
  rw [filled, fillPrompt_of_not_holdsSlot document (by rwa [holdsSlot_lead])]

theorem fill_reaches_slot_broken :
    ¬ AnyHoldsSlot brokenSlot.texts ∧
      fillPrompt brokenSlot.prompt "See \x7b\x7bresume_content\x7d\x7d." =
        brokenSlot.lead ++ "See \x7b\x7bresume_content\x7d\x7d." ++ "" := by
  have absent : ¬ AnyHoldsSlot brokenSlot.texts := by decide +kernel
  obtain ⟨-, -, filled⟩ := fill_reaches_slot brokenSlot
  exact ⟨absent, (filled "See \x7b\x7bresume_content\x7d\x7d.").2 absent⟩

end Config

end ExtractionPrompt
