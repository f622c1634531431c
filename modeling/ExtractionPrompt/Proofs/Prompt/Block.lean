import ExtractionPrompt.Proofs.Prompt.RuleLine

/-!
The block of lines of a field.  When no text that stands bare in it breaks, every line of it is one
line and none is empty; and it holds the slot's token exactly when one of the field's texts does.
-/

namespace ExtractionPrompt

open Json

theorem totalBreaks_eq_zero_iff {texts : List String} :
    totalBreaks texts = 0 ↔ ∀ s ∈ texts, '\n' ∉ s.toList := by
  induction texts with
  | nil => simp
  | cons s rest ih =>
    rw [totalBreaks_cons, Nat.add_eq_zero_iff, ih, breaks, List.count_eq_zero, List.forall_mem_cons]

/-- A line of a block: it is there, and it is one line. -/
def IsLine (line : String) : Prop := line ≠ "" ∧ breaks line = 0

theorem isLine_append {lead text : String} (shown : lead ≠ "") (plain : breaks lead = 0)
    (oneLine : breaks text = 0) :
    IsLine (lead ++ text) := by
  constructor
  · intro empty
    exact shown (String.append_eq_empty_iff.1 empty).1
  · rw [breaks_append, plain, oneLine]

theorem isLine_textLine {lead : String} (shown : lead ≠ "") (plain : breaks lead = 0)
    {text : Option String} (oneLine : totalBreaks text.toList = 0) :
    ∀ line ∈ textLine lead text, IsLine line := by
  cases text with
  | none => simp [textLine]
  | some text =>
    simp only [Option.toList_some, totalBreaks_cons, totalBreaks_nil, Nat.add_zero] at oneLine
    rw [textLine]
    split
    · simp
    · simpa using isLine_append shown plain oneLine

theorem isLine_ruleLines {α : Type} (title : String) {line : α → String} {texts : α → List String}
    (plain : breaks title = 0) (each : ∀ rule, breaks (line rule) = totalBreaks (texts rule))
    {rules : Option (List α)} (oneLine : totalBreaks (textsOf (List.flatMap texts) rules) = 0) :
    ∀ l ∈ ruleLines title line rules, IsLine l := by
  cases rules with
  | none => simp [ruleLines]
  | some rules =>
    rw [textsOf, totalBreaks_eq_zero_iff] at oneLine
    rw [ruleLines, List.forall_mem_cons]
    constructor
    · have title : breaks (title ++ " rules:") = 0 := by
        rw [breaks_append, plain]
        decide
      rw [String.append_assoc]
      exact isLine_append (by decide) (by decide) title
    · intro l member
      obtain ⟨rule, inside, rfl⟩ := List.mem_map.1 member
      have one : breaks (line rule) = 0 := by
        rw [each, totalBreaks_eq_zero_iff]
        intro s text
        exact oneLine s (List.mem_flatMap.2 ⟨rule, inside, text⟩)
      exact isLine_append (by decide) (by decide) one

theorem isLine_outputLine {α : Type} {title : String} {text : α → String}
    (plain : breaks title = 0) {o : Option α} (oneLine : ∀ a ∈ o, breaks (text a) = 0) :
    ∀ l ∈ outputLine title text o, IsLine l := by
  cases o with
  | none => simp [outputLine]
  | some a =>
    have behind : breaks (title ++ (": " ++ text a)) = 0 := by
      have colon : breaks ": " = 0 := by decide
      rw [breaks_append, breaks_append, plain, colon, oneLine a rfl]
    intro l member
    rw [outputLine, List.mem_singleton] at member
    subst member
    rw [String.append_assoc, String.append_assoc]
    exact isLine_append (by decide) (by decide) behind

theorem OutputSchema.isLine_of_mem_block {o : OutputSchema}
    (oneLine : totalBreaks o.bareTexts = 0) :
    ∀ l ∈ o.block, IsLine l := by
  rw [bareTexts, totalBreaks_append, Nat.add_eq_zero_iff] at oneLine
  obtain ⟨examples, mapping⟩ := oneLine
  have type : breaks o.dataType.name = 0 := by
    cases o.dataType <;> decide
  have first : ∀ l ∈ ["  – Output schema:", "    • Type: " ++ o.dataType.name], IsLine l := by
    rw [List.forall_mem_cons, List.forall_mem_singleton]
    exact ⟨⟨by decide, by decide⟩, isLine_append (by decide) (by decide) type⟩
  have format : ∀ f ∈ o.format, breaks f.name = 0 := by
    intro f _
    cases f <;> decide
  have cardinality : ∀ c ∈ o.cardinality, breaks c.name = 0 := by
    intro c _
    cases c <;> decide
  have shown : ∀ texts ∈ o.examples, breaks (commaList texts) = 0 := by
    intro texts given
    rw [given] at examples
    rw [breaks_commaList]
    exact examples
  have mapped : ∀ m ∈ o.mapping, breaks m.line = 0 := by
    intro m given
    rw [given] at mapping
    rw [m.breaks_line]
    exact mapping
  simp only [block, List.forall_mem_append]
  exact ⟨⟨⟨⟨first, isLine_outputLine (by decide) format⟩,
    isLine_outputLine (by decide) cardinality⟩, isLine_outputLine (by decide) shown⟩,
    isLine_outputLine (by decide) mapped⟩

theorem SimpleField.isLine_of_mem_block {f : SimpleField} (oneLine : totalBreaks f.bareTexts = 0) :
    ∀ l ∈ f.block, IsLine l := by
  simp only [bareTexts, totalBreaks_cons, Nat.add_eq_zero_iff] at oneLine
  obtain ⟨heading, prompt, sample⟩ := oneLine
  have title : breaks (f.heading ++ ":") = 0 := by
    rw [breaks_append, heading]
    decide
  have shown : breaks (f.sample.getD "null") = 0 := by
    cases given : f.sample with
    | none => decide
    | some sample => simpa [given] using ‹totalBreaks f.sample.toList = 0›
  simp only [block, List.forall_mem_cons, List.not_mem_nil, false_implies, implies_true, and_true]
  refine ⟨?_, isLine_append (by decide) (by decide) prompt,
    isLine_append (by decide) (by decide) shown⟩
  rw [String.append_assoc]
  exact isLine_append (by decide) (by decide) title

theorem DetailedField.isLine_of_mem_block {f : DetailedField}
    (oneLine : totalBreaks f.bareTexts = 0) :
    ∀ l ∈ f.block, IsLine l := by
  simp only [bareTexts, totalBreaks_cons, totalBreaks_append, Nat.add_eq_zero_iff] at oneLine
  obtain ⟨heading, key, ⟨⟨⟨⟨description, note⟩, detection⟩, validation⟩, sanitization⟩, default,
    output⟩ := oneLine
  have title : breaks (f.heading ++ ("** (`" ++ (f.key ++ "`)"))) = 0 := by
    simp (disch := decide) only [breaks_append, heading, key, breaks_eq_zero]
  have required : breaks (if f.required then "true" else "false") = 0 := by
    split <;> decide
  have rules := isLine_ruleLines "Detection" (by decide) DetectionRule.breaks_line detection
  have checks := isLine_ruleLines "Validation" (by decide) ValidationRule.breaks_line validation
  have repairs :=
    isLine_ruleLines "Sanitization" (by decide) SanitizationRule.breaks_line sanitization
  have last : ∀ l ∈ outputBlock f.output, IsLine l := by
    cases given : f.output with
    | none => simp [outputBlock]
    | some o =>
      rw [given] at output
      exact OutputSchema.isLine_of_mem_block output
  simp only [block, List.forall_mem_cons, List.forall_mem_append, List.not_mem_nil,
    false_implies, implies_true, and_true]
  refine ⟨⟨⟨⟨⟨⟨⟨?_, isLine_textLine (by decide) (by decide) description⟩,
    isLine_textLine (by decide) (by decide) note⟩, rules⟩, checks⟩, repairs⟩,
    isLine_append (by decide) (by decide) required, isLine_append (by decide) (by decide) default⟩,
    last⟩
  rw [String.append_assoc, String.append_assoc, String.append_assoc]
  exact isLine_append (by decide) (by decide) title

theorem holdsSlot_lines (texts : List String) :
    HoldsSlot (lines texts).toList ↔ AnyHoldsSlot texts :=
  holdsSlot_join rfl (by decide) (by decide) texts

theorem anyHoldsSlot_textLine (lead : String) (fresh : '{' ∉ lead.toList) (text : Option String) :
    AnyHoldsSlot (textLine lead text) ↔ AnyHoldsSlot text.toList := by
  cases text with
  | none => simp [textLine]
  | some text =>
    by_cases empty : text = ""
    · simp [textLine, empty]
    · simp only [textLine, empty, if_false, Option.toList_some, anyHoldsSlot_cons,
        holdsSlot_passed fresh]

theorem anyHoldsSlot_map {α : Type} (line : α → String) (parts : List α) :
    AnyHoldsSlot (parts.map line) ↔ ∃ a ∈ parts, HoldsSlot (line a).toList := by
  simp [AnyHoldsSlot]

theorem anyHoldsSlot_ruleLines {α : Type} (title : String) {line : α → String}
    {bare quoted : α → List String} (fresh : '{' ∉ title.toList)
    (each : ∀ rule,
      HoldsSlot (line rule).toList ↔ AnyHoldsSlot (bare rule) ∨ AnyHoldsSlot (quoted rule))
    (rules : Option (List α)) :
    AnyHoldsSlot (ruleLines title line rules) ↔
      AnyHoldsSlot (textsOf (List.flatMap bare) rules) ∨
      AnyHoldsSlot (textsOf (List.flatMap quoted) rules) := by
  cases rules with
  | none => simp [ruleLines, textsOf]
  | some rules =>
    have heading : ¬ HoldsSlot ("  – " ++ title ++ " rules:").toList := by
      rw [String.append_assoc]
      simp (disch := decide) only [holdsSlot_passed, holdsSlot_passed fresh, not_holdsSlot_fixed,
        not_false_eq_true]
    have leads (rule : α) : HoldsSlot ("    – " ++ line rule).toList ↔
        HoldsSlot (line rule).toList :=
      holdsSlot_passed (by decide) _
    simp only [ruleLines, textsOf, anyHoldsSlot_cons, heading, false_or,
      anyHoldsSlot_map, leads, each, anyHoldsSlot_flatMap, and_or_left, exists_or]

theorem anyHoldsSlot_outputLine {α : Type} {title : String} (fresh : '{' ∉ title.toList)
    (text : α → String)
    (o : Option α) :
    AnyHoldsSlot (outputLine title text o) ↔ ∃ a ∈ o, HoldsSlot (text a).toList := by
  cases o with
  | none => simp [outputLine]
  | some a =>
    simp only [outputLine, String.append_assoc, anyHoldsSlot_cons, not_anyHoldsSlot_nil, or_false,
      Option.mem_some_iff, exists_eq_left']
    simp (disch := decide) only [holdsSlot_passed, holdsSlot_passed fresh]

theorem anyHoldsSlot_textsOf {α : Type} (texts : α → List String) (o : Option α) :
    AnyHoldsSlot (textsOf texts o) ↔ ∃ a ∈ o, AnyHoldsSlot (texts a) := by
  cases o <;> simp [textsOf]

theorem OutputSchema.anyHoldsSlot_block (o : OutputSchema) :
    AnyHoldsSlot o.block ↔ AnyHoldsSlot o.bareTexts ∨ AnyHoldsSlot o.quotedTexts := by
  have type : ¬ HoldsSlot o.dataType.name.toList := by
    apply not_holdsSlot_fixed
    cases o.dataType <;> decide
  have format (f : OutputFormat) : ¬ HoldsSlot f.name.toList := by
    apply not_holdsSlot_fixed
    cases f <;> decide
  have cardinality (c : Cardinality) : ¬ HoldsSlot c.name.toList := by
    apply not_holdsSlot_fixed
    cases c <;> decide
  simp (disch := decide) only [block, bareTexts, quotedTexts, anyHoldsSlot_append,
    anyHoldsSlot_cons, not_anyHoldsSlot_nil, not_holdsSlot_fixed, holdsSlot_passed, type,
    anyHoldsSlot_outputLine, format, cardinality, holdsSlot_commaList, ValueMapping.holdsSlot_line,
    anyHoldsSlot_textsOf, id_eq, and_false, exists_false, false_or, or_false, and_or_left,
    exists_or, or_assoc]

theorem SimpleField.anyHoldsSlot_block (f : SimpleField) :
    AnyHoldsSlot f.block ↔ AnyHoldsSlot f.bareTexts := by
  have sample : HoldsSlot (f.sample.getD "null").toList ↔ AnyHoldsSlot f.sample.toList := by
    cases f.sample with
    | none => simpa using not_holdsSlot_fixed (a := "null") (by decide)
    | some sample => simp
  simp only [block, bareTexts, anyHoldsSlot_cons, String.append_assoc]
  simp (disch := decide) only [holdsSlot_passed, holdsSlot_closed_last, not_holdsSlot_fixed, sample,
    not_anyHoldsSlot_nil, or_false]

theorem DetailedField.anyHoldsSlot_block (f : DetailedField) :
    AnyHoldsSlot f.block ↔ AnyHoldsSlot f.bareTexts ∨ AnyHoldsSlot f.quotedTexts := by
  have header : HoldsSlot ("• **" ++ (f.heading ++ ("** (`" ++ (f.key ++ "`)")))).toList ↔
      HoldsSlot f.heading.toList ∨ HoldsSlot f.key.toList := by
    simp (disch := decide) only [holdsSlot_passed, holdsSlot_closed, holdsSlot_closed_last,
      not_holdsSlot_fixed, or_false]
  have description := anyHoldsSlot_textLine "  – Description: " (by decide) f.description
  have note := anyHoldsSlot_textLine "  – Note: " (by decide) f.note
  have unquoted (rule : DetectionRule) :
      HoldsSlot rule.line.toList ↔ AnyHoldsSlot rule.bareTexts ∨ AnyHoldsSlot [] := by
    simpa using rule.holdsSlot_line
  have detection := anyHoldsSlot_ruleLines "Detection" (by decide) unquoted f.detection
  have validation :=
    anyHoldsSlot_ruleLines "Validation" (by decide) ValidationRule.holdsSlot_line f.validation
  have sanitization :=
    anyHoldsSlot_ruleLines "Sanitization" (by decide) SanitizationRule.holdsSlot_line
      f.sanitization
  have nothing :
      ¬ AnyHoldsSlot (textsOf (List.flatMap fun _ : DetectionRule => []) f.detection) := by
    simp [anyHoldsSlot_textsOf, anyHoldsSlot_flatMap]
  have required : ¬ HoldsSlot ("  – Required: " ++
      (if f.required then "true" else "false")).toList := by
    rw [holdsSlot_passed (by decide)]
    apply not_holdsSlot_fixed
    split <;> decide
  have default : HoldsSlot ("  – Default: " ++ f.defaultValue).toList ↔
      HoldsSlot f.defaultValue.toList :=
    holdsSlot_passed (by decide) _
  have output : AnyHoldsSlot (outputBlock f.output) ↔
      AnyHoldsSlot (textsOf OutputSchema.bareTexts f.output) ∨
        AnyHoldsSlot (textsOf OutputSchema.quotedTexts f.output) := by
    cases f.output with
    | none => simp [outputBlock, textsOf]
    | some o => exact o.anyHoldsSlot_block
  simp only [block, bareTexts, quotedTexts, String.append_assoc, anyHoldsSlot_append,
    anyHoldsSlot_cons, not_anyHoldsSlot_nil, header, description, note, detection, nothing,
    validation, sanitization, required, default, output, false_or, or_false]
  -- The same texts on both sides, in another order.
  simp only [or_assoc, or_left_comm, or_comm]

end ExtractionPrompt
