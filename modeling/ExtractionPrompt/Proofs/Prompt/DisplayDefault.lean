import ExtractionPrompt.Proofs.Prompt.Parts

/-!
Display defaults.  A prompt shows an option that was left out by its default, in the same words as
if the default had been given; so a config can have all of them written out and keeps its prompt.
-/

namespace ExtractionPrompt

/-! Every option that has a display default is given it where it is left out; the others stay as
they are. -/

def PatternDetection.withDefaults (r : PatternDetection) : PatternDetection :=
  { r with
    flags := some (r.flags.getD "")
    target := some (r.target.getD .all)
    group := some (r.group.getD 0) }

def KeywordDetection.withDefaults (r : KeywordDetection) : KeywordDetection :=
  { r with
    contextWindow := some (r.contextWindow.getD 0)
    strategy := some (r.strategy.getD .proximity) }

def HeadingDetection.withDefaults (r : HeadingDetection) : HeadingDetection :=
  { r with strategy := some (r.strategy.getD .firstOccurrence) }

def DetectionRule.withDefaults : DetectionRule → DetectionRule
  | pattern r => pattern r.withDefaults
  | keyword r => keyword r.withDefaults
  | heading r => heading r.withDefaults
  | custom text => custom text

def PatternCheck.withDefaults (r : PatternCheck) : PatternCheck :=
  { r with errorMessage := some (r.errorMessage.getD "") }

/-- An absent bound is none, and has no default. -/
def LengthCheck.withDefaults (r : LengthCheck) : LengthCheck :=
  { r with errorMessage := some (r.errorMessage.getD "") }

def AllowedValues.withDefaults (r : AllowedValues) : AllowedValues :=
  { r with caseSensitive := some (r.caseSensitive.getD false) }

def ValidationRule.withDefaults : ValidationRule → ValidationRule
  | pattern r => pattern r.withDefaults
  | length r => length r.withDefaults
  | allowed r => allowed r.withDefaults
  | custom text => custom text

def Replacement.withDefaults (r : Replacement) : Replacement :=
  { r with flags := some (r.flags.getD "") }

def Trimming.withDefaults (r : Trimming) : Trimming :=
  { r with characters := some (r.characters.getD blankMarker) }

def SanitizationRule.withDefaults : SanitizationRule → SanitizationRule
  | replace r => replace r.withDefaults
  | trim r => trim r.withDefaults
  | format r => format r
  | custom text => custom text

def SimpleField.withDefaults (f : SimpleField) : SimpleField :=
  { f with
    label := some (f.label.getD f.key)
    sample := some (f.sample.getD "null") }

def DetailedField.withDefaults (f : DetailedField) : DetailedField :=
  { f with
    label := some (f.label.getD f.key)
    description := some (f.description.getD "")
    note := some (f.note.getD "")
    detection := f.detection.map (List.map DetectionRule.withDefaults)
    validation := f.validation.map (List.map ValidationRule.withDefaults)
    sanitization := f.sanitization.map (List.map SanitizationRule.withDefaults) }

def Config.withDefaults : Config → Config
  | simple body => simple { body with fields := body.fields.map SimpleField.withDefaults }
  | detailed body => detailed { body with fields := body.fields.map DetailedField.withDefaults }

/-! Neither a part that is shown only when it says something, nor one that is always shown, tells
the difference. -/

theorem flagsSuffix_getD (flags : Option String) :
    flagsSuffix (some (flags.getD "")) = flagsSuffix flags := by
  cases flags <;> rfl

theorem elseSuffix_getD (message : Option String) :
    elseSuffix (some (message.getD "")) = elseSuffix message := by
  cases message <;> rfl

theorem textLine_getD (lead : String) (text : Option String) :
    textLine lead (some (text.getD "")) = textLine lead text := by
  cases text <;> rfl

theorem PatternDetection.line_withDefaults (r : PatternDetection) :
    r.withDefaults.line = r.line := by
  unfold line withDefaults
  rw [flagsSuffix_getD]
  rfl

theorem KeywordDetection.line_withDefaults (r : KeywordDetection) :
    r.withDefaults.line = r.line := rfl

theorem HeadingDetection.line_withDefaults (r : HeadingDetection) :
    r.withDefaults.line = r.line := rfl

theorem DetectionRule.line_withDefaults (rule : DetectionRule) :
    rule.withDefaults.line = rule.line := by
  cases rule with
  | pattern r => exact r.line_withDefaults
  | keyword r => exact r.line_withDefaults
  | heading r => exact r.line_withDefaults
  | custom text => rfl

theorem PatternCheck.line_withDefaults (r : PatternCheck) : r.withDefaults.line = r.line := by
  unfold line withDefaults
  rw [elseSuffix_getD]

theorem LengthCheck.line_withDefaults (r : LengthCheck) : r.withDefaults.line = r.line := by
  unfold line withDefaults
  rw [elseSuffix_getD]

theorem AllowedValues.line_withDefaults (r : AllowedValues) : r.withDefaults.line = r.line := by
  have sensitive : some (r.caseSensitive.getD false) = some true ↔ r.caseSensitive = some true := by
    cases r.caseSensitive <;> simp
  unfold line withDefaults
  simp only [sensitive]

theorem ValidationRule.line_withDefaults (rule : ValidationRule) :
    rule.withDefaults.line = rule.line := by
  cases rule with
  | pattern r => exact r.line_withDefaults
  | length r => exact r.line_withDefaults
  | allowed r => exact r.line_withDefaults
  | custom text => rfl

theorem Replacement.line_withDefaults (r : Replacement) : r.withDefaults.line = r.line := by
  unfold line withDefaults
  rw [flagsSuffix_getD]

theorem Trimming.line_withDefaults (r : Trimming) : r.withDefaults.line = r.line := rfl

theorem SanitizationRule.line_withDefaults (rule : SanitizationRule) :
    rule.withDefaults.line = rule.line := by
  cases rule with
  | replace r => exact r.line_withDefaults
  | trim r => exact r.line_withDefaults
  | format r => rfl
  | custom text => rfl

theorem ruleLines_map {α : Type} {line : α → String} {change : α → α}
    (same : ∀ a, line (change a) = line a) (title : String) (rules : Option (List α)) :
    ruleLines title line (rules.map (List.map change)) = ruleLines title line rules := by
  cases rules with
  | none => rfl
  | some rules => simp [ruleLines, same]

theorem SimpleField.block_withDefaults (f : SimpleField) : f.withDefaults.block = f.block := rfl

theorem DetailedField.block_withDefaults (f : DetailedField) : f.withDefaults.block = f.block := by
  have detection := ruleLines_map DetectionRule.line_withDefaults "Detection" f.detection
  have validation := ruleLines_map ValidationRule.line_withDefaults "Validation" f.validation
  have sanitization :=
    ruleLines_map SanitizationRule.line_withDefaults "Sanitization" f.sanitization
  unfold block withDefaults
  rw [textLine_getD, textLine_getD, detection, validation, sanitization]
  rfl

namespace Config

/-- A prompt shows no more of a config than its version, the lines of its fields and its
template. -/
theorem prompt_eq_of_shown {c d : Config} (version : c.version = d.version)
    (blocks : c.blocks = d.blocks) (template : c.template = d.template) : c.prompt = d.prompt := by
  rw [prompt_eq_parts, prompt_eq_parts, instructions, instructions, version, blocks, template]

theorem blocks_withDefaults (c : Config) : c.withDefaults.blocks = c.blocks := by
  cases c with
  | simple body => simp [withDefaults, blocks, Function.comp_def, SimpleField.block_withDefaults]
  | detailed body =>
    simp [withDefaults, blocks, Function.comp_def, DetailedField.block_withDefaults]

/-- No default touches a key or the default of a field. -/
theorem template_withDefaults (c : Config) : c.withDefaults.template = c.template := by
  cases c with
  | simple body => exact congrArg templateOf List.map_map
  | detailed body => exact congrArg templateOf List.map_map

/-- A config has the same prompt with all its display defaults written out. -/
theorem prompt_withDefaults (c : Config) : c.withDefaults.prompt = c.prompt := by
  have version : c.withDefaults.version = c.version := by
    cases c <;> rfl
  exact prompt_eq_of_shown version c.blocks_withDefaults c.template_withDefaults

end Config

end ExtractionPrompt
