import ExtractionPrompt.Prompt.Compile

/-!
A prompt part by part: a fixed preface, the instructions for the fields behind their mark, a fixed
bridge, the output template between its marks, and the part for the document.
-/

namespace ExtractionPrompt

namespace Version

/-- The first thing in a prompt before the instructions for the fields. -/
def fieldsMark : Version → String
  | simple => "EXTRACT THESE FIELDS:\n"
  | detailed => "Fields to extract:\n"

/-- What stands before the mark. -/
def preface : Version → String
  | simple =>
    paragraphs ["Role: " ++ Wording.simpleRole, "Context: " ++ Wording.simpleContext,
      "Action: " ++ Wording.simpleAction, "INSTRUCTIONS:", ""]
  | detailed =>
    paragraphs ["Role:\n" ++ Wording.detailedRole, "Context:\n" ++ Wording.detailedContext,
      "Action:\n" ++ Wording.detailedAction, "Instructions:\n" ++ Wording.detailedInstructions, ""]

/-- The last thing in a prompt before its template. -/
def templateMark : Version → String
  | simple => "STRICT OUTPUT FORMAT:\n"
  | detailed => "Strict output format:\n```json\n"

/-- The first thing in a prompt behind its template. -/
def templateEnd : Version → String
  | simple => "\n\n"
  | detailed => "\n```"

/-- What stands behind the closing mark. -/
def documentPart : Version → String
  | simple => "RESUME TEXT:\n" ++ Wording.slot ++ "\n"
  | detailed => "\n\n" ++ "Resume text:\n" ++ Wording.slot

/-- What stands between the instructions and the template. -/
def bridge : Version → String
  | simple =>
    "\n\n" ++ ("RULES:\n" ++ (lines Wording.simpleRules ++ ("\n\n" ++ simple.templateMark)))
  | detailed => "\n\n" ++ detailed.templateMark

theorem bridge_ends (v : Version) : ∃ front, v.bridge = front ++ v.templateMark := by
  cases v with
  | simple =>
    refine ⟨"\n\n" ++ ("RULES:\n" ++ (lines Wording.simpleRules ++ "\n\n")), ?_⟩
    simp only [bridge, String.append_assoc]
  | detailed => exact ⟨"\n\n", rfl⟩

end Version

namespace Config

/-- The lines of the instructions, field by field. -/
def blocks : Config → List (List String)
  | simple body => body.fields.map SimpleField.block
  | detailed body => body.fields.map DetailedField.block

/-- The instructions as they stand in a prompt. -/
def instructions (c : Config) : String := paragraphs (c.blocks.map lines)

/-- The parts of a prompt in their order. -/
theorem prompt_eq_parts (c : Config) :
    c.prompt = c.version.preface ++ (c.version.fieldsMark ++ (c.instructions ++ (c.version.bridge ++
      (c.template.pretty ++ (c.version.templateEnd ++ c.version.documentPart))))) := by
  cases c with
  | simple body =>
    have shown : (body.fields.map fun f => lines f.block) = (simple body).blocks.map lines := by
      simp [blocks, Function.comp_def]
    simp only [prompt, ConfigBody.simplePrompt, ConfigBody.simpleLead, paragraphs,
      String.intercalate_cons_cons, String.intercalate_singleton, String.append_assoc, template,
      version, Version.preface, Version.fieldsMark, Version.bridge, Version.templateMark,
      Version.templateEnd, Version.documentPart, instructions, shown, String.empty_append]
  | detailed body =>
    have shown : (body.fields.map fun f => lines f.block) = (detailed body).blocks.map lines := by
      simp [blocks, Function.comp_def]
    simp only [prompt, ConfigBody.detailedPrompt, ConfigBody.detailedLead, paragraphs,
      String.intercalate_cons_cons, String.intercalate_singleton, String.append_assoc, template,
      version, Version.preface, Version.fieldsMark, Version.bridge, Version.templateMark,
      Version.templateEnd, Version.documentPart, instructions, shown, String.empty_append]

/-- A prompt ends with its template between its marks and the part for the document. -/
theorem prompt_eq (c : Config) :
    ∃ front, c.prompt = front ++ (c.version.templateMark ++ (c.template.pretty ++
      (c.version.templateEnd ++ c.version.documentPart))) := by
  obtain ⟨front, bridge⟩ := c.version.bridge_ends
  refine ⟨c.version.preface ++ (c.version.fieldsMark ++ (c.instructions ++ front)), ?_⟩
  rw [prompt_eq_parts, bridge]
  simp only [String.append_assoc]

end Config

end ExtractionPrompt
