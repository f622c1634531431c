import ExtractionPrompt.Proofs.Prompt.Slot
import ExtractionPrompt.Proofs.Prompt.Texts

/-!
What the line of a rule takes over from its texts.  It is woven from those that stand bare, so its
line breaks are theirs; and it holds the slot's token exactly when one of its texts does, for a text
in a line is closed by fixed punctuation on either side.
-/

namespace ExtractionPrompt

open Json Text

/-- The number of line breaks. -/
def breaks (s : String) : Nat := s.toList.count '\n'

def totalBreaks : List String → Nat
  | [] => 0
  | s :: rest => breaks s + totalBreaks rest

theorem breaks_eq_zero {s : String} (oneLine : '\n' ∉ s.toList) : breaks s = 0 :=
  List.count_eq_zero.2 oneLine

theorem breaks_append (s t : String) : breaks (s ++ t) = breaks s + breaks t := by
  simp [breaks]

@[simp] theorem totalBreaks_nil : totalBreaks [] = 0 := rfl

@[simp] theorem totalBreaks_cons (s : String) (rest : List String) :
    totalBreaks (s :: rest) = breaks s + totalBreaks rest := rfl

@[simp] theorem totalBreaks_append (first second : List String) :
    totalBreaks (first ++ second) = totalBreaks first + totalBreaks second := by
  induction first with
  | nil => rw [List.nil_append, totalBreaks_nil, Nat.zero_add]
  | cons s rest ih => rw [List.cons_append, totalBreaks_cons, totalBreaks_cons, ih, Nat.add_assoc]

/-- A line woven from texts: they stand in it in their order, and nothing before, between or behind
them breaks. -/
inductive Woven : List String → String → Prop where
  | start : Woven [] ""
  | plain {texts : List String} {line piece : String} (before : Woven texts line)
      (oneLine : breaks piece = 0) :
      Woven texts (line ++ piece)
  | text {texts : List String} {line : String} (before : Woven texts line) (s : String) :
      Woven (texts ++ [s]) (line ++ s)

namespace Woven

theorem of_plain {piece : String} (oneLine : breaks piece = 0) : Woven [] piece := by
  have woven := start.plain oneLine
  rwa [String.empty_append] at woven

theorem of_text (s : String) : Woven [s] s := by
  have woven := start.text s
  rwa [List.nil_append, String.empty_append] at woven

theorem append {first second : List String} {line next : String} (before : Woven first line)
    (behind : Woven second next) : Woven (first ++ second) (line ++ next) := by
  induction behind with
  | start => rwa [List.append_nil, String.append_empty]
  | plain _ oneLine ih =>
    rw [← String.append_assoc]
    exact ih.plain oneLine
  | text _ s ih =>
    rw [← List.append_assoc, ← String.append_assoc]
    exact ih.text s

/-- The breaks of a woven line are those of its texts, each counted as often as it stands there. -/
theorem breaks_eq {texts : List String} {line : String} (woven : Woven texts line) :
    breaks line = totalBreaks texts := by
  induction woven with
  | start => rfl
  | plain _ oneLine ih => rw [breaks_append, oneLine, Nat.add_zero, ih]
  | text _ s ih =>
    rw [breaks_append, ih, totalBreaks_append, totalBreaks_cons, totalBreaks_nil, Nat.add_zero]

theorem commaList_map {α : Type} {text : α → String} {texts : α → List String}
    (each : ∀ a, Woven (texts a) (text a)) (parts : List α) :
    Woven (parts.flatMap texts) (commaList (parts.map text)) := by
  induction parts with
  | nil => exact start
  | cons a rest ih =>
    cases rest with
    | nil => simpa [commaList] using each a
    | cons next rest =>
      have comma : breaks ", " = 0 := by decide
      rw [List.flatMap_cons, List.map_cons, List.map_cons, commaList, String.intercalate_cons_cons]
      exact ((each a).plain comma).append ih

end Woven

theorem woven_commaList (texts : List String) : Woven texts (commaList texts) := by
  simpa using Woven.commaList_map Woven.of_text texts

theorem breaks_commaList (texts : List String) : breaks (commaList texts) = totalBreaks texts :=
  (woven_commaList texts).breaks_eq

theorem breaks_integerText (n : Int) : breaks (integerText n) = 0 := by
  apply breaks_eq_zero
  rw [integerText, String.toList_ofList]
  exact newline_notMem_number _

theorem breaks_proseNumber (x : Number.Binary64) : breaks (proseNumber x) = 0 := by
  apply breaks_eq_zero
  rw [proseNumber, String.toList_ofList]
  intro member
  exact absurd (Number.isNumeralChar_of_mem_text member) (by decide)

theorem breaks_compress (v : Json) : breaks v.compress = 0 := by
  apply breaks_eq_zero
  rw [compress, String.toList_ofList]
  exact newline_notMem_compact v

/-- Only a string brings its own text; null shows nothing, and all else is JSON text. -/
theorem woven_bare (v : Json) : Woven v.asString?.toList v.bare := by
  cases v with
  | string s => exact .of_text s
  | null => exact .start
  | bool | number | array | object => exact .of_plain (breaks_compress _)

theorem woven_bareList (values : List Json) :
    Woven (values.filterMap asString?) (commaList (values.map bare)) := by
  rw [List.filterMap_eq_flatMap_toList]
  exact Woven.commaList_map woven_bare values

theorem woven_flagsSuffix (flags : Option String) : Woven flags.toList (flagsSuffix flags) := by
  cases flags with
  | none => exact .start
  | some flags =>
    by_cases empty : flags = ""
    · simpa [flagsSuffix, empty] using Woven.of_text ""
    · rw [flagsSuffix, if_neg empty]
      exact ((Woven.of_plain (by decide)).text flags).plain (by decide)

theorem woven_elseSuffix (message : Option String) : Woven message.toList (elseSuffix message) := by
  cases message with
  | none => exact .start
  | some message =>
    by_cases empty : message = ""
    · simpa [elseSuffix, empty] using Woven.of_text ""
    · rw [elseSuffix, if_neg empty]
      exact ((Woven.of_plain (by decide)).text message).plain (by decide)

theorem breaks_bound {relation : String} (oneLine : breaks relation = 0)
    (x : Option Number.Binary64) :
    breaks (bound relation x) = 0 := by
  cases x with
  | none => rfl
  | some x => rw [bound, breaks_append, oneLine, breaks_proseNumber]

/-! Each line is followed piece by piece, as it is defined; the wording of a piece is free as long
as it is one line. -/

theorem PatternDetection.woven_line (r : PatternDetection) : Woven r.bareTexts r.line := by
  have target : breaks (r.target.getD .all).name = 0 := by
    cases r.target.getD .all <;> decide
  have plural : breaks (if r.target.getD .all = .all then "es" else "") = 0 := by
    split <;> decide
  have group := breaks_integerText (r.group.getD 0)
  exact Woven.of_plain (by decide)
    |>.text r.pattern
    |>.plain (by decide)
    |>.append (woven_flagsSuffix r.flags)
    |>.plain (by decide)
    |>.plain target
    |>.plain (by decide)
    |>.plain plural
    |>.plain (by decide)
    |>.plain group
    |>.plain (by decide)

theorem KeywordDetection.woven_line (r : KeywordDetection) : Woven r.keywords r.line := by
  have strategy : breaks (r.strategy.getD .proximity).name = 0 := by
    cases r.strategy.getD .proximity <;> decide
  have window := breaks_integerText (r.contextWindow.getD 0)
  exact Woven.of_plain (by decide)
    |>.append (woven_commaList r.keywords)
    |>.plain (by decide)
    |>.plain strategy
    |>.plain (by decide)
    |>.plain window
    |>.plain (by decide)

theorem HeadingDetection.woven_line (r : HeadingDetection) : Woven r.headings r.line := by
  have strategy : breaks (r.strategy.getD .firstOccurrence).phrase = 0 := by
    cases r.strategy.getD .firstOccurrence <;> decide
  exact Woven.of_plain (by decide)
    |>.append (woven_commaList r.headings)
    |>.plain (by decide)
    |>.plain strategy
    |>.plain (by decide)

theorem DetectionRule.woven_line (rule : DetectionRule) : Woven rule.bareTexts rule.line := by
  cases rule with
  | pattern r => exact r.woven_line
  | keyword r => exact r.woven_line
  | heading r => exact r.woven_line
  | custom text => exact .of_text text

theorem PatternCheck.woven_line (r : PatternCheck) : Woven r.bareTexts r.line :=
  Woven.of_plain (by decide)
    |>.text r.pattern
    |>.plain (by decide)
    |>.append (woven_elseSuffix r.errorMessage)
    |>.plain (by decide)

theorem LengthCheck.woven_line (r : LengthCheck) : Woven r.errorMessage.toList r.line := by
  have min : breaks (bound " ≥ " r.min) = 0 := breaks_bound (by decide) r.min
  have max : breaks (bound " and ≤ " r.max) = 0 := breaks_bound (by decide) r.max
  exact Woven.of_plain (by decide)
    |>.plain min
    |>.plain max
    |>.append (woven_elseSuffix r.errorMessage)
    |>.plain (by decide)

theorem AllowedValues.woven_line (r : AllowedValues) : Woven r.bareTexts r.line := by
  have sensitivity :
      breaks (if r.caseSensitive = some true then " (case-sensitive)" else "") = 0 := by
    split <;> decide
  exact Woven.of_plain (by decide)
    |>.append (woven_bareList r.values)
    |>.plain (by decide)
    |>.plain sensitivity
    |>.plain (by decide)

theorem ValidationRule.woven_line (rule : ValidationRule) : Woven rule.bareTexts rule.line := by
  cases rule with
  | pattern r => exact r.woven_line
  | length r => exact r.woven_line
  | allowed r => exact r.woven_line
  | custom text => exact .of_text text

theorem Replacement.woven_line (r : Replacement) : Woven r.bareTexts r.line :=
  Woven.of_plain (by decide)
    |>.text r.pattern
    |>.plain (by decide)
    |>.text r.replacement
    |>.plain (by decide)
    |>.append (woven_flagsSuffix r.flags)
    |>.plain (by decide)

theorem Trimming.woven_line (r : Trimming) : Woven r.characters.toList r.line := by
  have characters : Woven r.characters.toList (r.characters.getD blankMarker) := by
    cases r.characters with
    | none => exact .of_plain (by decide)
    | some characters => exact .of_text characters
  exact Woven.of_plain (by decide)
    |>.append characters
    |>.plain (by decide)

/-- The components are quoted, so only the template brings breaks. -/
theorem Formatting.woven_line (r : Formatting) : Woven [r.template] r.line :=
  Woven.of_plain (by decide)
    |>.text r.template
    |>.plain (by decide)
    |>.plain (breaks_compress r.componentsJson)
    |>.plain (by decide)

theorem SanitizationRule.woven_line (rule : SanitizationRule) : Woven rule.bareTexts rule.line := by
  cases rule with
  | replace r => exact r.woven_line
  | trim r => exact r.woven_line
  | format r => exact r.woven_line
  | custom text => exact .of_text text

/-- The target is quoted even when it is a string. -/
theorem ValueMapping.woven_line (r : ValueMapping) : Woven r.bareTexts r.line :=
  Woven.of_plain (by decide)
    |>.append (woven_bareList r.source)
    |>.plain (by decide)
    |>.plain (breaks_compress r.target)

theorem DetectionRule.breaks_line (rule : DetectionRule) :
    breaks rule.line = totalBreaks rule.bareTexts :=
  rule.woven_line.breaks_eq

theorem ValidationRule.breaks_line (rule : ValidationRule) :
    breaks rule.line = totalBreaks rule.bareTexts :=
  rule.woven_line.breaks_eq

theorem SanitizationRule.breaks_line (rule : SanitizationRule) :
    breaks rule.line = totalBreaks rule.bareTexts :=
  rule.woven_line.breaks_eq

theorem ValueMapping.breaks_line (r : ValueMapping) : breaks r.line = totalBreaks r.bareTexts :=
  r.woven_line.breaks_eq

/-- The breaks of a rule's line come only from the texts that stand bare in it.  The line is woven
from them, so it has as many breaks as they have together.  JSON text has none however deep its
value is, so components and a target add none; nor does an element that is no string, while one that
is a string stands bare and brings its own. -/
theorem lines_woven_of_bareTexts :
    (∀ r : DetectionRule, Woven r.bareTexts r.line ∧ breaks r.line = totalBreaks r.bareTexts) ∧
      (∀ r : ValidationRule, Woven r.bareTexts r.line ∧ breaks r.line = totalBreaks r.bareTexts) ∧
      (∀ r : SanitizationRule, Woven r.bareTexts r.line ∧ breaks r.line = totalBreaks r.bareTexts) ∧
      (∀ r : ValueMapping, Woven r.bareTexts r.line ∧ breaks r.line = totalBreaks r.bareTexts) ∧
      ∀ v : Json, breaks v.compress = 0 ∧ breaks v.bare = totalBreaks v.asString?.toList := by
  refine ⟨?detection, ?validation, ?sanitization, ?mapping, ?value⟩
  case detection => exact fun r => ⟨r.woven_line, r.breaks_line⟩
  case validation => exact fun r => ⟨r.woven_line, r.breaks_line⟩
  case sanitization => exact fun r => ⟨r.woven_line, r.breaks_line⟩
  case mapping => exact fun r => ⟨r.woven_line, r.breaks_line⟩
  case value => exact fun v => ⟨breaks_compress v, (woven_bare v).breaks_eq⟩

/-- The text comes twice and brings a break each time; the breaks inside the object do not show. -/
example : breaks (ValidationRule.allowed
    ⟨[.string "a\nb", .array [.object [("\n", .string "\n\n")]], .null, .string "a\nb"],
      none⟩).line = 2 := by
  decide

/-- What closes a text: it starts with a character that the token does not have. -/
def closes (s : String) : Bool := s.toList.head?.any fun c => c ∉ Wording.slot.toList

theorem holdsSlot_closed {a : String} (closed : closes a = true) (s t : String) :
    HoldsSlot (s ++ (a ++ t)).toList ↔ HoldsSlot s.toList ∨ HoldsSlot (a ++ t).toList := by
  unfold closes at closed
  cases spelled : a.toList with
  | nil => simp [spelled] at closed
  | cons c rest =>
    have fresh : c ∉ Wording.slot.toList := by simpa [spelled] using closed
    have alone := holdsSlot_append_cons fresh [] (rest ++ t.toList)
    simp only [List.nil_append, not_holdsSlot_nil, false_or] at alone
    rw [String.toList_append, String.toList_append, spelled, List.cons_append,
      holdsSlot_append_cons fresh, alone]

theorem holdsSlot_closed_last {a : String} (closed : closes a = true) (s : String) :
    HoldsSlot (s ++ a).toList ↔ HoldsSlot s.toList ∨ HoldsSlot a.toList := by
  have whole := holdsSlot_closed closed s ""
  rwa [String.append_empty] at whole

/-- A text without an opening bracket is passed by. -/
theorem holdsSlot_passed {a : String} (fresh : '{' ∉ a.toList) (t : String) :
    HoldsSlot (a ++ t).toList ↔ HoldsSlot t.toList := by
  rw [String.toList_append, holdsSlot_append fresh]

theorem brace_notMem_integerText (n : Int) : '{' ∉ (integerText n).toList := by
  rw [integerText, String.toList_ofList]
  exact brace_notMem_number _

theorem brace_notMem_proseNumber (x : Number.Binary64) : '{' ∉ (proseNumber x).toList := by
  rw [proseNumber, String.toList_ofList]
  intro member
  exact absurd (Number.isNumeralChar_of_mem_text member) (by decide)

theorem holdsSlot_commaList (texts : List String) :
    HoldsSlot (commaList texts).toList ↔ AnyHoldsSlot texts :=
  holdsSlot_join rfl (by decide) (by decide) texts

theorem holdsSlot_bareList (values : List Json) :
    HoldsSlot (commaList (values.map bare)).toList ↔
      AnyHoldsSlot (values.filterMap asString?) ∨
      AnyHoldsSlot (values.flatMap Json.quotedTexts) := by
  rw [holdsSlot_commaList]
  induction values with
  | nil => simp
  | cons v rest ih =>
    rw [List.map_cons, anyHoldsSlot_cons, ih, List.filterMap_cons, List.flatMap_cons,
      anyHoldsSlot_append]
    cases v with
    | string s => simp [bare, asString?, Json.quotedTexts, or_assoc]
    | null => simp [bare, asString?, Json.quotedTexts, texts]
    | bool | number | array | object =>
      simp only [bare, asString?, Json.quotedTexts, holdsSlot_compress]
      tauto

theorem not_holdsSlot_fixed {a : String} (fresh : '{' ∉ a.toList) : ¬ HoldsSlot a.toList :=
  not_holdsSlot_of_notMem fresh

theorem holdsSlot_flagsSuffix (flags : Option String) :
    HoldsSlot (flagsSuffix flags).toList ↔ AnyHoldsSlot flags.toList := by
  cases flags with
  | none => simp [flagsSuffix]
  | some flags =>
    by_cases empty : flags = ""
    · simp [flagsSuffix, empty]
    · simp only [flagsSuffix, empty, if_false, String.append_assoc, Option.toList_some,
        anyHoldsSlot_cons]
      simp (disch := decide) only [holdsSlot_passed, holdsSlot_closed_last, not_holdsSlot_fixed,
        not_anyHoldsSlot_nil]

theorem holdsSlot_elseSuffix (message : Option String) :
    HoldsSlot (elseSuffix message).toList ↔ AnyHoldsSlot message.toList := by
  cases message with
  | none => simp [elseSuffix]
  | some message =>
    by_cases empty : message = ""
    · simp [elseSuffix, empty]
    · simp only [elseSuffix, empty, if_false, String.append_assoc, Option.toList_some,
        anyHoldsSlot_cons]
      simp (disch := decide) only [holdsSlot_passed, holdsSlot_closed_last, not_holdsSlot_fixed,
        not_anyHoldsSlot_nil]

theorem PatternDetection.holdsSlot_line (r : PatternDetection) :
    HoldsSlot r.line.toList ↔ AnyHoldsSlot r.bareTexts := by
  have target : '{' ∉ (r.target.getD .all).name.toList := by
    cases r.target.getD .all <;> decide
  have plural : '{' ∉ (if r.target.getD .all = .all then "es" else "").toList := by
    split <;> decide
  have group := brace_notMem_integerText (r.group.getD 0)
  unfold line
  dsimp only
  simp only [String.append_assoc, bareTexts, anyHoldsSlot_cons]
  simp (disch := decide) only [holdsSlot_passed, holdsSlot_closed, holdsSlot_flagsSuffix,
    holdsSlot_passed target, holdsSlot_passed plural, holdsSlot_passed group,
    not_holdsSlot_fixed, or_false]

theorem KeywordDetection.holdsSlot_line (r : KeywordDetection) :
    HoldsSlot r.line.toList ↔ AnyHoldsSlot r.keywords := by
  have strategy : '{' ∉ (r.strategy.getD .proximity).name.toList := by
    cases r.strategy.getD .proximity <;> decide
  have window := brace_notMem_integerText (r.contextWindow.getD 0)
  unfold line
  simp only [String.append_assoc]
  simp (disch := decide) only [holdsSlot_passed, holdsSlot_closed, holdsSlot_commaList,
    holdsSlot_passed strategy, holdsSlot_passed window, not_holdsSlot_fixed, or_false]

theorem HeadingDetection.holdsSlot_line (r : HeadingDetection) :
    HoldsSlot r.line.toList ↔ AnyHoldsSlot r.headings := by
  have strategy : '{' ∉ (r.strategy.getD .firstOccurrence).phrase.toList := by
    cases r.strategy.getD .firstOccurrence <;> decide
  unfold line
  simp only [String.append_assoc]
  simp (disch := decide) only [holdsSlot_passed, holdsSlot_closed, holdsSlot_commaList,
    holdsSlot_passed strategy, not_holdsSlot_fixed, or_false]

theorem DetectionRule.holdsSlot_line (rule : DetectionRule) :
    HoldsSlot rule.line.toList ↔ AnyHoldsSlot rule.bareTexts := by
  cases rule with
  | pattern r => exact r.holdsSlot_line
  | keyword r => exact r.holdsSlot_line
  | heading r => exact r.holdsSlot_line
  | custom text => simp [line, bareTexts]

theorem PatternCheck.holdsSlot_line (r : PatternCheck) :
    HoldsSlot r.line.toList ↔ AnyHoldsSlot r.bareTexts := by
  unfold line
  simp only [String.append_assoc, bareTexts, anyHoldsSlot_cons]
  simp (disch := decide) only [holdsSlot_passed, holdsSlot_closed, holdsSlot_closed_last,
    holdsSlot_elseSuffix, not_holdsSlot_fixed, or_false]

theorem LengthCheck.holdsSlot_line (r : LengthCheck) :
    HoldsSlot r.line.toList ↔ AnyHoldsSlot r.errorMessage.toList := by
  have bounds {relation : String} (fresh : '{' ∉ relation.toList) (x : Option Number.Binary64) :
      '{' ∉ (bound relation x).toList := by
    cases x with
    | none => simp [bound]
    | some x => simp [bound, fresh, brace_notMem_proseNumber]
  have min : '{' ∉ (bound " ≥ " r.min).toList := bounds (by decide) r.min
  have max : '{' ∉ (bound " and ≤ " r.max).toList := bounds (by decide) r.max
  unfold line
  simp only [String.append_assoc]
  simp (disch := decide) only [holdsSlot_passed, holdsSlot_passed min, holdsSlot_passed max,
    holdsSlot_closed_last, holdsSlot_elseSuffix, not_holdsSlot_fixed, or_false]

theorem AllowedValues.holdsSlot_line (r : AllowedValues) :
    HoldsSlot r.line.toList ↔ AnyHoldsSlot r.bareTexts ∨ AnyHoldsSlot r.quotedTexts := by
  have sensitivity :
      '{' ∉ (if r.caseSensitive = some true then " (case-sensitive)" else "").toList := by
    split <;> decide
  unfold line
  simp only [String.append_assoc, bareTexts, quotedTexts]
  simp (disch := decide) only [holdsSlot_passed, holdsSlot_closed, holdsSlot_bareList,
    holdsSlot_passed sensitivity, not_holdsSlot_fixed, or_false]

theorem ValidationRule.holdsSlot_line (rule : ValidationRule) :
    HoldsSlot rule.line.toList ↔ AnyHoldsSlot rule.bareTexts ∨ AnyHoldsSlot rule.quotedTexts := by
  cases rule with
  | pattern r => simp [line, bareTexts, quotedTexts, r.holdsSlot_line]
  | length r => simp [line, bareTexts, quotedTexts, r.holdsSlot_line]
  | allowed r => exact r.holdsSlot_line
  | custom text => simp [line, bareTexts, quotedTexts]

theorem Replacement.holdsSlot_line (r : Replacement) :
    HoldsSlot r.line.toList ↔ AnyHoldsSlot r.bareTexts := by
  unfold line
  simp only [String.append_assoc, bareTexts, anyHoldsSlot_cons]
  simp (disch := decide) only [holdsSlot_passed, holdsSlot_closed, holdsSlot_closed_last,
    holdsSlot_flagsSuffix, not_holdsSlot_fixed, or_false]

theorem Trimming.holdsSlot_line (r : Trimming) :
    HoldsSlot r.line.toList ↔ AnyHoldsSlot r.characters.toList := by
  have characters : HoldsSlot (r.characters.getD blankMarker).toList ↔
      AnyHoldsSlot r.characters.toList := by
    cases r.characters with
    | none => simpa using not_holdsSlot_fixed (a := blankMarker) (by decide)
    | some characters => simp
  unfold line
  simp only [String.append_assoc]
  simp (disch := decide) only [holdsSlot_passed, holdsSlot_closed_last, characters,
    not_holdsSlot_fixed, or_false]

theorem Formatting.holdsSlot_line (r : Formatting) :
    HoldsSlot r.line.toList ↔
      HoldsSlot r.template.toList ∨ AnyHoldsSlot r.componentsJson.texts := by
  unfold line
  simp only [String.append_assoc]
  simp (disch := decide) only [holdsSlot_passed, holdsSlot_closed, holdsSlot_closed_last,
    holdsSlot_compress, not_holdsSlot_fixed, or_false]

theorem SanitizationRule.holdsSlot_line (rule : SanitizationRule) :
    HoldsSlot rule.line.toList ↔ AnyHoldsSlot rule.bareTexts ∨ AnyHoldsSlot rule.quotedTexts := by
  cases rule with
  | replace r => simp [line, bareTexts, quotedTexts, r.holdsSlot_line]
  | trim r => simp [line, bareTexts, quotedTexts, r.holdsSlot_line]
  | format r => simp [line, bareTexts, quotedTexts, r.holdsSlot_line]
  | custom text => simp [line, bareTexts, quotedTexts]

theorem ValueMapping.holdsSlot_line (r : ValueMapping) :
    HoldsSlot r.line.toList ↔ AnyHoldsSlot r.bareTexts ∨ AnyHoldsSlot r.quotedTexts := by
  unfold line
  simp only [String.append_assoc, bareTexts, quotedTexts, anyHoldsSlot_append]
  simp (disch := decide) only [holdsSlot_passed, holdsSlot_closed, holdsSlot_bareList,
    holdsSlot_compress, or_assoc]

end ExtractionPrompt
