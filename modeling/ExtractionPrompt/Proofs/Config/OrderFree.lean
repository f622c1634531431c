import ExtractionPrompt.Config.Decode
import ExtractionPrompt.Proofs.Decode.OrderFree

/-!
Configs read from values that differ only in the order of properties.  That order reaches a config
in two places alone: the components of a format, and the properties inside the free values of a rule
or of a mapping.  So both values are refused, for the same cause, or both are read, as configs that
differ in these places at most.  A free value can make the one exception: in it an object may stand
for a text in one order of its properties and for itself in the other.
-/

namespace ExtractionPrompt

open Decoder Record

structure AllowedValues.Alike (a b : AllowedValues) : Prop where
  values : List.Forall₂ Json.Reordered a.values b.values
  caseSensitive : a.caseSensitive = b.caseSensitive

inductive ValidationRule.Alike : ValidationRule → ValidationRule → Prop where
  | pattern (rule : PatternCheck) : Alike (.pattern rule) (.pattern rule)
  | length (rule : LengthCheck) : Alike (.length rule) (.length rule)
  | allowed {a b : AllowedValues} (same : a.Alike b) : Alike (.allowed a) (.allowed b)
  | custom (instruction : String) : Alike (.custom instruction) (.custom instruction)

structure Formatting.Alike (a b : Formatting) : Prop where
  template : a.template = b.template
  components : a.components.Perm b.components

inductive SanitizationRule.Alike : SanitizationRule → SanitizationRule → Prop where
  | replace (rule : Replacement) : Alike (.replace rule) (.replace rule)
  | trim (rule : Trimming) : Alike (.trim rule) (.trim rule)
  | format {a b : Formatting} (same : a.Alike b) : Alike (.format a) (.format b)
  | custom (instruction : String) : Alike (.custom instruction) (.custom instruction)

structure ValueMapping.Alike (a b : ValueMapping) : Prop where
  source : List.Forall₂ Json.Reordered a.source b.source
  target : a.target.Reordered b.target

structure OutputSchema.Alike (a b : OutputSchema) : Prop where
  dataType : a.dataType = b.dataType
  format : a.format = b.format
  cardinality : a.cardinality = b.cardinality
  examples : a.examples = b.examples
  mapping : Option.Rel ValueMapping.Alike a.mapping b.mapping

structure DetailedField.Alike (a b : DetailedField) : Prop where
  key : a.key = b.key
  label : a.label = b.label
  description : a.description = b.description
  note : a.note = b.note
  required : a.required = b.required
  defaultValue : a.defaultValue = b.defaultValue
  detection : a.detection = b.detection
  validation : Option.Rel (List.Forall₂ ValidationRule.Alike) a.validation b.validation
  sanitization : Option.Rel (List.Forall₂ SanitizationRule.Alike) a.sanitization b.sanitization
  output : Option.Rel OutputSchema.Alike a.output b.output

structure ConfigBody.Alike {Field : Type} (R : Field → Field → Prop) (a b : ConfigBody Field) :
    Prop where
  name : a.name = b.name
  description : a.description = b.description
  fields : List.Forall₂ R a.fields b.fields

/-- The same config up to the order of format components and of the properties inside free
values. -/
inductive Config.Alike : Config → Config → Prop where
  | simple (body : ConfigBody SimpleField) : Alike (.simple body) (.simple body)
  | detailed {a b : ConfigBody DetailedField} (same : a.Alike DetailedField.Alike b) :
    Alike (.detailed a) (.detailed b)

theorem orderFree_ruleBlock {α : Type} {R : List α → List α → Prop} {rule : Decoder α}
    (inner : (list rule).OrderFree R) : (ruleBlock rule).OrderFree R :=
  (orderFree_required "rules" inner).decode "RuleSchema"

theorem orderFree_instruction : instruction.OrderFree (· = ·) :=
  (orderFree_required "prompt" orderFree_text).decode "CustomRule"

theorem PatternDetection.orderFree : decoder.OrderFree (· = ·) := by
  have pattern := orderFree_required "pattern" orderFree_text
  have flags := orderFree_optional_eq "flags" orderFree_text
  have target := orderFree_optional_eq "target" (orderFree_vocabulary MatchTarget.names)
  have group := orderFree_optional_eq "group" orderFree_integer
  exact ((((pattern.map_eq mk).seq_eq flags).seq_eq target).seq_eq group).decode _

theorem KeywordDetection.orderFree : decoder.OrderFree (· = ·) := by
  have keywords := orderFree_required "keywords" orderFree_text.list_eq
  have window := orderFree_optional_eq "context_window" orderFree_integer
  have strategy := orderFree_optional_eq "strategy" (orderFree_vocabulary KeywordStrategy.names)
  exact (((keywords.map_eq mk).seq_eq window).seq_eq strategy).decode _

theorem HeadingDetection.orderFree : decoder.OrderFree (· = ·) := by
  have headings := orderFree_required "section_headers" orderFree_text.list_eq
  have strategy :=
    orderFree_optional_eq "extraction_strategy" (orderFree_vocabulary HeadingStrategy.names)
  exact ((headings.map_eq mk).seq_eq strategy).decode _

theorem DetectionRule.orderFree : decoder.OrderFree (· = ·) := by
  refine orderFree_choice fun p member => ?_
  simp only [List.mem_cons, List.not_mem_nil, or_false] at member
  rcases member with rfl | rfl | rfl | rfl
  · exact PatternDetection.orderFree.map_eq pattern
  · exact KeywordDetection.orderFree.map_eq keyword
  · exact HeadingDetection.orderFree.map_eq heading
  · exact orderFree_instruction.map_eq custom

theorem PatternCheck.orderFree : decoder.OrderFree (· = ·) := by
  have pattern := orderFree_required "pattern" orderFree_text
  have errorMessage := orderFree_optional_eq "error_message" orderFree_text
  exact ((pattern.map_eq mk).seq_eq errorMessage).decode _

theorem LengthCheck.orderFree : decoder.OrderFree (· = ·) := by
  have min := orderFree_optional_eq "min" orderFree_number
  have max := orderFree_optional_eq "max" orderFree_number
  have errorMessage := orderFree_optional_eq "error_message" orderFree_text
  exact (((min.map_eq mk).seq_eq max).seq_eq errorMessage).decode _

theorem AllowedValues.orderFree : decoder.OrderFree Alike := by
  have values := orderFree_required "values" orderFree_free.list
  have caseSensitive := orderFree_optional_eq "case_sensitive" orderFree_boolean
  refine OrderFree.decode (.seq (values.map ?_) caseSensitive) _
  exact fun _ _ values _ _ caseSensitive => ⟨values, caseSensitive⟩

theorem ValidationRule.orderFree : decoder.OrderFree Alike := by
  refine orderFree_choice fun p member => ?_
  simp only [List.mem_cons, List.not_mem_nil, or_false] at member
  rcases member with rfl | rfl | rfl | rfl
  · exact PatternCheck.orderFree.map pattern fun rule _ eq => eq ▸ .pattern rule
  · exact LengthCheck.orderFree.map length fun rule _ eq => eq ▸ .length rule
  · exact AllowedValues.orderFree.map allowed fun _ _ => .allowed
  · exact orderFree_instruction.map custom fun instruction _ eq => eq ▸ .custom instruction

theorem Replacement.orderFree : decoder.OrderFree (· = ·) := by
  have pattern := orderFree_required "pattern" orderFree_text
  have replacement := orderFree_required "replacement" orderFree_text
  have flags := orderFree_optional_eq "flags" orderFree_text
  exact (((pattern.map_eq mk).seq_eq replacement).seq_eq flags).decode _

theorem Trimming.orderFree : decoder.OrderFree (· = ·) :=
  ((orderFree_optional_eq "characters" orderFree_text).map_eq mk).decode _

theorem Formatting.orderFree : decoder.OrderFree Alike := by
  have template := orderFree_required "template" orderFree_text
  have components := orderFree_required "components" orderFree_text.mapping
  refine OrderFree.decode (.seq (template.map ?_) components) _
  exact fun _ _ template _ _ components => ⟨template, components.perm⟩

theorem SanitizationRule.orderFree : decoder.OrderFree Alike := by
  refine orderFree_choice fun p member => ?_
  simp only [List.mem_cons, List.not_mem_nil, or_false] at member
  rcases member with rfl | rfl | rfl | rfl
  · exact Replacement.orderFree.map replace fun rule _ eq => eq ▸ .replace rule
  · exact Trimming.orderFree.map trim fun rule _ eq => eq ▸ .trim rule
  · exact Formatting.orderFree.map format fun _ _ => .format
  · exact orderFree_instruction.map custom fun instruction _ eq => eq ▸ .custom instruction

theorem ValueMapping.orderFree : decoder.OrderFree Alike := by
  have source := orderFree_required "source" orderFree_free.list
  have target := orderFree_defaulted "target" orderFree_free Json.Reordered.null
  refine OrderFree.decode (.seq (source.map ?_) target) _
  exact fun _ _ source _ _ target => ⟨source, target⟩

theorem orderFree_normalization : normalization.OrderFree ValueMapping.Alike := by
  refine orderFree_choice fun p member => ?_
  cases List.mem_singleton.1 member
  exact ValueMapping.orderFree

theorem OutputSchema.orderFree : decoder.OrderFree Alike := by
  have dataType := orderFree_required "data_type" (orderFree_vocabulary DataType.names)
  have format := orderFree_optional_eq "format" (orderFree_vocabulary OutputFormat.names)
  have cardinality := orderFree_optional_eq "cardinality" (orderFree_vocabulary Cardinality.names)
  have examples := orderFree_optional_eq "examples" orderFree_text.list_eq
  have mapping := orderFree_optional "normalization" orderFree_normalization
  refine OrderFree.decode
    (.seq (.seq (.seq (.seq (dataType.map ?_) format) cardinality) examples) mapping) _
  intros
  constructor <;> assumption

theorem SimpleField.orderFree : decoder.OrderFree (· = ·) := by
  have key := orderFree_defaulted "key" orderFree_text (rfl : "" = "")
  have label := orderFree_optional_eq "label" orderFree_text
  have prompt := orderFree_required "prompt" orderFree_text
  have sample := orderFree_optional_eq "example" orderFree_text
  exact ((((key.map_eq mk).seq_eq label).seq_eq prompt).seq_eq sample).decode _

theorem DetailedField.orderFree : decoder.OrderFree Alike := by
  have key := orderFree_defaulted "key" orderFree_text (rfl : "" = "")
  have label := orderFree_optional_eq "label" orderFree_text
  have description := orderFree_optional_eq "description" orderFree_text
  have note := orderFree_optional_eq "note" orderFree_text
  have required := orderFree_required "required" orderFree_boolean
  have defaultValue := orderFree_required "default_value" orderFree_text
  have detection :=
    orderFree_optional_eq "detection_schema" (orderFree_ruleBlock DetectionRule.orderFree.list_eq)
  have validation :=
    orderFree_optional "validation_schema" (orderFree_ruleBlock ValidationRule.orderFree.list)
  have sanitization :=
    orderFree_optional "sanitization_schema" (orderFree_ruleBlock SanitizationRule.orderFree.list)
  have output := orderFree_optional "output_schema" OutputSchema.orderFree
  refine OrderFree.decode
    (.seq (.seq (.seq (.seq (.seq (.seq (.seq (.seq (.seq (key.map ?_) label) description) note)
    required) defaultValue) detection) validation) sanitization) output) _
  intros
  constructor <;> assumption

theorem ConfigBody.orderFree {Field : Type} {R : Field → Field → Prop} {field : Decoder Field}
    (version : Version) (inner : field.OrderFree R) (name : String) :
    (decoder version field name).OrderFree (Alike R) := by
  have title := orderFree_defaulted "name" orderFree_text (rfl : version.title = version.title)
  have summary :=
    orderFree_defaulted "description" orderFree_text (rfl : version.summary = version.summary)
  have fields := orderFree_required "fields" inner.list
  refine OrderFree.decode (.seq (.seq (title.map ?_) summary) fields) _
  exact fun _ _ title _ _ summary _ _ fields => ⟨title, summary, fields⟩

theorem ConfigBody.eq_of_alike {Field : Type} {a b : ConfigBody Field} (same : a.Alike (· = ·) b) :
    a = b := by
  obtain ⟨name, description, fields⟩ := same
  rw [List.forall₂_eq_eq_eq] at fields
  cases a
  cases b
  simp_all

theorem Config.orderFree (version : Version) : (decoder version).OrderFree Alike := by
  cases version with
  | simple =>
    refine (ConfigBody.orderFree .simple SimpleField.orderFree "V0Config").map simple
      fun body _ same => ?_
    cases ConfigBody.eq_of_alike same
    exact .simple body
  | detailed =>
    exact (ConfigBody.orderFree .detailed DetailedField.orderFree "V1Config").map detailed
      fun _ _ => .detailed

/-- The same cause, whatever tag or fault it names. -/
inductive ConfigError.SameVariant : ConfigError → ConfigError → Prop where
  | missingVersion : SameVariant .missingVersion .missingVersion
  | unsupportedVersion (tag tag' : String) :
    SameVariant (.unsupportedVersion tag) (.unsupportedVersion tag')
  | malformed (fault fault' : Fault) : SameVariant (.malformed fault) (.malformed fault')

theorem ConfigError.SameVariant.refl (e : ConfigError) : e.SameVariant e := by
  cases e <;> constructor

theorem Version.agree_ofJson {M N : Prop} {v w : Json} (same : v.Rearranged M N w) :
    Agree ConfigError.SameVariant (· = ·) (ofJson v) (ofJson w) := by
  have tags : Option.Rel (Json.Rearranged M N) (v.property? "version") (w.property? "version") := by
    cases same.reordered with
    | object => exact same.lookup "version"
    | _ => exact .none
  simp only [ofJson]
  generalize v.property? "version" = tag?, w.property? "version" = tag'? at tags ⊢
  cases tags with
  | none => exact .error .missingVersion
  | some tag =>
    cases tag.reordered with
    | null => exact .error .missingVersion
    | string s => exact .refl ConfigError.SameVariant.refl _
    | _ => exact .error (.unsupportedVersion _ _)

namespace Config

theorem ofJson_of_version {v : Json} {version : Version} (tagged : Version.ofJson v = .ok version) :
    ofJson v = (decoder version .buffered v).mapError .malformed := by
  cases read : decoder version .buffered v <;>
    simp [ofJson, tagged, read, bind, Except.mapError]

/-- The first value alone is refused, for an object that stands for a text only in the order that
its properties have there. -/
structure RefusedAlone (v w : Json) : Prop where
  overfull : v.Overfull
  refused : ∃ fault, ofJson v = .error (.malformed fault) ∧ fault.OfEmbedding
  accepted : ∃ c, ofJson w = .ok c

/-- Two values that differ only in the order of properties are both refused, for the same cause, or
both read, as configs that differ only in the order of format components and of properties inside
free values; unless one of the two is refused alone. -/
theorem ofJson_reordered (v w : Json) (wellFormed : v.WellFormed) (reordered : v.Reordered w) :
    Agree ConfigError.SameVariant Alike (ofJson v) (ofJson w) ∨
      RefusedAlone v w ∨ RefusedAlone w v := by
  have same : v.Rearranged v.Overfull w.Overfull w := ⟨wellFormed, reordered, id, id⟩
  have versions := Version.agree_ofJson same
  generalize first : Version.ofJson v = x, second : Version.ofJson w = y at versions
  cases versions with
  | error cause =>
    simp only [ofJson, first, second]
    exact .inl (.error cause)
  | @ok version _ eq =>
    have outcome := orderFree version same
    have readFirst := ofJson_of_version first
    have readSecond := ofJson_of_version (eq ▸ second)
    generalize decoder version .buffered v = x, decoder version .buffered w = y
      at outcome readFirst readSecond
    cases outcome with
    | ok alike =>
      rw [readFirst, readSecond]
      exact .inl (.ok alike)
    | error =>
      rw [readFirst, readSecond]
      exact .inl (.error (.malformed _ _))
    | first overfull embedding =>
      exact .inr (.inl ⟨overfull, ⟨_, readFirst, embedding⟩, ⟨_, readSecond⟩⟩)
    | second overfull embedding =>
      exact .inr (.inr ⟨overfull, ⟨_, readSecond, embedding⟩, ⟨_, readFirst⟩⟩)

open Json in
/-- Every place where the order of properties reaches a config, each with two properties. -/
def everyOrder : Json :=
  object [("version", string "v1"), ("fields", array [object [
    ("label", string "A b"), ("required", bool true), ("default_value", string ""),
    ("validation_schema", object [("rules", array [object [("type", string "allowed_values"),
      ("rule", object [("values", array [object [("p", null), ("q", bool true)]])])]])]),
    ("sanitization_schema", object [("rules", array [object [("type", string "format"),
      ("rule", object [("template", string "x"),
        ("components", object [("a", string "1"), ("b", string "2")])])]])]),
    ("output_schema", object [("data_type", string "string"),
      ("normalization", object [("type", string "mapping"),
        ("rule", object [("source", array [null]),
          ("target", object [("p", null), ("q", null)])])])])]])]

/-- Read backwards, every rule comes before its type, and the version is the last property. -/
theorem ofJson_reordered_everyOrder :
    ∃ c d, ofJson everyOrder = .ok c ∧ ofJson everyOrder.reversed = .ok d ∧ c.Alike d := by
  have wellFormed : everyOrder.WellFormed := by
    simp [everyOrder, Json.wellFormed_object_iff, Json.wellFormed_array_iff, Json.WellFormed.string,
      Json.WellFormed.null, Json.WellFormed.bool]
  have accepted : ∃ c, ofJson everyOrder = .ok c := ⟨_, rfl⟩
  have acceptedBackwards : ∃ d, ofJson everyOrder.reversed = .ok d := ⟨_, rfl⟩
  obtain ⟨c, read⟩ := accepted
  obtain ⟨d, readBackwards⟩ := acceptedBackwards
  have outcome := ofJson_reordered everyOrder everyOrder.reversed wellFormed
    everyOrder.reordered_reversed
  rcases outcome with same | alone | alone
  · rw [read, readBackwards] at same
    cases same with
    | ok alike => exact ⟨c, d, read, readBackwards, alike⟩
  · obtain ⟨_, refused, -⟩ := alone.refused
    rw [read] at refused
    cases refused
  · obtain ⟨_, refused, -⟩ := alone.refused
    rw [readBackwards] at refused
    cases refused

open Json in
/-- A free value with the name of an embedded text behind another property. -/
def embeddedNameLast : Json :=
  object [("version", string "v1"), ("fields", array [object [("key", string "a"),
    ("required", bool false), ("default_value", string ""),
    ("validation_schema", object [("rules", array [object [("type", string "allowed_values"),
      ("rule", object [("values", array [object [("a", bool true),
        (embeddedName, null)]])])]])])]])]

/-- Read backwards, that object stands for a text and holds none. -/
theorem ofJson_reordered_embeddedName :
    embeddedNameLast.WellFormed ∧ embeddedNameLast.Reordered embeddedNameLast.reversed ∧
      ¬ Agree ConfigError.SameVariant Alike (ofJson embeddedNameLast)
        (ofJson embeddedNameLast.reversed) := by
  refine ⟨?_, embeddedNameLast.reordered_reversed, ?_⟩
  · simp [embeddedNameLast, Json.wellFormed_object_iff, Json.wellFormed_array_iff,
      Json.WellFormed.string, Json.WellFormed.null, Json.WellFormed.bool, Json.embeddedName]
  · have accepted : ∃ c, ofJson embeddedNameLast = .ok c := ⟨_, rfl⟩
    have refused : ∃ e, ofJson embeddedNameLast.reversed = .error e := ⟨_, rfl⟩
    obtain ⟨c, read⟩ := accepted
    obtain ⟨e, fault⟩ := refused
    rw [read, fault]
    intro same
    cases same

end Config

end ExtractionPrompt
