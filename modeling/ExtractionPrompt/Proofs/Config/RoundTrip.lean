import ExtractionPrompt.Proofs.Config.Fits

/-!
Reading back a written config.  A config is read back as it was exactly when its integers fit a word
and its free values are given as they are; so every config that was read, with its missing keys
derived or not, is.  No other value is lost or reordered on the way.
-/

namespace ExtractionPrompt

open Decoder Json

theorem ruleBlock_toJson {α : Type} {d : Decoder α} {encode : α → Json}
    {rules : List α} {r : Reading} (each : ∀ rule ∈ rules, d r (encode rule) = .ok rule) :
    ExtractionPrompt.ruleBlock d r (Json.ruleBlock encode rules) = .ok rules := by
  have read : list d r (.array (rules.map encode)) = .ok rules := list_eq_ok each
  simp [ExtractionPrompt.ruleBlock, Json.ruleBlock, Record.decode_object_eq_ok_iff, read]

theorem instruction_toJson (text : String) (r : Reading) :
    ExtractionPrompt.instruction r (Json.instruction text) = .ok text := by
  simp [ExtractionPrompt.instruction, Json.instruction, Record.decode_object_eq_ok_iff]

theorem PatternDetection.decoder_toJson (d : PatternDetection) (fits : d.Fits) (r : Reading) :
    decoder r d.toJson = .ok d := by
  have group : integer.optionally r (d.group.map Json.integer) = .ok d.group :=
    optionally_map (fun n given => integer_eq_ok (fits n given) r) fun _ _ => rfl
  simp [decoder, toJson, Record.decode_object_eq_ok_iff, lookup_given, lookup_given_append,
    lookup_cons_eq_ite, optionally_map, vocabulary_eq_ok, MatchTarget.lookup_name, group]

theorem KeywordDetection.decoder_toJson (d : KeywordDetection) (fits : d.Fits) (r : Reading) :
    decoder r d.toJson = .ok d := by
  have window : integer.optionally r (d.contextWindow.map Json.integer) = .ok d.contextWindow :=
    optionally_map (fun n given => integer_eq_ok (fits n given) r) fun _ _ => rfl
  simp [decoder, toJson, Record.decode_object_eq_ok_iff, lookup_given, lookup_given_append,
    lookup_cons_eq_ite, optionally_map, vocabulary_eq_ok, KeywordStrategy.lookup_name, window]

theorem HeadingDetection.decoder_toJson (d : HeadingDetection) (r : Reading) :
    decoder r d.toJson = .ok d := by
  simp [decoder, toJson, Record.decode_object_eq_ok_iff, lookup_given, lookup_cons_eq_ite,
    optionally_map, vocabulary_eq_ok, HeadingStrategy.lookup_name]

theorem DetectionRule.decoder_toJson (rule : DetectionRule) (fits : rule.Fits) (r : Reading) :
    decoder r rule.toJson = .ok rule := by
  cases rule with
  | pattern d => exact choice_eq_ok rfl (map_eq_ok pattern (d.decoder_toJson fits)) r
  | keyword d => exact choice_eq_ok rfl (map_eq_ok keyword (d.decoder_toJson fits)) r
  | heading d => exact choice_eq_ok rfl (map_eq_ok heading d.decoder_toJson) r
  | custom text => exact choice_eq_ok rfl (map_eq_ok custom (instruction_toJson text)) r

theorem PatternCheck.decoder_toJson (c : PatternCheck) (r : Reading) :
    decoder r c.toJson = .ok c := by
  simp [decoder, toJson, Record.decode_object_eq_ok_iff, lookup_given, lookup_cons_eq_ite,
    optionally_map]

theorem LengthCheck.decoder_toJson (c : LengthCheck) (r : Reading) :
    decoder r c.toJson = .ok c := by
  have bound (x : Option Number.Binary64) : number.optionally r (x.map Json.binary) = .ok x :=
    optionally_map (fun b _ => number_binary r b) fun _ _ => rfl
  simp [decoder, toJson, Record.decode_object_eq_ok_iff, lookup_given, lookup_given_append,
    optionally_map, bound]

theorem AllowedValues.decoder_toJson (a : AllowedValues) (fits : a.Fits) (r : Reading) :
    decoder r a.toJson = .ok a := by
  simp [decoder, toJson, Record.decode_object_eq_ok_iff, lookup_given, lookup_cons_eq_ite,
    optionally_map, list_free fits]

theorem ValidationRule.decoder_toJson (rule : ValidationRule) (fits : rule.Fits) (r : Reading) :
    decoder r rule.toJson = .ok rule := by
  cases rule with
  | pattern c => exact choice_eq_ok rfl (map_eq_ok pattern c.decoder_toJson) r
  | length c => exact choice_eq_ok rfl (map_eq_ok length c.decoder_toJson) r
  | allowed a => exact choice_eq_ok rfl (map_eq_ok allowed (a.decoder_toJson fits)) r
  | custom text => exact choice_eq_ok rfl (map_eq_ok custom (instruction_toJson text)) r

theorem Replacement.decoder_toJson (s : Replacement) (r : Reading) :
    decoder r s.toJson = .ok s := by
  simp [decoder, toJson, Record.decode_object_eq_ok_iff, lookup_given, lookup_cons_eq_ite,
    optionally_map]

theorem Trimming.decoder_toJson (s : Trimming) (r : Reading) : decoder r s.toJson = .ok s := by
  simp [decoder, toJson, Record.decode_object_eq_ok_iff, lookup_given, optionally_map]

theorem Formatting.decoder_toJson (s : Formatting) (r : Reading) : decoder r s.toJson = .ok s := by
  have components : mapping text r s.componentsJson = .ok s.components :=
    mapping_texts r s.components
  simp [decoder, toJson, Record.decode_object_eq_ok_iff, lookup_cons_eq_ite, components]

theorem SanitizationRule.decoder_toJson (rule : SanitizationRule) (r : Reading) :
    decoder r rule.toJson = .ok rule := by
  cases rule with
  | replace s => exact choice_eq_ok rfl (map_eq_ok replace s.decoder_toJson) r
  | trim s => exact choice_eq_ok rfl (map_eq_ok trim s.decoder_toJson) r
  | format s => exact choice_eq_ok rfl (map_eq_ok format s.decoder_toJson) r
  | custom text => exact choice_eq_ok rfl (map_eq_ok custom (instruction_toJson text)) r

theorem ValueMapping.decoder_toJson (m : ValueMapping) (fits : m.Fits) (r : Reading) :
    decoder r m.toJson = .ok m := by
  simp [decoder, toJson, Record.decode_object_eq_ok_iff, lookup_cons_eq_ite, list_free fits.source,
    free_of_isLiteral r m.target fits.target]

theorem OutputSchema.decoder_toJson (o : OutputSchema) (fits : o.Fits) (r : Reading) :
    decoder r o.toJson = .ok o := by
  have examples : (list text).optionally r (o.examples.map Json.strings) = .ok o.examples :=
    optionally_map (fun texts _ => list_text r texts) fun _ _ => rfl
  have mapped : normalization.optionally r (o.mapping.map fun m => tagged "mapping" m.toJson) =
      .ok o.mapping :=
    optionally_map (fun m present => choice_eq_ok rfl (m.decoder_toJson (fits m present)) r)
      fun _ _ => rfl
  simp [decoder, toJson, Record.decode_object_eq_ok_iff, lookup_given, lookup_given_append,
    lookup_cons_eq_ite, optionally_map, vocabulary_eq_ok, DataType.lookup_name,
    OutputFormat.lookup_name, Cardinality.lookup_name, examples, mapped]

theorem SimpleField.decoder_toJson (f : SimpleField) (r : Reading) :
    decoder r f.toJson = .ok f := by
  simp [decoder, toJson, Record.decode_object_eq_ok_iff, lookup_given, lookup_given_append,
    lookup_cons_eq_ite, optionally_map]

theorem DetailedField.decoder_toJson (f : DetailedField) (fits : f.Fits) (r : Reading) :
    decoder r f.toJson = .ok f := by
  have detection := optionally_map (o := f.detection) (r := r)
    (fun rules present => ruleBlock_toJson fun rule member =>
      rule.decoder_toJson (fits.detection rules present rule member) r) fun _ _ => rfl
  have validation := optionally_map (o := f.validation) (r := r)
    (fun rules present => ruleBlock_toJson fun rule member =>
      rule.decoder_toJson (fits.validation rules present rule member) r) fun _ _ => rfl
  have sanitization := optionally_map (o := f.sanitization) (r := r)
    (fun _ _ => ruleBlock_toJson fun rule _ => rule.decoder_toJson r) fun _ _ => rfl
  have output := optionally_map (o := f.output) (r := r)
    (fun o present => o.decoder_toJson (fits.output o present) r) fun _ _ => rfl
  simp [decoder, toJson, Record.decode_object_eq_ok_iff, lookup_given, lookup_given_append,
    lookup_cons_eq_ite, optionally_map, detection, validation, sanitization, output]

theorem ConfigBody.decoder_toJson {Field : Type} {field : Decoder Field} {encode : Field → Json}
    (version : Version) (name : String) (body : ConfigBody Field)
    {r : Reading} (each : ∀ f ∈ body.fields, field r (encode f) = .ok f) :
    decoder version field name r (body.toJson version encode) = .ok body := by
  have fields : list field r (.array (body.fields.map encode)) = .ok body.fields := list_eq_ok each
  simp [decoder, toJson, Record.decode_object_eq_ok_iff, lookup_cons_eq_ite, fields]

namespace Config

theorem version_ofJson_toJson (c : Config) : Version.ofJson c.toJson = .ok c.version := by
  cases c <;> rfl

theorem decoder_toJson {c : Config} (fits : c.Fits) (r : Reading) :
    decoder c.version r c.toJson = .ok c := by
  cases c with
  | simple body =>
    have read := ConfigBody.decoder_toJson .simple "V0Config" body fun f _ => f.decoder_toJson r
    simp [decoder, version, toJson, Decoder.map, read]
  | detailed body =>
    have read :=
      ConfigBody.decoder_toJson .detailed "V1Config" body fun f member =>
        f.decoder_toJson (fits f member) r
    simp [decoder, version, toJson, Decoder.map, read]

/-- A config can be read back exactly when its integers and its free values fit. -/
theorem ofJson_toJson_iff_fits (c : Config) : ofJson c.toJson = .ok c ↔ c.Fits := by
  constructor
  · exact fits_of_ofJson
  · intro fits
    simp [ofJson, version_ofJson_toJson, decoder_toJson fits, bind]

/-- A config as it is stored: read, and written again. -/
def normalForm (v : Json) : Except ConfigError Json := (ofJson v).map toJson

/-- A config that was read is read back as it was, before and after its missing keys are derived; so
its normal form is its own normal form. -/
theorem ofJson_toJson_of_read (v : Json) (c : Config) (read : ofJson v = .ok c) :
    ofJson c.toJson = .ok c ∧ ofJson c.deriveKeys.toJson = .ok c.deriveKeys ∧
      normalForm v = .ok c.toJson ∧ normalForm c.toJson = .ok c.toJson := by
  have fits : c.Fits := fits_of_ofJson read
  have back : ofJson c.toJson = .ok c := (ofJson_toJson_iff_fits c).2 fits
  refine ⟨back, (ofJson_toJson_iff_fits c.deriveKeys).2 (fits_deriveKeys fits), ?_, ?_⟩
  · simp [normalForm, read]
  · simp [normalForm, back]

/-- A body before its tag, arrays for a rule and for records, no key, and a free value that holds an
object. -/
def mixedSpelling : Json :=
  object [("fields", array [object [
      ("default_value", string ""), ("required", bool false), ("label", string "A b"),
      ("detection_schema", array [array [
        array [string "regex", array [string "x", null, string "last", integer (-3)]]]]),
      ("validation_schema", object [("rules", array [
        object [("rule", object [("max", binary .zero), ("min", null)]), ("type", string "length")],
        array [string "allowed_values",
          array [array [null, object [("b", null), ("a", integer 1)]]]]])])]]),
    ("version", string "v1")]

theorem ofJson_toJson_mixedSpelling :
    ∃ c, ofJson mixedSpelling = .ok c ∧ ofJson c.toJson = .ok c ∧
      ofJson c.deriveKeys.toJson = .ok c.deriveKeys ∧ normalForm c.toJson = .ok c.toJson := by
  have accepted : ∃ c, ofJson mixedSpelling = .ok c := ⟨_, rfl⟩
  obtain ⟨c, read⟩ := accepted
  obtain ⟨back, derived, -, normal⟩ := ofJson_toJson_of_read mixedSpelling c read
  exact ⟨c, read, back, derived, normal⟩

end Config

end ExtractionPrompt
