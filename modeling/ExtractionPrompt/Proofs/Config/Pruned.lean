import ExtractionPrompt.Proofs.Config.OrderFree
import ExtractionPrompt.Proofs.Decode.Pruned
import ExtractionPrompt.Registry.Service

/-!
Configs without the properties that say nothing.  Each part of a config has its pruner: the
properties it knows, and those of them for which `null` is the same as nothing.  Key, name and
description may be missing but not `null`, so a `null` there stays and is refused; inside free
values nothing goes.
-/

namespace ExtractionPrompt

open Decoder Record Pruner

def ruleBlockPruner (rule : Pruner) : Pruner := record [needed "rules" (each rule)]

def instructionPruner : Pruner := record [needed "prompt" keep]

def PatternDetection.pruner : Pruner :=
  record [needed "pattern" keep, spare "flags" keep, spare "target" keep, spare "group" keep]

def KeywordDetection.pruner : Pruner :=
  record [needed "keywords" keep, spare "context_window" keep, spare "strategy" keep]

def HeadingDetection.pruner : Pruner :=
  record [needed "section_headers" keep, spare "extraction_strategy" keep]

def DetectionRule.pruner : Pruner :=
  Pruner.choice [("regex", PatternDetection.pruner), ("keyword", KeywordDetection.pruner),
    ("section", HeadingDetection.pruner), ("custom", instructionPruner)]

def PatternCheck.pruner : Pruner := record [needed "pattern" keep, spare "error_message" keep]

def LengthCheck.pruner : Pruner :=
  record [spare "min" keep, spare "max" keep, spare "error_message" keep]

def AllowedValues.pruner : Pruner := record [needed "values" keep, spare "case_sensitive" keep]

def ValidationRule.pruner : Pruner :=
  Pruner.choice [("regex", PatternCheck.pruner), ("length", LengthCheck.pruner),
    ("allowed_values", AllowedValues.pruner), ("custom", instructionPruner)]

def Replacement.pruner : Pruner :=
  record [needed "pattern" keep, needed "replacement" keep, spare "flags" keep]

def Trimming.pruner : Pruner := record [spare "characters" keep]

/-- The components are the config's own, whatever their names. -/
def Formatting.pruner : Pruner := record [needed "template" keep, needed "components" keep]

def SanitizationRule.pruner : Pruner :=
  Pruner.choice [("regex_replace", Replacement.pruner), ("trim", Trimming.pruner),
    ("format", Formatting.pruner), ("custom", instructionPruner)]

/-- A target is any value, and `null` is what a missing one stands for. -/
def ValueMapping.pruner : Pruner := record [needed "source" keep, spare "target" keep]

def normalizationPruner : Pruner := Pruner.choice [("mapping", ValueMapping.pruner)]

def OutputSchema.pruner : Pruner :=
  record [needed "data_type" keep, spare "format" keep, spare "cardinality" keep,
    spare "examples" keep, spare "normalization" normalizationPruner]

def SimpleField.pruner : Pruner :=
  record [needed "key" keep, spare "label" keep, needed "prompt" keep, spare "example" keep]

def DetailedField.pruner : Pruner :=
  record [needed "key" keep, spare "label" keep, spare "description" keep, spare "note" keep,
    needed "required" keep, needed "default_value" keep,
    spare "detection_schema" (ruleBlockPruner DetectionRule.pruner),
    spare "validation_schema" (ruleBlockPruner ValidationRule.pruner),
    spare "sanitization_schema" (ruleBlockPruner SanitizationRule.pruner),
    spare "output_schema" OutputSchema.pruner]

/-- What a config's own properties are, the version tag apart. -/
def ConfigBody.properties (field : Pruner) : List Property :=
  [needed "name" keep, needed "description" keep, needed "fields" (each field)]

def ConfigBody.pruner (field : Pruner) : Pruner :=
  record (needed "version" keep :: ConfigBody.properties field)

namespace Config

/-- Behind no version that is known, no fields are read. -/
def fieldPruner : Except ConfigError Version → Pruner
  | .ok .simple => SimpleField.pruner
  | .ok .detailed => DetailedField.pruner
  | .error _ => keep

/-- A config without the chosen ones of the properties that say nothing. -/
def prune (chosen : Selection) (v : Json) : Json :=
  (ConfigBody.pruner (fieldPruner (Version.ofJson v))).prune chosen v

end Config

theorem indifferent_ruleBlock {α : Type} {rule : Decoder α} {p : Pruner}
    (inner : rule.Indifferent p) : (ruleBlock rule).Indifferent (ruleBlockPruner p) :=
  (indifferent_required "rules" inner.list).decode (by simp) "RuleSchema"

theorem indifferent_instruction : instruction.Indifferent instructionPruner :=
  (indifferent_required "prompt" (indifferent_keep text)).decode (by decide) "CustomRule"

theorem PatternDetection.indifferent : decoder.Indifferent pruner := by
  have pattern := indifferent_required "pattern" (indifferent_keep text)
  have flags := indifferent_optional "flags" (indifferent_keep text)
  have target := indifferent_optional "target" (indifferent_keep (vocabulary MatchTarget.names))
  have group := indifferent_optional "group" (indifferent_keep integer)
  exact ((((pattern.map mk).seq flags).seq target).seq group).decode (by decide) _

theorem KeywordDetection.indifferent : decoder.Indifferent pruner := by
  have keywords := indifferent_required "keywords" (indifferent_keep (list text))
  have window := indifferent_optional "context_window" (indifferent_keep integer)
  have strategy :=
    indifferent_optional "strategy" (indifferent_keep (vocabulary KeywordStrategy.names))
  exact (((keywords.map mk).seq window).seq strategy).decode (by decide) _

theorem HeadingDetection.indifferent : decoder.Indifferent pruner := by
  have headings := indifferent_required "section_headers" (indifferent_keep (list text))
  have strategy :=
    indifferent_optional "extraction_strategy" (indifferent_keep (vocabulary HeadingStrategy.names))
  exact ((headings.map mk).seq strategy).decode (by decide) _

theorem DetectionRule.indifferent : decoder.Indifferent pruner := by
  let cases := [("regex", PatternDetection.decoder.map pattern, PatternDetection.pruner),
    ("keyword", KeywordDetection.decoder.map keyword, KeywordDetection.pruner),
    ("section", HeadingDetection.decoder.map heading, HeadingDetection.pruner),
    ("custom", instruction.map custom, instructionPruner)]
  have each : ∀ c ∈ cases, c.2.1.Indifferent c.2.2 := by
    simp only [cases, List.forall_mem_cons]
    exact ⟨PatternDetection.indifferent.map pattern, KeywordDetection.indifferent.map keyword,
      HeadingDetection.indifferent.map heading, indifferent_instruction.map custom, by simp⟩
  exact indifferent_choice "DetectionRule" each

theorem PatternCheck.indifferent : decoder.Indifferent pruner := by
  have pattern := indifferent_required "pattern" (indifferent_keep text)
  have errorMessage := indifferent_optional "error_message" (indifferent_keep text)
  exact ((pattern.map mk).seq errorMessage).decode (by decide) _

theorem LengthCheck.indifferent : decoder.Indifferent pruner := by
  have min := indifferent_optional "min" (indifferent_keep number)
  have max := indifferent_optional "max" (indifferent_keep number)
  have errorMessage := indifferent_optional "error_message" (indifferent_keep text)
  exact (((min.map mk).seq max).seq errorMessage).decode (by decide) _

theorem AllowedValues.indifferent : decoder.Indifferent pruner := by
  have values := indifferent_required "values" (indifferent_keep (list free))
  have caseSensitive := indifferent_optional "case_sensitive" (indifferent_keep boolean)
  exact ((values.map mk).seq caseSensitive).decode (by decide) _

theorem ValidationRule.indifferent : decoder.Indifferent pruner := by
  let cases := [("regex", PatternCheck.decoder.map pattern, PatternCheck.pruner),
    ("length", LengthCheck.decoder.map length, LengthCheck.pruner),
    ("allowed_values", AllowedValues.decoder.map allowed, AllowedValues.pruner),
    ("custom", instruction.map custom, instructionPruner)]
  have each : ∀ c ∈ cases, c.2.1.Indifferent c.2.2 := by
    simp only [cases, List.forall_mem_cons]
    exact ⟨PatternCheck.indifferent.map pattern, LengthCheck.indifferent.map length,
      AllowedValues.indifferent.map allowed, indifferent_instruction.map custom, by simp⟩
  exact indifferent_choice "ValidationRule" each

theorem Replacement.indifferent : decoder.Indifferent pruner := by
  have pattern := indifferent_required "pattern" (indifferent_keep text)
  have replacement := indifferent_required "replacement" (indifferent_keep text)
  have flags := indifferent_optional "flags" (indifferent_keep text)
  exact (((pattern.map mk).seq replacement).seq flags).decode (by decide) _

theorem Trimming.indifferent : decoder.Indifferent pruner :=
  ((indifferent_optional "characters" (indifferent_keep text)).map mk).decode (by decide) _

theorem Formatting.indifferent : decoder.Indifferent pruner := by
  have template := indifferent_required "template" (indifferent_keep text)
  have components := indifferent_required "components" (indifferent_keep (mapping text))
  exact ((template.map mk).seq components).decode (by decide) _

theorem SanitizationRule.indifferent : decoder.Indifferent pruner := by
  let cases := [("regex_replace", Replacement.decoder.map replace, Replacement.pruner),
    ("trim", Trimming.decoder.map trim, Trimming.pruner),
    ("format", Formatting.decoder.map format, Formatting.pruner),
    ("custom", instruction.map custom, instructionPruner)]
  have each : ∀ c ∈ cases, c.2.1.Indifferent c.2.2 := by
    simp only [cases, List.forall_mem_cons]
    exact ⟨Replacement.indifferent.map replace, Trimming.indifferent.map trim,
      Formatting.indifferent.map format, indifferent_instruction.map custom, by simp⟩
  exact indifferent_choice "SanitizationRule" each

theorem ValueMapping.indifferent : decoder.Indifferent pruner := by
  have source := indifferent_required "source" (indifferent_keep (list free))
  have target : (defaulted "target" free .null).Indifferent [spare "target" keep] :=
    indifferent_field "target" (indifferent_keep free) fun _ => ⟨.null, rfl, rfl⟩
  exact ((source.map mk).seq target).decode (by decide) _

theorem indifferent_normalization : normalization.Indifferent normalizationPruner := by
  let cases := [("mapping", ValueMapping.decoder, ValueMapping.pruner)]
  have each : ∀ c ∈ cases, c.2.1.Indifferent c.2.2 := by
    simp only [cases, List.forall_mem_cons]
    exact ⟨ValueMapping.indifferent, by simp⟩
  exact indifferent_choice "Normalization" each

theorem OutputSchema.indifferent : decoder.Indifferent pruner := by
  have dataType := indifferent_required "data_type" (indifferent_keep (vocabulary DataType.names))
  have format := indifferent_optional "format" (indifferent_keep (vocabulary OutputFormat.names))
  have cardinality :=
    indifferent_optional "cardinality" (indifferent_keep (vocabulary Cardinality.names))
  have examples := indifferent_optional "examples" (indifferent_keep (list text))
  have mapping := indifferent_optional "normalization" indifferent_normalization
  exact (((((dataType.map mk).seq format).seq cardinality).seq examples).seq mapping).decode
    (by decide) _

theorem SimpleField.indifferent : decoder.Indifferent pruner := by
  have key := indifferent_defaulted "key" (indifferent_keep text) ""
  have label := indifferent_optional "label" (indifferent_keep text)
  have prompt := indifferent_required "prompt" (indifferent_keep text)
  have sample := indifferent_optional "example" (indifferent_keep text)
  exact ((((key.map mk).seq label).seq prompt).seq sample).decode (by decide) _

theorem DetailedField.indifferent : decoder.Indifferent pruner := by
  have key := indifferent_defaulted "key" (indifferent_keep text) ""
  have label := indifferent_optional "label" (indifferent_keep text)
  have description := indifferent_optional "description" (indifferent_keep text)
  have note := indifferent_optional "note" (indifferent_keep text)
  have required := indifferent_required "required" (indifferent_keep boolean)
  have defaultValue := indifferent_required "default_value" (indifferent_keep text)
  have detection :=
    indifferent_optional "detection_schema" (indifferent_ruleBlock DetectionRule.indifferent)
  have validation :=
    indifferent_optional "validation_schema" (indifferent_ruleBlock ValidationRule.indifferent)
  have sanitization :=
    indifferent_optional "sanitization_schema" (indifferent_ruleBlock SanitizationRule.indifferent)
  have output := indifferent_optional "output_schema" OutputSchema.indifferent
  exact ((((((((((key.map mk).seq label).seq description).seq note).seq required).seq
    defaultValue).seq detection).seq validation).seq sanitization).seq output).decode
    (by decide) _

theorem ConfigBody.indifferent {Field : Type} {field : Decoder Field} {p : Pruner}
    (version : Version) (inner : field.Indifferent p) :
    (ConfigBody.mk <$> defaulted "name" text version.title <*>
      defaulted "description" text version.summary <*>
      required "fields" (list field)).Indifferent (properties p) := by
  have title := indifferent_defaulted "name" (indifferent_keep text) version.title
  have summary := indifferent_defaulted "description" (indifferent_keep text) version.summary
  have fields := indifferent_required "fields" inner.list
  exact ((title.map mk).seq summary).seq fields

theorem ConfigBody.knownNames_nodup (p : Pruner) :
    ((needed "version" keep :: properties p).map (·.name)).Nodup := by
  simp [properties, needed]

/-- The tag stands beside a config's own properties, so the body passes it over. -/
theorem ConfigBody.sameOutcome_prune {Field : Type} {field : Decoder Field} {p : Pruner}
    (version : Version) (inner : field.Indifferent p) (name : String)
    {entries : List (String × Json)} (wellFormed : (Json.object entries).WellFormed)
    (chosen : Selection) :
    SameOutcome (· = ·) (decoder version field name .buffered (.object entries))
      (decoder version field name .buffered ((pruner p).prune chosen (.object entries))) :=
  (indifferent version inner).decode_object (knownNames_nodup p) (List.subset_cons_self _ _) name
    wellFormed chosen

namespace Version

theorem ofJson_pruned {v : Json} (wellFormed : v.WellFormed) (field : Pruner) (chosen : Selection) :
    ofJson ((ConfigBody.pruner field).prune chosen v) = ofJson v := by
  cases v with
  | object entries =>
    have kept :=
      lookup_kept (ConfigBody.knownNames_nodup field) List.mem_cons_self wellFormed chosen
    simp only [ofJson, prune, ConfigBody.pruner, Json.property?, kept]
  | _ => rfl

theorem object_of_ofJson {v : Json} {version : Version} (known : ofJson v = .ok version) :
    ∃ entries, v = .object entries := by
  cases v with
  | object entries => exact ⟨entries, rfl⟩
  | _ => cases known

end Version

namespace Config

theorem sameOutcome_prune {v : Json} {version : Version} (known : Version.ofJson v = .ok version)
    (wellFormed : v.WellFormed) (chosen : Selection) :
    SameOutcome (· = ·) (decoder version .buffered v)
      (decoder version .buffered (prune chosen v)) := by
  obtain ⟨entries, rfl⟩ := Version.object_of_ofJson known
  rw [prune, known]
  cases version with
  | simple =>
    exact (ConfigBody.sameOutcome_prune .simple SimpleField.indifferent _ wellFormed chosen).map
      fun _ _ => congrArg simple
  | detailed =>
    exact (ConfigBody.sameOutcome_prune .detailed DetailedField.indifferent _ wellFormed chosen).map
      fun _ _ => congrArg detailed

theorem agree_ofJson_prune {v : Json} (wellFormed : v.WellFormed) (chosen : Selection) :
    Agree ConfigError.SameVariant (· = ·) (ofJson v) (ofJson (prune chosen v)) := by
  have version : Version.ofJson (prune chosen v) = Version.ofJson v :=
    Version.ofJson_pruned wellFormed _ chosen
  rw [ofJson, ofJson, version]
  cases known : Version.ofJson v with
  | error e => exact .error (.refl e)
  | ok version =>
    have read := sameOutcome_prune known wellFormed chosen
    dsimp only [bind, Except.bind]
    generalize decoder version .buffered v = x,
      decoder version .buffered (prune chosen v) = y at read ⊢
    cases read with
    | ok same => exact .ok same
    | error => exact .error (.malformed _ _)

end Config

/-- The same failure, but for the tag or the fault that a refused config names. -/
inductive Failure.SameCause : Failure → Failure → Prop where
  | refl (failure : Failure) : SameCause failure failure
  | config {e f : ConfigError} (same : e.SameVariant f) : SameCause (.config e) (.config f)

theorem agree_prepare {v w : Json}
    (read : Agree ConfigError.SameVariant (· = ·) (Config.ofJson v) (Config.ofJson w)) :
    Agree Failure.SameCause (· = ·) (prepare v) (prepare w) := by
  simp only [prepare]
  generalize Config.ofJson v = x, Config.ofJson w = y at read ⊢
  cases read with
  | error same => exact .error (.config same)
  | ok same =>
    cases same
    exact .refl .refl _

/-- Past the reading of its config, a request sees the config alone. -/
theorem Store.agree_create (s : Store) (userId : Identifier) (name : String) {v w : Json}
    (prepared : Agree Failure.SameCause (· = ·) (prepare v) (prepare w)) :
    Agree Failure.SameCause (· = ·) (s.create ⟨userId, name, v⟩) (s.create ⟨userId, name, w⟩) := by
  refine Agree.bind (R := (· = ·)) ?_ ?_
  · simp only [CreateRequest.vet]
    split
    · exact .refl .refl _
    · split
      · exact .refl .refl _
      · refine prepared.bind ?_
        rintro c _ rfl
        exact .ok rfl
  · rintro vetted _ rfl
    exact .refl .refl _

namespace Config

/-- Whichever of the properties that say nothing a config is sent without, it is refused for the
same cause or read as the same config, and a request with it fails for the same cause or saves the
same record. -/
theorem ofJson_prune (v : Json) (wellFormed : v.WellFormed) (chosen : Selection) :
    Agree ConfigError.SameVariant (· = ·) (ofJson v) (ofJson (prune chosen v)) ∧
      ∀ (s : Store) (userId : Identifier) (name : String),
        Agree Failure.SameCause (· = ·) (s.create ⟨userId, name, v⟩)
          (s.create ⟨userId, name, prune chosen v⟩) := by
  have read := agree_ofJson_prune wellFormed chosen
  exact ⟨read, fun s userId name => s.agree_create userId name (agree_prepare read)⟩

open Json in
/-- At every level one property that nobody knows and one `null`, where there can be one. -/
def padded : Json :=
  object [("version", string "v1"), ("client", string "form"), ("fields", array [object [
    ("key", string "name"), ("label", null), ("colour", string "red"), ("required", bool true),
    ("default_value", string ""),
    ("detection_schema", object [("draft", bool true), ("rules", array [object [
      ("id", null), ("type", string "regex"),
      ("rule", object [("pattern", string "x"), ("flags", null), ("hint", string "y")])]])]),
    ("validation_schema", null),
    ("sanitization_schema", object [("rules", array [
      array [string "trim", object [("characters", null)]]])]),
    ("output_schema", object [
      ("data_type", string "string"), ("unit", string "m"), ("format", null),
      ("normalization", object [("type", string "mapping"), ("by", null),
        ("rule", object [("source", array [null]), ("target", null), ("weight", null)])])])]])]

open Json in
/-- What of `padded` says something; the `null` among the sources is one of them. -/
def bare : Json :=
  object [("version", string "v1"), ("fields", array [object [
    ("key", string "name"), ("required", bool true), ("default_value", string ""),
    ("detection_schema", object [("rules", array [object [
      ("type", string "regex"), ("rule", object [("pattern", string "x")])]])]),
    ("sanitization_schema", object [("rules", array [array [string "trim", object []]])]),
    ("output_schema", object [("data_type", string "string"),
      ("normalization", object [("type", string "mapping"),
        ("rule", object [("source", array [null])])])])]])]

theorem ofJson_prune_padded :
    prune (fun _ => true) padded = bare ∧ ∃ c, ofJson padded = .ok c ∧ ofJson bare = .ok c := by
  have wellFormed : padded.WellFormed := by
    simp [padded, Json.wellFormed_object_iff, Json.wellFormed_array_iff, Json.WellFormed.string,
      Json.WellFormed.null, Json.WellFormed.bool]
  have left : prune (fun _ => true) padded = bare := rfl
  obtain ⟨same, -⟩ := ofJson_prune padded wellFormed fun _ => true
  rw [left] at same
  have accepted : ∃ c, ofJson padded = .ok c := ⟨_, rfl⟩
  obtain ⟨c, read⟩ := accepted
  rw [read] at same
  generalize others : ofJson bare = x at same
  cases same with
  | ok same => exact ⟨left, c, read, same ▸ rfl⟩

end Config

end ExtractionPrompt
