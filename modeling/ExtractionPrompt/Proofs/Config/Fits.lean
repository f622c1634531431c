import ExtractionPrompt.Proofs.Decode.Given
import ExtractionPrompt.Submission.Derivation

/-!
Configs whose integers fit a word of 64 bits, and whose free values are given as they are.  Every
config that was read is one, and deriving keys keeps it one.  No other part of a config is bounded
by how it is read.
-/

namespace ExtractionPrompt

def PatternDetection.Fits (d : PatternDetection) : Prop := ∀ n ∈ d.group, FitsWord n

def KeywordDetection.Fits (d : KeywordDetection) : Prop := ∀ n ∈ d.contextWindow, FitsWord n

def DetectionRule.Fits : DetectionRule → Prop
  | pattern d => d.Fits
  | keyword d => d.Fits
  | heading _ => True
  | custom _ => True

def AllowedValues.Fits (a : AllowedValues) : Prop := ∀ v ∈ a.values, v.isLiteral = true

def ValidationRule.Fits : ValidationRule → Prop
  | pattern _ => True
  | length _ => True
  | allowed a => a.Fits
  | custom _ => True

structure ValueMapping.Fits (m : ValueMapping) : Prop where
  source : ∀ v ∈ m.source, v.isLiteral = true
  target : m.target.isLiteral = true

def OutputSchema.Fits (o : OutputSchema) : Prop := ∀ m ∈ o.mapping, m.Fits

structure DetailedField.Fits (f : DetailedField) : Prop where
  detection : ∀ rules ∈ f.detection, ∀ rule ∈ rules, rule.Fits
  validation : ∀ rules ∈ f.validation, ∀ rule ∈ rules, rule.Fits
  output : ∀ o ∈ f.output, o.Fits

def Config.Fits : Config → Prop
  | simple _ => True
  | detailed body => ∀ f ∈ body.fields, f.Fits

instance (n : Int) : Decidable (FitsWord n) := inferInstanceAs (Decidable (_ ∧ _))

instance (d : PatternDetection) : Decidable d.Fits :=
  inferInstanceAs (Decidable (∀ n ∈ d.group, FitsWord n))

instance (d : KeywordDetection) : Decidable d.Fits :=
  inferInstanceAs (Decidable (∀ n ∈ d.contextWindow, FitsWord n))

instance : (rule : DetectionRule) → Decidable rule.Fits
  | .pattern d => inferInstanceAs (Decidable d.Fits)
  | .keyword d => inferInstanceAs (Decidable d.Fits)
  | .heading _ => .isTrue trivial
  | .custom _ => .isTrue trivial

instance (a : AllowedValues) : Decidable a.Fits :=
  inferInstanceAs (Decidable (∀ v ∈ a.values, v.isLiteral = true))

instance : (rule : ValidationRule) → Decidable rule.Fits
  | .pattern _ => .isTrue trivial
  | .length _ => .isTrue trivial
  | .allowed a => inferInstanceAs (Decidable a.Fits)
  | .custom _ => .isTrue trivial

instance (m : ValueMapping) : Decidable m.Fits :=
  decidable_of_iff ((∀ v ∈ m.source, v.isLiteral = true) ∧ m.target.isLiteral = true)
    ⟨fun ⟨source, target⟩ => ⟨source, target⟩, fun fits => ⟨fits.source, fits.target⟩⟩

instance (o : OutputSchema) : Decidable o.Fits :=
  inferInstanceAs (Decidable (∀ m ∈ o.mapping, m.Fits))

instance (f : DetailedField) : Decidable f.Fits :=
  decidable_of_iff ((∀ rules ∈ f.detection, ∀ rule ∈ rules, rule.Fits) ∧
      (∀ rules ∈ f.validation, ∀ rule ∈ rules, rule.Fits) ∧ ∀ o ∈ f.output, o.Fits)
    ⟨fun ⟨detection, validation, output⟩ => ⟨detection, validation, output⟩,
      fun fits => ⟨fits.detection, fits.validation, fits.output⟩⟩

instance : (c : Config) → Decidable c.Fits
  | .simple _ => .isTrue trivial
  | .detailed body => inferInstanceAs (Decidable (∀ f ∈ body.fields, f.Fits))

theorem PatternDetection.fits_of_gives {d : PatternDetection} (given : decoder.Gives d) :
    d.Fits := by
  obtain ⟨_, group, h₁, read, rfl⟩ := Record.gives_of_seq (Record.gives_of_decode given)
  obtain ⟨_, target, h₂, -, rfl⟩ := Record.gives_of_seq h₁
  obtain ⟨_, flags, h₃, -, rfl⟩ := Record.gives_of_seq h₂
  obtain ⟨pattern, -, rfl⟩ := Record.gives_of_map h₃
  intro n member
  exact Decoder.fitsWord_of_gives (Record.gives_of_optional read n member)

theorem KeywordDetection.fits_of_gives {d : KeywordDetection} (given : decoder.Gives d) :
    d.Fits := by
  obtain ⟨_, strategy, h₁, -, rfl⟩ := Record.gives_of_seq (Record.gives_of_decode given)
  obtain ⟨_, window, h₂, read, rfl⟩ := Record.gives_of_seq h₁
  obtain ⟨keywords, -, rfl⟩ := Record.gives_of_map h₂
  intro n member
  exact Decoder.fitsWord_of_gives (Record.gives_of_optional read n member)

theorem DetectionRule.fits_of_gives {rule : DetectionRule} (given : decoder.Gives rule) :
    rule.Fits := by
  obtain ⟨p, member, read⟩ := Decoder.gives_of_choice given
  simp only [List.mem_cons, List.not_mem_nil, or_false] at member
  rcases member with rfl | rfl | rfl | rfl
  · obtain ⟨d, inner, rfl⟩ := Decoder.gives_of_map read
    exact PatternDetection.fits_of_gives inner
  · obtain ⟨d, inner, rfl⟩ := Decoder.gives_of_map read
    exact KeywordDetection.fits_of_gives inner
  · obtain ⟨d, -, rfl⟩ := Decoder.gives_of_map read
    trivial
  · obtain ⟨text, -, rfl⟩ := Decoder.gives_of_map read
    trivial

theorem AllowedValues.fits_of_gives {a : AllowedValues} (given : decoder.Gives a) : a.Fits := by
  obtain ⟨_, caseSensitive, inner, -, rfl⟩ := Record.gives_of_seq (Record.gives_of_decode given)
  obtain ⟨values, read, rfl⟩ := Record.gives_of_map inner
  intro v member
  exact Decoder.isLiteral_of_gives (Decoder.gives_of_list (Record.gives_of_required read) v member)

theorem ValidationRule.fits_of_gives {rule : ValidationRule} (given : decoder.Gives rule) :
    rule.Fits := by
  obtain ⟨p, member, read⟩ := Decoder.gives_of_choice given
  simp only [List.mem_cons, List.not_mem_nil, or_false] at member
  rcases member with rfl | rfl | rfl | rfl
  · obtain ⟨c, -, rfl⟩ := Decoder.gives_of_map read
    trivial
  · obtain ⟨c, -, rfl⟩ := Decoder.gives_of_map read
    trivial
  · obtain ⟨a, inner, rfl⟩ := Decoder.gives_of_map read
    exact AllowedValues.fits_of_gives inner
  · obtain ⟨text, -, rfl⟩ := Decoder.gives_of_map read
    trivial

theorem ValueMapping.fits_of_gives {m : ValueMapping} (given : decoder.Gives m) : m.Fits := by
  obtain ⟨_, target, inner, last, rfl⟩ := Record.gives_of_seq (Record.gives_of_decode given)
  obtain ⟨source, read, rfl⟩ := Record.gives_of_map inner
  refine ⟨fun v member => ?_, ?_⟩
  · exact Decoder.isLiteral_of_gives
      (Decoder.gives_of_list (Record.gives_of_required read) v member)
  · rcases Record.gives_of_defaulted last with rfl | written
    · rfl
    · exact Decoder.isLiteral_of_gives written

theorem OutputSchema.fits_of_gives {o : OutputSchema} (given : decoder.Gives o) : o.Fits := by
  obtain ⟨_, mapping, inner, read, rfl⟩ := Record.gives_of_seq (Record.gives_of_decode given)
  obtain ⟨_, examples, h₁, -, rfl⟩ := Record.gives_of_seq inner
  obtain ⟨_, cardinality, h₂, -, rfl⟩ := Record.gives_of_seq h₁
  obtain ⟨_, format, h₃, -, rfl⟩ := Record.gives_of_seq h₂
  obtain ⟨dataType, -, rfl⟩ := Record.gives_of_map h₃
  intro m present
  obtain ⟨p, member, body⟩ := Decoder.gives_of_choice (Record.gives_of_optional read m present)
  cases List.mem_singleton.1 member
  exact ValueMapping.fits_of_gives body

theorem gives_of_ruleBlock {α : Type} {d : Decoder α} {rules : List α}
    (given : (ruleBlock d).Gives rules) :
    ∀ rule ∈ rules, d.Gives rule :=
  Decoder.gives_of_list (Record.gives_of_required (Record.gives_of_decode given))

theorem DetailedField.fits_of_gives {f : DetailedField} (given : decoder.Gives f) : f.Fits := by
  obtain ⟨_, output, h₁, outputRead, rfl⟩ := Record.gives_of_seq (Record.gives_of_decode given)
  obtain ⟨_, sanitization, h₂, -, rfl⟩ := Record.gives_of_seq h₁
  obtain ⟨_, validation, h₃, validationRead, rfl⟩ := Record.gives_of_seq h₂
  obtain ⟨_, detection, h₄, detectionRead, rfl⟩ := Record.gives_of_seq h₃
  obtain ⟨_, defaultValue, h₅, -, rfl⟩ := Record.gives_of_seq h₄
  obtain ⟨_, required, h₆, -, rfl⟩ := Record.gives_of_seq h₅
  obtain ⟨_, note, h₇, -, rfl⟩ := Record.gives_of_seq h₆
  obtain ⟨_, description, h₈, -, rfl⟩ := Record.gives_of_seq h₇
  obtain ⟨_, label, h₉, -, rfl⟩ := Record.gives_of_seq h₈
  obtain ⟨key, -, rfl⟩ := Record.gives_of_map h₉
  constructor
  · intro rules present rule member
    exact DetectionRule.fits_of_gives
      (gives_of_ruleBlock (Record.gives_of_optional detectionRead rules present) rule member)
  · intro rules present rule member
    exact ValidationRule.fits_of_gives
      (gives_of_ruleBlock (Record.gives_of_optional validationRead rules present) rule member)
  · intro o present
    exact OutputSchema.fits_of_gives (Record.gives_of_optional outputRead o present)

theorem ConfigBody.fields_given {Field : Type} {version : Version} {field : Decoder Field}
    {name : String} {body : ConfigBody Field} (given : (decoder version field name).Gives body) :
    ∀ f ∈ body.fields, field.Gives f := by
  obtain ⟨_, fields, h₁, read, rfl⟩ := Record.gives_of_seq (Record.gives_of_decode given)
  obtain ⟨_, description, h₂, -, rfl⟩ := Record.gives_of_seq h₁
  obtain ⟨title, -, rfl⟩ := Record.gives_of_map h₂
  exact Decoder.gives_of_list (Record.gives_of_required read)

namespace Config

theorem fits_of_gives {version : Version} {c : Config} (given : (decoder version).Gives c) :
    c.Fits := by
  cases version with
  | simple =>
    obtain ⟨body, -, rfl⟩ := Decoder.gives_of_map given
    trivial
  | detailed =>
    obtain ⟨body, inner, rfl⟩ := Decoder.gives_of_map given
    intro f member
    exact DetailedField.fits_of_gives (ConfigBody.fields_given inner f member)

theorem fits_of_ofJson {v : Json} {c : Config} (read : ofJson v = .ok c) : c.Fits := by
  obtain ⟨version, -, rest⟩ := bind_eq_ok_iff.1 read
  split at rest
  · rename_i found
    cases rest
    exact fits_of_gives ⟨_, v, found⟩
  · cases rest

theorem fits_deriveKeys {c : Config} (fits : c.Fits) : c.deriveKeys.Fits := by
  cases c with
  | simple body => trivial
  | detailed body =>
    intro f member
    obtain ⟨g, inside, rfl⟩ := List.mem_map.1 member
    have kept := fits g inside
    exact ⟨kept.detection, kept.validation, kept.output⟩

end Config

end ExtractionPrompt
