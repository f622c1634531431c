import ExtractionPrompt.Submission.Check
import ExtractionPrompt.Text.Pieces
import Mathlib.Data.List.Nodup
import Mathlib.Data.List.TakeWhile

/-!
What is asked of a config, told apart from how it is checked.  Every requirement has a path of its
own, and the issues of a config name those that it does not meet, each once and in a fixed order.  A
config passes when it meets them all.
-/

namespace ExtractionPrompt

theorem Text.trimBy_eq_nil_iff {inClass : Char → Bool} {s : List Char} :
    trimBy inClass s = [] ↔ ∀ c ∈ s, inClass c = true := by
  rw [trimBy, List.reverse_eq_nil_iff, List.dropWhile_eq_nil_iff]
  simp only [List.mem_reverse]
  constructor
  · intro rest
    have first := List.head?_dropWhile_not inClass s
    cases dropped : s.dropWhile inClass with
    | nil => exact List.dropWhile_eq_nil_iff.1 dropped
    | cons c more =>
      have inside := rest c (by simp [dropped])
      simp [dropped, inside] at first
  · intro all c member
    exact all c ((List.dropWhile_sublist inClass).subset member)

/-- A text that is not blank throughout. -/
def Text.NotBlank (s : String) : Prop := ∃ c ∈ s.toList, isWhiteSpace c = false

instance (s : String) : Decidable (Text.NotBlank s) :=
  inferInstanceAs (Decidable (∃ c ∈ s.toList, Text.isWhiteSpace c = false))

theorem Text.trim_eq_empty_iff (s : String) : trim s = "" ↔ ¬ NotBlank s := by
  have blank : trim s = "" ↔ trimBy isWhiteSpace s.toList = [] := by
    rw [trim, ← String.toList_inj, String.toList_ofList]
    rfl
  rw [blank, trimBy_eq_nil_iff, NotBlank]
  simp

/-- What is asked of a config.  A field is named by its index. -/
inductive Requirement where
  | title
  | summary
  | key (index : Nat)
  | someField
  | prompt (index : Nat)
  | fallback (index : Nat)
  deriving DecidableEq, Repr

namespace Requirement

/-- A required field has a default that is long enough. -/
def KeepsFallback (f : DetailedField) : Prop := f.required = true → 4 ≤ f.defaultValue.length

instance (f : DetailedField) : Decidable (KeepsFallback f) :=
  inferInstanceAs (Decidable (f.required = true → 4 ≤ f.defaultValue.length))

/-- Whether a config meets the requirement.  Of a field that it does not have nothing is asked. -/
def MetBy (c : Config) : Requirement → Prop
  | title => c.name = c.version.title
  | summary => c.description = c.version.summary
  | key index => ∀ key ∈ c.keys[index]?, key ≠ "" ∧ Key.isValid key = true
  | someField => c.keys ≠ []
  | prompt index =>
    match c with
    | .simple body => ∀ f ∈ body.fields[index]?, Text.NotBlank f.prompt
    | .detailed _ => True
  | fallback index =>
    match c with
    | .simple _ => True
    | .detailed body => ∀ f ∈ body.fields[index]?, KeepsFallback f

instance (c : Config) : (r : Requirement) → Decidable (r.MetBy c)
  | title => inferInstanceAs (Decidable (c.name = c.version.title))
  | summary => inferInstanceAs (Decidable (c.description = c.version.summary))
  | key index =>
    inferInstanceAs (Decidable (∀ key ∈ c.keys[index]?, key ≠ "" ∧ Key.isValid key = true))
  | someField => inferInstanceAs (Decidable (c.keys ≠ []))
  | prompt index =>
    match c with
    | .simple body =>
      inferInstanceAs (Decidable (∀ f ∈ body.fields[index]?, Text.NotBlank f.prompt))
    | .detailed _ => isTrue trivial
  | fallback index =>
    match c with
    | .simple _ => isTrue trivial
    | .detailed body => inferInstanceAs (Decidable (∀ f ∈ body.fields[index]?, KeepsFallback f))

def path : Requirement → String
  | title => "name"
  | summary => "description"
  | key index => Issue.fieldPath index "key"
  | someField => "fields"
  | prompt index => Issue.fieldPath index "prompt"
  | fallback index => Issue.fieldPath index "default_value"

/-- The field that a requirement is about. -/
def index? : Requirement → Option Nat
  | key index | prompt index | fallback index => some index
  | title | summary | someField => none

end Requirement

namespace Issue

/-- An index is written with digits, so it ends at the next point. -/
theorem cutAt_fieldPath (index : Nat) (property : String) :
    Text.cutAt '.' ((fieldPath index property).toList.drop 7) =
      (Nat.toDigits 10 index, some property.toList) := by
  have point : '.' ∉ Nat.toDigits 10 index := by
    intro member
    exact absurd (Nat.isDigit_of_mem_toDigits (by decide) (by decide) member) (by decide)
  rw [← Text.cutAt_append_cons point]
  simp [fieldPath]

theorem fieldPath_inj {i j : Nat} {p q : String} :
    fieldPath i p = fieldPath j q ↔ i = j ∧ p = q := by
  constructor
  · intro same
    have parts := congrArg (fun path => Text.cutAt '.' (path.toList.drop 7)) same
    simp only [cutAt_fieldPath, Prod.mk.injEq, Option.some.injEq] at parts
    have numbers := congrArg (fun digits => Nat.ofDigitChars 10 digits 0) parts.1
    exact ⟨by simpa using numbers, String.toList_inj.1 parts.2⟩
  · rintro ⟨rfl, rfl⟩
    rfl

theorem fieldPath_ne (text : String) (other : "fields.".toList.isPrefixOf text.toList = false)
    (index : Nat) (property : String) : fieldPath index property ≠ text := by
  rintro rfl
  rw [Bool.eq_false_iff] at other
  apply other
  rw [List.isPrefixOf_iff_prefix, fieldPath, String.append_assoc, String.append_assoc,
    String.toList_append]
  exact List.prefix_append _ _

theorem map_path_fixedText (path expected actual : String) :
    (fixedText path expected actual).map Issue.path = if actual = expected then [] else [path] := by
  rw [fixedText]
  split <;> rfl

theorem map_path_ofKey (index : Nat) (key : String) :
    (ofKey index key).map Issue.path =
      if key ≠ "" ∧ Key.isValid key = true then [] else [fieldPath index "key"] := by
  rw [ofKey]
  by_cases empty : key = ""
  · simp [empty]
  · by_cases valid : Key.isValid key = true
    · simp [empty, valid]
    · simp [empty, valid]

theorem map_path_ofPrompt (index : Nat) (f : SimpleField) :
    (ofPrompt index f.prompt).map Issue.path =
      if Text.NotBlank f.prompt then [] else [fieldPath index "prompt"] := by
  rw [ofPrompt]
  by_cases shown : Text.NotBlank f.prompt
  · simp [Text.trim_eq_empty_iff, shown]
  · simp [Text.trim_eq_empty_iff, shown]

theorem map_path_ofDefault (index : Nat) (f : DetailedField) :
    (ofDefault index f).map Issue.path =
      if Requirement.KeepsFallback f then [] else [fieldPath index "default_value"] := by
  have short : (f.required = true ∧ f.defaultValue.length < minRequiredDefault) ↔
      ¬ Requirement.KeepsFallback f := by
    rw [Requirement.KeepsFallback, Classical.not_imp, Nat.not_le]
    rfl
  rw [ofDefault]
  by_cases keeps : Requirement.KeepsFallback f
  · simp [short, keeps]
  · simp [short, keeps]

/-- When a part has one issue or none, the parts with an issue are reported in their order. -/
theorem map_path_indexed {α : Type} {issues : Nat → α → List Issue} {path : Nat → String}
    {Met : α → Prop} [DecidablePred Met]
    (each : ∀ index a, (issues index a).map Issue.path = if Met a then [] else [path index])
    (start : Nat) (parts : List α) :
    (indexed issues start parts).map Issue.path =
      ((parts.zipIdx start).filter fun part => ¬ Met part.1).map fun part => path part.2 := by
  induction parts generalizing start with
  | nil => rfl
  | cons a rest ih =>
    rw [indexed, List.map_append, each, ih, List.zipIdx_cons]
    by_cases met : Met a
    · simp [met]
    · simp [met]

end Issue

namespace Requirement

theorem path_injective : Function.Injective path := by
  have name := Issue.fieldPath_ne "name" (by decide)
  have description := Issue.fieldPath_ne "description" (by decide)
  have fields := Issue.fieldPath_ne "fields" (by decide)
  intro r s same
  -- Paths into fields differ in the index or in the property, and no path of the whole config leads
  -- into a field.
  cases r <;> cases s <;>
    simp_all [path, Issue.fieldPath_inj, Ne.symm (name _ _), Ne.symm (description _ _),
      Ne.symm (fields _ _)]

theorem index?_of_path {r : Requirement} {index : Nat} {property : String}
    (inside : r.path = Issue.fieldPath index property) : r.index? = some index := by
  cases r with
  | title => exact absurd inside.symm (Issue.fieldPath_ne _ (by decide) _ _)
  | summary => exact absurd inside.symm (Issue.fieldPath_ne _ (by decide) _ _)
  | someField => exact absurd inside.symm (Issue.fieldPath_ne _ (by decide) _ _)
  | key i => exact congrArg some (Issue.fieldPath_inj.1 inside).1
  | prompt i => exact congrArg some (Issue.fieldPath_inj.1 inside).1
  | fallback i => exact congrArg some (Issue.fieldPath_inj.1 inside).1

variable {c : Config}

theorem map_path_filter_range {α : Type} {issues : Nat → α → List Issue} {Met : α → Prop}
    [DecidablePred Met] {r : Nat → Requirement} {parts : List α}
    (each : ∀ index a, (issues index a).map Issue.path = if Met a then [] else [(r index).path])
    (asked : ∀ index, (r index).MetBy c ↔ ∀ a ∈ parts[index]?, Met a) :
    (((List.range parts.length).map r).filter fun r => ¬ r.MetBy c).map path =
      (Issue.indexed issues 0 parts).map Issue.path := by
  -- A requirement of a list is met at an index when the part there does what is asked of it.
  have here : ∀ part ∈ parts.zipIdx, (decide ¬ (r part.2).MetBy c) = decide ¬ Met part.1 := by
    rintro ⟨a, index⟩ member
    have found := List.mk_mem_zipIdx_iff_getElem?.1 member
    simp [asked, found]
  rw [Issue.map_path_indexed each, List.range_eq_range', ← List.zipIdx_map_snd, List.filter_map,
    List.filter_map, List.map_map, List.map_map]
  exact congrArg _ (List.filter_congr here)

theorem map_path_filter_singleton (r : Requirement) :
    ([r].filter fun r => ¬ r.MetBy c).map path = if r.MetBy c then [] else [r.path] := by
  by_cases met : r.MetBy c
  · simp [met]
  · simp [met]

end Requirement

namespace Config

open Requirement

/-- What the version asks of the fields besides their keys. -/
def versionRequirements : Config → List Requirement
  | simple body => [.someField] ++ (List.range body.fields.length).map .prompt
  | detailed body => (List.range body.fields.length).map .fallback

/-- All that is asked of a config, in the order in which it is checked. -/
def requirements (c : Config) : List Requirement :=
  [.title, .summary] ++ (List.range c.fieldCount).map .key ++ c.versionRequirements

def unmet (c : Config) : List Requirement := c.requirements.filter fun r => ¬ r.MetBy c

theorem map_path_versionIssues (c : Config) :
    c.versionIssues.map Issue.path =
      (c.versionRequirements.filter fun r => ¬ r.MetBy c).map path := by
  cases c with
  | simple body =>
    have prompts :=
      map_path_filter_range (c := simple body) (r := .prompt) Issue.map_path_ofPrompt
        fun _ => Iff.rfl
    rw [versionIssues, versionRequirements, List.filter_append, List.map_append,
      List.map_append, prompts, map_path_filter_singleton]
    congr 1
    by_cases none : body.fields = []
    · simp [MetBy, keys, path, none]
    · simp [MetBy, keys, none]
  | detailed body => exact (map_path_filter_range Issue.map_path_ofDefault fun _ => Iff.rfl).symm

/-- The issues name the requirements that are not met. -/
theorem map_path_issues (c : Config) : c.issues.map Issue.path = c.unmet.map path := by
  have keys := map_path_filter_range (c := c) (r := .key) Issue.map_path_ofKey fun _ => Iff.rfl
  have split : [title, summary] = [title] ++ [summary] := rfl
  rw [issues, unmet, requirements, fieldCount, split]
  simp only [List.filter_append, List.map_append, map_path_filter_singleton, keys,
    map_path_versionIssues, Issue.map_path_fixedText]
  rfl

/-- What is asked of the fields besides their keys: there is one, and none of them has a blank
prompt; or the required ones have a default that is long enough. -/
def FieldsProper : Config → Prop
  | simple body => body.fields ≠ [] ∧ ∀ f ∈ body.fields, Text.NotBlank f.prompt
  | detailed body => ∀ f ∈ body.fields, KeepsFallback f

structure Proper (c : Config) : Prop where
  name : c.name = c.version.title
  description : c.description = c.version.summary
  keys : ∀ key ∈ c.keys, key ≠ "" ∧ Key.isValid key = true
  fields : c.FieldsProper

theorem forall_range_iff {α : Type} {parts : List α} {Met : α → Prop} :
    (∀ index ∈ List.range parts.length, ∀ a ∈ parts[index]?, Met a) ↔ ∀ a ∈ parts, Met a := by
  constructor
  · intro each a member
    obtain ⟨index, found⟩ := List.mem_iff_getElem?.1 member
    obtain ⟨short, -⟩ := List.getElem?_eq_some_iff.1 found
    exact each index (List.mem_range.2 short) a found
  · intro each index _ a found
    exact each a (List.mem_of_getElem? found)

theorem versionRequirements_met_iff (c : Config) :
    (∀ r ∈ c.versionRequirements, r.MetBy c) ↔ c.FieldsProper := by
  cases c with
  | simple body =>
    simp only [versionRequirements, List.forall_mem_append, List.forall_mem_singleton,
      List.forall_mem_map, MetBy, forall_range_iff, FieldsProper]
    simp [keys]
  | detailed body =>
    simp only [versionRequirements, List.forall_mem_map, MetBy, forall_range_iff, FieldsProper]

theorem unmet_eq_nil_iff (c : Config) : c.unmet = [] ↔ c.Proper := by
  have each : c.unmet = [] ↔ ∀ r ∈ c.requirements, r.MetBy c := by
    simp [unmet]
  have byKey : (∀ index ∈ List.range c.fieldCount, (key index).MetBy c) ↔
      ∀ key ∈ c.keys, key ≠ "" ∧ Key.isValid key = true := forall_range_iff
  rw [each, requirements]
  simp only [List.forall_mem_append, List.forall_mem_cons, List.forall_mem_map, byKey,
    versionRequirements_met_iff]
  constructor
  · rintro ⟨⟨⟨name, description, -⟩, keys⟩, fields⟩
    exact ⟨name, description, keys, fields⟩
  · rintro ⟨name, description, keys, fields⟩
    exact ⟨⟨⟨name, description, by simp⟩, keys⟩, fields⟩

theorem passes_iff (c : Config) : c.passes = true ↔ c.Proper := by
  rw [← unmet_eq_nil_iff, passes, List.isEmpty_iff, ← List.map_eq_nil_iff, map_path_issues,
    List.map_eq_nil_iff]

theorem lt_fieldCount_of_index? {c : Config} {r : Requirement} (member : r ∈ c.requirements)
    {index : Nat} (named : r.index? = some index) : index < c.fieldCount := by
  have family : ∀ s : Nat → Requirement, (∀ i, (s i).index? = some i) →
      r ∈ (List.range c.fieldCount).map s → index < c.fieldCount := by
    intro s indexed inside
    obtain ⟨i, short, rfl⟩ := List.mem_map.1 inside
    rw [indexed, Option.some.injEq] at named
    exact named ▸ List.mem_range.1 short
  rcases List.mem_append.1 member with first | version
  · rcases List.mem_append.1 first with whole | keys
    · simp only [List.mem_cons, List.not_mem_nil, or_false] at whole
      rcases whole with rfl | rfl
      · cases named
      · cases named
    · exact family key (fun _ => rfl) keys
  · cases c with
    | simple body =>
      rcases List.mem_append.1 version with nonempty | prompts
      · rw [List.mem_singleton.1 nonempty] at named
        cases named
      · exact family prompt (fun _ => rfl) (by rwa [fieldCount, keys, List.length_map])
    | detailed body =>
      exact family fallback (fun _ => rfl) (by rwa [fieldCount, keys, List.length_map])

theorem nodup_requirements (c : Config) : c.requirements.Nodup := by
  have family : ∀ (r : Nat → Requirement) (n : Nat), Function.Injective r →
      ((List.range n).map r).Nodup :=
    fun r n injective => List.nodup_range.map injective
  have keys := family key c.fieldCount fun i j same => key.inj same
  cases c with
  | simple body =>
    have prompts := family prompt body.fields.length fun i j same => prompt.inj same
    simp [requirements, versionRequirements, List.nodup_append, keys, prompts]
  | detailed body =>
    have fallbacks := family fallback body.fields.length fun i j same => fallback.inj same
    simp [requirements, versionRequirements, List.nodup_append, keys, fallbacks]

theorem nodup_issuePaths (c : Config) : (c.issues.map Issue.path).Nodup := by
  rw [map_path_issues]
  exact (c.nodup_requirements.filter _).map path_injective

/-- A config passes when it meets every requirement.  Its issues name the others by their paths,
each once and in order; no two have one path, and a path inside a field leads to a field that is
there. -/
theorem issues_exact (c : Config) :
    (c.passes = true ↔ c.Proper) ∧ c.issues.map Issue.path = c.unmet.map path ∧
      (c.issues.map Issue.path).Nodup ∧
      ∀ i ∈ c.issues, ∀ index property, i.path = "fields." ++ toString index ++ "." ++ property →
        index < c.fieldCount := by
  refine ⟨c.passes_iff, c.map_path_issues, c.nodup_issuePaths, ?_⟩
  intro i member index property inside
  have named : i.path ∈ c.unmet.map path := by
    rw [← map_path_issues]
    exact List.mem_map_of_mem member
  obtain ⟨r, violated, same⟩ := List.mem_map.1 named
  exact lt_fieldCount_of_index? (List.mem_filter.1 violated).1 (index?_of_path (same.trans inside))

/-- A config with several faults.  A control that is White_Space does not make a prompt. -/
def faulty : Config := .simple ⟨"My Config", Version.simple.summary, [
  ⟨"email", none, "The address", none⟩, ⟨"Job_title", none, " \x85\n", none⟩,
  ⟨"", some "é", "The town", none⟩]⟩

theorem issues_exact_faulty :
    ⟨"fields.1.prompt", "cannot be empty"⟩ ∈ faulty.issues ∧ 1 < faulty.fieldCount ∧
      ¬ faulty.Proper ∧
      faulty.unmet.map path = ["name", "fields.1.key", "fields.2.key", "fields.1.prompt"] := by
  obtain ⟨passes, paths, -, inside⟩ := issues_exact faulty
  have member : ⟨"fields.1.prompt", "cannot be empty"⟩ ∈ faulty.issues := by decide +kernel
  refine ⟨member, inside _ member 1 "prompt" rfl, ?_, ?_⟩
  · rw [← passes]
    decide +kernel
  · rw [← paths]
    decide +kernel

end Config

end ExtractionPrompt
