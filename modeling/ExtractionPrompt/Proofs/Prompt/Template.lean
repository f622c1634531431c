import ExtractionPrompt.Proofs.Json.ReadBack
import ExtractionPrompt.Proofs.Prompt.Parts
import ExtractionPrompt.Proofs.Text.Excerpt

/-!
The output template inside a prompt.  Whatever texts a config holds, the template is what stands
between the last occurrence of its mark and the next closing mark, and it is the JSON object that
offers every key its value.  No text in front of the mark can move it, and inside the template every
text is escaped, so its lines are the layout's own.
-/

namespace ExtractionPrompt

open Json Text

/-- Where a line breaks inside a template: not behind a colon, and before a blank or the closing
bracket. -/
def TidyBreak (c d : Char) : Prop := (d = '\n' → c ≠ ':') ∧ (c = '\n' → d = ' ' ∨ d = '}')

theorem isChain_of_notMem {line : List Char} (oneLine : '\n' ∉ line) : line.IsChain TidyBreak := by
  induction line with
  | nil => exact .nil
  | cons c rest ih =>
    simp only [List.mem_cons, not_or] at oneLine
    refine List.isChain_cons.2 ⟨?_, ih oneLine.2⟩
    intro d next
    constructor
    · rintro rfl
      exact absurd (List.mem_of_head? next) oneLine.2
    · rintro rfl
      exact absurd rfl oneLine.1

theorem isChain_line_append {line s : List Char} (oneLine : '\n' ∉ line)
    (ending : line.getLast? ≠ some ':')
    (start : ∀ d ∈ s.head?, d = ' ' ∨ d = '}') (chain : s.IsChain TidyBreak) :
    (line ++ '\n' :: s).IsChain TidyBreak := by
  refine List.isChain_append.2 ⟨isChain_of_notMem oneLine, List.isChain_cons.2 ⟨?_, chain⟩, ?_⟩
  · intro d next
    refine ⟨?_, fun _ => start d next⟩
    rintro rfl
    exact absurd (start '\n' next) (by decide)
  · intro c last d next
    cases next
    refine ⟨?_, ?_⟩
    · rintro - rfl
      exact ending last
    · rintro rfl
      exact absurd (List.mem_of_getLast? last) oneLine

theorem isChain_notColon {text : List Char} (chain : text.IsChain TidyBreak)
    (ended : text.getLast? = some '}') :
    (text ++ ['\n']).IsChain fun c d => d = '\n' → c ≠ ':' := by
  refine List.isChain_append.2 ⟨chain.imp fun c d tidy => tidy.1, .singleton '\n', ?_⟩
  intro c last d _ _
  rw [ended] at last
  cases last
  decide

theorem isChain_notStart {text : List Char} {d : Char} (blank : d ≠ ' ') (bracket : d ≠ '}')
    (chain : text.IsChain TidyBreak) : text.IsChain fun c e => c = '\n' → e ≠ d := by
  refine chain.imp ?_
  rintro c e ⟨_, start⟩ broken rfl
  rcases start broken with same | same
  · exact blank same
  · exact bracket same

/-- What a template may offer for a key. -/
def IsOffer (v : Json) : Prop := v = .null ∨ ∃ s, v = .string s

/-- A property of a template on its line. -/
def entryLine (p : String × Json) : List Char :=
  ' ' :: ' ' :: (stringText p.1 ++ ':' :: ' ' :: indented 1 p.2)

theorem newline_notMem_entryLine {p : String × Json} (offer : IsOffer p.2) :
    '\n' ∉ entryLine p := by
  have name := newline_notMem_stringText p.1
  rcases offer with null | ⟨s, string⟩
  · simp [entryLine, null, indented, name]
  · simp [entryLine, string, indented, name, newline_notMem_stringText s]

theorem getLast?_entryLine {p : String × Json} (offer : IsOffer p.2) :
    (entryLine p).getLast? ≠ some ':' := by
  rcases offer with null | ⟨s, string⟩
  · simp [entryLine, null, indented, List.getLast?_cons, List.getLast?_append]
  · simp [entryLine, string, indented, stringText, List.getLast?_cons, List.getLast?_append]

theorem indentedProperties_cons (p : String × Json) (rest : List (String × Json)) :
    indentedProperties 1 (p :: rest) =
      ',' :: '\n' :: (entryLine p ++ indentedProperties 1 rest) := by
  simp [indentedProperties, entryLine, newLine]

theorem isChain_entryLines (p : String × Json) (rest : List (String × Json))
    (offers : ∀ q ∈ p :: rest, IsOffer q.2) :
    (entryLine p ++ (indentedProperties 1 rest ++ ['\n', '}'])).IsChain TidyBreak := by
  have first : IsOffer p.2 := offers p List.mem_cons_self
  induction rest generalizing p with
  | nil =>
    refine isChain_line_append (newline_notMem_entryLine first) (getLast?_entryLine first) ?_
      (.singleton '}')
    simp
  | cons q rest ih =>
    have second : IsOffer q.2 := offers q (by simp)
    have later := ih q (fun r member => offers r (List.mem_cons_of_mem p member)) second
    have split : entryLine p ++ (indentedProperties 1 (q :: rest) ++ ['\n', '}']) =
        (entryLine p ++ [',']) ++
          '\n' :: (entryLine q ++ (indentedProperties 1 rest ++ ['\n', '}'])) := by
      simp [indentedProperties_cons]
    rw [split]
    refine isChain_line_append ?_ ?_ ?_ later
    · simp [newline_notMem_entryLine first]
    · simp
    · simp [entryLine]

/-- The text of a template breaks tidily, and it ends with its closing bracket. -/
theorem isChain_indented_object (properties : List (String × Json))
    (offers : ∀ p ∈ properties, IsOffer p.2) :
    (indented 0 (object properties)).IsChain TidyBreak ∧
    (indented 0 (object properties)).getLast? = some '}' := by
  cases properties with
  | nil =>
    refine ⟨isChain_of_notMem ?_, ?_⟩
    · simp [indented]
    · simp [indented]
  | cons p rest =>
    have split : indented 0 (object (p :: rest)) =
        ['{'] ++ '\n' :: (entryLine p ++ (indentedProperties 1 rest ++ ['\n', '}'])) := by
      simp [indented, entryLine, newLine]
    rw [split]
    constructor
    · refine isChain_line_append (by simp) (by simp) ?_ (isChain_entryLines p rest offers)
      simp [entryLine]
    · simp [List.getLast?_append, List.getLast?_cons]

namespace Version

/-- The text of a prompt that stands for the template: behind the last mark, up to the next closing
mark. -/
def excerpt? (v : Version) (prompt : String) : Option String :=
  ((afterLast? v.templateMark.toList prompt.toList).bind (beforeFirst? v.templateEnd.toList)).map
    String.ofList

/-- No mark starts behind the first character of the last one. -/
theorem templateMark_absent (v : Version) {text : List Char} (chain : text.IsChain TidyBreak)
    (ended : text.getLast? = some '}') :
    ¬ v.templateMark.toList <:+:
      v.templateMark.toList.tail ++ (text ++ (v.templateEnd.toList ++ v.documentPart.toList)) := by
  intro inside
  have lines := isChain_notColon chain ended
  -- The first letter of a mark does not occur in it again, so the mark would start in the template
  -- or behind it.
  cases v with
  | simple =>
    simp only [templateMark, templateEnd, documentPart, Wording.slot, String.toList_append,
      String.reduceToList] at inside
    have behind := infix_of_infix_append (by decide) inside
    exact not_infix_of_isChain "STRICT OUTPUT FORMAT".toList (by decide) lines (by decide) behind
  | detailed =>
    simp only [templateMark, templateEnd, documentPart, Wording.slot, String.toList_append,
      String.reduceToList] at inside
    have behind := infix_of_infix_append (by decide) inside
    exact not_infix_of_isChain "Strict output format".toList (by decide) lines (by decide) behind

/-- The closing mark does not start inside the text. -/
theorem beforeFirst?_templateEnd (v : Version) {text : List Char} (rest : List Char)
    (chain : text.IsChain TidyBreak) (ended : text.getLast? = some '}') :
    beforeFirst? v.templateEnd.toList (text ++ (v.templateEnd.toList ++ rest)) = some text := by
  have notBreak : text.getLast? ≠ some '\n' := by
    rw [ended]
    decide
  cases v with
  | simple =>
    exact beforeFirst?_of_isChain (isChain_notStart (by decide) (by decide) chain) notBreak
  | detailed =>
    exact beforeFirst?_of_isChain (isChain_notStart (by decide) (by decide) chain) notBreak

/-- A text that breaks tidily and was put between the marks is the one that is cut out. -/
theorem excerpt?_eq_some (v : Version) (front : String) {text : String}
    (chain : text.toList.IsChain TidyBreak)
    (ended : text.toList.getLast? = some '}') :
    v.excerpt? (front ++ (v.templateMark ++ (text ++ (v.templateEnd ++ v.documentPart)))) =
      some text := by
  have absent := templateMark_absent v chain ended
  have inner := beforeFirst?_templateEnd v v.documentPart.toList chain ended
  obtain ⟨first, mark, spelled⟩ : ∃ first mark, v.templateMark.toList = first :: mark := by
    cases v with
    | simple => exact ⟨_, _, rfl⟩
    | detailed => exact ⟨_, _, rfl⟩
  rw [spelled, List.tail_cons] at absent
  rw [excerpt?, String.toList_append, String.toList_append, String.toList_append,
    String.toList_append, spelled, afterLast?_mark_append front.toList absent, Option.bind_some,
    inner, Option.map_some, String.ofList_toList]

end Version

namespace Config

/-- What every field puts into the template, in declaration order. -/
def offers : Config → List (String × Json)
  | simple body => body.fields.map fun f => (f.key, .string "")
  | detailed body => body.fields.map fun f => (f.key, f.templateValue)

theorem template_eq (c : Config) : c.template = .object (collect c.offers) := by
  cases c with
  | simple body => rfl
  | detailed body => rfl

theorem map_fst_offers (c : Config) : c.offers.map Prod.fst = c.keys := by
  cases c with
  | simple body => simp [offers, keys]
  | detailed body => simp [offers, keys]

theorem isOffer_of_mem_offers {c : Config} {p : String × Json} (member : p ∈ c.offers) :
    IsOffer p.2 := by
  cases c with
  | simple body =>
    obtain ⟨f, _, rfl⟩ := List.mem_map.1 member
    exact .inr ⟨"", rfl⟩
  | detailed body =>
    obtain ⟨f, _, rfl⟩ := List.mem_map.1 member
    by_cases empty : f.defaultValue = ""
    · exact .inl (if_pos empty)
    · exact .inr ⟨f.defaultValue, if_neg empty⟩

/-- What a template says about a key: the empty text in a simple config, and in a detailed one the
default of the last field with the key, or null when that is empty. -/
def lastOffer : Config → String → Json
  | simple _, _ => .string ""
  | detailed body, key =>
    match body.fields.reverse.find? (·.key = key) with
    | some f => if f.defaultValue = "" then .null else .string f.defaultValue
    | none => .null

theorem lookup_map_eq_find? {Field : Type} (key : Field → String) (value : Field → Json)
    (fields : List Field) (name : String) :
    (fields.map fun f => (key f, value f)).lookup name =
      (fields.find? fun f => key f = name).map value := by
  induction fields with
  | nil => rfl
  | cons f rest ih =>
    rw [List.map_cons, lookup_cons_eq_ite, ih, List.find?_cons]
    by_cases same : key f = name
    · simp [same]
    · have other : name ≠ key f := fun h => same h.symm
      simp [same, other]

theorem eq_lastOffer_of_mem_collect {c : Config} {key : String} {v : Json}
    (member : (key, v) ∈ collect c.offers) :
    v = c.lastOffer key := by
  have last := lookup_of_mem (nodup_collect c.offers) member
  rw [lookup_collect] at last
  cases c with
  | simple body =>
    rw [offers, ← List.map_reverse, lookup_map_eq_find?, Option.map_eq_some_iff] at last
    obtain ⟨f, _, rfl⟩ := last
    rfl
  | detailed body =>
    rw [offers, ← List.map_reverse, lookup_map_eq_find?, Option.map_eq_some_iff] at last
    obtain ⟨f, found, rfl⟩ := last
    rw [lastOffer, found]
    rfl

theorem isOffer_of_mem_collect {c : Config} {p : String × Json} (member : p ∈ collect c.offers) :
    IsOffer p.2 :=
  isOffer_of_mem_offers (mem_of_mem_collect member)

theorem legible_template (c : Config) {embeds : Bool}
    (itself : embeds = false ∨ c.keys.head? ≠ some embeddedName) :
    Legible embeds maxDepth c.template := by
  rw [template_eq]
  refine .object 126 _ (nodup_collect c.offers) ?_ ?_
  · refine itself.imp_right fun other => ?_
    have first : c.keys.eraseDups.head? = c.keys.head? := by
      cases c.keys with
      | nil => rfl
      | cons key rest => rw [List.eraseDups_cons, List.head?_cons, List.head?_cons]
    rwa [← List.head?_map, map_fst_collect, map_fst_offers, first]
  · intro p member
    rcases isOffer_of_mem_collect member with null | ⟨s, string⟩
    · exact null ▸ .null 126
    · exact string ▸ .string 126 s

/-- Whatever texts a config holds, the text between the last mark and the next closing mark of its
prompt is an object that says of every key, in the order of first use, what the last field with it
offers.  Where embedded values are read for what they stand for, the reading is the same unless the
first key is their name. -/
theorem excerpt_of_prompt (c : Config) :
    ∃ text properties, c.version.excerpt? c.prompt = some text ∧
      parsePlain? text = some (.object properties) ∧
      properties.map Prod.fst = c.keys.eraseDups ∧
      (∀ key v, (key, v) ∈ properties → v = c.lastOffer key) ∧
      (c.keys.head? ≠ some embeddedName → parse? text = some (.object properties)) := by
  obtain ⟨front, whole⟩ := c.prompt_eq
  have tidy := isChain_indented_object (collect c.offers) fun p => isOffer_of_mem_collect
  have cut : c.version.excerpt? c.prompt = some c.template.pretty := by
    rw [whole]
    refine Version.excerpt?_eq_some c.version front ?_ ?_
    · rw [pretty, String.toList_ofList, template_eq]
      exact tidy.1
    · rw [pretty, String.toList_ofList, template_eq]
      exact tidy.2
  refine ⟨c.template.pretty, collect c.offers, cut, ?_, ?_, ?_, ?_⟩
  · rw [parsePlain?, parseAs_pretty (c.legible_template (.inl rfl)), template_eq]
    rfl
  · rw [map_fst_collect, map_fst_offers]
  · intro key v member
    exact eq_lastOffer_of_mem_collect member
  · intro other
    rw [parse?, parseAs_pretty (c.legible_template (.inr other)), template_eq]
    rfl

end Config

end ExtractionPrompt
