/-!
Collecting properties one after another: a repeated name keeps its first place and takes its last
value.  The names of a collection are distinct, and entries whose names are distinct already are
collected as they are.
-/

namespace ExtractionPrompt.Json

variable {α : Type}

/-- A name that is there already keeps its place and takes the new value. -/
def put (name : String) (value : α) : List (String × α) → List (String × α)
  | [] => [(name, value)]
  | (other, old) :: rest =>
    if other = name then (name, value) :: rest else (other, old) :: put name value rest

def collect (entries : List (String × α)) : List (String × α) :=
  entries.foldl (fun properties (name, value) => put name value properties) []

theorem lookup_cons_eq_ite (name other : String) (value : α) (rest : List (String × α)) :
    List.lookup other ((name, value) :: rest) =
      if other = name then some value else rest.lookup other := by
  by_cases same : other = name
  · simp [same]
  · simp [List.lookup_cons, beq_eq_false_iff_ne.2 same, same]

theorem lookup_put (name other : String) (value : α) (properties : List (String × α)) :
    (put name value properties).lookup other =
      if other = name then some value else properties.lookup other := by
  induction properties with
  | nil => simp only [put, lookup_cons_eq_ite]
  | cons p rest ih =>
    obtain ⟨first, old⟩ := p
    by_cases here : first = name
    · subst here
      by_cases same : other = first <;> simp [put, lookup_cons_eq_ite, same]
    · rw [put, if_neg here, lookup_cons_eq_ite, lookup_cons_eq_ite, ih]
      by_cases same : other = first
      · simp [same, here]
      · simp [same]

/-- The names keep their order; a new one comes last. -/
theorem map_fst_put (name : String) (value : α) (properties : List (String × α)) :
    (put name value properties).map Prod.fst =
      if name ∈ properties.map Prod.fst then properties.map Prod.fst
        else properties.map Prod.fst ++ [name] := by
  induction properties with
  | nil => simp [put]
  | cons p rest ih =>
    obtain ⟨first, old⟩ := p
    by_cases here : first = name
    · simp [put, here]
    · have other : name ≠ first := fun same => here same.symm
      simp only [put, if_neg here, List.map_cons, ih, List.mem_cons, other, false_or]
      split <;> simp_all

theorem nodup_put (name : String) (value : α) (properties : List (String × α))
    (distinct : (properties.map Prod.fst).Nodup) :
    ((put name value properties).map Prod.fst).Nodup := by
  rw [map_fst_put]
  split
  · exact distinct
  · rename_i absent
    refine List.nodup_append.2 ⟨distinct, by simp, fun a member b last same => absent ?_⟩
    rw [List.mem_singleton] at last
    exact last ▸ same ▸ member

theorem nodup_collect (entries : List (String × α)) : ((collect entries).map Prod.fst).Nodup := by
  suffices h : ∀ properties : List (String × α), (properties.map Prod.fst).Nodup →
      ((entries.foldl (fun properties (name, value) => put name value properties) properties).map
        Prod.fst).Nodup from
    h [] (by simp)
  induction entries with
  | nil => exact fun _ distinct => distinct
  | cons p rest ih => exact fun properties distinct => ih _ (nodup_put p.1 p.2 properties distinct)

theorem put_of_notMem (name : String) (value : α) (properties : List (String × α))
    (absent : name ∉ properties.map Prod.fst) :
    put name value properties = properties ++ [(name, value)] := by
  induction properties with
  | nil => rfl
  | cons p rest ih =>
    simp only [List.map_cons, List.mem_cons, not_or] at absent
    rw [put, if_neg (fun same => absent.1 same.symm), ih absent.2, List.cons_append]

theorem collect_of_nodup (entries : List (String × α)) (distinct : (entries.map Prod.fst).Nodup) :
    collect entries = entries := by
  suffices h : ∀ before : List (String × α), ((before ++ entries).map Prod.fst).Nodup →
      entries.foldl (fun properties (name, value) => put name value properties) before =
        before ++ entries from
    h [] distinct
  induction entries with
  | nil => exact fun before _ => by simp
  | cons p rest ih =>
    intro before distinctAll
    have fresh : p.1 ∉ before.map Prod.fst := fun member => by
      rw [List.map_append, List.nodup_append] at distinctAll
      exact distinctAll.2.2 p.1 member p.1 (by simp) rfl
    have shift : (before ++ [p]) ++ rest = before ++ p :: rest := by simp
    show rest.foldl _ (put p.1 p.2 before) = _
    rw [put_of_notMem _ _ _ fresh, ih (List.nodup_cons.1 distinct).2 _ (shift ▸ distinctAll), shift]

theorem lookup_of_mem {name : String} {value : α} {properties : List (String × α)}
    (distinct : (properties.map Prod.fst).Nodup) (member : (name, value) ∈ properties) :
    properties.lookup name = some value := by
  induction properties with
  | nil => cases member
  | cons p rest ih =>
    obtain ⟨first, old⟩ := p
    obtain ⟨absent, others⟩ := List.nodup_cons.1 distinct
    rw [lookup_cons_eq_ite]
    rcases List.mem_cons.1 member with same | later
    · obtain ⟨rfl, rfl⟩ := Prod.mk.inj same
      rw [if_pos rfl]
    · have inside : name ∈ rest.map Prod.fst := List.mem_map.2 ⟨(name, value), later, rfl⟩
      have other : name ≠ first := fun same => absent (same ▸ inside)
      rw [if_neg other, ih others later]

theorem mem_of_lookup {name : String} {value : α} {properties : List (String × α)}
    (found : properties.lookup name = some value) : (name, value) ∈ properties := by
  obtain ⟨before, after, split, -⟩ := List.lookup_eq_some_iff.1 found
  simp [split]

/-- A name has the value of its last entry. -/
theorem lookup_collect (entries : List (String × α)) (name : String) :
    (collect entries).lookup name = entries.reverse.lookup name := by
  suffices h : ∀ before : List (String × α),
      (entries.foldl (fun properties (name, value) => put name value properties) before).lookup
          name =
        (entries.reverse.lookup name).or (before.lookup name) from by simpa [collect] using h []
  induction entries with
  | nil => exact fun before => by simp
  | cons p rest ih =>
    intro before
    obtain ⟨first, value⟩ := p
    rw [List.foldl_cons, ih, lookup_put, List.reverse_cons, List.lookup_append, Option.or_assoc,
      lookup_cons_eq_ite]
    by_cases same : name = first <;> simp [same]

/-- What is collected was entered. -/
theorem mem_of_mem_collect {entries : List (String × α)} {p : String × α}
    (member : p ∈ collect entries) :
    p ∈ entries := by
  have last := lookup_of_mem (nodup_collect entries) member
  rw [lookup_collect] at last
  exact List.mem_reverse.1 (mem_of_lookup last)

/-- The names stand in the order of their first entries. -/
theorem map_fst_collect (entries : List (String × α)) :
    (collect entries).map Prod.fst = (entries.map Prod.fst).eraseDups := by
  suffices h : ∀ before : List (String × α),
      (entries.foldl (fun properties (name, value) => put name value properties) before).map
          Prod.fst =
        before.map Prod.fst ++
          ((entries.map Prod.fst).filter fun name => name ∉ before.map Prod.fst).eraseDups from by
    have start := h []
    rw [List.filter_eq_self.2 (by simp)] at start
    exact start
  induction entries with
  | nil => exact fun before => by simp
  | cons p rest ih =>
    intro before
    rw [List.foldl_cons, ih, map_fst_put]
    by_cases known : p.1 ∈ before.map Prod.fst
    · rw [if_pos known, List.map_cons, List.filter_cons_of_neg (by simpa using known)]
    · rw [if_neg known, List.map_cons, List.filter_cons_of_pos (by simpa using known),
        List.eraseDups_cons, List.filter_filter, List.append_assoc, List.singleton_append]
      congr 4
      funext name
      rw [Bool.eq_iff_iff, Bool.and_eq_true, decide_eq_true_iff, decide_eq_true_iff,
        List.mem_append, not_or, List.mem_singleton, Bool.not_eq_true',
        beq_eq_false_iff_ne, and_comm]

end ExtractionPrompt.Json
