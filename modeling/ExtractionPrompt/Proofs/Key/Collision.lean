import ExtractionPrompt.Key.Collision
import Mathlib.Data.List.Nodup

/-!
What a walk over the keys reports: every key with more than one place, once, with all its places.  A
step keeps the report right for the keys seen so far, and so does a whole walk.
-/

namespace ExtractionPrompt.Collision

theorem mem_idxsOf_iff {keys : List String} {key : String} {i : Nat} :
    i ∈ keys.idxsOf key ↔ keys[i]? = some key := by
  rw [List.mem_idxsOf_iff_exists_getElem_pos, List.getElem?_eq_some_iff]
  simp

theorem idxsOf_concat_self (key : String) (seen : List String) :
    (seen ++ [key]).idxsOf key = seen.idxsOf key ++ [seen.length] := by
  simp

theorem idxsOf_concat_of_ne {key next : String} (other : next ≠ key) (seen : List String) :
    (seen ++ [next]).idxsOf key = seen.idxsOf key := by
  simp [other]

/-- A collision says where its key stands among the keys seen so far, and that is more than one
place. -/
def Accurate (seen : List String) (c : Collision) : Prop :=
  c.fieldIndices = seen.idxsOf c.key ∧ 2 ≤ c.fieldIndices.length

/-- What a walk knows of the keys seen so far. -/
structure Walk.Reports (w : Walk) (seen : List String) : Prop where
  firstUse : ∀ key, w.firstUses.lookup key = (seen.idxsOf key).head?
  accurate : ∀ c, c ∈ w.collisions ↔ Accurate seen c
  once : (w.collisions.map (·.key)).Nodup

theorem Walk.reports_start : Walk.Reports ⟨[], []⟩ [] where
  firstUse _ := rfl
  accurate c := by
    constructor
    · intro member
      cases member
    · rintro ⟨places, several⟩
      rw [places] at several
      simp at several
  once := .nil

theorem map_key_extend (key : String) (index : Nat) (collisions : List Collision) :
    (extend key index collisions).map (·.key) = collisions.map (·.key) := by
  rw [extend, List.map_map]
  apply List.map_congr_left
  intro c _
  by_cases same : c.key = key
  · simp [same]
  · simp [same]

/-- Another key says nothing about a collision. -/
theorem accurate_concat_of_ne {next : String} {seen : List String} {c : Collision}
    (other : next ≠ c.key) :
    Accurate (seen ++ [next]) c ↔ Accurate seen c := by
  rw [Accurate, Accurate, idxsOf_concat_of_ne other]

theorem mem_extend_of_ne {key : String} {index : Nat} {collisions : List Collision} {c : Collision}
    (other : key ≠ c.key) : c ∈ extend key index collisions ↔ c ∈ collisions := by
  rw [extend, List.mem_map]
  constructor
  · rintro ⟨d, member, rfl⟩
    by_cases same : d.key = key
    · rw [if_pos same] at other
      exact absurd same.symm other
    · rwa [if_neg same]
  · intro member
    exact ⟨c, member, if_neg other.symm⟩

namespace Walk

variable {w : Walk} {seen : List String} {key : String}

theorem Reports.step_new (reports : w.Reports seen) (new : w.firstUses.lookup key = none) :
    (w.step key seen.length).Reports (seen ++ [key]) := by
  have unused : seen.idxsOf key = [] := by
    rw [reports.firstUse] at new
    exact List.head?_eq_none_iff.1 new
  have next : w.step key seen.length =
      { w with firstUses := w.firstUses ++ [(key, seen.length)] } := by
    rw [step, new]
  rw [next]
  refine ⟨?firstUse, ?accurate, reports.once⟩
  case firstUse =>
    intro k
    by_cases same : key = k
    · subst same
      rw [List.lookup_append, new, idxsOf_concat_self, unused]
      simp
    · have absent : List.lookup k [(key, seen.length)] = none := by
        rw [List.lookup_eq_none_iff]
        simpa using Ne.symm same
      rw [List.lookup_append, idxsOf_concat_of_ne same, reports.firstUse, absent, Option.or_none]
  case accurate =>
    intro c
    rw [reports.accurate]
    by_cases same : key = c.key
    · subst same
      -- One place is no collision yet.
      constructor
      · rintro ⟨places, several⟩
        rw [places, unused] at several
        simp at several
      · rintro ⟨places, several⟩
        rw [places, idxsOf_concat_self, unused] at several
        simp at several
    · rw [accurate_concat_of_ne same]

/-- The first places do not change when a key comes again. -/
theorem Reports.firstUse_again (reports : w.Reports seen)
    {first : Nat} (known : w.firstUses.lookup key = some first) :
    ∀ k, w.firstUses.lookup k = ((seen ++ [key]).idxsOf k).head? := by
  intro k
  by_cases same : key = k
  · subst same
    rw [idxsOf_concat_self, List.head?_append, ← reports.firstUse, known]
    rfl
  · rw [idxsOf_concat_of_ne same, reports.firstUse]

theorem Reports.step_reported (reports : w.Reports seen)
    {first : Nat} (known : w.firstUses.lookup key = some first)
    (reported : ∃ c ∈ w.collisions, c.key = key) :
    (w.step key seen.length).Reports (seen ++ [key]) := by
  have next : w.step key seen.length =
      { w with collisions := extend key seen.length w.collisions } := by
    have found : w.collisions.any (·.key == key) = true := by simpa using reported
    rw [step, known]
    simp [found]
  rw [next]
  refine ⟨reports.firstUse_again known, ?accurate, ?once⟩
  case accurate =>
    intro c
    by_cases same : key = c.key
    · constructor
      · intro member
        obtain ⟨d, old, rfl⟩ := List.mem_map.1 member
        obtain ⟨places, several⟩ := (reports.accurate d).1 old
        by_cases here : d.key = key
        · subst here
          rw [if_pos rfl]
          refine ⟨by rw [idxsOf_concat_self, places], ?_⟩
          rw [List.length_append]
          omega
        · rw [if_neg here] at same
          exact absurd same.symm here
      · rintro ⟨places, several⟩
        obtain ⟨d, old, rfl⟩ := reported
        have before := ((reports.accurate d).1 old).1
        refine List.mem_map.2 ⟨d, old, ?_⟩
        rw [if_pos rfl]
        cases c with
        | mk k indices =>
          dsimp only at same places ⊢
          subst same
          rw [places, before, idxsOf_concat_self]
    · rw [mem_extend_of_ne same, reports.accurate, accurate_concat_of_ne same]
  case once =>
    rw [map_key_extend]
    exact reports.once

theorem Reports.step_second (reports : w.Reports seen)
    {first : Nat} (known : w.firstUses.lookup key = some first)
    (unreported : ¬ ∃ c ∈ w.collisions, c.key = key) :
    (w.step key seen.length).Reports (seen ++ [key]) := by
  have next : w.step key seen.length =
      { w with collisions := w.collisions ++ [⟨key, [first, seen.length]⟩] } := by
    have absent : w.collisions.any (·.key == key) = false := by simpa using unreported
    rw [step, known]
    simp [absent]
  -- A key with one place behind its first would have been reported.
  have alone : seen.idxsOf key = [first] := by
    rw [reports.firstUse] at known
    obtain ⟨rest, places⟩ := List.head?_eq_some_iff.1 known
    cases rest with
    | nil => exact places
    | cons second rest =>
      refine absurd ⟨⟨key, seen.idxsOf key⟩, (reports.accurate _).2 ⟨rfl, ?_⟩, rfl⟩ unreported
      simp [places]
  rw [next]
  refine ⟨reports.firstUse_again known, ?accurate, ?once⟩
  case accurate =>
    intro c
    rw [List.mem_append, List.mem_singleton]
    by_cases same : key = c.key
    · constructor
      · rintro (old | rfl)
        · exact absurd ⟨c, old, same.symm⟩ unreported
        · exact ⟨by rw [idxsOf_concat_self, alone]; rfl, by simp⟩
      · rintro ⟨places, several⟩
        right
        cases c with
        | mk k indices =>
          dsimp only at same places ⊢
          subst same
          rw [places, idxsOf_concat_self, alone]
          rfl
    · rw [accurate_concat_of_ne same, reports.accurate]
      constructor
      · rintro (old | rfl)
        · exact old
        · exact absurd rfl same
      · exact .inl
  case once =>
    rw [List.map_append, List.nodup_append]
    refine ⟨reports.once, by simp, ?_⟩
    intro k old j new same
    obtain ⟨c, member, rfl⟩ := List.mem_map.1 old
    rw [List.map_singleton, List.mem_singleton] at new
    exact unreported ⟨c, member, same.trans new⟩

/-- A step keeps the report right. -/
theorem Reports.step (reports : w.Reports seen) (key : String) :
    (w.step key seen.length).Reports (seen ++ [key]) := by
  cases known : w.firstUses.lookup key with
  | none => exact reports.step_new known
  | some first =>
    by_cases reported : ∃ c ∈ w.collisions, c.key = key
    · exact reports.step_reported known reported
    · exact reports.step_second known reported

theorem Reports.walk (reports : w.Reports seen) (keys : List String) :
    (walk w seen.length keys).Reports (seen ++ keys) := by
  induction keys generalizing w seen with
  | nil =>
    rw [List.append_nil]
    exact reports
  | cons key rest ih =>
    have later := ih (reports.step key)
    rwa [List.length_append, List.length_singleton, List.append_assoc,
      List.singleton_append] at later

end Walk

/-- What is reported of a list of keys. -/
theorem reports_find (keys : List String) :
    (∀ c, c ∈ find keys ↔ Accurate keys c) ∧ ((find keys).map (·.key)).Nodup := by
  have whole := Walk.reports_start.walk keys
  exact ⟨whole.accurate, whole.once⟩

theorem accurate_of_mem_find {keys : List String} {c : Collision} (member : c ∈ find keys) :
    Accurate keys c :=
  ((reports_find keys).1 c).1 member

/-- Two places of one key are reported together. -/
theorem exists_mem_find {keys : List String} {key : String} {i j : Nat} (apart : i ≠ j)
    (left : keys[i]? = some key) (right : keys[j]? = some key) :
    ∃ c ∈ find keys, c.key = key ∧ i ∈ c.fieldIndices ∧ j ∈ c.fieldIndices := by
  have here := mem_idxsOf_iff.2 left
  have there := mem_idxsOf_iff.2 right
  refine ⟨⟨key, keys.idxsOf key⟩, ((reports_find keys).1 _).2 ⟨rfl, ?_⟩, rfl, here, there⟩
  obtain ⟨n, first⟩ := List.mem_iff_getElem?.1 here
  obtain ⟨m, second⟩ := List.mem_iff_getElem?.1 there
  have distinct : n ≠ m := by
    rintro rfl
    exact apart (Option.some.inj (first.symm.trans second))
  obtain ⟨shortLeft, -⟩ := List.getElem?_eq_some_iff.1 first
  obtain ⟨shortRight, -⟩ := List.getElem?_eq_some_iff.1 second
  dsimp only
  omega

/-- A key is reported when it is used more than once. -/
theorem mem_map_key_find {keys : List String} {key : String} :
    key ∈ (find keys).map (·.key) ↔ 2 ≤ keys.count key := by
  rw [List.mem_map]
  constructor
  · rintro ⟨c, member, rfl⟩
    obtain ⟨places, several⟩ := accurate_of_mem_find member
    rwa [places, List.length_idxsOf] at several
  · intro several
    refine ⟨⟨key, keys.idxsOf key⟩, ((reports_find keys).1 _).2 ⟨rfl, ?_⟩, rfl⟩
    rwa [List.length_idxsOf]

theorem ascending_of_mem_find {keys : List String} {c : Collision} (member : c ∈ find keys) :
    c.fieldIndices.Pairwise (· < ·) := by
  rw [(accurate_of_mem_find member).1]
  exact List.pairwise_idxsOf

theorem mem_fieldIndices_iff {keys : List String} {c : Collision}
    (member : c ∈ find keys) {i : Nat} :
    i ∈ c.fieldIndices ↔ keys[i]? = some c.key := by
  rw [(accurate_of_mem_find member).1, mem_idxsOf_iff]

theorem find_eq_nil_iff (keys : List String) : find keys = [] ↔ keys.Nodup := by
  rw [List.nodup_iff_count_le_one, List.eq_nil_iff_forall_not_mem]
  constructor
  · intro unreported key
    by_contra several
    have reported : key ∈ (find keys).map (·.key) := mem_map_key_find.2 (by omega)
    obtain ⟨c, member, -⟩ := List.mem_map.1 reported
    exact unreported c member
  · intro once c member
    have several := mem_map_key_find.1 (List.mem_map_of_mem (f := (·.key)) member)
    have := once c.key
    omega

theorem head_le_of_mem {places : List Nat} (ascending : places.Pairwise (· < ·))
    (nonempty : places ≠ []) {i : Nat} (member : i ∈ places) : places.head nonempty ≤ i := by
  obtain ⟨first, later, rfl⟩ := List.exists_cons_of_ne_nil nonempty
  rcases List.mem_cons.1 member with rfl | behind
  · exact Nat.le_refl _
  · exact Nat.le_of_lt (List.rel_of_pairwise_cons ascending behind)

theorem le_getLast_of_mem {places : List Nat} (ascending : places.Pairwise (· < ·))
    (nonempty : places ≠ []) {i : Nat} (member : i ∈ places) : i ≤ places.getLast nonempty := by
  rw [← List.dropLast_append_getLast nonempty, List.pairwise_append] at ascending
  rw [← List.dropLast_append_getLast nonempty, List.mem_append, List.mem_singleton] at member
  rcases member with before | last
  · exact Nat.le_of_lt (ascending.2.2 i before _ (List.mem_singleton_self _))
  · exact Nat.le_of_eq last

/-- The first and the last place of a reported key. -/
theorem exists_ends {keys : List String} {c : Collision} (member : c ∈ find keys) :
    ∃ first last, c.fieldIndices.head? = some first ∧ c.fieldIndices.getLast? = some last ∧
      keys[first]? = some c.key ∧ keys[last]? = some c.key ∧
      ∀ i, keys[i]? = some c.key → first ≤ i ∧ i ≤ last := by
  have several := (accurate_of_mem_find member).2
  have ascending := ascending_of_mem_find member
  have nonempty : c.fieldIndices ≠ [] := List.ne_nil_of_length_pos (by omega)
  refine ⟨c.fieldIndices.head nonempty, c.fieldIndices.getLast nonempty,
    List.head?_eq_some_head nonempty, List.getLast?_eq_some_getLast nonempty, ?first,
    ?last, ?between⟩
  case first => exact (mem_fieldIndices_iff member).1 (List.head_mem nonempty)
  case last => exact (mem_fieldIndices_iff member).1 (List.getLast_mem nonempty)
  case between =>
    intro i used
    have inside := (mem_fieldIndices_iff member).2 used
    exact ⟨head_le_of_mem ascending nonempty inside, le_getLast_of_mem ascending nonempty inside⟩

/-- The report of a list of keys has every key that is used more than once, once, and no other; and
with each key all its places, in ascending order. -/
theorem find_complete (keys : List String) :
    ((find keys).map (·.key)).Nodup ∧ (∀ key, key ∈ (find keys).map (·.key) ↔ 2 ≤ keys.count key) ∧
      ∀ c ∈ find keys, c.fieldIndices.Pairwise (· < ·) ∧
        ∀ i, i ∈ c.fieldIndices ↔ keys[i]? = some c.key := by
  refine ⟨(reports_find keys).2, fun key => mem_map_key_find, ?_⟩
  intro c member
  exact ⟨ascending_of_mem_find member, fun i => mem_fieldIndices_iff member⟩

theorem find_complete_interleaved :
    ⟨"a", [0, 3, 5]⟩ ∈ find ["a", "b", "b", "a", "c", "a"] ∧
      ∀ i, i ∈ [0, 3, 5] ↔ ["a", "b", "b", "a", "c", "a"][i]? = some "a" := by
  have member : ⟨"a", [0, 3, 5]⟩ ∈ find ["a", "b", "b", "a", "c", "a"] := by decide
  obtain ⟨-, -, each⟩ := find_complete ["a", "b", "b", "a", "c", "a"]
  exact ⟨member, (each _ member).2⟩

end ExtractionPrompt.Collision
