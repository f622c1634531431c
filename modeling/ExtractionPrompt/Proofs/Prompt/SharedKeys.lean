import ExtractionPrompt.Proofs.Prompt.Fallback
import Mathlib.Algebra.BigOperators.Group.List.Lemmas
import Mathlib.Algebra.GroupWithZero.Nat
import Mathlib.Data.List.Dedup

/-!
What a template loses when fields share a key, and what the report of shared keys says about it.  A
key is one property, so of the fields that share it all but one have none of their own: the property
stands where the first of them put it and has the value of the last.
-/

namespace ExtractionPrompt

open Json

namespace Collision

section Accounting

variable {keys names : List String}

/-- The reported keys are those of the distinct keys that are used more than once. -/
theorem filter_perm_map_key_find (distinct : names.Nodup) (same : ∀ key, key ∈ names ↔ key ∈ keys) :
    (names.filter fun key => 2 ≤ keys.count key).Perm ((find keys).map (·.key)) := by
  rw [List.perm_ext_iff_of_nodup (distinct.filter _) (reports_find keys).2]
  intro key
  rw [mem_map_key_find, List.mem_filter, decide_eq_true_iff, same]
  constructor
  · exact And.right
  · intro several
    exact ⟨List.count_pos_iff.1 (by omega), several⟩

theorem sum_further_uses (distinct : names.Nodup) (same : ∀ key, key ∈ names ↔ key ∈ keys) :
    (names.map fun key => keys.count key - 1).sum =
      ((find keys).map fun c => c.fieldIndices.length - 1).sum := by
  -- A key that is used once has no further use.
  have alone : ((names.filter fun key => ¬ 2 ≤ keys.count key).map
      fun key => keys.count key - 1).sum = 0 := by
    apply List.sum_eq_zero
    intro n member
    obtain ⟨key, once, rfl⟩ := List.mem_map.1 member
    have few := (List.mem_filter.1 once).2
    simp only [decide_eq_true_eq] at few
    omega
  have places : ∀ c ∈ find keys, keys.count c.key - 1 = c.fieldIndices.length - 1 := by
    intro c member
    rw [(accurate_of_mem_find member).1, List.length_idxsOf]
  rw [← List.sum_map_filter_add_sum_map_filter_not (fun key => 2 ≤ keys.count key),
    alone, Nat.add_zero, ((filter_perm_map_key_find distinct same).map _).sum_nat, List.map_map]
  exact congrArg List.sum (List.map_congr_left places)

/-- Every distinct key counts once, and its further uses are in the report. -/
theorem length_eq_add_repeats (distinct : names.Nodup) (same : ∀ key, key ∈ names ↔ key ∈ keys) :
    keys.length = names.length + ((find keys).map fun c => c.fieldIndices.length - 1).sum := by
  have perm : names.Perm keys.dedup := by
    rw [List.perm_ext_iff_of_nodup distinct keys.nodup_dedup]
    intro key
    rw [same, List.mem_dedup]
  have each : ∀ key ∈ names, keys.count key = 1 + (keys.count key - 1) := by
    intro key member
    have used := List.count_pos_iff.2 ((same key).1 member)
    omega
  calc
    keys.length = (keys.dedup.map keys.count).sum := keys.sum_map_count_dedup_eq_length.symm
    _ = (names.map keys.count).sum := (perm.map keys.count).sum_nat.symm
    _ = (names.map fun key => 1 + (keys.count key - 1)).sum :=
      congrArg List.sum (List.map_congr_left each)
    _ = names.length + (names.map fun key => keys.count key - 1).sum := by simp [List.sum_map_add]
    _ = names.length + ((find keys).map fun c => c.fieldIndices.length - 1).sum := by
      rw [sum_further_uses distinct same]

end Accounting

end Collision

/-- A key stands behind the distinct keys before its first use. -/
theorem exists_eraseDups_eq {keys : List String} {key : String} {first : Nat}
    (found : keys[first]? = some key) (new : key ∉ keys.take first) :
    ∃ later, keys.eraseDups = (keys.take first).eraseDups ++ key :: later := by
  obtain ⟨short, rfl⟩ := List.getElem?_eq_some_iff.1 found
  have split : keys = keys.take first ++ keys[first] :: keys.drop (first + 1) := by
    rw [← List.drop_eq_getElem_cons short, List.take_append_drop]
  have distinct := congrArg List.eraseDups split
  rw [List.eraseDups_append, List.cons_removeAll, if_pos (by simpa using new),
    List.eraseDups_cons] at distinct
  exact ⟨_, distinct⟩

namespace Config

/-- The property of a shared key stands where its first field put it. -/
theorem exists_place {c : Config} {first : Nat} {key : String} (found : c.keys[first]? = some key)
    (before : ∀ i, c.keys[i]? = some key → first ≤ i) :
    ∃ later, (collect c.offers).map Prod.fst = (c.keys.take first).eraseDups ++ key :: later := by
  have new : key ∉ c.keys.take first := by
    intro member
    obtain ⟨i, there⟩ := List.mem_iff_getElem?.1 member
    obtain ⟨short, -⟩ := List.getElem?_eq_some_iff.1 there
    rw [List.length_take] at short
    rw [List.getElem?_take_of_lt (by omega)] at there
    have := before i there
    omega
  obtain ⟨later, split⟩ := exists_eraseDups_eq found new
  exact ⟨later, by rw [map_fst_collect, map_fst_offers, split]⟩

theorem getElem?_offers (c : Config) (i : Nat) : c.keys[i]? = c.offers[i]?.map Prod.fst := by
  rw [← map_fst_offers, List.getElem?_map]

/-- It has the value that the last field with the key offers. -/
theorem exists_value {c : Config} {last : Nat} {key : String} (found : c.keys[last]? = some key)
    (after : ∀ i, c.keys[i]? = some key → i ≤ last) :
    ∃ v, c.offers[last]? = some (key, v) ∧ (collect c.offers).lookup key = some v := by
  rw [getElem?_offers, Option.map_eq_some_iff] at found
  obtain ⟨⟨key, v⟩, offered, rfl⟩ := found
  obtain ⟨j, p, order, there, same, -, latest⟩ := exists_last_use Prod.fst offered
  have place : j = last := by
    have := after j (by rw [getElem?_offers, there, Option.map_some, same])
    omega
  subst place
  cases offered.symm.trans there
  have value := lookup_map_eq_find? Prod.fst Prod.snd c.offers.reverse key
  rw [latest] at value
  refine ⟨v, offered, ?_⟩
  rw [lookup_collect]
  simpa using value

/-- The fields of a config are the properties of the template that is cut out of its prompt, and
besides them one for every further use of a key that the report has.  The report is empty exactly
when no two fields share a property.  A shared property stands behind the ones of the fields before
its first, and it has the value that its last field offers. -/
theorem template_accounts (c : Config) :
    ∃ text properties, c.version.excerpt? c.prompt = some text ∧
      parsePlain? text = some (.object properties) ∧
      c.fieldCount =
        properties.length + (c.collisions.map fun shared => shared.fieldIndices.length - 1).sum ∧
      (c.collisions = [] ↔ c.keys.Nodup) ∧
      ∀ shared ∈ c.collisions, ∃ first last,
        shared.fieldIndices.head? = some first ∧ shared.fieldIndices.getLast? = some last ∧
        (∃ later, properties.map Prod.fst = (c.keys.take first).eraseDups ++ shared.key :: later) ∧
        ∃ v, c.offers[last]? = some (shared.key, v) ∧ properties.lookup shared.key = some v := by
  refine ⟨_, _, c.excerpt?_prompt, c.parsePlain?_template, ?count,
    Collision.find_eq_nil_iff c.keys, ?each⟩
  case count =>
    have names : ∀ key, key ∈ (collect c.offers).map Prod.fst ↔ key ∈ c.keys := by
      intro key
      rw [map_fst_collect, map_fst_offers, List.mem_eraseDups]
    have total := Collision.length_eq_add_repeats (nodup_collect c.offers) names
    rwa [List.length_map] at total
  case each =>
    intro shared member
    obtain ⟨first, last, start, stop, atFirst, atLast, between⟩ := Collision.exists_ends member
    refine ⟨first, last, start, stop, ?place, ?value⟩
    case place => exact exists_place atFirst fun i used => (between i used).1
    case value => exact exists_value atLast fun i used => (between i used).2

/-- Two shared keys, one inside the other. -/
def interleaved : ConfigBody DetailedField := .ofFields .detailed [
  .plain "city" true "Unknown", .plain "zip" false "", .plain "zip" true "00000",
  .plain "city" false ""]

theorem template_accounts_interleaved :
    ⟨"city", [0, 3]⟩ ∈ (detailed interleaved).collisions ∧
      ∃ text properties, Version.detailed.excerpt? (detailed interleaved).prompt = some text ∧
        parsePlain? text = some (.object properties) ∧ properties.length = 2 ∧
        (properties.map Prod.fst).head? = some "city" ∧ properties.lookup "city" = some .null := by
  have member : ⟨"city", [0, 3]⟩ ∈ (detailed interleaved).collisions := by decide
  obtain ⟨text, properties, cut, read, count, -, each⟩ := template_accounts (detailed interleaved)
  obtain ⟨first, last, start, stop, ⟨later, names⟩, v, offered, value⟩ := each _ member
  cases start
  cases stop
  cases offered
  have total : (detailed interleaved).fieldCount = properties.length + 2 := count
  exact ⟨member, text, properties, cut, read,
    Nat.add_right_cancel total.symm, by rw [names]; rfl, value⟩

end Config

end ExtractionPrompt
