import ExtractionPrompt.Proofs.Key.Collision

/-!
The order of the collisions in a report.  A walk reports a key when it meets it for the second time,
so the report is ordered by second uses.  That is the order of the first uses only when no key is
both used earlier and repeated later than another.
-/

namespace ExtractionPrompt.Collision

/-- The use of a key with this number, counted from zero, comes before the same use of another. -/
def UsedBefore (use : Nat) (c d : Collision) : Prop :=
  ∃ i j, c.fieldIndices[use]? = some i ∧ d.fieldIndices[use]? = some j ∧ i < j

instance (use : Nat) (c d : Collision) : Decidable (UsedBefore use c d) :=
  match left : c.fieldIndices[use]?, right : d.fieldIndices[use]? with
  | some i, some j => decidable_of_iff (i < j) (by simp [UsedBefore, left, right])
  | none, _ => isFalse (by simp [UsedBefore, left])
  | some _, none => isFalse (by simp [UsedBefore, right])

theorem UsedBefore.asymm {use : Nat} {c d : Collision} (before : UsedBefore use c d) :
    ¬ UsedBefore use d c := by
  rintro ⟨j, i, right, left, later⟩
  obtain ⟨i', j', left', right', earlier⟩ := before
  cases left.symm.trans left'
  cases right.symm.trans right'
  omega

theorem UsedBefore.ne {use : Nat} {c d : Collision} (before : UsedBefore use c d) : c ≠ d := by
  rintro rfl
  exact before.asymm before

/-- The second uses of the reported keys lie among the keys seen so far, in the order of the
report. -/
structure Walk.SecondUses (w : Walk) (seen : List String) : Prop where
  ordered : w.collisions.Pairwise (UsedBefore 1)
  within : ∀ c ∈ w.collisions, ∃ i, c.fieldIndices[1]? = some i ∧ i < seen.length

theorem Walk.secondUses_start : Walk.SecondUses ⟨[], []⟩ [] := ⟨.nil, by simp⟩

/-- A further use changes none of the uses before it. -/
theorem getElem?_extended {key : String} {index use i : Nat} {c : Collision}
    (known : c.fieldIndices[use]? = some i) :
    (if c.key = key then { c with fieldIndices := c.fieldIndices ++ [index] } else
      c).fieldIndices[use]? = some i := by
  split
  · obtain ⟨short, -⟩ := List.getElem?_eq_some_iff.1 known
    rw [List.getElem?_append_left short, known]
  · exact known

namespace Walk.SecondUses

variable {w : Walk} {seen : List String}

theorem extend (uses : w.SecondUses seen) (key : String) (index : Nat) :
    (extend key index w.collisions).Pairwise (UsedBefore 1) ∧
      ∀ c ∈ Collision.extend key index w.collisions, ∃ i, c.fieldIndices[1]? = some i ∧
        i < seen.length := by
  constructor
  · refine List.pairwise_map.2 (uses.ordered.imp ?_)
    rintro c d ⟨i, j, left, right, before⟩
    exact ⟨i, j, getElem?_extended left, getElem?_extended right, before⟩
  · intro d member
    obtain ⟨c, old, rfl⟩ := List.mem_map.1 member
    obtain ⟨i, known, early⟩ := uses.within c old
    exact ⟨i, getElem?_extended known, early⟩

/-- The key at hand is the last one seen, so a collision that starts with it goes to the end. -/
theorem report (uses : w.SecondUses seen) (key : String) (first : Nat) :
    (w.collisions ++ [Collision.mk key [first, seen.length]]).Pairwise (UsedBefore 1) := by
  rw [List.pairwise_append]
  refine ⟨uses.ordered, List.pairwise_singleton _ _, ?_⟩
  intro c member d new
  rw [List.mem_singleton] at new
  subst new
  obtain ⟨i, known, early⟩ := uses.within c member
  exact ⟨i, seen.length, known, rfl, early⟩

theorem step (uses : w.SecondUses seen) (key : String) :
    (w.step key seen.length).SecondUses (seen ++ [key]) := by
  have later : ∀ i, i < seen.length → i < (seen ++ [key]).length := by
    intro i early
    rw [List.length_append]
    omega
  have within : ∀ c ∈ w.collisions, ∃ i, c.fieldIndices[1]? = some i ∧
      i < (seen ++ [key]).length := by
    intro c member
    obtain ⟨i, known, early⟩ := uses.within c member
    exact ⟨i, known, later i early⟩
  rw [Walk.step]
  split
  · exact ⟨uses.ordered, within⟩
  · rename_i first _
    split
    · obtain ⟨ordered, extended⟩ := uses.extend key seen.length
      refine ⟨ordered, ?_⟩
      intro c member
      obtain ⟨i, known, early⟩ := extended c member
      exact ⟨i, known, later i early⟩
    · refine ⟨uses.report key first, List.forall_mem_append.2 ⟨within, ?_⟩⟩
      rw [List.forall_mem_singleton, List.length_append]
      exact ⟨seen.length, rfl, Nat.lt_succ_self _⟩

theorem walk (uses : w.SecondUses seen) (keys : List String) :
    (walk w seen.length keys).SecondUses (seen ++ keys) := by
  induction keys generalizing w seen with
  | nil =>
    rw [List.append_nil]
    exact uses
  | cons key rest ih =>
    have later := ih (uses.step key)
    rwa [List.length_append, List.length_singleton, List.append_assoc,
      List.singleton_append] at later

end Walk.SecondUses

theorem find_pairwise_secondUse (keys : List String) : (find keys).Pairwise (UsedBefore 1) :=
  (Walk.secondUses_start.walk keys).ordered

/-- Of two reported keys one is used first before the other. -/
theorem firstUse_total {keys : List String} {c d : Collision} (left : c ∈ find keys)
    (right : d ∈ find keys) (apart : c.key ≠ d.key) : UsedBefore 0 c d ∨ UsedBefore 0 d c := by
  have exists_firstUse : ∀ e ∈ find keys, ∃ i, e.fieldIndices[0]? = some i ∧
      keys[i]? = some e.key := by
    intro e member
    have several := (accurate_of_mem_find member).2
    have first := List.getElem?_eq_getElem (l := e.fieldIndices) (i := 0) (by omega)
    exact ⟨_, first, (mem_fieldIndices_iff member).1 (List.getElem_mem _)⟩
  obtain ⟨i, atLeft, leftKey⟩ := exists_firstUse c left
  obtain ⟨j, atRight, rightKey⟩ := exists_firstUse d right
  rcases Nat.lt_trichotomy i j with before | rfl | after
  · exact .inl ⟨i, j, atLeft, atRight, before⟩
  · exact absurd (Option.some.inj (leftKey.symm.trans rightKey)) apart
  · exact .inr ⟨j, i, atRight, atLeft, after⟩

/-- If one key is used before another, it is repeated before it. -/
def RepeatedInOrder (c d : Collision) : Prop := UsedBefore 0 c d → UsedBefore 1 c d

/-- A report is ordered by second uses.  It is ordered by first uses exactly when all its keys are
repeated in the order in which they are used. -/
theorem find_ordered (keys : List String) :
    (find keys).Pairwise (UsedBefore 1) ∧
      ((find keys).Pairwise (UsedBefore 0) ↔
        ∀ c ∈ find keys, ∀ d ∈ find keys, RepeatedInOrder c d) := by
  have bySecond := find_pairwise_secondUse keys
  have distinct : (find keys).Pairwise fun c d => c.key ≠ d.key :=
    List.pairwise_map.1 (reports_find keys).2
  refine ⟨bySecond, ?forward, ?backward⟩
  case forward =>
    intro byFirst
    -- Of two places in the report the earlier one has the earlier second use, and here the earlier
    -- first use too.
    have itself : ∀ c ∈ find keys, RepeatedInOrder c c := fun c _ before => absurd rfl before.ne
    have ahead : (find keys).Pairwise RepeatedInOrder := by
      apply bySecond.imp
      intro c d second _
      exact second
    have behind : (find keys).Pairwise (flip RepeatedInOrder) := by
      apply byFirst.imp
      intro c d first back
      exact absurd back first.asymm
    exact List.Pairwise.forall_of_forall_of_flip itself ahead behind
  case backward =>
    intro agree
    refine (bySecond.and distinct).imp_of_mem ?_
    rintro c d left right ⟨before, apart⟩
    rcases firstUse_total left right apart with here | there
    · exact here
    · exact absurd (agree d right c left there) before.asymm

/-- The second key is used later and repeated earlier than the first. -/
theorem find_unordered : ¬ ∀ keys, (find keys).Pairwise (UsedBefore 0) := by
  intro ordered
  exact absurd (ordered ["a", "b", "b", "a"]) (by decide)

end ExtractionPrompt.Collision
