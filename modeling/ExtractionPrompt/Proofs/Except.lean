import Mathlib.Data.List.Forall2

/-!
Computations that may fail.  A success goes through every step, and a success at the end was one at
every step.  Two computations agree when both fail or both succeed; they do as soon as their steps
agree.
-/

namespace ExtractionPrompt

@[simp] theorem ok_bind {ε α β : Type} (a : α) (f : α → Except ε β) :
    (Except.ok a).bind f = f a := rfl

@[simp] theorem ok_map {ε α β : Type} (a : α) (f : α → β) :
    (Except.ok a : Except ε α).map f = .ok (f a) := rfl

@[simp] theorem ok_mapError {ε φ α : Type} (a : α) (f : ε → φ) :
    (Except.ok a).mapError f = .ok a := rfl

theorem bind_eq_ok_iff {ε α β : Type} {x : Except ε α} {f : α → Except ε β} {b : β} :
    x.bind f = .ok b ↔ ∃ a, x = .ok a ∧ f a = .ok b := by
  cases x <;> simp [Except.bind]

theorem map_eq_ok_iff {ε α β : Type} {x : Except ε α} {f : α → β} {b : β} :
    x.map f = .ok b ↔ ∃ a, x = .ok a ∧ f a = b := by
  cases x <;> simp [Except.map]

theorem mapError_eq_ok_iff {ε φ α : Type} {x : Except ε α} {f : ε → φ} {a : α} :
    x.mapError f = .ok a ↔ x = .ok a := by
  cases x <;> simp [Except.mapError]

theorem ok_of_toOption {ε α : Type} {x : Except ε α} {a : α} (found : x.toOption = some a) :
    x = .ok a := by
  cases x with
  | error e => cases found
  | ok b =>
    cases found
    rfl

/-- Both fail, or both succeed; faults and results are related. -/
inductive Agree {ε α : Type} (E : ε → ε → Prop) (R : α → α → Prop) :
    Except ε α → Except ε α → Prop where
  | ok {a b : α} (same : R a b) : Agree E R (.ok a) (.ok b)
  | error {e f : ε} (same : E e f) : Agree E R (.error e) (.error f)

namespace Agree

variable {ε α β : Type} {E : ε → ε → Prop} {R : α → α → Prop} {S : β → β → Prop}

theorem imp {R' : α → α → Prop} {x y : Except ε α} (same : Agree E R x y)
    (weaken : ∀ a b, R a b → R' a b) :
    Agree E R' x y := by
  cases same with
  | ok same => exact .ok (weaken _ _ same)
  | error same => exact .error same

theorem refl (any : ∀ e, E e e) (x : Except ε α) : Agree E (· = ·) x x := by
  cases x with
  | ok a => exact .ok rfl
  | error e => exact .error (any e)

theorem bind {x y : Except ε α} {f g : α → Except ε β} (first : Agree E R x y)
    (rest : ∀ a b, R a b → Agree E S (f a) (g b)) : Agree E S (x.bind f) (y.bind g) := by
  cases first with
  | ok same => exact rest _ _ same
  | error same => exact .error same

theorem map {x y : Except ε α} {f g : α → β} (same : Agree E R x y)
    (lift : ∀ a b, R a b → S (f a) (g b)) :
    Agree E S (x.map f) (y.map g) := by
  cases same with
  | ok same => exact .ok (lift _ _ same)
  | error same => exact .error same

/-- The relation may say as well what the first of the two gave. -/
theorem withFirst {x y : Except ε α} (same : Agree E R x y) :
    Agree E (fun a b => R a b ∧ x = .ok a) x y := by
  cases same with
  | ok same => exact .ok ⟨same, rfl⟩
  | error same => exact .error same

theorem mapM {γ : Type} {d : γ → Except ε α} {items others : List γ}
    (each : List.Forall₂ (fun v w => Agree E R (d v) (d w)) items others) :
    Agree E (List.Forall₂ R) (items.mapM d) (others.mapM d) := by
  induction each with
  | nil => exact .ok .nil
  | cons first _ ih =>
    rw [List.mapM_cons, List.mapM_cons]
    exact first.bind fun a b same => ih.bind fun l m rest => .ok (.cons same rest)

end Agree

end ExtractionPrompt
