import Mathlib.Init

/-! Computations that may fail, taken apart where they are known to succeed. -/

namespace Fallible

variable {Error α β : Type}

theorem bind_eq_ok {x : Except Error α} {f : α → Except Error β} {b : β} :
    (x >>= f) = .ok b ↔ ∃ a, x = .ok a ∧ f a = .ok b := by
  cases x with
  | error e => simp [bind, Except.bind]
  | ok a => simp [bind, Except.bind]

theorem map_eq_ok {x : Except Error α} {f : α → β} {b : β} :
    x.map f = .ok b ↔ ∃ a, x = .ok a ∧ f a = b := by
  cases x with
  | error e => simp [Except.map]
  | ok a => simp [Except.map]

theorem bind_eq_error {x : Except Error α} {f : α → Except Error β} {e : Error} :
    (x >>= f) = .error e ↔ x = .error e ∨ ∃ a, x = .ok a ∧ f a = .error e := by
  cases x with
  | error e => simp [bind, Except.bind]
  | ok a => simp [bind, Except.bind]

theorem bind_total_eq_error {x : Except Error α} {f : α → Except Error β} {e : Error}
    (total : ∀ a, ∃ b, f a = .ok b) : (x >>= f) = .error e ↔ x = .error e := by
  rw [bind_eq_error]
  refine or_iff_left ?_
  rintro ⟨a, _, failed⟩
  obtain ⟨b, succeeds⟩ := total a
  simp [succeeds] at failed

theorem map_eq_error {x : Except Error α} {f : α → β} {e : Error} :
    x.map f = .error e ↔ x = .error e := by
  cases x with
  | error e => simp [Except.map]
  | ok a => simp [Except.map]

@[simp] theorem ok_bind (a : α) (f : α → Except Error β) : (Except.ok a >>= f) = f a := rfl

@[simp] theorem error_bind (e : Error) (f : α → Except Error β) :
    (Except.error e >>= f) = .error e := rfl

@[simp] theorem map_ok (a : α) (f : α → β) :
    (Except.ok a : Except Error α).map f = .ok (f a) := rfl

@[simp] theorem map_error (e : Error) (f : α → β) :
    (Except.error e : Except Error α).map f = .error e := rfl

theorem of_ite_eq_ok {condition : Prop} [Decidable condition] {here otherwise : Except Error α}
    {a : α} {conclusion : Prop} (chosen : (if condition then here else otherwise) = .ok a)
    (ifTrue : condition → here = .ok a → conclusion)
    (ifFalse : ¬ condition → otherwise = .ok a → conclusion) : conclusion := by
  by_cases holds : condition
  · rw [if_pos holds] at chosen
    exact ifTrue holds chosen
  · rw [if_neg holds] at chosen
    exact ifFalse holds chosen

end Fallible
