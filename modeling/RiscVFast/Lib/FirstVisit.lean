import Mathlib.Logic.Function.Basic
import Mathlib.Data.List.Basic

/-! A direct-mapped cache without tags. Whoever visits a slot first fills it, and the slot then
serves all later visitors, so its contents are a function of the history of visits alone. -/

namespace FirstVisit

variable {Key Slot Value : Type} [DecidableEq Slot] (slotOf : Key → Slot)

def visitor (history : List Key) (slot : Slot) : Option Key :=
  history.find? fun key => slotOf key = slot

variable {slotOf}

theorem visitor_snoc_of_some {history : List Key} {slot : Slot} {first : Key} (key : Key)
    (found : visitor slotOf history slot = some first) :
    visitor slotOf (history ++ [key]) slot = some first := by
  unfold visitor at found ⊢
  rw [List.find?_append, found, Option.some_or]

theorem visitor_snoc_of_ne {history : List Key} {slot : Slot} {key : Key}
    (other : slotOf key ≠ slot) :
    visitor slotOf (history ++ [key]) slot = visitor slotOf history slot := by
  simp [visitor, List.find?_append, other]

theorem visitor_snoc_of_none {history : List Key} {key : Key}
    (missing : visitor slotOf history (slotOf key) = none) :
    visitor slotOf (history ++ [key]) (slotOf key) = some key := by
  unfold visitor at missing ⊢
  rw [List.find?_append, missing]
  simp

variable (slotOf) (Fills : Key → Value → Prop) (filled : Value → Prop)

/-- The table that a history of visits leaves behind. -/
structure Cached (history : List Key) (table : Slot → Value) : Prop where
  empty : ∀ slot, visitor slotOf history slot = none → ¬ filled (table slot)
  first : ∀ slot key, visitor slotOf history slot = some key →
    filled (table slot) ∧ Fills key (table slot)

variable {slotOf Fills filled}

theorem Cached.initial {table : Slot → Value} (empty : ∀ slot, ¬ filled (table slot)) :
    Cached slotOf Fills filled [] table where
  empty := fun slot _ => empty slot
  first := by
    intro slot key found
    simp [visitor] at found

theorem Cached.hit {history : List Key} {table : Slot → Value}
    (cached : Cached slotOf Fills filled history table) (key : Key)
    (hit : filled (table (slotOf key))) :
    Cached slotOf Fills filled (history ++ [key]) table := by
  have occupied : ∃ first, visitor slotOf history (slotOf key) = some first := by
    cases found : visitor slotOf history (slotOf key) with
    | none => exact absurd hit (cached.empty _ found)
    | some first => exact ⟨first, rfl⟩
  have unchanged : ∀ slot, visitor slotOf (history ++ [key]) slot = visitor slotOf history slot := by
    intro slot
    by_cases same : slotOf key = slot
    · obtain ⟨first, found⟩ := occupied
      rw [← same, found]
      exact visitor_snoc_of_some key found
    · exact visitor_snoc_of_ne same
  constructor
  · intro slot missing
    exact cached.empty slot (by rwa [unchanged] at missing)
  · intro slot first found
    exact cached.first slot first (by rwa [unchanged] at found)

theorem Cached.miss {history : List Key} {table : Slot → Value}
    (cached : Cached slotOf Fills filled history table) {key : Key} {value : Value}
    (miss : ¬ filled (table (slotOf key))) (fills : Fills key value) (isFilled : filled value) :
    Cached slotOf Fills filled (history ++ [key]) (Function.update table (slotOf key) value) := by
  have missing : visitor slotOf history (slotOf key) = none := by
    cases found : visitor slotOf history (slotOf key) with
    | none => rfl
    | some first => exact absurd (cached.first _ first found).1 miss
  constructor
  · intro slot absent
    by_cases same : slotOf key = slot
    · subst same
      rw [visitor_snoc_of_none missing] at absent
      simp at absent
    · rw [Function.update_of_ne (Ne.symm same)]
      exact cached.empty slot (by rwa [visitor_snoc_of_ne same] at absent)
  · intro slot first found
    by_cases same : slotOf key = slot
    · subst same
      rw [visitor_snoc_of_none missing] at found
      simp only [Option.some.injEq] at found
      subst found
      rw [Function.update_self]
      exact ⟨isFilled, fills⟩
    · rw [Function.update_of_ne (Ne.symm same)]
      exact cached.first slot first (by rwa [visitor_snoc_of_ne same] at found)

/-- What the last visitor finds in its slot was put there for the first one. -/
theorem Cached.served {history : List Key} {table : Slot → Value} {key : Key}
    (cached : Cached slotOf Fills filled (history ++ [key]) table) :
    ∃ first, visitor slotOf (history ++ [key]) (slotOf key) = some first ∧
      Fills first (table (slotOf key)) := by
  cases found : visitor slotOf (history ++ [key]) (slotOf key) with
  | some first => exact ⟨first, rfl, (cached.first _ first found).2⟩
  | none =>
      exfalso
      unfold visitor at found
      have absent := List.find?_eq_none.mp found key (by simp)
      simp at absent

end FirstVisit
