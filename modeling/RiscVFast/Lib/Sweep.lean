import Mathlib.Data.List.Chain

/-! A loop that deletes from the list it walks, and steps on after a deletion as after any item. -/

namespace Sweep

variable {Item : Type} (acts : Item → Bool)

/-- The item behind a deleted one moves into its place and is passed over. -/
def kept : List Item → List Item
  | [] => []
  | [item] => if acts item then [] else [item]
  | item :: next :: rest =>
      if acts item then next :: kept rest else item :: kept (next :: rest)

def deleted : List Item → List Item
  | [] => []
  | [item] => if acts item then [item] else []
  | item :: next :: rest =>
      if acts item then item :: deleted rest else deleted (next :: rest)

/-- No two neighbours that the loop acts on. -/
def Spaced (items : List Item) : Prop :=
  items.IsChain fun item next => ¬ (acts item = true ∧ acts next = true)

instance (items : List Item) : Decidable (Spaced acts items) :=
  inferInstanceAs (Decidable (List.IsChain _ items))

variable {acts}

theorem kept_of_acts {item : Item} (act : acts item = true) (rest : List Item) :
    kept acts (item :: rest) = rest.take 1 ++ kept acts (rest.drop 1) := by
  cases rest with
  | nil => simp [kept, act]
  | cons next rest => simp [kept, act]

theorem kept_of_not {item : Item} (act : acts item = false) (rest : List Item) :
    kept acts (item :: rest) = item :: kept acts rest := by
  cases rest with
  | nil => simp [kept, act]
  | cons next rest => simp [kept, act]

theorem deleted_of_acts {item : Item} (act : acts item = true) (rest : List Item) :
    deleted acts (item :: rest) = item :: deleted acts (rest.drop 1) := by
  cases rest with
  | nil => simp [deleted, act]
  | cons next rest => simp [deleted, act]

theorem deleted_of_not {item : Item} (act : acts item = false) (rest : List Item) :
    deleted acts (item :: rest) = deleted acts rest := by
  cases rest with
  | nil => simp [deleted, act]
  | cons next rest => simp [deleted, act]

theorem kept_of_spaced {items : List Item} (spaced : Spaced acts items) :
    kept acts items = items.filter (! acts ·) := by
  induction items using kept.induct acts with
  | case1 => rfl
  | case2 item act => simp [kept, act]
  | case3 item act => simp [kept, act]
  | case4 item next rest act ih =>
      obtain ⟨apart, later⟩ := List.isChain_cons_cons.mp spaced
      have still : acts next = false := by
        cases acting : acts next with
        | true => exact absurd ⟨act, acting⟩ apart
        | false => rfl
      rw [kept_of_acts act, List.filter_cons_of_neg (by simp [act]),
        List.filter_cons_of_pos (by simp [still])]
      exact congrArg (next :: ·) (ih later.tail)
  | case5 item next rest act ih =>
      rw [Bool.not_eq_true] at act
      rw [kept_of_not act, List.filter_cons_of_pos (by simp [act]), ih spaced.tail]

theorem deleted_of_spaced {items : List Item} (spaced : Spaced acts items) :
    deleted acts items = items.filter acts := by
  induction items using deleted.induct acts with
  | case1 => rfl
  | case2 item act => simp [deleted, act]
  | case3 item act => simp [deleted, act]
  | case4 item next rest act ih =>
      obtain ⟨apart, later⟩ := List.isChain_cons_cons.mp spaced
      have still : ¬ acts next = true := fun acting => apart ⟨act, acting⟩
      rw [deleted_of_acts act, List.filter_cons_of_pos act, List.filter_cons_of_neg still]
      exact congrArg (item :: ·) (ih later.tail)
  | case5 item next rest act ih =>
      rw [deleted_of_not (Bool.not_eq_true _ ▸ act), List.filter_cons_of_neg act, ih spaced.tail]

theorem spaced_of_kept {items : List Item}
    (none : ∀ item ∈ kept acts items, acts item = false) : Spaced acts items := by
  induction items using kept.induct acts with
  | case1 => exact .nil
  | case2 item act => exact .singleton item
  | case3 item act => exact .singleton item
  | case4 item next rest act ih =>
      rw [kept_of_acts act] at none
      have still : acts next = false := none next (by simp)
      have later : Spaced acts rest :=
        ih fun other member => none other (List.mem_append_right _ (by simpa using member))
      refine List.isChain_cons_cons.mpr ⟨by simp [still], ?_⟩
      refine List.isChain_cons.mpr ⟨?_, later⟩
      intro after member
      simp [still]
  | case5 item next rest act ih =>
      rw [Bool.not_eq_true] at act
      rw [kept_of_not act] at none
      refine List.isChain_cons_cons.mpr ⟨by simp [act], ?_⟩
      exact ih fun other member => none other (List.mem_cons_of_mem _ member)

theorem kept_eq_filter_iff {items : List Item} :
    kept acts items = items.filter (! acts ·) ↔ Spaced acts items := by
  refine ⟨fun same => spaced_of_kept ?_, kept_of_spaced⟩
  intro item member
  rw [same] at member
  simpa using (List.mem_filter.mp member).2

end Sweep
