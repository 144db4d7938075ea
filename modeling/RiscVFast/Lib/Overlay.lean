import Mathlib.Data.List.Pairwise

/-! A buffer under a sequence of copies into it. -/

namespace Overlay

variable {Cell : Type}

/-- The buffer with `cells` copied to `start` and after it. -/
def overlay (buffer : Nat → Cell) (start : Nat) (cells : List Cell) : Nat → Cell := fun index =>
  if start ≤ index then (cells[index - start]?).getD (buffer index) else buffer index

structure Patch (Cell : Type) where
  start : Nat
  cells : List Cell

def Patch.Covers (patch : Patch Cell) (index : Nat) : Prop :=
  patch.start ≤ index ∧ index < patch.start + patch.cells.length

theorem overlay_of_covers {buffer : Nat → Cell} {patch : Patch Cell} {index : Nat}
    (covers : patch.Covers index) :
    some (overlay buffer patch.start patch.cells index) = patch.cells[index - patch.start]? := by
  have inside : index - patch.start < patch.cells.length := by
    have bounds := covers.2
    have lower := covers.1
    omega
  rw [overlay, if_pos covers.1, List.getElem?_eq_getElem inside, Option.getD_some]

theorem overlay_of_not_covers {buffer : Nat → Cell} {patch : Patch Cell} {index : Nat}
    (outside : ¬ patch.Covers index) :
    overlay buffer patch.start patch.cells index = buffer index := by
  unfold overlay
  split
  · rename_i after
    have beyond : patch.cells.length ≤ index - patch.start := by
      by_contra inside
      exact outside ⟨after, by omega⟩
    rw [List.getElem?_eq_none beyond, Option.getD_none]
  · rfl

def patched (buffer : Nat → Cell) (patches : List (Patch Cell)) : Nat → Cell :=
  patches.foldl (fun buffer patch => overlay buffer patch.start patch.cells) buffer

theorem patched_of_not_covers {buffer : Nat → Cell} {patches : List (Patch Cell)} {index : Nat}
    (outside : ∀ patch ∈ patches, ¬ patch.Covers index) :
    patched buffer patches index = buffer index := by
  induction patches generalizing buffer with
  | nil => rfl
  | cons patch patches ih =>
      have rest : ∀ patch ∈ patches, ¬ patch.Covers index := fun later member =>
        outside later (List.mem_cons_of_mem _ member)
      exact (ih rest).trans (overlay_of_not_covers (outside patch List.mem_cons_self))

theorem patched_of_covers {buffer : Nat → Cell} {patches : List (Patch Cell)} {patch : Patch Cell}
    {index : Nat} (apart : patches.Pairwise fun first second =>
      ∀ index, first.Covers index → ¬ second.Covers index)
    (member : patch ∈ patches) (covers : patch.Covers index) :
    some (patched buffer patches index) = patch.cells[index - patch.start]? := by
  induction patches generalizing buffer with
  | nil => simp at member
  | cons first rest ih =>
      obtain ⟨separate, apart⟩ := List.pairwise_cons.mp apart
      rcases List.mem_cons.mp member with same | later
      · subst same
        have untouched := @patched_of_not_covers Cell
          (overlay buffer patch.start patch.cells) rest index
          fun later member => separate later member index covers
        exact (congrArg some untouched).trans (overlay_of_covers covers)
      · exact ih apart later

end Overlay
