import Mathlib.Data.BitVec
import Mathlib.Tactic.Ring

/-! Ranges of addresses that may go around the end of the address space, and alignment. -/

namespace Arc

variable {w : Nat}

def holds (base len addr : BitVec w) : Bool := (addr - base).ult len

theorem holds_iff {base len addr : BitVec w} :
    holds base len addr = true ↔ (addr - base).toNat < len.toNat := by
  simp [holds, BitVec.ult]

theorem holds_base {base len : BitVec w} : holds base len base = true ↔ len ≠ 0 := by
  rw [holds_iff, BitVec.sub_self, ne_eq, ← BitVec.toNat_inj, BitVec.ofNat_eq_ofNat,
    BitVec.toNat_ofNat, Nat.zero_mod]
  exact Nat.pos_iff_ne_zero

theorem holds_of_later {base len base' addr : BitVec w} (first : holds base len addr = true)
    (later : (addr - base').toNat ≤ (addr - base).toNat) : holds base len base' = true := by
  rw [holds_iff] at first ⊢
  have apart : base' - base = (addr - base) - (addr - base') := by ring
  rw [apart, BitVec.toNat_sub_of_le later]
  omega

theorem disjoint_iff {base len base' len' : BitVec w} :
    (∀ addr, ¬ (holds base len addr = true ∧ holds base' len' addr = true)) ↔
      (holds base len base' = true → len' = 0) ∧ (holds base' len' base = true → len = 0) := by
  constructor
  · intro apart
    constructor
    · intro inside
      by_contra some
      exact apart base' ⟨inside, holds_base.mpr some⟩
    · intro inside
      by_contra some
      exact apart base ⟨holds_base.mpr some, inside⟩
  · rintro ⟨second, first⟩ addr ⟨inside, inside'⟩
    rw [holds_iff] at inside inside'
    rcases Nat.le_total (addr - base').toNat (addr - base).toNat with later | later
    · have empty := second (holds_of_later (holds_iff.mpr inside) later)
      rw [empty] at inside'
      exact absurd inside' (Nat.not_lt_zero _)
    · have empty := first (holds_of_later (holds_iff.mpr inside') later)
      rw [empty] at inside
      exact absurd inside (Nat.not_lt_zero _)

theorem mod_of_low {n : Nat} {word : BitVec w} (low : word.setWidth n = 0#n) :
    word.toNat % 2 ^ n = 0 := by
  have zero := congrArg BitVec.toNat low
  rwa [BitVec.toNat_setWidth, BitVec.toNat_ofNat, Nat.zero_mod] at zero

theorem low_of_mod {n : Nat} {word : BitVec w} (multiple : word.toNat % 2 ^ n = 0) :
    word.setWidth n = 0#n := by
  apply BitVec.eq_of_toNat_eq
  rw [BitVec.toNat_setWidth, multiple, BitVec.toNat_ofNat, Nat.zero_mod]

theorem and_mod {n : Nat} {word mask : BitVec w} (clears : mask.setWidth n = 0#n) :
    (word &&& mask).toNat % 2 ^ n = 0 := by
  apply mod_of_low
  rw [BitVec.setWidth_and, clears, BitVec.and_zero]

theorem and_eq {n : Nat} {word mask : BitVec w} (multiple : word.toNat % 2 ^ n = 0)
    (keeps : ∀ i < w, n ≤ i → mask.getLsbD i = true) : word &&& mask = word := by
  apply BitVec.eq_of_getLsbD_eq
  intro i inside
  rw [BitVec.getLsbD_and]
  rcases Nat.lt_or_ge i n with low | high
  · have cleared := congrArg (fun low => low.getLsbD i) (low_of_mod multiple)
    simp only [BitVec.getLsbD_setWidth, low, decide_true, Bool.true_and,
      BitVec.getLsbD_zero] at cleared
    rw [cleared, Bool.false_and]
  · rw [keeps i inside high, Bool.and_true]

end Arc
