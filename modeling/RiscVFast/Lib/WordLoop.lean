import Mathlib.Data.BitVec
import RiscVFast.Lib.Fallible

/-! The loop `for (index = first; index < limit; index += stride)` on machine words. -/

namespace WordLoop

variable {width : Nat} {Error State : Type}

/-- `none` is a loop that is still running when the fuel is used up. -/
def run (stride limit : BitVec width) (body : State → BitVec width → Except Error State) :
    Nat → BitVec width → State → Option (Except Error State)
  | 0, _, _ => none
  | fuel + 1, index, state =>
      if index.ult limit then
        match body state index with
        | .error e => some (.error e)
        | .ok state => run stride limit body fuel (index + stride) state
      else some (.ok state)

def indices (stride first limit : BitVec width) : List (BitVec width) :=
  (List.range ((limit.toNat - first.toNat + stride.toNat - 1) / stride.toNat)).map fun count =>
    first + BitVec.ofNat width (count * stride.toNat)

variable {stride first limit : BitVec width}

theorem indices_of_ge (positive : 0 < stride.toNat) (past : limit.toNat ≤ first.toNat) :
    indices stride first limit = [] := by
  have none : (limit.toNat - first.toNat + stride.toNat - 1) / stride.toNat = 0 :=
    Nat.div_eq_of_lt (by omega)
  rw [indices, none]
  rfl

theorem indices_of_lt (positive : 0 < stride.toNat)
    (fits : limit.toNat + stride.toNat ≤ 2 ^ width) (before : first.toNat < limit.toNat) :
    indices stride first limit = first :: indices stride (first + stride) limit := by
  have moved : (first + stride).toNat = first.toNat + stride.toNat := by
    rw [BitVec.toNat_add, Nat.mod_eq_of_lt (by omega)]
  have rounds : (limit.toNat - first.toNat + stride.toNat - 1) / stride.toNat =
      (limit.toNat - (first + stride).toNat + stride.toNat - 1) / stride.toNat + 1 := by
    rw [Nat.div_eq_sub_div positive (by omega), moved]
    congr 1
    by_cases last : limit.toNat ≤ first.toNat + stride.toNat
    · rw [Nat.div_eq_of_lt (by omega), Nat.div_eq_of_lt (by omega)]
    · congr 1
      omega
  rw [indices, rounds, List.range_succ_eq_map, List.map_cons, List.map_map, indices]
  congr 1
  · simp
  · refine List.map_congr_left fun count _ => ?_
    have product : (count + 1) * stride.toNat = stride.toNat + count * stride.toNat := by
      rw [Nat.add_mul, Nat.one_mul, Nat.add_comm]
    simp only [Function.comp_apply, Nat.succ_eq_add_one, product, BitVec.ofNat_add,
      BitVec.ofNat_toNat, BitVec.setWidth_eq, BitVec.add_assoc]

theorem mem_indices (positive : 0 < stride.toNat) {index : BitVec width}
    (member : index ∈ indices stride first limit) :
    first.toNat ≤ index.toNat ∧ index.toNat < limit.toNat ∧
      stride.toNat ∣ index.toNat - first.toNat := by
  obtain ⟨count, below, rfl⟩ := List.mem_map.mp member
  rw [List.mem_range, Nat.lt_div_iff_mul_lt positive] at below
  have small := limit.isLt
  have place : (first + BitVec.ofNat width (count * stride.toNat)).toNat =
      first.toNat + count * stride.toNat := by
    rw [BitVec.toNat_add, BitVec.toNat_ofNat, Nat.add_mod_mod, Nat.mod_eq_of_lt]
    omega
  rw [place]
  exact ⟨by omega, by omega, ⟨count, by rw [Nat.add_sub_cancel_left, Nat.mul_comm]⟩⟩

theorem indices_nodup (positive : 0 < stride.toNat) : (indices stride first limit).Nodup := by
  refine List.Nodup.map_on ?_ List.nodup_range
  intro count below other below' same
  rw [List.mem_range, Nat.lt_div_iff_mul_lt positive] at below below'
  have small := limit.isLt
  have offsets := congrArg BitVec.toNat (add_left_cancel same)
  rw [BitVec.toNat_ofNat, BitVec.toNat_ofNat, Nat.mod_eq_of_lt (by omega),
    Nat.mod_eq_of_lt (by omega)] at offsets
  exact Nat.eq_of_mul_eq_mul_right positive offsets

/-- A loop whose index cannot pass the top of the words terminates. -/
theorem run_eq (positive : 0 < stride.toNat) (fits : limit.toNat + stride.toNat ≤ 2 ^ width)
    (body : State → BitVec width → Except Error State) {fuel : Nat}
    (enough : (indices stride first limit).length < fuel) (state : State) :
    run stride limit body fuel first state =
      some ((indices stride first limit).foldlM body state) := by
  induction fuel generalizing first state with
  | zero => omega
  | succ fuel ih =>
      rw [run]
      by_cases before : first.toNat < limit.toNat
      · rw [indices_of_lt positive fits before] at enough ⊢
        rw [if_pos (by simpa [BitVec.ult] using before), List.foldlM_cons]
        cases body state first with
        | error e => rfl
        | ok next => exact ih (by simpa using enough) next
      · rw [indices_of_ge positive (by omega), if_neg (by simpa [BitVec.ult] using before)]
        rfl

theorem run_unique (body : State → BitVec width → Except Error State) {fuel more : Nat}
    {index : BitVec width} {state : State} {outcome other : Except Error State}
    (ran : run stride limit body fuel index state = some outcome)
    (again : run stride limit body more index state = some other) : outcome = other := by
  induction fuel generalizing index state more with
  | zero => cases ran
  | succ fuel ih =>
      cases more with
      | zero => cases again
      | succ more =>
          rw [run] at ran again
          split at ran
          · rename_i before
            rw [if_pos before] at again
            cases round : body state index with
            | error e =>
                rw [round] at ran again
                exact Option.some.inj (ran.symm.trans again)
            | ok next =>
                rw [round] at ran again
                exact ih ran again
          · rename_i past
            rw [if_neg past] at again
            exact Option.some.inj (ran.symm.trans again)

theorem outcome_of_run (positive : 0 < stride.toNat)
    (fits : limit.toNat + stride.toNat ≤ 2 ^ width)
    {body : State → BitVec width → Except Error State} {fuel : Nat} {state : State}
    {outcome : Except Error State}
    (ran : run stride limit body fuel first state = some outcome) :
    outcome = (indices stride first limit).foldlM body state :=
  run_unique body ran (run_eq positive fits body (Nat.lt_succ_self _) state)

end WordLoop
