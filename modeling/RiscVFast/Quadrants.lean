import RiscVFast.SameExecution

/-! The codes on which the two decompressors agree, class by class. -/

namespace RiscVFast

open Rv32i hiding Word
open MaskTable Fallible

theorem prime_nonzero : ∀ field : BitVec 3, (0b01#2 ++ field : BitVec 5) ≠ 0 := by
  decide

theorem decodeAlone_addi {rd : BitVec 5} (rs1 : BitVec 5) (imm : BitVec 12) (nonzero : rd ≠ 0) :
    decodeAlone (iType imm rs1 ImmOp.addi.funct3 rd 0b0010011) =
      .ok (true, ⟨.addi, rd, rs1, 0, imm.signExtend 32⟩) := by
  refine decodeAlone_imm .addi rd rs1 imm fun isNop => nonzero ?_
  rw [← iType_rd rs1 ImmOp.addi.funct3 rd 0b0010011 imm, isNop]
  decide

theorem whole_codes :
    directAlone 0 = none ∧ tableAlone 1 = some vliwNop ∧
      directAlone 1 = some ⟨.addi, 0, 0, 0, 0⟩ ∧
      tableAlone 0x9002 = some ⟨.ebreak, 0, 0, 0, 0⟩ ∧
      directAlone 0x9002 = some ⟨.ebreak, 0, 0, 0, 0⟩ := by
  decide +kernel

/-! Quadrant 0. -/

/-- The row `illegal`, before all other rows of 16-bit instructions. -/
def illegalPattern : Pattern 32 := ⟨0x00000000, 0x0000ffff⟩

theorem illegal_refuted {code : BitVec 16} (nonzero : code ≠ 0) :
    ∀ pattern ∈ [illegalPattern], pattern.accepts (code.setWidth 32) = false := by
  intro pattern member
  rw [List.mem_singleton.mp member]
  refine refuted_of_field 0 16 (by decide) (by decide) ?_
  rw [BitVec.extractLsb'_eq_self]
  exact nonzero

def row0 (funct3 : BitVec 3) : VliwOp :=
  match funct3.toNat with
  | 0 => .cAddi4spn
  | 1 => .cFld
  | 2 => .cLw
  | 3 => .cFlw
  | 4 => .reserved1
  | 5 => .cFsd
  | 6 => .cSw
  | _ => .cFsw

theorem rows0 : ∀ funct3,
    (((CodeFields.of funct3 0).known [illegalPattern]).search Optable.pattern optable).map
      (fun row => row.vliw) = some (row0 funct3) := by
  decide +kernel

section Quadrant0

variable {code : BitVec 16}

theorem nonzero_of_funct3 {funct3 : BitVec 3} (isFunct3 : code.extractLsb' 13 3 = funct3)
    (nonzero : funct3 ≠ 0) : code ≠ 0 := by
  rintro rfl
  exact nonzero isFunct3.symm

theorem lw_table (op : code.extractLsb' 0 2 = 0)
    (funct3 : code.extractLsb' 13 3 = 2) :
    tableAlone code = some ⟨.lw, 0b01#2 ++ code.extractLsb' 2 3, 0b01#2 ++ code.extractLsb' 7 3, 0,
      (wordImmOf code).setWidth 32⟩ := by
  have word : decomp16Table code = iType ((wordImmOf code).setWidth 12)
      (0b01#2 ++ code.extractLsb' 7 3) LoadOp.lw.funct3 (0b01#2 ++ code.extractLsb' 2 3)
      0b0000011 := by
    simp only [decomp16Table, op, decompQuadrant0, funct3]
    rfl
  have decoded := decodeAlone_load .lw (0b01#2 ++ code.extractLsb' 2 3)
    (0b01#2 ++ code.extractLsb' 7 3) ((wordImmOf code).setWidth 12)
  rw [signExtend_of_narrow _ (by decide) (by decide), ← word] at decoded
  exact table_some decoded

theorem lw_direct (op : code.extractLsb' 0 2 = 0)
    (funct3 : code.extractLsb' 13 3 = 2) :
    directAlone code = some ⟨.lw, 0b01#2 ++ code.extractLsb' 2 3, 0b01#2 ++ code.extractLsb' 7 3,
      0, (wordImmOf code).signExtend 32⟩ := by
  refine direct_some .cLw (.of funct3 op)
    (illegal_refuted (nonzero_of_funct3 funct3 (by decide))) (rows0 2) ?_
  simp only [expandCompressed, wide_fields, regMap3_eq, mkSw_eq]

example : tableAlone 0x41a8 = some ⟨.lw, 10, 11, 0, 64⟩ ∧
    directAlone 0x41a8 = some ⟨.lw, 10, 11, 0, -64⟩ := by
  decide +kernel

theorem sw_table (op : code.extractLsb' 0 2 = 0)
    (funct3 : code.extractLsb' 13 3 = 6) :
    tableAlone code = some ⟨.sw, 0, 0b01#2 ++ code.extractLsb' 7 3, 0b01#2 ++ code.extractLsb' 2 3,
      (wordImmOf code).setWidth 32⟩ := by
  have word : decomp16Table code = sType ((wordImmOf code).setWidth 12)
      (0b01#2 ++ code.extractLsb' 2 3) (0b01#2 ++ code.extractLsb' 7 3) StoreOp.sw.funct3
      0b0100011 := by
    simp only [decomp16Table, op, decompQuadrant0, funct3]
    rfl
  have decoded := decodeAlone_store .sw (0b01#2 ++ code.extractLsb' 7 3)
    (0b01#2 ++ code.extractLsb' 2 3) ((wordImmOf code).setWidth 12)
  rw [signExtend_of_narrow _ (by decide) (by decide), ← word] at decoded
  exact table_some decoded

theorem sw_direct (op : code.extractLsb' 0 2 = 0)
    (funct3 : code.extractLsb' 13 3 = 6) :
    directAlone code = some ⟨.sw, 0, 0b01#2 ++ code.extractLsb' 7 3, 0b01#2 ++ code.extractLsb' 2 3,
      (wordImmOf code).signExtend 32⟩ := by
  refine direct_some .cSw (.of funct3 op)
    (illegal_refuted (nonzero_of_funct3 funct3 (by decide))) (rows0 6) ?_
  simp only [expandCompressed, wide_fields, regMap3_eq, mkSw_eq]

theorem wordImm_top (code : BitVec 16) : (wordImmOf code).getLsbD 6 = code.getLsbD 5 := by
  simp only [wordImmOf, BitVec.getLsbD_append, BitVec.getLsbD_extractLsb']
  simp

theorem lw_settled (op : code.extractLsb' 0 2 = 0) (funct3 : code.extractLsb' 13 3 = 2) :
    Settled code := by
  have agree : decompressorsAgree code = !code.getLsbD 5 := by
    simp only [decompressorsAgree, op, funct3]
    rfl
  have widened := wordImm_extends (wordImmOf code)
  rw [wordImm_top] at widened
  refine settled_some (lw_table op funct3) (lw_direct op funct3) ?_
  rw [agree, widened]
  cases code.getLsbD 5 with
  | false => exact iff_of_true (.refl _) rfl
  | true =>
      refine iff_of_false ?_ (by decide)
      exact differs_of_outside (prime_nonzero _) _ fun _ => lw_outside _

theorem sw_settled (op : code.extractLsb' 0 2 = 0) (funct3 : code.extractLsb' 13 3 = 6) :
    Settled code := by
  have agree : decompressorsAgree code = !code.getLsbD 5 := by
    simp only [decompressorsAgree, op, funct3]
    rfl
  have widened := wordImm_extends (wordImmOf code)
  rw [wordImm_top] at widened
  refine settled_some (sw_table op funct3) (sw_direct op funct3) ?_
  rw [agree, widened]
  cases code.getLsbD 5 with
  | false => exact iff_of_true (.refl _) rfl
  | true =>
      refine iff_of_false ?_ (by decide)
      exact differs_of_outside (prime_nonzero _) _ fun _ => sw_outside _

theorem spnImm_zero (code : BitVec 16) : spnImmOf code = 0 ↔ code.extractLsb' 5 8 = 0 := by
  have bit : ∀ index, index < 10 → (spnImmOf code).getLsbD index =
      if index < 2 then false else (code.extractLsb' 5 8).getLsbD
        (if index = 2 then 1 else if index = 3 then 0 else if index < 6 then index + 2
          else index - 4) := by
    intro index inside
    simp only [spnImmOf, BitVec.getLsbD_append, BitVec.getLsbD_extractLsb']
    interval_cases index <;> simp
  constructor
  · intro isZero
    apply BitVec.eq_of_getLsbD_eq
    intro index inside
    rw [isZero] at bit
    interval_cases index
    · simpa using (bit 3 (by decide)).symm
    · simpa using (bit 2 (by decide)).symm
    · simpa using (bit 6 (by decide)).symm
    · simpa using (bit 7 (by decide)).symm
    · simpa using (bit 8 (by decide)).symm
    · simpa using (bit 9 (by decide)).symm
    · simpa using (bit 4 (by decide)).symm
    · simpa using (bit 5 (by decide)).symm
  · intro isZero
    apply BitVec.eq_of_getLsbD_eq
    intro index inside
    rw [bit index inside, isZero]
    simp

theorem addi4spn_settled (op : code.extractLsb' 0 2 = 0) (funct3 : code.extractLsb' 13 3 = 0) :
    Settled code := by
  have agree : decompressorsAgree code = (code == 0 || code.extractLsb' 5 8 != 0) := by
    simp only [decompressorsAgree, op, funct3]
    rfl
  have word : decomp16Table code = if spnImmOf code = 0 then 0 else
      iType ((spnImmOf code).setWidth 12) 2 ImmOp.addi.funct3 (0b01#2 ++ code.extractLsb' 2 3)
        0b0010011 := by
    simp only [decomp16Table, op, decompQuadrant0, funct3]
    rfl
  by_cases empty : code = 0
  · subst empty
    exact settled_none (by decide) whole_codes.1 (by decide)
  have direct : directAlone code = some ⟨.addi, 0b01#2 ++ code.extractLsb' 2 3, 2, 0,
      (spnImmOf code).setWidth 32⟩ := by
    refine direct_some .cAddi4spn (.of funct3 op) (illegal_refuted empty) (rows0 0) ?_
    simp only [expandCompressed, wide_fields, regMap3_eq, mkAddi4spn_eq]
  by_cases isZero : spnImmOf code = 0
  · rw [if_pos isZero] at word
    refine settled_direct (table_none word) direct ?_
    rw [agree, (spnImm_zero code).mp isZero]
    simpa using empty
  · rw [if_neg isZero] at word
    have decoded := decodeAlone_addi 2 ((spnImmOf code).setWidth 12)
      (prime_nonzero (code.extractLsb' 2 3))
    rw [signExtend_of_narrow _ (by decide) (by decide), ← word] at decoded
    refine settled_same (table_some decoded) direct ?_
    rw [agree, Bool.or_eq_true, bne_iff_ne]
    exact .inr (mt (spnImm_zero code).mpr isZero)

theorem quadrant0_rejected (op : code.extractLsb' 0 2 = 0)
    (other : ∀ funct3 ∈ [(0 : BitVec 3), 2, 6], code.extractLsb' 13 3 ≠ funct3) : Settled code := by
  generalize isFunct3 : code.extractLsb' 13 3 = funct3 at other
  have nonzero : code ≠ 0 := nonzero_of_funct3 isFunct3 (other 0 (by simp))
  have agree : decompressorsAgree code = true := by
    simp only [decompressorsAgree, op, isFunct3]
    rcases eight_cases funct3 with rfl | rfl | rfl | rfl | rfl | rfl | rfl | rfl <;>
      first | rfl | simp at other
  have word : decomp16Table code = 0 := by
    simp only [decomp16Table, op, decompQuadrant0, isFunct3]
    rcases eight_cases funct3 with rfl | rfl | rfl | rfl | rfl | rfl | rfl | rfl <;>
      first | rfl | simp at other
  refine settled_none (table_none word) ?_ agree
  refine direct_none (row0 funct3) (.of isFunct3 op) (illegal_refuted nonzero) (rows0 funct3) ?_
  rcases eight_cases funct3 with rfl | rfl | rfl | rfl | rfl | rfl | rfl | rfl <;>
    first | exact ⟨_, rfl⟩ | simp at other

theorem quadrant0_settled (op : code.extractLsb' 0 2 = 0) : Settled code := by
  by_cases addi4spn : code.extractLsb' 13 3 = 0
  · exact addi4spn_settled op addi4spn
  by_cases lw : code.extractLsb' 13 3 = 2
  · exact lw_settled op lw
  by_cases sw : code.extractLsb' 13 3 = 6
  · exact sw_settled op sw
  refine quadrant0_rejected op fun funct3 member isFunct3 => ?_
  simp only [List.mem_cons, List.not_mem_nil, or_false] at member
  subst isFunct3
  rcases member with first | second | third <;> contradiction

end Quadrant0

/-! Quadrant 1. -/

def cNopPattern : Pattern 32 := ⟨0x00000001, 0x0000ffff⟩

theorem cNop_refuted {code : BitVec 16} (other : code ≠ 1) :
    ∀ pattern ∈ [cNopPattern], pattern.accepts (code.setWidth 32) = false := by
  intro pattern member
  rw [List.mem_singleton.mp member]
  refine refuted_of_field 0 16 (by decide) (by decide) ?_
  rw [BitVec.extractLsb'_eq_self]
  exact other

theorem none_refuted (code : BitVec 16) :
    ∀ pattern ∈ ([] : List (Pattern 32)), pattern.accepts (code.setWidth 32) = false := by
  simp

def row1 (funct3 : BitVec 3) : VliwOp :=
  match funct3.toNat with
  | 1 => .cJal
  | 2 => .cLi
  | 5 => .cJ
  | 6 => .cBeqz
  | _ => .cBnez

def addi16spPattern : Pattern 32 := ⟨0x00006101, 0x0000ef83⟩

/-- The rows that are found for `c.addi` behind `c.nop`, for `c.addi16sp`, for `c.lui` behind it
and for the five classes that are alone. -/
theorem rows1 :
    ((((CodeFields.of 0 1).known [cNopPattern]).search Optable.pattern optable).map
      (fun row => row.vliw) = some .cAddi) ∧
    ((((CodeFields.mk (some 3) none (some 0) (some 2) none none (some 1)).known []).search
      Optable.pattern optable).map (fun row => row.vliw) = some .cAddi16sp) ∧
    ((((CodeFields.of 3 1).known [addi16spPattern]).search Optable.pattern optable).map
      (fun row => row.vliw) = some .cLui) ∧
    ∀ funct3 ∈ [(1 : BitVec 3), 2, 5, 6, 7],
      (((CodeFields.of funct3 1).known []).search Optable.pattern optable).map
        (fun row => row.vliw) = some (row1 funct3) := by
  decide +kernel

theorem code_one {code : BitVec 16} (op : code.extractLsb' 0 2 = 1)
    (funct3 : code.extractLsb' 13 3 = 0) (rd : code.extractLsb' 7 5 = 0)
    (imm : imm6Of code = 0) : code = 1 := by
  have whole : code = code.extractLsb' 13 3 ++ (imm6Of code).extractLsb' 5 1 ++
      code.extractLsb' 7 5 ++ (imm6Of code).extractLsb' 0 5 ++ code.extractLsb' 0 2 := by
    apply BitVec.eq_of_getLsbD_eq
    intro index inside
    simp only [imm6Of, BitVec.getLsbD_append, BitVec.getLsbD_extractLsb']
    interval_cases index <;> simp
  rw [whole, op, funct3, rd, imm]
  decide

theorem jumpWord_eq (offset : BitVec 21) (rd : BitVec 5) :
    jumpWord offset rd = jType (offset.extractLsb' 1 20) rd 0b1101111 := by
  apply BitVec.eq_of_getLsbD_eq
  intro index inside
  simp only [jumpWord, jType, BitVec.getLsbD_append, BitVec.getLsbD_extractLsb']
  interval_cases index <;> simp

theorem branchWord_eq (offset : BitVec 13) (rs1 : BitVec 5) (funct3 : BitVec 3) :
    branchWord offset rs1 funct3 = bType (offset.extractLsb' 1 12) 0 rs1 funct3 0b1100011 := by
  apply BitVec.eq_of_getLsbD_eq
  intro index inside
  simp only [branchWord, bType, BitVec.getLsbD_append, BitVec.getLsbD_extractLsb']
  interval_cases index <;> simp

theorem jumpOffset_displacement (code : BitVec 16) :
    displacement (((jumpOffsetOf code).signExtend 21).extractLsb' 1 20) =
      (jumpOffsetOf code).signExtend 32 := by
  have even : ((jumpOffsetOf code).signExtend 21).getLsbD 0 = false := by
    rw [BitVec.getLsbD_signExtend]
    simp only [jumpOffsetOf, BitVec.getLsbD_append]
    simp
  rw [displacement_of_even _ even, signExtend_twice _ (by decide) (by decide)]

theorem branchOffset_displacement (code : BitVec 16) :
    displacement (((branchOffsetOf code).signExtend 13).extractLsb' 1 12) =
      (branchOffsetOf code).signExtend 32 := by
  have even : ((branchOffsetOf code).signExtend 13).getLsbD 0 = false := by
    rw [BitVec.getLsbD_signExtend]
    simp only [branchOffsetOf, BitVec.getLsbD_append]
    simp
  rw [displacement_of_even _ even, signExtend_twice _ (by decide) (by decide)]

section Quadrant1

variable {code : BitVec 16}

theorem jal_settled (op : code.extractLsb' 0 2 = 1) (funct3 : code.extractLsb' 13 3 = 1) :
    Settled code := by
  have agree : decompressorsAgree code = true := by
    simp only [decompressorsAgree, op, funct3]
    rfl
  have word : decomp16Table code = jumpWord ((jumpOffsetOf code).signExtend 21) 1 := by
    simp only [decomp16Table, op, decompQuadrant1, funct3]
    rfl
  have decoded := decodeAlone_jal 1 (((jumpOffsetOf code).signExtend 21).extractLsb' 1 20)
    (by decide)
  rw [← jumpWord_eq, ← word, jumpOffset_displacement] at decoded
  refine settled_same (table_some decoded) ?_ agree
  refine direct_some .cJal (.of funct3 op) (none_refuted code) (rows1.2.2.2 1 (by decide)) ?_
  simp only [expandCompressed, jalOff_eq]

theorem j_settled (op : code.extractLsb' 0 2 = 1) (funct3 : code.extractLsb' 13 3 = 5) :
    Settled code := by
  have agree : decompressorsAgree code = true := by
    simp only [decompressorsAgree, op, funct3]
    rfl
  have word : decomp16Table code = jumpWord ((jumpOffsetOf code).signExtend 21) 0 := by
    simp only [decomp16Table, op, decompQuadrant1, funct3]
    rfl
  have decoded := decodeAlone_j (((jumpOffsetOf code).signExtend 21).extractLsb' 1 20)
  rw [← jumpWord_eq, ← word, jumpOffset_displacement] at decoded
  have direct : directAlone code = some ⟨.jal, 0, 0, 0, (jumpOffsetOf code).signExtend 32⟩ := by
    refine direct_some .cJ (.of funct3 op) (none_refuted code) (rows1.2.2.2 5 (by decide)) ?_
    simp only [expandCompressed, jalOff_eq]
  exact settled_some (table_some decoded) direct (iff_of_true (sameExecution_j _) agree)

theorem branch_settled (branch : BranchOp) (agree : decompressorsAgree code = true)
    (word : decomp16Table code = branchWord ((branchOffsetOf code).signExtend 13)
      (0b01#2 ++ code.extractLsb' 7 3) branch.funct3)
    (direct : directAlone code = some ⟨branchOpcode branch, 0, 0b01#2 ++ code.extractLsb' 7 3, 0,
      (branchOffsetOf code).signExtend 32⟩) : Settled code := by
  have decoded := decodeAlone_branch branch (0b01#2 ++ code.extractLsb' 7 3) 0
    (((branchOffsetOf code).signExtend 13).extractLsb' 1 12)
  rw [← branchWord_eq, ← word, branchOffset_displacement] at decoded
  exact settled_same (table_some decoded) direct agree

theorem beqz_settled (op : code.extractLsb' 0 2 = 1) (funct3 : code.extractLsb' 13 3 = 6) :
    Settled code := by
  refine branch_settled .beq ?_ ?_ ?_
  · simp only [decompressorsAgree, op, funct3]
    rfl
  · simp only [decomp16Table, op, decompQuadrant1, funct3]
    rfl
  · refine direct_some .cBeqz (.of funct3 op) (none_refuted code) (rows1.2.2.2 6 (by decide)) ?_
    simp only [expandCompressed, wide_fields, regMap3_eq, mkBeq_eq, branchOpcode]

theorem bnez_settled (op : code.extractLsb' 0 2 = 1) (funct3 : code.extractLsb' 13 3 = 7) :
    Settled code := by
  refine branch_settled .bne ?_ ?_ ?_
  · simp only [decompressorsAgree, op, funct3]
    rfl
  · simp only [decomp16Table, op, decompQuadrant1, funct3]
    rfl
  · refine direct_some .cBnez (.of funct3 op) (none_refuted code) (rows1.2.2.2 7 (by decide)) ?_
    simp only [expandCompressed, wide_fields, regMap3_eq, mkBeq_eq, branchOpcode]

theorem li_settled (op : code.extractLsb' 0 2 = 1) (funct3 : code.extractLsb' 13 3 = 2) :
    Settled code := by
  have agree : decompressorsAgree code = (code.extractLsb' 7 5 != 0) := by
    simp only [decompressorsAgree, op, funct3]
    rfl
  have word : decomp16Table code = if code.extractLsb' 7 5 = 0 then 0 else
      iType ((imm6Of code).signExtend 12) 0 ImmOp.addi.funct3 (code.extractLsb' 7 5)
        0b0010011 := by
    simp only [decomp16Table, op, decompQuadrant1, funct3]
    rfl
  have direct : directAlone code = some ⟨.addi, code.extractLsb' 7 5, 0, 0,
      (imm6Of code).signExtend 32⟩ := by
    refine direct_some .cLi (.of funct3 op) (none_refuted code) (rows1.2.2.2 2 (by decide)) ?_
    simp only [expandCompressed, wide_fields, mkImm6_eq]
  rw [Settled, agree, bne_iff_ne]
  by_cases isZero : code.extractLsb' 7 5 = 0
  · rw [if_pos isZero] at word
    rw [table_none word, direct]
    exact iff_of_false (not_pathsAgree_direct _) (not_not.mpr isZero)
  · rw [if_neg isZero] at word
    have decoded := decodeAlone_addi 0 ((imm6Of code).signExtend 12) isZero
    rw [← word, signExtend_twice _ (by decide) (by decide)] at decoded
    rw [table_some decoded, direct]
    exact iff_of_true (pathsAgree_same _) isZero

theorem addi_settled (op : code.extractLsb' 0 2 = 1) (funct3 : code.extractLsb' 13 3 = 0) :
    Settled code := by
  have agree : decompressorsAgree code = (code.extractLsb' 7 5 != 0 || imm6Of code == 0) := by
    simp only [decompressorsAgree, op, funct3]
    rfl
  have word : decomp16Table code = if code.extractLsb' 7 5 = 0 ∧ imm6Of code ≠ 0 then 0 else
      iType ((imm6Of code).signExtend 12) (code.extractLsb' 7 5) ImmOp.addi.funct3
        (code.extractLsb' 7 5) 0b0010011 := by
    simp only [decomp16Table, op, decompQuadrant1, funct3]
    rfl
  by_cases isNop : code = 1
  · subst isNop
    obtain ⟨_, table, direct, _⟩ := whole_codes
    exact settled_some table direct (iff_of_true sameExecution_nop (by decide))
  have direct : directAlone code = some ⟨.addi, code.extractLsb' 7 5, code.extractLsb' 7 5, 0,
      (imm6Of code).signExtend 32⟩ := by
    refine direct_some .cAddi (.of funct3 op) (cNop_refuted isNop) rows1.1 ?_
    simp only [expandCompressed, wide_fields, mkAddi_eq]
  by_cases isZero : code.extractLsb' 7 5 = 0
  · have nonzero : imm6Of code ≠ 0 := fun imm => isNop (code_one op funct3 isZero imm)
    rw [if_pos ⟨isZero, nonzero⟩] at word
    refine settled_direct (table_none word) direct ?_
    rw [agree, isZero, bne_self_eq_false, Bool.false_or, beq_eq_false_iff_ne]
    exact nonzero
  · rw [if_neg fun hint => isZero hint.1] at word
    have decoded := decodeAlone_addi (code.extractLsb' 7 5) ((imm6Of code).signExtend 12) isZero
    rw [← word, signExtend_twice _ (by decide) (by decide)] at decoded
    refine settled_same (table_some decoded) direct ?_
    rw [agree, Bool.or_eq_true, bne_iff_ne]
    exact .inl isZero

theorem spImm_zero (code : BitVec 16) : spImmOf code = 0 ↔ imm6Of code = 0 := by
  have imm : ∀ bit : BitVec 1, ∀ field : BitVec 5,
      (bit ++ field.extractLsb' 1 2 ++ field.extractLsb' 3 1 ++ field.extractLsb' 0 1 ++
        field.extractLsb' 4 1 ++ 0#4 : BitVec 10) = 0 ↔ (bit ++ field : BitVec 6) = 0 := by
    decide
  have whole : spImmOf code = code.extractLsb' 12 1 ++ (code.extractLsb' 2 5).extractLsb' 1 2 ++
      (code.extractLsb' 2 5).extractLsb' 3 1 ++ (code.extractLsb' 2 5).extractLsb' 0 1 ++
      (code.extractLsb' 2 5).extractLsb' 4 1 ++ 0#4 := by
    apply BitVec.eq_of_getLsbD_eq
    intro index inside
    simp only [spImmOf, BitVec.getLsbD_append, BitVec.getLsbD_extractLsb']
    interval_cases index <;> simp
  rw [whole, imm6Of]
  exact imm _ _

theorem addi16sp_settled (op : code.extractLsb' 0 2 = 1) (funct3 : code.extractLsb' 13 3 = 3)
    (sp : code.extractLsb' 7 5 = 2) : Settled code := by
  have agree : decompressorsAgree code = (imm6Of code != 0) := by
    simp only [decompressorsAgree, op, funct3, sp]
    rfl
  have word : decomp16Table code = if spImmOf code = 0 then 0 else
      iType ((spImmOf code).signExtend 12) 2 ImmOp.addi.funct3 2 0b0010011 := by
    simp only [decomp16Table, op, decompQuadrant1, funct3, sp, if_true]
    rfl
  have direct : directAlone code = some ⟨.addi, 2, 2, 0, (spImmOf code).signExtend 32⟩ := by
    obtain ⟨high, low⟩ := (rd_fields code 0 2).mp sp
    refine direct_some .cAddi16sp ?_ (none_refuted code) rows1.2.1 ?_
    · rw [← funct3, ← high, ← low, ← op]
      exact ⟨agrees_some _, agrees_none _, agrees_some _, agrees_some _, agrees_none _,
        agrees_none _, agrees_some _⟩
    · simp only [expandCompressed, wide_fields, mkAddi16sp_eq, sp]
  rw [Settled, agree, bne_iff_ne]
  by_cases isZero : imm6Of code = 0
  · rw [if_pos ((spImm_zero code).mpr isZero)] at word
    rw [table_none word, direct]
    exact iff_of_false (not_pathsAgree_direct _) (not_not.mpr isZero)
  · rw [if_neg (mt (spImm_zero code).mp isZero)] at word
    have decoded := @decodeAlone_addi 2 2 ((spImmOf code).signExtend 12) (by decide)
    rw [← word, signExtend_twice _ (by decide) (by decide)] at decoded
    rw [table_some decoded, direct]
    exact iff_of_true (pathsAgree_same _) isZero

theorem luiImm_shifted : ∀ imm : BitVec 6,
    (imm.signExtend 20 ++ 0#12 : Word) = imm.signExtend 32 <<< 12 := by
  decide

theorem lui_settled (op : code.extractLsb' 0 2 = 1) (funct3 : code.extractLsb' 13 3 = 3)
    (other : code.extractLsb' 7 5 ≠ 2) : Settled code := by
  have agree : decompressorsAgree code = (code.extractLsb' 7 5 != 0 && imm6Of code != 0) := by
    simp only [decompressorsAgree, op, funct3]
    rfl
  have word : decomp16Table code = if code.extractLsb' 7 5 = 0 ∨ imm6Of code = 0 then 0 else
      uType ((imm6Of code).signExtend 20) (code.extractLsb' 7 5) 0b0110111 := by
    simp only [decomp16Table, op, decompQuadrant1, funct3, if_neg other]
    rfl
  have direct : directAlone code = some ⟨.addi, code.extractLsb' 7 5, 0, 0,
      (imm6Of code).signExtend 32 <<< 12⟩ := by
    refine direct_some .cLui (.of funct3 op) ?_ rows1.2.2.1 ?_
    · intro pattern member
      rw [List.mem_singleton.mp member]
      exact refuted_of_field 7 5 (by decide) (by decide) other
    · simp only [expandCompressed, wide_fields, mkImm6_eq]
  rw [Settled, agree, Bool.and_eq_true, bne_iff_ne, bne_iff_ne]
  by_cases refused : code.extractLsb' 7 5 = 0 ∨ imm6Of code = 0
  · rw [if_pos refused] at word
    rw [table_none word, direct]
    exact iff_of_false (not_pathsAgree_direct _) (by rwa [← not_or, not_not])
  · rw [if_neg refused] at word
    obtain ⟨field, decoded, shifted⟩ := decodeAlone_upper .lui 0b0110111 (code.extractLsb' 7 5)
      ((imm6Of code).signExtend 20) (by decide) (by decide +kernel)
    rw [← word] at decoded
    rw [table_some decoded, direct, pathsAgree_some]
    exact iff_of_true (sameExecution_lui _ _ _ (shifted.trans (luiImm_shifted _)))
      (not_or.mp refused)

/-! The group of register operations. -/

def aluFields (bit : Option (BitVec 1)) (high : BitVec 2) (high' : Option (BitVec 2)) : CodeFields :=
  ⟨some 4, bit, some high, none, high', none, some 1⟩

def aluRow (high : BitVec 2) : VliwOp :=
  match high.toNat with
  | 0 => .cSrli
  | 1 => .cSrai
  | _ => .cAndi

def regRow (bit : BitVec 1) (high' : BitVec 2) : VliwOp :=
  match bit.toNat, high'.toNat with
  | 0, 0 => .cSub
  | 0, 1 => .cXor
  | 0, 2 => .cOr
  | 0, _ => .cAnd
  | _, 0 => .cSubw
  | _, 1 => .cAddw
  | _, 2 => .reserved2
  | _, _ => .reserved3

theorem groupRows :
    (∀ high, high ≠ 3 →
      (((aluFields none high none).known []).search Optable.pattern optable).map
        (fun row => row.vliw) = some (aluRow high)) ∧
    ∀ bit high',
      (((aluFields (some bit) 3 (some high')).known []).search Optable.pattern optable).map
        (fun row => row.vliw) = some (regRow bit high') := by
  decide +kernel

theorem imm6_top (code : BitVec 16) : (imm6Of code).getLsbD 5 = code.getLsbD 12 := by
  simp only [imm6Of, BitVec.getLsbD_append, BitVec.getLsbD_extractLsb']
  simp

theorem high_top (code : BitVec 16) : code.getLsbD 11 = (code.extractLsb' 10 2).getLsbD 1 := by
  rw [BitVec.getLsbD_extractLsb']
  simp

theorem shamt_narrow : ∀ imm : BitVec 6, imm.getLsbD 5 = false →
    (imm.setWidth 5).setWidth 32 = imm.setWidth 32 := by
  decide

theorem aluFields_hold {high : BitVec 2} (op : code.extractLsb' 0 2 = 1)
    (funct3 : code.extractLsb' 13 3 = 4) (isHigh : code.extractLsb' 10 2 = high) :
    (aluFields none high none).Hold code := by
  rw [← isHigh]
  exact ⟨funct3 ▸ agrees_some _, agrees_none _, agrees_some _, agrees_none _, agrees_none _,
    agrees_none _, op ▸ agrees_some _⟩

theorem regFields_hold {bit : BitVec 1} {high' : BitVec 2} (op : code.extractLsb' 0 2 = 1)
    (funct3 : code.extractLsb' 13 3 = 4) (high : code.extractLsb' 10 2 = 3)
    (isBit : code.extractLsb' 12 1 = bit) (isHigh : code.extractLsb' 5 2 = high') :
    (aluFields (some bit) 3 (some high')).Hold code := by
  subst isBit isHigh
  exact ⟨funct3 ▸ agrees_some _, agrees_some _, high ▸ agrees_some _, agrees_none _,
    agrees_some _, agrees_none _, op ▸ agrees_some _⟩

theorem shift_settled (shift : ShiftOp)
    (agree : decompressorsAgree code = (!code.getLsbD 12 && imm6Of code != 0))
    (word : decomp16Table code = if (imm6Of code).getLsbD 5 ∨ imm6Of code = 0 then 0 else
      rType shift.funct7 ((imm6Of code).setWidth 5) (0b01#2 ++ code.extractLsb' 7 3) shift.funct3
        (0b01#2 ++ code.extractLsb' 7 3) 0b0010011)
    (direct : directAlone code = some ⟨shiftOpcode shift, 0b01#2 ++ code.extractLsb' 7 3,
      0b01#2 ++ code.extractLsb' 7 3, 0, (imm6Of code).setWidth 32⟩) : Settled code := by
  rw [Settled, agree, Bool.and_eq_true, bne_iff_ne, Bool.not_eq_true', ← imm6_top]
  by_cases refused : (imm6Of code).getLsbD 5 ∨ imm6Of code = 0
  · rw [if_pos refused] at word
    rw [table_none word, direct]
    refine iff_of_false (not_pathsAgree_direct _) ?_
    rintro ⟨narrow, nonzero⟩
    rcases refused with wide | isZero
    · rw [narrow] at wide
      exact Bool.false_ne_true wide
    · exact nonzero isZero
  · rw [if_neg refused] at word
    obtain ⟨narrow, nonzero⟩ := not_or.mp refused
    have narrow := Bool.not_eq_true _ ▸ narrow
    have decoded := decodeAlone_shift shift (0b01#2 ++ code.extractLsb' 7 3)
      (0b01#2 ++ code.extractLsb' 7 3) ((imm6Of code).setWidth 5)
    rw [← word, shamt_narrow _ narrow] at decoded
    rw [table_some decoded, direct]
    exact iff_of_true (pathsAgree_same _) ⟨narrow, nonzero⟩

theorem srli_settled (op : code.extractLsb' 0 2 = 1) (funct3 : code.extractLsb' 13 3 = 4)
    (high : code.extractLsb' 10 2 = 0) : Settled code := by
  refine shift_settled .srli ?_ ?_ ?_
  · simp only [decompressorsAgree, op, funct3, high_top, high]
    rfl
  · simp only [decomp16Table, op, decompQuadrant1, funct3, decompAlu, high]
    rfl
  · refine direct_some .cSrli (aluFields_hold op funct3 high) (none_refuted code)
      (groupRows.1 0 (by decide)) ?_
    simp only [expandCompressed, wide_fields, regMap3_eq, mkShamt_eq, shiftOpcode]

theorem srai_settled (op : code.extractLsb' 0 2 = 1) (funct3 : code.extractLsb' 13 3 = 4)
    (high : code.extractLsb' 10 2 = 1) : Settled code := by
  refine shift_settled .srai ?_ ?_ ?_
  · simp only [decompressorsAgree, op, funct3, high_top, high]
    rfl
  · simp only [decomp16Table, op, decompQuadrant1, funct3, decompAlu, high]
    rfl
  · refine direct_some .cSrai (aluFields_hold op funct3 high) (none_refuted code)
      (groupRows.1 1 (by decide)) ?_
    simp only [expandCompressed, wide_fields, regMap3_eq, mkShamt_eq, shiftOpcode]

theorem andi_settled (op : code.extractLsb' 0 2 = 1) (funct3 : code.extractLsb' 13 3 = 4)
    (high : code.extractLsb' 10 2 = 2) : Settled code := by
  have agree : decompressorsAgree code = true := by
    simp only [decompressorsAgree, op, funct3, high_top, high]
    rfl
  have word : decomp16Table code = iType ((imm6Of code).signExtend 12)
      (0b01#2 ++ code.extractLsb' 7 3) ImmOp.andi.funct3 (0b01#2 ++ code.extractLsb' 7 3)
      0b0010011 := by
    simp only [decomp16Table, op, decompQuadrant1, funct3, decompAlu, high]
    rfl
  have other : iType ((imm6Of code).signExtend 12) (0b01#2 ++ code.extractLsb' 7 3)
      ImmOp.andi.funct3 (0b01#2 ++ code.extractLsb' 7 3) 0b0010011 ≠ 0x00000013 := by
    intro isNop
    apply prime_nonzero (code.extractLsb' 7 3)
    rw [← iType_rd (0b01#2 ++ code.extractLsb' 7 3) ImmOp.andi.funct3
      (0b01#2 ++ code.extractLsb' 7 3) 0b0010011 ((imm6Of code).signExtend 12), isNop]
    decide
  have decoded := decodeAlone_imm .andi _ _ _ other
  rw [← word, signExtend_twice _ (by decide) (by decide)] at decoded
  refine settled_same (table_some decoded) ?_ agree
  refine direct_some .cAndi (aluFields_hold op funct3 high) (none_refuted code)
    (groupRows.1 2 (by decide)) ?_
  simp only [expandCompressed, wide_fields, regMap3_eq, mkAddi_eq, immOpcode]

theorem reg_settled (reg : RegOp) (agree : decompressorsAgree code = true)
    (word : decomp16Table code = rType reg.funct7 (0b01#2 ++ code.extractLsb' 2 3)
      (0b01#2 ++ code.extractLsb' 7 3) reg.funct3 (0b01#2 ++ code.extractLsb' 7 3) 0b0110011)
    (direct : directAlone code = some ⟨regOpcode reg, 0b01#2 ++ code.extractLsb' 7 3,
      0b01#2 ++ code.extractLsb' 7 3, 0b01#2 ++ code.extractLsb' 2 3, 0⟩) : Settled code := by
  have decoded := decodeAlone_reg reg (0b01#2 ++ code.extractLsb' 7 3)
    (0b01#2 ++ code.extractLsb' 7 3) (0b01#2 ++ code.extractLsb' 2 3)
  rw [← word] at decoded
  exact settled_same (table_some decoded) direct agree

def regOpOf (high' : BitVec 2) : RegOp :=
  match high'.toNat with
  | 0 => .sub
  | 1 => .xor
  | 2 => .or
  | _ => .and

theorem regRow_expands (high' : BitVec 2) : expandCompressed (regRow 0 high') (code.setWidth 32) =
    .ok ⟨regOpcode (regOpOf high'), 0b01#2 ++ code.extractLsb' 7 3,
      0b01#2 ++ code.extractLsb' 7 3, 0b01#2 ++ code.extractLsb' 2 3, 0⟩ := by
  rw [← regMap3_eq, ← regMap3_eq, ← (wide_fields code).1, ← (wide_fields code).2.1]
  rcases four_cases high' with rfl | rfl | rfl | rfl <;> rfl

theorem regOp_settled (op : code.extractLsb' 0 2 = 1) (funct3 : code.extractLsb' 13 3 = 4)
    (high : code.extractLsb' 10 2 = 3) : Settled code := by
  have agree : decompressorsAgree code = true := by
    simp only [decompressorsAgree, op, funct3, high_top, high]
    rfl
  have top : (imm6Of code).getLsbD 5 = (code.extractLsb' 12 1).getLsbD 0 := by
    rw [imm6_top, bit12_iff]
  have word : decomp16Table code = if (imm6Of code).getLsbD 5 then 0 else
      rType (regOpOf (code.extractLsb' 5 2)).funct7 (0b01#2 ++ code.extractLsb' 2 3)
      (0b01#2 ++ code.extractLsb' 7 3) (regOpOf (code.extractLsb' 5 2)).funct3
      (0b01#2 ++ code.extractLsb' 7 3) 0b0110011 := by
    simp only [decomp16Table, op, decompQuadrant1, funct3, decompAlu, high]
    rcases four_cases (code.extractLsb' 5 2) with low | low | low | low <;> rw [low] <;> rfl
  rcases two_cases (code.extractLsb' 12 1) with bit | bit
  · rw [top, bit, if_neg (by decide)] at word
    refine reg_settled _ agree word ?_
    exact direct_some (regRow 0 (code.extractLsb' 5 2)) (regFields_hold op funct3 high bit rfl)
      (none_refuted code) (groupRows.2 0 _) (regRow_expands _)
  · rw [top, bit, if_pos (by decide)] at word
    refine settled_none (table_none word) ?_ agree
    refine direct_none (regRow 1 (code.extractLsb' 5 2)) (regFields_hold op funct3 high bit rfl)
      (none_refuted code) (groupRows.2 1 _) ?_
    rcases four_cases (code.extractLsb' 5 2) with low | low | low | low <;> rw [low] <;>
      exact ⟨_, rfl⟩

theorem quadrant1_settled (op : code.extractLsb' 0 2 = 1) : Settled code := by
  rcases eight_cases (code.extractLsb' 13 3) with
    funct3 | funct3 | funct3 | funct3 | funct3 | funct3 | funct3 | funct3
  · exact addi_settled op funct3
  · exact jal_settled op funct3
  · exact li_settled op funct3
  · by_cases sp : code.extractLsb' 7 5 = 2
    · exact addi16sp_settled op funct3 sp
    · exact lui_settled op funct3 sp
  · rcases four_cases (code.extractLsb' 10 2) with high | high | high | high
    · exact srli_settled op funct3 high
    · exact srai_settled op funct3 high
    · exact andi_settled op funct3 high
    · exact regOp_settled op funct3 high
  · exact j_settled op funct3
  · exact beqz_settled op funct3
  · exact bnez_settled op funct3

end Quadrant1
/-! Quadrant 2. -/

def row2 (funct3 : BitVec 3) : VliwOp :=
  match funct3.toNat with
  | 0 => .cSlli
  | 1 => .cFldsp
  | 2 => .cLwsp
  | 3 => .cFlwsp
  | 5 => .cFsdsp
  | 6 => .cSwsp
  | _ => .cFswsp

def registersFields (bit : BitVec 1) : CodeFields :=
  ⟨some 4, some bit, none, none, none, none, some 2⟩

def oneRegisterFields (bit : BitVec 1) : CodeFields :=
  ⟨some 4, some bit, none, none, some 0, some 0, some 2⟩

def cJrPattern : Pattern 32 := ⟨0x00008002, 0x0000f07f⟩

def cEbreakPattern : Pattern 32 := ⟨0x00009002, 0x0000ffff⟩

def cJalrPattern : Pattern 32 := ⟨0x00009002, 0x0000f07f⟩

theorem rows2 :
    (∀ funct3, funct3 ≠ 4 →
      (((CodeFields.of funct3 2).known []).search Optable.pattern optable).map
        (fun row => row.vliw) = some (row2 funct3)) ∧
    ((((oneRegisterFields 0).known []).search Optable.pattern optable).map
      (fun row => row.vliw) = some .cJr) ∧
    ((((registersFields 0).known [cJrPattern]).search Optable.pattern optable).map
      (fun row => row.vliw) = some .cMv) ∧
    ((((oneRegisterFields 1).known [cEbreakPattern]).search Optable.pattern optable).map
      (fun row => row.vliw) = some .cJalr) ∧
    ((((registersFields 1).known [cEbreakPattern, cJalrPattern]).search Optable.pattern
      optable).map (fun row => row.vliw) = some .cAdd) := by
  decide +kernel

theorem rs2_zero_iff (code : BitVec 16) :
    code.extractLsb' 2 5 = 0 ↔ code.extractLsb' 5 2 = 0 ∧ code.extractLsb' 2 3 = 0 := by
  have split : code.extractLsb' 2 5 = code.extractLsb' 5 2 ++ code.extractLsb' 2 3 := by
    apply BitVec.eq_of_getLsbD_eq
    intro index inside
    simp only [BitVec.getLsbD_append, BitVec.getLsbD_extractLsb']
    interval_cases index <;> simp
  have parts : ∀ (high : BitVec 2) (low : BitVec 3), (high ++ low : BitVec 5) = 0 ↔
      high = 0 ∧ low = 0 := by
    decide
  rw [split]
  exact parts _ _

theorem imm6_narrow (code : BitVec 16) (narrow : code.getLsbD 12 = false) :
    imm6Of code = (code.extractLsb' 2 5).setWidth 6 := by
  rw [BitVec.getLsbD_eq_getElem (by decide)] at narrow
  apply BitVec.eq_of_getLsbD_eq
  intro index inside
  simp only [imm6Of, BitVec.getLsbD_append, BitVec.getLsbD_extractLsb', BitVec.getLsbD_setWidth]
  interval_cases index <;> simp [narrow]

theorem bit12_clear {code : BitVec 16} (bit : code.extractLsb' 12 1 = 0) :
    ¬ code.getLsbD 12 = true := by
  rw [bit12_iff, bit]
  decide

theorem bit12_set {code : BitVec 16} (bit : code.extractLsb' 12 1 = 1) :
    code.getLsbD 12 = true := by
  rw [bit12_iff, bit]
  decide

theorem not_ebreak {code : BitVec 16} (bit : code.extractLsb' 12 1 = 0) : code ≠ 0x9002 := by
  rintro rfl
  exact absurd bit (by decide)

theorem code_ebreak {code : BitVec 16} (op : code.extractLsb' 0 2 = 2)
    (funct3 : code.extractLsb' 13 3 = 4) (bit : code.extractLsb' 12 1 = 1)
    (rs2 : code.extractLsb' 2 5 = 0) (rd : code.extractLsb' 7 5 = 0) : code = 0x9002 := by
  have whole : code = code.extractLsb' 13 3 ++ code.extractLsb' 12 1 ++
      code.extractLsb' 7 5 ++ code.extractLsb' 2 5 ++ code.extractLsb' 0 2 := by
    apply BitVec.eq_of_getLsbD_eq
    intro index inside
    simp only [BitVec.getLsbD_append, BitVec.getLsbD_extractLsb']
    interval_cases index <;> simp
  rw [whole, op, funct3, bit, rs2, rd]
  decide

section Quadrant2

variable {code : BitVec 16}

theorem registersFields_hold {bit : BitVec 1} (op : code.extractLsb' 0 2 = 2)
    (funct3 : code.extractLsb' 13 3 = 4) (isBit : code.extractLsb' 12 1 = bit) :
    (registersFields bit).Hold code := by
  subst isBit
  exact ⟨funct3 ▸ agrees_some _, agrees_some _, agrees_none _, agrees_none _, agrees_none _,
    agrees_none _, op ▸ agrees_some _⟩

theorem oneRegisterFields_hold {bit : BitVec 1} (op : code.extractLsb' 0 2 = 2)
    (funct3 : code.extractLsb' 13 3 = 4) (isBit : code.extractLsb' 12 1 = bit)
    (rs2 : code.extractLsb' 2 5 = 0) : (oneRegisterFields bit).Hold code := by
  subst isBit
  obtain ⟨high, low⟩ := (rs2_zero_iff code).mp rs2
  exact ⟨funct3 ▸ agrees_some _, agrees_some _, agrees_none _, agrees_none _,
    high ▸ agrees_some _, low ▸ agrees_some _, op ▸ agrees_some _⟩

theorem slli_settled (op : code.extractLsb' 0 2 = 2) (funct3 : code.extractLsb' 13 3 = 0) :
    Settled code := by
  have agree : decompressorsAgree code = (!code.getLsbD 12 && (imm6Of code == 0 ||
      (0b01#2 ++ code.extractLsb' 7 3 : BitVec 5) == code.extractLsb' 7 5)) := by
    simp only [decompressorsAgree, op, funct3]
    rfl
  have word : decomp16Table code = if code.getLsbD 12 then 0 else
      rType ShiftOp.slli.funct7 (code.extractLsb' 2 5) (code.extractLsb' 7 5) ShiftOp.slli.funct3
        (code.extractLsb' 7 5) 0b0010011 := by
    simp only [decomp16Table, op, decompQuadrant2, funct3]
    rfl
  have direct : directAlone code = some ⟨.slli, 0b01#2 ++ code.extractLsb' 7 3,
      0b01#2 ++ code.extractLsb' 7 3, 0, (imm6Of code).setWidth 32⟩ := by
    refine direct_some .cSlli (.of funct3 op) (none_refuted code) (rows2.1 0 (by decide)) ?_
    simp only [expandCompressed, wide_fields, regMap3_eq, mkShamt_eq]
  cases bit : code.getLsbD 12 with
  | true =>
      rw [bit, if_pos rfl] at word
      refine settled_direct (table_none word) direct ?_
      rw [agree, bit]
      rfl
  | false =>
      rw [bit, if_neg Bool.false_ne_true] at word
      have decoded := decodeAlone_shift .slli (code.extractLsb' 7 5) (code.extractLsb' 7 5)
        (code.extractLsb' 2 5)
      rw [← word] at decoded
      have sameCount : ∀ field : BitVec 5, (field.setWidth 6).setWidth 32 = field.setWidth 32 ∧
          (field.setWidth 6 = 0 ↔ field = 0) := by
        decide
      rw [imm6_narrow code bit, (sameCount _).1] at direct
      refine settled_some (table_some decoded) direct ?_
      rw [agree, bit, imm6_narrow code bit, Bool.not_false, Bool.true_and, Bool.or_eq_true,
        beq_iff_eq, beq_iff_eq, (sameCount _).2]
      exact sameExecution_slli_iff _ _ _ (prime_nonzero _)

theorem lwsp_settled (op : code.extractLsb' 0 2 = 2) (funct3 : code.extractLsb' 13 3 = 2) :
    Settled code := by
  have agree : decompressorsAgree code = true := by
    simp only [decompressorsAgree, op, funct3]
    rfl
  have word : decomp16Table code = iType ((loadImmOf code).setWidth 12) 2 LoadOp.lw.funct3
      (code.extractLsb' 7 5) 0b0000011 := by
    simp only [decomp16Table, op, decompQuadrant2, funct3]
    rfl
  have decoded := decodeAlone_load .lw (code.extractLsb' 7 5) 2 ((loadImmOf code).setWidth 12)
  rw [← word, signExtend_of_narrow _ (by decide) (by decide)] at decoded
  refine settled_same (table_some decoded) ?_ agree
  refine direct_some .cLwsp (.of funct3 op) (none_refuted code) (rows2.1 2 (by decide)) ?_
  simp only [expandCompressed, wide_fields, mkLwsp_eq, loadOpcode]

theorem swsp_settled (op : code.extractLsb' 0 2 = 2) (funct3 : code.extractLsb' 13 3 = 6) :
    Settled code := by
  have agree : decompressorsAgree code = true := by
    simp only [decompressorsAgree, op, funct3]
    rfl
  have word : decomp16Table code = sType ((storeImmOf code).setWidth 12) (code.extractLsb' 2 5) 2
      StoreOp.sw.funct3 0b0100011 := by
    simp only [decomp16Table, op, decompQuadrant2, funct3]
    rfl
  have decoded := decodeAlone_store .sw 2 (code.extractLsb' 2 5) ((storeImmOf code).setWidth 12)
  rw [← word, signExtend_of_narrow _ (by decide) (by decide)] at decoded
  refine settled_same (table_some decoded) ?_ agree
  refine direct_some .cSwsp (.of funct3 op) (none_refuted code) (rows2.1 6 (by decide)) ?_
  simp only [expandCompressed, wide_fields, mkSwsp_eq, storeOpcode]

theorem quadrant2_rejected (op : code.extractLsb' 0 2 = 2)
    (other : ∀ funct3 ∈ [(0 : BitVec 3), 2, 4, 6], code.extractLsb' 13 3 ≠ funct3) :
    Settled code := by
  generalize isFunct3 : code.extractLsb' 13 3 = funct3 at other
  have agree : decompressorsAgree code = true := by
    simp only [decompressorsAgree, op, isFunct3]
    rcases eight_cases funct3 with rfl | rfl | rfl | rfl | rfl | rfl | rfl | rfl <;>
      first | rfl | simp at other
  have word : decomp16Table code = 0 := by
    simp only [decomp16Table, op, decompQuadrant2, isFunct3]
    rcases eight_cases funct3 with rfl | rfl | rfl | rfl | rfl | rfl | rfl | rfl <;>
      first | rfl | simp at other
  refine settled_none (table_none word) ?_ agree
  refine direct_none (row2 funct3) (.of isFunct3 op) (none_refuted code)
    (rows2.1 funct3 (other 4 (by simp))) ?_
  rcases eight_cases funct3 with rfl | rfl | rfl | rfl | rfl | rfl | rfl | rfl <;>
    first | exact ⟨_, rfl⟩ | simp at other

/-! The group of `funct3` 4: one register or two, and bit 12. -/

theorem registers_settled {table direct : Vliw}
    (agree : decompressorsAgree code = (code.extractLsb' 7 5 != 0 || code == 0x9002))
    (isDirect : directAlone code = some direct) (other : code ≠ 0x9002)
    (refused : code.extractLsb' 7 5 = 0 → decomp16Table code = 0)
    (isTable : code.extractLsb' 7 5 ≠ 0 → tableAlone code = some table)
    (same : SameExecution table direct) : Settled code := by
  rw [Settled, agree, Bool.or_eq_true, bne_iff_ne, beq_iff_eq, or_iff_left other, isDirect]
  by_cases isZero : code.extractLsb' 7 5 = 0
  · rw [table_none (refused isZero)]
    exact iff_of_false (not_pathsAgree_direct _) (not_not.mpr isZero)
  · rw [isTable isZero]
    exact iff_of_true ((pathsAgree_some _ _).mpr same) isZero

theorem registers_agree (op : code.extractLsb' 0 2 = 2) (funct3 : code.extractLsb' 13 3 = 4) :
    decompressorsAgree code = (code.extractLsb' 7 5 != 0 || code == 0x9002) := by
  simp only [decompressorsAgree, op, funct3]
  rfl

theorem jr_settled (op : code.extractLsb' 0 2 = 2) (funct3 : code.extractLsb' 13 3 = 4)
    (bit : code.extractLsb' 12 1 = 0) (rs2 : code.extractLsb' 2 5 = 0) : Settled code := by
  have word : decomp16Table code = if code.extractLsb' 7 5 = 0 then 0 else
      iType 0 (code.extractLsb' 7 5) 0b000 0 0b1100111 := by
    simp only [decomp16Table, op, decompQuadrant2, funct3, if_neg (bit12_clear bit), rs2, if_true]
    rfl
  have direct : directAlone code = some ⟨.jalr, 0, code.extractLsb' 7 5, 0, 0⟩ := by
    refine direct_some .cJr (oneRegisterFields_hold op funct3 bit rs2) (none_refuted code)
      rows2.2.1 ?_
    simp only [expandCompressed, wide_fields]
  refine registers_settled (registers_agree op funct3) direct (not_ebreak bit)
    (fun isZero => ?_) (fun real => ?_) (sameExecution_jr (code.extractLsb' 7 5))
  · rw [word, if_pos isZero]
  · have decoded := decodeAlone_jr (code.extractLsb' 7 5)
    rw [if_neg real] at word
    rw [← word] at decoded
    exact table_some decoded

theorem mv_settled (op : code.extractLsb' 0 2 = 2) (funct3 : code.extractLsb' 13 3 = 4)
    (bit : code.extractLsb' 12 1 = 0) (rs2 : code.extractLsb' 2 5 ≠ 0) : Settled code := by
  have word : decomp16Table code = if code.extractLsb' 7 5 = 0 then 0 else
      rType RegOp.add.funct7 (code.extractLsb' 2 5) 0 RegOp.add.funct3 (code.extractLsb' 7 5)
        0b0110011 := by
    simp only [decomp16Table, op, decompQuadrant2, funct3, if_neg (bit12_clear bit), if_neg rs2]
    rfl
  have direct : directAlone code =
      some ⟨.addi, code.extractLsb' 7 5, code.extractLsb' 2 5, 0, 0⟩ := by
    refine direct_some .cMv (registersFields_hold op funct3 bit) ?_ rows2.2.2.1 ?_
    · intro pattern member
      rw [List.mem_singleton.mp member]
      exact refuted_of_field 2 5 (by decide) (by decide) rs2
    · simp only [expandCompressed, wide_fields]
  refine registers_settled (registers_agree op funct3) direct (not_ebreak bit)
    (fun isZero => ?_) (fun real => ?_)
    (sameExecution_mv (code.extractLsb' 7 5) (code.extractLsb' 2 5))
  · rw [word, if_pos isZero]
  · have decoded := decodeAlone_reg .add (code.extractLsb' 7 5) 0 (code.extractLsb' 2 5)
    rw [if_neg real] at word
    rw [← word] at decoded
    exact table_some decoded

theorem jalr_settled (op : code.extractLsb' 0 2 = 2) (funct3 : code.extractLsb' 13 3 = 4)
    (bit : code.extractLsb' 12 1 = 1) (rs2 : code.extractLsb' 2 5 = 0) : Settled code := by
  by_cases isEbreak : code = 0x9002
  · subst isEbreak
    obtain ⟨_, _, _, table, direct⟩ := whole_codes
    exact settled_same table direct (by decide)
  have real : code.extractLsb' 7 5 ≠ 0 := fun isZero =>
    isEbreak (code_ebreak op funct3 bit rs2 isZero)
  have word : decomp16Table code = iType 0 (code.extractLsb' 7 5) 0b000 1 0b1100111 := by
    simp only [decomp16Table, op, decompQuadrant2, funct3, if_pos (bit12_set bit), rs2, if_true,
      if_neg real]
    rfl
  have direct : directAlone code = some ⟨.jalr, 1, code.extractLsb' 7 5, 0, 0⟩ := by
    refine direct_some .cJalr (oneRegisterFields_hold op funct3 bit rs2) ?_ rows2.2.2.2.1 ?_
    · intro pattern member
      rw [List.mem_singleton.mp member]
      refine refuted_of_field 0 16 (by decide) (by decide) ?_
      rw [BitVec.extractLsb'_eq_self]
      exact isEbreak
    · simp only [expandCompressed, wide_fields]
  have decoded := decodeAlone_jalr 1 (code.extractLsb' 7 5) 0 (by decide)
  rw [← word] at decoded
  exact registers_settled (registers_agree op funct3) direct isEbreak
    (fun isZero => absurd isZero real) (fun _ => table_some decoded) (.refl _)

theorem add_settled (op : code.extractLsb' 0 2 = 2) (funct3 : code.extractLsb' 13 3 = 4)
    (bit : code.extractLsb' 12 1 = 1) (rs2 : code.extractLsb' 2 5 ≠ 0) : Settled code := by
  have word : decomp16Table code = if code.extractLsb' 7 5 = 0 then 0 else
      rType RegOp.add.funct7 (code.extractLsb' 2 5) (code.extractLsb' 7 5) RegOp.add.funct3
        (code.extractLsb' 7 5) 0b0110011 := by
    simp only [decomp16Table, op, decompQuadrant2, funct3, if_pos (bit12_set bit), if_neg rs2]
    rfl
  have direct : directAlone code =
      some ⟨.add, code.extractLsb' 7 5, code.extractLsb' 7 5, code.extractLsb' 2 5, 0⟩ := by
    refine direct_some .cAdd (registersFields_hold op funct3 bit) ?_ rows2.2.2.2.2 ?_
    · intro pattern member
      simp only [List.mem_cons, List.not_mem_nil, or_false] at member
      rcases member with rfl | rfl <;>
        exact refuted_of_field 2 5 (by decide) (by decide) rs2
    · simp only [expandCompressed, wide_fields]
  have other : code ≠ 0x9002 := by
    rintro rfl
    exact rs2 (by decide)
  refine registers_settled (registers_agree op funct3) direct other
    (fun isZero => ?_) (fun real => ?_) (.refl _)
  · rw [word, if_pos isZero]
  · have decoded := decodeAlone_reg .add (code.extractLsb' 7 5) (code.extractLsb' 7 5)
      (code.extractLsb' 2 5)
    rw [if_neg real] at word
    rw [← word] at decoded
    exact table_some decoded

theorem quadrant2_settled (op : code.extractLsb' 0 2 = 2) : Settled code := by
  by_cases slli : code.extractLsb' 13 3 = 0
  · exact slli_settled op slli
  by_cases lwsp : code.extractLsb' 13 3 = 2
  · exact lwsp_settled op lwsp
  by_cases registers : code.extractLsb' 13 3 = 4
  · by_cases rs2 : code.extractLsb' 2 5 = 0
    · rcases two_cases (code.extractLsb' 12 1) with bit | bit
      · exact jr_settled op registers bit rs2
      · exact jalr_settled op registers bit rs2
    · rcases two_cases (code.extractLsb' 12 1) with bit | bit
      · exact mv_settled op registers bit rs2
      · exact add_settled op registers bit rs2
  by_cases swsp : code.extractLsb' 13 3 = 6
  · exact swsp_settled op swsp
  refine quadrant2_rejected op fun funct3 member isFunct3 => ?_
  simp only [List.mem_cons, List.not_mem_nil, or_false] at member
  subst isFunct3
  rcases member with first | second | third | fourth <;> contradiction

end Quadrant2

end RiscVFast
