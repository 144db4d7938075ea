import RiscVFast.Quadrants
import RiscVFast.Lib.Rvc

/-! The table of expansions against the 16-bit instructions of the architecture. -/

namespace RiscVFast

open Rv32i hiding Word
open Rvc

section Immediates

variable (funct3 : BitVec 3) (op : BitVec 2)

theorem spnImm_encode (rd : Prime) (imm : BitVec 8) :
    spnImmOf (Rvc.Instr.addi4spn rd imm).encode = imm ++ 0#2 := by
  apply BitVec.eq_of_getLsbD_eq
  intro index inside
  simp only [spnImmOf, Rvc.Instr.encode, fields, BitVec.getLsbD_append, BitVec.getLsbD_extractLsb']
  interval_cases index <;> simp

theorem wordImm_wordType (imm : BitVec 5) (rs1 low : Prime) :
    wordImmOf (wordType funct3 imm rs1 low) = imm ++ 0#2 := by
  apply BitVec.eq_of_getLsbD_eq
  intro index inside
  simp only [wordImmOf, wordType, fields, BitVec.getLsbD_append, BitVec.getLsbD_extractLsb']
  interval_cases index <;> simp

theorem imm6_immType (imm : BitVec 6) (rd : Reg) : imm6Of (immType funct3 imm rd op) = imm := by
  apply BitVec.eq_of_getLsbD_eq
  intro index inside
  simp only [imm6Of, immType, ciType, fields, BitVec.getLsbD_append, BitVec.getLsbD_extractLsb']
  interval_cases index <;> simp

theorem spImm_encode (imm : BitVec 6) :
    spImmOf (Rvc.Instr.addi16sp imm).encode = imm ++ 0#4 := by
  apply BitVec.eq_of_getLsbD_eq
  intro index inside
  simp only [spImmOf, Rvc.Instr.encode, ciType, fields, BitVec.getLsbD_append,
    BitVec.getLsbD_extractLsb']
  interval_cases index <;> simp

theorem jumpOffset_cjType (imm : BitVec 11) : jumpOffsetOf (cjType funct3 imm) = imm ++ 0#1 := by
  apply BitVec.eq_of_getLsbD_eq
  intro index inside
  simp only [jumpOffsetOf, cjType, fields, BitVec.getLsbD_append, BitVec.getLsbD_extractLsb']
  interval_cases index <;> simp

theorem branchOffset_encode (branch : Rvc.BranchOp) (rs1 : Prime) (imm : BitVec 8) :
    branchOffsetOf (Rvc.Instr.branch branch rs1 imm).encode = imm ++ 0#1 := by
  apply BitVec.eq_of_getLsbD_eq
  intro index inside
  simp only [branchOffsetOf, Rvc.Instr.encode, fields, BitVec.getLsbD_append,
    BitVec.getLsbD_extractLsb']
  interval_cases index <;> simp

theorem loadImm_encode (rd : Reg) (imm : BitVec 6) :
    loadImmOf (Rvc.Instr.lwsp rd imm).encode = imm ++ 0#2 := by
  apply BitVec.eq_of_getLsbD_eq
  intro index inside
  simp only [loadImmOf, Rvc.Instr.encode, ciType, fields, BitVec.getLsbD_append,
    BitVec.getLsbD_extractLsb']
  interval_cases index <;> simp

theorem storeImm_encode (rs2 : Reg) (imm : BitVec 6) :
    storeImmOf (Rvc.Instr.swsp rs2 imm).encode = imm ++ 0#2 := by
  apply BitVec.eq_of_getLsbD_eq
  intro index inside
  simp only [storeImmOf, Rvc.Instr.encode, ciType, fields, BitVec.getLsbD_append,
    BitVec.getLsbD_extractLsb']
  interval_cases index <;> simp

end Immediates

theorem reg_parts (rd : Reg) : rd.extractLsb' 3 2 ++ rd.extractLsb' 0 3 = rd := by
  revert rd
  decide

@[simp] theorem ciType_parts (funct3 : BitVec 3) (bit : BitVec 1) (rd low5 : BitVec 5)
    (op : BitVec 2) :
    let code := ciType funct3 bit rd low5 op
    code.extractLsb' 0 2 = op ∧ code.extractLsb' 13 3 = funct3 ∧ code.extractLsb' 7 5 = rd ∧
      code.extractLsb' 2 5 = low5 ∧ code.getLsbD 12 = bit.getLsbD 0 := by
  refine ⟨?_, ?_, ?_, ?_, ?_⟩ <;> simp only [ciType, fields_parts, reg_parts]

section Classes

variable {code : BitVec 16}

theorem table_addi4spn (op : code.extractLsb' 0 2 = 0) (funct3 : code.extractLsb' 13 3 = 0) :
    decomp16Table code = if spnImmOf code = 0 then 0
      else iWord ((spnImmOf code).setWidth 12) 2 0b000 (Prime.reg (code.extractLsb' 2 3))
        0b0010011 := by
  simp only [decomp16Table, op, decompQuadrant0, funct3]
  rfl

theorem table_lw (op : code.extractLsb' 0 2 = 0) (funct3 : code.extractLsb' 13 3 = 2) :
    decomp16Table code = iWord ((wordImmOf code).setWidth 12) (Prime.reg (code.extractLsb' 7 3))
      0b010 (Prime.reg (code.extractLsb' 2 3)) 0b0000011 := by
  simp only [decomp16Table, op, decompQuadrant0, funct3]
  rfl

theorem table_sw (op : code.extractLsb' 0 2 = 0) (funct3 : code.extractLsb' 13 3 = 6) :
    decomp16Table code = storeWord ((wordImmOf code).setWidth 12)
      (Prime.reg (code.extractLsb' 2 3)) (Prime.reg (code.extractLsb' 7 3)) := by
  simp only [decomp16Table, op, decompQuadrant0, funct3]
  rfl

theorem table_addi (op : code.extractLsb' 0 2 = 1) (funct3 : code.extractLsb' 13 3 = 0) :
    decomp16Table code = if code.extractLsb' 7 5 = 0 ∧ imm6Of code ≠ 0 then 0
      else iWord ((imm6Of code).signExtend 12) (code.extractLsb' 7 5) 0b000 (code.extractLsb' 7 5)
        0b0010011 := by
  simp only [decomp16Table, op, decompQuadrant1, funct3]
  rfl

theorem table_jump (op : code.extractLsb' 0 2 = 1) :
    (code.extractLsb' 13 3 = 1 →
      decomp16Table code = jumpWord ((jumpOffsetOf code).signExtend 21) 1) ∧
    (code.extractLsb' 13 3 = 5 →
      decomp16Table code = jumpWord ((jumpOffsetOf code).signExtend 21) 0) := by
  constructor <;>
    · intro funct3
      simp only [decomp16Table, op, decompQuadrant1, funct3]
      rfl

theorem table_li (op : code.extractLsb' 0 2 = 1) (funct3 : code.extractLsb' 13 3 = 2) :
    decomp16Table code = if code.extractLsb' 7 5 = 0 then 0
      else iWord ((imm6Of code).signExtend 12) 0 0b000 (code.extractLsb' 7 5) 0b0010011 := by
  simp only [decomp16Table, op, decompQuadrant1, funct3]
  rfl

theorem table_lui (op : code.extractLsb' 0 2 = 1) (funct3 : code.extractLsb' 13 3 = 3) :
    decomp16Table code = if code.extractLsb' 7 5 = 2 then
        if spImmOf code = 0 then 0
        else iWord ((spImmOf code).signExtend 12) 2 0b000 2 0b0010011
      else if code.extractLsb' 7 5 = 0 ∨ imm6Of code = 0 then 0
      else uType ((imm6Of code).signExtend 20) (code.extractLsb' 7 5) 0b0110111 := by
  simp only [decomp16Table, op, decompQuadrant1, funct3]
  rfl

theorem table_alu (op : code.extractLsb' 0 2 = 1) (funct3 : code.extractLsb' 13 3 = 4) :
    decomp16Table code = decompAlu code := by
  simp only [decomp16Table, op, decompQuadrant1, funct3]
  rfl

theorem table_shift (shift : Rvc.ShiftOp) (op : code.extractLsb' 0 2 = 1)
    (funct3 : code.extractLsb' 13 3 = 4) (high : code.extractLsb' 10 2 = shift.funct2) :
    decomp16Table code = if (imm6Of code).getLsbD 5 ∨ imm6Of code = 0 then 0
      else rWord shift.wide.funct7 ((imm6Of code).setWidth 5) (Prime.reg (code.extractLsb' 7 3))
        0b101 (Prime.reg (code.extractLsb' 7 3)) 0b0010011 := by
  rw [table_alu op funct3]
  cases shift <;>
    · simp only [decompAlu, high]
      rfl

theorem table_andi (op : code.extractLsb' 0 2 = 1) (funct3 : code.extractLsb' 13 3 = 4)
    (high : code.extractLsb' 10 2 = 2) :
    decomp16Table code = iWord ((imm6Of code).signExtend 12) (Prime.reg (code.extractLsb' 7 3))
      0b111 (Prime.reg (code.extractLsb' 7 3)) 0b0010011 := by
  rw [table_alu op funct3]
  simp only [decompAlu, high]
  rfl

theorem table_reg (alu : AluOp) (op : code.extractLsb' 0 2 = 1)
    (funct3 : code.extractLsb' 13 3 = 4) (high : code.extractLsb' 10 2 = 3)
    (high' : code.extractLsb' 5 2 = alu.funct2) :
    decomp16Table code = if (imm6Of code).getLsbD 5 then 0
      else rWord alu.wide.funct7 (Prime.reg (code.extractLsb' 2 3))
        (Prime.reg (code.extractLsb' 7 3)) alu.wide.funct3 (Prime.reg (code.extractLsb' 7 3))
        0b0110011 := by
  rw [table_alu op funct3]
  cases alu <;>
    · simp only [decompAlu, high, high']
      rfl

theorem table_branch (branch : Rvc.BranchOp) (op : code.extractLsb' 0 2 = 1)
    (funct3 : code.extractLsb' 13 3 = branch.funct3) :
    decomp16Table code = branchWord ((branchOffsetOf code).signExtend 13)
      (Prime.reg (code.extractLsb' 7 3)) branch.wide.funct3 := by
  cases branch <;>
    · simp only [decomp16Table, op, decompQuadrant1, funct3]
      rfl

theorem table_slli (op : code.extractLsb' 0 2 = 2) (funct3 : code.extractLsb' 13 3 = 0) :
    decomp16Table code = if code.getLsbD 12 then 0
      else rWord 0 (code.extractLsb' 2 5) (code.extractLsb' 7 5) 0b001 (code.extractLsb' 7 5)
        0b0010011 := by
  simp only [decomp16Table, op, decompQuadrant2, funct3]
  rfl

theorem table_lwsp (op : code.extractLsb' 0 2 = 2) (funct3 : code.extractLsb' 13 3 = 2) :
    decomp16Table code =
      iWord ((loadImmOf code).setWidth 12) 2 0b010 (code.extractLsb' 7 5) 0b0000011 := by
  simp only [decomp16Table, op, decompQuadrant2, funct3]
  rfl

theorem table_registers (op : code.extractLsb' 0 2 = 2) (funct3 : code.extractLsb' 13 3 = 4) :
    decomp16Table code =
      if code.getLsbD 12 then
        if code.extractLsb' 2 5 = 0 then
          if code.extractLsb' 7 5 = 0 then ebreakWord
          else iWord 0 (code.extractLsb' 7 5) 0b000 1 0b1100111
        else if code.extractLsb' 7 5 = 0 then 0
        else rWord 0 (code.extractLsb' 2 5) (code.extractLsb' 7 5) 0b000 (code.extractLsb' 7 5)
          0b0110011
      else if code.extractLsb' 7 5 = 0 then 0
      else if code.extractLsb' 2 5 = 0 then iWord 0 (code.extractLsb' 7 5) 0b000 0 0b1100111
      else rWord 0 (code.extractLsb' 2 5) 0 0b000 (code.extractLsb' 7 5) 0b0110011 := by
  simp only [decomp16Table, op, decompQuadrant2, funct3]
  rfl

theorem table_swsp (op : code.extractLsb' 0 2 = 2) (funct3 : code.extractLsb' 13 3 = 6) :
    decomp16Table code =
      storeWord ((storeImmOf code).setWidth 12) (code.extractLsb' 2 5) 2 := by
  simp only [decomp16Table, op, decompQuadrant2, funct3]
  rfl

end Classes

/-- What the table expands besides: hints, and the reserved load into `x0`. -/
def Tolerated : Rvc.Instr → Prop
  | .addi rd _ => rd ≠ 0
  | .slli _ _ | .lwsp _ _ => True
  | _ => False

theorem words_zero (imm : BitVec 8) : imm ++ 0#2 = 0 ↔ imm = 0 := by
  revert imm
  decide

theorem quads_zero (imm : BitVec 6) : imm ++ 0#4 = 0 ↔ imm = 0 := by
  revert imm
  decide

theorem shamt_parts (shamt : BitVec 5) :
    let imm6 : BitVec 6 := (0 : BitVec 1) ++ (shamt.extractLsb' 3 2 ++ shamt.extractLsb' 0 3)
    imm6.getLsbD 5 = false ∧ (imm6 = 0 ↔ shamt = 0) ∧ imm6.setWidth 5 = shamt := by
  revert shamt
  decide

theorem imm6_parts (imm : BitVec 6) :
    imm.extractLsb' 5 1 ++ (imm.extractLsb' 3 2 ++ imm.extractLsb' 0 3) = imm := by
  revert imm
  decide

theorem offset_parts (jump : BitVec 11) (branch : BitVec 8) :
    ((jump ++ 0#1).signExtend 21).extractLsb' 1 20 = jump.signExtend 20 ∧
      ((branch ++ 0#1).signExtend 13).extractLsb' 1 12 = branch.signExtend 12 := by
  constructor <;>
    · apply BitVec.eq_of_getLsbD_eq
      intro index inside
      simp only [BitVec.getLsbD_extractLsb', BitVec.getLsbD_signExtend, BitVec.getLsbD_append,
        BitVec.msb_append]
      interval_cases index <;> simp

theorem table_encode {instr : Rvc.Instr} (expanded : instr.Legal ∨ Tolerated instr) :
    decomp16Table instr.encode = instr.expand := by
  cases instr with
  | addi4spn rd imm =>
      have legal : imm ≠ 0 := expanded.resolve_right id
      rw [table_addi4spn (by simp [Rvc.Instr.encode]) (by simp [Rvc.Instr.encode]), spnImm_encode]
      refine (if_neg (mt (words_zero imm).mp legal)).trans ?_
      simp only [Rvc.Instr.encode, fields_parts]
      rfl
  | lw rd rs1 imm =>
      rw [table_lw (by simp [Rvc.Instr.encode, wordType]) (by simp [Rvc.Instr.encode, wordType]),
        Rvc.Instr.encode, wordImm_wordType]
      simp only [wordType, fields_parts]
      rfl
  | sw rs1 rs2 imm =>
      rw [table_sw (by simp [Rvc.Instr.encode, wordType]) (by simp [Rvc.Instr.encode, wordType]),
        Rvc.Instr.encode, wordImm_wordType]
      simp only [wordType, fields_parts]
      rfl
  | addi rd imm =>
      have legal : ¬ (rd = 0 ∧ imm ≠ 0) := by
        rintro ⟨isZero, present⟩
        rcases expanded with legal | tolerated
        · exact present (legal.mp isZero)
        · exact tolerated isZero
      rw [table_addi (by simp [Rvc.Instr.encode, immType]) (by simp [Rvc.Instr.encode, immType]),
        Rvc.Instr.encode, imm6_immType]
      simp only [immType, ciType_parts]
      rw [if_neg legal]
      rfl
  | jal imm =>
      rw [(table_jump (by simp [Rvc.Instr.encode, cjType])).1 (by simp [Rvc.Instr.encode, cjType]),
        Rvc.Instr.encode, jumpOffset_cjType, jumpWord_eq, (offset_parts imm 0).1]
      rfl
  | li rd imm =>
      have legal : rd ≠ 0 := expanded.resolve_right id
      rw [table_li (by simp [Rvc.Instr.encode, immType]) (by simp [Rvc.Instr.encode, immType]),
        Rvc.Instr.encode, imm6_immType]
      simp only [immType, ciType_parts]
      rw [if_neg legal]
      rfl
  | addi16sp imm =>
      have legal : imm ≠ 0 := expanded.resolve_right id
      rw [table_lui (by simp [Rvc.Instr.encode]) (by simp [Rvc.Instr.encode]), spImm_encode]
      simp only [Rvc.Instr.encode, ciType_parts, if_true]
      exact if_neg (mt (quads_zero imm).mp legal)
  | lui rd imm =>
      obtain ⟨writes, notSp, present⟩ : rd ≠ 0 ∧ rd ≠ 2 ∧ imm ≠ 0 := expanded.resolve_right id
      rw [table_lui (by simp [Rvc.Instr.encode, immType]) (by simp [Rvc.Instr.encode, immType]),
        Rvc.Instr.encode, imm6_immType]
      simp only [immType, ciType_parts]
      rw [if_neg notSp, if_neg (not_or.mpr ⟨writes, present⟩)]
      rfl
  | shift op rd shamt =>
      have legal : shamt ≠ 0 := expanded.resolve_right id
      obtain ⟨small, zero, whole⟩ := shamt_parts shamt
      rw [table_shift op (by simp [Rvc.Instr.encode]) (by simp [Rvc.Instr.encode])
        (by simp [Rvc.Instr.encode])]
      simp only [imm6Of, Rvc.Instr.encode, fields_parts]
      rw [whole]
      refine (if_neg ?_).trans ?_
      · rintro (big | isZero)
        · rw [small] at big
          cases big
        · exact legal (zero.mp isZero)
      · cases op <;> rfl
  | andi rd imm =>
      rw [table_andi (by simp [Rvc.Instr.encode]) (by simp [Rvc.Instr.encode])
        (by simp [Rvc.Instr.encode])]
      simp only [imm6Of, Rvc.Instr.encode, fields_parts, imm6_parts]
      rfl
  | alu op rd rs2 =>
      rw [table_reg op (by simp [Rvc.Instr.encode]) (by simp [Rvc.Instr.encode])
        (by simp [Rvc.Instr.encode]) (by simp [Rvc.Instr.encode])]
      have small : ∀ low5 : BitVec 5, ((0 : BitVec 1) ++ low5).getLsbD 5 = false := by decide
      simp only [imm6Of, Rvc.Instr.encode, fields_parts]
      refine (if_neg ?_).trans rfl
      rw [small]
      decide
  | j imm =>
      rw [(table_jump (by simp [Rvc.Instr.encode, cjType])).2 (by simp [Rvc.Instr.encode, cjType]),
        Rvc.Instr.encode, jumpOffset_cjType, jumpWord_eq, (offset_parts imm 0).1]
      rfl
  | branch op rs1 imm =>
      rw [table_branch op (by simp [Rvc.Instr.encode]) (by simp [Rvc.Instr.encode]),
        branchOffset_encode, branchWord_eq, (offset_parts 0 imm).2]
      simp only [Rvc.Instr.encode, fields_parts]
      rfl
  | slli rd shamt =>
      rw [table_slli (by simp [Rvc.Instr.encode]) (by simp [Rvc.Instr.encode])]
      simp only [Rvc.Instr.encode, ciType_parts]
      rfl
  | lwsp rd imm =>
      rw [table_lwsp (by simp [Rvc.Instr.encode]) (by simp [Rvc.Instr.encode]), loadImm_encode]
      simp only [Rvc.Instr.encode, ciType_parts]
      rfl
  | jr rs1 =>
      have legal : rs1 ≠ 0 := expanded.resolve_right id
      rw [table_registers (by simp [Rvc.Instr.encode]) (by simp [Rvc.Instr.encode])]
      simp only [Rvc.Instr.encode, ciType_parts]
      rw [if_neg (by decide), if_neg legal, if_pos trivial]
      rfl
  | mv rd rs2 =>
      obtain ⟨writes, source⟩ : rd ≠ 0 ∧ rs2 ≠ 0 := expanded.resolve_right id
      rw [table_registers (by simp [Rvc.Instr.encode]) (by simp [Rvc.Instr.encode])]
      simp only [Rvc.Instr.encode, ciType_parts]
      rw [if_neg (by decide), if_neg writes, if_neg source]
      rfl
  | ebreak =>
      rw [table_registers (by simp [Rvc.Instr.encode]) (by simp [Rvc.Instr.encode])]
      simp only [Rvc.Instr.encode, ciType_parts]
      rfl
  | jalr rs1 =>
      have legal : rs1 ≠ 0 := expanded.resolve_right id
      rw [table_registers (by simp [Rvc.Instr.encode]) (by simp [Rvc.Instr.encode])]
      simp only [Rvc.Instr.encode, ciType_parts]
      rw [if_pos (by decide), if_pos trivial, if_neg legal]
      rfl
  | add rd rs2 =>
      obtain ⟨writes, source⟩ : rd ≠ 0 ∧ rs2 ≠ 0 := expanded.resolve_right id
      rw [table_registers (by simp [Rvc.Instr.encode]) (by simp [Rvc.Instr.encode])]
      simp only [Rvc.Instr.encode, ciType_parts]
      rw [if_pos (by decide), if_neg source, if_neg writes]
      rfl
  | swsp rs2 imm =>
      rw [table_swsp (by simp [Rvc.Instr.encode]) (by simp [Rvc.Instr.encode]), storeImm_encode]
      simp only [Rvc.Instr.encode, ciType_parts]
      rfl

section Codes

variable (funct3 : BitVec 3) (bit : BitVec 1) (high : BitVec 2) (low : BitVec 3)
  (high' : BitVec 2) (low' : BitVec 3) (op : BitVec 2)

theorem addi4spn_of_fields : ∃ imm, (Rvc.Instr.addi4spn low' imm).encode =
    fields 0b000 bit high low high' low' 0 := by
  refine ⟨high.extractLsb' 0 1 ++ low ++ bit ++ high.extractLsb' 1 1 ++ high'.extractLsb' 0 1 ++
    high'.extractLsb' 1 1, ?_⟩
  apply BitVec.eq_of_getLsbD_eq
  intro index inside
  simp only [Rvc.Instr.encode, fields, BitVec.getLsbD_append, BitVec.getLsbD_extractLsb']
  interval_cases index <;> simp

theorem wordType_of_fields :
    ∃ imm, wordType funct3 imm low low' = fields funct3 bit high low high' low' 0 := by
  refine ⟨high'.extractLsb' 0 1 ++ bit ++ high ++ high'.extractLsb' 1 1, ?_⟩
  apply BitVec.eq_of_getLsbD_eq
  intro index inside
  simp only [wordType, fields, BitVec.getLsbD_append, BitVec.getLsbD_extractLsb']
  interval_cases index <;> simp

theorem ciType_of_fields : ∃ rd low5, ciType funct3 bit rd low5 op =
    fields funct3 bit high low high' low' op := by
  refine ⟨high ++ low, high' ++ low', ?_⟩
  have parts : ∀ (high : BitVec 2) (low : BitVec 3), (high ++ low).extractLsb' 3 2 = high ∧
      (high ++ low).extractLsb' 0 3 = low := by decide
  simp only [ciType, parts]

theorem immType_of_ciType (rd low5 : BitVec 5) :
    ∃ imm, immType funct3 imm rd op = ciType funct3 bit rd low5 op := by
  refine ⟨bit ++ low5, ?_⟩
  have parts : ∀ (bit : BitVec 1) (low5 : BitVec 5), (bit ++ low5).extractLsb' 5 1 = bit ∧
      (bit ++ low5).extractLsb' 0 5 = low5 := by decide
  simp only [immType, parts]

theorem cjType_of_fields :
    ∃ imm, cjType funct3 imm = fields funct3 bit high low high' low' 1 := by
  refine ⟨bit ++ low.extractLsb' 1 1 ++ high.extractLsb' 0 1 ++ low.extractLsb' 2 1 ++
    high'.extractLsb' 1 1 ++ low.extractLsb' 0 1 ++ low'.extractLsb' 0 1 ++ high.extractLsb' 1 1 ++
    high'.extractLsb' 0 1 ++ low'.extractLsb' 1 2, ?_⟩
  apply BitVec.eq_of_getLsbD_eq
  intro index inside
  simp only [cjType, fields, BitVec.getLsbD_append, BitVec.getLsbD_extractLsb']
  interval_cases index <;> simp

theorem branch_of_fields (branch : Rvc.BranchOp) : ∃ imm, (Rvc.Instr.branch branch low imm).encode =
    fields branch.funct3 bit high low high' low' 1 := by
  refine ⟨bit ++ high' ++ low'.extractLsb' 0 1 ++ high ++ low'.extractLsb' 1 2, ?_⟩
  apply BitVec.eq_of_getLsbD_eq
  intro index inside
  simp only [Rvc.Instr.encode, fields, BitVec.getLsbD_append, BitVec.getLsbD_extractLsb']
  interval_cases index <;> simp

theorem addi16sp_of_ciType (low5 : BitVec 5) :
    ∃ imm, (Rvc.Instr.addi16sp imm).encode = ciType 0b011 bit 2 low5 1 := by
  refine ⟨bit ++ low5.extractLsb' 1 2 ++ low5.extractLsb' 3 1 ++ low5.extractLsb' 0 1 ++
    low5.extractLsb' 4 1, ?_⟩
  revert bit low5
  decide

theorem lwsp_of_ciType (rd low5 : BitVec 5) :
    ∃ imm, (Rvc.Instr.lwsp rd imm).encode = ciType 0b010 bit rd low5 2 := by
  refine ⟨low5.extractLsb' 0 2 ++ bit ++ low5.extractLsb' 2 3, ?_⟩
  have parts : ∀ (bit : BitVec 1) (low5 : BitVec 5),
      let imm : BitVec 6 := low5.extractLsb' 0 2 ++ bit ++ low5.extractLsb' 2 3
      imm.extractLsb' 3 1 = bit ∧ imm.extractLsb' 0 3 ++ imm.extractLsb' 4 2 = low5 := by decide
  simp only [Rvc.Instr.encode, parts]

theorem swsp_of_ciType (rd low5 : BitVec 5) :
    ∃ imm, (Rvc.Instr.swsp low5 imm).encode = ciType 0b110 bit rd low5 2 := by
  refine ⟨rd.extractLsb' 0 2 ++ bit ++ rd.extractLsb' 2 3, ?_⟩
  have parts : ∀ (bit : BitVec 1) (rd : BitVec 5),
      let imm : BitVec 6 := rd.extractLsb' 0 2 ++ bit ++ rd.extractLsb' 2 3
      imm.extractLsb' 3 1 = bit ∧ imm.extractLsb' 0 3 ++ imm.extractLsb' 4 2 = rd := by decide
  simp only [Rvc.Instr.encode, parts]

end Codes

def Expanded (code : BitVec 16) : Prop :=
  ∃ instr : Rvc.Instr, (instr.Legal ∨ Tolerated instr) ∧ instr.encode = code

section Entries

variable {funct3 : BitVec 3} {bit : BitVec 1} {high : BitVec 2} {low : BitVec 3}
  {high' : BitVec 2} {low' : BitVec 3}

theorem expanded_quadrant0
    (nonzero : decomp16Table (fields funct3 bit high low high' low' 0) ≠ 0) :
    Expanded (fields funct3 bit high low high' low' 0) := by
  have op : (fields funct3 bit high low high' low' 0).extractLsb' 0 2 = 0 := by simp
  have class3 : (fields funct3 bit high low high' low' 0).extractLsb' 13 3 = funct3 := by simp
  have absent (other : funct3 = 1 ∨ funct3 = 3 ∨ funct3 = 4 ∨ funct3 = 5 ∨ funct3 = 7) : False := by
    apply nonzero
    simp only [decomp16Table, op, decompQuadrant0, class3]
    rcases other with rfl | rfl | rfl | rfl | rfl <;> rfl
  rcases eight_cases funct3 with rfl | rfl | rfl | rfl | rfl | rfl | rfl | rfl
  · obtain ⟨imm, encodes⟩ := addi4spn_of_fields bit high low high' low'
    refine ⟨.addi4spn low' imm, .inl ?_, encodes⟩
    rintro rfl
    apply nonzero
    rw [table_addi4spn op class3, ← encodes, spnImm_encode]
    rfl
  · exact (absent (by decide)).elim
  · obtain ⟨imm, encodes⟩ := wordType_of_fields 2 bit high low high' low'
    exact ⟨.lw low' low imm, .inl trivial, encodes⟩
  · exact (absent (by decide)).elim
  · exact (absent (by decide)).elim
  · exact (absent (by decide)).elim
  · obtain ⟨imm, encodes⟩ := wordType_of_fields 6 bit high low high' low'
    exact ⟨.sw low low' imm, .inl trivial, encodes⟩
  · exact (absent (by decide)).elim

theorem low5_parts : ∀ (high : BitVec 2) (low : BitVec 3),
    (high ++ low).extractLsb' 3 2 = high ∧ (high ++ low).extractLsb' 0 3 = low := by
  decide

theorem expanded_shift (shift : Rvc.ShiftOp)
    (nonzero : decomp16Table (fields 0b100 bit shift.funct2 low high' low' 1) ≠ 0) :
    Expanded (fields 0b100 bit shift.funct2 low high' low' 1) := by
  rw [table_shift shift (by simp) (by simp) (by simp)] at nonzero
  simp only [imm6Of, fields_parts] at nonzero
  obtain ⟨small, present⟩ := not_or.mp fun zero => nonzero (if_pos zero)
  have parts : ∀ (bit : BitVec 1) (low5 : BitVec 5), ¬ (bit ++ low5).getLsbD 5 →
      bit ++ low5 ≠ 0 → bit = 0 ∧ low5 ≠ 0 := by decide
  obtain ⟨rfl, legal⟩ := parts bit _ small present
  refine ⟨.shift shift low (high' ++ low'), .inl legal, ?_⟩
  rw [Rvc.Instr.encode, (low5_parts high' low').1, (low5_parts high' low').2]

theorem expanded_alu
    (nonzero : decomp16Table (fields 0b100 bit high low high' low' 1) ≠ 0) :
    Expanded (fields 0b100 bit high low high' low' 1) := by
  rcases four_cases high with rfl | rfl | rfl | rfl
  · exact expanded_shift .srli nonzero
  · exact expanded_shift .srai nonzero
  · refine ⟨.andi low (bit ++ (high' ++ low')), .inl trivial, ?_⟩
    have parts : ∀ (bit : BitVec 1) (high' : BitVec 2) (low' : BitVec 3),
        let imm : BitVec 6 := bit ++ (high' ++ low')
        imm.extractLsb' 5 1 = bit ∧ imm.extractLsb' 3 2 = high' ∧ imm.extractLsb' 0 3 = low' := by
      decide
    simp only [Rvc.Instr.encode, parts]
  · obtain ⟨alu, rfl⟩ : ∃ alu : AluOp, alu.funct2 = high' := by
      rcases four_cases high' with rfl | rfl | rfl | rfl
      exacts [⟨.sub, rfl⟩, ⟨.xor, rfl⟩, ⟨.or, rfl⟩, ⟨.and, rfl⟩]
    rw [table_reg alu (by simp) (by simp) (by simp) (by simp)] at nonzero
    simp only [imm6Of, fields_parts] at nonzero
    have small : ∀ (bit : BitVec 1) (low5 : BitVec 5), ¬ (bit ++ low5).getLsbD 5 → bit = 0 := by
      decide
    obtain rfl := small bit _ fun big => nonzero (if_pos big)
    exact ⟨.alu alu low low', .inl trivial, rfl⟩

theorem expanded_quadrant1
    (nonzero : decomp16Table (fields funct3 bit high low high' low' 1) ≠ 0) :
    Expanded (fields funct3 bit high low high' low' 1) := by
  have op : (fields funct3 bit high low high' low' 1).extractLsb' 0 2 = 1 := by simp
  have class3 : (fields funct3 bit high low high' low' 1).extractLsb' 13 3 = funct3 := by simp
  obtain ⟨rd, low5, format⟩ := ciType_of_fields funct3 bit high low high' low' 1
  obtain ⟨imm, wide⟩ := immType_of_ciType funct3 bit 1 rd low5
  obtain ⟨offset, jump⟩ := cjType_of_fields funct3 bit high low high' low'
  have target : (fields funct3 bit high low high' low' 1).extractLsb' 7 5 = rd := by
    rw [← format, (ciType_parts ..).2.2.1]
  have whole : imm6Of (fields funct3 bit high low high' low' 1) = imm := by
    rw [← format, ← wide, imm6_immType]
  rcases eight_cases funct3 with rfl | rfl | rfl | rfl | rfl | rfl | rfl | rfl
  · refine ⟨.addi rd imm, ?_, wide.trans format⟩
    rw [table_addi op class3, target, whole] at nonzero
    by_cases isZero : rd = 0
    · have absent : imm = 0 := by
        by_contra present
        exact nonzero (if_pos ⟨isZero, present⟩)
      exact .inl (iff_of_true isZero absent)
    · exact .inr isZero
  · exact ⟨.jal offset, .inl trivial, jump⟩
  · refine ⟨.li rd imm, .inl fun isZero => ?_, wide.trans format⟩
    rw [table_li op class3, target] at nonzero
    exact nonzero (if_pos isZero)
  · rw [table_lui op class3, target, whole] at nonzero
    by_cases sp : rd = 2
    · subst sp
      obtain ⟨imm, adjusts⟩ := addi16sp_of_ciType bit low5
      refine ⟨.addi16sp imm, .inl ?_, adjusts.trans format⟩
      rintro rfl
      apply nonzero
      rw [if_pos rfl, ← format, ← adjusts, spImm_encode]
      rfl
    · rw [if_neg sp] at nonzero
      obtain ⟨writes, present⟩ := not_or.mp fun zero => nonzero (if_pos zero)
      exact ⟨.lui rd imm, .inl ⟨writes, sp, present⟩, wide.trans format⟩
  · exact expanded_alu nonzero
  · exact ⟨.j offset, .inl trivial, jump⟩
  · obtain ⟨imm, encodes⟩ := branch_of_fields bit high low high' low' .beqz
    exact ⟨.branch .beqz low imm, .inl trivial, encodes⟩
  · obtain ⟨imm, encodes⟩ := branch_of_fields bit high low high' low' .bnez
    exact ⟨.branch .bnez low imm, .inl trivial, encodes⟩

theorem expanded_registers {rd low5 : BitVec 5}
    (nonzero : decomp16Table (ciType 0b100 bit rd low5 2) ≠ 0) :
    Expanded (ciType 0b100 bit rd low5 2) := by
  rw [table_registers (by simp) (by simp)] at nonzero
  simp only [ciType_parts] at nonzero
  rcases two_cases bit with rfl | rfl
  · rw [if_neg (by decide)] at nonzero
    have writes : rd ≠ 0 := fun isZero => nonzero (if_pos isZero)
    by_cases returns : low5 = 0
    · subst returns
      exact ⟨.jr rd, .inl writes, rfl⟩
    · exact ⟨.mv rd low5, .inl ⟨writes, returns⟩, rfl⟩
  · rw [if_pos (by decide)] at nonzero
    by_cases calls : low5 = 0
    · subst calls
      by_cases breaks : rd = 0
      · subst breaks
        exact ⟨.ebreak, .inl trivial, rfl⟩
      · exact ⟨.jalr rd, .inl breaks, rfl⟩
    · rw [if_neg calls] at nonzero
      exact ⟨.add rd low5, .inl ⟨fun isZero => nonzero (if_pos isZero), calls⟩, rfl⟩

theorem expanded_quadrant2
    (nonzero : decomp16Table (fields funct3 bit high low high' low' 2) ≠ 0) :
    Expanded (fields funct3 bit high low high' low' 2) := by
  obtain ⟨rd, low5, format⟩ := ciType_of_fields funct3 bit high low high' low' 2
  rw [← format] at nonzero ⊢
  have op : (ciType funct3 bit rd low5 2).extractLsb' 0 2 = 2 := by simp
  have class3 : (ciType funct3 bit rd low5 2).extractLsb' 13 3 = funct3 := by simp
  have absent (other : funct3 = 1 ∨ funct3 = 3 ∨ funct3 = 5 ∨ funct3 = 7) : False := by
    apply nonzero
    simp only [decomp16Table, op, decompQuadrant2, class3]
    rcases other with rfl | rfl | rfl | rfl <;> rfl
  rcases eight_cases funct3 with rfl | rfl | rfl | rfl | rfl | rfl | rfl | rfl
  · rw [table_slli op class3, (ciType_parts ..).2.2.2.2] at nonzero
    rcases two_cases bit with rfl | rfl
    · exact ⟨.slli rd low5, .inr trivial, rfl⟩
    · exact (nonzero (if_pos (by decide))).elim
  · exact (absent (by decide)).elim
  · obtain ⟨imm, encodes⟩ := lwsp_of_ciType bit rd low5
    exact ⟨.lwsp rd imm, .inr trivial, encodes⟩
  · exact (absent (by decide)).elim
  · exact expanded_registers nonzero
  · exact (absent (by decide)).elim
  · obtain ⟨imm, encodes⟩ := swsp_of_ciType bit rd low5
    exact ⟨.swsp low5 imm, .inl trivial, encodes⟩
  · exact (absent (by decide)).elim

theorem expanded_of_table {code : BitVec 16} (nonzero : decomp16Table code ≠ 0) :
    Expanded code := by
  obtain ⟨funct3, bit, high, low, high', low', op, rfl⟩ := code_of_fields code
  rcases four_cases op with rfl | rfl | rfl | rfl
  · exact expanded_quadrant0 nonzero
  · exact expanded_quadrant1 nonzero
  · exact expanded_quadrant2 nonzero
  · have quadrant : (fields funct3 bit high low high' low' 3).extractLsb' 0 2 = 3 := by simp
    refine (nonzero ?_).elim
    simp only [decomp16Table, quadrant]
    rfl

end Entries

theorem expand_odd (instr : Rvc.Instr) : instr.expand.getLsbD 0 = true := by
  cases instr <;>
    · simp only [Rvc.Instr.expand, Computational.encode, Control.encode, MemoryInstr.encode, iType,
        rType, sType, bType, uType, jType, ebreakWord, BitVec.getLsbD_append]
      simp

theorem expand_ne_zero (instr : Rvc.Instr) : instr.expand ≠ 0 := by
  intro zero
  have odd := expand_odd instr
  rw [zero] at odd
  cases odd

/-- The generated table is the architecture's expansion of 16-bit instructions: a nonzero entry is
what the instruction with this code stands for, and the others belong to no instruction. -/
theorem decomp16Table_conforms (code : BitVec 16) (word : Word) :
    decomp16Table code = word ∧ word ≠ 0 ↔ ∃ instr : Rvc.Instr,
      (instr.Legal ∨ Tolerated instr) ∧ instr.encode = code ∧ instr.expand = word := by
  constructor
  · rintro ⟨rfl, nonzero⟩
    obtain ⟨instr, expanded, rfl⟩ := expanded_of_table nonzero
    exact ⟨instr, expanded, rfl, (table_encode expanded).symm⟩
  · rintro ⟨instr, expanded, rfl, rfl⟩
    exact ⟨table_encode expanded, expand_ne_zero instr⟩

end RiscVFast
