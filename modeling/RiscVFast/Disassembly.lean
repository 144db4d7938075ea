import RiscVFast.Assembly
import RiscVFast.CsrAccess
import RiscVFast.Translator

/-! The text of the disassembler says what the decoder decoded, except where a branch has no
name in the tables, and for compressed words, which it does not print. -/

namespace RiscVFast

open AsmText Fallible
open Rv32i hiding Word

/-! The opcode switch. -/

section Switch

variable {pc word : Word}

theorem disasm_of_alu (opcode : word.extractLsb' 0 7 = 0x33) :
    disasm pc word = disasmAlu (word.extractLsb' 12 3) (word.extractLsb' 25 7)
      (word.extractLsb' 7 5) (word.extractLsb' 15 5) (word.extractLsb' 20 5) := by
  simp only [disasm, opcode]
  rfl

theorem disasm_of_alui (opcode : word.extractLsb' 0 7 = 0x13) :
    disasm pc word = disasmAlui word (word.extractLsb' 12 3) (word.extractLsb' 25 7)
      (word.extractLsb' 7 5) (word.extractLsb' 15 5) (disasmImmediates word).i := by
  simp only [disasm, opcode]
  rfl

theorem disasm_of_lui (opcode : word.extractLsb' 0 7 = 0x37) :
    disasm pc word =
      line "lui" [rn (word.extractLsb' 7 5), "0x" ++ hexadecimal (word >>> 12)] := by
  simp only [disasm, opcode]
  rfl

theorem disasm_of_auipc (opcode : word.extractLsb' 0 7 = 0x17) :
    disasm pc word =
      line "auipc" [rn (word.extractLsb' 7 5), "0x" ++ hexadecimal (word >>> 12)] := by
  simp only [disasm, opcode]
  rfl

theorem disasm_of_store (opcode : word.extractLsb' 0 7 = 0x23) :
    disasm pc word = disasmStore word (word.extractLsb' 12 3) (word.extractLsb' 15 5)
      (word.extractLsb' 20 5) := by
  simp only [disasm, opcode]
  rfl

theorem disasm_of_load (opcode : word.extractLsb' 0 7 = 0x03) :
    disasm pc word = disasmLoad word (word.extractLsb' 12 3) (word.extractLsb' 7 5)
      (word.extractLsb' 15 5) := by
  simp only [disasm, opcode]
  rfl

theorem disasm_of_jal (opcode : word.extractLsb' 0 7 = 0x6f) :
    disasm pc word = disasmJal pc word (word.extractLsb' 7 5) := by
  simp only [disasm, opcode]
  rfl

theorem disasm_of_jalr (opcode : word.extractLsb' 0 7 = 0x67) :
    disasm pc word = disasmJalr word (word.extractLsb' 7 5) (word.extractLsb' 15 5)
      (disasmImmediates word).i := by
  simp only [disasm, opcode]
  rfl

theorem disasm_of_branch (opcode : word.extractLsb' 0 7 = 0x63) :
    disasm pc word = disasmBranch pc word (word.extractLsb' 12 3) (word.extractLsb' 15 5)
      (word.extractLsb' 20 5) := by
  simp only [disasm, opcode]
  rfl

theorem disasm_of_system (opcode : word.extractLsb' 0 7 = 0x73) :
    disasm pc word = disasmSystem word (word.extractLsb' 12 3) (word.extractLsb' 7 5)
      (word.extractLsb' 15 5) := by
  simp only [disasm, opcode]
  rfl

theorem isWide_opcode (word : Word) : isWide word = (word.extractLsb' 0 7 &&& 0x03 == 0x03) := by
  have low : word &&& 0x00000003 = (word.extractLsb' 0 7 &&& 0x03).setWidth 32 := by
    apply BitVec.eq_of_getLsbD_eq
    intro index inside
    simp only [BitVec.getLsbD_and, BitVec.getLsbD_setWidth, BitVec.getLsbD_extractLsb']
    interval_cases index <;> simp
  rw [isWide, low, Bool.eq_iff_iff, beq_iff_eq, beq_iff_eq]
  constructor
  · intro wide
    have low := congrArg (BitVec.setWidth 7) wide
    simpa using low
  · intro wide
    rw [wide]
    rfl

theorem disasm_narrow (narrow : isWide word = false) : disasm pc word = "" := by
  rw [isWide_opcode] at narrow
  simp only [disasm]
  split <;> first | rfl | simp_all

end Switch

/-! One kind of instruction after the other. -/

section Kinds

variable (reading : Radix) (pc : Word)

theorem disasmAlu_plain (type : BitVec 3) (rd rs1 rs2 : Reg) (source : rs1 ≠ 0) :
    disasmAlu type 0x00 rd rs1 rs2 = line (aluName type) [rn rd, rn rs1, rn rs2] := by
  rw [disasmAlu, if_pos rfl, if_neg fun both => source both.2, if_neg fun both => source both.2]

theorem assemble_disasmAlu (op : RegOp) (rd rs1 rs2 : Reg) :
    assemble reading pc (disasmAlu op.funct3 op.funct7 rd rs1 rs2) =
      some ⟨regOpcode op, rd, rs1, rs2, 0⟩ := by
  cases op with
  | add => exact assemble_reg reading pc "add" rd rs1 rs2 rfl
  | sll => exact assemble_reg reading pc "sll" rd rs1 rs2 rfl
  | xor => exact assemble_reg reading pc "xor" rd rs1 rs2 rfl
  | srl => exact assemble_reg reading pc "srl" rd rs1 rs2 rfl
  | sra => exact assemble_reg reading pc "sra" rd rs1 rs2 rfl
  | or => exact assemble_reg reading pc "or" rd rs1 rs2 rfl
  | and => exact assemble_reg reading pc "and" rd rs1 rs2 rfl
  | sub =>
      by_cases source : rs1 = 0
      · subst source
        exact assemble_regOnZero reading pc "neg" rd rs2 rfl
      · have printed : disasmAlu RegOp.sub.funct3 RegOp.sub.funct7 rd rs1 rs2 =
            line "sub" [rn rd, rn rs1, rn rs2] := by
          simp only [disasmAlu, source, and_false, if_false]
          rfl
        rw [printed]
        exact assemble_reg reading pc "sub" rd rs1 rs2 rfl
  | slt =>
      by_cases source : rs1 = 0
      · subst source
        exact assemble_regOnZero reading pc "sgtz" rd rs2 rfl
      · rw [show RegOp.slt.funct7 = 0x00 from rfl, disasmAlu_plain _ rd rs1 rs2 source]
        exact assemble_reg reading pc "slt" rd rs1 rs2 rfl
  | sltu =>
      by_cases source : rs1 = 0
      · subst source
        exact assemble_regOnZero reading pc "snez" rd rs2 rfl
      · rw [show RegOp.sltu.funct7 = 0x00 from rfl, disasmAlu_plain _ rd rs1 rs2 source]
        exact assemble_reg reading pc "sltu" rd rs1 rs2 rfl

theorem disasmAlui_of_ne {insn : Word} (type : BitVec 3) (funct7 : BitVec 7) (rd rs1 : Reg)
    (imm12 : Word) (other : insn ≠ 0x00000013) :
    disasmAlui insn type funct7 rd rs1 imm12 =
      disasmAlui 0 type funct7 rd rs1 imm12 := by
  simp only [disasmAlui]
  rw [if_neg other, if_neg (show (0 : Word) ≠ 0x00000013 by decide)]

theorem assemble_immOr {text : String} {op : VliwOp} {value imm12 : Word}
    (shorthand mnemonic : String) (rd rs1 : Reg)
    (short : forms.lookup shorthand = some (.immOf op value))
    (named : forms.lookup mnemonic = some (.imm op))
    (isValue : imm12 = value → text = line shorthand [rn rd, rn rs1])
    (notValue : imm12 ≠ value → text = line mnemonic [rn rd, rn rs1, decimal imm12]) :
    assemble reading pc text = some ⟨op, rd, rs1, 0, imm12⟩ := by
  by_cases equal : imm12 = value
  · rw [isValue equal, equal]
    exact assemble_immOf reading pc shorthand rd rs1 value short
  · rw [notValue equal]
    exact assemble_imm reading pc mnemonic rd rs1 imm12 named

theorem assemble_disasmAlui (op : ImmOp) (insn : Word) (funct7 : BitVec 7) (rd rs1 : Reg)
    (imm12 : Word) (other : insn ≠ 0x00000013) :
    assemble reading pc (disasmAlui insn op.funct3 funct7 rd rs1 imm12) =
      some ⟨immOpcode op, rd, rs1, 0, imm12⟩ := by
  rw [disasmAlui_of_ne _ _ _ _ _ other]
  cases op with
  | addi =>
      by_cases source : rs1 = 0
      · subst source
        exact assemble_constant reading pc "li" rd imm12 rfl
      · by_cases noOffset : imm12 = 0
        · have printed : disasmAlui 0 ImmOp.addi.funct3 funct7 rd rs1 imm12 =
              line "mv" [rn rd, rn rs1] := by
            rw [disasmAlui, if_neg (by decide), if_neg fun both => source both.2,
              if_pos ⟨rfl, noOffset⟩]
          rw [printed, noOffset]
          exact assemble_immOf reading pc "mv" rd rs1 0 rfl
        · have printed : disasmAlui 0 ImmOp.addi.funct3 funct7 rd rs1 imm12 =
              line "addi" [rn rd, rn rs1, decimal imm12] := by
            rw [disasmAlui, if_neg (by decide), if_neg fun both => source both.2,
              if_neg fun both => noOffset both.2]
            rfl
          rw [printed]
          exact assemble_imm reading pc "addi" rd rs1 imm12 rfl
  | slti => exact assemble_imm reading pc "slti" rd rs1 imm12 rfl
  | sltiu =>
      refine assemble_immOr reading pc "seqz" "sltiu" rd rs1 rfl rfl (fun one => ?_) fun notOne => ?_
      · exact congrArg (disasmAlui 0 ImmOp.sltiu.funct3 funct7 rd rs1) one
      · simp only [disasmAlui, notOne, and_false, if_false]
        rfl
  | xori =>
      refine assemble_immOr reading pc "not" "xori" rd rs1 rfl rfl (fun ones => ?_) fun notOnes => ?_
      · exact congrArg (disasmAlui 0 ImmOp.xori.funct3 funct7 rd rs1) ones
      · simp only [disasmAlui, notOnes, and_false, if_false]
        rfl
  | ori => exact assemble_imm reading pc "ori" rd rs1 imm12 rfl
  | andi =>
      refine assemble_immOr reading pc "zext.b" "andi" rd rs1 rfl rfl (fun byte => ?_) fun notByte => ?_
      · exact congrArg (disasmAlui 0 ImmOp.andi.funct3 funct7 rd rs1) byte
      · simp only [disasmAlui, notByte, and_false, if_false]
        rfl

theorem assemble_disasmShift (op : ShiftOp) (insn : Word) (rd rs1 : Reg) (imm12 : Word)
    (other : insn ≠ 0x00000013) :
    assemble reading pc (disasmAlui insn op.funct3 op.funct7 rd rs1 imm12) =
      some ⟨shiftOpcode op, rd, rs1, 0, imm12 &&& 0x1f⟩ := by
  rw [disasmAlui_of_ne _ _ _ _ _ other]
  cases op with
  | slli => exact assemble_shift reading pc "slli" rd rs1 (imm12 &&& 0x1f) rfl
  | srli => exact assemble_shift reading pc "srli" rd rs1 (imm12 &&& 0x1f) rfl
  | srai => exact assemble_shift reading pc "srai" rd rs1 (imm12 &&& 0x1f) rfl

theorem assemble_disasmLoad (op : LoadOp) (insn : Word) (rd rs1 : Reg) :
    assemble reading pc (disasmLoad insn op.funct3 rd rs1) =
      some ⟨loadOpcode op, rd, rs1, 0, mkSimm12 insn⟩ := by
  rw [← simm12_eq]
  cases op with
  | lb => exact assemble_load reading pc "lb" rd rs1 _ rfl
  | lh => exact assemble_load reading pc "lh" rd rs1 _ rfl
  | lw => exact assemble_load reading pc "lw" rd rs1 _ rfl
  | lbu => exact assemble_load reading pc "lbu" rd rs1 _ rfl
  | lhu => exact assemble_load reading pc "lhu" rd rs1 _ rfl

theorem assemble_disasmStore (op : StoreOp) (insn : Word) (rs1 rs2 : Reg) :
    assemble reading pc (disasmStore insn op.funct3 rs1 rs2) =
      some ⟨storeOpcode op, 0, rs1, rs2, doS2imm12 insn⟩ := by
  rw [← s2imm12_eq]
  cases op with
  | sb => exact assemble_store reading pc "sb" rs1 rs2 _ rfl
  | sh => exact assemble_store reading pc "sh" rs1 rs2 _ rfl
  | sw => exact assemble_store reading pc "sw" rs1 rs2 _ rfl

theorem assemble_disasmJal (insn : Word) (rd : Reg) :
    assemble reading pc (disasmJal pc insn rd) =
      some ⟨.jal, rd, 0, 0, joffImm insn⟩ := by
  rw [disasmJal, joff_eq]
  split
  · rename_i noLink
    rw [noLink]
    exact assemble_jump reading pc _
  · exact assemble_jal reading pc rd _

theorem assemble_disasmJalr (insn : Word) (rd rs1 : Reg) (imm12 : Word)
    (ret : insn = 0x00008067 → rd = 0 ∧ rs1 = 1 ∧ imm12 = 0) :
    assemble reading pc (disasmJalr insn rd rs1 imm12) = some ⟨.jalr, rd, rs1, 0, imm12⟩ := by
  have alone := assemble_address reading pc rs1 0 (token_rn rs1) (readBase_rn rs1)
  have inMemory := assemble_address reading pc rs1 imm12
    ((token_memory imm12 (rn rs1)).mpr (token_rn rs1)) (readBase_memory imm12 rs1)
  unfold disasmJalr
  split
  · rename_i returns
    obtain ⟨rfl, rfl, rfl⟩ := ret returns
    exact assemble_fixed reading pc "ret" rfl
  · split
    · rename_i both
      rw [both.1, both.2]
      exact alone.2
    · split
      · rename_i both
        rw [both.1, both.2]
        exact alone.1
      · split
        · rename_i noLink
          rw [noLink]
          exact inMemory.2
        · split
          · rename_i link
            rw [link]
            exact inMemory.1
          · exact assemble_jalr reading pc rd rs1 imm12

/-- The branches for which the tables have no name, or one that no assembler knows. -/
def UnnamedBranch (type : BitVec 3) (rs1 rs2 : Reg) : Prop :=
  rs2 = 0 ∧ (type = 6 ∨ type = 7) ∨
    rs2 ≠ 0 ∧ rs1 = 0 ∧ (type = 0 ∨ type = 1 ∨ type = 6 ∨ type = 7)

instance (type : BitVec 3) (rs1 rs2 : Reg) : Decidable (UnnamedBranch type rs1 rs2) :=
  inferInstanceAs (Decidable (rs2 = 0 ∧ (type = 6 ∨ type = 7) ∨
    rs2 ≠ 0 ∧ rs1 = 0 ∧ (type = 0 ∨ type = 1 ∨ type = 6 ∨ type = 7)))

theorem disasmBranch_eq (insn : Word) (type : BitVec 3) (rs1 rs2 : Reg) :
    disasmBranch pc insn type rs1 rs2 =
      if rs2 = 0 then line (brazName type) [rn rs1, hexadecimal (pc + doBoff insn)]
      else if rs1 = 0 then line (braziName type) [rn rs2, hexadecimal (pc + doBoff insn)]
      else line (braName type) [rn rs1, rn rs2, hexadecimal (pc + doBoff insn)] := by
  rw [← boff_eq]
  rfl

theorem assemble_bra (op : BranchOp) (rs1 rs2 : Reg) (offset : Word) :
    assemble reading pc (line (braName op.funct3) [rn rs1, rn rs2, hexadecimal (pc + offset)]) =
      some ⟨branchOpcode op, 0, rs1, rs2, offset⟩ := by
  cases op with
  | beq => exact assemble_branch reading pc "beq" rs1 rs2 offset rfl
  | bne => exact assemble_branch reading pc "bne" rs1 rs2 offset rfl
  | blt => exact assemble_branch reading pc "blt" rs1 rs2 offset rfl
  | bge => exact assemble_branch reading pc "bge" rs1 rs2 offset rfl
  | bltu => exact assemble_branch reading pc "bltu" rs1 rs2 offset rfl
  | bgeu => exact assemble_branch reading pc "bgeu" rs1 rs2 offset rfl

theorem assemble_braz (op : BranchOp) (rs1 : Reg) (offset : Word) :
    assemble reading pc (line (brazName op.funct3) [rn rs1, hexadecimal (pc + offset)]) =
      if op = .bltu ∨ op = .bgeu then none else some ⟨branchOpcode op, 0, rs1, 0, offset⟩ := by
  cases op with
  | beq => exact assemble_branchZero reading pc "beqz" rs1 offset rfl
  | bne => exact assemble_branchZero reading pc "bnez" rs1 offset rfl
  | blt => exact assemble_branchZero reading pc "bltz" rs1 offset rfl
  | bge => exact assemble_branchZero reading pc "bgez" rs1 offset rfl
  | bltu => exact assemble_unnamed reading pc "bltuz" _ (by simp) rfl (by simp)
  | bgeu => exact assemble_unnamed reading pc "bgeuz" _ (by simp) rfl (by simp)

theorem assemble_brazi (op : BranchOp) (rs2 : Reg) (offset : Word) :
    assemble reading pc (line (braziName op.funct3) [rn rs2, hexadecimal (pc + offset)]) =
      if op = .blt ∨ op = .bge then some ⟨branchOpcode op, 0, 0, rs2, offset⟩ else none := by
  have unnamed : assemble reading pc (line "???" [rn rs2, hexadecimal (pc + offset)]) = none :=
    assemble_unnamed reading pc "???" _ (by simp) rfl (by simp)
  cases op with
  | blt => exact assemble_zeroBranch reading pc "bgtz" rs2 offset rfl
  | bge => exact assemble_zeroBranch reading pc "blez" rs2 offset rfl
  | beq => exact unnamed
  | bne => exact unnamed
  | bltu => exact unnamed
  | bgeu => exact unnamed

theorem assemble_disasmBranch (op : BranchOp) (insn : Word) (rs1 rs2 : Reg) :
    assemble reading pc (disasmBranch pc insn op.funct3 rs1 rs2) =
        some ⟨branchOpcode op, 0, rs1, rs2, doBoff insn⟩ ↔ ¬ UnnamedBranch op.funct3 rs1 rs2 := by
  rw [disasmBranch_eq]
  by_cases noSecond : rs2 = 0
  · rw [if_pos noSecond, noSecond, assemble_braz]
    cases op <;> simp [UnnamedBranch, BranchOp.funct3]
  · rw [if_neg noSecond]
    simp only [BitVec.ofNat_eq_ofNat] at noSecond
    by_cases noFirst : rs1 = 0
    · rw [if_pos noFirst, noFirst, assemble_brazi]
      cases op <;> simp [UnnamedBranch, BranchOp.funct3, noSecond]
    · rw [if_neg noFirst, assemble_bra]
      simp only [BitVec.ofNat_eq_ofNat] at noFirst
      simp [UnnamedBranch, noFirst, noSecond]

theorem csrNumber_eq (insn : Word) : BitVec.ofNat 32 (insn >>> 20).toNat = insn >>> 20 := by
  rw [BitVec.ofNat_toNat, BitVec.setWidth_eq]

def HexConstant (type : BitVec 3) (rs1 : Reg) : Prop :=
  (type = 5 ∨ type = 6 ∨ type = 7) ∧ 10 ≤ rs1.toNat

instance (type : BitVec 3) (rs1 : Reg) : Decidable (HexConstant type rs1) :=
  inferInstanceAs (Decidable ((type = 5 ∨ type = 6 ∨ type = 7) ∧ 10 ≤ rs1.toNat))

theorem assemble_csrrw (insn : Word) (rd rs1 : Reg) :
    assemble reading pc (disasmSystem insn 1 rd rs1) =
      some ⟨.csrrw, rd, rs1, 0, BitVec.ofNat 32 (insn >>> 20).toNat⟩ := by
  by_cases noTarget : rd = 0
  · subst noTarget
    exact assemble_csrOnly reading pc "csrw" rs1 _ rfl
  · have printed : disasmSystem insn 1 rd rs1 =
        line "csrrw" [csrName (insn >>> 20).toNat, rn rd, rn rs1] := by
      rw [disasmSystem, if_neg (by decide), if_neg fun both => noTarget both.2]
      rfl
    rw [printed]
    exact assemble_csr reading pc "csrrw" rd rs1 _ rfl

theorem assemble_csrrs (insn : Word) (rd rs1 : Reg) :
    assemble reading pc (disasmSystem insn 2 rd rs1) =
      some ⟨.csrrs, rd, rs1, 0, BitVec.ofNat 32 (insn >>> 20).toNat⟩ := by
  by_cases noSource : rs1 = 0
  · have printed : disasmSystem insn 2 rd rs1 =
        if (insn >>> 20).toNat = 0xc01 then line "rdtime" [rn rd]
        else if (insn >>> 20).toNat = 0xc81 then line "rdtimeh" [rn rd]
        else line "csrr" [rn rd, csrName (insn >>> 20).toNat] := by
      rw [disasmSystem, if_neg (by decide), if_neg (by simp), if_pos ⟨rfl, noSource⟩]
    rw [printed, noSource]
    split
    · rename_i time
      rw [time]
      exact assemble_counter reading pc "rdtime" rd _ rfl
    · split
      · rename_i timeh
        rw [timeh]
        exact assemble_counter reading pc "rdtimeh" rd _ rfl
      · exact assemble_csrRead reading pc rd _
  · have printed : disasmSystem insn 2 rd rs1 =
        line "csrrs" [csrName (insn >>> 20).toNat, rn rd, rn rs1] := by
      rw [disasmSystem, if_neg (by decide), if_neg (by simp), if_neg fun both => noSource both.2]
      rfl
    rw [printed]
    exact assemble_csr reading pc "csrrs" rd rs1 _ rfl

theorem assemble_csrrc (insn : Word) (rd rs1 : Reg) :
    assemble reading pc (disasmSystem insn 3 rd rs1) =
      some ⟨.csrrc, rd, rs1, 0, BitVec.ofNat 32 (insn >>> 20).toNat⟩ := by
  by_cases noTarget : rd = 0
  · subst noTarget
    exact assemble_csrOnly reading pc "csrc" rs1 _ rfl
  · have printed : disasmSystem insn 3 rd rs1 =
        line "csrrc" [csrName (insn >>> 20).toNat, rn rd, rn rs1] := by
      rw [disasmSystem, if_neg (by decide), if_neg (by simp), if_neg (by simp),
        if_neg fun both => noTarget both.2]
      rfl
    rw [printed]
    exact assemble_csr reading pc "csrrc" rd rs1 _ rfl

theorem assemble_disasmSystem (op : CsrOp) (insn : Word) (rd rs1 : Reg) :
    assemble reading pc (disasmSystem insn op.funct3 rd rs1) =
        some ⟨csrOpcode op, rd, rs1, 0, insn >>> 20⟩ ↔
      ¬ (reading = .decimal ∧ HexConstant op.funct3 rs1) := by
  rw [← csrNumber_eq]
  cases op with
  | csrrw =>
      exact iff_of_true (assemble_csrrw reading pc insn rd rs1)
        (by simp [HexConstant, CsrOp.funct3])
  | csrrs =>
      exact iff_of_true (assemble_csrrs reading pc insn rd rs1)
        (by simp [HexConstant, CsrOp.funct3])
  | csrrc =>
      exact iff_of_true (assemble_csrrc reading pc insn rd rs1)
        (by simp [HexConstant, CsrOp.funct3])
  | csrrwi =>
      refine (assemble_csrImm reading pc "csrrwi" rd rs1 _ rfl).trans ?_
      simp [HexConstant, CsrOp.funct3]
  | csrrsi =>
      refine (assemble_csrImm reading pc "csrrsi" rd rs1 _ rfl).trans ?_
      simp [HexConstant, CsrOp.funct3]
  | csrrci =>
      refine (assemble_csrImm reading pc "csrrci" rd rs1 _ rfl).trans ?_
      simp [HexConstant, CsrOp.funct3]

end Kinds

/-! The rows behind the decodes. -/

theorem csr_rows (op : CsrOp) : ∀ row ∈ optable, row.vliw = csrOpcode op →
    row.Known none (some op.funct3) 0x73 (csrItems op) := by
  cases op <;> decide +kernel

theorem items_csr (word : Word) (op : CsrOp) :
    decodeItems word (csrItems op) (Vliw.ofOpcode (csrOpcode op)) =
      .ok ⟨csrOpcode op, word.extractLsb' 7 5, word.extractLsb' 15 5, 0, word >>> 20⟩ := by
  have whole : (word >>> 20) &&& 0x00000fff = word >>> 20 := by
    apply BitVec.eq_of_getLsbD_eq
    intro index inside
    simp only [BitVec.getLsbD_and, BitVec.getLsbD_ushiftRight]
    interval_cases index <;> simp
  cases op <;> simp [csrItems, csrOpcode, decodeItems, decodeItem, Vliw.ofOpcode] <;> exact whole

theorem masked_of_decode {word : Word} {vlp : Vliw} {code mask : Word} {items : List String}
    (wide : isWide word = true) (decoded : decodeAlone word = .ok (true, vlp))
    (only : ∀ row ∈ optable, row.vliw = vlp.opcode →
      row.code = code ∧ row.mask = mask ∧ row.items.tail = items) :
    word &&& mask = code ∧ decodeItems word items (Vliw.ofOpcode vlp.opcode) = .ok vlp := by
  obtain ⟨row, member, opcodes, matched, fromRow⟩ := row_of_decode wide decoded
  obtain ⟨rfl, rfl, rfl⟩ := only row member opcodes
  exact ⟨by simpa [Optable.matches] using matched, fromRow⟩

theorem field_of_masked {word mask code : Word} {start len : Nat} (masked : word &&& mask = code)
    (covers : mask.extractLsb' start len = BitVec.allOnes len) :
    word.extractLsb' start len = code.extractLsb' start len := by
  rw [← masked, BitVec.extractLsb'_and, covers, BitVec.and_allOnes]

/-- The words whose text says something else, or nothing. -/
def Misnamed (reading : Radix) (word : Word) : Prop :=
  (word.extractLsb' 0 7 = 0x63#7 ∧
      UnnamedBranch (word.extractLsb' 12 3) (word.extractLsb' 15 5) (word.extractLsb' 20 5)) ∨
    (word.extractLsb' 0 7 = 0x73#7 ∧ reading = .decimal ∧
      HexConstant (word.extractLsb' 12 3) (word.extractLsb' 15 5))

instance (reading : Radix) (word : Word) : Decidable (Misnamed reading word) :=
  inferInstanceAs (Decidable ((word.extractLsb' 0 7 = 0x63#7 ∧
      UnnamedBranch (word.extractLsb' 12 3) (word.extractLsb' 15 5) (word.extractLsb' 20 5)) ∨
    (word.extractLsb' 0 7 = 0x73#7 ∧ reading = .decimal ∧
      HexConstant (word.extractLsb' 12 3) (word.extractLsb' 15 5))))

theorem not_misnamed {word : Word} {opcode : BitVec 7} (reading : Radix)
    (field : word.extractLsb' 0 7 = opcode) (noBranch : opcode ≠ 0x63)
    (noSystem : opcode ≠ 0x73) : ¬ Misnamed reading word := by
  rintro (⟨branch, _⟩ | ⟨system, _⟩)
  · exact noBranch (field.symm.trans branch)
  · exact noSystem (field.symm.trans system)

def NamedUnless (reading : Radix) (pc word : Word) (vlp : Vliw) : Prop :=
  assemble reading pc (disasm pc word) = some vlp.instruction ↔ ¬ Misnamed reading word

section Named

variable {reading : Radix} {pc word : Word} {vlp : Vliw}

theorem named_reg (op : RegOp) (wide : isWide word = true)
    (decoded : decodeAlone word = .ok (true, vlp)) (opcode : vlp.opcode = regOpcode op) :
    NamedUnless reading pc word vlp := by
  obtain ⟨fields, items⟩ := fields_of_decode wide decoded (by rw [opcode]; exact reg_rows op)
  rw [opcode, items_reg, Except.ok.injEq] at items
  subst items
  refine iff_of_true ?_ (not_misnamed reading fields.opcode (by decide) (by decide))
  rw [disasm_of_alu fields.opcode, fields.funct3 _ rfl, fields.funct7 _ rfl, assemble_disasmAlu]
  cases op <;> rfl

theorem ne_nop (decoded : decodeAlone word = .ok (true, vlp)) (other : vlp.opcode ≠ .nop) :
    word ≠ 0x00000013 := by
  rintro rfl
  have alone : decodeAlone 0x00000013 = .ok (true, vliwNop) := by decide +kernel
  rw [alone, Except.ok.injEq, Prod.mk.injEq] at decoded
  rw [← decoded.2] at other
  exact other rfl

theorem named_imm (op : ImmOp) (wide : isWide word = true)
    (decoded : decodeAlone word = .ok (true, vlp)) (opcode : vlp.opcode = immOpcode op) :
    NamedUnless reading pc word vlp := by
  have other := ne_nop decoded (by rw [opcode]; cases op <;> decide)
  obtain ⟨fields, items⟩ := fields_of_decode wide decoded (by rw [opcode]; exact imm_rows op)
  rw [opcode, items_imm, Except.ok.injEq] at items
  subst items
  refine iff_of_true ?_ (not_misnamed reading fields.opcode (by decide) (by decide))
  rw [disasm_of_alui fields.opcode, fields.funct3 _ rfl, simm12_eq,
    assemble_disasmAlui _ _ op _ _ _ _ _ other]
  cases op <;> rfl

theorem named_shift (op : ShiftOp) (wide : isWide word = true)
    (decoded : decodeAlone word = .ok (true, vlp)) (opcode : vlp.opcode = shiftOpcode op) :
    NamedUnless reading pc word vlp := by
  have other := ne_nop decoded (by rw [opcode]; cases op <;> decide)
  obtain ⟨fields, items⟩ := fields_of_decode wide decoded (by rw [opcode]; exact shift_rows op)
  rw [opcode, items_shift, Except.ok.injEq] at items
  subst items
  refine iff_of_true ?_ (not_misnamed reading fields.opcode (by decide) (by decide))
  rw [disasm_of_alui fields.opcode, fields.funct3 _ rfl, fields.funct7 _ rfl,
    assemble_disasmShift _ _ op _ _ _ _ other, shamt_eq]
  cases op <;> rfl

theorem upper_eq (word : Word) : (word >>> 12) <<< 12 = word &&& (0xfffff000 : Word) := by
  apply BitVec.eq_of_getLsbD_eq
  intro index inside
  simp only [BitVec.getLsbD_shiftLeft, BitVec.getLsbD_ushiftRight, BitVec.getLsbD_and]
  interval_cases index <;> simp

theorem named_lui (wide : isWide word = true) (decoded : decodeAlone word = .ok (true, vlp))
    (opcode : vlp.opcode = .lui) : NamedUnless reading pc word vlp := by
  obtain ⟨fields, items⟩ := fields_of_decode wide decoded (by rw [opcode]; exact lui_rows)
  rw [opcode, items_upper, Except.ok.injEq] at items
  subst items
  refine iff_of_true ?_ (not_misnamed reading fields.opcode (by decide) (by decide))
  rw [disasm_of_lui fields.opcode, assemble_upper reading pc "lui" _ _ rfl, upper_eq, imm20_eq]
  rfl

theorem named_auipc (wide : isWide word = true) (decoded : decodeAlone word = .ok (true, vlp))
    (opcode : vlp.opcode = .auipc) : NamedUnless reading pc word vlp := by
  obtain ⟨fields, items⟩ := fields_of_decode wide decoded (by rw [opcode]; exact auipc_rows)
  rw [opcode, items_upper, Except.ok.injEq] at items
  subst items
  refine iff_of_true ?_ (not_misnamed reading fields.opcode (by decide) (by decide))
  rw [disasm_of_auipc fields.opcode, assemble_upper reading pc "auipc" _ _ rfl, upper_eq,
    imm20_eq]
  rfl

theorem named_load (op : LoadOp) (wide : isWide word = true)
    (decoded : decodeAlone word = .ok (true, vlp)) (opcode : vlp.opcode = loadOpcode op) :
    NamedUnless reading pc word vlp := by
  obtain ⟨fields, items⟩ := fields_of_decode wide decoded (by rw [opcode]; exact load_rows op)
  rw [opcode, items_imm, Except.ok.injEq] at items
  subst items
  refine iff_of_true ?_ (not_misnamed reading fields.opcode (by decide) (by decide))
  rw [disasm_of_load fields.opcode, fields.funct3 _ rfl, assemble_disasmLoad]
  cases op <;> rfl

theorem named_store (op : StoreOp) (wide : isWide word = true)
    (decoded : decodeAlone word = .ok (true, vlp)) (opcode : vlp.opcode = storeOpcode op) :
    NamedUnless reading pc word vlp := by
  obtain ⟨fields, items⟩ := fields_of_decode wide decoded (by rw [opcode]; exact store_rows op)
  rw [opcode, items_store, Except.ok.injEq] at items
  subst items
  refine iff_of_true ?_ (not_misnamed reading fields.opcode (by decide) (by decide))
  rw [disasm_of_store fields.opcode, fields.funct3 _ rfl, assemble_disasmStore]
  cases op <;> rfl

theorem named_jal (wide : isWide word = true) (decoded : decodeAlone word = .ok (true, vlp))
    (opcode : vlp.opcode = .jal) : NamedUnless reading pc word vlp := by
  obtain ⟨fields, items⟩ := fields_of_decode wide decoded (by rw [opcode]; exact jal_rows)
  rw [opcode, items_jal, Except.ok.injEq] at items
  subst items
  refine iff_of_true ?_ (not_misnamed reading fields.opcode (by decide) (by decide))
  rw [disasm_of_jal fields.opcode, assemble_disasmJal]
  rfl

theorem j_rows : ∀ row ∈ optable, row.vliw = .j →
    row.code = 0x0000006f ∧ row.mask = 0x00000fff ∧ row.items.tail = ["joff"] := by
  decide +kernel

theorem named_j (wide : isWide word = true) (decoded : decodeAlone word = .ok (true, vlp))
    (opcode : vlp.opcode = .j) : NamedUnless reading pc word vlp := by
  obtain ⟨masked, items⟩ := masked_of_decode wide decoded (by rw [opcode]; exact j_rows)
  have field : word.extractLsb' 0 7 = 0x6f#7 := field_of_masked masked (by decide)
  have noLink : word.extractLsb' 7 5 = 0#5 := field_of_masked masked (by decide)
  have operands : decodeItems word ["joff"] (Vliw.ofOpcode .j) =
      .ok ⟨.j, 0, 0, 0, joffImm word⟩ := by
    simp [decodeItems, decodeItem, Vliw.ofOpcode]
  rw [opcode, operands, Except.ok.injEq] at items
  subst items
  refine iff_of_true ?_ (not_misnamed reading field (by decide) (by decide))
  rw [disasm_of_jal field, assemble_disasmJal, noLink]
  rfl

theorem ret_fields (word : Word) (returns : word = 0x00008067) :
    word.extractLsb' 7 5 = 0#5 ∧ word.extractLsb' 15 5 = 1#5 ∧ (disasmImmediates word).i = 0#32 := by
  subst returns
  decide

theorem named_jalr (wide : isWide word = true) (decoded : decodeAlone word = .ok (true, vlp))
    (opcode : vlp.opcode = .jalr) : NamedUnless reading pc word vlp := by
  obtain ⟨fields, items⟩ := fields_of_decode wide decoded (by rw [opcode]; exact jalr_rows)
  rw [opcode, items_jalr, Except.ok.injEq] at items
  subst items
  refine iff_of_true ?_ (not_misnamed reading fields.opcode (by decide) (by decide))
  rw [disasm_of_jalr fields.opcode, assemble_disasmJalr _ _ _ _ _ _ (ret_fields word), simm12_eq]
  rfl

theorem jr_rows : ∀ row ∈ optable, row.vliw = .jr →
    row.code = 0x00000067 ∧ row.mask = 0xfff07fff ∧ row.items.tail = ["rs1"] := by
  decide +kernel

theorem named_jr (wide : isWide word = true) (decoded : decodeAlone word = .ok (true, vlp))
    (opcode : vlp.opcode = .jr) : NamedUnless reading pc word vlp := by
  obtain ⟨masked, items⟩ := masked_of_decode wide decoded (by rw [opcode]; exact jr_rows)
  have field : word.extractLsb' 0 7 = 0x67#7 := field_of_masked masked (by decide)
  have noLink : word.extractLsb' 7 5 = 0#5 := field_of_masked masked (by decide)
  have noOffset : (disasmImmediates word).i = 0#32 := by
    have imm : word.extractLsb' 20 12 = 0#12 := field_of_masked masked (by decide)
    rw [simm12_eq, word_iType word, mkSimm12_iType, imm]
    rfl
  have operands : decodeItems word ["rs1"] (Vliw.ofOpcode .jr) =
      .ok ⟨.jr, 0, word.extractLsb' 15 5, 0, 0⟩ := by
    simp [decodeItems, decodeItem, Vliw.ofOpcode]
  rw [opcode, operands, Except.ok.injEq] at items
  subst items
  refine iff_of_true ?_ (not_misnamed reading field (by decide) (by decide))
  rw [disasm_of_jalr field, assemble_disasmJalr _ _ _ _ _ _ (ret_fields word), noLink, noOffset]
  rfl

theorem named_whole {op : VliwOp} {code : Word} (wide : isWide word = true)
    (decoded : decodeAlone word = .ok (true, vlp)) (opcode : vlp.opcode = op)
    (only : ∀ row ∈ optable, row.vliw = op →
      row.code = code ∧ row.mask = BitVec.allOnes 32 ∧ row.items.tail = [])
    (text : assemble reading pc (disasm pc code) = some (Vliw.ofOpcode op).instruction)
    (regular : ¬ Misnamed reading code) : NamedUnless reading pc word vlp := by
  obtain ⟨masked, items⟩ := masked_of_decode wide decoded (by rw [opcode]; exact only)
  rw [BitVec.and_allOnes] at masked
  rw [opcode, decodeItems, Except.ok.injEq] at items
  rw [masked, ← items]
  exact iff_of_true text regular

theorem whole_rows : ∀ row ∈ optable,
    (row.vliw = .nop → row.code = 0x00000013 ∧ row.mask = BitVec.allOnes 32 ∧
      row.items.tail = []) ∧
    (row.vliw = .ecall → row.code = 0x00000073 ∧ row.mask = BitVec.allOnes 32 ∧
      row.items.tail = []) ∧
    (row.vliw = .ebreak → row.code = 0x00100073 ∧ row.mask = BitVec.allOnes 32 ∧
      row.items.tail = []) ∧
    (row.vliw = .mret → row.code = 0x30200073 ∧ row.mask = BitVec.allOnes 32 ∧
      row.items.tail = []) ∧
    (row.vliw = .wfi → row.code = 0x10500073 ∧ row.mask = BitVec.allOnes 32 ∧
      row.items.tail = []) := by
  decide +kernel

theorem system_regular (code : Word) (field : code.extractLsb' 0 7 = 0x73#7)
    (type : code.extractLsb' 12 3 = 0#3) : ¬ Misnamed reading code := by
  rintro (⟨branch, _⟩ | ⟨_, _, constant, _⟩)
  · rw [field] at branch
    simp at branch
  · rw [type] at constant
    simp at constant

theorem named_branch (op : BranchOp) (wide : isWide word = true)
    (decoded : decodeAlone word = .ok (true, vlp)) (opcode : vlp.opcode = branchOpcode op) :
    NamedUnless reading pc word vlp := by
  obtain ⟨fields, items⟩ := fields_of_decode wide decoded (by rw [opcode]; exact branch_rows op)
  rw [opcode, items_branch, Except.ok.injEq] at items
  subst items
  have same : Vliw.instruction ⟨branchOpcode op, 0, word.extractLsb' 15 5, word.extractLsb' 20 5,
      doBoff word⟩ = ⟨branchOpcode op, 0, word.extractLsb' 15 5, word.extractLsb' 20 5,
      doBoff word⟩ := by
    cases op <;> rfl
  rw [NamedUnless, same, disasm_of_branch fields.opcode, fields.funct3 _ rfl,
    assemble_disasmBranch, Misnamed, fields.opcode, fields.funct3 _ rfl]
  simp

theorem named_csr (op : CsrOp) (wide : isWide word = true)
    (decoded : decodeAlone word = .ok (true, vlp)) (opcode : vlp.opcode = csrOpcode op) :
    NamedUnless reading pc word vlp := by
  obtain ⟨fields, items⟩ := fields_of_decode wide decoded (by rw [opcode]; exact csr_rows op)
  rw [opcode, items_csr, Except.ok.injEq] at items
  subst items
  have same : Vliw.instruction ⟨csrOpcode op, word.extractLsb' 7 5, word.extractLsb' 15 5, 0,
      word >>> 20⟩ = ⟨csrOpcode op, word.extractLsb' 7 5, word.extractLsb' 15 5, 0,
      word >>> 20⟩ := by
    cases op <;> rfl
  rw [NamedUnless, same, disasm_of_system fields.opcode, fields.funct3 _ rfl,
    assemble_disasmSystem, Misnamed, fields.opcode, fields.funct3 _ rfl]
  simp

end Named

/-! What the decoder's own shorthands do. -/

theorem clear_link (s : Machine) (zero : s.cpu.reg 0 = 0) (value : Word) :
    (s.setReg 0 value).setReg 0 0 = s := by
  rw [clear_setReg s zero]
  have unchanged : writeReg s.cpu.reg 0 value = s.cpu.reg := if_pos rfl
  rw [unchanged]

theorem execute_instruction (cfg : Config) (vlp : Vliw) (s : Machine)
    (shorthand : vlp.opcode = .nop ∨ vlp.opcode = .j ∨ vlp.opcode = .jr ∧ vlp.imm = 0)
    (noTarget : vlp.rd = 0) (zero : s.cpu.reg 0 = 0) :
    execute cfg vlp.instruction s = execute cfg vlp s := by
  obtain ⟨op, rd, rs1, rs2, imm⟩ := vlp
  simp only at shorthand noTarget
  subst noTarget
  rcases shorthand with rfl | rfl | ⟨rfl, rfl⟩
  · have written : execute cfg (Vliw.instruction ⟨.nop, 0, rs1, rs2, imm⟩) s =
        .ok ((s.setReg 0 (s.cpu.reg rs1 + imm)).setReg 0 0) := rfl
    have skipped : execute cfg ⟨.nop, 0, rs1, rs2, imm⟩ s = .ok (s.setReg 0 0) := rfl
    rw [written, skipped, clear_link s zero, clear_unchanged s zero]
  · let jumped := s.setPcNext (s.cpu.pc + imm)
    have linked : execute cfg (Vliw.instruction ⟨.j, 0, rs1, rs2, imm⟩) s =
        .ok ((jumped.setReg 0 s.cpu.pcNext).setReg 0 0) := rfl
    have plain : execute cfg ⟨.j, 0, rs1, rs2, imm⟩ s = .ok (jumped.setReg 0 0) := rfl
    rw [linked, plain, clear_link jumped zero, clear_unchanged jumped zero]
  · let jumped := s.setPcNext (s.cpu.reg rs1)
    have linked : execute cfg (Vliw.instruction ⟨.jr, 0, rs1, rs2, 0⟩) s =
        .ok (((s.setPcNext (s.cpu.reg rs1 + 0)).setReg 0 s.cpu.pcNext).setReg 0 0) := rfl
    have plain : execute cfg ⟨.jr, 0, rs1, rs2, 0⟩ s = .ok (jumped.setReg 0 0) := rfl
    rw [linked, plain, add_zero, clear_link jumped zero, clear_unchanged jumped zero]

/-! All together. -/

inductive Supported : VliwOp → Prop
  | lui : Supported .lui
  | auipc : Supported .auipc
  | j : Supported .j
  | jal : Supported .jal
  | jr : Supported .jr
  | jalr : Supported .jalr
  | branch (op : BranchOp) : Supported (branchOpcode op)
  | load (op : LoadOp) : Supported (loadOpcode op)
  | store (op : StoreOp) : Supported (storeOpcode op)
  | nop : Supported .nop
  | imm (op : ImmOp) : Supported (immOpcode op)
  | shift (op : ShiftOp) : Supported (shiftOpcode op)
  | reg (op : RegOp) : Supported (regOpcode op)
  | ecall : Supported .ecall
  | ebreak : Supported .ebreak
  | mret : Supported .mret
  | wfi : Supported .wfi
  | csr (op : CsrOp) : Supported (csrOpcode op)

theorem named_supported {reading : Radix} {pc word : Word} {vlp : Vliw}
    (wide : isWide word = true) (decoded : decodeAlone word = .ok (true, vlp))
    (supported : Supported vlp.opcode) : NamedUnless reading pc word vlp := by
  generalize opcode : vlp.opcode = op at supported
  cases supported with
  | lui => exact named_lui wide decoded opcode
  | auipc => exact named_auipc wide decoded opcode
  | j => exact named_j wide decoded opcode
  | jal => exact named_jal wide decoded opcode
  | jr => exact named_jr wide decoded opcode
  | jalr => exact named_jalr wide decoded opcode
  | branch op => exact named_branch op wide decoded opcode
  | load op => exact named_load op wide decoded opcode
  | store op => exact named_store op wide decoded opcode
  | imm op => exact named_imm op wide decoded opcode
  | shift op => exact named_shift op wide decoded opcode
  | reg op => exact named_reg op wide decoded opcode
  | csr op => exact named_csr op wide decoded opcode
  | nop =>
      exact @named_whole reading pc word vlp _ 0x00000013 wide decoded opcode
        (fun row member => (whole_rows row member).1)
        (assemble_fixed reading pc "nop" rfl) (not_misnamed reading rfl (by decide) (by decide))
  | ecall =>
      exact @named_whole reading pc word vlp _ 0x00000073 wide decoded opcode
        (fun row member => (whole_rows row member).2.1)
        (assemble_fixed reading pc "ecall" rfl) (system_regular _ rfl rfl)
  | ebreak =>
      exact @named_whole reading pc word vlp _ 0x00100073 wide decoded opcode
        (fun row member => (whole_rows row member).2.2.1)
        (assemble_fixed reading pc "ebreak" rfl) (system_regular _ rfl rfl)
  | mret =>
      exact @named_whole reading pc word vlp _ 0x30200073 wide decoded opcode
        (fun row member => (whole_rows row member).2.2.2.1)
        (assemble_fixed reading pc "mret" rfl) (system_regular _ rfl rfl)
  | wfi =>
      exact @named_whole reading pc word vlp _ 0x10500073 wide decoded opcode
        (fun row member => (whole_rows row member).2.2.2.2)
        (assemble_fixed reading pc "wfi" rfl) (system_regular _ rfl rfl)

theorem assemble_narrow (reading : Radix) (pc : Word) {word : Word}
    (narrow : isWide word = false) : assemble reading pc (disasm pc word) = none := by
  rw [disasm_narrow narrow]
  exact assemble_unnamed reading pc "" [] (by decide) rfl (by simp)

/-- The text of a supported instruction, read back, is the decoded instruction exactly when the
word has 32 bits and the tables have its name. -/
theorem disasm_names_iff (reading : Radix) (pc word : Word) (calls : List (Word × Word))
    (results : List (Bool × Vliw)) (tables : DecodeTables) (decoded : Decoded)
    (history : decodeCalls DecodeTables.empty calls = .ok (results, tables))
    (called : decode2vliw tables pc word = .ok decoded) (found : decoded.found = true)
    (supported : Supported decoded.vliw.opcode) :
    assemble reading pc (disasm pc word) = some decoded.vliw.instruction ↔
      isWide word = true ∧ ¬ Misnamed reading word := by
  have sound := (decodeCalls_sound DecodeTables.empty_sound history).1
  have alone := sound.transparent pc word
  rw [called, map_ok, Decoded.result, found] at alone
  cases wide : isWide word with
  | true => simpa [NamedUnless] using named_supported wide alone.symm supported
  | false => simp [assemble_narrow reading pc wide]

theorem disasm_names_beqz :
    assemble .decimal 0x100 (disasm 0x100 0x00050463) = some ⟨.beq, 0, 10, 0, 8⟩ :=
  (disasm_names_iff .decimal 0x100 0x00050463 [] [] DecodeTables.empty _ rfl rfl rfl
    (.branch .beq)).mpr ⟨by decide, by decide⟩

/-- The same test the other way around, `beq zero,a0,8`, has the name `???`. -/
theorem disasm_unnamed :
    ¬ ∀ (pc word : Word) (calls : List (Word × Word)) (results : List (Bool × Vliw))
        (tables : DecodeTables) (decoded : Decoded),
      decodeCalls DecodeTables.empty calls = .ok (results, tables) →
      decode2vliw tables pc word = .ok decoded → decoded.found = true →
      Supported decoded.vliw.opcode →
      ∃ reading, assemble reading pc (disasm pc word) = some decoded.vliw.instruction := by
  intro claimed
  obtain ⟨reading, named⟩ := claimed 0x100 0x00a00463 [] [] DecodeTables.empty _ rfl rfl rfl
    (.branch .beq)
  have printed : disasm 0x100 0x00a00463 = line "???" [rn 10, hexadecimal 0x108] := rfl
  rw [printed, assemble_unnamed reading 0x100 "???" _ (by simp) rfl (by simp)] at named
  simp at named

end RiscVFast
