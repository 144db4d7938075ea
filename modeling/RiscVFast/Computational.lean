import RiscVFast.Execute
import RiscVFast.Fields

/-! The computational instructions of RV32I, from the encoded word to the new registers. -/

namespace RiscVFast

open Rv32i hiding Word
open MaskTable Fallible

/-! The switch of `execute` on the opcodes that only set `rd`. -/

theorem clear_setReg (s : Machine) (zero : s.cpu.reg 0 = 0) (rd : Reg) (value : Word) :
    (s.setReg rd value).setReg 0 0 = { s with cpu.reg := writeReg s.cpu.reg rd value } := by
  have written := clear_update_eq_writeReg s.cpu.reg zero rd value
  simp only [← written]
  rfl

theorem clear_unchanged (s : Machine) (zero : s.cpu.reg 0 = 0) : s.setReg 0 0 = s := by
  have unchanged : Function.update s.cpu.reg 0 0 = s.cpu.reg := by
    rw [← zero]
    exact Function.update_eq_self 0 s.cpu.reg
  simp only [Machine.setReg, unchanged]

theorem execute_setReg {cfg : Config} {vlp : Vliw} {s : Machine} {value : Word}
    (zero : s.cpu.reg 0 = 0) (dispatched : dispatch cfg vlp s = .ok (s.setReg vlp.rd value)) :
    execute cfg vlp s = .ok { s with cpu.reg := writeReg s.cpu.reg vlp.rd value } := by
  simp only [execute, dispatched, map_ok, clear_setReg s zero]

theorem execute_nop (cfg : Config) (s : Machine) (zero : s.cpu.reg 0 = 0) :
    execute cfg vliwNop s = .ok s := by
  simp only [execute, dispatch, vliwNop, Vliw.ofOpcode, map_ok, clear_unchanged s zero]

def immOpcode : ImmOp → VliwOp
  | .addi => .addi
  | .slti => .slti
  | .sltiu => .sltiu
  | .xori => .xori
  | .ori => .ori
  | .andi => .andi

def shiftOpcode : ShiftOp → VliwOp
  | .slli => .slli
  | .srli => .srli
  | .srai => .srai

def regOpcode : RegOp → VliwOp
  | .add => .add
  | .sub => .sub
  | .sll => .sll
  | .slt => .slt
  | .sltu => .sltu
  | .xor => .xor
  | .srl => .srl
  | .sra => .sra
  | .or => .or
  | .and => .and

theorem dispatch_imm (cfg : Config) (op : ImmOp) (rd rs1 rs2 : Reg) (imm : Word) (s : Machine) :
    dispatch cfg ⟨immOpcode op, rd, rs1, rs2, imm⟩ s =
      .ok (s.setReg rd (op.eval (s.cpu.reg rs1) imm)) := by
  cases op <;> rfl

theorem shiftAmount (amount : Word) : (amount &&& 0x1f).toNat = amount.toNat % 32 := by
  rw [BitVec.toNat_and]
  exact Nat.and_two_pow_sub_one_eq_mod amount.toNat 5

theorem dispatch_shift (cfg : Config) (op : ShiftOp) (rd rs1 rs2 : Reg) (shamt : BitVec 5)
    (s : Machine) :
    dispatch cfg ⟨shiftOpcode op, rd, rs1, rs2, shamt.setWidth 32⟩ s =
      .ok (s.setReg rd (op.eval (s.cpu.reg rs1) shamt.toNat)) := by
  have amount : (shamt.setWidth 32 &&& (0x1f : Word)).toNat = shamt.toNat := by
    have bound := shamt.isLt
    rw [shiftAmount, BitVec.toNat_setWidth]
    omega
  cases op <;> simp only [shiftOpcode, dispatch, ShiftOp.eval, amount]

theorem dispatch_reg (cfg : Config) (op : RegOp) (rd rs1 rs2 : Reg) (imm : Word) (s : Machine) :
    dispatch cfg ⟨regOpcode op, rd, rs1, rs2, imm⟩ s =
      .ok (s.setReg rd (op.eval (s.cpu.reg rs1) (s.cpu.reg rs2))) := by
  cases op <;> simp only [regOpcode, dispatch, RegOp.eval, shiftAmount] <;> rfl

theorem decodeAlone_upper (op : VliwOp) (opcode : BitVec 7) (rd : Reg) (imm : BitVec 20)
    (wide : (knownFields none none none opcode []).entails ⟨3, 3⟩ = true)
    (found : ((knownFields none none none opcode []).search Optable.pattern optable).map
      (fun row => (row.vliw, row.items.tail)) = some (op, ["rd", "imm20"])) :
    ∃ field : Word, decodeAlone (uType imm rd opcode) = .ok (true, ⟨op, rd, 0, 0, field⟩) ∧
      field <<< 12 = imm ++ 0#12 := by
  have described := rType_described (imm.extractLsb' 13 7) (imm.extractLsb' 8 5)
    (imm.extractLsb' 3 5) (imm.extractLsb' 0 3) rd opcode []
    (agrees_none _) (agrees_none _) (agrees_none _) nofun
  rw [← uType_eq_rType] at described
  refine ⟨_, (decodeAlone_of_search op _ described wide found).trans ?_, imm20_uType rd opcode imm⟩
  simp [decodeItems, decodeItem, Vliw.ofOpcode]

theorem decodeAlone_nop : decodeAlone 0x00000013 = .ok (true, vliwNop) := rfl

/-- The row of `nop` comes before the row of `addi`. -/
def nopPattern : Pattern 32 := ⟨0x00000013, 0xffffffff⟩

theorem decodeAlone_imm (op : ImmOp) (rd rs1 : Reg) (imm : BitVec 12)
    (other : iType imm rs1 op.funct3 rd 0b0010011 ≠ 0x00000013) :
    decodeAlone (iType imm rs1 op.funct3 rd 0b0010011) =
      .ok (true, ⟨immOpcode op, rd, rs1, 0, imm.signExtend 32⟩) := by
  have refused : ∀ pattern ∈ [nopPattern], pattern.accepts
      (rType (imm.extractLsb' 5 7) (imm.extractLsb' 0 5) rs1 op.funct3 rd 0b0010011) = false := by
    intro pattern member
    have everyBit : nopPattern.mask = BitVec.allOnes 32 := rfl
    rw [List.mem_singleton.mp member, ← iType_eq_rType, Pattern.accepts, everyBit,
      BitVec.and_allOnes]
    simpa [nopPattern] using other
  have described := rType_described _ _ rs1 op.funct3 rd 0b0010011 _
    (agrees_none _) (agrees_some _) (agrees_none _) refused
  rw [← iType_eq_rType] at described
  have decoded := decodeAlone_of_search (immOpcode op) ["rd", "rs", "simm12"] described
    (by cases op <;> decide) (by cases op <;> decide +kernel)
  rw [decoded]
  simp [decodeItems, decodeItem, Vliw.ofOpcode]

theorem decodeAlone_shift (op : ShiftOp) (rd rs1 : Reg) (shamt : BitVec 5) :
    decodeAlone (rType op.funct7 shamt rs1 op.funct3 rd 0b0010011) =
      .ok (true, ⟨shiftOpcode op, rd, rs1, 0, shamt.setWidth 32⟩) := by
  have described := rType_described op.funct7 shamt rs1 op.funct3 rd 0b0010011 []
    (agrees_some _) (agrees_some _) (agrees_none _) nofun
  have decoded := decodeAlone_of_search (shiftOpcode op) ["rd", "rs1", "shamt"] described
    (by cases op <;> decide) (by cases op <;> decide +kernel)
  have amount := shamt_rType rs1 op.funct3 rd 0b0010011 op.funct7 shamt
  rw [decoded]
  simp only [decodeItems, decodeItem, amount]
  simp [Vliw.ofOpcode]

theorem decodeAlone_reg (op : RegOp) (rd rs1 rs2 : Reg) :
    decodeAlone (rType op.funct7 rs2 rs1 op.funct3 rd 0b0110011) =
      .ok (true, ⟨regOpcode op, rd, rs1, rs2, 0⟩) := by
  have described := rType_described op.funct7 rs2 rs1 op.funct3 rd 0b0110011 []
    (agrees_some _) (agrees_some _) (agrees_none _) nofun
  have decoded := decodeAlone_of_search (regOpcode op) ["rd", "rs1", "rs2"] described
    (by cases op <;> decide) (by cases op <;> decide +kernel)
  rw [decoded]
  simp [decodeItems, decodeItem, Vliw.ofOpcode]

def Conforms (cfg : Config) (instr : Computational) (s : Machine) : Prop :=
  ∃ vlp, decodeAlone instr.encode = .ok (true, vlp) ∧
    execute cfg vlp s = .ok { s with cpu.reg := instr.eval s.cpu.pc s.cpu.reg }

theorem conforms_of_dispatch {cfg : Config} {instr : Computational} {s : Machine} {vlp : Vliw}
    {value : Word} (zero : s.cpu.reg 0 = 0) (decoded : decodeAlone instr.encode = .ok (true, vlp))
    (dispatched : dispatch cfg vlp s = .ok (s.setReg vlp.rd value))
    (result : instr.eval s.cpu.pc s.cpu.reg = writeReg s.cpu.reg vlp.rd value) :
    Conforms cfg instr s := by
  refine ⟨vlp, decoded, ?_⟩
  rw [execute_setReg zero dispatched, result]

theorem lui_conforms (cfg : Config) (rd : Reg) (imm : BitVec 20) (s : Machine)
    (zero : s.cpu.reg 0 = 0) : Conforms cfg (.lui rd imm) s := by
  obtain ⟨field, decoded, shifted⟩ := decodeAlone_upper .lui 0b0110111 rd imm (by decide)
    (by decide +kernel)
  refine conforms_of_dispatch zero decoded rfl ?_
  rw [shifted]
  rfl

theorem auipc_conforms (cfg : Config) (rd : Reg) (imm : BitVec 20) (s : Machine)
    (zero : s.cpu.reg 0 = 0) : Conforms cfg (.auipc rd imm) s := by
  obtain ⟨field, decoded, shifted⟩ := decodeAlone_upper .auipc 0b0010111 rd imm (by decide)
    (by decide +kernel)
  refine conforms_of_dispatch zero decoded rfl ?_
  rw [shifted]
  rfl

theorem imm_conforms (cfg : Config) (op : ImmOp) (rd rs1 : Reg) (imm : BitVec 12) (s : Machine)
    (zero : s.cpu.reg 0 = 0) : Conforms cfg (.opImm op rd rs1 imm) s := by
  by_cases isNop : iType imm rs1 op.funct3 rd 0b0010011 = 0x00000013
  · -- the word is `addi x0,x0,0`
    have target : rd = 0#5 := by
      rw [← iType_rd rs1 op.funct3 rd 0b0010011 imm, isNop]
      rfl
    refine ⟨vliwNop, ?_, ?_⟩
    · simp only [Computational.encode, isNop, decodeAlone_nop]
    · simp only [execute_nop cfg s zero, Computational.eval, writeReg, target, if_true]
  · exact conforms_of_dispatch zero (decodeAlone_imm op rd rs1 imm isNop)
      (dispatch_imm cfg op rd rs1 0 _ s) rfl

/-- Every computational instruction conforms to RV32I, whatever was decoded before it. -/
theorem computational_conforms (cfg : Config) (instr : Computational) (pc : Word) (s : Machine)
    (calls : List (Word × Word)) (results : List (Bool × Vliw)) (tables : DecodeTables)
    (history : decodeCalls DecodeTables.empty calls = .ok (results, tables))
    (zero : s.cpu.reg 0 = 0) (located : s.cpu.pc = pc)
    (fallThrough : s.cpu.pcNext = s.cpu.pcInc) :
    ∃ decoded t, decode2vliw tables pc instr.encode = .ok decoded ∧ decoded.found = true ∧
      execute cfg decoded.vliw s = .ok t ∧
      t = { s with cpu.reg := instr.eval pc s.cpu.reg } ∧
      t.cpu.reg 0 = 0 ∧ t.cpu.pcNext = s.cpu.pcInc := by
  have conforms : Conforms cfg instr s := by
    cases instr with
    | lui rd imm => exact lui_conforms cfg rd imm s zero
    | auipc rd imm => exact auipc_conforms cfg rd imm s zero
    | nop => exact ⟨vliwNop, decodeAlone_nop, execute_nop cfg s zero⟩
    | opImm op rd rs1 imm => exact imm_conforms cfg op rd rs1 imm s zero
    | shift op rd rs1 shamt =>
        exact conforms_of_dispatch zero (decodeAlone_shift op rd rs1 shamt)
          (dispatch_shift cfg op rd rs1 0 shamt s) rfl
    | opReg op rd rs1 rs2 =>
        exact conforms_of_dispatch zero (decodeAlone_reg op rd rs1 rs2)
          (dispatch_reg cfg op rd rs1 rs2 0 s) rfl
  obtain ⟨vlp, alone, executed⟩ := conforms
  have sound := (decodeCalls_sound DecodeTables.empty_sound history).1
  have transparent := sound.transparent pc instr.encode
  rw [alone] at transparent
  obtain ⟨decoded, called, result⟩ := map_eq_ok.mp transparent
  simp only [Decoded.result, Prod.mk.injEq] at result
  rw [located] at executed
  refine ⟨decoded, _, called, result.1, ?_, rfl, ?_, fallThrough⟩
  · rw [result.2, executed]
  · exact (Computational.eval_zero pc s.cpu.reg instr).trans zero

/-- `srai x5,x2,31` in a machine whose `x2` is a negative number. -/
theorem computational_conforms_srai :
    let s := (Simulator.boot (smallMemory 0x80000000 []) 0 0).machine
    ∃ decoded t, decode2vliw DecodeTables.empty 0 0x41f15293 = .ok decoded ∧
      execute (Config.standard Host.silent) decoded.vliw s = .ok t ∧
      t.cpu.reg 2 = 0x800000f0 ∧ t.cpu.reg 5 = 0xffffffff := by
  obtain ⟨decoded, t, called, _, executed, result, _⟩ :=
    computational_conforms (Config.standard Host.silent) (.shift .srai 5 2 31) 0
      (Simulator.boot (smallMemory 0x80000000 []) 0 0).machine [] [] DecodeTables.empty rfl
      (by decide) rfl rfl
  refine ⟨decoded, t, called, executed, ?_, ?_⟩
  · rw [result]
    decide
  · rw [result]
    decide

end RiscVFast
