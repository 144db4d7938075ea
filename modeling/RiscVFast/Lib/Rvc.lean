import Mathlib.Tactic.IntervalCases
import RiscVFast.Lib.Rv32i

/-! The 16-bit instructions of RV32C without floating point: how the architecture encodes them and
which 32-bit instruction each of them stands for. -/

namespace Rvc

open Rv32i

abbrev Code := BitVec 16

/-- A register from `x8` to `x15`. -/
abbrev Prime := BitVec 3

def Prime.reg (register : Prime) : Reg := 0b01#2 ++ register

def fields (funct3 : BitVec 3) (bit : BitVec 1) (high : BitVec 2) (low : BitVec 3)
    (high' : BitVec 2) (low' : BitVec 3) (op : BitVec 2) : Code :=
  funct3 ++ bit ++ high ++ low ++ high' ++ low' ++ op

inductive ShiftOp
  | srli | srai
deriving DecidableEq

inductive AluOp
  | sub | xor | or | and
deriving DecidableEq

inductive BranchOp
  | beqz | bnez
deriving DecidableEq

/-- Immediates are without the bits that are always zero. -/
inductive Instr
  | addi4spn (rd : Prime) (imm : BitVec 8)
  | lw (rd rs1 : Prime) (imm : BitVec 5)
  | sw (rs1 rs2 : Prime) (imm : BitVec 5)
  | addi (rd : Reg) (imm : BitVec 6)
  | jal (imm : BitVec 11)
  | li (rd : Reg) (imm : BitVec 6)
  | addi16sp (imm : BitVec 6)
  | lui (rd : Reg) (imm : BitVec 6)
  | shift (op : ShiftOp) (rd : Prime) (shamt : BitVec 5)
  | andi (rd : Prime) (imm : BitVec 6)
  | alu (op : AluOp) (rd rs2 : Prime)
  | j (imm : BitVec 11)
  | branch (op : BranchOp) (rs1 : Prime) (imm : BitVec 8)
  | slli (rd : Reg) (shamt : BitVec 5)
  | lwsp (rd : Reg) (imm : BitVec 6)
  | jr (rs1 : Reg)
  | mv (rd rs2 : Reg)
  | ebreak
  | jalr (rs1 : Reg)
  | add (rd rs2 : Reg)
  | swsp (rs2 : Reg) (imm : BitVec 6)
deriving DecidableEq

def ciType (funct3 : BitVec 3) (bit : BitVec 1) (rd low5 : BitVec 5) (op : BitVec 2) : Code :=
  fields funct3 bit (rd.extractLsb' 3 2) (rd.extractLsb' 0 3) (low5.extractLsb' 3 2)
    (low5.extractLsb' 0 3) op

def immType (funct3 : BitVec 3) (imm : BitVec 6) (rd : Reg) (op : BitVec 2) : Code :=
  ciType funct3 (imm.extractLsb' 5 1) rd (imm.extractLsb' 0 5) op

def wordType (funct3 : BitVec 3) (imm : BitVec 5) (rs1 low : Prime) : Code :=
  fields funct3 (imm.extractLsb' 3 1) (imm.extractLsb' 1 2) rs1
    (imm.extractLsb' 0 1 ++ imm.extractLsb' 4 1) low 0

def cjType (funct3 : BitVec 3) (imm : BitVec 11) : Code :=
  fields funct3 (imm.extractLsb' 10 1) (imm.extractLsb' 3 1 ++ imm.extractLsb' 8 1)
    (imm.extractLsb' 7 1 ++ imm.extractLsb' 9 1 ++ imm.extractLsb' 5 1)
    (imm.extractLsb' 6 1 ++ imm.extractLsb' 2 1) (imm.extractLsb' 0 2 ++ imm.extractLsb' 4 1) 1

def ShiftOp.funct2 : ShiftOp → BitVec 2
  | .srli => 0
  | .srai => 1

def AluOp.funct2 : AluOp → BitVec 2
  | .sub => 0
  | .xor => 1
  | .or => 2
  | .and => 3

def BranchOp.funct3 : BranchOp → BitVec 3
  | .beqz => 0b110
  | .bnez => 0b111

def Instr.encode : Instr → Code
  | .addi4spn rd imm => fields 0b000 (imm.extractLsb' 3 1)
      (imm.extractLsb' 2 1 ++ imm.extractLsb' 7 1) (imm.extractLsb' 4 3)
      (imm.extractLsb' 0 1 ++ imm.extractLsb' 1 1) rd 0
  | .lw rd rs1 imm => wordType 0b010 imm rs1 rd
  | .sw rs1 rs2 imm => wordType 0b110 imm rs1 rs2
  | .addi rd imm => immType 0b000 imm rd 1
  | .jal imm => cjType 0b001 imm
  | .li rd imm => immType 0b010 imm rd 1
  | .addi16sp imm => ciType 0b011 (imm.extractLsb' 5 1) 2 (imm.extractLsb' 0 1 ++
      imm.extractLsb' 2 1 ++ imm.extractLsb' 3 2 ++ imm.extractLsb' 1 1) 1
  | .lui rd imm => immType 0b011 imm rd 1
  | .shift op rd shamt => fields 0b100 0 op.funct2 rd (shamt.extractLsb' 3 2)
      (shamt.extractLsb' 0 3) 1
  | .andi rd imm => fields 0b100 (imm.extractLsb' 5 1) 2 rd (imm.extractLsb' 3 2)
      (imm.extractLsb' 0 3) 1
  | .alu op rd rs2 => fields 0b100 0 3 rd op.funct2 rs2 1
  | .j imm => cjType 0b101 imm
  | .branch op rs1 imm => fields op.funct3 (imm.extractLsb' 7 1) (imm.extractLsb' 2 2) rs1
      (imm.extractLsb' 5 2) (imm.extractLsb' 0 2 ++ imm.extractLsb' 4 1) 1
  | .slli rd shamt => ciType 0b000 0 rd shamt 2
  | .lwsp rd imm => ciType 0b010 (imm.extractLsb' 3 1) rd
      (imm.extractLsb' 0 3 ++ imm.extractLsb' 4 2) 2
  | .jr rs1 => ciType 0b100 0 rs1 0 2
  | .mv rd rs2 => ciType 0b100 0 rd rs2 2
  | .ebreak => ciType 0b100 1 0 0 2
  | .jalr rs1 => ciType 0b100 1 rs1 0 2
  | .add rd rs2 => ciType 0b100 1 rd rs2 2
  | .swsp rs2 imm => ciType 0b110 (imm.extractLsb' 3 1) (imm.extractLsb' 0 3 ++
      imm.extractLsb' 4 2) rs2 2

def Instr.Legal : Instr → Prop
  | .addi4spn _ imm => imm ≠ 0
  | .addi rd imm => rd = 0 ↔ imm = 0
  | .li rd _ => rd ≠ 0
  | .addi16sp imm => imm ≠ 0
  | .lui rd imm => rd ≠ 0 ∧ rd ≠ 2 ∧ imm ≠ 0
  | .shift _ _ shamt => shamt ≠ 0
  | .slli rd shamt => rd ≠ 0 ∧ shamt ≠ 0
  | .lwsp rd _ => rd ≠ 0
  | .jr rs1 | .jalr rs1 => rs1 ≠ 0
  | .mv rd rs2 | .add rd rs2 => rd ≠ 0 ∧ rs2 ≠ 0
  | _ => True

def ShiftOp.wide : ShiftOp → Rv32i.ShiftOp
  | .srli => .srli
  | .srai => .srai

def AluOp.wide : AluOp → RegOp
  | .sub => .sub
  | .xor => .xor
  | .or => .or
  | .and => .and

def BranchOp.wide : BranchOp → Rv32i.BranchOp
  | .beqz => .beq
  | .bnez => .bne

def ebreakWord : Word := 0x00100073

def Instr.expand : Instr → Word
  | .addi4spn rd imm =>
      (Computational.opImm .addi rd.reg 2 ((imm ++ 0#2).setWidth 12)).encode
  | .lw rd rs1 imm => (MemoryInstr.load .lw rd.reg rs1.reg ((imm ++ 0#2).setWidth 12)).encode
  | .sw rs1 rs2 imm => (MemoryInstr.store .sw rs1.reg rs2.reg ((imm ++ 0#2).setWidth 12)).encode
  | .addi rd imm => (Computational.opImm .addi rd rd (imm.signExtend 12)).encode
  | .jal imm => (Control.jal 1 (imm.signExtend 20)).encode
  | .li rd imm => (Computational.opImm .addi rd 0 (imm.signExtend 12)).encode
  | .addi16sp imm => (Computational.opImm .addi 2 2 ((imm ++ 0#4).signExtend 12)).encode
  | .lui rd imm => (Computational.lui rd (imm.signExtend 20)).encode
  | .shift op rd shamt => (Computational.shift op.wide rd.reg rd.reg shamt).encode
  | .andi rd imm => (Computational.opImm .andi rd.reg rd.reg (imm.signExtend 12)).encode
  | .alu op rd rs2 => (Computational.opReg op.wide rd.reg rd.reg rs2.reg).encode
  | .j imm => (Control.jal 0 (imm.signExtend 20)).encode
  | .branch op rs1 imm => (Control.branch op.wide rs1.reg 0 (imm.signExtend 12)).encode
  | .slli rd shamt => (Computational.shift .slli rd rd shamt).encode
  | .lwsp rd imm => (MemoryInstr.load .lw rd 2 ((imm ++ 0#2).setWidth 12)).encode
  | .jr rs1 => (Control.jalr 0 rs1 0).encode
  | .mv rd rs2 => (Computational.opReg .add rd 0 rs2).encode
  | .ebreak => ebreakWord
  | .jalr rs1 => (Control.jalr 1 rs1 0).encode
  | .add rd rs2 => (Computational.opReg .add rd rd rs2).encode
  | .swsp rs2 imm => (MemoryInstr.store .sw 2 rs2 ((imm ++ 0#2).setWidth 12)).encode

@[simp] theorem fields_parts (funct3 : BitVec 3) (bit : BitVec 1) (high : BitVec 2) (low : BitVec 3)
    (high' : BitVec 2) (low' : BitVec 3) (op : BitVec 2) :
    let code := fields funct3 bit high low high' low' op
    code.extractLsb' 0 2 = op ∧ code.extractLsb' 2 3 = low' ∧ code.extractLsb' 5 2 = high' ∧
      code.extractLsb' 7 3 = low ∧ code.extractLsb' 10 2 = high ∧ code.extractLsb' 12 1 = bit ∧
      code.extractLsb' 13 3 = funct3 ∧ code.extractLsb' 2 5 = high' ++ low' ∧
      code.extractLsb' 7 5 = high ++ low ∧ code.getLsbD 12 = bit.getLsbD 0 := by
  refine ⟨?_, ?_, ?_, ?_, ?_, ?_, ?_, ?_, ?_, ?_⟩
  case refine_10 =>
      simp only [fields, BitVec.getLsbD_append]
      simp
  all_goals
    apply BitVec.eq_of_getLsbD_eq
    intro index inside
    simp only [fields, BitVec.getLsbD_extractLsb', BitVec.getLsbD_append]
    interval_cases index <;> simp

theorem code_of_fields (code : Code) :
    ∃ funct3 bit high low high' low' op, code = fields funct3 bit high low high' low' op := by
  refine ⟨code.extractLsb' 13 3, code.extractLsb' 12 1, code.extractLsb' 10 2,
    code.extractLsb' 7 3, code.extractLsb' 5 2, code.extractLsb' 2 3, code.extractLsb' 0 2, ?_⟩
  apply BitVec.eq_of_getLsbD_eq
  intro index inside
  simp only [fields, BitVec.getLsbD_append, BitVec.getLsbD_extractLsb']
  interval_cases index <;> simp

end Rvc
