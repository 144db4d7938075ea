import RiscVFast.Lib.StoreLog
import Mathlib.Logic.Function.Basic

/-! The RV32I user-level instructions: how the architecture encodes them in 32 bits and what
they do to the integer registers, the program counter and a byte-addressed memory. -/

namespace Rv32i

open StoreLog

abbrev Word := BitVec 32
abbrev Reg := BitVec 5
abbrev Regs := Reg → Word

/-! Instruction formats. A branch or jump immediate is the offset without its zero bit. -/

def rType (funct7 : BitVec 7) (rs2 rs1 : Reg) (funct3 : BitVec 3) (rd : Reg)
    (opcode : BitVec 7) : Word :=
  funct7 ++ rs2 ++ rs1 ++ funct3 ++ rd ++ opcode

def iType (imm : BitVec 12) (rs1 : Reg) (funct3 : BitVec 3) (rd : Reg) (opcode : BitVec 7) : Word :=
  imm ++ rs1 ++ funct3 ++ rd ++ opcode

def sType (imm : BitVec 12) (rs2 rs1 : Reg) (funct3 : BitVec 3) (opcode : BitVec 7) : Word :=
  imm.extractLsb' 5 7 ++ rs2 ++ rs1 ++ funct3 ++ imm.extractLsb' 0 5 ++ opcode

def bType (imm : BitVec 12) (rs2 rs1 : Reg) (funct3 : BitVec 3) (opcode : BitVec 7) : Word :=
  imm.extractLsb' 11 1 ++ imm.extractLsb' 4 6 ++ rs2 ++ rs1 ++ funct3 ++ imm.extractLsb' 0 4 ++
    imm.extractLsb' 10 1 ++ opcode

def uType (imm : BitVec 20) (rd : Reg) (opcode : BitVec 7) : Word :=
  imm ++ rd ++ opcode

def jType (imm : BitVec 20) (rd : Reg) (opcode : BitVec 7) : Word :=
  imm.extractLsb' 19 1 ++ imm.extractLsb' 0 10 ++ imm.extractLsb' 10 1 ++ imm.extractLsb' 11 8 ++
    rd ++ opcode

def displacement {width : Nat} (imm : BitVec width) : Word := (imm ++ 0#1).signExtend 32

theorem displacement_toInt {width : Nat} (imm : BitVec width) (fits : width < 32) :
    (displacement imm).toInt = 2 * imm.toInt := by
  rw [displacement, BitVec.toInt_signExtend_of_le fits, BitVec.toInt_append_zero, Int.pow_one]

@[ext] structure Immediates where
  i : Word
  s : Word
  b : Word
  j : Word
deriving DecidableEq

def immediates (word : Word) : Immediates where
  i := (word.extractLsb' 20 12).signExtend 32
  s := (word.extractLsb' 25 7 ++ word.extractLsb' 7 5).signExtend 32
  b := displacement (word.extractLsb' 31 1 ++ word.extractLsb' 7 1 ++ word.extractLsb' 25 6 ++
    word.extractLsb' 8 4)
  j := displacement (word.extractLsb' 31 1 ++ word.extractLsb' 12 8 ++ word.extractLsb' 20 1 ++
    word.extractLsb' 21 10)

structure Reaches (width : Nat) (offset : Word) : Prop where
  even : 2 ∣ offset.toInt
  low : -2 ^ width ≤ offset.toInt
  high : offset.toInt ≤ 2 ^ width - 2

theorem displacement_reaches {width : Nat} (imm : BitVec (width + 1)) (fits : width + 1 < 32) :
    Reaches (width + 1) (displacement imm) where
  even := by
    rw [displacement_toInt imm fits]
    exact Int.dvd_mul_right 2 imm.toInt
  low := by
    rw [displacement_toInt imm fits]
    exact BitVec.le_two_mul_toInt
  high := by
    rw [displacement_toInt imm fits]
    have below : 2 * imm.toInt < 2 ^ (width + 1) := BitVec.two_mul_toInt_lt
    rw [Int.pow_succ] at below ⊢
    omega

def writeReg (regs : Regs) (rd : Reg) (value : Word) : Regs :=
  if rd = 0#5 then regs else Function.update regs rd value

def ofBool (flag : Bool) : Word := if flag then 1 else 0

inductive ImmOp
  | addi | slti | sltiu | xori | ori | andi
deriving DecidableEq

inductive ShiftOp
  | slli | srli | srai
deriving DecidableEq

inductive RegOp
  | add | sub | sll | slt | sltu | xor | srl | sra | or | and
deriving DecidableEq

inductive Computational
  | lui (rd : Reg) (imm : BitVec 20)
  | auipc (rd : Reg) (imm : BitVec 20)
  | nop
  | opImm (op : ImmOp) (rd rs1 : Reg) (imm : BitVec 12)
  | shift (op : ShiftOp) (rd rs1 : Reg) (shamt : BitVec 5)
  | opReg (op : RegOp) (rd rs1 rs2 : Reg)
deriving DecidableEq

def ImmOp.funct3 : ImmOp → BitVec 3
  | .addi => 0b000
  | .slti => 0b010
  | .sltiu => 0b011
  | .xori => 0b100
  | .ori => 0b110
  | .andi => 0b111

def ImmOp.eval : ImmOp → Word → Word → Word
  | .addi, a, b => a + b
  | .slti, a, b => ofBool (a.slt b)
  | .sltiu, a, b => ofBool (a.ult b)
  | .xori, a, b => a ^^^ b
  | .ori, a, b => a ||| b
  | .andi, a, b => a &&& b

def ShiftOp.funct3 : ShiftOp → BitVec 3
  | .slli => 0b001
  | .srli => 0b101
  | .srai => 0b101

def ShiftOp.funct7 : ShiftOp → BitVec 7
  | .srai => 0b0100000
  | _ => 0b0000000

def ShiftOp.eval : ShiftOp → Word → Nat → Word
  | .slli, a, n => a <<< n
  | .srli, a, n => a >>> n
  | .srai, a, n => a.sshiftRight n

def RegOp.funct3 : RegOp → BitVec 3
  | .add | .sub => 0b000
  | .sll => 0b001
  | .slt => 0b010
  | .sltu => 0b011
  | .xor => 0b100
  | .srl | .sra => 0b101
  | .or => 0b110
  | .and => 0b111

def RegOp.funct7 : RegOp → BitVec 7
  | .sub | .sra => 0b0100000
  | _ => 0b0000000

def RegOp.eval : RegOp → Word → Word → Word
  | .add, a, b => a + b
  | .sub, a, b => a - b
  | .sll, a, b => a <<< (b.toNat % 32)
  | .slt, a, b => ofBool (a.slt b)
  | .sltu, a, b => ofBool (a.ult b)
  | .xor, a, b => a ^^^ b
  | .srl, a, b => a >>> (b.toNat % 32)
  | .sra, a, b => a.sshiftRight (b.toNat % 32)
  | .or, a, b => a ||| b
  | .and, a, b => a &&& b

def Computational.encode : Computational → Word
  | .lui rd imm => uType imm rd 0b0110111
  | .auipc rd imm => uType imm rd 0b0010111
  | .nop => 0x00000013
  | .opImm op rd rs1 imm => iType imm rs1 op.funct3 rd 0b0010011
  | .shift op rd rs1 shamt => rType op.funct7 shamt rs1 op.funct3 rd 0b0010011
  | .opReg op rd rs1 rs2 => rType op.funct7 rs2 rs1 op.funct3 rd 0b0110011

def Computational.eval (pc : Word) (regs : Regs) : Computational → Regs
  | .lui rd imm => writeReg regs rd (imm ++ 0#12)
  | .auipc rd imm => writeReg regs rd (pc + (imm ++ 0#12))
  | .nop => regs
  | .opImm op rd rs1 imm => writeReg regs rd (op.eval (regs rs1) (imm.signExtend 32))
  | .shift op rd rs1 shamt => writeReg regs rd (op.eval (regs rs1) shamt.toNat)
  | .opReg op rd rs1 rs2 => writeReg regs rd (op.eval (regs rs1) (regs rs2))

inductive BranchOp
  | beq | bne | blt | bge | bltu | bgeu
deriving DecidableEq

inductive Control
  | jal (rd : Reg) (imm : BitVec 20)
  | jalr (rd rs1 : Reg) (imm : BitVec 12)
  | branch (op : BranchOp) (rs1 rs2 : Reg) (imm : BitVec 12)
deriving DecidableEq

def BranchOp.funct3 : BranchOp → BitVec 3
  | .beq => 0b000
  | .bne => 0b001
  | .blt => 0b100
  | .bge => 0b101
  | .bltu => 0b110
  | .bgeu => 0b111

def BranchOp.taken : BranchOp → Word → Word → Bool
  | .beq, a, b => a == b
  | .bne, a, b => a != b
  | .blt, a, b => a.slt b
  | .bge, a, b => b.sle a
  | .bltu, a, b => a.ult b
  | .bgeu, a, b => b.ule a

def Control.encode : Control → Word
  | .jal rd imm => jType imm rd 0b1101111
  | .jalr rd rs1 imm => iType imm rs1 0b000 rd 0b1100111
  | .branch op rs1 rs2 imm => bType imm rs2 rs1 op.funct3 0b1100011

/-- The sum a register jump aims at, before bit 0 is cleared. -/
def Control.jumpSum (regs : Regs) : Control → Word
  | .jalr _ rs1 imm => regs rs1 + imm.signExtend 32
  | _ => 0

def Control.target (pc next : Word) (regs : Regs) : Control → Word
  | .jal _ imm => pc + displacement imm
  | .jalr rd rs1 imm => Control.jumpSum regs (.jalr rd rs1 imm) &&& ~~~1
  | .branch op rs1 rs2 imm =>
      if op.taken (regs rs1) (regs rs2) then pc + displacement imm else next

def Control.eval (next : Word) (regs : Regs) : Control → Regs
  | .jal rd _ | .jalr rd _ _ => writeReg regs rd next
  | .branch _ _ _ _ => regs

inductive LoadOp
  | lb | lh | lw | lbu | lhu
deriving DecidableEq

inductive StoreOp
  | sb | sh | sw
deriving DecidableEq

inductive MemoryInstr
  | load (op : LoadOp) (rd rs1 : Reg) (imm : BitVec 12)
  | store (op : StoreOp) (rs1 rs2 : Reg) (imm : BitVec 12)
deriving DecidableEq

def LoadOp.funct3 : LoadOp → BitVec 3
  | .lb => 0b000
  | .lh => 0b001
  | .lw => 0b010
  | .lbu => 0b100
  | .lhu => 0b101

def LoadOp.width : LoadOp → Nat
  | .lb | .lbu => 1
  | .lh | .lhu => 2
  | .lw => 4

def LoadOp.extend (op : LoadOp) (byte : Nat → BitVec 8) : Word :=
  match op with
  | .lb => (byte 0).signExtend 32
  | .lh => (byte 1 ++ byte 0).signExtend 32
  | .lw => byte 3 ++ byte 2 ++ byte 1 ++ byte 0
  | .lbu => (byte 0).setWidth 32
  | .lhu => (byte 1 ++ byte 0).setWidth 32

def StoreOp.funct3 : StoreOp → BitVec 3
  | .sb => 0b000
  | .sh => 0b001
  | .sw => 0b010

def StoreOp.width : StoreOp → Nat
  | .sb => 1
  | .sh => 2
  | .sw => 4

def MemoryInstr.encode : MemoryInstr → Word
  | .load op rd rs1 imm => iType imm rs1 op.funct3 rd 0b0000011
  | .store op rs1 rs2 imm => sType imm rs2 rs1 op.funct3 0b0100011

def MemoryInstr.address (regs : Regs) : MemoryInstr → Word
  | .load _ _ rs1 imm | .store _ rs1 _ imm => regs rs1 + imm.signExtend 32

def MemoryInstr.width : MemoryInstr → Nat
  | .load op _ _ _ => op.width
  | .store op _ _ _ => op.width

def StoreOp.bytes (op : StoreOp) (value : Word) : List (BitVec 8) :=
  (List.range op.width).map fun index => value.extractLsb' (8 * index) 8

structure MemoryState where
  regs : Regs
  stores : List (Store 32 (BitVec 8))

/-- A load or a store over the bytes that memory held at first. -/
def MemoryInstr.eval (initial : Word → BitVec 8) (state : MemoryState) (instr : MemoryInstr) :
    MemoryState :=
  let addr := instr.address state.regs
  match instr with
  | .load op rd _ _ =>
      let value := op.extend fun index =>
        latest initial state.stores (addr + BitVec.ofNat 32 index)
      { state with regs := writeReg state.regs rd value }
  | .store op _ rs2 _ =>
      { state with stores := ⟨addr, op.bytes (state.regs rs2)⟩ :: state.stores }

@[simp] theorem writeReg_zero (regs : Regs) (rd : Reg) (value : Word) :
    writeReg regs rd value 0#5 = regs 0#5 := by
  unfold writeReg
  split
  · rfl
  · rename_i nonzero
    exact Function.update_of_ne (Ne.symm nonzero) value regs

theorem clear_update_eq_writeReg (regs : Regs) (zero : regs 0#5 = 0#32) (rd : Reg) (value : Word) :
    Function.update (Function.update regs rd value) 0#5 0#32 = writeReg regs rd value := by
  funext reg
  simp only [writeReg, Function.update_apply]
  by_cases isZero : reg = 0#5
  · subst reg
    by_cases target : rd = 0#5
    · simp [target, zero]
    · simp [target, zero, Function.update_of_ne (Ne.symm target)]
  · by_cases target : rd = 0#5 <;> simp [target, isZero, Function.update_apply]

theorem Computational.eval_zero (pc : Word) (regs : Regs) (instr : Computational) :
    instr.eval pc regs 0#5 = regs 0#5 := by
  cases instr <;> simp [Computational.eval]

theorem Control.eval_zero (next : Word) (regs : Regs) (instr : Control) :
    instr.eval next regs 0#5 = regs 0#5 := by
  cases instr <;> simp [Control.eval]

theorem MemoryInstr.eval_zero (initial : Word → BitVec 8) (state : MemoryState)
    (instr : MemoryInstr) : (instr.eval initial state).regs 0#5 = state.regs 0#5 := by
  cases instr <;> simp [MemoryInstr.eval]

@[simp] theorem StoreOp.length_bytes (op : StoreOp) (value : Word) :
    (op.bytes value).length = op.width := by
  simp [StoreOp.bytes]

end Rv32i
