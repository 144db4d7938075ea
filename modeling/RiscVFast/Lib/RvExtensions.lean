import RiscVFast.Lib.Rv32i

/-! Two extensions of RV32I: the CSR instructions over any set of registers, and integer
multiplication and division. -/

namespace Rv32i

inductive CsrOp
  | csrrw | csrrs | csrrc | csrrwi | csrrsi | csrrci
deriving DecidableEq

def CsrOp.funct3 : CsrOp → BitVec 3
  | .csrrw => 0b001
  | .csrrs => 0b010
  | .csrrc => 0b011
  | .csrrwi => 0b101
  | .csrrsi => 0b110
  | .csrrci => 0b111

def CsrOp.encode (op : CsrOp) (number : BitVec 12) (rd rs1 : Reg) : Word :=
  iType number rs1 op.funct3 rd 0b1110011

def CsrOp.operand (op : CsrOp) (regs : Regs) (rs1 : Reg) : Word :=
  match op with
  | .csrrw | .csrrs | .csrrc => regs rs1
  | .csrrwi | .csrrsi | .csrrci => rs1.setWidth 32

/-- Setting or clearing nothing is no write. -/
def CsrOp.writes (op : CsrOp) (rs1 : Reg) : Bool :=
  match op with
  | .csrrw | .csrrwi => true
  | .csrrs | .csrrc | .csrrsi | .csrrci => rs1 != 0

def CsrOp.combine (op : CsrOp) (old operand : Word) : Word :=
  match op with
  | .csrrw | .csrrwi => operand
  | .csrrs | .csrrsi => old ||| operand
  | .csrrc | .csrrci => old &&& ~~~operand

section Registers

variable {Index : Type} [DecidableEq Index]

/-- The registers after the instruction; it reads the CSR before it writes. -/
def CsrOp.evalRegs (rd : Reg) (index : Index) (regs : Regs) (csrs : Index → Word) : Regs :=
  writeReg regs rd (csrs index)

def CsrOp.evalCsrs (op : CsrOp) (rs1 : Reg) (index : Index) (regs : Regs) (csrs : Index → Word) :
    Index → Word :=
  if op.writes rs1 then
    Function.update csrs index (op.combine (csrs index) (op.operand regs rs1))
  else csrs

end Registers

inductive MulDivOp
  | mul | mulh | mulhsu | mulhu | div | divu | rem | remu
deriving DecidableEq

def MulDivOp.funct3 : MulDivOp → BitVec 3
  | .mul => 0b000
  | .mulh => 0b001
  | .mulhsu => 0b010
  | .mulhu => 0b011
  | .div => 0b100
  | .divu => 0b101
  | .rem => 0b110
  | .remu => 0b111

def MulDivOp.encode (op : MulDivOp) (rd rs1 rs2 : Reg) : Word :=
  rType 0b0000001 rs2 rs1 op.funct3 rd 0b0110011

def upperHalf (product : Int) : Word := BitVec.ofInt 32 (product / 2 ^ 32)

/-- Division rounds toward zero; a quotient that does not fit wraps to the dividend. -/
def MulDivOp.eval (op : MulDivOp) (a b : Word) : Word :=
  match op with
  | .mul => BitVec.ofInt 32 (a.toInt * b.toInt)
  | .mulh => upperHalf (a.toInt * b.toInt)
  | .mulhsu => upperHalf (a.toInt * b.toNat)
  | .mulhu => upperHalf (a.toNat * b.toNat)
  | .div => if b = 0 then BitVec.allOnes 32 else BitVec.ofInt 32 (a.toInt.tdiv b.toInt)
  | .divu => if b = 0 then BitVec.allOnes 32 else BitVec.ofNat 32 (a.toNat / b.toNat)
  | .rem => if b = 0 then a else BitVec.ofInt 32 (a.toInt.tmod b.toInt)
  | .remu => if b = 0 then a else BitVec.ofNat 32 (a.toNat % b.toNat)

def MulDivOp.divides : MulDivOp → Bool
  | .div | .divu | .rem | .remu => true
  | _ => false

def MulDivOp.signedDivision : MulDivOp → Bool
  | .div | .rem => true
  | _ => false

example : MulDivOp.div.eval 0x80000000 0xffffffff = 0x80000000 ∧
    MulDivOp.rem.eval 0x80000000 0xffffffff = 0 := by
  decide

end Rv32i
