import RiscVFast.Disasm
import RiscVFast.Execute
import RiscVFast.Lib.CInt

/-! The translation of instructions to threaded C in `rv_compile.cpp`, as syntax trees of the
statements it prints, and what these statements do. -/

namespace RiscVFast

open CInt
open Rv32i (Immediates)

inductive CVar
  | r (n : BitVec 5)
  | pc
deriving DecidableEq

abbrev CExpr := Expr CVar

inductive MemoryRead
  | read8 | read8u | read16 | read16u | read32
deriving DecidableEq

inductive MemoryWrite
  | write8 | write16 | write32
deriving DecidableEq

inductive Statement
  | label (addr : Word)
  | comment (text : String)
  | assign (target value : CExpr)
  | read (target : CExpr) (function : MemoryRead) (addr : CExpr)
  | write (function : MemoryWrite) (addr value : CExpr)
  | gotoIf (test : CExpr) (target : Word)
  | gotoNext
  | call (function : String) (arguments : List CExpr)

abbrev rvInsnImmediates (insn : Word) : Immediates := signedImmediates insn

def register (n : BitVec 5) : CExpr := .var (.r n)

def registerOrZero (n : BitVec 5) : CExpr := if n = 0 then .decimal 0 else register n

def signed (operand : CExpr) : CExpr := .cast .int operand

def unsigned (operand : CExpr) : CExpr := .cast .unsigned operand

def shiftCount (n : BitVec 5) : CExpr := .binary .bitAnd (register n) (.hex 0x1f)

def flagOf (test : CExpr) : CExpr := .choose test (.decimal 1) (.decimal 0)

def compileAlu (type : BitVec 3) (insn_31_25 : BitVec 7) (rd rs1 rs2 : BitVec 5) :
    List Statement :=
  let assign (value : CExpr) : List Statement := [.assign (register rd) value]
  if insn_31_25 = 0x00 then
    match type with
    | 0 => [.assign (registerOrZero rd)
        (.binary .add (registerOrZero rs1) (registerOrZero rs2))]
    | 1 => assign (.binary .shl (register rs1) (shiftCount rs2))
    | 2 => assign (flagOf (.binary .lt (signed (register rs1)) (signed (register rs2))))
    | 3 => assign (flagOf (.binary .lt (unsigned (register rs1)) (unsigned (register rs2))))
    | 4 => assign (.binary .bitXor (register rs1) (register rs2))
    | 5 => assign (.binary .shr (unsigned (register rs1)) (shiftCount rs2))
    | 6 => assign (.binary .bitOr (register rs1) (register rs2))
    | 7 => assign (.binary .bitAnd (register rs1) (register rs2))
  else if insn_31_25 = 0x20 then
    match type with
    | 0 => assign (.binary .sub (register rs1) (register rs2))
    | 5 => assign (.binary .shr (signed (register rs1)) (shiftCount rs2))
    | _ => []
  else if insn_31_25 = 0x01 then [.comment "TO DO !!!!"]
  else []

def compileAlui (insn : Word) (type : BitVec 3) (insn_31_25 : BitVec 7) (rd rs1 : BitVec 5)
    (imm12 : Word) : List Statement :=
  let assign (value : CExpr) : List Statement := [.assign (register rd) value]
  if type = 5 ∧ insn_31_25 = 0x20 then
    assign (.binary .shr (signed (register rs1)) (.hex (imm12 &&& 0x1f)))
  else
    match type with
    | 0 =>
        if insn = 0x00000013 then [.comment "NOP;"]
        else if imm12 = 0 then [.assign (registerOrZero rd) (registerOrZero rs1)]
        else if rs1 = 0 then [.assign (registerOrZero rd) (.decimal imm12)]
        else [.assign (registerOrZero rd) (.binary .add (registerOrZero rs1) (.decimal imm12))]
    | 1 => assign (.binary .shl (register rs1) (.hex (imm12 &&& 0x1f)))
    | 2 => assign (flagOf (.binary .lt (signed (register rs1)) (signed (.decimal imm12))))
    | 3 => assign (flagOf (.binary .lt (unsigned (register rs1)) (unsigned (.decimal imm12))))
    | 4 => assign (.binary .bitXor (register rs1) (.decimal imm12))
    | 5 => assign (.binary .shr (unsigned (register rs1)) (.hex (imm12 &&& 0x1f)))
    | 6 => assign (.binary .bitOr (register rs1) (.decimal imm12))
    | 7 => assign (.binary .bitAnd (register rs1) (.decimal imm12))

def addressOf (rs1 : BitVec 5) (imm : Word) : CExpr :=
  .binary .add (register rs1) (.decimal imm)

def compileStore (insn : Word) (type : BitVec 3) (rs1 rs2 : BitVec 5) : List Statement :=
  let imm32_S := (rvInsnImmediates insn).s
  let write (function : MemoryWrite) : List Statement :=
    [.write function (addressOf rs1 imm32_S) (register rs2)]
  match type with
  | 0 => write .write8
  | 1 => write .write16
  | 2 => write .write32
  | _ => []

def compileLoad (insn : Word) (type : BitVec 3) (rd rs1 : BitVec 5) : List Statement :=
  let imm32_load := (rvInsnImmediates insn).i
  let read (function : MemoryRead) : List Statement :=
    [.read (register rd) function (addressOf rs1 imm32_load)]
  match type with
  | 0 => read .read8
  | 1 => read .read16
  | 2 => read .read32
  | 4 => read .read8u
  | 5 => read .read16u
  | _ => []

def compileLink (rd : BitVec 5) (save_pc : Word) : List Statement :=
  if rd ≠ 0 then [.assign (register rd) (.hex save_pc)] else []

def compileJal (pc insn : Word) (rd : BitVec 5) : List Statement :=
  let imm32_j := (rvInsnImmediates insn).j
  let save_pc := pc + 4
  [.assign (.var .pc) (.hex (pc + imm32_j))] ++ compileLink rd save_pc ++ [.gotoNext]

def compileJalr (pc : Word) (rd rs1 : BitVec 5) (imm12 : Word) : List Statement :=
  let save_pc := pc + 4
  let target := if imm12 = 0 then register rs1 else addressOf rs1 imm12
  [.assign (.var .pc) target] ++ compileLink rd save_pc ++ [.gotoNext]

def compileBranch (pc insn : Word) (type : BitVec 3) (rs1 rs2 : BitVec 5) : List Statement :=
  let simm12 := (rvInsnImmediates insn).b
  let ss1 := registerOrZero rs1
  let ss2 := registerOrZero rs2
  let branch (test : CExpr) : List Statement := [.gotoIf test (pc + simm12)]
  match type with
  | 0 => branch (.binary .eq ss1 ss2)
  | 1 => branch (.binary .ne ss1 ss2)
  | 4 => branch (.binary .lt (signed ss1) (signed ss2))
  | 5 => branch (.binary .ge (signed ss1) (signed ss2))
  | 6 => branch (.binary .lt (unsigned ss1) (unsigned ss2))
  | 7 => branch (.binary .ge (unsigned ss1) (unsigned ss2))
  | _ => []

def compileSystem (doNewlib : Bool) (insn : Word) (type : BitVec 3) (rd rs1 : BitVec 5) :
    List Statement :=
  if type = 0 ∨ type = 4 then
    if insn = 0x00000073 then [.call (if doNewlib then "syscall" else "ecall") []]
    else if insn = 0x00100073 then [.call "ebreak" []]
    else if insn = 0x10200073 then [.call "sret" []]
    else if insn = 0x30200073 then [.call "mret" []]
    else if insn = 0x10500073 then [.call "wfi" []]
    else [.comment "Unknown System Instruction - ???"]
  else
    let csr := insn >>> 20
    let number (field : BitVec 5) : CExpr := .decimal (field.setWidth 32)
    let operand := if type.ult 4 then register rs1 else .hex (rs1.setWidth 32)
    [.call "csr_insn"
      [.decimal ((type &&& 0x3).setWidth 32), .hex csr, number rd, number rs1, operand]]

/-- `rv_insn` without `add_debug`; the comment with the disassembly is left out. -/
def rvInsn (doNewlib : Bool) (pc insn : Word) : List Statement :=
  let opcode : BitVec 7 := insn.extractLsb' 0 7
  let rd : BitVec 5 := insn.extractLsb' 7 5
  let rs1 : BitVec 5 := insn.extractLsb' 15 5
  let rs2 : BitVec 5 := insn.extractLsb' 20 5
  let type : BitVec 3 := insn.extractLsb' 12 3
  let insn_31_25 : BitVec 7 := insn.extractLsb' 25 7
  let imm12 := (rvInsnImmediates insn).i
  .label pc ::
    match opcode with
    | 0x33 => compileAlu type insn_31_25 rd rs1 rs2
    | 0x13 => compileAlui insn type insn_31_25 rd rs1 imm12
    | 0x23 => compileStore insn type rs1 rs2
    | 0x03 => compileLoad insn type rd rs1
    | 0x37 => [.assign (register rd) (.hex (insn &&& 0xfffff000))]
    | 0x17 => [.assign (register rd) (.hex (pc + (insn &&& 0xfffff000)))]
    | 0x6f => compileJal pc insn rd
    | 0x67 => compileJalr pc rd rs1 imm12
    | 0x63 => compileBranch pc insn type rs1 rs2
    | 0x73 => compileSystem doNewlib insn type rd rs1
    | _ => []

def Machine.variable (s : Machine) : CVar → Word
  | .r n => s.cpu.reg n
  | .pc => s.cpu.pc

def Machine.assign (s : Machine) (target : CExpr) (value : Word) : Option Machine :=
  match target with
  | .var (.r n) => some (s.setReg n value)
  | .var .pc => some { s with cpu.pc := value }
  | _ => none

def MemoryRead.run (cfg : Config) (function : MemoryRead) (s : Machine) (addr : Word) :
    Except Abort (Word × Machine) :=
  match function with
  | .read8 => (s.memory.read8 addr).map fun value => (value, s)
  | .read8u => (s.memory.read8u addr).map fun value => (value, s)
  | .read16 => (s.memory.read16 addr).map fun value => (value, s)
  | .read16u => (s.memory.read16u addr).map fun value => (value, s)
  | .read32 => RiscVFast.read32 cfg s addr

def MemoryWrite.run (cfg : Config) (function : MemoryWrite) (s : Machine) (addr value : Word) :
    Except Abort Machine :=
  match function with
  | .write8 => RiscVFast.write8 cfg s addr value
  | .write16 => RiscVFast.write16 cfg s addr value
  | .write32 => RiscVFast.write32 cfg s addr value

/-- The machine after the statement, and the target of a jump. Undefined behaviour, a refused
access and the calls to the run-time system have no result. -/
def Statement.run (cfg : Config) (s : Machine) : Statement → Option (Machine × Option Word)
  | .label _ => some (s, none)
  | .comment _ => some (s, none)
  | .assign target value => do
      let value ← value.eval s.variable
      let s ← s.assign target value.bits
      some (s, none)
  | .read target function addr => do
      let addr ← addr.eval s.variable
      let result ← (function.run cfg s addr.bits).toOption
      let s ← result.2.assign target result.1
      some (s, none)
  | .write function addr value => do
      let addr ← addr.eval s.variable
      let value ← value.eval s.variable
      let s ← (function.run cfg s addr.bits value.bits).toOption
      some (s, none)
  | .gotoIf test target => do
      let flag ← test.eval s.variable
      some (s, if flag.bits ≠ 0 then some target else none)
  | .gotoNext => some (s, some s.cpu.pc)
  | .call _ _ => none

def runStatements (cfg : Config) : List Statement → Machine → Option (Machine × Option Word)
  | [], s => some (s, none)
  | statement :: rest, s => do
      let result ← statement.run cfg s
      match result.2 with
      | none => runStatements cfg rest result.1
      | some target => some (result.1, some target)

/-- The code of the instruction at `pc`: the machine and the address it goes on at, the next
label when no statement jumps. -/
def runThreaded (cfg : Config) (pc : Word) (statements : List Statement) (s : Machine) :
    Option (Machine × Word) :=
  (runStatements cfg statements s).map fun result => (result.1, result.2.getD (pc + 4))

end RiscVFast
