import RiscVFast.Lib.AsmText
import RiscVFast.Lib.Rv32i
import RiscVFast.Vliw

/-! The disassembler of `rv_disasm.cpp`, with the names of `rv_csr.cpp`. -/

namespace RiscVFast

open AsmText
open Rv32i (Immediates)

def rn (n : BitVec 5) : String :=
  ["zero", "ra", "sp", "gp", "tp", "t0", "t1", "t2", "s0", "s1", "a0", "a1", "a2", "a3", "a4", "a5",
    "a6", "a7", "s2", "s3", "s4", "s5", "s6", "s7", "s8", "s9", "s10", "s11", "t3", "t4", "t5",
    "t6"].getD n.toNat ""

def aluName (type : BitVec 3) : String :=
  ["add", "sll", "slt", "sltu", "xor", "srl", "or", "and"].getD type.toNat ""

def alu2Name (type : BitVec 3) : String :=
  ["sub", "???", "???", "???", "???", "sra", "???", "???"].getD type.toNat ""

def aluiName (type : BitVec 3) : String :=
  ["addi", "slli", "slti", "sltiu", "xori", "srli", "ori", "andi"].getD type.toNat ""

def alui2Name (type : BitVec 3) : String :=
  ["???", "???", "???", "???", "???", "srai", "???", "???"].getD type.toNat ""

def storeName (type : BitVec 3) : String :=
  ["sb", "sh", "sw", "???", "???", "???", "???", "???"].getD type.toNat ""

def loadName (type : BitVec 3) : String :=
  ["lb", "lh", "lw", "???", "lbu", "lhu", "???", "???"].getD type.toNat ""

def braName (type : BitVec 3) : String :=
  ["beq", "bne", "???", "???", "blt", "bge", "bltu", "bgeu"].getD type.toNat ""

def brazName (type : BitVec 3) : String :=
  ["beqz", "bnez", "???", "???", "bltz", "bgez", "bltuz", "bgeuz"].getD type.toNat ""

def braziName (type : BitVec 3) : String :=
  ["???", "???", "???", "???", "bgtz", "blez", "???", "???"].getD type.toNat ""

def csrOpname (type : BitVec 3) : String :=
  ["???", "csrrw", "csrrs", "csrrc", "???", "csrrwi", "csrrsi", "csrrci"].getD type.toNat ""

def mulName (type : BitVec 3) : String :=
  ["mul", "mulh", "mulhsu", "mulhu", "div", "divu", "rem", "remu"].getD type.toNat ""

/-- `csr_t` without the access and the description, which only its listing would show. -/
structure CsrEntry where
  csr : Nat
  name : String
deriving DecidableEq

/-- `csr_table`. -/
def csrNameTable : List CsrEntry := [
  ⟨0x001, "fflags"⟩, ⟨0x002, "frm"⟩, ⟨0x003, "fcsr"⟩, ⟨0xc00, "cycle"⟩, ⟨0xc01, "time"⟩,
  ⟨0xc02, "instret"⟩, ⟨0xc03, "hpmcounter3"⟩, ⟨0xc04, "hpmcounter4"⟩, ⟨0xc1f, "hpmcounter31"⟩,
  ⟨0xc80, "cycleh"⟩, ⟨0xc81, "timeh"⟩, ⟨0xc82, "instreth"⟩, ⟨0xc83, "hpmcounter3h"⟩,
  ⟨0xc84, "hpmcounter4h"⟩, ⟨0xc9f, "hpmcounter31h"⟩, ⟨0x100, "sstatus"⟩, ⟨0x104, "sie"⟩,
  ⟨0x105, "stvec"⟩, ⟨0x106, "scounteren"⟩, ⟨0x10a, "senvcfg"⟩, ⟨0x140, "sscratch"⟩, ⟨0x141, "sepc"⟩,
  ⟨0x142, "scause"⟩, ⟨0x143, "stval"⟩, ⟨0x144, "sip"⟩, ⟨0x180, "satp"⟩, ⟨0x5a8, "scontext"⟩,
  ⟨0x600, "hstatus"⟩, ⟨0x602, "hedeleg"⟩, ⟨0x603, "hideleg"⟩, ⟨0x604, "hie"⟩, ⟨0x606, "hcounteren"⟩,
  ⟨0x607, "hgeie"⟩, ⟨0x643, "htval"⟩, ⟨0x644, "hip"⟩, ⟨0x645, "hvip"⟩, ⟨0x64a, "htinst"⟩,
  ⟨0xe12, "hgeip"⟩, ⟨0x60a, "henvcfg"⟩, ⟨0x61a, "henvcfgh"⟩, ⟨0x680, "hgatp"⟩, ⟨0x6a8, "hcontext"⟩,
  ⟨0x605, "htimedelta"⟩, ⟨0x615, "htimedeltah"⟩, ⟨0x200, "vsstatus"⟩, ⟨0x204, "vsie"⟩,
  ⟨0x205, "vstvec"⟩, ⟨0x240, "vsscratch"⟩, ⟨0x241, "vsepc"⟩, ⟨0x242, "vscause"⟩, ⟨0x243, "vstval"⟩,
  ⟨0x244, "vsip"⟩, ⟨0x280, "vsatp"⟩, ⟨0xf11, "mvendorid"⟩, ⟨0xf12, "marchid"⟩, ⟨0xf13, "mimpid"⟩,
  ⟨0xf14, "mhartid"⟩, ⟨0xf15, "mconfigptr"⟩, ⟨0x300, "mstatus"⟩, ⟨0x301, "misa"⟩,
  ⟨0x302, "medeleg"⟩, ⟨0x303, "mideleg"⟩, ⟨0x304, "mie"⟩, ⟨0x305, "mtvec"⟩, ⟨0x306, "mcounteren"⟩,
  ⟨0x310, "mstatush"⟩, ⟨0x340, "mscratch"⟩, ⟨0x341, "mepc"⟩, ⟨0x342, "mcause"⟩, ⟨0x343, "mtval"⟩,
  ⟨0x344, "mip"⟩, ⟨0x34a, "mtinst"⟩, ⟨0x34b, "mtval2"⟩, ⟨0x30a, "menvcfg"⟩, ⟨0x31a, "menvcfgh"⟩,
  ⟨0x747, "mseccfg"⟩, ⟨0x757, "mseccfgh"⟩, ⟨0x3a0, "pmpcfg0"⟩, ⟨0x3a1, "pmpcfg1"⟩,
  ⟨0x3a2, "pmpcfg2"⟩, ⟨0x3a3, "pmpcfg3"⟩, ⟨0x3ae, "pmpcfg14"⟩, ⟨0x3af, "pmpcfg15"⟩,
  ⟨0x3b0, "pmpaddr0"⟩, ⟨0x3b1, "pmpaddr1"⟩, ⟨0x3ef, "pmpaddr63"⟩, ⟨0xb00, "mcycle"⟩,
  ⟨0xb02, "minstret"⟩, ⟨0xb03, "mhpmcounter3"⟩, ⟨0xb04, "mhpmcounter4"⟩, ⟨0xb1f, "mhpmcounter31"⟩,
  ⟨0xb80, "mcycleh"⟩, ⟨0xb82, "minstreth"⟩, ⟨0xb83, "mhpmcounter3h"⟩, ⟨0xb84, "mhpmcounter4h"⟩,
  ⟨0xb9f, "mhpmcounter31h"⟩, ⟨0x320, "mcountinhibit"⟩, ⟨0x323, "mhpmevent3"⟩, ⟨0x324, "mhpmevent4"⟩,
  ⟨0x33f, "mhpmevent31"⟩, ⟨0x7a0, "tselect"⟩, ⟨0x7a1, "tdata1"⟩, ⟨0x7a2, "tdata2"⟩,
  ⟨0x7a3, "tdata3"⟩, ⟨0x7a8, "mcontext"⟩, ⟨0x7b0, "dcsr"⟩, ⟨0x7b1, "dpc"⟩, ⟨0x7b2, "dscratch0"⟩,
  ⟨0x7b3, "dscratch1"⟩, ⟨0xcc0, "rand"⟩]

def csrName (csr : Nat) : String :=
  match csrNameTable.find? (·.csr == csr) with
  | some cp => cp.name
  | none => "0x" ++ printPadded 3 16 csr

def line (mnemonic : String) (operands : List String) : String := Line.print ⟨mnemonic, operands⟩

/-- `%d`. -/
def decimal (value : Word) : String := printSigned value.toInt

/-- `%x`. -/
def hexadecimal (value : Word) : String := printNumeral 16 value.toNat

/-- The immediates by the lines that `disasm` and `rv_insn` both have: `imm12` and `imm32_load`,
`imm32_S`, `simm12` and `imm32_j`. -/
def signedImmediates (insn : Word) : Immediates where
  i := insn.sshiftRight 20
  s :=
    let f1 := insn.sshiftRight 20 &&& 0xffffffe0
    let f2 := (insn >>> 7) &&& 0x0000001f
    f1 ||| f2
  b :=
    let f1 := (insn >>> 25) &&& 0x0000007f
    let b1 := (f1 >>> 6) &&& 0x01
    let b2 := (f1 >>> 0) &&& 0x3f
    let f2 := (insn >>> 7) &&& 0x0000007f
    let b3 := (f2 >>> 1) &&& 0x0f
    let b4 := (f2 >>> 0) &&& 0x01
    let simm12 := (b1 <<< 12) ||| (b2 <<< 5) ||| (b3 <<< 1) ||| (b4 <<< 11)
    (simm12 <<< 19).sshiftRight 19
  j :=
    let field := insn.sshiftRight 12 &&& 0x000fffff
    let f1 := (field >>> 0) &&& 0xff
    let f2 := (field >>> 8) &&& 0x01
    let f3 := (field >>> 9) &&& 0x3ff
    let f4 := (field >>> 19) &&& 0x01
    let imm32_j := (f4 <<< 20) ||| (f3 <<< 1) ||| (f2 <<< 11) ||| (f1 <<< 12)
    (imm32_j <<< 11).sshiftRight 11

abbrev disasmImmediates (insn : Word) : Immediates := signedImmediates insn

def disasmAlu (type : BitVec 3) (insn_31_25 : BitVec 7) (rd rs1 rs2 : BitVec 5) : String :=
  if insn_31_25 = 0x00 then
    if type = 3 ∧ rs1 = 0 then line "snez" [rn rd, rn rs2]
    else if type = 2 ∧ rs1 = 0 then line "sgtz" [rn rd, rn rs2]
    else line (aluName type) [rn rd, rn rs1, rn rs2]
  else if insn_31_25 = 0x20 then
    if type = 0 ∧ rs1 = 0 then line "neg" [rn rd, rn rs2]
    else line (alu2Name type) [rn rd, rn rs1, rn rs2]
  else if insn_31_25 = 0x01 then line (mulName type) [rn rd, rn rs1, rn rs2]
  else "???"

def disasmAlui (insn : Word) (type : BitVec 3) (insn_31_25 : BitVec 7) (rd rs1 : BitVec 5)
    (imm12 : Word) : String :=
  if insn = 0x00000013 then "nop"
  else if type = 0 ∧ rs1 = 0 then line "li" [rn rd, decimal imm12]
  else if type = 0 ∧ imm12 = 0 then line "mv" [rn rd, rn rs1]
  else if type = 1 ∨ type = 5 then
    if insn_31_25 = 0x00 then
      line (aluiName type) [rn rd, rn rs1, "0x" ++ hexadecimal (imm12 &&& 0x1f)]
    else if insn_31_25 = 0x20 then
      line (alui2Name type) [rn rd, rn rs1, "0x" ++ hexadecimal (imm12 &&& 0x1f)]
    else "???"
  else if type = 4 ∧ imm12 = -1 then line "not" [rn rd, rn rs1]
  else if type = 7 ∧ imm12 = 255 then line "zext.b" [rn rd, rn rs1]
  else if type = 3 ∧ imm12 = 1 then line "seqz" [rn rd, rn rs1]
  else line (aluiName type) [rn rd, rn rs1, decimal imm12]

def disasmStore (insn : Word) (type : BitVec 3) (rs1 rs2 : BitVec 5) : String :=
  let imm32_S := (disasmImmediates insn).s
  line (storeName type) [rn rs2, printMemory (decimal imm32_S) (rn rs1)]

def disasmLoad (insn : Word) (type : BitVec 3) (rd rs1 : BitVec 5) : String :=
  let imm32_load := (disasmImmediates insn).i
  line (loadName type) [rn rd, printMemory (decimal imm32_load) (rn rs1)]

def disasmJal (pc insn : Word) (rd : BitVec 5) : String :=
  let imm32_j := (disasmImmediates insn).j
  if rd = 0 then line "j" [hexadecimal (pc + imm32_j)]
  else line "jal" [rn rd, hexadecimal (pc + imm32_j)]

def disasmJalr (insn : Word) (rd rs1 : BitVec 5) (imm12 : Word) : String :=
  if insn = 0x00008067 then "ret"
  else if rd = 0 ∧ imm12 = 0 then line "jr" [rn rs1]
  else if rd = 1 ∧ imm12 = 0 then line "jalr" [rn rs1]
  else if rd = 0 then line "jr" [printMemory (decimal imm12) (rn rs1)]
  else if rd = 1 then line "jalr" [printMemory (decimal imm12) (rn rs1)]
  else line "jalr" [rn rd, printMemory (decimal imm12) (rn rs1)]

def disasmBranch (pc insn : Word) (type : BitVec 3) (rs1 rs2 : BitVec 5) : String :=
  let simm12 := (disasmImmediates insn).b
  if rs2 = 0 then line (brazName type) [rn rs1, hexadecimal (pc + simm12)]
  else if rs1 = 0 then line (braziName type) [rn rs2, hexadecimal (pc + simm12)]
  else line (braName type) [rn rs1, rn rs2, hexadecimal (pc + simm12)]

def disasmSystem (insn : Word) (type : BitVec 3) (rd rs1 : BitVec 5) : String :=
  if type = 0 ∨ type = 4 then
    if insn = 0x00000073 then "ecall"
    else if insn = 0x00100073 then "ebreak"
    else if insn = 0x10200073 then "sret"
    else if insn = 0x30200073 then "mret"
    else if insn = 0x10500073 then "wfi"
    else "???"
  else
    let csr := (insn >>> 20).toNat
    if type = 1 ∧ rd = 0 then line "csrw" [csrName csr, rn rs1]
    else if type = 2 ∧ rs1 = 0 then
      if csr = 0xc01 then line "rdtime" [rn rd]
      else if csr = 0xc81 then line "rdtimeh" [rn rd]
      else line "csrr" [rn rd, csrName csr]
    else if type = 3 ∧ rd = 0 then line "csrc" [csrName csr, rn rs1]
    else if type.ult 4 then line (csrOpname type) [csrName csr, rn rd, rn rs1]
    else line (csrOpname type) [csrName csr, rn rd, hexadecimal (rs1.setWidth 32)]

def disasm (pc insn : Word) : String :=
  let opcode : BitVec 7 := insn.extractLsb' 0 7
  let rd : BitVec 5 := insn.extractLsb' 7 5
  let rs1 : BitVec 5 := insn.extractLsb' 15 5
  let rs2 : BitVec 5 := insn.extractLsb' 20 5
  let type : BitVec 3 := insn.extractLsb' 12 3
  let insn_31_25 : BitVec 7 := insn.extractLsb' 25 7
  let imm12 := (disasmImmediates insn).i
  match opcode with
  | 0x33 => disasmAlu type insn_31_25 rd rs1 rs2
  | 0x13 => disasmAlui insn type insn_31_25 rd rs1 imm12
  | 0x23 => disasmStore insn type rs1 rs2
  | 0x03 => disasmLoad insn type rd rs1
  | 0x37 => line "lui" [rn rd, "0x" ++ hexadecimal (insn >>> 12)]
  | 0x17 => line "auipc" [rn rd, "0x" ++ hexadecimal (insn >>> 12)]
  | 0x6f => disasmJal pc insn rd
  | 0x67 => disasmJalr insn rd rs1 imm12
  | 0x63 => disasmBranch pc insn type rs1 rs2
  | 0x73 => disasmSystem insn type rd rs1
  | _ => ""

example : disasm 0x100 0x00a00463 = "??? a0,108" := by
  decide +kernel

end RiscVFast
