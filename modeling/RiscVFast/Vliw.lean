import Mathlib.Data.BitVec

/-! The VLIW instruction format: the opcodes of `VliwTable_rv32.h` and the record of `Cpu.h`. -/

namespace RiscVFast

abbrev Word := BitVec 32
abbrev Byte := BitVec 8

/-- The `VLIW_*` codes of the RV32 build, in table order. `none` marks an empty cache slot. -/
inductive VliwOp
  | none | lui | auipc | j | jal | jr | jalr | beq | bne | blt | bge | bltu | bgeu | lb | lh | lw
  | lbu | lhu | sb | sh | sw | nop | addi | slti | sltiu | xori | ori | andi | slli | srli | srai
  | add | sub | sll | slt | sltu | xor | srl | sra | or | and | fence | ecall | ebreak | sret
  | mret | wfi | fenceI | csrrw | csrrs | csrrc | csrrwi | csrrsi | csrrci | mul | mulh | mulhsu
  | mulhu | div | divu | rem | remu | mulw | divw | divuw | remw | remuw | lrW | scW | amoswapW
  | amoaddW | amoxorW | amoandW | amoorW | amominW | amomaxW | amominuW | amomaxuW | lrD | scD
  | amoswapD | amoaddD | amoxorD | amoandD | amoorD | amominD | amomaxD | amominuD | amomaxuD
  | flw | fsw | fmaddS | fmsubS | fnmsubS | fnmaddS | faddS | fsubS | fmulS | fdivS | fsqrtS
  | fsgnjS | fsgnjnS | fsgnjxS | fminS | fmaxS | fcvtWS | fcvtWuS | fmvXW | feqS | fltS | fleS
  | fclassS | fcvtSW | fcvtSWu | fmvWX | fcvtLS | fcvtLuS | fcvtSL | fcvtSLu | fld | fsd | fmaddD
  | fmsubD | fnmsubD | fnmaddD | faddD | fsubD | fmulD | fdivD | fsqrtD | fsgnjD | fsgnjnD
  | fsgnjxD | fminD | fmaxD | fcvtSD | fcvtDS | feqD | fltD | fleD | fclassD | fcvtWD | fcvtWuD
  | fcvtDW | fcvtDWu | fcvtLD | fcvtLuD | fmvXD | fcvtDL | fcvtDLu | fmvDX | flq | fsq | fmaddQ
  | fmsubQ | fnmsubQ | fnmaddQ | faddQ | fsubQ | fmulQ | fdivQ | fsqrtQ | fsgnjQ | fsgnjnQ
  | fsgnjxQ | fminQ | fmaxQ | fcvtSQ | fcvtQS | fcvtDQ | fcvtQD | feqQ | fltQ | fleQ | fclassQ
  | fcvtWQ | fcvtWuQ | fcvtQW | fcvtQWu | fcvtLQ | fcvtLuQ | fcvtQL | fcvtQLu | illegal
  | cAddi4spn | cFld | cLq | cLw | cFlw | reserved1 | cFsd | cSq | cSw | cFsw | cNop | cAddi
  | cJal | cAddiw | cLi | cAddi16sp | cLui | cSrli | cSrai | cAndi | cSub | cXor | cOr | cAnd
  | cSubw | cAddw | reserved2 | reserved3 | cJ | cBeqz | cBnez | cSlli | cSlli64 | cFldsp | cLqsp
  | cLwsp | cFlwsp | cLdsp | cJr | cMv | cEbreak | cJalr | cAdd | cFsdsp | cSqsp | cSwsp | cFswsp
  | cSdsp
deriving DecidableEq

/-- A decoded instruction. The source keeps register numbers in bytes; the decoders only
ever store five-bit fields there, so the field width carries that bound. -/
structure Vliw where
  opcode : VliwOp
  rd : BitVec 5
  rs1 : BitVec 5
  rs2 : BitVec 5
  imm : Word
deriving DecidableEq

def Vliw.ofOpcode (opcode : VliwOp) : Vliw :=
  { opcode, rd := 0, rs1 := 0, rs2 := 0, imm := 0 }

def Vliw.zero : Vliw := Vliw.ofOpcode .none

def vliwNop : Vliw := Vliw.ofOpcode .nop

end RiscVFast
