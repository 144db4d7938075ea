import RiscVFast.OpTable
import Mathlib.Logic.Function.Basic

/-! The instruction decoder of `Decode.cpp` and `Compressed.cpp`. -/

namespace RiscVFast

/-- The ways the simulator ends without finishing an operation. The source prints the message
and exits; `outOfBuffer` and `divideError` are the two where the host itself misbehaves. -/
inductive Abort
  | fatal (fmt : String) (value : Word)
  | unknownItem (item : String)
  | unknownOp (opcode : VliwOp)
  | exit (code : Int) (fmt : String) (value : Word)
  | outOfBuffer
  | divideError
deriving DecidableEq

def doJoff (code : Word) : Word :=
  let field := (code >>> 12) &&& 0x000fffff
  let f1 := (field >>> 0) &&& 0xff
  let f2 := (field >>> 8) &&& 0x01
  let f3 := (field >>> 9) &&& 0x3ff
  let f4 := (field >>> 19) &&& 0x01
  (f4 <<< 20) ||| (f3 <<< 1) ||| (f2 <<< 11) ||| (f1 <<< 12)

def joffImm (code : Word) : Word :=
  let imm20 := doJoff code
  if imm20 &&& 0x00100000 ≠ 0 then imm20 ||| 0xffe00000 else imm20

def doBoff (code : Word) : Word :=
  let f1 := (code >>> 25) &&& 0x0000007f
  let b1 := (f1 >>> 6) &&& 0x01
  let b2 := (f1 >>> 0) &&& 0x3f
  let f2 := (code >>> 7) &&& 0x0000007f
  let b3 := (f2 >>> 1) &&& 0x0f
  let b4 := (f2 >>> 0) &&& 0x01
  let imm12 := (b1 <<< 12) ||| (b2 <<< 5) ||| (b3 <<< 1) ||| (b4 <<< 11)
  if imm12 &&& 0x00001000 ≠ 0 then imm12 ||| 0xfffff000 else imm12

def mkSimm12 (code : Word) : Word :=
  let imm12 := (code >>> 20) &&& 0x00000fff
  if imm12 &&& 0x00000800 ≠ 0 then imm12 ||| 0xfffff000 else imm12

def doS2imm12 (code : Word) : Word :=
  let f1 := (code >>> 25) &&& 0x0000007f
  let f2 := (code >>> 7) &&& 0x0000001f
  let imm12 := (f1 <<< 5) ||| f2
  if imm12 &&& 0x00000800 ≠ 0 then imm12 ||| 0xfffff000 else imm12

def isSeparator (c : Char) : Bool := c == ',' || c.isWhitespace

/-- The cut of `asmText` into items; a separator at the very end opens no further item. -/
def splitItems : List Char → List (List Char)
  | [] => [[]]
  | c :: rest =>
      if isSeparator c then
        if rest.isEmpty then [[]] else [] :: splitItems rest
      else
        match splitItems rest with
        | [] => [[c]]
        | item :: items => (c :: item) :: items

def Optable.items (row : Optable) : List String :=
  (splitItems row.asmText.toList).map String.ofList

def decodeItem (code : Word) (vlp : Vliw) (item : String) : Except Abort Vliw :=
  if item = "rd" then .ok { vlp with rd := code.extractLsb' 7 5 }
  else if item = "rs" ∨ item = "rs1" then .ok { vlp with rs1 := code.extractLsb' 15 5 }
  else if item = "rs2" then .ok { vlp with rs2 := code.extractLsb' 20 5 }
  else if item = "shamt" then .ok { vlp with imm := (code >>> 20) &&& 0x1f }
  else if item = "shamt6" then .ok { vlp with imm := (code >>> 20) &&& 0x3f }
  else if item = "boff" then .ok { vlp with imm := doBoff code }
  else if item = "joff" then .ok { vlp with imm := joffImm code }
  else if item = "simm12" then .ok { vlp with imm := mkSimm12 code }
  else if item = "s2imm12" then .ok { vlp with imm := doS2imm12 code }
  else if item = "imm20" then
    let imm := (code >>> 12) &&& 0x000fffff
    .ok { vlp with imm := if imm &&& 0x00080000 ≠ 0 then imm ||| 0xfff00000 else imm }
  else if item = "imm12" then .ok { vlp with imm := (code >>> 12) &&& 0x000fffff }
  else if item = "uimm5" then .ok { vlp with rs1 := code.extractLsb' 15 5 }
  else if item = "csr" then .ok { vlp with imm := (code >>> 20) &&& 0x00000fff }
  else .error (.unknownItem item)

/-- The item loop, over every item but the mnemonic. -/
def decodeItems (code : Word) : List String → Vliw → Except Abort Vliw
  | [], vlp => .ok vlp
  | item :: items, vlp => do decodeItems code items (← decodeItem code vlp item)

def Optable.decode (row : Optable) (code : Word) : Except Abort Vliw :=
  decodeItems code row.items.tail (Vliw.ofOpcode row.vliw)

structure HashElement where
  code32 : Word
  vliw : Vliw
deriving DecidableEq

structure DecodeTables where
  vliwHashTable : BitVec 16 → HashElement
  fastTable : BitVec 16 → Option Vliw

def DecodeTables.empty : DecodeTables where
  vliwHashTable := fun _ => ⟨0, Vliw.zero⟩
  fastTable := fun _ => none

def hashIt (code32 : Word) : BitVec 16 := (code32 + (code32 >>> 16)).setWidth 16

def hashLookup (tables : DecodeTables) (code32 : Word) : Option Vliw :=
  let hp := tables.vliwHashTable (hashIt code32)
  if hp.code32 ≠ code32 then none else some hp.vliw

def hashAdd (tables : DecodeTables) (code32 : Word) (vlp : Vliw) : DecodeTables :=
  { tables with vliwHashTable := Function.update tables.vliwHashTable (hashIt code32) ⟨code32, vlp⟩ }

def fastAdd (tables : DecodeTables) (code16 : BitVec 16) (vlp : Vliw) : DecodeTables :=
  { tables with fastTable := Function.update tables.fastTable code16 (some vlp) }

def mkImm6 (code : Word) : Word :=
  let b5 := (code >>> 12) &&& 0x1
  let b4_0 := (code >>> 2) &&& 0x1f
  let imm := (b5 <<< 5) ||| (b4_0 <<< 0)
  if imm &&& 0x00000020 ≠ 0 then imm ||| 0xffffffc0 else imm

def jalOff (code : Word) : Word :=
  let b5 := (code >>> 2) &&& 0x1
  let b3_1 := (code >>> 3) &&& 0x7
  let b7 := (code >>> 6) &&& 0x1
  let b6 := (code >>> 7) &&& 0x1
  let b10 := (code >>> 8) &&& 0x1
  let b9_8 := (code >>> 9) &&& 0x3
  let b4 := (code >>> 11) &&& 0x1
  let b11 := (code >>> 12) &&& 0x1
  let imm := (b11 <<< 11) ||| (b10 <<< 10) ||| (b9_8 <<< 8) ||| (b7 <<< 7) ||| (b6 <<< 6) |||
    (b5 <<< 5) ||| (b4 <<< 4) ||| (b3_1 <<< 1)
  if b11 ≠ 0 then imm ||| 0xfffff000 else imm

def mkLwsp (code : Word) : Word :=
  let b5 := (code >>> 12) &&& 0x1
  let b4_2 := (code >>> 4) &&& 0x7
  let b7_6 := (code >>> 2) &&& 0x3
  (b7_6 <<< 6) ||| (b5 <<< 5) ||| (b4_2 <<< 2)

def mkAddi (code : Word) : Word :=
  let b5 := (code >>> 12) &&& 0x1
  let b4_0 := (code >>> 2) &&& 0x1f
  let imm := (b5 <<< 5) ||| (b4_0 <<< 0)
  if imm &&& 0x00000020 ≠ 0 then imm ||| 0xffffffc0 else imm

def mkShamt (code : Word) : Word :=
  let b5 := (code >>> 12) &&& 0x1
  let b4_0 := (code >>> 2) &&& 0x1f
  (b5 <<< 5) ||| (b4_0 <<< 0)

def mkAddi16sp (code : Word) : Word :=
  let b9 := (code >>> 12) &&& 0x1
  let b4 := (code >>> 6) &&& 0x1
  let b6 := (code >>> 5) &&& 0x1
  let b8_7 := (code >>> 3) &&& 0x3
  let b5 := (code >>> 2) &&& 0x1
  let imm := (b9 <<< 9) ||| (b8_7 <<< 7) ||| (b6 <<< 6) ||| (b5 <<< 5) ||| (b4 <<< 4)
  if imm &&& 0x00000200 ≠ 0 then imm ||| 0xfffffc00 else imm

def mkAddi4spn (code : Word) : Word :=
  let b5_4 := (code >>> 11) &&& 0x3
  let b9_6 := (code >>> 7) &&& 0xf
  let b2 := (code >>> 6) &&& 0x1
  let b3 := (code >>> 5) &&& 0x1
  (b9_6 <<< 6) ||| (b5_4 <<< 4) ||| (b3 <<< 3) ||| (b2 <<< 2)

def mkBeq (code : Word) : Word :=
  let b8 := (code >>> 12) &&& 0x1
  let b4_3 := (code >>> 10) &&& 0x3
  let b7_6 := (code >>> 5) &&& 0x3
  let b2_1 := (code >>> 3) &&& 0x3
  let b5 := (code >>> 2) &&& 0x1
  let imm := (b8 <<< 8) ||| (b7_6 <<< 6) ||| (b5 <<< 5) ||| (b4_3 <<< 3) ||| (b2_1 <<< 1)
  if b8 ≠ 0 then imm ||| 0xfffffe00 else imm

/-- The offset of `c.lw` and `c.sw`; the source extends its sign. -/
def mkSw (code : Word) : Word :=
  let b5_3 := (code >>> 10) &&& 0x7
  let b2 := (code >>> 6) &&& 0x1
  let b6 := (code >>> 5) &&& 0x1
  let imm := (b6 <<< 6) ||| (b5_3 <<< 3) ||| (b2 <<< 2)
  if b6 ≠ 0 then imm ||| 0xffffffc0 else imm

def mkSwsp (code : Word) : Word :=
  let b5_2 := (code >>> 9) &&& 0xf
  let b7_6 := (code >>> 7) &&& 0x3
  (b7_6 <<< 6) ||| (b5_2 <<< 2)

/-- `regMap3`: a three-bit register field names `x8` to `x15`. -/
def regMap3 (field : BitVec 3) : BitVec 5 := 8 + field.setWidth 5

/-- The opcode switch of `decodeCompressed`, in the RV32 build. -/
def expandCompressed (opcode : VliwOp) (code : Word) : Except Abort Vliw :=
  let r3b2 := regMap3 (code.extractLsb' 2 3)
  let r3b7 := regMap3 (code.extractLsb' 7 3)
  let r5b2 := code.extractLsb' 2 5
  let r5b7 := code.extractLsb' 7 5
  match opcode with
  | .cLw => .ok { opcode := .lw, rd := r3b2, rs1 := r3b7, rs2 := 0, imm := mkSw code }
  | .cSw => .ok { opcode := .sw, rd := 0, rs1 := r3b7, rs2 := r3b2, imm := mkSw code }
  | .cSwsp => .ok { opcode := .sw, rd := 0, rs1 := 2, rs2 := r5b2, imm := mkSwsp code }
  | .cBeqz => .ok { opcode := .beq, rd := 0, rs1 := r3b7, rs2 := 0, imm := mkBeq code }
  | .cBnez => .ok { opcode := .bne, rd := 0, rs1 := r3b7, rs2 := 0, imm := mkBeq code }
  | .cMv => .ok { opcode := .addi, rd := r5b7, rs1 := r5b2, rs2 := 0, imm := 0 }
  | .cAdd => .ok { opcode := .add, rd := r5b7, rs1 := r5b7, rs2 := r5b2, imm := 0 }
  | .cAddi => .ok { opcode := .addi, rd := r5b7, rs1 := r5b7, rs2 := 0, imm := mkAddi code }
  | .cNop => .ok { opcode := .addi, rd := 0, rs1 := 0, rs2 := 0, imm := 0 }
  | .cAddi16sp => .ok { opcode := .addi, rd := r5b7, rs1 := 2, rs2 := 0, imm := mkAddi16sp code }
  | .cAddi4spn => .ok { opcode := .addi, rd := r3b2, rs1 := 2, rs2 := 0, imm := mkAddi4spn code }
  | .cLwsp => .ok { opcode := .lw, rd := r5b7, rs1 := 2, rs2 := 0, imm := mkLwsp code }
  | .cLi => .ok { opcode := .addi, rd := r5b7, rs1 := 0, rs2 := 0, imm := mkImm6 code }
  | .cLui => .ok { opcode := .addi, rd := r5b7, rs1 := 0, rs2 := 0, imm := mkImm6 code <<< 12 }
  | .cJ => .ok { opcode := .jal, rd := 0, rs1 := 0, rs2 := 0, imm := jalOff code }
  | .cJal => .ok { opcode := .jal, rd := 1, rs1 := 0, rs2 := 0, imm := jalOff code }
  | .cJr => .ok { opcode := .jalr, rd := 0, rs1 := r5b7, rs2 := 0, imm := 0 }
  | .cJalr => .ok { opcode := .jalr, rd := 1, rs1 := r5b7, rs2 := 0, imm := 0 }
  | .cSub => .ok { opcode := .sub, rd := r3b7, rs1 := r3b7, rs2 := r3b2, imm := 0 }
  | .cXor => .ok { opcode := .xor, rd := r3b7, rs1 := r3b7, rs2 := r3b2, imm := 0 }
  | .cOr => .ok { opcode := .or, rd := r3b7, rs1 := r3b7, rs2 := r3b2, imm := 0 }
  | .cAnd => .ok { opcode := .and, rd := r3b7, rs1 := r3b7, rs2 := r3b2, imm := 0 }
  | .cAndi => .ok { opcode := .andi, rd := r3b7, rs1 := r3b7, rs2 := 0, imm := mkAddi code }
  | .cSlli => .ok { opcode := .slli, rd := r3b7, rs1 := r3b7, rs2 := 0, imm := mkShamt code }
  | .cSrli => .ok { opcode := .srli, rd := r3b7, rs1 := r3b7, rs2 := 0, imm := mkShamt code }
  | .cSrai => .ok { opcode := .srai, rd := r3b7, rs1 := r3b7, rs2 := 0, imm := mkShamt code }
  | .cEbreak => .ok { opcode := .ebreak, rd := 0, rs1 := 0, rs2 := 0, imm := 0 }
  | _ => .error (.exit (-1) "Not found: %s, 0x%08x, 0x%08x, %s\n" code)

structure Decoded where
  found : Bool
  vliw : Vliw
  tables : DecodeTables

def decodeCompressed (tables : DecodeTables) (_addr code : Word) : Except Abort Decoded :=
  match tables.fastTable (code.setWidth 16) with
  | some nvlp => .ok ⟨true, nvlp, tables⟩
  | none =>
      match optableLookup code with
      | none => .ok ⟨false, vliwNop, tables⟩
      | some otp => do
          let vlp ← expandCompressed otp.vliw code
          .ok ⟨true, vlp, fastAdd tables (code.setWidth 16) vlp⟩

def decode2vliw (tables : DecodeTables) (addr code : Word) : Except Abort Decoded :=
  if code &&& 0x00000003 ≠ 0x00000003 then decodeCompressed tables addr code
  else
    match hashLookup tables code with
    | some hvp => .ok ⟨true, hvp, tables⟩
    | none =>
        match optableLookup code with
        | none => .ok ⟨false, vliwNop, tables⟩
        | some otp => do
            let vlp ← otp.decode code
            .ok ⟨true, vlp, hashAdd tables code vlp⟩

end RiscVFast
