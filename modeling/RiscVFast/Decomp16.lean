import RiscVFast.Vliw

/-! The generated table `decomp16_table` of `decomp16.cpp`, given by the encoding classes of
its 65536 entries. An entry of zero stands for a code without an expansion. -/

namespace RiscVFast

def iWord (imm : BitVec 12) (rs1 : BitVec 5) (funct3 : BitVec 3) (rd : BitVec 5)
    (opcode : BitVec 7) : Word :=
  imm ++ rs1 ++ funct3 ++ rd ++ opcode

def rWord (funct7 : BitVec 7) (rs2 rs1 : BitVec 5) (funct3 : BitVec 3) (rd : BitVec 5)
    (opcode : BitVec 7) : Word :=
  funct7 ++ rs2 ++ rs1 ++ funct3 ++ rd ++ opcode

def storeWord (imm : BitVec 12) (rs2 rs1 : BitVec 5) : Word :=
  imm.extractLsb' 5 7 ++ rs2 ++ rs1 ++ 0b010#3 ++ imm.extractLsb' 0 5 ++ 0b0100011#7

def branchWord (offset : BitVec 13) (rs1 : BitVec 5) (funct3 : BitVec 3) : Word :=
  offset.extractLsb' 12 1 ++ offset.extractLsb' 5 6 ++ 0#5 ++ rs1 ++ funct3 ++
    offset.extractLsb' 1 4 ++ offset.extractLsb' 11 1 ++ 0b1100011#7

def jumpWord (offset : BitVec 21) (rd : BitVec 5) : Word :=
  offset.extractLsb' 20 1 ++ offset.extractLsb' 1 10 ++ offset.extractLsb' 11 1 ++
    offset.extractLsb' 12 8 ++ rd ++ 0b1101111#7

def decompQuadrant0 (code : BitVec 16) : Word :=
  let rdPrime : BitVec 5 := 0b01#2 ++ code.extractLsb' 2 3
  let rs1Prime : BitVec 5 := 0b01#2 ++ code.extractLsb' 7 3
  let stackImm : BitVec 10 := code.extractLsb' 7 4 ++ code.extractLsb' 11 2 ++
    code.extractLsb' 5 1 ++ code.extractLsb' 6 1 ++ 0#2
  let wordImm : BitVec 7 :=
    code.extractLsb' 5 1 ++ code.extractLsb' 10 3 ++ code.extractLsb' 6 1 ++ 0#2
  match (code.extractLsb' 13 3).toNat with
  | 0b000 => if stackImm = 0 then 0 else iWord (stackImm.setWidth 12) 2 0b000 rdPrime 0b0010011
  | 0b010 => iWord (wordImm.setWidth 12) rs1Prime 0b010 rdPrime 0b0000011
  | 0b110 => storeWord (wordImm.setWidth 12) rdPrime rs1Prime
  | _ => 0

def decompAlu (code : BitVec 16) : Word :=
  let rdPrime : BitVec 5 := 0b01#2 ++ code.extractLsb' 7 3
  let rs2Prime : BitVec 5 := 0b01#2 ++ code.extractLsb' 2 3
  let imm6 : BitVec 6 := code.extractLsb' 12 1 ++ code.extractLsb' 2 5
  let shift (funct7 : BitVec 7) : Word :=
    if imm6.getLsbD 5 ∨ imm6 = 0 then 0
    else rWord funct7 (imm6.setWidth 5) rdPrime 0b101 rdPrime 0b0010011
  let op (funct7 : BitVec 7) (funct3 : BitVec 3) : Word :=
    rWord funct7 rs2Prime rdPrime funct3 rdPrime 0b0110011
  match (code.extractLsb' 10 2).toNat with
  | 0b00 => shift 0b0000000
  | 0b01 => shift 0b0100000
  | 0b10 => iWord (imm6.signExtend 12) rdPrime 0b111 rdPrime 0b0010011
  | _ =>
      if imm6.getLsbD 5 then 0
      else
        match (code.extractLsb' 5 2).toNat with
        | 0b00 => op 0b0100000 0b000
        | 0b01 => op 0b0000000 0b100
        | 0b10 => op 0b0000000 0b110
        | _ => op 0b0000000 0b111

def decompQuadrant1 (code : BitVec 16) : Word :=
  let rd : BitVec 5 := code.extractLsb' 7 5
  let rs1Prime : BitVec 5 := 0b01#2 ++ code.extractLsb' 7 3
  let imm6 : BitVec 6 := code.extractLsb' 12 1 ++ code.extractLsb' 2 5
  let stackImm : BitVec 10 := code.extractLsb' 12 1 ++ code.extractLsb' 3 2 ++
    code.extractLsb' 5 1 ++ code.extractLsb' 2 1 ++ code.extractLsb' 6 1 ++ 0#4
  let jumpOffset : BitVec 12 := code.extractLsb' 12 1 ++ code.extractLsb' 8 1 ++
    code.extractLsb' 9 2 ++ code.extractLsb' 6 1 ++ code.extractLsb' 7 1 ++
    code.extractLsb' 2 1 ++ code.extractLsb' 11 1 ++ code.extractLsb' 3 3 ++ 0#1
  let branchOffset : BitVec 9 := code.extractLsb' 12 1 ++ code.extractLsb' 5 2 ++
    code.extractLsb' 2 1 ++ code.extractLsb' 10 2 ++ code.extractLsb' 3 2 ++ 0#1
  match (code.extractLsb' 13 3).toNat with
  | 0b000 =>
      if rd = 0 ∧ imm6 ≠ 0 then 0 else iWord (imm6.signExtend 12) rd 0b000 rd 0b0010011
  | 0b001 => jumpWord (jumpOffset.signExtend 21) 1
  | 0b010 => if rd = 0 then 0 else iWord (imm6.signExtend 12) 0 0b000 rd 0b0010011
  | 0b011 =>
      if rd = 2 then
        if stackImm = 0 then 0 else iWord (stackImm.signExtend 12) 2 0b000 2 0b0010011
      else if rd = 0 ∨ imm6 = 0 then 0
      else (imm6.signExtend 20 ++ rd ++ 0b0110111#7 : BitVec 32)
  | 0b100 => decompAlu code
  | 0b101 => jumpWord (jumpOffset.signExtend 21) 0
  | 0b110 => branchWord (branchOffset.signExtend 13) rs1Prime 0b000
  | _ => branchWord (branchOffset.signExtend 13) rs1Prime 0b001

def decompQuadrant2 (code : BitVec 16) : Word :=
  let rd : BitVec 5 := code.extractLsb' 7 5
  let rs2 : BitVec 5 := code.extractLsb' 2 5
  let loadImm : BitVec 8 :=
    code.extractLsb' 2 2 ++ code.extractLsb' 12 1 ++ code.extractLsb' 4 3 ++ 0#2
  let storeImm : BitVec 8 := code.extractLsb' 7 2 ++ code.extractLsb' 9 4 ++ 0#2
  match (code.extractLsb' 13 3).toNat with
  | 0b000 => if code.getLsbD 12 then 0 else rWord 0 rs2 rd 0b001 rd 0b0010011
  | 0b010 => iWord (loadImm.setWidth 12) 2 0b010 rd 0b0000011
  | 0b100 =>
      if code.getLsbD 12 then
        if rs2 = 0 then
          if rd = 0 then 0x00100073 else iWord 0 rd 0b000 1 0b1100111
        else if rd = 0 then 0
        else rWord 0 rs2 rd 0b000 rd 0b0110011
      else if rd = 0 then 0
      else if rs2 = 0 then iWord 0 rd 0b000 0 0b1100111
      else rWord 0 rs2 0 0b000 rd 0b0110011
  | 0b110 => storeWord (storeImm.setWidth 12) rs2 2
  | _ => 0

def decomp16Table (code : BitVec 16) : Word :=
  match (code.extractLsb' 0 2).toNat with
  | 0 => decompQuadrant0 code
  | 1 => decompQuadrant1 code
  | 2 => decompQuadrant2 code
  | _ => 0

end RiscVFast
