import RiscVFast.Lib.RvHart
import RiscVFast.Disassembly
import RiscVFast.DecompressorsAgree
import RiscVFast.MulDiv

/-! The decoder recognises the encodings of the architecture, and nothing else, for the opcodes of a
hart without traps. -/

namespace RiscVFast

open Rv32i hiding Word
open MaskTable Fallible

/-! What an instruction is decoded to. Three have an opcode of their own for some operands. -/

def immVliw (op : ImmOp) (rd rs1 : Reg) (imm : BitVec 12) : Vliw :=
  if iType imm rs1 op.funct3 rd 0b0010011 = 0x00000013 then vliwNop
  else ⟨immOpcode op, rd, rs1, 0, imm.signExtend 32⟩

def computationalVliw : Computational → Vliw
  | .lui rd imm => ⟨.lui, rd, 0, 0, imm.signExtend 32⟩
  | .auipc rd imm => ⟨.auipc, rd, 0, 0, imm.signExtend 32⟩
  | .nop => vliwNop
  | .opImm op rd rs1 imm => immVliw op rd rs1 imm
  | .shift op rd rs1 shamt => ⟨shiftOpcode op, rd, rs1, 0, shamt.setWidth 32⟩
  | .opReg op rd rs1 rs2 => ⟨regOpcode op, rd, rs1, rs2, 0⟩

def controlVliw : Control → Vliw
  | .jal rd imm => ⟨if rd = 0 then .j else .jal, rd, 0, 0, displacement imm⟩
  | .jalr rd rs1 imm =>
      if rd = 0 ∧ imm = 0 then ⟨.jr, 0, rs1, 0, 0⟩ else ⟨.jalr, rd, rs1, 0, imm.signExtend 32⟩
  | .branch op rs1 rs2 imm => ⟨branchOpcode op, 0, rs1, rs2, displacement imm⟩

def memoryVliw : MemoryInstr → Vliw
  | .load op rd rs1 imm => ⟨loadOpcode op, rd, rs1, 0, imm.signExtend 32⟩
  | .store op rs1 rs2 imm => ⟨storeOpcode op, 0, rs1, rs2, imm.signExtend 32⟩

def instrVliw : Rv32i.Instr → Vliw
  | .computational instr => computationalVliw instr
  | .mulDiv op rd rs1 rs2 => ⟨mulDivOpcode op, rd, rs1, rs2, 0⟩
  | .control instr => controlVliw instr
  | .memory instr => memoryVliw instr

theorem upperField (rd : Reg) (imm : BitVec 20) (opcode : BitVec 7) :
    (if (uType imm rd opcode >>> 12) &&& 0x000fffff &&& 0x00080000 ≠ 0 then
        (uType imm rd opcode >>> 12) &&& 0x000fffff ||| 0xfff00000
      else (uType imm rd opcode >>> 12) &&& 0x000fffff) = imm.signExtend 32 := by
  have field : (uType imm rd opcode >>> 12) &&& 0x000fffff = imm.setWidth 32 := by
    apply BitVec.eq_of_getLsbD_eq
    intro index inside
    simp only [uType, BitVec.getLsbD_setWidth, BitVec.getLsbD_append, BitVec.getLsbD_and,
      BitVec.getLsbD_ushiftRight]
    interval_cases index <;> simp
  rw [field]
  exact extendSign imm 20 (by decide) (by decide) (by decide)

theorem decodeAlone_upperField (op : VliwOp) (opcode : BitVec 7) (rd : Reg) (imm : BitVec 20)
    (wide : (knownFields none none none opcode []).entails ⟨3, 3⟩ = true)
    (found : ((knownFields none none none opcode []).search Optable.pattern optable).map
      (fun row => (row.vliw, row.items.tail)) = some (op, ["rd", "imm20"])) :
    decodeAlone (uType imm rd opcode) = .ok (true, ⟨op, rd, 0, 0, imm.signExtend 32⟩) := by
  have described := rType_described (imm.extractLsb' 13 7) (imm.extractLsb' 8 5)
    (imm.extractLsb' 3 5) (imm.extractLsb' 0 3) rd opcode []
    (agrees_none _) (agrees_none _) (agrees_none _) nofun
  rw [← uType_eq_rType] at described
  rw [decodeAlone_of_search op _ described wide found, items_upper, upperField, uType_rd, map_ok]

theorem decodeAlone_computational (instr : Computational) :
    decodeAlone instr.encode = .ok (true, computationalVliw instr) := by
  cases instr with
  | lui rd imm => exact decodeAlone_upperField .lui _ rd imm (by decide) (by decide +kernel)
  | auipc rd imm => exact decodeAlone_upperField .auipc _ rd imm (by decide) (by decide +kernel)
  | nop => exact decodeAlone_nop
  | opImm op rd rs1 imm =>
      simp only [computationalVliw, immVliw, Computational.encode]
      split
      · rename_i isNop
        rw [isNop, decodeAlone_nop]
      · rename_i other
        exact decodeAlone_imm op rd rs1 imm other
  | shift op rd rs1 shamt => exact decodeAlone_shift op rd rs1 shamt
  | opReg op rd rs1 rs2 => exact decodeAlone_reg op rd rs1 rs2

theorem decodeAlone_control (instr : Control) :
    decodeAlone instr.encode = .ok (true, controlVliw instr) := by
  cases instr with
  | jal rd imm =>
      simp only [controlVliw, Control.encode]
      by_cases links : rd = 0
      · subst links
        exact decodeAlone_j imm
      · rw [if_neg links]
        exact decodeAlone_jal rd imm links
  | jalr rd rs1 imm =>
      simp only [controlVliw, Control.encode]
      split
      · rename_i plain
        obtain ⟨rfl, rfl⟩ := plain
        exact decodeAlone_jr rs1
      · rename_i general
        exact decodeAlone_jalr rd rs1 imm general
  | branch op rs1 rs2 imm => exact decodeAlone_branch op rs1 rs2 imm

theorem decodeAlone_encode (instr : Rv32i.Instr) :
    decodeAlone instr.encode = .ok (true, instrVliw instr) := by
  cases instr with
  | computational instr => exact decodeAlone_computational instr
  | mulDiv op rd rs1 rs2 => exact decodeAlone_mulDiv op rd rs1 rs2
  | control instr => exact decodeAlone_control instr
  | memory instr =>
      cases instr with
      | load op rd rs1 imm => exact decodeAlone_load op rd rs1 imm
      | store op rs1 rs2 imm => exact decodeAlone_store op rs1 rs2 imm

inductive HartOpcode : VliwOp → Prop
  | nop : HartOpcode .nop
  | lui : HartOpcode .lui
  | auipc : HartOpcode .auipc
  | imm (op : ImmOp) : HartOpcode (immOpcode op)
  | shift (op : ShiftOp) : HartOpcode (shiftOpcode op)
  | reg (op : RegOp) : HartOpcode (regOpcode op)
  | mulDiv (op : MulDivOp) : HartOpcode (mulDivOpcode op)
  | j : HartOpcode .j
  | jal : HartOpcode .jal
  | jr : HartOpcode .jr
  | jalr : HartOpcode .jalr
  | branch (op : BranchOp) : HartOpcode (branchOpcode op)
  | load (op : LoadOp) : HartOpcode (loadOpcode op)
  | store (op : StoreOp) : HartOpcode (storeOpcode op)

theorem hartOpcode_instrVliw (instr : Rv32i.Instr) : HartOpcode (instrVliw instr).opcode := by
  rcases instr with instr | ⟨op, rd, rs1, rs2⟩ | instr | instr
  case mulDiv => exact .mulDiv op
  all_goals cases instr
  case computational.lui rd imm => exact .lui
  case computational.auipc rd imm => exact .auipc
  case computational.nop => exact .nop
  case computational.opImm op rd rs1 imm =>
      simp only [instrVliw, computationalVliw, immVliw]
      split
      exacts [.nop, .imm op]
  case computational.shift op rd rs1 shamt => exact .shift op
  case computational.opReg op rd rs1 rs2 => exact .reg op
  case control.jal rd imm =>
      simp only [instrVliw, controlVliw]
      split
      exacts [.j, .jal]
  case control.jalr rd rs1 imm =>
      simp only [instrVliw, controlVliw]
      split
      exacts [.jr, .jalr]
  case control.branch op rs1 rs2 imm => exact .branch op
  case memory.load op rd rs1 imm => exact .load op
  case memory.store op rs1 rs2 imm => exact .store op

theorem mulDiv_rows (op : MulDivOp) : ∀ row ∈ optable, row.vliw = mulDivOpcode op →
    row.Known (some 0b0000001) (some op.funct3) 0x33 ["rd", "rs1", "rs2"] := by
  cases op <;> decide +kernel

section Words

variable {word : Word} {vlp : Vliw}

theorem word_of_iFields {funct3 : BitVec 3} {opcode : BitVec 7}
    (fields : HasFields word none (some funct3) opcode) :
    iType (word.extractLsb' 20 12) (word.extractLsb' 15 5) funct3 (word.extractLsb' 7 5) opcode =
      word := by
  have whole := (word_iType word).symm
  rwa [fields.funct3 _ rfl, fields.opcode] at whole

theorem word_of_rFields {funct7 : BitVec 7} {funct3 : BitVec 3} {opcode : BitVec 7}
    (fields : HasFields word (some funct7) (some funct3) opcode) :
    rType funct7 (word.extractLsb' 20 5) (word.extractLsb' 15 5) funct3 (word.extractLsb' 7 5)
      opcode = word := by
  have whole := (word_rType word).symm
  rwa [fields.funct7 _ rfl, fields.funct3 _ rfl, fields.opcode] at whole

theorem encoded_of_decode (wide : isWide word = true) (decoded : decodeAlone word = .ok (true, vlp))
    (opcode : HartOpcode vlp.opcode) : ∃ instr : Rv32i.Instr, instr.encode = word := by
  generalize named : vlp.opcode = op at opcode
  have only {known7 known3 code items} (rows : ∀ row ∈ optable, row.vliw = op →
      row.Known known7 known3 code items) : HasFields word known7 known3 code :=
    (fields_of_decode wide decoded (named ▸ rows)).1
  cases opcode with
  | nop =>
      obtain ⟨masked, -⟩ := masked_of_decode wide decoded
        (by rw [named]; exact fun row member => (whole_rows row member).1)
      rw [BitVec.and_allOnes] at masked
      exact ⟨.computational .nop, masked.symm⟩
  | lui =>
      have whole := (word_uType word).symm
      rw [(only lui_rows).opcode] at whole
      exact ⟨.computational (.lui _ _), whole⟩
  | auipc =>
      have whole := (word_uType word).symm
      rw [(only auipc_rows).opcode] at whole
      exact ⟨.computational (.auipc _ _), whole⟩
  | imm op => exact ⟨.computational (.opImm op _ _ _), word_of_iFields (only (imm_rows op))⟩
  | shift op => exact ⟨.computational (.shift op _ _ _), word_of_rFields (only (shift_rows op))⟩
  | reg op => exact ⟨.computational (.opReg op _ _ _), word_of_rFields (only (reg_rows op))⟩
  | mulDiv op => exact ⟨.mulDiv op _ _ _, word_of_rFields (only (mulDiv_rows op))⟩
  | j =>
      obtain ⟨masked, -⟩ := masked_of_decode wide decoded (by rw [named]; exact j_rows)
      have field : word.extractLsb' 0 7 = 0b1101111#7 := field_of_masked masked (by decide)
      have whole := (word_jType word).symm
      rw [field] at whole
      exact ⟨.control (.jal _ _), whole⟩
  | jal =>
      have whole := (word_jType word).symm
      rw [(only jal_rows).opcode] at whole
      exact ⟨.control (.jal _ _), whole⟩
  | jr =>
      obtain ⟨masked, -⟩ := masked_of_decode wide decoded (by rw [named]; exact jr_rows)
      have field : word.extractLsb' 0 7 = 0b1100111#7 := field_of_masked masked (by decide)
      have type : word.extractLsb' 12 3 = 0b000#3 := field_of_masked masked (by decide)
      have whole := (word_iType word).symm
      rw [type, field] at whole
      exact ⟨.control (.jalr _ _ _), whole⟩
  | jalr => exact ⟨.control (.jalr _ _ _), word_of_iFields (only jalr_rows)⟩
  | branch op =>
      have fields := only (branch_rows op)
      have whole := (word_bType word).symm
      rw [fields.funct3 _ rfl, fields.opcode] at whole
      exact ⟨.control (.branch op _ _ _), whole⟩
  | load op => exact ⟨.memory (.load op _ _ _), word_of_iFields (only (load_rows op))⟩
  | store op =>
      have fields := only (store_rows op)
      have whole := (word_sType word).symm
      rw [fields.funct3 _ rfl, fields.opcode] at whole
      exact ⟨.memory (.store op _ _ _), whole⟩

end Words

/-- Whatever was decoded before: a word of 32 bits gets one of the opcodes of a hart exactly when it
encodes an instruction of the architecture, and then with the operands of the instruction. -/
theorem decode_conforms (addr word : Word) (vlp : Vliw) (calls : List (Word × Word))
    (results : List (Bool × Vliw)) (tables : DecodeTables)
    (history : decodeCalls DecodeTables.empty calls = .ok (results, tables)) :
    (isWide word = true ∧ HartOpcode vlp.opcode ∧
      (decode2vliw tables addr word).map Decoded.result = .ok (true, vlp)) ↔
      ∃ instr : Rv32i.Instr, instr.encode = word ∧ instrVliw instr = vlp := by
  have sound := (decodeCalls_sound DecodeTables.empty_sound history).1
  rw [sound.transparent]
  constructor
  · rintro ⟨wide, opcode, decoded⟩
    obtain ⟨instr, rfl⟩ := encoded_of_decode wide decoded opcode
    rw [decodeAlone_encode] at decoded
    simp only [Except.ok.injEq, Prod.mk.injEq, true_and] at decoded
    exact ⟨instr, rfl, decoded⟩
  · rintro ⟨instr, rfl, rfl⟩
    exact ⟨(isWide_iff _).mpr instr.encode_wide, hartOpcode_instrVliw instr,
      decodeAlone_encode instr⟩

/-- `addi x0,x0,0` is decoded to a `nop`, and `jalr x0,0(x1)` to a `jr`, after a `jal`. -/
theorem decode_conforms_shorthands :
    ∃ tables results, decodeCalls DecodeTables.empty [(0, 0x008000ef)] = .ok (results, tables) ∧
      (decode2vliw tables 8 0x00000013).map Decoded.result = .ok (true, vliwNop) ∧
      (decode2vliw tables 12 0x00008067).map Decoded.result = .ok (true, ⟨.jr, 0, 1, 0, 0⟩) := by
  obtain ⟨⟨results, tables⟩, history⟩ : ∃ result,
      decodeCalls DecodeTables.empty [(0, 0x008000ef)] = .ok result := ⟨_, rfl⟩
  refine ⟨tables, results, history, ?_, ?_⟩
  · exact ((decode_conforms 8 _ _ _ results tables history).mpr
      ⟨.computational (.opImm .addi 0 0 0), rfl, rfl⟩).2.2
  · exact ((decode_conforms 12 _ _ _ results tables history).mpr
      ⟨.control (.jalr 0 1 0), rfl, rfl⟩).2.2

end RiscVFast
