import RiscVFast.MemoTables
import RiscVFast.Lib.MaskTable
import RiscVFast.Lib.Rv32i
import Mathlib.Tactic.IntervalCases

/-! The decoder on encoded instructions: which row of the table is found when only some
fields are known, and which fields the items take out of the word. -/

namespace RiscVFast

open Rv32i hiding Word
open MaskTable Fallible

/-! Every format is an R-type word with its immediate in pieces. -/

section Fields

variable (funct7 : BitVec 7) (rs2 rs1 : Reg) (funct3 : BitVec 3) (rd : Reg) (opcode : BitVec 7)

@[simp] theorem rType_rd : (rType funct7 rs2 rs1 funct3 rd opcode).extractLsb' 7 5 = rd := by
  apply BitVec.eq_of_getLsbD_eq
  intro index inside
  simp only [rType, BitVec.getLsbD_extractLsb', BitVec.getLsbD_append]
  interval_cases index <;> simp

@[simp] theorem rType_rs1 : (rType funct7 rs2 rs1 funct3 rd opcode).extractLsb' 15 5 = rs1 := by
  apply BitVec.eq_of_getLsbD_eq
  intro index inside
  simp only [rType, BitVec.getLsbD_extractLsb', BitVec.getLsbD_append]
  interval_cases index <;> simp

@[simp] theorem rType_rs2 : (rType funct7 rs2 rs1 funct3 rd opcode).extractLsb' 20 5 = rs2 := by
  apply BitVec.eq_of_getLsbD_eq
  intro index inside
  simp only [rType, BitVec.getLsbD_extractLsb', BitVec.getLsbD_append]
  interval_cases index <;> simp

@[simp] theorem rType_funct7 :
    (rType funct7 rs2 rs1 funct3 rd opcode).extractLsb' 25 7 = funct7 := by
  apply BitVec.eq_of_getLsbD_eq
  intro index inside
  simp only [rType, BitVec.getLsbD_extractLsb', BitVec.getLsbD_append]
  interval_cases index <;> simp

theorem rType_and (funct7' : BitVec 7) (rs2' rs1' : Reg) (funct3' : BitVec 3) (rd' : Reg)
    (opcode' : BitVec 7) :
    rType funct7 rs2 rs1 funct3 rd opcode &&& rType funct7' rs2' rs1' funct3' rd' opcode' =
      rType (funct7 &&& funct7') (rs2 &&& rs2') (rs1 &&& rs1') (funct3 &&& funct3') (rd &&& rd')
        (opcode &&& opcode') := by
  apply BitVec.eq_of_getLsbD_eq
  intro index inside
  simp only [rType, BitVec.getLsbD_append, BitVec.getLsbD_and]
  interval_cases index <;> simp

theorem iType_eq_rType (imm : BitVec 12) :
    iType imm rs1 funct3 rd opcode =
      rType (imm.extractLsb' 5 7) (imm.extractLsb' 0 5) rs1 funct3 rd opcode := by
  apply BitVec.eq_of_getLsbD_eq
  intro index inside
  simp only [iType, rType, BitVec.getLsbD_append, BitVec.getLsbD_extractLsb']
  interval_cases index <;> simp

theorem sType_eq_rType (imm : BitVec 12) :
    sType imm rs2 rs1 funct3 opcode =
      rType (imm.extractLsb' 5 7) rs2 rs1 funct3 (imm.extractLsb' 0 5) opcode := rfl

theorem bType_eq_rType (imm : BitVec 12) :
    bType imm rs2 rs1 funct3 opcode =
      rType (imm.extractLsb' 11 1 ++ imm.extractLsb' 4 6) rs2 rs1 funct3
        (imm.extractLsb' 0 4 ++ imm.extractLsb' 10 1) opcode := by
  apply BitVec.eq_of_getLsbD_eq
  intro index inside
  simp only [bType, rType, BitVec.getLsbD_append]
  interval_cases index <;> simp

theorem uType_eq_rType (imm : BitVec 20) :
    uType imm rd opcode =
      rType (imm.extractLsb' 13 7) (imm.extractLsb' 8 5) (imm.extractLsb' 3 5)
        (imm.extractLsb' 0 3) rd opcode := by
  apply BitVec.eq_of_getLsbD_eq
  intro index inside
  simp only [uType, rType, BitVec.getLsbD_append, BitVec.getLsbD_extractLsb']
  interval_cases index <;> simp

theorem jType_eq_rType (imm : BitVec 20) :
    jType imm rd opcode =
      rType (imm.extractLsb' 19 1 ++ imm.extractLsb' 4 6)
        (imm.extractLsb' 0 4 ++ imm.extractLsb' 10 1) (imm.extractLsb' 14 5)
        (imm.extractLsb' 11 3) rd opcode := by
  apply BitVec.eq_of_getLsbD_eq
  intro index inside
  simp only [jType, rType, BitVec.getLsbD_append, BitVec.getLsbD_extractLsb']
  interval_cases index <;> simp

@[simp] theorem iType_rd (imm : BitVec 12) :
    (iType imm rs1 funct3 rd opcode).extractLsb' 7 5 = rd := by
  rw [iType_eq_rType, rType_rd]

@[simp] theorem iType_rs1 (imm : BitVec 12) :
    (iType imm rs1 funct3 rd opcode).extractLsb' 15 5 = rs1 := by
  rw [iType_eq_rType, rType_rs1]

@[simp] theorem sType_rs1 (imm : BitVec 12) :
    (sType imm rs2 rs1 funct3 opcode).extractLsb' 15 5 = rs1 := by
  rw [sType_eq_rType, rType_rs1]

@[simp] theorem sType_rs2 (imm : BitVec 12) :
    (sType imm rs2 rs1 funct3 opcode).extractLsb' 20 5 = rs2 := by
  rw [sType_eq_rType, rType_rs2]

@[simp] theorem bType_rs1 (imm : BitVec 12) :
    (bType imm rs2 rs1 funct3 opcode).extractLsb' 15 5 = rs1 := by
  rw [bType_eq_rType, rType_rs1]

@[simp] theorem bType_rs2 (imm : BitVec 12) :
    (bType imm rs2 rs1 funct3 opcode).extractLsb' 20 5 = rs2 := by
  rw [bType_eq_rType, rType_rs2]

@[simp] theorem uType_rd (imm : BitVec 20) : (uType imm rd opcode).extractLsb' 7 5 = rd := by
  rw [uType_eq_rType, rType_rd]

@[simp] theorem jType_rd (imm : BitVec 20) : (jType imm rd opcode).extractLsb' 7 5 = rd := by
  rw [jType_eq_rType, rType_rd]

end Fields

/-! Immediates. The source extends a sign by testing the top bit and setting the bits from
there or from the next one on. -/

theorem extendSign {width : Nat} (field : BitVec width) (start : Nat) (positive : 0 < width)
    (bound : width ≤ 32) (reaches : width ≤ start + 1 ∧ start ≤ width) :
    (if field.setWidth 32 &&& BitVec.twoPow 32 (width - 1) ≠ 0 then
        field.setWidth 32 ||| (BitVec.allOnes 32 <<< start)
      else field.setWidth 32) = field.signExtend 32 := by
  have top : (field.setWidth 32).getLsbD (width - 1) = field.msb := by
    simp [BitVec.msb_eq_getLsbD_last]
    omega
  have nonzero : BitVec.twoPow 32 (width - 1) ≠ 0#32 := by
    intro equal
    have bit := congrArg (fun word : Word => word.getLsbD (width - 1)) equal
    simp at bit
    omega
  rw [BitVec.and_twoPow, top]
  apply BitVec.eq_of_getLsbD_eq
  intro index inside
  rw [BitVec.getLsbD_signExtend]
  cases sign : field.msb with
  | true =>
      by_cases low : index < width
      · by_cases last : index = width - 1
        · subst last
          simp [nonzero, inside, low, ← BitVec.msb_eq_getLsbD_last, sign]
        · have below : index < start := by omega
          simp [nonzero, inside, low, below]
      · have above : ¬ index < start := by omega
        simp [nonzero, inside, low, above, -BitVec.reduceAllOnes]
  | false =>
      by_cases low : index < width
      · simp [inside, low]
      · simp [low, BitVec.getLsbD_of_ge field index (by omega)]

section Immediates

variable (rs2 rs1 : Reg) (funct3 : BitVec 3) (rd : Reg) (opcode : BitVec 7)

theorem number_iType (imm : BitVec 12) :
    (iType imm rs1 funct3 rd opcode >>> 20) &&& 0x00000fff = imm.setWidth 32 := by
  apply BitVec.eq_of_getLsbD_eq
  intro index inside
  simp only [iType, BitVec.getLsbD_setWidth, BitVec.getLsbD_append, BitVec.getLsbD_and,
    BitVec.getLsbD_ushiftRight]
  interval_cases index <;> simp

@[simp] theorem mkSimm12_iType (imm : BitVec 12) :
    mkSimm12 (iType imm rs1 funct3 rd opcode) = imm.signExtend 32 := by
  simp only [mkSimm12, number_iType]
  exact extendSign imm 12 (by decide) (by decide) (by decide)

@[simp] theorem doS2imm12_sType (imm : BitVec 12) :
    doS2imm12 (sType imm rs2 rs1 funct3 opcode) = imm.signExtend 32 := by
  have field : ((sType imm rs2 rs1 funct3 opcode >>> 25) &&& 0x0000007f) <<< 5 |||
      ((sType imm rs2 rs1 funct3 opcode >>> 7) &&& 0x0000001f) = imm.setWidth 32 := by
    apply BitVec.eq_of_getLsbD_eq
    intro index inside
    simp only [sType, BitVec.getLsbD_setWidth, BitVec.getLsbD_append, BitVec.getLsbD_and,
      BitVec.getLsbD_ushiftRight, BitVec.getLsbD_or, BitVec.getLsbD_shiftLeft,
      BitVec.getLsbD_extractLsb']
    interval_cases index <;> simp
  simp only [doS2imm12, field]
  exact extendSign imm 12 (by decide) (by decide) (by decide)

@[simp] theorem doBoff_bType (imm : BitVec 12) :
    doBoff (bType imm rs2 rs1 funct3 opcode) = displacement imm := by
  refine Eq.trans (congrArg (fun field : Word =>
    if field &&& 0x00001000 ≠ 0 then field ||| 0xfffff000 else field) ?_)
    (extendSign (imm ++ 0#1) 12 (by decide) (by decide) (by decide))
  apply BitVec.eq_of_getLsbD_eq
  intro index inside
  simp only [bType, BitVec.getLsbD_setWidth, BitVec.getLsbD_append, BitVec.getLsbD_and,
    BitVec.getLsbD_ushiftRight, BitVec.getLsbD_or, BitVec.getLsbD_shiftLeft,
    BitVec.getLsbD_extractLsb']
  interval_cases index <;> simp

theorem joffImm_jType (imm : BitVec 20) :
    joffImm (jType imm rd opcode) = displacement imm := by
  have field : doJoff (jType imm rd opcode) = (imm ++ 0#1).setWidth 32 := by
    apply BitVec.eq_of_getLsbD_eq
    intro index inside
    simp only [doJoff, jType, BitVec.getLsbD_setWidth, BitVec.getLsbD_append, BitVec.getLsbD_and,
      BitVec.getLsbD_ushiftRight, BitVec.getLsbD_or, BitVec.getLsbD_shiftLeft,
      BitVec.getLsbD_extractLsb']
    interval_cases index <;> simp
  rw [joffImm, field]
  exact extendSign (imm ++ 0#1) 21 (by decide) (by decide) (by decide)

theorem imm20_uType (imm : BitVec 20) :
    (if (uType imm rd opcode >>> 12) &&& 0x000fffff &&& 0x00080000 ≠ 0 then
        (uType imm rd opcode >>> 12) &&& 0x000fffff ||| 0xfff00000
      else (uType imm rd opcode >>> 12) &&& 0x000fffff) <<< 12 = imm ++ 0#12 := by
  have field : (uType imm rd opcode >>> 12) &&& 0x000fffff = imm.setWidth 32 := by
    apply BitVec.eq_of_getLsbD_eq
    intro index inside
    simp only [uType, BitVec.getLsbD_setWidth, BitVec.getLsbD_append, BitVec.getLsbD_and,
      BitVec.getLsbD_ushiftRight]
    interval_cases index <;> simp
  have extended := extendSign imm 20 (by decide) (by decide) (by decide)
  rw [field]
  refine Eq.trans (congrArg (fun word : Word => word <<< (12 : Nat)) extended) ?_
  apply BitVec.eq_of_getLsbD_eq
  intro index inside
  simp only [BitVec.getLsbD_shiftLeft, BitVec.getLsbD_signExtend, BitVec.getLsbD_append]
  interval_cases index <;> simp

@[simp] theorem shamt_rType (funct7 : BitVec 7) (shamt : BitVec 5) :
    (rType funct7 shamt rs1 funct3 rd opcode >>> 20) &&& 0x1f = shamt.setWidth 32 := by
  apply BitVec.eq_of_getLsbD_eq
  intro index inside
  simp only [rType, BitVec.getLsbD_setWidth, BitVec.getLsbD_append, BitVec.getLsbD_and,
    BitVec.getLsbD_ushiftRight]
  interval_cases index <;> simp

end Immediates

def Optable.pattern (row : Optable) : Pattern 32 := ⟨row.code, row.mask⟩

def maskOf {width : Nat} (field : Option (BitVec width)) : BitVec width :=
  if field.isSome then BitVec.allOnes width else 0

def Agrees {width : Nat} (known : Option (BitVec width)) (field : BitVec width) : Prop :=
  ∀ value, known = some value → field = value

theorem agrees_none {width : Nat} (field : BitVec width) : Agrees none field := by
  intro value unknown
  simp at unknown

theorem agrees_some {width : Nat} (field : BitVec width) : Agrees (some field) field := by
  intro value known
  exact Option.some.inj known

theorem Agrees.and_maskOf {width : Nat} {known : Option (BitVec width)} {field : BitVec width}
    (agrees : Agrees known field) : field &&& maskOf known = known.getD 0 := by
  cases known with
  | none => exact BitVec.and_zero
  | some value => exact BitVec.and_allOnes.trans (agrees value rfl)

/-- A word of which the opcode and some other fields are known. -/
def knownFields (funct7 : Option (BitVec 7)) (funct3 : Option (BitVec 3)) (rd : Option Reg)
    (opcode : BitVec 7) (refuted : List (Pattern 32)) : Knowledge 32 where
  mask := rType (maskOf funct7) 0 0 (maskOf funct3) (maskOf rd) (BitVec.allOnes 7)
  value := rType (funct7.getD 0) 0 0 (funct3.getD 0) (rd.getD 0) opcode
  refuted := refuted

theorem rType_described {known7 : Option (BitVec 7)} {known3 : Option (BitVec 3)}
    {knownRd : Option Reg} (funct7 : BitVec 7) (rs2 rs1 : Reg) (funct3 : BitVec 3) (rd : Reg)
    (opcode : BitVec 7) (refuted : List (Pattern 32))
    (agrees7 : Agrees known7 funct7) (agrees3 : Agrees known3 funct3) (agreesRd : Agrees knownRd rd)
    (refutes : ∀ pattern ∈ refuted,
      pattern.accepts (rType funct7 rs2 rs1 funct3 rd opcode) = false) :
    (knownFields known7 known3 knownRd opcode refuted).Describes
      (rType funct7 rs2 rs1 funct3 rd opcode) where
  bits := by
    simp only [knownFields, rType_and, agrees7.and_maskOf, agrees3.and_maskOf,
      agreesRd.and_maskOf]
    congr 1
    · exact BitVec.and_zero
    · exact BitVec.and_zero
    · exact BitVec.and_allOnes
  refuted := refutes

theorem decodeAlone_of_search {known : Knowledge 32} {code : Word} (opcode : VliwOp)
    (items : List String) (describes : known.Describes code)
    (wide : known.entails ⟨3, 3⟩ = true)
    (found : (known.search Optable.pattern optable).map (fun row => (row.vliw, row.items.tail)) =
      some (opcode, items)) :
    decodeAlone code =
      (decodeItems code items (Vliw.ofOpcode opcode)).map fun vlp => (true, vlp) := by
  obtain ⟨row, searched, parts⟩ := Option.map_eq_some_iff.mp found
  simp only [Prod.mk.injEq] at parts
  have lookup : optableLookup code = some row :=
    Knowledge.search_sound describes Optable.pattern searched
  have isWide : isWide code = true := Knowledge.accepts_of_entails describes wide
  rw [decodeAlone_wide code isWide, scanWide, lookup]
  simp only [Optable.decode, parts.1, parts.2]

theorem decodeItem_opcode {code : Word} {vlp after : Vliw} {item : String}
    (decoded : decodeItem code vlp item = .ok after) : after.opcode = vlp.opcode := by
  unfold decodeItem at decoded
  iterate 13
    refine of_ite_eq_ok decoded (fun _ same => by cases same; rfl) fun _ decoded => ?_
  simp at decoded

theorem decodeItems_opcode {code : Word} {items : List String} {vlp after : Vliw}
    (decoded : decodeItems code items vlp = .ok after) : after.opcode = vlp.opcode := by
  induction items generalizing vlp with
  | nil =>
      simp only [decodeItems, Except.ok.injEq] at decoded
      rw [decoded]
  | cons item items ih =>
      simp only [decodeItems] at decoded
      obtain ⟨middle, first, decoded⟩ := bind_eq_ok.mp decoded
      rw [ih decoded, decodeItem_opcode first]

end RiscVFast
