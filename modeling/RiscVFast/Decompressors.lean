import RiscVFast.ControlTransfer
import RiscVFast.LoadStore
import RiscVFast.Run

/-! The two ways to a 16-bit instruction: the table that `run` uses and the expansion in the
decoder itself. -/

namespace RiscVFast

open Rv32i hiding Word
open MaskTable Fallible

def accepted : Except Abort Decoded → Option Vliw
  | .ok decoded => if decoded.found then some decoded.vliw else none
  | .error _ => none

def tablePath (tables : DecodeTables) (addr : Word) (code : BitVec 16) : Option Vliw :=
  let code32 := decomp16Table code
  if code32 = 0 then none else accepted (decode2vliw tables addr code32)

def directPath (tables : DecodeTables) (addr : Word) (code : BitVec 16) : Option Vliw :=
  accepted (decodeCompressed tables addr (code.setWidth 32))

def Machine.narrow (s : Machine) (pc : Word) : Machine :=
  { s with cpu.pc := pc }.fallThrough (pc + 2)

@[simp]
theorem Machine.narrow_reg (s : Machine) (pc : Word) : (s.narrow pc).cpu.reg = s.cpu.reg := rfl

@[simp]
theorem Machine.narrow_memory (s : Machine) (pc : Word) : (s.narrow pc).memory = s.memory := rfl

def executeNarrow (cfg : Config) (pc : Word) (vlp : Vliw) (s : Machine) : Except Abort Machine :=
  execute cfg vlp (s.narrow pc)

def SameExecution (first second : Vliw) : Prop :=
  ∀ cfg pc s, s.cpu.reg 0 = 0 →
    (executeNarrow cfg pc first s).map (fun t => (t.cpu, t.memory)) =
      (executeNarrow cfg pc second s).map (fun t => (t.cpu, t.memory))

def PathsAgree (table direct : Option Vliw) : Prop :=
  table.isSome = direct.isSome ∧
    ∀ first second, table = some first → direct = some second → SameExecution first second

def decompressorsAgree (code : BitVec 16) : Bool :=
  let rd : BitVec 5 := code.extractLsb' 7 5
  let imm6 : BitVec 6 := code.extractLsb' 12 1 ++ code.extractLsb' 2 5
  match (code.extractLsb' 0 2).toNat, (code.extractLsb' 13 3).toNat with
  | 0, 0b000 => code == 0 || code.extractLsb' 5 8 != 0
  | 0, 0b010 | 0, 0b110 => !code.getLsbD 5
  | 1, 0b000 => rd != 0 || imm6 == 0
  | 1, 0b010 => rd != 0
  | 1, 0b011 => rd != 0 && imm6 != 0
  | 1, 0b100 => code.getLsbD 11 || (!code.getLsbD 12 && imm6 != 0)
  | 2, 0b000 => !code.getLsbD 12 && (imm6 == 0 || (0b01#2 ++ code.extractLsb' 7 3 : BitVec 5) == rd)
  | 2, 0b100 => rd != 0 || code == 0x9002
  | _, _ => true

/-- Bits 15–13, 12, 11–10, 9–7, 6–5, 4–2 and 1–0. -/
def fieldsWord (funct3 : BitVec 3) (bit : BitVec 1) (high : BitVec 2) (low : BitVec 3)
    (high' : BitVec 2) (low' : BitVec 3) (op : BitVec 2) : BitVec 16 :=
  funct3 ++ bit ++ high ++ low ++ high' ++ low' ++ op

theorem code_fields (code : BitVec 16) :
    code = fieldsWord (code.extractLsb' 13 3) (code.extractLsb' 12 1) (code.extractLsb' 10 2)
      (code.extractLsb' 7 3) (code.extractLsb' 5 2) (code.extractLsb' 2 3)
      (code.extractLsb' 0 2) := by
  apply BitVec.eq_of_getLsbD_eq
  intro index inside
  simp only [fieldsWord, BitVec.getLsbD_append, BitVec.getLsbD_extractLsb']
  interval_cases index <;> simp

theorem fieldsWord_and (funct3 funct3' : BitVec 3) (bit bit' : BitVec 1) (a a' : BitVec 2)
    (b b' : BitVec 3) (c c' : BitVec 2) (d d' : BitVec 3) (op op' : BitVec 2) :
    fieldsWord funct3 bit a b c d op &&& fieldsWord funct3' bit' a' b' c' d' op' =
      fieldsWord (funct3 &&& funct3') (bit &&& bit') (a &&& a') (b &&& b') (c &&& c') (d &&& d')
        (op &&& op') := by
  apply BitVec.eq_of_getLsbD_eq
  intro index inside
  simp only [fieldsWord, BitVec.getLsbD_append, BitVec.getLsbD_and]
  interval_cases index <;> simp

structure CodeFields where
  funct3 : Option (BitVec 3)
  bit : Option (BitVec 1)
  high : Option (BitVec 2)
  low : Option (BitVec 3)
  high' : Option (BitVec 2)
  low' : Option (BitVec 3)
  op : Option (BitVec 2)

structure CodeFields.Hold (fields : CodeFields) (code : BitVec 16) : Prop where
  funct3 : Agrees fields.funct3 (code.extractLsb' 13 3)
  bit : Agrees fields.bit (code.extractLsb' 12 1)
  high : Agrees fields.high (code.extractLsb' 10 2)
  low : Agrees fields.low (code.extractLsb' 7 3)
  high' : Agrees fields.high' (code.extractLsb' 5 2)
  low' : Agrees fields.low' (code.extractLsb' 2 3)
  op : Agrees fields.op (code.extractLsb' 0 2)

def CodeFields.known (fields : CodeFields) (refuted : List (Pattern 32)) : Knowledge 32 where
  mask := (fieldsWord (maskOf fields.funct3) (maskOf fields.bit) (maskOf fields.high)
    (maskOf fields.low) (maskOf fields.high') (maskOf fields.low') (maskOf fields.op)).setWidth 32
  value := (fieldsWord (fields.funct3.getD 0) (fields.bit.getD 0) (fields.high.getD 0)
    (fields.low.getD 0) (fields.high'.getD 0) (fields.low'.getD 0) (fields.op.getD 0)).setWidth 32
  refuted := refuted

theorem CodeFields.Hold.describes {fields : CodeFields} {code : BitVec 16}
    {refuted : List (Pattern 32)} (hold : fields.Hold code)
    (refutes : ∀ pattern ∈ refuted, pattern.accepts (code.setWidth 32) = false) :
    (fields.known refuted).Describes (code.setWidth 32) where
  bits := by
    have parts := fieldsWord_and (code.extractLsb' 13 3) (maskOf fields.funct3)
      (code.extractLsb' 12 1) (maskOf fields.bit) (code.extractLsb' 10 2) (maskOf fields.high)
      (code.extractLsb' 7 3) (maskOf fields.low) (code.extractLsb' 5 2) (maskOf fields.high')
      (code.extractLsb' 2 3) (maskOf fields.low') (code.extractLsb' 0 2) (maskOf fields.op)
    rw [← code_fields code, hold.funct3.and_maskOf, hold.bit.and_maskOf, hold.high.and_maskOf,
      hold.low.and_maskOf, hold.high'.and_maskOf, hold.low'.and_maskOf, hold.op.and_maskOf]
      at parts
    simp only [CodeFields.known, ← BitVec.setWidth_and, parts]
  refuted := refutes

theorem refuted_of_field {pattern : Pattern 32} {code : BitVec 16} (start len : Nat)
    (bound : start + len ≤ 16)
    (covers : pattern.mask.extractLsb' start len = BitVec.allOnes len)
    (other : code.extractLsb' start len ≠ pattern.value.extractLsb' start len) :
    pattern.accepts (code.setWidth 32) = false := by
  simp only [Pattern.accepts, beq_eq_false_iff_ne, ne_eq]
  intro accepted
  apply other
  rw [← accepted]
  apply BitVec.eq_of_getLsbD_eq
  intro index inside
  have bit := congrArg (fun field : BitVec len => field.getLsbD index) covers
  simp only [BitVec.getLsbD_extractLsb', BitVec.getLsbD_allOnes, inside, decide_true,
    Bool.true_and] at bit
  simp [inside, bit]
  omega

theorem scan_of_search {known : Knowledge 32} {code : Word} (opcode : VliwOp)
    (describes : known.Describes code)
    (found : (known.search Optable.pattern optable).map (fun row => row.vliw) = some opcode) :
    scanCompressed code = (expandCompressed opcode code).map fun vlp => (true, vlp) := by
  obtain ⟨row, searched, rfl⟩ := Option.map_eq_some_iff.mp found
  have lookup : optableLookup code = some row :=
    Knowledge.search_sound describes Optable.pattern searched
  simp only [scanCompressed, lookup]

/-! Immediates: each expansion against the bits that the table puts together. -/

section Immediates

variable (code : BitVec 16)

def imm6Of : BitVec 6 := code.extractLsb' 12 1 ++ code.extractLsb' 2 5

def wordImmOf : BitVec 7 :=
  code.extractLsb' 5 1 ++ code.extractLsb' 10 3 ++ code.extractLsb' 6 1 ++ 0#2

def spnImmOf : BitVec 10 := code.extractLsb' 7 4 ++ code.extractLsb' 11 2 ++
  code.extractLsb' 5 1 ++ code.extractLsb' 6 1 ++ 0#2

def spImmOf : BitVec 10 := code.extractLsb' 12 1 ++ code.extractLsb' 3 2 ++
  code.extractLsb' 5 1 ++ code.extractLsb' 2 1 ++ code.extractLsb' 6 1 ++ 0#4

def jumpOffsetOf : BitVec 12 := code.extractLsb' 12 1 ++ code.extractLsb' 8 1 ++
  code.extractLsb' 9 2 ++ code.extractLsb' 6 1 ++ code.extractLsb' 7 1 ++
  code.extractLsb' 2 1 ++ code.extractLsb' 11 1 ++ code.extractLsb' 3 3 ++ 0#1

def branchOffsetOf : BitVec 9 := code.extractLsb' 12 1 ++ code.extractLsb' 5 2 ++
  code.extractLsb' 2 1 ++ code.extractLsb' 10 2 ++ code.extractLsb' 3 2 ++ 0#1

def loadImmOf : BitVec 8 :=
  code.extractLsb' 2 2 ++ code.extractLsb' 12 1 ++ code.extractLsb' 4 3 ++ 0#2

def storeImmOf : BitVec 8 := code.extractLsb' 7 2 ++ code.extractLsb' 9 4 ++ 0#2

theorem testMask_iff (word : Word) (index : Nat) (bound : index < 32) :
    word &&& BitVec.twoPow 32 index ≠ 0 ↔ word.getLsbD index = true := by
  have nonzero : BitVec.twoPow 32 index ≠ 0#32 := by
    intro equal
    have bit := congrArg (fun word : Word => word.getLsbD index) equal
    simp [bound] at bit
  rw [BitVec.and_twoPow]
  cases word.getLsbD index <;> simp [nonzero]

theorem testBit_iff (word : Word) (index : Nat) :
    (word >>> index) &&& 0x1 ≠ 0 ↔ word.getLsbD index = true := by
  have test := testMask_iff (word >>> index) 0 (by decide)
  rw [BitVec.getLsbD_ushiftRight, Nat.add_zero] at test
  exact test

theorem mkShamt_eq : mkShamt (code.setWidth 32) = (imm6Of code).setWidth 32 := by
  apply BitVec.eq_of_getLsbD_eq
  intro index inside
  simp only [mkShamt, imm6Of, BitVec.getLsbD_setWidth, BitVec.getLsbD_append, BitVec.getLsbD_and,
    BitVec.getLsbD_ushiftRight, BitVec.getLsbD_or, BitVec.getLsbD_shiftLeft,
    BitVec.getLsbD_extractLsb']
  interval_cases index <;> simp

theorem mkAddi_eq : mkAddi (code.setWidth 32) = (imm6Of code).signExtend 32 := by
  have field := mkShamt_eq code
  simp only [mkShamt] at field
  simp only [mkAddi, field]
  exact extendSign (imm6Of code) 6 (by decide) (by decide) (by decide)

theorem mkImm6_eq : mkImm6 (code.setWidth 32) = (imm6Of code).signExtend 32 := mkAddi_eq code

theorem mkAddi4spn_eq : mkAddi4spn (code.setWidth 32) = (spnImmOf code).setWidth 32 := by
  apply BitVec.eq_of_getLsbD_eq
  intro index inside
  simp only [mkAddi4spn, spnImmOf, BitVec.getLsbD_setWidth, BitVec.getLsbD_append,
    BitVec.getLsbD_and, BitVec.getLsbD_ushiftRight, BitVec.getLsbD_or, BitVec.getLsbD_shiftLeft,
    BitVec.getLsbD_extractLsb']
  interval_cases index <;> simp

theorem mkLwsp_eq : mkLwsp (code.setWidth 32) = (loadImmOf code).setWidth 32 := by
  apply BitVec.eq_of_getLsbD_eq
  intro index inside
  simp only [mkLwsp, loadImmOf, BitVec.getLsbD_setWidth, BitVec.getLsbD_append,
    BitVec.getLsbD_and, BitVec.getLsbD_ushiftRight, BitVec.getLsbD_or, BitVec.getLsbD_shiftLeft,
    BitVec.getLsbD_extractLsb']
  interval_cases index <;> simp

theorem mkSwsp_eq : mkSwsp (code.setWidth 32) = (storeImmOf code).setWidth 32 := by
  apply BitVec.eq_of_getLsbD_eq
  intro index inside
  simp only [mkSwsp, storeImmOf, BitVec.getLsbD_setWidth, BitVec.getLsbD_append,
    BitVec.getLsbD_and, BitVec.getLsbD_ushiftRight, BitVec.getLsbD_or, BitVec.getLsbD_shiftLeft,
    BitVec.getLsbD_extractLsb']
  interval_cases index <;> simp

theorem mkAddi16sp_eq : mkAddi16sp (code.setWidth 32) = (spImmOf code).signExtend 32 := by
  refine Eq.trans (congrArg (fun field : Word =>
    if field &&& 0x00000200 ≠ 0 then field ||| 0xfffffc00 else field) ?_)
    (extendSign (spImmOf code) 10 (by decide) (by decide) (by decide))
  apply BitVec.eq_of_getLsbD_eq
  intro index inside
  simp only [spImmOf, BitVec.getLsbD_setWidth, BitVec.getLsbD_append, BitVec.getLsbD_and,
    BitVec.getLsbD_ushiftRight, BitVec.getLsbD_or, BitVec.getLsbD_shiftLeft,
    BitVec.getLsbD_extractLsb']
  interval_cases index <;> simp

theorem extendTop {width : Nat} (field : BitVec width) (bit start : Nat) (positive : 0 < width)
    (bound : width ≤ 32) (reaches : width ≤ start + 1 ∧ start ≤ width) (inside : bit < 16)
    (top : field.getLsbD (width - 1) = code.getLsbD bit) :
    (if (code.setWidth 32 >>> bit) &&& 0x1 ≠ 0 then
        field.setWidth 32 ||| (BitVec.allOnes 32 <<< start)
      else field.setWidth 32) = field.signExtend 32 := by
  have same : (code.setWidth 32 >>> bit) &&& 0x1 ≠ 0 ↔
      field.setWidth 32 &&& BitVec.twoPow 32 (width - 1) ≠ 0 := by
    rw [testBit_iff, testMask_iff _ _ (by omega), BitVec.getLsbD_setWidth,
      BitVec.getLsbD_setWidth, top]
    simp only [show bit < 32 by omega, show width - 1 < 32 by omega]
  rw [← extendSign field start positive bound reaches]
  exact if_congr same rfl rfl

theorem mkSw_eq : mkSw (code.setWidth 32) = (wordImmOf code).signExtend 32 := by
  refine Eq.trans (congrArg (fun field : Word =>
    if (code.setWidth 32 >>> 5) &&& 0x1 ≠ 0 then field ||| 0xffffffc0 else field) ?_)
    (extendTop code (wordImmOf code) 5 6 (by decide) (by decide) (by decide) (by decide) ?_)
  · apply BitVec.eq_of_getLsbD_eq
    intro index inside
    simp only [wordImmOf, BitVec.getLsbD_setWidth, BitVec.getLsbD_append, BitVec.getLsbD_and,
      BitVec.getLsbD_ushiftRight, BitVec.getLsbD_or, BitVec.getLsbD_shiftLeft,
      BitVec.getLsbD_extractLsb']
    interval_cases index <;> simp
  · simp only [wordImmOf, BitVec.getLsbD_append, BitVec.getLsbD_extractLsb']
    simp

theorem jalOff_eq : jalOff (code.setWidth 32) = (jumpOffsetOf code).signExtend 32 := by
  refine Eq.trans (congrArg (fun field : Word =>
    if (code.setWidth 32 >>> 12) &&& 0x1 ≠ 0 then field ||| 0xfffff000 else field) ?_)
    (extendTop code (jumpOffsetOf code) 12 12 (by decide) (by decide) (by decide) (by decide) ?_)
  · apply BitVec.eq_of_getLsbD_eq
    intro index inside
    simp only [jumpOffsetOf, BitVec.getLsbD_setWidth, BitVec.getLsbD_append, BitVec.getLsbD_and,
      BitVec.getLsbD_ushiftRight, BitVec.getLsbD_or, BitVec.getLsbD_shiftLeft,
      BitVec.getLsbD_extractLsb']
    interval_cases index <;> simp
  · simp only [jumpOffsetOf, BitVec.getLsbD_append, BitVec.getLsbD_extractLsb']
    simp

theorem mkBeq_eq : mkBeq (code.setWidth 32) = (branchOffsetOf code).signExtend 32 := by
  refine Eq.trans (congrArg (fun field : Word =>
    if (code.setWidth 32 >>> 12) &&& 0x1 ≠ 0 then field ||| 0xfffffe00 else field) ?_)
    (extendTop code (branchOffsetOf code) 12 9 (by decide) (by decide) (by decide) (by decide) ?_)
  · apply BitVec.eq_of_getLsbD_eq
    intro index inside
    simp only [branchOffsetOf, BitVec.getLsbD_setWidth, BitVec.getLsbD_append, BitVec.getLsbD_and,
      BitVec.getLsbD_ushiftRight, BitVec.getLsbD_or, BitVec.getLsbD_shiftLeft,
      BitVec.getLsbD_extractLsb']
    interval_cases index <;> simp
  · simp only [branchOffsetOf, BitVec.getLsbD_append, BitVec.getLsbD_extractLsb']
    simp

end Immediates

theorem regMap3_eq (field : BitVec 3) : regMap3 field = 0b01#2 ++ field := by
  revert field
  decide

theorem extract_wide (code : BitVec 16) (start len : Nat) (bound : start + len ≤ 16) :
    (code.setWidth 32).extractLsb' start len = code.extractLsb' start len := by
  apply BitVec.eq_of_getLsbD_eq
  intro index inside
  simp only [BitVec.getLsbD_extractLsb', BitVec.getLsbD_setWidth]
  simp [show start + index < 32 by omega]

theorem rd_fields (code : BitVec 16) (high : BitVec 2) (low : BitVec 3) :
    code.extractLsb' 7 5 = high ++ low ↔ code.extractLsb' 10 2 = high ∧
      code.extractLsb' 7 3 = low := by
  have split : code.extractLsb' 7 5 = code.extractLsb' 10 2 ++ code.extractLsb' 7 3 := by
    apply BitVec.eq_of_getLsbD_eq
    intro index inside
    simp only [BitVec.getLsbD_append, BitVec.getLsbD_extractLsb']
    interval_cases index <;> simp
  have parts : ∀ (high high' : BitVec 2) (low low' : BitVec 3),
      (high ++ low : BitVec 5) = high' ++ low' ↔ high = high' ∧ low = low' := by
    decide
  rw [split]
  exact parts _ _ _ _

theorem signExtend_twice {width middle : Nat} (field : BitVec width) (grows : width ≤ middle)
    (bound : middle ≤ 32) : (field.signExtend middle).signExtend 32 = field.signExtend 32 := by
  apply BitVec.eq_of_toInt_eq
  rw [BitVec.toInt_signExtend_of_le bound, BitVec.toInt_signExtend_of_le grows,
    BitVec.toInt_signExtend_of_le (by omega)]

theorem signExtend_of_narrow {width middle : Nat} (field : BitVec width) (grows : width < middle)
    (bound : middle ≤ 32) : (field.setWidth middle).signExtend 32 = field.setWidth 32 := by
  have positive : (field.setWidth middle).msb = false := by
    rw [BitVec.msb_eq_getLsbD_last, BitVec.getLsbD_setWidth,
      BitVec.getLsbD_of_ge field (middle - 1) (by omega), Bool.and_false]
  have small : field.toNat < 2 ^ middle :=
    lt_of_lt_of_le field.isLt (Nat.pow_le_pow_right (by decide) (by omega))
  rw [BitVec.signExtend_eq_setWidth_of_msb_false positive]
  apply BitVec.eq_of_toNat_eq
  rw [BitVec.toNat_setWidth, BitVec.toNat_setWidth, Nat.mod_eq_of_lt small, BitVec.toNat_setWidth]

theorem displacement_of_even {width : Nat} (offset : BitVec (width + 1))
    (even : offset.getLsbD 0 = false) :
    displacement (offset.extractLsb' 1 width) = offset.signExtend 32 := by
  have whole : offset.extractLsb' 1 width ++ 0#1 = offset := by
    apply BitVec.eq_of_getLsbD_eq
    intro index inside
    rw [BitVec.getLsbD_append]
    by_cases first : index = 0
    · subst first
      rw [if_pos (by decide), even]
      rfl
    · rw [if_neg (by omega), BitVec.getLsbD_extractLsb']
      simp [show index - 1 < width by omega, show 1 + (index - 1) = index by omega]
  rw [displacement, whole]

def aloneResult : Except Abort (Bool × Vliw) → Option Vliw
  | .ok result => if result.1 then some result.2 else none
  | .error _ => none

def tableAlone (code : BitVec 16) : Option Vliw :=
  if decomp16Table code = 0 then none else aloneResult (decodeAlone (decomp16Table code))

def directAlone (code : BitVec 16) : Option Vliw :=
  aloneResult (scanCompressed (code.setWidth 32))

theorem accepted_eq (outcome : Except Abort Decoded) :
    accepted outcome = aloneResult (outcome.map Decoded.result) := by
  cases outcome <;> rfl

theorem tablePath_alone {tables : DecodeTables} (sound : tables.Sound) (addr : Word)
    (code : BitVec 16) : tablePath tables addr code = tableAlone code := by
  simp only [tablePath, tableAlone, accepted_eq, sound.transparent]

theorem table_some {code : BitVec 16} {vlp : Vliw}
    (decoded : decodeAlone (decomp16Table code) = .ok (true, vlp)) : tableAlone code = some vlp := by
  have nonzero : decomp16Table code ≠ 0 := by
    intro isZero
    rw [isZero] at decoded
    have refused : decodeAlone 0 = .error (.exit (-1) "Not found: %s, 0x%08x, 0x%08x, %s\n" 0) := by
      rfl
    rw [refused] at decoded
    simp at decoded
  simp only [tableAlone, if_neg nonzero, decoded]
  rfl

theorem table_none {code : BitVec 16} (isZero : decomp16Table code = 0) :
    tableAlone code = none := by
  simp only [tableAlone, isZero, if_true]

theorem direct_some {code : BitVec 16} {fields : CodeFields} {refuted : List (Pattern 32)}
    {vlp : Vliw} (opcode : VliwOp) (hold : fields.Hold code)
    (refutes : ∀ pattern ∈ refuted, pattern.accepts (code.setWidth 32) = false)
    (found : ((fields.known refuted).search Optable.pattern optable).map (fun row => row.vliw) =
      some opcode)
    (expands : expandCompressed opcode (code.setWidth 32) = .ok vlp) :
    directAlone code = some vlp := by
  simp only [directAlone, scan_of_search opcode (hold.describes refutes) found, expands, map_ok]
  rfl

theorem direct_none {code : BitVec 16} {fields : CodeFields} {refuted : List (Pattern 32)}
    (opcode : VliwOp) (hold : fields.Hold code)
    (refutes : ∀ pattern ∈ refuted, pattern.accepts (code.setWidth 32) = false)
    (found : ((fields.known refuted).search Optable.pattern optable).map (fun row => row.vliw) =
      some opcode)
    (fails : ∃ abort, expandCompressed opcode (code.setWidth 32) = .error abort) :
    directAlone code = none := by
  obtain ⟨abort, fails⟩ := fails
  simp only [directAlone, scan_of_search opcode (hold.describes refutes) found, fails]
  rfl

end RiscVFast
