import RiscVFast.ControlTransfer
import RiscVFast.Immediates
import RiscVFast.LoadStore
import RiscVFast.Writes

/-! The printed C does what the interpreter does. -/

namespace RiscVFast

open Rv32i hiding Word
open CInt Fallible

section Fields

variable (funct7 : BitVec 7) (rs2 rs1 : Reg) (funct3 : BitVec 3) (rd : Reg) (opcode : BitVec 7)

@[simp] theorem rType_funct3 :
    (rType funct7 rs2 rs1 funct3 rd opcode).extractLsb' 12 3 = funct3 := by
  apply BitVec.eq_of_getLsbD_eq
  intro index inside
  simp only [rType, BitVec.getLsbD_extractLsb', BitVec.getLsbD_append]
  interval_cases index <;> simp

@[simp] theorem rType_opcode :
    (rType funct7 rs2 rs1 funct3 rd opcode).extractLsb' 0 7 = opcode := by
  apply BitVec.eq_of_getLsbD_eq
  intro index inside
  simp only [rType, BitVec.getLsbD_extractLsb', BitVec.getLsbD_append]
  interval_cases index <;> simp

end Fields

/-! The upper immediate is the decoder's, too. -/

theorem imm20_eq (word : Word) :
    word &&& (0xfffff000 : Word) =
      (if (word >>> 12) &&& 0x000fffff &&& 0x00080000 ≠ 0 then
        (word >>> 12) &&& 0x000fffff ||| 0xfff00000
      else (word >>> 12) &&& 0x000fffff) <<< 12 := by
  rw [word_uType word, imm20_uType]
  generalize word.extractLsb' 12 20 = imm
  apply BitVec.eq_of_getLsbD_eq
  intro index inside
  simp only [uType, BitVec.getLsbD_and, BitVec.getLsbD_append]
  interval_cases index <;> simp

/-! The row behind a decode, and what it says of the word. -/

structure Optable.Known (row : Optable) (known7 : Option (BitVec 7)) (known3 : Option (BitVec 3))
    (opcode : BitVec 7) (items : List String) : Prop where
  code : row.code = (knownFields known7 known3 none opcode []).value
  mask : row.mask = (knownFields known7 known3 none opcode []).mask
  items : row.items.tail = items

instance (row : Optable) (known7 : Option (BitVec 7)) (known3 : Option (BitVec 3))
    (opcode : BitVec 7) (items : List String) : Decidable (row.Known known7 known3 opcode items) :=
  decidable_of_iff
    (row.code = (knownFields known7 known3 none opcode []).value ∧
      row.mask = (knownFields known7 known3 none opcode []).mask ∧ row.items.tail = items)
    ⟨fun parts => ⟨parts.1, parts.2.1, parts.2.2⟩,
      fun known => ⟨known.code, known.mask, known.items⟩⟩

theorem agrees_of_and {width : Nat} {known : Option (BitVec width)} {field : BitVec width}
    (equal : field &&& maskOf known = known.getD 0) : Agrees known field := by
  rintro value rfl
  simpa [maskOf] using equal

structure HasFields (word : Word) (known7 : Option (BitVec 7)) (known3 : Option (BitVec 3))
    (opcode : BitVec 7) : Prop where
  funct7 : Agrees known7 (word.extractLsb' 25 7)
  funct3 : Agrees known3 (word.extractLsb' 12 3)
  opcode : word.extractLsb' 0 7 = opcode

theorem Optable.Known.fields {row : Optable} {known7 : Option (BitVec 7)}
    {known3 : Option (BitVec 3)} {opcode : BitVec 7} {items : List String} {word : Word}
    (known : row.Known known7 known3 opcode items) (matched : row.matches word = true) :
    HasFields word known7 known3 opcode := by
  simp only [Optable.matches, beq_iff_eq, known.code, known.mask, knownFields] at matched
  rw [word_rType word, rType_and] at matched
  have high := congrArg (fun word : Word => word.extractLsb' 25 7) matched
  have middle := congrArg (fun word : Word => word.extractLsb' 12 3) matched
  have low := congrArg (fun word : Word => word.extractLsb' 0 7) matched
  simp only [rType_funct7, rType_funct3, rType_opcode, BitVec.and_allOnes] at high middle low
  exact ⟨agrees_of_and high, agrees_of_and middle, low⟩

theorem row_of_decode {word : Word} {vlp : Vliw} (wide : isWide word = true)
    (decoded : decodeAlone word = .ok (true, vlp)) :
    ∃ row ∈ optable, row.vliw = vlp.opcode ∧ row.matches word = true ∧
      decodeItems word row.items.tail (Vliw.ofOpcode vlp.opcode) = .ok vlp := by
  rw [decodeAlone_wide word wide, scanWide] at decoded
  split at decoded
  · simp at decoded
  · rename_i row found
    obtain ⟨vlp', fromRow, same⟩ := map_eq_ok.mp decoded
    simp only [Prod.mk.injEq, true_and] at same
    subst same
    have opcodes : vlp'.opcode = row.vliw := decodeItems_opcode fromRow
    unfold optableLookup at found
    have matched := List.find?_some found
    refine ⟨row, List.mem_of_find?_eq_some found, opcodes.symm, matched, ?_⟩
    rw [opcodes]
    exact fromRow

theorem fields_of_decode {word : Word} {vlp : Vliw} {known7 : Option (BitVec 7)}
    {known3 : Option (BitVec 3)} {opcode : BitVec 7} {items : List String}
    (wide : isWide word = true) (decoded : decodeAlone word = .ok (true, vlp))
    (only : ∀ row ∈ optable, row.vliw = vlp.opcode → row.Known known7 known3 opcode items) :
    HasFields word known7 known3 opcode ∧
      decodeItems word items (Vliw.ofOpcode vlp.opcode) = .ok vlp := by
  obtain ⟨row, member, opcodes, matched, fromRow⟩ := row_of_decode wide decoded
  have known := only row member opcodes
  refine ⟨known.fields matched, ?_⟩
  rw [← known.items]
  exact fromRow

/-! Expressions. -/

def Machine.Yields (s : Machine) (expr : CExpr) (bits : Word) : Prop :=
  ∃ kind, expr.eval s.variable = some ⟨kind, bits⟩

section Expressions

variable {s : Machine} {left right : CExpr} {a b : Word}

theorem eval_register (s : Machine) (n : Reg) :
    (register n).eval s.variable = some ⟨.unsigned, s.cpu.reg n⟩ := rfl

theorem eval_decimal (s : Machine) (value : Word) :
    (Expr.decimal value).eval s.variable = some ⟨.int, value⟩ := rfl

theorem yields_register (s : Machine) (n : Reg) : s.Yields (register n) (s.cpu.reg n) :=
  ⟨.unsigned, eval_register s n⟩

theorem yields_decimal (s : Machine) (value : Word) : s.Yields (.decimal value) value :=
  ⟨.int, eval_decimal s value⟩

theorem yields_hex (s : Machine) (value : Word) : s.Yields (.hex value) value :=
  ⟨.ofHex value, rfl⟩

theorem yields_registerOrZero (zero : s.cpu.reg 0 = 0) (n : Reg) :
    s.Yields (registerOrZero n) (s.cpu.reg n) := by
  unfold registerOrZero
  split
  · rename_i isZero
    rw [isZero, zero]
    exact yields_decimal s 0
  · exact yields_register s n

theorem yields_add (n : Reg) (addend : s.Yields right b) :
    s.Yields (.binary .add (register n) right) (s.cpu.reg n + b) := by
  obtain ⟨kind, evaluated⟩ := addend
  exact ⟨.unsigned, Expr.eval_binary .add (eval_register s n) evaluated⟩

theorem yields_add_zero (zero : s.cpu.reg 0 = 0) (n m : Reg) :
    s.Yields (.binary .add (registerOrZero n) (registerOrZero m)) (s.cpu.reg n + s.cpu.reg m) := by
  by_cases isZero : n = 0
  · by_cases isZero' : m = 0
    · subst isZero isZero'
      refine ⟨.int, ?_⟩
      rw [zero]
      rfl
    · subst isZero
      rw [zero]
      refine ⟨.unsigned, ?_⟩
      simp only [registerOrZero, if_true, isZero', if_false]
      exact Expr.eval_binary .add (eval_decimal s 0) (eval_register s m)
  · have operand := yields_add n (yields_registerOrZero zero m)
    simpa only [registerOrZero, isZero, if_false] using operand

theorem yields_less_signed (first : s.Yields left a) (second : s.Yields right b) :
    (Expr.binary .lt (signed left) (signed right)).eval s.variable = some (truth (a.slt b)) := by
  obtain ⟨kind, evaluated⟩ := first
  obtain ⟨kind', evaluated'⟩ := second
  exact Expr.eval_binary .lt (Expr.eval_cast .int evaluated) (Expr.eval_cast .int evaluated')

theorem yields_less_unsigned (first : s.Yields left a) (second : s.Yields right b) :
    (Expr.binary .lt (unsigned left) (unsigned right)).eval s.variable =
      some (truth (a.ult b)) := by
  obtain ⟨kind, evaluated⟩ := first
  obtain ⟨kind', evaluated'⟩ := second
  exact Expr.eval_binary .lt (Expr.eval_cast .unsigned evaluated)
    (Expr.eval_cast .unsigned evaluated')

theorem yields_flag {test : CExpr} {flag : Bool}
    (evaluated : test.eval s.variable = some (truth flag)) :
    s.Yields (flagOf test) (ofBool flag) := by
  refine ⟨.int, ?_⟩
  cases flag with
  | false =>
      exact @Expr.eval_choose _ _ test (.decimal 1) (.decimal 0) false _ evaluated (eval_decimal s 0)
  | true =>
      exact @Expr.eval_choose _ _ test (.decimal 1) (.decimal 0) true _ evaluated (eval_decimal s 1)

theorem yields_bitwise (n : Reg) (second : s.Yields right b) :
    s.Yields (.binary .bitXor (register n) right) (s.cpu.reg n ^^^ b) ∧
      s.Yields (.binary .bitOr (register n) right) (s.cpu.reg n ||| b) ∧
      s.Yields (.binary .bitAnd (register n) right) (s.cpu.reg n &&& b) := by
  obtain ⟨kind, evaluated⟩ := second
  have register := eval_register s n
  exact ⟨⟨.unsigned, Expr.eval_binary .bitXor register evaluated⟩,
    ⟨.unsigned, Expr.eval_binary .bitOr register evaluated⟩,
    ⟨.unsigned, Expr.eval_binary .bitAnd register evaluated⟩⟩

theorem yields_sub (n m : Reg) :
    s.Yields (.binary .sub (register n) (register m)) (s.cpu.reg n - s.cpu.reg m) :=
  ⟨.unsigned, Expr.eval_binary .sub (eval_register s n) (eval_register s m)⟩

theorem yields_shiftCount (s : Machine) (n : Reg) :
    s.Yields (shiftCount n) (s.cpu.reg n &&& 0x1f) :=
  (yields_bitwise n (yields_hex s 0x1f)).2.2

theorem shiftCount_lt (amount : Word) : (amount &&& 0x1f).toNat < 32 := by
  rw [shiftAmount]
  omega

theorem yields_shl (n : Reg) (second : s.Yields right (a &&& 0x1f)) :
    s.Yields (.binary .shl (register n) right) (s.cpu.reg n <<< (a &&& 0x1f).toNat) := by
  obtain ⟨kind, evaluated⟩ := second
  refine ⟨.unsigned, ?_⟩
  rw [Expr.eval_binary .shl (eval_register s n) evaluated]
  exact Operator.apply_shl (shiftCount_lt a)

theorem yields_shr (n : Reg) (second : s.Yields right (a &&& 0x1f)) :
    s.Yields (.binary .shr (unsigned (register n)) right) (s.cpu.reg n >>> (a &&& 0x1f).toNat) ∧
      s.Yields (.binary .shr (signed (register n)) right)
        ((s.cpu.reg n).sshiftRight (a &&& 0x1f).toNat) := by
  obtain ⟨kind, evaluated⟩ := second
  have source := eval_register s n
  constructor
  · refine ⟨.unsigned, ?_⟩
    rw [unsigned, Expr.eval_binary .shr (Expr.eval_cast .unsigned source) evaluated]
    exact Operator.apply_shr_unsigned (shiftCount_lt a)
  · refine ⟨.int, ?_⟩
    rw [signed, Expr.eval_binary .shr (Expr.eval_cast .int source) evaluated]
    exact Operator.apply_shr_int (shiftCount_lt a)

end Expressions

/-! Statements. -/

def Machine.at (s : Machine) (pc : Word) : Machine :=
  { s with cpu.pc := pc }.fallThrough (pc + 4)

structure SameOutcome (t : Machine) (result : Machine × Word) : Prop where
  reg : result.1.cpu.reg = t.cpu.reg
  memory : result.1.memory = t.memory
  events : result.1.events = t.events
  next : result.2 = t.cpu.pcNext

def Translates (cfg : Config) (pc : Word) (statements : List Statement) (vlp : Vliw)
    (s : Machine) : Prop :=
  ∀ t, execute cfg vlp (s.at pc) = .ok t →
    ∃ result, runThreaded cfg pc statements s = some result ∧ SameOutcome t result

theorem assign_register (s : Machine) (n : Reg) (value : Word) :
    s.assign (register n) value = some (s.setReg n value) := rfl

theorem translates_set {cfg : Config} {pc : Word} {vlp : Vliw} {s : Machine} {value : CExpr}
    {result : Word} (zero : s.cpu.reg 0 = 0) (links : vlp.rd ≠ 0)
    (dispatched : dispatch cfg vlp (s.at pc) = .ok ((s.at pc).setReg vlp.rd result))
    (yields : s.Yields value result) :
    Translates cfg pc [.label pc, .assign (register vlp.rd) value] vlp s := by
  intro t executed
  have start : (s.at pc).cpu.reg 0 = 0 := zero
  rw [execute_setReg start dispatched, Except.ok.injEq] at executed
  obtain ⟨kind, evaluated⟩ := yields
  refine ⟨(s.setReg vlp.rd result, pc + 4), ?_, ?_⟩
  · simp only [runThreaded, runStatements, Statement.run, evaluated, assign_register,
      Option.bind_eq_bind, Option.bind_some, Option.map_some, Option.getD_none]
  · rw [← executed]
    exact ⟨(if_neg links).symm, rfl, rfl, rfl⟩

/-! The rows of the base instruction set. -/

structure RowFormat where
  known7 : Option (BitVec 7)
  known3 : Option (BitVec 3)
  opcode : BitVec 7
  items : List String

def immFormat (op : ImmOp) : RowFormat := ⟨none, some op.funct3, 0x13, ["rd", "rs", "simm12"]⟩

def shiftFormat (op : ShiftOp) : RowFormat :=
  ⟨some op.funct7, some op.funct3, 0x13, ["rd", "rs1", "shamt"]⟩

def regFormat (op : RegOp) : RowFormat :=
  ⟨some op.funct7, some op.funct3, 0x33, ["rd", "rs1", "rs2"]⟩

def branchFormat (op : BranchOp) : RowFormat :=
  ⟨none, some op.funct3, 0x63, ["rs1", "rs2", "boff"]⟩

def loadFormat (op : LoadOp) : RowFormat := ⟨none, some op.funct3, 0x03, ["rd", "rs", "simm12"]⟩

def storeFormat (op : StoreOp) : RowFormat :=
  ⟨none, some op.funct3, 0x23, ["rs2", "rs1", "s2imm12"]⟩

def formatOf : VliwOp → Option RowFormat
  | .addi => some (immFormat .addi)
  | .slti => some (immFormat .slti)
  | .sltiu => some (immFormat .sltiu)
  | .xori => some (immFormat .xori)
  | .ori => some (immFormat .ori)
  | .andi => some (immFormat .andi)
  | .slli => some (shiftFormat .slli)
  | .srli => some (shiftFormat .srli)
  | .srai => some (shiftFormat .srai)
  | .add => some (regFormat .add)
  | .sub => some (regFormat .sub)
  | .sll => some (regFormat .sll)
  | .slt => some (regFormat .slt)
  | .sltu => some (regFormat .sltu)
  | .xor => some (regFormat .xor)
  | .srl => some (regFormat .srl)
  | .sra => some (regFormat .sra)
  | .or => some (regFormat .or)
  | .and => some (regFormat .and)
  | .lui => some ⟨none, none, 0x37, ["rd", "imm20"]⟩
  | .auipc => some ⟨none, none, 0x17, ["rd", "imm20"]⟩
  | .jal => some ⟨none, none, 0x6f, ["rd", "joff"]⟩
  | .jalr => some ⟨none, some 0, 0x67, ["rd", "rs1", "simm12"]⟩
  | .beq => some (branchFormat .beq)
  | .bne => some (branchFormat .bne)
  | .blt => some (branchFormat .blt)
  | .bge => some (branchFormat .bge)
  | .bltu => some (branchFormat .bltu)
  | .bgeu => some (branchFormat .bgeu)
  | .lb => some (loadFormat .lb)
  | .lh => some (loadFormat .lh)
  | .lw => some (loadFormat .lw)
  | .lbu => some (loadFormat .lbu)
  | .lhu => some (loadFormat .lhu)
  | .sb => some (storeFormat .sb)
  | .sh => some (storeFormat .sh)
  | .sw => some (storeFormat .sw)
  | _ => none

theorem format_rows : ∀ row ∈ optable, ∀ format ∈ formatOf row.vliw,
    row.Known format.known7 format.known3 format.opcode format.items := by
  decide +kernel

theorem rows_of_format {vliw : VliwOp} {format : RowFormat} (known : formatOf vliw = some format) :
    ∀ row ∈ optable, row.vliw = vliw →
      row.Known format.known7 format.known3 format.opcode format.items := by
  rintro row member rfl
  exact format_rows row member format known

theorem imm_rows (op : ImmOp) : ∀ row ∈ optable, row.vliw = immOpcode op →
    row.Known none (some op.funct3) 0x13 ["rd", "rs", "simm12"] := by
  have known : formatOf (immOpcode op) = some (immFormat op) := by
    cases op <;> rfl
  exact rows_of_format known

theorem shift_rows (op : ShiftOp) : ∀ row ∈ optable, row.vliw = shiftOpcode op →
    row.Known (some op.funct7) (some op.funct3) 0x13 ["rd", "rs1", "shamt"] := by
  have known : formatOf (shiftOpcode op) = some (shiftFormat op) := by
    cases op <;> rfl
  exact rows_of_format known

theorem reg_rows (op : RegOp) : ∀ row ∈ optable, row.vliw = regOpcode op →
    row.Known (some op.funct7) (some op.funct3) 0x33 ["rd", "rs1", "rs2"] := by
  have known : formatOf (regOpcode op) = some (regFormat op) := by
    cases op <;> rfl
  exact rows_of_format known

theorem lui_rows : ∀ row ∈ optable, row.vliw = .lui → row.Known none none 0x37 ["rd", "imm20"] :=
  @rows_of_format .lui ⟨none, none, 0x37, ["rd", "imm20"]⟩ rfl

theorem auipc_rows : ∀ row ∈ optable, row.vliw = .auipc →
    row.Known none none 0x17 ["rd", "imm20"] :=
  @rows_of_format .auipc ⟨none, none, 0x17, ["rd", "imm20"]⟩ rfl

theorem jal_rows : ∀ row ∈ optable, row.vliw = .jal → row.Known none none 0x6f ["rd", "joff"] :=
  @rows_of_format .jal ⟨none, none, 0x6f, ["rd", "joff"]⟩ rfl

theorem jalr_rows : ∀ row ∈ optable, row.vliw = .jalr →
    row.Known none (some 0) 0x67 ["rd", "rs1", "simm12"] :=
  @rows_of_format .jalr ⟨none, some 0, 0x67, ["rd", "rs1", "simm12"]⟩ rfl

theorem branch_rows (op : BranchOp) : ∀ row ∈ optable, row.vliw = branchOpcode op →
    row.Known none (some op.funct3) 0x63 ["rs1", "rs2", "boff"] := by
  have known : formatOf (branchOpcode op) = some (branchFormat op) := by
    cases op <;> rfl
  exact rows_of_format known

theorem load_rows (op : LoadOp) : ∀ row ∈ optable, row.vliw = loadOpcode op →
    row.Known none (some op.funct3) 0x03 ["rd", "rs", "simm12"] := by
  have known : formatOf (loadOpcode op) = some (loadFormat op) := by
    cases op <;> rfl
  exact rows_of_format known

theorem store_rows (op : StoreOp) : ∀ row ∈ optable, row.vliw = storeOpcode op →
    row.Known none (some op.funct3) 0x23 ["rs2", "rs1", "s2imm12"] := by
  have known : formatOf (storeOpcode op) = some (storeFormat op) := by
    cases op <;> rfl
  exact rows_of_format known

/-! The operands of each row. -/

section Items

variable (word : Word) (op : VliwOp)

theorem items_reg : decodeItems word ["rd", "rs1", "rs2"] (Vliw.ofOpcode op) =
    .ok ⟨op, word.extractLsb' 7 5, word.extractLsb' 15 5, word.extractLsb' 20 5, 0⟩ := by
  simp [decodeItems, decodeItem, Vliw.ofOpcode]

theorem items_imm : decodeItems word ["rd", "rs", "simm12"] (Vliw.ofOpcode op) =
    .ok ⟨op, word.extractLsb' 7 5, word.extractLsb' 15 5, 0, mkSimm12 word⟩ := by
  simp [decodeItems, decodeItem, Vliw.ofOpcode]

theorem items_jalr : decodeItems word ["rd", "rs1", "simm12"] (Vliw.ofOpcode op) =
    .ok ⟨op, word.extractLsb' 7 5, word.extractLsb' 15 5, 0, mkSimm12 word⟩ := by
  simp [decodeItems, decodeItem, Vliw.ofOpcode]

theorem items_shift : decodeItems word ["rd", "rs1", "shamt"] (Vliw.ofOpcode op) =
    .ok ⟨op, word.extractLsb' 7 5, word.extractLsb' 15 5, 0, (word >>> 20) &&& 0x1f⟩ := by
  simp [decodeItems, decodeItem, Vliw.ofOpcode]

theorem items_upper : decodeItems word ["rd", "imm20"] (Vliw.ofOpcode op) =
    .ok ⟨op, word.extractLsb' 7 5, 0, 0,
      if (word >>> 12) &&& 0x000fffff &&& 0x00080000 ≠ 0 then
        (word >>> 12) &&& 0x000fffff ||| 0xfff00000
      else (word >>> 12) &&& 0x000fffff⟩ := by
  simp [decodeItems, decodeItem, Vliw.ofOpcode]

theorem items_jal : decodeItems word ["rd", "joff"] (Vliw.ofOpcode op) =
    .ok ⟨op, word.extractLsb' 7 5, 0, 0, joffImm word⟩ := by
  simp [decodeItems, decodeItem, Vliw.ofOpcode]

theorem items_branch : decodeItems word ["rs1", "rs2", "boff"] (Vliw.ofOpcode op) =
    .ok ⟨op, 0, word.extractLsb' 15 5, word.extractLsb' 20 5, doBoff word⟩ := by
  simp [decodeItems, decodeItem, Vliw.ofOpcode]

theorem items_store : decodeItems word ["rs2", "rs1", "s2imm12"] (Vliw.ofOpcode op) =
    .ok ⟨op, 0, word.extractLsb' 15 5, word.extractLsb' 20 5, doS2imm12 word⟩ := by
  simp [decodeItems, decodeItem, Vliw.ofOpcode]

end Items

/-! The switch of `rv_insn`. -/

section Switch

variable {doNewlib : Bool} {pc word : Word}

theorem rvInsn_of_alu (opcode : word.extractLsb' 0 7 = 0x33) :
    rvInsn doNewlib pc word = .label pc ::
      compileAlu (word.extractLsb' 12 3) (word.extractLsb' 25 7) (word.extractLsb' 7 5)
        (word.extractLsb' 15 5) (word.extractLsb' 20 5) := by
  simp only [rvInsn, opcode]
  rfl

theorem rvInsn_of_alui (opcode : word.extractLsb' 0 7 = 0x13) :
    rvInsn doNewlib pc word = .label pc ::
      compileAlui word (word.extractLsb' 12 3) (word.extractLsb' 25 7) (word.extractLsb' 7 5)
        (word.extractLsb' 15 5) (rvInsnImmediates word).i := by
  simp only [rvInsn, opcode]
  rfl

theorem rvInsn_of_lui (opcode : word.extractLsb' 0 7 = 0x37) :
    rvInsn doNewlib pc word =
      [.label pc, .assign (register (word.extractLsb' 7 5)) (.hex (word &&& 0xfffff000))] := by
  simp only [rvInsn, opcode]
  rfl

theorem rvInsn_of_auipc (opcode : word.extractLsb' 0 7 = 0x17) :
    rvInsn doNewlib pc word =
      [.label pc, .assign (register (word.extractLsb' 7 5)) (.hex (pc + (word &&& 0xfffff000)))] := by
  simp only [rvInsn, opcode]
  rfl

theorem rvInsn_of_store (opcode : word.extractLsb' 0 7 = 0x23) :
    rvInsn doNewlib pc word = .label pc ::
      compileStore word (word.extractLsb' 12 3) (word.extractLsb' 15 5)
        (word.extractLsb' 20 5) := by
  simp only [rvInsn, opcode]
  rfl

theorem rvInsn_of_load (opcode : word.extractLsb' 0 7 = 0x03) :
    rvInsn doNewlib pc word = .label pc ::
      compileLoad word (word.extractLsb' 12 3) (word.extractLsb' 7 5)
        (word.extractLsb' 15 5) := by
  simp only [rvInsn, opcode]
  rfl

theorem rvInsn_of_jal (opcode : word.extractLsb' 0 7 = 0x6f) :
    rvInsn doNewlib pc word = .label pc :: compileJal pc word (word.extractLsb' 7 5) := by
  simp only [rvInsn, opcode]
  rfl

theorem rvInsn_of_jalr (opcode : word.extractLsb' 0 7 = 0x67) :
    rvInsn doNewlib pc word = .label pc ::
      compileJalr pc (word.extractLsb' 7 5) (word.extractLsb' 15 5) (rvInsnImmediates word).i := by
  simp only [rvInsn, opcode]
  rfl

theorem rvInsn_of_branch (opcode : word.extractLsb' 0 7 = 0x63) :
    rvInsn doNewlib pc word = .label pc ::
      compileBranch pc word (word.extractLsb' 12 3) (word.extractLsb' 15 5)
        (word.extractLsb' 20 5) := by
  simp only [rvInsn, opcode]
  rfl

end Switch

/-! Computational instructions. -/

section Computational

variable {cfg : Config} {pc word : Word} {vlp : Vliw} {s : Machine}

theorem registerOrZero_of_ne {n : Reg} (nonzero : n ≠ 0) : registerOrZero n = register n := by
  simp only [registerOrZero, if_neg nonzero]

theorem compileAlu_sets (op : RegOp) (rd rs1 rs2 : Reg) (links : rd ≠ 0)
    (zero : s.cpu.reg 0 = 0) :
    ∃ value, compileAlu op.funct3 op.funct7 rd rs1 rs2 = [.assign (register rd) value] ∧
      s.Yields value (op.eval (s.cpu.reg rs1) (s.cpu.reg rs2)) := by
  cases op with
  | add =>
      rw [← registerOrZero_of_ne links]
      exact ⟨_, rfl, yields_add_zero zero rs1 rs2⟩
  | sub => exact ⟨_, rfl, yields_sub rs1 rs2⟩
  | sll =>
      have amount := yields_shl rs1 (yields_shiftCount s rs2)
      rw [shiftAmount] at amount
      exact ⟨_, rfl, amount⟩
  | slt =>
      exact ⟨_, rfl, yields_flag (yields_less_signed (yields_register s rs1)
        (yields_register s rs2))⟩
  | sltu =>
      exact ⟨_, rfl, yields_flag (yields_less_unsigned (yields_register s rs1)
        (yields_register s rs2))⟩
  | xor => exact ⟨_, rfl, (yields_bitwise rs1 (yields_register s rs2)).1⟩
  | srl =>
      have amount := (yields_shr rs1 (yields_shiftCount s rs2)).1
      rw [shiftAmount] at amount
      exact ⟨_, rfl, amount⟩
  | sra =>
      have amount := (yields_shr rs1 (yields_shiftCount s rs2)).2
      rw [shiftAmount] at amount
      exact ⟨_, rfl, amount⟩
  | or => exact ⟨_, rfl, (yields_bitwise rs1 (yields_register s rs2)).2.1⟩
  | and => exact ⟨_, rfl, (yields_bitwise rs1 (yields_register s rs2)).2.2⟩

theorem compileAlui_shift (op : ShiftOp) (insn imm12 : Word) (rd rs1 : Reg) :
    ∃ value, compileAlui insn op.funct3 op.funct7 rd rs1 imm12 = [.assign (register rd) value] ∧
      s.Yields value (op.eval (s.cpu.reg rs1) (imm12 &&& 0x1f).toNat) := by
  have amount := yields_hex s (imm12 &&& 0x1f)
  cases op with
  | slli => exact ⟨_, rfl, yields_shl rs1 amount⟩
  | srli => exact ⟨_, rfl, (yields_shr rs1 amount).1⟩
  | srai => exact ⟨_, rfl, (yields_shr rs1 amount).2⟩

theorem compileAlui_addi (insn imm12 : Word) (funct7 : BitVec 7) (rd rs1 : Reg) (links : rd ≠ 0)
    (other : insn ≠ 0x00000013) (zero : s.cpu.reg 0 = 0) :
    ∃ value, compileAlui insn 0 funct7 rd rs1 imm12 = [.assign (register rd) value] ∧
      s.Yields value (s.cpu.reg rs1 + imm12) := by
  have printed : compileAlui insn 0 funct7 rd rs1 imm12 =
      if imm12 = 0 then [.assign (register rd) (registerOrZero rs1)]
      else if rs1 = 0 then [.assign (register rd) (.decimal imm12)]
      else [.assign (register rd) (.binary .add (registerOrZero rs1) (.decimal imm12))] := by
    rw [← registerOrZero_of_ne links]
    exact if_neg other
  rw [printed]
  split
  · rename_i noOffset
    rw [noOffset, add_zero]
    exact ⟨_, rfl, yields_registerOrZero zero rs1⟩
  · split
    · rename_i noSource
      rw [noSource, zero, zero_add]
      exact ⟨_, rfl, yields_decimal s imm12⟩
    · rename_i source
      rw [registerOrZero_of_ne source]
      exact ⟨_, rfl, yields_add rs1 (yields_decimal s imm12)⟩

theorem compileAlui_sets (op : ImmOp) (insn imm12 : Word) (funct7 : BitVec 7) (rd rs1 : Reg)
    (links : rd ≠ 0) (other : insn ≠ 0x00000013) (zero : s.cpu.reg 0 = 0) :
    ∃ value, compileAlui insn op.funct3 funct7 rd rs1 imm12 = [.assign (register rd) value] ∧
      s.Yields value (op.eval (s.cpu.reg rs1) imm12) := by
  have source := yields_register s rs1
  have constant := yields_decimal s imm12
  cases op with
  | addi => exact compileAlui_addi insn imm12 funct7 rd rs1 links other zero
  | slti => exact ⟨_, rfl, yields_flag (yields_less_signed source constant)⟩
  | sltiu => exact ⟨_, rfl, yields_flag (yields_less_unsigned source constant)⟩
  | xori => exact ⟨_, rfl, (yields_bitwise rs1 constant).1⟩
  | ori => exact ⟨_, rfl, (yields_bitwise rs1 constant).2.1⟩
  | andi => exact ⟨_, rfl, (yields_bitwise rs1 constant).2.2⟩

theorem shamt_eq (word : Word) :
    (signedImmediates word).i &&& (0x1f : Word) = (word >>> 20) &&& 0x1f := by
  rw [signedImmediates]
  apply BitVec.eq_of_getLsbD_eq
  intro index inside
  simp only [BitVec.getLsbD_and, BitVec.getLsbD_sshiftRight, BitVec.getLsbD_ushiftRight]
  interval_cases index <;> simp

theorem translates_reg (op : RegOp) (wide : isWide word = true)
    (decoded : decodeAlone word = .ok (true, vlp)) (opcode : vlp.opcode = regOpcode op)
    (links : vlp.rd ≠ 0) (zero : s.cpu.reg 0 = 0) :
    Translates cfg pc (rvInsn cfg.doNewlib pc word) vlp s := by
  obtain ⟨fields, items⟩ := fields_of_decode wide decoded (by rw [opcode]; exact reg_rows op)
  rw [opcode, items_reg, Except.ok.injEq] at items
  subst items
  obtain ⟨value, printed, yields⟩ := compileAlu_sets op (word.extractLsb' 7 5)
    (word.extractLsb' 15 5) (word.extractLsb' 20 5) links zero
  rw [rvInsn_of_alu fields.opcode, fields.funct3 _ rfl, fields.funct7 _ rfl, printed]
  exact translates_set zero links (dispatch_reg cfg op _ _ _ _ (s.at pc)) yields

theorem translates_shift (op : ShiftOp) (wide : isWide word = true)
    (decoded : decodeAlone word = .ok (true, vlp)) (opcode : vlp.opcode = shiftOpcode op)
    (links : vlp.rd ≠ 0) (zero : s.cpu.reg 0 = 0) :
    Translates cfg pc (rvInsn cfg.doNewlib pc word) vlp s := by
  obtain ⟨fields, items⟩ := fields_of_decode wide decoded (by rw [opcode]; exact shift_rows op)
  rw [opcode, items_shift, Except.ok.injEq] at items
  subst items
  obtain ⟨value, printed, yields⟩ := @compileAlui_shift s op word (rvInsnImmediates word).i
    (word.extractLsb' 7 5) (word.extractLsb' 15 5)
  rw [shamt_eq] at yields
  rw [rvInsn_of_alui fields.opcode, fields.funct3 _ rfl, fields.funct7 _ rfl, printed]
  refine translates_set zero links ?_ yields
  have masked : word >>> 20 &&& (0x1f : Word) &&& (0x1f : Word) = word >>> 20 &&& (0x1f : Word) := by
    rw [BitVec.and_assoc, BitVec.and_self]
  cases op <;> simp only [shiftOpcode, dispatch, ShiftOp.eval, masked] <;> rfl

theorem translates_imm (op : ImmOp) (wide : isWide word = true)
    (decoded : decodeAlone word = .ok (true, vlp)) (opcode : vlp.opcode = immOpcode op)
    (links : vlp.rd ≠ 0) (zero : s.cpu.reg 0 = 0) :
    Translates cfg pc (rvInsn cfg.doNewlib pc word) vlp s := by
  obtain ⟨fields, items⟩ := fields_of_decode wide decoded (by rw [opcode]; exact imm_rows op)
  rw [opcode, items_imm, Except.ok.injEq] at items
  subst items
  have other : word ≠ 0x00000013 := by
    rintro rfl
    exact links rfl
  obtain ⟨value, printed, yields⟩ := compileAlui_sets op word (mkSimm12 word)
    (word.extractLsb' 25 7) (word.extractLsb' 7 5) (word.extractLsb' 15 5) links other zero
  rw [rvInsn_of_alui fields.opcode, fields.funct3 _ rfl, simm12_eq, printed]
  exact translates_set zero links (dispatch_imm cfg op _ _ _ _ (s.at pc)) yields

theorem translates_lui (wide : isWide word = true)
    (decoded : decodeAlone word = .ok (true, vlp)) (opcode : vlp.opcode = .lui)
    (links : vlp.rd ≠ 0) (zero : s.cpu.reg 0 = 0) :
    Translates cfg pc (rvInsn cfg.doNewlib pc word) vlp s := by
  obtain ⟨fields, items⟩ := fields_of_decode wide decoded (by rw [opcode]; exact lui_rows)
  rw [opcode, items_upper, Except.ok.injEq] at items
  subst items
  rw [rvInsn_of_lui fields.opcode]
  refine translates_set zero links rfl ?_
  rw [imm20_eq]
  exact yields_hex s _

theorem translates_auipc (wide : isWide word = true)
    (decoded : decodeAlone word = .ok (true, vlp)) (opcode : vlp.opcode = .auipc)
    (links : vlp.rd ≠ 0) (zero : s.cpu.reg 0 = 0) :
    Translates cfg pc (rvInsn cfg.doNewlib pc word) vlp s := by
  obtain ⟨fields, items⟩ := fields_of_decode wide decoded (by rw [opcode]; exact auipc_rows)
  rw [opcode, items_upper, Except.ok.injEq] at items
  subst items
  rw [rvInsn_of_auipc fields.opcode]
  refine translates_set zero links rfl ?_
  rw [imm20_eq]
  exact yields_hex s _

end Computational

/-! Jumps and branches. -/

section Control

variable {cfg : Config} {pc word : Word} {vlp : Vliw} {s : Machine}

/-- A jump: the target is taken before the link is written. -/
theorem translates_jump {rd : Reg} {target : CExpr} {destination : Word} (links : rd ≠ 0)
    (executes : execute cfg vlp (s.at pc) =
      .ok (((s.at pc).setReg rd (pc + 4)).setPcNext destination))
    (yields : s.Yields target destination) :
    Translates cfg pc
      (.label pc :: ([.assign (.var .pc) target] ++ compileLink rd (pc + 4) ++ [.gotoNext]))
      vlp s := by
  intro t executed
  rw [executes, Except.ok.injEq] at executed
  obtain ⟨kind, evaluated⟩ := yields
  refine ⟨({ s with cpu.pc := destination }.setReg rd (pc + 4), destination), ?_, ?_⟩
  · simp only [compileLink, if_pos links, List.cons_append, List.nil_append, runThreaded,
      runStatements, Statement.run, evaluated, Machine.assign, Expr.eval,
      Option.bind_eq_bind, Option.bind_some]
    rfl
  · rw [← executed]
    exact ⟨rfl, rfl, rfl, rfl⟩

theorem execute_link {rd : Reg} {destination : Word} (zero : s.cpu.reg 0 = 0) (links : rd ≠ 0)
    (dispatched : dispatch cfg vlp (s.at pc) =
      .ok (((s.at pc).setReg rd (pc + 4)).setPcNext destination)) :
    execute cfg vlp (s.at pc) = .ok (((s.at pc).setReg rd (pc + 4)).setPcNext destination) := by
  rw [execute, dispatched, map_ok, clear_unchanged]
  exact (Function.update_of_ne (Ne.symm links) _ _).trans zero

theorem translates_jal (wide : isWide word = true)
    (decoded : decodeAlone word = .ok (true, vlp)) (opcode : vlp.opcode = .jal)
    (links : vlp.rd ≠ 0) (zero : s.cpu.reg 0 = 0) :
    Translates cfg pc (rvInsn cfg.doNewlib pc word) vlp s := by
  obtain ⟨fields, items⟩ := fields_of_decode wide decoded (by rw [opcode]; exact jal_rows)
  rw [opcode, items_jal, Except.ok.injEq] at items
  subst items
  rw [rvInsn_of_jal fields.opcode, compileJal, joff_eq]
  exact translates_jump links (execute_link zero links rfl) (yields_hex s _)

theorem translates_jalr (wide : isWide word = true)
    (decoded : decodeAlone word = .ok (true, vlp)) (opcode : vlp.opcode = .jalr)
    (links : vlp.rd ≠ 0) (zero : s.cpu.reg 0 = 0) :
    Translates cfg pc (rvInsn cfg.doNewlib pc word) vlp s := by
  obtain ⟨fields, items⟩ := fields_of_decode wide decoded (by rw [opcode]; exact jalr_rows)
  rw [opcode, items_jalr, Except.ok.injEq] at items
  subst items
  have yields : s.Yields (if mkSimm12 word = 0 then register (word.extractLsb' 15 5)
        else addressOf (word.extractLsb' 15 5) (mkSimm12 word))
      (s.cpu.reg (word.extractLsb' 15 5) + mkSimm12 word) := by
    split
    · rename_i noOffset
      rw [noOffset, add_zero]
      exact yields_register s _
    · exact yields_add _ (yields_decimal s _)
  rw [rvInsn_of_jalr fields.opcode, compileJalr, simm12_eq]
  exact translates_jump links (execute_link zero links rfl) yields

theorem compileBranch_tests (op : BranchOp) (insn : Word) (rs1 rs2 : Reg)
    (zero : s.cpu.reg 0 = 0) :
    ∃ test, compileBranch pc insn op.funct3 rs1 rs2 = [.gotoIf test (pc + doBoff insn)] ∧
      test.eval s.variable = some (truth (op.taken (s.cpu.reg rs1) (s.cpu.reg rs2))) := by
  obtain ⟨kind, first⟩ := yields_registerOrZero zero rs1
  obtain ⟨kind', second⟩ := yields_registerOrZero zero rs2
  have order := yields_less_signed ⟨kind, first⟩ ⟨kind', second⟩
  rw [← boff_eq]
  cases op with
  | beq => exact ⟨_, rfl, Expr.eval_binary .eq first second⟩
  | bne => exact ⟨_, rfl, Expr.eval_binary .ne first second⟩
  | blt => exact ⟨_, rfl, yields_less_signed ⟨kind, first⟩ ⟨kind', second⟩⟩
  | bltu => exact ⟨_, rfl, yields_less_unsigned ⟨kind, first⟩ ⟨kind', second⟩⟩
  | bge =>
      refine ⟨_, rfl, ?_⟩
      rw [signed, signed, Expr.eval_binary .ge (Expr.eval_cast .int first)
        (Expr.eval_cast .int second)]
      simp only [BranchOp.taken, BitVec.sle_eq_not_slt]
      rfl
  | bgeu =>
      refine ⟨_, rfl, ?_⟩
      rw [unsigned, unsigned, Expr.eval_binary .ge (Expr.eval_cast .unsigned first)
        (Expr.eval_cast .unsigned second)]
      simp only [BranchOp.taken, BitVec.ule_eq_not_ult]
      rfl

theorem translates_branch (op : BranchOp) (wide : isWide word = true)
    (decoded : decodeAlone word = .ok (true, vlp)) (opcode : vlp.opcode = branchOpcode op)
    (zero : s.cpu.reg 0 = 0) : Translates cfg pc (rvInsn cfg.doNewlib pc word) vlp s := by
  obtain ⟨fields, items⟩ := fields_of_decode wide decoded (by rw [opcode]; exact branch_rows op)
  rw [opcode, items_branch, Except.ok.injEq] at items
  subst items
  obtain ⟨test, printed, evaluated⟩ := @compileBranch_tests pc s op word (word.extractLsb' 15 5)
    (word.extractLsb' 20 5) zero
  rw [rvInsn_of_branch fields.opcode, fields.funct3 _ rfl, printed]
  intro t executed
  rw [execute, dispatch_branch, map_ok, Except.ok.injEq] at executed
  have sources : (s.at pc).cpu.reg = s.cpu.reg := rfl
  rw [sources] at executed
  refine ⟨(s, if op.taken (s.cpu.reg (word.extractLsb' 15 5)) (s.cpu.reg (word.extractLsb' 20 5))
    then pc + doBoff word else pc + 4), ?_, ?_⟩
  · simp only [runThreaded, runStatements, Statement.run, evaluated, Option.bind_eq_bind,
      Option.bind_some, truth_holds]
    generalize op.taken _ _ = taken
    cases taken <;> rfl
  · split at executed
    · rename_i taken
      have cleared := clear_unchanged ((s.at pc).setPcNext (pc + doBoff word)) zero
      rw [← executed]
      exact ⟨(congrArg (fun u => u.cpu.reg) cleared).symm, rfl, rfl, if_pos taken⟩
    · rename_i notTaken
      have cleared := clear_unchanged (s.at pc) zero
      rw [← executed]
      exact ⟨(congrArg (fun u => u.cpu.reg) cleared).symm, rfl, rfl, if_neg notTaken⟩

end Control

/-! Loads and stores. -/

section Memory

variable {cfg : Config} {pc word : Word} {vlp : Vliw} {s : Machine}

def readOf : LoadOp → MemoryRead
  | .lb => .read8
  | .lh => .read16
  | .lw => .read32
  | .lbu => .read8u
  | .lhu => .read16u

def writeOf : StoreOp → MemoryWrite
  | .sb => .write8
  | .sh => .write16
  | .sw => .write32

theorem host_at (rw : Bool) (addr value : Word) (s : Machine) (pc : Word) :
    host rw addr value (s.at pc) = (host rw addr value s).at pc := by
  unfold host
  split
  · split <;> rfl
  · split <;> rfl

theorem host_reg (rw : Bool) (addr value : Word) (s : Machine) :
    (host rw addr value s).cpu.reg = s.cpu.reg := by
  obtain ⟨stop, events, frame⟩ := host_frame rw addr value s
  rw [frame]

theorem MemoryRead.run_at (function : MemoryRead) (s : Machine) (pc addr : Word) :
    function.run cfg (s.at pc) addr =
      (function.run cfg s addr).map fun result => (result.1, result.2.at pc) := by
  have narrow : ∀ read : Except Abort Word,
      (read.map fun value => (value, s.at pc)) =
        (read.map fun value => (value, s)).map fun result => (result.1, result.2.at pc) := by
    intro read
    cases read <;> rfl
  cases function with
  | read8 => exact narrow (s.memory.read8 addr)
  | read8u => exact narrow (s.memory.read8u addr)
  | read16 => exact narrow (s.memory.read16 addr)
  | read16u => exact narrow (s.memory.read16u addr)
  | read32 =>
      have memory : (s.at pc).memory = s.memory := rfl
      simp only [MemoryRead.run, RiscVFast.read32, memory, host_at]
      split
      · exact narrow _
      · split <;> rfl

theorem MemoryRead.run_reg {function : MemoryRead} {addr : Word} {result : Word × Machine}
    (ran : function.run cfg s addr = .ok result) : result.2.cpu.reg = s.cpu.reg := by
  have narrow : ∀ read : Except Abort Word,
      (read.map fun value => (value, s)) = .ok result → result.2.cpu.reg = s.cpu.reg := by
    intro read served
    obtain ⟨value, _, rfl⟩ := map_eq_ok.mp served
    rfl
  cases function with
  | read8 => exact narrow _ ran
  | read8u => exact narrow _ ran
  | read16 => exact narrow _ ran
  | read16u => exact narrow _ ran
  | read32 =>
      simp only [MemoryRead.run, RiscVFast.read32] at ran
      split at ran
      · exact narrow _ ran
      · split at ran
        · simp only [Except.ok.injEq] at ran
          rw [← ran]
          exact host_reg _ _ _ _
        · simp at ran

theorem narrowWrite_at (s : Machine) (pc addr : Word) (fmt : String)
    (write : Segment → Except Abort Segment) :
    narrowWrite cfg (s.at pc) fmt addr write =
      (narrowWrite cfg s fmt addr write).map fun after => after.at pc := by
  have memory : (s.at pc).memory = s.memory := rfl
  simp only [narrowWrite, memory]
  split
  · rename_i written _
    cases written <;> rfl
  · rfl

theorem MemoryWrite.run_at (function : MemoryWrite) (s : Machine) (pc addr value : Word) :
    function.run cfg (s.at pc) addr value =
      (function.run cfg s addr value).map fun after => after.at pc := by
  cases function with
  | write8 => exact narrowWrite_at s pc addr _ _
  | write16 => exact narrowWrite_at s pc addr _ _
  | write32 =>
      have memory : (s.at pc).memory = s.memory := rfl
      simp only [MemoryWrite.run, RiscVFast.write32, memory, host_at]
      split
      · rename_i written _
        cases written <;> rfl
      · split <;> rfl

theorem MemoryWrite.run_reg {function : MemoryWrite} {addr value : Word} {after : Machine}
    (ran : function.run cfg s addr value = .ok after) : after.cpu.reg = s.cpu.reg := by
  have narrow : ∀ fmt write, narrowWrite cfg s fmt addr write = .ok after →
      after.cpu.reg = s.cpu.reg := by
    intro fmt write served
    unfold narrowWrite at served
    split at served
    · obtain ⟨memory, _, rfl⟩ := map_eq_ok.mp served
      rfl
    · simp at served
  cases function with
  | write8 => exact narrow _ _ ran
  | write16 => exact narrow _ _ ran
  | write32 =>
      simp only [MemoryWrite.run, RiscVFast.write32] at ran
      split at ran
      · obtain ⟨memory, _, rfl⟩ := map_eq_ok.mp ran
        rfl
      · split at ran
        · simp only [Except.ok.injEq] at ran
          rw [← ran]
          exact host_reg _ _ _ _
        · simp at ran

theorem dispatch_readOf (op : LoadOp) (rd rs1 rs2 : Reg) (imm : Word) (s : Machine) :
    dispatch cfg ⟨loadOpcode op, rd, rs1, rs2, imm⟩ s = (do
      checkAddr s (s.cpu.reg rs1 + imm)
      let result ← (readOf op).run cfg s (s.cpu.reg rs1 + imm)
      .ok (result.2.setReg rd result.1)) := by
  have narrow : ∀ read : Except Abort Word,
      (do .ok (s.setReg rd (← read)) : Except Abort Machine) = (do
        let result ← read.map fun value => (value, s)
        .ok (result.2.setReg rd result.1)) := by
    intro read
    cases read <;> rfl
  cases op <;> simp only [loadOpcode, dispatch, readOf, MemoryRead.run, ← narrow]

theorem dispatch_writeOf (op : StoreOp) (rd rs1 rs2 : Reg) (imm : Word) (s : Machine) :
    dispatch cfg ⟨storeOpcode op, rd, rs1, rs2, imm⟩ s =
      (writeOf op).run cfg s (s.cpu.reg rs1 + imm) (s.cpu.reg rs2) := by
  cases op <;> rfl

theorem translates_load (op : LoadOp) (wide : isWide word = true)
    (decoded : decodeAlone word = .ok (true, vlp)) (opcode : vlp.opcode = loadOpcode op)
    (links : vlp.rd ≠ 0) (zero : s.cpu.reg 0 = 0) :
    Translates cfg pc (rvInsn cfg.doNewlib pc word) vlp s := by
  obtain ⟨fields, items⟩ := fields_of_decode wide decoded (by rw [opcode]; exact load_rows op)
  rw [opcode, items_imm, Except.ok.injEq] at items
  subst items
  have printed : compileLoad word op.funct3 (word.extractLsb' 7 5) (word.extractLsb' 15 5) =
      [.read (register (word.extractLsb' 7 5)) (readOf op)
        (addressOf (word.extractLsb' 15 5) (rvInsnImmediates word).i)] := by
    cases op <;> rfl
  rw [rvInsn_of_load fields.opcode, fields.funct3 _ rfl, printed, simm12_eq]
  intro t executed
  obtain ⟨kind, evaluated⟩ := yields_add (word.extractLsb' 15 5) (yields_decimal s (mkSimm12 word))
  obtain ⟨middle, dispatched, cleared⟩ := map_eq_ok.mp executed
  rw [dispatch_readOf] at dispatched
  obtain ⟨_, _, dispatched⟩ := bind_eq_ok.mp dispatched
  obtain ⟨result, served, dispatched⟩ := bind_eq_ok.mp dispatched
  rw [MemoryRead.run_at] at served
  obtain ⟨plain, read, rfl⟩ := map_eq_ok.mp served
  have sources : (s.at pc).cpu.reg = s.cpu.reg := rfl
  rw [sources] at read
  simp only [Except.ok.injEq] at dispatched
  have kept : (plain.2.setReg (word.extractLsb' 7 5) plain.1).cpu.reg 0 = 0 := by
    have same := MemoryRead.run_reg read
    simp only [Machine.setReg, Function.update_of_ne (Ne.symm links), same, zero]
  refine ⟨(plain.2.setReg (word.extractLsb' 7 5) plain.1, pc + 4), ?_, ?_⟩
  · simp only [runThreaded, runStatements, Statement.run, addressOf, evaluated, read,
      assign_register, Except.toOption, Option.bind_eq_bind, Option.bind_some, Option.map_some,
      Option.getD_none]
  · rw [← cleared, ← dispatched]
    have same := clear_unchanged _ kept
    exact ⟨(congrArg (fun u => u.cpu.reg) same).symm, rfl, rfl, rfl⟩

theorem translates_store (op : StoreOp) (wide : isWide word = true)
    (decoded : decodeAlone word = .ok (true, vlp)) (opcode : vlp.opcode = storeOpcode op)
    (zero : s.cpu.reg 0 = 0) : Translates cfg pc (rvInsn cfg.doNewlib pc word) vlp s := by
  obtain ⟨fields, items⟩ := fields_of_decode wide decoded (by rw [opcode]; exact store_rows op)
  rw [opcode, items_store, Except.ok.injEq] at items
  subst items
  have printed : compileStore word op.funct3 (word.extractLsb' 15 5) (word.extractLsb' 20 5) =
      [.write (writeOf op) (addressOf (word.extractLsb' 15 5) (doS2imm12 word))
        (register (word.extractLsb' 20 5))] := by
    rw [← s2imm12_eq]
    cases op <;> rfl
  rw [rvInsn_of_store fields.opcode, fields.funct3 _ rfl, printed]
  intro t executed
  obtain ⟨kind, evaluated⟩ := yields_add (word.extractLsb' 15 5) (yields_decimal s (doS2imm12 word))
  obtain ⟨middle, dispatched, cleared⟩ := map_eq_ok.mp executed
  rw [dispatch_writeOf, MemoryWrite.run_at] at dispatched
  obtain ⟨plain, written, rfl⟩ := map_eq_ok.mp dispatched
  have sources : (s.at pc).cpu.reg = s.cpu.reg := rfl
  rw [sources] at written
  refine ⟨(plain, pc + 4), ?_, ?_⟩
  · simp only [runThreaded, runStatements, Statement.run, addressOf, evaluated, written,
      eval_register, Except.toOption, Option.bind_eq_bind, Option.bind_some, Option.map_some,
      Option.getD_none]
  · rw [← cleared]
    have kept : plain.cpu.reg 0 = 0 := by rw [MemoryWrite.run_reg written, zero]
    have same := clear_unchanged plain kept
    exact ⟨(congrArg (fun u => u.cpu.reg) same).symm, rfl, rfl, rfl⟩

end Memory

/-! All together. -/

inductive Rv32iOpcode : VliwOp → Bool → Prop
  | imm (op : ImmOp) : Rv32iOpcode (immOpcode op) true
  | shift (op : ShiftOp) : Rv32iOpcode (shiftOpcode op) true
  | reg (op : RegOp) : Rv32iOpcode (regOpcode op) true
  | lui : Rv32iOpcode .lui true
  | auipc : Rv32iOpcode .auipc true
  | jal : Rv32iOpcode .jal true
  | jalr : Rv32iOpcode .jalr true
  | branch (op : BranchOp) : Rv32iOpcode (branchOpcode op) false
  | load (op : LoadOp) : Rv32iOpcode (loadOpcode op) true
  | store (op : StoreOp) : Rv32iOpcode (storeOpcode op) false

/-- The printed C of an instruction ends as its execution does. -/
theorem rvInsn_preserves (cfg : Config) (pc word : Word) (calls : List (Word × Word))
    (results : List (Bool × Vliw)) (tables : DecodeTables) (decoded : Decoded) (writes : Bool)
    (s t : Machine) (history : decodeCalls DecodeTables.empty calls = .ok (results, tables))
    (called : decode2vliw tables pc word = .ok decoded) (found : decoded.found = true)
    (wide : isWide word = true) (opcode : Rv32iOpcode decoded.vliw.opcode writes)
    (target : writes = true → decoded.vliw.rd ≠ 0) (zero : s.cpu.reg 0 = 0)
    (accepted : execute cfg decoded.vliw ({ s with cpu.pc := pc }.fallThrough (pc + 4)) = .ok t) :
    ∃ after next,
      runThreaded cfg pc (rvInsn cfg.doNewlib pc word) s = some (after, next) ∧
      after.cpu.reg = t.cpu.reg ∧ after.memory = t.memory ∧ after.events = t.events ∧
      next = t.cpu.pcNext := by
  have sound := (decodeCalls_sound DecodeTables.empty_sound history).1
  have alone := sound.transparent pc word
  rw [called, map_ok, Decoded.result, found] at alone
  have translates : Translates cfg pc (rvInsn cfg.doNewlib pc word) decoded.vliw s := by
    generalize operation : decoded.vliw.opcode = op at opcode
    cases opcode with
    | imm op => exact translates_imm op wide alone.symm operation (target rfl) zero
    | shift op => exact translates_shift op wide alone.symm operation (target rfl) zero
    | reg op => exact translates_reg op wide alone.symm operation (target rfl) zero
    | lui => exact translates_lui wide alone.symm operation (target rfl) zero
    | auipc => exact translates_auipc wide alone.symm operation (target rfl) zero
    | jal => exact translates_jal wide alone.symm operation (target rfl) zero
    | jalr => exact translates_jalr wide alone.symm operation (target rfl) zero
    | branch op => exact translates_branch op wide alone.symm operation zero
    | load op => exact translates_load op wide alone.symm operation (target rfl) zero
    | store op => exact translates_store op wide alone.symm operation zero
  obtain ⟨⟨after, next⟩, ran, outcome⟩ := translates t accepted
  exact ⟨after, next, ran, outcome.reg, outcome.memory, outcome.events, outcome.next⟩

/-- `jalr x1,4(x1)` jumps before it links. -/
theorem rvInsn_preserves_jalr :
    ∃ after next,
      runThreaded (Config.standard Host.silent) 8 (rvInsn false 8 0x004080e7)
        ((Simulator.boot (smallMemory 0x20000000 []) 0 0).machine.setReg 1 0x100) =
          some (after, next) ∧
      after.cpu.reg 1 = 12 ∧ next = 0x104 := by
  obtain ⟨after, next, ran, reg, _, _, target⟩ :=
    rvInsn_preserves (Config.standard Host.silent) 8 0x004080e7 [] [] DecodeTables.empty _ true
      ((Simulator.boot (smallMemory 0x20000000 []) 0 0).machine.setReg 1 0x100) _ rfl rfl rfl
      (by decide) .jalr (by decide) (by decide) rfl
  refine ⟨after, next, ran, ?_, ?_⟩
  · rw [reg]
    decide
  · rw [target]
    decide

end RiscVFast
