import RiscVFast.Disasm

/-! What a line of RISC-V assembly says: the mnemonics of the supported instructions, the usual
shorthands for them, and their operands. -/

namespace RiscVFast

open AsmText

def abiRegisters : List (String × BitVec 5) := [
  ("zero", 0), ("ra", 1), ("sp", 2), ("gp", 3), ("tp", 4), ("fp", 8),
  ("t0", 5), ("t1", 6), ("t2", 7), ("t3", 28), ("t4", 29), ("t5", 30), ("t6", 31),
  ("s0", 8), ("s1", 9), ("s2", 18), ("s3", 19), ("s4", 20), ("s5", 21), ("s6", 22), ("s7", 23),
  ("s8", 24), ("s9", 25), ("s10", 26), ("s11", 27),
  ("a0", 10), ("a1", 11), ("a2", 12), ("a3", 13), ("a4", 14), ("a5", 15), ("a6", 16), ("a7", 17)]

def readRegister (text : String) : Option (BitVec 5) := abiRegisters.lookup text

def readImmediate (text : String) : Option Word := (readNumber 10 text).map (BitVec.ofInt 32)

/-- An address is written in hexadecimal; what the instruction holds is its distance. -/
def readTarget (pc : Word) (text : String) : Option Word :=
  (readNumber 16 text).map fun address => BitVec.ofInt 32 address - pc

def readOffset (text : String) : Option (Word × BitVec 5) := do
  let (offset, base) ← readMemory text
  some (← readImmediate offset, ← readRegister base)

def readBase (text : String) : Option (Word × BitVec 5) :=
  if (readMemory text).isSome then readOffset text
  else (readRegister text).map fun base => (0, base)

/-- The control and status registers of the architecture, in rows of successive numbers. The last
two rows are the custom register, by the name of its macro and by that of the README. -/
def csrRows : List (Word × List String) := [
  (0x001, ["fflags", "frm", "fcsr"]), (0xc00, ["cycle", "time", "instret"]),
  (0xc80, ["cycleh", "timeh", "instreth"]), (0x100, ["sstatus"]),
  (0x104, ["sie", "stvec", "scounteren"]), (0x10a, ["senvcfg"]),
  (0x140, ["sscratch", "sepc", "scause", "stval", "sip"]), (0x180, ["satp"]), (0x5a8, ["scontext"]),
  (0x200, ["vsstatus"]), (0x204, ["vsie", "vstvec"]),
  (0x240, ["vsscratch", "vsepc", "vscause", "vstval", "vsip"]), (0x280, ["vsatp"]),
  (0x600, ["hstatus"]), (0x602, ["hedeleg", "hideleg", "hie", "htimedelta", "hcounteren", "hgeie"]),
  (0x60a, ["henvcfg"]), (0x615, ["htimedeltah"]), (0x61a, ["henvcfgh"]),
  (0x643, ["htval", "hip", "hvip"]), (0x64a, ["htinst"]), (0x680, ["hgatp"]), (0x6a8, ["hcontext"]),
  (0xe12, ["hgeip"]), (0xf11, ["mvendorid", "marchid", "mimpid", "mhartid", "mconfigptr"]),
  (0x300, ["mstatus", "misa", "medeleg", "mideleg", "mie", "mtvec", "mcounteren"]),
  (0x30a, ["menvcfg"]), (0x310, ["mstatush"]), (0x31a, ["menvcfgh"]), (0x320, ["mcountinhibit"]),
  (0x340, ["mscratch", "mepc", "mcause", "mtval", "mip"]), (0x34a, ["mtinst", "mtval2"]),
  (0x747, ["mseccfg"]), (0x757, ["mseccfgh"]), (0xb00, ["mcycle"]), (0xb02, ["minstret"]),
  (0xb80, ["mcycleh"]), (0xb82, ["minstreth"]),
  (0x7a0, ["tselect", "tdata1", "tdata2", "tdata3"]), (0x7a8, ["mcontext"]),
  (0x7b0, ["dcsr", "dpc", "dscratch0", "dscratch1"]), (0xcc0, ["rand"]), (0xcc0, ["rand32"])]

structure CsrFamily where
  number : Word
  name : String
  index : Nat
  count : Nat
  suffix : String := ""

def csrFamilies : List CsrFamily := [
  { number := 0xc03, name := "hpmcounter", index := 3, count := 29 },
  { number := 0xc83, name := "hpmcounter", index := 3, count := 29, suffix := "h" },
  { number := 0xb03, name := "mhpmcounter", index := 3, count := 29 },
  { number := 0xb83, name := "mhpmcounter", index := 3, count := 29, suffix := "h" },
  { number := 0x323, name := "mhpmevent", index := 3, count := 29 },
  { number := 0x3a0, name := "pmpcfg", index := 0, count := 16 },
  { number := 0x3b0, name := "pmpaddr", index := 0, count := 64 }]

def CsrFamily.members (family : CsrFamily) : List (String × Word) :=
  (List.range family.count).map fun offset =>
    (family.name ++ printNumeral 10 (family.index + offset) ++ family.suffix,
      family.number + BitVec.ofNat 32 offset)

def csrNumbers : List (String × Word) :=
  csrRows.flatMap (fun (first, names) =>
    names.zipIdx.map fun (name, offset) => (name, first + BitVec.ofNat 32 offset)) ++
    csrFamilies.flatMap CsrFamily.members

def readCsr (text : String) : Option Word :=
  match csrNumbers.lookup text with
  | some number => some number
  | none => readImmediate text

inductive Radix
  | decimal | hexadecimal
deriving DecidableEq

def Radix.base : Radix → Nat
  | .decimal => 10
  | .hexadecimal => 16

def readUimm (reading : Radix) (text : String) : Option (BitVec 5) := do
  let value ← readNumber reading.base text
  if 0 ≤ value ∧ value < 32 then some (BitVec.ofInt 5 value) else none

inductive Form
  | fixed (vlp : Vliw)
  | reg (op : VliwOp)
  | regOnZero (op : VliwOp)
  | imm (op : VliwOp)
  | immOf (op : VliwOp) (value : Word)
  | constant
  | upper (op : VliwOp)
  | load (op : VliwOp)
  | store (op : VliwOp)
  | branch (op : VliwOp)
  | branchZero (op : VliwOp)
  | zeroBranch (op : VliwOp)
  | jal
  | j
  | jalr
  | jr
  | csr (op : VliwOp)
  | csrImm (op : VliwOp)
  | csrRead
  | csrOnly (op : VliwOp)
  | counter (number : Word)
deriving DecidableEq

/-- The instructions of the README, and the shorthands of the assembler's manual. -/
def forms : List (String × Form) := [
  ("lui", .upper .lui), ("auipc", .upper .auipc),
  ("j", .j), ("jal", .jal), ("jr", .jr), ("jalr", .jalr), ("ret", .fixed ⟨.jalr, 0, 1, 0, 0⟩),
  ("beq", .branch .beq), ("bne", .branch .bne), ("blt", .branch .blt), ("bge", .branch .bge),
  ("bltu", .branch .bltu), ("bgeu", .branch .bgeu),
  ("beqz", .branchZero .beq), ("bnez", .branchZero .bne), ("bltz", .branchZero .blt),
  ("bgez", .branchZero .bge), ("bgtz", .zeroBranch .blt), ("blez", .zeroBranch .bge),
  ("lb", .load .lb), ("lh", .load .lh), ("lw", .load .lw), ("lbu", .load .lbu),
  ("lhu", .load .lhu), ("sb", .store .sb), ("sh", .store .sh), ("sw", .store .sw),
  ("nop", .fixed ⟨.addi, 0, 0, 0, 0⟩), ("li", .constant), ("mv", .immOf .addi 0),
  ("not", .immOf .xori (-1)), ("zext.b", .immOf .andi 255), ("seqz", .immOf .sltiu 1),
  ("addi", .imm .addi), ("slti", .imm .slti), ("sltiu", .imm .sltiu), ("xori", .imm .xori),
  ("ori", .imm .ori), ("andi", .imm .andi), ("slli", .imm .slli), ("srli", .imm .srli),
  ("srai", .imm .srai), ("add", .reg .add), ("sub", .reg .sub), ("sll", .reg .sll),
  ("slt", .reg .slt), ("sltu", .reg .sltu), ("xor", .reg .xor), ("srl", .reg .srl),
  ("sra", .reg .sra), ("or", .reg .or), ("and", .reg .and),
  ("neg", .regOnZero .sub), ("snez", .regOnZero .sltu), ("sgtz", .regOnZero .slt),
  ("ecall", .fixed (Vliw.ofOpcode .ecall)), ("ebreak", .fixed (Vliw.ofOpcode .ebreak)),
  ("mret", .fixed (Vliw.ofOpcode .mret)), ("wfi", .fixed (Vliw.ofOpcode .wfi)),
  ("csrrw", .csr .csrrw), ("csrrs", .csr .csrrs), ("csrrc", .csr .csrrc),
  ("csrrwi", .csrImm .csrrwi), ("csrrsi", .csrImm .csrrsi), ("csrrci", .csrImm .csrrci),
  ("csrr", .csrRead), ("csrw", .csrOnly .csrrw), ("csrs", .csrOnly .csrrs),
  ("csrc", .csrOnly .csrrc), ("rdcycle", .counter 0xc00), ("rdtime", .counter 0xc01),
  ("rdinstret", .counter 0xc02), ("rdcycleh", .counter 0xc80), ("rdtimeh", .counter 0xc81),
  ("rdinstreth", .counter 0xc82)]

def oneOperand (make : String → Option Vliw) : List String → Option Vliw
  | [operand] => make operand
  | _ => none

def twoOperands (make : String → String → Option Vliw) : List String → Option Vliw
  | [first, second] => make first second
  | _ => none

def threeOperands (make : String → String → String → Option Vliw) : List String → Option Vliw
  | [first, second, third] => make first second third
  | _ => none

/-- The instruction that the operands make; a shorthand makes the one it stands for. The CSR
instructions have their operands in the order of the README. -/
def Form.assemble (reading : Radix) (pc : Word) : Form → List String → Option Vliw
  | .fixed vlp => fun operands => if operands = [] then some vlp else none
  | .reg op => threeOperands fun rd rs1 rs2 => do
      some ⟨op, ← readRegister rd, ← readRegister rs1, ← readRegister rs2, 0⟩
  | .regOnZero op => twoOperands fun rd rs2 => do
      some ⟨op, ← readRegister rd, 0, ← readRegister rs2, 0⟩
  | .imm op => threeOperands fun rd rs1 value => do
      some ⟨op, ← readRegister rd, ← readRegister rs1, 0, ← readImmediate value⟩
  | .immOf op value => twoOperands fun rd rs1 => do
      some ⟨op, ← readRegister rd, ← readRegister rs1, 0, value⟩
  | .constant => twoOperands fun rd value => do
      some ⟨.addi, ← readRegister rd, 0, 0, ← readImmediate value⟩
  | .upper op => twoOperands fun rd value => do
      some ⟨op, ← readRegister rd, 0, 0, (← readImmediate value) <<< 12⟩
  | .load op => twoOperands fun rd address => do
      let (offset, rs1) ← readOffset address
      some ⟨op, ← readRegister rd, rs1, 0, offset⟩
  | .store op => twoOperands fun rs2 address => do
      let (offset, rs1) ← readOffset address
      some ⟨op, 0, rs1, ← readRegister rs2, offset⟩
  | .branch op => threeOperands fun rs1 rs2 target => do
      some ⟨op, 0, ← readRegister rs1, ← readRegister rs2, ← readTarget pc target⟩
  | .branchZero op => twoOperands fun rs1 target => do
      some ⟨op, 0, ← readRegister rs1, 0, ← readTarget pc target⟩
  | .zeroBranch op => twoOperands fun rs2 target => do
      some ⟨op, 0, 0, ← readRegister rs2, ← readTarget pc target⟩
  | .jal => twoOperands fun rd target => do
      some ⟨.jal, ← readRegister rd, 0, 0, ← readTarget pc target⟩
  | .j => oneOperand fun target => do some ⟨.jal, 0, 0, 0, ← readTarget pc target⟩
  | .jalr => fun operands => do
      match operands with
      | [rd, address] =>
          let (offset, rs1) ← readBase address
          some ⟨.jalr, ← readRegister rd, rs1, 0, offset⟩
      | [address] =>
          let (offset, rs1) ← readBase address
          some ⟨.jalr, 1, rs1, 0, offset⟩
      | _ => none
  | .jr => oneOperand fun address => do
      let (offset, rs1) ← readBase address
      some ⟨.jalr, 0, rs1, 0, offset⟩
  | .csr op => threeOperands fun name rd rs => do
      some ⟨op, ← readRegister rd, ← readRegister rs, 0, ← readCsr name⟩
  | .csrImm op => threeOperands fun name rd uimm5 => do
      some ⟨op, ← readRegister rd, ← readUimm reading uimm5, 0, ← readCsr name⟩
  | .csrRead => twoOperands fun rd name => do
      some ⟨.csrrs, ← readRegister rd, 0, 0, ← readCsr name⟩
  | .csrOnly op => twoOperands fun name rs => do
      some ⟨op, 0, ← readRegister rs, 0, ← readCsr name⟩
  | .counter number => oneOperand fun rd => do
      some ⟨.csrrs, ← readRegister rd, 0, 0, number⟩

def assemble (reading : Radix) (pc : Word) (text : String) : Option Vliw :=
  (forms.lookup (readLine text).mnemonic).bind fun form =>
    form.assemble reading pc (readLine text).operands

/-- The instruction behind a decoded one: the decoder has opcodes for three shorthands, and holds
an upper immediate before it is shifted. -/
def Vliw.instruction (vlp : Vliw) : Vliw :=
  match vlp.opcode with
  | .nop => { vlp with opcode := .addi }
  | .j => { vlp with opcode := .jal }
  | .jr => { vlp with opcode := .jalr }
  | .lui | .auipc => { vlp with imm := vlp.imm <<< 12 }
  | _ => vlp

theorem rn_names : ∀ n, readRegister (rn n) = some n ∧ ',' ∉ (rn n).toList ∧
    (readMemory (rn n)).isSome = false := by
  decide +kernel

@[simp] theorem readRegister_rn (n : BitVec 5) : readRegister (rn n) = some n := (rn_names n).1

@[simp] theorem readImmediate_decimal (value : Word) :
    readImmediate (decimal value) = some value := by
  rw [readImmediate, decimal, readNumber_printSigned, Option.map_some, BitVec.ofInt_toInt]

@[simp] theorem readImmediate_hexadecimal (value : Word) :
    readImmediate ("0x" ++ hexadecimal value) = some value := by
  rw [readImmediate, hexadecimal, readNumber_hex, Option.map_some, BitVec.ofInt_natCast,
    BitVec.ofNat_toNat, BitVec.setWidth_eq]

@[simp] theorem readTarget_hexadecimal (pc offset : Word) :
    readTarget pc (hexadecimal (pc + offset)) = some offset := by
  rw [readTarget, hexadecimal, readNumber_printNumeral (by decide) (by decide), Option.map_some,
    BitVec.ofInt_natCast, BitVec.ofNat_toNat, BitVec.setWidth_eq, BitVec.add_comm,
    BitVec.add_sub_cancel]

theorem csrNameTable_names : ∀ cp ∈ csrNameTable,
    csrNumbers.lookup cp.name = some (BitVec.ofNat 32 cp.csr) ∧ ',' ∉ cp.name.toList := by
  decide +kernel

theorem csrNumbers_letters : ∀ entry ∈ csrNumbers, entry.1.toList.head? ≠ some '0' := by
  decide +kernel

@[simp] theorem readCsr_csrName (csr : Nat) :
    readCsr (csrName csr) = some (BitVec.ofNat 32 csr) := by
  unfold csrName
  split
  · rename_i cp found
    have named : cp.csr = csr := by simpa using List.find?_some found
    simp only [readCsr, (csrNameTable_names cp (List.mem_of_find?_eq_some found)).1, named]
  · have unnamed : csrNumbers.lookup ("0x" ++ printPadded 3 16 csr) = none := by
      rw [List.lookup_eq_none_iff]
      intro entry member
      simp only [bne_iff_ne, ne_eq]
      intro same
      have first := csrNumbers_letters entry member
      rw [← same] at first
      simp at first
    rw [readCsr, unnamed, readImmediate, readNumber_padded, Option.map_some, BitVec.ofInt_natCast]

example : csrName 0x300 = "mstatus" ∧ csrName 0x7c0 = "0x7c0" ∧
    readCsr "mstatus" = some 0x300 ∧ readCsr "0x7c0" = some 0x7c0 := by
  decide +kernel

def Token (text : String) : Prop := ',' ∉ text.toList

@[simp] theorem token_rn (n : BitVec 5) : Token (rn n) := (rn_names n).2.1

theorem printNumeral_plain {c : Char} (other : ∀ digit < 16, Nat.digitChar digit ≠ c) {base : Nat}
    (large : 1 < base) (small : base ≤ 16) (n : Nat) : c ∉ (printNumeral base n).toList := by
  rw [printNumeral, String.toList_ofList]
  exact not_mem_toDigits other large small n

theorem decimal_plain {c : Char} (other : ∀ digit < 16, Nat.digitChar digit ≠ c) (noSign : c ≠ '-')
    (value : Word) : c ∉ (decimal value).toList := by
  have digits := printNumeral_plain other (show 1 < 10 by decide) (by decide) value.toInt.natAbs
  unfold decimal printSigned
  split
  · simpa [noSign] using digits
  · exact digits

@[simp] theorem token_decimal (value : Word) : Token (decimal value) :=
  decimal_plain (by decide) (by decide) value

@[simp] theorem token_hexadecimal (value : Word) : Token (hexadecimal value) :=
  printNumeral_plain (by decide) (by decide) (by decide) value.toNat

@[simp] theorem token_append (first second : String) :
    Token (first ++ second) ↔ Token first ∧ Token second := by
  simp [Token]

@[simp] theorem token_marks : Token "0x" ∧ Token "(" ∧ Token ")" := by
  unfold Token
  decide

@[simp] theorem token_csrName (csr : Nat) : Token (csrName csr) := by
  unfold csrName
  split
  · rename_i cp found
    exact (csrNameTable_names cp (List.mem_of_find?_eq_some found)).2
  · have digits := @not_mem_toDigits 16 ',' (by decide) (by decide) (by decide) csr
    simp [Token, printPadded, digits]

@[simp] theorem token_memory (value : Word) (base : String) :
    Token (printMemory (decimal value) base) ↔ Token base := by
  simp [printMemory, token_marks]

@[simp] theorem readOffset_memory (value : Word) (n : BitVec 5) :
    readOffset (printMemory (decimal value) (rn n)) = some (value, n) := by
  have plain : '(' ∉ (decimal value).toList := decimal_plain (by decide) (by decide) value
  simp [readOffset, readMemory_printMemory (rn n) plain]

@[simp] theorem readBase_memory (value : Word) (n : BitVec 5) :
    readBase (printMemory (decimal value) (rn n)) = some (value, n) := by
  have plain : '(' ∉ (decimal value).toList := decimal_plain (by decide) (by decide) value
  rw [readBase, readMemory_printMemory (rn n) plain, Option.isSome_some, if_pos rfl,
    readOffset_memory]

@[simp] theorem readBase_rn (n : BitVec 5) : readBase (rn n) = some (0, n) := by
  simp [readBase, (rn_names n).2.2]

theorem readUimm_digits : ∀ n : BitVec 5,
    (readUimm .decimal (hexadecimal (n.setWidth 32)) = some n ↔ n.toNat < 10) ∧
      readUimm .hexadecimal (hexadecimal (n.setWidth 32)) = some n := by
  decide +kernel

theorem readUimm_hexadecimal (reading : Radix) (n : BitVec 5) :
    readUimm reading (hexadecimal (n.setWidth 32)) = some n ↔
      (reading = .decimal → n.toNat < 10) := by
  cases reading with
  | decimal => simpa using (readUimm_digits n).1
  | hexadecimal => simp [(readUimm_digits n).2]

theorem forms_spaceless : ∀ entry ∈ forms, ' ' ∉ entry.1.toList := by
  decide +kernel

section Lines

variable (reading : Radix) (pc : Word) (mnemonic : String)

theorem assemble_line {form : Form} (operands : List String)
    (named : forms.lookup mnemonic = some form) (tokens : ∀ operand ∈ operands, Token operand) :
    assemble reading pc (line mnemonic operands) = form.assemble reading pc operands := by
  obtain ⟨_, _, entries, _⟩ := List.lookup_eq_some_iff.mp named
  have spaceless : ' ' ∉ mnemonic.toList :=
    forms_spaceless (mnemonic, form) (by simp [entries])
  rw [assemble, line, readLine_print ⟨spaceless, tokens⟩, named, Option.bind_some]

theorem assemble_unnamed (operands : List String) (spaceless : ' ' ∉ mnemonic.toList)
    (unnamed : forms.lookup mnemonic = none) (tokens : ∀ operand ∈ operands, Token operand) :
    assemble reading pc (line mnemonic operands) = none := by
  rw [assemble, line, readLine_print ⟨spaceless, tokens⟩, unnamed, Option.bind_none]

theorem assemble_fixed {vlp : Vliw} (named : forms.lookup mnemonic = some (.fixed vlp)) :
    assemble reading pc (line mnemonic []) = some vlp := by
  rw [assemble_line reading pc mnemonic [] named (by simp)]
  rfl

variable {op : VliwOp} (rd rs1 rs2 : BitVec 5) (value : Word)

theorem assemble_reg (named : forms.lookup mnemonic = some (.reg op)) :
    assemble reading pc (line mnemonic [rn rd, rn rs1, rn rs2]) =
      some ⟨op, rd, rs1, rs2, 0⟩ := by
  rw [assemble_line reading pc mnemonic _ named (by simp)]
  simp [Form.assemble, threeOperands]

theorem assemble_regOnZero (named : forms.lookup mnemonic = some (.regOnZero op)) :
    assemble reading pc (line mnemonic [rn rd, rn rs2]) = some ⟨op, rd, 0, rs2, 0⟩ := by
  rw [assemble_line reading pc mnemonic _ named (by simp)]
  simp [Form.assemble, twoOperands]

theorem assemble_imm (named : forms.lookup mnemonic = some (.imm op)) :
    assemble reading pc (line mnemonic [rn rd, rn rs1, decimal value]) =
      some ⟨op, rd, rs1, 0, value⟩ := by
  rw [assemble_line reading pc mnemonic _ named (by simp)]
  simp [Form.assemble, threeOperands]

theorem assemble_shift (named : forms.lookup mnemonic = some (.imm op)) :
    assemble reading pc (line mnemonic [rn rd, rn rs1, "0x" ++ hexadecimal value]) =
      some ⟨op, rd, rs1, 0, value⟩ := by
  rw [assemble_line reading pc mnemonic _ named (by simp [token_marks])]
  simp [Form.assemble, threeOperands]

theorem assemble_immOf (named : forms.lookup mnemonic = some (.immOf op value)) :
    assemble reading pc (line mnemonic [rn rd, rn rs1]) = some ⟨op, rd, rs1, 0, value⟩ := by
  rw [assemble_line reading pc mnemonic _ named (by simp)]
  simp [Form.assemble, twoOperands]

theorem assemble_constant (named : forms.lookup mnemonic = some .constant) :
    assemble reading pc (line mnemonic [rn rd, decimal value]) =
      some ⟨.addi, rd, 0, 0, value⟩ := by
  rw [assemble_line reading pc mnemonic _ named (by simp)]
  simp [Form.assemble, twoOperands]

theorem assemble_upper (named : forms.lookup mnemonic = some (.upper op)) :
    assemble reading pc (line mnemonic [rn rd, "0x" ++ hexadecimal value]) =
      some ⟨op, rd, 0, 0, value <<< 12⟩ := by
  rw [assemble_line reading pc mnemonic _ named (by simp [token_marks])]
  simp [Form.assemble, twoOperands]

theorem assemble_load (named : forms.lookup mnemonic = some (.load op)) :
    assemble reading pc (line mnemonic [rn rd, printMemory (decimal value) (rn rs1)]) =
      some ⟨op, rd, rs1, 0, value⟩ := by
  rw [assemble_line reading pc mnemonic _ named (by simp)]
  simp [Form.assemble, twoOperands]

theorem assemble_store (named : forms.lookup mnemonic = some (.store op)) :
    assemble reading pc (line mnemonic [rn rs2, printMemory (decimal value) (rn rs1)]) =
      some ⟨op, 0, rs1, rs2, value⟩ := by
  rw [assemble_line reading pc mnemonic _ named (by simp)]
  simp [Form.assemble, twoOperands]

theorem assemble_branch (named : forms.lookup mnemonic = some (.branch op)) :
    assemble reading pc (line mnemonic [rn rs1, rn rs2, hexadecimal (pc + value)]) =
      some ⟨op, 0, rs1, rs2, value⟩ := by
  rw [assemble_line reading pc mnemonic _ named (by simp)]
  simp [Form.assemble, threeOperands]

theorem assemble_branchZero (named : forms.lookup mnemonic = some (.branchZero op)) :
    assemble reading pc (line mnemonic [rn rs1, hexadecimal (pc + value)]) =
      some ⟨op, 0, rs1, 0, value⟩ := by
  rw [assemble_line reading pc mnemonic _ named (by simp)]
  simp [Form.assemble, twoOperands]

theorem assemble_zeroBranch (named : forms.lookup mnemonic = some (.zeroBranch op)) :
    assemble reading pc (line mnemonic [rn rs2, hexadecimal (pc + value)]) =
      some ⟨op, 0, 0, rs2, value⟩ := by
  rw [assemble_line reading pc mnemonic _ named (by simp)]
  simp [Form.assemble, twoOperands]

theorem assemble_jump :
    assemble reading pc (line "j" [hexadecimal (pc + value)]) =
      some ⟨.jal, 0, 0, 0, value⟩ := by
  rw [assemble_line reading pc "j" _ rfl (by simp)]
  simp [Form.assemble, oneOperand]

theorem assemble_jal :
    assemble reading pc (line "jal" [rn rd, hexadecimal (pc + value)]) =
      some ⟨.jal, rd, 0, 0, value⟩ := by
  rw [assemble_line reading pc "jal" _ rfl (by simp)]
  simp [Form.assemble, twoOperands]

theorem assemble_jalr :
    assemble reading pc (line "jalr" [rn rd, printMemory (decimal value) (rn rs1)]) =
      some ⟨.jalr, rd, rs1, 0, value⟩ := by
  rw [assemble_line reading pc "jalr" _ rfl (by simp)]
  simp [Form.assemble]

theorem assemble_address {address : String} (token : Token address)
    (read : readBase address = some (value, rs1)) :
    assemble reading pc (line "jalr" [address]) = some ⟨.jalr, 1, rs1, 0, value⟩ ∧
      assemble reading pc (line "jr" [address]) = some ⟨.jalr, 0, rs1, 0, value⟩ := by
  rw [assemble_line reading pc "jalr" _ rfl (by simp [token]),
    assemble_line reading pc "jr" _ rfl (by simp [token])]
  simp [Form.assemble, oneOperand, read]

theorem assemble_csr (csr : Nat) (named : forms.lookup mnemonic = some (.csr op)) :
    assemble reading pc (line mnemonic [csrName csr, rn rd, rn rs1]) =
      some ⟨op, rd, rs1, 0, BitVec.ofNat 32 csr⟩ := by
  rw [assemble_line reading pc mnemonic _ named (by simp)]
  simp [Form.assemble, threeOperands]

theorem assemble_csrImm (csr : Nat) (named : forms.lookup mnemonic = some (.csrImm op)) :
    assemble reading pc (line mnemonic [csrName csr, rn rd, hexadecimal (rs1.setWidth 32)]) =
        some ⟨op, rd, rs1, 0, BitVec.ofNat 32 csr⟩ ↔
      (reading = .decimal → rs1.toNat < 10) := by
  rw [assemble_line reading pc mnemonic _ named (by simp), ← readUimm_hexadecimal reading rs1]
  simp [Form.assemble, threeOperands, Option.bind_eq_some_iff]

theorem assemble_csrRead (csr : Nat) :
    assemble reading pc (line "csrr" [rn rd, csrName csr]) =
      some ⟨.csrrs, rd, 0, 0, BitVec.ofNat 32 csr⟩ := by
  rw [assemble_line reading pc "csrr" _ rfl (by simp)]
  simp [Form.assemble, twoOperands]

theorem assemble_csrOnly (csr : Nat) (named : forms.lookup mnemonic = some (.csrOnly op)) :
    assemble reading pc (line mnemonic [csrName csr, rn rs1]) =
      some ⟨op, 0, rs1, 0, BitVec.ofNat 32 csr⟩ := by
  rw [assemble_line reading pc mnemonic _ named (by simp)]
  simp [Form.assemble, twoOperands]

theorem assemble_counter (named : forms.lookup mnemonic = some (.counter value)) :
    assemble reading pc (line mnemonic [rn rd]) = some ⟨.csrrs, rd, 0, 0, value⟩ := by
  rw [assemble_line reading pc mnemonic _ named (by simp)]
  simp [Form.assemble, oneOperand]

end Lines

end RiscVFast
