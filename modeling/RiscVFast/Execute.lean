import RiscVFast.Newlib

/-! The CSR unit, the traps and the opcode switch of `Cpu.cpp`. -/

namespace RiscVFast

def riscvMstatusMie : Word := 0x00000008
def riscvMstatusMpie : Word := 0x00000080
def riscvMipMtip : Word := 0x00000080
def riscvMipMeip : Word := 0x00000800
def riscvMieMtie : Word := 0x00000080
def riscvMieMeie : Word := 0x00000800
def riscvIntrMti : Word := 7
def riscvIntrMei : Word := 11
def riscvExcpBreak : Word := 3
def riscvExcpEcallU : Word := 8

inductive Csr
  | mvendorid | marchid | mimpid | mhartid
  | mstatus | misa | mie | mtvec
  | mscratch | mepc | mcause | mtval | mip
  | cycle | mcycle | cycleh | mcycleh | time | timeh
  | instret | minstret | instreth | minstreth
  | rand | unknown
deriving DecidableEq

def csrTable : List (Word × Csr) := [
  (0xf11, .mvendorid), (0xf12, .marchid), (0xf13, .mimpid), (0xf14, .mhartid),
  (0x300, .mstatus), (0x301, .misa), (0x304, .mie), (0x305, .mtvec),
  (0x340, .mscratch), (0x341, .mepc), (0x342, .mcause), (0x343, .mtval), (0x344, .mip),
  (0xb00, .mcycle), (0xb02, .minstret), (0xb80, .mcycleh), (0xb82, .minstreth),
  (0xc00, .cycle), (0xc01, .time), (0xc02, .instret),
  (0xc80, .cycleh), (0xc81, .timeh), (0xc82, .instreth), (0xcc0, .rand)]

def csrOf (number : Word) : Csr := (csrTable.lookup number).getD .unknown

def optMvendorId : Word := 0x7fff2021
def optMarchId : Word := 0x00007201
def optMimpId : Word := 0x00000012
def optMhartId : Word := 0x00009001

/-- MXL = 1 and the `I` bit: neither `OP_COMPRESSED` nor `OP_MUL` is defined in the build. -/
def optMisa : Word := (0b01 <<< 30) ||| 0x0000100

def timeUs (timeOfDay : BitVec 64 × Word) : BitVec 64 :=
  timeOfDay.1 * 1000000 + timeOfDay.2.setWidth 64

def csrRead (cfg : Config) (s : Machine) : Csr → Word × Machine
  | .mvendorid => (optMvendorId, s)
  | .marchid => (optMarchId, s)
  | .mimpid => (optMimpId, s)
  | .mhartid => (optMhartId, s)
  | .mstatus => (s.cpu.mstatus, s)
  | .misa => (optMisa, s)
  | .mie => (s.cpu.mie, s)
  | .mtvec => (s.cpu.mtvec, s)
  | .mscratch => (s.cpu.mscratch, s)
  | .mepc => (s.cpu.mepc, s)
  | .mcause => (s.cpu.mcause, s)
  | .mtval => (s.cpu.mtval, s)
  | .mip => (s.cpu.mip, s)
  | .cycle | .mcycle | .instret | .minstret => (s.cpu.cycle.setWidth 32, s)
  | .cycleh | .mcycleh | .instreth | .minstreth => ((s.cpu.cycle >>> 32).setWidth 32, s)
  | .time =>
      let (timeOfDay, s) := s.ask cfg.host.timeOfDay
      ((timeUs timeOfDay).setWidth 32, s)
  | .timeh =>
      let (timeOfDay, s) := s.ask cfg.host.timeOfDay
      ((timeUs timeOfDay >>> 32).setWidth 32, s)
  | .rand => s.ask cfg.host.rand32
  | .unknown => (0, s)

def csrWrite (s : Machine) (value : Word) : Csr → Machine
  | .mtvec => { s with cpu.mtvec := value }
  | .mepc => { s with cpu.mepc := value }
  | .mscratch => { s with cpu.mscratch := value }
  | .mie => { s with cpu.mie := value }
  | .mip => { s with cpu.mip := value }
  | .mstatus => { s with cpu.mstatus := value }
  | .mcycle => { s with cpu.cycle := value.setWidth 64 }
  | .mcycleh => { s with cpu.cycle := value.setWidth 64 <<< 32 }
  | _ => s

inductive CsrType
  | w | s | c
deriving DecidableEq

def CsrType.reads (type : CsrType) (rd : BitVec 5) : Bool :=
  (type == .s || type == .c) || rd != 0

def CsrType.writes (type : CsrType) (rs : BitVec 5) : Bool :=
  type == .w || ((type == .s || type == .c) && rs != 0)

def CsrType.newValue (type : CsrType) (value imm32 : Word) : Word :=
  match type with
  | .w => imm32
  | .s => value ||| imm32
  | .c => value &&& ~~~imm32

def csrInsn (cfg : Config) (type : CsrType) (csr : Word) (rd rs : BitVec 5) (imm32 : Word)
    (s : Machine) : Machine :=
  let (value, s) := if type.reads rd then csrRead cfg s (csrOf csr) else (0, s)
  let s := if type.writes rs then csrWrite s (type.newValue value imm32) (csrOf csr) else s
  if rd ≠ 0 then s.setReg rd value else s

/-- The common body of `ecall` and `ebreak`. -/
def Machine.exception (s : Machine) (cause : Word) : Machine :=
  { s with
    cpu.mepc := s.cpu.pc
    cpu.mcause := cause
    cpu.pcNext := s.cpu.mtvec
    cpu.mstatus :=
      if s.cpu.mstatus &&& riscvMstatusMie = 0 then s.cpu.mstatus &&& ~~~riscvMstatusMpie
      else s.cpu.mstatus ||| riscvMstatusMpie }

def ecall (s : Machine) : Machine := s.exception riscvExcpEcallU

def ebreak (s : Machine) : Machine := s.exception riscvExcpBreak

def mret (s : Machine) : Machine :=
  { s with
    cpu.pcNext := s.cpu.mepc
    cpu.mstatus :=
      (if s.cpu.mstatus &&& riscvMstatusMpie = 0 then s.cpu.mstatus &&& ~~~riscvMstatusMie
        else s.cpu.mstatus ||| riscvMstatusMie) &&& ~~~riscvMstatusMpie }

/-- The common body of the two interrupts, once one of them is taken. -/
def Machine.interrupt (s : Machine) (cause : Word) : Machine :=
  { s with
    cpu.mstatus := (s.cpu.mstatus ||| riscvMstatusMpie) &&& ~~~riscvMstatusMie
    cpu.mepc := s.cpu.pc
    cpu.mcause := 0x80000000 ||| cause
    cpu.pcNext := s.cpu.mtvec }

def doExternalIrq (s : Machine) : Bool × Machine :=
  if s.cpu.mip &&& riscvMipMeip = 0 ∨ s.cpu.mie &&& riscvMieMeie = 0 then (false, s)
  else if s.cpu.mstatus &&& riscvMstatusMie = 0 then (false, s)
  else (true, s.interrupt riscvIntrMei)

def doTimeIrq (s : Machine) : Bool × Machine :=
  if s.cpu.mip &&& s.cpu.mie &&& riscvMieMtie = 0 then (false, s)
  else if s.cpu.mstatus &&& riscvMstatusMie = 0 then (false, s)
  else (true, s.interrupt riscvIntrMti)

/-- A signed division as the host does it: both undefined cases trap. -/
def signedDivide (divide : Word → Word → Word) (a b : Word) : Except Abort Word :=
  if b = 0 ∨ (a = 0x80000000 ∧ b = 0xffffffff) then .error .divideError else .ok (divide a b)

def unsignedDivide (divide : Word → Word → Word) (a b : Word) : Except Abort Word :=
  if b = 0 then .error .divideError else .ok (divide a b)

def highHalf (a b : BitVec 64) : Word := ((a * b).sshiftRight 32).setWidth 32

def flag (condition : Bool) : Word := if condition then 1 else 0

def dispatch (cfg : Config) (vlp : Vliw) (s : Machine) : Except Abort Machine :=
  let rs1 := s.cpu.reg vlp.rs1
  let rs2 := s.cpu.reg vlp.rs2
  let imm := vlp.imm
  let pc := s.cpu.pc
  let branch (taken : Bool) : Except Abort Machine :=
    .ok (if taken then s.setPcNext (pc + imm) else s)
  let set (value : Word) : Except Abort Machine := .ok (s.setReg vlp.rd value)
  let load (read : Word → Except Abort Word) : Except Abort Machine := do
    checkAddr s (rs1 + imm)
    .ok (s.setReg vlp.rd (← read (rs1 + imm)))
  match vlp.opcode with
  | .nop => .ok s
  | .illegal => .error (.fatal "Illegal instruction @ 0x%08x\n" pc)
  | .j => .ok (s.setPcNext (pc + imm))
  | .jal => .ok ((s.setReg vlp.rd s.cpu.pcNext).setPcNext (pc + imm))
  | .jr => .ok (s.setPcNext rs1)
  | .jalr => .ok ((s.setPcNext (rs1 + imm)).setReg vlp.rd s.cpu.pcNext)
  | .beq => branch (rs1 == rs2)
  | .bne => branch (rs1 != rs2)
  | .bge => branch (rs2.sle rs1)
  | .bgeu => branch (rs2.ule rs1)
  | .blt => branch (rs1.slt rs2)
  | .bltu => branch (rs1.ult rs2)
  | .add => set (rs1 + rs2)
  | .sub => set (rs1 - rs2)
  | .xor => set (rs1 ^^^ rs2)
  | .or => set (rs1 ||| rs2)
  | .and => set (rs1 &&& rs2)
  | .addi => set (rs1 + imm)
  | .xori => set (rs1 ^^^ imm)
  | .ori => set (rs1 ||| imm)
  | .andi => set (rs1 &&& imm)
  | .slti => set (flag (rs1.slt imm))
  | .sltiu => set (flag (rs1.ult imm))
  | .slt => set (flag (rs1.slt rs2))
  | .sltu => set (flag (rs1.ult rs2))
  | .srl => set (rs1 >>> (rs2 &&& 0x1f).toNat)
  | .sra => set (rs1.sshiftRight (rs2 &&& 0x1f).toNat)
  | .sll => set (rs1 <<< (rs2 &&& 0x1f).toNat)
  | .slli => set (rs1 <<< (imm &&& 0x1f).toNat)
  | .srli => set (rs1 >>> (imm &&& 0x1f).toNat)
  | .srai => set (rs1.sshiftRight (imm &&& 0x1f).toNat)
  | .lui => set (imm <<< 12)
  | .auipc => set (pc + (imm <<< 12))
  | .lw => do
      checkAddr s (rs1 + imm)
      let (value, s) ← read32 cfg s (rs1 + imm)
      .ok (s.setReg vlp.rd value)
  | .lh => load s.memory.read16
  | .lhu => load s.memory.read16u
  | .lb => load s.memory.read8
  | .lbu => load s.memory.read8u
  | .sw => write32 cfg s (rs1 + imm) rs2
  | .sh => write16 cfg s (rs1 + imm) rs2
  | .sb => write8 cfg s (rs1 + imm) rs2
  | .mul => set (rs1 * rs2)
  | .mulh => set (highHalf (rs1.signExtend 64) (rs2.signExtend 64))
  | .mulhu => set (highHalf (rs1.setWidth 64) (rs2.setWidth 64))
  | .mulhsu => set (highHalf (rs1.signExtend 64) (rs2.setWidth 64))
  | .div => do set (← signedDivide BitVec.sdiv rs1 rs2)
  | .divu => do set (← unsignedDivide BitVec.udiv rs1 rs2)
  | .rem => do set (← signedDivide BitVec.srem rs1 rs2)
  | .remu => do set (← unsignedDivide BitVec.umod rs1 rs2)
  | .ecall => if cfg.doNewlib then syscall cfg s else .ok (ecall s)
  | .ebreak => .ok (ebreak s)
  | .sret => .ok s
  | .mret => .ok (mret s)
  | .wfi => .ok s
  | .csrrw => .ok (csrInsn cfg .w (imm &&& 0xfff) vlp.rd vlp.rs1 rs1 s)
  | .csrrs => .ok (csrInsn cfg .s (imm &&& 0xfff) vlp.rd vlp.rs1 rs1 s)
  | .csrrc => .ok (csrInsn cfg .c (imm &&& 0xfff) vlp.rd vlp.rs1 rs1 s)
  | .csrrwi => .ok (csrInsn cfg .w (imm &&& 0xfff) vlp.rd vlp.rs1 (vlp.rs1.setWidth 32) s)
  | .csrrsi => .ok (csrInsn cfg .s (imm &&& 0xfff) vlp.rd vlp.rs1 (vlp.rs1.setWidth 32) s)
  | .csrrci => .ok (csrInsn cfg .c (imm &&& 0xfff) vlp.rd vlp.rs1 (vlp.rs1.setWidth 32) s)
  | opcode => .error (.unknownOp opcode)

/-- `Cpu::execute`: `x0` is zeroed after every instruction. -/
def execute (cfg : Config) (vlp : Vliw) (s : Machine) : Except Abort Machine :=
  (dispatch cfg vlp s).map fun s => s.setReg 0 0

/-- The free function `execute` of `Decode.cpp`: decode one word and execute it at `addr`. -/
def executeCode (cfg : Config) (addr code : Word) (sim : Simulator) : Except Abort Simulator := do
  let decoded ← decode2vliw sim.tables addr code
  let machine ← execute cfg decoded.vliw { sim.machine with cpu.pc := addr }
  .ok { sim with machine, tables := decoded.tables }

end RiscVFast
