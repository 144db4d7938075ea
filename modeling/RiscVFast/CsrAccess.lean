import RiscVFast.Computational
import RiscVFast.Effects
import RiscVFast.Lib.RvExtensions

/-! The CSR instructions: what `csr_insn` reads, what it writes and what it leaves alone. -/

namespace RiscVFast

open Rv32i hiding Word
open MaskTable Fallible

theorem csrRead_frame (cfg : Config) (s : Machine) (csr : Csr) :
    ∃ calls, (csrRead cfg s csr).2 = { s with calls := calls } := by
  cases csr <;> exact ⟨_, rfl⟩

theorem csrWrite_frame (s : Machine) (value : Word) (csr : Csr) :
    ∃ cycle mstatus mie mtvec mscratch mepc mip, csrWrite s value csr =
      { s with cpu := { s.cpu with cycle, mstatus, mie, mtvec, mscratch, mepc, mip } } := by
  cases csr <;> exact ⟨_, _, _, _, _, _, _, rfl⟩

theorem csrInsn_parts (cfg : Config) (type : CsrType) (csr : Word) (rd rs : BitVec 5)
    (imm32 : Word) (s : Machine) :
    ∃ value cycle mstatus mie mtvec mscratch mepc mip calls,
      csrInsn cfg type csr rd rs imm32 s =
        let written : Machine :=
          { s with
            cpu := { s.cpu with cycle, mstatus, mie, mtvec, mscratch, mepc, mip }
            calls := calls }
        if rd ≠ 0 then written.setReg rd value else written := by
  have read : ∃ calls, (if type.reads rd then csrRead cfg s (csrOf csr) else (0, s)).2 =
      { s with calls := calls } := by
    split
    · exact csrRead_frame cfg s (csrOf csr)
    · exact ⟨s.calls, rfl⟩
  obtain ⟨calls, read⟩ := read
  unfold csrInsn
  generalize (if type.reads rd then csrRead cfg s (csrOf csr) else (0, s)) = answer at read ⊢
  obtain ⟨value, middle⟩ := answer
  simp only at read
  subst read
  cases type.writes rs with
  | true =>
      obtain ⟨cycle, mstatus, mie, mtvec, mscratch, mepc, mip, write⟩ :=
        csrWrite_frame { s with calls := calls } (type.newValue value imm32) (csrOf csr)
      simp only [write, if_true]
      exact ⟨value, _, _, _, _, _, _, _, _, rfl⟩
  | false =>
      simp only [Bool.false_eq_true, if_false]
      exact ⟨value, _, _, _, _, _, _, _, _, rfl⟩

theorem csrInsn_frame (cfg : Config) (type : CsrType) (csr : Word) (rd rs : BitVec 5)
    (imm32 : Word) (s : Machine) :
    ∃ reg cycle mstatus mie mtvec mscratch mepc mip calls,
      csrInsn cfg type csr rd rs imm32 s =
        { s with
          cpu := { s.cpu with reg, cycle, mstatus, mie, mtvec, mscratch, mepc, mip }
          calls := calls } := by
  obtain ⟨value, _, _, _, _, _, _, _, _, parts⟩ := csrInsn_parts cfg type csr rd rs imm32 s
  rw [parts]
  simp only
  split <;> exact ⟨_, _, _, _, _, _, _, _, _, rfl⟩

/-- The documented machine read/write registers, but for the counters and `misa`. -/
inductive MachineCsr
  | mstatus | mie | mtvec | mscratch | mepc | mcause | mtval | mip
deriving DecidableEq

def MachineCsr.number : MachineCsr → BitVec 12
  | .mstatus => 0x300
  | .mie => 0x304
  | .mtvec => 0x305
  | .mscratch => 0x340
  | .mepc => 0x341
  | .mcause => 0x342
  | .mtval => 0x343
  | .mip => 0x344

def MachineCsr.csr : MachineCsr → Csr
  | .mstatus => .mstatus
  | .mie => .mie
  | .mtvec => .mtvec
  | .mscratch => .mscratch
  | .mepc => .mepc
  | .mcause => .mcause
  | .mtval => .mtval
  | .mip => .mip

def Cpu.csrs (cpu : Cpu) : MachineCsr → Word
  | .mstatus => cpu.mstatus
  | .mie => cpu.mie
  | .mtvec => cpu.mtvec
  | .mscratch => cpu.mscratch
  | .mepc => cpu.mepc
  | .mcause => cpu.mcause
  | .mtval => cpu.mtval
  | .mip => cpu.mip

def Machine.withCsrs (s : Machine) (regs : Regs) (csrs : MachineCsr → Word) : Machine :=
  { s with
    cpu.reg := regs
    cpu.mstatus := csrs .mstatus
    cpu.mie := csrs .mie
    cpu.mtvec := csrs .mtvec
    cpu.mscratch := csrs .mscratch
    cpu.mepc := csrs .mepc
    cpu.mcause := csrs .mcause
    cpu.mtval := csrs .mtval
    cpu.mip := csrs .mip }

@[simp] theorem withCsrs_csrs (s : Machine) (regs : Regs) (csrs : MachineCsr → Word) :
    (s.withCsrs regs csrs).cpu.csrs = csrs := by
  funext csr
  cases csr <;> rfl

theorem csrOf_number (csr : MachineCsr) :
    csrOf (csr.number.setWidth 32 &&& 0xfff) = csr.csr := by
  cases csr <;> rfl

@[simp] theorem csrRead_machineCsr (cfg : Config) (s : Machine) (csr : MachineCsr) :
    csrRead cfg s csr.csr = (s.cpu.csrs csr, s) := by
  cases csr <;> rfl

def MachineCsr.stored (csr : MachineCsr) : Bool := csr != .mcause && csr != .mtval

theorem csrWrite_machineCsr (s : Machine) (csr : MachineCsr) (value : Word) :
    csrWrite s value csr.csr = s.withCsrs s.cpu.reg
      (if csr.stored then Function.update s.cpu.csrs csr value else s.cpu.csrs) := by
  cases csr <;> rfl

def csrOpcode : CsrOp → VliwOp
  | .csrrw => .csrrw
  | .csrrs => .csrrs
  | .csrrc => .csrrc
  | .csrrwi => .csrrwi
  | .csrrsi => .csrrsi
  | .csrrci => .csrrci

def csrTypeOfOp : CsrOp → CsrType
  | .csrrw | .csrrwi => .w
  | .csrrs | .csrrsi => .s
  | .csrrc | .csrrci => .c

theorem dispatch_csr (cfg : Config) (op : CsrOp) (rd rs1 rs2 : Reg) (number : Word)
    (s : Machine) :
    dispatch cfg ⟨csrOpcode op, rd, rs1, rs2, number⟩ s =
      .ok (csrInsn cfg (csrTypeOfOp op) (number &&& 0xfff) rd rs1 (op.operand s.cpu.reg rs1) s) := by
  cases op <;> rfl

theorem csrTypeOfOp_writes (op : CsrOp) (rs1 : Reg) :
    (csrTypeOfOp op).writes rs1 = op.writes rs1 := by
  cases op <;> simp [csrTypeOfOp, CsrType.writes, CsrOp.writes]

theorem csrTypeOfOp_newValue (op : CsrOp) (old operand : Word) :
    (csrTypeOfOp op).newValue old operand = op.combine old operand := by
  cases op <;> rfl

theorem newValue_unread {type : CsrType} {rd : Reg} (old operand : Word)
    (unread : type.reads rd = false) : type.newValue 0 operand = type.newValue old operand := by
  cases type <;> simp_all [CsrType.reads, CsrType.newValue]

theorem reads_of_target (type : CsrType) {rd : Reg} (target : rd ≠ 0) : type.reads rd = true := by
  have other : (rd != 0) = true := by simpa using target
  rw [CsrType.reads, other, Bool.or_true]

theorem csrWrite_op (op : CsrOp) (csr : MachineCsr) (rd rs1 : Reg) (s : Machine) :
    (if (csrTypeOfOp op).writes rs1 then
        csrWrite s ((csrTypeOfOp op).newValue
          (if (csrTypeOfOp op).reads rd then s.cpu.csrs csr else 0) (op.operand s.cpu.reg rs1))
          csr.csr
      else s) =
      s.withCsrs s.cpu.reg
        (if csr.stored then op.evalCsrs rs1 csr s.cpu.reg s.cpu.csrs else s.cpu.csrs) := by
  have value : (csrTypeOfOp op).newValue
      (if (csrTypeOfOp op).reads rd then s.cpu.csrs csr else 0) (op.operand s.cpu.reg rs1) =
        op.combine (s.cpu.csrs csr) (op.operand s.cpu.reg rs1) := by
    rw [← csrTypeOfOp_newValue]
    split
    · rfl
    · rename_i unread
      exact newValue_unread _ _ (by simpa using unread)
  rw [csrTypeOfOp_writes, value, csrWrite_machineCsr, CsrOp.evalCsrs]
  cases op.writes rs1 with
  | true => rfl
  | false =>
      simp only [Bool.false_eq_true, if_false, ite_self]
      rfl

theorem csrInsn_machineCsr (cfg : Config) (op : CsrOp) (csr : MachineCsr) (rd rs1 : Reg)
    (s : Machine) (zero : s.cpu.reg 0 = 0) :
    (csrInsn cfg (csrTypeOfOp op) (csr.number.setWidth 32 &&& 0xfff) rd rs1
      (op.operand s.cpu.reg rs1) s).setReg 0 0 =
      s.withCsrs (CsrOp.evalRegs rd csr s.cpu.reg s.cpu.csrs)
        (if csr.stored then op.evalCsrs rs1 csr s.cpu.reg s.cpu.csrs else s.cpu.csrs) := by
  have read : (if (csrTypeOfOp op).reads rd then csrRead cfg s csr.csr else (0, s)) =
      (if (csrTypeOfOp op).reads rd then s.cpu.csrs csr else 0, s) := by
    split <;> simp
  unfold csrInsn
  rw [csrOf_number, read]
  simp only
  rw [csrWrite_op]
  split
  · rename_i target
    rw [reads_of_target _ target, if_pos rfl]
    exact clear_setReg (s.withCsrs s.cpu.reg _) zero rd _
  · rename_i target
    rw [not_not.mp target]
    exact clear_unchanged (s.withCsrs s.cpu.reg _) zero

def csrItems : CsrOp → List String
  | .csrrw | .csrrs | .csrrc => ["csr", "rd", "rs"]
  | .csrrwi | .csrrsi | .csrrci => ["csr", "rd", "uimm5"]

theorem decodeAlone_csr (op : CsrOp) (number : BitVec 12) (rd rs1 : Reg) :
    decodeAlone (op.encode number rd rs1) =
      .ok (true, ⟨csrOpcode op, rd, rs1, 0, number.setWidth 32⟩) := by
  have described := rType_described (number.extractLsb' 5 7) (number.extractLsb' 0 5) rs1
    op.funct3 rd 0b1110011 [] (agrees_none _) (agrees_some _) (agrees_none _) (by simp)
  rw [← iType_eq_rType] at described
  have decoded := decodeAlone_of_search (csrOpcode op) (csrItems op) described
    (by cases op <;> decide) (by cases op <;> decide +kernel)
  have field := number_iType rs1 op.funct3 rd 0b1110011 number
  rw [CsrOp.encode, decoded]
  cases op <;> simp only [csrItems, decodeItems, decodeItem, field] <;>
    simp [Vliw.ofOpcode, csrOpcode]

/-- Decoded and executed, a CSR instruction is the read-modify-write of the architecture exactly
when it writes no register that is missing from the write switch, or writes back its value. -/
theorem csr_atomic_iff (cfg : Config) (op : CsrOp) (csr : MachineCsr) (rd rs1 : Reg) (pc : Word)
    (s : Machine) (calls : List (Word × Word)) (results : List (Bool × Vliw))
    (tables : DecodeTables)
    (history : decodeCalls DecodeTables.empty calls = .ok (results, tables))
    (zero : s.cpu.reg 0 = 0) :
    (∃ decoded t, decode2vliw tables pc (op.encode csr.number rd rs1) = .ok decoded ∧
      decoded.found = true ∧ execute cfg decoded.vliw s = .ok t ∧
      t = s.withCsrs (CsrOp.evalRegs rd csr s.cpu.reg s.cpu.csrs)
        (op.evalCsrs rs1 csr s.cpu.reg s.cpu.csrs) ∧
      csrRead cfg t csr.csr = (op.evalCsrs rs1 csr s.cpu.reg s.cpu.csrs csr, t)) ↔
      (csr ≠ .mcause ∧ csr ≠ .mtval) ∨ op.writes rs1 = false ∨
        op.combine (s.cpu.csrs csr) (op.operand s.cpu.reg rs1) = s.cpu.csrs csr := by
  have sound := (decodeCalls_sound DecodeTables.empty_sound history).1
  have transparent := sound.transparent pc (op.encode csr.number rd rs1)
  rw [decodeAlone_csr] at transparent
  obtain ⟨decoded, called, result⟩ := map_eq_ok.mp transparent
  simp only [Decoded.result, Prod.mk.injEq] at result
  have executed : execute cfg decoded.vliw s =
      .ok (s.withCsrs (CsrOp.evalRegs rd csr s.cpu.reg s.cpu.csrs)
        (if csr.stored then op.evalCsrs rs1 csr s.cpu.reg s.cpu.csrs else s.cpu.csrs)) := by
    rw [result.2, execute, dispatch_csr, map_ok, csrInsn_machineCsr cfg op csr rd rs1 s zero]
  have same : (∃ decoded t, decode2vliw tables pc (op.encode csr.number rd rs1) = .ok decoded ∧
      decoded.found = true ∧ execute cfg decoded.vliw s = .ok t ∧
      t = s.withCsrs (CsrOp.evalRegs rd csr s.cpu.reg s.cpu.csrs)
        (op.evalCsrs rs1 csr s.cpu.reg s.cpu.csrs) ∧
      csrRead cfg t csr.csr = (op.evalCsrs rs1 csr s.cpu.reg s.cpu.csrs csr, t)) ↔
      (if csr.stored then op.evalCsrs rs1 csr s.cpu.reg s.cpu.csrs else s.cpu.csrs) =
        op.evalCsrs rs1 csr s.cpu.reg s.cpu.csrs := by
    constructor
    · rintro ⟨decoded', t, called', _, executed', equal, _⟩
      rw [called] at called'
      simp only [Except.ok.injEq] at called'
      subst called'
      rw [executed] at executed'
      simp only [Except.ok.injEq] at executed'
      rw [← executed'] at equal
      simpa using congrArg (fun s : Machine => s.cpu.csrs) equal
    · intro equal
      rw [equal] at executed
      exact ⟨decoded, _, called, result.1, executed, rfl, by simp⟩
  rw [same]
  cases stored : csr.stored with
  | true =>
      simp only [MachineCsr.stored, Bool.and_eq_true, bne_iff_ne] at stored
      exact iff_of_true (by simp) (.inl stored)
  | false =>
      have missing : ¬ (csr ≠ .mcause ∧ csr ≠ .mtval) := by
        simpa [MachineCsr.stored] using stored
      simp only [missing, Bool.false_eq_true, if_false, false_or, CsrOp.evalCsrs]
      cases op.writes rs1 with
      | true =>
          rw [if_pos rfl, Function.eq_update_self_iff, eq_comm]
          simp
      | false => simp

theorem csr_atomic_iff_mscratch :
    let s := (Simulator.boot (smallMemory 0x80000000 []) 0 0).machine
    ∃ decoded t, decode2vliw DecodeTables.empty 0 0x340112f3 = .ok decoded ∧
      execute (Config.standard Host.silent) decoded.vliw s = .ok t ∧
      t.cpu.mscratch = 0x800000f0 ∧ t.cpu.reg 5 = 0 := by
  obtain ⟨decoded, t, called, _, executed, result, _⟩ :=
    (csr_atomic_iff (Config.standard Host.silent) .csrrw .mscratch 5 2 0
      (Simulator.boot (smallMemory 0x80000000 []) 0 0).machine [] [] DecodeTables.empty rfl
      (by decide)).mpr (.inl (by decide))
  refine ⟨decoded, t, called, executed, ?_, ?_⟩
  · rw [result]
    decide
  · rw [result]
    decide

/-- `csrrw x0,mcause,x2` writes nothing. -/
theorem csr_mcause_dropped :
    ¬ ∀ (cfg : Config) (op : CsrOp) (csr : MachineCsr) (rd rs1 : Reg) (pc : Word) (s : Machine)
      (calls : List (Word × Word)) (results : List (Bool × Vliw)) (tables : DecodeTables),
      decodeCalls DecodeTables.empty calls = .ok (results, tables) → s.cpu.reg 0 = 0 →
      ∃ decoded t, decode2vliw tables pc (op.encode csr.number rd rs1) = .ok decoded ∧
        decoded.found = true ∧ execute cfg decoded.vliw s = .ok t ∧
        t = s.withCsrs (CsrOp.evalRegs rd csr s.cpu.reg s.cpu.csrs)
          (op.evalCsrs rs1 csr s.cpu.reg s.cpu.csrs) ∧
        csrRead cfg t csr.csr = (op.evalCsrs rs1 csr s.cpu.reg s.cpu.csrs csr, t) := by
  intro claimed
  obtain ⟨decoded, t, called, _, executed, result, _⟩ := claimed (Config.standard Host.silent) .csrrw
    .mcause 0 2 0 (Simulator.boot (smallMemory 0x80000000 []) 0 0).machine [] []
    DecodeTables.empty rfl (by decide)
  have evaluated : (do
      let decoded ← decode2vliw DecodeTables.empty 0 (CsrOp.csrrw.encode 0x342 0 2)
      let t ← execute (Config.standard Host.silent) decoded.vliw
        (Simulator.boot (smallMemory 0x80000000 []) 0 0).machine
      .ok t.cpu.mcause : Except Abort Word) = .ok 0 := by
    rfl
  have encoded : MachineCsr.mcause.number = 0x342 := rfl
  rw [encoded] at called
  rw [called, ok_bind, executed, ok_bind, result] at evaluated
  revert evaluated
  decide

end RiscVFast
