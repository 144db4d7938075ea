import RiscVFast.CsrAccess
import RiscVFast.ProgramCounter

/-! The cycle counter: every round counts itself, and two CSRs write the counter. -/

namespace RiscVFast

open Fallible Transition

def Vliw.csrOperand (vlp : Vliw) (s : Machine) : Word :=
  match vlp.opcode with
  | .csrrw | .csrrs | .csrrc => s.cpu.reg vlp.rs1
  | _ => vlp.rs1.setWidth 32

def Vliw.csrWrite (cfg : Config) (vlp : Vliw) (s : Machine) : Option (Csr × Word) :=
  let csr := csrOf (vlp.imm &&& 0xfff)
  match csrTypeOf vlp.opcode with
  | some type =>
      if type.writes vlp.rs1 then
        some (csr, type.newValue (csrRead cfg s csr).1 (vlp.csrOperand s))
      else none
  | none => none

def Vliw.writesCounter (vlp : Vliw) : Bool := vlp.writesCsr .mcycle || vlp.writesCsr .mcycleh

def counterAfter (cycle : BitVec 64) : Csr × Word → BitVec 64
  | (.mcycle, value) => value.setWidth 64
  | (.mcycleh, value) => value.setWidth 64 <<< 32
  | _ => cycle

def Vliw.nextCycle (cfg : Config) (vlp : Vliw) (s : Machine) : BitVec 64 :=
  match vlp.csrWrite cfg s with
  | some write => counterAfter s.cpu.cycle write
  | none => s.cpu.cycle

section Effect

variable {cfg : Config} {vlp : Vliw} {s t : Machine}

theorem host_cycle (rw : Bool) (addr value : Word) (s : Machine) :
    (host rw addr value s).cpu.cycle = s.cpu.cycle := by
  obtain ⟨stop, events, frame⟩ := host_frame rw addr value s
  rw [frame]

theorem csrWrite_cycle (s : Machine) (value : Word) (csr : Csr) :
    (csrWrite s value csr).cpu.cycle = counterAfter s.cpu.cycle (csr, value) := by
  cases csr <;> rfl

theorem csrInsn_cycle (cfg : Config) (type : CsrType) (csr : Word) (rd rs : BitVec 5)
    (imm32 : Word) (s : Machine) :
    (csrInsn cfg type csr rd rs imm32 s).cpu.cycle =
      if type.writes rs then
        counterAfter s.cpu.cycle (csrOf csr,
          type.newValue (csrRead cfg s (csrOf csr)).1 imm32)
      else s.cpu.cycle := by
  have read : ∃ value middle,
      (if type.reads rd then csrRead cfg s (csrOf csr) else (0, s)) = (value, middle) ∧
      middle.cpu.cycle = s.cpu.cycle ∧
      type.newValue value imm32 = type.newValue (csrRead cfg s (csrOf csr)).1 imm32 := by
    cases reads : type.reads rd with
    | true =>
        obtain ⟨calls, frame⟩ := csrRead_frame cfg s (csrOf csr)
        refine ⟨(csrRead cfg s (csrOf csr)).1, (csrRead cfg s (csrOf csr)).2, rfl, ?_, rfl⟩
        rw [frame]
    | false => exact ⟨0, s, rfl, rfl, newValue_unread _ imm32 reads⟩
  obtain ⟨value, middle, answer, cycle, newValue⟩ := read
  have target : ∀ s : Machine, (if rd ≠ 0 then s.setReg rd value else s).cpu.cycle =
      s.cpu.cycle := by
    intro s
    split <;> rfl
  unfold csrInsn
  simp only [answer, target]
  split
  · rw [csrWrite_cycle, cycle, newValue]
  · exact cycle

theorem csrInsn_target {type : CsrType} {csr : Word} {rd rs : BitVec 5} {imm32 : Word}
    (target : rd ≠ 0) :
    (csrInsn cfg type csr rd rs imm32 s).cpu.reg rd = (csrRead cfg s (csrOf csr)).1 := by
  unfold csrInsn
  rw [reads_of_target type target, if_pos rfl]
  simp only
  rw [if_pos target]
  exact Function.update_self _ _ _

theorem dispatch_csrType {type : CsrType} (opcode : csrTypeOf vlp.opcode = some type) :
    dispatch cfg vlp s =
      .ok (csrInsn cfg type (vlp.imm &&& 0xfff) vlp.rd vlp.rs1 (vlp.csrOperand s) s) := by
  obtain ⟨op, rd, rs1, rs2, imm⟩ := vlp
  unfold csrTypeOf at opcode
  split at opcode <;> simp only [Option.some.injEq, reduceCtorEq] at opcode
  all_goals
    rename_i same
    simp only at same
    subst same opcode
    rfl

theorem dispatch_cycle (dispatched : dispatch cfg vlp s = .ok t) :
    t.cpu.cycle = vlp.nextCycle cfg s := by
  unfold Vliw.nextCycle Vliw.csrWrite
  simp only
  cases isCsr : csrTypeOf vlp.opcode with
  | some type =>
      rw [dispatch_csrType isCsr] at dispatched
      simp only [Except.ok.injEq] at dispatched
      rw [← dispatched, csrInsn_cycle]
      cases writes : type.writes vlp.rs1 with
      | true => simp only [writes, if_true]
      | false => simp only [writes, Bool.false_eq_true, if_false]
  | none =>
      cases dispatch_effect dispatched with
      | compute silent reg pcNext => rfl
      | deviceLoad silent addr => exact host_cycle _ _ _ s
      | store width memory opcode written => rfl
      | deviceStore opcode refused => exact host_cycle _ _ _ s
      | newlib t opcode enabled called =>
          obtain ⟨reg, heap, running, stop, cpu⟩ := (syscall_called called).cpu
          simp only [cpu]
      | trap cause opcode => rfl
      | mret opcode => rfl
      | csr silent type imm32 opcode => simp [isCsr] at opcode

theorem counterAfter_other (cycle : BitVec 64) (value : Word) {csr : Csr} (notLow : csr ≠ .mcycle)
    (notHigh : csr ≠ .mcycleh) : counterAfter cycle (csr, value) = cycle := by
  cases csr <;> first | contradiction | rfl

theorem nextCycle_quiet (quiet : vlp.writesCounter = false) :
    vlp.nextCycle cfg s = s.cpu.cycle := by
  simp only [Vliw.writesCounter, Vliw.writesCsr, Bool.or_eq_false_iff] at quiet
  unfold Vliw.nextCycle Vliw.csrWrite
  simp only
  cases isCsr : csrTypeOf vlp.opcode with
  | none => rfl
  | some type =>
      cases writes : type.writes vlp.rs1 with
      | false => simp only [writes, Bool.false_eq_true, if_false]
      | true =>
          simp only [isCsr, writes, Bool.true_and, beq_eq_false_iff_ne] at quiet
          simp only [writes, if_true]
          exact counterAfter_other _ _ quiet.1 quiet.2

theorem nextCycle_quietPoll (cfg : Config) (vlp : Vliw) (s : Machine) (pcInc : Word) :
    vlp.nextCycle cfg (s.quietPoll pcInc) = vlp.nextCycle cfg s := by
  obtain ⟨mip, polled⟩ := quietPoll_frame s pcInc
  rw [polled]
  unfold Vliw.nextCycle Vliw.csrWrite
  simp only
  cases csrTypeOf vlp.opcode with
  | none => rfl
  | some type =>
      cases writes : type.writes vlp.rs1 with
      | false => simp only [writes, Bool.false_eq_true, if_false]
      | true =>
          simp only [writes, if_true]
          generalize csrOf (vlp.imm &&& 0xfff) = csr
          cases csr <;> rfl

end Effect

theorem execute_cycle {cfg : Config} {vlp : Vliw} {s t : Machine}
    (executed : execute cfg vlp s = .ok t) : t.cpu.cycle = vlp.nextCycle cfg s := by
  obtain ⟨middle, dispatched, same⟩ := map_eq_ok.mp executed
  rw [← dispatch_cycle dispatched, ← same]
  rfl

theorem nop_quiet : vliwNop.writesCounter = false := rfl

theorem step_cycle {cfg : Config} {sim after : Simulator} {label : StepLabel}
    (stepped : step cfg sim = .ok (label, after)) :
    after.machine.cpu.cycle = label.executed.nextCycle cfg sim.machine + 1 := by
  cases interrupted : label.interrupted with
  | true =>
      obtain ⟨_, polled, executed, _, _, polling, ran, _, _, rfl⟩ := step_inversion stepped
      obtain ⟨mstatus, mepc, mcause, mip, pcNext, frame⟩ :=
        poll_frame (sim.machine.fallThrough label.pcInc)
      rw [polling] at frame
      simp only at frame
      have counted := execute_cycle ran
      rw [executed_of_interrupted interrupted, nextCycle_quiet nop_quiet, frame] at counted
      rw [executed_of_interrupted interrupted, nextCycle_quiet nop_quiet]
      simp only [Machine.advance, counted]
      rfl
  | false =>
      obtain ⟨executed, ran, advanced⟩ := step_uninterrupted stepped interrupted
      rw [executed_of_quiet interrupted, advanced, ← nextCycle_quietPoll cfg _ _ label.pcInc,
        ← execute_cycle ran]
      rfl

theorem rounds_cycle {cfg : Config} {sim after : Simulator} {labels : List StepLabel}
    (runs : Runs (Moves cfg) sim (labels.map .round) after)
    (quiet : ∀ label ∈ labels, label.executed.writesCounter = false) :
    after.machine.cpu.cycle = sim.machine.cpu.cycle + BitVec.ofNat 64 labels.length := by
  induction labels generalizing sim with
  | nil =>
      cases runs with
      | nil => simp
  | cons label labels ih =>
      cases runs with
      | cons first rest =>
          cases first with
          | round stepped =>
              have counted := step_cycle stepped
              rw [nextCycle_quiet (quiet label (by simp))] at counted
              rw [ih rest fun label member => quiet label (by simp [member]), counted]
              simp only [List.length_cons]
              rw [Nat.add_comm labels.length 1, BitVec.ofNat_add, BitVec.add_assoc]
              rfl

def counterOf (high low : Word) : BitVec 64 := (high.setWidth 64 <<< 32) + low.setWidth 64

def lowHalf (cycle : BitVec 64) : Word := cycle.setWidth 32

def upperOf (cycle : BitVec 64) : Word := (cycle >>> 32).setWidth 32

theorem counterOf_eq_iff (high low : Word) (count : BitVec 64) :
    low.setWidth 64 + count = counterOf high low + count ↔ high = 0 := by
  constructor
  · intro equal
    have bound := high.isLt
    have parts : 0#64 + low.setWidth 64 = high.setWidth 64 <<< 32 + low.setWidth 64 := by
      rw [BitVec.zero_add]
      exact (BitVec.add_left_inj count).mp equal
    have bits := congrArg BitVec.toNat ((BitVec.add_left_inj _).mp parts)
    simp only [BitVec.toNat_shiftLeft, BitVec.toNat_setWidth, Nat.shiftLeft_eq,
      BitVec.toNat_ofNat] at bits
    have none : high.toNat = 0 := by omega
    exact BitVec.eq_of_toNat_eq (by simpa using none)
  · rintro rfl
    simp [counterOf]

/-- A write of `h` to the upper half, some instructions, a write of `l` to the lower half, and
then the instructions `later`; all but the two writes leave the counter alone. -/
inductive HalvesWritten (cfg : Config) (h l : Word) : Simulator → List StepLabel → Simulator → Prop
  | mk {start raised between lowered after : Simulator} {high low : StepLabel}
      {others later : List StepLabel}
      (highStep : step cfg start = .ok (high, raised))
      (highWrite : high.executed.csrWrite cfg start.machine = some (.mcycleh, h))
      (othersRun : Runs (Moves cfg) raised (others.map .round) between)
      (othersQuiet : ∀ label ∈ others, label.executed.writesCounter = false)
      (few : others.length < 2 ^ 32 - 1)
      (lowStep : step cfg between = .ok (low, lowered))
      (lowWrite : low.executed.csrWrite cfg between.machine = some (.mcycle, l))
      (laterRun : Runs (Moves cfg) lowered (later.map .round) after)
      (laterQuiet : ∀ label ∈ later, label.executed.writesCounter = false) :
      HalvesWritten cfg h l start later after

theorem step_low {cfg : Config} {sim after : Simulator} {label : StepLabel} {l : Word}
    (stepped : step cfg sim = .ok (label, after))
    (write : label.executed.csrWrite cfg sim.machine = some (.mcycle, l)) :
    after.machine.cpu.cycle = l.setWidth 64 + 1 := by
  rw [step_cycle stepped, Vliw.nextCycle, write]
  rfl

theorem HalvesWritten.cycle {cfg : Config} {h l : Word} {start after : Simulator}
    {later : List StepLabel} (written : HalvesWritten cfg h l start later after) :
    after.machine.cpu.cycle = l.setWidth 64 + BitVec.ofNat 64 (1 + later.length) := by
  cases written with
  | mk highStep highWrite othersRun othersQuiet few lowStep lowWrite laterRun laterQuiet =>
      rw [rounds_cycle laterRun laterQuiet, step_low lowStep lowWrite, BitVec.add_assoc,
        BitVec.ofNat_add]
      rfl

theorem step_csr_reads {cfg : Config} {sim after : Simulator} {label : StepLabel} {type : CsrType}
    (stepped : step cfg sim = .ok (label, after))
    (opcode : csrTypeOf label.executed.opcode = some type) (target : label.executed.rd ≠ 0) :
    after.machine.cpu.reg label.executed.rd =
      (csrRead cfg (sim.machine.quietPoll label.pcInc) (csrOf (label.executed.imm &&& 0xfff))).1 := by
  have notNop : label.executed.opcode ≠ .nop := by
    intro nop
    rw [nop] at opcode
    simp [csrTypeOf] at opcode
  have quiet := quiet_of_executed notNop
  obtain ⟨executed, ran, advanced⟩ := step_uninterrupted stepped quiet
  rw [executed_of_quiet quiet] at opcode target ⊢
  rw [execute, dispatch_csrType opcode, map_ok, Except.ok.injEq] at ran
  rw [advanced, ← ran]
  have read := @csrInsn_target cfg (sim.machine.quietPoll label.pcInc) type
    (label.vliw.imm &&& 0xfff) label.vliw.rd label.vliw.rs1
    (label.vliw.csrOperand (sim.machine.quietPoll label.pcInc)) target
  rw [← read]
  exact Function.update_of_ne target _ _

theorem counter_reads {cfg : Config} {sim after : Simulator} {label : StepLabel} {type : CsrType}
    (stepped : step cfg sim = .ok (label, after))
    (opcode : csrTypeOf label.executed.opcode = some type) (target : label.executed.rd ≠ 0) :
    (csrOf (label.executed.imm &&& 0xfff) ∈ [Csr.cycle, .mcycle, .instret, .minstret] →
      after.machine.cpu.reg label.executed.rd = lowHalf sim.machine.cpu.cycle) ∧
    (csrOf (label.executed.imm &&& 0xfff) ∈ [Csr.cycleh, .mcycleh, .instreth, .minstreth] →
      after.machine.cpu.reg label.executed.rd = upperOf sim.machine.cpu.cycle) := by
  have loaded := step_csr_reads stepped opcode target
  obtain ⟨mip, polled⟩ := quietPoll_frame sim.machine label.pcInc
  rw [loaded, polled]
  generalize csrOf (label.executed.imm &&& 0xfff) = csr
  constructor
  · intro low
    simp only [List.mem_cons, List.not_mem_nil, or_false] at low
    rcases low with rfl | rfl | rfl | rfl <;> rfl
  · intro high
    simp only [List.mem_cons, List.not_mem_nil, or_false] at high
    rcases high with rfl | rfl | rfl | rfl <;> rfl

/-- The two writes give the 64-bit value exactly when its upper half is zero; a write of the lower
half alone preserves the upper one exactly when that is zero; reads are right. -/
theorem cycle_halves_iff (cfg : Config) (start : Simulator) :
    (∀ h l later after, HalvesWritten cfg h l start later after →
      (after.machine.cpu.cycle = counterOf h l + BitVec.ofNat 64 (1 + later.length) ↔ h = 0)) ∧
    (∀ l label after, step cfg start = .ok (label, after) →
      label.executed.csrWrite cfg start.machine = some (.mcycle, l) →
      (after.machine.cpu.cycle = counterOf (upperOf start.machine.cpu.cycle) l + 1 ↔
        upperOf start.machine.cpu.cycle = 0)) ∧
    ∀ label after type, step cfg start = .ok (label, after) →
      csrTypeOf label.executed.opcode = some type → label.executed.rd ≠ 0 →
      (csrOf (label.executed.imm &&& 0xfff) ∈ [Csr.cycle, .mcycle, .instret, .minstret] →
        after.machine.cpu.reg label.executed.rd = lowHalf start.machine.cpu.cycle) ∧
      (csrOf (label.executed.imm &&& 0xfff) ∈ [Csr.cycleh, .mcycleh, .instreth, .minstreth] →
        after.machine.cpu.reg label.executed.rd = upperOf start.machine.cpu.cycle) := by
  refine ⟨?_, ?_, ?_⟩
  · intro h l later after written
    rw [written.cycle]
    exact counterOf_eq_iff h l _
  · intro l label after stepped write
    rw [step_low stepped write]
    exact counterOf_eq_iff _ l 1
  · intro label after type stepped opcode target
    exact counter_reads stepped opcode target

theorem cycle_halves_iff_low :
    let start := Simulator.boot (smallMemory 0x20000000 [0xb001d073]) 0 0
    ∃ label after, step (Config.standard Host.silent) start = .ok (label, after) ∧
      after.machine.cpu.cycle = counterOf (upperOf start.machine.cpu.cycle) 3 + 1 := by
  intro start
  have evaluated : (step (Config.standard Host.silent) start).map
      (fun outcome => outcome.1.executed) = .ok ⟨.csrrwi, 0, 3, 0, 0xb00⟩ := by
    decide +kernel
  obtain ⟨⟨label, after⟩, stepped, executed⟩ := map_eq_ok.mp evaluated
  have write : label.executed.csrWrite (Config.standard Host.silent) start.machine =
      some (.mcycle, 3) := by
    rw [executed]
    rfl
  refine ⟨label, after, stepped, ?_⟩
  exact ((cycle_halves_iff (Config.standard Host.silent) start).2.1 3 label after stepped write).mpr
    (by decide)

/-- `csrrwi x0,mcycleh,1` and `csrrwi x0,mcycle,0` leave the counter at 1. -/
theorem cycle_upper_half_lost :
    ¬ ∀ (cfg : Config) (start : Simulator) (h l : Word) (later : List StepLabel)
      (after : Simulator), HalvesWritten cfg h l start later after →
      after.machine.cpu.cycle = counterOf h l + BitVec.ofNat 64 (1 + later.length) := by
  intro claimed
  have evaluated : (do
      let first ← step (Config.standard Host.silent)
        (Simulator.boot (smallMemory 0x20000000 [0xb800d073, 0xb0005073]) 0 0)
      let second ← step (Config.standard Host.silent) first.2
      .ok (first.1.executed, second.1.executed, second.2.machine.cpu.cycle)) =
        Except.ok (⟨.csrrwi, 0, 1, 0, 0xb80⟩, ⟨.csrrwi, 0, 0, 0, 0xb00⟩, 1) := by
    decide +kernel
  obtain ⟨⟨high, between⟩, highStep, evaluated⟩ := bind_eq_ok.mp evaluated
  obtain ⟨⟨low, after⟩, lowStep, evaluated⟩ := bind_eq_ok.mp evaluated
  simp only [Except.ok.injEq, Prod.mk.injEq] at evaluated
  obtain ⟨highVliw, lowVliw, cycle⟩ := evaluated
  have written : HalvesWritten (Config.standard Host.silent) 1 0
      (Simulator.boot (smallMemory 0x20000000 [0xb800d073, 0xb0005073]) 0 0) [] after := by
    refine @HalvesWritten.mk _ 1 0 _ between between after after high low [] [] highStep ?_
      (.nil between) (by simp) (by decide) lowStep ?_ (.nil after) (by simp)
    · rw [highVliw]
      rfl
    · rw [lowVliw]
      rfl
  have counted := claimed _ _ 1 0 [] after written
  rw [cycle] at counted
  exact absurd counted (by decide)

end RiscVFast
