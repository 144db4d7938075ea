import RiscVFast.Computational
import RiscVFast.Writes

/-! Traps, interrupts and the handlers that return from them. -/

namespace RiscVFast

open Fallible Transition

structure TrapState where
  mstatus : Word
  mepc : Word
  mcause : Word

def Machine.trapState (s : Machine) : TrapState where
  mstatus := s.cpu.mstatus
  mepc := s.cpu.mepc
  mcause := s.cpu.mcause

def Vliw.writesCsr (vlp : Vliw) (csr : Csr) : Bool :=
  match csrTypeOf vlp.opcode with
  | some type => type.writes vlp.rs1 && csrOf (vlp.imm &&& 0xfff) == csr
  | none => false

/-- With newlib an `ecall` is a call and no trap. -/
def Vliw.traps (cfg : Config) (vlp : Vliw) : Bool :=
  vlp.opcode == .ebreak || vlp.opcode == .ecall && !cfg.doNewlib

structure Vliw.InHandler (cfg : Config) (vlp : Vliw) : Prop where
  noTrap : vlp.traps cfg = false
  noReturn : vlp.opcode ≠ .mret
  keepsMstatus : vlp.writesCsr .mstatus = false
  keepsMepc : vlp.writesCsr .mepc = false

@[simp] theorem setReg_trapState (s : Machine) (rd : BitVec 5) (value : Word) :
    (s.setReg rd value).trapState = s.trapState := rfl

@[simp] theorem advance_trapState (s : Machine) : s.advance.trapState = s.trapState := by
  simp only [Machine.trapState, Machine.advance]

@[simp] theorem enterRun_trapState (s : Machine) : s.enterRun.trapState = s.trapState := by
  simp only [Machine.trapState, Machine.enterRun]

@[simp] theorem clearStop_trapState (s : Machine) : s.clearStop.trapState = s.trapState := by
  simp only [Machine.trapState, Machine.clearStop]

@[simp] theorem host_trapState (rw : Bool) (addr value : Word) (s : Machine) :
    (host rw addr value s).trapState = s.trapState := by
  obtain ⟨stop, events, frame⟩ := host_frame rw addr value s
  rw [frame]
  rfl

@[simp] theorem csrRead_trapState (cfg : Config) (s : Machine) (csr : Csr) :
    (csrRead cfg s csr).2.trapState = s.trapState := by
  cases csr <;> rfl

theorem csrWrite_trapState (s : Machine) (value : Word) {csr : Csr} (notMstatus : csr ≠ .mstatus)
    (notMepc : csr ≠ .mepc) : (csrWrite s value csr).trapState = s.trapState := by
  cases csr <;> first | contradiction | simp only [csrWrite, Machine.trapState]

theorem csrInsn_trapState {cfg : Config} {type : CsrType} {csr : Word} {rd rs : BitVec 5}
    {imm32 : Word} {s : Machine}
    (keeps : type.writes rs = true → csrOf csr ≠ .mstatus ∧ csrOf csr ≠ .mepc) :
    (csrInsn cfg type csr rd rs imm32 s).trapState = s.trapState := by
  have read : (if type.reads rd then csrRead cfg s (csrOf csr) else (0, s)).2.trapState =
      s.trapState := by
    split
    · exact csrRead_trapState cfg s (csrOf csr)
    · rfl
  have write : ∀ (middle : Machine) (value : Word),
      (if type.writes rs then csrWrite middle value (csrOf csr) else middle).trapState =
        middle.trapState := by
    intro middle value
    split
    · rename_i writes
      obtain ⟨notMstatus, notMepc⟩ := keeps writes
      exact csrWrite_trapState middle value notMstatus notMepc
    · rfl
  unfold csrInsn
  simp only
  split
  · rw [setReg_trapState, write, read]
  · rw [write, read]

theorem dispatch_trapState {cfg : Config} {vlp : Vliw} {s t : Machine}
    (handler : vlp.InHandler cfg) (dispatched : dispatch cfg vlp s = .ok t) :
    t.trapState = s.trapState := by
  cases dispatch_effect dispatched with
  | compute silent reg pcNext => rfl
  | deviceLoad silent addr => rw [setReg_trapState, host_trapState]
  | store width memory opcode written => rfl
  | deviceStore opcode refused => exact host_trapState _ _ _ s
  | newlib t opcode enabled called =>
      obtain ⟨reg, heap, running, stop, cpu⟩ := (syscall_called called).cpu
      simp only [Machine.trapState, cpu]
  | trap cause opcode =>
      have traps : vlp.traps cfg = true := by
        rcases opcode with ⟨opcode, disabled⟩ | opcode
        · simp [Vliw.traps, opcode, disabled]
        · simp [Vliw.traps, opcode]
      simp [handler.noTrap] at traps
  | mret opcode => exact absurd opcode handler.noReturn
  | csr silent type imm32 opcode =>
      refine csrInsn_trapState ?_
      intro writes
      have keepsMstatus := handler.keepsMstatus
      have keepsMepc := handler.keepsMepc
      simp only [Vliw.writesCsr, opcode, writes, Bool.true_and, beq_eq_false_iff_ne]
        at keepsMstatus keepsMepc
      exact ⟨keepsMstatus, keepsMepc⟩

theorem execute_trapState {cfg : Config} {vlp : Vliw} {s t : Machine}
    (handler : vlp.InHandler cfg) (executed : execute cfg vlp s = .ok t) :
    t.trapState = s.trapState := by
  obtain ⟨middle, dispatched, same⟩ := map_eq_ok.mp executed
  rw [← same, setReg_trapState]
  exact dispatch_trapState handler dispatched

theorem interruptsEnabled_congr {s t : Machine} (same : t.trapState = s.trapState) :
    t.interruptsEnabled ↔ s.interruptsEnabled := by
  have mstatus : t.cpu.mstatus = s.cpu.mstatus := congrArg TrapState.mstatus same
  simp only [Machine.interruptsEnabled, mstatus]

def Machine.quietPoll (s : Machine) (pcInc : Word) : Machine := (s.fallThrough pcInc).fakeTimer

theorem quietPoll_trapState (s : Machine) (pcInc : Word) :
    (s.quietPoll pcInc).trapState = s.trapState := by
  rw [Machine.quietPoll, fakeTimer_eq]
  rfl

theorem step_uninterrupted {cfg : Config} {sim after : Simulator} {label : StepLabel}
    (stepped : step cfg sim = .ok (label, after)) (quiet : label.interrupted = false) :
    ∃ executed, execute cfg label.vliw (sim.machine.quietPoll label.pcInc) = .ok executed ∧
      after.machine = executed.advance := by
  obtain ⟨cached, polled, executed, _, _, polling, ran, _, _, rfl⟩ := step_inversion stepped
  simp only [StepLabel.interrupted, Bool.or_eq_false_iff] at quiet
  rw [StepLabel.executed, quiet.1, quiet.2] at ran
  rw [quiet.1, quiet.2] at polling
  have timer : polled = sim.machine.quietPoll label.pcInc := by
    rcases poll_cases (sim.machine.fallThrough label.pcInc) with none | ⟨_, _, _, external⟩ |
      ⟨_, _, _, _, timer⟩
    · simp only [polling, Prod.mk.injEq] at none
      exact none.2.2
    · simp [polling] at external
    · simp [polling] at timer
  rw [timer] at ran
  exact ⟨executed, ran, rfl⟩

theorem step_masked {cfg : Config} {sim after : Simulator} {label : StepLabel}
    (stepped : step cfg sim = .ok (label, after)) (masked : ¬ sim.machine.interruptsEnabled) :
    label.interrupted = false := by
  obtain ⟨cached, polled, executed, _, _, polling, _⟩ := step_inversion stepped
  have quiet := @poll_quiet (sim.machine.fallThrough label.pcInc) fun taken => masked taken.2.1
  rw [polling] at quiet
  simp only [Prod.mk.injEq] at quiet
  simp [StepLabel.interrupted, quiet.1, quiet.2.1]

theorem handler_run {cfg : Config} {sim after : Simulator} {moves : List Move}
    (runs : Runs (Moves cfg) sim moves after) (masked : ¬ sim.machine.interruptsEnabled)
    (handler : ∀ label ∈ rounds moves, label.executed.InHandler cfg) :
    after.machine.trapState = sim.machine.trapState ∧
      ∀ label ∈ rounds moves, label.interrupted = false := by
  have run := runs.labels_of_invariant
    (fun state => state.machine.trapState = sim.machine.trapState)
    (fun move => ∀ label, move = .round label → label.executed.InHandler cfg)
    (fun move => ∀ label, move = .round label → label.interrupted = false) ?_ rfl ?_
  · refine ⟨run.1, ?_⟩
    intro label member
    exact run.2 _ (mem_rounds.mp member) label rfl
  · intro state move next same handles moved
    cases moved with
    | round stepped =>
        rename_i label
        have quiet := step_masked stepped (mt (interruptsEnabled_congr same).mp masked)
        obtain ⟨executed, ran, advanced⟩ := step_uninterrupted stepped quiet
        rw [← executed_of_quiet quiet] at ran
        constructor
        · calc next.machine.trapState = executed.trapState := by rw [advanced, advance_trapState]
            _ = (state.machine.quietPoll label.pcInc).trapState :=
              execute_trapState (handles label rfl) ran
            _ = sim.machine.trapState := by rw [quietPoll_trapState, same]
        · intro other same
          cases same
          exact quiet
    | enter => exact ⟨by rw [enterRun_trapState, same], by simp⟩
    | leave => exact ⟨by rw [clearStop_trapState, same], by simp⟩
  · rintro move member label rfl
    exact handler label (mem_rounds.mpr member)

theorem or_and_keeps {m bit mask : Word} (keeps : mask &&& bit = bit) :
    (m ||| bit) &&& mask &&& bit = bit := by
  rw [BitVec.and_assoc, keeps, BitVec.and_or_distrib_right, BitVec.and_self]
  apply BitVec.eq_of_getLsbD_eq
  intro index _
  simp only [BitVec.getLsbD_or, BitVec.getLsbD_and]
  cases m.getLsbD index <;> simp

theorem mret_interruptsEnabled (s : Machine) :
    (mret s).interruptsEnabled ↔ s.cpu.mstatus &&& riscvMstatusMpie ≠ 0 := by
  unfold Machine.interruptsEnabled mret
  simp only
  split
  · rename_i clear
    have gone : ~~~riscvMstatusMie &&& (~~~riscvMstatusMpie &&& riscvMstatusMie) = 0 := by decide
    rw [BitVec.and_assoc, BitVec.and_assoc, gone]
    simp [clear]
  · rename_i set
    have keeps : ~~~riscvMstatusMpie &&& riscvMstatusMie = riscvMstatusMie := by decide
    rw [or_and_keeps keeps]
    exact iff_of_true (by decide) set

theorem execute_mret {cfg : Config} {vlp : Vliw} {s t : Machine} (opcode : vlp.opcode = .mret)
    (executed : execute cfg vlp s = .ok t) :
    t.advance.cpu.pc = s.cpu.mepc ∧
      (t.advance.interruptsEnabled ↔ s.cpu.mstatus &&& riscvMstatusMpie ≠ 0) := by
  simp only [execute, dispatch, opcode, map_ok, Except.ok.injEq] at executed
  rw [← executed]
  exact ⟨rfl, mret_interruptsEnabled s⟩

/-- Along a handler of any length nothing interrupts, the return address and the cause stay,
and `mret` goes back with MIE as it was. -/
def ReturnsTo (cfg : Config) (source : Machine) (entered : Simulator) : Prop :=
  ∀ moves later, Runs (Moves cfg) entered moves later →
    (∀ label ∈ rounds moves, label.executed.InHandler cfg) →
    (∀ label ∈ rounds moves, label.interrupted = false) ∧
      later.machine.cpu.mepc = source.cpu.pc ∧
      later.machine.cpu.mcause = entered.machine.cpu.mcause ∧
      ∀ label next, step cfg later = .ok (label, next) → label.vliw.opcode = .mret →
        label.interrupted = false ∧ next.machine.cpu.pc = source.cpu.pc ∧
          (next.machine.interruptsEnabled ↔ source.interruptsEnabled)

theorem returnsTo_of_masked {cfg : Config} {source : Machine} {entered : Simulator}
    (masked : ¬ entered.machine.interruptsEnabled)
    (mepc : entered.machine.cpu.mepc = source.cpu.pc)
    (previous : entered.machine.cpu.mstatus &&& riscvMstatusMpie ≠ 0 ↔ source.interruptsEnabled) :
    ReturnsTo cfg source entered := by
  intro moves later runs handler
  obtain ⟨same, quiet⟩ := handler_run runs masked handler
  have sameMepc : later.machine.cpu.mepc = entered.machine.cpu.mepc := congrArg TrapState.mepc same
  have sameMcause : later.machine.cpu.mcause = entered.machine.cpu.mcause :=
    congrArg TrapState.mcause same
  refine ⟨quiet, sameMepc.trans mepc, sameMcause, ?_⟩
  intro label next stepped returns
  have uninterrupted := step_masked stepped (mt (interruptsEnabled_congr same).mp masked)
  obtain ⟨executed, ran, advanced⟩ := step_uninterrupted stepped uninterrupted
  have polledState := (quietPoll_trapState later.machine label.pcInc).trans same
  have polledMepc : (later.machine.quietPoll label.pcInc).cpu.mepc = entered.machine.cpu.mepc :=
    congrArg TrapState.mepc polledState
  have polledMstatus : (later.machine.quietPoll label.pcInc).cpu.mstatus =
      entered.machine.cpu.mstatus := congrArg TrapState.mstatus polledState
  obtain ⟨target, restored⟩ := execute_mret returns ran
  rw [polledMepc, mepc] at target
  rw [polledMstatus, previous] at restored
  rw [advanced]
  exact ⟨uninterrupted, target, restored⟩

def trapCause (opcode : VliwOp) : Word := if opcode = .ecall then riscvExcpEcallU else riscvExcpBreak

/-- The entry into a trap: what is saved, what is masked and what stays. -/
structure TrapEntered (cause : Word) (before after : Machine) : Prop where
  mepc : after.cpu.mepc = before.cpu.pc
  mcause : after.cpu.mcause = cause
  pc : after.cpu.pc = before.cpu.mtvec
  previous : after.cpu.mstatus &&& riscvMstatusMpie ≠ 0 ↔ before.interruptsEnabled
  masked : ¬ after.interruptsEnabled
  others : after.cpu.mstatus &&& ~~~(riscvMstatusMie ||| riscvMstatusMpie) =
    before.cpu.mstatus &&& ~~~(riscvMstatusMie ||| riscvMstatusMpie)
  reg : after.cpu.reg = before.cpu.reg
  memory : after.memory = before.memory

theorem step_trap {cfg : Config} {sim after : Simulator} {label : StepLabel}
    (noNewlib : cfg.doNewlib = false) (zero : sim.machine.cpu.reg 0 = 0)
    (stepped : step cfg sim = .ok (label, after))
    (trap : label.executed.opcode = .ecall ∨ label.executed.opcode = .ebreak) :
    after.machine =
      ((sim.machine.quietPoll label.pcInc).exception (trapCause label.executed.opcode)).advance := by
  have notNop : label.executed.opcode ≠ .nop := by
    rcases trap with trap | trap <;> rw [trap] <;> decide
  have quiet := quiet_of_executed notNop
  obtain ⟨executed, ran, advanced⟩ := step_uninterrupted stepped quiet
  rw [← executed_of_quiet quiet] at ran
  have polledZero : (sim.machine.quietPoll label.pcInc).cpu.reg 0 = 0 := by
    rw [Machine.quietPoll, fakeTimer_eq]
    exact zero
  have unchanged : ∀ cause, ((sim.machine.quietPoll label.pcInc).exception cause).setReg 0 0 =
      (sim.machine.quietPoll label.pcInc).exception cause :=
    fun cause => clear_unchanged _ polledZero
  rcases trap with trap | trap
  · simp only [execute, dispatch, trap, noNewlib, Bool.false_eq_true, if_false, map_ok, ecall,
      unchanged, Except.ok.injEq] at ran
    rw [advanced, ← ran, trap]
    rfl
  · simp only [execute, dispatch, trap, map_ok, ebreak, unchanged, Except.ok.injEq] at ran
    rw [advanced, ← ran, trap]
    rfl

theorem exception_interruptsEnabled (s : Machine) (cause : Word) :
    (s.exception cause).interruptsEnabled ↔ s.interruptsEnabled := by
  have apart : riscvMstatusMpie &&& riscvMstatusMie = 0 := by decide
  have kept : ~~~riscvMstatusMpie &&& riscvMstatusMie = riscvMstatusMie := by decide
  unfold Machine.interruptsEnabled Machine.exception
  simp only
  split
  · rw [BitVec.and_assoc, kept]
  · rw [BitVec.and_or_distrib_right, apart]
    simp

theorem exception_entered {s : Machine} (cause : Word) (masked : ¬ s.interruptsEnabled) :
    TrapEntered cause s (s.exception cause).advance := by
  have clear : s.cpu.mstatus &&& riscvMstatusMie = 0 := not_not.mp masked
  have mstatus : (s.exception cause).cpu.mstatus = s.cpu.mstatus &&& ~~~riscvMstatusMpie := by
    simp only [Machine.exception, clear, if_true]
  have gone : ~~~riscvMstatusMpie &&& riscvMstatusMpie = 0 := by decide
  have others : ~~~riscvMstatusMpie &&& ~~~(riscvMstatusMie ||| riscvMstatusMpie) =
      ~~~(riscvMstatusMie ||| riscvMstatusMpie) := by decide
  exact
    { mepc := rfl
      mcause := rfl
      pc := rfl
      previous := by
        refine iff_of_false ?_ masked
        simp only [Machine.advance, mstatus, BitVec.and_assoc, gone, ne_eq, not_not]
        exact BitVec.and_zero
      masked := mt (exception_interruptsEnabled s cause).mp masked
      others := by simp only [Machine.advance, mstatus, BitVec.and_assoc, others]
      reg := rfl
      memory := rfl }

theorem TrapEntered.of_quietPoll {cause : Word} {s t : Machine} {pcInc : Word}
    (entered : TrapEntered cause (s.quietPoll pcInc) t) : TrapEntered cause s t := by
  rw [Machine.quietPoll, fakeTimer_eq] at entered
  exact ⟨entered.mepc, entered.mcause, entered.pc, entered.previous, entered.masked,
    entered.others, entered.reg, entered.memory⟩

/-- A trap masks interrupts until its handler returns exactly when they were masked before. -/
theorem trap_masks_iff (cfg : Config) (memory : Memory) (entry dataEnd : Word)
    (moves : List Move) (sim after : Simulator) (label : StepLabel)
    (noNewlib : cfg.doNewlib = false)
    (runs : Runs (Moves cfg) (Simulator.boot memory entry dataEnd) moves sim)
    (stepped : step cfg sim = .ok (label, after))
    (trap : label.executed.opcode = .ecall ∨ label.executed.opcode = .ebreak) :
    (TrapEntered (trapCause label.executed.opcode) sim.machine after.machine ∧
        ReturnsTo cfg sim.machine after) ↔
      ¬ sim.machine.interruptsEnabled := by
  have trapped := step_trap noNewlib (zero_of_runs runs) stepped trap
  have polled := interruptsEnabled_congr (quietPoll_trapState sim.machine label.pcInc)
  constructor
  · rintro ⟨entered, _⟩ enabled
    have still := (exception_interruptsEnabled _ (trapCause label.executed.opcode)).mpr
      (polled.mpr enabled)
    apply entered.masked
    rw [trapped]
    exact still
  · intro masked
    have entered := exception_entered (trapCause label.executed.opcode) (mt polled.mp masked)
    rw [← trapped] at entered
    have fromSource := entered.of_quietPoll
    exact ⟨fromSource, returnsTo_of_masked fromSource.masked fromSource.mepc fromSource.previous⟩

theorem trap_masks_iff_reset :
    ∃ (label : StepLabel) (after : Simulator),
      let sim := Simulator.boot (smallMemory 0x20000000 [0x00000073]) 0 0
      label.executed.opcode = .ecall ∧ TrapEntered 8 sim.machine after.machine ∧
        ReturnsTo (Config.standard Host.silent) sim.machine after := by
  have evaluated : (step (Config.standard Host.silent)
      (Simulator.boot (smallMemory 0x20000000 [0x00000073]) 0 0)).map
        (fun outcome => outcome.1.executed.opcode) = .ok .ecall := by
    decide +kernel
  obtain ⟨⟨label, after⟩, stepped, opcode⟩ := map_eq_ok.mp evaluated
  have masks := (trap_masks_iff _ _ 0 0 [] _ after label rfl (.nil _) stepped (.inl opcode)).mpr
    (by decide)
  simp only at opcode
  rw [opcode] at masks
  exact ⟨label, after, opcode, masks⟩

/-- `csrrsi x0,mstatus,8` and `ecall`: MIE is still set in the handler. -/
theorem trap_leaves_mie :
    ¬ ∀ (cfg : Config) (memory : Memory) (entry dataEnd : Word) (moves : List Move)
      (sim after : Simulator) (label : StepLabel), cfg.doNewlib = false →
      Runs (Moves cfg) (Simulator.boot memory entry dataEnd) moves sim →
      step cfg sim = .ok (label, after) →
      (label.executed.opcode = .ecall ∨ label.executed.opcode = .ebreak) →
      TrapEntered (trapCause label.executed.opcode) sim.machine after.machine ∧
        ReturnsTo cfg sim.machine after := by
  intro claimed
  have evaluated : (do
      let reached ← steps (Config.standard Host.silent) 1
        (Simulator.boot (smallMemory 0x20000000 [0x30046073, 0x00000073]) 0 0)
      let trapped ← step (Config.standard Host.silent) reached.2
      .ok (trapped.1.executed.opcode, trapped.2.machine.cpu.mstatus)) =
        Except.ok (VliwOp.ecall, riscvMstatusMie ||| riscvMstatusMpie) := by
    decide +kernel
  obtain ⟨⟨labels, sim⟩, completed, evaluated⟩ := bind_eq_ok.mp evaluated
  obtain ⟨⟨label, after⟩, stepped, evaluated⟩ := bind_eq_ok.mp evaluated
  simp only [Except.ok.injEq, Prod.mk.injEq] at evaluated
  obtain ⟨opcode, mstatus⟩ := evaluated
  obtain ⟨entered, _⟩ := claimed _ _ 0 0 _ sim after label rfl (steps_moves completed) stepped
    (.inl opcode)
  apply entered.masked
  rw [Machine.interruptsEnabled, mstatus]
  decide

end RiscVFast
