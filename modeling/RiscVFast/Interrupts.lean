import RiscVFast.Traps

/-! Asynchronous interrupts. -/

namespace RiscVFast

open Fallible Transition

def interruptCause (s : Machine) : Word := if s.externalPending then riscvIntrMei else riscvIntrMti

/-- One interrupt was taken in place of the instruction, and nothing else has changed. -/
structure InterruptTaken (before : Machine) (label : StepLabel) (after : Machine) : Prop where
  external : label.externalIrq = decide before.externalPending
  timer : label.timeIrq = !decide before.externalPending
  state : after = { before with
    cpu.mstatus := (before.cpu.mstatus ||| riscvMstatusMpie) &&& ~~~riscvMstatusMie
    cpu.mepc := before.cpu.pc
    cpu.mcause := 0x80000000 ||| interruptCause before
    cpu.mip := if before.cpu.cycle &&& 0xfffff = 0xfffff then before.cpu.mip ||| riscvMipMtip
      else before.cpu.mip
    cpu.pc := before.cpu.mtvec
    cpu.pcInc := label.pcInc
    cpu.pcNext := before.cpu.mtvec
    cpu.cycle := before.cpu.cycle + 1 }

theorem poll_taken {s : Machine} (point : s.pollPoint) (enabled : s.interruptsEnabled)
    (pending : s.externalPending ∨ s.timerPending) :
    poll s = (decide s.externalPending, !decide s.externalPending,
      (s.interrupt (interruptCause s)).fakeTimer) := by
  by_cases external : s.externalPending
  · rw [poll_external point enabled external]
    simp [interruptCause, external]
  · rw [poll_timer point enabled external (pending.resolve_left external)]
    simp [interruptCause, external]

theorem interrupt_previous (s : Machine) (cause : Word) :
    (s.interrupt cause).cpu.mstatus &&& riscvMstatusMpie ≠ 0 := by
  have keeps : ~~~riscvMstatusMie &&& riscvMstatusMpie = riscvMstatusMpie := by decide
  simp only [Machine.interrupt]
  rw [or_and_keeps keeps]
  decide

/-- A pending interrupt replaces the instruction of a poll point, and its handler returns to
that instruction. -/
theorem interrupt_precise (cfg : Config) (memory : Memory) (entry dataEnd : Word)
    (moves : List Move) (sim cached : Simulator) (code32 pcInc : Word) (vliw : Vliw)
    (runs : Runs (Moves cfg) (Simulator.boot memory entry dataEnd) moves sim)
    (point : sim.machine.pollPoint) (enabled : sim.machine.interruptsEnabled)
    (pending : sim.machine.externalPending ∨ sim.machine.timerPending)
    (fetched : fetchCode sim.machine = .ok (code32, pcInc))
    (looked : cacheLookup sim sim.machine.cpu.pc code32 = .ok (vliw, cached)) :
    ∃ label after, step cfg sim = .ok (label, after) ∧
      InterruptTaken sim.machine label after.machine ∧ ReturnsTo cfg sim.machine after := by
  let fallen := sim.machine.fallThrough pcInc
  let taken := (fallen.interrupt (interruptCause fallen)).fakeTimer
  have zero : taken.cpu.reg 0 = 0 := by
    simp only [taken, fakeTimer_eq]
    exact zero_of_runs runs
  have polling : poll fallen =
      (decide fallen.externalPending, !decide fallen.externalPending, taken) :=
    poll_taken point enabled pending
  have irq : (decide fallen.externalPending || !decide fallen.externalPending) = true := by simp
  have ran : execute cfg
      (executedVliw vliw (decide fallen.externalPending) (!decide fallen.externalPending)) taken =
        .ok taken := by
    rw [executedVliw, if_pos irq]
    exact execute_nop cfg taken zero
  refine ⟨_, _, step_of_parts fetched looked polling ran, ⟨rfl, rfl, ?_⟩, ?_⟩
  · simp only [taken, fakeTimer_eq]
    rfl
  · have state : taken.trapState = (fallen.interrupt (interruptCause fallen)).trapState := by
      simp only [taken, fakeTimer_eq, Machine.trapState]
    have masked := mt (interruptsEnabled_congr state).mp (interrupt_masked fallen _)
    have previous := interrupt_previous fallen (interruptCause fallen)
    have mstatus : taken.cpu.mstatus = (fallen.interrupt (interruptCause fallen)).cpu.mstatus :=
      congrArg TrapState.mstatus state
    have mepc : taken.cpu.mepc = sim.machine.cpu.pc := congrArg TrapState.mepc state
    rw [← mstatus] at previous
    exact returnsTo_of_masked masked mepc (iff_of_true previous enabled)

/-- MEIE and MEIP are set, MIE is set and then the program jumps to itself until the poll. -/
theorem interrupt_precise_external :
    ∃ (sim : Simulator) (label : StepLabel) (after : Simulator),
      sim.machine.cpu.pc = 20 ∧ sim.machine.externalPending ∧
      step (Config.standard Host.silent) sim = .ok (label, after) ∧
      InterruptTaken sim.machine label after.machine ∧
      ReturnsTo (Config.standard Host.silent) sim.machine after := by
  have evaluated : (do
      let reached ← steps (Config.standard Host.silent) 15 (Simulator.boot (smallMemory
        0x20000000 [0x000010b7, 0x0010d093, 0x30409073, 0x34409073, 0x30046073, 0x0000006f]) 0 0)
      let fetched ← fetchCode reached.2.machine
      let _ ← cacheLookup reached.2 reached.2.machine.cpu.pc fetched.1
      .ok (reached.2.machine.cpu.pc, decide (reached.2.machine.pollPoint ∧
        reached.2.machine.interruptsEnabled ∧ reached.2.machine.externalPending))) =
          Except.ok (20, true) := by
    decide +kernel
  obtain ⟨⟨labels, sim⟩, completed, evaluated⟩ := bind_eq_ok.mp evaluated
  obtain ⟨⟨code32, pcInc⟩, fetched, evaluated⟩ := bind_eq_ok.mp evaluated
  obtain ⟨⟨vliw, cached⟩, looked, evaluated⟩ := bind_eq_ok.mp evaluated
  simp only [Except.ok.injEq, Prod.mk.injEq, decide_eq_true_eq] at evaluated
  obtain ⟨pc, point, enabled, external⟩ := evaluated
  obtain ⟨label, after, stepped, taken, returns⟩ := interrupt_precise _ _ 0 0 _ sim cached code32
    pcInc vliw (steps_moves completed) point enabled (.inl external) fetched looked
  exact ⟨sim, label, after, pc, external, stepped, taken, returns⟩

end RiscVFast
