import RiscVFast.CycleCounter
import RiscVFast.Interrupts
import RiscVFast.Lib.Poller

/-! When an interrupt is taken: `run` polls every sixteenth cycle, and about every million cycles
the timer becomes pending. -/

namespace RiscVFast

open Fallible Transition

structure IrqState where
  mstatus : Word
  mie : Word
  mip : Word

def Machine.irqState (s : Machine) : IrqState where
  mstatus := s.cpu.mstatus
  mie := s.cpu.mie
  mip := s.cpu.mip

structure Vliw.KeepsIrq (cfg : Config) (vlp : Vliw) : Prop where
  noTrap : vlp.traps cfg = false
  noReturn : vlp.opcode ≠ .mret
  keepsMstatus : vlp.writesCsr .mstatus = false
  keepsMie : vlp.writesCsr .mie = false
  keepsMip : vlp.writesCsr .mip = false
  keepsCycle : vlp.writesCounter = false

instance (cfg : Config) (vlp : Vliw) : Decidable (vlp.KeepsIrq cfg) :=
  decidable_of_iff (vlp.traps cfg = false ∧ vlp.opcode ≠ .mret ∧ vlp.writesCsr .mstatus = false ∧
    vlp.writesCsr .mie = false ∧ vlp.writesCsr .mip = false ∧ vlp.writesCounter = false)
    ⟨fun ⟨noTrap, noReturn, keepsMstatus, keepsMie, keepsMip, keepsCycle⟩ =>
      ⟨noTrap, noReturn, keepsMstatus, keepsMie, keepsMip, keepsCycle⟩,
    fun keeps => ⟨keeps.noTrap, keeps.noReturn, keeps.keepsMstatus, keeps.keepsMie,
      keeps.keepsMip, keeps.keepsCycle⟩⟩

@[simp] theorem setReg_irqState (s : Machine) (rd : BitVec 5) (value : Word) :
    (s.setReg rd value).irqState = s.irqState := rfl

@[simp] theorem advance_irqState (s : Machine) : s.advance.irqState = s.irqState := by
  simp only [Machine.irqState, Machine.advance]

theorem host_irqState (rw : Bool) (addr value : Word) (s : Machine) :
    (host rw addr value s).irqState = s.irqState := by
  obtain ⟨stop, events, frame⟩ := host_frame rw addr value s
  rw [frame]
  rfl

theorem csrRead_irqState (cfg : Config) (s : Machine) (csr : Csr) :
    (csrRead cfg s csr).2.irqState = s.irqState := by
  obtain ⟨calls, frame⟩ := csrRead_frame cfg s csr
  rw [frame]
  rfl

theorem csrWrite_irqState (s : Machine) (value : Word) {csr : Csr} (notMstatus : csr ≠ .mstatus)
    (notMie : csr ≠ .mie) (notMip : csr ≠ .mip) :
    (csrWrite s value csr).irqState = s.irqState := by
  cases csr <;> first | contradiction | simp only [csrWrite, Machine.irqState]

theorem csrInsn_irqState {cfg : Config} {type : CsrType} {csr : Word} {rd rs : BitVec 5}
    {imm32 : Word} {s : Machine}
    (keeps : type.writes rs = true →
      csrOf csr ≠ .mstatus ∧ csrOf csr ≠ .mie ∧ csrOf csr ≠ .mip) :
    (csrInsn cfg type csr rd rs imm32 s).irqState = s.irqState := by
  have read : (if type.reads rd then csrRead cfg s (csrOf csr) else (0, s)).2.irqState =
      s.irqState := by
    split
    · exact csrRead_irqState cfg s (csrOf csr)
    · rfl
  have write : ∀ (middle : Machine) (value : Word),
      (if type.writes rs then csrWrite middle value (csrOf csr) else middle).irqState =
        middle.irqState := by
    intro middle value
    split
    · rename_i writes
      obtain ⟨notMstatus, notMie, notMip⟩ := keeps writes
      exact csrWrite_irqState middle value notMstatus notMie notMip
    · rfl
  unfold csrInsn
  simp only
  split
  · rw [setReg_irqState, write, read]
  · rw [write, read]

theorem execute_irqState {cfg : Config} {vlp : Vliw} {s t : Machine} (keeps : vlp.KeepsIrq cfg)
    (executed : execute cfg vlp s = .ok t) : t.irqState = s.irqState := by
  obtain ⟨middle, dispatched, same⟩ := map_eq_ok.mp executed
  rw [← same, setReg_irqState]
  cases dispatch_effect dispatched with
  | compute silent reg pcNext => rfl
  | deviceLoad silent addr => rw [setReg_irqState, host_irqState]
  | store width memory opcode written => rfl
  | deviceStore opcode refused => exact host_irqState _ _ _ s
  | newlib t opcode enabled called =>
      obtain ⟨reg, heap, running, stop, cpu⟩ := (syscall_called called).cpu
      simp only [Machine.irqState, cpu]
  | trap cause opcode =>
      have traps : vlp.traps cfg = true := by
        rcases opcode with ⟨opcode, disabled⟩ | opcode
        · simp [Vliw.traps, opcode, disabled]
        · simp [Vliw.traps, opcode]
      simp [keeps.noTrap] at traps
  | mret opcode => exact absurd opcode keeps.noReturn
  | csr silent type imm32 opcode =>
      refine csrInsn_irqState ?_
      intro writes
      have keepsMstatus := keeps.keepsMstatus
      have keepsMie := keeps.keepsMie
      have keepsMip := keeps.keepsMip
      simp only [Vliw.writesCsr, opcode, writes, Bool.true_and, beq_eq_false_iff_ne]
        at keepsMstatus keepsMie keepsMip
      exact ⟨keepsMstatus, keepsMie, keepsMip⟩

theorem and_ones_iff {width : Nat} (counter : BitVec width) {bits : Nat} (fits : bits ≤ width) :
    counter &&& BitVec.ofNat width (2 ^ bits - 1) = BitVec.ofNat width (2 ^ bits - 1) ↔
      counter.toNat % 2 ^ bits = 2 ^ bits - 1 := by
  have below : 2 ^ bits - 1 < 2 ^ width := by
    have positive := Nat.two_pow_pos bits
    have larger := Nat.pow_le_pow_right (by decide : 0 < 2) fits
    omega
  rw [← BitVec.toNat_inj, BitVec.toNat_and, BitVec.toNat_ofNat, Nat.mod_eq_of_lt below,
    Nat.and_two_pow_sub_one_eq_mod]

def Machine.poller (s : Machine) : Poller.State where
  phase := s.cpu.cycle.toNat % 2 ^ 20
  enabled := s.interruptsEnabled
  pending := s.externalPending ∨ s.timerPending
  ticks := s.cpu.mie &&& riscvMieMtie ≠ 0

theorem pollPoint_iff (s : Machine) : s.pollPoint ↔ s.poller.phase % 16 = 15 := by
  have low := and_ones_iff s.cpu.cycle (by decide : 4 ≤ 64)
  have nested : s.cpu.cycle.toNat % 2 ^ 20 % 16 = s.cpu.cycle.toNat % 2 ^ 4 :=
    Nat.mod_mod_of_dvd _ (by decide)
  rw [Machine.poller, nested]
  exact low

theorem fires_iff_taken (s : Machine) : s.poller.fires 16 = true ↔
    s.pollPoint ∧ s.interruptsEnabled ∧ (s.externalPending ∨ s.timerPending) := by
  rw [pollPoint_iff]
  simp [Poller.State.fires, Machine.poller, and_assoc]

theorem or_and_and (value bit mask : Word) : (value ||| bit) &&& mask &&& bit = mask &&& bit := by
  apply BitVec.eq_of_getLsbD_eq
  intro index _
  simp only [BitVec.getLsbD_or, BitVec.getLsbD_and]
  cases value.getLsbD index <;> cases bit.getLsbD index <;> simp

theorem ticks_iff (s : Machine) : s.poller.ticks = true ↔ s.cpu.mie &&& riscvMieMtie ≠ 0 :=
  decide_eq_true_iff

theorem ticks_of_timerPending {s : Machine} (pending : s.timerPending) : s.poller.ticks = true := by
  rw [ticks_iff]
  intro disabled
  apply pending
  rw [BitVec.and_assoc, disabled]
  exact BitVec.and_zero

theorem timerPending_fakeTimer (s : Machine) : s.fakeTimer.timerPending ↔
    s.timerPending ∨ s.poller.phase = 2 ^ 20 - 1 ∧ s.poller.ticks = true := by
  have phase : s.cpu.cycle &&& 0xfffff = 0xfffff ↔ s.poller.phase = 2 ^ 20 - 1 :=
    and_ones_iff s.cpu.cycle (by decide : 20 ≤ 64)
  rw [fakeTimer_eq]
  by_cases last : s.cpu.cycle &&& 0xfffff = 0xfffff
  · have set : (s.cpu.mip ||| riscvMipMtip) &&& s.cpu.mie &&& riscvMieMtie =
        s.cpu.mie &&& riscvMieMtie := or_and_and s.cpu.mip riscvMipMtip s.cpu.mie
    simp only [Machine.timerPending, last, if_true, set]
    rw [← ticks_iff, ← phase]
    constructor
    · intro ticks
      exact .inr ⟨last, ticks⟩
    · rintro (pending | ⟨_, ticks⟩)
      · exact ticks_of_timerPending pending
      · exact ticks
  · simp only [Machine.timerPending, if_neg last]
    rw [← phase]
    exact (or_iff_left fun reached => last reached.1).symm

theorem externalPending_fakeTimer (s : Machine) :
    s.fakeTimer.externalPending ↔ s.externalPending := by
  have kept : (s.cpu.mip ||| riscvMipMtip) &&& riscvMipMeip = s.cpu.mip &&& riscvMipMeip := by
    have disjoint : riscvMipMtip &&& riscvMipMeip = 0 := by decide
    rw [BitVec.and_or_distrib_right, disjoint]
    exact BitVec.or_zero
  rw [fakeTimer_eq]
  simp only [Machine.externalPending]
  split
  · rw [kept]
  · rfl

theorem irqState_congr {s t : Machine} (same : t.irqState = s.irqState) :
    (t.interruptsEnabled ↔ s.interruptsEnabled) ∧ (t.externalPending ↔ s.externalPending) ∧
      (t.timerPending ↔ s.timerPending) ∧ t.poller.ticks = s.poller.ticks := by
  have mstatus : t.cpu.mstatus = s.cpu.mstatus := congrArg IrqState.mstatus same
  have mie : t.cpu.mie = s.cpu.mie := congrArg IrqState.mie same
  have mip : t.cpu.mip = s.cpu.mip := congrArg IrqState.mip same
  simp only [Machine.interruptsEnabled, Machine.externalPending, Machine.timerPending,
    Machine.poller, mstatus, mie, mip, and_self]

structure Polled (s : Machine) (externalIrq timeIrq : Bool) (polled : Machine) : Prop where
  external : externalIrq = true ↔ s.poller.fires 16 = true ∧ s.externalPending
  timer : timeIrq = true ↔ s.poller.fires 16 = true ∧ ¬ s.externalPending
  enabled : polled.interruptsEnabled ↔ s.interruptsEnabled ∧ s.poller.fires 16 = false
  externalPending : polled.externalPending ↔ s.externalPending
  timerPending : polled.timerPending ↔
    s.timerPending ∨ s.poller.phase = 2 ^ 20 - 1 ∧ s.poller.ticks = true
  ticks : polled.poller.ticks = s.poller.ticks

theorem poll_polled (s : Machine) : Polled s (poll s).1 (poll s).2.1 (poll s).2.2 := by
  by_cases taken : s.pollPoint ∧ s.interruptsEnabled ∧ (s.externalPending ∨ s.timerPending)
  · have fires := (fires_iff_taken s).mpr taken
    obtain ⟨point, enabled, pending⟩ := taken
    rw [poll_taken point enabled pending]
    constructor
    · simp [fires]
    · simp [fires]
    · have masked := interrupt_masked s (interruptCause s)
      rw [Machine.interruptsEnabled, fakeTimer_eq]
      exact iff_of_false masked fun quiet => by simp [fires] at quiet
    · exact externalPending_fakeTimer (s.interrupt (interruptCause s))
    · exact timerPending_fakeTimer (s.interrupt (interruptCause s))
    · rw [fakeTimer_eq]
      rfl
  · have quiet : s.poller.fires 16 = false := by
      rw [← Bool.not_eq_true, fires_iff_taken]
      exact taken
    rw [poll_quiet taken]
    constructor
    · simp [quiet]
    · simp [quiet]
    · simp [quiet, fakeTimer_eq, Machine.interruptsEnabled]
    · exact externalPending_fakeTimer s
    · exact timerPending_fakeTimer s
    · rw [fakeTimer_eq]
      rfl

theorem phase_advance (cycle : BitVec 64) :
    (cycle + 1).toNat % 2 ^ 20 = (cycle.toNat % 2 ^ 20 + 1) % 2 ^ 20 := by
  have one : (1 : BitVec 64).toNat = 1 := rfl
  rw [BitVec.toNat_add, one]
  omega

theorem step_poller {cfg : Config} {sim after : Simulator} {label : StepLabel}
    (stepped : step cfg sim = .ok (label, after)) (keeps : label.executed.KeepsIrq cfg) :
    (label.externalIrq = true ↔ sim.machine.poller.fires 16 = true ∧ sim.machine.externalPending) ∧
      (label.timeIrq = true ↔
        sim.machine.poller.fires 16 = true ∧ ¬ sim.machine.externalPending) ∧
      after.machine.poller = sim.machine.poller.next 16 (2 ^ 20) ∧
      (after.machine.externalPending ↔ sim.machine.externalPending) := by
  have counted := step_cycle stepped
  rw [nextCycle_quiet keeps.keepsCycle] at counted
  obtain ⟨cached, polled, executed, _, _, polling, ran, _, _, rfl⟩ := step_inversion stepped
  have outcome := poll_polled (sim.machine.fallThrough label.pcInc)
  rw [polling] at outcome
  have kept : executed.advance.irqState = polled.irqState := by
    rw [advance_irqState, execute_irqState keeps ran]
  obtain ⟨enabled, external, timer, ticks⟩ := irqState_congr kept
  refine ⟨outcome.external, outcome.timer, ?_, external.trans outcome.externalPending⟩
  have stillEnabled := enabled.trans outcome.enabled
  have stillPending := or_congr (external.trans outcome.externalPending)
    (timer.trans outcome.timerPending)
  calc executed.advance.poller
      = ⟨(sim.machine.cpu.cycle + 1).toNat % 2 ^ 20, executed.advance.interruptsEnabled,
          executed.advance.externalPending ∨ executed.advance.timerPending,
          executed.advance.poller.ticks⟩ := by
        rw [← counted]
        rfl
    _ = sim.machine.poller.next 16 (2 ^ 20) := by
        simp only [phase_advance, stillEnabled, stillPending, ticks.trans outcome.ticks]
        have fallen : (sim.machine.fallThrough label.pcInc).poller = sim.machine.poller := rfl
        simp only [fallen, Poller.State.next, Poller.State.mk.injEq]
        refine ⟨rfl, ?_, ?_, trivial⟩
        · simp only [Bool.decide_and, Bool.decide_eq_false]
          rfl
        · have pending : sim.machine.poller.pending =
              (decide sim.machine.externalPending || decide sim.machine.timerPending) :=
            Bool.decide_or _ _
          simp only [pending, Bool.decide_or, Bool.decide_and, ← Bool.or_assoc, Bool.decide_coe]
          rfl

/-- Along a run whose instructions leave the interrupt registers and the count alone, an interrupt
is taken in one round at most, and the registers at its start say in which and what kind. -/
theorem interrupt_schedule (cfg : Config) (sim after : Simulator) (labels : List StepLabel)
    (runs : Runs (Moves cfg) sim (labels.map .round) after)
    (keeps : ∀ label ∈ labels, label.executed.KeepsIrq cfg)
    (round : Nat) (label : StepLabel) (at_round : labels[round]? = some label) :
    (label.externalIrq = true ↔ sim.machine.poller.fireRound 16 (2 ^ 20) = some round ∧
        sim.machine.externalPending) ∧
      (label.timeIrq = true ↔ sim.machine.poller.fireRound 16 (2 ^ 20) = some round ∧
        ¬ sim.machine.externalPending) := by
  have inside : ∀ s : Machine, s.poller.phase < 2 ^ 20 := by
    intro s
    exact Nat.mod_lt _ (Nat.two_pow_pos 20)
  induction labels generalizing sim round with
  | nil => simp at at_round
  | cons first labels ih =>
      cases runs with
      | cons moved rest =>
          cases moved with
          | round stepped =>
              obtain ⟨external, timer, next, still⟩ := step_poller stepped (keeps first (by simp))
              cases round with
              | zero =>
                  simp only [List.getElem?_cons_zero, Option.some.injEq] at at_round
                  rw [← at_round, ← Poller.fires_iff_zero (by decide) (inside sim.machine)]
                  exact ⟨external, timer⟩
              | succ round =>
                  rw [List.getElem?_cons_succ] at at_round
                  have later := ih _ rest (fun label member => keeps label (by simp [member]))
                    round at_round
                  rw [next, still, Poller.fireRound_next (by decide) (by decide)
                    (inside sim.machine)] at later
                  exact later

/-- The program that waits in a jump to itself has its interrupt in the eleventh round. -/
theorem interrupt_schedule_waiting :
    ∃ (sim after : Simulator) (labels : List StepLabel) (label : StepLabel),
      Runs (Moves (Config.standard Host.silent)) sim (labels.map .round) after ∧
      sim.machine.cpu.pc = 20 ∧ labels[10]? = some label ∧ label.externalIrq = true := by
  have evaluated : (do
      let waiting ← steps (Config.standard Host.silent) 5 (Simulator.boot (smallMemory
        0x20000000 [0x000010b7, 0x0010d093, 0x30409073, 0x34409073, 0x30046073, 0x0000006f]) 0 0)
      let ran ← steps (Config.standard Host.silent) 11 waiting.2
      .ok (waiting.2.machine.cpu.pc, waiting.2.machine.poller,
        decide waiting.2.machine.externalPending, ran.1.length,
        ran.1.all fun label => decide (label.executed.KeepsIrq (Config.standard Host.silent)))) =
          Except.ok (20, ⟨5, true, true, false⟩, true, 11, true) := by
    decide +kernel
  obtain ⟨⟨setUp, sim⟩, _, evaluated⟩ := bind_eq_ok.mp evaluated
  obtain ⟨⟨labels, after⟩, completed, evaluated⟩ := bind_eq_ok.mp evaluated
  simp only [Except.ok.injEq, Prod.mk.injEq, decide_eq_true_eq, List.all_eq_true] at evaluated
  obtain ⟨pc, poller, external, length, keeps⟩ := evaluated
  have runs := steps_moves completed
  obtain ⟨label, at_round⟩ : ∃ label, labels[10]? = some label := by
    rw [List.getElem?_eq_getElem (by omega)]
    exact ⟨_, rfl⟩
  have scheduled := interrupt_schedule _ sim after labels runs keeps 10 label at_round
  rw [poller] at scheduled
  exact ⟨sim, after, labels, label, runs, pc, at_round, scheduled.1.mpr ⟨rfl, external⟩⟩

end RiscVFast
