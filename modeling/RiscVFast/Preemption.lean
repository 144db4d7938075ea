import RiscVFast.Architecture
import RiscVFast.Interrupts
import RiscVFast.ProgramCounter
import RiscVFast.TextImmutable

/-! Interrupts and the program under them: between the rounds of the program there may be whole
handlers, and if each restores what it found, the program goes on as if there had been none. -/

namespace RiscVFast

open Rv32i hiding Word
open Fallible StoreLog Transition

/-- The registers and the visible bytes are as they were. -/
structure Restores (visible : Word → Prop) (before after : Machine) : Prop where
  regs : after.cpu.reg = before.cpu.reg
  bytes : ∀ addr, visible addr → after.memory.byteAt addr = before.memory.byteAt addr

/-- A round of the program itself, or a whole handler: the round that is interrupted, those of the
handler, which does not trap, and its return. -/
inductive Turns (cfg : Config) (visible : Word → Prop) :
    Simulator → Option StepLabel → Simulator → Prop
  | own {sim after : Simulator} {label : StepLabel} (stepped : step cfg sim = .ok (label, after))
      (quiet : label.interrupted = false) : Turns cfg visible sim (some label) after
  | handled {sim entered returning after : Simulator} {taken last : StepLabel} {moves : List Move}
      (stepped : step cfg sim = .ok (taken, entered)) (interrupted : taken.interrupted = true)
      (runs : Runs (Moves cfg) entered moves returning)
      (handler : ∀ label ∈ rounds moves, label.executed.InHandler cfg)
      (even : ∀ label ∈ rounds moves, label.pc &&& 1 = 0)
      (returned : step cfg returning = .ok (last, after)) (mret : last.vliw.opcode = .mret)
      (evenLast : last.pc &&& 1 = 0) (restores : Restores visible sim.machine after.machine) :
      Turns cfg visible sim none after

theorem interrupted_returnsTo {cfg : Config} {sim after : Simulator} {label : StepLabel}
    (stepped : step cfg sim = .ok (label, after)) (interrupted : label.interrupted = true) :
    ReturnsTo cfg sim.machine after := by
  obtain ⟨cached, polled, executed, _, _, polling, ran, _, _, rfl⟩ := step_inversion stepped
  let fallen := sim.machine.fallThrough label.pcInc
  have taken : fallen.pollPoint ∧ fallen.interruptsEnabled ∧
      (fallen.externalPending ∨ fallen.timerPending) := by
    by_contra idle
    have quiet := polling.symm.trans (poll_quiet idle)
    simp only [Prod.mk.injEq] at quiet
    simp [StepLabel.interrupted, quiet.1, quiet.2.1] at interrupted
  obtain ⟨point, enabled, pending⟩ := taken
  have entry := polling.symm.trans (poll_taken point enabled pending)
  simp only [Prod.mk.injEq] at entry
  have nop : label.executed = vliwNop := executed_of_interrupted interrupted
  have inHandler : vliwNop.InHandler cfg := ⟨rfl, by decide, rfl, rfl⟩
  have state : executed.advance.trapState =
      (fallen.interrupt (interruptCause fallen)).trapState := by
    rw [nop] at ran
    rw [advance_trapState, execute_trapState inHandler ran, entry.2.2, fakeTimer_eq]
    rfl
  have masked := mt (interruptsEnabled_congr state).mp (interrupt_masked fallen _)
  have previous := interrupt_previous fallen (interruptCause fallen)
  have mstatus : executed.advance.cpu.mstatus =
      (fallen.interrupt (interruptCause fallen)).cpu.mstatus := congrArg TrapState.mstatus state
  have mepc : executed.advance.cpu.mepc = sim.machine.cpu.pc := congrArg TrapState.mepc state
  rw [← mstatus] at previous
  exact returnsTo_of_masked masked mepc (iff_of_true previous enabled)

theorem Moves.contained {cfg : Config} {sim after : Simulator} {move : Move}
    (noCore : cfg.doCore = false) (noNewlib : cfg.doNewlib = false)
    (moved : Moves cfg sim move after) :
    after.machine.memory.insnMem = sim.machine.memory.insnMem :=
  insnMem_of_runs noCore noNewlib (.cons moved (.nil after))

theorem Simulator.Fresh.runs {cfg : Config} {text : Segment} {sim after : Simulator}
    {moves : List Move} (fresh : sim.Fresh text) (fits : text.FitsCache)
    (noCore : cfg.doCore = false) (noNewlib : cfg.doNewlib = false)
    (same : sim.machine.memory.insnMem = text) (runs : Runs (Moves cfg) sim moves after)
    (even : ∀ label ∈ rounds moves, label.pc &&& 1 = 0) : after.Fresh text := by
  have run := runs.labels_of_invariant
    (fun state => state.Fresh text ∧ state.machine.memory.insnMem = text)
    (fun move => ∀ label, move = .round label → label.pc &&& 1 = 0) (fun _ => True) ?_
    ⟨fresh, same⟩ ?_
  · exact run.1.1
  · rintro state move next ⟨fresh, same⟩ even moved
    refine ⟨⟨?_, (moved.contained noCore noNewlib).trans same⟩, trivial⟩
    cases moved with
    | round stepped =>
        obtain ⟨cached, polled, executed, fetched, looked, _, _, located, _, rfl⟩ :=
          step_inversion stepped
        rw [fetchCode_eq, same, ← located] at fetched
        rw [← located] at looked
        have kept := fresh.cached fits (even _ rfl) fetched looked
        exact ⟨kept.tables, kept.slots⟩
    | enter => exact ⟨fresh.tables, fresh.slots⟩
    | leave => exact ⟨fresh.tables, fresh.slots⟩
  · rintro move member label rfl
    exact even label (mem_rounds.mpr member)

section Rounds

variable {cfg : Config} {start : Memory} {visible : Word → Prop} {sim after : Simulator}
  {hart next : Hart}

theorem idle_of_quiet {label : StepLabel} (stepped : step cfg sim = .ok (label, after))
    (quiet : label.interrupted = false) : ¬ sim.machine.TakesInterrupt := by
  rintro ⟨point, enabled, pending⟩
  obtain ⟨_, polled, _, _, _, polling, -⟩ := step_inversion stepped
  have entry := polling.symm.trans (@poll_taken (sim.machine.fallThrough label.pcInc) point enabled
    pending)
  simp only [Prod.mk.injEq] at entry
  simp [StepLabel.interrupted, entry.1, entry.2.1] at quiet

theorem Tracks.own (tracks : Tracks start cfg visible sim hart) (noCore : cfg.doCore = false)
    (placed : start.Placed) (fits : start.insnMem.FitsCache) {label : StepLabel}
    (stepped : step cfg sim = .ok (label, after)) (quiet : label.interrupted = false)
    {instr : Rv32i.Instr} (steps : ((start.platform cfg).within visible).Step hart instr next)
    (regular : Regular hart instr) : Tracks start cfg visible after next := by
  obtain ⟨_, _, performed, -, tracks, -⟩ := tracks.performs noCore placed fits
    (idle_of_quiet stepped quiet) steps regular
  rw [stepped] at performed
  simp only [Except.ok.injEq, Prod.mk.injEq] at performed
  rw [performed.2]
  exact tracks

theorem Tracks.handled (tracks : Tracks start cfg visible sim hart) (noCore : cfg.doCore = false)
    (noNewlib : cfg.doNewlib = false) (fits : start.insnMem.FitsCache)
    (turned : Turns cfg visible sim none after) : Tracks start cfg visible after hart := by
  cases turned with
  | handled stepped interrupted runs handler even returned mret evenLast restores =>
      rename_i entered returning taken last moves
      have returns := interrupted_returnsTo stepped interrupted moves returning runs handler
      obtain ⟨-, pc, -⟩ := returns.2.2.2 last after returned mret
      have whole : Runs (Moves cfg) sim (.round taken :: (moves ++ [.round last])) after :=
        .cons (.round stepped) (runs.snoc (.round returned))
      obtain ⟨_, _, _, _, _, _, _, located, _, _⟩ := step_inversion stepped
      have evenAll : ∀ label ∈ rounds (.round taken :: (moves ++ [.round last])),
          label.pc &&& 1 = 0 := by
        intro label member
        rcases List.mem_cons.mp (mem_rounds.mp member) with first | member
        · cases first
          rw [located]
          exact tracks.even
        · rcases List.mem_append.mp member with inside | final
          · exact even label (mem_rounds.mpr inside)
          · cases List.mem_singleton.mp final
            exact evenLast
      exact {
        alike :=
          { pc := tracks.alike.pc.trans pc.symm
            regs := tracks.alike.regs.trans restores.regs.symm
            bytes := fun addr seen =>
              (tracks.alike.bytes addr seen).trans (restores.bytes addr seen).symm }
        even := pc ▸ tracks.even
        zero := restores.regs ▸ tracks.zero
        layout := tracks.layout.trans (layout_of_runs whole)
        text := (insnMem_of_runs noCore noNewlib whole).trans tracks.text
        fresh := tracks.fresh.runs fits noCore noNewlib tracks.text whole evenAll }

end Rounds

theorem Tracks.reached {cfg : Config} {memory : Memory} {entry dataEnd : Word}
    {moves : List Move} {sim : Simulator} (noCore : cfg.doCore = false)
    (noNewlib : cfg.doNewlib = false) (fits : memory.insnMem.FitsCache) (visible : Word → Prop)
    (runs : Runs (Moves cfg) (Simulator.boot memory entry dataEnd) moves sim)
    (even : ∀ label ∈ rounds moves, label.pc &&& 1 = 0) (evenPc : sim.machine.cpu.pc &&& 1 = 0) :
    Tracks sim.machine.memory cfg visible sim sim.machine.hart := by
  have booted : (Simulator.boot memory entry dataEnd).Fresh memory.insnMem :=
    ⟨DecodeTables.empty_sound, fun _ _ _ _ _ => .inl rfl⟩
  exact {
    alike := ⟨rfl, rfl, fun _ _ => rfl⟩
    even := evenPc
    zero := zero_of_runs runs
    layout := .refl _
    text := rfl
    fresh := (insnMem_of_runs noCore noNewlib runs).symm ▸
      booted.runs fits noCore noNewlib rfl runs even }

end RiscVFast
