import RiscVFast.Writes

/-! Who can write instruction memory when `do_core` is off: nobody but a system call. -/

namespace RiscVFast

open Fallible StoreLog Transition

/-- The bytes that the pending system call delivers go to the data segment. -/
def Machine.callStaysInData (cfg : Config) (s : Machine) : Bool :=
  match syscallStore cfg s with
  | some ⟨addr, cells⟩ => cells.isEmpty || s.memory.isdata addr
  | none => true

theorem Puts.insnMem {memory after : Memory} {store : Option (Store 32 Byte)}
    (puts : Puts memory store after)
    (elsewhere : ∀ addr cells, store = some ⟨addr, cells⟩ →
      cells = [] ∨ memory.isdata addr = true) :
    after.insnMem = memory.insnMem := by
  cases puts with
  | nothing => rfl
  | noBytes addr => rfl
  | data addr cells isdata inside => rfl
  | text addr cells notData istext inside =>
      rcases elsewhere addr cells rfl with rfl | isdata
      · simp only [splice_nil]
      · simp [notData] at isdata

theorem storeOf_isdata {cfg : Config} {vlp : Vliw} {s : Machine} {addr : Word}
    {cells : List Byte} (noCore : cfg.doCore = false)
    (stays : vlp.opcode = .ecall → cfg.doNewlib = true → s.callStaysInData cfg = true)
    (stores : storeOf cfg vlp s = some ⟨addr, cells⟩) :
    cells = [] ∨ s.memory.isdata addr = true := by
  unfold storeOf at stores
  split at stores
  · split at stores
    · rename_i takes
      simp only [Option.some.injEq, Store.mk.injEq] at stores
      simp only [Memory.takes, noCore, Bool.false_and, Bool.or_false] at takes
      rw [← stores.1]
      exact .inr takes
    · simp at stores
  · split at stores
    · rename_i call
      have contained := stays call.1 call.2
      simp only [Machine.callStaysInData, stores, Bool.or_eq_true, List.isEmpty_iff] at contained
      exact contained
    · simp at stores

def Move.staysInData (cfg : Config) (sim : Simulator) : Move → Prop
  | .round label => label.executed.opcode = .ecall → cfg.doNewlib = true →
      sim.machine.callStaysInData cfg = true
  | _ => True

theorem Moves.insnMem {cfg : Config} {sim after : Simulator} {move : Move}
    (noCore : cfg.doCore = false) (moved : Moves cfg sim move after)
    (stays : move.staysInData cfg sim) :
    after.machine.memory.insnMem = sim.machine.memory.insnMem := by
  cases moved with
  | round stepped =>
      obtain ⟨polled, executed, ran, _, reg, memory, calls, advanced⟩ := step_execution stepped
      have sameCall : polled.callStaysInData cfg = sim.machine.callStaysInData cfg := by
        simp only [Machine.callStaysInData, syscallStore, reg, memory, calls]
      have puts := execute_puts ran
      have kept := puts.insnMem fun addr cells stores =>
        storeOf_isdata noCore (sameCall ▸ stays) stores
      rw [advanced, ← memory]
      exact kept
  | enter => rfl
  | leave => rfl

theorem insnMem_of_runs {cfg : Config} {sim after : Simulator} {moves : List Move}
    (noCore : cfg.doCore = false) (noNewlib : cfg.doNewlib = false)
    (runs : Runs (Moves cfg) sim moves after) :
    after.machine.memory.insnMem = sim.machine.memory.insnMem := by
  refine runs.invariant (fun state => state.machine.memory.insnMem = sim.machine.memory.insnMem)
    ?_ rfl
  intro state move next kept moved
  have stays : move.staysInData cfg state := by
    cases move with
    | round label =>
        intro _ newlib
        simp [noNewlib] at newlib
    | enter => trivial
    | leave => trivial
  rw [moved.insnMem noCore stays, kept]

/-- Over runs whose system calls deliver nothing outside the data segment, instruction memory
keeps the bytes it was loaded with. -/
theorem insnMem_immutable (cfg : Config) (memory : Memory) (entry dataEnd : Word)
    (moves : List Move) (after : Simulator) (noCore : cfg.doCore = false)
    (runs : Runs (fun sim move next => Moves cfg sim move next ∧ move.staysInData cfg sim)
      (Simulator.boot memory entry dataEnd) moves after) :
    after.machine.memory.insnMem = memory.insnMem := by
  refine runs.invariant (fun sim => sim.machine.memory.insnMem = memory.insnMem) ?_ rfl
  rintro sim move next kept ⟨moved, stays⟩
  rw [moved.insnMem noCore stays, kept]

/-- `addi a7,x0,169` and `ecall`: the time goes to address zero, which is data first although
the text is there as well. -/
theorem insnMem_immutable_timeOfDay :
    let cfg : Config := { Config.standard Host.silent with doNewlib := true }
    let memory := smallMemory 0 [0x0a900893, 0x00000073]
    ∃ first second after,
      Runs (fun sim move next => Moves cfg sim move next ∧ move.staysInData cfg sim)
        (Simulator.boot memory 0 0) [.round first, .round second] after ∧
      second.vliw.opcode = .ecall ∧ after.machine.memory.insnMem = memory.insnMem := by
  intro cfg memory
  have evaluated : (do
      let first ← step cfg (Simulator.boot memory 0 0)
      let second ← step cfg first.2
      .ok (first.1.executed.opcode, second.1.vliw.opcode, first.2.machine.callStaysInData cfg)) =
        Except.ok (VliwOp.addi, VliwOp.ecall, true) := by
    decide +kernel
  obtain ⟨⟨first, middle⟩, firstStep, evaluated⟩ := bind_eq_ok.mp evaluated
  obtain ⟨⟨second, after⟩, secondStep, evaluated⟩ := bind_eq_ok.mp evaluated
  simp only [Except.ok.injEq, Prod.mk.injEq] at evaluated
  obtain ⟨noCall, call, contained⟩ := evaluated
  have runs : Runs (fun sim move next => Moves cfg sim move next ∧ move.staysInData cfg sim)
      (Simulator.boot memory 0 0) [.round first, .round second] after := by
    refine .cons ⟨.round firstStep, ?_⟩ (.cons ⟨.round secondStep, ?_⟩ (.nil after))
    · intro call
      simp [noCall] at call
    · exact fun _ _ => contained
  exact ⟨first, second, after, runs, call, insnMem_immutable cfg memory 0 0 _ after rfl runs⟩

/-- `addi a7,x0,63`, `addi a2,x0,1` and `ecall`: a character from standard input goes to
address zero, in the text. -/
theorem insnMem_read :
    ¬ ∀ (cfg : Config) (memory : Memory) (entry dataEnd : Word) (moves : List Move)
      (after : Simulator), cfg.doCore = false →
      Runs (Moves cfg) (Simulator.boot memory entry dataEnd) moves after →
      after.machine.memory.insnMem = memory.insnMem := by
  intro immutable
  let host : Host := { Host.silent with fgetc := fun _ => some 0x41 }
  let cfg : Config := { Config.standard host with doNewlib := true }
  let memory := smallMemory 0x20000000 [0x03f00893, 0x00100613, 0x00000073]
  have evaluated : (steps cfg 3 (Simulator.boot memory 0 0)).map
      (fun outcome => outcome.2.machine.memory.insnMem.data 0) = .ok 0x41 := by
    decide +kernel
  obtain ⟨⟨labels, after⟩, completed, written⟩ := map_eq_ok.mp evaluated
  have kept := immutable cfg memory 0 0 _ after rfl (steps_moves completed)
  have loaded : memory.insnMem.data 0 = 0x93 := by decide
  rw [kept, loaded] at written
  exact absurd written (by decide)

end RiscVFast
