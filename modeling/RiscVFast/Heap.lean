import Mathlib.Data.List.ReduceOption
import RiscVFast.CsrAccess
import RiscVFast.Rounds
import RiscVFast.Writes

/-! The break that `sys_brk` hands out over a run. -/

namespace RiscVFast

open Fallible Transition

structure BrkCall where
  prev : Word
  inc : Word
  granted : Word
  heap : Word
deriving DecidableEq

def brkCallOf (cfg : Config) (sim : Simulator) (label : StepLabel) (after : Simulator) :
    Option BrkCall :=
  if label.executed.opcode = .ecall ∧ cfg.doNewlib = true ∧
      sim.machine.cpu.reg 17 = sysBrk then
    some ⟨sim.machine.cpu.reg 10, sim.machine.cpu.reg 11, after.machine.cpu.reg 10,
      after.machine.cpu.heap⟩
  else none

inductive BrkMoves (cfg : Config) : Simulator → Option BrkCall → Simulator → Prop
  | round {sim after : Simulator} {label : StepLabel}
      (stepped : step cfg sim = .ok (label, after)) :
      BrkMoves cfg sim (brkCallOf cfg sim label after) after
  | enter (sim : Simulator) : BrkMoves cfg sim none { sim with machine := sim.machine.enterRun }
  | leave (sim : Simulator) : BrkMoves cfg sim none { sim with machine := sim.machine.clearStop }

def alignedEnd (dataEnd : Word) : Word := (dataEnd + 15) &&& ~~~15

/-- Zero starts the heap anew; any other request is granted as it stands. -/
structure BrkCall.AsRequested (dataEnd : Word) (call : BrkCall) : Prop where
  granted : call.granted = if call.prev = 0 then alignedEnd dataEnd else call.prev
  heap : call.heap = if call.prev = 0 then alignedEnd dataEnd else call.prev + call.inc

theorem dispatch_endOfData {cfg : Config} {vlp : Vliw} {s t : Machine}
    (dispatched : dispatch cfg vlp s = .ok t) : t.cpu.endOfData = s.cpu.endOfData := by
  have devices : ∀ rw addr value, (host rw addr value s).cpu.endOfData = s.cpu.endOfData := by
    intro rw addr value
    obtain ⟨stop, events, frame⟩ := host_frame rw addr value s
    rw [frame]
  cases dispatch_effect dispatched with
  | compute silent reg pcNext => rfl
  | deviceLoad silent addr => exact devices _ _ _
  | store width memory opcode written => rfl
  | deviceStore opcode refused => exact devices _ _ _
  | newlib t opcode enabled called =>
      obtain ⟨reg, heap, running, stop, cpu⟩ := (syscall_called called).cpu
      simp only [cpu]
  | trap cause opcode => rfl
  | mret opcode => rfl
  | csr silent type imm32 opcode =>
      obtain ⟨_, _, _, _, _, _, _, _, _, frame⟩ :=
        csrInsn_frame cfg type (vlp.imm &&& 0xfff) vlp.rd vlp.rs1 imm32 s
      rw [frame]

theorem step_endOfData {cfg : Config} {sim after : Simulator} {label : StepLabel}
    (stepped : step cfg sim = .ok (label, after)) :
    after.machine.cpu.endOfData = sim.machine.cpu.endOfData := by
  obtain ⟨_, polled, executed, _, _, polling, execution, _, _, rfl⟩ := step_inversion stepped
  obtain ⟨middle, dispatched, rfl⟩ := map_eq_ok.mp execution
  obtain ⟨_, _, _, _, _, frame⟩ := poll_frame (sim.machine.fallThrough label.pcInc)
  rw [polling] at frame
  have same := dispatch_endOfData dispatched
  simp only at frame
  rw [frame] at same
  exact same

theorem dispatch_syscall {cfg : Config} {vlp : Vliw} {s : Machine} (opcode : vlp.opcode = .ecall)
    (enabled : cfg.doNewlib = true) : dispatch cfg vlp s = syscall cfg s := by
  obtain ⟨op, rd, rs1, rs2, imm⟩ := vlp
  obtain rfl : op = .ecall := opcode
  exact if_pos enabled

theorem doBrk_eq (s : Machine) (a0 a1 : Word) :
    doBrk s a0 a1 = (if a0 = 0 then alignedEnd s.cpu.endOfData else a0,
      { s with cpu.heap := if a0 = 0 then alignedEnd s.cpu.endOfData else a0 + a1 }) := by
  unfold doBrk
  by_cases fresh : a0 = 0
  · rw [if_pos fresh, if_pos fresh, if_pos fresh]
    rfl
  · rw [if_neg fresh, if_neg fresh, if_neg fresh]

theorem step_brk {cfg : Config} {sim after : Simulator} {label : StepLabel}
    (stepped : step cfg sim = .ok (label, after)) {call : BrkCall}
    (called : brkCallOf cfg sim label after = some call) :
    call.AsRequested sim.machine.cpu.endOfData := by
  unfold brkCallOf at called
  split at called
  · rename_i isBrk
    obtain ⟨opcode, newlib, number⟩ := isBrk
    obtain rfl := Option.some.inj called
    obtain ⟨_, polled, executed, _, _, polling, execution, _, _, rfl⟩ := step_inversion stepped
    obtain ⟨middle, dispatched, rfl⟩ := map_eq_ok.mp execution
    obtain ⟨_, _, _, _, _, frame⟩ := poll_frame (sim.machine.fallThrough label.pcInc)
    rw [polling] at frame
    simp only at frame
    have reg : polled.cpu.reg = sim.machine.cpu.reg := by
      rw [frame]
      rfl
    have endOfData : polled.cpu.endOfData = sim.machine.cpu.endOfData := by
      rw [frame]
      rfl
    rw [dispatch_syscall opcode newlib, syscall, reg] at dispatched
    simp only [number, if_true, doBrk_eq, endOfData] at dispatched
    obtain rfl := Except.ok.inj dispatched
    exact ⟨rfl, rfl⟩
  · cases called

theorem brk_of_runs {cfg : Config} {memory : Memory} {entry dataEnd : Word}
    {marks : List (Option BrkCall)} {sim : Simulator}
    (runs : Runs (BrkMoves cfg) (Simulator.boot memory entry dataEnd) marks sim) :
    ∀ call ∈ marks.reduceOption, call.AsRequested dataEnd := by
  have history := runs.labels_of_invariant
    (fun sim => sim.machine.cpu.endOfData = dataEnd) (fun _ => True)
    (fun mark => ∀ call, mark = some call → call.AsRequested dataEnd) ?_ rfl (fun _ _ => trivial)
  · intro call member
    exact history.2 _ (List.reduceOption_mem_iff.mp member) call rfl
  · intro sim mark after endOfData _ moved
    cases moved with
    | round stepped =>
        refine ⟨(step_endOfData stepped).trans endOfData, fun call called => ?_⟩
        rw [← endOfData]
        exact step_brk stepped called
    | enter => exact ⟨endOfData, fun call called => by cases called⟩
    | leave => exact ⟨endOfData, fun call called => by cases called⟩

/-! Chains of calls: a call that starts the heap anew, and calls that each hand the break of the one
before back. -/

def BrkCall.size (call : BrkCall) : Nat := if call.prev = 0 then 0 else call.inc.toNat

structure BrkCall.Inside (lower upper : Nat) (call : BrkCall) : Prop where
  lower : lower ≤ call.granted.toNat
  upper : call.granted.toNat + call.size ≤ upper

def BrkCall.Before (first second : BrkCall) : Prop :=
  first.granted.toNat + first.size ≤ second.granted.toNat

def Continues (calls : List BrkCall) : Prop :=
  calls.IsChain fun first second => second.prev = first.heap

structure Chain (calls : List BrkCall) : Prop where
  reset : ∃ call ∈ calls.head?, call.prev = 0
  continues : Continues calls

def totalSize (calls : List BrkCall) : Nat := (calls.map BrkCall.size).sum

section Chains

variable {dataEnd : Word} {call : BrkCall} {calls : List BrkCall} {lower upper : Nat}

theorem totalSize_cons (call : BrkCall) (calls : List BrkCall) :
    totalSize (call :: calls) = call.size + totalSize calls := by
  rw [totalSize, List.map_cons, List.sum_cons]
  rfl

theorem granted_next (asRequested : call.AsRequested dataEnd) (some : call.prev ≠ 0) :
    call.granted = call.prev := by
  rw [asRequested.granted, if_neg some]

theorem heap_next (asRequested : call.AsRequested dataEnd) (some : call.prev ≠ 0)
    (fits : call.prev.toNat + call.size < 2 ^ 32) :
    call.heap.toNat = call.prev.toNat + call.size := by
  rw [BrkCall.size, if_neg some] at fits ⊢
  rw [asRequested.heap, if_neg some, BitVec.toNat_add, Nat.mod_eq_of_lt fits]

theorem word_ne_zero {word : Word} (some : 0 < word.toNat) : word ≠ 0 := by
  rintro rfl
  exact absurd some (by decide)

theorem toNat_pos {word : Word} (some : word ≠ 0) : 0 < word.toNat :=
  Nat.pos_of_ne_zero fun isZero => some (BitVec.eq_of_toNat_eq isZero)

theorem continues_inside_iff (asRequested : ∀ later ∈ calls, later.AsRequested dataEnd)
    (some : call.heap ≠ 0) (small : upper < 2 ^ 32) (above : lower ≤ call.heap.toNat)
    (fits : call.heap.toNat ≤ upper) (continues : Continues (call :: calls)) :
    (∀ later ∈ calls, later.Inside lower upper) ↔
      call.heap.toNat + totalSize calls ≤ upper := by
  induction calls generalizing call with
  | nil => simpa [totalSize] using fits
  | cons next calls ih =>
      obtain ⟨prev, further⟩ := List.isChain_cons_cons.mp continues
      have request := asRequested next List.mem_cons_self
      have notReset : next.prev ≠ 0 := prev ▸ some
      have granted := granted_next request notReset
      rw [List.forall_mem_cons, totalSize_cons]
      by_cases stays : call.heap.toNat + next.size ≤ upper
      · have heap := heap_next request notReset (by rw [prev]; omega)
        rw [prev] at heap
        have positive := toNat_pos some
        have inside : next.Inside lower upper := by
          constructor
          · rw [granted, prev]
            exact above
          · rw [granted, prev]
            exact stays
        have rest := ih (fun later member => asRequested later (List.mem_cons_of_mem _ member))
          (word_ne_zero (by omega)) (by omega) (by omega) further
        rw [and_iff_right inside, rest, heap, Nat.add_assoc]
      · refine iff_of_false ?_ (by omega)
        rintro ⟨inside, -⟩
        have beyond := inside.upper
        rw [granted, prev] at beyond
        exact stays beyond

theorem continues_ordered (asRequested : ∀ later ∈ calls, later.AsRequested dataEnd)
    (some : call.heap ≠ 0) (fits : call.heap.toNat + totalSize calls < 2 ^ 32)
    (continues : Continues (call :: calls)) :
    (∀ later ∈ calls, call.heap.toNat ≤ later.granted.toNat) ∧
      calls.Pairwise BrkCall.Before := by
  induction calls generalizing call with
  | nil => simp
  | cons next calls ih =>
      obtain ⟨prev, further⟩ := List.isChain_cons_cons.mp continues
      have request := asRequested next List.mem_cons_self
      have notReset : next.prev ≠ 0 := prev ▸ some
      have granted := granted_next request notReset
      rw [totalSize_cons] at fits
      have heap := heap_next request notReset (by rw [prev]; omega)
      rw [prev] at heap
      have positive := toNat_pos some
      obtain ⟨behind, ordered⟩ :=
        ih (fun later member => asRequested later (List.mem_cons_of_mem _ member))
          (word_ne_zero (by omega)) (by omega) further
      constructor
      · intro later member
        rcases List.mem_cons.mp member with rfl | member
        · rw [granted, prev]
        · have after := behind later member
          omega
      · refine List.pairwise_cons.mpr ⟨fun later member => ?_, ordered⟩
        have after := behind later member
        rw [BrkCall.Before, granted, prev]
        omega

theorem chain_iff (asRequested : ∀ call ∈ calls, call.AsRequested dataEnd)
    (some : alignedEnd dataEnd ≠ 0) (small : upper < 2 ^ 32) (chain : Chain calls) :
    ((∀ call ∈ calls, call.Inside (alignedEnd dataEnd).toNat upper) ↔
        (alignedEnd dataEnd).toNat + totalSize calls ≤ upper) ∧
      ((alignedEnd dataEnd).toNat + totalSize calls ≤ upper → calls.Pairwise BrkCall.Before) := by
  obtain ⟨first, isFirst, reset⟩ := chain.reset
  cases calls with
  | nil => cases isFirst
  | cons call calls =>
      obtain rfl : call = first := Option.some.inj isFirst
      have request := asRequested call List.mem_cons_self
      have later : ∀ later ∈ calls, later.AsRequested dataEnd :=
        fun later member => asRequested later (List.mem_cons_of_mem _ member)
      have granted : call.granted = alignedEnd dataEnd := by rw [request.granted, if_pos reset]
      have heap : call.heap = alignedEnd dataEnd := by rw [request.heap, if_pos reset]
      have size : call.size = 0 := if_pos reset
      rw [totalSize_cons, List.forall_mem_cons, List.pairwise_cons, size, Nat.zero_add, ← heap]
      rw [← heap] at some granted
      constructor
      · by_cases fits : call.heap.toNat ≤ upper
        · have inside : call.Inside call.heap.toNat upper := by
            constructor
            · rw [granted]
            · rw [granted, size]
              exact fits
          rw [and_iff_right inside]
          exact continues_inside_iff later some small (Nat.le_refl _) fits chain.continues
        · refine iff_of_false ?_ (by omega)
          rintro ⟨inside, -⟩
          have beyond := inside.upper
          rw [granted, size] at beyond
          exact fits beyond
      · intro fits
        obtain ⟨behind, ordered⟩ := continues_ordered later some (by omega) chain.continues
        refine ⟨fun next member => ?_, ordered⟩
        rw [BrkCall.Before, granted, size]
        exact behind next member

end Chains

/-- Every request is granted. The blocks of a chain lie between the end of data and the stack that
`main` set up exactly when their sizes add up to no more, and then none overlaps another. -/
theorem brk_grants (cfg : Config) (memory : Memory) (entry dataEnd : Word)
    (marks : List (Option BrkCall)) (sim : Simulator)
    (runs : Runs (BrkMoves cfg) (Simulator.boot memory entry dataEnd) marks sim) :
    let stack := (Simulator.boot memory entry dataEnd).machine.cpu.reg 2
    (∀ call ∈ marks.reduceOption, call.AsRequested dataEnd) ∧
      (alignedEnd dataEnd ≠ 0 → ∀ calls, calls <:+: marks.reduceOption → Chain calls →
        ((∀ call ∈ calls, call.Inside (alignedEnd dataEnd).toNat stack.toNat) ↔
            (alignedEnd dataEnd).toNat + totalSize calls ≤ stack.toNat) ∧
          ((alignedEnd dataEnd).toNat + totalSize calls ≤ stack.toNat →
            calls.Pairwise BrkCall.Before)) := by
  have asRequested := brk_of_runs runs
  refine ⟨asRequested, fun some calls part chain => ?_⟩
  have within := fun call member => asRequested call (part.subset member)
  exact chain_iff within some (BitVec.isLt _) chain

def brkSteps (cfg : Config) : Nat → Simulator → Except Abort (List (Option BrkCall) × Simulator)
  | 0, sim => .ok ([], sim)
  | n + 1, sim => do
      let (label, after) ← step cfg sim
      let (marks, last) ← brkSteps cfg n after
      .ok (brkCallOf cfg sim label after :: marks, last)

theorem brkSteps_runs {cfg : Config} {n : Nat} {sim after : Simulator}
    {marks : List (Option BrkCall)} (completed : brkSteps cfg n sim = .ok (marks, after)) :
    Runs (BrkMoves cfg) sim marks after := by
  induction n generalizing sim marks with
  | zero =>
      obtain ⟨rfl, rfl⟩ := Prod.mk.inj (Except.ok.inj completed)
      exact .nil sim
  | succ n ih =>
      obtain ⟨⟨label, middle⟩, stepped, completed⟩ := bind_eq_ok.mp completed
      obtain ⟨⟨rest, last⟩, later, completed⟩ := bind_eq_ok.mp completed
      obtain ⟨rfl, rfl⟩ := Prod.mk.inj (Except.ok.inj completed)
      exact .cons (.round stepped) (ih later)

def newlib : Config := { Config.standard Host.silent with doNewlib := true }

/-- `li a7,214` and `ecall`, `li a1,32` and `ecall`, `addi a0,a0,32` and `ecall`. -/
def brkMemory : Memory :=
  smallMemory 0x20000000
    [0x0d600893, 0x00000073, 0x02000593, 0x00000073, 0x02050513, 0x00000073]

def brkChain : List BrkCall :=
  [⟨0, 0, 0x20000010, 0x20000010⟩, ⟨0x20000010, 32, 0x20000010, 0x20000030⟩,
    ⟨0x20000030, 32, 0x20000030, 0x20000050⟩]

theorem brkChain_chain : Chain brkChain where
  reset := ⟨_, rfl, rfl⟩
  continues := by
    unfold Continues brkChain
    decide

theorem brk_grants_chain :
    ∃ marks sim, Runs (BrkMoves newlib) (Simulator.boot brkMemory 0 0x20000004) marks sim ∧
      marks.reduceOption = brkChain ∧
      (∀ call ∈ brkChain, call.Inside 0x20000010 0x200000f0) ∧
      brkChain.Pairwise BrkCall.Before := by
  have evaluated : (brkSteps newlib 6 (Simulator.boot brkMemory 0 0x20000004)).map
      (fun outcome => outcome.1.reduceOption) = .ok brkChain := by
    decide +kernel
  obtain ⟨⟨marks, sim⟩, completed, calls⟩ := map_eq_ok.mp evaluated
  obtain ⟨-, chains⟩ := brk_grants newlib brkMemory 0 0x20000004 marks sim (brkSteps_runs completed)
  obtain ⟨inside, ordered⟩ := chains (by decide) brkChain (calls ▸ List.infix_rfl) brkChain_chain
  exact ⟨marks, sim, brkSteps_runs completed, calls, inside.mpr (by decide +kernel),
    ordered (by decide +kernel)⟩

/-- `li a7,214`, `li a0,1` and `ecall`: the break becomes 1. -/
theorem brk_grants_outside : ¬ ∀ (cfg : Config) (memory : Memory) (entry dataEnd : Word)
    (marks : List (Option BrkCall)) (sim after : Simulator) (label : StepLabel) (call : BrkCall),
    Runs (BrkMoves cfg) (Simulator.boot memory entry dataEnd) marks sim →
      step cfg sim = .ok (label, after) → brkCallOf cfg sim label after = some call →
        call.Inside (alignedEnd dataEnd).toNat
            ((Simulator.boot memory entry dataEnd).machine.cpu.reg 2).toNat ∨
          after.machine.cpu.heap = sim.machine.cpu.heap := by
  intro claimed
  have evaluated : (do
      let reached ← brkSteps newlib 2 (Simulator.boot
        (smallMemory 0x20000000 [0x0d600893, 0x00100513, 0x00000073]) 0 0x20000004)
      let called ← step newlib reached.2
      .ok (brkCallOf newlib reached.2 called.1 called.2, reached.2.machine.cpu.heap,
        called.2.machine.cpu.heap)) = Except.ok (some ⟨1, 0, 1, 1⟩, 0, 1) := by
    decide +kernel
  obtain ⟨⟨marks, sim⟩, completed, evaluated⟩ := bind_eq_ok.mp evaluated
  obtain ⟨⟨label, after⟩, stepped, evaluated⟩ := bind_eq_ok.mp evaluated
  obtain ⟨called, breaks⟩ := Prod.mk.inj (Except.ok.inj evaluated)
  obtain ⟨before, now⟩ := Prod.mk.inj breaks
  rcases claimed newlib _ 0 0x20000004 marks sim after label _ (brkSteps_runs completed) stepped
    called with inside | unchanged
  · exact absurd inside.lower (by decide)
  · rw [before, now] at unchanged
    cases unchanged

end RiscVFast
