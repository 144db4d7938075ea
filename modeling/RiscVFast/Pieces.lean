import RiscVFast.CycleCounter

/-! Running in pieces against running at once. -/

namespace RiscVFast

open Fallible Transition

def traceLoop (cfg : Config) : Nat → Simulator → Except Abort (List StepLabel × Bool × Simulator)
  | 0, sim => .ok ([], false, sim)
  | n + 1, sim =>
      if sim.machine.cpu.running then do
        let (label, sim) ← step cfg sim
        if sim.machine.cpu.stop then
          .ok ([label], true, { sim with machine := sim.machine.clearStop })
        else do
          let rest ← traceLoop cfg n sim
          .ok (label :: rest.1, rest.2)
      else .ok ([], false, sim)

def traceRun (cfg : Config) (n : Nat) (sim : Simulator) :
    Except Abort (List StepLabel × Bool × Simulator) :=
  traceLoop cfg n { sim with machine := sim.machine.enterRun }

theorem runLoop_eq_trace (cfg : Config) (n : Nat) (sim : Simulator) :
    runLoop cfg n sim = (traceLoop cfg n sim).map fun traced => traced.2.2 := by
  induction n generalizing sim with
  | zero => rfl
  | succ n ih =>
      simp only [runLoop, traceLoop]
      split
      · cases stepped : step cfg sim with
        | error abort => rfl
        | ok done =>
            simp only [ok_bind]
            split
            · rfl
            · rw [ih]
              cases traceLoop cfg n done.2 <;> rfl
      · rfl

theorem run_eq_trace (cfg : Config) (n : Nat) (sim : Simulator) :
    run cfg n sim = (traceRun cfg n sim).map fun traced => traced.2.2 :=
  runLoop_eq_trace cfg n _

def tracePieces (cfg : Config) (m n : Nat) (sim : Simulator) :
    Except Abort (List StepLabel × Bool × Simulator) := do
  let first ← traceRun cfg m sim
  let second ← traceRun cfg n first.2.2
  .ok (first.1 ++ second.1, second.2)

def singleSteps (cfg : Config) : Nat → Simulator →
    Except Abort (List StepLabel × Bool × Simulator)
  | 0, sim => .ok ([], false, sim)
  | k + 1, sim => do
      let before ← singleSteps cfg k sim
      let last ← traceRun cfg 1 before.2.2
      .ok (before.1 ++ last.1, last.2)

theorem traceLoop_add {cfg : Config} {m : Nat} {sim middle : Simulator} {labels : List StepLabel}
    (traced : traceLoop cfg m sim = .ok (labels, false, middle)) (n : Nat) :
    traceLoop cfg (m + n) sim =
      (traceLoop cfg n middle).map fun rest => (labels ++ rest.1, rest.2) := by
  induction m generalizing sim labels with
  | zero =>
      simp only [traceLoop, Except.ok.injEq, Prod.mk.injEq, true_and] at traced
      obtain ⟨rfl, rfl⟩ := traced
      rw [Nat.zero_add]
      cases traceLoop cfg n sim <;> rfl
  | succ m ih =>
      rw [Nat.add_right_comm]
      simp only [traceLoop] at traced ⊢
      split at traced
      · rename_i running
        obtain ⟨⟨label, next⟩, stepped, traced⟩ := bind_eq_ok.mp traced
        simp only at traced
        split at traced
        · simp at traced
        · rename_i goesOn
          obtain ⟨rest, tracedRest, traced⟩ := bind_eq_ok.mp traced
          simp only [Except.ok.injEq, Prod.mk.injEq] at traced
          obtain ⟨rfl, stopped⟩ := traced
          have whole : traceLoop cfg m next = .ok (rest.1, false, middle) := by
            rw [tracedRest, ← stopped]
          rw [if_pos running, stepped]
          simp only [ok_bind]
          rw [if_neg goesOn, ih whole]
          cases traceLoop cfg n middle <;> rfl
      · rename_i halted
        simp only [Except.ok.injEq, Prod.mk.injEq, true_and] at traced
        obtain ⟨rfl, rfl⟩ := traced
        rw [if_neg halted]
        cases n with
        | zero => rfl
        | succ n =>
            simp only [traceLoop]
            rw [if_neg halted]
            rfl

theorem pieces_of_trace {cfg : Config} {m : Nat} {sim middle : Simulator} {labels : List StepLabel}
    (traced : traceRun cfg m sim = .ok (labels, false, middle)) (n : Nat) :
    tracePieces cfg m n sim =
      (traceRun cfg n middle).map fun rest => (labels ++ rest.1, rest.2) := by
  unfold tracePieces
  rw [traced]
  simp only [ok_bind]
  cases traceRun cfg n middle <;> rfl

/-! The loop goes on unless something asked it to stop. -/

def KeepsRunning (s t : Machine) : Prop := t.cpu.running = s.cpu.running ∨ t.cpu.stop = true

theorem keepsRunning_of_cpu {s : Machine} {result : Word × Machine} (cpu : result.2.cpu = s.cpu) :
    KeepsRunning s (Machine.returnA0 result) := by
  have kept : result.2.cpu.running = s.cpu.running := congrArg Cpu.running cpu
  exact .inl kept

theorem host_keepsRunning (rw : Bool) (addr value : Word) (s : Machine) :
    KeepsRunning s (host rw addr value s) := by
  unfold host
  split
  · split
    · exact .inr rfl
    · exact .inl rfl
  · split <;> exact .inl rfl

theorem syscall_keepsRunning {cfg : Config} {s t : Machine} (called : syscall cfg s = .ok t) :
    KeepsRunning s t := by
  unfold syscall at called
  simp only at called
  refine of_ite_eq_ok called (fun _ called => ?_) fun _ called => ?_
  · simp only [Except.ok.injEq] at called
    rw [← called, doBrk]
    split <;> exact .inl rfl
  refine of_ite_eq_ok called (fun _ called => ?_) fun _ called => ?_
  · obtain ⟨result, answered, rfl⟩ := map_eq_ok.mp called
    exact keepsRunning_of_cpu (doGettimeofday_cpu answered)
  refine of_ite_eq_ok called (fun _ called => ?_) fun _ called => ?_
  · simp only [Except.ok.injEq] at called
    rw [← called]
    exact .inr rfl
  refine of_ite_eq_ok called (fun _ called => ?_) fun _ called => ?_
  · obtain ⟨result, answered, rfl⟩ := map_eq_ok.mp called
    exact keepsRunning_of_cpu (doRead_cpu answered)
  refine of_ite_eq_ok called (fun _ called => ?_) fun _ called => ?_
  · obtain ⟨result, answered, rfl⟩ := map_eq_ok.mp called
    exact keepsRunning_of_cpu (doWrite_hostOnly answered).1
  refine of_ite_eq_ok called (fun _ called => ?_) fun _ called => ?_
  · obtain ⟨result, answered, rfl⟩ := map_eq_ok.mp called
    exact keepsRunning_of_cpu (doOpen_hostOnly answered).1
  refine of_ite_eq_ok called (fun _ called => ?_) fun _ called => ?_
  · simp only [Except.ok.injEq] at called
    rw [← called]
    exact keepsRunning_of_cpu (doLseek_hostOnly _ _ _ _ _).1
  refine of_ite_eq_ok called (fun _ called => ?_) fun _ called => ?_
  · simp only [Except.ok.injEq] at called
    rw [← called]
    exact keepsRunning_of_cpu (doClose_hostOnly _ _ _).1
  refine of_ite_eq_ok called (fun _ called => ?_) fun _ called => ?_
  · obtain ⟨result, answered, rfl⟩ := map_eq_ok.mp called
    exact keepsRunning_of_cpu (doLink_hostOnly answered).1
  refine of_ite_eq_ok called (fun _ called => ?_) fun _ called => ?_
  · obtain ⟨result, answered, rfl⟩ := map_eq_ok.mp called
    exact keepsRunning_of_cpu (doUnlink_hostOnly answered).1
  refine of_ite_eq_ok called (fun _ called => ?_) fun _ called => ?_
  · simp only [Except.ok.injEq] at called
    rw [← called]
    exact .inl rfl
  refine of_ite_eq_ok called (fun _ called => ?_) fun _ called => ?_
  · simp only [Except.ok.injEq] at called
    rw [← called]
    exact .inl rfl
  simp at called

theorem dispatch_keepsRunning {cfg : Config} {vlp : Vliw} {s t : Machine}
    (dispatched : dispatch cfg vlp s = .ok t) : KeepsRunning s t := by
  cases dispatch_effect dispatched with
  | compute silent reg pcNext => exact .inl rfl
  | deviceLoad silent addr => exact host_keepsRunning false addr 0 s
  | store width memory opcode written => exact .inl rfl
  | deviceStore opcode refused => exact host_keepsRunning _ _ _ s
  | newlib t opcode enabled called => exact syscall_keepsRunning called
  | trap cause opcode => exact .inl rfl
  | mret opcode => exact .inl rfl
  | csr silent type imm32 opcode =>
      obtain ⟨reg, cycle, mstatus, mie, mtvec, mscratch, mepc, mip, calls, frame⟩ :=
        csrInsn_frame cfg type (vlp.imm &&& 0xfff) vlp.rd vlp.rs1 imm32 s
      rw [frame]
      exact .inl rfl

theorem step_keepsRunning {cfg : Config} {sim after : Simulator} {label : StepLabel}
    (stepped : step cfg sim = .ok (label, after)) : KeepsRunning sim.machine after.machine := by
  obtain ⟨_, polled, executed, _, _, polling, ran, _, _, rfl⟩ := step_inversion stepped
  obtain ⟨mstatus, mepc, mcause, mip, pcNext, frame⟩ :=
    poll_frame (sim.machine.fallThrough label.pcInc)
  rw [polling] at frame
  simp only at frame
  obtain ⟨middle, dispatched, same⟩ := map_eq_ok.mp ran
  have kept := dispatch_keepsRunning dispatched
  rw [frame] at kept
  rw [← same]
  exact kept

theorem traceLoop_running {cfg : Config} {n : Nat} {sim after : Simulator}
    {labels : List StepLabel} (traced : traceLoop cfg n sim = .ok (labels, false, after))
    (running : sim.machine.cpu.running = true) :
    after.machine.cpu.running = true ∧ labels.length = n := by
  induction n generalizing sim labels with
  | zero =>
      simp only [traceLoop, Except.ok.injEq, Prod.mk.injEq, true_and] at traced
      obtain ⟨rfl, rfl⟩ := traced
      exact ⟨running, rfl⟩
  | succ n ih =>
      simp only [traceLoop] at traced
      rw [if_pos running] at traced
      obtain ⟨⟨label, next⟩, stepped, traced⟩ := bind_eq_ok.mp traced
      simp only at traced
      split at traced
      · simp at traced
      · rename_i goesOn
        obtain ⟨rest, tracedRest, traced⟩ := bind_eq_ok.mp traced
        simp only [Except.ok.injEq, Prod.mk.injEq] at traced
        obtain ⟨rfl, stopped⟩ := traced
        have whole : traceLoop cfg n next = .ok (rest.1, false, after) := by
          rw [tracedRest, ← stopped]
        have still : next.machine.cpu.running = true :=
          ((step_keepsRunning stepped).resolve_right goesOn).trans running
        obtain ⟨last, length⟩ := ih whole still
        exact ⟨last, by rw [List.length_cons, length]⟩

theorem cycle_of_traceLoop {cfg : Config} {n : Nat} {sim after : Simulator}
    {labels : List StepLabel} {stopped : Bool}
    (traced : traceLoop cfg n sim = .ok (labels, stopped, after))
    (quiet : ∀ label ∈ labels, label.executed.writesCounter = false) :
    after.machine.cpu.cycle = sim.machine.cpu.cycle + BitVec.ofNat 64 labels.length := by
  induction n generalizing sim labels with
  | zero =>
      simp only [traceLoop, Except.ok.injEq, Prod.mk.injEq] at traced
      obtain ⟨rfl, _, rfl⟩ := traced
      simp
  | succ n ih =>
      simp only [traceLoop] at traced
      split at traced
      · obtain ⟨⟨label, next⟩, stepped, traced⟩ := bind_eq_ok.mp traced
        have counted := step_cycle stepped
        simp only at traced
        split at traced
        · simp only [Except.ok.injEq, Prod.mk.injEq] at traced
          obtain ⟨rfl, _, rfl⟩ := traced
          rw [nextCycle_quiet (quiet label (by simp))] at counted
          exact counted
        · obtain ⟨rest, tracedRest, traced⟩ := bind_eq_ok.mp traced
          simp only [Except.ok.injEq, Prod.mk.injEq] at traced
          obtain ⟨rfl, same⟩ := traced
          have whole : traceLoop cfg n next = .ok (rest.1, stopped, after) := by
            rw [tracedRest, ← same]
          rw [nextCycle_quiet (quiet label (by simp))] at counted
          rw [ih whole fun label member => quiet label (by simp [member]), counted,
            List.length_cons, Nat.add_comm, BitVec.ofNat_add, BitVec.add_assoc]
          rfl
      · simp only [Except.ok.injEq, Prod.mk.injEq] at traced
        obtain ⟨rfl, _, rfl⟩ := traced
        simp

structure Observation where
  cpu : Cpu
  memory : Memory
  interrupts : List (Bool × Bool)

def observe (traced : List StepLabel × Bool × Simulator) : Observation where
  cpu := traced.2.2.machine.cpu
  memory := traced.2.2.machine.memory
  interrupts := traced.1.map fun label => (label.externalIrq, label.timeIrq)

def Agree (first second : Except Abort (List StepLabel × Bool × Simulator)) : Prop :=
  first.map observe = second.map observe

theorem Agree.of_ok {traced : List StepLabel × Bool × Simulator}
    {other : Except Abort (List StepLabel × Bool × Simulator)} (agree : Agree (.ok traced) other) :
    ∃ traced', other = .ok traced' ∧ traced'.2.2.machine.cpu = traced.2.2.machine.cpu ∧
      traced'.1.length = traced.1.length := by
  obtain ⟨traced', found, same⟩ := map_eq_ok.mp agree.symm
  refine ⟨traced', found, congrArg Observation.cpu same, ?_⟩
  have interrupts := congrArg (fun seen => seen.interrupts.length) same
  simpa [observe] using interrupts

def LeavesCounter (cfg : Config) (sim : Simulator) : Prop :=
  ∀ moves after, Runs (Moves cfg) sim moves after →
    ∀ label ∈ rounds moves, label.executed.writesCounter = false

theorem LeavesCounter.of_moves {cfg : Config} {sim after : Simulator} {moves : List Move}
    (leaves : LeavesCounter cfg sim) (runs : Runs (Moves cfg) sim moves after) :
    LeavesCounter cfg after := by
  intro later final onward label member
  refine leaves (moves ++ later) final (runs.append onward) label ?_
  rw [mem_rounds] at member ⊢
  exact List.mem_append_right moves member

theorem traceLoop_moves {cfg : Config} {n : Nat} {sim after : Simulator}
    {labels : List StepLabel} {stopped : Bool}
    (traced : traceLoop cfg n sim = .ok (labels, stopped, after)) :
    ∃ moves, Runs (Moves cfg) sim moves after ∧ rounds moves = labels := by
  induction n generalizing sim labels with
  | zero =>
      simp only [traceLoop, Except.ok.injEq, Prod.mk.injEq] at traced
      obtain ⟨rfl, _, rfl⟩ := traced
      exact ⟨[], .nil sim, rfl⟩
  | succ n ih =>
      simp only [traceLoop] at traced
      split at traced
      · obtain ⟨⟨label, next⟩, stepped, traced⟩ := bind_eq_ok.mp traced
        simp only at traced
        split at traced
        · simp only [Except.ok.injEq, Prod.mk.injEq] at traced
          obtain ⟨rfl, _, rfl⟩ := traced
          exact ⟨_, .cons (.round stepped) (.cons (.leave next) (.nil _)), rfl⟩
        · obtain ⟨rest, tracedRest, traced⟩ := bind_eq_ok.mp traced
          simp only [Except.ok.injEq, Prod.mk.injEq] at traced
          obtain ⟨rfl, same⟩ := traced
          have whole : traceLoop cfg n next = .ok (rest.1, stopped, after) := by
            rw [tracedRest, ← same]
          obtain ⟨moves, runs, found⟩ := ih whole
          refine ⟨_, .cons (.round stepped) runs, ?_⟩
          rw [← found]
          rfl
      · simp only [Except.ok.injEq, Prod.mk.injEq] at traced
        obtain ⟨rfl, _, rfl⟩ := traced
        exact ⟨[], .nil sim, rfl⟩

theorem LeavesCounter.traceLoop_cycle {cfg : Config} {n : Nat} {sim after : Simulator}
    {labels : List StepLabel} {stopped : Bool} (leaves : LeavesCounter cfg sim)
    (traced : traceLoop cfg n sim = .ok (labels, stopped, after)) :
    after.machine.cpu.cycle = sim.machine.cpu.cycle + BitVec.ofNat 64 labels.length := by
  obtain ⟨moves, runs, rfl⟩ := traceLoop_moves traced
  exact cycle_of_traceLoop traced (leaves moves after runs)

theorem LeavesCounter.after_run {cfg : Config} {n : Nat} {sim after : Simulator}
    {labels : List StepLabel} {stopped : Bool} (leaves : LeavesCounter cfg sim)
    (traced : traceRun cfg n sim = .ok (labels, stopped, after)) :
    LeavesCounter cfg after ∧ after.machine.cpu.cycle = BitVec.ofNat 64 labels.length := by
  obtain ⟨moves, runs, found⟩ := traceLoop_moves traced
  have entered := leaves.of_moves (.cons (.enter sim) (.nil _))
  refine ⟨entered.of_moves runs, ?_⟩
  simpa [Machine.enterRun] using entered.traceLoop_cycle traced

theorem enterRun_of_zero {s : Machine} (running : s.cpu.running = true) (zero : s.cpu.cycle = 0) :
    s.enterRun = s := by
  obtain ⟨cpu, memory, calls, events⟩ := s
  simp only at running zero
  simp only [Machine.enterRun, ← running, ← zero]

theorem pieces_of_zero {cfg : Config} {m : Nat} {sim middle : Simulator} {labels : List StepLabel}
    (completes : traceRun cfg m sim = .ok (labels, false, middle))
    (zero : middle.machine.cpu.cycle = 0) (n : Nat) :
    tracePieces cfg m n sim = traceRun cfg (m + n) sim := by
  have running := (traceLoop_running completes rfl).1
  have entered : traceRun cfg n middle = traceLoop cfg n middle := by
    unfold traceRun
    rw [enterRun_of_zero running zero]
  rw [pieces_of_trace completes n, entered]
  exact (traceLoop_add completes n).symm

theorem zero_of_pieces {cfg : Config} {m : Nat} {sim middle : Simulator} {labels : List StepLabel}
    (completes : traceRun cfg m sim = .ok (labels, false, middle))
    (agree : Agree (tracePieces cfg m 0 sim) (traceRun cfg m sim)) :
    middle.machine.cpu.cycle = 0 := by
  have pieces : tracePieces cfg m 0 sim =
      .ok (labels, false, { middle with machine := middle.machine.enterRun }) := by
    rw [pieces_of_trace completes 0]
    simp only [traceRun, traceLoop, map_ok, List.append_nil]
  rw [pieces, completes] at agree
  obtain ⟨traced, found, cpu, _⟩ := agree.of_ok
  simp only [Except.ok.injEq] at found
  subst found
  exact congrArg Cpu.cycle cpu

theorem LeavesCounter.twoRuns_iff {cfg : Config} {m n : Nat} {sim middle after : Simulator}
    {labels later : List StepLabel} {stopped : Bool} (leaves : LeavesCounter cfg sim)
    (completes : traceRun cfg m sim = .ok (labels, false, middle))
    (second : traceRun cfg n middle = .ok (later, stopped, after)) :
    Agree (tracePieces cfg m n sim) (traceRun cfg (m + n) sim) ↔
      middle.machine.cpu.cycle = 0 := by
  constructor
  · intro agree
    have onward := (leaves.after_run completes).1
    rw [pieces_of_trace completes n, second, map_ok] at agree
    obtain ⟨traced, whole, cpu, length⟩ := agree.of_ok
    have parts := (traceLoop_add completes n).symm.trans whole
    obtain ⟨rest, continued, rfl⟩ := map_eq_ok.mp parts
    have counted := onward.traceLoop_cycle continued
    have cycle := congrArg Cpu.cycle cpu
    simp only [List.length_append, Nat.add_left_cancel_iff] at length cycle
    rw [counted, (onward.after_run second).2, length] at cycle
    simpa using cycle
  · intro zero
    rw [pieces_of_zero completes zero n]
    exact rfl

theorem singleSteps_one (cfg : Config) (sim : Simulator) :
    singleSteps cfg 1 sim = traceRun cfg 1 sim := by
  simp only [singleSteps, ok_bind, List.nil_append]
  cases traceRun cfg 1 sim <;> rfl

theorem traceRun_one {cfg : Config} {sim after : Simulator} {labels : List StepLabel}
    {stopped : Bool} (traced : traceRun cfg 1 sim = .ok (labels, stopped, after)) :
    labels.length = 1 := by
  simp only [traceRun, traceLoop] at traced
  rw [if_pos (by rfl)] at traced
  obtain ⟨⟨label, next⟩, _, traced⟩ := bind_eq_ok.mp traced
  simp only at traced
  split at traced
  all_goals
    simp only [ok_bind, Except.ok.injEq, Prod.mk.injEq] at traced
    rw [← traced.1]
    rfl

theorem LeavesCounter.after_steps {cfg : Config} {k : Nat} {sim : Simulator}
    {traced : List StepLabel × Bool × Simulator} (leaves : LeavesCounter cfg sim)
    (stepped : singleSteps cfg k sim = .ok traced) :
    LeavesCounter cfg traced.2.2 ∧ (0 < k → traced.2.2.machine.cpu.cycle = 1) := by
  induction k generalizing traced with
  | zero =>
      simp only [singleSteps, Except.ok.injEq] at stepped
      subst stepped
      exact ⟨leaves, by simp⟩
  | succ k ih =>
      simp only [singleSteps] at stepped
      obtain ⟨before, earlier, stepped⟩ := bind_eq_ok.mp stepped
      obtain ⟨last, ran, stepped⟩ := bind_eq_ok.mp stepped
      simp only [Except.ok.injEq] at stepped
      subst stepped
      obtain ⟨onward, cycle⟩ := (ih earlier).1.after_run ran
      refine ⟨onward, fun _ => ?_⟩
      simp only [cycle, traceRun_one ran]
      rfl

theorem LeavesCounter.singleSteps_iff {cfg : Config} {k : Nat} {sim after : Simulator}
    {labels : List StepLabel} (leaves : LeavesCounter cfg sim)
    (completes : traceRun cfg k sim = .ok (labels, false, after))
    (positive : 0 < k) (counts : k < 2 ^ 64) :
    Agree (singleSteps cfg k sim) (traceRun cfg k sim) ↔ k = 1 := by
  constructor
  · intro agree
    rw [completes] at agree
    obtain ⟨traced, stepped, cpu, _⟩ := Agree.of_ok agree.symm
    have cycle := congrArg Cpu.cycle cpu
    simp only at cycle
    rw [(leaves.after_steps stepped).2 positive, (leaves.after_run completes).2,
      (traceLoop_running completes rfl).2] at cycle
    have counted := congrArg BitVec.toNat cycle
    rw [BitVec.toNat_ofNat, Nat.mod_eq_of_lt counts] at counted
    exact counted.symm
  · rintro rfl
    rw [singleSteps_one]
    exact rfl

/-- The pieces make one run exactly when the second finds no counter value to clear. -/
theorem pieces_iff {cfg : Config} {m : Nat} {sim middle : Simulator} {labels : List StepLabel}
    (completes : traceRun cfg m sim = .ok (labels, false, middle)) :
    ((∀ n, Agree (tracePieces cfg m n sim) (traceRun cfg (m + n) sim)) ↔
      middle.machine.cpu.cycle = 0) ∧
    (LeavesCounter cfg sim →
      (∀ n later stopped after, traceRun cfg n middle = .ok (later, stopped, after) →
        (Agree (tracePieces cfg m n sim) (traceRun cfg (m + n) sim) ↔ m % 2 ^ 64 = 0)) ∧
      (0 < m → m < 2 ^ 64 →
        (Agree (singleSteps cfg m sim) (traceRun cfg m sim) ↔ m = 1))) := by
  refine ⟨⟨fun agree => zero_of_pieces completes (agree 0), ?_⟩, fun leaves => ⟨?_, ?_⟩⟩
  · intro zero n
    rw [pieces_of_zero completes zero n]
    exact rfl
  · intro n later stopped after second
    rw [leaves.twoRuns_iff completes second, (leaves.after_run completes).2,
      (traceLoop_running completes rfl).2]
    constructor
    · intro zero
      exact congrArg BitVec.toNat zero
    · intro zero
      exact BitVec.eq_of_toNat_eq zero
  · exact leaves.singleSteps_iff completes

theorem pieces_iff_nop :
    ∃ labels middle,
      traceRun (Config.standard Host.silent) 1
        (Simulator.boot (smallMemory 0x20000000 [0x00000013]) 0 0) = .ok (labels, false, middle) ∧
      ((∀ n, Agree
          (tracePieces (Config.standard Host.silent) 1 n
            (Simulator.boot (smallMemory 0x20000000 [0x00000013]) 0 0))
          (traceRun (Config.standard Host.silent) (1 + n)
            (Simulator.boot (smallMemory 0x20000000 [0x00000013]) 0 0))) ↔
        middle.machine.cpu.cycle = 0) := by
  have evaluated : (traceRun (Config.standard Host.silent) 1
      (Simulator.boot (smallMemory 0x20000000 [0x00000013]) 0 0)).map
        (fun traced => traced.2.1) = .ok false := by
    decide +kernel
  obtain ⟨⟨labels, stopped, middle⟩, completes, rfl⟩ := map_eq_ok.mp evaluated
  exact ⟨labels, middle, completes, (pieces_iff completes).1⟩

/-- Two `nop`s: the counter ends at 1 and not at 2. -/
theorem pieces_differ :
    ¬ ∀ (cfg : Config) (m n : Nat) (sim middle : Simulator) (labels : List StepLabel),
      traceRun cfg m sim = .ok (labels, false, middle) →
      Agree (tracePieces cfg m n sim) (traceRun cfg (m + n) sim) := by
  intro claimed
  have first : (traceRun (Config.standard Host.silent) 1
      (Simulator.boot (smallMemory 0x20000000 [0x00000013, 0x00000013]) 0 0)).map
        (fun traced => traced.2.1) = .ok false := by
    decide +kernel
  obtain ⟨⟨labels, stopped, middle⟩, completes, rfl⟩ := map_eq_ok.mp first
  have agree := claimed (Config.standard Host.silent) 1 1 _ middle labels completes
  have pieces : (tracePieces (Config.standard Host.silent) 1 1
      (Simulator.boot (smallMemory 0x20000000 [0x00000013, 0x00000013]) 0 0)).map
        (fun traced => traced.2.2.machine.cpu.cycle) = .ok 1 := by
    decide +kernel
  have whole : (traceRun (Config.standard Host.silent) 2
      (Simulator.boot (smallMemory 0x20000000 [0x00000013, 0x00000013]) 0 0)).map
        (fun traced => traced.2.2.machine.cpu.cycle) = .ok 2 := by
    decide +kernel
  obtain ⟨last, ran, one⟩ := map_eq_ok.mp pieces
  obtain ⟨whole', ran', two⟩ := map_eq_ok.mp whole
  rw [ran] at agree
  obtain ⟨other, found, cpu, _⟩ := agree.of_ok
  rw [ran', Except.ok.injEq] at found
  rw [found, cpu, one] at two
  exact absurd two (by decide)

end RiscVFast
