import RiscVFast.Effects
import RiscVFast.MemoTables

/-! One round of `run`, taken apart: the poll, the cache access and the whole step. -/

namespace RiscVFast

open Fallible Transition

def Machine.pollPoint (s : Machine) : Prop := s.cpu.cycle &&& 0xf = 0xf

def Machine.interruptsEnabled (s : Machine) : Prop := s.cpu.mstatus &&& riscvMstatusMie ≠ 0

def Machine.externalPending (s : Machine) : Prop :=
  s.cpu.mip &&& riscvMipMeip ≠ 0 ∧ s.cpu.mie &&& riscvMieMeie ≠ 0

def Machine.timerPending (s : Machine) : Prop := s.cpu.mip &&& s.cpu.mie &&& riscvMieMtie ≠ 0

instance (s : Machine) : Decidable s.pollPoint := inferInstanceAs (Decidable (_ = _))

instance (s : Machine) : Decidable s.interruptsEnabled := inferInstanceAs (Decidable (_ ≠ _))

instance (s : Machine) : Decidable s.externalPending := inferInstanceAs (Decidable (_ ∧ _))

instance (s : Machine) : Decidable s.timerPending := inferInstanceAs (Decidable (_ ≠ _))

theorem fakeTimer_eq (s : Machine) :
    s.fakeTimer = { s with
      cpu.mip := if s.cpu.cycle &&& 0xfffff = 0xfffff then s.cpu.mip ||| riscvMipMtip
        else s.cpu.mip } := by
  unfold Machine.fakeTimer
  split <;> rfl

theorem fakeTimer_of_not_pollPoint {s : Machine} (idle : ¬ s.pollPoint) : s.fakeTimer = s := by
  unfold Machine.fakeTimer
  split
  · rename_i period
    exfalso
    apply idle
    have nested : (0xfffff : BitVec 64) &&& 0xf = 0xf := by decide
    calc s.cpu.cycle &&& 0xf = s.cpu.cycle &&& (0xfffff &&& 0xf) := by rw [nested]
      _ = 0xfffff &&& 0xf := by rw [← BitVec.and_assoc, period]
      _ = 0xf := nested
  · rfl

theorem interrupt_masked (s : Machine) (cause : Word) : ¬ (s.interrupt cause).interruptsEnabled := by
  have disjoint : ~~~riscvMstatusMie &&& riscvMstatusMie = 0 := by decide
  simp only [Machine.interruptsEnabled, Machine.interrupt, BitVec.and_assoc, disjoint, ne_eq,
    not_not]
  exact BitVec.and_zero

theorem doExternalIrq_taken {s : Machine} (enabled : s.interruptsEnabled)
    (pending : s.externalPending) : doExternalIrq s = (true, s.interrupt riscvIntrMei) := by
  unfold doExternalIrq
  rw [if_neg (not_or.mpr pending), if_neg enabled]

theorem doExternalIrq_skipped {s : Machine}
    (skipped : ¬ (s.interruptsEnabled ∧ s.externalPending)) : doExternalIrq s = (false, s) := by
  unfold doExternalIrq
  split
  · rfl
  · rename_i pending
    split
    · rfl
    · rename_i enabled
      exact absurd ⟨enabled, not_or.mp pending⟩ skipped

theorem doTimeIrq_taken {s : Machine} (enabled : s.interruptsEnabled) (pending : s.timerPending) :
    doTimeIrq s = (true, s.interrupt riscvIntrMti) := by
  unfold doTimeIrq
  rw [if_neg pending, if_neg enabled]

theorem doTimeIrq_skipped {s : Machine} (skipped : ¬ (s.interruptsEnabled ∧ s.timerPending)) :
    doTimeIrq s = (false, s) := by
  unfold doTimeIrq
  split
  · rfl
  · rename_i pending
    split
    · rfl
    · rename_i enabled
      exact absurd ⟨enabled, pending⟩ skipped

theorem poll_quiet {s : Machine} (quiet : ¬ (s.pollPoint ∧ s.interruptsEnabled ∧
    (s.externalPending ∨ s.timerPending))) : poll s = (false, false, s.fakeTimer) := by
  unfold poll
  split
  · rename_i point
    have external : ¬ (s.interruptsEnabled ∧ s.externalPending) := by
      rintro ⟨enabled, pending⟩
      exact quiet ⟨point, enabled, .inl pending⟩
    have timer : ¬ (s.interruptsEnabled ∧ s.timerPending) := by
      rintro ⟨enabled, pending⟩
      exact quiet ⟨point, enabled, .inr pending⟩
    simp only [doExternalIrq_skipped external, doTimeIrq_skipped timer]
  · rename_i idle
    rw [fakeTimer_of_not_pollPoint idle]

theorem poll_external {s : Machine} (point : s.pollPoint) (enabled : s.interruptsEnabled)
    (pending : s.externalPending) :
    poll s = (true, false, (s.interrupt riscvIntrMei).fakeTimer) := by
  have timer : ¬ ((s.interrupt riscvIntrMei).interruptsEnabled ∧
      (s.interrupt riscvIntrMei).timerPending) := by
    rintro ⟨enabled, _⟩
    exact interrupt_masked s riscvIntrMei enabled
  unfold Machine.pollPoint at point
  unfold poll
  rw [if_pos point]
  simp only [doExternalIrq_taken enabled pending, doTimeIrq_skipped timer]

theorem poll_timer {s : Machine} (point : s.pollPoint) (enabled : s.interruptsEnabled)
    (noExternal : ¬ s.externalPending) (pending : s.timerPending) :
    poll s = (false, true, (s.interrupt riscvIntrMti).fakeTimer) := by
  unfold Machine.pollPoint at point
  unfold poll
  rw [if_pos point]
  simp only [doExternalIrq_skipped (fun both => noExternal both.2), doTimeIrq_taken enabled pending]

theorem poll_cases (s : Machine) :
    poll s = (false, false, s.fakeTimer) ∨
      (s.pollPoint ∧ s.interruptsEnabled ∧ s.externalPending ∧
        poll s = (true, false, (s.interrupt riscvIntrMei).fakeTimer)) ∨
      (s.pollPoint ∧ s.interruptsEnabled ∧ ¬ s.externalPending ∧ s.timerPending ∧
        poll s = (false, true, (s.interrupt riscvIntrMti).fakeTimer)) := by
  by_cases taken : s.pollPoint ∧ s.interruptsEnabled ∧ (s.externalPending ∨ s.timerPending)
  · obtain ⟨point, enabled, pending⟩ := taken
    by_cases external : s.externalPending
    · exact .inr (.inl ⟨point, enabled, external, poll_external point enabled external⟩)
    · have timer := pending.resolve_left external
      exact .inr (.inr ⟨point, enabled, external, timer, poll_timer point enabled external timer⟩)
  · exact .inl (poll_quiet taken)

theorem poll_frame (s : Machine) : ∃ mstatus mepc mcause mip pcNext,
    (poll s).2.2 = { s with cpu := { s.cpu with mstatus, mepc, mcause, mip, pcNext } } := by
  rcases poll_cases s with quiet | ⟨_, _, _, external⟩ | ⟨_, _, _, _, timer⟩
  · rw [quiet, fakeTimer_eq]
    exact ⟨_, _, _, _, _, rfl⟩
  · rw [external, fakeTimer_eq]
    exact ⟨_, _, _, _, _, rfl⟩
  · rw [timer, fakeTimer_eq]
    exact ⟨_, _, _, _, _, rfl⟩

theorem executed_of_quiet {label : StepLabel} (quiet : label.interrupted = false) :
    label.executed = label.vliw := by
  simp only [StepLabel.interrupted] at quiet
  simp only [StepLabel.executed, executedVliw, quiet, Bool.false_eq_true, if_false]

theorem executed_of_interrupted {label : StepLabel} (interrupted : label.interrupted = true) :
    label.executed = vliwNop := by
  simp only [StepLabel.interrupted] at interrupted
  simp only [StepLabel.executed, executedVliw, interrupted, if_true]

theorem quiet_of_executed {label : StepLabel} (executes : label.executed.opcode ≠ .nop) :
    label.interrupted = false := by
  by_contra interrupted
  apply executes
  rw [executed_of_interrupted (by simpa using interrupted)]
  rfl

theorem cacheLookup_machine {sim cached : Simulator} {pc code32 : Word} {vlp : Vliw}
    (looked : cacheLookup sim pc code32 = .ok (vlp, cached)) : cached.machine = sim.machine := by
  unfold cacheLookup at looked
  simp only at looked
  split at looked
  · obtain ⟨decoded, _, looked⟩ := bind_eq_ok.mp looked
    simp only [Except.ok.injEq, Prod.mk.injEq] at looked
    rw [← looked.2]
  · simp only [Except.ok.injEq, Prod.mk.injEq] at looked
    rw [← looked.2]

/-- What the decoder leaves in `*vlp`: an undecodable word leaves a `nop`. -/
def decodeWord (code : Word) : Except Abort Vliw := (decodeAlone code).map Prod.snd

theorem decodeWord_of_alone {code : Word} {found : Bool} {vlp : Vliw}
    (decodes : decodeAlone code = .ok (found, vlp)) : decodeWord code = .ok vlp := by
  rw [decodeWord, decodes]
  rfl

theorem DecodeTables.Sound.decodeWord {tables : DecodeTables} (sound : tables.Sound)
    (addr code : Word) :
    (decode2vliw tables addr code).map Decoded.vliw = RiscVFast.decodeWord code := by
  rw [RiscVFast.decodeWord, ← sound.transparent addr code]
  cases decode2vliw tables addr code <;> rfl

/-- The slot of the pc is empty, or it holds the decode of this word. -/
structure Simulator.Coherent (sim : Simulator) (code32 : Word) : Prop where
  tables : sim.tables.Sound
  slot : (sim.vliwInsn (vliwIndex sim.machine.cpu.pc)).opcode = .none ∨
    decodeWord code32 = .ok (sim.vliwInsn (vliwIndex sim.machine.cpu.pc))

theorem cacheLookup_coherent {sim : Simulator} {code32 : Word} {vlp : Vliw}
    (coherent : sim.Coherent code32) (decodes : decodeWord code32 = .ok vlp) :
    ∃ cached, cacheLookup sim sim.machine.cpu.pc code32 = .ok (vlp, cached) := by
  unfold cacheLookup
  simp only
  split
  · have transparent := coherent.tables.decodeWord sim.machine.cpu.pc code32
    rw [decodes] at transparent
    obtain ⟨decoded, called, result⟩ := map_eq_ok.mp transparent
    simp only [called, ok_bind, result]
    exact ⟨_, rfl⟩
  · rename_i filled
    have held := coherent.slot.resolve_left filled
    rw [decodes] at held
    simp only [Except.ok.injEq] at held
    rw [← held]
    exact ⟨_, rfl⟩

/-- What a completed round did, in the order of the source. -/
theorem step_inversion {cfg : Config} {sim after : Simulator} {label : StepLabel}
    (stepped : step cfg sim = .ok (label, after)) :
    ∃ cached polled executed,
      fetchCode sim.machine = .ok (label.code32, label.pcInc) ∧
      cacheLookup sim sim.machine.cpu.pc label.code32 = .ok (label.vliw, cached) ∧
      poll (sim.machine.fallThrough label.pcInc) = (label.externalIrq, label.timeIrq, polled) ∧
      execute cfg label.executed polled = .ok executed ∧
      label.pc = sim.machine.cpu.pc ∧
      label.store = storeOf cfg label.executed polled ∧
      after = { cached with machine := executed.advance } := by
  unfold step at stepped
  obtain ⟨⟨code32, pcInc⟩, fetched, stepped⟩ := bind_eq_ok.mp stepped
  obtain ⟨⟨vliw, cached⟩, looked, stepped⟩ := bind_eq_ok.mp stepped
  obtain ⟨⟨label', machine⟩, rounded, stepped⟩ := bind_eq_ok.mp stepped
  simp only [Except.ok.injEq, Prod.mk.injEq] at stepped
  obtain ⟨rfl, rfl⟩ := stepped
  unfold round at rounded
  rw [cacheLookup_machine looked] at rounded
  obtain ⟨executed, ran, rounded⟩ := bind_eq_ok.mp rounded
  simp only [Except.ok.injEq, Prod.mk.injEq] at rounded
  obtain ⟨rfl, rfl⟩ := rounded
  exact ⟨cached, _, executed, fetched, looked, rfl, ran, rfl, rfl, rfl⟩

theorem step_of_parts {cfg : Config} {sim cached : Simulator} {pcInc code32 : Word} {vliw : Vliw}
    {externalIrq timeIrq : Bool} {polled executed : Machine}
    (fetched : fetchCode sim.machine = .ok (code32, pcInc))
    (looked : cacheLookup sim sim.machine.cpu.pc code32 = .ok (vliw, cached))
    (polling : poll (sim.machine.fallThrough pcInc) = (externalIrq, timeIrq, polled))
    (ran : execute cfg (executedVliw vliw externalIrq timeIrq) polled = .ok executed) :
    step cfg sim =
      .ok (⟨sim.machine.cpu.pc, pcInc, code32, vliw, externalIrq, timeIrq,
        storeOf cfg (executedVliw vliw externalIrq timeIrq) polled⟩,
        { cached with machine := executed.advance }) := by
  simp only [step, fetched, looked, ok_bind, round, cacheLookup_machine looked, polling]
  simp only [Machine.fallThrough, ran, ok_bind]

theorem step_of_lookup {cfg : Config} {sim cached : Simulator} {pcInc code32 : Word} {vliw : Vliw}
    (fetched : fetchCode sim.machine = .ok (code32, pcInc))
    (looked : cacheLookup sim sim.machine.cpu.pc code32 = .ok (vliw, cached)) :
    step cfg sim = (round cfg code32 vliw (sim.machine.fallThrough pcInc)).map
      fun done => (done.1, { cached with machine := done.2 }) := by
  simp only [step, fetched, looked, ok_bind, cacheLookup_machine looked]
  cases round cfg code32 vliw (sim.machine.fallThrough pcInc) <;> rfl

structure Simulator.Begins (sim : Simulator) (label : StepLabel) : Prop where
  located : label.pc = sim.machine.cpu.pc
  fetched : fetchCode sim.machine = .ok (label.code32, label.pcInc)
  looked : ∃ cached, cacheLookup sim label.pc label.code32 = .ok (label.vliw, cached)
  polled : ∃ polled, poll (sim.machine.fallThrough label.pcInc) =
    (label.externalIrq, label.timeIrq, polled)

theorem begins_of_step {cfg : Config} {sim after : Simulator} {label : StepLabel}
    (stepped : step cfg sim = .ok (label, after)) : sim.Begins label := by
  obtain ⟨cached, polled, executed, fetched, looked, polling, _, located, _, _⟩ :=
    step_inversion stepped
  rw [← located] at looked
  exact ⟨located, fetched, ⟨cached, looked⟩, ⟨polled, polling⟩⟩

theorem rounds_split {moves : List Move} {before rest : List StepLabel} {label : StepLabel}
    (parts : rounds moves = before ++ label :: rest) :
    ∃ early late, moves = early ++ .round label :: late ∧ rounds early = before := by
  obtain ⟨early, others, rfl, earlyRounds, parts⟩ := List.filterMap_eq_append_iff.mp parts
  obtain ⟨silent, move, late, rfl, isSilent, isRound, _⟩ := List.filterMap_eq_cons_iff.mp parts
  have found : move = .round label := by
    cases move <;> simp_all [Move.label?]
  subst found
  refine ⟨early ++ silent, late, by simp, ?_⟩
  simp only [rounds, List.filterMap_append, earlyRounds, List.filterMap_eq_nil_iff.mpr isSilent,
    List.append_nil]

theorem mem_rounds {moves : List Move} {label : StepLabel} :
    label ∈ rounds moves ↔ .round label ∈ moves := by
  simp only [rounds, List.mem_filterMap]
  constructor
  · rintro ⟨move, member, isRound⟩
    cases move <;> simp_all [Move.label?]
  · intro member
    exact ⟨_, member, rfl⟩

theorem rounds_snoc (moves : List Move) (label : StepLabel) :
    rounds (moves ++ [.round label]) = rounds moves ++ [label] := by
  simp [rounds, Move.label?]

/-- The rounds that took an instruction from the cache: the completed ones, and with them perhaps
the one that begins now. -/
inductive Taken (moves : List Move) (sim : Simulator) : List StepLabel → Prop
  | completed : Taken moves sim (rounds moves)
  | begun {label : StepLabel} (begins : sim.Begins label) :
      Taken moves sim (rounds moves ++ [label])

theorem Taken.reached {cfg : Config} {start after : Simulator} {moves : List Move}
    (runs : Runs (Moves cfg) start moves after) {labels before rest : List StepLabel}
    {label : StepLabel} (taken : Taken moves after labels)
    (parts : labels = before ++ label :: rest) :
    ∃ early sim, Runs (Moves cfg) start early sim ∧ rounds early = before ∧ sim.Begins label ∧
      before <+: rounds moves := by
  have completed : ∀ rest, rounds moves = before ++ label :: rest →
      ∃ early sim, Runs (Moves cfg) start early sim ∧ rounds early = before ∧ sim.Begins label ∧
        before <+: rounds moves := by
    intro rest parts
    have isPrefix : before <+: rounds moves := ⟨label :: rest, parts.symm⟩
    obtain ⟨early, late, rfl, earlyRounds⟩ := rounds_split parts
    obtain ⟨source, target, earlyRuns, moved, _⟩ := runs.stepAt
    cases moved with
    | round stepped =>
        exact ⟨early, source, earlyRuns, earlyRounds, begins_of_step stepped, isPrefix⟩
  cases taken with
  | completed => exact completed rest parts
  | begun begins =>
      rcases List.eq_nil_or_concat rest with rfl | ⟨others, last, rfl⟩
      · obtain ⟨rfl, single⟩ := List.append_inj' parts rfl
        simp only [List.cons.injEq, and_true] at single
        subst single
        exact ⟨moves, after, runs, rfl, begins, List.prefix_rfl⟩
      · refine completed others ?_
        rw [List.concat_eq_append, ← List.cons_append, ← List.append_assoc] at parts
        exact (List.append_inj' parts rfl).1

theorem rounds_silent (moves : List Move) {move : Move} (silent : move.label? = none) :
    rounds (moves ++ [move]) = rounds moves := by
  simp [rounds, silent]

def steps (cfg : Config) : Nat → Simulator → Except Abort (List StepLabel × Simulator)
  | 0, sim => .ok ([], sim)
  | n + 1, sim => do
      let (label, sim) ← step cfg sim
      let (labels, sim) ← steps cfg n sim
      .ok (label :: labels, sim)

theorem steps_moves {cfg : Config} {n : Nat} {sim after : Simulator} {labels : List StepLabel}
    (completed : steps cfg n sim = .ok (labels, after)) :
    Runs (Moves cfg) sim (labels.map .round) after := by
  induction n generalizing sim labels with
  | zero =>
      simp only [steps, Except.ok.injEq, Prod.mk.injEq] at completed
      obtain ⟨rfl, rfl⟩ := completed
      exact .nil sim
  | succ n ih =>
      simp only [steps] at completed
      obtain ⟨⟨label, middle⟩, stepped, completed⟩ := bind_eq_ok.mp completed
      obtain ⟨⟨rest, last⟩, later, completed⟩ := bind_eq_ok.mp completed
      simp only [Except.ok.injEq, Prod.mk.injEq] at completed
      obtain ⟨rfl, rfl⟩ := completed
      exact .cons (.round stepped) (ih later)

@[simp] theorem rounds_map (labels : List StepLabel) : rounds (labels.map .round) = labels := by
  induction labels with
  | nil => rfl
  | cons label labels ih =>
      simp only [rounds] at ih
      simp [rounds, Move.label?, ih]

theorem runLoop_moves {cfg : Config} {n : Nat} {sim after : Simulator}
    (completed : runLoop cfg n sim = .ok after) :
    ∃ moves, Runs (Moves cfg) sim moves after := by
  induction n generalizing sim with
  | zero =>
      simp only [runLoop, Except.ok.injEq] at completed
      subst completed
      exact ⟨[], .nil sim⟩
  | succ n ih =>
      simp only [runLoop] at completed
      split at completed
      · obtain ⟨⟨label, middle⟩, stepped, completed⟩ := bind_eq_ok.mp completed
        simp only at completed
        split at completed
        · simp only [Except.ok.injEq] at completed
          subst completed
          exact ⟨_, .cons (.round stepped) (.cons (.leave middle) (.nil _))⟩
        · obtain ⟨moves, runs⟩ := ih completed
          exact ⟨_, .cons (.round stepped) runs⟩
      · simp only [Except.ok.injEq] at completed
        subst completed
        exact ⟨[], .nil sim⟩

theorem run_moves {cfg : Config} {n : Nat} {sim after : Simulator}
    (completed : run cfg n sim = .ok after) : ∃ moves, Runs (Moves cfg) sim moves after := by
  obtain ⟨moves, runs⟩ := runLoop_moves completed
  exact ⟨_, .cons (.enter sim) runs⟩

end RiscVFast
