import RiscVFast.ProgramCounter
import RiscVFast.Refusals

/-! What becomes of a word that the simulator has no decode for. -/

namespace RiscVFast

open Fallible Transition

/-- No row of the table matches, or a 16-bit code has no expansion. -/
def Undecodable (raw : Word) : Bool :=
  if isWide raw then (optableLookup raw).isNone else decomp16Table (raw.setWidth 16) == 0

/-- The round ends in an error, or an interrupt comes before the instruction. -/
def Refused (cfg : Config) (sim : Simulator) : Prop :=
  (∃ abort, step cfg sim = .error abort ∧ abort.reported = true) ∨
    ∃ label after, step cfg sim = .ok (label, after) ∧ label.interrupted = true

/-- The slot of the pc holds another word's Vliw, and that one is refused in this state. -/
def Simulator.StaleAborts (cfg : Config) (sim : Simulator) : Prop :=
  let slot := sim.vliwInsn (vliwIndex sim.machine.cpu.pc)
  slot.opcode ≠ .none ∧ slot.Refused cfg sim.machine

theorem refused_quietPoll (cfg : Config) (vlp : Vliw) (s : Machine) (pcInc : Word) :
    vlp.Refused cfg (s.quietPoll pcInc) ↔ vlp.Refused cfg s := by
  rw [Machine.quietPoll, fakeTimer_eq]
  exact Iff.rfl

theorem round_interrupted {cfg : Config} {s : Machine} (code32 : Word) (vliw : Vliw)
    (due : s.interruptDue) :
    ∃ label after, round cfg code32 vliw s = .ok (label, after) ∧ label.interrupted = true := by
  have polling := poll_taken due.1 due.2.1 due.2.2
  have irq : (decide s.externalPending || !decide s.externalPending) = true := by simp
  unfold round
  rw [polling]
  simp only [executedVliw, irq, if_true]
  exact ⟨_, _, rfl, irq⟩

theorem round_quiet {cfg : Config} {s : Machine} (code32 : Word) (vliw : Vliw)
    (idle : ¬ s.interruptDue) :
    round cfg code32 vliw s = (execute cfg vliw s.fakeTimer).map fun executed =>
      (⟨s.cpu.pc, s.cpu.pcInc, code32, vliw, false, false, storeOf cfg vliw s.fakeTimer⟩,
        executed.advance) := by
  have polling := poll_quiet idle
  unfold round
  rw [polling]
  simp only [executedVliw, Bool.or_self, Bool.false_eq_true, if_false]
  cases execute cfg vliw s.fakeTimer <;> rfl

theorem refused_iff_of_lookup {cfg : Config} {sim cached : Simulator} {pcInc code32 : Word}
    {vliw : Vliw} (fetched : fetchCode sim.machine = .ok (code32, pcInc))
    (looked : cacheLookup sim sim.machine.cpu.pc code32 = .ok (vliw, cached)) :
    Refused cfg sim ↔ sim.machine.interruptDue ∨ vliw.Refused cfg sim.machine := by
  rw [← refused_quietPoll cfg vliw sim.machine pcInc, ← execute_reported]
  have stepped := @step_of_lookup cfg _ _ _ _ _ fetched looked
  by_cases due : sim.machine.interruptDue
  · have fallen : (sim.machine.fallThrough pcInc).interruptDue := due
    obtain ⟨label, after, rounded, interrupted⟩ := @round_interrupted cfg _ code32 vliw fallen
    rw [rounded] at stepped
    exact iff_of_true (.inr ⟨label, _, stepped, interrupted⟩) (.inl due)
  · have fallen : ¬ (sim.machine.fallThrough pcInc).interruptDue := due
    rw [round_quiet code32 vliw fallen] at stepped
    simp only [due, false_or]
    constructor
    · rintro (⟨abort, failed, reported⟩ | ⟨label, after, completed, interrupted⟩)
      · rw [stepped, map_eq_error, map_eq_error] at failed
        exact ⟨abort, reported, failed⟩
      · exact absurd ((step_interrupted_iff completed).mp interrupted) due
    · rintro ⟨abort, reported, failed⟩
      refine .inl ⟨abort, ?_, reported⟩
      rw [stepped, map_eq_error, map_eq_error]
      exact failed

theorem fetchCode_wide {s : Machine} {raw : Word}
    (fetched : s.memory.insnMem.fetch32 s.cpu.pc = .ok raw) (wide : isWide raw = true) :
    fetchCode s = .ok (raw, s.cpu.pc + 4) := by
  have lowBits : raw &&& 0x00000003 = 0x00000003 := by simpa [isWide] using wide
  simp only [fetchCode, fetched, ok_bind, expandCode]
  exact if_pos lowBits

theorem fetchCode_narrow {s : Machine} {raw : Word}
    (fetched : s.memory.insnMem.fetch32 s.cpu.pc = .ok raw) (narrow : isWide raw = false) :
    fetchCode s =
      if decomp16Table (raw.setWidth 16) = 0 then
        .error (.exit 1 "Unable to decompress %04x\n" (raw &&& 0xffff))
      else .ok (decomp16Table (raw.setWidth 16), s.cpu.pc + 2) := by
  have lowBits : ¬ raw &&& 0x00000003 = 0x00000003 := by simpa [isWide] using narrow
  simp only [fetchCode, fetched, ok_bind, expandCode]
  exact if_neg lowBits

/-- The decoder leaves a `nop` in the slot. -/
theorem cacheLookup_undecodable {sim : Simulator} {raw : Word} (sound : sim.tables.Sound)
    (wide : isWide raw = true) (unmatched : optableLookup raw = none) :
    ∃ cached, cacheLookup sim sim.machine.cpu.pc raw =
      .ok (if (sim.vliwInsn (vliwIndex sim.machine.cpu.pc)).opcode = .none then vliwNop
        else sim.vliwInsn (vliwIndex sim.machine.cpu.pc), cached) := by
  have undecoded : decodeWord raw = .ok vliwNop := by
    rw [decodeWord, decodeAlone_wide raw wide, scanWide, unmatched]
    rfl
  unfold cacheLookup
  simp only
  split
  · have transparent := sound.decodeWord sim.machine.cpu.pc raw
    rw [undecoded] at transparent
    obtain ⟨decoded, called, result⟩ := map_eq_ok.mp transparent
    simp only [called, ok_bind, result]
    exact ⟨_, rfl⟩
  · exact ⟨_, rfl⟩

/-- A word without a decode is refused exactly when it is a 16-bit code, an interrupt comes
first, or its slot holds an older Vliw that aborts. -/
theorem undecodable_refused_iff (cfg : Config) (memory : Memory) (entry dataEnd : Word)
    (moves : List Move) (sim : Simulator) (raw : Word)
    (runs : Runs (Moves cfg) (Simulator.boot memory entry dataEnd) moves sim)
    (fetched : sim.machine.memory.insnMem.fetch32 sim.machine.cpu.pc = .ok raw)
    (undecodable : Undecodable raw = true) :
    Refused cfg sim ↔
      isWide raw = false ∨ sim.machine.interruptDue ∨ sim.StaleAborts cfg := by
  cases wide : isWide raw with
  | false =>
      simp only [Undecodable, wide, Bool.false_eq_true, if_false, beq_iff_eq] at undecodable
      have failed := fetchCode_narrow fetched wide
      rw [if_pos undecodable] at failed
      refine iff_of_true (.inl ⟨.exit 1 "Unable to decompress %04x\n" (raw &&& 0xffff), ?_, rfl⟩)
        (.inl rfl)
      rw [step, failed, error_bind]
  | true =>
      simp only [Undecodable, wide, if_true, Option.isNone_iff_eq_none] at undecodable
      have sound := (CacheHistory.of_runs runs).tables
      obtain ⟨cached, looked⟩ := cacheLookup_undecodable sound wide undecodable
      rw [refused_iff_of_lookup (fetchCode_wide fetched wide) looked]
      simp only [Bool.true_eq_false, false_or, Simulator.StaleAborts]
      refine or_congr_right ?_
      split
      · rename_i empty
        -- a `nop` is never refused
        simp [empty, Vliw.Refused, vliwNop, Vliw.ofOpcode, VliwOp.handled]
      · rename_i filled
        simp only [ne_eq, filled, not_false_eq_true, true_and]

theorem undecodable_refused_iff_zero :
    Refused (Config.standard Host.silent) (Simulator.boot (smallMemory 0x20000000 []) 0 0) :=
  (undecodable_refused_iff (Config.standard Host.silent) (smallMemory 0x20000000 []) 0 0 []
    (Simulator.boot (smallMemory 0x20000000 []) 0 0) 0 (.nil _) (by decide) (by decide)).mpr
    (.inl (by decide))

/-- The word 0xffffffff passes for a `nop`. -/
theorem undecodable_retired :
    ¬ ∀ (cfg : Config) (memory : Memory) (entry dataEnd : Word) (moves : List Move)
      (sim : Simulator) (raw : Word),
      Runs (Moves cfg) (Simulator.boot memory entry dataEnd) moves sim →
      sim.machine.memory.insnMem.fetch32 sim.machine.cpu.pc = .ok raw →
      Undecodable raw = true → Refused cfg sim := by
  intro claimed
  have evaluated : (step (Config.standard Host.silent)
      (Simulator.boot (smallMemory 0x20000000 [0xffffffff]) 0 0)).map
        (fun outcome => outcome.1.interrupted) = .ok false := by
    decide +kernel
  obtain ⟨⟨label, after⟩, stepped, quiet⟩ := map_eq_ok.mp evaluated
  rcases claimed (Config.standard Host.silent) (smallMemory 0x20000000 [0xffffffff]) 0 0 [] _
    0xffffffff (.nil _) (by decide) (by decide +kernel) with
    ⟨abort, failed, _⟩ | ⟨label', after', completed, interrupted⟩
  · rw [stepped] at failed
    cases failed
  · rw [stepped] at completed
    simp only [Except.ok.injEq, Prod.mk.injEq] at completed
    rw [← completed.1, quiet] at interrupted
    simp at interrupted

end RiscVFast
