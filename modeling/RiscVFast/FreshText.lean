import RiscVFast.VliwCache

/-! Programs that fit under the cache of decoded instructions and leave their text alone: what
they execute is what was loaded. -/

namespace RiscVFast

open Fallible Transition FirstVisit

def Segment.code (text : Segment) (pc : Word) : Except Abort (Word × Word) := do
  expandCode pc (← text.fetch32 pc)

theorem fetchCode_eq (s : Machine) : fetchCode s = s.memory.insnMem.code s.cpu.pc := rfl

theorem Segment.code_inside {text : Segment} {pc : Word} {result : Word × Word}
    (fetched : text.code pc = .ok result) : text.offset pc + 4 ≤ text.size := by
  obtain ⟨found, read, -⟩ := bind_eq_ok.mp fetched
  obtain ⟨off, access, -⟩ := map_eq_ok.mp read
  unfold Segment.access at access
  split at access
  · assumption
  · cases access

theorem even_toNat {pc : Word} (even : pc &&& 1 = 0) : pc.toNat % 2 = 0 := by
  have low := congrArg BitVec.toNat even
  have one : (1 : Word).toNat = 1 := rfl
  rwa [BitVec.toNat_and, one, Nat.and_one_is_mod] at low

theorem vliwIndex_toNat (pc : Word) : (vliwIndex pc).toNat = pc.toNat / 2 % 2 ^ 21 := by
  have mask : vliwMask.toNat = 2 ^ 21 - 1 := rfl
  rw [vliwIndex, BitVec.toNat_and, mask, Nat.and_two_pow_sub_one_eq_mod, BitVec.toNat_ushiftRight,
    Nat.shiftRight_eq_div_pow, Nat.pow_one]

theorem vliwIndex_injective {text : Segment} {pc pc' : Word} (even : pc &&& 1 = 0)
    (even' : pc' &&& 1 = 0) (inside : text.offset pc < 0x400000)
    (inside' : text.offset pc' < 0x400000) (same : vliwIndex pc = vliwIndex pc') : pc = pc' := by
  have slots := congrArg BitVec.toNat same
  rw [vliwIndex_toNat, vliwIndex_toNat] at slots
  have half := even_toNat even
  have half' := even_toNat even'
  have bound := pc.isLt
  have bound' := pc'.isLt
  have base := text.memBase.isLt
  simp only [Segment.offset, BitVec.toNat_sub] at inside inside'
  apply BitVec.eq_of_toNat_eq
  omega

section Loaded

variable {cfg : Config} {memory : Memory} {entry dataEnd : Word} {moves : List Move}
  {after : Simulator}

theorem runs_of_contained {sim : Simulator}
    (runs : Runs (fun sim move next => Moves cfg sim move next ∧ move.staysInData cfg sim) sim
      moves after) : Runs (Moves cfg) sim moves after := by
  induction runs with
  | nil sim => exact .nil sim
  | cons first _ ih => exact .cons first.1 ih

theorem contained_of_runs {sim : Simulator} (noNewlib : cfg.doNewlib = false)
    (runs : Runs (Moves cfg) sim moves after) :
    Runs (fun sim move next => Moves cfg sim move next ∧ move.staysInData cfg sim) sim moves
      after := by
  induction runs with
  | nil sim => exact .nil sim
  | @cons sim middle after move moves first _ ih =>
      refine .cons ⟨first, ?_⟩ ih
      cases move with
      | round label =>
          intro _ newlib
          simp [noNewlib] at newlib
      | enter => trivial
      | leave => trivial

theorem insnMem_of_contained {sim : Simulator} (noCore : cfg.doCore = false)
    (runs : Runs (fun sim move next => Moves cfg sim move next ∧ move.staysInData cfg sim) sim
      moves after) : after.machine.memory.insnMem = sim.machine.memory.insnMem := by
  refine runs.invariant (fun state => state.machine.memory.insnMem = sim.machine.memory.insnMem)
    ?_ rfl
  rintro state move next kept ⟨moved, stays⟩
  rw [moved.insnMem noCore stays, kept]

theorem code_of_contained {sim : Simulator} (noCore : cfg.doCore = false)
    (runs : Runs (fun sim move next => Moves cfg sim move next ∧ move.staysInData cfg sim) sim
      moves after) {label : StepLabel} (member : label ∈ rounds moves) :
    sim.machine.memory.insnMem.code label.pc = .ok (label.code32, label.pcInc) := by
  obtain ⟨early, late, rfl⟩ := List.append_of_mem (mem_rounds.mp member)
  obtain ⟨source, target, reaches, ⟨moved, -⟩, -⟩ := runs.stepAt
  cases moved with
  | round stepped =>
      obtain ⟨_, _, _, fetched, _, _, _, located, _, _⟩ := step_inversion stepped
      rw [fetchCode_eq, insnMem_of_contained noCore reaches] at fetched
      rw [located]
      exact fetched

/-- The buffer of the text is as long as `readElf` makes it, and each of its half words has a slot
of its own. -/
structure Segment.FitsCache (text : Segment) : Prop where
  allocated : text.size = text.memLen.toNat
  small : text.memLen.toNat ≤ 0x400000

theorem Segment.FitsCache.inside {text : Segment} (fits : text.FitsCache) {pc : Word}
    {result : Word × Word} (fetched : text.code pc = .ok result) :
    text.offset pc < 0x400000 := by
  have within := Segment.code_inside fetched
  have allocated := fits.allocated
  have small := fits.small
  omega

theorem decode_of_contained (noCore : cfg.doCore = false) (fits : memory.insnMem.FitsCache)
    (runs : Runs (fun sim move next => Moves cfg sim move next ∧ move.staysInData cfg sim)
      (Simulator.boot memory entry dataEnd) moves after)
    (even : ∀ label ∈ rounds moves, label.pc &&& 1 = 0) {label : StepLabel}
    (member : label ∈ rounds moves) : decodeWord label.code32 = .ok label.vliw := by
  have fetched : ∀ label ∈ rounds moves,
      memory.insnMem.code label.pc = .ok (label.code32, label.pcInc) :=
    fun label member => code_of_contained noCore runs member
  obtain ⟨before, rest, parts⟩ := List.append_of_mem member
  obtain ⟨first, found, decoded⟩ := vliw_of_first_visitor (runs_of_contained runs) .completed parts
  have slot : slotOf first = slotOf label := by simpa using List.find?_some found
  have among : first ∈ rounds moves := by
    rw [parts]
    rcases List.mem_append.mp (List.mem_of_find?_eq_some found) with earlier | last
    · exact List.mem_append_left _ earlier
    · exact List.mem_append_right _ (List.mem_singleton.mp last ▸ List.mem_cons_self)
  have samePc := vliwIndex_injective (even first among) (even label member)
    (fits.inside (fetched first among)) (fits.inside (fetched label member)) slot
  have sameCode := (fetched first among).symm.trans (samePc ▸ fetched label member)
  simp only [Except.ok.injEq, Prod.mk.injEq] at sameCode
  rw [← sameCode.1]
  exact decoded

/-- A program of at most 4 MiB at even addresses executes the words it was loaded with, as an
interpreter without the cache does. -/
theorem executes_loaded_text (cfg : Config) (memory : Memory) (entry dataEnd : Word)
    (moves : List Move) (after : Simulator) (noCore : cfg.doCore = false)
    (fits : memory.insnMem.FitsCache)
    (runs : Runs (fun sim move next => Moves cfg sim move next ∧ move.staysInData cfg sim)
      (Simulator.boot memory entry dataEnd) moves after)
    (even : ∀ label ∈ rounds moves, label.pc &&& 1 = 0) :
    (∀ label ∈ rounds moves,
      memory.insnMem.code label.pc = .ok (label.code32, label.pcInc) ∧
        decodeWord label.code32 = .ok label.vliw) ∧
      Runs (PlainMoves cfg) (Simulator.boot memory entry dataEnd).machine moves after.machine := by
  have decodes : ∀ label ∈ rounds moves, decodeWord label.code32 = .ok label.vliw :=
    fun label member => decode_of_contained noCore fits runs even member
  refine ⟨fun label member => ⟨code_of_contained noCore runs member, decodes label member⟩, ?_⟩
  refine plainRuns_of_transparent (runs_of_contained runs) ?_
  intro before label rest parts _
  exact decodes label (parts ▸ List.mem_append_right before List.mem_cons_self)

end Loaded

/-- `addi x5,x5,1` and a jump back to it: the third round is the first one again. -/
theorem executes_loaded_text_loop :
    let cfg := Config.standard Host.silent
    let memory := smallMemory 0x20000000 [0x00128293, 0xffdff06f]
    ∃ (labels : List StepLabel) (after : Machine),
      Runs (PlainMoves cfg) (Simulator.boot memory 0 0).machine (labels.map .round) after ∧
      labels.map (fun label => (label.pc, label.vliw.opcode)) = [(0, .addi), (4, .j), (0, .addi)] ∧
      ∀ label ∈ labels, decodeWord label.code32 = .ok label.vliw := by
  intro cfg memory
  have evaluated : (steps cfg 3 (Simulator.boot memory 0 0)).map
      (fun outcome => outcome.1.map fun label => (label.pc, label.vliw.opcode)) =
      .ok [(0, .addi), (4, .j), (0, .addi)] := by
    decide +kernel
  obtain ⟨⟨labels, after⟩, completed, visited⟩ := map_eq_ok.mp evaluated
  have contained := contained_of_runs rfl (steps_moves completed)
  have even : ∀ label ∈ rounds (labels.map .round), label.pc &&& 1 = 0 := by
    rw [rounds_map]
    intro label member
    have place := List.mem_map_of_mem (f := fun label => (label.pc, label.vliw.opcode)) member
    rw [visited] at place
    generalize label.pc = pc at place
    simp only [List.mem_cons, Prod.mk.injEq, List.not_mem_nil, or_false] at place
    rcases place with ⟨rfl, -⟩ | ⟨rfl, -⟩ | ⟨rfl, -⟩ <;> rfl
  obtain ⟨loaded, plain⟩ := executes_loaded_text cfg memory 0 0 _ after rfl ⟨rfl, by decide⟩
    contained even
  rw [rounds_map] at loaded
  exact ⟨labels, after.machine, plain, visited, fun label member => (loaded label member).2⟩

end RiscVFast
