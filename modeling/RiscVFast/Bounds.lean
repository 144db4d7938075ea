import RiscVFast.Writes

/-! Guest accesses and the ends of the buffers. Every check looks at the first byte only. -/

namespace RiscVFast

open Fallible Transition

def loadWidthOf : VliwOp → Option Nat
  | .lb | .lbu => some 1
  | .lh | .lhu => some 2
  | .lw => some 4
  | _ => none

def accessWidthOf (opcode : VliwOp) : Option Nat := (loadWidthOf opcode).or (storeWidthOf opcode)

def Memory.writeSegment (cfg : Config) (memory : Memory) (addr : Word) : Option Segment :=
  if memory.isdata addr then some memory.dataMem
  else if cfg.doCore && memory.istext addr then some memory.insnMem
  else none

def Vliw.servedBy (cfg : Config) (vlp : Vliw) (s : Machine) : Option Segment :=
  if (storeWidthOf vlp.opcode).isSome then s.memory.writeSegment cfg (vlp.address s)
  else
    match checkAddr s (vlp.address s) with
    | .ok () => s.memory.readSegment (vlp.address s)
    | .error _ => none

def Segment.AmongLast (seg : Segment) (count : Nat) (addr : Word) : Prop :=
  seg.contains addr = true ∧ seg.memLen.toNat - count ≤ seg.offset addr

instance (seg : Segment) (count : Nat) (addr : Word) : Decidable (seg.AmongLast count addr) :=
  inferInstanceAs (Decidable (_ ∧ _))

theorem holds_iff_not_amongLast {seg : Segment} {addr : Word} {width : Nat} (some : 0 < width) :
    seg.Holds addr width ↔ seg.contains addr = true ∧ ¬ seg.AmongLast (width - 1) addr := by
  rw [Segment.Holds, Segment.AmongLast, contains_iff]
  omega

theorem access_outOfBuffer {seg : Segment} (allocated : seg.size = seg.memLen.toNat)
    (addr : Word) (width : Nat) :
    seg.access addr width = .error .outOfBuffer ↔ ¬ seg.Holds addr width := by
  unfold Segment.access Segment.Holds
  rw [allocated]
  split <;> simp_all

theorem fetchCode_outOfBuffer {s : Machine} (allocated : s.memory.Allocated) :
    fetchCode s = .error .outOfBuffer ↔ ¬ s.memory.insnMem.Holds s.cpu.pc 4 := by
  rw [← access_outOfBuffer allocated.text, fetchCode, bind_eq_error, Segment.fetch32, map_eq_error]
  refine or_iff_left ?_
  rintro ⟨raw, _, expanded⟩
  unfold expandCode at expanded
  split at expanded
  · simp at expanded
  · simp only at expanded
    split at expanded <;> simp at expanded

theorem readSegment_cases {memory : Memory} {addr : Word} {seg : Segment}
    (found : memory.readSegment addr = some seg) :
    seg.contains addr = true ∧ (seg = memory.dataMem ∨ seg = memory.insnMem) := by
  unfold Memory.readSegment at found
  split at found
  · rename_i isdata
    simp only [Option.some.injEq] at found
    subst found
    exact ⟨isdata, .inl rfl⟩
  · split at found
    · rename_i istext
      simp only [Option.some.injEq] at found
      subst found
      exact ⟨istext, .inr rfl⟩
    · simp at found

theorem Memory.Allocated.size {memory : Memory} (allocated : memory.Allocated) {seg : Segment}
    (one : seg = memory.dataMem ∨ seg = memory.insnMem) : seg.size = seg.memLen.toNat := by
  rcases one with rfl | rfl
  · exact allocated.data
  · exact allocated.text

theorem writeSegment_read {cfg : Config} {memory : Memory} {addr : Word} {seg : Segment}
    (found : memory.writeSegment cfg addr = some seg) : memory.readSegment addr = some seg := by
  unfold Memory.writeSegment at found
  unfold Memory.readSegment
  split at found
  · rename_i isdata
    rw [if_pos isdata]
    exact found
  · rename_i notData
    split at found
    · rename_i textual
      simp only [Bool.and_eq_true] at textual
      rw [if_neg notData, if_pos textual.2]
      exact found
    · simp at found

/-! The build with `DO_MEMORY_CHECK` repeats the test of the first byte in each accessor, so it
only stops fetches that begin outside the text. -/

def Segment.checkedAccess (seg : Segment) (fmt : String) (addr : Word) (width : Nat) :
    Except Abort Nat :=
  if seg.contains addr then seg.access addr width else .error (.fatal fmt (addr - seg.memBase))

theorem checkedAccess_of_served {memory : Memory} {addr : Word} {seg : Segment} (fmt : String)
    (width : Nat) (found : memory.readSegment addr = some seg) :
    seg.checkedAccess fmt addr width = seg.access addr width := by
  rw [Segment.checkedAccess, if_pos (readSegment_cases found).1]

theorem checkedAccess_outOfBuffer {seg : Segment} (allocated : seg.size = seg.memLen.toNat)
    (fmt : String) (addr : Word) (width : Nat) :
    seg.checkedAccess fmt addr width = .error .outOfBuffer ↔
      seg.contains addr = true ∧ ¬ seg.Holds addr width := by
  unfold Segment.checkedAccess
  split
  · rename_i contains
    simp only [access_outOfBuffer allocated, contains, true_and]
  · rename_i outside
    simp [outside]

theorem checkAddr_error {s : Machine} {addr : Word} {abort : Abort}
    (rejected : checkAddr s addr = .error abort) : abort ≠ .outOfBuffer := by
  unfold checkAddr at rejected
  simp only at rejected
  split at rejected
  · simp only [Except.error.injEq] at rejected
    rw [← rejected]
    simp
  · simp at rejected

theorem readWith_outOfBuffer {memory : Memory} (allocated : memory.Allocated) {fmt : String}
    {addr : Word} {width : Nat} (value : Segment → Nat → Word) :
    memory.readWith fmt addr (fun seg => (seg.access addr width).map (value seg)) =
        .error .outOfBuffer ↔
      ∃ seg, memory.readSegment addr = some seg ∧ ¬ seg.Holds addr width := by
  unfold Memory.readWith
  split
  · rename_i seg found
    simp only [map_eq_error, access_outOfBuffer (allocated.size (readSegment_cases found).2), found,
      Option.some.injEq, exists_eq_left']
  · rename_i missing
    simp [missing]

theorem read32_outOfBuffer {cfg : Config} {s : Machine} (allocated : s.memory.Allocated)
    {addr : Word} : read32 cfg s addr = .error .outOfBuffer ↔
      ∃ seg, s.memory.readSegment addr = some seg ∧ ¬ seg.Holds addr 4 := by
  unfold read32
  split
  · rename_i seg found
    simp only [Segment.read32, map_eq_error,
      access_outOfBuffer (allocated.size (readSegment_cases found).2), found, Option.some.injEq,
      exists_eq_left']
  · rename_i missing
    split <;> simp [missing]

theorem checked_outOfBuffer {s : Machine} {addr : Word} {width : Nat} {load : Except Abort Machine}
    (loads : load = .error .outOfBuffer ↔
      ∃ seg, s.memory.readSegment addr = some seg ∧ ¬ seg.Holds addr width) :
    (do checkAddr s addr; load) = .error .outOfBuffer ↔
      ∃ seg, (match checkAddr s addr with
        | .ok () => s.memory.readSegment addr
        | .error _ => none) = some seg ∧ ¬ seg.Holds addr width := by
  cases checked : checkAddr s addr with
  | error abort =>
      have other := checkAddr_error checked
      simp [other]
  | ok passed =>
      rw [ok_bind, loads]

theorem dispatch_load_outOfBuffer {cfg : Config} {vlp : Vliw} {s : Machine} {width : Nat}
    (allocated : s.memory.Allocated) (loads : loadWidthOf vlp.opcode = some width) :
    dispatch cfg vlp s = .error .outOfBuffer ↔
      ∃ seg, vlp.servedBy cfg s = some seg ∧ ¬ seg.Holds (vlp.address s) width := by
  obtain ⟨opcode, rd, rs1, rs2, imm⟩ := vlp
  cases opcode <;> simp only [loadWidthOf, reduceCtorEq, Option.some.injEq] at loads <;> subst loads
  all_goals
    simp only [dispatch, Vliw.servedBy, storeWidthOf, Option.isSome_none, Bool.false_eq_true,
      if_false, Vliw.address]
    refine checked_outOfBuffer ?_
    rw [bind_total_eq_error fun _ => ⟨_, rfl⟩]
  case lw => exact read32_outOfBuffer allocated
  all_goals exact readWith_outOfBuffer allocated _

theorem writeWith_eq (cfg : Config) (memory : Memory) (addr : Word) (bytes : List Byte) :
    (∃ seg, memory.writeSegment cfg addr = some seg ∧ ∃ put : Segment → Memory,
        memory.writeWith cfg addr (·.write addr bytes) = some ((seg.write addr bytes).map put)) ∨
      memory.writeSegment cfg addr = none ∧
        memory.writeWith cfg addr (·.write addr bytes) = none := by
  unfold Memory.writeSegment Memory.writeWith
  split
  · exact .inl ⟨_, rfl, _, rfl⟩
  · split
    · exact .inl ⟨_, rfl, _, rfl⟩
    · exact .inr ⟨rfl, rfl⟩

theorem write_outOfBuffer {cfg : Config} {memory : Memory} (allocated : memory.Allocated)
    {addr : Word} {bytes : List Byte} {seg : Segment}
    (found : memory.writeSegment cfg addr = some seg) :
    seg.write addr bytes = .error .outOfBuffer ↔ ¬ seg.Holds addr bytes.length := by
  obtain ⟨_, one⟩ := readSegment_cases (writeSegment_read found)
  rw [Segment.write, map_eq_error, access_outOfBuffer (allocated.size one)]

theorem store_outOfBuffer {cfg : Config} {s : Machine} {addr : Word} (bytes : List Byte)
    (allocated : s.memory.Allocated) {elsewhere : Except Abort Machine}
    (noBuffer : elsewhere ≠ .error .outOfBuffer) :
    (match s.memory.writeWith cfg addr (·.write addr bytes) with
      | some written => written.map fun memory => { s with memory := memory }
      | none => elsewhere) = .error .outOfBuffer ↔
      ∃ seg, s.memory.writeSegment cfg addr = some seg ∧ ¬ seg.Holds addr bytes.length := by
  rcases writeWith_eq cfg s.memory addr bytes with ⟨seg, found, put, written⟩ | ⟨missing, refused⟩
  · simp only [written, found, Option.some.injEq, exists_eq_left', map_eq_error]
    exact write_outOfBuffer allocated found
  · simp [refused, missing, noBuffer]

theorem dispatch_store_outOfBuffer {cfg : Config} {vlp : Vliw} {s : Machine} {width : Nat}
    (allocated : s.memory.Allocated) (stores : storeWidthOf vlp.opcode = some width) :
    dispatch cfg vlp s = .error .outOfBuffer ↔
      ∃ seg, vlp.servedBy cfg s = some seg ∧ ¬ seg.Holds (vlp.address s) width := by
  obtain ⟨opcode, rd, rs1, rs2, imm⟩ := vlp
  cases opcode <;> simp only [storeWidthOf, reduceCtorEq, Option.some.injEq] at stores <;>
    subst stores
  all_goals
    simp only [dispatch, Vliw.servedBy, storeWidthOf, Option.isSome_some, if_true, Vliw.address]
  case sw =>
      refine store_outOfBuffer (bytesOf 4 (s.cpu.reg rs2)) allocated ?_
      split <;> simp
  case sh => exact store_outOfBuffer (bytesOf 2 (s.cpu.reg rs2)) allocated (by simp)
  case sb => exact store_outOfBuffer (bytesOf 1 (s.cpu.reg rs2)) allocated (by simp)

theorem execute_outOfBuffer {cfg : Config} {vlp : Vliw} {s : Machine} {width : Nat}
    (allocated : s.memory.Allocated) (accesses : accessWidthOf vlp.opcode = some width) :
    execute cfg vlp s = .error .outOfBuffer ↔
      ∃ seg, vlp.servedBy cfg s = some seg ∧ ¬ seg.Holds (vlp.address s) width := by
  rw [execute, map_eq_error]
  rcases Option.or_eq_some_iff.mp accesses with loads | ⟨_, stores⟩
  · exact dispatch_load_outOfBuffer allocated loads
  · exact dispatch_store_outOfBuffer allocated stores

theorem servedBy_contains {cfg : Config} {vlp : Vliw} {s : Machine} {seg : Segment}
    (served : vlp.servedBy cfg s = some seg) : seg.contains (vlp.address s) = true := by
  unfold Vliw.servedBy at served
  split at served
  · exact (readSegment_cases (writeSegment_read served)).1
  · split at served
    · exact (readSegment_cases served).1
    · simp at served

theorem accessWidth_positive {opcode : VliwOp} {width : Nat}
    (accesses : accessWidthOf opcode = some width) : 0 < width := by
  rcases Option.or_eq_some_iff.mp accesses with loads | ⟨_, stores⟩
  · unfold loadWidthOf at loads
    split at loads <;> simp only [Option.some.injEq, reduceCtorEq] at loads <;> omega
  · unfold storeWidthOf at stores
    split at stores <;> simp only [Option.some.injEq, reduceCtorEq] at stores <;> omega

/-- In every reachable state an access stays inside the buffers exactly when it does not begin in
one of the last bytes of the segment that serves it, one less than its width, and a fetch when it
begins in the text and not in one of its last three bytes. -/
theorem accesses_inBuffer_iff (cfg : Config) (memory : Memory) (entry dataEnd : Word)
    (moves : List Move) (sim : Simulator) (allocated : memory.Allocated)
    (runs : Runs (Moves cfg) (Simulator.boot memory entry dataEnd) moves sim) :
    (fetchCode sim.machine ≠ .error .outOfBuffer ↔
        sim.machine.memory.insnMem.contains sim.machine.cpu.pc = true ∧
          ¬ sim.machine.memory.insnMem.AmongLast 3 sim.machine.cpu.pc) ∧
      ∀ vlp width, accessWidthOf vlp.opcode = some width →
        (execute cfg vlp sim.machine ≠ .error .outOfBuffer ↔
          ∀ seg, vlp.servedBy cfg sim.machine = some seg →
            ¬ seg.AmongLast (width - 1) (vlp.address sim.machine)) := by
  have current := allocated.of_layout (layout_of_runs runs)
  constructor
  · rw [ne_eq, fetchCode_outOfBuffer current, not_not]
    exact holds_iff_not_amongLast (by decide)
  · intro vlp width accesses
    rw [ne_eq, execute_outOfBuffer current accesses]
    simp only [not_exists, not_and, not_not]
    refine forall_congr' fun seg => imp_congr_right fun served => ?_
    rw [holds_iff_not_amongLast (accessWidth_positive accesses)]
    exact and_iff_right (servedBy_contains served)

theorem accesses_inBuffer_iff_reset :
    let sim := Simulator.boot (smallMemory 0x20000000 [0x00012303]) 0 0
    fetchCode sim.machine ≠ .error .outOfBuffer ∧
      execute (Config.standard Host.silent) ⟨.lw, 6, 2, 0, 0⟩ sim.machine ≠ .error .outOfBuffer := by
  intro sim
  have placed := smallMemory_placed [0x00012303]
  obtain ⟨fetch, access⟩ := accesses_inBuffer_iff (Config.standard Host.silent) _ 0 0 [] sim
    placed.allocated (.nil sim)
  refine ⟨fetch.mpr (by decide +kernel), (access ⟨.lw, 6, 2, 0, 0⟩ 4 rfl).mpr ?_⟩
  intro seg served
  let addr := Vliw.address ⟨.lw, 6, 2, 0, 0⟩ sim.machine
  have passes : checkAddr sim.machine addr = .ok () := by decide +kernel
  have isdata : sim.machine.memory.isdata addr = true := by decide +kernel
  simp only [Vliw.servedBy, storeWidthOf, Option.isSome_none, Bool.false_eq_true, if_false,
    passes, readSegment_data isdata, Option.some.injEq, addr] at served
  rw [← served]
  decide +kernel

/-- `addi x5,x0,1` and a final `c.nop` in a text of six bytes. -/
def oddMemory : Memory where
  insnMem := Segment.ofWords 0 6 [0x00100293, 0x00000001]
  dataMem := Segment.ofWords 0x20000000 0x100 []

/-- The fetch of the `c.nop` and a word load from the last byte of the data both go too far. -/
theorem accesses_beyond_buffer :
    ¬ ∀ (cfg : Config) (memory : Memory) (entry dataEnd : Word) (moves : List Move)
      (sim : Simulator), memory.Allocated →
      Runs (Moves cfg) (Simulator.boot memory entry dataEnd) moves sim →
      fetchCode sim.machine ≠ .error .outOfBuffer ∨
        ∀ vlp width, accessWidthOf vlp.opcode = some width →
          execute cfg vlp sim.machine ≠ .error .outOfBuffer := by
  intro claimed
  have evaluated : (do
      let reached ← steps (Config.standard Host.silent) 1 (Simulator.boot oddMemory 0 0)
      .ok (fetchCode reached.2.machine,
        (execute (Config.standard Host.silent) ⟨.lw, 6, 2, 0, 15⟩
          reached.2.machine).map fun _ => ())) =
        Except.ok (Except.error Abort.outOfBuffer, Except.error Abort.outOfBuffer) := by
    decide +kernel
  obtain ⟨⟨labels, sim⟩, completed, evaluated⟩ := bind_eq_ok.mp evaluated
  simp only [Except.ok.injEq, Prod.mk.injEq, map_eq_error] at evaluated
  obtain ⟨fetch, load⟩ := evaluated
  rcases claimed _ oddMemory 0 0 _ sim ⟨rfl, rfl⟩ (steps_moves completed) with inside | inside
  · exact inside fetch
  · exact inside _ 4 rfl load

end RiscVFast
