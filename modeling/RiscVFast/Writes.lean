import RiscVFast.Effects
import RiscVFast.LoadStore
import RiscVFast.Rounds

/-! What a round does to memory: it puts the bytes of its label's store into one segment. -/

namespace RiscVFast

open Fallible StoreLog Transition

/-- The memory after a store: the segment that the first byte belongs to takes all of it. -/
inductive Puts (memory : Memory) : Option (Store 32 Byte) → Memory → Prop
  | nothing : Puts memory none memory
  | noBytes (addr : Word) : Puts memory (some ⟨addr, []⟩) memory
  | data (addr : Word) (cells : List Byte) (isdata : memory.isdata addr = true)
      (inside : memory.dataMem.offset addr + cells.length ≤ memory.dataMem.size) :
      Puts memory (some ⟨addr, cells⟩) { memory with dataMem.data :=
        (splice memory.dataMem.data (memory.dataMem.offset addr) cells) }
  | text (addr : Word) (cells : List Byte) (notData : memory.isdata addr = false)
      (istext : memory.istext addr = true)
      (inside : memory.insnMem.offset addr + cells.length ≤ memory.insnMem.size) :
      Puts memory (some ⟨addr, cells⟩) { memory with insnMem.data :=
        (splice memory.insnMem.data (memory.insnMem.offset addr) cells) }

theorem Puts.layout {memory after : Memory} {store : Option (Store 32 Byte)}
    (puts : Puts memory store after) : memory.SameLayout after := by
  cases puts with
  | nothing => exact .refl memory
  | noBytes addr => exact .refl memory
  | data addr cells isdata inside => exact ⟨.refl _, ⟨rfl, rfl, rfl⟩⟩
  | text addr cells notData istext inside => exact ⟨⟨rfl, rfl, rfl⟩, .refl _⟩

theorem write_inversion {seg after : Segment} {addr : Word} {bytes : List Byte}
    (written : seg.write addr bytes = .ok after) :
    seg.offset addr + bytes.length ≤ seg.size ∧
      after = { seg with data := splice seg.data (seg.offset addr) bytes } := by
  unfold Segment.write Segment.access at written
  split at written
  · rename_i inside
    simp only [map_ok, Except.ok.injEq] at written
    exact ⟨inside, written.symm⟩
  · simp at written

theorem writeWith_inversion {cfg : Config} {memory after : Memory} {addr : Word}
    {bytes : List Byte} (written : memory.writeWith cfg addr (·.write addr bytes) = some (.ok after)) :
    memory.takes cfg addr = true ∧ Puts memory (some ⟨addr, bytes⟩) after := by
  unfold Memory.writeWith at written
  split at written
  · rename_i isdata
    simp only [Option.some.injEq] at written
    obtain ⟨seg, stored, rfl⟩ := map_eq_ok.mp written
    obtain ⟨inside, rfl⟩ := write_inversion stored
    exact ⟨by simp [Memory.takes, isdata], .data addr bytes isdata inside⟩
  · rename_i notData
    simp only [Bool.not_eq_true] at notData
    split at written
    · rename_i textual
      simp only [Option.some.injEq] at written
      obtain ⟨seg, stored, rfl⟩ := map_eq_ok.mp written
      obtain ⟨inside, rfl⟩ := write_inversion stored
      have istext := (Bool.and_eq_true _ _ ▸ textual).2
      exact ⟨by simpa [Memory.takes, notData] using textual, .text addr bytes notData istext inside⟩
    · simp at written

theorem writeWith_refused {cfg : Config} {memory : Memory} {addr : Word}
    {write : Segment → Except Abort Segment} (refused : memory.writeWith cfg addr write = none) :
    memory.takes cfg addr = false := by
  unfold Memory.writeWith at refused
  split at refused
  · simp at refused
  · rename_i notData
    split at refused
    · simp at refused
    · rename_i notText
      simpa [Memory.takes] using ⟨by simpa using notData, by simpa using notText⟩

theorem poke_inversion {seg after : Segment} {off : Nat} {bytes : List Byte}
    (poked : seg.poke off bytes = .ok after) :
    bytes = [] ∧ after = seg ∨
      off + bytes.length ≤ seg.size ∧ after = { seg with data := splice seg.data off bytes } := by
  unfold Segment.poke at poked
  split at poked
  · rename_i noBytes
    simp only [Except.ok.injEq] at poked
    exact .inl ⟨noBytes, poked.symm⟩
  · split at poked
    · rename_i inside
      simp only [Except.ok.injEq] at poked
      exact .inr ⟨inside, poked.symm⟩
    · simp at poked

theorem poke_puts {memory after : Memory} {addr : Word} {ptr : HostPtr} {bytes : List Byte}
    (located : memory.getPtr addr = .ok ptr) (poked : memory.poke ptr bytes = .ok after) :
    Puts memory (some ⟨addr, bytes⟩) after := by
  unfold Memory.getPtr at located
  split at located
  · rename_i isdata
    simp only [Except.ok.injEq] at located
    subst located
    obtain ⟨seg, intoData, rfl⟩ := map_eq_ok.mp poked
    rcases poke_inversion intoData with ⟨rfl, rfl⟩ | ⟨inside, rfl⟩
    · exact .noBytes addr
    · exact .data addr bytes isdata inside
  · rename_i notData
    split at located
    · rename_i istext
      simp only [Except.ok.injEq] at located
      subst located
      obtain ⟨seg, intoText, rfl⟩ := map_eq_ok.mp poked
      rcases poke_inversion intoText with ⟨rfl, rfl⟩ | ⟨inside, rfl⟩
      · exact .noBytes addr
      · exact .text addr bytes (by simpa using notData) istext inside
    · simp at located

theorem doGettimeofday_puts {cfg : Config} {s : Machine} {a0 : Word} {result : Word × Machine}
    (called : doGettimeofday cfg s a0 = .ok result) :
    Puts s.memory (some ⟨a0, bytesOf 4 ((cfg.host.timeOfDay s.calls).1.setWidth 32) ++
      bytesOf 4 (((cfg.host.timeOfDay s.calls).1 >>> 32).setWidth 32) ++
      bytesOf 4 (cfg.host.timeOfDay s.calls).2⟩) result.2.memory := by
  unfold doGettimeofday at called
  obtain ⟨ptr, located, called⟩ := bind_eq_ok.mp called
  obtain ⟨after, stored, called⟩ := bind_eq_ok.mp called
  simp only [Except.ok.injEq] at called
  obtain ⟨memory, poked, rfl⟩ := map_eq_ok.mp stored
  subst called
  exact poke_puts located poked

theorem doRead_puts {cfg : Config} {s : Machine} {a0 a1 a2 : Word} {result : Word × Machine}
    (called : doRead cfg s a0 a1 a2 = .ok result) :
    Puts s.memory (some ⟨a1, (readBytes cfg s.calls a0 a2).1⟩) result.2.memory := by
  unfold doRead at called
  obtain ⟨ptr, located, called⟩ := bind_eq_ok.mp called
  obtain ⟨after, stored, called⟩ := bind_eq_ok.mp called
  simp only [Except.ok.injEq] at called
  obtain ⟨memory, poked, rfl⟩ := map_eq_ok.mp stored
  subst called
  exact poke_puts located poked

theorem doGettimeofday_cpu {cfg : Config} {s : Machine} {a0 : Word} {result : Word × Machine}
    (called : doGettimeofday cfg s a0 = .ok result) : result.2.cpu = s.cpu := by
  unfold doGettimeofday at called
  obtain ⟨ptr, located, called⟩ := bind_eq_ok.mp called
  obtain ⟨after, stored, called⟩ := bind_eq_ok.mp called
  simp only [Except.ok.injEq] at called
  obtain ⟨memory, poked, rfl⟩ := map_eq_ok.mp stored
  subst called
  rfl

theorem doRead_cpu {cfg : Config} {s : Machine} {a0 a1 a2 : Word} {result : Word × Machine}
    (called : doRead cfg s a0 a1 a2 = .ok result) : result.2.cpu = s.cpu := by
  unfold doRead at called
  obtain ⟨ptr, located, called⟩ := bind_eq_ok.mp called
  obtain ⟨after, stored, called⟩ := bind_eq_ok.mp called
  simp only [Except.ok.injEq] at called
  obtain ⟨memory, poked, rfl⟩ := map_eq_ok.mp stored
  subst called
  rfl

def HostOnly (s t : Machine) : Prop := t.cpu = s.cpu ∧ t.memory = s.memory

theorem doWrite_hostOnly {cfg : Config} {s : Machine} {a0 a1 a2 : Word} {result : Word × Machine}
    (called : doWrite cfg s a0 a1 a2 = .ok result) : HostOnly s result.2 := by
  unfold doWrite at called
  obtain ⟨ptr, _, called⟩ := bind_eq_ok.mp called
  split at called
  · obtain ⟨bytes, _, called⟩ := bind_eq_ok.mp called
    simp only [Except.ok.injEq] at called
    subst called
    exact ⟨rfl, rfl⟩
  · split at called
    · simp only [Except.ok.injEq] at called
      subst called
      exact ⟨rfl, rfl⟩
    · obtain ⟨bytes, _, called⟩ := bind_eq_ok.mp called
      simp only [Except.ok.injEq] at called
      subst called
      exact ⟨rfl, rfl⟩

theorem doOpen_hostOnly {cfg : Config} {s : Machine} {a0 a1 a2 : Word} {result : Word × Machine}
    (called : doOpen cfg s a0 a1 a2 = .ok result) : HostOnly s result.2 := by
  unfold doOpen at called
  obtain ⟨fname, _, called⟩ := bind_eq_ok.mp called
  simp only [Except.ok.injEq] at called
  subst called
  exact ⟨rfl, rfl⟩

theorem doLseek_hostOnly (cfg : Config) (s : Machine) (a0 a1 a2 : Word) :
    HostOnly s (doLseek cfg s a0 a1 a2).2 := by
  unfold doLseek
  split <;> exact ⟨rfl, rfl⟩

theorem doClose_hostOnly (cfg : Config) (s : Machine) (a0 : Word) :
    HostOnly s (doClose cfg s a0).2 := by
  unfold doClose
  split <;> exact ⟨rfl, rfl⟩

theorem doLink_hostOnly {cfg : Config} {s : Machine} {a0 a1 : Word} {result : Word × Machine}
    (called : doLink cfg s a0 a1 = .ok result) : HostOnly s result.2 := by
  unfold doLink at called
  obtain ⟨oldptr, _, called⟩ := bind_eq_ok.mp called
  obtain ⟨oldpath, _, called⟩ := bind_eq_ok.mp called
  obtain ⟨newptr, _, called⟩ := bind_eq_ok.mp called
  obtain ⟨newpath, _, called⟩ := bind_eq_ok.mp called
  simp only [Except.ok.injEq] at called
  subst called
  exact ⟨rfl, rfl⟩

theorem doUnlink_hostOnly {cfg : Config} {s : Machine} {a0 : Word} {result : Word × Machine}
    (called : doUnlink cfg s a0 = .ok result) : HostOnly s result.2 := by
  unfold doUnlink at called
  obtain ⟨ptr, _, called⟩ := bind_eq_ok.mp called
  obtain ⟨pathname, _, called⟩ := bind_eq_ok.mp called
  simp only [Except.ok.injEq] at called
  subst called
  exact ⟨rfl, rfl⟩

/-- A system call touches registers, the heap bound, the run flags and the bytes it stores. -/
structure Called (cfg : Config) (s t : Machine) : Prop where
  cpu : ∃ reg heap running stop, t.cpu = { s.cpu with reg, heap, running, stop }
  memory : Puts s.memory (syscallStore cfg s) t.memory

theorem Called.of_hostOnly {cfg : Config} {s : Machine} {result : Word × Machine}
    (hostOnly : HostOnly s result.2) (noStore : syscallStore cfg s = none) :
    Called cfg s (Machine.returnA0 result) where
  cpu := ⟨_, s.cpu.heap, s.cpu.running, s.cpu.stop, by
    simp only [Machine.returnA0, Machine.setReg, hostOnly.1]
    rfl⟩
  memory := by
    rw [noStore]
    simp only [Machine.returnA0, Machine.setReg, hostOnly.2]
    exact .nothing

theorem Called.of_brk {cfg : Config} {s : Machine} (a0 a1 : Word)
    (noStore : syscallStore cfg s = none) : Called cfg s (Machine.returnA0 (doBrk s a0 a1)) := by
  unfold doBrk
  simp only
  split <;> exact ⟨⟨_, _, s.cpu.running, s.cpu.stop, rfl⟩, noStore ▸ .nothing⟩

theorem Called.of_puts {cfg : Config} {s : Machine} {result : Word × Machine}
    {store : Store 32 Byte} (cpu : result.2.cpu = s.cpu)
    (puts : Puts s.memory (some store) result.2.memory) (stores : syscallStore cfg s = some store) :
    Called cfg s (Machine.returnA0 result) where
  cpu := ⟨_, s.cpu.heap, s.cpu.running, s.cpu.stop, by
    simp only [Machine.returnA0, Machine.setReg, cpu]
    rfl⟩
  memory := by
    rw [stores]
    exact puts

theorem syscallStore_other {cfg : Config} {s : Machine} {number : Word}
    (called : s.cpu.reg 17 = number) (notTime : number ≠ sysGettimeofday)
    (notRead : number ≠ sysRead) : syscallStore cfg s = none := by
  unfold syscallStore
  rw [called, if_neg notTime, if_neg notRead]

theorem syscall_called {cfg : Config} {s t : Machine} (called : syscall cfg s = .ok t) :
    Called cfg s t := by
  have other : ∀ {number : Word}, s.cpu.reg 17 = number → number ≠ sysGettimeofday →
      number ≠ sysRead → syscallStore cfg s = none := syscallStore_other
  unfold syscall at called
  simp only at called
  refine of_ite_eq_ok called (fun number called => ?_) fun _ called => ?_
  · simp only [Except.ok.injEq] at called
    subst called
    exact .of_brk _ _ (other number (by decide) (by decide))
  refine of_ite_eq_ok called (fun number called => ?_) fun _ called => ?_
  · obtain ⟨result, answered, rfl⟩ := map_eq_ok.mp called
    refine .of_puts (doGettimeofday_cpu answered) (doGettimeofday_puts answered) ?_
    simp only [syscallStore, number, if_true]
  refine of_ite_eq_ok called (fun number called => ?_) fun _ called => ?_
  · simp only [Except.ok.injEq] at called
    subst called
    refine ⟨⟨_, _, _, _, rfl⟩, ?_⟩
    rw [other number (by decide) (by decide)]
    exact .nothing
  refine of_ite_eq_ok called (fun number called => ?_) fun _ called => ?_
  · obtain ⟨result, answered, rfl⟩ := map_eq_ok.mp called
    refine .of_puts (doRead_cpu answered) (doRead_puts answered) ?_
    rw [syscallStore, number, if_neg (by decide), if_pos rfl]
  refine of_ite_eq_ok called (fun number called => ?_) fun _ called => ?_
  · obtain ⟨result, answered, rfl⟩ := map_eq_ok.mp called
    exact .of_hostOnly (doWrite_hostOnly answered) (other number (by decide) (by decide))
  refine of_ite_eq_ok called (fun number called => ?_) fun _ called => ?_
  · obtain ⟨result, answered, rfl⟩ := map_eq_ok.mp called
    exact .of_hostOnly (doOpen_hostOnly answered) (other number (by decide) (by decide))
  refine of_ite_eq_ok called (fun number called => ?_) fun _ called => ?_
  · simp only [Except.ok.injEq] at called
    subst called
    exact .of_hostOnly (doLseek_hostOnly _ _ _ _ _) (other number (by decide) (by decide))
  refine of_ite_eq_ok called (fun number called => ?_) fun _ called => ?_
  · simp only [Except.ok.injEq] at called
    subst called
    exact .of_hostOnly (doClose_hostOnly _ _ _) (other number (by decide) (by decide))
  refine of_ite_eq_ok called (fun number called => ?_) fun _ called => ?_
  · obtain ⟨result, answered, rfl⟩ := map_eq_ok.mp called
    exact .of_hostOnly (doLink_hostOnly answered) (other number (by decide) (by decide))
  refine of_ite_eq_ok called (fun number called => ?_) fun _ called => ?_
  · obtain ⟨result, answered, rfl⟩ := map_eq_ok.mp called
    exact .of_hostOnly (doUnlink_hostOnly answered) (other number (by decide) (by decide))
  refine of_ite_eq_ok called (fun number called => ?_) fun _ called => ?_
  · simp only [Except.ok.injEq] at called
    subst called
    have quiet : HostOnly s ((0, s) : Word × Machine).2 := ⟨rfl, rfl⟩
    exact .of_hostOnly quiet (other number (by decide) (by decide))
  refine of_ite_eq_ok called (fun number called => ?_) fun _ called => ?_
  · simp only [Except.ok.injEq] at called
    subst called
    exact .of_hostOnly ⟨rfl, rfl⟩ (other number (by decide) (by decide))
  simp at called

@[simp] theorem host_memory (rw : Bool) (addr value : Word) (s : Machine) :
    (host rw addr value s).memory = s.memory := by
  obtain ⟨stop, events, frame⟩ := host_frame rw addr value s
  rw [frame]

@[simp] theorem csrRead_memory (cfg : Config) (s : Machine) (csr : Csr) :
    (csrRead cfg s csr).2.memory = s.memory := by
  cases csr <;> rfl

@[simp] theorem csrWrite_memory (s : Machine) (value : Word) (csr : Csr) :
    (csrWrite s value csr).memory = s.memory := by
  cases csr <;> simp only [csrWrite]

theorem csrInsn_memory (cfg : Config) (type : CsrType) (csr : Word) (rd rs : BitVec 5)
    (imm32 : Word) (s : Machine) : (csrInsn cfg type csr rd rs imm32 s).memory = s.memory := by
  unfold csrInsn
  cases type.reads rd <;> cases type.writes rs <;> simp [Machine.setReg, apply_ite Machine.memory]

theorem storeOf_of_silent {cfg : Config} {vlp : Vliw} (s : Machine)
    (silent : vlp.opcode.silent = true) : storeOf cfg vlp s = none := by
  simp only [VliwOp.silent, Bool.and_eq_true, beq_iff_eq, bne_iff_ne] at silent
  simp [storeOf, silent.1, silent.2]

theorem dispatch_puts {cfg : Config} {vlp : Vliw} {s t : Machine}
    (dispatched : dispatch cfg vlp s = .ok t) :
    Puts s.memory (storeOf cfg vlp s) t.memory := by
  cases dispatch_effect dispatched with
  | compute silent reg pcNext =>
      rw [storeOf_of_silent s silent]
      exact .nothing
  | deviceLoad silent addr =>
      rw [storeOf_of_silent s silent]
      simp only [Machine.setReg, host_memory]
      exact .nothing
  | store width memory opcode written =>
      obtain ⟨takes, puts⟩ := writeWith_inversion written
      simpa only [storeOf, opcode, takes, if_true] using puts
  | deviceStore opcode refused =>
      have nowhere := writeWith_refused refused
      simp only [storeOf, opcode, storeWidthOf, nowhere, Bool.false_eq_true, if_false, host_memory]
      exact .nothing
  | newlib t opcode enabled called =>
      simpa only [storeOf, opcode, storeWidthOf, enabled, and_self, if_true]
        using (syscall_called called).memory
  | trap cause opcode =>
      have noStore : storeOf cfg vlp s = none := by
        rcases opcode with ⟨opcode, disabled⟩ | opcode
        · simp [storeOf, opcode, storeWidthOf, disabled]
        · simp [storeOf, opcode, storeWidthOf]
      rw [noStore]
      exact .nothing
  | mret opcode =>
      simp only [storeOf, opcode, storeWidthOf, reduceCtorEq, false_and, if_false]
      exact .nothing
  | csr silent type imm32 opcode =>
      rw [storeOf_of_silent s silent, csrInsn_memory]
      exact .nothing

theorem execute_puts {cfg : Config} {vlp : Vliw} {s t : Machine}
    (executed : execute cfg vlp s = .ok t) : Puts s.memory (storeOf cfg vlp s) t.memory := by
  obtain ⟨middle, dispatched, same⟩ := map_eq_ok.mp executed
  rw [← same]
  have puts := dispatch_puts dispatched
  exact puts

theorem step_execution {cfg : Config} {sim after : Simulator} {label : StepLabel}
    (stepped : step cfg sim = .ok (label, after)) :
    ∃ polled executed, execute cfg label.executed polled = .ok executed ∧
      label.store = storeOf cfg label.executed polled ∧
      polled.cpu.reg = sim.machine.cpu.reg ∧ polled.memory = sim.machine.memory ∧
      polled.calls = sim.machine.calls ∧ after.machine = executed.advance := by
  obtain ⟨cached, polled, executed, _, _, polling, ran, _, store, rfl⟩ := step_inversion stepped
  obtain ⟨mstatus, mepc, mcause, mip, pcNext, frame⟩ :=
    poll_frame (sim.machine.fallThrough label.pcInc)
  rw [polling] at frame
  simp only at frame
  subst frame
  exact ⟨_, executed, ran, store, rfl, rfl, rfl, rfl⟩

theorem step_puts {cfg : Config} {sim after : Simulator} {label : StepLabel}
    (stepped : step cfg sim = .ok (label, after)) :
    Puts sim.machine.memory label.store after.machine.memory := by
  obtain ⟨polled, executed, ran, store, _, memory, _, advanced⟩ := step_execution stepped
  have puts := execute_puts ran
  rw [← store, memory] at puts
  rw [advanced]
  exact puts

theorem layout_of_runs {cfg : Config} {sim after : Simulator} {moves : List Move}
    (runs : Runs (Moves cfg) sim moves after) :
    sim.machine.memory.SameLayout after.machine.memory := by
  refine runs.invariant (fun state => sim.machine.memory.SameLayout state.machine.memory)
    ?_ (.refl _)
  intro state move next same moved
  cases moved with
  | round stepped => exact same.trans (step_puts stepped).layout
  | enter => exact same
  | leave => exact same

theorem execute_zero {cfg : Config} {vlp : Vliw} {s t : Machine}
    (executed : execute cfg vlp s = .ok t) : t.cpu.reg 0 = 0 := by
  obtain ⟨middle, _, rfl⟩ := map_eq_ok.mp executed
  exact Function.update_self 0 0 middle.cpu.reg

theorem zero_of_runs {cfg : Config} {memory : Memory} {entry dataEnd : Word} {moves : List Move}
    {sim : Simulator} (runs : Runs (Moves cfg) (Simulator.boot memory entry dataEnd) moves sim) :
    sim.machine.cpu.reg 0 = 0 := by
  refine runs.invariant (fun sim => sim.machine.cpu.reg 0 = 0) ?_ rfl
  intro sim move after zero moved
  cases moved with
  | round stepped =>
      obtain ⟨_, _, executed, _, _, _, execution, _, _, rfl⟩ := step_inversion stepped
      have zeroed : executed.cpu.reg 0 = 0 := execute_zero execution
      exact zeroed
  | enter => exact zero
  | leave => exact zero

end RiscVFast
