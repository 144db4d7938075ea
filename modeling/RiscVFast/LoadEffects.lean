import RiscVFast.Bounds

/-! What a load changes besides its register. -/

namespace RiscVFast

open Fallible Transition

def uartOutput (events : List HostEvent) : List Byte :=
  events.filterMap fun
    | .uart c => some c
    | _ => none

structure LoadFrame (rd : BitVec 5) (s t : Machine) : Prop where
  memory : t.memory = s.memory
  cpu : t.cpu = { s.cpu with reg := t.cpu.reg }
  reg : ∀ r, r ≠ rd ∨ r = 0 → t.cpu.reg r = s.cpu.reg r
  uart : uartOutput t.events = uartOutput s.events

def ReadsUart (vlp : Vliw) (s : Machine) : Prop :=
  vlp.opcode = .lw ∧ vlp.address s = 0xfffffffc ∧ s.memory.readSegment 0xfffffffc = none

/-- The state that a load takes its value from: a word load that no segment serves has gone to
the host. -/
def loadedFrom (vlp : Vliw) (s : Machine) : Machine :=
  if vlp.opcode = .lw ∧ s.memory.readSegment (vlp.address s) = none then
    host false (vlp.address s) 0 s
  else s

theorem host_read_cpu (addr : Word) (s : Machine) : (host false addr 0 s).cpu = s.cpu := by
  unfold host
  split
  · rfl
  · split <;> rfl

theorem host_read_memory (addr : Word) (s : Machine) :
    (host false addr 0 s).memory = s.memory := by
  unfold host
  split
  · rfl
  · split <;> rfl

theorem host_read_uart (addr : Word) (s : Machine) :
    uartOutput (host false addr 0 s).events =
      if addr = 0xfffffffc then 0 :: uartOutput s.events else uartOutput s.events := by
  unfold host
  split
  · rfl
  · split <;> rfl

theorem loadedFrom_cpu (vlp : Vliw) (s : Machine) : (loadedFrom vlp s).cpu = s.cpu := by
  unfold loadedFrom
  split
  · exact host_read_cpu _ s
  · rfl

theorem loadedFrom_memory (vlp : Vliw) (s : Machine) : (loadedFrom vlp s).memory = s.memory := by
  unfold loadedFrom
  split
  · exact host_read_memory _ s
  · rfl

theorem loadedFrom_uart (vlp : Vliw) (s : Machine) :
    uartOutput (loadedFrom vlp s).events = uartOutput s.events ↔ ¬ ReadsUart vlp s := by
  unfold loadedFrom ReadsUart
  split
  · rename_i unserved
    rw [host_read_uart]
    split
    · rename_i isPort
      rw [isPort] at unserved
      exact iff_of_false (List.cons_ne_self _ _)
        (not_not_intro ⟨unserved.1, isPort, unserved.2⟩)
    · rename_i notPort
      exact iff_of_true rfl fun reads => notPort reads.2.1
  · rename_i served
    refine iff_of_true rfl ?_
    rintro ⟨isWord, isPort, unserved⟩
    rw [isPort] at served
    exact served ⟨isWord, unserved⟩

theorem narrow_loaded {vlp : Vliw} {s t : Machine} {read : Word → Except Abort Word}
    (narrow : vlp.opcode ≠ .lw) (loaded : (do
      checkAddr s (vlp.address s)
      .ok (s.setReg vlp.rd (← read (vlp.address s))) : Except Abort Machine) = .ok t) :
    ∃ value, t = (loadedFrom vlp s).setReg vlp.rd value := by
  obtain ⟨_, _, loaded⟩ := bind_eq_ok.mp loaded
  obtain ⟨value, _, loaded⟩ := bind_eq_ok.mp loaded
  rw [loadedFrom, if_neg fun wide => narrow wide.1]
  exact ⟨value, (Except.ok.inj loaded).symm⟩

theorem word_loaded {cfg : Config} {vlp : Vliw} {s t : Machine} (wide : vlp.opcode = .lw)
    (loaded : (do
      checkAddr s (vlp.address s)
      let (value, s) ← read32 cfg s (vlp.address s)
      .ok (s.setReg vlp.rd value) : Except Abort Machine) = .ok t) :
    ∃ value, t = (loadedFrom vlp s).setReg vlp.rd value := by
  obtain ⟨_, _, loaded⟩ := bind_eq_ok.mp loaded
  obtain ⟨⟨value, after⟩, read, loaded⟩ := bind_eq_ok.mp loaded
  refine ⟨value, ?_⟩
  rw [← Except.ok.inj loaded]
  unfold read32 at read
  split at read
  · rename_i seg served
    obtain ⟨_, _, equal⟩ := map_eq_ok.mp read
    rw [loadedFrom, if_neg (by simp [served]), (Prod.mk.inj equal).2]
  · rename_i unserved
    split at read
    · rw [loadedFrom, if_pos ⟨wide, unserved⟩, (Prod.mk.inj (Except.ok.inj read)).2]
    · cases read

theorem dispatch_loaded {cfg : Config} {vlp : Vliw} {s t : Machine} {width : Nat}
    (loads : loadWidthOf vlp.opcode = some width) (dispatched : dispatch cfg vlp s = .ok t) :
    ∃ value, t = (loadedFrom vlp s).setReg vlp.rd value := by
  obtain ⟨opcode, rd, rs1, rs2, imm⟩ := vlp
  cases opcode with
  | lw => exact word_loaded rfl dispatched
  | lh => exact narrow_loaded (by simp) dispatched
  | lhu => exact narrow_loaded (by simp) dispatched
  | lb => exact narrow_loaded (by simp) dispatched
  | lbu => exact narrow_loaded (by simp) dispatched
  | _ => cases loads

theorem execute_loaded {cfg : Config} {vlp : Vliw} {s t : Machine} {width : Nat}
    (loads : loadWidthOf vlp.opcode = some width) (executed : execute cfg vlp s = .ok t) :
    ∃ value, t = ((loadedFrom vlp s).setReg vlp.rd value).setReg 0 0 := by
  obtain ⟨middle, dispatched, equal⟩ := map_eq_ok.mp executed
  obtain ⟨value, rfl⟩ := dispatch_loaded loads dispatched
  exact ⟨value, equal.symm⟩

theorem loadFrame_iff {cfg : Config} {vlp : Vliw} {s t : Machine} {width : Nat}
    (zero : s.cpu.reg 0 = 0) (loads : loadWidthOf vlp.opcode = some width)
    (executed : execute cfg vlp s = .ok t) : LoadFrame vlp.rd s t ↔ ¬ ReadsUart vlp s := by
  obtain ⟨value, rfl⟩ := execute_loaded loads executed
  rw [← loadedFrom_uart]
  constructor
  · exact fun frame => frame.uart
  · intro uart
    have cpu := loadedFrom_cpu vlp s
    refine ⟨loadedFrom_memory vlp s, ?_, ?_, uart⟩
    · simp only [Machine.setReg, cpu]
    · intro r other
      simp only [Machine.setReg, cpu, Function.update_apply]
      split
      · rename_i isZero
        rw [isZero, zero]
      · rename_i notZero
        rw [if_neg (other.resolve_right notZero)]

theorem poll_quiet_frame {s polled : Machine} (quiet : poll s = (false, false, polled)) :
    polled.cpu.reg = s.cpu.reg ∧ polled.cpu.pcNext = s.cpu.pcNext := by
  rcases poll_cases s with calm | ⟨_, _, _, external⟩ | ⟨_, _, _, _, timer⟩
  · rw [quiet, fakeTimer_eq] at calm
    rw [(Prod.mk.inj (Prod.mk.inj calm).2).2]
    exact ⟨rfl, rfl⟩
  · rw [quiet] at external
    cases (Prod.mk.inj external).1
  · rw [quiet] at timer
    cases (Prod.mk.inj (Prod.mk.inj timer).2).1

/-- In every state in which the loop of `run` gets to execute a load. -/
theorem load_frame_iff (cfg : Config) (memory : Memory) (entry dataEnd : Word) (moves : List Move)
    (sim : Simulator) (pcInc : Word) (polled t : Machine) (vlp : Vliw) (width : Nat)
    (runs : Runs (Moves cfg) (Simulator.boot memory entry dataEnd) moves sim)
    (quiet : poll (sim.machine.fallThrough pcInc) = (false, false, polled))
    (loads : loadWidthOf vlp.opcode = some width) (executed : execute cfg vlp polled = .ok t) :
    (LoadFrame vlp.rd polled t ∧ t.cpu.pcNext = pcInc) ↔ ¬ ReadsUart vlp polled := by
  obtain ⟨reg, pcNext⟩ := poll_quiet_frame quiet
  have zero : polled.cpu.reg 0 = 0 := by
    rw [reg]
    exact zero_of_runs runs
  rw [← loadFrame_iff zero loads executed]
  refine and_iff_left_of_imp fun frame => ?_
  rw [frame.cpu, ← show polled.cpu.pcNext = pcInc from pcNext]

theorem poll_start {s : Machine} (start : s.cpu.cycle = 0) : poll s = (false, false, s) := by
  have idle : ¬ s.cpu.cycle &&& 0xf = 0xf := by
    rw [start]
    decide
  rw [poll, if_neg idle]

theorem load_frame_iff_reset :
    let sim := Simulator.boot (smallMemory 0x20000000 []) 0 0
    let polled := sim.machine.fallThrough 4
    ∃ t, execute (Config.standard Host.silent) ⟨.lw, 6, 2, 0, 0⟩ polled = .ok t ∧
      (LoadFrame 6 polled t ∧ t.cpu.pcNext = 4) := by
  intro sim polled
  have succeeds : (execute (Config.standard Host.silent) ⟨.lw, 6, 2, 0, 0⟩ polled).isOk = true := by
    decide +kernel
  cases executed : execute (Config.standard Host.silent) ⟨.lw, 6, 2, 0, 0⟩ polled with
  | error abort =>
      rw [executed] at succeeds
      cases succeeds
  | ok t =>
      refine ⟨t, rfl, ?_⟩
      rw [load_frame_iff (Config.standard Host.silent) _ 0 0 [] sim 4 polled t ⟨.lw, 6, 2, 0, 0⟩ 4
        (.nil sim) (poll_start rfl) rfl executed]
      rintro ⟨_, isPort, _⟩
      revert isPort
      decide +kernel

/-- `lw x6,-4(x0)` in the first round puts a character out. -/
theorem load_puts_character : ¬ ∀ (cfg : Config) (memory : Memory) (entry dataEnd : Word)
    (moves : List Move) (sim : Simulator) (pcInc : Word) (polled t : Machine) (vlp : Vliw)
    (width : Nat), Runs (Moves cfg) (Simulator.boot memory entry dataEnd) moves sim →
    poll (sim.machine.fallThrough pcInc) = (false, false, polled) →
    loadWidthOf vlp.opcode = some width → execute cfg vlp polled = .ok t →
      LoadFrame vlp.rd polled t ∧ t.cpu.pcNext = pcInc := by
  intro claimed
  let sim := Simulator.boot (smallMemory 0x20000000 []) 0 0
  let polled := sim.machine.fallThrough 4
  have printed : (execute (Config.standard Host.silent) ⟨.lw, 6, 0, 0, 0xfffffffc⟩
      polled).toOption.map (fun t => uartOutput t.events) = some [0] := by decide +kernel
  cases executed : execute (Config.standard Host.silent) ⟨.lw, 6, 0, 0, 0xfffffffc⟩ polled with
  | error abort =>
      rw [executed] at printed
      cases printed
  | ok t =>
      obtain ⟨frame, _⟩ := claimed (Config.standard Host.silent) _ 0 0 [] sim 4 polled t
        ⟨.lw, 6, 0, 0, 0xfffffffc⟩ 4 (.nil sim) (poll_start rfl) rfl executed
      rw [executed] at printed
      have silent : uartOutput t.events = [] := frame.uart
      rw [Except.toOption, Option.map_some, silent] at printed
      cases printed

end RiscVFast
