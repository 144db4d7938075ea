import RiscVFast.Architecture
import RiscVFast.Heap
import RiscVFast.Tracing

/-! What a program does at the host's port, and its end. -/

namespace RiscVFast

open Rv32i hiding Word
open Fallible StoreLog Transition

structure PortStore (cfg : Config) (start : Memory) (hart : Hart) (rs2 : Reg) (next : Word) :
    Prop where
  executable : (start.platform cfg).executable hart.pc
  fetched : ∃ rs1 imm, hart.memory.regs rs1 + imm.signExtend 32 = 0xfffffffc ∧
    (start.platform cfg).Fetches hart (.memory (.store .sw rs1 rs2 imm)) next
  unmapped : start.readSegment 0xfffffffc = none
  served : ishost cfg 0xfffffffc = true

structure Calls (cfg : Config) (start : Memory) (hart : Hart) (number : Word) : Prop where
  executable : (start.platform cfg).executable hart.pc
  fetched : (start.platform cfg).word hart = 0x00000073
  newlib : cfg.doNewlib = true
  number : hart.memory.regs 17 = number

/-- The hart powers the machine off, or calls `exit`. -/
inductive Ends (cfg : Config) (start : Memory) (hart : Hart) : Prop
  | powerOff {rs2 : Reg} {next : Word} (stores : PortStore cfg start hart rs2 next)
      (command : hart.memory.regs rs2 >>> 16 = cmdPowerOff) : Ends cfg start hart
  | exit (calls : Calls cfg start hart sysExit) : Ends cfg start hart

theorem PortStore.even {cfg : Config} {start : Memory} {hart : Hart} {rs2 : Reg} {next : Word}
    (stores : PortStore cfg start hart rs2 next) (even : hart.pc &&& 1 = 0) : next &&& 1 = 0 := by
  obtain ⟨_, _, _, fetched⟩ := stores.fetched
  exact fetched.even even

section Rounds

variable {cfg : Config} {start : Memory} {hart : Hart} {sim : Simulator}

theorem Tracks.shows (tracks : Tracks start cfg (fun _ => True) sim hart) :
    start.Shows hart.memory.stores sim.machine.memory :=
  ⟨tracks.layout, tracks.text, fun addr => (tracks.alike.bytes addr trivial).symm⟩

theorem decodeAlone_ecall : decodeAlone 0x00000073 = .ok (true, ⟨.ecall, 0, 0, 0, 0⟩) := by
  decide +kernel

theorem PortStore.code {rs2 : Reg} {next : Word} (stores : PortStore cfg start hart rs2 next)
    (tracks : Tracks start cfg (fun _ => True) sim hart) (placed : start.Placed) :
    ∃ rs1 imm, sim.machine.cpu.reg rs1 + imm.signExtend 32 = 0xfffffffc ∧
      start.insnMem.code sim.machine.cpu.pc =
        .ok ((Rv32i.Instr.memory (.store .sw rs1 rs2 imm)).encode, next) := by
  obtain ⟨rs1, imm, port, fetched⟩ := stores.fetched
  have code := code_of_fetches placed tracks.shows stores.executable fetched
  have pc : sim.machine.cpu.pc = hart.pc := tracks.alike.pc.symm
  have regs : sim.machine.cpu.reg = hart.memory.regs := tracks.alike.regs.symm
  exact ⟨rs1, imm, by rw [regs, port], by rw [pc, code]⟩

theorem Calls.code {number : Word} (calls : Calls cfg start hart number)
    (tracks : Tracks start cfg (fun _ => True) sim hart) (placed : start.Placed) :
    start.insnMem.code sim.machine.cpu.pc = .ok (0x00000073, hart.pc + 4) := by
  have pc : sim.machine.cpu.pc = hart.pc := tracks.alike.pc.symm
  have found : word ((start.platform cfg).byte hart) 0 = 0x00000073 := calls.fetched
  rw [pc, Segment.code, fetch32_of_shows placed tracks.shows calls.executable, found, ok_bind]
  rfl

theorem writeWith_unmapped {memory : Memory} {addr : Word} (cfg : Config)
    (unmapped : memory.readSegment addr = none) (write : Segment → Except Abort Segment) :
    memory.writeWith cfg addr write = none := by
  unfold Memory.readSegment at unmapped
  split at unmapped
  · cases unmapped
  · rename_i notData
    split at unmapped
    · cases unmapped
    · rename_i notText
      simp [Memory.writeWith, notData, notText]

theorem execute_portStore {rs1 rs2 : Reg} {imm : BitVec 12} {s : Machine}
    (zero : s.cpu.reg 0 = 0)
    (port : s.cpu.reg rs1 + imm.signExtend 32 = 0xfffffffc)
    (unmapped : s.memory.readSegment 0xfffffffc = none) (served : ishost cfg 0xfffffffc = true) :
    execute cfg ⟨storeOpcode .sw, 0, rs1, rs2, imm.signExtend 32⟩ s =
      .ok (if s.cpu.reg rs2 >>> 16 = cmdPowerOff then { s with cpu.stop := true }
        else s.emit (.uart ((s.cpu.reg rs2).setWidth 8))) := by
  have refused := writeWith_unmapped cfg unmapped (·.write32 0xfffffffc (s.cpu.reg rs2))
  have dispatched : dispatch cfg ⟨storeOpcode .sw, 0, rs1, rs2, imm.signExtend 32⟩ s =
      .ok (host true 0xfffffffc (s.cpu.reg rs2) s) := by
    simp only [storeOpcode, dispatch, port, write32, refused, served, if_true]
  rw [execute, dispatched, map_ok, host, if_pos rfl]
  split
  · exact congrArg Except.ok (clear_unchanged { s with cpu.stop := true } zero)
  · exact congrArg Except.ok (clear_unchanged (s.emit (.uart ((s.cpu.reg rs2).setWidth 8))) zero)

theorem execute_exit {s : Machine} (newlib : cfg.doNewlib = true) (zero : s.cpu.reg 0 = 0)
    (number : s.cpu.reg 17 = sysExit) :
    execute cfg ⟨.ecall, 0, 0, 0, 0⟩ s =
      .ok { s with cpu.running := false, cpu.stop := true } := by
  have dispatched : dispatch cfg ⟨.ecall, 0, 0, 0, 0⟩ s =
      .ok { s with cpu.running := false, cpu.stop := true } := by
    rw [dispatch_syscall rfl newlib, syscall, number]
    rfl
  rw [execute, dispatched, map_ok]
  exact congrArg Except.ok
    (clear_unchanged { s with cpu.running := false, cpu.stop := true } zero)

theorem Tracks.unmapped {visible : Word → Prop} (tracks : Tracks start cfg visible sim hart)
    {addr : Word} (unmapped : start.readSegment addr = none) :
    sim.machine.memory.readSegment addr = none := by
  rcases readSegment_layout tracks.layout addr with ⟨_, now⟩ | ⟨seg, _, before, _, _⟩
  · exact now
  · rw [unmapped] at before
    cases before

theorem Mirrors.heard {events : List HostEvent} {count : Nat}
    (mirrors : Mirrors start cfg events count hart sim) {heard : List HostEvent} {next : Hart}
    {after : Simulator}
    (tracks : Tracks start cfg (fun _ => True) after next)
    (cycle : after.machine.cpu.cycle = sim.machine.cpu.cycle + 1)
    (mstatus : after.machine.cpu.mstatus = sim.machine.cpu.mstatus)
    (running : after.machine.cpu.running = sim.machine.cpu.running)
    (stop : after.machine.cpu.stop = sim.machine.cpu.stop)
    (added : after.machine.events = heard.reverse ++ sim.machine.events) :
    Mirrors start cfg (heard.reverse ++ events) (count + 1) next after where
  between :=
    { tracks
      cycle := by
        rw [cycle, mirrors.between.cycle]
        exact (BitVec.ofNat_add count 1).symm
      running := running.trans mirrors.between.running
      goesOn := stop.trans mirrors.between.goesOn }
  masked := mstatus.trans mirrors.masked
  events := by rw [added, mirrors.events]

theorem Mirrors.ends {events : List HostEvent} {count : Nat}
    (mirrors : Mirrors start cfg events count hart sim) (placed : start.Placed)
    (fits : start.insnMem.FitsCache) (ends : Ends cfg start hart) :
    ∃ label after, RiscVFast.step cfg sim = .ok (label, after) ∧
      after.machine.cpu.stop = true ∧ after.machine.events = events ∧
      after.machine.cpu.heap = sim.machine.cpu.heap ∧ after.machine.calls = sim.machine.calls ∧
      after.machine.cpu.reg = hart.memory.regs ∧
      ∀ addr, after.machine.memory.byteAt addr = latest start.byteAt hart.memory.stores addr := by
  have tracks := mirrors.between.tracks
  have regs : sim.machine.cpu.reg = hart.memory.regs := tracks.alike.regs.symm
  have bytes (addr : Word) : sim.machine.memory.byteAt addr =
      latest start.byteAt hart.memory.stores addr := (tracks.alike.bytes addr trivial).symm
  cases ends with
  | @powerOff rs2 next stores command =>
      obtain ⟨rs1, imm, port, code⟩ := stores.code tracks placed
      obtain ⟨mip, round⟩ := tracks.round fits mirrors.idle code
      have executes := @execute_portStore cfg rs1 rs2 imm
        { sim.machine.fallThrough next with cpu.mip := mip } tracks.zero port
        (tracks.unmapped stores.unmapped) stores.served
      rw [if_pos (by rwa [← regs] at command)] at executes
      obtain ⟨label, cached, stepped, -⟩ := round _ _ (decodeAlone_store .sw rs1 rs2 imm) executes
      exact ⟨label, _, stepped, rfl, mirrors.events, rfl, rfl, regs, bytes⟩
  | exit calls =>
      have code := calls.code tracks placed
      obtain ⟨mip, round⟩ := tracks.round fits mirrors.idle code
      have number := calls.number
      rw [← regs] at number
      have executes := @execute_exit cfg
        { sim.machine.fallThrough (hart.pc + 4) with cpu.mip := mip } calls.newlib tracks.zero
        number
      obtain ⟨label, cached, stepped, -⟩ := round _ _ decodeAlone_ecall executes
      exact ⟨label, _, stepped, rfl, mirrors.events, rfl, rfl, regs, bytes⟩

end Rounds

end RiscVFast
