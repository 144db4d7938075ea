import RiscVFast.SystemCalls

/-! Programs under newlib: what they compute, what they are given and what they put out. -/

namespace RiscVFast

open Rv32i hiding Word
open Fallible StoreLog Transition

structure Hosts (start : Memory) (cfg : Config) (dataEnd : Word) (events : List HostEvent)
    (count : Nat) (process : Process) (sim : Simulator) : Prop where
  mirrors : Mirrors start cfg events count process.hart sim
  heap : sim.machine.cpu.heap = process.heap
  answers : sim.machine.calls = process.answers
  dataEnd : sim.machine.cpu.endOfData = dataEnd

section Rounds

variable {cfg : Config} {start : Memory} {dataEnd : Word} {events : List HostEvent} {count : Nat}
  {process : Process} {sim : Simulator}

theorem Hosts.character (hosts : Hosts start cfg dataEnd events count process sim)
    (placed : start.Placed) (fits : start.insnMem.FitsCache) {rs2 : Reg} {next : Word}
    (stores : PortStore cfg start process.hart rs2 next)
    (plain : process.arg rs2 >>> 16 ≠ cmdPowerOff) :
    ∃ label after, RiscVFast.step cfg sim = .ok (label, after) ∧
      Hosts start cfg dataEnd (.uart ((process.arg rs2).setWidth 8) :: events) (count + 1)
        { process with hart.pc := next } after := by
  have tracks := hosts.mirrors.between.tracks
  have regs : sim.machine.cpu.reg = process.hart.memory.regs := tracks.alike.regs.symm
  simp only [Process.arg] at plain ⊢
  obtain ⟨rs1, imm, port, code⟩ := stores.code tracks placed
  obtain ⟨mip, round⟩ := tracks.round fits hosts.mirrors.idle code
  have executes := @execute_portStore cfg rs1 rs2 imm
    { sim.machine.fallThrough next with cpu.mip := mip } tracks.zero port
    (tracks.unmapped stores.unmapped) stores.served
  rw [if_neg (by rwa [← regs] at plain)] at executes
  obtain ⟨label, cached, stepped, -, fresh⟩ :=
    round _ _ (decodeAlone_store .sw rs1 rs2 imm) executes
  have even := stores.even (tracks.alike.pc ▸ tracks.even)
  refine ⟨label, _, stepped, @Mirrors.heard cfg start process.hart sim events count hosts.mirrors
    [.uart ((process.hart.memory.regs rs2).setWidth 8)] _ _ ?_ rfl rfl rfl rfl ?_,
    hosts.heap, hosts.answers, hosts.dataEnd⟩
  · exact tracks.moved { process.hart with pc := next } rfl rfl rfl regs even tracks.zero
      ⟨fresh.tables, fresh.slots⟩
  · rw [← regs]
    rfl

theorem Hosts.called (hosts : Hosts start cfg dataEnd events count process sim)
    (placed : start.Placed) (fits : start.insnMem.FitsCache) {reply : Reply}
    (replies : Replies cfg start dataEnd process reply) :
    ∃ label after, RiscVFast.step cfg sim = .ok (label, after) ∧
      Hosts start cfg dataEnd (reply.heard.reverse ++ events) (count + 1) (process.resume reply)
        after := by
  have tracks := hosts.mirrors.between.tracks
  obtain ⟨number, calls⟩ := replies.calls
  have code := calls.code tracks placed
  obtain ⟨mip, round⟩ := tracks.round fits hosts.mirrors.idle code
  have on : process.On start dataEnd
      { sim.machine.fallThrough (process.hart.pc + 4) with cpu.mip := mip } :=
    ⟨tracks.alike.regs, tracks.shows, hosts.heap.symm, hosts.answers.symm, hosts.dataEnd.symm⟩
  obtain ⟨written, executes, shows⟩ :=
    execute_replies on placed tracks.zero calls.newlib replies
  obtain ⟨label, cached, stepped, -, fresh⟩ := round _ _ decodeAlone_ecall executes
  have even : process.hart.pc &&& 1 = 0 := tracks.alike.pc ▸ tracks.even
  have result := congrArg (fun regs : Reg → Word => writeReg regs 10 reply.result)
    tracks.alike.regs
  refine ⟨label, _, stepped, hosts.mirrors.heard ?_ rfl rfl rfl rfl rfl, rfl, ?_, hosts.dataEnd⟩
  · exact {
      alike := ⟨rfl, result, fun addr _ => (shows.bytes addr).symm⟩
      even := add_even even rfl
      zero := tracks.zero
      layout := shows.layout
      text := shows.text
      fresh := ⟨fresh.tables, fresh.slots⟩ }
  · exact congrArg (· + reply.used) hosts.answers

end Rounds

end RiscVFast
