import RiscVFast.Computational
import RiscVFast.Rounds

/-! Jumps and branches, from the encoded word to the next round of `run`. -/

namespace RiscVFast

open Rv32i hiding Word
open MaskTable Fallible

/-! The decode. Jumps that link nothing have rows of their own. -/

def branchOpcode : BranchOp → VliwOp
  | .beq => .beq
  | .bne => .bne
  | .blt => .blt
  | .bge => .bge
  | .bltu => .bltu
  | .bgeu => .bgeu

theorem decodeAlone_branch (op : BranchOp) (rs1 rs2 : Reg) (imm : BitVec 12) :
    decodeAlone (bType imm rs2 rs1 op.funct3 0b1100011) =
      .ok (true, ⟨branchOpcode op, 0, rs1, rs2, displacement imm⟩) := by
  have described := rType_described (imm.extractLsb' 11 1 ++ imm.extractLsb' 4 6) rs2 rs1
    op.funct3 (imm.extractLsb' 0 4 ++ imm.extractLsb' 10 1) 0b1100011 []
    (agrees_none _) (agrees_some _) (agrees_none _) nofun
  rw [← bType_eq_rType] at described
  have decoded := decodeAlone_of_search (branchOpcode op) ["rs1", "rs2", "boff"] described
    (by cases op <;> decide) (by cases op <;> decide +kernel)
  rw [decoded]
  simp [decodeItems, decodeItem, Vliw.ofOpcode]

def jPattern : Pattern 32 := ⟨0x0000006f, 0x00000fff⟩

theorem jPattern_refused (rd : Reg) (imm : BitVec 20) (links : rd ≠ 0) :
    jPattern.accepts (jType imm rd 0b1101111) = false := by
  simp only [Pattern.accepts, beq_eq_false_iff_ne, ne_eq]
  intro accepted
  have mask : jPattern.mask = rType 0 0 0 0 (BitVec.allOnes 5) (BitVec.allOnes 7) := by decide
  rw [jType_eq_rType, mask, rType_and, BitVec.and_allOnes] at accepted
  have field := congrArg (fun word : Word => word.extractLsb' 7 5) accepted
  rw [rType_rd] at field
  exact links field

theorem decodeAlone_jal (rd : Reg) (imm : BitVec 20) (links : rd ≠ 0) :
    decodeAlone (jType imm rd 0b1101111) = .ok (true, ⟨.jal, rd, 0, 0, displacement imm⟩) := by
  have refused : ∀ pattern ∈ [jPattern], pattern.accepts (jType imm rd 0b1101111) = false := by
    intro pattern member
    rw [List.mem_singleton.mp member]
    exact jPattern_refused rd imm links
  rw [jType_eq_rType] at refused
  have described := rType_described _ _ _ _ rd 0b1101111 _
    (agrees_none _) (agrees_none _) (agrees_none _) refused
  rw [← jType_eq_rType] at described
  have decoded := decodeAlone_of_search .jal ["rd", "joff"] described (by decide)
    (by decide +kernel)
  have offset := joffImm_jType rd 0b1101111 imm
  rw [decoded]
  simp only [decodeItems, decodeItem, offset]
  simp [Vliw.ofOpcode]

theorem decodeAlone_j (imm : BitVec 20) :
    decodeAlone (jType imm 0 0b1101111) = .ok (true, ⟨.j, 0, 0, 0, displacement imm⟩) := by
  have described := rType_described (imm.extractLsb' 19 1 ++ imm.extractLsb' 4 6)
    (imm.extractLsb' 0 4 ++ imm.extractLsb' 10 1) (imm.extractLsb' 14 5) (imm.extractLsb' 11 3)
    0 0b1101111 [] (agrees_none _) (agrees_none _) (agrees_some _) nofun
  rw [← jType_eq_rType] at described
  have decoded := decodeAlone_of_search .j ["joff"] described (by decide) (by decide +kernel)
  have offset := joffImm_jType 0 0b1101111 imm
  rw [decoded]
  simp only [decodeItems, decodeItem, offset]
  simp [Vliw.ofOpcode]

def jrPattern : Pattern 32 := ⟨0x00000067, 0xfff07fff⟩

theorem jrPattern_accepts {rd rs1 : Reg} {imm : BitVec 12}
    (accepted : jrPattern.accepts (iType imm rs1 0b000 rd 0b1100111) = true) :
    rd = 0 ∧ imm = 0 := by
  have mask : jrPattern.mask = rType (BitVec.allOnes 7) (BitVec.allOnes 5) 0 (BitVec.allOnes 3)
      (BitVec.allOnes 5) (BitVec.allOnes 7) := by decide
  simp only [Pattern.accepts, beq_iff_eq, iType_eq_rType, mask, rType_and, BitVec.and_allOnes]
    at accepted
  have target := congrArg (fun word : Word => word.extractLsb' 7 5) accepted
  have low := congrArg (fun word : Word => word.extractLsb' 20 5) accepted
  have high := congrArg (fun word : Word => word.extractLsb' 25 7) accepted
  simp only [rType_rd, rType_rs2, rType_funct7] at target low high
  have pieces : imm = imm.extractLsb' 5 7 ++ imm.extractLsb' 0 5 := by
    apply BitVec.eq_of_getLsbD_eq
    intro index inside
    simp only [BitVec.getLsbD_append, BitVec.getLsbD_extractLsb']
    interval_cases index <;> simp
  rw [pieces, high, low]
  exact ⟨target, rfl⟩

theorem decodeAlone_jr (rs1 : Reg) :
    decodeAlone (iType 0 rs1 0b000 0 0b1100111) = .ok (true, ⟨.jr, 0, rs1, 0, 0⟩) := by
  have bits : iType 0 rs1 0b000 0 0b1100111 &&& jrPattern.mask = jrPattern.value := by
    have mask : jrPattern.mask = rType (BitVec.allOnes 7) (BitVec.allOnes 5) 0 (BitVec.allOnes 3)
        (BitVec.allOnes 5) (BitVec.allOnes 7) := by decide
    have unknown : rs1 &&& 0 = 0 := BitVec.and_zero
    rw [iType_eq_rType, mask, rType_and, unknown]
    decide
  have decoded := decodeAlone_of_search .jr ["rs1"]
    (Knowledge.Describes.mk bits nofun : (Knowledge.mk jrPattern.mask _ []).Describes _)
    (by decide) (by decide +kernel)
  rw [decoded]
  simp [decodeItems, decodeItem, Vliw.ofOpcode]

theorem decodeAlone_jalr (rd rs1 : Reg) (imm : BitVec 12) (general : ¬ (rd = 0 ∧ imm = 0)) :
    decodeAlone (iType imm rs1 0b000 rd 0b1100111) =
      .ok (true, ⟨.jalr, rd, rs1, 0, imm.signExtend 32⟩) := by
  have refused : ∀ pattern ∈ [jrPattern],
      pattern.accepts (iType imm rs1 0b000 rd 0b1100111) = false := by
    intro pattern member
    rw [List.mem_singleton.mp member]
    by_contra accepted
    exact general (jrPattern_accepts (by simpa using accepted))
  rw [iType_eq_rType] at refused
  have described := rType_described _ _ rs1 0b000 rd 0b1100111 _
    (agrees_none _) (agrees_some _) (agrees_none _) refused
  rw [← iType_eq_rType] at described
  have decoded := decodeAlone_of_search .jalr ["rd", "rs1", "simm12"] described (by decide)
    (by decide +kernel)
  rw [decoded]
  simp [decodeItems, decodeItem, Vliw.ofOpcode]

/-- Where the source jumps to: bit 0 of a register jump stays. -/
def jumpTarget (pc next : Word) (regs : Regs) : Control → Word
  | .jalr rd rs1 imm => Control.jumpSum regs (.jalr rd rs1 imm)
  | instr => instr.target pc next regs

theorem dispatch_branch (cfg : Config) (op : BranchOp) (rd rs1 rs2 : Reg) (imm : Word)
    (s : Machine) :
    dispatch cfg ⟨branchOpcode op, rd, rs1, rs2, imm⟩ s =
      .ok (if op.taken (s.cpu.reg rs1) (s.cpu.reg rs2) then s.setPcNext (s.cpu.pc + imm)
        else s) := by
  cases op <;> rfl

theorem control_executes (cfg : Config) (instr : Control) (s : Machine) (zero : s.cpu.reg 0 = 0) :
    ∃ vlp, decodeAlone instr.encode = .ok (true, vlp) ∧
      execute cfg vlp s = .ok { s with
        cpu.reg := instr.eval s.cpu.pcNext s.cpu.reg
        cpu.pcNext := jumpTarget s.cpu.pc s.cpu.pcNext s.cpu.reg instr } := by
  cases instr with
  | jal rd imm =>
      by_cases links : rd = 0
      · subst links
        refine ⟨_, decodeAlone_j imm, ?_⟩
        have cleared := clear_unchanged (s.setPcNext (s.cpu.pc + displacement imm)) zero
        simp only [execute, dispatch, map_ok, cleared]
        rfl
      · refine ⟨_, decodeAlone_jal rd imm links, ?_⟩
        have cleared := clear_setReg (s.setPcNext (s.cpu.pc + displacement imm)) zero rd s.cpu.pcNext
        simp only [execute, dispatch, map_ok]
        exact congrArg Except.ok cleared
  | jalr rd rs1 imm =>
      by_cases general : rd = 0 ∧ imm = 0
      · obtain ⟨rfl, rfl⟩ := general
        refine ⟨_, decodeAlone_jr rs1, ?_⟩
        have cleared := clear_unchanged (s.setPcNext (s.cpu.reg rs1)) zero
        have sum : s.cpu.reg rs1 + (0 : BitVec 12).signExtend 32 = s.cpu.reg rs1 := by simp
        simp only [execute, dispatch, map_ok, cleared, jumpTarget, Control.jumpSum, sum]
        rfl
      · refine ⟨_, decodeAlone_jalr rd rs1 imm general, ?_⟩
        have cleared := clear_setReg (s.setPcNext (s.cpu.reg rs1 + imm.signExtend 32)) zero rd
          s.cpu.pcNext
        simp only [execute, dispatch, map_ok]
        exact congrArg Except.ok cleared
  | branch op rs1 rs2 imm =>
      refine ⟨_, decodeAlone_branch op rs1 rs2 imm, ?_⟩
      simp only [execute, dispatch_branch, map_ok, jumpTarget, Control.target, Control.eval]
      split
      · have cleared := clear_unchanged (s.setPcNext (s.cpu.pc + displacement imm)) zero
        rw [cleared]
        rfl
      · rw [clear_unchanged s zero]

theorem clearBit0_iff (word : Word) : word &&& ~~~1 = word ↔ word &&& 1 = 0 := by
  constructor
  · intro even
    have disjoint : ~~~(1 : Word) &&& 1 = 0 := by decide
    rw [← even, BitVec.and_assoc, disjoint]
    exact BitVec.and_zero
  · intro even
    have everyBit : ~~~(1 : Word) ||| 1 = BitVec.allOnes 32 := by decide
    calc word &&& ~~~1 = word &&& ~~~1 ||| word &&& 1 := by
          rw [even]
          exact BitVec.or_zero.symm
      _ = word &&& (~~~1 ||| 1) := BitVec.and_or_distrib_left.symm
      _ = word := by rw [everyBit, BitVec.and_allOnes]

theorem jumpTarget_eq_iff (instr : Control) (pc next : Word) (regs : Regs) :
    jumpTarget pc next regs instr = instr.target pc next regs ↔ instr.jumpSum regs &&& 1 = 0 := by
  cases instr with
  | jal rd imm => simp [jumpTarget, Control.jumpSum]
  | branch op rs1 rs2 imm => simp [jumpTarget, Control.jumpSum]
  | jalr rd rs1 imm =>
      simp only [jumpTarget, Control.target]
      rw [eq_comm]
      exact clearBit0_iff _

def controlResult (instr : Control) (target pcInc : Word) (s : Machine) : Machine :=
  { s with
    cpu.reg := instr.eval pcInc s.cpu.reg
    cpu.pc := target
    cpu.pcInc := pcInc
    cpu.pcNext := target
    cpu.cycle := s.cpu.cycle + 1
    cpu.mip := if s.cpu.cycle &&& 0xfffff = 0xfffff then s.cpu.mip ||| riscvMipMtip
      else s.cpu.mip }

theorem control_steps (cfg : Config) (instr : Control) (sim : Simulator) (pcInc : Word)
    (fetched : fetchCode sim.machine = .ok (instr.encode, pcInc))
    (coherent : sim.Coherent instr.encode) (zero : sim.machine.cpu.reg 0 = 0)
    (uninterrupted : ¬ (sim.machine.pollPoint ∧ sim.machine.interruptsEnabled ∧
      (sim.machine.externalPending ∨ sim.machine.timerPending))) :
    ∃ label after, step cfg sim = .ok (label, after) ∧
      after.machine = controlResult instr
        (jumpTarget sim.machine.cpu.pc pcInc sim.machine.cpu.reg instr) pcInc sim.machine := by
  have quiet := @poll_quiet (sim.machine.fallThrough pcInc) uninterrupted
  have polledZero : (sim.machine.fallThrough pcInc).fakeTimer.cpu.reg 0 = 0 := by
    rw [fakeTimer_eq]
    exact zero
  obtain ⟨vlp, decodes, executes⟩ := control_executes cfg instr _ polledZero
  obtain ⟨cached, looked⟩ := cacheLookup_coherent coherent (decodeWord_of_alone decodes)
  refine ⟨_, _, step_of_parts fetched looked quiet executes, ?_⟩
  simp only [fakeTimer_eq]
  rfl

/-- A jump or branch does what the architecture says exactly when a register jump has an
even sum. -/
theorem controlTransfer_conforms_iff (cfg : Config) (instr : Control) (sim : Simulator)
    (pcInc : Word) (fetched : fetchCode sim.machine = .ok (instr.encode, pcInc))
    (coherent : sim.Coherent instr.encode) (zero : sim.machine.cpu.reg 0 = 0)
    (uninterrupted : ¬ (sim.machine.pollPoint ∧ sim.machine.interruptsEnabled ∧
      (sim.machine.externalPending ∨ sim.machine.timerPending))) :
    (∃ label after, step cfg sim = .ok (label, after) ∧
      after.machine = controlResult instr
        (instr.target sim.machine.cpu.pc pcInc sim.machine.cpu.reg) pcInc sim.machine) ↔
      instr.jumpSum sim.machine.cpu.reg &&& 1 = 0 := by
  obtain ⟨label, after, stepped, result⟩ :=
    control_steps cfg instr sim pcInc fetched coherent zero uninterrupted
  rw [← jumpTarget_eq_iff instr sim.machine.cpu.pc pcInc]
  constructor
  · rintro ⟨label', after', stepped', architectural⟩
    rw [stepped] at stepped'
    simp only [Except.ok.injEq, Prod.mk.injEq] at stepped'
    rw [← stepped'.2, result] at architectural
    exact congrArg (fun s : Machine => s.cpu.pc) architectural
  · intro agree
    exact ⟨label, after, stepped, by rw [result, agree]⟩

theorem controlTransfer_conforms_iff_beq :
    let sim := Simulator.boot (smallMemory 0x20000000 [0x00000463]) 0 0
    ∃ label after, step (Config.standard Host.silent) sim = .ok (label, after) ∧
      after.machine = controlResult (.branch .beq 0 0 4) 8 4 sim.machine := by
  refine (controlTransfer_conforms_iff (Config.standard Host.silent) (.branch .beq 0 0 4)
    (Simulator.boot (smallMemory 0x20000000 [0x00000463]) 0 0) 4 (by decide) ?_ rfl ?_).mpr rfl
  · exact ⟨DecodeTables.empty_sound, .inl rfl⟩
  · decide

/-- `jalr ra,1(x0)` goes to address 1 where the architecture goes to address 0. -/
theorem controlTransfer_odd_target :
    ¬ ∀ (cfg : Config) (instr : Control) (sim : Simulator) (pcInc : Word),
      fetchCode sim.machine = .ok (instr.encode, pcInc) → sim.Coherent instr.encode →
      sim.machine.cpu.reg 0 = 0 →
      ¬ (sim.machine.pollPoint ∧ sim.machine.interruptsEnabled ∧
        (sim.machine.externalPending ∨ sim.machine.timerPending)) →
      ∃ label after, step cfg sim = .ok (label, after) ∧
        after.machine = controlResult instr
          (instr.target sim.machine.cpu.pc pcInc sim.machine.cpu.reg) pcInc sim.machine := by
  intro claim
  obtain ⟨label, after, stepped, result⟩ := claim (Config.standard Host.silent) (.jalr 1 0 1)
    (Simulator.boot (smallMemory 0x20000000 [0x001000e7]) 0 0) 4 (by decide)
    ⟨DecodeTables.empty_sound, .inl rfl⟩ rfl (by decide)
  have computed : (step (Config.standard Host.silent)
      (Simulator.boot (smallMemory 0x20000000 [0x001000e7]) 0 0)).map
        (fun outcome => outcome.2.machine.cpu.pc) = .ok 1 := by decide
  rw [stepped, map_ok, result] at computed
  revert computed
  decide

end RiscVFast
