import RiscVFast.Decompressors

/-! Comparing what the two decompressors give for one code. -/

namespace RiscVFast

open Rv32i hiding Word
open MaskTable Fallible

theorem SameExecution.refl (vlp : Vliw) : SameExecution vlp vlp := fun _ _ _ _ => rfl

theorem pathsAgree_none : PathsAgree none none := ⟨rfl, by simp⟩

theorem not_pathsAgree_direct (vlp : Vliw) : ¬ PathsAgree none (some vlp) := by
  rintro ⟨same, _⟩
  simp at same

theorem pathsAgree_some (first second : Vliw) :
    PathsAgree (some first) (some second) ↔ SameExecution first second := by
  simp [PathsAgree]

theorem pathsAgree_same (vlp : Vliw) : PathsAgree (some vlp) (some vlp) :=
  (pathsAgree_some vlp vlp).mpr (.refl vlp)

def CodeFields.of (funct3 : BitVec 3) (op : BitVec 2) : CodeFields :=
  ⟨some funct3, none, none, none, none, none, some op⟩

theorem CodeFields.Hold.of {code : BitVec 16} {funct3 : BitVec 3} {op : BitVec 2}
    (isFunct3 : code.extractLsb' 13 3 = funct3) (isOp : code.extractLsb' 0 2 = op) :
    (CodeFields.of funct3 op).Hold code := by
  subst isFunct3 isOp
  exact ⟨agrees_some _, agrees_none _, agrees_none _, agrees_none _, agrees_none _, agrees_none _,
    agrees_some _⟩

theorem eight_cases : ∀ field : BitVec 3, field = 0 ∨ field = 1 ∨ field = 2 ∨ field = 3 ∨
    field = 4 ∨ field = 5 ∨ field = 6 ∨ field = 7 := by
  decide

theorem four_cases : ∀ field : BitVec 2, field = 0 ∨ field = 1 ∨ field = 2 ∨ field = 3 := by
  decide

theorem two_cases : ∀ field : BitVec 1, field = 0 ∨ field = 1 := by
  decide

theorem bit12_iff (code : BitVec 16) :
    code.getLsbD 12 = (code.extractLsb' 12 1).getLsbD 0 := by
  rw [BitVec.getLsbD_extractLsb']
  simp

theorem wide_fields (code : BitVec 16) :
    (code.setWidth 32).extractLsb' 2 3 = code.extractLsb' 2 3 ∧
      (code.setWidth 32).extractLsb' 7 3 = code.extractLsb' 7 3 ∧
      (code.setWidth 32).extractLsb' 2 5 = code.extractLsb' 2 5 ∧
      (code.setWidth 32).extractLsb' 7 5 = code.extractLsb' 7 5 :=
  ⟨extract_wide code 2 3 (by decide), extract_wide code 7 3 (by decide),
    extract_wide code 2 5 (by decide), extract_wide code 7 5 (by decide)⟩

def Settled (code : BitVec 16) : Prop :=
  PathsAgree (tableAlone code) (directAlone code) ↔ decompressorsAgree code = true

theorem settled_same {code : BitVec 16} {vlp : Vliw} (table : tableAlone code = some vlp)
    (direct : directAlone code = some vlp) (agree : decompressorsAgree code = true) :
    Settled code := by
  rw [Settled, table, direct]
  exact iff_of_true (pathsAgree_same vlp) agree

theorem settled_some {code : BitVec 16} {first second : Vliw}
    (table : tableAlone code = some first) (direct : directAlone code = some second)
    (agree : SameExecution first second ↔ decompressorsAgree code = true) : Settled code := by
  rw [Settled, table, direct, pathsAgree_some]
  exact agree

theorem settled_none {code : BitVec 16} (table : tableAlone code = none)
    (direct : directAlone code = none) (agree : decompressorsAgree code = true) :
    Settled code := by
  rw [Settled, table, direct]
  exact iff_of_true pathsAgree_none agree

theorem settled_direct {code : BitVec 16} {vlp : Vliw} (table : tableAlone code = none)
    (direct : directAlone code = some vlp) (differ : decompressorsAgree code = false) :
    Settled code := by
  rw [Settled, table, direct]
  exact iff_of_false (not_pathsAgree_direct vlp) (by simp [differ])

theorem SameExecution.of_dispatch {first second : Vliw}
    (same : ∀ cfg s, s.cpu.reg 0 = 0 → (dispatch cfg first s).map (fun t => t.setReg 0 0) =
      (dispatch cfg second s).map (fun t => t.setReg 0 0)) : SameExecution first second := by
  intro cfg pc s zero
  simp only [executeNarrow, execute, same cfg (s.narrow pc) zero]

theorem setReg_setReg (s : Machine) (rd : Reg) (value value' : Word) :
    (s.setReg rd value).setReg rd value' = s.setReg rd value' := by
  simp only [Machine.setReg, Function.update_idem]

theorem sameExecution_j (imm : Word) : SameExecution ⟨.j, 0, 0, 0, imm⟩ ⟨.jal, 0, 0, 0, imm⟩ :=
  .of_dispatch fun _ s _ =>
    congrArg Except.ok (setReg_setReg (s.setPcNext (s.cpu.pc + imm)) 0 s.cpu.pcNext 0).symm

theorem sameExecution_jr (rs1 : Reg) : SameExecution ⟨.jr, 0, rs1, 0, 0⟩ ⟨.jalr, 0, rs1, 0, 0⟩ := by
  refine .of_dispatch fun _ s _ => congrArg Except.ok ?_
  have cleared := setReg_setReg (s.setPcNext (s.cpu.reg rs1 + 0)) 0 s.cpu.pcNext 0
  exact (cleared.trans
    (congrArg (fun target => (s.setPcNext target).setReg 0 0) (add_zero (s.cpu.reg rs1)))).symm

theorem sameExecution_mv (rd rs2 : Reg) :
    SameExecution ⟨.add, rd, 0, rs2, 0⟩ ⟨.addi, rd, rs2, 0, 0⟩ := by
  refine .of_dispatch fun _ s zero => congrArg Except.ok ?_
  rw [zero, zero_add, add_zero]

theorem sameExecution_lui (rd : Reg) (field imm : Word) (shifted : field <<< 12 = imm) :
    SameExecution ⟨.lui, rd, 0, 0, field⟩ ⟨.addi, rd, 0, 0, imm⟩ := by
  refine .of_dispatch fun _ s zero => congrArg Except.ok ?_
  rw [zero, zero_add, shifted]

theorem sameExecution_nop : SameExecution vliwNop ⟨.addi, 0, 0, 0, 0⟩ :=
  .of_dispatch fun _ s _ => congrArg Except.ok (setReg_setReg s 0 (s.cpu.reg 0 + 0) 0).symm

theorem setReg_self (s : Machine) (rd : Reg) : s.setReg rd (s.cpu.reg rd) = s := by
  simp only [Machine.setReg, Function.update_eq_self]

theorem dispatch_slli (cfg : Config) (rd : Reg) (shamt : BitVec 5) (s : Machine) :
    dispatch cfg ⟨.slli, rd, rd, 0, shamt.setWidth 32⟩ s =
      .ok (s.setReg rd (s.cpu.reg rd <<< shamt.toNat)) :=
  dispatch_shift cfg .slli rd rd 0 shamt s

theorem one_shifted : ∀ {shamt : BitVec 5}, (1 : Word) <<< shamt.toNat = 1 → shamt = 0 := by
  decide

theorem sameExecution_slli_iff (rd rd' : Reg) (shamt : BitVec 5) (real : rd' ≠ 0) :
    SameExecution ⟨.slli, rd, rd, 0, shamt.setWidth 32⟩ ⟨.slli, rd', rd', 0, shamt.setWidth 32⟩ ↔
      shamt = 0 ∨ rd' = rd := by
  constructor
  · intro same
    by_contra differ
    obtain ⟨shifts, apart⟩ := not_or.mp differ
    -- A one in the register that only the second instruction names.
    have outcomes := same (Config.standard Host.silent) 0
      ((Simulator.boot (smallMemory 0x20000000 []) 0 0).machine.setReg rd' 1)
      (Function.update_of_ne (Ne.symm real) _ _)
    simp only [executeNarrow, execute, dispatch_slli, map_ok] at outcomes
    have registers := congrArg (fun outcome : Except Abort (Cpu × Memory) =>
      outcome.map fun after => after.1.reg rd') outcomes
    simp only [map_ok, Except.ok.injEq, Machine.setReg, Machine.narrow_reg,
      Function.update_of_ne real, Function.update_of_ne apart, Function.update_self] at registers
    exact shifts (one_shifted registers.symm)
  · rintro (rfl | rfl)
    · refine .of_dispatch fun cfg s _ => ?_
      rw [dispatch_slli, dispatch_slli]
      have unshifted : ∀ value : Word, value <<< (0 : BitVec 5).toNat = value :=
        fun value => BitVec.shiftLeft_zero value
      rw [unshifted, unshifted, setReg_self, setReg_self]
    · exact .refl _

def lowMachine (rs1 : Reg) (value : Word) : Machine :=
  (Simulator.boot (smallMemory 0x20000000 []) 0 0).machine.setReg rs1 value

theorem lowMachine_zero {rs1 : Reg} (source : rs1 ≠ 0) (value : Word) :
    (lowMachine rs1 value).cpu.reg 0 = 0 :=
  Function.update_of_ne (Ne.symm source) _ _

theorem lowMachine_address (rs1 : Reg) (near : Word) :
    (lowMachine rs1 (0x20000000 - near)).cpu.reg rs1 + near = 0x20000000 := by
  simp [lowMachine, Machine.setReg]

theorem lowMachine_far (rs1 : Reg) (near : Word) :
    (lowMachine rs1 (0x20000000 - near)).cpu.reg rs1 + (near + 0xffffff80) = 0x1fffff80 := by
  rw [← BitVec.add_assoc, lowMachine_address]
  rfl

theorem lowMachine_holds : (smallMemory 0x20000000 []).dataMem.Holds 0x20000000 4 := by
  unfold Segment.Holds
  decide

theorem checkAddr_below {s : Machine} (memory : s.memory = smallMemory 0x20000000 []) :
    ∃ abort, checkAddr s 0x1fffff80 = .error abort := by
  simp only [checkAddr, memory]
  exact ⟨_, if_pos (by decide)⟩

theorem write32_refused {cfg : Config} {s : Machine} {addr : Word} (value : Word)
    (noCore : cfg.doCore = false) (noData : s.memory.isdata addr = false)
    (noDevice : ishost cfg addr = false) : ∃ abort, write32 cfg s addr value = .error abort := by
  refine ⟨.fatal "write32: Bad memory access 0x%08x\n" addr, ?_⟩
  unfold write32
  have refused : s.memory.writeWith cfg addr (·.write32 addr value) = none := by
    unfold Memory.writeWith
    rw [noData, noCore]
    exact if_neg (by decide)
  rw [refused]
  exact if_neg (by rw [noDevice]; decide)

section Outside

variable {s : Machine} {rs1 : Reg} {near far : Word}

theorem lw_outside (rd : Reg) (memory : s.memory = smallMemory 0x20000000 [])
    (inside : s.cpu.reg rs1 + near = 0x20000000) (below : s.cpu.reg rs1 + far = 0x1fffff80) :
    (∃ t, dispatch (Config.standard Host.silent) ⟨.lw, rd, rs1, 0, near⟩ s = .ok t) ∧
      ∃ abort, dispatch (Config.standard Host.silent) ⟨.lw, rd, rs1, 0, far⟩ s = .error abort := by
  have readable : s.memory.Readable (s.cpu.reg rs1 + near) 4 := by
    rw [memory, inside]
    exact .inl lowMachine_holds
  have placed : s.memory.Placed := by
    rw [memory]
    exact smallMemory_placed []
  refine ⟨⟨_, dispatch_load (Config.standard Host.silent) .lw rd rs1 0 near s placed readable⟩, ?_⟩
  obtain ⟨abort, refused⟩ := checkAddr_below memory
  refine ⟨abort, ?_⟩
  simp only [dispatch, below, refused]
  rfl

theorem sw_outside (rs2 : Reg) (memory : s.memory = smallMemory 0x20000000 [])
    (inside : s.cpu.reg rs1 + near = 0x20000000) (below : s.cpu.reg rs1 + far = 0x1fffff80) :
    (∃ t, dispatch (Config.standard Host.silent) ⟨.sw, 0, rs1, rs2, near⟩ s = .ok t) ∧
      ∃ abort, dispatch (Config.standard Host.silent) ⟨.sw, 0, rs1, rs2, far⟩ s = .error abort := by
  have writable : s.memory.Writable (Config.standard Host.silent) (s.cpu.reg rs1 + near) 4 := by
    rw [memory, inside]
    exact .inl lowMachine_holds
  have placed : s.memory.Placed := by
    rw [memory]
    exact smallMemory_placed []
  obtain ⟨written, served, _⟩ :=
    dispatch_store (Config.standard Host.silent) .sw 0 rs1 rs2 near s placed writable
  refine ⟨⟨_, served⟩, ?_⟩
  have noData : s.memory.isdata 0x1fffff80 = false := by
    rw [memory]
    decide
  obtain ⟨abort, refused⟩ := @write32_refused (Config.standard Host.silent) s 0x1fffff80
    (s.cpu.reg rs2) rfl noData (by decide)
  refine ⟨abort, ?_⟩
  simp only [dispatch, below, refused]

end Outside

theorem lowMachine_memory (rs1 : Reg) (value : Word) :
    (lowMachine rs1 value).memory = smallMemory 0x20000000 [] := by
  simp only [lowMachine, Machine.setReg, Simulator.boot]

theorem differs_of_outside {first second : Vliw} {rs1 : Reg} (source : rs1 ≠ 0) (near : Word)
    (outside : ∀ s : Machine, s.memory = smallMemory 0x20000000 [] →
      s.cpu.reg rs1 + near = 0x20000000 → s.cpu.reg rs1 + (near + 0xffffff80) = 0x1fffff80 →
      (∃ t, dispatch (Config.standard Host.silent) first s = .ok t) ∧
        ∃ abort, dispatch (Config.standard Host.silent) second s = .error abort) :
    ¬ SameExecution first second := by
  intro same
  have outcomes := same (Config.standard Host.silent) 0 (lowMachine rs1 (0x20000000 - near))
    (lowMachine_zero source _)
  obtain ⟨⟨t, executes⟩, abort, refused⟩ := outside
    ((lowMachine rs1 (0x20000000 - near)).narrow 0)
    (by rw [Machine.narrow_memory, lowMachine_memory])
    (by rw [Machine.narrow_reg, lowMachine_address])
    (by rw [Machine.narrow_reg, lowMachine_far])
  simp only [executeNarrow, execute, executes, refused] at outcomes
  simp [Except.map] at outcomes

theorem wordImm_extends (imm : BitVec 7) : imm.signExtend 32 =
    if imm.getLsbD 6 then imm.setWidth 32 + 0xffffff80 else imm.setWidth 32 := by
  revert imm
  decide +kernel

end RiscVFast
