import RiscVFast.Run
import RiscVFast.Lib.Fallible

/-! What one instruction can do to the machine. Every invariant of the instruction set is
derived from this case distinction. -/

namespace RiscVFast

open Fallible

def csrTypeOf : VliwOp → Option CsrType
  | .csrrw | .csrrwi => some .w
  | .csrrs | .csrrsi => some .s
  | .csrrc | .csrrci => some .c
  | _ => none

def VliwOp.silent (opcode : VliwOp) : Bool :=
  storeWidthOf opcode == Option.none && opcode != .ecall

theorem host_frame (rw : Bool) (addr value : Word) (s : Machine) :
    ∃ stop events, host rw addr value s = { s with cpu.stop := stop, events := events } := by
  unfold host
  split
  · split
    · exact ⟨true, s.events, rfl⟩
    · exact ⟨s.cpu.stop, .uart (value.setWidth 8) :: s.events, rfl⟩
  · split
    · exact ⟨s.cpu.stop, s.events, rfl⟩
    · exact ⟨s.cpu.stop, .hostAccess rw addr value :: s.events, rfl⟩

inductive Effect (cfg : Config) (vlp : Vliw) (s : Machine) : Machine → Prop
  | compute (silent : vlp.opcode.silent = true) (reg : BitVec 5 → Word) (pcNext : Word) :
      Effect cfg vlp s { s with cpu.reg := reg, cpu.pcNext := pcNext }
  | deviceLoad (silent : vlp.opcode.silent = true) (addr : Word) :
      Effect cfg vlp s ((host false addr 0 s).setReg vlp.rd 0)
  | store (width : Nat) (memory : Memory) (opcode : storeWidthOf vlp.opcode = some width)
      (written : s.memory.writeWith cfg (vlp.address s)
        (·.write (vlp.address s) (bytesOf width (s.cpu.reg vlp.rs2))) = some (.ok memory)) :
      Effect cfg vlp s { s with memory := memory }
  | deviceStore (opcode : vlp.opcode = .sw)
      (refused : s.memory.writeWith cfg (vlp.address s)
        (·.write (vlp.address s) (bytesOf 4 (s.cpu.reg vlp.rs2))) = none) :
      Effect cfg vlp s (host true (vlp.address s) (s.cpu.reg vlp.rs2) s)
  | newlib (t : Machine) (opcode : vlp.opcode = .ecall) (enabled : cfg.doNewlib = true)
      (called : syscall cfg s = .ok t) : Effect cfg vlp s t
  | trap (cause : Word)
      (opcode : vlp.opcode = .ecall ∧ cfg.doNewlib = false ∨ vlp.opcode = .ebreak) :
      Effect cfg vlp s (s.exception cause)
  | mret (opcode : vlp.opcode = .mret) : Effect cfg vlp s (mret s)
  | csr (silent : vlp.opcode.silent = true) (type : CsrType) (imm32 : Word)
      (opcode : csrTypeOf vlp.opcode = some type) :
      Effect cfg vlp s (csrInsn cfg type (vlp.imm &&& 0xfff) vlp.rd vlp.rs1 imm32 s)

section Branches

variable {cfg : Config} {vlp : Vliw} {s t : Machine}

theorem Effect.same (silent : vlp.opcode.silent = true) : Effect cfg vlp s s :=
  .compute silent s.cpu.reg s.cpu.pcNext

theorem Effect.setReg (silent : vlp.opcode.silent = true) (rd : BitVec 5) (value : Word) :
    Effect cfg vlp s (s.setReg rd value) :=
  .compute silent (Function.update s.cpu.reg rd value) s.cpu.pcNext

theorem Effect.branch (silent : vlp.opcode.silent = true) (taken : Bool) (target : Word) :
    Effect cfg vlp s (if taken then s.setPcNext target else s) := by
  cases taken with
  | true => exact .compute silent s.cpu.reg target
  | false => exact .same silent

theorem Effect.load {addr : Word} {read : Word → Except Abort Word}
    (silent : vlp.opcode.silent = true)
    (loaded : (do
      checkAddr s addr
      .ok (s.setReg vlp.rd (← read addr)) : Except Abort Machine) = .ok t) :
    Effect cfg vlp s t := by
  obtain ⟨_, _, loaded⟩ := bind_eq_ok.mp loaded
  obtain ⟨value, _, loaded⟩ := bind_eq_ok.mp loaded
  simp only [Except.ok.injEq] at loaded
  subst loaded
  exact .setReg silent vlp.rd value

theorem Effect.load32 {addr : Word} (silent : vlp.opcode.silent = true)
    (loaded : (do
      checkAddr s addr
      let (value, s) ← read32 cfg s addr
      .ok (s.setReg vlp.rd value) : Except Abort Machine) = .ok t) :
    Effect cfg vlp s t := by
  obtain ⟨_, _, loaded⟩ := bind_eq_ok.mp loaded
  obtain ⟨⟨value, after⟩, read, loaded⟩ := bind_eq_ok.mp loaded
  simp only [Except.ok.injEq] at loaded
  subst loaded
  unfold read32 at read
  split at read
  · obtain ⟨_, _, equal⟩ := map_eq_ok.mp read
    simp only [Prod.mk.injEq] at equal
    rw [← equal.2]
    exact .setReg silent vlp.rd value
  · split at read
    · simp only [Except.ok.injEq, Prod.mk.injEq] at read
      rw [← read.1, ← read.2]
      exact .deviceLoad silent addr
    · simp at read

theorem Effect.divide {quotient : Except Abort Word} (silent : vlp.opcode.silent = true)
    (divided : (do .ok (s.setReg vlp.rd (← quotient)) : Except Abort Machine) = .ok t) :
    Effect cfg vlp s t := by
  obtain ⟨value, _, divided⟩ := bind_eq_ok.mp divided
  simp only [Except.ok.injEq] at divided
  subst divided
  exact .setReg silent vlp.rd value

theorem Effect.narrowStore {fmt : String} (width : Nat)
    (opcode : storeWidthOf vlp.opcode = some width)
    (stored : narrowWrite cfg s fmt (s.cpu.reg vlp.rs1 + vlp.imm)
      (·.write (s.cpu.reg vlp.rs1 + vlp.imm) (bytesOf width (s.cpu.reg vlp.rs2))) = .ok t) :
    Effect cfg vlp s t := by
  unfold narrowWrite at stored
  split at stored
  · rename_i outcome found
    obtain ⟨memory, succeeded, equal⟩ := map_eq_ok.mp stored
    subst succeeded equal
    exact .store width memory opcode found
  · simp at stored

theorem Effect.store32 (opcode : vlp.opcode = .sw)
    (stored : write32 cfg s (s.cpu.reg vlp.rs1 + vlp.imm) (s.cpu.reg vlp.rs2) = .ok t) :
    Effect cfg vlp s t := by
  unfold write32 at stored
  split at stored
  · rename_i outcome found
    obtain ⟨memory, succeeded, equal⟩ := map_eq_ok.mp stored
    subst succeeded equal
    exact .store 4 memory (by rw [opcode]; rfl) found
  · rename_i refused
    split at stored
    · simp only [Except.ok.injEq] at stored
      rw [← stored]
      exact .deviceStore opcode refused
    · simp at stored

theorem dispatch_effect (dispatched : dispatch cfg vlp s = .ok t) : Effect cfg vlp s t := by
  simp only [dispatch] at dispatched
  split at dispatched
  -- the opcodes that abort
  all_goals try simp only [reduceCtorEq] at dispatched
  all_goals rename_i opcode
  all_goals have silence := congrArg VliwOp.silent opcode
  -- the opcodes that cannot fail, and then the memory accesses and divisions
  all_goals try (simp only [Except.ok.injEq] at dispatched; subst dispatched)
  all_goals first
    | exact .setReg silence _ _
    | exact .same silence
    | exact .compute silence _ _
    | exact .branch silence _ _
    | exact .csr silence _ _ (by rw [opcode]; rfl)
    | exact .mret opcode
    | exact .trap _ (.inr opcode)
    | exact .load32 silence dispatched
    | exact .load silence dispatched
    | exact .divide silence dispatched
    | exact .narrowStore _ (by rw [opcode]; rfl) dispatched
    | exact .store32 opcode dispatched
    | skip
  -- only `ecall` is left
  split at dispatched
  · rename_i newlib
    exact .newlib t opcode newlib dispatched
  · rename_i noNewlib
    simp only [Except.ok.injEq] at dispatched
    subst dispatched
    exact .trap _ (.inl ⟨opcode, by simpa using noNewlib⟩)

end Branches

end RiscVFast
