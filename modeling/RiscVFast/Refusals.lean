import RiscVFast.Bounds

/-! Which instructions end the process with a message, by their opcode and the state. -/

namespace RiscVFast

open Fallible

/-- The aborts that the simulator makes itself, with a message. -/
def Abort.reported : Abort → Bool
  | .outOfBuffer | .divideError => false
  | _ => true

def Reported {α : Type} (outcome : Except Abort α) : Prop :=
  ∃ abort, abort.reported = true ∧ outcome = .error abort

section Reported

variable {α β : Type}

@[simp] theorem reported_ok (a : α) : ¬ Reported (.ok a : Except Abort α) := by
  simp [Reported]

@[simp] theorem reported_error (abort : Abort) :
    Reported (.error abort : Except Abort α) ↔ abort.reported = true := by
  simp [Reported]

@[simp] theorem reported_map (x : Except Abort α) (f : α → β) :
    Reported (x.map f) ↔ Reported x := by
  simp only [Reported, map_eq_error]

theorem reported_bind (x : Except Abort α) (f : α → Except Abort β) :
    Reported (x >>= f) ↔ Reported x ∨ ∃ a, x = .ok a ∧ Reported (f a) := by
  cases x with
  | error abort => simp
  | ok a => simp

theorem reported_ite {condition : Prop} [Decidable condition] {here otherwise : Except Abort α}
    {p q : Prop} (ifTrue : Reported here ↔ p) (ifFalse : Reported otherwise ↔ q) :
    Reported (if condition then here else otherwise) ↔ if condition then p else q := by
  split
  · exact ifTrue
  · exact ifFalse

theorem reported_bind_silent {x : Except Abort α} {f : α → Except Abort β}
    (silent : ∀ a, ¬ Reported (f a)) : Reported (x >>= f) ↔ Reported x := by
  rw [reported_bind]
  refine or_iff_left ?_
  rintro ⟨a, _, later⟩
  exact silent a later

end Reported

def checkFails (s : Machine) (addr : Word) : Prop := checkAddr s addr ≠ .ok ()

theorem checkAddr_reported (s : Machine) (addr : Word) :
    Reported (checkAddr s addr) ↔ checkFails s addr := by
  unfold checkFails checkAddr
  simp only
  split <;> simp [Abort.reported]

@[simp] theorem access_silent (seg : Segment) (addr : Word) (width : Nat) :
    ¬ Reported (seg.access addr width) := by
  unfold Segment.access
  split <;> simp [Abort.reported]

theorem readWith_reported {memory : Memory} {fmt : String} {addr : Word}
    {read : Segment → Except Abort Word} (silent : ∀ seg, ¬ Reported (read seg)) :
    Reported (memory.readWith fmt addr read) ↔ memory.readSegment addr = none := by
  unfold Memory.readWith
  split
  · rename_i seg found
    simp [found, silent seg]
  · rename_i missing
    simp [missing, Abort.reported]

theorem device_reported {α : Type} (cfg : Config) (fmt : String) (addr : Word) (a : α) :
    Reported (if ishost cfg addr then .ok a else .error (.fatal fmt addr) : Except Abort α) ↔
      ishost cfg addr = false := by
  split
  · rename_i device
    simp [device]
  · rename_i noDevice
    simp [noDevice, Abort.reported]

theorem read32_reported (cfg : Config) (s : Machine) (addr : Word) :
    Reported (read32 cfg s addr) ↔
      s.memory.readSegment addr = none ∧ ishost cfg addr = false := by
  unfold read32
  split
  · rename_i seg found
    simp [found, Segment.read32]
  · rename_i missing
    rw [device_reported]
    exact (and_iff_right missing).symm

theorem write_reported {cfg : Config} {s : Machine} {addr : Word} {bytes : List Byte}
    {elsewhere : Except Abort Machine} :
    Reported (match s.memory.writeWith cfg addr (·.write addr bytes) with
      | some written => written.map fun memory => { s with memory := memory }
      | none => elsewhere) ↔
      s.memory.writeSegment cfg addr = none ∧ Reported elsewhere := by
  rcases writeWith_eq cfg s.memory addr bytes with ⟨seg, found, put, written⟩ | ⟨missing, refused⟩
  · have silent : ¬ Reported (seg.write addr bytes) := by simp [Segment.write]
    simp only [written, found, reported_map, silent, reduceCtorEq, false_and]
  · simp only [refused, missing, true_and]

theorem getPtr_reported (memory : Memory) (addr : Word) :
    Reported (memory.getPtr addr) ↔ memory.readSegment addr = none := by
  unfold Memory.getPtr Memory.readSegment
  split
  · simp
  · split <;> simp [Abort.reported]

theorem getPtr_found {memory : Memory} {addr : Word} (mapped : memory.readSegment addr ≠ none) :
    ∃ ptr, memory.getPtr addr = .ok ptr := by
  unfold Memory.readSegment at mapped
  unfold Memory.getPtr
  split
  · exact ⟨_, rfl⟩
  · split
    · exact ⟨_, rfl⟩
    · simp_all

@[simp] theorem store_silent (s : Machine) (ptr : HostPtr) (bytes : List Byte) :
    ¬ Reported (s.store ptr bytes) := by
  unfold Machine.store Memory.poke Segment.poke
  cases ptr <;> simp only [reported_map] <;> split <;> try split
  all_goals simp [Abort.reported]

@[simp] theorem peek_silent (memory : Memory) (ptr : HostPtr) (count : Nat) :
    ¬ Reported (memory.peek ptr count) := by
  unfold Memory.peek Segment.peek
  cases ptr <;> simp only <;> split <;> try split
  all_goals simp [Abort.reported]

theorem cString_silent (seg : Segment) (fuel off : Nat) : ¬ Reported (cString seg fuel off) := by
  induction fuel generalizing off with
  | zero => simp [cString, Abort.reported]
  | succ fuel ih =>
      unfold cString
      split
      · simp
      · simpa using ih (off + 1)

@[simp] theorem string_silent (memory : Memory) (ptr : HostPtr) :
    ¬ Reported (memory.cString ptr) := by
  cases ptr <;> exact cString_silent _ _ _

def NameLeaves (memory : Memory) (count : Nat) (addr : Word) : Prop :=
  ∃ index < count, memory.readSegment (addr + BitVec.ofNat 32 index) = none ∧
    ∀ earlier < index, ∃ c, memory.read8 (addr + BitVec.ofNat 32 earlier) = .ok c ∧
      c.setWidth 8 ≠ (0 : Byte)

theorem nameLeaves_succ (memory : Memory) (count : Nat) (addr : Word) :
    NameLeaves memory (count + 1) addr ↔ memory.readSegment addr = none ∨
      ∃ c, memory.read8 addr = .ok c ∧ c.setWidth 8 ≠ (0 : Byte) ∧
        NameLeaves memory count (addr + 1) := by
  have next : ∀ index, addr + 1 + BitVec.ofNat 32 index = addr + BitVec.ofNat 32 (index + 1) := by
    intro index
    rw [BitVec.ofNat_add, BitVec.add_assoc, BitVec.add_comm (BitVec.ofNat 32 index)]
    rfl
  have here : addr + BitVec.ofNat 32 0 = addr := BitVec.add_zero addr
  constructor
  · rintro ⟨index, inside, leaves, earlier⟩
    cases index with
    | zero =>
        rw [here] at leaves
        exact .inl leaves
    | succ index =>
        obtain ⟨c, read, notEnd⟩ := earlier 0 (by omega)
        rw [here] at read
        refine .inr ⟨c, read, notEnd, index, by omega, ?_, ?_⟩
        · rw [next]
          exact leaves
        · intro position before
          rw [next]
          exact earlier (position + 1) (by omega)
  · rintro (leaves | ⟨c, read, notEnd, index, inside, leaves, earlier⟩)
    · refine ⟨0, by omega, ?_, fun position before => absurd before (Nat.not_lt_zero position)⟩
      rw [here]
      exact leaves
    · rw [next] at leaves
      refine ⟨index + 1, by omega, leaves, ?_⟩
      intro position before
      cases position with
      | zero =>
          rw [here]
          exact ⟨c, read, notEnd⟩
      | succ position =>
          rw [← next]
          exact earlier position (by omega)

theorem openName_reported (memory : Memory) (fuel : Nat) (addr : Word) :
    Reported (openName memory fuel addr) ↔ NameLeaves memory fuel addr := by
  induction fuel generalizing addr with
  | zero => simp [openName, NameLeaves]
  | succ fuel ih =>
      have character : Reported (memory.read8 addr) ↔ memory.readSegment addr = none :=
        readWith_reported (by simp [Segment.read8])
      rw [nameLeaves_succ, openName, reported_bind, character]
      refine or_congr_right (exists_congr fun c => and_congr_right fun _ => ?_)
      simp only
      split
      · rename_i ends
        simp [ends]
      · rename_i notEnd
        rw [reported_bind_silent (by simp), ih]
        exact (and_iff_right notEnd).symm

/-- An argument that points outside the segments, or a number without a case. -/
def SyscallRefused (s : Machine) : Prop :=
  let a0 := s.cpu.reg 10
  let a1 := s.cpu.reg 11
  let a7 := s.cpu.reg 17
  if a7 = sysBrk then False
  else if a7 = sysGettimeofday then s.memory.readSegment a0 = none
  else if a7 = sysExit then False
  else if a7 = sysRead then s.memory.readSegment a1 = none
  else if a7 = sysWrite then s.memory.readSegment a1 = none
  else if a7 = sysOpen then NameLeaves s.memory 255 a0
  else if a7 = sysLseek then False
  else if a7 = sysClose then False
  else if a7 = sysLink then s.memory.readSegment a0 = none ∨ s.memory.readSegment a1 = none
  else if a7 = sysUnlink then s.memory.readSegment a0 = none
  else if a7 = sysFstat then False
  else if a7 = sysTime then False
  else True

theorem doGettimeofday_reported (cfg : Config) (s : Machine) (a0 : Word) :
    Reported (doGettimeofday cfg s a0) ↔ s.memory.readSegment a0 = none := by
  unfold doGettimeofday
  rw [reported_bind_silent, getPtr_reported]
  intro ptr
  simp [reported_bind_silent]

theorem doRead_reported (cfg : Config) (s : Machine) (a0 a1 a2 : Word) :
    Reported (doRead cfg s a0 a1 a2) ↔ s.memory.readSegment a1 = none := by
  unfold doRead
  rw [reported_bind_silent, getPtr_reported]
  intro ptr
  simp [reported_bind_silent]

theorem doWrite_reported (cfg : Config) (s : Machine) (a0 a1 a2 : Word) :
    Reported (doWrite cfg s a0 a1 a2) ↔ s.memory.readSegment a1 = none := by
  unfold doWrite
  rw [reported_bind_silent, getPtr_reported]
  intro ptr
  split
  · simp [reported_bind_silent]
  · split
    · simp
    · simp [reported_bind_silent]

theorem doOpen_reported (cfg : Config) (s : Machine) (pathname flags mode : Word) :
    Reported (doOpen cfg s pathname flags mode) ↔ NameLeaves s.memory 255 pathname := by
  unfold doOpen
  rw [reported_bind_silent (by simp), openName_reported]

theorem doUnlink_reported (cfg : Config) (s : Machine) (a0 : Word) :
    Reported (doUnlink cfg s a0) ↔ s.memory.readSegment a0 = none := by
  unfold doUnlink
  rw [reported_bind_silent, getPtr_reported]
  intro ptr
  simp [reported_bind_silent]

theorem doLink_reported (cfg : Config) (s : Machine) (a0 a1 : Word) :
    Reported (doLink cfg s a0 a1) ↔
      s.memory.readSegment a0 = none ∨ s.memory.readSegment a1 = none := by
  unfold doLink
  rw [reported_bind, getPtr_reported]
  by_cases missing : s.memory.readSegment a0 = none
  · simp only [missing, true_or]
  · obtain ⟨oldptr, found⟩ := getPtr_found missing
    simp only [found, missing, false_or, Except.ok.injEq, exists_eq_left']
    rw [reported_bind_silent, getPtr_reported]
    intro newptr
    simp [reported_bind_silent]

theorem syscall_reported (cfg : Config) (s : Machine) :
    Reported (syscall cfg s) ↔ SyscallRefused s := by
  have total : ∀ after : Machine, Reported (.ok after : Except Abort Machine) ↔ False :=
    fun after => iff_false_intro (reported_ok after)
  have returns : ∀ (call : Except Abort (Word × Machine)) (refused : Prop),
      (Reported call ↔ refused) → (Reported (call.map Machine.returnA0) ↔ refused) :=
    fun call refused ends => (reported_map call Machine.returnA0).trans ends
  unfold syscall SyscallRefused
  refine reported_ite (total _) ?_
  refine reported_ite (returns _ _ (doGettimeofday_reported cfg s _)) ?_
  refine reported_ite (total _) ?_
  refine reported_ite (returns _ _ (doRead_reported cfg s _ _ _)) ?_
  refine reported_ite (returns _ _ (doWrite_reported cfg s _ _ _)) ?_
  refine reported_ite (returns _ _ (doOpen_reported cfg s _ _ _)) ?_
  refine reported_ite (total _) ?_
  refine reported_ite (total _) ?_
  refine reported_ite (returns _ _ (doLink_reported cfg s _ _)) ?_
  refine reported_ite (returns _ _ (doUnlink_reported cfg s _)) ?_
  refine reported_ite (total _) ?_
  refine reported_ite (total _) ?_
  exact iff_true_intro ((reported_error _).mpr rfl)

@[simp] theorem signedDivide_silent (divide : Word → Word → Word) (a b : Word) :
    ¬ Reported (signedDivide divide a b) := by
  unfold signedDivide
  split <;> simp [Abort.reported]

@[simp] theorem unsignedDivide_silent (divide : Word → Word → Word) (a b : Word) :
    ¬ Reported (unsignedDivide divide a b) := by
  unfold unsignedDivide
  split <;> simp [Abort.reported]

def VliwOp.handled : VliwOp → Bool
  | .nop | .j | .jal | .jr | .jalr | .beq | .bne | .bge | .bgeu | .blt | .bltu => true
  | .add | .sub | .xor | .or | .and | .addi | .xori | .ori | .andi => true
  | .slti | .sltiu | .slt | .sltu | .srl | .sra | .sll | .slli | .srli | .srai => true
  | .lui | .auipc | .lw | .lh | .lhu | .lb | .lbu | .sw | .sh | .sb => true
  | .mul | .mulh | .mulhu | .mulhsu | .div | .divu | .rem | .remu => true
  | .ecall | .ebreak | .sret | .mret | .wfi => true
  | .csrrw | .csrrs | .csrrc | .csrrwi | .csrrsi | .csrrci => true
  | _ => false

def Vliw.Refused (cfg : Config) (vlp : Vliw) (s : Machine) : Prop :=
  match vlp.opcode with
  | .lb | .lbu | .lh | .lhu =>
      checkFails s (vlp.address s) ∨ s.memory.readSegment (vlp.address s) = none
  | .lw =>
      checkFails s (vlp.address s) ∨
        s.memory.readSegment (vlp.address s) = none ∧ ishost cfg (vlp.address s) = false
  | .sb | .sh => s.memory.writeSegment cfg (vlp.address s) = none
  | .sw => s.memory.writeSegment cfg (vlp.address s) = none ∧ ishost cfg (vlp.address s) = false
  | .ecall => cfg.doNewlib = true ∧ SyscallRefused s
  | opcode => opcode.handled = false

theorem checked_reported {α : Type} {s : Machine} {addr : Word} {load : Except Abort α}
    {fails : Prop} (loads : Reported load ↔ fails) :
    Reported (do checkAddr s addr; load) ↔ checkFails s addr ∨ fails := by
  rw [reported_bind, checkAddr_reported]
  unfold checkFails
  cases checkAddr s addr with
  | error abort => simp
  | ok passed => simp [loads]

theorem load_reported {s : Machine} {addr : Word} {fmt : String}
    {read : Segment → Except Abort Word} {rd : BitVec 5} (silent : ∀ seg, ¬ Reported (read seg)) :
    Reported (do
      checkAddr s addr
      .ok (s.setReg rd (← s.memory.readWith fmt addr read))) ↔
      checkFails s addr ∨ s.memory.readSegment addr = none := by
  exact checked_reported ((reported_bind_silent (by simp)).trans (readWith_reported silent))

/-- Exactly the refused instructions end the process with a message. -/
theorem execute_reported (cfg : Config) (vlp : Vliw) (s : Machine) :
    Reported (execute cfg vlp s) ↔ vlp.Refused cfg s := by
  obtain ⟨opcode, rd, rs1, rs2, imm⟩ := vlp
  rw [execute, reported_map]
  cases opcode
  case lb | lh | lbu | lhu =>
      exact load_reported
        (by simp [Segment.read8, Segment.read8u, Segment.read16, Segment.read16u])
  case lw =>
      exact checked_reported ((reported_bind_silent (by simp)).trans (read32_reported cfg s _))
  case sw => exact write_reported.trans (and_congr_right fun _ => device_reported cfg _ _ _)
  case sb | sh => exact write_reported.trans (and_iff_left ((reported_error _).mpr rfl))
  case ecall =>
      simp only [dispatch, Vliw.Refused]
      split
      · rename_i newlib
        simp [newlib, syscall_reported]
      · rename_i noNewlib
        simp [noNewlib]
  case div | divu | rem | remu =>
      refine iff_of_false ?_ (by simp [Vliw.Refused, VliwOp.handled])
      simp [dispatch, reported_bind_silent]
  all_goals first
    | exact iff_of_false (reported_ok _) (by simp [Vliw.Refused, VliwOp.handled])
    | exact iff_of_true ⟨_, rfl, rfl⟩ rfl

end RiscVFast
