import RiscVFast.LoadStore

/-! The file that `SYS_open` opens, for a name in guest memory. -/

namespace RiscVFast

open Fallible

structure Memory.HoldsString (memory : Memory) (addr : Word) (name : List Byte) : Prop where
  chars : ∀ (index : Nat) (inside : index < name.length),
    memory.read8 (addr + BitVec.ofNat 32 index) = .ok (name[index].signExtend 32)
  nonzero : 0 ∉ name
  ends : memory.read8 (addr + BitVec.ofNat 32 name.length) = .ok 0

inductive AccessMode
  | readOnly | writeOnly | readWrite
deriving DecidableEq

def AccessMode.newlib : AccessMode → Word
  | .readOnly => riscvORdonly
  | .writeOnly => riscvOWronly
  | .readWrite => riscvORdwr

def AccessMode.host : AccessMode → Word
  | .readOnly => hostORdonly
  | .writeOnly => hostOWronly
  | .readWrite => hostORdwr

structure OpenMode where
  access : AccessMode
  creat : Bool
  trunc : Bool
  append : Bool
deriving DecidableEq

def flagFor (wanted : Bool) (flag : Word) : Word := if wanted then flag else 0

def OpenMode.newlib (mode : OpenMode) : Word :=
  mode.access.newlib ||| flagFor mode.creat riscvOCreat ||| flagFor mode.trunc riscvOTrunc |||
    flagFor mode.append riscvOAppend

def OpenMode.host (mode : OpenMode) : Word :=
  mode.access.host ||| flagFor mode.creat hostOCreat ||| flagFor mode.trunc hostOTrunc |||
    flagFor mode.append hostOAppend

def HostEvent.isRequest : HostEvent → Bool
  | .printf .. => false
  | _ => true

/-- What the host is made to do besides the lines of `printf`. -/
def requests (events : List HostEvent) : List HostEvent := events.filter HostEvent.isRequest

inductive OpensNamed (s : Machine) (name : List Byte) (mode : OpenMode) :
    Except Abort Machine → Prop
  | aborted (abort : Abort) : OpensNamed s name mode (.error abort)
  | refused {t : Machine} (result : t.cpu.reg 10 = -1)
      (events : requests t.events = requests s.events) : OpensNamed s name mode (.ok t)
  | opened {t : Machine}
      (events : requests t.events = .open name mode.host (s.cpu.reg 12) :: requests s.events) :
      OpensNamed s name mode (.ok t)

theorem openFlags_newlib (mode : OpenMode) : openFlags mode.newlib = mode.host := by
  obtain ⟨access, creat, trunc, append⟩ := mode
  cases access <;> cases creat <;> cases trunc <;> cases append <;> rfl

theorem Memory.HoldsString.tail {memory : Memory} {addr : Word} {c : Byte} {name : List Byte}
    (holds : memory.HoldsString addr (c :: name)) : memory.HoldsString (addr + 1) name := by
  have next : ∀ index, addr + 1 + BitVec.ofNat 32 index = addr + BitVec.ofNat 32 (index + 1) := by
    intro index
    rw [BitVec.ofNat_add, add_assoc, add_comm (BitVec.ofNat 32 index)]
    rfl
  constructor
  · intro index inside
    rw [next]
    exact holds.chars (index + 1) (Nat.succ_lt_succ inside)
  · intro zero
    exact holds.nonzero (List.mem_cons_of_mem c zero)
  · rw [next]
    exact holds.ends

theorem setWidth_signExtend (c : Byte) : (c.signExtend 32).setWidth 8 = c := by
  apply BitVec.eq_of_getLsbD_eq
  intro index inside
  have fits : index < 32 := by omega
  simp only [BitVec.getLsbD_setWidth, BitVec.getLsbD_signExtend, inside, fits, decide_true,
    Bool.true_and, if_true]

theorem openName_take (fuel : Nat) {memory : Memory} {addr : Word} {name : List Byte}
    (holds : memory.HoldsString addr name) :
    openName memory fuel addr = .ok (name.take fuel) := by
  induction fuel generalizing addr name with
  | zero => rw [openName, List.take_zero]
  | succ fuel ih =>
      cases name with
      | nil =>
          have ends := holds.ends
          rw [List.length_nil, BitVec.add_zero] at ends
          rw [openName, ends]
          rfl
      | cons c name =>
          have first := holds.chars 0 (Nat.succ_pos _)
          rw [BitVec.add_zero, List.getElem_cons_zero] at first
          have nonzero : c ≠ 0 := by
            rintro rfl
            exact holds.nonzero List.mem_cons_self
          rw [openName, first, ok_bind, setWidth_signExtend, if_neg nonzero, ih holds.tail]
          rfl

theorem requests_flagLines (flags : Word) (events : List HostEvent) :
    requests ((flagLines flags).reverse ++ events) = requests events := by
  have printed : (flagLines flags).reverse.filter HostEvent.isRequest = [] := by
    rw [List.filter_eq_nil_iff]
    intro event member
    rw [List.mem_reverse, flagLines, List.mem_map] at member
    obtain ⟨⟨flag, fmt⟩, -, rfl⟩ := member
    exact Bool.false_ne_true
  rw [requests, List.filter_append, printed]
  rfl

section Call

variable {cfg : Config} {s : Machine} {name : List Byte} {mode : OpenMode}

theorem syscall_open (number : s.cpu.reg 17 = sysOpen)
    (path : s.memory.HoldsString (s.cpu.reg 10) name) (flags : s.cpu.reg 11 = mode.newlib) :
    ∃ t, syscall cfg s = .ok t ∧
      requests t.events = .open (name.take 255) mode.host (s.cpu.reg 12) :: requests s.events := by
  have call : syscall cfg s =
      (doOpen cfg s (s.cpu.reg 10) (s.cpu.reg 11) (s.cpu.reg 12)).map Machine.returnA0 := by
    rw [syscall, number]
    rfl
  rw [call, doOpen, openName_take 255 path, flags, openFlags_newlib]
  refine ⟨_, rfl, ?_⟩
  exact congrArg _ (requests_flagLines mode.newlib s.events)

/-- The file opened is the one named exactly when the name fits into `fname`. -/
theorem open_names_iff (cfg : Config) (s : Machine) (name : List Byte) (mode : OpenMode)
    (number : s.cpu.reg 17 = sysOpen) (path : s.memory.HoldsString (s.cpu.reg 10) name)
    (flags : s.cpu.reg 11 = mode.newlib) :
    OpensNamed s name mode (syscall cfg s) ↔ name.length ≤ 255 := by
  obtain ⟨t, called, events⟩ := @syscall_open cfg s name mode number path flags
  rw [called]
  constructor
  · intro named
    cases named with
    | refused result unchanged =>
        rw [unchanged] at events
        have longer := congrArg List.length events
        rw [List.length_cons] at longer
        omega
    | opened named =>
        rw [events, List.cons.injEq, HostEvent.open.injEq] at named
        have short := congrArg List.length named.1.1
        rw [List.length_take] at short
        omega
  · intro short
    rw [List.take_of_length_le short] at events
    exact .opened events

end Call

/-! `SYS_unlink` takes the name as it is in guest memory. -/

theorem cString_of_chars {seg : Segment} {name : List Byte} {off : Nat} (fuel : Nat)
    (room : name.length < fuel)
    (chars : ∀ (index : Nat) (inside : index < name.length), seg.data (off + index) = name[index])
    (nonzero : 0 ∉ name) (ends : seg.data (off + name.length) = 0) :
    cString seg fuel off = .ok name := by
  induction fuel generalizing name off with
  | zero => omega
  | succ fuel ih =>
      cases name with
      | nil =>
          have here : seg.data off = 0 := ends
          rw [cString, if_pos here]
      | cons c name =>
          have first := chars 0 (Nat.succ_pos _)
          rw [Nat.add_zero, List.getElem_cons_zero] at first
          have notZero : c ≠ 0 := by
            rintro rfl
            exact nonzero List.mem_cons_self
          have rest : cString seg fuel (off + 1) = .ok name := by
            refine ih (Nat.lt_of_succ_lt_succ room) ?_ ?_ ?_
            · intro index inside
              rw [Nat.add_right_comm]
              exact chars (index + 1) (Nat.succ_lt_succ inside)
            · intro zero
              exact nonzero (List.mem_cons_of_mem c zero)
            · rw [Nat.add_right_comm]
              exact ends
          rw [cString, first, if_neg notZero, rest]
          rfl

theorem read8_of_holds {memory : Memory} {addr : Word} {width index : Nat}
    (allocated : memory.dataMem.size = memory.dataMem.memLen.toNat)
    (holds : memory.dataMem.Holds addr width) (inside : index < width) :
    memory.read8 (addr + BitVec.ofNat 32 index) =
      .ok ((memory.dataMem.data (memory.dataMem.offset addr + index)).signExtend 32) := by
  have room : memory.dataMem.offset addr + width ≤ memory.dataMem.memLen.toNat := holds
  have small := memory.dataMem.memLen.isLt
  have place : memory.dataMem.offset (addr + BitVec.ofNat 32 index) =
      memory.dataMem.offset addr + index := memory.dataMem.offset_add (by omega)
  have isData : memory.isdata (addr + BitVec.ofNat 32 index) = true := by
    refine (contains_iff memory.dataMem _).mpr ?_
    rw [place]
    omega
  have fits : memory.dataMem.offset addr + index + 1 ≤ memory.dataMem.size := by omega
  rw [Memory.read8, Memory.readWith, Memory.readSegment, if_pos isData]
  change memory.dataMem.read8 (addr + BitVec.ofNat 32 index) = _
  rw [Segment.read8, Segment.access, place, if_pos fits, map_ok]

theorem syscall_unlink {cfg : Config} {s : Machine} {name : List Byte}
    (number : s.cpu.reg 17 = sysUnlink) (path : s.memory.HoldsString (s.cpu.reg 10) name)
    (allocated : s.memory.dataMem.size = s.memory.dataMem.memLen.toNat)
    (inside : s.memory.dataMem.Holds (s.cpu.reg 10) (name.length + 1)) :
    ∃ t, syscall cfg s = .ok t ∧ requests t.events = .unlink name :: requests s.events := by
  have room : s.memory.dataMem.offset (s.cpu.reg 10) + (name.length + 1) ≤
      s.memory.dataMem.memLen.toNat := inside
  have isData : s.memory.isdata (s.cpu.reg 10) = true :=
    (contains_iff s.memory.dataMem _).mpr (by omega)
  have injective : ∀ b c : Byte, b.signExtend 32 = c.signExtend 32 → b = c := by
    intro b c same
    rw [← setWidth_signExtend b, same, setWidth_signExtend]
  have whole : s.memory.cString (.data (s.memory.dataMem.offset (s.cpu.reg 10))) = .ok name := by
    refine cString_of_chars _ (by omega) ?_ path.nonzero ?_
    · intro index within
      refine injective _ _ ?_
      have read := path.chars index within
      rw [read8_of_holds allocated inside (Nat.lt_succ_of_lt within), Except.ok.injEq] at read
      exact read
    · refine injective _ _ ?_
      have read := path.ends
      rw [read8_of_holds allocated inside (Nat.lt_succ_self _), Except.ok.injEq] at read
      exact read
  have call : syscall cfg s = (doUnlink cfg s (s.cpu.reg 10)).map Machine.returnA0 := by
    rw [syscall, number]
    rfl
  rw [call, doUnlink, Memory.getPtr, if_pos isData, ok_bind, whole]
  exact ⟨_, rfl, rfl⟩

def nameMemory (name : List Byte) : Memory where
  insnMem := Segment.ofWords 0 0x100 []
  dataMem :=
    { memBase := 0x20000000
      memLen := 0x200
      size := 0x200
      data := fun off => name.getD off 0 }

def namingMachine (name : List Byte) (mode : OpenMode) : Machine :=
  (((Simulator.boot (nameMemory name) 0 0).machine.setReg 10 0x20000000).setReg 11
    mode.newlib).setReg 17 sysOpen

theorem read8_nameMemory (name : List Byte) {index : Nat} (inside : index < 0x200) :
    (nameMemory name).read8 (0x20000000 + BitVec.ofNat 32 index) =
      .ok ((name.getD index 0).signExtend 32) := by
  have first : (nameMemory name).dataMem.offset 0x20000000 = 0 := by
    simp [nameMemory, Segment.offset]
  have holds : (nameMemory name).dataMem.Holds 0x20000000 0x200 := by
    unfold Segment.Holds
    rw [first]
    exact Nat.le_of_eq rfl
  rw [read8_of_holds rfl holds inside, first, Nat.zero_add]
  rfl

theorem nameMemory_holds {name : List Byte} (nonzero : 0 ∉ name) (fits : name.length < 0x200) :
    (nameMemory name).HoldsString 0x20000000 name where
  chars := by
    intro index inside
    rw [read8_nameMemory name (by omega), List.getD_eq_getElem?_getD, List.getElem?_eq_getElem inside,
      Option.getD_some]
  nonzero := nonzero
  ends := by
    rw [read8_nameMemory name fits, List.getD_eq_getElem?_getD,
      List.getElem?_eq_none (Nat.le_refl _)]
    rfl

theorem open_names_short :
    OpensNamed (namingMachine [0x61, 0x62] ⟨.writeOnly, true, true, false⟩) [0x61, 0x62]
        ⟨.writeOnly, true, true, false⟩
        (syscall (.standard .silent)
          (namingMachine [0x61, 0x62] ⟨.writeOnly, true, true, false⟩)) ↔
      [(0x61 : Byte), 0x62].length ≤ 255 :=
  open_names_iff (.standard .silent) (namingMachine [0x61, 0x62] ⟨.writeOnly, true, true, false⟩)
    [0x61, 0x62] ⟨.writeOnly, true, true, false⟩ rfl
    (nameMemory_holds (by decide) (by decide)) rfl

/-- A name of 256 characters: the file with the first 255 of them is created or truncated. -/
theorem open_cuts_name :
    ¬ ∀ (cfg : Config) (s : Machine) (name : List Byte) (mode : OpenMode),
      s.cpu.reg 17 = sysOpen → s.memory.HoldsString (s.cpu.reg 10) name →
        s.cpu.reg 11 = mode.newlib → OpensNamed s name mode (syscall cfg s) := by
  intro always
  let name : List Byte := List.replicate 256 0x61
  let mode : OpenMode := ⟨.writeOnly, true, true, false⟩
  have holds : (nameMemory name).HoldsString 0x20000000 name := by
    refine nameMemory_holds ?_ ?_
    · intro zero
      exact absurd (List.eq_of_mem_replicate zero) (by decide)
    · rw [List.length_replicate]
      decide
  obtain ⟨t, called, events⟩ := @syscall_open (.standard .silent) (namingMachine name mode) name mode
    rfl holds rfl
  have named := always (.standard .silent) (namingMachine name mode) name mode rfl holds rfl
  rw [called] at named
  cases named with
  | refused result unchanged =>
      rw [unchanged] at events
      exact absurd (congrArg List.length events) (by simp)
  | opened named =>
      rw [events, List.cons.injEq, HostEvent.open.injEq] at named
      have short := congrArg List.length named.1.1
      rw [List.length_take, List.length_replicate] at short
      omega

end RiscVFast
