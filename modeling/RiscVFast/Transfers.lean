import RiscVFast.Bounds

/-! The guest buffers of the system calls that move bytes. `getPtr` checks their first byte only. -/

namespace RiscVFast

open Fallible

inductive TransferCall
  | read | write | gettimeofday
deriving DecidableEq

namespace TransferCall

def number : TransferCall → Word
  | read => sysRead
  | write => sysWrite
  | gettimeofday => sysGettimeofday

def buffer (s : Machine) : TransferCall → Word
  | read | write => s.cpu.reg 11
  | gettimeofday => s.cpu.reg 10

end TransferCall

def InputGives (fgetc : Nat → Option Byte) (index n : Nat) : Prop :=
  ∀ i < n, ∃ c, fgetc (index + i) = some c ∧ (c = 0x0a → i + 1 = n)

/-- The call has a use for `n` bytes of its buffer: with the file descriptor in `a0`, the count in
`a2` and what the host gives. -/
def TransferCall.Wants (cfg : Config) (s : Machine) : TransferCall → Nat → Prop
  | read, n =>
      if s.cpu.reg 10 = 0 then
        n ≤ intCount (s.cpu.reg 12) ∧ InputGives cfg.host.fgetc s.calls n
      else if s.cpu.reg 10 = 1 ∨ s.cpu.reg 10 = 2 then n = 0
      else ∃ bytes, cfg.host.read s.calls = some bytes ∧
        n = min bytes.length (sizeCount (s.cpu.reg 12))
  | write, n =>
      if s.cpu.reg 10 = 1 ∨ s.cpu.reg 10 = 2 then n = intCount (s.cpu.reg 12)
      else if (s.cpu.reg 10).sle 0 then n = 0
      else n = writtenCount (cfg.host.result s.calls) (s.cpu.reg 12)
  | gettimeofday, n => n = 12

def Segment.ContainsAll (seg : Segment) (addr : Word) (n : Nat) : Prop :=
  ∀ i < n, seg.contains (addr + BitVec.ofNat 32 i) = true

/-- How a call ends that stays inside the segment of the first byte: it fails at once, it leaves
the memory alone, or the bytes that it stores or sends are all in that segment. -/
inductive Contained (s : Machine) (addr : Word) : Except Abort Machine → Prop
  | refused : Contained s addr (.error (.fatal "getPtr: Bad memory access 0x%08x\n" addr))
  | nothing {t : Machine} (memory : t.memory = s.memory) (events : t.events = s.events) :
      Contained s addr (.ok t)
  | stored {t : Machine} {seg : Segment} {ptr : HostPtr} {bytes : List Byte}
      (first : s.memory.readSegment addr = some seg) (isPtr : s.memory.getPtr addr = .ok ptr)
      (memory : s.memory.poke ptr bytes = .ok t.memory)
      (inside : seg.ContainsAll addr bytes.length) : Contained s addr (.ok t)
  | sent {t : Machine} {seg : Segment} {ptr : HostPtr} {fd : Word} {bytes : List Byte}
      (first : s.memory.readSegment addr = some seg) (isPtr : s.memory.getPtr addr = .ok ptr)
      (fetched : s.memory.peek ptr bytes.length = .ok bytes)
      (events : t.events = .write fd bytes :: s.events)
      (inside : seg.ContainsAll addr bytes.length) : Contained s addr (.ok t)

theorem containsAll_iff {seg : Segment} {addr : Word} (first : seg.contains addr = true) (n : Nat) :
    seg.ContainsAll addr n ↔ seg.Holds addr n := by
  rw [contains_iff] at first
  have small := seg.memLen.isLt
  constructor
  · intro all
    by_contra overflows
    unfold Segment.Holds at overflows
    -- the first byte behind the segment
    have beyond := (contains_iff seg _).mp
      (all (seg.memLen.toNat - seg.offset addr) (by omega))
    unfold Segment.offset at first beyond overflows
    have place : (addr + BitVec.ofNat 32 (seg.memLen.toNat - (addr - seg.memBase).toNat) -
        seg.memBase).toNat = seg.memLen.toNat := by
      have parts : addr + BitVec.ofNat 32 (seg.memLen.toNat - (addr - seg.memBase).toNat) -
          seg.memBase = (addr - seg.memBase) +
            BitVec.ofNat 32 (seg.memLen.toNat - (addr - seg.memBase).toNat) := by bv_omega
      rw [parts, BitVec.toNat_add, BitVec.toNat_ofNat]
      omega
    omega
  · intro holds i below
    unfold Segment.Holds at holds
    refine Segment.Holds.near (show seg.Holds addr n from holds) ?_
    have index : addr + BitVec.ofNat 32 i - addr = BitVec.ofNat 32 i := by bv_omega
    rw [index, BitVec.toNat_ofNat]
    omega

theorem Segment.Holds.mono {seg : Segment} {addr : Word} {n m : Nat} (holds : seg.Holds addr m)
    (fewer : n ≤ m) : seg.Holds addr n := by
  unfold Segment.Holds at holds ⊢
  omega

structure BufferAt (memory : Memory) (addr : Word) (seg : Segment) (ptr : HostPtr) : Prop where
  first : memory.readSegment addr = some seg
  contains : seg.contains addr = true
  isPtr : memory.getPtr addr = .ok ptr
  poke : ∀ bytes, seg.Holds addr bytes.length → ∃ after, memory.poke ptr bytes = .ok after
  pokeBeyond : ∀ bytes, ¬ seg.Holds addr bytes.length →
    memory.poke ptr bytes = .error .outOfBuffer
  peek : ∀ n, seg.Holds addr n → ∃ bytes, memory.peek ptr n = .ok bytes ∧ bytes.length = n
  peekBeyond : ∀ n, ¬ seg.Holds addr n → memory.peek ptr n = .error .outOfBuffer

theorem Segment.poke_holds {seg : Segment} {addr : Word} (allocated : seg.size = seg.memLen.toNat)
    {bytes : List Byte} (holds : seg.Holds addr bytes.length) :
    ∃ after, seg.poke (seg.offset addr) bytes = .ok after := by
  unfold Segment.Holds at holds
  unfold Segment.poke
  by_cases none : bytes = []
  · exact ⟨seg, if_pos none⟩
  · rw [if_neg none, if_pos (by omega)]
    exact ⟨_, rfl⟩

theorem Segment.poke_beyond {seg : Segment} {addr : Word} (contains : seg.contains addr = true)
    (allocated : seg.size = seg.memLen.toNat) {bytes : List Byte}
    (beyond : ¬ seg.Holds addr bytes.length) :
    seg.poke (seg.offset addr) bytes = .error .outOfBuffer := by
  rw [contains_iff] at contains
  unfold Segment.Holds at beyond
  have some : bytes ≠ [] := by
    rintro rfl
    rw [List.length_nil] at beyond
    omega
  rw [Segment.poke, if_neg some, if_neg (by omega)]

theorem Segment.peek_holds {seg : Segment} {addr : Word} (allocated : seg.size = seg.memLen.toNat)
    {n : Nat} (holds : seg.Holds addr n) :
    ∃ bytes, seg.peek (seg.offset addr) n = .ok bytes ∧ bytes.length = n := by
  unfold Segment.Holds at holds
  unfold Segment.peek
  by_cases none : n = 0
  · exact ⟨[], if_pos none, none.symm⟩
  · rw [if_neg none, if_pos (by omega)]
    exact ⟨_, rfl, by simp⟩

theorem Segment.peek_beyond {seg : Segment} {addr : Word} (contains : seg.contains addr = true)
    (allocated : seg.size = seg.memLen.toNat) {n : Nat} (beyond : ¬ seg.Holds addr n) :
    seg.peek (seg.offset addr) n = .error .outOfBuffer := by
  rw [contains_iff] at contains
  unfold Segment.Holds at beyond
  rw [Segment.peek, if_neg (by omega), if_neg (by omega)]

theorem bufferAt_data {memory : Memory} (allocated : memory.Allocated) {addr : Word}
    (isData : memory.isdata addr = true) :
    BufferAt memory addr memory.dataMem (.data (memory.dataMem.offset addr)) where
  first := if_pos isData
  contains := isData
  isPtr := if_pos isData
  poke := fun bytes holds => by
    obtain ⟨after, stored⟩ := Segment.poke_holds allocated.data holds
    exact ⟨{ memory with dataMem := after }, by rw [Memory.poke, stored, map_ok]⟩
  pokeBeyond := fun bytes beyond => by
    rw [Memory.poke, Segment.poke_beyond isData allocated.data beyond, map_error]
  peek := fun n holds => Segment.peek_holds allocated.data holds
  peekBeyond := fun n beyond => Segment.peek_beyond isData allocated.data beyond

theorem bufferAt_text {memory : Memory} (allocated : memory.Allocated) {addr : Word}
    (notData : memory.isdata addr = false) (isText : memory.istext addr = true) :
    BufferAt memory addr memory.insnMem (.text (memory.insnMem.offset addr)) where
  first := by rw [Memory.readSegment, notData, if_neg Bool.false_ne_true, if_pos isText]
  contains := isText
  isPtr := by rw [Memory.getPtr, notData, if_neg Bool.false_ne_true, if_pos isText]
  poke := fun bytes holds => by
    obtain ⟨after, stored⟩ := Segment.poke_holds allocated.text holds
    exact ⟨{ memory with insnMem := after }, by rw [Memory.poke, stored, map_ok]⟩
  pokeBeyond := fun bytes beyond => by
    rw [Memory.poke, Segment.poke_beyond isText allocated.text beyond, map_error]
  peek := fun n holds => Segment.peek_holds allocated.text holds
  peekBeyond := fun n beyond => Segment.peek_beyond isText allocated.text beyond

theorem bufferAt_or_refused {memory : Memory} (allocated : memory.Allocated) (addr : Word) :
    (∃ seg ptr, BufferAt memory addr seg ptr) ∨
      memory.readSegment addr = none ∧
        memory.getPtr addr = .error (.fatal "getPtr: Bad memory access 0x%08x\n" addr) := by
  cases isData : memory.isdata addr with
  | true => exact .inl ⟨_, _, bufferAt_data allocated isData⟩
  | false =>
      cases isText : memory.istext addr with
      | true => exact .inl ⟨_, _, bufferAt_text allocated isData isText⟩
      | false => exact .inr ⟨by simp [Memory.readSegment, isData, isText],
          by simp [Memory.getPtr, isData, isText]⟩

theorem inputGives_readLine (fgetc : Nat → Option Byte) (count index : Nat) :
    (readLine fgetc count index).1.length ≤ count ∧
      InputGives fgetc index (readLine fgetc count index).1.length := by
  induction count generalizing index with
  | zero =>
      refine ⟨Nat.le_refl 0, ?_⟩
      intro i below
      exact absurd below (Nat.not_lt_zero i)
  | succ count ih =>
      unfold readLine
      cases given : fgetc index with
      | none =>
          refine ⟨Nat.zero_le _, ?_⟩
          intro i below
          exact absurd below (Nat.not_lt_zero i)
      | some c =>
          by_cases newline : c = 0x0a
          · simp only [newline, if_true, List.length_singleton]
            refine ⟨by omega, ?_⟩
            intro i below
            obtain rfl : i = 0 := by omega
            exact ⟨c, given, fun _ => rfl⟩
          · obtain ⟨fits, gives⟩ := ih (index + 1)
            simp only [newline, if_false, List.length_cons]
            refine ⟨by omega, ?_⟩
            intro i below
            cases i with
            | zero => exact ⟨c, given, fun isNewline => absurd isNewline newline⟩
            | succ i =>
                obtain ⟨next, isNext, last⟩ := gives i (by omega)
                refine ⟨next, ?_, fun isNewline => by rw [last isNewline]⟩
                rw [← isNext]
                congr 1
                omega

theorem readLine_of_inputGives {fgetc : Nat → Option Byte} {count index n : Nat}
    (fits : n ≤ count) (gives : InputGives fgetc index n) :
    n ≤ (readLine fgetc count index).1.length := by
  induction count generalizing index n with
  | zero => omega
  | succ count ih =>
      cases n with
      | zero => exact Nat.zero_le _
      | succ n =>
          obtain ⟨c, given, last⟩ := gives 0 (by omega)
          rw [Nat.add_zero] at given
          unfold readLine
          rw [given]
          by_cases newline : c = 0x0a
          · simp only [newline, if_true, List.length_singleton]
            have := last newline
            omega
          · simp only [newline, if_false, List.length_cons]
            refine Nat.succ_le_succ (ih (by omega) ?_)
            intro i below
            obtain ⟨next, isNext, ends⟩ := gives (i + 1) (by omega)
            refine ⟨next, ?_, fun isNewline => by have := ends isNewline; omega⟩
            rw [← isNext]
            congr 1
            omega

theorem read_wants_iff (cfg : Config) (s : Machine) (seg : Segment) (addr : Word)
    (contains : seg.contains addr = true) :
    (∀ n, TransferCall.Wants cfg s .read n → seg.Holds addr n) ↔
      seg.Holds addr (readBytes cfg s.calls (s.cpu.reg 10) (s.cpu.reg 12)).1.length := by
  have empty : seg.Holds addr 0 := Nat.le_of_lt ((contains_iff seg addr).mp contains)
  unfold TransferCall.Wants readBytes
  by_cases input : s.cpu.reg 10 = 0
  · simp only [input, if_true]
    obtain ⟨fits, gives⟩ :=
      inputGives_readLine cfg.host.fgetc (intCount (s.cpu.reg 12)) s.calls
    constructor
    · exact fun holds => holds _ ⟨fits, gives⟩
    · intro holds n wanted
      exact holds.mono (readLine_of_inputGives wanted.1 wanted.2)
  · simp only [input, if_false]
    by_cases output : s.cpu.reg 10 = 1 ∨ s.cpu.reg 10 = 2
    · simp only [output, if_true, List.length_nil]
      refine iff_of_true ?_ empty
      rintro n rfl
      exact empty
    · simp only [output, if_false]
      cases given : cfg.host.read s.calls with
      | none => simpa using empty
      | some bytes => simp [Nat.min_comm]

section Calls

variable {cfg : Config} {s : Machine} {addr : Word} {seg : Segment} {ptr : HostPtr}
  {outcome : Except Abort Machine}

theorem not_contained_outOfBuffer : ¬ Contained s addr (.error .outOfBuffer) := by
  intro contained
  cases contained

theorem contained_of_poke (buffer : BufferAt s.memory addr seg ptr) {bytes : List Byte}
    {finish : Memory → Machine} (memory : ∀ after, (finish after).memory = after)
    (isOutcome : outcome = (s.memory.poke ptr bytes).map finish) :
    Contained s addr outcome ↔ seg.Holds addr bytes.length := by
  by_cases holds : seg.Holds addr bytes.length
  · obtain ⟨after, poked⟩ := buffer.poke bytes holds
    rw [isOutcome, poked, map_ok]
    have stored : s.memory.poke ptr bytes = .ok (finish after).memory := by
      rw [memory]
      exact poked
    exact iff_of_true (.stored buffer.first buffer.isPtr stored
      ((containsAll_iff buffer.contains _).mpr holds)) holds
  · rw [isOutcome, buffer.pokeBeyond bytes holds, map_error]
    exact iff_of_false not_contained_outOfBuffer holds

theorem contained_of_peek (buffer : BufferAt s.memory addr seg ptr) {n : Nat} (fd : Word)
    {finish : List Byte → Machine}
    (events : ∀ bytes, (finish bytes).events = .write fd bytes :: s.events)
    (isOutcome : outcome = (s.memory.peek ptr n).map finish) :
    Contained s addr outcome ↔ seg.Holds addr n := by
  by_cases holds : seg.Holds addr n
  · obtain ⟨bytes, peeked, length⟩ := buffer.peek n holds
    rw [isOutcome, peeked, map_ok]
    refine iff_of_true (.sent buffer.first buffer.isPtr ?_ (events bytes) ?_) holds
    · rw [length]
      exact peeked
    · rw [length]
      exact (containsAll_iff buffer.contains n).mpr holds
  · rw [isOutcome, buffer.peekBeyond n holds, map_error]
    exact iff_of_false not_contained_outOfBuffer holds

theorem syscall_gettimeofday (number : s.cpu.reg 17 = sysGettimeofday) :
    syscall cfg s = (doGettimeofday cfg s (s.cpu.reg 10)).map Machine.returnA0 := by
  rw [syscall, number]
  rfl

theorem syscall_read (number : s.cpu.reg 17 = sysRead) :
    syscall cfg s =
      (doRead cfg s (s.cpu.reg 10) (s.cpu.reg 11) (s.cpu.reg 12)).map Machine.returnA0 := by
  rw [syscall, number]
  rfl

theorem syscall_write (number : s.cpu.reg 17 = sysWrite) :
    syscall cfg s =
      (doWrite cfg s (s.cpu.reg 10) (s.cpu.reg 11) (s.cpu.reg 12)).map Machine.returnA0 := by
  rw [syscall, number]
  rfl

theorem gettimeofday_contained (number : s.cpu.reg 17 = sysGettimeofday)
    (buffer : BufferAt s.memory (s.cpu.reg 10) seg ptr) :
    Contained s (s.cpu.reg 10) (syscall cfg s) ↔ seg.Holds (s.cpu.reg 10) 12 := by
  let time := cfg.host.timeOfDay s.calls
  let bytes := bytesOf 4 (time.1.setWidth 32) ++ bytesOf 4 ((time.1 >>> 32).setWidth 32) ++
    bytesOf 4 time.2
  have length : bytes.length = 12 := rfl
  rw [← length]
  refine @contained_of_poke s _ _ _ _ buffer bytes
    (fun after => Machine.returnA0 (0, { s with calls := s.calls + 1, memory := after }))
    (fun after => rfl) ?_
  rw [syscall_gettimeofday number, doGettimeofday, buffer.isPtr, ok_bind]
  simp only [Machine.ask, Machine.store]
  cases s.memory.poke ptr bytes <;> rfl

theorem read_contained (number : s.cpu.reg 17 = sysRead)
    (buffer : BufferAt s.memory (s.cpu.reg 11) seg ptr) :
    Contained s (s.cpu.reg 11) (syscall cfg s) ↔
      ∀ n, TransferCall.Wants cfg s .read n → seg.Holds (s.cpu.reg 11) n := by
  rw [read_wants_iff cfg s seg _ buffer.contains]
  let taken := readBytes cfg s.calls (s.cpu.reg 10) (s.cpu.reg 12)
  refine @contained_of_poke s _ _ _ _ buffer taken.1
    (fun after => Machine.returnA0
      (taken.2.1, { s with calls := s.calls + taken.2.2, memory := after }))
    (fun after => rfl) ?_
  rw [syscall_read number, doRead, buffer.isPtr, ok_bind]
  simp only [Machine.store]
  cases s.memory.poke ptr taken.1 <;> rfl

theorem write_contained (number : s.cpu.reg 17 = sysWrite)
    (buffer : BufferAt s.memory (s.cpu.reg 11) seg ptr) :
    Contained s (s.cpu.reg 11) (syscall cfg s) ↔
      ∀ n, TransferCall.Wants cfg s .write n → seg.Holds (s.cpu.reg 11) n := by
  have empty : seg.Holds (s.cpu.reg 11) 0 :=
    Nat.le_of_lt ((contains_iff seg _).mp buffer.contains)
  rw [syscall_write number, doWrite, buffer.isPtr, ok_bind]
  unfold TransferCall.Wants
  by_cases output : s.cpu.reg 10 = 1 ∨ s.cpu.reg 10 = 2
  · simp only [output, if_true, forall_eq]
    refine @contained_of_peek s _ _ _ _ buffer _ (s.cpu.reg 10)
      (fun bytes => Machine.returnA0
        (BitVec.ofNat 32 bytes.length, s.emit (.write (s.cpu.reg 10) bytes)))
      (fun bytes => rfl) ?_
    cases s.memory.peek ptr (intCount (s.cpu.reg 12)) <;> rfl
  · by_cases closed : (s.cpu.reg 10).sle 0 = true
    · simp only [output, closed, if_true, if_false, forall_eq]
      exact iff_of_true (.nothing rfl rfl) empty
    · simp only [output, closed, if_false, Bool.false_eq_true, forall_eq, Machine.ask]
      refine @contained_of_peek s _ _ _ _ buffer _ (s.cpu.reg 10)
        (fun bytes => Machine.returnA0 (cfg.host.result s.calls,
          { s with
            calls := s.calls + 1
            events := .write (s.cpu.reg 10) bytes :: s.events }))
        (fun bytes => rfl) ?_
      cases s.memory.peek ptr (writtenCount (cfg.host.result s.calls) (s.cpu.reg 12)) <;> rfl

theorem refused_contained (call : TransferCall) (number : s.cpu.reg 17 = call.number)
    (refused : s.memory.getPtr (call.buffer s) =
      .error (.fatal "getPtr: Bad memory access 0x%08x\n" (call.buffer s))) :
    Contained s (call.buffer s) (syscall cfg s) := by
  have failed : syscall cfg s =
      .error (.fatal "getPtr: Bad memory access 0x%08x\n" (call.buffer s)) := by
    cases call with
    | read =>
        rw [syscall_read number, doRead, show s.memory.getPtr (s.cpu.reg 11) = _ from refused]
        rfl
    | write =>
        rw [syscall_write number, doWrite, show s.memory.getPtr (s.cpu.reg 11) = _ from refused]
        rfl
    | gettimeofday =>
        rw [syscall_gettimeofday number, doGettimeofday,
          show s.memory.getPtr (s.cpu.reg 10) = _ from refused]
        rfl
  rw [failed]
  exact .refused

/-- A call stays inside the segment of its buffer's first byte exactly when all the bytes that it
has a use for are there. -/
theorem transfers_contained_iff (cfg : Config) (s : Machine) (call : TransferCall)
    (allocated : s.memory.Allocated) (number : s.cpu.reg 17 = call.number) :
    Contained s (call.buffer s) (syscall cfg s) ↔
      ∀ seg, s.memory.readSegment (call.buffer s) = some seg → ∀ n, call.Wants cfg s n →
        seg.Holds (call.buffer s) n := by
  rcases bufferAt_or_refused allocated (call.buffer s) with ⟨seg, ptr, buffer⟩ | ⟨none, refused⟩
  · have single : (∀ seg, s.memory.readSegment (call.buffer s) = some seg → ∀ n,
        call.Wants cfg s n → seg.Holds (call.buffer s) n) ↔
          ∀ n, call.Wants cfg s n → seg.Holds (call.buffer s) n := by
      simp [buffer.first]
    rw [single]
    cases call with
    | read => exact read_contained number buffer
    | write => exact write_contained number buffer
    | gettimeofday =>
        rw [show TransferCall.Wants cfg s .gettimeofday = (· = 12) from rfl]
        simp only [forall_eq]
        exact gettimeofday_contained number buffer
  · refine iff_of_true (refused_contained call number refused) ?_
    intro seg found
    rw [none] at found
    cases found

def callingMachine (call : TransferCall) (a0 a1 a2 : Word) : Machine :=
  let s := (Simulator.boot (smallMemory 0x20000000 []) 0 0).machine
  (((s.setReg 10 a0).setReg 11 a1).setReg 12 a2).setReg 17 call.number

theorem callingMachine_allocated (call : TransferCall) (a0 a1 a2 : Word) :
    (callingMachine call a0 a1 a2).memory.Allocated := ⟨rfl, rfl⟩

theorem callingMachine_number (call : TransferCall) (a0 a1 a2 : Word) :
    (callingMachine call a0 a1 a2).cpu.reg 17 = call.number := by
  simp [callingMachine, Machine.setReg]

theorem transfers_contained_write :
    Contained (callingMachine .write 1 0x200000fc 4)
      (TransferCall.buffer (callingMachine .write 1 0x200000fc 4) .write)
      (syscall (.standard .silent) (callingMachine .write 1 0x200000fc 4)) := by
  refine (transfers_contained_iff (.standard .silent) _ .write (callingMachine_allocated _ _ _ _)
    (callingMachine_number _ _ _ _)).mpr ?_
  intro seg found n wanted
  have data : (smallMemory 0x20000000 []).dataMem = seg := Option.some.inj found
  rw [← data]
  obtain rfl : n = 4 := wanted
  unfold Segment.Holds
  decide +kernel

/-- A write of one byte more: `getPtr` takes the address and the loop leaves the segment. -/
theorem transfers_overrun : ¬ ∀ (cfg : Config) (s : Machine) (call : TransferCall),
    s.memory.Allocated → s.cpu.reg 17 = call.number →
      Contained s (call.buffer s) (syscall cfg s) := by
  intro contained
  let s := callingMachine .write 1 0x200000fc 5
  have overrun : (syscall (.standard .silent) s).map (fun _ => ()) = .error .outOfBuffer := by
    decide +kernel
  have called := contained (.standard .silent) s .write (callingMachine_allocated _ _ _ _)
    (callingMachine_number _ _ _ _)
  rw [map_eq_error.mp overrun] at called
  exact not_contained_outOfBuffer called

end Calls

end RiscVFast
