import RiscVFast.FileNames
import RiscVFast.Outputs
import RiscVFast.Transfers

/-! What a program under newlib asks for, and what it is given. -/

namespace RiscVFast

open Rv32i hiding Word
open Fallible StoreLog

structure Process where
  hart : Hart
  heap : Word
  answers : Nat

/-- What a call gives: the result, what it puts into memory, the break, and how often the host is
asked, and for what. -/
structure Reply where
  result : Word
  stored : Option (Store 32 Byte)
  heap : Word
  used : Nat
  heard : List HostEvent

def Process.resume (process : Process) (reply : Reply) : Process where
  hart :=
    { pc := process.hart.pc + 4
      memory :=
        { regs := writeReg process.hart.memory.regs 10 reply.result
          stores := reply.stored.toList ++ process.hart.memory.stores } }
  heap := reply.heap
  answers := process.answers + reply.used

def Process.arg (process : Process) (index : Reg) : Word := process.hart.memory.regs index

/-- A line of the standard input, cut off at `limit`, and how many characters it takes: the end of
the input is one more. -/
inductive Line (fgetc : Nat → Option Byte) : Nat → Nat → List Byte → Nat → Prop
  | full (index : Nat) : Line fgetc index 0 [] 0
  | ended {index : Nat} (limit : Nat) (none : fgetc index = none) :
      Line fgetc index (limit + 1) [] 1
  | newline {index : Nat} (limit : Nat) (given : fgetc index = some 0x0a) :
      Line fgetc index (limit + 1) [0x0a] 1
  | character {index limit used : Nat} {c : Byte} {line : List Byte}
      (given : fgetc index = some c) (inner : c ≠ 0x0a)
      (rest : Line fgetc (index + 1) limit line used) :
      Line fgetc index (limit + 1) (c :: line) (used + 1)

structure Names (start : Memory) (hart : Hart) (addr : Word) (name : List Byte) : Prop where
  readable : start.Readable addr (name.length + 1)
  chars : ∀ (index : Nat) (inside : index < name.length),
    latest start.byteAt hart.memory.stores (addr + BitVec.ofNat 32 index) = name[index]
  nonzero : 0 ∉ name
  ends : latest start.byteAt hart.memory.stores (addr + BitVec.ofNat 32 name.length) = 0

def bytesFrom (start : Memory) (hart : Hart) (addr : Word) (count : Nat) : List Byte :=
  (List.range count).map fun index =>
    latest start.byteAt hart.memory.stores (addr + BitVec.ofNat 32 index)

def timeBytes (time : BitVec 64 × Word) : List Byte :=
  bytesOf 4 (time.1.setWidth 32) ++ bytesOf 4 ((time.1 >>> 32).setWidth 32) ++ bytesOf 4 time.2

def seekLine (fd offset whence : Word) : HostEvent :=
  .printf "sys_lseek: fd = %d, offset = %08x, whence = %d\n" [.word fd, .word offset, .word whence]

def openLines (name : List Byte) (flags mode : Word) : List HostEvent :=
  flagLines flags ++
    [.printf "Open %s, Flags %04x, Mode = 0%03o\n" [.chars name, .word flags, .word mode],
      .printf "  new_flags = %04x\n" [.word (openFlags flags)]]

inductive Refuses (start : Memory) (process : Process) : Word → List HostEvent → Prop
  | read (output : process.arg 10 = 1 ∨ process.arg 10 = 2)
      (buffer : start.Readable (process.arg 11) 1) : Refuses start process sysRead []
  | write (input : (process.arg 10).sle 0) (buffer : start.Readable (process.arg 11) 1) :
      Refuses start process sysWrite []
  | lseek (terminal : (process.arg 10).sle 2) :
      Refuses start process sysLseek [seekLine (process.arg 10) (process.arg 11) (process.arg 12)]

inductive Replies (cfg : Config) (start : Memory) (dataEnd : Word) (process : Process) :
    Reply → Prop
  | brk (calls : Calls cfg start process.hart sysBrk) :
      Replies cfg start dataEnd process
        { result := if process.arg 10 = 0 then alignedEnd dataEnd else process.arg 10
          stored := none
          heap := if process.arg 10 = 0 then alignedEnd dataEnd
            else process.arg 10 + process.arg 11
          used := 0
          heard := [] }
  | gettimeofday (calls : Calls cfg start process.hart sysGettimeofday)
      (buffer : start.dataMem.Holds (process.arg 10) 12) :
      Replies cfg start dataEnd process
        ⟨0, some ⟨process.arg 10, timeBytes (cfg.host.timeOfDay process.answers)⟩, process.heap, 1,
          []⟩
  | time (calls : Calls cfg start process.hart sysTime) :
      Replies cfg start dataEnd process
        ⟨cfg.host.time process.answers, none, process.heap, 1,
          [.printf "  Time=0x%08x\n" [.word (cfg.host.time process.answers)]]⟩
  | line (calls : Calls cfg start process.hart sysRead) (input : process.arg 10 = 0)
      {line : List Byte} {used : Nat}
      (given : Line cfg.host.fgetc process.answers (intCount (process.arg 12)) line used)
      (buffer : start.dataMem.Holds (process.arg 11) (max 1 line.length)) :
      Replies cfg start dataEnd process
        ⟨BitVec.ofNat 32 line.length, some ⟨process.arg 11, line⟩, process.heap, used, []⟩
  | read (calls : Calls cfg start process.hart sysRead)
      (file : process.arg 10 ≠ 0 ∧ process.arg 10 ≠ 1 ∧ process.arg 10 ≠ 2)
      {given bytes : List Byte} (answer : cfg.host.read process.answers = some given)
      (taken : bytes = given.take (sizeCount (process.arg 12)))
      (buffer : start.dataMem.Holds (process.arg 11) (max 1 bytes.length)) :
      Replies cfg start dataEnd process
        ⟨BitVec.ofNat 32 bytes.length, some ⟨process.arg 11, bytes⟩, process.heap, 1, []⟩
  | readFails (calls : Calls cfg start process.hart sysRead)
      (file : process.arg 10 ≠ 0 ∧ process.arg 10 ≠ 1 ∧ process.arg 10 ≠ 2)
      (none : cfg.host.read process.answers = none)
      (buffer : start.Readable (process.arg 11) 1) :
      Replies cfg start dataEnd process ⟨-1, .none, process.heap, 1, []⟩
  | print (calls : Calls cfg start process.hart sysWrite)
      (terminal : process.arg 10 = 1 ∨ process.arg 10 = 2)
      (buffer : start.Readable (process.arg 11) (max 1 (intCount (process.arg 12)))) :
      Replies cfg start dataEnd process
        ⟨BitVec.ofNat 32 (intCount (process.arg 12)), none, process.heap, 0,
          [.write (process.arg 10)
            (bytesFrom start process.hart (process.arg 11) (intCount (process.arg 12)))]⟩
  | write (calls : Calls cfg start process.hart sysWrite)
      (file : ¬ (process.arg 10).sle 0 ∧ process.arg 10 ≠ 1 ∧ process.arg 10 ≠ 2)
      {taken : Nat}
      (takes : taken = writtenCount (cfg.host.result process.answers) (process.arg 12))
      (buffer : start.Readable (process.arg 11) (max 1 taken)) :
      Replies cfg start dataEnd process
        ⟨cfg.host.result process.answers, none, process.heap, 1,
          [.write (process.arg 10) (bytesFrom start process.hart (process.arg 11) taken)]⟩
  | opens (calls : Calls cfg start process.hart sysOpen) {name : List Byte} {mode : OpenMode}
      (names : Names start process.hart (process.arg 10) name) (short : name.length ≤ 255)
      (flags : process.arg 11 = mode.newlib) :
      Replies cfg start dataEnd process
        ⟨cfg.host.result process.answers, none, process.heap, 1,
          openLines name (process.arg 11) (process.arg 12) ++
            [.open name mode.host (process.arg 12),
              .printf "  fd = %d\n" [.word (cfg.host.result process.answers)]]⟩
  | lseek (calls : Calls cfg start process.hart sysLseek) (file : ¬ (process.arg 10).sle 2) :
      Replies cfg start dataEnd process
        ⟨cfg.host.result process.answers, none, process.heap, 1,
          [seekLine (process.arg 10) (process.arg 11) (process.arg 12),
            .lseek (process.arg 10) (process.arg 11) (process.arg 12)]⟩
  | close (calls : Calls cfg start process.hart sysClose) (file : ¬ (process.arg 10).ule 2) :
      Replies cfg start dataEnd process
        ⟨cfg.host.result process.answers, none, process.heap, 1, [.close (process.arg 10)]⟩
  | keepsOpen (calls : Calls cfg start process.hart sysClose)
      (terminal : (process.arg 10).ule 2) :
      Replies cfg start dataEnd process ⟨0, none, process.heap, 0, []⟩
  | link (calls : Calls cfg start process.hart sysLink) {old new : List Byte}
      (oldNames : Names start process.hart (process.arg 10) old)
      (newNames : Names start process.hart (process.arg 11) new) :
      Replies cfg start dataEnd process
        ⟨cfg.host.result process.answers, none, process.heap, 1,
          [.printf "Link: %s, %s\n" [.chars old, .chars new], .link old new]⟩
  | unlink (calls : Calls cfg start process.hart sysUnlink) {name : List Byte}
      (names : Names start process.hart (process.arg 10) name) :
      Replies cfg start dataEnd process
        ⟨cfg.host.result process.answers, none, process.heap, 1,
          [.printf "Unlink: %s\n" [.chars name], .unlink name]⟩
  | fstat (calls : Calls cfg start process.hart sysFstat) :
      Replies cfg start dataEnd process ⟨0, none, process.heap, 0, []⟩
  | refused {number : Word} {heard : List HostEvent}
      (calls : Calls cfg start process.hart number)
      (refuses : Refuses start process number heard) :
      Replies cfg start dataEnd process ⟨-1, none, process.heap, 0, heard⟩

theorem Replies.calls {cfg : Config} {start : Memory} {dataEnd : Word} {process : Process}
    {reply : Reply} (replies : Replies cfg start dataEnd process reply) :
    ∃ number, Calls cfg start process.hart number := by
  cases replies <;> exact ⟨_, by assumption⟩

/-- An address in the segment that `getPtr` finds, as the host uses the pointer. -/
structure Pointed (memory : Memory) (addr : Word) (width : Nat) (seg : Segment) (ptr : HostPtr) :
    Prop where
  found : memory.getPtr addr = .ok ptr
  placed : seg.Placed
  holds : seg.Holds addr width
  bytes : ∀ index < width,
    memory.byteAt (addr + BitVec.ofNat 32 index) = seg.data (seg.offset addr + index)
  peek : ∀ count, memory.peek ptr count = seg.peek (seg.offset addr) count
  cString : memory.cString ptr = cString seg (seg.size - seg.offset addr) (seg.offset addr)

theorem Segment.Holds.part {seg : Segment} {addr : Word} {width index : Nat}
    (holds : seg.Holds addr width) (inside : index < width) :
    seg.offset (addr + BitVec.ofNat 32 index) = seg.offset addr + index ∧
      seg.contains (addr + BitVec.ofNat 32 index) = true := by
  unfold Segment.Holds at holds
  have small := seg.memLen.isLt
  have offset : seg.offset (addr + BitVec.ofNat 32 index) = seg.offset addr + index :=
    seg.offset_add (by omega)
  exact ⟨offset, (contains_iff seg _).mpr (by omega)⟩

theorem pointed_of_readable {memory : Memory} (placed : memory.Placed) {addr : Word} {width : Nat}
    (readable : memory.Readable addr width) (positive : 0 < width) :
    ∃ seg ptr, Pointed memory addr width seg ptr := by
  have self : (addr - addr).toNat < width := by
    rw [BitVec.sub_self]
    exact positive
  rcases readable with data | text
  · have isdata : memory.isdata addr = true := data.near self
    refine ⟨memory.dataMem, .data (memory.dataMem.offset addr), if_pos isdata, placed.data, data,
      ?_, fun _ => rfl, rfl⟩
    intro index below
    obtain ⟨offset, inside⟩ := data.part below
    rw [byteAt_data inside, offset]
  · have istext : memory.istext addr = true := text.near self
    have notData := placed.notData istext
    refine ⟨memory.insnMem, .text (memory.insnMem.offset addr), ?_, placed.text, text, ?_,
      fun _ => rfl, rfl⟩
    · rw [Memory.getPtr, notData, if_neg Bool.false_ne_true, if_pos istext]
    · intro index below
      obtain ⟨offset, inside⟩ := text.part below
      rw [byteAt_text (placed.notData inside) inside, offset]

theorem Segment.peek_bytes {seg : Segment} (placed : seg.Placed) {addr : Word} {count : Nat}
    (holds : seg.Holds addr count) : seg.peek (seg.offset addr) count =
      .ok ((List.range count).map fun index => seg.data (seg.offset addr + index)) := by
  unfold Segment.Holds at holds
  unfold Segment.peek
  split
  · rename_i empty
    rw [empty]
    rfl
  · rw [if_pos (by rwa [placed.allocated])]

theorem Memory.Shows.readable {start memory : Memory} {stores : List (Store 32 Byte)}
    (shows : start.Shows stores memory) {addr : Word} {width : Nat}
    (buffer : start.Readable addr width) : memory.Readable addr width :=
  buffer.imp shows.layout.data.holds.mpr shows.layout.text.holds.mpr

theorem Memory.Shows.points {start memory : Memory} {stores : List (Store 32 Byte)}
    (shows : start.Shows stores memory) (placed : start.Placed) {addr : Word} {width : Nat}
    (buffer : start.Readable addr width) (positive : 0 < width) :
    ∃ seg ptr, Pointed memory addr width seg ptr :=
  pointed_of_readable (shows.layout.placed placed) (shows.readable buffer) positive

theorem Pointed.peeks {memory : Memory} {addr : Word} {count : Nat} {seg : Segment} {ptr : HostPtr}
    (pointed : Pointed memory addr (max 1 count) seg ptr) : memory.peek ptr count =
      .ok ((List.range count).map fun index => memory.byteAt (addr + BitVec.ofNat 32 index)) := by
  have holds := pointed.holds.mono (Nat.le_max_right 1 count)
  rw [pointed.peek, Segment.peek_bytes pointed.placed holds]
  refine congrArg Except.ok (List.map_congr_left ?_)
  intro index member
  have below := List.mem_range.mp member
  exact (pointed.bytes index (Nat.lt_of_lt_of_le below (Nat.le_max_right 1 count))).symm

theorem poke_shows {start memory : Memory} {stores : List (Store 32 Byte)} {addr : Word}
    {bytes : List Byte} (placed : memory.Placed) (shows : start.Shows stores memory)
    (holds : memory.dataMem.Holds addr (max 1 bytes.length)) :
    ∃ ptr written, memory.getPtr addr = .ok ptr ∧ memory.poke ptr bytes = .ok written ∧
      start.Shows (⟨addr, bytes⟩ :: stores) written := by
  have self : (addr - addr).toNat < max 1 bytes.length := by
    rw [BitVec.sub_self]
    exact Nat.lt_of_lt_of_le Nat.one_pos (Nat.le_max_left 1 _)
  have isdata : memory.isdata addr = true := holds.near self
  have within := holds.mono (Nat.le_max_right 1 bytes.length)
  have found : memory.getPtr addr = .ok (.data (memory.dataMem.offset addr)) := if_pos isdata
  by_cases empty : bytes = []
  · refine ⟨_, memory, found, ?_, shows.layout, shows.text, ?_⟩
    · rw [Memory.poke, Segment.poke, if_pos empty, map_ok]
    · intro other
      rw [empty]
      exact shows.bytes other
  · obtain ⟨written, stored, layout, changed⟩ := @writeWith_stored (.standard .silent) memory addr
      bytes (.inl within) placed (List.length_pos_iff.mpr empty)
    rw [Memory.writeWith, if_pos isdata, Segment.write, within.access placed.data] at stored
    obtain rfl := Except.ok.inj (Option.some.inj stored)
    refine ⟨_, _, found, ?_, shows.layout.trans layout, shows.text, ?_⟩
    · have fits : memory.dataMem.offset addr + bytes.length ≤ memory.dataMem.size := by
        rw [placed.data.allocated]
        exact within
      rw [Memory.poke, Segment.poke, if_neg empty, if_pos fits]
      rfl
    · intro other
      rw [changed other, shows.bytes other]
      rfl

theorem read8_readable {memory : Memory} (placed : memory.Placed) {addr : Word}
    {width index : Nat} (readable : memory.Readable addr width) (inside : index < width) :
    memory.read8 (addr + BitVec.ofNat 32 index) =
      .ok ((memory.byteAt (addr + BitVec.ofNat 32 index)).signExtend 32) := by
  have one {seg : Segment} (holds : seg.Holds addr width) :
      seg.Holds (addr + BitVec.ofNat 32 index) 1 := by
    obtain ⟨-, contains⟩ := holds.part inside
    exact (contains_iff seg _).mp contains
  have first : memory.Readable (addr + BitVec.ofNat 32 index) 1 := readable.imp one one
  obtain ⟨seg, found, access, bytes⟩ := first.served placed Nat.one_pos (by decide)
  have byte := bytes 0 Nat.one_pos
  rw [BitVec.add_zero, Nat.add_zero] at byte
  rw [Memory.read8, Memory.readWith, found]
  simp only [Segment.read8, access, map_ok, byte]

section Names

variable {start : Memory} {hart : Hart} {memory : Memory} {addr : Word} {name : List Byte}

theorem Names.holdsString (names : Names start hart addr name) (placed : memory.Placed)
    (shows : start.Shows hart.memory.stores memory) : memory.HoldsString addr name where
  chars := by
    intro index inside
    rw [read8_readable placed (shows.readable names.readable) (Nat.lt_succ_of_lt inside),
      shows.bytes, names.chars index inside]
  nonzero := names.nonzero
  ends := by
    rw [read8_readable placed (shows.readable names.readable) (Nat.lt_succ_self _), shows.bytes,
      names.ends]
    rfl

theorem Names.cString (names : Names start hart addr name) (placed : memory.Placed)
    (shows : start.Shows hart.memory.stores memory) :
    ∃ ptr, memory.getPtr addr = .ok ptr ∧ memory.cString ptr = .ok name := by
  obtain ⟨seg, ptr, pointed⟩ :=
    pointed_of_readable placed (shows.readable names.readable) (Nat.succ_pos _)
  have holds : seg.offset addr + (name.length + 1) ≤ seg.memLen.toNat := pointed.holds
  refine ⟨ptr, pointed.found, pointed.cString.trans (cString_of_chars _ ?_ ?_ names.nonzero ?_)⟩
  · rw [pointed.placed.allocated]
    omega
  · intro index inside
    rw [← pointed.bytes index (Nat.lt_succ_of_lt inside), shows.bytes, names.chars index inside]
  · rw [← pointed.bytes name.length (Nat.lt_succ_self _), shows.bytes, names.ends]

end Names

theorem readLine_of_line {fgetc : Nat → Option Byte} {index limit used : Nat} {line : List Byte}
    (given : Line fgetc index limit line used) : readLine fgetc limit index = (line, used) := by
  induction given with
  | full index => rfl
  | ended limit none => rw [readLine, none]
  | newline limit given =>
      rw [readLine, given]
      rfl
  | character given inner rest ih =>
      rw [readLine, given]
      simp only [if_neg inner, ih]

structure Process.On (start : Memory) (dataEnd : Word) (process : Process) (s : Machine) :
    Prop where
  regs : process.hart.memory.regs = s.cpu.reg
  shows : start.Shows process.hart.memory.stores s.memory
  heap : process.heap = s.cpu.heap
  answers : process.answers = s.calls
  dataEnd : dataEnd = s.cpu.endOfData

def Machine.served (s : Machine) (reply : Reply) (written : Memory) : Machine :=
  { s with
    cpu.heap := reply.heap
    memory := written
    calls := s.calls + reply.used
    events := reply.heard.reverse ++ s.events }

section Calls

variable {cfg : Config} {start : Memory} {dataEnd : Word} {process : Process} {s : Machine}
  {reply : Reply}

theorem syscall_lseek (number : s.cpu.reg 17 = sysLseek) : syscall cfg s = .ok
    (Machine.returnA0 (doLseek cfg s (s.cpu.reg 10) (s.cpu.reg 11) (s.cpu.reg 12))) := by
  rw [syscall, number]
  rfl

theorem syscall_close (number : s.cpu.reg 17 = sysClose) :
    syscall cfg s = .ok (Machine.returnA0 (doClose cfg s (s.cpu.reg 10))) := by
  rw [syscall, number]
  rfl

theorem poke_nil (memory : Memory) (ptr : HostPtr) : memory.poke ptr [] = .ok memory := by
  cases ptr <;> rfl

theorem doRead_eq {fd addr count result : Word} {ptr : HostPtr} {bytes : List Byte} {used : Nat}
    {written : Memory} (found : s.memory.getPtr addr = .ok ptr)
    (read : readBytes cfg s.calls fd count = (bytes, result, used))
    (poked : s.memory.poke ptr bytes = .ok written) :
    doRead cfg s fd addr count =
      .ok (result, { s with memory := written, calls := s.calls + used }) := by
  simp only [doRead, found, ok_bind, read, Machine.store, poked, map_ok]

theorem doWrite_terminal {fd addr count : Word} {ptr : HostPtr} {bytes : List Byte}
    (found : s.memory.getPtr addr = .ok ptr) (terminal : fd = 1 ∨ fd = 2)
    (peeked : s.memory.peek ptr (intCount count) = .ok bytes) :
    doWrite cfg s fd addr count = .ok (BitVec.ofNat 32 bytes.length, s.emit (.write fd bytes)) := by
  simp only [doWrite, found, ok_bind, if_pos terminal, peeked]

theorem doWrite_refused {fd addr count : Word} {ptr : HostPtr}
    (found : s.memory.getPtr addr = .ok ptr) (input : fd.sle 0) :
    doWrite cfg s fd addr count = .ok (-1, s) := by
  have notTerminal : ¬ (fd = 1 ∨ fd = 2) := by
    rintro (rfl | rfl)
    · exact absurd input (by decide)
    · exact absurd input (by decide)
  simp only [doWrite, found, ok_bind, if_neg notTerminal, if_pos input]

theorem doWrite_file {fd addr count : Word} {ptr : HostPtr} {bytes : List Byte}
    (found : s.memory.getPtr addr = .ok ptr) (file : ¬ fd.sle 0 ∧ fd ≠ 1 ∧ fd ≠ 2)
    (peeked : s.memory.peek ptr (writtenCount (cfg.host.result s.calls) count) = .ok bytes) :
    doWrite cfg s fd addr count = .ok (cfg.host.result s.calls,
      ({ s with calls := s.calls + 1 } : Machine).emit (.write fd bytes)) := by
  simp only [doWrite, found, ok_bind, if_neg (not_or.mpr file.2), if_neg file.1, Machine.ask,
    peeked]

theorem readBytes_standard {calls : Nat} {fd count : Word} (output : fd = 1 ∨ fd = 2) :
    readBytes cfg calls fd count = ([], -1, 0) := by
  have notInput : fd ≠ 0 := by
    rintro rfl
    exact absurd output (by decide)
  simp only [readBytes, if_neg notInput, if_pos output]

theorem readBytes_file {calls : Nat} {fd count : Word} (file : fd ≠ 0 ∧ fd ≠ 1 ∧ fd ≠ 2)
    {given : List Byte} (answer : cfg.host.read calls = some given) :
    readBytes cfg calls fd count = (given.take (sizeCount count),
      BitVec.ofNat 32 (given.take (sizeCount count)).length, 1) := by
  simp only [readBytes, if_neg file.1, if_neg (not_or.mpr file.2), answer]

theorem readBytes_fails {calls : Nat} {fd count : Word} (file : fd ≠ 0 ∧ fd ≠ 1 ∧ fd ≠ 2)
    (answer : cfg.host.read calls = none) : readBytes cfg calls fd count = ([], -1, 1) := by
  simp only [readBytes, if_neg file.1, if_neg (not_or.mpr file.2), answer]

theorem syscall_refuses {number : Word} {heard : List HostEvent}
    (on : process.On start dataEnd s) (placed : start.Placed) (called : s.cpu.reg 17 = number)
    (refuses : Refuses start process number heard) :
    syscall cfg s = .ok ((s.emitAll heard).setReg 10 (-1)) := by
  obtain ⟨⟨pc, regs, stores⟩, heap, answers⟩ := process
  obtain ⟨rfl, shows, rfl, rfl, rfl⟩ := on
  have placed' := shows.layout.placed placed
  cases refuses with
  | read output buffer =>
      simp only [Process.arg] at output buffer
      obtain ⟨seg, ptr, pointed⟩ := shows.points placed buffer Nat.one_pos
      rw [syscall_read called,
        doRead_eq pointed.found (readBytes_standard output) (poke_nil s.memory ptr)]
      rfl
  | write input buffer =>
      simp only [Process.arg] at input buffer
      obtain ⟨seg, ptr, pointed⟩ := shows.points placed buffer Nat.one_pos
      rw [syscall_write called, doWrite_refused pointed.found input]
      rfl
  | lseek terminal =>
      simp only [Process.arg] at terminal
      rw [syscall_lseek called, doLseek, if_pos terminal]
      rfl

theorem syscall_replies (on : process.On start dataEnd s) (placed : start.Placed)
    (replies : Replies cfg start dataEnd process reply) :
    ∃ written, syscall cfg s = .ok ((s.served reply written).setReg 10 reply.result) ∧
      start.Shows (reply.stored.toList ++ process.hart.memory.stores) written := by
  have frame := on
  obtain ⟨⟨pc, regs, stores⟩, heap, answers⟩ := process
  obtain ⟨rfl, shows, rfl, rfl, rfl⟩ := on
  have placed' := shows.layout.placed placed
  cases replies with
  | brk calls =>
      have number : s.cpu.reg 17 = sysBrk := calls.number
      have call : syscall cfg s =
          .ok (Machine.returnA0 (doBrk s (s.cpu.reg 10) (s.cpu.reg 11))) := by
        rw [syscall, number]
        rfl
      refine ⟨s.memory, ?_, shows⟩
      rw [call, doBrk_eq]
      rfl
  | gettimeofday calls buffer =>
      simp only [Process.arg] at buffer
      have holds := shows.layout.data.holds.mpr buffer
      obtain ⟨ptr, written, found, poked, after⟩ := @poke_shows start s.memory stores
        (s.cpu.reg 10) (timeBytes (cfg.host.timeOfDay s.calls)) placed' shows holds
      refine ⟨written, ?_, after⟩
      have called : doGettimeofday cfg s (s.cpu.reg 10) =
          .ok (0, { s with memory := written, calls := s.calls + 1 }) := by
        rw [doGettimeofday, found, ok_bind]
        change (({ s with calls := s.calls + 1 } : Machine).store ptr
          (timeBytes (cfg.host.timeOfDay s.calls))).bind _ = _
        rw [Machine.store, poked]
        rfl
      rw [syscall_gettimeofday calls.number, called]
      rfl
  | time calls =>
      have number : s.cpu.reg 17 = sysTime := calls.number
      refine ⟨s.memory, ?_, shows⟩
      rw [syscall, number]
      rfl
  | line calls input given buffer =>
      simp only [Process.arg] at input given buffer
      obtain ⟨ptr, written, found, poked, after⟩ :=
        poke_shows placed' shows (shows.layout.data.holds.mpr buffer)
      refine ⟨written, ?_, after⟩
      have read : readBytes cfg s.calls (s.cpu.reg 10) (s.cpu.reg 12) = _ :=
        (if_pos input).trans (by rw [readLine_of_line given])
      rw [syscall_read calls.number, doRead_eq found read poked]
      rfl
  | @read calls file given bytes answer taken buffer =>
      simp only [Process.arg] at file taken buffer
      obtain ⟨ptr, written, found, poked, after⟩ :=
        poke_shows placed' shows (shows.layout.data.holds.mpr buffer)
      refine ⟨written, ?_, after⟩
      have read : readBytes cfg s.calls (s.cpu.reg 10) (s.cpu.reg 12) =
          (bytes, BitVec.ofNat 32 bytes.length, 1) := by
        rw [readBytes_file file answer, taken]
      rw [syscall_read calls.number, doRead_eq found read poked]
      rfl
  | readFails calls file answer buffer =>
      simp only [Process.arg] at file buffer
      obtain ⟨seg, ptr, pointed⟩ := shows.points placed buffer Nat.one_pos
      refine ⟨s.memory, ?_, shows⟩
      have read : readBytes cfg s.calls (s.cpu.reg 10) (s.cpu.reg 12) = ([], -1, 1) :=
        readBytes_fails file answer
      rw [syscall_read calls.number, doRead_eq pointed.found read (poke_nil s.memory ptr)]
      rfl
  | print calls terminal buffer =>
      simp only [Process.arg] at terminal buffer
      obtain ⟨seg, ptr, pointed⟩ := shows.points placed buffer
        (Nat.lt_of_lt_of_le Nat.one_pos (Nat.le_max_left 1 _))
      refine ⟨s.memory, ?_, shows⟩
      have peeked := pointed.peeks
      simp only [shows.bytes] at peeked
      rw [syscall_write calls.number, doWrite_terminal pointed.found terminal peeked,
        List.length_map, List.length_range]
      rfl
  | write calls file takes buffer =>
      simp only [Process.arg] at file takes buffer
      subst takes
      obtain ⟨seg, ptr, pointed⟩ := shows.points placed buffer
        (Nat.lt_of_lt_of_le Nat.one_pos (Nat.le_max_left 1 _))
      refine ⟨s.memory, ?_, shows⟩
      have peeked := pointed.peeks
      simp only [shows.bytes] at peeked
      rw [syscall_write calls.number, doWrite_file pointed.found file peeked]
      rfl
  | @opens calls name mode names short flags =>
      simp only [Process.arg] at names flags ⊢
      have number : s.cpu.reg 17 = sysOpen := calls.number
      have call : syscall cfg s =
          (doOpen cfg s (s.cpu.reg 10) (s.cpu.reg 11) (s.cpu.reg 12)).map Machine.returnA0 := by
        rw [syscall, number]
        rfl
      have host : mode.host = openFlags (s.cpu.reg 11) := by rw [flags, openFlags_newlib]
      refine ⟨s.memory, ?_, shows⟩
      rw [call, doOpen, openName_take 255 (names.holdsString placed' shows),
        List.take_of_length_le short]
      simp only [Machine.served, openLines, host, List.reverse_append, List.append_assoc]
      rfl
  | lseek calls file =>
      simp only [Process.arg] at file
      refine ⟨s.memory, ?_, shows⟩
      rw [syscall_lseek calls.number, doLseek, if_neg file]
      rfl
  | close calls file =>
      simp only [Process.arg] at file
      refine ⟨s.memory, ?_, shows⟩
      rw [syscall_close calls.number, doClose, if_neg file]
      rfl
  | keepsOpen calls terminal =>
      simp only [Process.arg] at terminal
      refine ⟨s.memory, ?_, shows⟩
      rw [syscall_close calls.number, doClose, if_pos terminal]
      rfl
  | link calls oldNames newNames =>
      simp only [Process.arg] at oldNames newNames
      have number : s.cpu.reg 17 = sysLink := calls.number
      have call : syscall cfg s =
          (doLink cfg s (s.cpu.reg 10) (s.cpu.reg 11)).map Machine.returnA0 := by
        rw [syscall, number]
        rfl
      obtain ⟨oldPtr, oldFound, oldPath⟩ := oldNames.cString placed' shows
      obtain ⟨newPtr, newFound, newPath⟩ := newNames.cString placed' shows
      have foundOld : s.memory.getPtr (s.cpu.reg 10) = .ok oldPtr := oldFound
      have foundNew : s.memory.getPtr (s.cpu.reg 11) = .ok newPtr := newFound
      refine ⟨s.memory, ?_, shows⟩
      rw [call]
      simp only [doLink, foundOld, foundNew, ok_bind, oldPath, newPath]
      rfl
  | unlink calls names =>
      simp only [Process.arg] at names
      have number : s.cpu.reg 17 = sysUnlink := calls.number
      have call : syscall cfg s = (doUnlink cfg s (s.cpu.reg 10)).map Machine.returnA0 := by
        rw [syscall, number]
        rfl
      obtain ⟨ptr, found, path⟩ := names.cString placed' shows
      have found' : s.memory.getPtr (s.cpu.reg 10) = .ok ptr := found
      refine ⟨s.memory, ?_, shows⟩
      rw [call]
      simp only [doUnlink, found', ok_bind, path]
      rfl
  | fstat calls =>
      have number : s.cpu.reg 17 = sysFstat := calls.number
      refine ⟨s.memory, ?_, shows⟩
      rw [syscall, number]
      rfl
  | refused calls refuses =>
      refine ⟨s.memory, ?_, shows⟩
      rw [syscall_refuses frame placed calls.number refuses]
      rfl

theorem execute_replies (on : process.On start dataEnd s) (placed : start.Placed)
    (zero : s.cpu.reg 0 = 0) (newlib : cfg.doNewlib = true)
    (replies : Replies cfg start dataEnd process reply) :
    ∃ written, execute cfg ⟨.ecall, 0, 0, 0, 0⟩ s = .ok { s.served reply written with
        cpu.reg := writeReg s.cpu.reg 10 reply.result } ∧
      start.Shows (reply.stored.toList ++ process.hart.memory.stores) written := by
  obtain ⟨written, called, shows⟩ := syscall_replies on placed replies
  refine ⟨written, ?_, shows⟩
  rw [execute, dispatch_syscall rfl newlib, called, map_ok]
  exact congrArg Except.ok (clear_setReg (s.served reply written) zero 10 reply.result)

end Calls

end RiscVFast
