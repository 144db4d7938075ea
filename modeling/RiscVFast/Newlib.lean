import RiscVFast.Machine

/-! The newlib system calls of `Newlib.cpp` and `Cpu::sys_brk`. -/

namespace RiscVFast

def sysClose : Word := 57
def sysLseek : Word := 62
def sysRead : Word := 63
def sysWrite : Word := 64
def sysFstat : Word := 80
def sysExit : Word := 93
def sysGettimeofday : Word := 169
def sysBrk : Word := 214
def sysOpen : Word := 1024
def sysLink : Word := 1025
def sysUnlink : Word := 1026
def sysTime : Word := 1062

def Machine.ask {α : Type} (s : Machine) (answer : Nat → α) : α × Machine :=
  (answer s.calls, { s with calls := s.calls + 1 })

def Machine.store (s : Machine) (ptr : HostPtr) (bytes : List Byte) : Except Abort Machine :=
  (s.memory.poke ptr bytes).map fun memory => { s with memory := memory }

/-- `sys_brk`: a zero argument resets the heap to the aligned end of data. -/
def doBrk (s : Machine) (a0 a1 : Word) : Word × Machine :=
  let pageSize : Word := 0x10
  if a0 = 0 then
    let heap := (s.cpu.endOfData + (pageSize - 1)) &&& ~~~(pageSize - 1)
    (heap, { s with cpu.heap := heap })
  else (a0, { s with cpu.heap := a0 + a1 })

/-- `sys_gettimeofday` stores the seconds, low word first, and then the microseconds. -/
def doGettimeofday (cfg : Config) (s : Machine) (a0 : Word) : Except Abort (Word × Machine) := do
  let ptr ← s.memory.getPtr a0
  let ((seconds, microseconds), s) := s.ask cfg.host.timeOfDay
  let s ← s.store ptr (bytesOf 4 (seconds.setWidth 32) ++
    bytesOf 4 ((seconds >>> 32).setWidth 32) ++ bytesOf 4 microseconds)
  .ok (0, s)

/-- The `fgetc` loop of `sys_read`: up to `count` characters, to the end of the line. The
second component is the number of calls made. -/
def readLine (fgetc : Nat → Option Byte) : Nat → Nat → List Byte × Nat
  | 0, _ => ([], 0)
  | count + 1, index =>
      match fgetc index with
      | none => ([], 1)
      | some c =>
          if c = 0x0a then ([c], 1)
          else
            let (rest, calls) := readLine fgetc count (index + 1)
            (c :: rest, calls + 1)

/-- An `int` count as a loop bound: nothing is done for a negative one. -/
def intCount (count : Word) : Nat := count.toInt.toNat

def sizeCount (count : Word) : Nat := (count.signExtend 64).toNat

def readBytes (cfg : Config) (calls : Nat) (fd count : Word) : List Byte × Word × Nat :=
  if fd = 0 then
    let (bytes, used) := readLine cfg.host.fgetc (intCount count) calls
    (bytes, BitVec.ofNat 32 bytes.length, used)
  else if fd = 1 ∨ fd = 2 then ([], -1, 0)
  else
    match cfg.host.read calls with
    | none => ([], -1, 1)
    | some bytes =>
        let bytes := bytes.take (sizeCount count)
        (bytes, BitVec.ofNat 32 bytes.length, 1)

def doRead (cfg : Config) (s : Machine) (a0 a1 a2 : Word) : Except Abort (Word × Machine) := do
  let ptr ← s.memory.getPtr a1
  let (bytes, result, used) := readBytes cfg s.calls a0 a2
  let s ← ({ s with calls := s.calls + used } : Machine).store ptr bytes
  .ok (result, s)

/-- The bytes that the host's `write` takes of the buffer: none if it fails. -/
def writtenCount (result count : Word) : Nat :=
  if result.slt 0 then 0 else min result.toNat (sizeCount count)

def doWrite (cfg : Config) (s : Machine) (a0 a1 a2 : Word) : Except Abort (Word × Machine) := do
  let ptr ← s.memory.getPtr a1
  if a0 = 1 ∨ a0 = 2 then
    let bytes ← s.memory.peek ptr (intCount a2)
    .ok (BitVec.ofNat 32 bytes.length, s.emit (.write a0 bytes))
  else if a0.sle 0 then .ok (-1, s)
  else
    let (result, s) := s.ask cfg.host.result
    let bytes ← s.memory.peek ptr (writtenCount result a2)
    .ok (result, s.emit (.write a0 bytes))

def openName (memory : Memory) : Nat → Word → Except Abort (List Byte)
  | 0, _ => .ok []
  | fuel + 1, addr => do
      let c := (← memory.read8 addr).setWidth 8
      if c = 0 then .ok []
      else
        let rest ← openName memory fuel (addr + 1)
        .ok (c :: rest)

def riscvOCreat : Word := 0x0200
def riscvOTrunc : Word := 0x0400
def riscvOAppend : Word := 0x0008
def riscvORdonly : Word := 0
def riscvOWronly : Word := 1
def riscvORdwr : Word := 2

def riscvODirectory : Word := 0x200000
def riscvOTmpfile : Word := 0x800000

/-- The flags of the guest in the order in which they are printed. -/
def printedFlags : List (Word × String) :=
  [(riscvOCreat, "O_CREAT = %04x\n"), (riscvOAppend, "O_APPEND = %04x\n"),
    (riscvOWronly, "O_WRONLY = %04x\n"), (riscvORdonly, "O_RDONLY  = %04x\n"),
    (riscvORdwr, "O_RDWR  = %04x\n"), (riscvOTrunc, "O_TRUNC = %04x\n"),
    (riscvOTmpfile, "O_TMPFILE  = %04x\n"), (riscvODirectory, "O_DIRECTORY = %04x\n")]

def flagLines (flags : Word) : List HostEvent :=
  (printedFlags.filter fun (flag, _) => flags &&& flag ≠ 0).map fun (flag, fmt) =>
    .printf fmt [.word flag]

def hostORdonly : Word := 0
def hostOWronly : Word := 1
def hostORdwr : Word := 2
def hostOCreat : Word := 0o100
def hostOTrunc : Word := 0o1000
def hostOAppend : Word := 0o2000

def openFlags (flags : Word) : Word :=
  let newFlags := if flags &&& 0x3 = riscvORdonly then hostORdonly else 0
  let newFlags := if flags &&& 0x3 = riscvOWronly then newFlags ||| hostOWronly else newFlags
  let newFlags := if flags &&& 0x3 = riscvORdwr then newFlags ||| hostORdwr else newFlags
  let newFlags := if flags &&& riscvOCreat ≠ 0 then newFlags ||| hostOCreat else newFlags
  let newFlags := if flags &&& riscvOAppend ≠ 0 then newFlags ||| hostOAppend else newFlags
  if flags &&& riscvOTrunc ≠ 0 then newFlags ||| hostOTrunc else newFlags

/-- `fname` has 256 bytes, so at most 255 characters are copied. -/
def doOpen (cfg : Config) (s : Machine) (pathname flags mode : Word) :
    Except Abort (Word × Machine) := do
  let fname ← openName s.memory 255 pathname
  let s := s.emitAll (flagLines flags)
  let s := s.printf "Open %s, Flags %04x, Mode = 0%03o\n" [.chars fname, .word flags, .word mode]
  let s := s.printf "  new_flags = %04x\n" [.word (openFlags flags)]
  let (fd, s) := s.ask cfg.host.result
  let s := s.emit (.open fname (openFlags flags) mode)
  .ok (fd, s.printf "  fd = %d\n" [.word fd])

def doLseek (cfg : Config) (s : Machine) (fd offset whence : Word) : Word × Machine :=
  let s := s.printf "sys_lseek: fd = %d, offset = %08x, whence = %d\n"
    [.word fd, .word offset, .word whence]
  if fd.sle 2 then (-1, s)
  else
    let (result, s) := s.ask cfg.host.result
    (result, s.emit (.lseek fd offset whence))

def doClose (cfg : Config) (s : Machine) (fd : Word) : Word × Machine :=
  if fd.ule 2 then (0, s)
  else
    let (result, s) := s.ask cfg.host.result
    (result, s.emit (.close fd))

def cString (seg : Segment) : Nat → Nat → Except Abort (List Byte)
  | 0, _ => .error .outOfBuffer
  | fuel + 1, off =>
      if seg.data off = 0 then .ok []
      else (cString seg fuel (off + 1)).map (seg.data off :: ·)

def Memory.cString (memory : Memory) (ptr : HostPtr) : Except Abort (List Byte) :=
  match ptr with
  | .data off => RiscVFast.cString memory.dataMem (memory.dataMem.size - off) off
  | .text off => RiscVFast.cString memory.insnMem (memory.insnMem.size - off) off

def doLink (cfg : Config) (s : Machine) (a0 a1 : Word) : Except Abort (Word × Machine) := do
  let oldptr ← s.memory.getPtr a0
  let newptr ← s.memory.getPtr a1
  let oldpath ← s.memory.cString oldptr
  let newpath ← s.memory.cString newptr
  let s := s.printf "Link: %s, %s\n" [.chars oldpath, .chars newpath]
  let (result, s) := s.ask cfg.host.result
  .ok (result, s.emit (.link oldpath newpath))

def doUnlink (cfg : Config) (s : Machine) (a0 : Word) : Except Abort (Word × Machine) := do
  let pathname ← s.memory.cString (← s.memory.getPtr a0)
  let s := s.printf "Unlink: %s\n" [.chars pathname]
  let (result, s) := s.ask cfg.host.result
  .ok (result, s.emit (.unlink pathname))

def doTime (cfg : Config) (s : Machine) : Word × Machine :=
  let (time, s) := s.ask cfg.host.time
  (time, s.printf "  Time=0x%08x\n" [.word time])

def Machine.returnA0 (result : Word × Machine) : Machine := result.2.setReg 10 result.1

def syscall (cfg : Config) (s : Machine) : Except Abort Machine :=
  let a0 := s.cpu.reg 10
  let a1 := s.cpu.reg 11
  let a2 := s.cpu.reg 12
  let a7 := s.cpu.reg 17
  if a7 = sysBrk then .ok (Machine.returnA0 (doBrk s a0 a1))
  else if a7 = sysGettimeofday then (doGettimeofday cfg s a0).map Machine.returnA0
  else if a7 = sysExit then .ok { s with cpu.running := false, cpu.stop := true }
  else if a7 = sysRead then (doRead cfg s a0 a1 a2).map Machine.returnA0
  else if a7 = sysWrite then (doWrite cfg s a0 a1 a2).map Machine.returnA0
  else if a7 = sysOpen then (doOpen cfg s a0 a1 a2).map Machine.returnA0
  else if a7 = sysLseek then .ok (Machine.returnA0 (doLseek cfg s a0 a1 a2))
  else if a7 = sysClose then .ok (Machine.returnA0 (doClose cfg s a0))
  else if a7 = sysLink then (doLink cfg s a0 a1).map Machine.returnA0
  else if a7 = sysUnlink then (doUnlink cfg s a0).map Machine.returnA0
  else if a7 = sysFstat then .ok (s.setReg 10 0)
  else if a7 = sysTime then .ok (Machine.returnA0 (doTime cfg s))
  else .error (.exit (-1) "Ecall - not handled\n" a7)

end RiscVFast
