import RiscVFast.Decode

/-! The simulator state: segments, `Cpu`, the decode caches and the host around it, with the
memory accessors of `RiscVFast.h` and the fake devices of `RiscVFast.cpp`. -/

namespace RiscVFast

/-! Segments, in the build without `DO_MEMORY_CHECK`: no accessor tests its address. -/

/-- `size` is the length of the allocated buffer; `data` means something below it only. -/
structure Segment where
  memBase : Word
  memLen : Word
  size : Nat
  data : Nat → Byte

def Segment.ofWords (memBase memLen : Word) (image : List Word) : Segment where
  memBase := memBase
  memLen := memLen
  size := memLen.toNat
  data := fun index => ((image[index / 4]?).getD 0).extractLsb' (8 * (index % 4)) 8

def Segment.offset (seg : Segment) (addr : Word) : Nat := (addr - seg.memBase).toNat

/-- The host pointer to `width` bytes at `addr`. Outside the buffer the host program has no
defined behaviour. -/
def Segment.access (seg : Segment) (addr : Word) (width : Nat) : Except Abort Nat :=
  if seg.offset addr + width ≤ seg.size then .ok (seg.offset addr) else .error .outOfBuffer

def half (data : Nat → Byte) (off : Nat) : BitVec 16 := data (off + 1) ++ data off

def word (data : Nat → Byte) (off : Nat) : Word :=
  data (off + 3) ++ data (off + 2) ++ data (off + 1) ++ data off

def Segment.fetch32 (seg : Segment) (addr : Word) : Except Abort Word :=
  (seg.access addr 4).map fun off => word seg.data off

def Segment.read32 (seg : Segment) (addr : Word) : Except Abort Word :=
  (seg.access addr 4).map fun off => word seg.data off

def Segment.read16 (seg : Segment) (addr : Word) : Except Abort Word :=
  (seg.access addr 2).map fun off => (half seg.data off).signExtend 32

def Segment.read16u (seg : Segment) (addr : Word) : Except Abort Word :=
  (seg.access addr 2).map fun off => (half seg.data off).setWidth 32

def Segment.read8 (seg : Segment) (addr : Word) : Except Abort Word :=
  (seg.access addr 1).map fun off => (seg.data off).signExtend 32

def Segment.read8u (seg : Segment) (addr : Word) : Except Abort Word :=
  (seg.access addr 1).map fun off => (seg.data off).setWidth 32

def splice (data : Nat → Byte) (off : Nat) (bytes : List Byte) : Nat → Byte := fun index =>
  if off ≤ index then (bytes[index - off]?).getD (data index) else data index

def bytesOf (width : Nat) (value : Word) : List Byte :=
  (List.range width).map fun index => value.extractLsb' (8 * index) 8

def Segment.write (seg : Segment) (addr : Word) (bytes : List Byte) : Except Abort Segment :=
  (seg.access addr bytes.length).map fun off => { seg with data := splice seg.data off bytes }

def Segment.write32 (seg : Segment) (addr value : Word) : Except Abort Segment :=
  seg.write addr (bytesOf 4 value)

def Segment.write16 (seg : Segment) (addr value : Word) : Except Abort Segment :=
  seg.write addr (bytesOf 2 value)

def Segment.write8 (seg : Segment) (addr value : Word) : Except Abort Segment :=
  seg.write addr (bytesOf 1 value)

structure Memory where
  insnMem : Segment
  dataMem : Segment

def smallMemory (dataBase : Word) (text : List Word) : Memory where
  insnMem := Segment.ofWords 0 0x100 text
  dataMem := Segment.ofWords dataBase 0x100 []

def Memory.isdata (memory : Memory) (addr : Word) : Bool :=
  (addr - memory.dataMem.memBase).ult memory.dataMem.memLen

def Memory.istext (memory : Memory) (addr : Word) : Bool :=
  (addr - memory.insnMem.memBase).ult memory.insnMem.memLen

/-- The segment a read goes to: data first, then text. -/
def Memory.readSegment (memory : Memory) (addr : Word) : Option Segment :=
  if memory.isdata addr then some memory.dataMem
  else if memory.istext addr then some memory.insnMem
  else none

def Memory.readWith (memory : Memory) (fmt : String) (addr : Word)
    (read : Segment → Except Abort Word) : Except Abort Word :=
  match memory.readSegment addr with
  | some seg => read seg
  | none => .error (.fatal fmt addr)

def Memory.read16 (memory : Memory) (addr : Word) : Except Abort Word :=
  memory.readWith "read16: Bad memory access 0x%08x\n" addr (·.read16 addr)

def Memory.read16u (memory : Memory) (addr : Word) : Except Abort Word :=
  memory.readWith "read16u: Bad memory access 0x%08x\n" addr (·.read16u addr)

def Memory.read8 (memory : Memory) (addr : Word) : Except Abort Word :=
  memory.readWith "read8: Bad memory access 0x%08x\n" addr (·.read8 addr)

def Memory.read8u (memory : Memory) (addr : Word) : Except Abort Word :=
  memory.readWith "read8u: Bad memory access 0x%08x\n" addr (·.read8u addr)

def Memory.fetch32 (memory : Memory) (addr : Word) : Except Abort Word :=
  if memory.istext addr then memory.insnMem.fetch32 addr
  else .error (.fatal "fetch32: Bad memory access 0x%08x\n" addr)

inductive HostPtr
  | data (off : Nat)
  | text (off : Nat)
deriving DecidableEq

def Memory.getPtr (memory : Memory) (addr : Word) : Except Abort HostPtr :=
  if memory.isdata addr then .ok (.data (memory.dataMem.offset addr))
  else if memory.istext addr then .ok (.text (memory.insnMem.offset addr))
  else .error (.fatal "getPtr: Bad memory access 0x%08x\n" addr)

def Segment.poke (seg : Segment) (off : Nat) (bytes : List Byte) : Except Abort Segment :=
  if bytes = [] then .ok seg
  else if off + bytes.length ≤ seg.size then .ok { seg with data := splice seg.data off bytes }
  else .error .outOfBuffer

def Segment.peek (seg : Segment) (off count : Nat) : Except Abort (List Byte) :=
  if count = 0 then .ok []
  else if off + count ≤ seg.size then .ok ((List.range count).map fun i => seg.data (off + i))
  else .error .outOfBuffer

def Memory.poke (memory : Memory) (ptr : HostPtr) (bytes : List Byte) : Except Abort Memory :=
  match ptr with
  | .data off => (memory.dataMem.poke off bytes).map fun seg => { memory with dataMem := seg }
  | .text off => (memory.insnMem.poke off bytes).map fun seg => { memory with insnMem := seg }

def Memory.peek (memory : Memory) (ptr : HostPtr) (count : Nat) : Except Abort (List Byte) :=
  match ptr with
  | .data off => memory.dataMem.peek off count
  | .text off => memory.insnMem.peek off count

/-- What the host answers, by the running number of the call. A `read` that fails is `none`. -/
structure Host where
  timeOfDay : Nat → BitVec 64 × Word
  time : Nat → Word
  rand32 : Nat → Word
  fgetc : Nat → Option Byte
  read : Nat → Option (List Byte)
  result : Nat → Word

inductive PrintArg
  | word (value : Word)
  | chars (text : List Byte)
deriving DecidableEq

inductive HostEvent
  | uart (c : Byte)
  | hostAccess (rw : Bool) (addr value : Word)
  | write (fd : Word) (bytes : List Byte)
  | lseek (fd offset whence : Word)
  | open (fname : List Byte) (flags mode : Word)
  | close (fd : Word)
  | link (oldpath newpath : List Byte)
  | unlink (pathname : List Byte)
  | printf (fmt : String) (args : List PrintArg)
deriving DecidableEq

structure Config where
  doNewlib : Bool
  doCore : Bool
  hostAddr : Word
  hostSize : Word
  host : Host

def Host.silent : Host where
  timeOfDay := fun _ => (0, 0)
  time := fun _ => 0
  rand32 := fun _ => 0
  fgetc := fun _ => none
  read := fun _ => none
  result := fun _ => 0

def Config.standard (host : Host) : Config where
  doNewlib := false
  doCore := false
  hostAddr := 0xffff0000
  hostSize := 0x00010000
  host := host

structure Cpu where
  reg : BitVec 5 → Word
  pc : Word
  pcInc : Word
  pcNext : Word
  cycle : BitVec 64
  heap : Word
  endOfData : Word
  running : Bool
  stop : Bool
  mstatus : Word
  mie : Word
  mtvec : Word
  mscratch : Word
  mepc : Word
  mtval : Word
  mip : Word
  mcause : Word

def Cpu.reset : Cpu where
  reg := fun _ => 0
  pc := 0
  pcInc := 0
  pcNext := 0
  cycle := 0
  heap := 0
  endOfData := 0
  running := false
  stop := false
  mstatus := 0
  mie := 0
  mtvec := 0
  mscratch := 0
  mepc := 0
  mtval := 0
  mip := 0
  mcause := 0

def Cpu.start (cpu : Cpu) (entry : Word) : Cpu := { cpu with pc := entry, pcNext := entry }

def Cpu.edata (cpu : Cpu) (edata : Word) : Cpu := { cpu with heap := 0, endOfData := edata }

def Cpu.setStack (cpu : Cpu) (target : Word) : Cpu :=
  { cpu with reg := Function.update cpu.reg 2 (target &&& 0xfffffffc) }

/-- What the instructions act on: `calls` counts the answers taken from the host, `events` is
what the host was made to do, latest first. -/
structure Machine where
  cpu : Cpu
  memory : Memory
  calls : Nat
  events : List HostEvent

/-- The machine together with the globals of the decoder, which no instruction touches. -/
structure Simulator where
  machine : Machine
  vliwInsn : Word → Vliw
  tables : DecodeTables

/-- The state in which `main` enters `run`: a loaded memory, a fresh `Cpu`, empty caches. -/
def Simulator.boot (memory : Memory) (entry dataEnd : Word) : Simulator where
  machine :=
    { cpu := ((Cpu.reset.start entry).edata dataEnd).setStack
        (memory.dataMem.memBase + memory.dataMem.memLen - 16)
      memory := memory
      calls := 0
      events := [] }
  vliwInsn := fun _ => Vliw.zero
  tables := DecodeTables.empty

def Machine.setReg (s : Machine) (rd : BitVec 5) (value : Word) : Machine :=
  { s with cpu.reg := Function.update s.cpu.reg rd value }

def Machine.setPcNext (s : Machine) (target : Word) : Machine := { s with cpu.pcNext := target }

def Machine.emit (s : Machine) (event : HostEvent) : Machine :=
  { s with events := event :: s.events }

def Machine.emitAll (s : Machine) (events : List HostEvent) : Machine :=
  { s with events := events.reverse ++ s.events }

def Machine.printf (s : Machine) (fmt : String) (args : List PrintArg) : Machine :=
  s.emit (.printf fmt args)

def cmdPowerOff : Word := 2

/-- `host`: the result is always zero. -/
def host (rw : Bool) (addr value : Word) (s : Machine) : Machine :=
  if addr = 0xfffffffc then
    if value >>> 16 = cmdPowerOff then { s with cpu.stop := true }
    else s.emit (.uart (value.setWidth 8))
  else if addr = 0xffffff00 ∧ rw = true then s
  else s.emit (.hostAccess rw addr value)

def ishost (cfg : Config) (addr : Word) : Bool :=
  cfg.hostAddr.ule addr && addr.ule (cfg.hostAddr + (cfg.hostSize - 1))

def read32 (cfg : Config) (s : Machine) (addr : Word) : Except Abort (Word × Machine) :=
  match s.memory.readSegment addr with
  | some seg => (seg.read32 addr).map fun value => (value, s)
  | none =>
      if ishost cfg addr then .ok (0, host false addr 0 s)
      else .error (.fatal "read32: Bad memory access 0x%08x\n" addr)

/-- The part of the writes that reaches a segment: data first, text only with `do_core`. -/
def Memory.writeWith (cfg : Config) (memory : Memory) (addr : Word)
    (write : Segment → Except Abort Segment) : Option (Except Abort Memory) :=
  if memory.isdata addr then
    some ((write memory.dataMem).map fun seg => { memory with dataMem := seg })
  else if cfg.doCore && memory.istext addr then
    some ((write memory.insnMem).map fun seg => { memory with insnMem := seg })
  else none

def write32 (cfg : Config) (s : Machine) (addr value : Word) : Except Abort Machine :=
  match s.memory.writeWith cfg addr (·.write32 addr value) with
  | some written => written.map fun memory => { s with memory := memory }
  | none =>
      if ishost cfg addr then .ok (host true addr value s)
      else .error (.fatal "write32: Bad memory access 0x%08x\n" addr)

def narrowWrite (cfg : Config) (s : Machine) (fmt : String) (addr : Word)
    (write : Segment → Except Abort Segment) : Except Abort Machine :=
  match s.memory.writeWith cfg addr write with
  | some written => written.map fun memory => { s with memory := memory }
  | none => .error (.fatal fmt addr)

def write16 (cfg : Config) (s : Machine) (addr value : Word) : Except Abort Machine :=
  narrowWrite cfg s "write16: Bad memory access 0x%08x\n" addr (·.write16 addr value)

def write8 (cfg : Config) (s : Machine) (addr value : Word) : Except Abort Machine :=
  narrowWrite cfg s "write8: Bad memory access 0x%08x\n" addr (·.write8 addr value)

/-- `Cpu::checkAddr`: the ends are computed in 32 bits and the device range is fixed. -/
def checkAddr (s : Machine) (addr : Word) : Except Abort Unit :=
  let textBase := s.memory.insnMem.memBase
  let textEnd := textBase + s.memory.insnMem.memLen
  let dataBase := s.memory.dataMem.memBase
  let dataEnd := dataBase + s.memory.dataMem.memLen
  if !(dataBase.ule addr && addr.ult dataEnd) && !(textBase.ule addr && addr.ult textEnd) &&
      !((0xffffff00 : Word).ule addr && addr.ule 0xfffffffc) then
    .error (.exit (-1) "checkAddr: Bad Address: %08x @ pc=%08x\n" addr)
  else .ok ()

end RiscVFast
