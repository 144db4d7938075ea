import RiscVFast.Machine
import RiscVFast.Lib.CString

/-! The ELF loader `readElf` of `Elf64.cpp`, in the 32-bit build. Only `verbose`, which stays 0,
could make it swap fields, so a file is read as little-endian whatever it says. -/

namespace RiscVFast

def byteData (elfbuf : List Byte) (index : Nat) : Byte := (elfbuf[index]?).getD 0

def fileAccess (elfbuf : List Byte) (off width : Nat) : Except Abort Nat :=
  if off + width ≤ elfbuf.length then .ok off else .error .outOfBuffer

def fileByte (elfbuf : List Byte) (off : Nat) : Except Abort Byte :=
  (fileAccess elfbuf off 1).map (byteData elfbuf)

def fileHalf (elfbuf : List Byte) (off : Nat) : Except Abort (BitVec 16) :=
  (fileAccess elfbuf off 2).map (half (byteData elfbuf))

def fileWord (elfbuf : List Byte) (off : Nat) : Except Abort Word :=
  (fileAccess elfbuf off 4).map (word (byteData elfbuf))

def chars (text : String) : List Byte := text.toList.map fun char => BitVec.ofNat 8 char.toNat

def orOutOfBuffer {α : Type} : Option α → Except Abort α
  | some value => .ok value
  | none => .error .outOfBuffer

/-- `strncmp` with the length of the literal, and `strcmp` with its terminator in the literal. -/
def sameChars (name literal : List Byte) : Except Abort Bool :=
  orOutOfBuffer (CString.compare name literal)

structure ElfHeader where
  entry : Word
  phoff : Word
  shoff : Word
  phentsize : BitVec 16
  phnum : BitVec 16
  shentsize : BitVec 16
  shnum : BitVec 16

def elfHeader (elfbuf : List Byte) : Except Abort ElfHeader := do
  let entry ← fileWord elfbuf 24
  let phoff ← fileWord elfbuf 28
  let shoff ← fileWord elfbuf 32
  let phentsize ← fileHalf elfbuf 42
  let phnum ← fileHalf elfbuf 44
  let shentsize ← fileHalf elfbuf 46
  let shnum ← fileHalf elfbuf 48
  .ok ⟨entry, phoff, shoff, phentsize, phnum, shentsize, shnum⟩

/-- `elfbuf+base+entsize*i`. The product is an `int`, without a defined value from 2^31 on. -/
def tableEntry (base : Word) (entsize : BitVec 16) (i : Nat) : Except Abort Nat :=
  if entsize.toNat * i < 2 ^ 31 then .ok (base.toNat + entsize.toNat * i)
  else .error .outOfBuffer

def elfProgram (elfbuf : List Byte) (header : ElfHeader) (i : Nat) : Except Abort Unit := do
  let off ← tableEntry header.phoff header.phentsize i
  let _ ← fileWord elfbuf (off + 4)
  let _ ← fileWord elfbuf (off + 8)
  let _ ← fileWord elfbuf (off + 16)
  let _ ← fileWord elfbuf (off + 20)
  .ok ()

structure ElfSection where
  name : Word
  type : Word
  flags : Word
  addr : Word
  offset : Word
  size : Word
deriving DecidableEq

def elfSection (elfbuf : List Byte) (header : ElfHeader) (i : Nat) : Except Abort ElfSection := do
  let off ← tableEntry header.shoff header.shentsize i
  let name ← fileWord elfbuf off
  let type ← fileWord elfbuf (off + 4)
  let flags ← fileWord elfbuf (off + 8)
  let addr ← fileWord elfbuf (off + 12)
  let offset ← fileWord elfbuf (off + 16)
  let size ← fileWord elfbuf (off + 20)
  .ok ⟨name, type, flags, addr, offset, size⟩

def shtStrtab : Word := 3

def shtNobits : Word := 8

def shfWrite : Word := 1

def shfAlloc : Word := 2

def shfExecinstr : Word := 4

def findNameTable (elfbuf : List Byte) (header : ElfHeader) (nameTable : Option Word) (i : Nat) :
    Except Abort (Option Word) := do
  let sect ← elfSection elfbuf header i
  if nameTable = none ∧ sect.type = shtStrtab then do
    let shstrndx ← fileHalf elfbuf 50
    .ok (if i = shstrndx.toNat then some sect.offset else none)
  else .ok nameTable

/-- `&nameTable[sh_name]`, up to the end of the buffer. Without a name table there is nothing to
read. -/
def sectionName (elfbuf : List Byte) (nameTable : Option Word) (sect : ElfSection) :
    Except Abort (List Byte) :=
  match nameTable with
  | some table => .ok (elfbuf.drop (table.toNat + sect.name.toNat))
  | none => .error .outOfBuffer

def skipped (flags : Word) : Bool := flags == 0x00 || flags == 0x30

structure Area where
  base : Word
  limit : Word
deriving DecidableEq

def Area.none : Area := ⟨-1, 0⟩

def Area.add (area : Area) (addr len : Word) : Area where
  base := if addr.ult area.base then addr else area.base
  limit := if area.limit.ult (addr + len) then addr + len else area.limit

/-- The second branch for `.eh_frame` compares the ends the other way. -/
def Area.addAgain (area : Area) (addr len : Word) : Area where
  base := if addr.ult area.base then addr else area.base
  limit := if (addr + len).ult area.limit then addr + len else area.limit

def Area.holds (area : Area) (addr : Word) : Bool := area.base.ule addr && addr.ult area.limit

inductive SectionKind
  | text | textAgain | data | bss
deriving DecidableEq

structure Areas where
  text : Area
  data : Area
  bss : Area
deriving DecidableEq

def Areas.none : Areas := ⟨Area.none, Area.none, Area.none⟩

def Areas.add (areas : Areas) (kind : SectionKind) (addr len : Word) : Areas :=
  match kind with
  | .text => { areas with text := areas.text.add addr len }
  | .textAgain => { areas with text := areas.text.addAgain addr len }
  | .data => { areas with data := areas.data.add addr len }
  | .bss => { areas with bss := areas.bss.add addr len }

/-- One branch of the chain: the start of the name, the flags of which one must be set, and the
area that grows. -/
structure SectionRule where
  literal : List Byte
  flags : Word
  kind : SectionKind
deriving DecidableEq

def sectionRules : List SectionRule :=
  [⟨chars ".text", shfAlloc ||| shfExecinstr, .text⟩,
    ⟨chars ".rodata", shfAlloc, .text⟩,
    ⟨chars ".eh_frame" ++ [0], shfAlloc ||| shfWrite, .text⟩,
    ⟨chars ".init_array" ++ [0], shfAlloc ||| shfWrite, .text⟩,
    ⟨chars ".fini_array" ++ [0], shfAlloc ||| shfWrite, .text⟩,
    ⟨chars ".eh_frame" ++ [0], shfAlloc ||| shfWrite, .textAgain⟩,
    ⟨chars ".data", shfAlloc ||| shfWrite, .data⟩,
    ⟨chars ".sdata", shfAlloc ||| shfWrite, .data⟩,
    ⟨chars ".bss", shfAlloc ||| shfWrite, .bss⟩,
    ⟨chars ".sbss", shfAlloc ||| shfWrite, .bss⟩]

def classify (name : List Byte) (flags : Word) : List SectionRule → Except Abort SectionKind
  | [] => do
      let _ ← orOutOfBuffer (CString.read 0 name)
      .error (.exit 1 "Unknow program section: %s\n" 0)
  | rule :: rules => do
      let same ← sameChars name rule.literal
      if same = true ∧ flags &&& rule.flags ≠ 0 then .ok rule.kind else classify name flags rules

inductive Allocation
  | file | text | data

/-- The option `-q` and what `malloc` gives: nothing, or a buffer with any contents. -/
structure LoaderHost where
  quiet : Bool
  malloc : Allocation → Nat → Option (Nat → Byte)

def printName (host : LoaderHost) (name : List Byte) : Except Abort (List Byte) :=
  if host.quiet then .ok [] else orOutOfBuffer (CString.readAtMost 0 12 name)

def determineArea (host : LoaderHost) (elfbuf : List Byte) (nameTable : Option Word)
    (areas : Areas) (sect : ElfSection) : Except Abort Areas :=
  if skipped sect.flags then .ok areas
  else do
    let name ← sectionName elfbuf nameTable sect
    let _ ← printName host name
    let kind ← classify name sect.flags sectionRules
    .ok (areas.add kind sect.addr sect.size)

def Areas.textLen (areas : Areas) : Word := areas.text.limit - areas.text.base

def Areas.heapBase (areas : Areas) : Word := (areas.bss.limit + 15) &&& 0xfffffff0

def Areas.totalLen (areas : Areas) (heapLen : Word) : Word :=
  areas.heapBase + heapLen - areas.data.base

def allocate (host : LoaderHost) (use : Allocation) (base len : Word) : Segment :=
  match host.malloc use len.toNat with
  | some contents => ⟨base, len, len.toNat, contents⟩
  | none => ⟨base, len, 0, fun _ => 0⟩

def newMemory (host : LoaderHost) (heapLen : Word) (areas : Areas) : Memory where
  insnMem := allocate host .text areas.text.base areas.textLen
  dataMem := allocate host .data areas.data.base (areas.totalLen heapLen)

structure ElfInfo where
  name : List Byte
  type : Word
  flags : Word
  addr : Word
  size : Word
  offset : Word
deriving DecidableEq

structure Loaded where
  memory : Memory
  textInfo : List ElfInfo
  dataInfo : List ElfInfo
  entry : Word

def sectionInfo (name : List Byte) (sect : ElfSection) : Except Abort ElfInfo := do
  let name ← orOutOfBuffer (CString.read 0 name)
  .ok ⟨name, sect.type, sect.flags, sect.addr, sect.size, sect.offset⟩

def sectionBytes (elfbuf : List Byte) (sect : ElfSection) : Except Abort (List Byte) :=
  if sect.size = 0 then .ok []
  else (fileAccess elfbuf sect.offset.toNat sect.size.toNat).map fun off =>
    (elfbuf.drop off).take sect.size.toNat

def loadSection (elfbuf : List Byte) (nameTable : Option Word) (areas : Areas) (loaded : Loaded)
    (sect : ElfSection) : Except Abort Loaded :=
  if skipped sect.flags then .ok loaded
  else do
    let name ← sectionName elfbuf nameTable sect
    let textOk := areas.text.holds sect.addr
    let dataOk := areas.data.holds sect.addr
    let bssOk := areas.bss.holds sect.addr
    let alloc := sect.flags &&& shfAlloc != 0
    let rw := sect.flags &&& shfWrite != 0
    let nobits := sect.type == shtNobits
    if textOk && alloc then do
      let bytes ← sectionBytes elfbuf sect
      let code ← loaded.memory.insnMem.poke (sect.addr - loaded.memory.insnMem.memBase).toNat bytes
      let info ← sectionInfo name sect
      .ok { loaded with memory.insnMem := code, textInfo := loaded.textInfo ++ [info] }
    else if dataOk && (alloc && rw) && !nobits then do
      let bytes ← sectionBytes elfbuf sect
      let data ← loaded.memory.dataMem.poke (sect.addr - loaded.memory.dataMem.memBase).toNat bytes
      let info ← sectionInfo name sect
      .ok { loaded with memory.dataMem := data, dataInfo := loaded.dataInfo ++ [info] }
    else if bssOk && (alloc && rw) && nobits then do
      let data ← loaded.memory.dataMem.poke (sect.addr - loaded.memory.dataMem.memBase).toNat
        (List.replicate sect.size.toNat 0)
      let info ← sectionInfo name sect
      .ok { loaded with memory.dataMem := data, dataInfo := loaded.dataInfo ++ [info] }
    else do
      let _ ← orOutOfBuffer (CString.readAtMost 0 12 name)
      .ok loaded

def emMips : BitVec 16 := 8

def emRiscv : BitVec 16 := 243

def supportedMachine (machine : BitVec 16) : Bool :=
  machine == 0 || machine == emMips || machine == emRiscv

def overSections {State : Type} (elfbuf : List Byte) (header : ElfHeader)
    (step : State → ElfSection → Except Abort State) (state : State) : Except Abort State :=
  (List.range header.shnum.toNat).foldlM
    (fun state i => do step state (← elfSection elfbuf header i)) state

def loadElf (host : LoaderHost) (heapLen : Word) (elfbuf : List Byte) (before : Loaded) :
    Except Abort Loaded := do
  let header ← elfHeader elfbuf
  let _ ← (List.range header.phnum.toNat).mapM (elfProgram elfbuf header)
  let nameTable ← (List.range header.shnum.toNat).foldlM (findNameTable elfbuf header) none
  let areas ← overSections elfbuf header (determineArea host elfbuf nameTable) Areas.none
  overSections elfbuf header (loadSection elfbuf nameTable areas)
    { before with memory := newMemory host heapLen areas, entry := header.entry }

/-- The returned status with the memory, the section lists and `*entry`. The size of the file is
kept in 32 bits. -/
def readElf (host : LoaderHost) (heapLen : Word) (file : List Byte) (before : Loaded) :
    Except Abort (Int × Loaded) :=
  let elfbuf := file.take (file.length % 2 ^ 32)
  match host.malloc .file elfbuf.length with
  | none => .ok (-1, before)
  | some _ => do
      let isElf ← sameChars (elfbuf.drop 1) (chars "ELF")
      if !isElf then .ok (-1, before)
      else do
        let _ ← fileByte elfbuf 5
        let elfClass ← fileByte elfbuf 4
        if elfClass ≠ 1 then .error (.exit (-1) "Must be ELFCLASS32 - 32 bit Elf\n" 0)
        else do
          let machine ← fileHalf elfbuf 18
          if !supportedMachine machine then .ok (-1, before)
          else (loadElf host heapLen elfbuf before).map fun loaded => (0, loaded)

end RiscVFast
