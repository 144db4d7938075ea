import RiscVFast.ElfSegments

/-! The image that a well-formed ELF file describes, and when the loader makes it. -/

namespace RiscVFast

open Fallible Overlay

def ElfSection.byteAt (elfbuf : List Byte) (sect : ElfSection) (i : Nat) : Byte :=
  if sect.nobits then 0 else byteData elfbuf (sect.offset.toNat + i)

def Memory.Fetches (memory : Memory) (addr : Word) (byte : Byte) : Prop :=
  memory.istext addr = true ∧ memory.insnMem.offset addr < memory.insnMem.size ∧
    memory.insnMem.data (memory.insnMem.offset addr) = byte

structure ImageOf (elfbuf : List Byte) (loaded : Loaded) : Prop where
  entry : loaded.entry = (fileHeader elfbuf).entry
  reads : ∀ sect ∈ fileSections elfbuf, sect.alloc = true → ∀ i < sect.size.toNat,
    loaded.memory.read8u (sect.addr + BitVec.ofNat 32 i) =
      .ok ((sect.byteAt elfbuf i).setWidth 32)
  fetches : ∀ sect ∈ fileSections elfbuf, sect.alloc = true → sect.executable = true →
    ∀ i < sect.size.toNat,
      loaded.memory.Fetches (sect.addr + BitVec.ofNat 32 i) (sect.byteAt elfbuf i)
  instructions : ∀ sect ∈ fileSections elfbuf, sect.alloc = true → sect.executable = true →
    ∀ i, i + 4 ≤ sect.size.toNat →
      loaded.memory.fetch32 (sect.addr + BitVec.ofNat 32 i) = .ok (word (sect.byteAt elfbuf) i)

/-- A return of 0 promises the image; a loader that leaves a buffer has loaded nothing. -/
inductive Loads (elfbuf : List Byte) : Except Abort (Int × Loaded) → Prop
  | returned {status : Int} {loaded : Loaded} (image : status = 0 → ImageOf elfbuf loaded) :
      Loads elfbuf (.ok (status, loaded))
  | ended {abort : Abort} (defined : abort ≠ .outOfBuffer) : Loads elfbuf (.error abort)

/-- A little-endian ELF32 file. Its sections are those that `e_shnum` counts. -/
structure WellFormed (file : List Byte) : Prop where
  small : file.length < 2 ^ 32
  header : 52 ≤ file.length
  magic : file.take 4 = 0x7f :: chars "ELF"
  elfClass : byteData file 4 = 1
  littleEndian : byteData file 5 = 1
  programs : (fileHeader file).phnum ≠ 0 → (fileHeader file).phentsize = 32 ∧
    (fileHeader file).phoff.toNat + 32 * (fileHeader file).phnum.toNat ≤ file.length
  sections : (fileHeader file).shnum ≠ 0 → (fileHeader file).shentsize = 40 ∧
    (fileHeader file).shoff.toNat + 40 * (fileHeader file).shnum.toNat ≤ file.length
  names : ∀ sect ∈ fileSections file, skipped sect.flags = true ∨
    ∃ name, fileName file sect = some name ∧ 0 ∈ name
  laidOut : LaidOut (fileSections file)
  contents : ∀ sect ∈ fileSections file, sect.alloc = true → sect.nobits = false →
    sect.offset.toNat + sect.size.toNat ≤ file.length

def LoaderHost.Grants (host : LoaderHost) : Prop := ∀ use len, host.malloc use len ≠ none

/-- The loader turns the machine down, or exits at a section that it does not know. -/
def LoaderRefuses (file : List Byte) : Prop :=
  supportedMachine (fileMachine file) = false ∨ ∃ sect ∈ fileSections file, ¬ Recognised file sect

def Areas.inData (areas : Areas) (heapLen addr : Word) : Bool :=
  (addr - areas.data.base).ult (areas.totalLen heapLen)

/-- A section that starts between the ends of text goes there, whole, unless the data segment
hides it. What the file has at its offset is copied even if it should be zero. -/
def ServedAsText (heapLen : Word) (areas : Areas) (file : List Byte) (sect : ElfSection) : Prop :=
  sect.addr.toNat + sect.size.toNat ≤ areas.text.limit.toNat ∧
    (∀ i < sect.size.toNat, areas.inData heapLen (sect.addr + BitVec.ofNat 32 i) = false) ∧
    (sect.nobits = true → sect.offset.toNat + sect.size.toNat ≤ file.length ∧
      ∀ i < sect.size.toNat, byteData file (sect.offset.toNat + i) = 0)

/-- Any other has to be for data that is written, in the area for its type, and to end before the
data segment does. -/
def ServedAsData (heapLen : Word) (areas : Areas) (sect : ElfSection) : Prop :=
  sect.writable = true ∧ sect.executable = false ∧
    (if sect.nobits then areas.bss else areas.data).holds sect.addr = true ∧
    (sect.addr - areas.data.base).toNat + sect.size.toNat ≤ (areas.totalLen heapLen).toNat

def Served (heapLen : Word) (areas : Areas) (file : List Byte) (sect : ElfSection) : Prop :=
  if areas.text.holds sect.addr then ServedAsText heapLen areas file sect
  else ServedAsData heapLen areas sect

instance (heapLen : Word) (areas : Areas) (file : List Byte) (sect : ElfSection) :
    Decidable (ServedAsText heapLen areas file sect) :=
  inferInstanceAs (Decidable (_ ∧ _ ∧ (_ → _ ∧ _)))

instance (heapLen : Word) (areas : Areas) (sect : ElfSection) :
    Decidable (ServedAsData heapLen areas sect) :=
  inferInstanceAs (Decidable (_ ∧ _ ∧ _ ∧ _))

instance (heapLen : Word) (areas : Areas) (file : List Byte) (sect : ElfSection) :
    Decidable (Served heapLen areas file sect) :=
  inferInstanceAs (Decidable (if areas.text.holds sect.addr then
    ServedAsText heapLen areas file sect else ServedAsData heapLen areas sect))

section WellFormedFiles

variable {file : List Byte}

theorem WellFormed.fileBuffer (wellFormed : WellFormed file) : fileBuffer file = file := by
  rw [RiscVFast.fileBuffer, Nat.mod_eq_of_lt wellFormed.small, List.take_length]

theorem WellFormed.hasMagic (wellFormed : WellFormed file) : HasMagic file := by
  have parts := List.take_append_drop 4 file
  rw [wellFormed.magic] at parts
  refine ⟨file.drop 4, ?_⟩
  rw [← parts]
  rfl

theorem WellFormed.ident (wellFormed : WellFormed file) : IdentInside file where
  magic := by
    intro short
    have starts := wellFormed.hasMagic
    exact short.2 (short.1.eq_of_length_le starts.length_le)
  ident := fun _ => by
    have header := wellFormed.header
    omega
  machine := fun _ _ => by
    have header := wellFormed.header
    omega

theorem sectionRules_terminated : ∀ rule ∈ sectionRules, 0 ∉ rule.literal.dropLast := by
  decide +kernel

theorem whole_of_ends {name : List Byte} (ends : 0 ∈ name) :
    ∀ rule ∈ sectionRules, ¬ CString.CutShort name rule.literal := by
  intro rule member short
  obtain ⟨rest, whole⟩ := short.1
  have more : rest ≠ [] := by
    intro none
    rw [none, List.append_nil] at whole
    exact short.2 whole
  apply sectionRules_terminated rule member
  rw [← whole, List.dropLast_append_of_ne_nil more]
  exact List.mem_append_left _ ends

theorem namesInside_of_names {sections : List ElfSection} (host : LoaderHost)
    (names : ∀ sect ∈ sections, skipped sect.flags = true ∨
      ∃ name, fileName file sect = some name ∧ 0 ∈ name) : NamesInside host file sections := by
  induction sections with
  | nil => trivial
  | cons sect sections ih =>
      refine ⟨?_, fun _ => ih fun later member => names later (List.mem_cons_of_mem _ member)⟩
      rcases names sect List.mem_cons_self with skip | ⟨name, isName, ends⟩
      · exact .inl skip
      · exact .inr ⟨name, isName, .inr (.inl ends), whole_of_ends ends, fun _ => ends⟩

theorem WellFormed.tables (wellFormed : WellFormed file) (host : LoaderHost) :
    TablesInside host file where
  header := by
    have header := wellFormed.header
    omega
  programs := by
    intro i below
    have some : (fileHeader file).phnum ≠ 0 := fun none => by simp [none] at below
    obtain ⟨size, inside⟩ := wellFormed.programs some
    have count := (fileHeader file).phnum.isLt
    have wide : (32 : BitVec 16).toNat = 32 := rfl
    rw [EntryInside, size, wide]
    omega
  sections := by
    constructor
    · intro i below
      have some : (fileHeader file).shnum ≠ 0 := fun none => by simp [none] at below
      obtain ⟨size, inside⟩ := wellFormed.sections some
      have count := (fileHeader file).shnum.isLt
      have wide : (40 : BitVec 16).toNat = 40 := rfl
      rw [EntryInside, size, wide]
      omega
    · exact fun _ => wellFormed.header
  names := namesInside_of_names host wellFormed.names

end WellFormedFiles

end RiscVFast
