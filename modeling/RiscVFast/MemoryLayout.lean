import RiscVFast.Heap
import RiscVFast.LoadedSections
import RiscVFast.Lib.Arc

/-! The memory of a program as `readElf`, `main` and `sys_brk` lay it out, each for its part. -/

namespace RiscVFast

open Fallible Transition

def heapSize : Word := 0x10000

/-- `main` from the loaded file to `run`. With `-u` the data segment takes the list of the text. -/
def mainState (uflag : Bool) (loaded : Loaded) : Simulator :=
  Simulator.boot loaded.memory loaded.entry (sectionBounds (loaded.infos uflag)).limit

structure LoadedData (elfbuf : List Byte) (sect : ElfSection) : Prop where
  named : sect ∈ sectionsOf elfbuf .data ∨ sect ∈ sectionsOf elfbuf .bss
  copied : (fileAreas elfbuf).placement sect ≠ .nowhere

def ElfSection.ending (sect : ElfSection) : Nat := sect.addr.toNat + sect.size.toNat

structure ConsistentLayout (cfg : Config) (elfbuf : List Byte) (sim : Simulator) : Prop where
  contains : ∀ sect, LoadedData elfbuf sect →
    sim.machine.memory.dataMem.memBase.toNat ≤ sect.addr.toNat ∧
      sect.ending + heapSize.toNat ≤ sim.machine.memory.dataMem.memBase.toNat +
        sim.machine.memory.dataMem.memLen.toNat
  stackAligned : (sim.machine.cpu.reg 2).toNat % 16 = 0
  stackInside : sim.machine.memory.isdata (sim.machine.cpu.reg 2) = true
  brk : ∀ moves after a1, Runs (Moves cfg) sim moves after →
    let brk := (doBrk after.machine 0 a1).1
    brk.toNat % 16 = 0 ∧ (∀ sect, LoadedData elfbuf sect → sect.ending ≤ brk.toNat) ∧
      brk.toNat < (sim.machine.cpu.reg 2).toNat
  apart : (fileSections elfbuf).Pairwise ElfSection.Apart → ∀ addr,
    ¬ (sim.machine.memory.isdata addr = true ∧ sim.machine.memory.istext addr = true)

def listedEnd (uflag : Bool) (elfbuf : List Byte) : Word :=
  alignedEnd (areaOf ((fileSections elfbuf).filter ((fileAreas elfbuf).loads uflag))).limit

def Areas.heapEnd (areas : Areas) : Word := areas.heapBase + heapSize

def Areas.inText (areas : Areas) (addr : Word) : Bool :=
  (addr - areas.text.base).ult areas.textLen

structure LayoutFits (uflag : Bool) (elfbuf : List Byte) : Prop where
  between : ∀ sect, LoadedData elfbuf sect →
    (fileAreas elfbuf).data.base.toNat ≤ sect.addr.toNat ∧
      sect.ending ≤ (fileAreas elfbuf).heapBase.toNat ∧
      (fileAreas elfbuf).heapBase.toNat + heapSize.toNat ≤ 2 ^ 32
  listed : ∀ sect, LoadedData elfbuf sect → sect.ending ≤ (listedEnd uflag elfbuf).toNat
  below : (listedEnd uflag elfbuf).toNat < ((fileAreas elfbuf).heapEnd - 16).toNat
  room : 16 ≤ ((fileAreas elfbuf).totalLen heapSize).toNat
  starts : (fileSections elfbuf).Pairwise ElfSection.Apart →
    (fileAreas elfbuf).inText (fileAreas elfbuf).data.base = false ∧
      ((fileAreas elfbuf).inData heapSize (fileAreas elfbuf).text.base = true →
        (fileAreas elfbuf).textLen = 0)

theorem alignedEnd_mod (dataEnd : Word) : (alignedEnd dataEnd).toNat % 16 = 0 :=
  @Arc.and_mod 32 4 _ _ (by decide)

theorem Areas.heapBase_mod (areas : Areas) : areas.heapBase.toNat % 16 = 0 :=
  @Arc.and_mod 32 4 _ _ (by decide)

theorem Areas.heapEnd_mod (areas : Areas) : (areas.heapEnd - 16).toNat % 16 = 0 := by
  have base := areas.heapBase_mod
  have size : heapSize.toNat = 0x10000 := rfl
  have step : (16 : Word).toNat = 16 := rfl
  rw [Areas.heapEnd, BitVec.toNat_sub, BitVec.toNat_add]
  omega

theorem Areas.stack_eq (areas : Areas) :
    (areas.data.base + areas.totalLen heapSize - 16) &&& 0xfffffffc = areas.heapEnd - 16 := by
  have top : areas.data.base + areas.totalLen heapSize = areas.heapEnd := by
    rw [Areas.totalLen, Areas.heapEnd]
    ring
  have multiple := areas.heapEnd_mod
  rw [top]
  exact @Arc.and_eq 32 2 _ _ (by omega) (by decide)

section Started

variable {cfg : Config} {host : LoaderHost} {elfbuf : List Byte} {before loaded : Loaded}
  {uflag : Bool}

structure Places (areas : Areas) (memory : Memory) : Prop where
  textBase : memory.insnMem.memBase = areas.text.base
  textLen : memory.insnMem.memLen = areas.textLen
  dataBase : memory.dataMem.memBase = areas.data.base
  dataLen : memory.dataMem.memLen = areas.totalLen heapSize

theorem AcceptedLoad.places (load : AcceptedLoad host heapSize elfbuf before loaded) :
    Places (fileAreas elfbuf) loaded.memory := by
  have text := load.segment_layout true
  have data := load.segment_layout false
  refine ⟨text.memBase.trans ?_, text.memLen.trans ?_, data.memBase.trans ?_,
    data.memLen.trans ?_⟩
  · exact allocate_memBase _ _ _ _
  · exact allocate_memLen _ _ _ _
  · exact allocate_memBase _ _ _ _
  · exact allocate_memLen _ _ _ _

theorem sectionBounds_map (sections : List ElfSection) :
    sectionBounds (sections.map (fileInfo elfbuf)) = areaOf sections := by
  rw [sectionBounds, List.foldl_map]
  exact foldl_area sections

theorem AcceptedLoad.bounds (load : AcceptedLoad host heapSize elfbuf before loaded)
    (empty : before.infos uflag = []) : sectionBounds (loaded.infos uflag) =
      areaOf ((fileSections elfbuf).filter ((fileAreas elfbuf).loads uflag)) := by
  rw [load.infos uflag, empty, List.nil_append, sectionBounds_map]

theorem endOfData_of_runs {sim after : Simulator} {moves : List Move}
    (runs : Runs (Moves cfg) sim moves after) :
    after.machine.cpu.endOfData = sim.machine.cpu.endOfData := by
  refine runs.invariant
    (fun state => state.machine.cpu.endOfData = sim.machine.cpu.endOfData) ?_ rfl
  intro state move next same moved
  cases moved with
  | round stepped => exact (step_endOfData stepped).trans same
  | enter => exact same
  | leave => exact same

theorem Places.stack (places : Places (fileAreas elfbuf) loaded.memory) :
    (mainState uflag loaded).machine.cpu.reg 2 = (fileAreas elfbuf).heapEnd - 16 := by
  rw [← Areas.stack_eq, ← places.dataBase, ← places.dataLen]
  rfl

theorem mainState_brk (bounds : sectionBounds (loaded.infos uflag) =
      areaOf ((fileSections elfbuf).filter ((fileAreas elfbuf).loads uflag)))
    {moves : List Move} {after : Simulator} (a1 : Word)
    (runs : Runs (Moves cfg) (mainState uflag loaded) moves after) :
    (doBrk after.machine 0 a1).1 = listedEnd uflag elfbuf := by
  rw [doBrk_eq, if_pos rfl, endOfData_of_runs runs, listedEnd, ← bounds]
  rfl

theorem Places.isdata (places : Places (fileAreas elfbuf) loaded.memory) (addr : Word) :
    loaded.memory.isdata addr = Arc.holds (fileAreas elfbuf).data.base
      ((fileAreas elfbuf).totalLen heapSize) addr := by
  rw [Memory.isdata, places.dataBase, places.dataLen]
  rfl

theorem Places.istext (places : Places (fileAreas elfbuf) loaded.memory) (addr : Word) :
    loaded.memory.istext addr = Arc.holds (fileAreas elfbuf).text.base
      (fileAreas elfbuf).textLen addr := by
  rw [Memory.istext, places.textBase, places.textLen]
  rfl

theorem stackInside_iff (areas : Areas) :
    Arc.holds areas.data.base (areas.totalLen heapSize) (areas.heapEnd - 16) = true ↔
      16 ≤ (areas.totalLen heapSize).toNat := by
  have below : areas.heapEnd - 16 - areas.data.base = areas.totalLen heapSize - 16 := by
    rw [Areas.totalLen, Areas.heapEnd]
    ring
  have step : (16 : Word).toNat = 16 := rfl
  have small := (areas.totalLen heapSize).isLt
  rw [Arc.holds_iff, below, BitVec.toNat_sub]
  omega

theorem apart_iff (places : Places (fileAreas elfbuf) loaded.memory)
    (room : 16 ≤ ((fileAreas elfbuf).totalLen heapSize).toNat) :
    (∀ addr, ¬ (loaded.memory.isdata addr = true ∧ loaded.memory.istext addr = true)) ↔
      (fileAreas elfbuf).inText (fileAreas elfbuf).data.base = false ∧
        ((fileAreas elfbuf).inData heapSize (fileAreas elfbuf).text.base = true →
          (fileAreas elfbuf).textLen = 0) := by
  have some : (fileAreas elfbuf).totalLen heapSize ≠ 0 := by
    intro none
    rw [none] at room
    exact absurd room (by decide)
  simp only [places.isdata, places.istext, Arc.disjoint_iff]
  rw [and_comm, ← Bool.not_eq_true]
  refine and_congr_left fun _ => ?_
  exact ⟨fun inside starts => some (inside starts), fun outside starts => absurd starts outside⟩

theorem section_between_iff {areas : Areas} {sect : ElfSection} {top : Word}
    (ends : sect.ending ≤ top.toNat) (below : top.toNat < (areas.heapEnd - 16).toNat)
    (room : 16 ≤ (areas.totalLen heapSize).toNat) :
    (areas.data.base.toNat ≤ sect.addr.toNat ∧
      sect.ending + heapSize.toNat ≤
        areas.data.base.toNat + (areas.totalLen heapSize).toNat) ↔
      areas.data.base.toNat ≤ sect.addr.toNat ∧ sect.ending ≤ areas.heapBase.toNat ∧
        areas.heapBase.toNat + heapSize.toNat ≤ 2 ^ 32 := by
  have aligned := areas.heapBase_mod
  have size : heapSize.toNat = 0x10000 := rfl
  have step : (16 : Word).toNat = 16 := rfl
  have base := areas.data.base.isLt
  have heap := areas.heapBase.isLt
  rw [Areas.heapEnd, BitVec.toNat_sub, BitVec.toNat_add] at below
  rw [Areas.totalLen, BitVec.toNat_sub, BitVec.toNat_add] at room ⊢
  unfold ElfSection.ending at *
  omega

theorem fits_of_consistent (places : Places (fileAreas elfbuf) loaded.memory)
    (bounds : sectionBounds (loaded.infos uflag) =
      areaOf ((fileSections elfbuf).filter ((fileAreas elfbuf).loads uflag)))
    (consistent : ConsistentLayout cfg elfbuf (mainState uflag loaded)) :
    LayoutFits uflag elfbuf := by
  obtain ⟨contains, _, inside, brk, apart⟩ := consistent
  have start : Runs (Moves cfg) (mainState uflag loaded) [] (mainState uflag loaded) := .nil _
  obtain ⟨_, listed, below⟩ := brk [] _ 0 start
  rw [mainState_brk bounds 0 start] at listed below
  rw [places.stack] at inside below
  have room := (stackInside_iff (fileAreas elfbuf)).mp ((places.isdata _).symm.trans inside)
  refine ⟨?_, listed, below, room, ?_⟩
  · intro sect isData
    have held := contains sect isData
    rw [show (mainState uflag loaded).machine.memory.dataMem.memBase = _ from places.dataBase,
      show (mainState uflag loaded).machine.memory.dataMem.memLen = _ from places.dataLen] at held
    exact (section_between_iff (listed sect isData) below room).mp held
  · intro pairwise
    exact (apart_iff places room).mp (apart pairwise)

theorem consistent_of_fits (places : Places (fileAreas elfbuf) loaded.memory)
    (bounds : sectionBounds (loaded.infos uflag) =
      areaOf ((fileSections elfbuf).filter ((fileAreas elfbuf).loads uflag)))
    (fits : LayoutFits uflag elfbuf) :
    ConsistentLayout cfg elfbuf (mainState uflag loaded) := by
  obtain ⟨between, listed, below, room, starts⟩ := fits
  refine ⟨?_, ?_, ?_, ?_, ?_⟩
  · intro sect isData
    rw [show (mainState uflag loaded).machine.memory.dataMem.memBase = _ from places.dataBase,
      show (mainState uflag loaded).machine.memory.dataMem.memLen = _ from places.dataLen]
    exact (section_between_iff (listed sect isData) below room).mpr (between sect isData)
  · rw [places.stack]
    exact (fileAreas elfbuf).heapEnd_mod
  · rw [places.stack]
    exact (places.isdata _).trans ((stackInside_iff (fileAreas elfbuf)).mpr room)
  · intro moves after a1 runs
    rw [mainState_brk bounds a1 runs, places.stack]
    exact ⟨alignedEnd_mod _, listed, below⟩
  · intro pairwise
    exact (apart_iff places room).mpr (starts pairwise)

end Started

/-- Of every accepted file, with and without `-u`. The lists of the segments start empty. -/
theorem layout_consistent_iff (cfg : Config) (host : LoaderHost) (file : List Byte)
    (before loaded : Loaded) (uflag : Bool) (empty : before.infos uflag = [])
    (read : readElf host heapSize file before = .ok (0, loaded)) :
    ConsistentLayout cfg (fileBuffer file) (mainState uflag loaded) ↔
      LayoutFits uflag (fileBuffer file) := by
  have load := acceptedLoad_of_readElf read
  exact ⟨fits_of_consistent load.places (load.bounds empty),
    consistent_of_fits load.places (load.bounds empty)⟩

theorem orderedElf_parts :
    fileAreas orderedElf = ⟨⟨0x1000, 0x1004⟩, ⟨0x2000, 0x2004⟩, ⟨0x2004, 0x2008⟩⟩ ∧
      sectionsOf orderedElf .data = [⟨7, 1, 3, 0x2000, 284, 4⟩] ∧
      sectionsOf orderedElf .bss = [⟨13, 8, 3, 0x2004, 288, 4⟩] ∧
      listedEnd false orderedElf = 0x2010 := by
  decide +kernel

theorem orderedElf_data {sect : ElfSection} (isData : LoadedData orderedElf sect) :
    sect = ⟨7, 1, 3, 0x2000, 284, 4⟩ ∨ sect = ⟨13, 8, 3, 0x2004, 288, 4⟩ := by
  obtain ⟨-, data, bss, -⟩ := orderedElf_parts
  have named := isData.named
  rw [data, bss, List.mem_singleton, List.mem_singleton] at named
  exact named

theorem orderedElf_fits : LayoutFits false orderedElf := by
  obtain ⟨areas, -, -, listed⟩ := orderedElf_parts
  refine ⟨?_, ?_, ?_, ?_, ?_⟩
  · intro sect isData
    rw [areas]
    rcases orderedElf_data isData with rfl | rfl <;> decide
  · intro sect isData
    rw [listed]
    rcases orderedElf_data isData with rfl | rfl <;> decide
  · rw [areas, listed]
    decide
  · rw [areas]
    decide
  · intro _
    rw [areas]
    decide

theorem layout_consistent_ordered :
    ConsistentLayout (Config.standard Host.silent) (fileBuffer orderedElf)
      (mainState false orderedLoaded) := by
  refine (layout_consistent_iff (Config.standard Host.silent) (hostOf 0) orderedElf blank
    orderedLoaded false rfl orderedElf_read).mpr ?_
  rw [orderedElf_wellFormed.fileBuffer]
  exact orderedElf_fits

def plainElf : List Byte :=
  elfOf [⟨0, 0, 0, 0, 0, 0⟩, ⟨1, 1, 6, 0x1000, 240, 4⟩, ⟨7, 1, 3, 0x2000, 244, 4⟩,
    ⟨18, 3, 0, 0, 212, 28⟩]
    (sectionNames ++ [0x13, 0x05, 0x70, 0x00, 1, 2, 3, 4])

theorem plainElf_checks : FileChecks plainElf ∧
    fileAreas plainElf = ⟨⟨0x1000, 0x1004⟩, ⟨0x2000, 0x2004⟩, Area.none⟩ ∧
    ⟨7, 1, 3, 0x2000, 244, 4⟩ ∈ sectionsOf plainElf .data ∧ ¬ LoaderRefuses plainElf ∧
    ∀ sect ∈ fileSections plainElf, sect.alloc = true → sect.size ≠ 0 →
      Served heapSize (fileAreas plainElf) plainElf sect := by
  decide +kernel

/-- Without bss the heap is put behind 0: the segment ends at 0x10000, less than 64 K above the
data. -/
theorem layout_inconsistent : ¬ ∀ (cfg : Config) (host : LoaderHost) (file : List Byte)
    (before loaded : Loaded), WellFormed file → host.Grants → before.infos false = [] →
      readElf host heapSize file before = .ok (0, loaded) →
        ConsistentLayout cfg (fileBuffer file) (mainState false loaded) := by
  intro claimed
  obtain ⟨checks, areas, isData, taken, served⟩ := plainElf_checks
  have wellFormed := wellFormed_of_checks checks
  have read := readElf_served wellFormed (hostOf_grants 0) taken served blank
  have load := acceptedLoad_of_readElf read
  have fits := fits_of_consistent load.places (load.bounds rfl)
    (claimed (Config.standard Host.silent) (hostOf 0) plainElf blank _ wellFormed
      (hostOf_grants 0) rfl read)
  rw [wellFormed.fileBuffer] at fits
  have data : LoadedData plainElf ⟨7, 1, 3, 0x2000, 244, 4⟩ := by
    refine ⟨.inl isData, ?_⟩
    rw [areas]
    decide
  have between := fits.between _ data
  rw [areas] at between
  exact absurd between.2.1 (by decide)

end RiscVFast
