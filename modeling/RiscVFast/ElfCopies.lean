import RiscVFast.ElfSections
import RiscVFast.Lib.Overlay
import RiscVFast.LoadStore

/-! The copies that the loader makes into the new segments. -/

namespace RiscVFast

open Fallible

inductive Placement
  | text | data | bss | nowhere
deriving DecidableEq

def ElfSection.alloc (sect : ElfSection) : Bool := sect.flags &&& shfAlloc != 0

def ElfSection.writable (sect : ElfSection) : Bool := sect.flags &&& shfWrite != 0

def ElfSection.executable (sect : ElfSection) : Bool := sect.flags &&& shfExecinstr != 0

def ElfSection.nobits (sect : ElfSection) : Bool := sect.type == shtNobits

def Areas.placement (areas : Areas) (sect : ElfSection) : Placement :=
  if areas.text.holds sect.addr && sect.alloc then .text
  else if areas.data.holds sect.addr && (sect.alloc && sect.writable) && !sect.nobits then .data
  else if areas.bss.holds sect.addr && (sect.alloc && sect.writable) && sect.nobits then .bss
  else .nowhere

structure Copy where
  toText : Bool
  patch : Overlay.Patch Byte
  info : ElfInfo

def Segment.copy (seg : Segment) (patch : Overlay.Patch Byte) : Segment :=
  { seg with data := splice seg.data patch.start patch.cells }

def Loaded.copy (loaded : Loaded) : Option Copy → Loaded
  | none => loaded
  | some copy =>
      if copy.toText then
        { loaded with
          memory.insnMem := loaded.memory.insnMem.copy copy.patch
          textInfo := loaded.textInfo ++ [copy.info] }
      else
        { loaded with
          memory.dataMem := loaded.memory.dataMem.copy copy.patch
          dataInfo := loaded.dataInfo ++ [copy.info] }

def Segment.room (seg : Segment) (patch : Overlay.Patch Byte) : Except Abort Unit :=
  if patch.cells = [] ∨ patch.start + patch.cells.length ≤ seg.size then .ok ()
  else .error .outOfBuffer

def copyRound (elfbuf : List Byte) (nameTable : Option Word) (areas : Areas) (memory : Memory)
    (sect : ElfSection) : Except Abort (Option Copy) :=
  if skipped sect.flags then .ok none
  else do
    let name ← sectionName elfbuf nameTable sect
    match areas.placement sect with
    | .text => do
        let bytes ← sectionBytes elfbuf sect
        let patch : Overlay.Patch Byte := ⟨memory.insnMem.offset sect.addr, bytes⟩
        let _ ← memory.insnMem.room patch
        let info ← sectionInfo name sect
        .ok (some ⟨true, patch, info⟩)
    | .data => do
        let bytes ← sectionBytes elfbuf sect
        let patch : Overlay.Patch Byte := ⟨memory.dataMem.offset sect.addr, bytes⟩
        let _ ← memory.dataMem.room patch
        let info ← sectionInfo name sect
        .ok (some ⟨false, patch, info⟩)
    | .bss => do
        let patch : Overlay.Patch Byte :=
          ⟨memory.dataMem.offset sect.addr, List.replicate sect.size.toNat 0⟩
        let _ ← memory.dataMem.room patch
        let info ← sectionInfo name sect
        .ok (some ⟨false, patch, info⟩)
    | .nowhere => do
        let _ ← orOutOfBuffer (CString.readAtMost 0 12 name)
        .ok none

theorem poke_eq (seg : Segment) (off : Nat) (bytes : List Byte) :
    seg.poke off bytes = (seg.room ⟨off, bytes⟩).map fun _ => seg.copy ⟨off, bytes⟩ := by
  unfold Segment.poke Segment.room Segment.copy
  by_cases empty : bytes = []
  · rw [if_pos empty, if_pos (.inl empty), map_ok, empty, splice_nil]
  · by_cases fits : off + bytes.length ≤ seg.size
    · rw [if_neg empty, if_pos fits, if_pos (.inr fits), map_ok]
    · rw [if_neg empty, if_neg fits, if_neg (not_or.mpr ⟨empty, fits⟩), map_error]

theorem room_of_layout {seg seg' : Segment} (same : seg.SameLayout seg')
    (patch : Overlay.Patch Byte) : seg'.room patch = seg.room patch := by
  simp only [Segment.room, same.size]

theorem Segment.copy_layout (seg : Segment) (patch : Overlay.Patch Byte) :
    seg.SameLayout (seg.copy patch) := ⟨rfl, rfl, rfl⟩

theorem Loaded.copy_layout {memory : Memory} {loaded : Loaded} (copy : Option Copy)
    (same : memory.SameLayout loaded.memory) : memory.SameLayout (loaded.copy copy).memory := by
  cases copy with
  | none => exact same
  | some copy =>
      unfold Loaded.copy
      split
      · rename_i isNone
        cases isNone
      · rename_i isSome
        split
        · exact ⟨same.text.trans (Segment.copy_layout _ _), same.data⟩
        · exact ⟨same.text, same.data.trans (Segment.copy_layout _ _)⟩

theorem poke_round {α : Type} {seg seg' : Segment} (same : seg.SameLayout seg') (addr : Word)
    (bytes : List Byte) (rest : Segment → Except Abort α) :
    (seg'.poke (addr - seg'.memBase).toNat bytes >>= rest) =
      (seg.room ⟨seg.offset addr, bytes⟩ >>= fun _ =>
        rest (seg'.copy ⟨seg.offset addr, bytes⟩)) := by
  have place : (addr - seg'.memBase).toNat = seg.offset addr := same.offset addr
  rw [place, poke_eq, room_of_layout same]
  cases seg.room ⟨seg.offset addr, bytes⟩ <;> rfl

theorem loadSection_round {elfbuf : List Byte} {nameTable : Option Word} {areas : Areas}
    {memory : Memory} {loaded : Loaded} (same : memory.SameLayout loaded.memory)
    (sect : ElfSection) :
    loadSection elfbuf nameTable areas loaded sect =
      (copyRound elfbuf nameTable areas memory sect).map loaded.copy := by
  unfold loadSection copyRound
  by_cases skip : skipped sect.flags = true
  · rw [if_pos skip, if_pos skip]
    rfl
  · rw [if_neg skip, if_neg skip]
    cases sectionName elfbuf nameTable sect with
    | error abort => rfl
    | ok name =>
        simp only [ok_bind, poke_round same.text, poke_round same.data]
        by_cases text : (areas.text.holds sect.addr && sect.alloc) = true
        · have placed : areas.placement sect = .text := if_pos text
          rw [placed]
          refine (if_pos text).trans ?_
          cases sectionBytes elfbuf sect with
          | error abort => rfl
          | ok bytes =>
              simp only [ok_bind]
              cases memory.insnMem.room ⟨memory.insnMem.offset sect.addr, bytes⟩ with
              | error abort => rfl
              | ok _ => cases sectionInfo name sect <;> rfl
        · refine (if_neg text).trans ?_
          by_cases data : (areas.data.holds sect.addr && (sect.alloc && sect.writable) &&
              !sect.nobits) = true
          · have placed : areas.placement sect = .data := (if_neg text).trans (if_pos data)
            rw [placed]
            refine (if_pos data).trans ?_
            cases sectionBytes elfbuf sect with
            | error abort => rfl
            | ok bytes =>
                simp only [ok_bind]
                cases memory.dataMem.room ⟨memory.dataMem.offset sect.addr, bytes⟩ with
                | error abort => rfl
                | ok _ => cases sectionInfo name sect <;> rfl
          · refine (if_neg data).trans ?_
            by_cases bss : (areas.bss.holds sect.addr && (sect.alloc && sect.writable) &&
                sect.nobits) = true
            · have placed : areas.placement sect = .bss :=
                (if_neg text).trans ((if_neg data).trans (if_pos bss))
              rw [placed]
              refine (if_pos bss).trans ?_
              simp only
              cases memory.dataMem.room
                ⟨memory.dataMem.offset sect.addr, List.replicate sect.size.toNat 0⟩ with
              | error abort => rfl
              | ok _ => cases sectionInfo name sect <;> rfl
            · have placed : areas.placement sect = .nowhere :=
                (if_neg text).trans ((if_neg data).trans (if_neg bss))
              rw [placed]
              refine (if_neg bss).trans ?_
              cases orOutOfBuffer (CString.readAtMost 0 12 name) <;> rfl

section Copies

variable (elfbuf : List Byte)

def ElfSection.contents (sect : ElfSection) : List Byte :=
  (elfbuf.drop sect.offset.toNat).take sect.size.toNat

def ElfSection.ContentsInside (sect : ElfSection) : Prop :=
  sect.size = 0 ∨ sect.offset.toNat + sect.size.toNat ≤ elfbuf.length

def Segment.Fits (seg : Segment) (sect : ElfSection) : Prop :=
  sect.size = 0 ∨ seg.offset sect.addr + sect.size.toNat ≤ seg.size

def fileInfo (sect : ElfSection) : ElfInfo where
  name := ((fileName elfbuf sect).getD []).takeWhile (· ≠ 0)
  type := sect.type
  flags := sect.flags
  addr := sect.addr
  size := sect.size
  offset := sect.offset

variable (areas : Areas) (memory : Memory)

/-- The reads and the copy for a section stay inside the file and inside the new buffer. -/
def CopyInside (sect : ElfSection) : Prop :=
  ∃ name, fileName elfbuf sect = some name ∧
    match areas.placement sect with
    | .text => sect.ContentsInside elfbuf ∧ memory.insnMem.Fits sect ∧ 0 ∈ name
    | .data => sect.ContentsInside elfbuf ∧ memory.dataMem.Fits sect ∧ 0 ∈ name
    | .bss => memory.dataMem.Fits sect ∧ 0 ∈ name
    | .nowhere => 0 ∈ name ∨ 12 ≤ name.length

def copyOf (sect : ElfSection) : Option Copy :=
  if skipped sect.flags then none
  else match areas.placement sect with
    | .text => some
        ⟨true, ⟨memory.insnMem.offset sect.addr, sect.contents elfbuf⟩, fileInfo elfbuf sect⟩
    | .data => some
        ⟨false, ⟨memory.dataMem.offset sect.addr, sect.contents elfbuf⟩, fileInfo elfbuf sect⟩
    | .bss => some
        ⟨false, ⟨memory.dataMem.offset sect.addr, List.replicate sect.size.toNat 0⟩,
          fileInfo elfbuf sect⟩
    | .nowhere => none

end Copies

section Rounds

variable {elfbuf : List Byte} {sect : ElfSection}

theorem ElfSection.contents_length (inside : sect.ContentsInside elfbuf) :
    (sect.contents elfbuf).length = sect.size.toNat := by
  rw [ElfSection.contents, List.length_take, List.length_drop]
  rcases inside with empty | inside
  · rw [empty]
    exact Nat.zero_min _
  · omega

theorem sectionBytes_inside (inside : sect.ContentsInside elfbuf) :
    sectionBytes elfbuf sect = .ok (sect.contents elfbuf) := by
  unfold sectionBytes
  by_cases empty : sect.size = 0
  · rw [if_pos empty, ElfSection.contents, empty]
    rfl
  · rw [if_neg empty, fileAccess, if_pos (inside.resolve_left empty), map_ok]
    rfl

theorem sectionBytes_outside (outside : ¬ sect.ContentsInside elfbuf) :
    sectionBytes elfbuf sect = .error .outOfBuffer := by
  obtain ⟨filled, beyond⟩ := not_or.mp outside
  rw [sectionBytes, if_neg filled, fileAccess, if_neg beyond, map_error]

theorem room_eq (seg : Segment) {bytes : List Byte} (length : bytes.length = sect.size.toNat) :
    (seg.Fits sect → seg.room ⟨seg.offset sect.addr, bytes⟩ = .ok ()) ∧
      (¬ seg.Fits sect → seg.room ⟨seg.offset sect.addr, bytes⟩ = .error .outOfBuffer) := by
  have empty_iff : bytes = [] ↔ sect.size = 0 := by
    rw [← List.length_eq_zero_iff, length, BitVec.toNat_eq]
    exact Iff.rfl
  simp only [Segment.Fits, Segment.room, empty_iff, length]
  exact ⟨fun fits => if_pos fits, fun overflows => if_neg overflows⟩

theorem sectionInfo_inside {name : List Byte} (isName : fileName elfbuf sect = some name)
    (ends : 0 ∈ name) : sectionInfo name sect = .ok (fileInfo elfbuf sect) := by
  rw [sectionInfo, CString.read_of_mem 0 ends, orOutOfBuffer_some, ok_bind, fileInfo, isName,
    Option.getD_some]

theorem sectionInfo_outside {name : List Byte} (endless : 0 ∉ name) :
    sectionInfo name sect = .error .outOfBuffer := by
  rw [sectionInfo, (CString.read_eq_none 0).mpr endless, orOutOfBuffer_none, error_bind]

variable {areas : Areas} {memory : Memory}

theorem copyRound_inside (inside : skipped sect.flags = true ∨ CopyInside elfbuf areas memory sect) :
    copyRound elfbuf (fileNameTable elfbuf) areas memory sect =
      .ok (copyOf elfbuf areas memory sect) := by
  unfold copyRound copyOf
  by_cases skip : skipped sect.flags = true
  · rw [if_pos skip, if_pos skip]
  · rw [if_neg skip, if_neg skip]
    obtain ⟨name, isName, placed⟩ := inside.resolve_left skip
    rw [sectionName_eq, isName, orOutOfBuffer_some, ok_bind]
    cases placement : areas.placement sect with
    | text =>
        rw [placement] at placed
        obtain ⟨source, fits, ends⟩ := placed
        have room := (room_eq memory.insnMem (ElfSection.contents_length source)).1 fits
        simp only [sectionBytes_inside source, ok_bind, room, sectionInfo_inside isName ends]
    | data =>
        rw [placement] at placed
        obtain ⟨source, fits, ends⟩ := placed
        have room := (room_eq memory.dataMem (ElfSection.contents_length source)).1 fits
        simp only [sectionBytes_inside source, ok_bind, room, sectionInfo_inside isName ends]
    | bss =>
        rw [placement] at placed
        obtain ⟨fits, ends⟩ := placed
        have room := (@room_eq sect memory.dataMem (List.replicate sect.size.toNat 0)
          List.length_replicate).1 fits
        simp only [room, ok_bind, sectionInfo_inside isName ends]
    | nowhere =>
        rw [placement] at placed
        cases read : CString.readAtMost 0 12 name with
        | some text => rfl
        | none =>
            obtain ⟨endless, short⟩ := (CString.readAtMost_eq_none 0).mp read
            rcases placed with ends | long
            · exact absurd ends endless
            · omega

theorem copyRound_outside
    (outside : ¬ (skipped sect.flags = true ∨ CopyInside elfbuf areas memory sect)) :
    copyRound elfbuf (fileNameTable elfbuf) areas memory sect = .error .outOfBuffer := by
  obtain ⟨notSkipped, noCopy⟩ := not_or.mp outside
  rw [copyRound, if_neg notSkipped, sectionName_eq]
  cases isName : fileName elfbuf sect with
  | none => rfl
  | some name =>
      rw [orOutOfBuffer_some, ok_bind]
      have fails := not_exists.mp noCopy name
      rw [isName] at fails
      cases placement : areas.placement sect with
      | text =>
          simp only [placement, true_and] at fails ⊢
          by_cases source : sect.ContentsInside elfbuf
          · rw [sectionBytes_inside source, ok_bind]
            have room := room_eq memory.insnMem (ElfSection.contents_length source)
            by_cases fits : memory.insnMem.Fits sect
            · have endless : 0 ∉ name := fun ends => fails ⟨source, fits, ends⟩
              rw [room.1 fits, ok_bind, sectionInfo_outside endless, error_bind]
            · rw [room.2 fits, error_bind]
          · rw [sectionBytes_outside source, error_bind]
      | data =>
          simp only [placement, true_and] at fails ⊢
          by_cases source : sect.ContentsInside elfbuf
          · rw [sectionBytes_inside source, ok_bind]
            have room := room_eq memory.dataMem (ElfSection.contents_length source)
            by_cases fits : memory.dataMem.Fits sect
            · have endless : 0 ∉ name := fun ends => fails ⟨source, fits, ends⟩
              rw [room.1 fits, ok_bind, sectionInfo_outside endless, error_bind]
            · rw [room.2 fits, error_bind]
          · rw [sectionBytes_outside source, error_bind]
      | bss =>
          simp only [placement, true_and] at fails ⊢
          have room := @room_eq sect memory.dataMem (List.replicate sect.size.toNat 0)
            List.length_replicate
          by_cases fits : memory.dataMem.Fits sect
          · have endless : 0 ∉ name := fun ends => fails ⟨fits, ends⟩
            rw [room.1 fits, ok_bind, sectionInfo_outside endless, error_bind]
          · rw [room.2 fits, error_bind]
      | nowhere =>
          simp only [placement, true_and] at fails ⊢
          obtain ⟨endless, short⟩ := not_or.mp fails
          rw [(CString.readAtMost_eq_none 0).mpr ⟨endless, by omega⟩, orOutOfBuffer_none,
            error_bind]

end Rounds

section Loop

variable {elfbuf : List Byte} {areas : Areas} {loaded : Loaded} {sections : List ElfSection}

theorem loadSections_eq (nameTable : Option Word) (areas : Areas) (loaded : Loaded)
    (sections : List ElfSection) :
    sections.foldlM (loadSection elfbuf nameTable areas) loaded =
      (sections.mapM (copyRound elfbuf nameTable areas loaded.memory)).map fun copies =>
        copies.foldl Loaded.copy loaded := by
  refine foldlM_of_checks (fun later => loaded.memory.SameLayout later.memory) ?_ ?_ sections ?_
  · intro later sect same
    exact loadSection_round same sect
  · intro later sect copy same _
    exact Loaded.copy_layout copy same
  · exact Memory.SameLayout.refl loaded.memory

theorem loadSections_inside (inside : ∀ sect ∈ sections,
    skipped sect.flags = true ∨ CopyInside elfbuf areas loaded.memory sect) :
    sections.foldlM (loadSection elfbuf (fileNameTable elfbuf) areas) loaded =
      .ok ((sections.map (copyOf elfbuf areas loaded.memory)).foldl Loaded.copy loaded) := by
  rw [loadSections_eq, mapM_of_all _ fun sect member => copyRound_inside (inside sect member),
    map_ok]

theorem loadSections_outside (outside : ¬ ∀ sect ∈ sections,
    skipped sect.flags = true ∨ CopyInside elfbuf areas loaded.memory sect) :
    sections.foldlM (loadSection elfbuf (fileNameTable elfbuf) areas) loaded =
      .error .outOfBuffer := by
  have some : ∃ sect ∈ sections,
      ¬ (skipped sect.flags = true ∨ CopyInside elfbuf areas loaded.memory sect) := by
    simpa only [not_forall, exists_prop] using outside
  obtain ⟨sect, member, beyond⟩ := some
  have rounds : ∀ other ∈ sections,
      (∃ copy, copyRound elfbuf (fileNameTable elfbuf) areas loaded.memory other = .ok copy) ∨
        copyRound elfbuf (fileNameTable elfbuf) areas loaded.memory other =
          .error .outOfBuffer := by
    intro other _
    by_cases inside : skipped other.flags = true ∨ CopyInside elfbuf areas loaded.memory other
    · exact .inl ⟨_, copyRound_inside inside⟩
    · exact .inr (copyRound_outside inside)
  rw [loadSections_eq, mapM_of_some rounds ⟨sect, member, copyRound_outside beyond⟩, map_error]

end Loop

end RiscVFast
