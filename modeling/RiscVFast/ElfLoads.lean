import RiscVFast.ElfImage

/-! The loader makes the image of a well-formed file exactly when every section is served. -/

namespace RiscVFast

open Fallible Overlay

/-! Reads of whole segments. -/

theorem isdata_iff (memory : Memory) (addr : Word) : memory.isdata addr = true ↔
    memory.dataMem.offset addr < memory.dataMem.memLen.toNat := by
  rw [Memory.isdata, BitVec.ult, decide_eq_true_eq]
  exact Iff.rfl

theorem istext_iff (memory : Memory) (addr : Word) : memory.istext addr = true ↔
    memory.insnMem.offset addr < memory.insnMem.memLen.toNat := by
  rw [Memory.istext, BitVec.ult, decide_eq_true_eq]
  exact Iff.rfl

theorem read8u_data {memory : Memory} {addr : Word}
    (whole : memory.dataMem.size = memory.dataMem.memLen.toNat)
    (isData : memory.isdata addr = true) :
    memory.read8u addr =
      .ok ((memory.dataMem.data (memory.dataMem.offset addr)).setWidth 32) := by
  have below := (isdata_iff memory addr).mp isData
  simp only [Memory.read8u, Memory.readWith, Memory.readSegment, isData, if_true]
  rw [Segment.read8u, Segment.access, if_pos (by omega), map_ok]

theorem read8u_text {memory : Memory} {addr : Word}
    (whole : memory.insnMem.size = memory.insnMem.memLen.toNat)
    (notData : memory.isdata addr = false) (isText : memory.istext addr = true) :
    memory.read8u addr =
      .ok ((memory.insnMem.data (memory.insnMem.offset addr)).setWidth 32) := by
  have below := (istext_iff memory addr).mp isText
  simp only [Memory.read8u, Memory.readWith, Memory.readSegment, notData, isText, if_true,
    Bool.false_eq_true, if_false]
  rw [Segment.read8u, Segment.access, if_pos (by omega), map_ok]

theorem read8u_neither {memory : Memory} {addr : Word} (notData : memory.isdata addr = false)
    (notText : memory.istext addr = false) (value : Word) : memory.read8u addr ≠ .ok value := by
  simp [Memory.read8u, Memory.readWith, Memory.readSegment, notData, notText]

theorem byte_of_setWidth {first second : Byte}
    (same : first.setWidth 32 = second.setWidth 32) : first = second := by
  apply BitVec.eq_of_toNat_eq
  have values := congrArg BitVec.toNat same
  simp only [BitVec.toNat_setWidth] at values
  omega

/-! Where the sections are placed. -/

section Placements

variable {areas : Areas} {sect : ElfSection}

theorem kept_of_alloc (alloc : sect.alloc = true) : skipped sect.flags = false := by
  rw [← Bool.not_eq_true]
  intro skip
  rw [skipped, Bool.or_eq_true, beq_iff_eq, beq_iff_eq] at skip
  rcases skip with none | merged
  · simp [ElfSection.alloc, none] at alloc
  · simp [ElfSection.alloc, merged, shfAlloc] at alloc

theorem placement_text (alloc : sect.alloc = true) (text : areas.text.holds sect.addr = true) :
    areas.placement sect = .text := by
  simp [Areas.placement, text, alloc]

theorem placement_other (alloc : sect.alloc = true) (notText : areas.text.holds sect.addr = false) :
    areas.placement sect =
      if (if sect.nobits then areas.bss else areas.data).holds sect.addr ∧ sect.writable then
        if sect.nobits then .bss else .data
      else .nowhere := by
  cases nobits : sect.nobits <;> simp [Areas.placement, alloc, notText, nobits]

theorem area_fits {area : Area} (holds : area.holds sect.addr = true) :
    (sect.addr - area.base).toNat + sect.size.toNat ≤ (area.limit - area.base).toNat ↔
      sect.addr.toNat + sect.size.toNat ≤ area.limit.toNat := by
  simp only [Area.holds, BitVec.ule, BitVec.ult, Bool.and_eq_true, decide_eq_true_eq] at holds
  simp only [BitVec.toNat_sub]
  omega

end Placements

/-! The memory that the loader leaves behind. -/

section Image

variable {host : LoaderHost} {heapLen : Word} {file : List Byte} {sect : ElfSection}

theorem allocate_memBase (host : LoaderHost) (use : Allocation) (base len : Word) :
    (allocate host use base len).memBase = base := by
  unfold allocate
  cases host.malloc use len.toNat <;> rfl

theorem allocate_memLen (host : LoaderHost) (use : Allocation) (base len : Word) :
    (allocate host use base len).memLen = len := by
  unfold allocate
  cases host.malloc use len.toNat <;> rfl

theorem allocate_size (grants : host.Grants) (use : Allocation) (base len : Word) :
    (allocate host use base len).size = len.toNat := by
  obtain ⟨contents, given⟩ := Option.ne_none_iff_exists'.mp (grants use len.toNat)
  rw [allocate, given]

def fileMemory (host : LoaderHost) (heapLen : Word) (file : List Byte) : Memory :=
  newMemory host heapLen (fileAreas file)

def loadedFile (host : LoaderHost) (heapLen : Word) (file : List Byte) (before : Loaded) : Loaded :=
  ((fileSections file).map (copyOf file (fileAreas file) (fileMemory host heapLen file))).foldl
    Loaded.copy (before.fresh host heapLen file)

theorem loadedFile_entry (before : Loaded) :
    (loadedFile host heapLen file before).entry = (fileHeader file).entry := by
  rw [loadedFile, copies_entry]
  rfl

theorem loadedFile_segment (before : Loaded) (toText : Bool) :
    (loadedFile host heapLen file before).memory.segment toText =
      { (fileMemory host heapLen file).segment toText with
        data := patched ((fileMemory host heapLen file).segment toText).data
          ((fileSections file).filterMap
            (sectionPatch file (fileAreas file) (fileMemory host heapLen file) toText)) } := by
  rw [loadedFile, copies_segment, patchesIn_sections]
  rfl

structure FileLayout (heapLen : Word) (file : List Byte) (memory : Memory) : Prop where
  textBase : memory.insnMem.memBase = (fileAreas file).text.base
  textLen : memory.insnMem.memLen = (fileAreas file).textLen
  textSize : memory.insnMem.size = (fileAreas file).textLen.toNat
  dataBase : memory.dataMem.memBase = (fileAreas file).data.base
  dataLen : memory.dataMem.memLen = (fileAreas file).totalLen heapLen
  dataSize : memory.dataMem.size = ((fileAreas file).totalLen heapLen).toNat

theorem fileMemory_layout (grants : host.Grants) :
    FileLayout heapLen file (fileMemory host heapLen file) where
  textBase := allocate_memBase _ _ _ _
  textLen := allocate_memLen _ _ _ _
  textSize := allocate_size grants _ _ _
  dataBase := allocate_memBase _ _ _ _
  dataLen := allocate_memLen _ _ _ _
  dataSize := allocate_size grants _ _ _

theorem loadedFile_layout (grants : host.Grants) (before : Loaded) :
    FileLayout heapLen file (loadedFile host heapLen file before).memory := by
  have layout := @fileMemory_layout host heapLen file grants
  have text := @loadedFile_segment host heapLen file before true
  have data := @loadedFile_segment host heapLen file before false
  simp only [Memory.segment, if_true, Bool.false_eq_true, if_false] at text data
  constructor
  · rw [text]
    exact layout.textBase
  · rw [text]
    exact layout.textLen
  · rw [text]
    exact layout.textSize
  · rw [data]
    exact layout.dataBase
  · rw [data]
    exact layout.dataLen
  · rw [data]
    exact layout.dataSize

theorem FileLayout.isdata {memory : Memory} (layout : FileLayout heapLen file memory)
    (addr : Word) : memory.isdata addr = (fileAreas file).inData heapLen addr := by
  rw [Memory.isdata, layout.dataBase, layout.dataLen, Areas.inData]

theorem FileLayout.bounded {memory : Memory} (layout : FileLayout heapLen file memory)
    (toText : Bool) : (memory.segment toText).size ≤ 2 ^ 32 := by
  cases toText with
  | true =>
      have size := layout.textSize
      have small := (fileAreas file).textLen.isLt
      simp only [Memory.segment, if_true]
      omega
  | false =>
      have size := layout.dataSize
      have small := ((fileAreas file).totalLen heapLen).isLt
      simp only [Memory.segment, Bool.false_eq_true, if_false]
      omega

/-! Copied and uncopied bytes. -/

theorem loadedFile_copied (grants : host.Grants) (laidOut : LaidOut (fileSections file))
    (copies : CopiesInside host heapLen file) (before : Loaded) {toText : Bool}
    (member : sect ∈ fileSections file) {patch : Patch Byte}
    (isPatch : sectionPatch file (fileAreas file) (fileMemory host heapLen file) toText sect =
      some patch) {i : Nat} (below : i < sect.size.toNat) :
    some (((loadedFile host heapLen file before).memory.segment toText).data
      (((loadedFile host heapLen file before).memory.segment toText).offset
        (sect.addr + BitVec.ofNat 32 i))) = patch.cells[i]? := by
  rw [loadedFile_segment]
  exact segment_copied laidOut copies ((fileMemory_layout grants).bounded toText) member isPatch
    below _

theorem loadedFile_untouched (laidOut : LaidOut (fileSections file))
    (copies : CopiesInside host heapLen file) (before : Loaded) {toText : Bool}
    (member : sect ∈ fileSections file) (alloc : sect.alloc = true)
    (noPatch : sectionPatch file (fileAreas file) (fileMemory host heapLen file) toText sect = none)
    {i : Nat} (below : i < sect.size.toNat) :
    ∃ place, ((loadedFile host heapLen file before).memory.segment toText).data
      (((loadedFile host heapLen file before).memory.segment toText).offset
        (sect.addr + BitVec.ofNat 32 i)) =
      ((fileMemory host heapLen file).segment toText).data place := by
  rw [loadedFile_segment]
  exact ⟨_, segment_untouched laidOut copies member alloc noPatch below _⟩

theorem contents_byte (inside : sect.ContentsInside file) {i : Nat} (below : i < sect.size.toNat) :
    (sect.contents file)[i]? = some (byteData file (sect.offset.toNat + i)) := by
  have filled : sect.size ≠ 0 := fun empty => by simp [empty] at below
  have within : sect.offset.toNat + i < file.length := by
    have fits := inside.resolve_left filled
    omega
  rw [ElfSection.contents, List.getElem?_take_of_lt below, List.getElem?_drop, byteData,
    List.getElem?_eq_getElem within, Option.getD_some]

end Image

/-! Served sections make the image. -/

section Served

variable {host : LoaderHost} {heapLen : Word} {file : List Byte} {sect : ElfSection}

theorem contentsInside_of_served (wellFormed : WellFormed file) (member : sect ∈ fileSections file)
    (alloc : sect.alloc = true) (served : ServedAsText heapLen (fileAreas file) file sect) :
    sect.ContentsInside file := by
  cases nobits : sect.nobits with
  | true => exact .inr (served.2.2 nobits).1
  | false => exact .inr (wellFormed.contents sect member alloc nobits)

theorem textFits_of_served {memory : Memory} (layout : FileLayout heapLen file memory)
    (text : (fileAreas file).text.holds sect.addr = true)
    (served : ServedAsText heapLen (fileAreas file) file sect) :
    memory.insnMem.offset sect.addr + sect.size.toNat ≤ (fileAreas file).textLen.toNat := by
  rw [Segment.offset, layout.textBase]
  exact (area_fits text).mpr served.1

theorem dataFits_of_served {memory : Memory} (layout : FileLayout heapLen file memory)
    (served : ServedAsData heapLen (fileAreas file) sect) :
    memory.dataMem.offset sect.addr + sect.size.toNat ≤
      ((fileAreas file).totalLen heapLen).toNat := by
  rw [Segment.offset, layout.dataBase]
  exact served.2.2.2

theorem copies_of_served (wellFormed : WellFormed file) (grants : host.Grants)
    (served : ∀ sect ∈ fileSections file, sect.alloc = true → sect.size ≠ 0 →
      Served heapLen (fileAreas file) file sect) : CopiesInside host heapLen file := by
  intro sect member
  rcases wellFormed.names sect member with skip | ⟨name, isName, ends⟩
  · exact .inl skip
  · refine .inr ⟨name, isName, ?_⟩
    cases alloc : sect.alloc with
    | false =>
        have placed : (fileAreas file).placement sect = .nowhere := by
          by_contra somewhere
          rw [alloc_of_placed somewhere] at alloc
          cases alloc
        rw [placed]
        exact .inl ends
    | true =>
        have layout := @fileMemory_layout host heapLen file grants
        by_cases empty : sect.size = 0
        · cases (fileAreas file).placement sect with
          | text => exact ⟨.inl empty, .inl empty, ends⟩
          | data => exact ⟨.inl empty, .inl empty, ends⟩
          | bss => exact ⟨.inl empty, ends⟩
          | nowhere => exact .inl ends
        · have isServed := served sect member alloc empty
          unfold Served at isServed
          split at isServed
          · rename_i text
            rw [placement_text alloc text]
            have fits := textFits_of_served layout text isServed
            rw [← layout.textSize] at fits
            exact ⟨contentsInside_of_served wellFormed member alloc isServed, .inr fits, ends⟩
          · rename_i notText
            rw [Bool.not_eq_true] at notText
            have fits := dataFits_of_served layout isServed
            rw [← layout.dataSize] at fits
            rw [placement_other alloc notText, if_pos ⟨isServed.2.2.1, isServed.1⟩]
            cases nobits : sect.nobits with
            | true => exact ⟨.inr fits, ends⟩
            | false =>
                exact ⟨.inr (wellFormed.contents sect member alloc nobits), .inr fits, ends⟩

theorem insnMem_served (wellFormed : WellFormed file) (grants : host.Grants)
    (copies : CopiesInside host heapLen file) (before : Loaded) (member : sect ∈ fileSections file)
    (alloc : sect.alloc = true) (text : (fileAreas file).text.holds sect.addr = true)
    (served : ServedAsText heapLen (fileAreas file) file sect) {i : Nat}
    (below : i < sect.size.toNat) :
    (loadedFile host heapLen file before).memory.Fetches (sect.addr + BitVec.ofNat 32 i)
      (sect.byteAt file i) := by
  have layout := @loadedFile_layout host heapLen file grants before
  have fits := textFits_of_served layout text served
  have small := (fileAreas file).textLen.isLt
  have room : (loadedFile host heapLen file before).memory.insnMem.offset sect.addr + i <
      2 ^ 32 := by omega
  have place := (loadedFile host heapLen file before).memory.insnMem.offset_add room
  have patch := @sectionPatch_text file (fileAreas file) (fileMemory host heapLen file) sect true
    (kept_of_alloc alloc) (placement_text alloc text)
  have copied := loadedFile_copied grants wellFormed.laidOut copies before member patch below
  rw [contents_byte (contentsInside_of_served wellFormed member alloc served) below] at copied
  have bounds : (loadedFile host heapLen file before).memory.insnMem.offset
      (sect.addr + BitVec.ofNat 32 i) < (fileAreas file).textLen.toNat := by omega
  refine ⟨?_, ?_, ?_⟩
  · rw [istext_iff, layout.textLen]
    exact bounds
  · rw [layout.textSize]
    exact bounds
  · refine (Option.some.inj copied).trans ?_
    rw [ElfSection.byteAt]
    split
    · rename_i nobits
      exact (served.2.2 nobits).2 i below
    · rfl

theorem reads_served (wellFormed : WellFormed file) (grants : host.Grants)
    (copies : CopiesInside host heapLen file) (before : Loaded) (member : sect ∈ fileSections file)
    (alloc : sect.alloc = true) (served : Served heapLen (fileAreas file) file sect) {i : Nat}
    (below : i < sect.size.toNat) :
    (loadedFile host heapLen file before).memory.read8u (sect.addr + BitVec.ofNat 32 i) =
      .ok ((sect.byteAt file i).setWidth 32) := by
  have layout := @loadedFile_layout host heapLen file grants before
  unfold Served at served
  split at served
  · rename_i text
    obtain ⟨isText, _, holds⟩ :=
      insnMem_served wellFormed grants copies before member alloc text served below
    have notData : (loadedFile host heapLen file before).memory.isdata
        (sect.addr + BitVec.ofNat 32 i) = false := by
      rw [layout.isdata]
      exact served.2.1 i below
    rw [read8u_text (by rw [layout.textSize, layout.textLen]) notData isText, holds]
  · rename_i notText
    rw [Bool.not_eq_true] at notText
    have placed := placement_other alloc notText
    rw [if_pos ⟨served.2.2.1, served.1⟩] at placed
    have fits := dataFits_of_served layout served
    have small := ((fileAreas file).totalLen heapLen).isLt
    have room : (loadedFile host heapLen file before).memory.dataMem.offset sect.addr + i <
        2 ^ 32 := by omega
    have place := (loadedFile host heapLen file before).memory.dataMem.offset_add room
    have isData : (loadedFile host heapLen file before).memory.isdata
        (sect.addr + BitVec.ofNat 32 i) = true := by
      rw [isdata_iff, layout.dataLen]
      omega
    rw [read8u_data (by rw [layout.dataSize, layout.dataLen]) isData]
    cases nobits : sect.nobits with
    | true =>
        rw [if_pos nobits] at placed
        have patch := @sectionPatch_bss file (fileAreas file) (fileMemory host heapLen file) sect
          false (kept_of_alloc alloc) placed
        have copied := loadedFile_copied grants wellFormed.laidOut copies before member patch below
        rw [List.getElem?_replicate_of_lt below] at copied
        rw [ElfSection.byteAt, if_pos nobits]
        exact congrArg (fun byte : Byte => Except.ok (byte.setWidth 32)) (Option.some.inj copied)
    | false =>
        have isBits : ¬ sect.nobits = true := by simp [nobits]
        rw [if_neg isBits] at placed
        have patch := @sectionPatch_data file (fileAreas file) (fileMemory host heapLen file) sect
          false (kept_of_alloc alloc) placed
        have copied := loadedFile_copied grants wellFormed.laidOut copies before member patch below
        rw [contents_byte (.inr (wellFormed.contents sect member alloc nobits)) below] at copied
        rw [ElfSection.byteAt, if_neg isBits]
        exact congrArg (fun byte : Byte => Except.ok (byte.setWidth 32)) (Option.some.inj copied)

theorem fetch32_of_fetches {memory : Memory} {addr : Word} {bytes : Nat → Byte} {i : Nat}
    (whole : memory.insnMem.offset (addr + BitVec.ofNat 32 i) + 4 ≤ memory.insnMem.size)
    (bounded : memory.insnMem.size ≤ 2 ^ 32)
    (fetches : ∀ k < 4, memory.Fetches (addr + BitVec.ofNat 32 (i + k)) (bytes (i + k))) :
    memory.fetch32 (addr + BitVec.ofNat 32 i) = .ok (word bytes i) := by
  have cells : ∀ k < 4, memory.insnMem.data
      (memory.insnMem.offset (addr + BitVec.ofNat 32 i) + k) = bytes (i + k) := by
    intro k below
    have place := memory.insnMem.offset_add
      (show memory.insnMem.offset (addr + BitVec.ofNat 32 i) + k < 2 ^ 32 by omega)
    have sum : addr + BitVec.ofNat 32 i + BitVec.ofNat 32 k = addr + BitVec.ofNat 32 (i + k) := by
      rw [BitVec.add_assoc, ← BitVec.ofNat_add]
    rw [← place, sum]
    exact (fetches k below).2.2
  have isText := (fetches 0 (by omega)).1
  rw [Nat.add_zero] at isText
  rw [Memory.fetch32, if_pos isText, Segment.fetch32, Segment.access, if_pos whole, map_ok, word,
    word, cells 1 (by omega), cells 2 (by omega), cells 3 (by omega)]
  have first := cells 0 (by omega)
  rw [Nat.add_zero, Nat.add_zero] at first
  rw [first]

theorem image_of_served (wellFormed : WellFormed file) (grants : host.Grants)
    (served : ∀ sect ∈ fileSections file, sect.alloc = true → sect.size ≠ 0 →
      Served heapLen (fileAreas file) file sect) (before : Loaded) :
    ImageOf file (loadedFile host heapLen file before) := by
  have copies := copies_of_served wellFormed grants served
  have filled : ∀ {sect : ElfSection} {i : Nat}, i < sect.size.toNat → sect.size ≠ 0 := by
    intro sect i below empty
    simp [empty] at below
  have asText : ∀ sect ∈ fileSections file, sect.alloc = true → sect.executable = true →
      sect.size ≠ 0 → (fileAreas file).text.holds sect.addr = true ∧
        ServedAsText heapLen (fileAreas file) file sect := by
    intro sect member alloc executable notEmpty
    have isServed := served sect member alloc notEmpty
    unfold Served at isServed
    split at isServed
    · rename_i text
      exact ⟨text, isServed⟩
    · have notExecutable := isServed.2.1
      rw [executable] at notExecutable
      cases notExecutable
  have fetches : ∀ sect ∈ fileSections file, sect.alloc = true → sect.executable = true →
      ∀ i < sect.size.toNat, (loadedFile host heapLen file before).memory.Fetches
        (sect.addr + BitVec.ofNat 32 i) (sect.byteAt file i) := by
    intro sect member alloc executable i below
    obtain ⟨text, isServed⟩ := asText sect member alloc executable (filled below)
    exact insnMem_served wellFormed grants copies before member alloc text isServed below
  constructor
  · exact loadedFile_entry before
  · intro sect member alloc i below
    exact reads_served wellFormed grants copies before member alloc
      (served sect member alloc (filled below)) below
  · exact fetches
  · intro sect member alloc executable i inside
    have layout := @loadedFile_layout host heapLen file grants before
    have below : i < sect.size.toNat := by omega
    obtain ⟨text, isServed⟩ := asText sect member alloc executable (filled below)
    have fits := textFits_of_served layout text isServed
    have small := (fileAreas file).textLen.isLt
    have room : (loadedFile host heapLen file before).memory.insnMem.offset sect.addr + i <
        2 ^ 32 := by omega
    have place := (loadedFile host heapLen file before).memory.insnMem.offset_add room
    refine fetch32_of_fetches ?_ ?_ ?_
    · rw [place, layout.textSize]
      omega
    · rw [layout.textSize]
      omega
    · intro k within
      exact fetches sect member alloc executable (i + k) (by omega)

end Served

/-! An image for any contents of new memory leaves no section unserved. -/

def hostOf (fill : Byte) : LoaderHost := ⟨true, fun _ _ => some fun _ => fill⟩

theorem hostOf_grants (fill : Byte) : (hostOf fill).Grants := by
  intro use len refused
  cases refused

theorem exists_other (byte : Byte) : ∃ fill : Byte, fill ≠ byte := by
  refine ⟨byte + 1#8, fun same => ?_⟩
  have values := congrArg BitVec.toNat same
  simp only [BitVec.toNat_add, BitVec.toNat_ofNat] at values
  omega

section Unserved

variable {heapLen : Word} {file : List Byte} {sect : ElfSection}

theorem hostOf_untouched (laidOut : LaidOut (fileSections file)) {fill : Byte}
    (copies : CopiesInside (hostOf fill) heapLen file) (before : Loaded) {toText : Bool}
    (member : sect ∈ fileSections file) (alloc : sect.alloc = true)
    (noPatch : sectionPatch file (fileAreas file) (fileMemory (hostOf fill) heapLen file) toText
      sect = none) {i : Nat} (below : i < sect.size.toNat) :
    ((loadedFile (hostOf fill) heapLen file before).memory.segment toText).data
      (((loadedFile (hostOf fill) heapLen file before).memory.segment toText).offset
        (sect.addr + BitVec.ofNat 32 i)) = fill := by
  obtain ⟨place, same⟩ :=
    loadedFile_untouched laidOut copies before member alloc noPatch below
  rw [same]
  cases toText <;> rfl

theorem read_hidden (laidOut : LaidOut (fileSections file)) {fill : Byte}
    (copies : CopiesInside (hostOf fill) heapLen file) (before : Loaded)
    (member : sect ∈ fileSections file) (alloc : sect.alloc = true)
    (noPatch : sectionPatch file (fileAreas file) (fileMemory (hostOf fill) heapLen file) false
      sect = none) {i : Nat} (below : i < sect.size.toNat)
    (hidden : (fileAreas file).inData heapLen (sect.addr + BitVec.ofNat 32 i) = true) :
    (loadedFile (hostOf fill) heapLen file before).memory.read8u
      (sect.addr + BitVec.ofNat 32 i) = .ok (fill.setWidth 32) := by
  have layout := @loadedFile_layout (hostOf fill) heapLen file (hostOf_grants fill) before
  rw [← layout.isdata] at hidden
  rw [read8u_data (by rw [layout.dataSize, layout.dataLen]) hidden]
  have untouched := hostOf_untouched laidOut copies before member alloc noPatch below
  exact congrArg (fun byte : Byte => Except.ok (byte.setWidth 32)) untouched

theorem read_uncopied (laidOut : LaidOut (fileSections file)) {fill : Byte}
    (copies : CopiesInside (hostOf fill) heapLen file) (before : Loaded)
    (member : sect ∈ fileSections file) (alloc : sect.alloc = true)
    (noPatch : ∀ toText, sectionPatch file (fileAreas file)
      (fileMemory (hostOf fill) heapLen file) toText sect = none) {i : Nat}
    (below : i < sect.size.toNat) {value : Word}
    (read : (loadedFile (hostOf fill) heapLen file before).memory.read8u
      (sect.addr + BitVec.ofNat 32 i) = .ok value) : value = fill.setWidth 32 := by
  have layout := @loadedFile_layout (hostOf fill) heapLen file (hostOf_grants fill) before
  cases hidden : (fileAreas file).inData heapLen (sect.addr + BitVec.ofNat 32 i) with
  | true =>
      rw [read_hidden laidOut copies before member alloc (noPatch false) below hidden] at read
      exact (Except.ok.inj read).symm
  | false =>
      rw [← layout.isdata] at hidden
      cases isText : (loadedFile (hostOf fill) heapLen file before).memory.istext
          (sect.addr + BitVec.ofNat 32 i) with
      | true =>
          rw [read8u_text (by rw [layout.textSize, layout.textLen]) hidden isText] at read
          have untouched := hostOf_untouched laidOut copies before member alloc (noPatch true) below
          rw [← Except.ok.inj read]
          exact congrArg (fun byte : Byte => byte.setWidth 32) untouched
      | false => exact absurd read (read8u_neither hidden isText value)

/-- The copies stay inside and the image is there, whatever new memory is filled with. -/
structure AlwaysLoads (heapLen : Word) (file : List Byte) (before : Loaded) : Prop where
  copies : ∀ fill, CopiesInside (hostOf fill) heapLen file
  image : ∀ fill, ImageOf file (loadedFile (hostOf fill) heapLen file before)

variable {before : Loaded}

theorem AlwaysLoads.hidden (always : AlwaysLoads heapLen file before)
    (laidOut : LaidOut (fileSections file)) (member : sect ∈ fileSections file)
    (alloc : sect.alloc = true)
    (noPatch : ∀ fill, sectionPatch file (fileAreas file) (fileMemory (hostOf fill) heapLen file)
      false sect = none) {i : Nat} (below : i < sect.size.toNat) :
    (fileAreas file).inData heapLen (sect.addr + BitVec.ofNat 32 i) = false := by
  rw [← Bool.not_eq_true]
  intro hidden
  obtain ⟨fill, differs⟩ := exists_other (sect.byteAt file i)
  have promised := (always.image fill).reads sect member alloc i below
  rw [read_hidden laidOut (always.copies fill) before member alloc (noPatch fill) below hidden]
    at promised
  exact differs (byte_of_setWidth (Except.ok.inj promised))

theorem AlwaysLoads.copied (always : AlwaysLoads heapLen file before)
    (laidOut : LaidOut (fileSections file)) (member : sect ∈ fileSections file)
    (alloc : sect.alloc = true) (filled : sect.size ≠ 0) :
    (fileAreas file).placement sect ≠ .nowhere := by
  intro placed
  have below : 0 < sect.size.toNat := by
    refine Nat.pos_of_ne_zero fun empty => filled ?_
    exact BitVec.eq_of_toNat_eq empty
  obtain ⟨fill, differs⟩ := exists_other (sect.byteAt file 0)
  have promised := (always.image fill).reads sect member alloc 0 below
  have read := read_uncopied laidOut (always.copies fill) before member alloc
    (fun toText => sectionPatch_nowhere toText (kept_of_alloc alloc) placed) below promised
  exact differs (byte_of_setWidth read.symm)

theorem AlwaysLoads.fetched (always : AlwaysLoads heapLen file before)
    (laidOut : LaidOut (fileSections file)) (member : sect ∈ fileSections file)
    (alloc : sect.alloc = true) (filled : sect.size ≠ 0)
    (noPatch : ∀ fill, sectionPatch file (fileAreas file) (fileMemory (hostOf fill) heapLen file)
      true sect = none) : sect.executable = false := by
  rw [← Bool.not_eq_true]
  intro executable
  have below : 0 < sect.size.toNat := by
    refine Nat.pos_of_ne_zero fun empty => filled ?_
    exact BitVec.eq_of_toNat_eq empty
  obtain ⟨fill, differs⟩ := exists_other (sect.byteAt file 0)
  obtain ⟨_, _, promised⟩ := (always.image fill).fetches sect member alloc executable 0 below
  have untouched := hostOf_untouched laidOut (always.copies fill) before member alloc
    (noPatch fill) below
  exact differs (untouched.symm.trans promised)

theorem AlwaysLoads.inside (always : AlwaysLoads heapLen file before)
    (member : sect ∈ fileSections file) (alloc : sect.alloc = true) :
    CopyInside file (fileAreas file) (fileMemory (hostOf 0) heapLen file) sect := by
  rcases always.copies 0 sect member with skip | inside
  · rw [kept_of_alloc alloc] at skip
    cases skip
  · exact inside

theorem AlwaysLoads.servedAsText (always : AlwaysLoads heapLen file before)
    (laidOut : LaidOut (fileSections file)) (member : sect ∈ fileSections file)
    (alloc : sect.alloc = true) (filled : sect.size ≠ 0)
    (text : (fileAreas file).text.holds sect.addr = true) :
    ServedAsText heapLen (fileAreas file) file sect := by
  have layout := @fileMemory_layout (hostOf 0) heapLen file (hostOf_grants 0)
  have placed := placement_text alloc text
  obtain ⟨name, _, inside⟩ := always.inside member alloc
  rw [placed] at inside
  obtain ⟨contents, fits, _⟩ := inside
  have patch := fun fill toText => @sectionPatch_text file (fileAreas file)
    (fileMemory (hostOf fill) heapLen file) sect toText (kept_of_alloc alloc) placed
  have unhidden : ∀ i < sect.size.toNat,
      (fileAreas file).inData heapLen (sect.addr + BitVec.ofNat 32 i) = false := fun i below =>
    always.hidden laidOut member alloc (fun fill => patch fill false) below
  refine ⟨?_, unhidden, fun nobits => ⟨contents.resolve_left filled, ?_⟩⟩
  · rw [← area_fits text]
    have inside := fits.resolve_left filled
    rw [Segment.offset, layout.textBase, layout.textSize] at inside
    exact inside
  · intro i below
    have loadedLayout := @loadedFile_layout (hostOf 0) heapLen file (hostOf_grants 0) before
    have promised := (always.image 0).reads sect member alloc i below
    have copied := loadedFile_copied (hostOf_grants 0) laidOut (always.copies 0) before member
      (patch 0 true) below
    rw [contents_byte contents below] at copied
    have notData := unhidden i below
    rw [← loadedLayout.isdata] at notData
    have isText : (loadedFile (hostOf 0) heapLen file before).memory.istext
        (sect.addr + BitVec.ofNat 32 i) = true := by
      by_contra outside
      rw [Bool.not_eq_true] at outside
      exact read8u_neither notData outside _ promised
    have sizes : (loadedFile (hostOf 0) heapLen file before).memory.insnMem.size =
        (loadedFile (hostOf 0) heapLen file before).memory.insnMem.memLen.toNat := by
      rw [loadedLayout.textSize, loadedLayout.textLen]
    rw [read8u_text sizes notData isText] at promised
    have holds := byte_of_setWidth (Except.ok.inj promised)
    rw [ElfSection.byteAt, if_pos nobits] at holds
    exact (Option.some.inj copied).symm.trans holds

theorem AlwaysLoads.servedAsData (always : AlwaysLoads heapLen file before)
    (laidOut : LaidOut (fileSections file)) (member : sect ∈ fileSections file)
    (alloc : sect.alloc = true) (filled : sect.size ≠ 0)
    (notText : (fileAreas file).text.holds sect.addr = false) :
    ServedAsData heapLen (fileAreas file) sect := by
  have layout := @fileMemory_layout (hostOf 0) heapLen file (hostOf_grants 0)
  have placement := placement_other alloc notText
  have somewhere := always.copied laidOut member alloc filled
  obtain ⟨name, _, inside⟩ := always.inside member alloc
  by_cases served : (if sect.nobits then (fileAreas file).bss else (fileAreas file).data).holds
      sect.addr = true ∧ sect.writable = true
  · rw [if_pos served] at placement
    have noPatch : ∀ fill, sectionPatch file (fileAreas file)
        (fileMemory (hostOf fill) heapLen file) true sect = none := by
      intro fill
      cases nobits : sect.nobits with
      | true =>
          rw [if_pos nobits] at placement
          exact sectionPatch_bss true (kept_of_alloc alloc) placement
      | false =>
          rw [if_neg (by simp [nobits])] at placement
          exact sectionPatch_data true (kept_of_alloc alloc) placement
    have fits : (fileMemory (hostOf 0) heapLen file).dataMem.Fits sect := by
      rw [placement] at inside
      cases nobits : sect.nobits with
      | true =>
          rw [if_pos nobits] at inside
          exact inside.1
      | false =>
          rw [if_neg (by simp [nobits])] at inside
          exact inside.2.1
    refine ⟨served.2, always.fetched laidOut member alloc filled noPatch, served.1, ?_⟩
    have room := fits.resolve_left filled
    rw [Segment.offset, layout.dataBase, layout.dataSize] at room
    exact room
  · rw [if_neg served] at placement
    exact absurd placement somewhere

theorem AlwaysLoads.served (always : AlwaysLoads heapLen file before)
    (laidOut : LaidOut (fileSections file)) (member : sect ∈ fileSections file)
    (alloc : sect.alloc = true) (filled : sect.size ≠ 0) :
    Served heapLen (fileAreas file) file sect := by
  unfold Served
  split
  · rename_i text
    exact always.servedAsText laidOut member alloc filled text
  · rename_i notText
    rw [Bool.not_eq_true] at notText
    exact always.servedAsData laidOut member alloc filled notText

end Unserved

/-! The loader on well-formed files. -/

section Loading

variable {host : LoaderHost} {heapLen : Word} {file : List Byte}

theorem accepted_of_supported (wellFormed : WellFormed file)
    (supported : supportedMachine (fileMachine file) = true) : Accepted file :=
  ⟨wellFormed.hasMagic, wellFormed.elfClass, supported⟩

theorem readElf_wellFormed (wellFormed : WellFormed file) (grants : host.Grants)
    (supported : supportedMachine (fileMachine file) = true) (before : Loaded) :
    readElf host heapLen file before =
      (loadElf host heapLen file before).map fun loaded => (0, loaded) := by
  have buffer := wellFormed.fileBuffer
  have accepted : Accepted (fileBuffer file) := by
    rw [buffer]
    exact accepted_of_supported wellFormed supported
  have ident : IdentInside (fileBuffer file) := by
    rw [buffer]
    exact wellFormed.ident
  rw [readElf_accepted (grants _ _) ident accepted, buffer]

theorem loads_of_refused (wellFormed : WellFormed file) (grants : host.Grants)
    (refused : LoaderRefuses file) (before : Loaded) :
    Loads file (readElf host heapLen file before) := by
  cases supported : supportedMachine (fileMachine file) with
  | true =>
      have unknown : ¬ ∀ sect ∈ fileSections file, Recognised file sect := by
        intro known
        rcases refused with unsupported | ⟨sect, member, isUnknown⟩
        · rw [supported] at unsupported
          cases unsupported
        · exact isUnknown (known sect member)
      rw [readElf_wellFormed wellFormed grants supported,
        loadElf_unknown (wellFormed.tables host) unknown, map_error]
      exact .ended (by decide)
  | false =>
      have buffer := wellFormed.fileBuffer
      have declined : ¬ Accepted (fileBuffer file) := by
        rw [buffer]
        intro accepted
        rw [accepted.2.2] at supported
        cases supported
      have ident : IdentInside (fileBuffer file) := by
        rw [buffer]
        exact wellFormed.ident
      rcases @readElf_declined host heapLen file (grants _ _) ident declined before with
        outcome | outcome
      · rw [outcome]
        exact .returned fun isZero => by cases isZero
      · rw [outcome]
        exact .ended (by decide)

theorem known_of_not_refused (taken : ¬ LoaderRefuses file) :
    supportedMachine (fileMachine file) = true ∧
      ∀ sect ∈ fileSections file, Recognised file sect := by
  constructor
  · by_contra unsupported
    exact taken (.inl (Bool.not_eq_true _ ▸ unsupported))
  · intro sect member
    by_contra unknown
    exact taken (.inr ⟨sect, member, unknown⟩)

theorem loads_of_served (wellFormed : WellFormed file) (grants : host.Grants)
    (served : ∀ sect ∈ fileSections file, sect.alloc = true → sect.size ≠ 0 →
      Served heapLen (fileAreas file) file sect) (before : Loaded) :
    Loads file (readElf host heapLen file before) := by
  by_cases refused : LoaderRefuses file
  · exact loads_of_refused wellFormed grants refused before
  · obtain ⟨supported, known⟩ := known_of_not_refused refused
    rw [readElf_wellFormed wellFormed grants supported,
      loadElf_copies (wellFormed.tables host) known (copies_of_served wellFormed grants served),
      map_ok]
    exact .returned fun _ => image_of_served wellFormed grants served before

theorem alwaysLoads_of_loads (wellFormed : WellFormed file) (taken : ¬ LoaderRefuses file)
    (before : Loaded) (loads : ∀ fill, Loads file (readElf (hostOf fill) heapLen file before)) :
    AlwaysLoads heapLen file before := by
  obtain ⟨supported, known⟩ := known_of_not_refused taken
  have copies : ∀ fill, CopiesInside (hostOf fill) heapLen file := by
    intro fill
    by_contra overruns
    have outcome := loads fill
    rw [readElf_wellFormed wellFormed (hostOf_grants fill) supported,
      loadElf_overruns (wellFormed.tables (hostOf fill)) known overruns, map_error] at outcome
    cases outcome with
    | ended defined => exact defined rfl
  refine ⟨copies, fun fill => ?_⟩
  have outcome := loads fill
  rw [readElf_wellFormed wellFormed (hostOf_grants fill) supported,
    loadElf_copies (wellFormed.tables (hostOf fill)) known (copies fill), map_ok] at outcome
  cases outcome with
  | returned image => exact image rfl

theorem readElf_loads_iff (heapLen : Word) (file : List Byte) (wellFormed : WellFormed file) :
    (∀ (host : LoaderHost) (before : Loaded), host.Grants →
      Loads file (readElf host heapLen file before)) ↔
      LoaderRefuses file ∨ ∀ sect ∈ fileSections file, sect.alloc = true → sect.size ≠ 0 →
        Served heapLen (fileAreas file) file sect := by
  constructor
  · intro loads
    by_cases refused : LoaderRefuses file
    · exact .inl refused
    · refine .inr fun sect member alloc filled => ?_
      have always := alwaysLoads_of_loads wellFormed refused ⟨smallMemory 0 [], [], [], 0⟩
        fun fill => loads (hostOf fill) _ (hostOf_grants fill)
      exact always.served wellFormed.laidOut member alloc filled
  · rintro (refused | served) host before grants
    · exact loads_of_refused wellFormed grants refused before
    · exact loads_of_served wellFormed grants served before

/-- A RISC-V file of the given sections, the last of which is the name table, entered at 0x1000.
The contents follow the section table. -/
def elfOf (sections : List ElfSection) (contents : List Byte) : List Byte :=
  0x7f :: chars "ELF" ++ [1, 1, 1] ++ List.replicate 9 0 ++ bytesOf 2 2 ++ bytesOf 2 243 ++
    bytesOf 4 1 ++ bytesOf 4 0x1000 ++ bytesOf 4 0 ++ bytesOf 4 52 ++ bytesOf 4 0 ++
    bytesOf 2 52 ++ bytesOf 2 32 ++ bytesOf 2 0 ++ bytesOf 2 40 ++
    bytesOf 2 (BitVec.ofNat 32 sections.length) ++
    bytesOf 2 (BitVec.ofNat 32 (sections.length - 1)) ++
    (sections.flatMap fun sect => bytesOf 4 sect.name ++ bytesOf 4 sect.type ++
      bytesOf 4 sect.flags ++ bytesOf 4 sect.addr ++ bytesOf 4 sect.offset ++
      bytesOf 4 sect.size ++ List.replicate 16 0) ++ contents

def sectionNames : List Byte :=
  0 :: chars ".text" ++ 0 :: chars ".data" ++ 0 :: chars ".bss" ++ 0 :: chars ".shstrtab" ++ [0]

def FileChecks (file : List Byte) : Prop :=
  file.length < 2 ^ 32 ∧ 52 ≤ file.length ∧ file.take 4 = 0x7f :: chars "ELF" ∧
    (byteData file 4 = 1 ∧ byteData file 5 = 1) ∧ (fileHeader file).phnum = 0 ∧
    ((fileHeader file).shentsize = 40 ∧
      (fileHeader file).shoff.toNat + 40 * (fileHeader file).shnum.toNat ≤ file.length) ∧
    (∀ sect ∈ fileSections file,
      skipped sect.flags = true ∨ (fileName file sect).any (·.contains 0) = true) ∧
    (∀ sect ∈ fileSections file, sect.alloc = true →
      sect.addr.toNat + sect.size.toNat ≤ 2 ^ 32) ∧
    (fileSections file).Pairwise ElfSection.Apart ∧
    ∀ sect ∈ fileSections file, sect.alloc = true → sect.nobits = false →
      sect.offset.toNat + sect.size.toNat ≤ file.length

instance (file : List Byte) : Decidable (FileChecks file) :=
  inferInstanceAs (Decidable (_ ∧ _))

theorem wellFormed_of_checks {file : List Byte} (checks : FileChecks file) : WellFormed file := by
  obtain ⟨small, header, magic, ident, programs, sections, names, ends, apart, contents⟩ := checks
  refine ⟨small, header, magic, ident.1, ident.2, fun some => absurd programs some,
    fun _ => sections, ?_, ⟨ends, apart⟩, contents⟩
  intro sect member
  rcases names sect member with skip | checked
  · exact .inl skip
  · obtain ⟨name, isName, ends⟩ := (Option.any_eq_true _ _).mp checked
    exact .inr ⟨name, isName, List.contains_iff_mem.mp ends⟩

def orderedElf : List Byte :=
  elfOf [⟨0, 0, 0, 0, 0, 0⟩, ⟨1, 1, 6, 0x1000, 280, 4⟩, ⟨7, 1, 3, 0x2000, 284, 4⟩,
    ⟨13, 8, 3, 0x2004, 288, 4⟩, ⟨18, 3, 0, 0, 252, 28⟩]
    (sectionNames ++ [0x13, 0x05, 0x70, 0x00, 1, 2, 3, 4])

theorem orderedElf_wellFormed : WellFormed orderedElf :=
  wellFormed_of_checks (by decide +kernel)

theorem readElf_loads_ordered :
    ((∀ (host : LoaderHost) (before : Loaded), host.Grants →
      Loads orderedElf (readElf host 0x10000 orderedElf before)) ↔
      LoaderRefuses orderedElf ∨ ∀ sect ∈ fileSections orderedElf, sect.alloc = true → sect.size ≠ 0 →
        Served 0x10000 (fileAreas orderedElf) orderedElf sect) ∧
      ∀ sect ∈ fileSections orderedElf, sect.alloc = true → sect.size ≠ 0 →
        Served 0x10000 (fileAreas orderedElf) orderedElf sect :=
  ⟨readElf_loads_iff 0x10000 orderedElf orderedElf_wellFormed, by decide +kernel⟩

/-- Without bss the data segment is laid out from 0x20000 to the heap behind 0, around the address
space, and hides text. -/
def withoutBss : List Byte :=
  elfOf [⟨0, 0, 0, 0, 0, 0⟩, ⟨1, 1, 6, 0x1000, 240, 4⟩, ⟨7, 1, 3, 0x20000, 244, 4⟩,
    ⟨18, 3, 0, 0, 212, 28⟩]
    (sectionNames ++ [0x13, 0x05, 0x70, 0x00, 1, 2, 3, 4])

theorem withoutBss_wellFormed : WellFormed withoutBss :=
  wellFormed_of_checks (by decide +kernel)

theorem not_loads_of_read {file : List Byte} {outcome : Except Abort (Int × Loaded)}
    {sect : ElfSection} {i : Nat} {value : Word}
    (read : outcome.toOption.map (fun done =>
      (done.1, (done.2.memory.read8u (sect.addr + BitVec.ofNat 32 i)).toOption)) =
        some (0, some value))
    (member : sect ∈ fileSections file) (alloc : sect.alloc = true) (below : i < sect.size.toNat)
    (differs : (sect.byteAt file i).setWidth 32 ≠ value) : ¬ Loads file outcome := by
  intro loads
  cases loads with
  | ended defined => cases read
  | returned image =>
      obtain ⟨status, isRead⟩ := Prod.mk.inj (Option.some.inj read)
      have promised := (image status).reads sect member alloc i below
      rw [promised] at isRead
      exact differs (Option.some.inj isRead)

theorem readElf_hides_text : ¬ ∀ (heapLen : Word) (file : List Byte), WellFormed file →
    (∀ sect ∈ fileSections file, sect.alloc = true → Recognised file sect) →
      ∀ (host : LoaderHost) (before : Loaded), host.Grants →
        Loads file (readElf host heapLen file before) := by
  intro loads
  let text : ElfSection := ⟨1, 1, 6, 0x1000, 240, 4⟩
  obtain ⟨known, member, read, byte⟩ : (∀ sect ∈ fileSections withoutBss, sect.alloc = true →
      Recognised withoutBss sect) ∧ text ∈ fileSections withoutBss ∧
      (readElf (hostOf 0) 0x10000 withoutBss ⟨smallMemory 0 [], [], [], 0⟩).toOption.map
        (fun done => (done.1, (done.2.memory.read8u (text.addr + BitVec.ofNat 32 0)).toOption)) =
          some (0, some 0) ∧ text.byteAt withoutBss 0 = 0x13 := by
    decide +kernel
  have differs : (text.byteAt withoutBss 0).setWidth 32 ≠ 0 := by
    rw [byte]
    decide
  exact not_loads_of_read read member (by decide) (by decide) differs
    (loads 0x10000 withoutBss withoutBss_wellFormed known (hostOf 0) _ (hostOf_grants 0))

end Loading

end RiscVFast
