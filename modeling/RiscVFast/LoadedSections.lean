import RiscVFast.ElfLoads

/-! What the loader leaves behind for a file that it accepts: the two segments and the lists of
the sections in them. -/

namespace RiscVFast

open Fallible

def Loaded.infos (loaded : Loaded) (inText : Bool) : List ElfInfo :=
  if inText then loaded.textInfo else loaded.dataInfo

def Copy.infoIn (inText : Bool) (copy : Copy) : Option ElfInfo :=
  if copy.toText = inText then some copy.info else none

theorem copy_infos (loaded : Loaded) (inText : Bool) (copy : Copy) :
    (loaded.copy (some copy)).infos inText =
      loaded.infos inText ++ (copy.infoIn inText).toList := by
  cases intoText : copy.toText <;> cases inText <;>
    simp [Loaded.copy, Loaded.infos, Copy.infoIn, intoText]

theorem copies_infos (inText : Bool) (copies : List (Option Copy)) (loaded : Loaded) :
    (copies.foldl Loaded.copy loaded).infos inText =
      loaded.infos inText ++ copies.filterMap fun copy => copy.bind (Copy.infoIn inText) := by
  induction copies generalizing loaded with
  | nil => simp
  | cons copy copies ih =>
      rw [List.foldl_cons, ih]
      cases copy with
      | none => rfl
      | some copy =>
          rw [copy_infos, List.filterMap_cons, Option.bind_some]
          cases copy.infoIn inText <;> simp

section Accepted

variable {host : LoaderHost} {heapLen : Word} {elfbuf : List Byte} {before loaded : Loaded}

structure AcceptedLoad (host : LoaderHost) (heapLen : Word) (elfbuf : List Byte)
    (before loaded : Loaded) : Prop where
  known : ∀ sect ∈ fileSections elfbuf, Recognised elfbuf sect
  copies : CopiesInside host heapLen elfbuf
  result : loaded = loadedFile host heapLen elfbuf before

theorem acceptedLoad_of_readElf {file : List Byte}
    (read : readElf host heapLen file before = .ok (0, loaded)) :
    AcceptedLoad host heapLen (fileBuffer file) before loaded := by
  by_cases refused : host.malloc .file (fileBuffer file).length = none
  · rw [readElf_noBuffer refused] at read
    cases read
  · by_cases ident : IdentInside (fileBuffer file)
    · by_cases accepted : Accepted (fileBuffer file)
      · rw [readElf_accepted refused ident accepted] at read
        obtain ⟨result, ran, same⟩ := map_eq_ok.mp read
        obtain ⟨-, rfl⟩ := Prod.mk.inj same
        by_cases tables : TablesInside host (fileBuffer file)
        · by_cases known : ∀ sect ∈ fileSections (fileBuffer file),
              Recognised (fileBuffer file) sect
          · by_cases copies : CopiesInside host heapLen (fileBuffer file)
            · rw [loadElf_copies tables known copies] at ran
              exact ⟨known, copies, (Except.ok.inj ran).symm⟩
            · rw [loadElf_overruns tables known copies] at ran
              cases ran
          · rw [loadElf_unknown tables known] at ran
            cases ran
        · rw [loadElf_outside tables] at ran
          cases ran
      · rcases @readElf_declined host heapLen file refused ident accepted before with
          outcome | outcome
        · rw [outcome] at read
          cases read
        · rw [outcome] at read
          cases read
    · rw [readElf_identOutside refused ident] at read
      cases read

theorem readElf_served {file : List Byte} (wellFormed : WellFormed file) (grants : host.Grants)
    (taken : ¬ LoaderRefuses file)
    (served : ∀ sect ∈ fileSections file, sect.alloc = true → sect.size ≠ 0 →
      Served heapLen (fileAreas file) file sect) (before : Loaded) :
    readElf host heapLen file before = .ok (0, loadedFile host heapLen file before) := by
  obtain ⟨supported, known⟩ := known_of_not_refused taken
  rw [readElf_wellFormed wellFormed grants supported,
    loadElf_copies (wellFormed.tables host) known (copies_of_served wellFormed grants served),
    map_ok]
  rfl

def Areas.loads (areas : Areas) (inText : Bool) (sect : ElfSection) : Bool :=
  !skipped sect.flags && match areas.placement sect with
    | .text => inText
    | .data | .bss => !inText
    | .nowhere => false

theorem copyOf_infoIn (areas : Areas) (memory : Memory) (inText : Bool) (sect : ElfSection) :
    (copyOf elfbuf areas memory sect).bind (Copy.infoIn inText) =
      if areas.loads inText sect then some (fileInfo elfbuf sect) else none := by
  unfold copyOf Areas.loads
  cases skipped sect.flags with
  | true => rfl
  | false =>
      cases areas.placement sect <;> cases inText <;> rfl

theorem AcceptedLoad.infos (load : AcceptedLoad host heapLen elfbuf before loaded)
    (inText : Bool) :
    loaded.infos inText = before.infos inText ++
      ((fileSections elfbuf).filter ((fileAreas elfbuf).loads inText)).map (fileInfo elfbuf) := by
  rw [load.result, loadedFile, copies_infos, List.filterMap_map]
  congr 1
  induction fileSections elfbuf with
  | nil => rfl
  | cons sect sections ih =>
      rw [List.filterMap_cons, Function.comp_apply, copyOf_infoIn, List.filter_cons]
      cases (fileAreas elfbuf).loads inText sect with
      | true => exact congrArg (fileInfo elfbuf sect :: ·) ih
      | false => exact ih

theorem AcceptedLoad.segment_layout (load : AcceptedLoad host heapLen elfbuf before loaded)
    (inText : Bool) : ((fileMemory host heapLen elfbuf).segment inText).SameLayout
      (loaded.memory.segment inText) := by
  rw [load.result, loadedFile_segment]
  exact ⟨rfl, rfl, rfl⟩

theorem allocated_le (host : LoaderHost) (use : Allocation) (base len : Word) :
    (allocate host use base len).size ≤ len.toNat := by
  unfold allocate
  cases host.malloc use len.toNat with
  | none => exact Nat.zero_le _
  | some contents => exact Nat.le_refl _

theorem Area.holds_iff {area : Area} {addr : Word} : area.holds addr = true ↔
    area.base.toNat ≤ addr.toNat ∧ addr.toNat < area.limit.toNat := by
  simp [Area.holds, BitVec.ule, BitVec.ult]

theorem AcceptedLoad.inside (load : AcceptedLoad host heapLen elfbuf before loaded)
    {sect : ElfSection} (member : sect ∈ fileSections elfbuf) {inText : Bool}
    (loads : (fileAreas elfbuf).loads inText sect = true) :
    CopyInside elfbuf (fileAreas elfbuf) (fileMemory host heapLen elfbuf) sect := by
  refine (load.copies sect member).resolve_left fun skip => ?_
  rw [Areas.loads, skip] at loads
  cases loads

theorem Areas.placed_of_loads {areas : Areas} {sect : ElfSection} {inText : Bool}
    (loads : areas.loads inText sect = true) :
    if inText then areas.placement sect = .text
    else areas.placement sect = .data ∨ areas.placement sect = .bss := by
  rw [Areas.loads, Bool.and_eq_true] at loads
  have placed := loads.2
  cases placement : areas.placement sect <;> rw [placement] at placed <;> cases inText <;>
    simp at placed ⊢

theorem Areas.holds_of_text {areas : Areas} {sect : ElfSection}
    (placed : areas.placement sect = .text) : areas.text.holds sect.addr = true := by
  unfold Areas.placement at placed
  by_cases text : (areas.text.holds sect.addr && sect.alloc) = true
  · rw [Bool.and_eq_true] at text
    exact text.1
  · rw [if_neg text] at placed
    split at placed
    · cases placed
    · split at placed <;> cases placed

theorem AcceptedLoad.text_inside (load : AcceptedLoad host heapLen elfbuf before loaded)
    {sect : ElfSection} (member : sect ∈ fileSections elfbuf)
    (loads : (fileAreas elfbuf).loads true sect = true) :
    (fileAreas elfbuf).text.base.toNat ≤ sect.addr.toNat ∧
      sect.addr.toNat + sect.size.toNat ≤ (fileAreas elfbuf).text.limit.toNat := by
  have placed := Areas.placed_of_loads loads
  have held := Areas.holds_of_text placed
  obtain ⟨lower, upper⟩ := Area.holds_iff.mp held
  refine ⟨lower, ?_⟩
  obtain ⟨name, -, copied⟩ := load.inside member loads
  rw [if_pos rfl] at placed
  rw [placed] at copied
  rcases copied.2.1 with empty | fits
  · have none : sect.size.toNat = 0 := by simp [empty]
    omega
  · have room := allocated_le host .text (fileAreas elfbuf).text.base (fileAreas elfbuf).textLen
    refine (area_fits held).mp ?_
    rw [Segment.offset, fileMemory, newMemory, allocate_memBase] at fits
    exact fits.trans room

end Accepted

instance (file : List Byte) : Decidable (LoaderRefuses file) :=
  inferInstanceAs (Decidable (_ ∨ _))

def blank : Loaded := ⟨smallMemory 0 [], [], [], 0⟩

def orderedLoaded : Loaded := loadedFile (hostOf 0) 0x10000 orderedElf blank

theorem orderedElf_served : ¬ LoaderRefuses orderedElf ∧
    ∀ sect ∈ fileSections orderedElf, sect.alloc = true → sect.size ≠ 0 →
      Served 0x10000 (fileAreas orderedElf) orderedElf sect := by
  decide +kernel

theorem orderedElf_read : readElf (hostOf 0) 0x10000 orderedElf blank = .ok (0, orderedLoaded) := by
  obtain ⟨taken, served⟩ := orderedElf_served
  rw [orderedLoaded]
  exact readElf_served orderedElf_wellFormed (hostOf_grants 0) taken served blank

/-! The ends of a section list, as `main` computes them. -/

def sectionBounds (infos : List ElfInfo) : Area :=
  infos.foldl (fun bounds info => bounds.add info.addr info.size) Area.none

theorem Area.add_toNat (area : Area) {addr len : Word} (noWrap : addr.toNat + len.toNat < 2 ^ 32) :
    (area.add addr len).base.toNat = min area.base.toNat addr.toNat ∧
      (area.add addr len).limit.toNat = max area.limit.toNat (addr.toNat + len.toNat) := by
  have sum : (addr + len).toNat = addr.toNat + len.toNat := by
    rw [BitVec.toNat_add, Nat.mod_eq_of_lt noWrap]
  simp only [Area.add, BitVec.ult, sum, decide_eq_true_eq]
  constructor
  · split <;> omega
  · split <;> omega

def NoWrap (infos : List ElfInfo) : Prop :=
  ∀ info ∈ infos, info.addr.toNat + info.size.toNat < 2 ^ 32

theorem foldl_bounds_within {infos : List ElfInfo} (noWrap : NoWrap infos) {lower upper : Nat}
    (inside : ∀ info ∈ infos,
      lower ≤ info.addr.toNat ∧ info.addr.toNat + info.size.toNat ≤ upper)
    {bounds : Area} (base : lower ≤ bounds.base.toNat) (limit : bounds.limit.toNat ≤ upper) :
    let folded := infos.foldl (fun bounds info => bounds.add info.addr info.size) bounds
    lower ≤ folded.base.toNat ∧ folded.limit.toNat ≤ upper := by
  induction infos generalizing bounds with
  | nil => exact ⟨base, limit⟩
  | cons info infos ih =>
      rw [List.foldl_cons]
      obtain ⟨least, greatest⟩ := bounds.add_toNat (noWrap info List.mem_cons_self)
      obtain ⟨first, last⟩ := inside info List.mem_cons_self
      exact ih (fun later member => noWrap later (List.mem_cons_of_mem _ member))
        (fun later member => inside later (List.mem_cons_of_mem _ member)) (by omega) (by omega)

theorem foldl_bounds_cover {infos : List ElfInfo} (noWrap : NoWrap infos) (bounds : Area) :
    let folded := infos.foldl (fun bounds info => bounds.add info.addr info.size) bounds
    (folded.base.toNat ≤ bounds.base.toNat ∧ bounds.limit.toNat ≤ folded.limit.toNat) ∧
      ∀ info ∈ infos, folded.base.toNat ≤ info.addr.toNat ∧
        info.addr.toNat + info.size.toNat ≤ folded.limit.toNat := by
  induction infos generalizing bounds with
  | nil => simp
  | cons info infos ih =>
      rw [List.foldl_cons]
      obtain ⟨least, greatest⟩ := bounds.add_toNat (noWrap info List.mem_cons_self)
      obtain ⟨grows, covers⟩ := ih
        (fun later member => noWrap later (List.mem_cons_of_mem _ member))
        (bounds.add info.addr info.size)
      refine ⟨by omega, ?_⟩
      intro later member
      rcases List.mem_cons.mp member with rfl | member
      · omega
      · exact covers later member

theorem sectionBounds_within {infos : List ElfInfo} (noWrap : NoWrap infos) {lower upper : Nat}
    (inside : ∀ info ∈ infos,
      lower ≤ info.addr.toNat ∧ info.addr.toNat + info.size.toNat ≤ upper)
    (small : lower < 2 ^ 32) :
    lower ≤ (sectionBounds infos).base.toNat ∧ (sectionBounds infos).limit.toNat ≤ upper := by
  have top : Area.none.base.toNat = 2 ^ 32 - 1 := rfl
  have bottom : Area.none.limit.toNat = 0 := rfl
  exact foldl_bounds_within noWrap inside (by omega) (by omega)

theorem sectionBounds_cover {infos : List ElfInfo} (noWrap : NoWrap infos) {info : ElfInfo}
    (member : info ∈ infos) : (sectionBounds infos).base.toNat ≤ info.addr.toNat ∧
      info.addr.toNat + info.size.toNat ≤ (sectionBounds infos).limit.toNat :=
  (foldl_bounds_cover noWrap Area.none).2 info member

theorem orderedLoaded_bounds : sectionBounds orderedLoaded.textInfo = ⟨0x1000, 0x1004⟩ := by
  decide +kernel

end RiscVFast
