import RiscVFast.ElfBounds

/-! What the new segments hold after the copies, for sections that do not overlap. -/

namespace RiscVFast

open Overlay

def Memory.segment (memory : Memory) (toText : Bool) : Segment :=
  if toText then memory.insnMem else memory.dataMem

def Copy.patchIn (toText : Bool) (copy : Copy) : Option (Patch Byte) :=
  if copy.toText = toText then some copy.patch else none

def patchesIn (toText : Bool) (copies : List (Option Copy)) : List (Patch Byte) :=
  copies.filterMap fun copy => copy.bind (Copy.patchIn toText)

theorem copy_segment (loaded : Loaded) (toText : Bool) (copy : Copy) :
    (loaded.copy (some copy)).memory.segment toText =
      match copy.patchIn toText with
      | some patch => (loaded.memory.segment toText).copy patch
      | none => loaded.memory.segment toText := by
  cases intoText : copy.toText <;> cases toText <;>
    simp [Loaded.copy, Memory.segment, Copy.patchIn, intoText]

theorem copies_segment (toText : Bool) (copies : List (Option Copy)) (loaded : Loaded) :
    (copies.foldl Loaded.copy loaded).memory.segment toText =
      { loaded.memory.segment toText with
        data := patched (loaded.memory.segment toText).data (patchesIn toText copies) } := by
  induction copies generalizing loaded with
  | nil => rfl
  | cons copy copies ih =>
      rw [List.foldl_cons, ih]
      cases copy with
      | none => rfl
      | some copy =>
          rw [copy_segment]
          simp only [patchesIn, List.filterMap_cons, Option.bind_some]
          cases copy.patchIn toText <;> rfl

theorem copies_entry (copies : List (Option Copy)) (loaded : Loaded) :
    (copies.foldl Loaded.copy loaded).entry = loaded.entry := by
  induction copies generalizing loaded with
  | nil => rfl
  | cons copy copies ih =>
      rw [List.foldl_cons, ih]
      cases copy with
      | none => rfl
      | some copy =>
          simp only [Loaded.copy]
          cases copy.toText <;> rfl

section Patches

variable {elfbuf : List Byte} {areas : Areas} {memory : Memory} {sect : ElfSection}

def sectionPatch (elfbuf : List Byte) (areas : Areas) (memory : Memory) (toText : Bool)
    (sect : ElfSection) : Option (Patch Byte) :=
  (copyOf elfbuf areas memory sect).bind (Copy.patchIn toText)

theorem patchesIn_sections (toText : Bool) (sections : List ElfSection) :
    patchesIn toText (sections.map (copyOf elfbuf areas memory)) =
      sections.filterMap (sectionPatch elfbuf areas memory toText) := by
  rw [patchesIn, List.filterMap_map]
  rfl

theorem sectionPatch_skipped (toText : Bool) (skip : skipped sect.flags = true) :
    sectionPatch elfbuf areas memory toText sect = none := by
  rw [sectionPatch, copyOf, if_pos skip, Option.bind_none]

theorem sectionPatch_text (toText : Bool) (kept : skipped sect.flags = false)
    (placed : areas.placement sect = .text) :
    sectionPatch elfbuf areas memory toText sect =
      if toText then some ⟨memory.insnMem.offset sect.addr, sect.contents elfbuf⟩ else none := by
  cases toText <;> simp [sectionPatch, copyOf, kept, placed, Copy.patchIn]

theorem sectionPatch_data (toText : Bool) (kept : skipped sect.flags = false)
    (placed : areas.placement sect = .data) :
    sectionPatch elfbuf areas memory toText sect =
      if toText then none else some ⟨memory.dataMem.offset sect.addr, sect.contents elfbuf⟩ := by
  cases toText <;> simp [sectionPatch, copyOf, kept, placed, Copy.patchIn]

theorem sectionPatch_bss (toText : Bool) (kept : skipped sect.flags = false)
    (placed : areas.placement sect = .bss) :
    sectionPatch elfbuf areas memory toText sect =
      if toText then none
      else some ⟨memory.dataMem.offset sect.addr, List.replicate sect.size.toNat 0⟩ := by
  cases toText <;> simp [sectionPatch, copyOf, kept, placed, Copy.patchIn]

theorem sectionPatch_nowhere (toText : Bool) (kept : skipped sect.flags = false)
    (placed : areas.placement sect = .nowhere) :
    sectionPatch elfbuf areas memory toText sect = none := by
  simp [sectionPatch, copyOf, kept, placed]

theorem alloc_of_placed (placed : areas.placement sect ≠ .nowhere) : sect.alloc = true := by
  by_contra unallocated
  rw [Bool.not_eq_true] at unallocated
  simp [Areas.placement, unallocated] at placed

/-- A copy is made for an allocated section only, as long as the section, to its own place. -/
structure CopiedTo (seg : Segment) (sect : ElfSection) (patch : Patch Byte) : Prop where
  alloc : sect.alloc = true
  start : patch.start = seg.offset sect.addr
  length : patch.cells.length = sect.size.toNat
  fits : seg.Fits sect

theorem sectionPatch_copied {toText : Bool} {patch : Patch Byte}
    (inside : skipped sect.flags = true ∨ CopyInside elfbuf areas memory sect)
    (isPatch : sectionPatch elfbuf areas memory toText sect = some patch) :
    CopiedTo (memory.segment toText) sect patch := by
  cases kept : skipped sect.flags with
  | true =>
      rw [sectionPatch_skipped toText kept] at isPatch
      cases isPatch
  | false =>
      have isAlloc : areas.placement sect ≠ .nowhere → sect.alloc = true := alloc_of_placed
      obtain ⟨name, _, copied⟩ := inside.resolve_left (Bool.not_eq_true _ ▸ kept)
      cases placed : areas.placement sect with
      | text =>
          rw [sectionPatch_text toText kept placed] at isPatch
          rw [placed] at copied
          have alloc : sect.alloc = true := isAlloc (by simp [placed])
          cases toText with
          | false => cases isPatch
          | true =>
              cases isPatch
              exact ⟨alloc, rfl, ElfSection.contents_length copied.1, copied.2.1⟩
      | data =>
          rw [sectionPatch_data toText kept placed] at isPatch
          rw [placed] at copied
          have alloc : sect.alloc = true := isAlloc (by simp [placed])
          cases toText with
          | true => cases isPatch
          | false =>
              cases isPatch
              exact ⟨alloc, rfl, ElfSection.contents_length copied.1, copied.2.1⟩
      | bss =>
          rw [sectionPatch_bss toText kept placed] at isPatch
          rw [placed] at copied
          have alloc : sect.alloc = true := isAlloc (by simp [placed])
          cases toText with
          | true => cases isPatch
          | false =>
              cases isPatch
              exact ⟨alloc, rfl, List.length_replicate, copied.1⟩
      | nowhere =>
          rw [sectionPatch_nowhere toText kept placed] at isPatch
          cases isPatch

end Patches

def ElfSection.Apart (first second : ElfSection) : Prop :=
  first.alloc = true → second.alloc = true → first.size = 0 ∨ second.size = 0 ∨
    first.addr.toNat + first.size.toNat ≤ second.addr.toNat ∨
    second.addr.toNat + second.size.toNat ≤ first.addr.toNat

instance : DecidableRel ElfSection.Apart := fun first second =>
  inferInstanceAs (Decidable (first.alloc = true → second.alloc = true → first.size = 0 ∨ _))

instance : Std.Symm ElfSection.Apart where
  symm first second apart isSecond isFirst := by
    have cases := apart isFirst isSecond
    tauto

structure LaidOut (sections : List ElfSection) : Prop where
  ends : ∀ sect ∈ sections, sect.alloc = true → sect.addr.toNat + sect.size.toNat ≤ 2 ^ 32
  apart : sections.Pairwise ElfSection.Apart

theorem covers_address {seg : Segment} {sect : ElfSection} {patch : Patch Byte} {addr : Word}
    (copied : CopiedTo seg sect patch) (ends : sect.addr.toNat + sect.size.toNat ≤ 2 ^ 32)
    (covers : patch.Covers (seg.offset addr)) :
    sect.addr.toNat ≤ addr.toNat ∧ addr.toNat < sect.addr.toNat + sect.size.toNat := by
  have lower := covers.1
  have upper := covers.2
  rw [copied.start] at lower upper
  rw [copied.length] at upper
  simp only [Segment.offset, BitVec.toNat_sub] at lower upper
  omega

section Contents

variable {elfbuf : List Byte} {areas : Areas} {memory : Memory} {sections : List ElfSection}
  {toText : Bool} {sect : ElfSection}

theorem patches_apart (laidOut : LaidOut sections)
    (inside : ∀ sect ∈ sections, skipped sect.flags = true ∨ CopyInside elfbuf areas memory sect)
    (bounded : (memory.segment toText).size ≤ 2 ^ 32) :
    (sections.filterMap (sectionPatch elfbuf areas memory toText)).Pairwise fun first second =>
      ∀ index, first.Covers index → ¬ second.Covers index := by
  rw [List.pairwise_filterMap]
  refine laidOut.apart.imp_of_mem ?_
  intro first second firstIn secondIn apart patch isPatch other isOther index covers alsoCovers
  have copied := sectionPatch_copied (inside first firstIn) isPatch
  have alsoCopied := sectionPatch_copied (inside second secondIn) isOther
  have filled : 0 < first.size.toNat := by
    have lower := covers.1
    have upper := covers.2
    have length := copied.length
    omega
  have alsoFilled : 0 < second.size.toNat := by
    have lower := alsoCovers.1
    have upper := alsoCovers.2
    have length := alsoCopied.length
    omega
  have isFilled : first.size ≠ 0 := fun empty => by simp [empty] at filled
  have isAlsoFilled : second.size ≠ 0 := fun empty => by simp [empty] at alsoFilled
  have small : index < 2 ^ 32 := by
    have fits := copied.fits.resolve_left isFilled
    have upper := covers.2
    rw [copied.start, copied.length] at upper
    omega
  rw [← (memory.segment toText).offset_memBase small] at covers alsoCovers
  have range := covers_address copied (laidOut.ends first firstIn copied.alloc) covers
  have alsoRange :=
    covers_address alsoCopied (laidOut.ends second secondIn alsoCopied.alloc) alsoCovers
  have cases := ((apart copied.alloc alsoCopied.alloc).resolve_left isFilled).resolve_left
    isAlsoFilled
  omega

theorem segment_copied (laidOut : LaidOut sections)
    (inside : ∀ sect ∈ sections, skipped sect.flags = true ∨ CopyInside elfbuf areas memory sect)
    (bounded : (memory.segment toText).size ≤ 2 ^ 32) (member : sect ∈ sections)
    {patch : Patch Byte} (isPatch : sectionPatch elfbuf areas memory toText sect = some patch)
    {i : Nat} (below : i < sect.size.toNat) (buffer : Nat → Byte) :
    some (patched buffer (sections.filterMap (sectionPatch elfbuf areas memory toText))
      ((memory.segment toText).offset (sect.addr + BitVec.ofNat 32 i))) = patch.cells[i]? := by
  have copied := sectionPatch_copied (inside sect member) isPatch
  have filled : sect.size ≠ 0 := fun empty => by simp [empty] at below
  have fits := copied.fits.resolve_left filled
  have small : (memory.segment toText).offset sect.addr + i < 2 ^ 32 := by omega
  have place := (memory.segment toText).offset_add small
  have covers : patch.Covers ((memory.segment toText).offset sect.addr + i) := by
    constructor
    · rw [copied.start]
      omega
    · rw [copied.start, copied.length]
      omega
  rw [place, patched_of_covers (patches_apart laidOut inside bounded)
    (List.mem_filterMap.mpr ⟨sect, member, isPatch⟩) covers, copied.start, Nat.add_sub_cancel_left]

theorem segment_untouched (laidOut : LaidOut sections)
    (inside : ∀ sect ∈ sections, skipped sect.flags = true ∨ CopyInside elfbuf areas memory sect)
    (member : sect ∈ sections) (alloc : sect.alloc = true)
    (noPatch : sectionPatch elfbuf areas memory toText sect = none)
    {i : Nat} (below : i < sect.size.toNat) (buffer : Nat → Byte) :
    patched buffer (sections.filterMap (sectionPatch elfbuf areas memory toText))
        ((memory.segment toText).offset (sect.addr + BitVec.ofNat 32 i)) =
      buffer ((memory.segment toText).offset (sect.addr + BitVec.ofNat 32 i)) := by
  refine patched_of_not_covers fun patch isPatch covers => ?_
  obtain ⟨other, otherIn, isPatch⟩ := List.mem_filterMap.mp isPatch
  have copied := sectionPatch_copied (inside other otherIn) isPatch
  have differs : sect ≠ other := by
    intro same
    rw [same, isPatch] at noPatch
    cases noPatch
  have range := covers_address copied (laidOut.ends other otherIn copied.alloc) covers
  have ends := laidOut.ends sect member alloc
  have filled : sect.size ≠ 0 := fun empty => by simp [empty] at below
  have otherFilled : other.size ≠ 0 := fun empty => by simp [empty] at range; omega
  have cases := ((laidOut.apart.forall member otherIn differs alloc
    copied.alloc).resolve_left filled).resolve_left otherFilled
  have place : (sect.addr + BitVec.ofNat 32 i).toNat = sect.addr.toNat + i := by
    simp only [BitVec.toNat_add, BitVec.toNat_ofNat]
    omega
  omega

end Contents

end RiscVFast
