import RiscVFast.Architecture
import RiscVFast.MemoryLayout

/-! From the file to the run: `main` makes of a well-formed file what the architecture makes of the
sections it describes. -/

namespace RiscVFast

open Rv32i hiding Word
open Fallible StoreLog Transition

/-- A platform with the sections of a file where their headers say, and as far as they allow. Those
between the ends of the text are never writable. -/
structure Describes (file : List Byte) (platform : Platform) : Prop where
  bytes : ∀ sect ∈ fileSections file, sect.alloc = true → ∀ i < sect.size.toNat,
    platform.initial (sect.addr + BitVec.ofNat 32 i) = sect.byteAt file i
  executable : ∀ sect ∈ fileSections file, sect.alloc = true → sect.executable = true →
    ∀ i, i + 4 ≤ sect.size.toNat → platform.executable (sect.addr + BitVec.ofNat 32 i)
  readable : ∀ sect ∈ fileSections file, sect.alloc = true → ∀ i width, 0 < width →
    i + width ≤ sect.size.toNat → platform.readable (sect.addr + BitVec.ofNat 32 i) width
  writable : ∀ sect ∈ fileSections file, sect.alloc = true → sect.writable = true →
    (fileAreas file).text.holds sect.addr = false → ∀ i width, 0 < width →
    i + width ≤ sect.size.toNat → platform.writable (sect.addr + BitVec.ofNat 32 i) width

/-- The two segments that the section headers ask for have room side by side, and there are no more
instructions than the cache has slots. -/
structure SegmentsFit (heapLen : Word) (file : List Byte) : Prop where
  text : (fileAreas file).text.base.toNat + (fileAreas file).textLen.toNat < 2 ^ 32
  data : (fileAreas file).data.base.toNat + ((fileAreas file).totalLen heapLen).toNat < 2 ^ 32
  apart : (fileAreas file).text.base.toNat + (fileAreas file).textLen.toNat ≤
      (fileAreas file).data.base.toNat ∨
    (fileAreas file).data.base.toNat + ((fileAreas file).totalLen heapLen).toNat ≤
      (fileAreas file).text.base.toNat
  small : (fileAreas file).textLen.toNat ≤ 0x400000

section Loading

variable {host : LoaderHost} {heapLen : Word} {file : List Byte} {memory : Memory}
  {sect : ElfSection}

theorem FileLayout.placed (layout : FileLayout heapLen file memory)
    (fits : SegmentsFit heapLen file) : memory.Placed where
  text := by
    constructor
    · rw [layout.textSize, layout.textLen]
    · rw [layout.textBase, layout.textLen]
      exact fits.text
  data := by
    constructor
    · rw [layout.dataSize, layout.dataLen]
    · rw [layout.dataBase, layout.dataLen]
      exact fits.data
  disjoint := by
    rintro addr ⟨isData, isText⟩
    rw [isdata_iff, Segment.offset, layout.dataBase, layout.dataLen, BitVec.toNat_sub] at isData
    rw [istext_iff, Segment.offset, layout.textBase, layout.textLen, BitVec.toNat_sub] at isText
    have text := fits.text
    have data := fits.data
    have apart := fits.apart
    have bound := addr.isLt
    omega

end Loading

end RiscVFast
