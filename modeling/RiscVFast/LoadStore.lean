import RiscVFast.Computational

/-! Loads and stores over the two segments, as one byte-addressed memory. -/

namespace RiscVFast

open Rv32i hiding Word
open MaskTable Fallible StoreLog

def Segment.contains (seg : Segment) (addr : Word) : Bool :=
  (addr - seg.memBase).ult seg.memLen

def Segment.Holds (seg : Segment) (addr : Word) (width : Nat) : Prop :=
  seg.offset addr + width ≤ seg.memLen.toNat

/-- A buffer of exactly `memLen` bytes, at a range of addresses that does not wrap. -/
structure Segment.Placed (seg : Segment) : Prop where
  allocated : seg.size = seg.memLen.toNat
  fits : seg.memBase.toNat + seg.memLen.toNat < 2 ^ 32

structure Memory.Placed (memory : Memory) : Prop where
  text : memory.insnMem.Placed
  data : memory.dataMem.Placed
  disjoint : ∀ addr, ¬ (memory.isdata addr = true ∧ memory.istext addr = true)

structure Memory.Allocated (memory : Memory) : Prop where
  text : memory.insnMem.size = memory.insnMem.memLen.toNat
  data : memory.dataMem.size = memory.dataMem.memLen.toNat

theorem Memory.Placed.allocated {memory : Memory} (placed : memory.Placed) : memory.Allocated where
  text := placed.text.allocated
  data := placed.data.allocated

theorem contains_iff (seg : Segment) (addr : Word) :
    seg.contains addr = true ↔ seg.offset addr < seg.memLen.toNat := by
  simp [Segment.contains, Segment.offset, BitVec.ult]

theorem Segment.offset_add (seg : Segment) {addr : Word} {i : Nat}
    (small : seg.offset addr + i < 2 ^ 32) :
    seg.offset (addr + BitVec.ofNat 32 i) = seg.offset addr + i := by
  simp only [Segment.offset, BitVec.toNat_sub, BitVec.toNat_add, BitVec.toNat_ofNat] at small ⊢
  omega

theorem Segment.offset_memBase (seg : Segment) {index : Nat} (small : index < 2 ^ 32) :
    seg.offset (seg.memBase + BitVec.ofNat 32 index) = index := by
  simp only [Segment.offset, BitVec.toNat_sub, BitVec.toNat_add, BitVec.toNat_ofNat]
  omega

theorem Segment.Holds.offset_of_near {seg : Segment} {addr near : Word} {width : Nat}
    (holds : seg.Holds addr width) (close : (near - addr).toNat < width) :
    seg.offset near = seg.offset addr + (near - addr).toNat := by
  unfold Segment.Holds at holds
  have small := seg.memLen.isLt
  have split : near - seg.memBase = (addr - seg.memBase) + (near - addr) := by
    bv_omega
  unfold Segment.offset at holds ⊢
  rw [split, BitVec.toNat_add_of_lt (by omega)]

theorem Segment.Holds.near {seg : Segment} {addr near : Word} {width : Nat}
    (holds : seg.Holds addr width) (close : (near - addr).toNat < width) :
    seg.contains near = true := by
  rw [contains_iff, holds.offset_of_near close]
  unfold Segment.Holds at holds
  omega

theorem sub_eq_offset_sub (seg : Segment) (addr other : Word) :
    other - addr = (other - seg.memBase) - (addr - seg.memBase) := by
  bv_omega

theorem near_of_offset {seg : Segment} {addr other : Word}
    (after : seg.offset addr ≤ seg.offset other) :
    (other - addr).toNat = seg.offset other - seg.offset addr := by
  unfold Segment.offset at after ⊢
  rw [sub_eq_offset_sub seg addr other, BitVec.toNat_sub_of_le]
  exact after

theorem Segment.Holds.far_of_offset {seg : Segment} {addr other : Word} {width : Nat}
    (holds : seg.Holds addr width) (before : seg.offset other < seg.offset addr) :
    width ≤ (other - addr).toNat := by
  unfold Segment.Holds at holds
  unfold Segment.offset at before holds
  have small := seg.memLen.isLt
  rw [sub_eq_offset_sub seg addr other, BitVec.toNat_sub]
  omega

theorem Segment.Holds.access {seg : Segment} {addr : Word} {width : Nat} (placed : seg.Placed)
    (holds : seg.Holds addr width) : seg.access addr width = .ok (seg.offset addr) := by
  unfold Segment.Holds at holds
  unfold Segment.access
  rw [if_pos (by rw [placed.allocated]; exact holds)]

def Memory.byteAt (memory : Memory) (addr : Word) : Byte :=
  match memory.readSegment addr with
  | some seg => seg.data (seg.offset addr)
  | none => 0

def Memory.Readable (memory : Memory) (addr : Word) (width : Nat) : Prop :=
  memory.dataMem.Holds addr width ∨ memory.insnMem.Holds addr width

theorem readSegment_data {memory : Memory} {addr : Word}
    (inside : memory.dataMem.contains addr = true) :
    memory.readSegment addr = some memory.dataMem := by
  have isdata : memory.isdata addr = true := inside
  simp [Memory.readSegment, isdata]

theorem Memory.Placed.notData {memory : Memory} (placed : memory.Placed) {addr : Word}
    (istext : memory.istext addr = true) : memory.isdata addr = false := by
  by_contra isdata
  exact placed.disjoint addr ⟨by simpa using isdata, istext⟩

theorem readSegment_text {memory : Memory} {addr : Word} (placed : memory.Placed)
    (inside : memory.insnMem.contains addr = true) :
    memory.readSegment addr = some memory.insnMem := by
  have istext : memory.istext addr = true := inside
  simp [Memory.readSegment, istext, placed.notData istext]

theorem byteAt_data {memory : Memory} {addr : Word} (inside : memory.isdata addr = true) :
    memory.byteAt addr = memory.dataMem.data (memory.dataMem.offset addr) := by
  simp [Memory.byteAt, Memory.readSegment, inside]

theorem byteAt_text {memory : Memory} {addr : Word} (notData : memory.isdata addr = false)
    (inside : memory.istext addr = true) :
    memory.byteAt addr = memory.insnMem.data (memory.insnMem.offset addr) := by
  simp [Memory.byteAt, Memory.readSegment, notData, inside]

theorem byteAt_unmapped {memory : Memory} {addr : Word} (notData : memory.isdata addr = false)
    (notText : memory.istext addr = false) : memory.byteAt addr = 0 := by
  simp [Memory.byteAt, Memory.readSegment, notData, notText]

theorem near_ofNat (addr : Word) {width index : Nat} (small : width ≤ 4) (bound : index < width) :
    (addr + BitVec.ofNat 32 index - addr).toNat = index := by
  have cancel : addr + BitVec.ofNat 32 index - addr = BitVec.ofNat 32 index := by bv_omega
  rw [cancel, BitVec.toNat_ofNat]
  omega

theorem byteAt_of_found {memory : Memory} {seg : Segment} {addr : Word} {width index : Nat}
    (found : ∀ near, seg.contains near = true → memory.readSegment near = some seg)
    (holds : seg.Holds addr width) (small : width ≤ 4) (bound : index < width) :
    memory.byteAt (addr + BitVec.ofNat 32 index) = seg.data (seg.offset addr + index) := by
  have distance := near_ofNat addr small bound
  have close : (addr + BitVec.ofNat 32 index - addr).toNat < width := by omega
  have offset := holds.offset_of_near close
  rw [distance] at offset
  simp only [Memory.byteAt, found _ (holds.near close), offset]

theorem Memory.Readable.served {memory : Memory} {addr : Word} {width : Nat}
    (readable : memory.Readable addr width) (placed : memory.Placed) (positive : 0 < width)
    (small : width ≤ 4) :
    ∃ seg, memory.readSegment addr = some seg ∧ seg.access addr width = .ok (seg.offset addr) ∧
      ∀ index < width, memory.byteAt (addr + BitVec.ofNat 32 index) =
        seg.data (seg.offset addr + index) := by
  have self : (addr - addr).toNat < width := by simpa using positive
  rcases readable with data | text
  · have found := @readSegment_data memory
    refine ⟨memory.dataMem, found (data.near self), data.access placed.data, ?_⟩
    intro index bound
    exact byteAt_of_found (fun near => found) data small bound
  · have found := fun near => @readSegment_text memory near placed
    refine ⟨memory.insnMem, found addr (text.near self), text.access placed.text, ?_⟩
    intro index bound
    exact byteAt_of_found found text small bound

theorem Segment.Holds.within {seg : Segment} {addr : Word} {width : Nat} (placed : seg.Placed)
    (holds : seg.Holds addr width) (positive : 0 < width) :
    (seg.memBase.ule addr && addr.ult (seg.memBase + seg.memLen)) = true := by
  have fits := placed.fits
  have below := addr.isLt
  unfold Segment.Holds Segment.offset at holds
  rw [BitVec.toNat_sub] at holds
  simp only [Bool.and_eq_true, BitVec.ule, BitVec.ult, decide_eq_true_eq, BitVec.toNat_add]
  omega

theorem checkAddr_readable {s : Machine} {addr : Word} {width : Nat}
    (readable : s.memory.Readable addr width) (placed : s.memory.Placed) (positive : 0 < width) :
    checkAddr s addr = .ok () := by
  rcases readable with data | text
  · have within := data.within placed.data positive
    simp [checkAddr, within]
  · have within := text.within placed.text positive
    simp [checkAddr, within]

def loadOpcode : LoadOp → VliwOp
  | .lb => .lb
  | .lh => .lh
  | .lw => .lw
  | .lbu => .lbu
  | .lhu => .lhu

def storeOpcode : StoreOp → VliwOp
  | .sb => .sb
  | .sh => .sh
  | .sw => .sw

theorem decodeAlone_load (op : LoadOp) (rd rs1 : Reg) (imm : BitVec 12) :
    decodeAlone (iType imm rs1 op.funct3 rd 0b0000011) =
      .ok (true, ⟨loadOpcode op, rd, rs1, 0, imm.signExtend 32⟩) := by
  have described := rType_described (imm.extractLsb' 5 7) (imm.extractLsb' 0 5) rs1 op.funct3 rd
    0b0000011 [] (agrees_none _) (agrees_some _) (agrees_none _) nofun
  rw [← iType_eq_rType] at described
  have decoded := decodeAlone_of_search (loadOpcode op) ["rd", "rs", "simm12"] described
    (by cases op <;> decide) (by cases op <;> decide +kernel)
  rw [decoded]
  simp [decodeItems, decodeItem, Vliw.ofOpcode]

theorem decodeAlone_store (op : StoreOp) (rs1 rs2 : Reg) (imm : BitVec 12) :
    decodeAlone (sType imm rs2 rs1 op.funct3 0b0100011) =
      .ok (true, ⟨storeOpcode op, 0, rs1, rs2, imm.signExtend 32⟩) := by
  have described := rType_described (imm.extractLsb' 5 7) rs2 rs1 op.funct3
    (imm.extractLsb' 0 5) 0b0100011 [] (agrees_none _) (agrees_some _) (agrees_none _) nofun
  rw [← sType_eq_rType] at described
  have decoded := decodeAlone_of_search (storeOpcode op) ["rs2", "rs1", "s2imm12"] described
    (by cases op <;> decide) (by cases op <;> decide +kernel)
  rw [decoded]
  simp [decodeItems, decodeItem, Vliw.ofOpcode]

theorem LoadOp.width_bounds (op : LoadOp) : 0 < op.width ∧ op.width ≤ 4 := by
  cases op <;> decide

theorem dispatch_load (cfg : Config) (op : LoadOp) (rd rs1 rs2 : Reg) (imm : Word) (s : Machine)
    (placed : s.memory.Placed) (readable : s.memory.Readable (s.cpu.reg rs1 + imm) op.width) :
    dispatch cfg ⟨loadOpcode op, rd, rs1, rs2, imm⟩ s =
      .ok (s.setReg rd (op.extend fun index =>
        s.memory.byteAt (s.cpu.reg rs1 + imm + BitVec.ofNat 32 index))) := by
  obtain ⟨positive, small⟩ := LoadOp.width_bounds op
  have checked := checkAddr_readable readable placed positive
  obtain ⟨seg, found, access, bytes⟩ := readable.served placed positive small
  cases op with
  | lb =>
      have byte0 := bytes 0 (by decide)
      simp only [loadOpcode, dispatch, checked, ok_bind, Memory.read8, Memory.readWith, found,
        Segment.read8, LoadOp.width] at access ⊢
      simp only [access, map_ok, ok_bind, LoadOp.extend, byte0, Nat.add_zero]
  | lbu =>
      have byte0 := bytes 0 (by decide)
      simp only [loadOpcode, dispatch, checked, ok_bind, Memory.read8u, Memory.readWith, found,
        Segment.read8u, LoadOp.width] at access ⊢
      simp only [access, map_ok, ok_bind, LoadOp.extend, byte0, Nat.add_zero]
  | lh =>
      have byte0 := bytes 0 (by decide)
      have byte1 := bytes 1 (by decide)
      simp only [loadOpcode, dispatch, checked, ok_bind, Memory.read16, Memory.readWith, found,
        Segment.read16, LoadOp.width] at access ⊢
      simp only [access, map_ok, ok_bind, LoadOp.extend, half, byte0, byte1, Nat.add_zero]
  | lhu =>
      have byte0 := bytes 0 (by decide)
      have byte1 := bytes 1 (by decide)
      simp only [loadOpcode, dispatch, checked, ok_bind, Memory.read16u, Memory.readWith, found,
        Segment.read16u, LoadOp.width] at access ⊢
      simp only [access, map_ok, ok_bind, LoadOp.extend, half, byte0, byte1, Nat.add_zero]
  | lw =>
      have byte0 := bytes 0 (by decide)
      have byte1 := bytes 1 (by decide)
      have byte2 := bytes 2 (by decide)
      have byte3 := bytes 3 (by decide)
      simp only [loadOpcode, dispatch, checked, ok_bind, RiscVFast.read32, found,
        Segment.read32, LoadOp.width] at access ⊢
      simp only [access, map_ok, ok_bind, LoadOp.extend, word, byte0, byte1, byte2, byte3,
        Nat.add_zero]

def Memory.Writable (cfg : Config) (memory : Memory) (addr : Word) (width : Nat) : Prop :=
  memory.dataMem.Holds addr width ∨ cfg.doCore = true ∧ memory.insnMem.Holds addr width

structure Segment.SameLayout (seg seg' : Segment) : Prop where
  memBase : seg'.memBase = seg.memBase
  memLen : seg'.memLen = seg.memLen
  size : seg'.size = seg.size

structure Memory.SameLayout (memory memory' : Memory) : Prop where
  text : memory.insnMem.SameLayout memory'.insnMem
  data : memory.dataMem.SameLayout memory'.dataMem

theorem Segment.SameLayout.refl (seg : Segment) : seg.SameLayout seg := ⟨rfl, rfl, rfl⟩

theorem Segment.SameLayout.trans {seg seg' seg'' : Segment} (first : seg.SameLayout seg')
    (second : seg'.SameLayout seg'') : seg.SameLayout seg'' :=
  ⟨second.memBase.trans first.memBase, second.memLen.trans first.memLen,
    second.size.trans first.size⟩

theorem Memory.SameLayout.refl (memory : Memory) : memory.SameLayout memory :=
  ⟨.refl memory.insnMem, .refl memory.dataMem⟩

theorem Memory.SameLayout.trans {memory memory' memory'' : Memory}
    (first : memory.SameLayout memory') (second : memory'.SameLayout memory'') :
    memory.SameLayout memory'' :=
  ⟨first.text.trans second.text, first.data.trans second.data⟩

theorem Segment.SameLayout.offset {seg seg' : Segment} (same : seg.SameLayout seg') (addr : Word) :
    seg'.offset addr = seg.offset addr := by
  simp only [Segment.offset, same.memBase]

theorem Segment.SameLayout.placed {seg seg' : Segment} (same : seg.SameLayout seg')
    (placed : seg.Placed) : seg'.Placed where
  allocated := by rw [same.size, same.memLen, placed.allocated]
  fits := by
    rw [same.memBase, same.memLen]
    exact placed.fits

theorem Segment.SameLayout.holds {seg seg' : Segment} (same : seg.SameLayout seg') {addr : Word}
    {width : Nat} : seg'.Holds addr width ↔ seg.Holds addr width := by
  simp only [Segment.Holds, same.offset, same.memLen]

theorem Memory.SameLayout.placed {memory memory' : Memory} (same : memory.SameLayout memory')
    (placed : memory.Placed) : memory'.Placed where
  text := same.text.placed placed.text
  data := same.data.placed placed.data
  disjoint := by
    intro addr
    simpa only [Memory.isdata, Memory.istext, same.text.memBase, same.text.memLen,
      same.data.memBase, same.data.memLen] using placed.disjoint addr

theorem Memory.SameLayout.isdata {memory after : Memory} (same : memory.SameLayout after)
    (addr : Word) : after.isdata addr = memory.isdata addr := by
  simp only [Memory.isdata, same.data.memBase, same.data.memLen]

theorem Memory.SameLayout.istext {memory after : Memory} (same : memory.SameLayout after)
    (addr : Word) : after.istext addr = memory.istext addr := by
  simp only [Memory.istext, same.text.memBase, same.text.memLen]

theorem Memory.Allocated.of_layout {memory after : Memory} (allocated : memory.Allocated)
    (same : memory.SameLayout after) : after.Allocated where
  text := by rw [same.text.size, same.text.memLen, allocated.text]
  data := by rw [same.data.size, same.data.memLen, allocated.data]

theorem splice_nil (data : Nat → Byte) (off : Nat) : splice data off [] = data := by
  funext index
  unfold splice
  split <;> rfl

theorem splice_offset {seg : Segment} {addr : Word} {bytes : List Byte}
    (holds : seg.Holds addr bytes.length) (other : Word) :
    splice seg.data (seg.offset addr) bytes (seg.offset other) =
      (bytes[(other - addr).toNat]?).getD (seg.data (seg.offset other)) := by
  unfold splice
  split
  · rename_i after
    rw [near_of_offset after]
  · rename_i before
    have far := holds.far_of_offset (Nat.lt_of_not_le before)
    rw [List.getElem?_eq_none far, Option.getD_none]

theorem Segment.Holds.untouched {seg : Segment} {addr other : Word} {bytes : List Byte}
    (holds : seg.Holds addr bytes.length) (outside : seg.contains other = false) (old : Byte) :
    (bytes[(other - addr).toNat]?).getD old = old := by
  have far : bytes.length ≤ (other - addr).toNat := by
    by_contra close
    rw [holds.near (Nat.lt_of_not_le close)] at outside
    simp at outside
  rw [List.getElem?_eq_none far, Option.getD_none]

theorem writeWith_stored {cfg : Config} {memory : Memory} {addr : Word} {bytes : List Byte}
    (writable : memory.Writable cfg addr bytes.length) (placed : memory.Placed)
    (positive : 0 < bytes.length) :
    ∃ written, memory.writeWith cfg addr (·.write addr bytes) = some (.ok written) ∧
      memory.SameLayout written ∧
      ∀ other, written.byteAt other =
        (bytes[(other - addr).toNat]?).getD (memory.byteAt other) := by
  have self : (addr - addr).toNat < bytes.length := by simpa using positive
  rcases writable with data | ⟨core, text⟩
  · have isdata : memory.isdata addr = true := data.near self
    refine ⟨{ memory with dataMem.data :=
      (splice memory.dataMem.data (memory.dataMem.offset addr) bytes) }, ?_,
      ⟨.refl _, ⟨rfl, rfl, rfl⟩⟩, ?_⟩
    · simp only [Memory.writeWith, isdata, if_true, Segment.write, data.access placed.data, map_ok]
    · intro other
      cases inside : memory.isdata other with
      | true =>
          simp only [byteAt_data inside, ← splice_offset data other]
          exact byteAt_data inside
      | false =>
          rw [data.untouched inside]
          cases text : memory.istext other with
          | true =>
              rw [byteAt_text inside text]
              exact byteAt_text inside text
          | false =>
              rw [byteAt_unmapped inside text]
              exact byteAt_unmapped inside text
  · have istext : memory.istext addr = true := text.near self
    have notData := placed.notData istext
    refine ⟨{ memory with insnMem.data :=
      (splice memory.insnMem.data (memory.insnMem.offset addr) bytes) }, ?_,
      ⟨⟨rfl, rfl, rfl⟩, .refl _⟩, ?_⟩
    · simp [Memory.writeWith, notData, core, istext, Segment.write, text.access placed.text]
    · intro other
      cases inside : memory.istext other with
      | true =>
          have outside := placed.notData inside
          simp only [byteAt_text outside inside, ← splice_offset text other]
          exact byteAt_text outside inside
      | false =>
          rw [text.untouched inside]
          cases data : memory.isdata other with
          | true =>
              rw [byteAt_data data]
              exact byteAt_data data
          | false =>
              rw [byteAt_unmapped data inside]
              exact byteAt_unmapped data inside

theorem StoreOp.width_positive (op : StoreOp) : 0 < op.width := by
  cases op <;> decide

theorem dispatch_store (cfg : Config) (op : StoreOp) (rd rs1 rs2 : Reg) (imm : Word) (s : Machine)
    (placed : s.memory.Placed) (writable : s.memory.Writable cfg (s.cpu.reg rs1 + imm) op.width) :
    ∃ written, dispatch cfg ⟨storeOpcode op, rd, rs1, rs2, imm⟩ s =
        .ok { s with memory := written } ∧
      s.memory.SameLayout written ∧
      ∀ other, written.byteAt other =
        ((op.bytes (s.cpu.reg rs2))[(other - (s.cpu.reg rs1 + imm)).toNat]?).getD
          (s.memory.byteAt other) := by
  rw [← StoreOp.length_bytes op (s.cpu.reg rs2)] at writable
  obtain ⟨written, stored, layout, bytes⟩ := writeWith_stored writable placed (by
    rw [StoreOp.length_bytes]
    exact StoreOp.width_positive op)
  refine ⟨written, ?_, layout, bytes⟩
  cases op with
  | sb =>
      replace stored : s.memory.writeWith cfg (s.cpu.reg rs1 + imm)
        (·.write8 (s.cpu.reg rs1 + imm) (s.cpu.reg rs2)) = some (.ok written) := stored
      simp only [storeOpcode, dispatch, write8, narrowWrite, stored, map_ok]
  | sh =>
      replace stored : s.memory.writeWith cfg (s.cpu.reg rs1 + imm)
        (·.write16 (s.cpu.reg rs1 + imm) (s.cpu.reg rs2)) = some (.ok written) := stored
      simp only [storeOpcode, dispatch, write16, narrowWrite, stored, map_ok]
  | sw =>
      replace stored : s.memory.writeWith cfg (s.cpu.reg rs1 + imm)
        (·.write32 (s.cpu.reg rs1 + imm) (s.cpu.reg rs2)) = some (.ok written) := stored
      simp only [storeOpcode, dispatch, RiscVFast.write32, stored, map_ok]

def Accessible (cfg : Config) (memory : Memory) (addr : Word) : MemoryInstr → Prop
  | .load op _ _ _ => memory.Readable addr op.width
  | .store op _ _ _ => memory.Writable cfg addr op.width

def InBounds (cfg : Config) (memory : Memory) (initial : Word → Byte) :
    MemoryState → List (Word × MemoryInstr) → Prop
  | _, [] => True
  | state, (_, instr) :: rest =>
      Accessible cfg memory (instr.address state.regs) instr ∧
        InBounds cfg memory initial (instr.eval initial state) rest

def executeAll (cfg : Config) : List (Word × MemoryInstr) → Simulator → Except Abort Simulator
  | [], sim => .ok sim
  | (pc, instr) :: rest, sim => do executeAll cfg rest (← executeCode cfg pc instr.encode sim)

structure Represents (start : Simulator) (state : MemoryState) (sim : Simulator) : Prop where
  tables : sim.tables.Sound
  vliwInsn : sim.vliwInsn = start.vliwInsn
  machine : sim.machine = { start.machine with
    cpu.reg := state.regs
    cpu.pc := sim.machine.cpu.pc
    memory := sim.machine.memory }
  layout : start.machine.memory.SameLayout sim.machine.memory
  bytes : ∀ addr, sim.machine.memory.byteAt addr =
    latest start.machine.memory.byteAt state.stores addr

theorem executeCode_of_decode {cfg : Config} {sim : Simulator} {pc code : Word} {found : Bool}
    {vlp : Vliw} {machine : Machine} (sound : sim.tables.Sound)
    (decodes : decodeAlone code = .ok (found, vlp))
    (executes : execute cfg vlp { sim.machine with cpu.pc := pc } = .ok machine) :
    ∃ tables, executeCode cfg pc code sim = .ok { sim with machine, tables } ∧ tables.Sound := by
  have transparent := sound.transparent pc code
  rw [decodes] at transparent
  obtain ⟨decoded, called, result⟩ := map_eq_ok.mp transparent
  simp only [Decoded.result, Prod.mk.injEq] at result
  refine ⟨decoded.tables, ?_, sound.step called⟩
  simp only [executeCode, called, ok_bind, result.2, executes]

theorem Represents.reg {start sim : Simulator} {state : MemoryState}
    (represents : Represents start state sim) : sim.machine.cpu.reg = state.regs := by
  rw [represents.machine]

theorem Represents.step {cfg : Config} {start sim : Simulator} {state : MemoryState}
    {instr : MemoryInstr} (represents : Represents start state sim) (pc : Word)
    (placed : start.machine.memory.Placed) (zero : state.regs 0 = 0)
    (accessible : Accessible cfg start.machine.memory (instr.address state.regs) instr) :
    ∃ after, executeCode cfg pc instr.encode sim = .ok after ∧
      Represents start (instr.eval start.machine.memory.byteAt state) after := by
  have layout := represents.layout
  have placedNow : sim.machine.memory.Placed := layout.placed placed
  have regs := represents.reg
  cases instr with
  | load op rd rs1 imm =>
      have readable : sim.machine.memory.Readable (sim.machine.cpu.reg rs1 + imm.signExtend 32)
          op.width := by
        rw [regs]
        exact accessible.imp layout.data.holds.mpr layout.text.holds.mpr
      have dispatched := dispatch_load cfg op rd rs1 0 (imm.signExtend 32)
        { sim.machine with cpu.pc := pc } placedNow readable
      have result : writeReg sim.machine.cpu.reg rd (op.extend fun index =>
          sim.machine.memory.byteAt (sim.machine.cpu.reg rs1 + imm.signExtend 32 +
            BitVec.ofNat 32 index)) =
          ((MemoryInstr.load op rd rs1 imm).eval start.machine.memory.byteAt state).regs := by
        simp only [regs, represents.bytes]
        rfl
      have executes : execute cfg ⟨loadOpcode op, rd, rs1, 0, imm.signExtend 32⟩
          { sim.machine with cpu.pc := pc } = .ok { sim.machine with
            cpu.reg :=
              ((MemoryInstr.load op rd rs1 imm).eval start.machine.memory.byteAt state).regs
            cpu.pc := pc } := by
        rw [← result]
        exact execute_setReg (by simpa only [regs] using zero) dispatched
      obtain ⟨tables, executed, sound⟩ := executeCode_of_decode represents.tables
        (decodeAlone_load op rd rs1 imm) executes
      refine ⟨_, executed, sound, represents.vliwInsn, ?_, layout, represents.bytes⟩
      exact congrArg (fun s : Machine => { s with
        cpu.reg := ((MemoryInstr.load op rd rs1 imm).eval start.machine.memory.byteAt state).regs
        cpu.pc := pc }) represents.machine
  | store op rs1 rs2 imm =>
      have writable : sim.machine.memory.Writable cfg (sim.machine.cpu.reg rs1 + imm.signExtend 32)
          op.width := by
        rw [regs]
        exact accessible.imp layout.data.holds.mpr (And.imp_right layout.text.holds.mpr)
      obtain ⟨written, dispatched, sameLayout, bytes⟩ := dispatch_store cfg op 0 rs1 rs2
        (imm.signExtend 32) { sim.machine with cpu.pc := pc } placedNow writable
      have cleared := clear_unchanged { sim.machine with cpu.pc := pc, memory := written }
        (by simpa only [regs] using zero)
      have executes : execute cfg ⟨storeOpcode op, 0, rs1, rs2, imm.signExtend 32⟩
          { sim.machine with cpu.pc := pc } =
            .ok { sim.machine with cpu.pc := pc, memory := written } := by
        simp only [execute, dispatched, map_ok, cleared]
      obtain ⟨tables, executed, sound⟩ := executeCode_of_decode represents.tables
        (decodeAlone_store op rs1 rs2 imm) executes
      refine ⟨_, executed, sound, represents.vliwInsn, ?_, layout.trans sameLayout, ?_⟩
      · exact congrArg (fun s : Machine => { s with cpu.pc := pc, memory := written })
          represents.machine
      · intro addr
        simp only [bytes addr, represents.bytes addr, regs]
        rfl

theorem Represents.start (sim : Simulator) (sound : sim.tables.Sound) :
    Represents sim ⟨sim.machine.cpu.reg, []⟩ sim :=
  ⟨sound, rfl, rfl, .refl _, fun _ => rfl⟩

theorem Represents.run {cfg : Config} {start : Simulator} (placed : start.machine.memory.Placed)
    {program : List (Word × MemoryInstr)} {state : MemoryState} {sim : Simulator}
    (represents : Represents start state sim) (zero : state.regs 0 = 0)
    (inBounds : InBounds cfg start.machine.memory start.machine.memory.byteAt state program) :
    ∃ after, executeAll cfg program sim = .ok after ∧
      Represents start
        (program.foldl (fun state entry => entry.2.eval start.machine.memory.byteAt state) state)
        after := by
  induction program generalizing state sim with
  | nil => exact ⟨sim, rfl, represents⟩
  | cons entry rest ih =>
      obtain ⟨pc, instr⟩ := entry
      obtain ⟨accessible, restInBounds⟩ := inBounds
      obtain ⟨middle, executed, middleRepresents⟩ := represents.step pc placed zero accessible
      have stillZero := (MemoryInstr.eval_zero start.machine.memory.byteAt state instr).trans zero
      obtain ⟨after, restExecuted, result⟩ := ih middleRepresents stillZero restInBounds
      refine ⟨after, ?_, result⟩
      simp only [executeAll, executed, ok_bind, restExecuted]

/-- Sequences of loads and stores see one little-endian memory: every load gets the bytes that
were stored last, every store changes its own bytes. -/
theorem loadsStores_conform (cfg : Config) (program : List (Word × MemoryInstr)) (sim : Simulator)
    (calls : List (Word × Word)) (results : List (Bool × Vliw))
    (history : decodeCalls DecodeTables.empty calls = .ok (results, sim.tables))
    (placed : sim.machine.memory.Placed) (zero : sim.machine.cpu.reg 0 = 0)
    (inBounds : InBounds cfg sim.machine.memory sim.machine.memory.byteAt
      ⟨sim.machine.cpu.reg, []⟩ program) :
    ∃ after, executeAll cfg program sim = .ok after ∧
      let state := program.foldl
        (fun state entry => entry.2.eval sim.machine.memory.byteAt state) ⟨sim.machine.cpu.reg, []⟩
      after.machine = { sim.machine with
        cpu.reg := state.regs
        cpu.pc := after.machine.cpu.pc
        memory := after.machine.memory } ∧
      sim.machine.memory.SameLayout after.machine.memory ∧
      ∀ addr, after.machine.memory.byteAt addr =
        latest sim.machine.memory.byteAt state.stores addr := by
  have sound := (decodeCalls_sound DecodeTables.empty_sound history).1
  obtain ⟨after, executed, represents⟩ := (Represents.start sim sound).run placed zero inBounds
  exact ⟨after, executed, represents.machine, represents.layout, represents.bytes⟩

theorem smallMemory_placed (text : List Word) : (smallMemory 0x20000000 text).Placed where
  text := ⟨rfl, (by decide : (0 : Nat) + 0x100 < 2 ^ 32)⟩
  data := ⟨rfl, (by decide : (0x20000000 : Nat) + 0x100 < 2 ^ 32)⟩
  disjoint := by
    rintro addr ⟨isData, isText⟩
    have inData := (contains_iff (smallMemory 0x20000000 text).dataMem addr).mp isData
    have inText := (contains_iff (smallMemory 0x20000000 text).insnMem addr).mp isText
    simp only [smallMemory, Segment.ofWords, Segment.offset, BitVec.toNat_sub, BitVec.reduceToNat]
      at inData inText
    omega

/-- The low byte of `x2`, stored by `sb x2,0(x2)` and loaded back by `lb x5,0(x2)`. -/
theorem loadsStores_conform_byte :
    ∃ after, executeAll (Config.standard Host.silent)
        [(0, .store .sb 2 2 0), (4, .load .lb 5 2 0)]
        (Simulator.boot (smallMemory 0x20000000 []) 0 0) = .ok after ∧
      after.machine.cpu.reg 5 = 0xfffffff0 := by
  obtain ⟨after, executed, machine, _⟩ := loadsStores_conform (Config.standard Host.silent)
    [(0, .store .sb 2 2 0), (4, .load .lb 5 2 0)]
    (Simulator.boot (smallMemory 0x20000000 []) 0 0) [] [] rfl (smallMemory_placed []) rfl
    ⟨.inl (by decide : (0xf0 : Nat) + 1 ≤ 0x100), .inl (by decide : (0xf0 : Nat) + 1 ≤ 0x100),
      trivial⟩
  refine ⟨after, executed, ?_⟩
  rw [machine]
  rfl

end RiscVFast
