import RiscVFast.ElfLoads

/-! The range checks in front of a word access, `checkAddr` and the ones in `Memory`, against the
ranges that they mean. -/

namespace RiscVFast

/-- One of the `len` addresses from `base` on, which may go around the end of the address space. -/
def Within (base len addr : Word) : Prop :=
  ∃ i < len.toNat, addr = base + BitVec.ofNat 32 i

def EndsBelowTop (base len : Word) : Prop := base.toNat + len.toNat < 2 ^ 32

def Memory.InData (memory : Memory) (addr : Word) : Prop :=
  Within memory.dataMem.memBase memory.dataMem.memLen addr

def Memory.InText (memory : Memory) (addr : Word) : Prop :=
  Within memory.insnMem.memBase memory.insnMem.memLen addr

def InHost (cfg : Config) (addr : Word) : Prop := Within cfg.hostAddr cfg.hostSize addr

def Turned {α : Type} : Except Abort α → Prop
  | .error (.exit _ _ _) => True
  | .error (.fatal _ _) => True
  | _ => False

def LoadAccepted (cfg : Config) (s : Machine) (addr : Word) : Prop :=
  ¬ Turned (checkAddr s addr) ∧ ¬ Turned (read32 cfg s addr)

def StoreAccepted (cfg : Config) (s : Machine) (addr value : Word) : Prop :=
  ¬ Turned (write32 cfg s addr value)

structure AcceptsRanges (cfg : Config) (s : Machine) (addr : Word) : Prop where
  load : LoadAccepted cfg s addr ↔
    s.memory.InData addr ∨ s.memory.InText addr ∨ InHost cfg addr
  store : ∀ value, StoreAccepted cfg s addr value ↔
    s.memory.InData addr ∨ InHost cfg addr ∨ s.memory.InText addr ∧ cfg.doCore = true

theorem within_iff (base len addr : Word) :
    Within base len addr ↔ (addr - base).toNat < len.toNat := by
  have small := len.isLt
  constructor
  · rintro ⟨i, below, rfl⟩
    have back : base + BitVec.ofNat 32 i - base = BitVec.ofNat 32 i := by bv_omega
    rw [back, BitVec.toNat_ofNat]
    omega
  · intro below
    refine ⟨(addr - base).toNat, below, ?_⟩
    rw [BitVec.ofNat_toNat, BitVec.setWidth_eq]
    bv_omega

theorem between_iff (base len addr : Word) :
    (base.ule addr && addr.ult (base + len)) = true ↔
      Within base len addr ∧ EndsBelowTop base len := by
  rw [within_iff]
  unfold EndsBelowTop
  simp only [BitVec.ule, BitVec.ult, Bool.and_eq_true, decide_eq_true_eq, BitVec.toNat_sub,
    BitVec.toNat_add]
  omega

theorem ishost_iff {cfg : Config} (hostSize : cfg.hostSize = 0x00010000) (addr : Word) :
    ishost cfg addr = true ↔
      InHost cfg addr ∧ cfg.hostAddr.toNat + cfg.hostSize.toNat ≤ 2 ^ 32 := by
  have size : (0x00010000 : Word).toNat = 0x10000 := rfl
  have last : ((0x00010000 : Word) - 1).toNat = 0xffff := rfl
  have top : (cfg.hostAddr + (0x00010000 - 1)).toNat = (cfg.hostAddr.toNat + 0xffff) % 2 ^ 32 := by
    rw [BitVec.toNat_add, last]
  rw [InHost, within_iff, ishost, hostSize, size, BitVec.toNat_sub, Bool.and_eq_true, BitVec.ule,
    BitVec.ule, decide_eq_true_eq, decide_eq_true_eq, top]
  omega

theorem isdata_within (memory : Memory) (addr : Word) :
    memory.isdata addr = true ↔ memory.InData addr := by
  rw [Memory.InData, within_iff, Memory.isdata, BitVec.ult, decide_eq_true_eq]

theorem istext_within (memory : Memory) (addr : Word) :
    memory.istext addr = true ↔ memory.InText addr := by
  rw [Memory.InText, within_iff, Memory.istext, BitVec.ult, decide_eq_true_eq]

section Accesses

variable {cfg : Config} {s : Machine} {addr : Word}

def DeviceRange (addr : Word) : Prop := 0xffffff00 ≤ addr.toNat ∧ addr.toNat ≤ 0xfffffffc

theorem not_turned_access {seg : Segment} {width : Nat} {α : Type} (finish : Nat → α) :
    ¬ Turned ((seg.access addr width).map finish) := by
  unfold Segment.access
  split <;> exact id

theorem not_turned_map {α β : Type} {outcome : Except Abort α} (finish : α → β)
    (accepted : ¬ Turned outcome) : ¬ Turned (outcome.map finish) := by
  cases outcome with
  | ok value => exact id
  | error abort => cases abort <;> exact accepted

theorem checkAddr_accepts : ¬ Turned (checkAddr s addr) ↔
    s.memory.InData addr ∧ EndsBelowTop s.memory.dataMem.memBase s.memory.dataMem.memLen ∨
      s.memory.InText addr ∧ EndsBelowTop s.memory.insnMem.memBase s.memory.insnMem.memLen ∨
      DeviceRange addr := by
  have data := between_iff s.memory.dataMem.memBase s.memory.dataMem.memLen addr
  have text := between_iff s.memory.insnMem.memBase s.memory.insnMem.memLen addr
  have device : ((0xffffff00 : Word).ule addr && addr.ule 0xfffffffc) = true ↔
      DeviceRange addr := by
    simp only [BitVec.ule, Bool.and_eq_true, decide_eq_true_eq]
    exact Iff.rfl
  rw [Memory.InData, Memory.InText, ← data, ← text, ← device]
  unfold checkAddr
  simp only
  generalize (s.memory.dataMem.memBase.ule addr && addr.ult
    (s.memory.dataMem.memBase + s.memory.dataMem.memLen)) = inData
  generalize (s.memory.insnMem.memBase.ule addr && addr.ult
    (s.memory.insnMem.memBase + s.memory.insnMem.memLen)) = inText
  generalize ((0xffffff00 : Word).ule addr && addr.ule 0xfffffffc) = inDevice
  cases inData <;> cases inText <;> cases inDevice <;> simp [Turned]

theorem read32_accepts : ¬ Turned (read32 cfg s addr) ↔
    s.memory.InData addr ∨ s.memory.InText addr ∨ ishost cfg addr = true := by
  rw [← isdata_within, ← istext_within]
  unfold read32 Memory.readSegment
  by_cases isData : s.memory.isdata addr = true
  · rw [if_pos isData]
    exact iff_of_true (not_turned_map _ (not_turned_access _)) (.inl isData)
  · rw [if_neg isData]
    by_cases isText : s.memory.istext addr = true
    · rw [if_pos isText]
      exact iff_of_true (not_turned_map _ (not_turned_access _)) (.inr (.inl isText))
    · rw [if_neg isText]
      simp only [isData, isText, Bool.false_eq_true, false_or]
      by_cases isHost : ishost cfg addr = true
      · rw [if_pos isHost]
        exact iff_of_true id isHost
      · rw [if_neg isHost]
        exact iff_of_false (fun accepted => accepted trivial) isHost

theorem write32_accepts (value : Word) : ¬ Turned (write32 cfg s addr value) ↔
    s.memory.InData addr ∨ cfg.doCore = true ∧ s.memory.InText addr ∨
      ishost cfg addr = true := by
  rw [← isdata_within, ← istext_within]
  unfold write32 Memory.writeWith
  by_cases isData : s.memory.isdata addr = true
  · rw [if_pos isData]
    exact iff_of_true (not_turned_map _ (not_turned_map _ (not_turned_access _))) (.inl isData)
  · rw [if_neg isData]
    by_cases isText : (cfg.doCore && s.memory.istext addr) = true
    · rw [if_pos isText]
      rw [Bool.and_eq_true] at isText
      exact iff_of_true (not_turned_map _ (not_turned_map _ (not_turned_access _)))
        (.inr (.inl isText))
    · rw [if_neg isText]
      rw [Bool.and_eq_true] at isText
      simp only [isData, isText, Bool.false_eq_true, false_or]
      by_cases isHost : ishost cfg addr = true
      · rw [if_pos isHost]
        exact iff_of_true id isHost
      · rw [if_neg isHost]
        exact iff_of_false (fun accepted => accepted trivial) isHost

def LoadChecked (cfg : Config) (memory : Memory) (addr : Word) : Prop :=
  (memory.InData addr ∧ EndsBelowTop memory.dataMem.memBase memory.dataMem.memLen ∨
      memory.InText addr ∧ EndsBelowTop memory.insnMem.memBase memory.insnMem.memLen ∨
      DeviceRange addr) ∧
    (memory.InData addr ∨ memory.InText addr ∨
      cfg.hostAddr.toNat + cfg.hostSize.toNat ≤ 2 ^ 32)

def StoreChecked (cfg : Config) (memory : Memory) (addr : Word) : Prop :=
  memory.InData addr ∨ cfg.doCore = true ∧ memory.InText addr ∨
    cfg.hostAddr.toNat + cfg.hostSize.toNat ≤ 2 ^ 32

theorem load_iff (hostSize : cfg.hostSize = 0x00010000) :
    (LoadAccepted cfg s addr ↔
      s.memory.InData addr ∨ s.memory.InText addr ∨ InHost cfg addr) ↔
        (s.memory.InData addr ∨ s.memory.InText addr ∨ InHost cfg addr →
          LoadChecked cfg s.memory addr) := by
  rw [LoadAccepted, checkAddr_accepts, read32_accepts, ishost_iff hostSize, LoadChecked]
  constructor
  · intro same inRange
    obtain ⟨checked, served⟩ := same.mpr inRange
    exact ⟨checked, served.imp id (Or.imp id And.right)⟩
  · intro checks
    constructor
    · rintro ⟨-, served⟩
      exact served.imp id (Or.imp id And.left)
    · intro inRange
      obtain ⟨checked, served⟩ := checks inRange
      refine ⟨checked, ?_⟩
      rcases inRange with inData | inText | inHost
      · exact .inl inData
      · exact .inr (.inl inText)
      · exact served.imp id (Or.imp id fun ends => ⟨inHost, ends⟩)

theorem store_iff (hostSize : cfg.hostSize = 0x00010000) (value : Word) :
    (StoreAccepted cfg s addr value ↔
      s.memory.InData addr ∨ InHost cfg addr ∨ s.memory.InText addr ∧ cfg.doCore = true) ↔
        (InHost cfg addr → StoreChecked cfg s.memory addr) := by
  rw [StoreAccepted, write32_accepts, ishost_iff hostSize, StoreChecked]
  constructor
  · intro same inHost
    exact (same.mpr (.inr (.inl inHost))).imp id (Or.imp id And.right)
  · intro checks
    constructor
    · rintro (inData | ⟨core, inText⟩ | ⟨inHost, -⟩)
      · exact .inl inData
      · exact .inr (.inr ⟨inText, core⟩)
      · exact .inr (.inl inHost)
    · rintro (inData | inHost | ⟨inText, core⟩)
      · exact .inl inData
      · exact (checks inHost).imp id (Or.imp id fun ends => ⟨inHost, ends⟩)
      · exact .inr (.inl ⟨core, inText⟩)

/-- For the host windows that `-H` can select, which have the default size. -/
theorem accepts_ranges_iff (cfg : Config) (s : Machine) (addr : Word)
    (hostSize : cfg.hostSize = 0x00010000) :
    AcceptsRanges cfg s addr ↔
      (s.memory.InData addr ∨ s.memory.InText addr ∨ InHost cfg addr →
        LoadChecked cfg s.memory addr) ∧
      (InHost cfg addr → StoreChecked cfg s.memory addr) := by
  constructor
  · intro accepts
    exact ⟨(load_iff hostSize).mp accepts.load, (store_iff hostSize 0).mp (accepts.store 0)⟩
  · rintro ⟨load, store⟩
    exact ⟨(load_iff hostSize).mpr load, fun value => (store_iff hostSize value).mpr store⟩

theorem accepts_ranges_data :
    AcceptsRanges (.standard .silent) (Simulator.boot (smallMemory 0x20000000 []) 0 0).machine
      0x20000000 := by
  refine (accepts_ranges_iff (.standard .silent) _ _ rfl).mpr ?_
  have inData : (smallMemory 0x20000000 []).InData 0x20000000 := ⟨0, by decide, by decide⟩
  have ends : EndsBelowTop (smallMemory 0x20000000 []).dataMem.memBase
      (smallMemory 0x20000000 []).dataMem.memLen := by
    unfold EndsBelowTop
    decide
  exact ⟨fun _ => ⟨.inl ⟨inData, ends⟩, .inl inData⟩, fun _ => .inl inData⟩

/-- The host window of the default options starts at 0xffff0000; stores are accepted there and
loads are not. -/
theorem loads_refuse_host : ¬ ∀ (cfg : Config) (s : Machine) (addr : Word),
    cfg.hostSize = 0x00010000 → AcceptsRanges cfg s addr := by
  intro accepts
  have inHost : InHost (.standard .silent) 0xffff0000 := ⟨0, by decide, by decide⟩
  have load := (accepts (.standard .silent)
    (Simulator.boot (smallMemory 0x20000000 []) 0 0).machine 0xffff0000 rfl).load
  have refused : Turned (checkAddr (Simulator.boot (smallMemory 0x20000000 []) 0 0).machine
      0xffff0000) := by
    have outcome : checkAddr (Simulator.boot (smallMemory 0x20000000 []) 0 0).machine 0xffff0000 =
        .error (.exit (-1) "checkAddr: Bad Address: %08x @ pc=%08x\n" 0xffff0000) := by
      decide +kernel
    rw [outcome]
    trivial
  exact (load.mpr (.inr (.inr inHost))).1 refused

end Accesses

end RiscVFast
