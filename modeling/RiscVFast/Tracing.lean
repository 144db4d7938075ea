import RiscVFast.LoadEffects

/-! `execute` in the build with `DO_TRACE`, which looks at registers and memory once more after the
instruction. The trace file is taken as open; what is printed to it is left out. -/

namespace RiscVFast

open Fallible Transition

def traceAccess (cfg : Config) (vlp : Vliw) (t : Machine) : Except Abort Machine :=
  let addr32 := t.cpu.reg vlp.rs1 + vlp.imm
  match vlp.opcode with
  | .sw | .lw | .lh | .lhu => (read32 cfg t addr32).map Prod.snd
  | .sh => (t.memory.read16 addr32).map fun _ => t
  | .sb => (t.memory.read8 addr32).map fun _ => t
  | .lb | .lbu => do
      let (_, after) ← read32 cfg t addr32
      checkAddr after addr32
      .ok after
  | _ => .ok t

/-- `cnt` counts the instructions before this one. -/
def executeTraced (cfg : Config) (cnt : Nat) (vlp : Vliw) (s : Machine) : Except Abort Machine := do
  let t ← execute cfg vlp s
  if cnt ≥ 100000 then .error (.exit 0 "Trace ... full\n" 0) else traceAccess cfg vlp t

/-- What a trace must not change. -/
structure SameTrace (t traced : Machine) : Prop where
  cpu : traced.cpu = t.cpu
  memory : traced.memory = t.memory
  uart : uartOutput traced.events = uartOutput t.events

structure Observes (cfg : Config) (cnt : Nat) (vlp : Vliw) (s : Machine) : Prop where
  same : ∀ t, execute cfg vlp s = .ok t →
    ∃ traced, executeTraced cfg cnt vlp s = .ok traced ∧ SameTrace t traced
  aborts : ∀ abort, executeTraced cfg cnt vlp s = .error abort →
    ∃ cause, execute cfg vlp s = .error cause

/-! Where the accesses go, by the state before the instruction. -/

def Memory.loads (memory : Memory) (opcode : VliwOp) (addr : Word) : Word :=
  let outcome := match opcode with
    | .lb => memory.read8 addr
    | .lbu => memory.read8u addr
    | .lh => memory.read16 addr
    | .lhu => memory.read16u addr
    | .lw => memory.readWith "read32: Bad memory access 0x%08x\n" addr (·.read32 addr)
    | _ => .ok 0
  outcome.toOption.getD 0

/-- A load into its own base register moves the address that the trace computes. -/
def Vliw.tracedAddress (vlp : Vliw) (s : Machine) : Word :=
  if (loadWidthOf vlp.opcode).isSome ∧ vlp.rd = vlp.rs1 ∧ vlp.rd ≠ 0 then
    s.memory.loads vlp.opcode (vlp.address s) + vlp.imm
  else vlp.address s

def WordTraced (cfg : Config) (memory : Memory) (addr : Word) : Prop :=
  match memory.readSegment addr with
  | some seg => seg.offset addr + 4 ≤ seg.size
  | none => ishost cfg addr = true ∧ addr ≠ 0xfffffffc

def TraceSafe (cfg : Config) (vlp : Vliw) (s : Machine) : Prop :=
  match vlp.opcode with
  | .sw | .lw | .lh | .lhu => WordTraced cfg s.memory (vlp.tracedAddress s)
  | .lb | .lbu => WordTraced cfg s.memory (vlp.tracedAddress s) ∧
      checkAddr s (vlp.tracedAddress s) = .ok ()
  | _ => True

theorem wordTraced_iff (cfg : Config) (t : Machine) (addr : Word) :
    (∃ value traced, read32 cfg t addr = .ok (value, traced) ∧ SameTrace t traced) ↔
      WordTraced cfg t.memory addr := by
  unfold read32 WordTraced
  cases t.memory.readSegment addr with
  | some seg =>
      simp only [Segment.read32, Segment.access]
      by_cases inside : seg.offset addr + 4 ≤ seg.size
      · rw [if_pos inside]
        exact iff_of_true ⟨_, t, rfl, rfl, rfl, rfl⟩ inside
      · rw [if_neg inside]
        refine iff_of_false ?_ inside
        rintro ⟨value, traced, failed, -⟩
        cases failed
  | none =>
      by_cases isHost : ishost cfg addr = true
      · simp only [isHost, if_true, true_and]
        constructor
        · rintro ⟨value, traced, read, same⟩ isPort
          obtain ⟨-, rfl⟩ := Prod.mk.inj (Except.ok.inj read)
          have uart := same.uart
          rw [host_read_uart, if_pos isPort] at uart
          exact List.cons_ne_self _ _ uart
        · intro notPort
          refine ⟨0, _, rfl, host_read_cpu _ t, host_read_memory _ t, ?_⟩
          rw [host_read_uart, if_neg notPort]
      · simp only [isHost, Bool.false_eq_true, if_false, false_and, iff_false]
        rintro ⟨value, traced, failed, -⟩
        cases failed

theorem readSegment_layout {memory after : Memory} (same : memory.SameLayout after) (addr : Word) :
    (memory.readSegment addr = none ∧ after.readSegment addr = none) ∨
      ∃ seg seg', memory.readSegment addr = some seg ∧ after.readSegment addr = some seg' ∧
        seg.SameLayout seg' := by
  unfold Memory.readSegment
  rw [same.isdata, same.istext]
  cases memory.isdata addr with
  | true => exact .inr ⟨_, _, rfl, rfl, same.data⟩
  | false =>
      cases memory.istext addr with
      | true => exact .inr ⟨_, _, rfl, rfl, same.text⟩
      | false => exact .inl ⟨rfl, rfl⟩

theorem wordTraced_layout {cfg : Config} {memory after : Memory} (same : memory.SameLayout after)
    (addr : Word) : WordTraced cfg after addr ↔ WordTraced cfg memory addr := by
  unfold WordTraced
  rcases readSegment_layout same addr with ⟨before, now⟩ | ⟨seg, seg', before, now, layout⟩
  · rw [before, now]
  · rw [before, now]
    simp only [layout.offset, layout.size]

theorem checkAddr_layout {s t : Machine} (same : s.memory.SameLayout t.memory) (addr : Word) :
    checkAddr t addr = checkAddr s addr := by
  simp only [checkAddr, same.text.memBase, same.text.memLen, same.data.memBase, same.data.memLen]

/-! Which loads and stores get through, and where they leave the address of the trace. -/

def Reaches (cfg : Config) (served : Option Segment) (addr : Word) (width : Nat) : Prop :=
  match served with
  | some seg => seg.offset addr + width ≤ seg.size
  | none => width = 4 ∧ ishost cfg addr = true

def Vliw.Completes (cfg : Config) (vlp : Vliw) (s : Machine) : Prop :=
  (∀ width, loadWidthOf vlp.opcode = some width →
    checkAddr s (vlp.address s) = .ok () ∧
      Reaches cfg (s.memory.readSegment (vlp.address s)) (vlp.address s) width) ∧
    ∀ width, storeWidthOf vlp.opcode = some width →
      Reaches cfg (s.memory.writeSegment cfg (vlp.address s)) (vlp.address s) width

theorem access_ok {seg : Segment} {addr : Word} {width : Nat} :
    (∃ off, seg.access addr width = .ok off) ↔ seg.offset addr + width ≤ seg.size := by
  unfold Segment.access
  by_cases inside : seg.offset addr + width ≤ seg.size
  · rw [if_pos inside]
    exact iff_of_true ⟨_, rfl⟩ inside
  · rw [if_neg inside]
    refine iff_of_false ?_ inside
    rintro ⟨off, failed⟩
    cases failed

theorem readWith_ok {cfg : Config} {memory : Memory} {fmt : String} {addr : Word} {width : Nat}
    (value : Segment → Nat → Word) (narrow : width ≠ 4) :
    (∃ loaded, memory.readWith fmt addr (fun seg => (seg.access addr width).map (value seg)) =
        .ok loaded) ↔ Reaches cfg (memory.readSegment addr) addr width := by
  unfold Memory.readWith Reaches
  cases memory.readSegment addr with
  | some seg =>
      simp only [map_eq_ok, ← access_ok]
      constructor
      · rintro ⟨_, off, found, _⟩
        exact ⟨off, found⟩
      · rintro ⟨off, found⟩
        exact ⟨_, off, found, rfl⟩
  | none =>
      refine iff_of_false ?_ fun reached => narrow reached.1
      rintro ⟨loaded, failed⟩
      cases failed

theorem read32_ok {cfg : Config} {s : Machine} {addr : Word} :
    (∃ loaded, read32 cfg s addr = .ok loaded) ↔
      Reaches cfg (s.memory.readSegment addr) addr 4 := by
  unfold read32 Reaches
  cases s.memory.readSegment addr with
  | some seg =>
      simp only [Segment.read32, map_eq_ok, ← access_ok]
      constructor
      · rintro ⟨_, _, ⟨off, found, _⟩, _⟩
        exact ⟨off, found⟩
      · rintro ⟨off, found⟩
        exact ⟨_, _, ⟨off, found, rfl⟩, rfl⟩
  | none =>
      by_cases isHost : ishost cfg addr = true
      · simp only [isHost, if_true]
        exact iff_of_true ⟨_, rfl⟩ ⟨trivial, trivial⟩
      · simp only [isHost, Bool.false_eq_true, if_false, and_false, iff_false]
        rintro ⟨loaded, failed⟩
        cases failed

theorem narrow_ok {s t : Machine} {addr : Word} {rd : BitVec 5}
    {read : Word → Except Abort Word} :
    (do
      checkAddr s addr
      .ok (s.setReg rd (← read addr)) : Except Abort Machine) = .ok t ↔
      checkAddr s addr = .ok () ∧ ∃ value, read addr = .ok value ∧ t = s.setReg rd value := by
  rw [bind_eq_ok]
  simp only [bind_eq_ok, Except.ok.injEq]
  constructor
  · rintro ⟨_, checked, value, loaded, equal⟩
    exact ⟨checked, value, loaded, equal.symm⟩
  · rintro ⟨checked, value, loaded, equal⟩
    exact ⟨(), checked, value, loaded, equal.symm⟩

theorem narrow_completes {cfg : Config} {s : Machine} {addr : Word} {rd : BitVec 5} {width : Nat}
    {read : Word → Except Abort Word} (reads : (∃ value, read addr = .ok value) ↔
      Reaches cfg (s.memory.readSegment addr) addr width) :
    (∃ t, (do
      checkAddr s addr
      .ok (s.setReg rd (← read addr)) : Except Abort Machine) = .ok t) ↔
      checkAddr s addr = .ok () ∧ Reaches cfg (s.memory.readSegment addr) addr width := by
  rw [← reads]
  simp only [narrow_ok]
  constructor
  · rintro ⟨_, checked, value, loaded, _⟩
    exact ⟨checked, value, loaded⟩
  · rintro ⟨checked, value, loaded⟩
    exact ⟨_, checked, value, loaded, rfl⟩

theorem word_completes {cfg : Config} {s : Machine} {addr : Word} {rd : BitVec 5} :
    (∃ t, (do
      checkAddr s addr
      let (value, s) ← read32 cfg s addr
      .ok (s.setReg rd value) : Except Abort Machine) = .ok t) ↔
      checkAddr s addr = .ok () ∧ Reaches cfg (s.memory.readSegment addr) addr 4 := by
  rw [← read32_ok]
  constructor
  · rintro ⟨t, loaded⟩
    obtain ⟨_, checked, loaded⟩ := bind_eq_ok.mp loaded
    obtain ⟨value, read, _⟩ := bind_eq_ok.mp loaded
    exact ⟨checked, value, read⟩
  · rintro ⟨checked, value, read⟩
    rw [checked, ok_bind, read]
    exact ⟨_, rfl⟩

theorem execute_completes {cfg : Config} {vlp : Vliw} {s : Machine} :
    (∃ t, execute cfg vlp s = .ok t) ↔ ∃ t, dispatch cfg vlp s = .ok t := by
  simp only [execute, map_eq_ok]
  constructor
  · rintro ⟨_, t, dispatched, _⟩
    exact ⟨t, dispatched⟩
  · rintro ⟨t, dispatched⟩
    exact ⟨_, t, dispatched, rfl⟩

theorem load_completes {cfg : Config} {vlp : Vliw} {s : Machine} {width : Nat}
    (loads : loadWidthOf vlp.opcode = some width) : (∃ t, execute cfg vlp s = .ok t) ↔
      checkAddr s (vlp.address s) = .ok () ∧
        Reaches cfg (s.memory.readSegment (vlp.address s)) (vlp.address s) width := by
  rw [execute_completes]
  obtain ⟨opcode, rd, rs1, rs2, imm⟩ := vlp
  cases opcode with
  | lw =>
      cases loads
      exact word_completes
  | lh =>
      cases loads
      exact narrow_completes (readWith_ok _ (by decide))
  | lhu =>
      cases loads
      exact narrow_completes (readWith_ok _ (by decide))
  | lb =>
      cases loads
      exact narrow_completes (readWith_ok _ (by decide))
  | lbu =>
      cases loads
      exact narrow_completes (readWith_ok _ (by decide))
  | _ => cases loads

theorem narrow_value {s t : Machine} {addr : Word} {rd : BitVec 5}
    {read : Word → Except Abort Word} (loaded : (do
      checkAddr s addr
      .ok (s.setReg rd (← read addr)) : Except Abort Machine) = .ok t) :
    t.cpu.reg = Function.update s.cpu.reg rd ((read addr).toOption.getD 0) := by
  obtain ⟨_, value, found, rfl⟩ := narrow_ok.mp loaded
  rw [found]
  rfl

theorem word_value {cfg : Config} {s t : Machine} {addr : Word} {rd : BitVec 5}
    (loaded : (do
      checkAddr s addr
      let (value, s) ← read32 cfg s addr
      .ok (s.setReg rd value) : Except Abort Machine) = .ok t) :
    t.cpu.reg = Function.update s.cpu.reg rd (s.memory.loads .lw addr) := by
  obtain ⟨_, _, loaded⟩ := bind_eq_ok.mp loaded
  obtain ⟨⟨value, after⟩, read, loaded⟩ := bind_eq_ok.mp loaded
  obtain rfl := Except.ok.inj loaded
  unfold read32 at read
  simp only [Memory.loads, Memory.readWith]
  cases served : s.memory.readSegment addr with
  | some seg =>
      rw [served] at read
      obtain ⟨found, segment, equal⟩ := map_eq_ok.mp read
      obtain ⟨rfl, rfl⟩ := Prod.mk.inj equal
      simp only [segment]
      rfl
  | none =>
      rw [served] at read
      by_cases isHost : ishost cfg addr = true
      · simp only [isHost, if_true] at read
        obtain ⟨rfl, rfl⟩ := Prod.mk.inj (Except.ok.inj read)
        have cpu := host_read_cpu addr s
        simp only [Machine.setReg, cpu]
        rfl
      · simp only [isHost, Bool.false_eq_true, if_false] at read
        cases read

theorem load_value {cfg : Config} {vlp : Vliw} {s t : Machine} {width : Nat}
    (loads : loadWidthOf vlp.opcode = some width) (dispatched : dispatch cfg vlp s = .ok t) :
    t.cpu.reg =
      Function.update s.cpu.reg vlp.rd (s.memory.loads vlp.opcode (vlp.address s)) := by
  obtain ⟨opcode, rd, rs1, rs2, imm⟩ := vlp
  cases opcode with
  | lw => exact word_value dispatched
  | lh => exact narrow_value dispatched
  | lhu => exact narrow_value dispatched
  | lb => exact narrow_value dispatched
  | lbu => exact narrow_value dispatched
  | _ => cases loads

theorem load_address {cfg : Config} {vlp : Vliw} {s t : Machine} {width : Nat}
    (zero : s.cpu.reg 0 = 0) (loads : loadWidthOf vlp.opcode = some width)
    (executed : execute cfg vlp s = .ok t) :
    t.cpu.reg vlp.rs1 + vlp.imm = vlp.tracedAddress s := by
  obtain ⟨middle, dispatched, rfl⟩ := map_eq_ok.mp executed
  have reg := load_value loads dispatched
  simp only [Vliw.tracedAddress, loads, Option.isSome_some, true_and, Machine.setReg, reg,
    Function.update_apply, Vliw.address]
  by_cases base : vlp.rs1 = 0
  · simp only [base, if_true, zero]
    rw [if_neg]
    rintro ⟨aliased, assigned⟩
    exact assigned aliased
  · by_cases aliased : vlp.rd = vlp.rs1
    · simp only [base, if_false, aliased, if_true, ne_eq, not_false_eq_true, and_self]
    · have other : ¬ vlp.rs1 = vlp.rd := fun equal => aliased equal.symm
      simp only [base, if_false, aliased, other, false_and]

theorem stored_ok {cfg : Config} {s : Machine} {addr : Word} (bytes : List Byte)
    {elsewhere : Except Abort Machine} (others : (∃ t, elsewhere = .ok t) ↔
      bytes.length = 4 ∧ ishost cfg addr = true) :
    (∃ t, (match s.memory.writeWith cfg addr (·.write addr bytes) with
      | some written => written.map fun memory => { s with memory := memory }
      | none => elsewhere) = .ok t) ↔
      Reaches cfg (s.memory.writeSegment cfg addr) addr bytes.length := by
  rcases writeWith_eq cfg s.memory addr bytes with ⟨seg, found, put, written⟩ | ⟨missing, refused⟩
  · simp only [written, found, Reaches]
    simp only [map_eq_ok, Segment.write, ← access_ok]
    constructor
    · rintro ⟨_, _, ⟨_, ⟨off, access, _⟩, _⟩, _⟩
      exact ⟨off, access⟩
    · rintro ⟨off, access⟩
      exact ⟨_, _, ⟨_, ⟨off, access, rfl⟩, rfl⟩, rfl⟩
  · simp only [refused, missing, Reaches]
    exact others

theorem store_completes {cfg : Config} {vlp : Vliw} {s : Machine} {width : Nat}
    (stores : storeWidthOf vlp.opcode = some width) : (∃ t, execute cfg vlp s = .ok t) ↔
      Reaches cfg (s.memory.writeSegment cfg (vlp.address s)) (vlp.address s) width := by
  rw [execute_completes]
  obtain ⟨opcode, rd, rs1, rs2, imm⟩ := vlp
  have narrow {fmt : String} {addr : Word} (count : Nat) (small : count ≠ 4) :
      (∃ t : Machine, (Except.error (.fatal fmt addr) : Except Abort Machine) = .ok t) ↔
        (bytesOf count (s.cpu.reg rs2)).length = 4 ∧ ishost cfg addr = true := by
    refine iff_of_false ?_ ?_
    · rintro ⟨t, failed⟩
      cases failed
    · rintro ⟨length, _⟩
      exact small (by simpa [bytesOf] using length)
  cases opcode with
  | sw =>
      cases stores
      refine stored_ok (bytesOf 4 (s.cpu.reg rs2)) ?_
      by_cases isHost : ishost cfg (s.cpu.reg rs1 + imm) = true
      · simp only [isHost, if_true]
        exact iff_of_true ⟨_, rfl⟩ ⟨rfl, trivial⟩
      · simp only [isHost, Bool.false_eq_true, if_false, and_false, iff_false]
        rintro ⟨t, failed⟩
        cases failed
  | sh =>
      cases stores
      exact stored_ok (bytesOf 2 (s.cpu.reg rs2)) (narrow 2 (by decide))
  | sb =>
      cases stores
      exact stored_ok (bytesOf 1 (s.cpu.reg rs2)) (narrow 1 (by decide))
  | _ => cases stores

theorem store_reg {cfg : Config} {vlp : Vliw} {s t : Machine} {width : Nat}
    (zero : s.cpu.reg 0 = 0) (stores : storeWidthOf vlp.opcode = some width)
    (executed : execute cfg vlp s = .ok t) : t.cpu.reg = s.cpu.reg := by
  obtain ⟨middle, dispatched, rfl⟩ := map_eq_ok.mp executed
  have same : middle.cpu.reg = s.cpu.reg := by
    cases dispatch_effect dispatched with
    | store => rfl
    | deviceStore =>
        obtain ⟨stop, events, frame⟩ :=
          host_frame true (vlp.address s) (s.cpu.reg vlp.rs2) s
        rw [frame]
    | compute silent => simp [VliwOp.silent, stores] at silent
    | deviceLoad silent => simp [VliwOp.silent, stores] at silent
    | csr silent => simp [VliwOp.silent, stores] at silent
    | newlib _ opcode => simp [opcode, storeWidthOf] at stores
    | trap _ opcode =>
        rcases opcode with ⟨opcode, _⟩ | opcode <;> simp [opcode, storeWidthOf] at stores
    | mret opcode => simp [opcode, storeWidthOf] at stores
  simp only [Machine.setReg, same]
  rw [← zero]
  exact Function.update_eq_self 0 s.cpu.reg

theorem stored_reads {cfg : Config} {memory after : Memory} {addr : Word} {width : Nat}
    (narrow : width ≠ 4) (same : memory.SameLayout after)
    (reached : Reaches cfg (memory.writeSegment cfg addr) addr width) :
    Reaches cfg (after.readSegment addr) addr width := by
  cases served : memory.writeSegment cfg addr with
  | none =>
      rw [served] at reached
      exact absurd reached.1 narrow
  | some seg =>
      rw [served] at reached
      have reads := writeSegment_read served
      rcases readSegment_layout same addr with ⟨before, _⟩ | ⟨_, seg', before, now, layout⟩
      · rw [before] at reads
        cases reads
      · rw [before] at reads
        cases reads
        rw [now]
        have moved : seg'.offset addr + width ≤ seg'.size := by
          rw [layout.offset, layout.size]
          exact reached
        exact moved

theorem wordAccess_iff {cfg : Config} {s t : Machine} (same : s.memory.SameLayout t.memory)
    (addr : Word) : (∃ traced, (read32 cfg t addr).map Prod.snd = .ok traced ∧
      SameTrace t traced) ↔ WordTraced cfg s.memory addr := by
  rw [← wordTraced_layout same, ← wordTraced_iff]
  simp only [map_eq_ok]
  constructor
  · rintro ⟨_, ⟨⟨value, traced⟩, read, rfl⟩, same⟩
    exact ⟨value, traced, read, same⟩
  · rintro ⟨value, traced, read, same⟩
    exact ⟨traced, ⟨⟨value, traced⟩, read, rfl⟩, same⟩

theorem SameTrace.checkAddr {t traced : Machine} (same : SameTrace t traced) (addr : Word) :
    RiscVFast.checkAddr traced addr = RiscVFast.checkAddr t addr := by
  unfold RiscVFast.checkAddr
  rw [same.memory]

theorem byteAccess_iff {cfg : Config} {s t : Machine} (same : s.memory.SameLayout t.memory)
    (addr : Word) : (∃ traced, (do
      let (_, after) ← read32 cfg t addr
      checkAddr after addr
      .ok after : Except Abort Machine) = .ok traced ∧ SameTrace t traced) ↔
        WordTraced cfg s.memory addr ∧ checkAddr s addr = .ok () := by
  rw [← wordTraced_layout same, ← wordTraced_iff, ← checkAddr_layout same]
  constructor
  · rintro ⟨traced, accessed, quiet⟩
    obtain ⟨⟨value, after⟩, read, accessed⟩ := bind_eq_ok.mp accessed
    obtain ⟨_, checked, accessed⟩ := bind_eq_ok.mp accessed
    obtain rfl := Except.ok.inj accessed
    rw [quiet.checkAddr] at checked
    exact ⟨⟨value, _, read, quiet⟩, checked⟩
  · rintro ⟨⟨value, traced, read, quiet⟩, checked⟩
    rw [← quiet.checkAddr] at checked
    refine ⟨traced, ?_, quiet⟩
    rw [read, ok_bind]
    exact bind_eq_ok.mpr ⟨(), checked, rfl⟩

theorem narrowAccess {t : Machine} {addr : Word}
    {read : Memory → Word → Except Abort Word} (loads : ∃ value, read t.memory addr = .ok value) :
    ∃ traced, (read t.memory addr).map (fun _ => t) = .ok traced ∧ SameTrace t traced := by
  obtain ⟨value, loaded⟩ := loads
  rw [loaded]
  exact ⟨t, rfl, rfl, rfl, rfl⟩

theorem traceAccess_iff {cfg : Config} {vlp : Vliw} {s t : Machine} (zero : s.cpu.reg 0 = 0)
    (executed : execute cfg vlp s = .ok t) :
    (∃ traced, traceAccess cfg vlp t = .ok traced ∧ SameTrace t traced) ↔
      TraceSafe cfg vlp s := by
  have layout := (execute_puts executed).layout
  obtain ⟨opcode, rd, rs1, rs2, imm⟩ := vlp
  cases opcode with
  | sw =>
      simp only [traceAccess, store_reg zero rfl executed]
      exact wordAccess_iff layout _
  | sh =>
      have reached := stored_reads (by decide) layout ((store_completes rfl).mp ⟨t, executed⟩)
      refine iff_of_true ?_ trivial
      simp only [traceAccess, store_reg zero rfl executed]
      exact narrowAccess ((readWith_ok _ (by decide)).mpr reached)
  | sb =>
      have reached := stored_reads (by decide) layout ((store_completes rfl).mp ⟨t, executed⟩)
      refine iff_of_true ?_ trivial
      simp only [traceAccess, store_reg zero rfl executed]
      exact narrowAccess ((readWith_ok _ (by decide)).mpr reached)
  | lw =>
      simp only [traceAccess, load_address zero rfl executed]
      exact wordAccess_iff layout _
  | lh =>
      simp only [traceAccess, load_address zero rfl executed]
      exact wordAccess_iff layout _
  | lhu =>
      simp only [traceAccess, load_address zero rfl executed]
      exact wordAccess_iff layout _
  | lb =>
      simp only [traceAccess, load_address zero rfl executed]
      exact byteAccess_iff layout _
  | lbu =>
      simp only [traceAccess, load_address zero rfl executed]
      exact byteAccess_iff layout _
  | _ => exact iff_of_true ⟨t, rfl, rfl, rfl, rfl⟩ trivial

theorem completes_of_execute {cfg : Config} {vlp : Vliw} {s t : Machine}
    (executed : execute cfg vlp s = .ok t) : vlp.Completes cfg s := by
  constructor
  · intro width loads
    exact (load_completes loads).mp ⟨t, executed⟩
  · intro width stores
    exact (store_completes stores).mp ⟨t, executed⟩

theorem execute_of_unsafe {cfg : Config} {vlp : Vliw} {s : Machine}
    (completes : vlp.Completes cfg s) (harmful : ¬ TraceSafe cfg vlp s) : ∃ t, execute cfg vlp s = .ok t := by
  obtain ⟨loads, stores⟩ := completes
  obtain ⟨opcode, rd, rs1, rs2, imm⟩ := vlp
  cases opcode with
  | lw => exact (load_completes rfl).mpr (loads 4 rfl)
  | lh => exact (load_completes rfl).mpr (loads 2 rfl)
  | lhu => exact (load_completes rfl).mpr (loads 2 rfl)
  | lb => exact (load_completes rfl).mpr (loads 1 rfl)
  | lbu => exact (load_completes rfl).mpr (loads 1 rfl)
  | sw => exact (store_completes rfl).mpr (stores 4 rfl)
  | _ => exact absurd trivial harmful

theorem observes_iff {cfg : Config} {cnt : Nat} {vlp : Vliw} {s : Machine} (first : cnt < 100000)
    (zero : s.cpu.reg 0 = 0) :
    Observes cfg cnt vlp s ↔ (vlp.Completes cfg s → TraceSafe cfg vlp s) := by
  have traces : executeTraced cfg cnt vlp s = execute cfg vlp s >>= traceAccess cfg vlp := by
    simp only [executeTraced, if_neg (Nat.not_le.mpr first)]
  cases executed : execute cfg vlp s with
  | error cause =>
      refine iff_of_true ⟨?_, ?_⟩ ?_
      · intro t completed
        rw [executed] at completed
        cases completed
      · intro abort _
        exact ⟨cause, executed⟩
      · intro completes
        by_contra harmful
        obtain ⟨t, completed⟩ := execute_of_unsafe completes harmful
        rw [executed] at completed
        cases completed
  | ok t =>
      rw [executed, ok_bind] at traces
      rw [imp_iff_right (completes_of_execute executed), ← traceAccess_iff zero executed, ← traces]
      constructor
      · intro observes
        exact observes.same t executed
      · rintro ⟨traced, ran, same⟩
        refine ⟨?_, ?_⟩
        · intro other completed
          rw [executed] at completed
          obtain rfl := Except.ok.inj completed
          exact ⟨traced, ran, same⟩
        · intro abort aborted
          rw [ran] at aborted
          cases aborted

/-- In every state in which the loop of `run` executes an instruction, whatever it is. -/
theorem trace_observes_iff (cfg : Config) (memory : Memory) (entry dataEnd : Word)
    (moves : List Move) (sim : Simulator) (pcInc : Word) (cnt : Nat) (vlp : Vliw)
    (runs : Runs (Moves cfg) (Simulator.boot memory entry dataEnd) moves sim)
    (first : cnt < 100000) :
    let s := (poll (sim.machine.fallThrough pcInc)).2.2
    Observes cfg cnt vlp s ↔ (vlp.Completes cfg s → TraceSafe cfg vlp s) := by
  intro s
  obtain ⟨mstatus, mepc, mcause, mip, pcNext, polled⟩ := poll_frame (sim.machine.fallThrough pcInc)
  refine observes_iff first ?_
  rw [show s = _ from polled]
  exact zero_of_runs runs

theorem trace_observes_iff_reset :
    let sim := Simulator.boot (smallMemory 0x20000000 []) 0 0
    Observes (Config.standard Host.silent) 0 ⟨.lw, 6, 2, 0, 0⟩
      (poll (sim.machine.fallThrough 4)).2.2 := by
  intro sim
  refine (trace_observes_iff (Config.standard Host.silent) _ 0 0 [] sim 4 0 ⟨.lw, 6, 2, 0, 0⟩
    (.nil sim) (by decide)).mpr fun _ => ?_
  have isdata : (poll (sim.machine.fallThrough 4)).2.2.memory.isdata
      (Vliw.tracedAddress ⟨.lw, 6, 2, 0, 0⟩ (poll (sim.machine.fallThrough 4)).2.2) = true := by
    decide +kernel
  simp only [TraceSafe, WordTraced, readSegment_data isdata]
  decide +kernel

/-- `sw x2,-4(x0)` puts out one character, and with the trace a zero after it. -/
theorem trace_puts_character : ¬ ∀ (cfg : Config) (memory : Memory) (entry dataEnd : Word)
    (moves : List Move) (sim : Simulator) (pcInc : Word) (cnt : Nat) (vlp : Vliw),
    Runs (Moves cfg) (Simulator.boot memory entry dataEnd) moves sim → cnt < 100000 →
      Observes cfg cnt vlp (poll (sim.machine.fallThrough pcInc)).2.2 := by
  intro claimed
  let sim := Simulator.boot (smallMemory 0x20000000 []) 0 0
  let s := (poll (sim.machine.fallThrough 4)).2.2
  let vlp : Vliw := ⟨.sw, 0, 0, 2, 0xfffffffc⟩
  have printed : (do
      let t ← execute (Config.standard Host.silent) vlp s
      let traced ← executeTraced (Config.standard Host.silent) 0 vlp s
      .ok (uartOutput t.events, uartOutput traced.events)) =
        (Except.ok ([0xf0], [0, 0xf0]) : Except Abort (List Byte × List Byte)) := by
    decide +kernel
  obtain ⟨t, executed, printed⟩ := bind_eq_ok.mp printed
  obtain ⟨traced, ran, printed⟩ := bind_eq_ok.mp printed
  obtain ⟨plain, doubled⟩ := Prod.mk.inj (Except.ok.inj printed)
  have observes := claimed (Config.standard Host.silent) _ 0 0 [] sim 4 0 vlp (.nil sim) (by decide)
  obtain ⟨other, again, same⟩ := observes.same t executed
  rw [show executeTraced _ 0 vlp _ = _ from ran] at again
  obtain rfl := Except.ok.inj again
  have equal := same.uart
  rw [plain, doubled] at equal
  cases equal

end RiscVFast
