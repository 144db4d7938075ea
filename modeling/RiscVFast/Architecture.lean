import RiscVFast.Lib.RvHart
import RiscVFast.LoadStore
import RiscVFast.ControlTransfer
import RiscVFast.MulDiv
import RiscVFast.Expansions
import RiscVFast.DecompressorsAgree
import RiscVFast.FreshText

/-! Whole programs: `run` does what a hart of the architecture does with the same memory. -/

namespace RiscVFast

open Rv32i hiding Word
open Fallible StoreLog Transition

/-- The platform that the two segments make; text can be read, and written under `do_core`. -/
def Memory.platform (cfg : Config) (memory : Memory) : Platform where
  initial := memory.byteAt
  executable := fun pc => memory.insnMem.Holds pc 4
  readable := memory.Readable
  writable := memory.Writable cfg

/-- What the source asks for besides: a register jump has an even sum, and the host can divide. -/
def Regular (hart : Hart) : Rv32i.Instr → Prop
  | .control instr => instr.jumpSum hart.memory.regs &&& 1 = 0
  | .mulDiv op _ rs1 rs2 => HostDivides op (hart.memory.regs rs1) (hart.memory.regs rs2)
  | _ => True

def Machine.hart (s : Machine) : Hart := ⟨s.cpu.pc, ⟨s.cpu.reg, []⟩⟩

/-- A memory after the stores, none of which went to the text. -/
structure Memory.Shows (start : Memory) (stores : List (Store 32 Byte)) (memory : Memory) :
    Prop where
  layout : start.SameLayout memory
  text : memory.insnMem = start.insnMem
  bytes : ∀ addr, memory.byteAt addr = latest start.byteAt stores addr

section Instructions

variable {cfg : Config} {start : Memory} {hart : Hart} {s : Machine}

def Machine.retire (s : Machine) (after : Hart) (memory : Memory) : Machine :=
  { s with cpu.reg := after.memory.regs, cpu.pcNext := after.pc, memory }

instance (seg : Segment) (addr : Word) (width : Nat) : Decidable (seg.Holds addr width) :=
  inferInstanceAs (Decidable (_ ≤ _))

theorem computational_executes (instr : Computational) (zero : s.cpu.reg 0 = 0) :
    Conforms cfg instr s := by
  cases instr with
  | lui rd imm => exact lui_conforms cfg rd imm s zero
  | auipc rd imm => exact auipc_conforms cfg rd imm s zero
  | nop => exact ⟨vliwNop, decodeAlone_nop, execute_nop cfg s zero⟩
  | opImm op rd rs1 imm => exact imm_conforms cfg op rd rs1 imm s zero
  | shift op rd rs1 shamt =>
      exact conforms_of_dispatch zero (decodeAlone_shift op rd rs1 shamt)
        (dispatch_shift cfg op rd rs1 0 shamt s) rfl
  | opReg op rd rs1 rs2 =>
      exact conforms_of_dispatch zero (decodeAlone_reg op rd rs1 rs2)
        (dispatch_reg cfg op rd rs1 rs2 0 s) rfl

theorem load_executes (op : LoadOp) (rd rs1 : Reg) (imm : BitVec 12) (zero : s.cpu.reg 0 = 0)
    (placed : start.Placed) (regs : s.cpu.reg = hart.memory.regs)
    (shows : start.Shows hart.memory.stores s.memory)
    (served : start.Readable (hart.memory.regs rs1 + imm.signExtend 32) op.width) :
    execute cfg ⟨loadOpcode op, rd, rs1, 0, imm.signExtend 32⟩ s = .ok { s with
      cpu.reg := ((MemoryInstr.load op rd rs1 imm).eval start.byteAt hart.memory).regs } := by
  have readable : s.memory.Readable (s.cpu.reg rs1 + imm.signExtend 32) op.width := by
    rw [regs]
    exact served.imp shows.layout.data.holds.mpr shows.layout.text.holds.mpr
  have dispatched := dispatch_load cfg op rd rs1 0 (imm.signExtend 32) s
    (shows.layout.placed placed) readable
  rw [execute_setReg zero dispatched]
  simp only [regs, shows.bytes]
  rfl

theorem store_executes (op : StoreOp) (rs1 rs2 : Reg) (imm : BitVec 12)
    (noCore : cfg.doCore = false) (zero : s.cpu.reg 0 = 0) (placed : start.Placed)
    (regs : s.cpu.reg = hart.memory.regs)
    (shows : start.Shows hart.memory.stores s.memory)
    (served : start.Writable cfg (hart.memory.regs rs1 + imm.signExtend 32) op.width) :
    ∃ written, execute cfg ⟨storeOpcode op, 0, rs1, rs2, imm.signExtend 32⟩ s =
        .ok { s with memory := written } ∧
      start.Shows ((MemoryInstr.store op rs1 rs2 imm).eval start.byteAt hart.memory).stores
        written := by
  have writable : s.memory.Writable cfg (s.cpu.reg rs1 + imm.signExtend 32) op.width := by
    rw [regs]
    exact served.imp shows.layout.data.holds.mpr (And.imp_right shows.layout.text.holds.mpr)
  obtain ⟨written, dispatched, sameLayout, bytes⟩ := dispatch_store cfg op 0 rs1 rs2
    (imm.signExtend 32) s (shows.layout.placed placed) writable
  have cleared := clear_unchanged { s with memory := written } zero
  have executes : execute cfg ⟨storeOpcode op, 0, rs1, rs2, imm.signExtend 32⟩ s =
      .ok { s with memory := written } := by
    simp only [execute, dispatched, map_ok, cleared]
  have noCall : (storeOpcode op) ≠ .ecall := by cases op <;> decide
  have kept := (execute_puts executes).insnMem fun addr cells stores =>
    storeOf_isdata noCore (fun call => absurd call noCall) stores
  refine ⟨written, executes, shows.layout.trans sameLayout, kept.trans shows.text, ?_⟩
  intro addr
  simp only [bytes addr, shows.bytes addr, regs]
  rfl

theorem instr_executes (instr : Rv32i.Instr) (noCore : cfg.doCore = false)
    (zero : s.cpu.reg 0 = 0) (placed : start.Placed) (pc : s.cpu.pc = hart.pc)
    (regs : s.cpu.reg = hart.memory.regs) (shows : start.Shows hart.memory.stores s.memory)
    (served : (start.platform cfg).Serves hart instr) (regular : Regular hart instr) :
    let after := instr.eval start.byteAt s.cpu.pcNext hart
    ∃ vlp written, decodeAlone instr.encode = .ok (true, vlp) ∧
      execute cfg vlp s = .ok (s.retire after written) ∧
      start.Shows after.memory.stores written := by
  cases instr with
  | computational instr =>
      obtain ⟨vlp, decoded, executed⟩ := @computational_executes cfg s instr zero
      refine ⟨vlp, s.memory, decoded, ?_, shows⟩
      rw [executed, pc, regs]
      rfl
  | mulDiv op rd rs1 rs2 =>
      have host : HostDivides op (s.cpu.reg rs1) (s.cpu.reg rs2) := by
        rw [regs]
        exact regular
      rcases dispatch_mulDiv cfg op rd rs1 rs2 0 s with ⟨_, dispatched⟩ | ⟨refused, _⟩
      · refine ⟨_, s.memory, decodeAlone_mulDiv op rd rs1 rs2, ?_, shows⟩
        rw [execute_setReg zero dispatched, regs]
        rfl
      · exact absurd host refused
  | control instr =>
      obtain ⟨vlp, decoded, executed⟩ := control_executes cfg instr s zero
      refine ⟨vlp, s.memory, decoded, ?_, shows⟩
      rw [executed, pc, regs, (jumpTarget_eq_iff instr _ _ _).mpr regular]
      rfl
  | memory instr =>
      cases instr with
      | load op rd rs1 imm =>
          refine ⟨_, s.memory, decodeAlone_load op rd rs1 imm, ?_, shows⟩
          rw [load_executes op rd rs1 imm zero placed regs shows served]
          rfl
      | store op rs1 rs2 imm =>
          obtain ⟨written, executed, shows⟩ :=
            store_executes op rs1 rs2 imm noCore zero placed regs shows served
          refine ⟨_, written, decodeAlone_store op rs1 rs2 imm, ?_, shows⟩
          rw [executed]
          exact congrArg (fun reg => Except.ok { s with cpu.reg := reg, memory := written }) regs

end Instructions

section Rounds

variable {cfg : Config} {start : Memory} {hart : Hart} {sim : Simulator}

theorem low_word (bytes : Nat → Byte) :
    (word bytes 0).setWidth 16 = bytes 1 ++ bytes 0 ∧
      (word bytes 0).extractLsb' 0 2 = (bytes 1 ++ bytes 0).extractLsb' 0 2 := by
  constructor <;>
    · apply BitVec.eq_of_getLsbD_eq
      intro index inside
      simp only [word, BitVec.getLsbD_setWidth, BitVec.getLsbD_extractLsb', BitVec.getLsbD_append]
      interval_cases index <;> simp

theorem narrow_of_table {code : BitVec 16} (nonzero : decomp16Table code ≠ 0) :
    code.extractLsb' 0 2 ≠ 3 := by
  intro wide
  apply nonzero
  simp only [decomp16Table, wide]
  rfl

theorem lowBits_iff (code : Word) :
    code &&& 0x00000003 = 0x00000003 ↔ code.extractLsb' 0 2 = 3 := by
  rw [← isWide_iff, isWide, beq_iff_eq]

theorem byte_of_shows (placed : start.Placed) {memory : Memory}
    (shows : start.Shows hart.memory.stores memory) (executable : start.insnMem.Holds hart.pc 4)
    {index : Nat} (inside : index < 4) :
    (start.platform cfg).byte hart index =
      start.insnMem.data (start.insnMem.offset hart.pc + index) := by
  have holds : memory.insnMem.Holds hart.pc 4 := shows.layout.text.holds.mpr executable
  have found := fun near => @readSegment_text memory near (shows.layout.placed placed)
  have here := byteAt_of_found found holds (by decide) inside
  rw [shows.bytes, shows.text] at here
  exact here

theorem fetch32_of_shows (placed : start.Placed) {memory : Memory}
    (shows : start.Shows hart.memory.stores memory) (executable : start.insnMem.Holds hart.pc 4) :
    start.insnMem.fetch32 hart.pc = .ok (word ((start.platform cfg).byte hart) 0) := by
  have bytes := fun index inside =>
    @byte_of_shows cfg start hart placed memory shows executable index inside
  simp only [Segment.fetch32, executable.access placed.text, map_ok, word, Nat.zero_add,
    bytes 0 (by decide), bytes 1 (by decide), bytes 2 (by decide), bytes 3 (by decide),
    Nat.add_zero]

theorem code_of_fetches (placed : start.Placed) {memory : Memory} {instr : Rv32i.Instr}
    {next : Word} (shows : start.Shows hart.memory.stores memory)
    (executable : start.insnMem.Holds hart.pc 4)
    (fetched : (start.platform cfg).Fetches hart instr next) :
    start.insnMem.code hart.pc = .ok (instr.encode, next) := by
  simp only [Segment.code, @fetch32_of_shows cfg start hart placed memory shows executable, ok_bind,
    expandCode]
  cases fetched with
  | wide found =>
      have same : word ((start.platform cfg).byte hart) 0 = instr.encode := found
      rw [same, if_pos ((lowBits_iff _).mpr instr.encode_wide)]
  | narrow code legal found stands =>
      have half : (word ((start.platform cfg).byte hart) 0).setWidth 16 = code.encode :=
        (low_word _).1.trans found
      have entry : decomp16Table code.encode = instr.encode :=
        (table_encode (.inl legal)).trans stands
      have nonzero : instr.encode ≠ 0 := stands ▸ expand_ne_zero code
      have narrow : ¬ word ((start.platform cfg).byte hart) 0 &&& 0x00000003 = 0x00000003 := by
        rw [lowBits_iff, (low_word _).2]
        have low : ((start.platform cfg).byte hart 1 ++ (start.platform cfg).byte hart 0) =
          code.encode := found
        rw [low]
        exact narrow_of_table (entry ▸ nonzero)
      rw [if_neg narrow]
      simp only [half, entry, if_neg nonzero]

/-- Every filled slot of the cache holds the decode of its owner in the text. -/
structure Simulator.Fresh (text : Segment) (sim : Simulator) : Prop where
  tables : sim.tables.Sound
  slots : ∀ pc code32 next, pc &&& 1 = 0 → text.code pc = .ok (code32, next) →
    (sim.vliwInsn (vliwIndex pc)).opcode = .none ∨
      decodeWord code32 = .ok (sim.vliwInsn (vliwIndex pc))

theorem Simulator.Fresh.cached {text : Segment} (fresh : sim.Fresh text) (fits : text.FitsCache)
    {pc code32 next : Word} (even : pc &&& 1 = 0) (fetched : text.code pc = .ok (code32, next))
    {vlp : Vliw} {cached : Simulator} (looked : cacheLookup sim pc code32 = .ok (vlp, cached)) :
    cached.Fresh text := by
  unfold cacheLookup at looked
  simp only at looked
  split at looked
  · obtain ⟨decoded, called, looked⟩ := bind_eq_ok.mp looked
    simp only [Except.ok.injEq, Prod.mk.injEq] at looked
    obtain ⟨rfl, rfl⟩ := looked
    have decodes := fresh.tables.decodeWord pc code32
    rw [called, map_ok] at decodes
    refine ⟨fresh.tables.step called, ?_⟩
    intro pc' code32' next' even' fetched'
    by_cases same : vliwIndex pc' = vliwIndex pc
    · obtain rfl := vliwIndex_injective even' even (fits.inside fetched') (fits.inside fetched) same
      rw [fetched] at fetched'
      simp only [Except.ok.injEq, Prod.mk.injEq] at fetched'
      simp only [← fetched'.1, Function.update_self]
      exact .inr decodes.symm
    · simp only [Function.update_of_ne same]
      exact fresh.slots pc' code32' next' even' fetched'
  · simp only [Except.ok.injEq, Prod.mk.injEq] at looked
    exact looked.2 ▸ fresh

/-- A simulator that a hart on the starting memory cannot tell from itself by the visible bytes. -/
structure Tracks (start : Memory) (cfg : Config) (visible : Word → Prop) (sim : Simulator)
    (hart : Hart) : Prop where
  alike : Platform.Alike (start.platform cfg) (sim.machine.memory.platform cfg) visible hart
    sim.machine.hart
  even : sim.machine.cpu.pc &&& 1 = 0
  zero : sim.machine.cpu.reg 0 = 0
  layout : start.SameLayout sim.machine.memory
  text : sim.machine.memory.insnMem = start.insnMem
  fresh : sim.Fresh start.insnMem

theorem Tracks.moved {visible : Word → Prop} (tracks : Tracks start cfg visible sim hart)
    {after : Simulator} (next : Hart) (memory : after.machine.memory = sim.machine.memory)
    (stores : next.memory.stores = hart.memory.stores) (pc : after.machine.cpu.pc = next.pc)
    (regs : after.machine.cpu.reg = next.memory.regs) (even : after.machine.cpu.pc &&& 1 = 0)
    (zero : after.machine.cpu.reg 0 = 0) (fresh : after.Fresh start.insnMem) :
    Tracks start cfg visible after next where
  alike :=
    { pc := pc.symm
      regs := regs.symm
      bytes := by
        intro addr seen
        rw [stores]
        exact (tracks.alike.bytes addr seen).trans (congrArg (·.byteAt addr) memory.symm) }
  even := even
  zero := zero
  layout := memory ▸ tracks.layout
  text := memory ▸ tracks.text
  fresh := fresh

structure Retired (before after : Machine) : Prop where
  cycle : after.cpu.cycle = before.cpu.cycle + 1
  mstatus : after.cpu.mstatus = before.cpu.mstatus
  running : after.cpu.running = before.cpu.running
  stop : after.cpu.stop = before.cpu.stop
  events : after.events = before.events
  heap : after.cpu.heap = before.cpu.heap
  endOfData : after.cpu.endOfData = before.cpu.endOfData
  calls : after.calls = before.calls

def Machine.TakesInterrupt (s : Machine) : Prop :=
  s.pollPoint ∧ s.interruptsEnabled ∧ (s.externalPending ∨ s.timerPending)

theorem covers_of_layout {start memory : Memory} (cfg : Config) (same : start.SameLayout memory) :
    (memory.platform cfg).Covers (start.platform cfg) where
  executable := fun _ => same.text.holds.mpr
  readable := fun _ _ => Or.imp same.data.holds.mpr same.text.holds.mpr
  writable := fun _ _ => Or.imp same.data.holds.mpr (And.imp_right same.text.holds.mpr)

theorem regular_congr {hart hart' : Hart} {instr : Rv32i.Instr}
    (regs : hart.memory.regs = hart'.memory.regs) (regular : Regular hart instr) :
    Regular hart' instr := by
  cases instr with
  | computational instr => trivial
  | mulDiv op rd rs1 rs2 =>
      simp only [Regular, regs] at regular
      exact regular
  | control instr =>
      simp only [Regular, regs] at regular
      exact regular
  | memory instr => trivial

theorem Tracks.round {visible : Word → Prop} (tracks : Tracks start cfg visible sim hart)
    (fits : start.insnMem.FitsCache) (idle : ¬ sim.machine.TakesInterrupt) {code32 pcInc : Word}
    (fetched : start.insnMem.code sim.machine.cpu.pc = .ok (code32, pcInc)) :
    ∃ mip, ∀ vlp executed, decodeAlone code32 = .ok (true, vlp) →
      execute cfg vlp { sim.machine.fallThrough pcInc with cpu.mip := mip } = .ok executed →
        ∃ (label : StepLabel) (cached : Simulator),
          step cfg sim = .ok (label, { cached with machine := executed.advance }) ∧
            label.interrupted = false ∧ cached.Fresh start.insnMem := by
  obtain ⟨mip, framed⟩ : ∃ mip, (sim.machine.fallThrough pcInc).fakeTimer =
      { sim.machine.fallThrough pcInc with cpu.mip := mip } := ⟨_, fakeTimer_eq _⟩
  have quiet := @poll_quiet (sim.machine.fallThrough pcInc) idle
  rw [framed] at quiet
  refine ⟨mip, ?_⟩
  intro vlp executed decodes executes
  have fetches : fetchCode sim.machine = .ok (code32, pcInc) := by
    rw [fetchCode_eq, tracks.text]
    exact fetched
  have coherent : sim.Coherent code32 :=
    ⟨tracks.fresh.tables, tracks.fresh.slots _ _ _ tracks.even fetched⟩
  obtain ⟨cached, looked⟩ := cacheLookup_coherent coherent (decodeWord_of_alone decodes)
  have fresh := tracks.fresh.cached fits tracks.even fetched looked
  exact ⟨_, cached, step_of_parts fetches looked quiet executes, rfl, fresh⟩

theorem Tracks.performs {visible : Word → Prop} {next : Hart}
    (tracks : Tracks start cfg visible sim hart) (noCore : cfg.doCore = false)
    (placed : start.Placed) (fits : start.insnMem.FitsCache)
    (idle : ¬ sim.machine.TakesInterrupt) {instr : Rv32i.Instr}
    (steps : ((start.platform cfg).within visible).Step hart instr next)
    (regular : Regular hart instr) :
    ∃ label after, step cfg sim = .ok (label, after) ∧ label.interrupted = false ∧
      Tracks start cfg visible after next ∧ Retired sim.machine after.machine := by
  obtain ⟨_, steps', alike⟩ := tracks.alike.step (covers_of_layout cfg tracks.layout) steps
  obtain ⟨executable, fetched, served⟩ := steps'.whole
  rename_i pcInc
  have placed' := tracks.layout.placed placed
  -- the hart that starts here on the memory as it is now
  have shows : sim.machine.memory.Shows sim.machine.hart.memory.stores sim.machine.memory :=
    ⟨.refl _, rfl, fun _ => rfl⟩
  have code : start.insnMem.code sim.machine.cpu.pc = .ok (instr.encode, pcInc) :=
    tracks.text ▸ code_of_fetches placed' shows executable fetched
  obtain ⟨mip, round⟩ := tracks.round fits idle code
  obtain ⟨vlp, written, decodes, executes, shows'⟩ := @instr_executes cfg sim.machine.memory
    sim.machine.hart { sim.machine.fallThrough pcInc with cpu.mip := mip } instr noCore
    tracks.zero placed' rfl rfl shows served (regular_congr tracks.alike.regs regular)
  obtain ⟨label, cached, stepped, quiet, fresh⟩ := round _ _ decodes executes
  refine ⟨label, _, stepped, quiet, ?_, ⟨rfl, rfl, rfl, rfl, rfl, rfl, rfl, rfl⟩⟩
  exact {
    alike :=
      { pc := alike.pc
        regs := alike.regs
        bytes := fun addr seen => (alike.bytes addr seen).trans (shows'.bytes addr).symm }
    even := instr.eval_even _ tracks.even (fetched.even tracks.even)
    zero := (instr.eval_zero _ pcInc sim.machine.hart).trans tracks.zero
    layout := tracks.layout.trans shows'.layout
    text := shows'.text.trans tracks.text
    fresh := ⟨fresh.tables, fresh.slots⟩ }

structure Between (start : Memory) (cfg : Config) (count : Nat) (hart : Hart) (sim : Simulator) :
    Prop where
  tracks : Tracks start cfg (fun _ => True) sim hart
  cycle : sim.machine.cpu.cycle = BitVec.ofNat 64 count
  running : sim.machine.cpu.running = true
  goesOn : sim.machine.cpu.stop = false

theorem Between.step {count : Nat} (between : Between start cfg count hart sim)
    (noCore : cfg.doCore = false) (placed : start.Placed) (fits : start.insnMem.FitsCache)
    (idle : ¬ sim.machine.TakesInterrupt) {instr : Rv32i.Instr} {next : Hart}
    (steps : (start.platform cfg).Step hart instr next) (regular : Regular hart instr) :
    ∃ label after, step cfg sim = .ok (label, after) ∧
      Between start cfg (count + 1) next after ∧ Retired sim.machine after.machine := by
  obtain ⟨label, after, stepped, -, tracks, retired⟩ := between.tracks.performs noCore placed fits
    idle steps.within_all regular
  refine ⟨label, after, stepped, ⟨tracks, ?_, retired.running.trans between.running,
    retired.stop.trans between.goesOn⟩, retired⟩
  rw [retired.cycle, between.cycle]
  exact (BitVec.ofNat_add count 1).symm

variable (cfg) in
theorem runLoop_performs {State Label : Type} {Performs : State → Label → State → Prop}
    (At : List Label → State → Simulator → Prop) {limit : Nat}
    (goesOn : ∀ {past state sim}, At past state sim →
      sim.machine.cpu.running = true ∧ sim.machine.cpu.stop = false)
    (performs : ∀ {past state sim label next}, past.length < limit → At past state sim →
      Performs state label next → ∃ round after, step cfg sim = .ok (round, after) ∧
        At (past ++ [label]) next after)
    {labels : List Label} {state last : State} (runs : Runs Performs state labels last)
    (past : List Label) (within : past.length + labels.length ≤ limit) (here : At past state sim)
    (more : Nat) :
    ∃ after, runLoop cfg (labels.length + more) sim = runLoop cfg more after ∧
      At (past ++ labels) last after := by
  induction runs generalizing past sim with
  | nil state =>
      refine ⟨sim, by rw [List.length_nil, Nat.zero_add], ?_⟩
      rw [List.append_nil]
      exact here
  | @cons state middle last label labels first rest ih =>
      rw [List.length_cons] at within ⊢
      obtain ⟨round, next, stepped, there⟩ := performs (by omega) here first
      have nextWithin : (past ++ [label]).length + labels.length ≤ limit := by
        rw [List.length_append, List.length_singleton]
        omega
      obtain ⟨after, looped, last⟩ := ih (past ++ [label]) nextWithin there
      refine ⟨after, ?_, ?_⟩
      · rw [Nat.succ_add_eq_add_succ, Nat.add_succ, runLoop, if_pos (goesOn here).1, stepped,
          ok_bind]
        simp only [(goesOn there).2, Bool.false_eq_true, if_false]
        exact looped
      · rw [List.append_assoc, List.singleton_append] at last
        exact last

structure Mirrors (start : Memory) (cfg : Config) (events : List HostEvent) (count : Nat)
    (hart : Hart) (sim : Simulator) : Prop where
  between : Between start cfg count hart sim
  masked : sim.machine.cpu.mstatus = 0
  events : sim.machine.events = events

theorem Mirrors.idle {events : List HostEvent} {count : Nat}
    (mirrors : Mirrors start cfg events count hart sim) : ¬ sim.machine.TakesInterrupt := by
  rintro ⟨-, enabled, -⟩
  apply enabled
  rw [mirrors.masked]
  exact BitVec.zero_and

theorem Mirrors.step {events : List HostEvent} {count : Nat}
    (mirrors : Mirrors start cfg events count hart sim) (noCore : cfg.doCore = false)
    (placed : start.Placed) (fits : start.insnMem.FitsCache) {instr : Rv32i.Instr} {next : Hart}
    (steps : (start.platform cfg).Step hart instr next) (regular : Regular hart instr) :
    ∃ label after, step cfg sim = .ok (label, after) ∧
      Mirrors start cfg events (count + 1) next after ∧ Retired sim.machine after.machine := by
  obtain ⟨label, after, stepped, between, retired⟩ :=
    mirrors.between.step noCore placed fits mirrors.idle steps regular
  exact ⟨label, after, stepped, ⟨between, retired.mstatus.trans mirrors.masked,
    retired.events.trans mirrors.events⟩, retired⟩

end Rounds

def Memory.startHart (memory : Memory) (entry : Word) : Hart where
  pc := entry
  memory :=
    { regs := Function.update (fun _ => 0) 2
        ((memory.dataMem.memBase + memory.dataMem.memLen - 16) &&& 0xfffffffc)
      stores := [] }

theorem Mirrors.boot (cfg : Config) (memory : Memory) {entry : Word} (dataEnd : Word)
    (even : entry &&& 1 = 0) :
    let booted := Simulator.boot memory entry dataEnd
    Mirrors memory cfg [] 0 (memory.startHart entry)
      { booted with machine := booted.machine.enterRun } where
  between := {
    tracks := {
      alike := ⟨rfl, rfl, fun _ _ => rfl⟩
      even := even
      zero := rfl
      layout := .refl memory
      text := rfl
      fresh := ⟨DecodeTables.empty_sound, fun _ _ _ _ _ => .inl rfl⟩ }
    cycle := rfl
    running := rfl
    goesOn := rfl }
  masked := rfl
  events := rfl

end RiscVFast
