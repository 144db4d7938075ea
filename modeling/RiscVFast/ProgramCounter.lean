import RiscVFast.CsrAccess
import RiscVFast.Interrupts
import RiscVFast.VliwCache

/-! The ways to the next pc, and which of them keep it even. -/

namespace RiscVFast

open Fallible Transition

def Vliw.taken (vlp : Vliw) (s : Machine) : Bool :=
  let rs1 := s.cpu.reg vlp.rs1
  let rs2 := s.cpu.reg vlp.rs2
  match vlp.opcode with
  | .beq => rs1 == rs2
  | .bne => rs1 != rs2
  | .bge => rs2.sle rs1
  | .bgeu => rs2.ule rs1
  | .blt => rs1.slt rs2
  | .bltu => rs1.ult rs2
  | _ => false

/-- Where an instruction goes; `pc_next` holds the address behind it. -/
def Vliw.nextPc (cfg : Config) (vlp : Vliw) (s : Machine) : Word :=
  match vlp.opcode with
  | .j | .jal => s.cpu.pc + vlp.imm
  | .jr => s.cpu.reg vlp.rs1
  | .jalr => s.cpu.reg vlp.rs1 + vlp.imm
  | .beq | .bne | .bge | .bgeu | .blt | .bltu =>
      if vlp.taken s then s.cpu.pc + vlp.imm else s.cpu.pcNext
  | .ecall => if cfg.doNewlib then s.cpu.pcNext else s.cpu.mtvec
  | .ebreak => s.cpu.mtvec
  | .mret => s.cpu.mepc
  | _ => s.cpu.pcNext

section Branches

variable {cfg : Config} {s t : Machine}

theorem host_pcNext (rw : Bool) (addr value : Word) (s : Machine) :
    (host rw addr value s).cpu.pcNext = s.cpu.pcNext := by
  obtain ⟨stop, events, frame⟩ := host_frame rw addr value s
  rw [frame]

theorem branch_pcNext (taken : Bool) (target : Word) :
    (if taken then s.setPcNext target else s).cpu.pcNext =
      if taken then target else s.cpu.pcNext := by
  cases taken <;> rfl

theorem load_pcNext {addr : Word} {rd : BitVec 5} {read : Word → Except Abort Word}
    (loaded : (do
      checkAddr s addr
      .ok (s.setReg rd (← read addr)) : Except Abort Machine) = .ok t) :
    t.cpu.pcNext = s.cpu.pcNext := by
  obtain ⟨_, _, loaded⟩ := bind_eq_ok.mp loaded
  obtain ⟨value, _, loaded⟩ := bind_eq_ok.mp loaded
  simp only [Except.ok.injEq] at loaded
  rw [← loaded]
  rfl

theorem load32_pcNext {addr : Word} {rd : BitVec 5}
    (loaded : (do
      checkAddr s addr
      let (value, s) ← read32 cfg s addr
      .ok (s.setReg rd value) : Except Abort Machine) = .ok t) :
    t.cpu.pcNext = s.cpu.pcNext := by
  obtain ⟨_, _, loaded⟩ := bind_eq_ok.mp loaded
  obtain ⟨⟨value, after⟩, read, loaded⟩ := bind_eq_ok.mp loaded
  simp only [Except.ok.injEq] at loaded
  rw [← loaded]
  unfold read32 at read
  split at read
  · obtain ⟨_, _, equal⟩ := map_eq_ok.mp read
    simp only [Prod.mk.injEq] at equal
    rw [← equal.2]
    rfl
  · split at read
    · simp only [Except.ok.injEq, Prod.mk.injEq] at read
      rw [← read.2]
      exact host_pcNext false addr 0 s
    · simp at read

theorem divide_pcNext {rd : BitVec 5} {quotient : Except Abort Word}
    (divided : (do .ok (s.setReg rd (← quotient)) : Except Abort Machine) = .ok t) :
    t.cpu.pcNext = s.cpu.pcNext := by
  obtain ⟨value, _, divided⟩ := bind_eq_ok.mp divided
  simp only [Except.ok.injEq] at divided
  rw [← divided]
  rfl

theorem narrowWrite_pcNext {fmt : String} {addr : Word} {write : Segment → Except Abort Segment}
    (stored : narrowWrite cfg s fmt addr write = .ok t) : t.cpu.pcNext = s.cpu.pcNext := by
  unfold narrowWrite at stored
  split at stored
  · obtain ⟨memory, _, rfl⟩ := map_eq_ok.mp stored
    rfl
  · simp at stored

theorem write32_pcNext {addr value : Word} (stored : write32 cfg s addr value = .ok t) :
    t.cpu.pcNext = s.cpu.pcNext := by
  unfold write32 at stored
  split at stored
  · obtain ⟨memory, _, rfl⟩ := map_eq_ok.mp stored
    rfl
  · split at stored
    · simp only [Except.ok.injEq] at stored
      rw [← stored]
      exact host_pcNext true addr value s
    · simp at stored

theorem csrInsn_pcNext (cfg : Config) (type : CsrType) (csr : Word) (rd rs : BitVec 5)
    (imm32 : Word) (s : Machine) :
    (csrInsn cfg type csr rd rs imm32 s).cpu.pcNext = s.cpu.pcNext := by
  obtain ⟨reg, cycle, mstatus, mie, mtvec, mscratch, mepc, mip, calls, frame⟩ :=
    csrInsn_frame cfg type csr rd rs imm32 s
  rw [frame]

theorem dispatch_nextPc {vlp : Vliw} (dispatched : dispatch cfg vlp s = .ok t) :
    t.cpu.pcNext = vlp.nextPc cfg s := by
  simp only [dispatch] at dispatched
  split at dispatched
  -- the opcodes that abort
  all_goals try simp only [reduceCtorEq] at dispatched
  all_goals rename_i opcode
  all_goals simp only [Vliw.nextPc, Vliw.taken, opcode]
  -- the opcodes that cannot fail, and then the memory accesses and divisions
  all_goals try (simp only [Except.ok.injEq] at dispatched; subst dispatched)
  all_goals first
    | rfl
    | exact branch_pcNext _ _
    | exact csrInsn_pcNext _ _ _ _ _ _ _
    | exact load_pcNext dispatched
    | exact load32_pcNext dispatched
    | exact divide_pcNext dispatched
    | exact narrowWrite_pcNext dispatched
    | exact write32_pcNext dispatched
    | skip
  -- only `ecall` is left
  split at dispatched
  · rename_i newlib
    obtain ⟨reg, heap, running, stop, cpu⟩ := (syscall_called dispatched).cpu
    simp only [cpu, newlib, if_true]
  · rename_i noNewlib
    simp only [Except.ok.injEq] at dispatched
    rw [if_neg noNewlib, ← dispatched]
    rfl

end Branches

/-! Offsets are even: the decoders put a zero into bit 0. -/

theorem even_iff_getLsbD (word : Word) : word &&& 1 = 0 ↔ word.getLsbD 0 = false := by
  have bit : word &&& 1 = (BitVec.ofBool (word.getLsbD 0)).setWidth 32 :=
    BitVec.and_one_eq_setWidth_ofBool_getLsbD
  rw [bit]
  cases word.getLsbD 0 <;> decide

theorem even_add {a b : Word} (even : b &&& 1 = 0) : (a + b) &&& 1 = 0 ↔ a &&& 1 = 0 := by
  have bit : ∀ word : Word, word &&& 1 = 0 ↔ word.toNat % 2 = 0 := by
    intro word
    rw [← BitVec.toNat_inj, BitVec.toNat_and]
    exact (Nat.and_one_is_mod word.toNat) ▸ Iff.rfl
  rw [bit] at even
  rw [bit, bit, BitVec.toNat_add]
  omega

theorem doBoff_even (code : Word) : doBoff code &&& 1 = 0 := by
  rw [even_iff_getLsbD]
  simp only [doBoff]
  split <;> simp

theorem doJoff_even (code : Word) : doJoff code &&& 1 = 0 := by
  rw [even_iff_getLsbD]
  simp [doJoff]

theorem joffImm_even (code : Word) : joffImm code &&& 1 = 0 := by
  have even := doJoff_even code
  rw [even_iff_getLsbD] at even ⊢
  simp only [joffImm]
  split
  · simpa using even
  · exact even

theorem jalOff_even (code : Word) : jalOff code &&& 1 = 0 := by
  rw [even_iff_getLsbD]
  simp only [jalOff]
  split <;> simp

theorem mkBeq_even (code : Word) : mkBeq code &&& 1 = 0 := by
  rw [even_iff_getLsbD]
  simp only [mkBeq]
  split <;> simp

def VliwOp.relative : VliwOp → Bool
  | .j | .jal | .beq | .bne | .blt | .bge | .bltu | .bgeu => true
  | _ => false

theorem optable_relative : ∀ row ∈ optable, row.vliw.relative = true →
    row.items.tail = ["joff"] ∨ row.items.tail = ["rd", "joff"] ∨
      row.items.tail = ["rs1", "rs2", "boff"] := by
  decide +kernel

theorem Optable.decode_relative {row : Optable} {code : Word} {vlp : Vliw} (member : row ∈ optable)
    (relative : row.vliw.relative = true) (decoded : row.decode code = .ok vlp) :
    vlp.imm &&& 1 = 0 := by
  unfold Optable.decode at decoded
  rcases optable_relative row member relative with items | items | items
  · rw [items] at decoded
    simp only [decodeItems, decodeItem, String.reduceEq, or_self, if_false, if_true, ok_bind,
      Except.ok.injEq] at decoded
    rw [← decoded]
    exact joffImm_even code
  · rw [items] at decoded
    simp only [decodeItems, decodeItem, String.reduceEq, or_self, if_false, if_true, ok_bind,
      Except.ok.injEq] at decoded
    rw [← decoded]
    exact joffImm_even code
  · rw [items] at decoded
    simp only [decodeItems, decodeItem, String.reduceEq, or_self, or_true, if_false, if_true,
      ok_bind, Except.ok.injEq] at decoded
    rw [← decoded]
    exact doBoff_even code

theorem expandCompressed_relative {opcode : VliwOp} {code : Word} {vlp : Vliw}
    (expanded : expandCompressed opcode code = .ok vlp) (relative : vlp.opcode.relative = true) :
    vlp.imm &&& 1 = 0 := by
  unfold expandCompressed at expanded
  simp only at expanded
  split at expanded <;> simp only [Except.ok.injEq, reduceCtorEq] at expanded
  all_goals subst expanded
  all_goals try simp only [VliwOp.relative, Bool.false_eq_true] at relative
  all_goals simp only [jalOff_even, mkBeq_even]

theorem decodeWord_relative {code : Word} {vlp : Vliw} (decoded : decodeWord code = .ok vlp)
    (relative : vlp.opcode.relative = true) : vlp.imm &&& 1 = 0 := by
  obtain ⟨⟨found, vlp'⟩, alone, same⟩ := map_eq_ok.mp decoded
  subst same
  cases wide : isWide code with
  | true =>
      rw [decodeAlone_wide code wide, scanWide] at alone
      split at alone
      · simp only [Except.ok.injEq, Prod.mk.injEq] at alone
        rw [← alone.2] at relative
        simp [vliwNop, Vliw.ofOpcode, VliwOp.relative] at relative
      · rename_i otp lookup
        obtain ⟨fromRow, decodes, alone⟩ := map_eq_ok.mp alone
        simp only [Prod.mk.injEq] at alone
        rw [← alone.2] at relative ⊢
        rw [decodeItems_opcode decodes] at relative
        exact otp.decode_relative (List.mem_of_find?_eq_some lookup) relative decodes
  | false =>
      rw [decodeAlone_compressed code wide, scanCompressed] at alone
      split at alone
      · simp only [Except.ok.injEq, Prod.mk.injEq] at alone
        rw [← alone.2] at relative
        simp [vliwNop, Vliw.ofOpcode, VliwOp.relative] at relative
      · obtain ⟨fromRow, expanded, alone⟩ := map_eq_ok.mp alone
        simp only [Prod.mk.injEq] at alone
        rw [← alone.2] at relative ⊢
        exact expandCompressed_relative expanded relative

def Machine.interruptDue (s : Machine) : Prop :=
  s.pollPoint ∧ s.interruptsEnabled ∧ (s.externalPending ∨ s.timerPending)

instance (s : Machine) : Decidable s.interruptDue := inferInstanceAs (Decidable (_ ∧ _))

theorem step_interrupted_iff {cfg : Config} {sim after : Simulator} {label : StepLabel}
    (stepped : step cfg sim = .ok (label, after)) :
    label.interrupted = true ↔ sim.machine.interruptDue := by
  obtain ⟨_, polled, _, _, _, polling, _⟩ := step_inversion stepped
  by_cases due : sim.machine.interruptDue
  · have taken := @poll_taken (sim.machine.fallThrough label.pcInc) due.1 due.2.1 due.2.2
    rw [polling] at taken
    simp only [Prod.mk.injEq] at taken
    simp [due, StepLabel.interrupted, taken.1, taken.2.1]
  · have quiet := @poll_quiet (sim.machine.fallThrough label.pcInc) due
    rw [polling] at quiet
    simp only [Prod.mk.injEq] at quiet
    simp [due, StepLabel.interrupted, quiet.1, quiet.2.1]

theorem fetchCode_pcInc {s : Machine} {code32 pcInc : Word}
    (fetched : fetchCode s = .ok (code32, pcInc)) :
    pcInc = s.cpu.pc + 4 ∨ pcInc = s.cpu.pc + 2 := by
  unfold fetchCode at fetched
  obtain ⟨code, _, fetched⟩ := bind_eq_ok.mp fetched
  unfold expandCode at fetched
  split at fetched
  · simp only [Except.ok.injEq, Prod.mk.injEq] at fetched
    exact .inl fetched.2.symm
  · simp only at fetched
    split at fetched
    · simp at fetched
    · simp only [Except.ok.injEq, Prod.mk.injEq] at fetched
      exact .inr fetched.2.symm

theorem quietPoll_frame (s : Machine) (pcInc : Word) : ∃ mip, s.quietPoll pcInc =
    { s with cpu.pcInc := pcInc, cpu.pcNext := pcInc, cpu.mip := mip } := by
  rw [Machine.quietPoll, fakeTimer_eq]
  exact ⟨_, rfl⟩

theorem step_pc {cfg : Config} {sim after : Simulator} {label : StepLabel}
    (stepped : step cfg sim = .ok (label, after)) :
    after.machine.cpu.pc =
      if label.interrupted then sim.machine.cpu.mtvec
      else label.vliw.nextPc cfg (sim.machine.quietPoll label.pcInc) := by
  have kept : ∀ {vlp : Vliw} {s t : Machine}, execute cfg vlp s = .ok t →
      t.advance.cpu.pc = vlp.nextPc cfg s := by
    intro vlp s t executed
    obtain ⟨middle, dispatched, same⟩ := map_eq_ok.mp executed
    rw [← dispatch_nextPc dispatched, ← same]
    rfl
  cases interrupted : label.interrupted with
  | true =>
      obtain ⟨_, polled, executed, _, _, polling, ran, _, _, rfl⟩ := step_inversion stepped
      have due := (step_interrupted_iff stepped).mp interrupted
      have taken := @poll_taken (sim.machine.fallThrough label.pcInc) due.1 due.2.1 due.2.2
      rw [polling] at taken
      simp only [Prod.mk.injEq] at taken
      rw [executed_of_interrupted interrupted] at ran
      refine (kept ran).trans ?_
      rw [taken.2.2, fakeTimer_eq]
      rfl
  | false =>
      obtain ⟨executed, ran, advanced⟩ := step_uninterrupted stepped interrupted
      rw [advanced]
      exact kept ran

def Vliw.aimsEven (cfg : Config) (vlp : Vliw) (s : Machine) : Prop :=
  match vlp.opcode with
  | .jr => s.cpu.reg vlp.rs1 &&& 1 = 0
  | .jalr => (s.cpu.reg vlp.rs1 + vlp.imm) &&& 1 = 0
  | .ecall => cfg.doNewlib = true ∨ s.cpu.mtvec &&& 1 = 0
  | .ebreak => s.cpu.mtvec &&& 1 = 0
  | .mret => s.cpu.mepc &&& 1 = 0
  | _ => True

theorem nextPc_even_iff {cfg : Config} {vlp : Vliw} {s : Machine}
    (offset : vlp.opcode.relative = true → vlp.imm &&& 1 = 0) (pc : s.cpu.pc &&& 1 = 0)
    (pcNext : s.cpu.pcNext &&& 1 = 0) :
    vlp.nextPc cfg s &&& 1 = 0 ↔ vlp.aimsEven cfg s := by
  have branch : ∀ taken : Bool, vlp.imm &&& 1 = 0 →
      (if taken then s.cpu.pc + vlp.imm else s.cpu.pcNext) &&& 1 = 0 := by
    intro taken even
    cases taken with
    | true => exact (even_add even).mpr pc
    | false => exact pcNext
  unfold Vliw.nextPc Vliw.aimsEven
  split
  all_goals rename_i opcode
  all_goals try simp only [opcode, iff_true]
  all_goals try simp only [opcode, VliwOp.relative, forall_const] at offset
  all_goals first
    | exact (even_add offset).mpr pc
    | exact branch _ offset
    | exact pcNext
    | skip
  -- an `ecall`, with newlib or without
  split
  · rename_i newlib
    simpa [newlib] using pcNext
  · rename_i noNewlib
    simp [noNewlib]

def Move.aimsEven (cfg : Config) (sim : Simulator) : Move → Prop
  | .round label =>
      if sim.machine.interruptDue then sim.machine.cpu.mtvec &&& 1 = 0
      else label.vliw.aimsEven cfg sim.machine
  | _ => True

theorem Moves.functional (cfg : Config) (sim : Simulator) (move : Move) (after after' : Simulator)
    (moved : Moves cfg sim move after) (moved' : Moves cfg sim move after') : after = after' := by
  cases moved with
  | round stepped =>
      cases moved' with
      | round stepped' =>
          rw [stepped] at stepped'
          simp only [Except.ok.injEq, Prod.mk.injEq, true_and] at stepped'
          exact stepped'
  | enter => cases moved' with | enter => rfl
  | leave => cases moved' with | leave => rfl

theorem step_even_iff {cfg : Config} {memory : Memory} {entry dataEnd : Word} {moves : List Move}
    {sim after : Simulator} {label : StepLabel}
    (runs : Runs (Moves cfg) (Simulator.boot memory entry dataEnd) moves sim)
    (even : sim.machine.cpu.pc &&& 1 = 0) (stepped : step cfg sim = .ok (label, after)) :
    after.machine.cpu.pc &&& 1 = 0 ↔ (Move.round label).aimsEven cfg sim := by
  have cached := vliw_of_first_visitor (runs.snoc (.round stepped)) .completed
    (rounds_snoc moves label)
  obtain ⟨first, _, decodes⟩ := cached
  obtain ⟨_, _, _, fetched, _⟩ := step_inversion stepped
  have behind : label.pcInc &&& 1 = 0 := by
    rcases fetchCode_pcInc fetched with four | two
    · rw [four]
      exact (even_add (by decide)).mpr even
    · rw [two]
      exact (even_add (by decide)).mpr even
  rw [step_pc stepped]
  unfold Move.aimsEven
  by_cases due : sim.machine.interruptDue
  · rw [if_pos ((step_interrupted_iff stepped).mpr due)]
    simp only [due, if_true]
  · have quiet := mt (step_interrupted_iff stepped).mp due
    rw [if_neg quiet]
    simp only [due, if_false]
    obtain ⟨mip, polled⟩ := quietPoll_frame sim.machine label.pcInc
    rw [polled]
    refine Iff.trans (nextPc_even_iff (decodeWord_relative decodes) ?_ ?_) ?_
    · exact even
    · exact behind
    · exact Iff.rfl

/-- From an even entry every pc is even exactly when no register jump has an odd sum and none of
the traps and returns taken goes by an odd `mtvec` or `mepc`. -/
theorem pc_even_iff (cfg : Config) (memory : Memory) (entry dataEnd : Word) (moves : List Move)
    (after : Simulator) (runs : Runs (Moves cfg) (Simulator.boot memory entry dataEnd) moves after)
    (evenEntry : entry &&& 1 = 0) :
    (∀ early late sim, moves = early ++ late →
      Runs (Moves cfg) (Simulator.boot memory entry dataEnd) early sim →
      sim.machine.cpu.pc &&& 1 = 0) ↔
      ∀ early (move : Move) late sim, moves = early ++ move :: late →
        Runs (Moves cfg) (Simulator.boot memory entry dataEnd) early sim →
        move.aimsEven cfg sim := by
  refine runs.along_iff (Moves.functional cfg)
    (fun sim => sim.machine.cpu.pc &&& 1 = 0) (fun sim (move : Move) => move.aimsEven cfg sim)
    evenEntry ?_
  intro past sim move next reaches even moved
  cases moved with
  | round stepped => exact step_even_iff reaches even stepped
  | enter => exact iff_of_true even trivial
  | leave => exact iff_of_true even trivial

theorem pc_even_iff_jalr :
    let sim := Simulator.boot (smallMemory 0x20000000 [0x00400067]) 0 0
    ∃ label after, step (Config.standard Host.silent) sim = .ok (label, after) ∧
      label.vliw.opcode = .jalr ∧
      ∀ early late reached, [Move.round label] = early ++ late →
        Runs (Moves (Config.standard Host.silent)) sim early reached →
        reached.machine.cpu.pc &&& 1 = 0 := by
  intro sim
  have evaluated : (step (Config.standard Host.silent) sim).map (fun outcome => outcome.1.vliw) =
      .ok ⟨.jalr, 0, 0, 0, 4⟩ := by
    decide +kernel
  obtain ⟨⟨label, after⟩, stepped, vliw⟩ := map_eq_ok.mp evaluated
  refine ⟨label, after, stepped, by rw [vliw], ?_⟩
  refine (pc_even_iff (Config.standard Host.silent) (smallMemory 0x20000000 [0x00400067]) 0 0
    [.round label] after (.cons (.round stepped) (.nil after)) (by decide)).mpr ?_
  intro early move late reached parts reaches
  obtain ⟨rfl, rfl, rfl⟩ : early = [] ∧ move = .round label ∧ late = [] := by
    simpa [eq_comm, List.append_eq_singleton_iff] using parts
  cases reaches with
  | nil =>
      have idle : ¬ sim.machine.interruptDue := by decide
      simp only [sim] at idle
      simp only [Move.aimsEven, idle, if_false, Vliw.aimsEven]
      rw [vliw]
      decide

/-- `jalr ra,1(x0)` at address zero. -/
theorem pc_odd_after_jalr :
    ¬ ∀ (cfg : Config) (memory : Memory) (entry dataEnd : Word) (moves : List Move)
      (sim : Simulator), entry &&& 1 = 0 →
      Runs (Moves cfg) (Simulator.boot memory entry dataEnd) moves sim →
      sim.machine.cpu.pc &&& 1 = 0 := by
  intro claimed
  have evaluated : (step (Config.standard Host.silent)
      (Simulator.boot (smallMemory 0x20000000 [0x001000e7]) 0 0)).map
        (fun outcome => outcome.2.machine.cpu.pc) = .ok 1 := by
    decide +kernel
  obtain ⟨⟨label, after⟩, stepped, pc⟩ := map_eq_ok.mp evaluated
  have even := claimed _ _ 0 0 _ after (by decide) (.cons (.round stepped) (.nil after))
  rw [pc] at even
  exact absurd even (by decide)

end RiscVFast
