import RiscVFast.Bounds
import RiscVFast.Decoding
import RiscVFast.Preemption

/-! What rounds are: those that the decoder recognises, that no device serves and that stay at even
addresses are the steps of a hart. -/

namespace RiscVFast

open Rv32i hiding Word
open Fallible StoreLog Transition

/-- A round of the kind that a hart without traps makes. -/
structure Ordinary (cfg : Config) (visible : Word → Prop) (sim : Simulator) (label : StepLabel)
    (after : Simulator) : Prop where
  opcode : HartOpcode label.vliw.opcode
  recognised : ∃ vlp, decodeAlone label.code32 = .ok (true, vlp)
  legal : label.pcInc = label.pc + 2 → ∃ code : Rvc.Instr, code.Legal ∧
    (sim.machine.memory.platform cfg).half sim.machine.hart = code.encode
  noDevice : ∀ width, accessWidthOf label.vliw.opcode = some width →
    (label.vliw.servedBy cfg sim.machine).isSome
  fetches : ∀ index < 4, visible (label.pc + BitVec.ofNat 32 index)
  reads : ∀ width, loadWidthOf label.vliw.opcode = some width →
    ∀ index < width, visible (label.vliw.address sim.machine + BitVec.ofNat 32 index)
  even : after.machine.cpu.pc &&& 1 = 0

theorem expand_wide (code : Rvc.Instr) : code.expand.extractLsb' 0 2 = 3 := by
  cases code with
  | addi4spn | addi | li | addi16sp | lui | shift | andi | alu | slli | mv | add =>
      exact Rv32i.Instr.encode_wide (.computational _)
  | lw | sw | lwsp | swsp => exact Rv32i.Instr.encode_wide (.memory _)
  | jal | j | branch | jr | jalr => exact Rv32i.Instr.encode_wide (.control _)
  | ebreak => rfl

section Rounds

variable {cfg : Config} {start : Memory} {visible : Word → Prop} {sim after : Simulator}
  {label : StepLabel} {hart : Hart}

theorem Ordinary.instr (ordinary : Ordinary cfg visible sim label after) {vlp : Vliw}
    (decoded : decodeAlone label.code32 = .ok (true, vlp)) (same : vlp = label.vliw)
    (wide : label.code32.extractLsb' 0 2 = 3) :
    ∃ instr : Rv32i.Instr, instr.encode = label.code32 ∧ instrVliw instr = label.vliw := by
  have isWide : isWide label.code32 = true := (isWide_iff _).mpr wide
  obtain ⟨instr, encodes⟩ := encoded_of_decode isWide decoded (same ▸ ordinary.opcode)
  rw [← encodes, decodeAlone_encode] at decoded
  simp only [Except.ok.injEq, Prod.mk.injEq, true_and] at decoded
  exact ⟨instr, encodes, decoded.trans same⟩

theorem found_of_fetch {memory : Memory} (placed : memory.Placed) {hart : Hart}
    (here : hart.memory.stores = []) {code32 next : Word}
    (fetched : memory.insnMem.code hart.pc = .ok (code32, next)) :
    memory.insnMem.Holds hart.pc 4 ∧
      ((memory.platform cfg).word hart = code32 ∧ code32.extractLsb' 0 2 = 3 ∧ next = hart.pc + 4 ∨
        decomp16Table ((memory.platform cfg).half hart) = code32 ∧ next = hart.pc + 2) := by
  have executable : memory.insnMem.Holds hart.pc 4 := by
    have inside := Segment.code_inside fetched
    rw [placed.text.allocated] at inside
    exact inside
  have shows : memory.Shows hart.memory.stores memory :=
    ⟨.refl memory, rfl, fun _ => by rw [here]; rfl⟩
  refine ⟨executable, ?_⟩
  simp only [Segment.code, @fetch32_of_shows cfg memory hart placed memory shows executable,
    ok_bind, expandCode] at fetched
  have half := (low_word ((memory.platform cfg).byte hart)).1
  split at fetched
  · rename_i wide
    simp only [Except.ok.injEq, Prod.mk.injEq] at fetched
    obtain ⟨rfl, rfl⟩ := fetched
    exact .inl ⟨rfl, (lowBits_iff _).mp wide, rfl⟩
  · rw [half] at fetched
    split at fetched
    · cases fetched
    · simp only [Except.ok.injEq, Prod.mk.injEq] at fetched
      obtain ⟨rfl, rfl⟩ := fetched
      exact .inr ⟨rfl, rfl⟩

theorem holds_of_executed {vlp : Vliw} {s t : Machine} {width : Nat} {seg : Segment}
    (executed : execute cfg vlp s = .ok t) (allocated : s.memory.Allocated)
    (accesses : accessWidthOf vlp.opcode = some width)
    (served : vlp.servedBy cfg s = some seg) : seg.Holds (vlp.address s) width := by
  by_contra outside
  have beyond := (execute_outOfBuffer allocated accesses).mpr ⟨seg, served, outside⟩
  rw [executed] at beyond
  cases beyond

theorem readSegment_of_served {vlp : Vliw} {s : Machine} {seg : Segment}
    (served : vlp.servedBy cfg s = some seg) :
    s.memory.readSegment (vlp.address s) = some seg := by
  unfold Vliw.servedBy at served
  split at served
  · exact writeSegment_read served
  · split at served
    · exact served
    · cases served

theorem writable_of_served {vlp : Vliw} {s : Machine} {seg : Segment} {width width' : Nat}
    (stores : storeWidthOf vlp.opcode = some width') (served : vlp.servedBy cfg s = some seg)
    (holds : seg.Holds (vlp.address s) width) : s.memory.Writable cfg (vlp.address s) width := by
  simp only [Vliw.servedBy, stores, Option.isSome_some, if_true, Memory.writeSegment] at served
  split at served
  · simp only [Option.some.injEq] at served
    exact .inl (served ▸ holds)
  · split at served
    · rename_i allowed
      simp only [Option.some.injEq] at served
      rw [Bool.and_eq_true] at allowed
      exact .inr ⟨allowed.1, served ▸ holds⟩
    · cases served

theorem Ordinary.serves (ordinary : Ordinary cfg visible sim label after)
    (placed : sim.machine.memory.Placed) {pcInc mip : Word} {t : Machine}
    (executed : execute cfg label.vliw { sim.machine with
      cpu.pcInc := pcInc, cpu.pcNext := pcInc, cpu.mip := mip } = .ok t) {instr : Rv32i.Instr}
    (decodes : instrVliw instr = label.vliw) :
    ((sim.machine.memory.platform cfg).within visible).Serves sim.machine.hart instr := by
  have holds : ∀ width, accessWidthOf label.vliw.opcode = some width → ∃ seg,
      label.vliw.servedBy cfg sim.machine = some seg ∧
        seg.Holds (label.vliw.address sim.machine) width := by
    intro width accesses
    obtain ⟨seg, served⟩ := Option.isSome_iff_exists.mp (ordinary.noDevice width accesses)
    have inside := @holds_of_executed cfg label.vliw { sim.machine with
      cpu.pcInc := pcInc, cpu.pcNext := pcInc, cpu.mip := mip } t width seg executed
      placed.allocated accesses served
    exact ⟨seg, served, inside⟩
  have reads := ordinary.reads
  rw [← decodes] at holds reads
  cases instr with
  | computational instr => trivial
  | mulDiv op rd rs1 rs2 => trivial
  | control instr => trivial
  | memory instr =>
      cases instr with
      | load op rd rs1 imm =>
          have width : loadWidthOf (loadOpcode op) = some op.width := by cases op <;> rfl
          have access : accessWidthOf (loadOpcode op) = some op.width := by
            rw [accessWidthOf, width, Option.some_or]
          simp only [instrVliw, memoryVliw, Vliw.address] at holds reads
          obtain ⟨seg, served, inside⟩ := holds op.width access
          have readable : sim.machine.memory.Readable
              (sim.machine.cpu.reg rs1 + imm.signExtend 32) op.width := by
            rcases (readSegment_cases (readSegment_of_served served)).2 with rfl | rfl
            · exact .inl inside
            · exact .inr inside
          exact ⟨readable, reads op.width width⟩
      | store op rs1 rs2 imm =>
          have width : storeWidthOf (storeOpcode op) = some op.width := by cases op <;> rfl
          have access : accessWidthOf (storeOpcode op) = some op.width := by
            cases op <;> rfl
          simp only [instrVliw, memoryVliw, Vliw.address] at holds
          obtain ⟨seg, served, inside⟩ := holds op.width access
          have writable : sim.machine.memory.Writable cfg
              (sim.machine.cpu.reg rs1 + imm.signExtend 32) op.width :=
            @writable_of_served cfg ⟨storeOpcode op, 0, rs1, rs2, imm.signExtend 32⟩ sim.machine seg
              op.width op.width width served inside
          exact writable

theorem regular_of_executed {vlp : Vliw} {s t : Machine} (zero : s.cpu.reg 0 = 0)
    (executed : execute cfg vlp s = .ok t) (even : t.cpu.pcNext &&& 1 = 0) {instr : Rv32i.Instr}
    (decodes : instrVliw instr = vlp) : Regular s.hart instr := by
  cases instr with
  | computational instr => trivial
  | memory instr => trivial
  | mulDiv op rd rs1 rs2 =>
      obtain ⟨middle, dispatched, -⟩ := map_eq_ok.mp executed
      rcases dispatch_mulDiv cfg op rd rs1 rs2 0 s with ⟨divides, -⟩ | ⟨-, refused⟩
      · exact divides
      · rw [← decodes] at dispatched
        exact absurd (dispatched.symm.trans refused) (by simp)
  | control instr =>
      obtain ⟨vlp', decoded, executed'⟩ := control_executes cfg instr s zero
      have same := decoded.symm.trans (decodeAlone_control instr)
      simp only [Except.ok.injEq, Prod.mk.injEq, true_and] at same
      have vliw : vlp' = vlp := same.trans decodes
      rw [vliw, executed] at executed'
      simp only [Except.ok.injEq] at executed'
      rw [executed'] at even
      cases instr with
      | jal rd imm => exact (rfl : (0 : Word) &&& 1 = 0)
      | branch op rs1 rs2 imm => exact (rfl : (0 : Word) &&& 1 = 0)
      | jalr rd rs1 imm => exact even

theorem Segment.SameLayout.symm {seg seg' : Segment} (same : seg.SameLayout seg') :
    seg'.SameLayout seg := ⟨same.memBase.symm, same.memLen.symm, same.size.symm⟩

theorem Memory.SameLayout.symm {memory memory' : Memory} (same : memory.SameLayout memory') :
    memory'.SameLayout memory := ⟨same.text.symm, same.data.symm⟩

theorem Ordinary.step (ordinary : Ordinary cfg visible sim label after)
    (tracks : Tracks start cfg visible sim hart) (placed : start.Placed)
    (stepped : step cfg sim = .ok (label, after)) (quiet : label.interrupted = false) :
    ∃ instr next, instr.encode = label.code32 ∧
      ((start.platform cfg).within visible).Step hart instr next ∧ Regular hart instr := by
  have placed' := tracks.layout.placed placed
  obtain ⟨executed, ran, advanced⟩ := step_uninterrupted stepped quiet
  obtain ⟨cached, -, -, fetched, looked, -, -, located, -, -⟩ := step_inversion stepped
  obtain ⟨executable, kind⟩ := @found_of_fetch cfg sim.machine.memory placed' sim.machine.hart rfl
    label.code32 label.pcInc fetched
  have code : start.insnMem.code sim.machine.cpu.pc = .ok (label.code32, label.pcInc) := by
    rw [← tracks.text, ← fetched]
    rfl
  have coherent : sim.Coherent label.code32 :=
    ⟨tracks.fresh.tables, tracks.fresh.slots _ _ _ tracks.even code⟩
  obtain ⟨vlp, decoded⟩ := ordinary.recognised
  obtain ⟨cached', found⟩ := cacheLookup_coherent coherent (decodeWord_of_alone decoded)
  rw [looked] at found
  simp only [Except.ok.injEq, Prod.mk.injEq] at found
  obtain ⟨vliw, -⟩ := found
  have fetches : ∀ instr : Rv32i.Instr, instr.encode = label.code32 →
      ((sim.machine.memory.platform cfg).within visible).Fetches sim.machine.hart instr
        label.pcInc := by
    intro instr encodes
    rcases kind with ⟨word, -, next⟩ | ⟨half, next⟩
    · rw [next]
      exact .wide (word.trans encodes.symm)
    · obtain ⟨narrow, legal, encode⟩ := ordinary.legal (by rw [located]; exact next)
      rw [encode, table_encode (.inl legal)] at half
      rw [next]
      exact .narrow narrow legal encode (half.trans encodes.symm)
  have wide : label.code32.extractLsb' 0 2 = 3 := by
    rcases kind with ⟨-, wide, -⟩ | ⟨half, next⟩
    · exact wide
    · obtain ⟨narrow, legal, encode⟩ := ordinary.legal (by rw [located]; exact next)
      rw [encode, table_encode (.inl legal)] at half
      rw [← half]
      exact expand_wide narrow
  obtain ⟨instr, encodes, decodes⟩ := ordinary.instr decoded vliw.symm wide
  obtain ⟨mip, framed⟩ := quietPoll_frame sim.machine label.pcInc
  rw [framed] at ran
  have even := ordinary.even
  rw [advanced] at even
  have regular : Regular sim.machine.hart instr :=
    @regular_of_executed cfg label.vliw { sim.machine with
      cpu.pcInc := label.pcInc, cpu.pcNext := label.pcInc, cpu.mip := mip } executed tracks.zero ran
      even instr decodes
  have seen := ordinary.fetches
  rw [located] at seen
  have steps : ((sim.machine.memory.platform cfg).within visible).Step sim.machine.hart instr _ :=
    .retires ⟨executable, seen⟩ (fetches instr encodes) (ordinary.serves placed' ran decodes)
  obtain ⟨next, steps, -⟩ := tracks.alike.symm.step (covers_of_layout cfg tracks.layout.symm) steps
  exact ⟨instr, next, encodes, steps, regular_congr tracks.alike.regs.symm regular⟩

theorem Tracks.reflects (tracks : Tracks start cfg visible sim hart)
    (noCore : cfg.doCore = false) (noNewlib : cfg.doNewlib = false) (placed : start.Placed)
    (fits : start.insnMem.FitsCache) {turns : List (Option StepLabel)}
    (runs : Runs (fun sim turn after => Turns cfg visible sim turn after ∧
      ∀ label, turn = some label → Ordinary cfg visible sim label after) sim turns after) :
    ∃ instrs last,
      instrs.map Rv32i.Instr.encode = (turns.filterMap id).map StepLabel.code32 ∧
      Runs (fun hart instr next => ((start.platform cfg).within visible).Step hart instr next ∧
        Regular hart instr) hart instrs last ∧ Tracks start cfg visible after last := by
  induction runs generalizing hart with
  | nil sim => exact ⟨[], hart, rfl, .nil hart, tracks⟩
  | @cons sim middle after turn turns first rest ih =>
      obtain ⟨turned, ordinary⟩ := first
      cases turn with
      | none =>
          obtain ⟨instrs, last, same, harts, tracks⟩ :=
            ih (tracks.handled noCore noNewlib fits turned)
          exact ⟨instrs, last, same, harts, tracks⟩
      | some label =>
          cases turned with
          | own stepped quiet =>
              obtain ⟨instr, next, encodes, steps, regular⟩ :=
                (ordinary label rfl).step tracks placed stepped quiet
              obtain ⟨instrs, last, same, harts, tracks⟩ :=
                ih (tracks.own noCore placed fits stepped quiet steps regular)
              refine ⟨instr :: instrs, last, ?_, .cons ⟨steps, regular⟩ harts, tracks⟩
              rw [List.map_cons, same, encodes]
              rfl

end Rounds

/-- From any state that a program has reached on: if its own rounds are ordinary and its handlers
restore what they found, then some hart that is never interrupted fetches the same instructions and
stands where the simulator does. -/
theorem rounds_reflect (cfg : Config) (memory : Memory) (entry dataEnd : Word) (moves : List Move)
    (sim after : Simulator) (visible : Word → Prop) (turns : List (Option StepLabel))
    (noCore : cfg.doCore = false) (noNewlib : cfg.doNewlib = false) (placed : memory.Placed)
    (small : memory.insnMem.memLen.toNat ≤ 0x400000)
    (reached : Runs (Moves cfg) (Simulator.boot memory entry dataEnd) moves sim)
    (even : ∀ label ∈ rounds moves, label.pc &&& 1 = 0) (evenPc : sim.machine.cpu.pc &&& 1 = 0)
    (runs : Runs (fun sim turn after => Turns cfg visible sim turn after ∧
      ∀ label, turn = some label → Ordinary cfg visible sim label after) sim turns after) :
    ∃ instrs hart,
      instrs.map Rv32i.Instr.encode = (turns.filterMap id).map StepLabel.code32 ∧
      Runs (fun hart instr next =>
        ((sim.machine.memory.platform cfg).within visible).Step hart instr next ∧
          Regular hart instr) sim.machine.hart instrs hart ∧
      after.machine.cpu.pc = hart.pc ∧ after.machine.cpu.reg = hart.memory.regs ∧
      ∀ addr, visible addr → after.machine.memory.byteAt addr =
        latest sim.machine.memory.byteAt hart.memory.stores addr := by
  have loaded : memory.insnMem.FitsCache := ⟨placed.text.allocated, small⟩
  have placedNow := (layout_of_runs reached).placed placed
  have fits : sim.machine.memory.insnMem.FitsCache :=
    (insnMem_of_runs noCore noNewlib reached).symm ▸ loaded
  obtain ⟨instrs, hart, same, harts, tracks⟩ := (Tracks.reached noCore noNewlib loaded visible
    reached even evenPc).reflects noCore noNewlib placedNow fits runs
  exact ⟨instrs, hart, same, harts, tracks.alike.pc.symm, tracks.alike.regs.symm,
    fun addr seen => (tracks.alike.bytes addr seen).symm⟩

/-- `c.addi x5,1` and `lw x6,0(x2)`. -/
theorem rounds_reflect_narrow :
    ∃ (after : Simulator) (increment restore : StepLabel) (instrs : List Rv32i.Instr),
      Runs (Turns (Config.standard Host.silent) fun _ => True)
        (Simulator.boot (smallMemory 0x20000000 [0x23030285, 0x00010001]) 0 0)
        [some increment, some restore] after ∧
      instrs.map Rv32i.Instr.encode = [0x00128293, 0x00012303] := by
  let cfg := Config.standard Host.silent
  let memory := smallMemory 0x20000000 [0x23030285, 0x00010001]
  let booted := Simulator.boot memory 0 0
  have evaluated : (do
      let first ← step cfg booted
      let second ← step cfg first.2
      .ok (decide (first.1.interrupted = false ∧ first.1.code32 = 0x00128293 ∧
          first.1.vliw.opcode = .addi ∧ first.2.machine.cpu.pc &&& 1 = 0) &&
        decide (second.1.interrupted = false ∧ second.1.code32 = 0x00012303 ∧
          second.1.vliw.opcode = .lw ∧ second.2.machine.cpu.pc &&& 1 = 0 ∧
          second.1.pcInc ≠ second.1.pc + 2) &&
        decide (second.1.vliw.servedBy cfg first.2.machine).isSome)) = Except.ok true := by
    decide +kernel
  obtain ⟨⟨increment, middle⟩, first, evaluated⟩ := bind_eq_ok.mp evaluated
  obtain ⟨⟨restore, after⟩, second, evaluated⟩ := bind_eq_ok.mp evaluated
  simp only [Except.ok.injEq, Bool.and_eq_true, decide_eq_true_eq, and_assoc] at evaluated
  obtain ⟨quiet, code, opcode, even, quiet', code', opcode', even', wide, served⟩ := evaluated
  have counts : Ordinary cfg (fun _ => True) booted increment middle := {
    opcode := opcode ▸ HartOpcode.imm .addi
    recognised := code ▸ ⟨_, decodeAlone_encode (.computational (.opImm .addi 5 5 1))⟩
    legal := fun _ =>
      ⟨.addi 5 1, (by decide : (5 : Reg) = 0 ↔ (1 : BitVec 6) = 0), by decide +kernel⟩
    noDevice := fun width accesses => by simp [opcode, accessWidthOf, loadWidthOf, storeWidthOf]
      at accesses
    fetches := fun _ _ => trivial
    reads := fun _ _ _ _ => trivial
    even }
  have restores : Ordinary cfg (fun _ => True) middle restore after := {
    opcode := opcode' ▸ HartOpcode.load .lw
    recognised := code' ▸ ⟨_, decodeAlone_encode (.memory (.load .lw 6 2 0))⟩
    legal := fun narrow => absurd narrow wide
    noDevice := fun _ _ => served
    fetches := fun _ _ => trivial
    reads := fun _ _ _ _ => trivial
    even := even' }
  have first' : Turns cfg (fun _ => True) booted (some increment) middle := .own first quiet
  have second' : Turns cfg (fun _ => True) middle (some restore) after := .own second quiet'
  have turn : ∀ label, some increment = some label →
      Ordinary cfg (fun _ => True) booted label middle := by
    intro label same
    cases same
    exact counts
  have turn' : ∀ label, some restore = some label →
      Ordinary cfg (fun _ => True) middle label after := by
    intro label same
    cases same
    exact restores
  have even : booted.machine.cpu.pc &&& 1 = 0 := by decide +kernel
  obtain ⟨instrs, hart, encodes, -⟩ := rounds_reflect cfg memory 0 0 [] booted after (fun _ => True)
    [some increment, some restore] rfl rfl (smallMemory_placed _) (by decide) (.nil booted)
    (List.forall_mem_nil _) even (.cons ⟨first', turn⟩ (.cons ⟨second', turn'⟩ (.nil after)))
  refine ⟨after, increment, restore, instrs, .cons first' (.cons second' (.nil after)), ?_⟩
  rw [encodes, ← code, ← code']
  rfl

end RiscVFast
