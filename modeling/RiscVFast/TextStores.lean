import RiscVFast.LoadStore
import RiscVFast.VliwCache

/-! Stores into instruction memory: what the text holds, what is read back and what is
executed. -/

namespace RiscVFast

open Fallible StoreLog Transition FirstVisit

def storesOf (labels : List StepLabel) : List (Store 32 Byte) :=
  (labels.filterMap StepLabel.store).reverse

def textByte (memory : Memory) (labels : List StepLabel) : Word → Byte :=
  latest (fun addr => memory.insnMem.data (memory.insnMem.offset addr)) (storesOf labels)

/-- What a read of the data segment finds: the stores that begin there go there as a whole. -/
def dataByte (memory : Memory) (labels : List StepLabel) : Word → Byte :=
  latest (fun addr => memory.dataMem.data (memory.dataMem.offset addr))
    ((storesOf labels).filter fun store => memory.isdata store.addr)

/-- What a fetch finds: the stores that begin in the data segment pass the text by. -/
def fetchByte (memory : Memory) (labels : List StepLabel) : Word → Byte :=
  latest (fun addr => memory.insnMem.data (memory.insnMem.offset addr))
    ((storesOf labels).filter fun store => !memory.isdata store.addr)

def wordAt (bytes : Word → Byte) (addr : Word) : Word :=
  bytes (addr + 3) ++ bytes (addr + 2) ++ bytes (addr + 1) ++ bytes addr

/-- No stored byte has an address that belongs to both segments. -/
def StoresApart (memory : Memory) (labels : List StepLabel) : Prop :=
  ∀ store ∈ storesOf labels, ∀ addr, store.covers addr →
    ¬ (memory.isdata addr = true ∧ memory.istext addr = true)

theorem storesOf_snoc (labels : List StepLabel) (label : StepLabel) :
    storesOf (labels ++ [label]) = label.store.toList ++ storesOf labels := by
  cases stored : label.store <;> simp [storesOf, stored]

theorem StoresApart.before {memory : Memory} {labels rest : List StepLabel}
    (apart : StoresApart memory (labels ++ rest)) : StoresApart memory labels := by
  intro store member
  refine apart store ?_
  simp only [storesOf, List.mem_reverse, List.mem_filterMap, List.mem_append] at member ⊢
  obtain ⟨label, found, stores⟩ := member
  exact ⟨label, .inl found, stores⟩

section Puts

variable {memory after : Memory} {store : Option (Store 32 Byte)} (puts : Puts memory store after)
  (allocated : memory.Allocated)
include puts allocated

theorem Puts.textBytes (addr : Word) :
    after.insnMem.data (memory.insnMem.offset addr) =
      latest (fun addr => memory.insnMem.data (memory.insnMem.offset addr))
        (store.toList.filter fun stored => !memory.isdata stored.addr) addr := by
  cases puts with
  | nothing => rfl
  | noBytes first => cases isdata : memory.isdata first <;> simp [isdata, latest]
  | data first cells isdata inside => simp [isdata, latest]
  | text first cells notData istext inside =>
      have holds : memory.insnMem.Holds first cells.length := by
        rw [allocated.text] at inside
        exact inside
      simp [notData, latest, splice_offset holds]

theorem Puts.dataBytes (addr : Word) :
    after.dataMem.data (memory.dataMem.offset addr) =
      latest (fun addr => memory.dataMem.data (memory.dataMem.offset addr))
        (store.toList.filter fun stored => memory.isdata stored.addr) addr := by
  cases puts with
  | nothing => rfl
  | noBytes first => cases isdata : memory.isdata first <;> simp [isdata, latest]
  | data first cells isdata inside =>
      have holds : memory.dataMem.Holds first cells.length := by
        rw [allocated.data] at inside
        exact inside
      simp [isdata, latest, splice_offset holds]
  | text first cells notData istext inside => simp [notData, latest]

theorem Puts.inData {stored : Store 32 Byte} (member : stored ∈ store.toList)
    (begins : memory.isdata stored.addr = true) {addr : Word} (covered : stored.covers addr) :
    memory.isdata addr = true := by
  cases puts with
  | nothing => simp at member
  | noBytes first =>
      simp only [Option.toList_some, List.mem_singleton] at member
      subst member
      simp [Store.covers] at covered
  | data first cells isdata inside =>
      simp only [Option.toList_some, List.mem_singleton] at member
      subst member
      have holds : memory.dataMem.Holds first cells.length := by
        rw [allocated.data] at inside
        exact inside
      exact holds.near covered
  | text first cells notData istext inside =>
      simp only [Option.toList_some, List.mem_singleton] at member
      subst member
      rw [notData] at begins
      simp at begins

end Puts

/-- Both buffers are what they were loaded with, as changed by the stores that go to them. -/
structure BufferHistory (memory : Memory) (labels : List StepLabel) (current : Memory) : Prop where
  layout : memory.SameLayout current
  data : ∀ addr, current.dataMem.data (current.dataMem.offset addr) = dataByte memory labels addr
  text : ∀ addr, current.insnMem.data (current.insnMem.offset addr) = fetchByte memory labels addr
  inData : ∀ store ∈ storesOf labels, memory.isdata store.addr = true → ∀ addr, store.covers addr →
    memory.isdata addr = true

theorem BufferHistory.step {cfg : Config} {memory : Memory} {labels : List StepLabel}
    {label : StepLabel} {sim after : Simulator} (allocated : memory.Allocated)
    (history : BufferHistory memory labels sim.machine.memory)
    (stepped : step cfg sim = .ok (label, after)) :
    BufferHistory memory (labels ++ [label]) after.machine.memory := by
  have puts := step_puts stepped
  have layout := history.layout
  have current := allocated.of_layout layout
  have isdata : sim.machine.memory.isdata = memory.isdata := funext layout.isdata
  refine ⟨layout.trans puts.layout, ?_, ?_, ?_⟩
  · intro addr
    have written := puts.dataBytes current addr
    rw [funext history.data, isdata, dataByte, latest_append, ← List.filter_append,
      ← storesOf_snoc] at written
    rw [puts.layout.data.offset]
    exact written
  · intro addr
    have written := puts.textBytes current addr
    rw [funext history.text, isdata, fetchByte, latest_append, ← List.filter_append,
      ← storesOf_snoc] at written
    rw [puts.layout.text.offset]
    exact written
  · intro store member begins addr covered
    rw [storesOf_snoc, List.mem_append] at member
    rcases member with now | before
    · rw [← isdata] at begins ⊢
      exact puts.inData current now begins covered
    · exact history.inData store before begins addr covered

theorem BufferHistory.of_runs {cfg : Config} {memory : Memory} {entry dataEnd : Word}
    {moves : List Move} {sim : Simulator} (allocated : memory.Allocated)
    (runs : Runs (Moves cfg) (Simulator.boot memory entry dataEnd) moves sim) :
    BufferHistory memory (rounds moves) sim.machine.memory := by
  refine runs.history (fun past state => BufferHistory memory (rounds past) state.machine.memory)
    ?_ ?_
  · refine ⟨.refl memory, fun _ => rfl, fun _ => rfl, ?_⟩
    intro store member
    simp [storesOf, rounds] at member
  · intro past state move next _ holds moved
    cases moved with
    | round stepped =>
        rw [rounds_snoc]
        exact holds.step allocated stepped
    | enter =>
        rw [rounds_silent past rfl]
        exact holds
    | leave =>
        rw [rounds_silent past rfl]
        exact holds

theorem BufferHistory.textByte {memory current : Memory} {labels : List StepLabel}
    (history : BufferHistory memory labels current) (apart : StoresApart memory labels)
    {addr : Word} (textual : memory.istext addr = true) :
    fetchByte memory labels addr = RiscVFast.textByte memory labels addr := by
  refine latest_filter ?_
  intro store member elsewhere covered
  rw [Bool.not_eq_false'] at elsewhere
  have isdata := history.inData store member elsewhere addr covered
  exact apart store member addr covered ⟨isdata, textual⟩

theorem BufferHistory.fetch32 {memory current : Memory} {labels : List StepLabel} {pc raw : Word}
    {bytes : Word → Byte} (history : BufferHistory memory labels current)
    (allocated : memory.Allocated)
    (same : ∀ addr, memory.istext addr = true → fetchByte memory labels addr = bytes addr)
    (fetched : current.insnMem.fetch32 pc = .ok raw) : raw = wordAt bytes pc := by
  obtain ⟨off, accessed, rfl⟩ := map_eq_ok.mp fetched
  unfold Segment.access at accessed
  split at accessed
  · rename_i inside
    simp only [Except.ok.injEq] at accessed
    subst accessed
    have offset := history.layout.text.offset
    have holds : memory.insnMem.Holds pc 4 := by
      rw [history.layout.text.size, allocated.text, offset] at inside
      exact inside
    have byte : ∀ index < 4, bytes (pc + BitVec.ofNat 32 index) =
        current.insnMem.data (current.insnMem.offset pc + index) := by
      intro index bound
      have distance := near_ofNat pc (Nat.le_refl 4) bound
      have close : (pc + BitVec.ofNat 32 index - pc).toNat < 4 := by omega
      rw [← same _ (holds.near close), ← history.text, offset, holds.offset_of_near close, distance,
        offset]
    have lowest := byte 0 (by decide)
    rw [show BitVec.ofNat 32 0 = 0#32 from rfl, BitVec.add_zero, Nat.add_zero] at lowest
    have second : bytes (pc + 1) = _ := byte 1 (by decide)
    have third : bytes (pc + 2) = _ := byte 2 (by decide)
    have highest : bytes (pc + 3) = _ := byte 3 (by decide)
    rw [word, wordAt, lowest, second, third, highest]
  · simp at accessed

/-- The instruction that a round fetches holds a byte that was stored before. -/
def Overwritten (before : List StepLabel) (label : StepLabel) : Prop :=
  ∃ store ∈ storesOf before, ∃ addr, store.covers addr ∧
    (addr - label.pc).toNat < (label.pcInc - label.pc).toNat

def ExecutesStores (memory : Memory) (labels : List StepLabel) : Prop :=
  ∀ before label rest, labels = before ++ label :: rest → label.interrupted = false →
    Overwritten before label →
    ∃ code32, expandCode label.pc (wordAt (textByte memory before) label.pc) =
      .ok (code32, label.pcInc) ∧ decodeWord code32 = .ok label.vliw

def ReadsStores (memory current : Memory) (labels : List StepLabel) : Prop :=
  ∀ store ∈ storesOf labels, ∀ addr, store.covers addr → memory.istext addr = true →
    current.byteAt addr = textByte memory labels addr ∧
      current.insnMem.data (current.insnMem.offset addr) = textByte memory labels addr

/-- The word that filled the slot of an instruction with stored bytes decodes alike. -/
def OverwrittenSlotsAgree (labels : List StepLabel) : Prop :=
  ∀ before label rest first, labels = before ++ label :: rest → label.interrupted = false →
    Overwritten before label → visitor slotOf before (slotOf label) = some first →
    decodeWord label.code32 = decodeWord first.code32

/-- A byte of the data segment is read from its buffer and an instruction is fetched from that of
the text, in the addresses of both segments too. -/
def SplitStores (memory current : Memory) (labels : List StepLabel) : Prop :=
  (∀ addr, memory.isdata addr = true → current.byteAt addr = dataByte memory labels addr) ∧
    ∀ addr, current.insnMem.data (current.insnMem.offset addr) = fetchByte memory labels addr

def FetchesText (memory : Memory) (labels : List StepLabel) : Prop :=
  ∀ before label rest, labels = before ++ label :: rest →
    expandCode label.pc (wordAt (fetchByte memory before) label.pc) =
      .ok (label.code32, label.pcInc)

theorem BufferHistory.split {memory current : Memory} {labels : List StepLabel}
    (history : BufferHistory memory labels current) : SplitStores memory current labels := by
  refine ⟨fun addr isdata => ?_, history.text⟩
  rw [← history.layout.isdata] at isdata
  rw [byteAt_data isdata]
  exact history.data addr

theorem BufferHistory.reads {memory current : Memory} {labels : List StepLabel}
    (history : BufferHistory memory labels current) (apart : StoresApart memory labels) :
    ReadsStores memory current labels := by
  intro store member addr covered textual
  have notData : current.isdata addr = false := by
    rw [history.layout.isdata]
    simpa [textual] using apart store member addr covered
  have istext : current.istext addr = true := by
    rw [history.layout.istext]
    exact textual
  have fetched := (history.text addr).trans (history.textByte apart textual)
  rw [byteAt_text notData istext]
  exact ⟨fetched, fetched⟩

section Fetched

variable {cfg : Config} {memory : Memory} {entry dataEnd : Word} {moves : List Move}
  {after : Simulator} (allocated : memory.Allocated)
  (runs : Runs (Moves cfg) (Simulator.boot memory entry dataEnd) moves after)
  {labels before rest : List StepLabel} {label : StepLabel} (taken : Taken moves after labels)
  (parts : labels = before ++ label :: rest)
include allocated runs taken parts

theorem code32_of_bytes {bytes : Word → Byte}
    (same : ∀ current, BufferHistory memory before current → ∀ addr, memory.istext addr = true →
      fetchByte memory before addr = bytes addr) :
    expandCode label.pc (wordAt bytes label.pc) = .ok (label.code32, label.pcInc) := by
  obtain ⟨early, sim, earlyRuns, rfl, begins, _⟩ := taken.reached runs parts
  obtain ⟨raw, read, expanded⟩ := bind_eq_ok.mp begins.fetched
  have history := BufferHistory.of_runs allocated earlyRuns
  rw [history.fetch32 allocated (same _ history) read, ← begins.located] at expanded
  exact expanded

theorem code32_of_stores (apart : StoresApart memory (rounds moves)) :
    expandCode label.pc (wordAt (textByte memory before) label.pc) =
      .ok (label.code32, label.pcInc) := by
  obtain ⟨_, _, _, _, _, later, whole⟩ := taken.reached runs parts
  rw [← whole] at apart
  exact code32_of_bytes allocated runs taken parts
    fun _ history _ textual => history.textByte apart.before textual

end Fetched

/-- Where no stored byte lies in both segments, every store into the text is visible to later
reads, fetches and executions exactly when the cached words decode like the present ones. Elsewhere
reads see the stores that begin in the data segment, and fetches the others. -/
theorem textStores_visible_iff (cfg : Config) (memory : Memory) (entry dataEnd : Word)
    (moves : List Move) (after : Simulator) (allocated : memory.Allocated)
    (runs : Runs (Moves cfg) (Simulator.boot memory entry dataEnd) moves after) :
    (StoresApart memory (rounds moves) → ∀ labels, Taken moves after labels →
        ((ExecutesStores memory labels ∧
            ReadsStores memory after.machine.memory (rounds moves)) ↔
          OverwrittenSlotsAgree labels)) ∧
      SplitStores memory after.machine.memory (rounds moves) ∧
      ∀ labels, Taken moves after labels → FetchesText memory labels := by
  have history := BufferHistory.of_runs allocated runs
  refine ⟨fun apart labels taken => ⟨?_, ?_⟩, history.split, ?_⟩
  · rintro ⟨executes, _⟩ before label rest first parts uninterrupted overwritten found
    obtain ⟨code32, expanded, decodes⟩ := executes before label rest parts uninterrupted overwritten
    have fetched := code32_of_stores allocated runs taken parts apart
    rw [expanded] at fetched
    simp only [Except.ok.injEq, Prod.mk.injEq, and_true] at fetched
    have decoded : decodeWord label.code32 = .ok label.vliw := by
      rw [← fetched]
      exact decodes
    exact (decodes_iff_visitor runs taken parts).mp decoded first found
  · intro agree
    refine ⟨?_, history.reads apart⟩
    intro before label rest parts uninterrupted overwritten
    refine ⟨label.code32, code32_of_stores allocated runs taken parts apart, ?_⟩
    refine (decodes_iff_visitor runs taken parts).mpr ?_
    intro first found
    exact agree before label rest first parts uninterrupted overwritten found
  · intro labels taken before label rest parts
    exact code32_of_bytes allocated runs taken parts fun _ _ _ _ => rfl

theorem storesApart_of_placed {memory : Memory} (placed : memory.Placed)
    (labels : List StepLabel) : StoresApart memory labels := by
  intro store _ addr _
  exact placed.disjoint addr

def Config.core : Config := { Config.standard Host.silent with doCore := true }

/-- `addi x5,x0,0x13` and `sw x5,8(x0)`: the `ebreak` at 8 has become a `nop` when it is reached. -/
theorem textStores_visible_iff_ahead :
    ∃ (labels : List StepLabel) (after : Simulator),
      let memory := smallMemory 0x20000000 [0x01300293, 0x00502423, 0x00100073]
      labels.map (fun label => (label.pc, label.vliw.opcode)) = [(0, .addi), (4, .sw), (8, .nop)] ∧
      ((ExecutesStores memory labels ∧ ReadsStores memory after.machine.memory labels) ↔
        OverwrittenSlotsAgree labels) := by
  have evaluated : (steps Config.core 3 (Simulator.boot
      (smallMemory 0x20000000 [0x01300293, 0x00502423, 0x00100073]) 0 0)).map
        (fun outcome => outcome.1.map fun label => (label.pc, label.vliw.opcode)) =
      .ok [(0, .addi), (4, .sw), (8, .nop)] := by
    decide +kernel
  obtain ⟨⟨labels, after⟩, completed, visited⟩ := map_eq_ok.mp evaluated
  have placed := smallMemory_placed [0x01300293, 0x00502423, 0x00100073]
  have visible := (textStores_visible_iff Config.core _ 0 0 _ after placed.allocated
    (steps_moves completed)).1 (storesApart_of_placed placed _) _ .completed
  rw [rounds_map] at visible
  exact ⟨labels, after, visited, visible⟩

/-- `addi x5,x0,0x13`, `sw x5,0(x0)` and a jump back: the fourth round repeats the first one. -/
theorem textStores_stale_slot :
    ¬ ∀ (cfg : Config) (memory : Memory) (entry dataEnd : Word) (moves : List Move)
      (after : Simulator), cfg.doCore = true → memory.Allocated →
      Runs (Moves cfg) (Simulator.boot memory entry dataEnd) moves after →
      ExecutesStores memory (rounds moves) ∧
        ReadsStores memory after.machine.memory (rounds moves) := by
  intro claimed
  have evaluated : (steps Config.core 4 (Simulator.boot
      (smallMemory 0x20000000 [0x01300293, 0x00502023, 0xff9ff06f]) 0 0)).map
        (fun outcome => outcome.1.map fun label =>
          (label.pc, label.pcInc, label.vliw.opcode, label.interrupted, label.store)) =
      .ok ([(0, 4, .addi, false, none), (4, 8, .sw, false, some ⟨0, [0x13, 0, 0, 0]⟩),
        (8, 12, .j, false, none)] ++ [(0, 4, .addi, false, none)]) := by
    set_option synthInstance.maxSize 512 in
    decide +kernel
  obtain ⟨⟨labels, after⟩, completed, visited⟩ := map_eq_ok.mp evaluated
  have placed := smallMemory_placed [0x01300293, 0x00502023, 0xff9ff06f]
  obtain ⟨executes, _⟩ := claimed Config.core _ 0 0 _ after rfl placed.allocated
    (steps_moves completed)
  rw [rounds_map] at executes
  obtain ⟨before, lasts, rfl, earlier, single⟩ := List.map_eq_append_iff.mp visited
  obtain ⟨label, rfl, fourth⟩ := List.map_eq_singleton_iff.mp single
  simp only [Prod.mk.injEq] at fourth
  obtain ⟨pc, pcInc, opcode, uninterrupted, _⟩ := fourth
  have stores : storesOf before = [⟨0, [0x13, 0, 0, 0]⟩] := by
    have collected := congrArg (List.filterMap fun entry => entry.2.2.2.2) earlier
    rw [List.filterMap_map] at collected
    exact congrArg List.reverse collected
  have overwritten : Overwritten before label := by
    refine ⟨_, stores ▸ List.mem_singleton_self _, 0, by decide, ?_⟩
    rw [pc, pcInc]
    decide
  obtain ⟨code32, expanded, decodes⟩ := executes before label [] rfl uninterrupted overwritten
  have isNop : expandCode 0 (wordAt (textByte (smallMemory 0x20000000
      [0x01300293, 0x00502023, 0xff9ff06f]) before) 0) = .ok (0x13, 4) := by
    rw [textByte, stores]
    decide +kernel
  rw [pc, isNop] at expanded
  simp only [Except.ok.injEq, Prod.mk.injEq] at expanded
  rw [← expanded.1] at decodes
  have decoded : (decodeWord 0x13).map Vliw.opcode = .ok .nop := by decide +kernel
  rw [decodes, map_ok, opcode] at decoded
  simp at decoded

end RiscVFast
