import RiscVFast.TextImmutable
import RiscVFast.Lib.FirstVisit

/-! The decoded-instruction cache of `run`. A slot is never emptied and carries no tag, so what
is executed is the decode of the word that its first visitor fetched. -/

namespace RiscVFast

open Fallible Transition FirstVisit

theorem optable_filled : ∀ row ∈ optable, row.vliw ≠ .none := by
  decide +kernel

theorem nop_filled : vliwNop.opcode ≠ .none := by
  decide

theorem expandCompressed_filled {opcode : VliwOp} {code : Word} {vlp : Vliw}
    (expanded : expandCompressed opcode code = .ok vlp) : vlp.opcode ≠ .none := by
  unfold expandCompressed at expanded
  simp only at expanded
  split at expanded <;> first
    | (simp only [Except.ok.injEq] at expanded; rw [← expanded]; simp)
    | simp at expanded

theorem decodeWord_filled {code : Word} {vlp : Vliw} (decoded : decodeWord code = .ok vlp) :
    vlp.opcode ≠ .none := by
  obtain ⟨⟨found, vlp'⟩, alone, same⟩ := map_eq_ok.mp decoded
  subst same
  cases wide : isWide code with
  | true =>
      rw [decodeAlone_wide code wide, scanWide] at alone
      split at alone
      · simp only [Except.ok.injEq, Prod.mk.injEq] at alone
        rw [← alone.2]
        exact nop_filled
      · rename_i otp lookup
        obtain ⟨decodedRow, fromRow, alone⟩ := map_eq_ok.mp alone
        simp only [Prod.mk.injEq] at alone
        rw [← alone.2, decodeItems_opcode fromRow]
        exact optable_filled otp (List.mem_of_find?_eq_some lookup)
  | false =>
      rw [decodeAlone_compressed code wide, scanCompressed] at alone
      split at alone
      · simp only [Except.ok.injEq, Prod.mk.injEq] at alone
        rw [← alone.2]
        exact nop_filled
      · obtain ⟨expandedRow, fromRow, alone⟩ := map_eq_ok.mp alone
        simp only [Prod.mk.injEq] at alone
        rw [← alone.2]
        exact expandCompressed_filled fromRow

/-! The cache as a function of the rounds so far. -/

def slotOf (label : StepLabel) : Word := vliwIndex label.pc

def Fills (label : StepLabel) (vlp : Vliw) : Prop := decodeWord label.code32 = .ok vlp

def Filled (vlp : Vliw) : Prop := vlp.opcode ≠ .none

structure CacheHistory (moves : List Move) (sim : Simulator) : Prop where
  tables : sim.tables.Sound
  slots : Cached slotOf Fills Filled (rounds moves) sim.vliwInsn

theorem CacheHistory.boot (memory : Memory) (entry dataEnd : Word) :
    CacheHistory [] (Simulator.boot memory entry dataEnd) where
  tables := DecodeTables.empty_sound
  slots := by
    refine Cached.initial ?_
    intro slot filled
    exact filled rfl

theorem CacheHistory.lookup {moves : List Move} {sim cached : Simulator} {label : StepLabel}
    (history : CacheHistory moves sim)
    (looked : cacheLookup sim label.pc label.code32 = .ok (label.vliw, cached)) :
    CacheHistory (moves ++ [.round label]) cached ∧
      cached.vliwInsn (slotOf label) = label.vliw := by
  unfold cacheLookup at looked
  simp only at looked
  split at looked
  · rename_i empty
    obtain ⟨decoded, called, looked⟩ := bind_eq_ok.mp looked
    simp only [Except.ok.injEq, Prod.mk.injEq] at looked
    obtain ⟨vliw, rfl⟩ := looked
    have word := history.tables.decodeWord label.pc label.code32
    rw [called, map_ok, vliw] at word
    have fills : Fills label label.vliw := word.symm
    refine ⟨⟨history.tables.step called, ?_⟩, ?_⟩
    · rw [rounds_snoc, vliw]
      exact history.slots.miss (not_not.mpr empty) fills (decodeWord_filled fills)
    · rw [← vliw]
      exact Function.update_self _ _ _
  · rename_i filled
    simp only [Except.ok.injEq, Prod.mk.injEq] at looked
    obtain ⟨vliw, rfl⟩ := looked
    refine ⟨⟨history.tables, ?_⟩, vliw⟩
    rw [rounds_snoc]
    exact history.slots.hit label filled

theorem CacheHistory.round {cfg : Config} {moves : List Move} {sim after : Simulator}
    {label : StepLabel} (history : CacheHistory moves sim)
    (stepped : step cfg sim = .ok (label, after)) :
    CacheHistory (moves ++ [.round label]) after ∧ after.vliwInsn (slotOf label) = label.vliw := by
  obtain ⟨cached, polled, executed, _, looked, _, _, located, _, rfl⟩ := step_inversion stepped
  rw [← located] at looked
  obtain ⟨next, slot⟩ := history.lookup looked
  exact ⟨⟨next.tables, next.slots⟩, slot⟩

theorem CacheHistory.of_runs {cfg : Config} {memory : Memory} {entry dataEnd : Word}
    {moves : List Move} {sim : Simulator}
    (runs : Runs (Moves cfg) (Simulator.boot memory entry dataEnd) moves sim) :
    CacheHistory moves sim := by
  refine Runs.history CacheHistory (CacheHistory.boot memory entry dataEnd) ?_ runs
  intro past s move t _ history moved
  cases moved with
  | round stepped => exact (history.round stepped).1
  | enter =>
      refine ⟨history.tables, ?_⟩
      rw [rounds_silent past rfl]
      exact history.slots
  | leave =>
      refine ⟨history.tables, ?_⟩
      rw [rounds_silent past rfl]
      exact history.slots

theorem vliw_of_first_visitor {cfg : Config} {memory : Memory} {entry dataEnd : Word}
    {moves : List Move} {after : Simulator}
    (runs : Runs (Moves cfg) (Simulator.boot memory entry dataEnd) moves after)
    {labels before rest : List StepLabel} {label : StepLabel} (taken : Taken moves after labels)
    (parts : labels = before ++ label :: rest) :
    ∃ first, visitor slotOf (before ++ [label]) (slotOf label) = some first ∧
      decodeWord first.code32 = .ok label.vliw := by
  obtain ⟨early, sim, earlyRuns, rfl, begins, _⟩ := taken.reached runs parts
  obtain ⟨cached, looked⟩ := begins.looked
  obtain ⟨history, slot⟩ := (CacheHistory.of_runs earlyRuns).lookup looked
  have slots := history.slots
  rw [rounds_snoc] at slots
  obtain ⟨first, found, fills⟩ := slots.served
  rw [slot] at fills
  exact ⟨first, found, fills⟩

/-- What a round takes from the cache is the decode of its own word when the first visitor of the
slot had a word that decodes alike. -/
theorem decodes_iff_visitor {cfg : Config} {memory : Memory} {entry dataEnd : Word}
    {moves : List Move} {after : Simulator}
    (runs : Runs (Moves cfg) (Simulator.boot memory entry dataEnd) moves after)
    {labels before rest : List StepLabel} {label : StepLabel} (taken : Taken moves after labels)
    (parts : labels = before ++ label :: rest) :
    decodeWord label.code32 = .ok label.vliw ↔
      ∀ first, visitor slotOf before (slotOf label) = some first →
        decodeWord label.code32 = decodeWord first.code32 := by
  obtain ⟨filler, filled, served⟩ := vliw_of_first_visitor runs taken parts
  cases earlier : visitor slotOf before (slotOf label) with
  | none =>
      rw [visitor_snoc_of_none earlier] at filled
      simp only [Option.some.injEq] at filled
      subst filled
      simp [served]
  | some first =>
      rw [visitor_snoc_of_some label earlier] at filled
      simp only [Option.some.injEq] at filled
      subst filled
      simp [served]

/-- The interpreter that decodes every instruction it executes. -/
def plainStep (cfg : Config) (s : Machine) : Except Abort Machine := do
  let (code32, pcInc) ← fetchCode s
  let (externalIrq, timeIrq, polled) := poll (s.fallThrough pcInc)
  let vliw ← if externalIrq || timeIrq then .ok vliwNop else decodeWord code32
  let executed ← execute cfg vliw polled
  .ok executed.advance

inductive PlainMoves (cfg : Config) : Machine → Move → Machine → Prop
  | round {s after : Machine} (label : StepLabel) (stepped : plainStep cfg s = .ok after) :
      PlainMoves cfg s (.round label) after
  | enter (s : Machine) : PlainMoves cfg s .enter s.enterRun
  | leave (s : Machine) : PlainMoves cfg s .leave s.clearStop

/-- Every executed Vliw is the decode of the word fetched at that moment. -/
def Transparent (labels : List StepLabel) : Prop :=
  ∀ before label rest, labels = before ++ label :: rest → label.interrupted = false →
    decodeWord label.code32 = .ok label.vliw

/-- The words that share a slot with an executed one and came before it decode alike. -/
def SlotsAgree (labels : List StepLabel) : Prop :=
  ∀ before label rest first, labels = before ++ label :: rest → label.interrupted = false →
    visitor slotOf before (slotOf label) = some first →
    decodeWord label.code32 = decodeWord first.code32

theorem plainStep_of_begins {cfg : Config} {sim : Simulator} {label : StepLabel}
    (begins : sim.Begins label)
    (decodes : label.interrupted = false → decodeWord label.code32 = .ok label.vliw) :
    (step cfg sim).map (fun outcome => outcome.2.machine) = plainStep cfg sim.machine := by
  obtain ⟨located, fetched, ⟨cached, looked⟩, ⟨polled, polling⟩⟩ := begins
  rw [located] at looked
  simp only [step_of_lookup fetched looked, round, plainStep, fetched, ok_bind, polling,
    executedVliw]
  cases interrupted : label.interrupted with
  | true =>
      simp only [StepLabel.interrupted] at interrupted
      simp only [interrupted, if_true, ok_bind]
      cases execute cfg vliwNop polled <;> rfl
  | false =>
      have decoded := decodes interrupted
      simp only [StepLabel.interrupted] at interrupted
      simp only [interrupted, Bool.false_eq_true, if_false, decoded, ok_bind]
      cases execute cfg label.vliw polled <;> rfl

theorem plainStep_of_step {cfg : Config} {sim after : Simulator} {label : StepLabel}
    (stepped : step cfg sim = .ok (label, after))
    (decodes : label.interrupted = false → decodeWord label.code32 = .ok label.vliw) :
    plainStep cfg sim.machine = .ok after.machine := by
  rw [← plainStep_of_begins (begins_of_step stepped) decodes, stepped]
  rfl

theorem plainRuns_of_transparent {cfg : Config} {sim after : Simulator} {moves : List Move}
    (runs : Runs (Moves cfg) sim moves after) (transparent : Transparent (rounds moves)) :
    Runs (PlainMoves cfg) sim.machine moves after.machine := by
  have simulates : ∀ (s : Simulator) (move : Move) (t : Simulator) (s' : Machine),
      s.machine = s' → (∀ label, move = .round label → label.interrupted = false →
        decodeWord label.code32 = .ok label.vliw) → Moves cfg s move t →
      ∃ t', PlainMoves cfg s' move t' ∧ t.machine = t' := by
    rintro s move t s' rfl decodes moved
    cases moved with
    | round stepped => exact ⟨_, .round _ (plainStep_of_step stepped (decodes _ rfl)), rfl⟩
    | enter => exact ⟨_, .enter _, rfl⟩
    | leave => exact ⟨_, .leave _, rfl⟩
  obtain ⟨machine, plain, rfl⟩ := runs.simulate (fun s s' => s.machine = s') _ simulates rfl (by
    rintro move member label rfl uninterrupted
    obtain ⟨before, rest, parts⟩ := List.append_of_mem (mem_rounds.mpr member)
    exact transparent before label rest parts uninterrupted)
  exact plain

/-- Over any run, the round that may end the process included, the cache is transparent exactly
when the words that meet in a slot decode alike, and then the interpreter without a cache reaches
the same state or the same abort. -/
theorem vliwCache_transparent_iff (cfg : Config) (memory : Memory) (entry dataEnd : Word)
    (moves : List Move) (after : Simulator)
    (runs : Runs (Moves cfg) (Simulator.boot memory entry dataEnd) moves after) :
    (∀ labels, Taken moves after labels → (Transparent labels ↔ SlotsAgree labels)) ∧
      (SlotsAgree (rounds moves) →
        Runs (PlainMoves cfg) (Simulator.boot memory entry dataEnd).machine moves after.machine) ∧
      ∀ label, after.Begins label → SlotsAgree (rounds moves ++ [label]) →
        (step cfg after).map (fun outcome => outcome.2.machine) = plainStep cfg after.machine := by
  have transparent_iff : ∀ labels, Taken moves after labels →
      (Transparent labels ↔ SlotsAgree labels) := by
    intro labels taken
    constructor
    · intro transparent before label rest first parts uninterrupted found
      have decodes := transparent before label rest parts uninterrupted
      exact (decodes_iff_visitor runs taken parts).mp decodes first found
    · intro agree before label rest parts uninterrupted
      refine (decodes_iff_visitor runs taken parts).mpr ?_
      intro first found
      exact agree before label rest first parts uninterrupted found
  refine ⟨transparent_iff, ?_, ?_⟩
  · intro agree
    exact plainRuns_of_transparent runs ((transparent_iff _ .completed).mpr agree)
  · intro label begins agree
    exact plainStep_of_begins begins
      ((transparent_iff _ (.begun begins)).mpr agree (rounds moves) label [] rfl)

theorem vliwCache_transparent_iff_loop :
    ∃ labels after,
      labels.map (fun label => (label.pc, label.vliw.opcode)) = [(0, .addi), (4, .j), (0, .addi)] ∧
      (Transparent labels ↔ SlotsAgree labels) ∧
      (SlotsAgree labels → Runs (PlainMoves (Config.standard Host.silent))
        (Simulator.boot (smallMemory 0x20000000 [0x00128293, 0xffdff06f]) 0 0).machine
        (labels.map .round) after) := by
  have evaluated : (steps (Config.standard Host.silent) 3
      (Simulator.boot (smallMemory 0x20000000 [0x00128293, 0xffdff06f]) 0 0)).map
        (fun outcome => outcome.1.map fun label => (label.pc, label.vliw.opcode)) =
      .ok [(0, .addi), (4, .j), (0, .addi)] := by
    decide +kernel
  obtain ⟨⟨labels, after⟩, completed, visited⟩ := map_eq_ok.mp evaluated
  obtain ⟨transparent, plain, _⟩ :=
    vliwCache_transparent_iff _ _ 0 0 _ after (steps_moves completed)
  have transparent := transparent _ .completed
  rw [rounds_map] at transparent plain
  exact ⟨labels, after.machine, visited, transparent, plain⟩

/-! A text of more than 4 MiB: `lui x1,0x400` and `jalr x0,0(x1)` at its start, `addi x5,x0,1`
at address 0x400000. -/

def farMemory : Memory where
  insnMem :=
    { memBase := 0
      memLen := 0x00400010
      size := 0x00400010
      data := fun index =>
        if index < 0x400000 then (Segment.ofWords 0 0x100 [0x004000b7, 0x00008067]).data index
        else (Segment.ofWords 0 0x100 [0x00100293]).data (index - 0x400000) }
  dataMem := Segment.ofWords 0x20000000 0x100 []

theorem farMemory_rounds :
    (steps (Config.standard Host.silent) 3 (Simulator.boot farMemory 0 0)).map
        (fun outcome => outcome.1.map fun label =>
          (label.code32, label.vliw.opcode, label.interrupted)) =
      .ok [(0x004000b7, .lui, false), (0x00008067, .jr, false), (0x00100293, .lui, false)] := by
  decide +kernel

theorem vliwCache_far_jump :
    ¬ ∀ (cfg : Config) (memory : Memory) (entry dataEnd : Word) (moves : List Move)
      (after : Simulator), cfg.doCore = false →
      Runs (Moves cfg) (Simulator.boot memory entry dataEnd) moves after →
      (∀ early late source, moves = early ++ late →
        Runs (Moves cfg) (Simulator.boot memory entry dataEnd) early source →
        source.machine.memory.insnMem = memory.insnMem) →
      Transparent (rounds moves) := by
  intro claimed
  obtain ⟨⟨labels, after⟩, completed, visited⟩ := map_eq_ok.mp farMemory_rounds
  have lastRound : labels.map (fun label => (label.code32, label.vliw.opcode, label.interrupted)) =
      [(0x004000b7, .lui, false), (0x00008067, .jr, false)] ++ [(0x00100293, .lui, false)] := visited
  obtain ⟨before, lasts, rfl, _, single⟩ := List.map_eq_append_iff.mp lastRound
  obtain ⟨label, rfl, third⟩ := List.map_eq_singleton_iff.mp single
  simp only [Prod.mk.injEq] at third
  obtain ⟨code32, opcode, uninterrupted⟩ := third
  have transparent := claimed _ _ _ _ _ after rfl (steps_moves completed)
    fun early late source _ runs => insnMem_of_runs rfl rfl runs
  rw [rounds_map] at transparent
  have decoded := transparent before label [] rfl uninterrupted
  rw [code32] at decoded
  have isAddi : (decodeWord 0x00100293).map Vliw.opcode = .ok .addi := by decide +kernel
  rw [decoded, map_ok, opcode] at isAddi
  simp at isAddi

end RiscVFast
