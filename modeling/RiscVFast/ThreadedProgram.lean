import RiscVFast.HardwiredZero
import RiscVFast.Listings
import RiscVFast.Lib.GotoProgram

/-! The whole function body that `rv_compile` prints: the code at `next`, which goes by `pc`, and
then the code of every word. -/

namespace RiscVFast

open CInt Fallible GotoProgram

inductive CLabel
  | next
  | at (addr : Word)
deriving DecidableEq

/-- The lines in the order of `rv_compile`, with `add_check` and `add_realtime`. A case of the
switch is given by its address `i`; it is printed as `case i>>2: goto L_i;`. -/
inductive CLine
  | next
  | check (tests : List CExpr) (message : String)
  | countNonseq
  | countCycle
  | switch (cases : List Word)
  | badPc
  | leave
  | insn (statement : Statement)

/-- What the printed code says itself; `dump()` is a function of the program it becomes part of. -/
inductive Saying
  | text (message : String)
  | dump
  | badPc (pc : Word)
deriving DecidableEq

/-- The program that is compiled from the body declares the two counters; here they are without
bound. -/
structure ThreadedState where
  machine : Machine
  nonseq : Nat
  cycle : Nat
  said : List Saying

def ThreadedState.say (s : ThreadedState) (saying : Saying) : ThreadedState :=
  { s with said := saying :: s.said }

def printedHeader (cases : List Word) : List CLine := [
  .next,
  .check [.binary .ne (register 0) (.decimal 0)] "Bad x0 register!!!\n",
  .check [.binary .lt (register 2) (.hex 0x40000000), .binary .lt (.hex 0x40010000) (register 2)]
    "Bad sp register!!!\n",
  .countNonseq,
  .countCycle,
  .switch cases,
  .badPc,
  .leave]

def printedFunction (cases : List Word) (statements : List Statement) : List CLine :=
  printedHeader cases ++ statements.map .insn

def CLine.labelOf : CLine → Option CLabel
  | .next => some .next
  | .insn (.label addr) => some (.at addr)
  | _ => none

def CLine.targets : CLine → List CLabel
  | .switch cases => cases.map .at
  | .insn (.gotoIf _ target) => [.at target]
  | .insn .gotoNext => [.next]
  | _ => []

def flowOf (target : Option Word) : Flow CLabel :=
  match target with
  | none => .onward
  | some target => .jump (.at target)

def CLine.effect (cfg : Config) (runtime : Runtime) :
    CLine → ThreadedState → Option (ThreadedState × Flow CLabel)
  | .next, s => some (s, .onward)
  | .check tests message, s => do
      let flags ← tests.mapM fun test => test.eval s.machine.variable
      some (if flags.any fun flag => flag.bits != 0 then (s.say (.text message)).say .dump else s,
        .onward)
  | .countNonseq, s =>
      let said := if s.nonseq % 0x1000000 = 0 then s.say (.text ".") else s
      some ({ said with nonseq := s.nonseq + 1 }, .onward)
  | .countCycle, s => some ({ s with cycle := s.cycle + 1 }, .onward)
  | .switch cases, s =>
      some (s, flowOf (cases.find? fun addr => addr >>> 2 == s.machine.cpu.pc >>> 2))
  | .badPc, s => some (s.say (.badPc s.machine.cpu.pc), .onward)
  | .leave, s => some (s, .leave)
  | .insn .gotoNext, s => some (s, .jump .next)
  | .insn statement, s => do
      let result ← statement.runWith cfg runtime s.machine
      some ({ s with machine := result.1 }, flowOf result.2)

theorem Statement.runWith_jumps {cfg : Config} {runtime : Runtime} {s t : Machine}
    {statement : Statement} {target : Word} (other : statement ≠ .gotoNext)
    (ran : statement.runWith cfg runtime s = some (t, some target)) :
    ∃ test, statement = .gotoIf test target := by
  cases statement with
  | gotoIf test address =>
      simp only [Statement.runWith, Statement.run, Option.bind_eq_bind, Option.bind_eq_some_iff,
        Option.some.injEq, Prod.mk.injEq] at ran
      obtain ⟨flag, -, -, jumps⟩ := ran
      split at jumps
      · obtain rfl := Option.some.inj jumps
        exact ⟨test, rfl⟩
      · cases jumps
  | gotoNext => exact absurd rfl other
  | label addr => simp [Statement.runWith, Statement.run] at ran
  | comment text => simp [Statement.runWith, Statement.run] at ran
  | assign target value =>
      simp [Statement.runWith, Statement.run, Option.bind_eq_some_iff] at ran
  | read target function addr =>
      simp [Statement.runWith, Statement.run, Option.bind_eq_some_iff] at ran
  | write function addr value =>
      simp [Statement.runWith, Statement.run, Option.bind_eq_some_iff] at ran
  | call function arguments =>
      simp [Statement.runWith, Option.bind_eq_some_iff] at ran

theorem CLine.effect_aims {cfg : Config} {runtime : Runtime} {line : CLine}
    {s t : ThreadedState} {target : CLabel}
    (ran : line.effect cfg runtime s = some (t, .jump target)) : target ∈ line.targets := by
  cases line with
  | insn statement =>
      by_cases isNext : statement = .gotoNext
      · subst isNext
        simp only [effect, Option.some.injEq, Prod.mk.injEq, Flow.jump.injEq] at ran
        rw [← ran.2]
        exact List.mem_singleton_self _
      · have shape : (CLine.insn statement).effect cfg runtime s =
            (statement.runWith cfg runtime s.machine).bind fun result =>
              some ({ s with machine := result.1 }, flowOf result.2) := by
          cases statement <;> first | rfl | exact absurd rfl isNext
        rw [shape] at ran
        simp only [Option.bind_eq_some_iff, Option.some.injEq, Prod.mk.injEq] at ran
        obtain ⟨⟨middle, jump⟩, moved, -, flow⟩ := ran
        cases jump with
        | none => cases flow
        | some address =>
            obtain ⟨test, rfl⟩ := Statement.runWith_jumps isNext moved
            obtain rfl := Flow.jump.inj flow
            exact List.mem_singleton_self _
  | switch cases =>
      simp only [effect, Option.some.injEq, Prod.mk.injEq] at ran
      obtain ⟨-, flow⟩ := ran
      cases found : cases.find? fun addr : Word => addr >>> 2 == s.machine.cpu.pc >>> 2 with
      | none =>
          rw [found] at flow
          cases flow
      | some addr =>
          rw [found] at flow
          obtain rfl := Flow.jump.inj flow
          exact List.mem_map_of_mem (List.mem_of_find?_eq_some found)
  | check tests message =>
      simp [effect, Option.bind_eq_some_iff] at ran
  | next => simp [effect] at ran
  | countNonseq => simp [effect] at ran
  | countCycle => simp [effect] at ran
  | badPc => simp [effect] at ran
  | leave => simp [effect] at ran

def threadedC (cfg : Config) (runtime : Runtime) : Language CLine CLabel ThreadedState where
  labelOf := CLine.labelOf
  targets := CLine.targets
  effect := CLine.effect cfg runtime
  aims := CLine.effect_aims

/-! The lines of one word: a label, and at most one jump to another label. -/

def Branches (insn : Word) : Prop :=
  insn.extractLsb' 0 7 = 0x63#7 ∧ insn.extractLsb' 12 3 ≠ 2#3 ∧ insn.extractLsb' 12 3 ≠ 3#3

instance (insn : Word) : Decidable (Branches insn) := inferInstanceAs (Decidable (_ ∧ _))

def Statement.straight : Statement → Bool
  | .label _ | .gotoIf _ _ => false
  | _ => true

section Straight

variable (insn pc imm12 : Word) (type : BitVec 3) (insn_31_25 : BitVec 7) (rd rs1 rs2 : BitVec 5)

theorem compileAlu_straight :
    (compileAlu type insn_31_25 rd rs1 rs2).all Statement.straight = true := by
  unfold compileAlu
  repeat' split
  all_goals rfl

theorem compileAlui_straight :
    (compileAlui insn type insn_31_25 rd rs1 imm12).all Statement.straight = true := by
  unfold compileAlui
  repeat' split
  all_goals rfl

theorem compileStore_straight :
    (compileStore insn type rs1 rs2).all Statement.straight = true := by
  unfold compileStore
  repeat' split
  all_goals rfl

theorem compileLoad_straight :
    (compileLoad insn type rd rs1).all Statement.straight = true := by
  unfold compileLoad
  repeat' split
  all_goals rfl

theorem compileLink_straight : (compileLink rd pc).all Statement.straight = true := by
  unfold compileLink
  split <;> rfl

theorem compileJal_straight : (compileJal pc insn rd).all Statement.straight = true := by
  simp [compileJal, compileLink_straight, Statement.straight]

theorem compileJalr_straight : (compileJalr pc rd rs1 imm12).all Statement.straight = true := by
  simp [compileJalr, compileLink_straight, Statement.straight]

theorem compileSystem_straight (doNewlib : Bool) :
    (compileSystem doNewlib insn type rd rs1).all Statement.straight = true := by
  unfold compileSystem
  repeat' split
  all_goals rfl

theorem compileBranch_straight (constant : type = 2 ∨ type = 3) :
    compileBranch pc insn type rs1 rs2 = [] := by
  rcases constant with rfl | rfl <;> rfl

theorem compileBranch_jumps (compares : type ≠ 2 ∧ type ≠ 3) :
    ∃ test, compileBranch pc insn type rs1 rs2 = [.gotoIf test (pc + doBoff insn)] := by
  rw [← boff_eq]
  rcases type_cases type with rfl | rfl | rfl | rfl | rfl | rfl | rfl | rfl
  case inr.inr.inl => exact absurd rfl compares.1
  case inr.inr.inr.inl => exact absurd rfl compares.2
  all_goals exact ⟨_, rfl⟩

end Straight

theorem rvInsn_branches {insn : Word} (branches : Branches insn) (doNewlib : Bool) (pc : Word) :
    ∃ test, rvInsn doNewlib pc insn = [.label pc, .gotoIf test (pc + doBoff insn)] := by
  obtain ⟨opcode, compares⟩ := branches
  obtain ⟨test, printed⟩ := compileBranch_jumps insn pc (insn.extractLsb' 12 3)
    (insn.extractLsb' 15 5) (insn.extractLsb' 20 5) compares
  rw [rvInsn_of_branch opcode, printed]
  exact ⟨test, rfl⟩

theorem rvInsn_straight {insn : Word} (straight : ¬ Branches insn) (doNewlib : Bool) (pc : Word) :
    ∃ body, rvInsn doNewlib pc insn = .label pc :: body ∧
      body.all Statement.straight = true := by
  simp only [rvInsn]
  refine ⟨_, rfl, ?_⟩
  generalize opcodeOf : insn.extractLsb' 0 7 = opcode
  split
  · exact compileAlu_straight _ _ _ _ _
  · exact compileAlui_straight _ _ _ _ _ _
  · exact compileStore_straight _ _ _ _
  · exact compileLoad_straight _ _ _ _
  · rfl
  · rfl
  · exact compileJal_straight _ _ _
  · exact compileJalr_straight _ _ _ _
  · have constant : insn.extractLsb' 12 3 = 2#3 ∨ insn.extractLsb' 12 3 = 3#3 := by
      by_contra neither
      exact straight ⟨opcodeOf, not_or.mp neither⟩
    rw [compileBranch_straight _ _ _ _ _ constant]
    rfl
  · exact compileSystem_straight _ _ _ _ _
  · rfl

theorem straight_labels {body : List Statement} (straight : body.all Statement.straight = true) :
    (body.map CLine.insn).filterMap CLine.labelOf = [] := by
  rw [List.filterMap_eq_nil_iff]
  intro line member
  obtain ⟨statement, among, rfl⟩ := List.mem_map.mp member
  have plain := List.all_eq_true.mp straight statement among
  cases statement with
  | label addr => cases plain
  | _ => rfl

theorem straight_targets {body : List Statement} (straight : body.all Statement.straight = true) :
    ∀ statement ∈ body, ∀ target ∈ (CLine.insn statement).targets, target = .next := by
  intro statement member target named
  have plain := List.all_eq_true.mp straight statement member
  cases statement with
  | gotoIf test addr => cases plain
  | gotoNext => exact List.mem_singleton.mp named
  | _ => cases named

theorem rvInsn_labels (doNewlib : Bool) (pc insn : Word) :
    ((rvInsn doNewlib pc insn).map CLine.insn).filterMap CLine.labelOf = [.at pc] := by
  by_cases branches : Branches insn
  · obtain ⟨test, printed⟩ := rvInsn_branches branches doNewlib pc
    rw [printed]
    rfl
  · obtain ⟨body, printed, straight⟩ := rvInsn_straight branches doNewlib pc
    have labelled : (CLine.insn (.label pc)).labelOf = some (.at pc) := rfl
    rw [printed, List.map_cons, List.filterMap_cons_some labelled, straight_labels straight]

theorem rvInsn_targets (doNewlib : Bool) (pc insn : Word) (label : CLabel) :
    (∃ statement ∈ rvInsn doNewlib pc insn, label ∈ (CLine.insn statement).targets) →
      label = .next ∨ Branches insn ∧ label = .at (pc + doBoff insn) := by
  rintro ⟨statement, member, named⟩
  by_cases branches : Branches insn
  · obtain ⟨test, printed⟩ := rvInsn_branches branches doNewlib pc
    rw [printed] at member
    rcases List.mem_pair.mp member with rfl | rfl
    · cases named
    · exact .inr ⟨branches, List.mem_singleton.mp named⟩
  · obtain ⟨body, printed, straight⟩ := rvInsn_straight branches doNewlib pc
    rw [printed] at member
    rcases List.mem_cons.mp member with rfl | member
    · cases named
    · exact .inl (straight_targets straight statement member label named)

theorem insnRounds_statements {cfg : Config} {addresses : List Word} {program : Word → Word}
    {translation after : Translation}
    (isText : ∀ addr ∈ addresses, translation.machine.memory.istext addr = true)
    (words : ∀ addr ∈ addresses, translation.machine.memory.textWord addr = .ok (program addr))
    (ran : addresses.foldlM (insnRound cfg) translation = .ok after) :
    after.cases = translation.cases ∧ after.statements = translation.statements ++
      addresses.flatMap fun addr => rvInsn cfg.doNewlib addr (program addr) := by
  induction addresses generalizing translation with
  | nil =>
      obtain rfl := Except.ok.inj ran
      simp
  | cons addr addresses ih =>
      rw [List.foldlM_cons] at ran
      obtain ⟨next, round, ran⟩ := bind_eq_ok.mp ran
      rw [insnRound, read32_text cfg (isText addr List.mem_cons_self),
        words addr List.mem_cons_self, map_ok, ok_bind] at round
      obtain rfl := Except.ok.inj round
      have rest := fun isText words => ih isText words ran
      obtain ⟨cases, statements⟩ := rest
        (fun later member => isText later (List.mem_cons_of_mem addr member))
        (fun later member => words later (List.mem_cons_of_mem addr member))
      refine ⟨cases, ?_⟩
      rw [statements, List.flatMap_cons, List.append_assoc]

structure Translatable (memory : Memory) (limit : Word) : Prop where
  aligned : 4 ∣ limit.toNat
  isText : ∀ addr ∈ WordLoop.indices 4 0 limit, memory.istext addr = true

def printedWords (doNewlib : Bool) (program : Word → Word) (addresses : List Word) :
    List CLine :=
  printedFunction addresses (addresses.flatMap fun addr => rvInsn doNewlib addr (program addr))

theorem printed_of_rvCompile {cfg : Config} {s : Machine} {limit : Word} {fuel : Nat}
    {translation : Translation} (translatable : Translatable s.memory limit)
    (ran : rvCompile cfg fuel 0 limit ⟨s, [], [], []⟩ = some (.ok translation)) :
    ∃ program, (∀ addr ∈ WordLoop.indices 4 0 limit,
        s.memory.textWord addr = .ok (program addr)) ∧
      printedFunction translation.cases translation.statements =
        printedWords cfg.doNewlib program (WordLoop.indices 4 0 limit) := by
  have whole : 0 + limit = limit := BitVec.zero_add limit
  have fits := aligned_fits translatable.aligned
  unfold rvCompile at ran
  rw [whole] at ran
  cases labels : WordLoop.run 4 limit caseRound fuel 0 ⟨s, [], [], []⟩ with
  | none =>
      rw [labels] at ran
      cases ran
  | some outcome =>
      have numbered := WordLoop.outcome_of_run (by decide) fits labels
      rw [caseRounds] at numbered
      rw [labels, numbered] at ran
      have printed := (WordLoop.outcome_of_run (by decide) fits ran).symm
      have readable := (@insnRounds cfg s _ translatable.isText _).mp ⟨translation, printed⟩
      choose! program words using readable
      obtain ⟨cases, statements⟩ := @insnRounds_statements cfg (WordLoop.indices 4 0 limit) program
        ⟨s, [], WordLoop.indices 4 0 limit, []⟩ translation translatable.isText words printed
      refine ⟨program, words, ?_⟩
      simp only [printedWords, cases, statements, List.nil_append]

theorem rvCompile_translates {cfg : Config} {s : Machine} {limit : Word} {fuel : Nat}
    (translatable : Translatable s.memory limit)
    (enough : (WordLoop.indices 4 0 limit).length < fuel)
    (readable : ∀ addr ∈ WordLoop.indices 4 0 limit, ∃ insn, s.memory.textWord addr = .ok insn) :
    ∃ translation, rvCompile cfg fuel 0 limit ⟨s, [], [], []⟩ = some (.ok translation) := by
  obtain ⟨translation, ran⟩ := (@insnRounds cfg s _ translatable.isText _).mpr readable
  exact ⟨translation, (rvCompile_eq cfg translatable.aligned enough s).trans (congrArg some ran)⟩

structure AcceptedLabels (cfg : Config) (runtime : Runtime) (program : List CLine) : Prop where
  labels : (threadedC cfg runtime).WellFormed program
  cases : ∀ addresses, .switch addresses ∈ program →
    (addresses.map fun addr : Word => addr >>> 2).Nodup

section Accepted

variable {cfg : Config} {runtime : Runtime} {program : Word → Word} {addresses : List Word}

theorem printedWords_labels (doNewlib : Bool) :
    (threadedC cfg runtime).labels (printedWords doNewlib program addresses) =
      .next :: addresses.map .at := by
  have words : ((addresses.flatMap fun addr => rvInsn doNewlib addr (program addr)).map
      CLine.insn).filterMap CLine.labelOf = addresses.map .at := by
    induction addresses with
    | nil => rfl
    | cons addr addresses ih =>
        rw [List.flatMap_cons, List.map_append, List.filterMap_append, rvInsn_labels, ih,
          List.map_cons, List.singleton_append]
  rw [printedWords, printedFunction, Language.labels, List.filterMap_append]
  exact congrArg (fun labels => CLabel.next :: labels) words

theorem at_mem_labels (addr : Word) :
    CLabel.at addr ∈ CLabel.next :: addresses.map .at ↔ addr ∈ addresses := by
  rw [List.mem_cons]
  constructor
  · rintro (other | member)
    · cases other
    · obtain ⟨found, among, same⟩ := List.mem_map.mp member
      exact CLabel.at.inj same ▸ among
  · intro member
    exact .inr (List.mem_map_of_mem member)

theorem printedWords_defined_iff (doNewlib : Bool) :
    (∀ line ∈ printedWords doNewlib program addresses, ∀ target ∈ line.targets,
        target ∈ CLabel.next :: addresses.map .at) ↔
      ∀ addr ∈ addresses, Branches (program addr) →
        addr + doBoff (program addr) ∈ addresses := by
  constructor
  · intro defined addr member branches
    obtain ⟨test, printed⟩ := rvInsn_branches branches doNewlib addr
    have line : CLine.insn (.gotoIf test (addr + doBoff (program addr))) ∈
        printedWords doNewlib program addresses := by
      refine List.mem_append_right _ (List.mem_map_of_mem (List.mem_flatMap.mpr ⟨addr, member, ?_⟩))
      rw [printed]
      exact List.mem_cons_of_mem _ List.mem_cons_self
    exact (at_mem_labels _).mp (defined _ line _ List.mem_cons_self)
  · intro reached line member target named
    rcases List.mem_append.mp member with header | word
    · -- of the header only the switch names labels
      have switch : line = .switch addresses := by
        simp only [printedHeader, List.mem_cons, List.not_mem_nil, or_false] at header
        rcases header with rfl | rfl | rfl | rfl | rfl | rfl | rfl | rfl <;>
          first | rfl | cases named
      subst switch
      exact List.mem_cons_of_mem _ named
    · obtain ⟨statement, among, rfl⟩ := List.mem_map.mp word
      obtain ⟨addr, inside, printed⟩ := List.mem_flatMap.mp among
      rcases rvInsn_targets doNewlib addr (program addr) target ⟨statement, printed, named⟩ with
        rfl | ⟨branches, rfl⟩
      · exact List.mem_cons_self
      · exact (at_mem_labels _).mpr (reached addr inside branches)

theorem shiftRight_two_injOn {limit addr other : Word} (member : addr ∈ WordLoop.indices 4 0 limit)
    (member' : other ∈ WordLoop.indices 4 0 limit) (same : addr >>> 2 = other >>> 2) :
    addr = other := by
  have quotients := congrArg BitVec.toNat same
  rw [BitVec.toNat_ushiftRight, BitVec.toNat_ushiftRight, Nat.shiftRight_eq_div_pow,
    Nat.shiftRight_eq_div_pow] at quotients
  have word := (WordLoop.mem_indices (by decide) member).2.2
  have word' := (WordLoop.mem_indices (by decide) member').2.2
  have bottom : (0 : Word).toNat = 0 := rfl
  rw [stride_toNat, bottom, Nat.sub_zero] at word word'
  apply BitVec.eq_of_toNat_eq
  omega

end Accepted

/-- The labels are right exactly when every branch that is translated leads to a word that is
translated, too. -/
theorem printed_labels_accepted_iff (cfg : Config) (runtime : Runtime) (s : Machine) (limit : Word)
    (fuel : Nat) (translation : Translation) (translatable : Translatable s.memory limit)
    (ran : rvCompile cfg fuel 0 limit ⟨s, [], [], []⟩ = some (.ok translation)) :
    AcceptedLabels cfg runtime (printedFunction translation.cases translation.statements) ↔
      ∀ addr ∈ WordLoop.indices 4 0 limit, ∀ insn, s.memory.textWord addr = .ok insn →
        Branches insn → addr + doBoff insn ∈ WordLoop.indices 4 0 limit := by
  obtain ⟨program, words, printed⟩ := printed_of_rvCompile translatable ran
  have reached : (∀ addr ∈ WordLoop.indices 4 0 limit, ∀ insn,
      s.memory.textWord addr = .ok insn → Branches insn →
        addr + doBoff insn ∈ WordLoop.indices 4 0 limit) ↔
      ∀ addr ∈ WordLoop.indices 4 0 limit, Branches (program addr) →
        addr + doBoff (program addr) ∈ WordLoop.indices 4 0 limit := by
    constructor
    · intro all addr member branches
      exact all addr member _ (words addr member) branches
    · intro all addr member insn found branches
      obtain rfl := Except.ok.inj ((words addr member).symm.trans found)
      exact all addr member branches
  rw [printed, reached, ← printedWords_defined_iff cfg.doNewlib]
  constructor
  · intro accepted line member target named
    rw [← @printedWords_labels cfg runtime program _ cfg.doNewlib]
    exact accepted.labels.defined line member target named
  · intro defined
    refine ⟨⟨?_, ?_⟩, ?_⟩
    · rw [printedWords_labels, List.nodup_cons]
      refine ⟨by simp, List.Nodup.map ?_ (WordLoop.indices_nodup (by decide))⟩
      intro addr other same
      exact CLabel.at.inj same
    · rw [printedWords_labels]
      exact defined
    · intro addresses member
      rcases List.mem_append.mp member with header | word
      · have same : addresses = WordLoop.indices 4 0 limit := by
          simpa [printedHeader] using header
        rw [same]
        refine List.Nodup.map_on ?_ (WordLoop.indices_nodup (by decide))
        intro addr inside other inside'
        exact shiftRight_two_injOn inside inside'
      · obtain ⟨statement, _, other⟩ := List.mem_map.mp word
        cases other

def loopMemory : Memory := smallMemory 0x20000000 [0x00128293, 0xfe629ee3]

theorem twoWords : WordLoop.indices 4 0 (8 : Word) = [0, 4] := by decide

theorem loopMemory_translatable : Translatable loopMemory 8 where
  aligned := by decide
  isText := by
    rw [twoWords]
    intro addr member
    rcases List.mem_pair.mp member with rfl | rfl <;> rfl

theorem loopMemory_words :
    loopMemory.textWord 0 = .ok 0x00128293 ∧ loopMemory.textWord 4 = .ok 0xfe629ee3 := by
  decide +kernel

theorem loopMemory_readable : ∀ addr ∈ WordLoop.indices 4 0 (8 : Word),
    ∃ insn, loopMemory.textWord addr = .ok insn := by
  obtain ⟨first, second⟩ := loopMemory_words
  rw [twoWords]
  intro addr member
  rcases List.mem_pair.mp member with rfl | rfl
  · exact ⟨_, first⟩
  · exact ⟨_, second⟩

theorem printed_labels_accepted_loop :
    ∃ translation, rvCompile (.standard .silent) 3 0 8
        ⟨(Simulator.boot loopMemory 0 0).machine, [], [], []⟩ = some (.ok translation) ∧
      AcceptedLabels (.standard .silent) (interpreterRuntime (.standard .silent))
        (printedFunction translation.cases translation.statements) := by
  obtain ⟨translation, ran⟩ := @rvCompile_translates (.standard .silent)
    (Simulator.boot loopMemory 0 0).machine 8 3 loopMemory_translatable (by decide)
    loopMemory_readable
  refine ⟨translation, ran, ?_⟩
  refine (printed_labels_accepted_iff (.standard .silent) (interpreterRuntime (.standard .silent))
    (Simulator.boot loopMemory 0 0).machine 8 3 translation loopMemory_translatable ran).mpr ?_
  obtain ⟨first, second⟩ := loopMemory_words
  rw [twoWords]
  intro addr member insn found branches
  rcases List.mem_pair.mp member with rfl | rfl
  · obtain rfl := Except.ok.inj (first.symm.trans found)
    exact absurd branches (by decide)
  · obtain rfl := Except.ok.inj (second.symm.trans found)
    decide

end RiscVFast
