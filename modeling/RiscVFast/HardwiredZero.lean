import RiscVFast.CsrAccess
import RiscVFast.LoadEffects
import RiscVFast.Translator

/-! Whether the printed C keeps `r[0]` at zero, as `execute` keeps `x0`. -/

namespace RiscVFast

open CInt Fallible Transition

def MayBeAssigned : CExpr → Prop
  | .var (.r n) => n ≠ 0
  | .var .pc => True
  | _ => False

def Statement.KeepsZero : Statement → Prop
  | .assign target _ | .read target _ _ => MayBeAssigned target
  | _ => True

def KeepsZero (statements : List Statement) : Prop :=
  ∀ statement ∈ statements, statement.KeepsZero

def AssignsZero (insn : Word) : Prop :=
  let opcode : BitVec 7 := insn.extractLsb' 0 7
  let rd : BitVec 5 := insn.extractLsb' 7 5
  let type : BitVec 3 := insn.extractLsb' 12 3
  let insn_31_25 : BitVec 7 := insn.extractLsb' 25 7
  rd = 0 ∧
    (opcode = 0x33 ∧ (insn_31_25 = 0x00 ∨ insn_31_25 = 0x20 ∧ (type = 0 ∨ type = 5)) ∨
      opcode = 0x13 ∧ insn ≠ 0x00000013 ∨
      opcode = 0x03 ∧ (type = 0 ∨ type = 1 ∨ type = 2 ∨ type = 4 ∨ type = 5) ∨
      opcode = 0x37 ∨ opcode = 0x17)

instance (insn : Word) : Decidable (AssignsZero insn) := inferInstanceAs (Decidable (_ ∧ _))

@[simp] theorem mayBeAssigned_register (n : BitVec 5) : MayBeAssigned (register n) ↔ n ≠ 0 :=
  Iff.rfl

@[simp] theorem mayBeAssigned_pc : MayBeAssigned (.var .pc) := trivial

@[simp] theorem mayBeAssigned_registerOrZero (n : BitVec 5) :
    MayBeAssigned (registerOrZero n) ↔ n ≠ 0 := by
  unfold registerOrZero
  by_cases isZero : n = 0
  · rw [if_pos isZero]
    exact iff_of_false id (not_not_intro isZero)
  · rw [if_neg isZero]
    exact mayBeAssigned_register n

@[simp] theorem keepsZero_nil : KeepsZero [] := by simp [KeepsZero]

@[simp] theorem keepsZero_cons (statement : Statement) (statements : List Statement) :
    KeepsZero (statement :: statements) ↔ statement.KeepsZero ∧ KeepsZero statements := by
  simp [KeepsZero]

@[simp] theorem keepsZero_append (first second : List Statement) :
    KeepsZero (first ++ second) ↔ KeepsZero first ∧ KeepsZero second := by
  simp only [KeepsZero, List.mem_append]
  constructor
  · intro all
    exact ⟨fun statement member => all statement (.inl member),
      fun statement member => all statement (.inr member)⟩
  · rintro ⟨all, others⟩ statement (member | member)
    · exact all statement member
    · exact others statement member

theorem type_cases (type : BitVec 3) : type = 0 ∨ type = 1 ∨ type = 2 ∨ type = 3 ∨ type = 4 ∨
    type = 5 ∨ type = 6 ∨ type = 7 := by
  revert type
  decide

theorem compileAlu_keeps (type : BitVec 3) (insn_31_25 : BitVec 7) (rd rs1 rs2 : BitVec 5) :
    KeepsZero (compileAlu type insn_31_25 rd rs1 rs2) ↔
      ¬ (rd = 0 ∧ (insn_31_25 = 0x00 ∨ insn_31_25 = 0x20 ∧ (type = 0 ∨ type = 5))) := by
  by_cases base : insn_31_25 = 0x00
  · subst base
    rcases type_cases type with rfl | rfl | rfl | rfl | rfl | rfl | rfl | rfl <;>
      simp [compileAlu, Statement.KeepsZero]
  · by_cases alternate : insn_31_25 = 0x20
    · subst alternate
      rcases type_cases type with rfl | rfl | rfl | rfl | rfl | rfl | rfl | rfl <;>
        simp [compileAlu, Statement.KeepsZero]
    · simp only [compileAlu, base, alternate, if_false]
      split <;> simp [Statement.KeepsZero]

theorem compileAlui_keeps (insn : Word) (type : BitVec 3) (insn_31_25 : BitVec 7)
    (rd rs1 : BitVec 5) (imm12 : Word) (nop : insn = 0x00000013 → type = 0) :
    KeepsZero (compileAlui insn type insn_31_25 rd rs1 imm12) ↔
      ¬ (rd = 0 ∧ insn ≠ 0x00000013) := by
  by_cases isNop : insn = 0x00000013
  · have first := nop isNop
    subst first isNop
    simp [compileAlui, Statement.KeepsZero]
  · rw [and_iff_left isNop]
    by_cases isSrai : type = 5 ∧ insn_31_25 = 0x20
    · simp [compileAlui, isSrai, Statement.KeepsZero]
    · simp only [compileAlui, isSrai, if_false]
      rcases type_cases type with rfl | rfl | rfl | rfl | rfl | rfl | rfl | rfl
      · change KeepsZero (if insn = 0x00000013 then _ else if imm12 = 0 then _
          else if rs1 = 0 then _ else _) ↔ _
        rw [if_neg isNop]
        split
        · simp [Statement.KeepsZero]
        · split <;> simp [Statement.KeepsZero]
      all_goals simp [Statement.KeepsZero]

theorem compileLoad_keeps (insn : Word) (type : BitVec 3) (rd rs1 : BitVec 5) :
    KeepsZero (compileLoad insn type rd rs1) ↔
      ¬ (rd = 0 ∧ (type = 0 ∨ type = 1 ∨ type = 2 ∨ type = 4 ∨ type = 5)) := by
  rcases type_cases type with rfl | rfl | rfl | rfl | rfl | rfl | rfl | rfl <;>
    simp [compileLoad, Statement.KeepsZero]

theorem compileStore_keeps (insn : Word) (type : BitVec 3) (rs1 rs2 : BitVec 5) :
    KeepsZero (compileStore insn type rs1 rs2) := by
  rcases type_cases type with rfl | rfl | rfl | rfl | rfl | rfl | rfl | rfl <;>
    simp [compileStore, Statement.KeepsZero]

theorem compileLink_keeps (rd : BitVec 5) (save_pc : Word) : KeepsZero (compileLink rd save_pc) := by
  unfold compileLink
  split
  · rename_i links
    simpa [Statement.KeepsZero] using links
  · exact keepsZero_nil

theorem compileJal_keeps (pc insn : Word) (rd : BitVec 5) : KeepsZero (compileJal pc insn rd) := by
  simp [compileJal, Statement.KeepsZero, compileLink_keeps]

theorem compileJalr_keeps (pc : Word) (rd rs1 : BitVec 5) (imm12 : Word) :
    KeepsZero (compileJalr pc rd rs1 imm12) := by
  simp [compileJalr, Statement.KeepsZero, compileLink_keeps]

theorem compileBranch_keeps (pc insn : Word) (type : BitVec 3) (rs1 rs2 : BitVec 5) :
    KeepsZero (compileBranch pc insn type rs1 rs2) := by
  rcases type_cases type with rfl | rfl | rfl | rfl | rfl | rfl | rfl | rfl <;>
    simp [compileBranch, Statement.KeepsZero]

theorem compileSystem_keeps (doNewlib : Bool) (insn : Word) (type : BitVec 3)
    (rd rs1 : BitVec 5) : KeepsZero (compileSystem doNewlib insn type rd rs1) := by
  unfold compileSystem
  repeat' split
  all_goals simp [Statement.KeepsZero]

theorem rvInsn_keeps (doNewlib : Bool) (pc insn : Word) :
    KeepsZero (rvInsn doNewlib pc insn) ↔ ¬ AssignsZero insn := by
  have nop : insn = 0x00000013 → insn.extractLsb' 12 3 = (0 : BitVec 3) := by
    rintro rfl
    rfl
  have label : (Statement.label pc).KeepsZero := trivial
  simp only [rvInsn, AssignsZero, keepsZero_cons, label, true_and]
  generalize opcodeOf : insn.extractLsb' 0 7 = opcode
  split
  · simp [compileAlu_keeps]
  · simp [compileAlui_keeps _ _ _ _ _ _ nop]
  · simp [compileStore_keeps]
  · simp [compileLoad_keeps]
  · simp [Statement.KeepsZero]
  · simp [Statement.KeepsZero]
  · simp [compileJal_keeps]
  · simp [compileJalr_keeps]
  · simp [compileBranch_keeps]
  · simp [compileSystem_keeps]
  · simp_all

/-- The functions that the printed code calls, by name and arguments. -/
abbrev Runtime := String → List Word → Machine → Option Machine

/-- The switch at `next` goes by the word that `pc` is in. -/
def Statement.runWith (cfg : Config) (runtime : Runtime) (s : Machine) :
    Statement → Option (Machine × Option Word)
  | .call function arguments => do
      let values ← arguments.mapM fun argument => argument.eval s.variable
      let s ← runtime function (values.map fun value => value.bits) s
      some (s, none)
  | .gotoNext => some (s, some ((s.cpu.pc >>> 2) <<< 2))
  | statement => statement.run cfg s

def runEmitted (cfg : Config) (runtime : Runtime) :
    List Statement → Machine → Option (Machine × Option Word)
  | [], s => some (s, none)
  | statement :: rest, s => do
      let result ← statement.runWith cfg runtime s
      match result.2 with
      | none => runEmitted cfg runtime rest result.1
      | some target => some (result.1, some target)

structure Threaded where
  machine : Machine
  label : Word

inductive EmittedStep (cfg : Config) (runtime : Runtime) (program : Word → Word) :
    Threaded → Word → Threaded → Prop
  | instruction {s t : Machine} {pc : Word} {jump : Option Word}
      (ran : runEmitted cfg runtime (rvInsn cfg.doNewlib pc (program pc)) s = some (t, jump)) :
      EmittedStep cfg runtime program ⟨s, pc⟩ pc ⟨t, jump.getD (pc + 4)⟩

def Runtime.KeepsZero (runtime : Runtime) : Prop :=
  ∀ function arguments s t, runtime function arguments s = some t →
    s.cpu.reg 0 = 0 → t.cpu.reg 0 = 0

section Runs

variable {cfg : Config} {runtime : Runtime} {s : Machine}

theorem assign_zero {target : CExpr} {value : Word} {t : Machine} (zero : s.cpu.reg 0 = 0)
    (keeps : MayBeAssigned target) (assigned : s.assign target value = some t) :
    t.cpu.reg 0 = 0 := by
  unfold Machine.assign at assigned
  split at assigned
  · rename_i n
    obtain rfl := Option.some.inj assigned
    have other : (0 : BitVec 5) ≠ n := fun same => keeps same.symm
    simp only [Machine.setReg, Function.update_of_ne other, zero]
  · obtain rfl := Option.some.inj assigned
    exact zero
  · cases assigned

theorem toOption_eq_some {α : Type} {outcome : Except Abort α} {value : α}
    (given : outcome.toOption = some value) : outcome = .ok value := by
  cases outcome with
  | error abort => cases given
  | ok other =>
      obtain rfl := Option.some.inj given
      rfl

theorem runWith_zero (runtimeKeeps : runtime.KeepsZero) {statement : Statement}
    {result : Machine × Option Word} (zero : s.cpu.reg 0 = 0) (keeps : statement.KeepsZero)
    (ran : statement.runWith cfg runtime s = some result) : result.1.cpu.reg 0 = 0 := by
  cases statement with
  | label addr =>
      obtain rfl := Option.some.inj ran
      exact zero
  | comment text =>
      obtain rfl := Option.some.inj ran
      exact zero
  | assign target value =>
      simp only [Statement.runWith, Statement.run, Option.bind_eq_bind,
        Option.bind_eq_some_iff] at ran
      obtain ⟨bits, _, after, assigned, ran⟩ := ran
      obtain rfl := Option.some.inj ran
      exact assign_zero zero keeps assigned
  | read target function addr =>
      simp only [Statement.runWith, Statement.run, Option.bind_eq_bind,
        Option.bind_eq_some_iff] at ran
      obtain ⟨place, _, read, served, after, assigned, ran⟩ := ran
      obtain rfl := Option.some.inj ran
      have same := MemoryRead.run_reg (toOption_eq_some served)
      exact assign_zero ((congrFun same 0).trans zero) keeps assigned
  | write function addr value =>
      simp only [Statement.runWith, Statement.run, Option.bind_eq_bind,
        Option.bind_eq_some_iff] at ran
      obtain ⟨place, _, bits, _, after, written, ran⟩ := ran
      obtain rfl := Option.some.inj ran
      have same := MemoryWrite.run_reg (toOption_eq_some written)
      exact (congrFun same 0).trans zero
  | gotoIf test target =>
      simp only [Statement.runWith, Statement.run, Option.bind_eq_bind,
        Option.bind_eq_some_iff] at ran
      obtain ⟨flag, _, ran⟩ := ran
      obtain rfl := Option.some.inj ran
      exact zero
  | gotoNext =>
      obtain rfl := Option.some.inj ran
      exact zero
  | call function arguments =>
      simp only [Statement.runWith, Option.bind_eq_bind, Option.bind_eq_some_iff] at ran
      obtain ⟨values, _, after, called, ran⟩ := ran
      obtain rfl := Option.some.inj ran
      exact runtimeKeeps _ _ _ _ called zero

theorem runEmitted_zero (runtimeKeeps : runtime.KeepsZero) {statements : List Statement}
    {result : Machine × Option Word} (zero : s.cpu.reg 0 = 0) (keeps : KeepsZero statements)
    (ran : runEmitted cfg runtime statements s = some result) : result.1.cpu.reg 0 = 0 := by
  induction statements generalizing s with
  | nil =>
      obtain rfl := Option.some.inj ran
      exact zero
  | cons statement rest ih =>
      obtain ⟨first, later⟩ := (keepsZero_cons statement rest).mp keeps
      rw [runEmitted, Option.bind_eq_bind, Option.bind_eq_some_iff] at ran
      obtain ⟨middle, one, ran⟩ := ran
      have kept := runWith_zero runtimeKeeps zero first one
      split at ran
      · exact ih kept later ran
      · obtain rfl := Option.some.inj ran
        exact kept

theorem emittedRuns_zero (runtimeKeeps : runtime.KeepsZero) {program : Word → Word}
    {source target : Threaded} {labels : List Word}
    (runs : Runs (EmittedStep cfg runtime program) source labels target)
    (zero : source.machine.cpu.reg 0 = 0)
    (clean : ∀ pc ∈ labels, ¬ AssignsZero (program pc)) : target.machine.cpu.reg 0 = 0 := by
  have history := runs.labels_of_invariant (fun state => state.machine.cpu.reg 0 = 0)
    (fun pc => ¬ AssignsZero (program pc)) (fun _ => True) ?_ zero clean
  · exact history.1
  · intro state pc after holds avoids moved
    cases moved with
    | instruction ran =>
        exact ⟨runEmitted_zero runtimeKeeps holds ((rvInsn_keeps _ _ _).mpr avoids) ran, trivial⟩

end Runs

/-- The statements for a word leave `r[0]` alone exactly when the word does not assign to `x0`. A
program of such words starts every instruction with `r[0]` at zero, as `execute` ends every one. -/
theorem hardwired_zero_iff (cfg : Config) (runtime : Runtime) (runtimeKeeps : runtime.KeepsZero) :
    (∀ doNewlib pc insn, KeepsZero (rvInsn doNewlib pc insn) ↔ ¬ AssignsZero insn) ∧
      (∀ (program : Word → Word) (source target : Threaded) (labels : List Word),
        Runs (EmittedStep cfg runtime program) source labels target →
        source.machine.cpu.reg 0 = 0 → (∀ pc ∈ labels, ¬ AssignsZero (program pc)) →
          target.machine.cpu.reg 0 = 0) ∧
      ∀ vlp s t, execute cfg vlp s = .ok t → t.cpu.reg 0 = 0 := by
  refine ⟨rvInsn_keeps, ?_, ?_⟩
  · intro program source target labels runs zero clean
    exact emittedRuns_zero runtimeKeeps runs zero clean
  · intro vlp s t executed
    exact execute_zero executed

/-- The functions of the interpreter under the printed names, but for the system calls. -/
def interpreterRuntime (cfg : Config) : Runtime := fun function arguments s =>
  match arguments with
  | [] =>
      if function = "ecall" then some (ecall s)
      else if function = "ebreak" then some (ebreak s)
      else if function = "mret" then some (mret s)
      else if function = "sret" ∨ function = "wfi" then some s
      else none
  | [type, csr, rd, rs, imm32] =>
      let access (type : CsrType) : Option Machine :=
        some (csrInsn cfg type csr (rd.setWidth 5) (rs.setWidth 5) imm32 s)
      if function ≠ "csr_insn" then none
      else if type = 1 then access .w
      else if type = 2 then access .s
      else if type = 3 then access .c
      else none
  | _ => none

theorem csrInsn_zero (cfg : Config) (type : CsrType) (csr : Word) (rd rs : BitVec 5)
    (imm32 : Word) {s : Machine} (zero : s.cpu.reg 0 = 0) :
    (csrInsn cfg type csr rd rs imm32 s).cpu.reg 0 = 0 := by
  obtain ⟨value, _, _, _, _, _, _, _, _, parts⟩ := csrInsn_parts cfg type csr rd rs imm32 s
  rw [parts]
  simp only
  split
  · rename_i target
    have other : (0 : BitVec 5) ≠ rd := fun same => target same.symm
    simp only [Machine.setReg, Function.update_of_ne other, zero]
  · exact zero

theorem interpreterRuntime_keepsZero (cfg : Config) : (interpreterRuntime cfg).KeepsZero := by
  intro function arguments s t called zero
  unfold interpreterRuntime at called
  split at called
  · repeat' split at called
    all_goals cases called
    all_goals exact zero
  · simp only at called
    repeat' split at called
    all_goals cases called
    all_goals exact csrInsn_zero _ _ _ _ _ _ zero
  · cases called

def emittedSteps (cfg : Config) (runtime : Runtime) (program : Word → Word) :
    Nat → Threaded → Option (List Word × Threaded)
  | 0, s => some ([], s)
  | n + 1, s => do
      let result ← runEmitted cfg runtime (rvInsn cfg.doNewlib s.label (program s.label)) s.machine
      let rest ← emittedSteps cfg runtime program n ⟨result.1, result.2.getD (s.label + 4)⟩
      some (s.label :: rest.1, rest.2)

theorem emittedSteps_runs {cfg : Config} {runtime : Runtime} {program : Word → Word} {n : Nat}
    {s t : Threaded} {labels : List Word}
    (completed : emittedSteps cfg runtime program n s = some (labels, t)) :
    Runs (EmittedStep cfg runtime program) s labels t := by
  induction n generalizing s labels with
  | zero =>
      obtain ⟨rfl, rfl⟩ := Prod.mk.inj (Option.some.inj completed)
      exact .nil s
  | succ n ih =>
      simp only [emittedSteps, Option.bind_eq_bind, Option.bind_eq_some_iff] at completed
      obtain ⟨result, ran, rest, later, completed⟩ := completed
      obtain ⟨rfl, rfl⟩ := Prod.mk.inj (Option.some.inj completed)
      exact .cons (.instruction ran) (ih later)

def vectorProgram (pc : Word) : Word := if pc = 0 then 0x00100293 else 0x30529073

theorem hardwired_zero_iff_vector :
    ∃ t, Runs (EmittedStep (Config.standard Host.silent)
        (interpreterRuntime (Config.standard Host.silent)) vectorProgram)
      ⟨(Simulator.boot (smallMemory 0x20000000 []) 0 0).machine, 0⟩ [0, 4] t ∧
      t.machine.cpu.mtvec = 1 ∧ t.machine.cpu.reg 0 = 0 := by
  have evaluated : (emittedSteps (Config.standard Host.silent)
      (interpreterRuntime (Config.standard Host.silent)) vectorProgram 2
      ⟨(Simulator.boot (smallMemory 0x20000000 []) 0 0).machine, 0⟩).map
        (fun done => (done.1, done.2.machine.cpu.mtvec)) = some ([0, 4], 1) := by
    decide +kernel
  obtain ⟨⟨labels, t⟩, completed, equal⟩ := Option.map_eq_some_iff.mp evaluated
  obtain ⟨rfl, vector⟩ := Prod.mk.inj equal
  have runs := emittedSteps_runs completed
  have clean : ∀ pc ∈ [0, 4], ¬ AssignsZero (vectorProgram pc) := by
    intro pc member
    rcases List.mem_pair.mp member with rfl | rfl
    · decide +kernel
    · decide +kernel
  refine ⟨t, runs, vector, ?_⟩
  exact (hardwired_zero_iff (Config.standard Host.silent)
    (interpreterRuntime (Config.standard Host.silent))
    (interpreterRuntime_keepsZero _)).2.1 vectorProgram _ t [0, 4] runs rfl clean

/-- `lui x0,1` becomes `r[0] = 0x00001000;`. -/
theorem printed_assigns_zero : ¬ ∀ (doNewlib : Bool) (pc insn : Word),
    KeepsZero (rvInsn doNewlib pc insn) := by
  intro claimed
  have keeps := claimed false 0 0x00001037
  have member : Statement.assign (register 0) (.hex 0x00001000) ∈ rvInsn false 0 0x00001037 :=
    List.mem_cons_of_mem _ List.mem_cons_self
  exact keeps _ member rfl

end RiscVFast
