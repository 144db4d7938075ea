import RiscVFast.Disassembly
import RiscVFast.FreshText
import RiscVFast.ProgramCounter
import RiscVFast.ThreadedProgram

/-! Whole runs of the interpreter and of the printed function. -/

namespace RiscVFast

open Rv32i hiding Word
open CInt Fallible Transition GotoProgram

/-! The instructions whose meaning the translator keeps. -/

/-- Those of the base instruction set that do not write `x0`, with `nop` and the jumps without a
link. -/
inductive Translated : Word → Vliw → Prop
  | general {word : Word} {vlp : Vliw} {writes : Bool} (opcode : Rv32iOpcode vlp.opcode writes)
      (target : writes = true → vlp.rd ≠ 0) : Translated word vlp
  | jump {word : Word} {vlp : Vliw} (opcode : vlp.opcode = .j ∨ vlp.opcode = .jr) :
      Translated word vlp
  | nop : Translated 0x00000013 vliwNop

section Words

variable {cfg : Config} {pc word : Word} {vlp : Vliw} {s : Machine}

theorem found_of_decode {found : Bool} (wide : isWide word = true)
    (decoded : decodeAlone word = .ok (found, vlp)) (other : vlp.opcode ≠ .nop) :
    found = true := by
  rw [decodeAlone_wide word wide, scanWide] at decoded
  split at decoded
  · obtain ⟨-, rfl⟩ := Prod.mk.inj (Except.ok.inj decoded)
    exact absurd rfl other
  · obtain ⟨vlp', -, same⟩ := map_eq_ok.mp decoded
    exact (Prod.mk.inj same).1.symm

theorem translates_goto {target : CExpr} {destination : Word} (zero : s.cpu.reg 0 = 0)
    (dispatched : dispatch cfg vlp (s.at pc) = .ok ((s.at pc).setPcNext destination))
    (yields : s.Yields target destination) :
    Translates cfg pc (.label pc :: ([.assign (.var .pc) target] ++ compileLink 0 (pc + 4) ++
      [.gotoNext])) vlp s := by
  intro t executed
  have cleared := clear_unchanged ((s.at pc).setPcNext destination) zero
  rw [execute, dispatched, map_ok, cleared, Except.ok.injEq] at executed
  obtain ⟨kind, evaluated⟩ := yields
  refine ⟨({ s with cpu.pc := destination }, destination), ?_, ?_⟩
  · simp only [compileLink, ne_eq, not_true_eq_false, if_false, List.append_nil, List.cons_append,
      List.nil_append, runThreaded, runStatements, Statement.run, evaluated, Machine.assign,
      Option.bind_eq_bind, Option.bind_some]
    rfl
  · rw [← executed]
    exact ⟨rfl, rfl, rfl, rfl⟩

theorem translates_j (wide : isWide word = true) (decoded : decodeAlone word = .ok (true, vlp))
    (opcode : vlp.opcode = .j) (zero : s.cpu.reg 0 = 0) :
    Translates cfg pc (rvInsn cfg.doNewlib pc word) vlp s := by
  obtain ⟨masked, items⟩ := masked_of_decode wide decoded (by rw [opcode]; exact j_rows)
  have field : word.extractLsb' 0 7 = 0x6f#7 := field_of_masked masked (by decide)
  have noLink : word.extractLsb' 7 5 = 0#5 := field_of_masked masked (by decide)
  have operands : decodeItems word ["joff"] (Vliw.ofOpcode .j) =
      .ok ⟨.j, 0, 0, 0, joffImm word⟩ := by
    simp [decodeItems, decodeItem, Vliw.ofOpcode]
  rw [opcode, operands, Except.ok.injEq] at items
  subst items
  rw [rvInsn_of_jal field, compileJal, joff_eq, noLink]
  exact translates_goto zero rfl (yields_hex s _)

theorem translates_jr (wide : isWide word = true) (decoded : decodeAlone word = .ok (true, vlp))
    (opcode : vlp.opcode = .jr) (zero : s.cpu.reg 0 = 0) :
    Translates cfg pc (rvInsn cfg.doNewlib pc word) vlp s := by
  obtain ⟨masked, items⟩ := masked_of_decode wide decoded (by rw [opcode]; exact jr_rows)
  have field : word.extractLsb' 0 7 = 0x67#7 := field_of_masked masked (by decide)
  have noLink : word.extractLsb' 7 5 = 0#5 := field_of_masked masked (by decide)
  have noOffset : mkSimm12 word = 0#32 := by
    have imm : word.extractLsb' 20 12 = 0#12 := field_of_masked masked (by decide)
    rw [word_iType word, mkSimm12_iType, imm]
    rfl
  have operands : decodeItems word ["rs1"] (Vliw.ofOpcode .jr) =
      .ok ⟨.jr, 0, word.extractLsb' 15 5, 0, 0⟩ := by
    simp [decodeItems, decodeItem, Vliw.ofOpcode]
  rw [opcode, operands, Except.ok.injEq] at items
  subst items
  rw [rvInsn_of_jalr field, compileJalr, simm12_eq, noOffset, noLink]
  exact translates_goto zero rfl (yields_register s _)

theorem translates_nop (zero : s.cpu.reg 0 = 0) :
    Translates cfg pc (rvInsn cfg.doNewlib pc 0x00000013) vliwNop s := by
  intro t executed
  rw [execute_nop cfg (s.at pc) zero, Except.ok.injEq] at executed
  refine ⟨(s, pc + 4), rfl, ?_⟩
  rw [← executed]
  exact ⟨rfl, rfl, rfl, rfl⟩

theorem Translated.translates (translated : Translated word vlp) (wide : isWide word = true)
    (decodes : decodeWord word = .ok vlp) (zero : s.cpu.reg 0 = 0) :
    Translates cfg pc (rvInsn cfg.doNewlib pc word) vlp s := by
  obtain ⟨⟨found, vlp'⟩, decoded, rfl⟩ := map_eq_ok.mp decodes
  have decoded_of (other : vlp'.opcode ≠ .nop) : decodeAlone word = .ok (true, vlp') := by
    rw [← found_of_decode wide decoded other]
    exact decoded
  cases translated with
  | general opcode target =>
      generalize operation : vlp'.opcode = op at opcode decoded_of
      cases opcode with
      | imm op =>
          exact translates_imm op wide (decoded_of (by cases op <;> decide)) operation
            (target rfl) zero
      | shift op =>
          exact translates_shift op wide (decoded_of (by cases op <;> decide)) operation
            (target rfl) zero
      | reg op =>
          exact translates_reg op wide (decoded_of (by cases op <;> decide)) operation
            (target rfl) zero
      | lui => exact translates_lui wide (decoded_of (by decide)) operation (target rfl) zero
      | auipc => exact translates_auipc wide (decoded_of (by decide)) operation (target rfl) zero
      | jal => exact translates_jal wide (decoded_of (by decide)) operation (target rfl) zero
      | jalr => exact translates_jalr wide (decoded_of (by decide)) operation (target rfl) zero
      | branch op =>
          exact translates_branch op wide (decoded_of (by cases op <;> decide)) operation zero
      | load op =>
          exact translates_load op wide (decoded_of (by cases op <;> decide)) operation
            (target rfl) zero
      | store op =>
          exact translates_store op wide (decoded_of (by cases op <;> decide)) operation zero
  | jump opcode =>
      rcases opcode with jumps | returns
      · exact translates_j wide (decoded_of (by rw [jumps]; decide)) jumps zero
      · exact translates_jr wide (decoded_of (by rw [returns]; decide)) returns zero
  | nop => exact translates_nop zero

end Words

/-! What these instructions act on. -/

def Machine.core (s : Machine) : Machine where
  cpu := { Cpu.reset with reg := s.cpu.reg, pc := s.cpu.pc, pcNext := s.cpu.pcNext }
  memory := s.memory
  calls := 0
  events := s.events

section Core

variable {cfg : Config} {s t : Machine}

@[simp] theorem core_pc (s : Machine) : s.core.cpu.pc = s.cpu.pc := rfl

@[simp] theorem core_pcNext (s : Machine) : s.core.cpu.pcNext = s.cpu.pcNext := rfl

@[simp] theorem core_events (s : Machine) : s.core.events = s.events := rfl

@[simp] theorem core_core (s : Machine) : s.core.core = s.core := rfl

end Core

/-! One instruction in the printed function. -/

/-- The state of the printed function when the interpreter has this one. The function has said
nothing about a wrong `pc` or a changed `x0`. -/
structure Follows (s : Machine) (state : ThreadedState) : Prop where
  reg : state.machine.cpu.reg = s.cpu.reg
  memory : state.machine.memory = s.memory
  events : state.machine.events = s.events
  said : ∀ saying ∈ state.said,
    saying = .text "." ∨ saying = .text "Bad sp register!!!\n" ∨ saying = .dump

section Blocks

variable {cfg : Config} {runtime : Runtime} {s t : Machine} {state : ThreadedState}

theorem Follows.say (follows : Follows s state) {saying : Saying}
    (allowed : saying = .text "." ∨ saying = .text "Bad sp register!!!\n" ∨ saying = .dump) :
    Follows s (state.say saying) := by
  refine ⟨follows.reg, follows.memory, follows.events, ?_⟩
  intro other member
  rcases List.mem_cons.mp member with rfl | earlier
  · exact allowed
  · exact follows.said other earlier

end Blocks

/-! Where the code of a word stands. -/

section Places

variable {cfg : Config} {runtime : Runtime} {program : Word → Word}
  {addresses before rest : List Word}
  {addr : Word}

end Places

/-! One round of the interpreter in the printed function. -/

section Rounds

variable {cfg : Config} {runtime : Runtime} {program : Word → Word} {limit : Word}

theorem Translated.calm {word : Word} {vlp : Vliw} (translated : Translated word vlp) :
    vlp.opcode ≠ .ecall := by
  cases translated with
  | general opcode target =>
      generalize vlp.opcode = op at opcode
      cases opcode with
      | imm op => cases op <;> decide
      | shift op => cases op <;> decide
      | reg op => cases op <;> decide
      | branch op => cases op <;> decide
      | load op => cases op <;> decide
      | store op => cases op <;> decide
      | lui => decide
      | auipc => decide
      | jal => decide
      | jalr => decide
  | jump opcode => rcases opcode with jumps | returns <;> simp [*]
  | nop => decide

end Rounds

end RiscVFast
