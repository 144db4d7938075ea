import RiscVFast.Lib.RvExtensions
import RiscVFast.Lib.Rvc
import RiscVFast.Lib.Transition

/-! A hart of RV32IMC without traps: it fetches its instructions, 32 or 16 bits wide, from the
memory it stores to. -/

namespace Rv32i

open StoreLog Transition

inductive Instr
  | computational (instr : Computational)
  | mulDiv (op : MulDivOp) (rd rs1 rs2 : Reg)
  | control (instr : Control)
  | memory (instr : MemoryInstr)
deriving DecidableEq

def Instr.encode : Instr → Word
  | .computational instr => instr.encode
  | .mulDiv op rd rs1 rs2 => op.encode rd rs1 rs2
  | .control instr => instr.encode
  | .memory instr => instr.encode

structure Hart where
  pc : Word
  memory : MemoryState

def Instr.eval (initial : Word → BitVec 8) (next : Word) (hart : Hart) : Instr → Hart
  | .computational instr => ⟨next,
      { hart.memory with regs := instr.eval hart.pc hart.memory.regs }⟩
  | .mulDiv op rd rs1 rs2 => ⟨next, { hart.memory with
      regs := writeReg hart.memory.regs rd
        (op.eval (hart.memory.regs rs1) (hart.memory.regs rs2)) }⟩
  | .control instr => ⟨instr.target hart.pc next hart.memory.regs,
      { hart.memory with regs := instr.eval next hart.memory.regs }⟩
  | .memory instr => ⟨next, instr.eval initial hart.memory⟩

/-- What memory holds at first, and where the hart may fetch, read and write how many bytes. -/
structure Platform where
  initial : Word → BitVec 8
  executable : Word → Prop
  readable : Word → Nat → Prop
  writable : Word → Nat → Prop

namespace Platform

variable (platform : Platform)

def byte (hart : Hart) (index : Nat) : BitVec 8 :=
  latest platform.initial hart.memory.stores (hart.pc + BitVec.ofNat 32 index)

def half (hart : Hart) : BitVec 16 := platform.byte hart 1 ++ platform.byte hart 0

def word (hart : Hart) : Word :=
  platform.byte hart 3 ++ platform.byte hart 2 ++ platform.byte hart 1 ++ platform.byte hart 0

inductive Fetches (hart : Hart) (instr : Instr) : Word → Prop
  | wide (found : platform.word hart = instr.encode) : Fetches hart instr (hart.pc + 4)
  | narrow (code : Rvc.Instr) (legal : code.Legal) (found : platform.half hart = code.encode)
      (stands : code.expand = instr.encode) : Fetches hart instr (hart.pc + 2)

def Serves (hart : Hart) : Instr → Prop
  | .memory instr =>
      match instr with
      | .load op _ _ _ => platform.readable (instr.address hart.memory.regs) op.width
      | .store op _ _ _ => platform.writable (instr.address hart.memory.regs) op.width
  | _ => True

inductive Step (hart : Hart) (instr : Instr) : Hart → Prop
  | retires {next : Word} (executable : platform.executable hart.pc)
      (fetched : platform.Fetches hart instr next) (served : platform.Serves hart instr) :
      Step hart instr (instr.eval platform.initial next hart)

end Platform

theorem displacement_even {width : Nat} (imm : BitVec width) (fits : width < 32) :
    displacement imm &&& 1 = 0 := by
  have even : (displacement imm).toInt = 2 * imm.toInt := displacement_toInt imm fits
  rw [BitVec.toInt_eq_toNat_cond] at even
  apply BitVec.eq_of_toNat_eq
  rw [BitVec.toNat_and]
  have one : (1 : Word).toNat = 1 := rfl
  have zero : (0 : Word).toNat = 0 := rfl
  rw [one, zero, Nat.and_one_is_mod]
  split at even <;> omega

theorem add_even {a b : Word} (even : a &&& 1 = 0) (even' : b &&& 1 = 0) : (a + b) &&& 1 = 0 := by
  apply BitVec.eq_of_toNat_eq
  have low := congrArg BitVec.toNat even
  have low' := congrArg BitVec.toNat even'
  have one : (1 : Word).toNat = 1 := rfl
  have zero : (0 : Word).toNat = 0 := rfl
  rw [BitVec.toNat_and, one, zero, Nat.and_one_is_mod] at low low' ⊢
  rw [BitVec.toNat_add]
  omega

theorem Instr.eval_even (initial : Word → BitVec 8) {next : Word} {hart : Hart}
    (even : hart.pc &&& 1 = 0) (evenNext : next &&& 1 = 0) (instr : Instr) :
    (instr.eval initial next hart).pc &&& 1 = 0 := by
  cases instr with
  | computational instr => exact evenNext
  | mulDiv op rd rs1 rs2 => exact evenNext
  | memory instr => exact evenNext
  | control instr =>
      cases instr with
      | jal rd imm => exact add_even even (displacement_even imm (by decide))
      | jalr rd rs1 imm =>
          have disjoint : ~~~(1 : Word) &&& 1 = 0 := by decide
          simp only [Instr.eval, Control.target, BitVec.and_assoc, disjoint]
          exact BitVec.and_zero
      | branch op rs1 rs2 imm =>
          simp only [Instr.eval, Control.target]
          split
          · exact add_even even (displacement_even imm (by decide))
          · exact evenNext

theorem Platform.Fetches.even {platform : Platform} {hart : Hart} {instr : Instr} {next : Word}
    (fetched : platform.Fetches hart instr next) (even : hart.pc &&& 1 = 0) :
    next &&& 1 = 0 := by
  cases fetched with
  | wide found => exact add_even even rfl
  | narrow code legal found stands => exact add_even even rfl

theorem Instr.eval_zero (initial : Word → BitVec 8) (next : Word) (hart : Hart) (instr : Instr) :
    (instr.eval initial next hart).memory.regs 0#5 = hart.memory.regs 0#5 := by
  cases instr with
  | computational instr => exact Computational.eval_zero hart.pc hart.memory.regs instr
  | mulDiv op rd rs1 rs2 => simp [Instr.eval]
  | control instr => exact Control.eval_zero next hart.memory.regs instr
  | memory instr => exact MemoryInstr.eval_zero initial hart.memory instr

theorem low_append {width : Nat} (high : BitVec width) (opcode : BitVec 7) :
    (high ++ opcode).extractLsb' 0 2 = opcode.extractLsb' 0 2 := by
  apply BitVec.eq_of_getLsbD_eq
  intro index inside
  simp only [BitVec.getLsbD_extractLsb', BitVec.getLsbD_append]
  interval_cases index <;> simp

theorem Instr.encode_wide (instr : Instr) : instr.encode.extractLsb' 0 2 = 3 := by
  rcases instr with instr | ⟨op, rd, rs1, rs2⟩ | instr | instr
  case mulDiv => exact low_append _ _
  all_goals cases instr <;> first
    | exact low_append _ _
    | rfl

namespace Platform

/-- The platform as far as it lies at some addresses: only there the hart fetches and reads. -/
def within (platform : Platform) (visible : Word → Prop) : Platform where
  initial := platform.initial
  executable := fun pc => platform.executable pc ∧ ∀ index < 4, visible (pc + BitVec.ofNat 32 index)
  readable := fun addr width => platform.readable addr width ∧
    ∀ index < width, visible (addr + BitVec.ofNat 32 index)
  writable := platform.writable

structure Covers (other platform : Platform) : Prop where
  executable : ∀ pc, platform.executable pc → other.executable pc
  readable : ∀ addr width, platform.readable addr width → other.readable addr width
  writable : ∀ addr width, platform.writable addr width → other.writable addr width

structure Alike (platform other : Platform) (visible : Word → Prop) (hart hart' : Hart) : Prop where
  pc : hart.pc = hart'.pc
  regs : hart.memory.regs = hart'.memory.regs
  bytes : ∀ addr, visible addr → latest platform.initial hart.memory.stores addr =
    latest other.initial hart'.memory.stores addr

end Platform

theorem LoadOp.extend_congr (op : LoadOp) {byte byte' : Nat → BitVec 8}
    (same : ∀ index < op.width, byte index = byte' index) : op.extend byte = op.extend byte' := by
  cases op <;> simp only [LoadOp.extend, same 0 (by decide)]
  case lh | lhu => rw [same 1 (by decide)]
  case lw => rw [same 1 (by decide), same 2 (by decide), same 3 (by decide)]

namespace Platform

variable {platform other : Platform} {visible : Word → Prop} {hart hart' : Hart} {instr : Instr}

theorem Alike.symm (alike : Alike platform other visible hart hart') :
    Alike other platform visible hart' hart :=
  ⟨alike.pc.symm, alike.regs.symm, fun addr seen => (alike.bytes addr seen).symm⟩

theorem Step.whole {after : Hart} (steps : (platform.within visible).Step hart instr after) :
    platform.Step hart instr after := by
  cases steps with
  | retires executable fetched served =>
      refine .retires executable.1 ?_ ?_
      · cases fetched with
        | wide found => exact .wide found
        | narrow code legal found stands => exact .narrow code legal found stands
      · cases instr with
        | memory instr =>
            cases instr with
            | load op rd rs1 imm => exact served.1
            | store op rs1 rs2 imm => exact served
        | _ => trivial

theorem Step.within_all {after : Hart} (steps : platform.Step hart instr after) :
    (platform.within fun _ => True).Step hart instr after := by
  cases steps with
  | retires executable fetched served =>
      refine .retires ⟨executable, fun _ _ => trivial⟩ ?_ ?_
      · cases fetched with
        | wide found => exact .wide found
        | narrow code legal found stands => exact .narrow code legal found stands
      · cases instr with
        | memory instr =>
            cases instr with
            | load op rd rs1 imm => exact ⟨served, fun _ _ => trivial⟩
            | store op rs1 rs2 imm => exact served
        | _ => trivial

theorem Alike.fetches (alike : Alike platform other visible hart hart') {next : Word}
    (seen : ∀ index < 4, visible (hart.pc + BitVec.ofNat 32 index))
    (fetched : (platform.within visible).Fetches hart instr next) :
    (other.within visible).Fetches hart' instr next := by
  have bytes : ∀ index < 4,
      (platform.within visible).byte hart index = (other.within visible).byte hart' index := by
    intro index inside
    rw [byte, byte, ← alike.pc]
    exact alike.bytes _ (seen index inside)
  cases fetched with
  | wide found =>
      rw [alike.pc]
      refine .wide ?_
      rw [← found, word, word, bytes 0 (by decide), bytes 1 (by decide), bytes 2 (by decide),
        bytes 3 (by decide)]
  | narrow code legal found stands =>
      rw [alike.pc]
      refine .narrow code legal ?_ stands
      rw [← found, half, half, bytes 0 (by decide), bytes 1 (by decide)]

theorem Alike.eval (alike : Alike platform other visible hart hart') (next : Word)
    (served : (platform.within visible).Serves hart instr) :
    Alike platform other visible (instr.eval platform.initial next hart)
      (instr.eval other.initial next hart') := by
  obtain ⟨pc, regs, bytes⟩ := alike
  cases instr with
  | computational instr => exact ⟨rfl, by simp only [Instr.eval, pc, regs], bytes⟩
  | mulDiv op rd rs1 rs2 => exact ⟨rfl, by simp only [Instr.eval, regs], bytes⟩
  | control instr =>
      exact ⟨by simp only [Instr.eval, pc, regs], by simp only [Instr.eval, regs], bytes⟩
  | memory instr =>
      cases instr with
      | load op rd rs1 imm =>
          refine ⟨rfl, ?_, bytes⟩
          have value := op.extend_congr fun index inside => bytes _ (served.2 index inside)
          simp only [Instr.eval, MemoryInstr.eval, value]
          simp only [MemoryInstr.address, regs]
      | store op rs1 rs2 imm =>
          refine ⟨rfl, regs, ?_⟩
          intro addr seen
          simp only [Instr.eval, MemoryInstr.eval, MemoryInstr.address, latest, regs,
            bytes addr seen]

theorem Alike.step (alike : Alike platform other visible hart hart')
    (covers : other.Covers platform) {after : Hart}
    (steps : (platform.within visible).Step hart instr after) :
    ∃ after', (other.within visible).Step hart' instr after' ∧
      Alike platform other visible after after' := by
  cases steps with
  | @retires next executable fetched served =>
      refine ⟨_, .retires ?_ (alike.fetches executable.2 fetched) ?_, alike.eval next served⟩
      · rw [← alike.pc]
        exact ⟨covers.executable _ executable.1, executable.2⟩
      · cases instr with
        | memory instr =>
            cases instr with
            | load op rd rs1 imm =>
                have readable := And.intro (covers.readable _ _ served.1) served.2
                simp only [MemoryInstr.address, alike.regs] at readable
                exact readable
            | store op rs1 rs2 imm =>
                have writable := covers.writable _ _ served
                simp only [MemoryInstr.address, alike.regs] at writable
                exact writable
        | _ => trivial

end Platform

end Rv32i
