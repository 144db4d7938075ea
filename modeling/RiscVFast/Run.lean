import RiscVFast.Decomp16
import RiscVFast.Execute
import RiscVFast.Lib.StoreLog
import RiscVFast.Lib.Transition

/-! `Cpu::run` in the default build: `VERY_FAST`, with compressed instructions. -/

namespace RiscVFast

open StoreLog

/-- `sizeof(vliw_insn)/sizeof(Vliw) - 1`. -/
def vliwMask : Word := 0x1fffff

def vliwIndex (pc : Word) : Word := (pc >>> 1) &&& vliwMask

def expandCode (pc code32 : Word) : Except Abort (Word × Word) :=
  if code32 &&& 0x00000003 = 0x00000003 then .ok (code32, pc + 4)
  else
    let expanded := decomp16Table (code32.setWidth 16)
    if expanded = 0 then .error (.exit 1 "Unable to decompress %04x\n" (code32 &&& 0xffff))
    else .ok (expanded, pc + 2)

def fetchCode (s : Machine) : Except Abort (Word × Word) := do
  expandCode s.cpu.pc (← s.memory.insnMem.fetch32 s.cpu.pc)

/-- The cache access of `run`: a slot without an opcode is filled by the decoder, whose
return value is ignored. -/
def cacheLookup (sim : Simulator) (pc code32 : Word) : Except Abort (Vliw × Simulator) :=
  let index := vliwIndex pc
  if (sim.vliwInsn index).opcode = .none then do
    let decoded ← decode2vliw sim.tables pc code32
    .ok (decoded.vliw, { sim with
      vliwInsn := Function.update sim.vliwInsn index decoded.vliw
      tables := decoded.tables })
  else .ok (sim.vliwInsn index, sim)

def storeWidthOf : VliwOp → Option Nat
  | .sb => some 1
  | .sh => some 2
  | .sw => some 4
  | _ => none

def Vliw.address (vlp : Vliw) (s : Machine) : Word := s.cpu.reg vlp.rs1 + vlp.imm

def syscallStore (cfg : Config) (s : Machine) : Option (Store 32 Byte) :=
  if s.cpu.reg 17 = sysGettimeofday then
    let (seconds, microseconds) := cfg.host.timeOfDay s.calls
    some ⟨s.cpu.reg 10, bytesOf 4 (seconds.setWidth 32) ++
      bytesOf 4 ((seconds >>> 32).setWidth 32) ++ bytesOf 4 microseconds⟩
  else if s.cpu.reg 17 = sysRead then
    some ⟨s.cpu.reg 11, (readBytes cfg s.calls (s.cpu.reg 10) (s.cpu.reg 12)).1⟩
  else none

def Memory.takes (cfg : Config) (memory : Memory) (addr : Word) : Bool :=
  memory.isdata addr || cfg.doCore && memory.istext addr

def storeOf (cfg : Config) (vlp : Vliw) (s : Machine) : Option (Store 32 Byte) :=
  match storeWidthOf vlp.opcode with
  | some width =>
      if s.memory.takes cfg (vlp.address s) then
        some ⟨vlp.address s, bytesOf width (s.cpu.reg vlp.rs2)⟩
      else none
  | none => if vlp.opcode = .ecall ∧ cfg.doNewlib = true then syscallStore cfg s else none

structure StepLabel where
  pc : Word
  pcInc : Word
  code32 : Word
  vliw : Vliw
  externalIrq : Bool
  timeIrq : Bool
  store : Option (Store 32 Byte)
deriving DecidableEq

def StepLabel.interrupted (label : StepLabel) : Bool := label.externalIrq || label.timeIrq

def executedVliw (vliw : Vliw) (externalIrq timeIrq : Bool) : Vliw :=
  if externalIrq || timeIrq then vliwNop else vliw

def StepLabel.executed (label : StepLabel) : Vliw :=
  executedVliw label.vliw label.externalIrq label.timeIrq

def Machine.fallThrough (s : Machine) (pcInc : Word) : Machine :=
  { s with cpu.pcInc := pcInc, cpu.pcNext := pcInc }

/-- About every million cycles the timer becomes pending. -/
def Machine.fakeTimer (s : Machine) : Machine :=
  if s.cpu.cycle &&& 0xfffff = 0xfffff then { s with cpu.mip := s.cpu.mip ||| riscvMipMtip } else s

def poll (s : Machine) : Bool × Bool × Machine :=
  if s.cpu.cycle &&& 0xf = 0xf then
    let (externalIrq, s) := doExternalIrq s
    let (timeIrq, s) := doTimeIrq s
    (externalIrq, timeIrq, s.fakeTimer)
  else (false, false, s)

def Machine.advance (s : Machine) : Machine :=
  { s with cpu.pc := s.cpu.pcNext, cpu.cycle := s.cpu.cycle + 1 }

def round (cfg : Config) (code32 : Word) (vliw : Vliw) (s : Machine) :
    Except Abort (StepLabel × Machine) := do
  let (externalIrq, timeIrq, polled) := poll s
  let vlp := executedVliw vliw externalIrq timeIrq
  let executed ← execute cfg vlp polled
  let label : StepLabel :=
    { pc := s.cpu.pc, pcInc := s.cpu.pcInc, code32, vliw, externalIrq, timeIrq,
      store := storeOf cfg vlp polled }
  .ok (label, executed.advance)

/-- One round of the loop, up to the test of `stop`. -/
def step (cfg : Config) (sim : Simulator) : Except Abort (StepLabel × Simulator) := do
  let (code32, pcInc) ← fetchCode sim.machine
  let (vliw, sim) ← cacheLookup sim sim.machine.cpu.pc code32
  let (label, machine) ← round cfg code32 vliw (sim.machine.fallThrough pcInc)
  .ok (label, { sim with machine })

def Machine.clearStop (s : Machine) : Machine := { s with cpu.stop := false }

def runLoop (cfg : Config) : Nat → Simulator → Except Abort Simulator
  | 0, sim => .ok sim
  | n + 1, sim =>
      if sim.machine.cpu.running then do
        let (_, sim) ← step cfg sim
        if sim.machine.cpu.stop then .ok { sim with machine := sim.machine.clearStop }
        else runLoop cfg n sim
      else .ok sim

/-- `Cpu::run` sets `running` and starts the cycle counter anew. -/
def Machine.enterRun (s : Machine) : Machine := { s with cpu.running := true, cpu.cycle := 0 }

def run (cfg : Config) (n : Nat) (sim : Simulator) : Except Abort Simulator :=
  runLoop cfg n { sim with machine := sim.machine.enterRun }

inductive Move
  | round (label : StepLabel)
  | enter
  | leave

inductive Moves (cfg : Config) : Simulator → Move → Simulator → Prop
  | round {sim after : Simulator} {label : StepLabel}
      (stepped : step cfg sim = .ok (label, after)) : Moves cfg sim (.round label) after
  | enter (sim : Simulator) : Moves cfg sim .enter { sim with machine := sim.machine.enterRun }
  | leave (sim : Simulator) : Moves cfg sim .leave { sim with machine := sim.machine.clearStop }

def Move.label? : Move → Option StepLabel
  | .round label => some label
  | _ => none

def rounds (moves : List Move) : List StepLabel := moves.filterMap Move.label?

end RiscVFast
