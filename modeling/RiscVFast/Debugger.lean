import RiscVFast.Disasm
import RiscVFast.Lib.Strtol
import RiscVFast.Run

/-! `debug_mode`: the interactive debugger. Lines come from standard input; what is shown is kept,
latest last. -/

namespace RiscVFast

open AsmText Strtol

def nul : Char := Char.ofNat 0

/-- At most `room` characters, up to a newline, and what is left of the input. -/
def fgets : Nat → List Char → List Char × List Char
  | _, [] => ([], [])
  | 0, input => ([], input)
  | room + 1, c :: input =>
      if c = '\n' then ([c], input)
      else
        let (line, left) := fgets room input
        (c :: line, left)

/-- The buffer is a C string; its newline is zapped. -/
def lineOf (buf : List Char) : List Char := buf.takeWhile fun c => c != '\n' && c != nul

/-- `fgets(buf, sizeof(buf)-1, stdin)`, again and again. -/
def inputLines : Nat → List Char → List (List Char)
  | 0, _ => []
  | _, [] => []
  | fuel + 1, input =>
      let (buf, left) := fgets 254 input
      lineOf buf :: inputLines fuel left

/-- `args`: each ends with a NUL in the place of the blank behind it. -/
def parseArgs : Nat → List Char → List (List Char)
  | 0, _ => []
  | count + 1, line =>
      match line.dropWhile isspace with
      | [] => []
      | c :: rest =>
          (c :: rest).takeWhile (!isspace ·) ::
            parseArgs count (((c :: rest).dropWhile (!isspace ·)).drop 1)

/-- `buf` once it is parsed: up to the first NUL, blanks in front included. -/
def parsedBuf (line : List Char) : List Char :=
  line.takeWhile isspace ++ (line.dropWhile isspace).takeWhile (!isspace ·)

structure Debugger where
  sim : Simulator
  coreId : Word
  shown : List String

/-- How a command ends that does not come back to the prompt: by `return`, by an argument or an
element of an array that does not exist, or with the process. -/
inductive DebugStop
  | quit
  | undefined
  | aborted (abort : Abort)
deriving DecidableEq

def Debugger.print (state : Debugger) (text : String) : Debugger :=
  { state with shown := state.shown ++ [text] }

def Debugger.within {α : Type} (result : Except Abort α) : Except DebugStop α :=
  result.mapError .aborted

def hex8 (value : Word) : String := printPadded 8 16 value.toNat

def currentText (pc insn : Word) : String :=
  "0x" ++ hex8 pc ++ ": 0x" ++ hex8 insn ++ "  " ++ disasm pc insn ++ "\n"

def showCurrent (cfg : Config) (state : Debugger) : Except DebugStop Debugger := do
  let pc := state.sim.machine.cpu.pc
  let (insn, machine) ← Debugger.within (read32 cfg state.sim.machine pc)
  .ok ({ state with sim.machine := machine }.print (currentText pc insn))

def Debugger.run (cfg : Config) (n : Nat) (state : Debugger) : Except DebugStop Debugger := do
  let sim ← Debugger.within (RiscVFast.run cfg n state.sim)
  showCurrent cfg { state with sim }

def regList : List String :=
  ["zero", "ra", "sp", "gp", "tp", "t0", "t1", "t2",
    "s0", "s1", "a0", "a1", "a2", "a3", "a4", "a5",
    "a6", "a7", "s2", "s3", "s4", "s5", "s6", "s7",
    "s8", "s9", "s10", "s11", "t3", "t4", "t5", "t6"]

def padLeft (width : Nat) (text : String) : String :=
  String.ofList (List.replicate (width - text.length) ' ') ++ text

def allRegs (reg : BitVec 5 → Word) : String :=
  String.join (regList.zipIdx.map fun (name, index) =>
    padLeft 4 name ++ ": 0x" ++ hex8 (reg (BitVec.ofNat 5 index)) ++
      (if index % 4 = 3 then "\n" else ""))

def dumpReg (reg : List Char) (state : Debugger) : Except DebugStop Debugger :=
  let name := String.ofList reg
  let answer (n : Nat) := state.print
    (name ++ ": " ++ hex8 (state.sim.machine.cpu.reg (BitVec.ofNat 5 n)) ++ "\n")
  if name = "all" then .ok (state.print (allRegs state.sim.machine.cpu.reg))
  else if reg.head? = some 'x' then
    let n := (strtol 10 reg.tail).1
    if 0 ≤ n ∧ n < 32 then .ok (answer n.toNat) else .error .undefined
  else
    match regList.idxOf? name with
    | some n => .ok (answer n)
    | none => .ok (state.print ("Unknown reg: " ++ name ++ "\n"))

def debugHelp : String :=
  "Interactive Debug Mode\n" ++
  "======================\n" ++
  "core [num]\t\t\t\t\tSet the current core to [num], print the current core number\n" ++
  "quit or q\t\t\t\t\tEnd the simulation\n" ++
  "pc [addr]\t\t\t\t\tSet the program counter, print the current pc\n" ++
  "mem addr [value]\t\t\tSet memory address to [value], print the memory contents\n" ++
  "reg [name]\t\t\t\t\tShow register [name], or show all\n" ++
  "run [num]\t\t\t\t\tRun for [num] cycles, or forever is no [num]\n" ++
  "r [num]\t\t\t\t\t\tSame as run\n" ++
  "step or s\t\t\t\t\tStep, execute next instruction\n" ++
  "<Enter>\t\t\t\t\t\tEnter key, same as step\n" ++
  "help or h\t\t\t\t\tShow help\n" ++
  "  [option]\t\t\t\t\tOption in above commands, if absent command just prints\n"

def intArg (text : List Char) : Word := BitVec.ofInt 32 (strtol 0 text).1

def oneArg : List (List Char) → Option (List Char)
  | [arg] => some arg
  | _ => none

/-- `cpu->run(n)` with an `int`: a negative count is a huge one. -/
def runCount (n : Word) : Nat := (n.signExtend 64).toNat

def pcText (pc : Word) : String := "PC: " ++ hex8 pc ++ "\n"

def memText (addr value : Word) : String := "0x" ++ hex8 addr ++ ": 0x" ++ hex8 value ++ "\n"

/-- `mem`: the address is overwritten with the value before it is used. -/
def memCommand (cfg : Config) (args : List (List Char)) (state : Debugger) :
    Except DebugStop Debugger :=
  match args with
  | [] => .error .undefined
  | [_, value] => do
      let addr := intArg value
      let machine ← Debugger.within (write32 cfg state.sim.machine addr addr)
      let (found, machine) ← Debugger.within (read32 cfg machine addr)
      .ok ({ state with sim.machine := machine }.print (memText addr found))
  | text :: _ => do
      let addr := intArg text
      let (found, machine) ← Debugger.within (read32 cfg state.sim.machine addr)
      .ok ({ state with sim.machine := machine }.print (memText addr found))

/-- One line. Some commands are compared with the first argument, the others with the buffer. -/
def debugCommand (cfg : Config) (line : List Char) (state : Debugger) :
    Except DebugStop Debugger :=
  let buf := String.ofList (parsedBuf line)
  match parseArgs 16 line with
  | [] => state.run cfg 1
  | first :: rest =>
      let command := String.ofList first
      if command = "q" ∨ command = "quit" then .error .quit
      else if buf = "h" ∨ buf = "help" then .ok (state.print debugHelp)
      else if command = "core" then
        let coreId := ((oneArg rest).map intArg).getD state.coreId
        .ok ({ state with coreId }.print ("Core: " ++ printSigned coreId.toInt ++ "\n"))
      else if buf = "r" ∨ buf = "run" then
        let n := ((oneArg rest).map intArg).getD (-1)
        (state.print ("Run: " ++ printSigned n.toInt ++ "\n")).run cfg (runCount n)
      else if buf = "s" ∨ buf = "step" then state.run cfg 1
      else if buf = "pc" then
        let pc := ((oneArg rest).map intArg).getD state.sim.machine.cpu.pc
        .ok ({ state with sim.machine.cpu.pc := pc }.print (pcText pc))
      else if command = "mem" then memCommand cfg rest state
      else if buf = "reg" then
        match oneArg rest with
        | some reg => dumpReg reg state
        | none => .ok (state.print (allRegs state.sim.machine.cpu.reg))
      else .ok (state.print ("Unknown command '" ++ command ++ "'\n"))

def debugLines (cfg : Config) : List (List Char) → Debugger → Except DebugStop Debugger
  | [], state => .ok state
  | line :: lines, state => do debugLines cfg lines (← debugCommand cfg line state)

/-- At the end of the input nothing is read into the buffer, and its contents are unspecified. -/
def debugMode (cfg : Config) (input : List Char) (state : Debugger) :
    Except DebugStop Debugger := do
  let state ← showCurrent cfg state
  let _ ← debugLines cfg (inputLines input.length input) state
  .error .undefined

end RiscVFast
