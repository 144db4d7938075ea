import RiscVFast.Preemption
import RiscVFast.Debugger
import RiscVFast.Lib.Words

/-! The debugger's prompt: what it makes of its input, and what its commands make of the program. -/

namespace RiscVFast

open Rv32i hiding Word
open Fallible StoreLog Strtol Transition

theorem parseArgs_eq (count : Nat) (line : List Char) :
    parseArgs count line = (Words.words isspace line).take count := by
  induction count generalizing line with
  | zero => simp [parseArgs]
  | succ count ih =>
      rw [← Words.words_dropWhile]
      simp only [parseArgs]
      cases rest : line.dropWhile isspace with
      | nil => rw [Words.words_nil, List.take_nil]
      | cons c rest' =>
          have plain : isspace c = false := by
            have stopped := List.head_dropWhile_not isspace (l := line) (by simp [rest])
            simpa [rest] using stopped
          simp only [Words.words_cons plain, List.take_succ_cons, ih]

theorem fgets_line {line : List Char} (one : '\n' ∉ line) (rest : List Char) {room : Nat}
    (fits : line.length < room) : fgets room (line ++ '\n' :: rest) = (line ++ ['\n'], rest) := by
  induction line generalizing room with
  | nil =>
      obtain ⟨room, rfl⟩ := Nat.exists_eq_add_of_lt fits
      simp [fgets]
  | cons c line ih =>
      simp only [List.mem_cons, not_or] at one
      cases room with
      | zero => simp at fits
      | succ room =>
          rw [List.length_cons, Nat.succ_lt_succ_iff] at fits
          simp only [List.cons_append, fgets, if_neg (Ne.symm one.1), ih one.2 fits]

structure Typed (line : List Char) : Prop where
  fits : line.length ≤ 253
  one : '\n' ∉ line
  text : nul ∉ line

instance (line : List Char) : Decidable (Typed line) :=
  decidable_of_iff (line.length ≤ 253 ∧ '\n' ∉ line ∧ nul ∉ line)
    ⟨fun ⟨fits, one, text⟩ => ⟨fits, one, text⟩, fun typed => ⟨typed.fits, typed.one, typed.text⟩⟩

theorem lineOf_typed {line : List Char} (typed : Typed line) : lineOf (line ++ ['\n']) = line := by
  unfold lineOf
  have plain : ∀ c ∈ line, (c != '\n' && c != nul) = true := by
    intro c member
    have notNewline : c ≠ '\n' := fun same => typed.one (same ▸ member)
    have notNul : c ≠ nul := fun same => typed.text (same ▸ member)
    simp [notNewline, notNul]
  rw [List.takeWhile_append_of_pos plain]
  simp

theorem inputLines_typed (lines : List (List Char)) (typed : ∀ line ∈ lines, Typed line)
    {fuel : Nat} (enough : (lines.flatMap (· ++ ['\n'])).length ≤ fuel) :
    inputLines fuel (lines.flatMap (· ++ ['\n'])) = lines := by
  induction lines generalizing fuel with
  | nil => cases fuel <;> rfl
  | cons line lines ih =>
      have first := typed line (by simp)
      simp only [List.flatMap_cons, List.append_assoc, List.singleton_append, List.length_append,
        List.length_cons] at enough ⊢
      cases fuel with
      | zero => omega
      | succ fuel =>
          have fits := first.fits
          have read : fgets 254 (line ++ '\n' :: lines.flatMap (· ++ ['\n'])) =
              (line ++ ['\n'], lines.flatMap (· ++ ['\n'])) :=
            fgets_line first.one _ (by omega)
          have rest := ih (fun line member => typed line (by simp [member]))
            (by omega : (lines.flatMap (· ++ ['\n'])).length ≤ fuel)
          cases start : line ++ '\n' :: lines.flatMap (· ++ ['\n']) with
          | nil => simp at start
          | cons c input =>
              rw [start] at read
              simp only [inputLines, read, lineOf_typed first, rest]

/-- What is read is what is typed, line by line, and the arguments are the first 16 words of each
line. -/
theorem typed_words (lines : List (List Char)) (typed : ∀ line ∈ lines, Typed line) :
    let input := lines.flatMap (· ++ ['\n'])
    inputLines input.length input = lines ∧
      (inputLines input.length input).map (parseArgs 16) =
        lines.map fun line => (Words.words isspace line).take 16 := by
  intro input
  have read : inputLines input.length input = lines := inputLines_typed lines typed (Nat.le_refl _)
  refine ⟨read, ?_⟩
  rw [read]
  exact List.map_congr_left fun line _ => parseArgs_eq 16 line

theorem typed_words_run :
    inputLines 17 "  run \t 2\n\nmem 4\n".toList =
        ["  run \t 2".toList, [], "mem 4".toList] ∧
      (inputLines 17 "  run \t 2\n\nmem 4\n".toList).map (parseArgs 16) =
        [["run".toList, "2".toList], [], ["mem".toList, "4".toList]] := by
  have typed : ∀ line ∈ ["  run \t 2".toList, [], "mem 4".toList], Typed line := by decide
  obtain ⟨read, arguments⟩ := typed_words _ typed
  refine ⟨read, arguments.trans ?_⟩
  decide

inductive Command
  | quit
  | help
  | core (num : Option Word)
  | run (n : Word)
  | step
  | pc (addr : Option Word)
  | noAddress
  | load (addr : Word)
  | store (addr : Word)
  | reg (name : Option (List Char))
  | unknown (name : List Char)
deriving DecidableEq

def regShown (reg : List Char) : Bool :=
  reg.head? != some 'x' || 0 ≤ (strtol 10 reg.tail).1 && (strtol 10 reg.tail).1 < 32

def Command.shows : Command → Bool
  | .help | .core _ | .pc none | .reg none | .unknown _ => true
  | .reg (some name) => regShown name
  | _ => false

def Command.rounds : Command → Option Nat
  | .run n => some (runCount n)
  | .step => some 1
  | _ => none

def pokeWord (hart : Hart) (addr value : Word) : Hart :=
  { hart with memory.stores := ⟨addr, bytesOf 4 value⟩ :: hart.memory.stores }

def memoryWord (platform : Platform) (hart : Hart) (addr : Word) : Word :=
  platform.word { hart with pc := addr }

def Command.answer (platform : Platform) (hart : Hart) : Command → Option String
  | .run _ | .step => some (currentText hart.pc (platform.word hart))
  | .pc _ => some (pcText hart.pc)
  | .load addr | .store addr => some (memText addr (memoryWord platform hart addr))
  | .reg none => some (allRegs hart.memory.regs)
  | _ => none

section Sessions

variable {cfg : Config} {start : Memory} {hart next : Hart} {sim : Simulator}

theorem Tracks.reads (tracks : Tracks start cfg (fun _ => True) sim hart) (placed : start.Placed)
    {addr : Word} (readable : (start.platform cfg).readable addr 4) :
    read32 cfg sim.machine addr = .ok (memoryWord (start.platform cfg) hart addr, sim.machine) := by
  have readableNow := (covers_of_layout cfg tracks.layout).readable addr 4 readable
  obtain ⟨seg, found, access, bytes⟩ := Memory.Readable.served readableNow
    (tracks.layout.placed placed) (by decide) (by decide)
  have same : ∀ index < 4, (start.platform cfg).byte { hart with pc := addr } index =
      seg.data (seg.offset addr + index) := by
    intro index inside
    exact (tracks.alike.bytes _ trivial).trans (bytes index inside)
  simp only [read32, found, Segment.read32, access, map_ok, word, memoryWord, Platform.word,
    same 0 (by decide), same 1 (by decide), same 2 (by decide), same 3 (by decide), Nat.add_zero]

theorem writeWith_text {memory written : Memory} {addr : Word}
    {write : Segment → Except Abort Segment} (noCore : cfg.doCore = false)
    (wrote : memory.writeWith cfg addr write = some (.ok written)) :
    written.insnMem = memory.insnMem := by
  unfold Memory.writeWith at wrote
  split at wrote
  · obtain ⟨seg, -, rfl⟩ := map_eq_ok.mp (Option.some.inj wrote)
    rfl
  · simp [noCore] at wrote

theorem Tracks.stores (tracks : Tracks start cfg (fun _ => True) sim hart)
    (noCore : cfg.doCore = false) (placed : start.Placed) {addr : Word} (value : Word)
    (writable : (start.platform cfg).writable addr 4) :
    ∃ written, write32 cfg sim.machine addr value = .ok { sim.machine with memory := written } ∧
      Tracks start cfg (fun _ => True) { sim with machine.memory := written }
        (pokeWord hart addr value) := by
  have writableNow := (covers_of_layout cfg tracks.layout).writable addr 4 writable
  have width : (bytesOf 4 value).length = 4 := rfl
  rw [← width] at writableNow
  obtain ⟨written, stored, layout, bytes⟩ := writeWith_stored writableNow
    (tracks.layout.placed placed) (by rw [width]; decide)
  refine ⟨written, ?_, ?_⟩
  · replace stored : sim.machine.memory.writeWith cfg addr (·.write32 addr value) =
      some (.ok written) := stored
    simp only [write32, stored, map_ok]
  · exact {
      alike :=
        { pc := tracks.alike.pc
          regs := tracks.alike.regs
          bytes := by
            intro other seen
            have same := tracks.alike.bytes other seen
            simp only [pokeWord, latest, same]
            exact (bytes other).symm }
      even := tracks.even
      zero := tracks.zero
      layout := tracks.layout.trans layout
      text := (writeWith_text noCore stored).trans tracks.text
      fresh := ⟨tracks.fresh.tables, tracks.fresh.slots⟩ }

theorem Tracks.enter {visible : Word → Prop} (tracks : Tracks start cfg visible sim hart) :
    Tracks start cfg visible { sim with machine := sim.machine.enterRun } hart :=
  tracks.moved hart rfl rfl tracks.alike.pc.symm tracks.alike.regs.symm tracks.even tracks.zero
    ⟨tracks.fresh.tables, tracks.fresh.slots⟩

theorem Tracks.jumps {visible : Word → Prop} (tracks : Tracks start cfg visible sim hart)
    {addr : Word} (even : addr &&& 1 = 0) :
    Tracks start cfg visible { sim with machine.cpu.pc := addr } { hart with pc := addr } :=
  tracks.moved { hart with pc := addr } rfl rfl rfl tracks.alike.regs.symm even tracks.zero
    ⟨tracks.fresh.tables, tracks.fresh.slots⟩

theorem Between.unpolled {count : Nat} (between : Between start cfg count hart sim)
    (early : count < 15) : ¬ sim.machine.TakesInterrupt := by
  rintro ⟨point, -⟩
  unfold Machine.pollPoint at point
  rw [between.cycle] at point
  interval_cases count <;> simp at point

theorem Tracks.runs (tracks : Tracks start cfg (fun _ => True) sim hart)
    (noCore : cfg.doCore = false) (placed : start.Placed) (fits : start.insnMem.FitsCache)
    (goesOn : sim.machine.cpu.stop = false) {instrs : List Rv32i.Instr}
    (short : instrs.length ≤ 15)
    (runs : Runs (fun hart instr next => (start.platform cfg).Step hart instr next ∧
      Regular hart instr) hart instrs next) :
    ∃ after, run cfg instrs.length sim = .ok after ∧
      Tracks start cfg (fun _ => True) after next ∧ after.machine.cpu.stop = false := by
  have here : Between start cfg 0 hart { sim with machine := sim.machine.enterRun } :=
    ⟨tracks.enter, rfl, rfl, goesOn⟩
  have within : ([] : List Rv32i.Instr).length + instrs.length ≤ 15 := by simpa using short
  have performed := runLoop_performs cfg
    (fun past hart sim => Between start cfg past.length hart sim)
    (fun here => ⟨here.running, here.goesOn⟩) ?_ runs [] within here 0
  · obtain ⟨after, looped, between⟩ := performed
    exact ⟨after, looped, between.tracks, between.goesOn⟩
  · intro past hart sim instr next early between step
    obtain ⟨label, after, stepped, between, -⟩ := between.step noCore placed fits
      (between.unpolled early) step.1 step.2
    rw [List.length_append]
    exact ⟨label, after, stepped, between⟩

theorem Tracks.current (tracks : Tracks start cfg (fun _ => True) sim hart)
    (placed : start.Placed) (executable : (start.platform cfg).executable hart.pc)
    (coreId : Word) (shown : List String) :
    showCurrent cfg ⟨sim, coreId, shown⟩ =
      .ok ⟨sim, coreId, shown ++ [currentText hart.pc ((start.platform cfg).word hart)]⟩ := by
  have found := tracks.reads placed (.inr executable)
  have pc : sim.machine.cpu.pc = hart.pc := tracks.alike.pc.symm
  simp only [showCurrent, pc, found, Debugger.within, Except.mapError, ok_bind]
  rfl

end Sessions

end RiscVFast
