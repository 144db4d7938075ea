import RiscVFast.Effects
import RiscVFast.MemoTables
import RiscVFast.Lib.MaskTable
import RiscVFast.Lib.Rv32i
import RiscVFast.Computational
import RiscVFast.Rounds
import RiscVFast.ControlTransfer
import RiscVFast.LoadStore
import RiscVFast.Lib.FirstVisit
import RiscVFast.VliwCache
import RiscVFast.Writes
import RiscVFast.TextImmutable
import RiscVFast.TextStores
import RiscVFast.Traps
import RiscVFast.Interrupts
import RiscVFast.Bounds
import RiscVFast.CsrAccess
import RiscVFast.ProgramCounter
import RiscVFast.Undecodable
import RiscVFast.Lib.RvExtensions
import RiscVFast.MulDiv
import RiscVFast.CycleCounter
import RiscVFast.Pieces
import RiscVFast.Lib.CInt
import RiscVFast.RvCompile
import RiscVFast.Translator
import RiscVFast.HardwiredZero
import RiscVFast.Decompressors
import RiscVFast.Quadrants
import RiscVFast.DecompressorsAgree
import RiscVFast.Elf
import RiscVFast.Lib.Loops
import RiscVFast.Lib.Overlay
import RiscVFast.ElfFile
import RiscVFast.ElfSections
import RiscVFast.ElfCopies
import RiscVFast.ElfBounds
import RiscVFast.ElfSegments
import RiscVFast.ElfImage
import RiscVFast.ElfLoads
import RiscVFast.LoadEffects
import RiscVFast.Tracing
import RiscVFast.LoadedSections
import RiscVFast.Heap
import RiscVFast.MemoryLayout
import RiscVFast.Listings
import RiscVFast.AddressChecks
import RiscVFast.LongOptions
import RiscVFast.Transfers
import RiscVFast.Lib.WordLoop
import RiscVFast.Lib.Arc
import RiscVFast.Lib.AsmText
import RiscVFast.Disasm
import RiscVFast.Assembly
import RiscVFast.Disassembly
import RiscVFast.FileNames
import RiscVFast.Lib.GotoProgram
import RiscVFast.FreshText
import RiscVFast.ThreadedProgram
import RiscVFast.ThreadedRuns
import RiscVFast.Lib.Rvc
import RiscVFast.Expansions
import RiscVFast.Lib.RvHart
import RiscVFast.Architecture
import RiscVFast.Programs
import RiscVFast.Decoding
import RiscVFast.Lib.Poller
import RiscVFast.PollTiming
import RiscVFast.Preemption
import RiscVFast.Reflection
import RiscVFast.Outputs
import RiscVFast.SystemCalls
import RiscVFast.Processes
import RiscVFast.Lib.Strtol
import RiscVFast.Lib.Words
import RiscVFast.Debugger
import RiscVFast.DebugSessions
import RiscVFast.AddressOptions
