import RiscVFast.LoadedSections
import RiscVFast.Lib.Loops
import RiscVFast.Lib.WordLoop
import RiscVFast.MemoTables
import RiscVFast.RvCompile

/-! The listing and the translation of the text, `disasm_all` and `rv_compile`, over the range that
`main` computes for them. What they print of a word is not followed here. -/

namespace RiscVFast

open Fallible

structure Listing where
  machine : Machine
  tables : DecodeTables
  read : List Word

def disasmRound (cfg : Config) (listing : Listing) (addr : Word) : Except Abort Listing := do
  let (insn, machine) ← read32 cfg listing.machine addr
  let decoded ← decode2vliw listing.tables addr insn
  .ok ⟨machine, decoded.tables, listing.read ++ [addr]⟩

/-- The parameter for the length is added to the start. -/
def disasmAll (cfg : Config) (fuel : Nat) (start len : Word) (listing : Listing) :
    Option (Except Abort Listing) :=
  WordLoop.run 4 (start + len) (disasmRound cfg) fuel start listing

structure Translation where
  machine : Machine
  read : List Word
  cases : List Word
  statements : List Statement

def caseRound (translation : Translation) (addr : Word) : Except Abort Translation :=
  .ok { translation with cases := translation.cases ++ [addr] }

def insnRound (cfg : Config) (translation : Translation) (addr : Word) :
    Except Abort Translation := do
  let (insn, machine) ← read32 cfg translation.machine addr
  .ok { translation with
    machine := machine
    read := translation.read ++ [addr]
    statements := translation.statements ++ rvInsn cfg.doNewlib addr insn }

def rvCompile (cfg : Config) (fuel : Nat) (addr len : Word) (translation : Translation) :
    Option (Except Abort Translation) :=
  match WordLoop.run 4 (addr + len) caseRound fuel addr translation with
  | some (.ok translation) => WordLoop.run 4 (addr + len) (insnRound cfg) fuel addr translation
  | stopped => stopped

def wordsOf (text : Area) : List Word := WordLoop.indices 4 text.base text.limit

structure ReadsText (memory : Memory) (text : Area) (read : List Word) : Prop where
  exactly : read = wordsOf text
  inside : ∀ addr ∈ read, memory.istext addr = true

structure PassesCover (cfg : Config) (s : Machine) (text : Area) : Prop where
  listing : ∃ fuel listing, disasmAll cfg fuel text.base text.limit ⟨s, .empty, []⟩ =
    some (.ok listing) ∧ ReadsText s.memory text listing.read
  translation : ∃ fuel translation, rvCompile cfg fuel 0 text.limit ⟨s, [], [], []⟩ =
    some (.ok translation) ∧ ReadsText s.memory text translation.read

/-- A word that the loader put into the text segment, as `read32` finds it: an overlapping data
segment comes first. -/
def Memory.textWord (memory : Memory) (addr : Word) : Except Abort Word :=
  (if memory.isdata addr then memory.dataMem else memory.insnMem).read32 addr

def Memory.Listable (memory : Memory) (addr : Word) : Prop :=
  ∃ result, (memory.textWord addr >>= decodeAlone) = .ok result

theorem read32_text (cfg : Config) {s : Machine} {addr : Word}
    (isText : s.memory.istext addr = true) :
    read32 cfg s addr = (s.memory.textWord addr).map fun insn => (insn, s) := by
  unfold read32 Memory.textWord Memory.readSegment
  cases s.memory.isdata addr with
  | true => rfl
  | false =>
      rw [if_neg Bool.false_ne_true, if_pos isText, if_neg Bool.false_ne_true]

theorem disasmRound_iff (cfg : Config) {listing : Listing} {addr : Word}
    (isText : listing.machine.memory.istext addr = true) (sound : listing.tables.Sound) :
    (∃ next, disasmRound cfg listing addr = .ok next) ↔
      listing.machine.memory.Listable addr := by
  unfold disasmRound Memory.Listable
  rw [read32_text cfg isText]
  cases listing.machine.memory.textWord addr with
  | error abort => simp
  | ok insn =>
      simp only [map_ok, ok_bind]
      rw [← sound.transparent addr insn]
      cases decode2vliw listing.tables addr insn with
      | error abort => simp
      | ok decoded => simp

theorem disasmRound_keeps {cfg : Config} {listing next : Listing} {addr : Word}
    (isText : listing.machine.memory.istext addr = true) (sound : listing.tables.Sound)
    (ran : disasmRound cfg listing addr = .ok next) :
    next.machine = listing.machine ∧ next.tables.Sound ∧ next.read = listing.read ++ [addr] := by
  rw [disasmRound, read32_text cfg isText] at ran
  obtain ⟨found, read, ran⟩ := bind_eq_ok.mp ran
  obtain ⟨insn, -, rfl⟩ := map_eq_ok.mp read
  obtain ⟨decoded, called, ran⟩ := bind_eq_ok.mp ran
  obtain rfl := Except.ok.inj ran
  exact ⟨rfl, sound.step called, rfl⟩

theorem insnRound_iff (cfg : Config) {translation : Translation} {addr : Word}
    (isText : translation.machine.memory.istext addr = true) :
    (∃ next, insnRound cfg translation addr = .ok next) ↔
      ∃ insn, translation.machine.memory.textWord addr = .ok insn := by
  unfold insnRound
  rw [read32_text cfg isText]
  cases translation.machine.memory.textWord addr with
  | error abort => simp
  | ok insn => simp

theorem insnRound_read {cfg : Config} {translation next : Translation} {addr : Word}
    (ran : insnRound cfg translation addr = .ok next) :
    next.read = translation.read ++ [addr] := by
  rw [insnRound] at ran
  obtain ⟨found, -, ran⟩ := bind_eq_ok.mp ran
  obtain rfl := Except.ok.inj ran
  rfl

theorem insnRound_machine {cfg : Config} {translation next : Translation} {addr : Word}
    (isText : translation.machine.memory.istext addr = true)
    (ran : insnRound cfg translation addr = .ok next) : next.machine = translation.machine := by
  rw [insnRound, read32_text cfg isText] at ran
  obtain ⟨found, read, ran⟩ := bind_eq_ok.mp ran
  obtain ⟨insn, -, rfl⟩ := map_eq_ok.mp read
  obtain rfl := Except.ok.inj ran
  rfl

section Loops

variable {cfg : Config} {s : Machine} {addresses : List Word}

theorem disasmRounds (isText : ∀ addr ∈ addresses, s.memory.istext addr = true) :
    ((∃ after, addresses.foldlM (disasmRound cfg) ⟨s, .empty, []⟩ = .ok after) ↔
        ∀ addr ∈ addresses, s.memory.Listable addr) ∧
      ∀ after, addresses.foldlM (disasmRound cfg) ⟨s, .empty, []⟩ = .ok after →
        after.read = addresses := by
  have loop := @foldlM_passes_iff _ _ _
    (fun done (listing : Listing) =>
      listing.machine = s ∧ listing.tables.Sound ∧ listing.read = done)
    (disasmRound cfg) s.memory.Listable addresses ?_ ?_ [] ⟨s, .empty, []⟩
    ⟨rfl, DecodeTables.empty_sound, rfl⟩
  · exact ⟨loop.1, fun after ran => (loop.2 after ran).2.2⟩
  · rintro done listing addr member ⟨rfl, sound, -⟩
    exact disasmRound_iff cfg (isText addr member) sound
  · rintro done listing next addr member ⟨rfl, sound, rfl⟩ ran
    exact disasmRound_keeps (isText addr member) sound ran

theorem insnRounds (isText : ∀ addr ∈ addresses, s.memory.istext addr = true)
    (cases : List Word) :
    (∃ after, addresses.foldlM (insnRound cfg) ⟨s, [], cases, []⟩ = .ok after) ↔
      ∀ addr ∈ addresses, ∃ insn, s.memory.textWord addr = .ok insn := by
  have loop := @foldlM_passes_iff _ _ _
    (fun done (translation : Translation) => translation.machine = s)
    (insnRound cfg) (fun addr => ∃ insn, s.memory.textWord addr = .ok insn) addresses ?_ ?_ []
    ⟨s, [], cases, []⟩ rfl
  · exact loop.1
  · rintro done translation addr member rfl
    exact insnRound_iff cfg (isText addr member)
  · rintro done translation next addr member rfl ran
    exact insnRound_machine (isText addr member) ran

theorem insnRounds_read {translation after : Translation}
    (ran : addresses.foldlM (insnRound cfg) translation = .ok after) :
    after.read = translation.read ++ addresses := by
  induction addresses generalizing translation with
  | nil =>
      obtain rfl := Except.ok.inj ran
      simp
  | cons addr addresses ih =>
      rw [List.foldlM_cons] at ran
      obtain ⟨next, round, ran⟩ := bind_eq_ok.mp ran
      rw [ih ran, insnRound_read round]
      simp

theorem caseRounds (addresses : List Word) (translation : Translation) :
    addresses.foldlM caseRound translation =
      .ok { translation with cases := translation.cases ++ addresses } := by
  induction addresses generalizing translation with
  | nil => simp [pure, Except.pure]
  | cons addr addresses ih =>
      rw [List.foldlM_cons, caseRound, ok_bind, ih]
      simp

end Loops

section Ranges

variable {limit : Word}

theorem stride_toNat : (4 : Word).toNat = 4 := rfl

theorem aligned_fits (aligned : 4 ∣ limit.toNat) : limit.toNat + (4 : Word).toNat ≤ 2 ^ 32 := by
  have small := limit.isLt
  rw [stride_toNat]
  omega

theorem rvCompile_eq (cfg : Config) (aligned : 4 ∣ limit.toNat) {fuel : Nat}
    (enough : (WordLoop.indices 4 0 limit).length < fuel) (s : Machine) :
    rvCompile cfg fuel 0 limit ⟨s, [], [], []⟩ =
      some ((WordLoop.indices 4 0 limit).foldlM (insnRound cfg)
        ⟨s, [], WordLoop.indices 4 0 limit, []⟩) := by
  have whole : 0 + limit = limit := BitVec.zero_add limit
  unfold rvCompile
  rw [whole, WordLoop.run_eq (by decide) (aligned_fits aligned) _ enough, caseRounds]
  exact WordLoop.run_eq (by decide) (aligned_fits aligned) _ enough _

theorem rvCompile_read {cfg : Config} (aligned : 4 ∣ limit.toNat) {fuel : Nat} {s : Machine}
    {translation : Translation}
    (ran : rvCompile cfg fuel 0 limit ⟨s, [], [], []⟩ = some (.ok translation)) :
    translation.read = WordLoop.indices 4 0 limit := by
  have whole : 0 + limit = limit := BitVec.zero_add limit
  unfold rvCompile at ran
  rw [whole] at ran
  cases labels : WordLoop.run 4 limit caseRound fuel 0 ⟨s, [], [], []⟩ with
  | none =>
      rw [labels] at ran
      cases ran
  | some outcome =>
      have numbered := WordLoop.outcome_of_run (by decide) (aligned_fits aligned) labels
      rw [caseRounds] at numbered
      rw [labels, numbered] at ran
      have printed := WordLoop.outcome_of_run (by decide) (aligned_fits aligned) ran
      exact insnRounds_read printed.symm

theorem wordsOf_inside {memory : Memory} {text : Area}
    (base : memory.insnMem.memBase.toNat ≤ text.base.toNat)
    (limit : text.limit.toNat ≤ memory.insnMem.memBase.toNat + memory.insnMem.memLen.toNat)
    {addr : Word} (member : addr ∈ wordsOf text) : memory.istext addr = true := by
  obtain ⟨lower, upper, -⟩ := WordLoop.mem_indices (by decide) member
  rw [istext_iff, Segment.offset, BitVec.toNat_sub_of_le (BitVec.le_def.mpr (by omega))]
  omega

theorem start_of_indices {text : Area} (aligned : 4 ∣ text.limit.toNat)
    (ordered : text.base.toNat ≤ text.limit.toNat)
    (same : WordLoop.indices 4 0 text.limit = wordsOf text) : text.base = 0 := by
  have bottom : (0 : Word).toNat = 0 := rfl
  by_contra moved
  have above : text.base.toNat ≠ 0 := fun isZero => moved (BitVec.eq_of_toNat_eq isZero)
  have first := @WordLoop.indices_of_lt _ 4 0 _ (by decide) (aligned_fits aligned) (by omega)
  have member : 0 ∈ wordsOf text := by
    rw [← same, first]
    exact List.mem_cons_self
  have lower := (WordLoop.mem_indices (by decide) member).1
  omega

theorem start_of_passes {cfg : Config} {s : Machine} {text : Area}
    (aligned : 4 ∣ text.limit.toNat) (ordered : text.base.toNat ≤ text.limit.toNat)
    (covers : PassesCover cfg s text) : text.base = 0 := by
  obtain ⟨fuel, translation, ran, reads⟩ := covers.translation
  refine start_of_indices aligned ordered ?_
  rw [← rvCompile_read aligned ran, reads.exactly]

theorem passesCover_iff (cfg : Config) {s : Machine} {text : Area}
    (ordered : text.base.toNat ≤ text.limit.toNat) (aligned : 4 ∣ text.limit.toNat)
    (inside : ∀ addr ∈ wordsOf text, s.memory.istext addr = true) :
    PassesCover cfg s text ↔
      text.base = 0 ∧ ∀ addr ∈ wordsOf text, s.memory.Listable addr := by
  obtain ⟨passes, read⟩ := @disasmRounds cfg s _ inside
  have whole (start : text.base = 0) : text.base + text.limit = text.limit := by
    rw [start]
    exact BitVec.zero_add _
  have fits (start : text.base = 0) :
      (text.base + text.limit).toNat + (4 : Word).toNat ≤ 2 ^ 32 := by
    rw [whole start]
    exact aligned_fits aligned
  constructor
  · intro covers
    have start := start_of_passes aligned ordered covers
    obtain ⟨fuel, listing, ran, reads⟩ := covers.listing
    have outcome := WordLoop.outcome_of_run (by decide) (fits start) ran
    rw [whole start] at outcome
    exact ⟨start, passes.mp ⟨listing, outcome.symm⟩⟩
  · rintro ⟨start, listable⟩
    constructor
    · obtain ⟨listing, ran⟩ := passes.mpr listable
      refine ⟨(wordsOf text).length + 1, listing, ?_, read listing ran, ?_⟩
      · have pass := @WordLoop.run_eq _ _ _ _ text.base _ (by decide) (fits start)
          (disasmRound cfg) ((wordsOf text).length + 1)
        rw [whole start] at pass
        rw [disasmAll, whole start, pass (Nat.lt_succ_self _)]
        exact congrArg some ran
      · rw [read listing ran]
        exact inside
    · have readable : ∀ addr ∈ wordsOf text, ∃ insn, s.memory.textWord addr = .ok insn := by
        intro addr member
        obtain ⟨result, decodes⟩ := listable addr member
        obtain ⟨insn, isInsn, -⟩ := bind_eq_ok.mp decodes
        exact ⟨insn, isInsn⟩
      have all : wordsOf text = WordLoop.indices 4 0 text.limit := by
        rw [wordsOf, start]
      obtain ⟨translation, ran⟩ := (@insnRounds cfg s _ inside (wordsOf text)).mpr readable
      refine ⟨(wordsOf text).length + 1, translation, ?_, insnRounds_read ran, ?_⟩
      · rw [all] at ran ⊢
        rw [rvCompile_eq cfg aligned (Nat.lt_succ_self _)]
        exact congrArg some ran
      · rw [insnRounds_read ran]
        exact inside

end Ranges

section LoadedText

variable {host : LoaderHost} {heapLen : Word} {file : List Byte} {before loaded : Loaded}

theorem AcceptedLoad.textInfo (load : AcceptedLoad host heapLen file before loaded)
    (empty : before.textInfo = []) : ∀ info ∈ loaded.textInfo,
      (fileAreas file).text.base.toNat ≤ info.addr.toNat ∧
        info.addr.toNat + info.size.toNat ≤ (fileAreas file).text.limit.toNat := by
  intro info member
  have infos := load.infos true
  simp only [Loaded.infos, if_true, empty, List.nil_append] at infos
  rw [infos] at member
  obtain ⟨sect, isLoaded, rfl⟩ := List.mem_map.mp member
  obtain ⟨inFile, loads⟩ := List.mem_filter.mp isLoaded
  exact load.text_inside inFile loads

/-- The passes cover the text exactly when it starts at 0 and each of its words lies whole in its
buffer and can be decoded. -/
theorem listings_cover_iff (cfg : Config) {s : Machine}
    (accepted : readElf host heapLen file before = .ok (0, loaded))
    (empty : before.textInfo = []) (memory : s.memory = loaded.memory)
    (aligned : 4 ∣ (sectionBounds loaded.textInfo).base.toNat ∧
      4 ∣ (sectionBounds loaded.textInfo).limit.toNat) :
    PassesCover cfg s (sectionBounds loaded.textInfo) ↔
      (sectionBounds loaded.textInfo).base = 0 ∧
        ∀ addr ∈ wordsOf (sectionBounds loaded.textInfo), loaded.memory.Listable addr := by
  have load := acceptedLoad_of_readElf accepted
  have inside := load.textInfo empty
  have noWrap : NoWrap loaded.textInfo := by
    intro info member
    have small := (fileAreas (fileBuffer file)).text.limit.isLt
    have within := inside info member
    omega
  obtain ⟨base, limit⟩ := sectionBounds_within noWrap inside (BitVec.isLt _)
  rw [← memory]
  refine passesCover_iff cfg ?_ aligned.2 ?_
  · cases infos : loaded.textInfo with
    | nil =>
        rw [infos] at aligned
        exact absurd aligned.1 (by decide)
    | cons info rest =>
        have covered := @sectionBounds_cover _ noWrap info (by rw [infos]; exact List.mem_cons_self)
        rw [infos] at covered
        omega
  · intro addr member
    have text := load.segment_layout true
    simp only [Memory.segment, if_true] at text
    have memBase : s.memory.insnMem.memBase = (fileAreas (fileBuffer file)).text.base := by
      rw [memory, text.memBase]
      exact allocate_memBase _ _ _ _
    have memLen : s.memory.insnMem.memLen = (fileAreas (fileBuffer file)).textLen := by
      rw [memory, text.memLen]
      exact allocate_memLen _ _ _ _
    refine wordsOf_inside ?_ ?_ member
    · rw [memBase]
      exact base
    · obtain ⟨lower, upper, -⟩ := WordLoop.mem_indices (by decide) member
      rw [memBase, memLen, Areas.textLen,
        BitVec.toNat_sub_of_le (BitVec.le_def.mpr (by omega))]
      omega

def zeroElf : List Byte :=
  elfOf [⟨0, 0, 0, 0, 0, 0⟩, ⟨1, 1, 6, 0, 280, 8⟩, ⟨7, 1, 3, 0x2000, 288, 4⟩,
    ⟨13, 8, 3, 0x2004, 292, 4⟩, ⟨18, 3, 0, 0, 252, 28⟩]
    (sectionNames ++ [0x13, 0x05, 0x70, 0x00, 0x73, 0, 0, 0, 1, 2, 3, 4])

theorem zeroElf_checks : FileChecks zeroElf ∧ ¬ LoaderRefuses zeroElf ∧
    ∀ sect ∈ fileSections zeroElf, sect.alloc = true → sect.size ≠ 0 →
      Served 0x10000 (fileAreas zeroElf) zeroElf sect := by
  decide +kernel

def zeroLoaded : Loaded := loadedFile (hostOf 0) 0x10000 zeroElf blank

theorem zeroElf_read : readElf (hostOf 0) 0x10000 zeroElf blank = .ok (0, zeroLoaded) := by
  obtain ⟨checks, taken, served⟩ := zeroElf_checks
  rw [zeroLoaded]
  exact readElf_served (wellFormed_of_checks checks) (hostOf_grants 0) taken served blank

theorem zeroLoaded_text : sectionBounds zeroLoaded.textInfo = ⟨0, 8⟩ ∧
    zeroLoaded.memory.textWord 0 = .ok 0x00700513 ∧
    zeroLoaded.memory.textWord 4 = .ok 0x00000073 ∧
    decodeAlone 0x00700513 = .ok (true, ⟨.addi, 10, 0, 0, 7⟩) ∧
    decodeAlone 0x00000073 = .ok (true, .ofOpcode .ecall) := by
  decide +kernel

theorem zeroLoaded_bounds : sectionBounds zeroLoaded.textInfo = ⟨0, 8⟩ := zeroLoaded_text.1

theorem zeroLoaded_listable :
    ∀ addr ∈ wordsOf (sectionBounds zeroLoaded.textInfo), zeroLoaded.memory.Listable addr := by
  obtain ⟨bounds, first, second, li, ecall⟩ := zeroLoaded_text
  have words : wordsOf ⟨0, 8⟩ = [0, 4] := by decide
  rw [bounds, words]
  intro addr member
  rcases List.mem_pair.mp member with rfl | rfl
  · exact ⟨_, bind_eq_ok.mpr ⟨_, first, li⟩⟩
  · exact ⟨_, bind_eq_ok.mpr ⟨_, second, ecall⟩⟩

theorem listings_cover_zero :
    PassesCover (.standard .silent) (Simulator.boot zeroLoaded.memory 0 0).machine
      (sectionBounds zeroLoaded.textInfo) :=
  (listings_cover_iff (.standard .silent) zeroElf_read rfl rfl
    (by rw [zeroLoaded_bounds]; decide)).mpr
    ⟨congrArg Area.base zeroLoaded_bounds, zeroLoaded_listable⟩

/-- Text from 0x1000 to 0x1004 is listed up to 0x2004, and translated from 0. -/
theorem listings_start_at_zero : ¬ ∀ (cfg : Config) (s : Machine) (host : LoaderHost)
    (heapLen : Word) (file : List Byte) (before loaded : Loaded),
    readElf host heapLen file before = .ok (0, loaded) → before.textInfo = [] →
      s.memory = loaded.memory → 4 ∣ (sectionBounds loaded.textInfo).base.toNat ∧
        4 ∣ (sectionBounds loaded.textInfo).limit.toNat →
      PassesCover cfg s (sectionBounds loaded.textInfo) := by
  intro covers
  have passes := covers (.standard .silent) (Simulator.boot orderedLoaded.memory 0 0).machine
    _ _ _ _ _ orderedElf_read rfl rfl (by rw [orderedLoaded_bounds]; decide)
  rw [orderedLoaded_bounds] at passes
  exact absurd (start_of_passes (by decide) (by decide) passes) (by decide)

end LoadedText

end RiscVFast
