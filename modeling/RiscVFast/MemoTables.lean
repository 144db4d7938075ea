import RiscVFast.Decode
import RiscVFast.Lib.Fallible
import Mathlib.Data.List.Find

/-! The memo tables of the decoder hold nothing but decodes, whatever was decoded before. -/

namespace RiscVFast

open Fallible

def Decoded.result (decoded : Decoded) : Bool × Vliw := (decoded.found, decoded.vliw)

def decodeAlone (code : Word) : Except Abort (Bool × Vliw) :=
  (decode2vliw DecodeTables.empty 0 code).map Decoded.result

def isWide (code : Word) : Bool := code &&& 0x00000003 == 0x00000003

def scanWide (code : Word) : Except Abort (Bool × Vliw) :=
  match optableLookup code with
  | none => .ok (false, vliwNop)
  | some otp => (otp.decode code).map fun vlp => (true, vlp)

def scanCompressed (code : Word) : Except Abort (Bool × Vliw) :=
  match optableLookup code with
  | none => .ok (false, vliwNop)
  | some otp => (expandCompressed otp.vliw code).map fun vlp => (true, vlp)

theorem decode2vliw_of_wide (tables : DecodeTables) (addr : Word) {code : Word}
    (wide : isWide code = true) :
    decode2vliw tables addr code =
      match hashLookup tables code with
      | some hvp => .ok ⟨true, hvp, tables⟩
      | none =>
          match optableLookup code with
          | none => .ok ⟨false, vliwNop, tables⟩
          | some otp => (do
              let vlp ← otp.decode code
              .ok ⟨true, vlp, hashAdd tables code vlp⟩) := by
  have lowBits : code &&& 0x00000003 = 0x00000003 := by simpa [isWide] using wide
  unfold decode2vliw
  exact if_neg (not_not.mpr lowBits)

theorem decode2vliw_of_narrow (tables : DecodeTables) (addr : Word) {code : Word}
    (narrow : isWide code = false) :
    decode2vliw tables addr code = decodeCompressed tables addr code := by
  have lowBits : code &&& 0x00000003 ≠ 0x00000003 := by simpa [isWide] using narrow
  unfold decode2vliw
  rw [if_pos lowBits]

theorem decode2vliw_wide (tables : DecodeTables) (addr code : Word) (wide : isWide code = true)
    (missing : hashLookup tables code = none) :
    (decode2vliw tables addr code).map Decoded.result = scanWide code := by
  rw [decode2vliw_of_wide tables addr wide, missing, scanWide]
  cases optableLookup code with
  | none => rfl
  | some otp =>
      cases decoded : otp.decode code with
      | error abort => simp [decoded]
      | ok vlp => simp [decoded, Decoded.result]

theorem decodeCompressed_scans (tables : DecodeTables) (addr code : Word)
    (missing : tables.fastTable (code.setWidth 16) = none) :
    (decodeCompressed tables addr code).map Decoded.result = scanCompressed code := by
  rw [decodeCompressed, missing, scanCompressed]
  cases optableLookup code with
  | none => rfl
  | some otp =>
      cases expanded : expandCompressed otp.vliw code with
      | error abort => simp [expanded]
      | ok vlp => simp [expanded, Decoded.result]

theorem decode2vliw_compressed (tables : DecodeTables) (addr code : Word)
    (narrow : isWide code = false) (missing : tables.fastTable (code.setWidth 16) = none) :
    (decode2vliw tables addr code).map Decoded.result = scanCompressed code := by
  rw [decode2vliw_of_narrow tables addr narrow, decodeCompressed_scans tables addr code missing]

theorem hashLookup_empty (code : Word) (wide : isWide code = true) :
    hashLookup DecodeTables.empty code = none := by
  have nonzero : (0 : Word) ≠ code := by
    rintro rfl
    simp [isWide] at wide
  simp only [hashLookup, DecodeTables.empty, ne_eq, nonzero, not_false_eq_true, if_true]

theorem decodeAlone_wide (code : Word) (wide : isWide code = true) :
    decodeAlone code = scanWide code :=
  decode2vliw_wide _ 0 code wide (hashLookup_empty code wide)

theorem decodeAlone_compressed (code : Word) (narrow : isWide code = false) :
    decodeAlone code = scanCompressed code :=
  decode2vliw_compressed _ 0 code narrow rfl

/-! The upper half of the fetched word does not reach the decode of a 16-bit instruction. -/

theorem optable_halves : ∀ row ∈ optable,
    0xffff &&& row.mask = row.mask ∨ (row.mask &&& 3 = 3 ∧ row.code &&& 3 = 3) := by
  decide +kernel

theorem isWide_low (code : Word) : isWide (code &&& 0xffff) = isWide code := by
  simp only [isWide, BitVec.and_assoc]
  rfl

theorem Optable.matches_low {row : Optable} (member : row ∈ optable) (code : Word)
    (narrow : isWide code = false) : row.matches (code &&& 0xffff) = row.matches code := by
  rcases optable_halves row member with covered | ⟨maskBits, codeBits⟩
  · simp only [Optable.matches, BitVec.and_assoc, covered]
  · have refused : ∀ code : Word, isWide code = false → row.matches code = false := by
      intro code narrow
      simp only [Optable.matches, beq_eq_false_iff_ne, ne_eq]
      intro accepted
      have lowBits : code &&& 3 = 3 := by
        calc code &&& 3 = code &&& (row.mask &&& 3) := by rw [maskBits]
          _ = row.code &&& 3 := by rw [← BitVec.and_assoc, accepted]
          _ = 3 := codeBits
      simp only [isWide, lowBits, beq_self_eq_true, Bool.true_eq_false] at narrow
    rw [refused code narrow, refused (code &&& 0xffff) (by rw [isWide_low, narrow])]

theorem optableLookup_low (code : Word) (narrow : isWide code = false) :
    optableLookup (code &&& 0xffff) = optableLookup code := by
  unfold optableLookup
  exact List.find?_congr fun row member => Optable.matches_low member code narrow

theorem shift_low (code mask : Word) (amount : Nat)
    (covered : (0xffff : Word) >>> amount &&& mask = mask) :
    ((code &&& 0xffff) >>> amount) &&& mask = (code >>> amount) &&& mask := by
  rw [BitVec.ushiftRight_and_distrib, BitVec.and_assoc, covered]

theorem extract_low (code : Word) (start len : Nat) (bound : start + len ≤ 16) :
    (code &&& 0xffff).extractLsb' start len = code.extractLsb' start len := by
  apply BitVec.eq_of_getLsbD_eq
  intro index inside
  have low : (0xffff#32).getLsbD (start + index) = true := by
    have bits : ∀ position < 16, (0xffff#32).getLsbD position = true := by decide
    exact bits _ (by omega)
  simp [inside, low]

theorem compressedImms_low (code : Word) :
    mkSw (code &&& 0xffff) = mkSw code ∧ mkSwsp (code &&& 0xffff) = mkSwsp code ∧
      mkBeq (code &&& 0xffff) = mkBeq code ∧ mkAddi (code &&& 0xffff) = mkAddi code ∧
      mkAddi16sp (code &&& 0xffff) = mkAddi16sp code ∧
      mkAddi4spn (code &&& 0xffff) = mkAddi4spn code ∧ mkLwsp (code &&& 0xffff) = mkLwsp code ∧
      mkImm6 (code &&& 0xffff) = mkImm6 code ∧ jalOff (code &&& 0xffff) = jalOff code ∧
      mkShamt (code &&& 0xffff) = mkShamt code := by
  simp (disch := decide) only [mkSw, mkSwsp, mkBeq, mkAddi, mkAddi16sp, mkAddi4spn, mkLwsp, mkImm6,
    jalOff, mkShamt, shift_low, and_self]

theorem expandCompressed_low (opcode : VliwOp) (code : Word) (vlp : Vliw) :
    expandCompressed opcode (code &&& 0xffff) = .ok vlp ↔
      expandCompressed opcode code = .ok vlp := by
  obtain ⟨sw, swsp, beq, addi, addi16sp, addi4spn, lwsp, imm6, jump, shamt⟩ :=
    compressedImms_low code
  have fails : ∀ abort : Abort, (Except.error abort : Except Abort Vliw) ≠ .ok vlp := by
    intro abort same
    cases same
  have r3b2 := extract_low code 2 3 (by decide)
  have r3b7 := extract_low code 7 3 (by decide)
  have r5b2 := extract_low code 2 5 (by decide)
  have r5b7 := extract_low code 7 5 (by decide)
  -- the opcodes that no row of a 16-bit instruction has end in an error
  cases opcode
  all_goals first
    | exact iff_of_false (fails _) (fails _)
    | simp only [expandCompressed, r3b2, r3b7, r5b2, r5b7, sw, swsp, beq, addi, addi16sp, addi4spn,
        lwsp, imm6, jump, shamt]

theorem and_low_eq_of_setWidth {code code' : Word} (agree : code.setWidth 16 = code'.setWidth 16) :
    code &&& 0xffff = code' &&& 0xffff := by
  have widen : ∀ word : Word, word &&& 0xffff = (word.setWidth 16).setWidth 32 := by
    intro word
    apply BitVec.eq_of_toNat_eq
    simp only [BitVec.toNat_and, BitVec.toNat_setWidth]
    rw [Nat.mod_eq_of_lt (by omega : word.toNat % 2 ^ 16 < 2 ^ 32)]
    exact Nat.and_two_pow_sub_one_eq_mod word.toNat 16
  rw [widen, widen, agree]

theorem decodeAlone_low {code code' : Word} (narrow : isWide code = false)
    (narrow' : isWide code' = false) (agree : code.setWidth 16 = code'.setWidth 16)
    (result : Bool × Vliw) : decodeAlone code = .ok result ↔ decodeAlone code' = .ok result := by
  have toLow : ∀ word : Word, isWide word = false →
      (decodeAlone word = .ok result ↔ decodeAlone (word &&& 0xffff) = .ok result) := by
    intro word narrow
    rw [decodeAlone_compressed word narrow,
      decodeAlone_compressed (word &&& 0xffff) (by rw [isWide_low, narrow])]
    simp only [scanCompressed, optableLookup_low word narrow]
    cases optableLookup word with
    | none => rfl
    | some otp =>
        simp only [map_eq_ok]
        exact exists_congr fun vlp => and_congr_left fun _ =>
          (expandCompressed_low otp.vliw word vlp).symm
  rw [toLow code narrow, toLow code' narrow', and_low_eq_of_setWidth agree]

/-- Every occupied slot holds the decode of its own word. A slot of the hash table counts
only when its key is a 32-bit instruction. -/
structure DecodeTables.Sound (tables : DecodeTables) : Prop where
  hashed : ∀ slot, isWide (tables.vliwHashTable slot).code32 = true →
    decodeAlone (tables.vliwHashTable slot).code32 = .ok (true, (tables.vliwHashTable slot).vliw)
  fast : ∀ slot vlp, tables.fastTable slot = some vlp →
    ∀ code : Word, isWide code = false → code.setWidth 16 = slot → decodeAlone code = .ok (true, vlp)

theorem DecodeTables.empty_sound : DecodeTables.empty.Sound where
  hashed := by
    intro slot wide
    simp [DecodeTables.empty, isWide] at wide
  fast := by
    intro slot vlp found
    simp [DecodeTables.empty] at found

theorem DecodeTables.Sound.lookup {tables : DecodeTables} (sound : tables.Sound) {code : Word}
    {vlp : Vliw} (wide : isWide code = true) (found : hashLookup tables code = some vlp) :
    decodeAlone code = .ok (true, vlp) := by
  simp only [hashLookup] at found
  split at found
  · simp at found
  · rename_i hit
    simp only [ne_eq, not_not] at hit
    simp only [Option.some.injEq] at found
    have held := sound.hashed (hashIt code)
    rw [hit, found] at held
    exact held wide

theorem DecodeTables.Sound.hashAdd {tables : DecodeTables} (sound : tables.Sound) {code : Word}
    {vlp : Vliw} (decodes : decodeAlone code = .ok (true, vlp)) :
    (hashAdd tables code vlp).Sound where
  hashed := by
    refine (Function.forall_update_iff tables.vliwHashTable fun _ (element : HashElement) =>
      isWide element.code32 = true → decodeAlone element.code32 = .ok (true, element.vliw)).mpr ?_
    exact ⟨fun _ => decodes, fun slot _ => sound.hashed slot⟩
  fast := sound.fast

theorem DecodeTables.Sound.fastAdd {tables : DecodeTables} (sound : tables.Sound) {code : Word}
    {vlp : Vliw} (narrow : isWide code = false) (decodes : decodeAlone code = .ok (true, vlp)) :
    (fastAdd tables (code.setWidth 16) vlp).Sound where
  hashed := sound.hashed
  fast := by
    refine (Function.forall_update_iff tables.fastTable fun slot (held : Option Vliw) =>
      ∀ vlp, held = some vlp → ∀ code : Word, isWide code = false → code.setWidth 16 = slot →
        decodeAlone code = .ok (true, vlp)).mpr ⟨?_, fun slot _ => sound.fast slot⟩
    intro vlp' held code' narrow' same
    simp only [Option.some.injEq] at held
    subst held
    exact (decodeAlone_low narrow narrow' same.symm _).mp decodes

theorem DecodeTables.Sound.transparent {tables : DecodeTables} (sound : tables.Sound)
    (addr code : Word) :
    (decode2vliw tables addr code).map Decoded.result = decodeAlone code := by
  by_cases wide : isWide code = true
  · cases found : hashLookup tables code with
    | none => rw [decode2vliw_wide tables addr code wide found, decodeAlone_wide code wide]
    | some vlp =>
        rw [sound.lookup wide found, decode2vliw_of_wide tables addr wide, found]
        rfl
  · simp only [Bool.not_eq_true] at wide
    cases found : tables.fastTable (code.setWidth 16) with
    | none =>
        rw [decode2vliw_compressed tables addr code wide found, decodeAlone_compressed code wide]
    | some vlp =>
        rw [sound.fast _ vlp found code wide rfl, decode2vliw_of_narrow tables addr wide,
          decodeCompressed, found]
        rfl

theorem DecodeTables.Sound.step {tables : DecodeTables} (sound : tables.Sound) {addr code : Word}
    {decoded : Decoded} (called : decode2vliw tables addr code = .ok decoded) :
    decoded.tables.Sound := by
  have agrees := sound.transparent addr code
  rw [called] at agrees
  by_cases wide : isWide code = true
  · rw [decode2vliw_of_wide tables addr wide] at called
    split at called
    · simp only [Except.ok.injEq] at called
      simpa [← called] using sound
    · split at called
      · simp only [Except.ok.injEq] at called
        simpa [← called] using sound
      · obtain ⟨vlp, _, called⟩ := bind_eq_ok.mp called
        simp only [Except.ok.injEq] at called
        subst called
        exact sound.hashAdd agrees.symm
  · have narrow : isWide code = false := by simpa using wide
    rw [decode2vliw_of_narrow tables addr narrow, decodeCompressed] at called
    split at called
    · simp only [Except.ok.injEq] at called
      simpa [← called] using sound
    · split at called
      · simp only [Except.ok.injEq] at called
        simpa [← called] using sound
      · obtain ⟨vlp, _, called⟩ := bind_eq_ok.mp called
        simp only [Except.ok.injEq] at called
        subst called
        exact sound.fastAdd narrow agrees.symm

def decodeCalls : DecodeTables → List (Word × Word) → Except Abort (List (Bool × Vliw) × DecodeTables)
  | tables, [] => .ok ([], tables)
  | tables, (addr, code) :: calls => do
      let decoded ← decode2vliw tables addr code
      let (results, tables) ← decodeCalls decoded.tables calls
      .ok (decoded.result :: results, tables)

theorem decodeCalls_sound {tables after : DecodeTables} {calls : List (Word × Word)}
    {results : List (Bool × Vliw)} (sound : tables.Sound)
    (completed : decodeCalls tables calls = .ok (results, after)) :
    after.Sound ∧ List.Forall₂ (fun call result => decodeAlone call.2 = .ok result) calls results := by
  induction calls generalizing tables results with
  | nil =>
      simp only [decodeCalls, Except.ok.injEq, Prod.mk.injEq] at completed
      obtain ⟨rfl, rfl⟩ := completed
      exact ⟨sound, .nil⟩
  | cons call calls ih =>
      simp only [decodeCalls] at completed
      obtain ⟨decoded, called, completed⟩ := bind_eq_ok.mp completed
      obtain ⟨⟨rest, last⟩, later, completed⟩ := bind_eq_ok.mp completed
      simp only [Except.ok.injEq, Prod.mk.injEq] at completed
      obtain ⟨rfl, rfl⟩ := completed
      obtain ⟨lastSound, agree⟩ := ih (sound.step called) later
      have alone := sound.transparent call.1 call.2
      rw [called] at alone
      exact ⟨lastSound, .cons alone.symm agree⟩

theorem hashLookup_zeroSlot {tables : DecodeTables} {code : Word} (wide : isWide code = true)
    (untouched : tables.vliwHashTable (hashIt code) = ⟨0, Vliw.zero⟩) :
    hashLookup tables code = none := by
  have empty := hashLookup_empty code wide
  simp only [hashLookup, DecodeTables.empty] at empty
  simp only [hashLookup, untouched]
  exact empty

/-- The memo tables are transparent after any sequence of calls. -/
theorem decodeCalls_transparent (calls : List (Word × Word)) (results : List (Bool × Vliw))
    (after : DecodeTables) (completed : decodeCalls DecodeTables.empty calls = .ok (results, after)) :
    List.Forall₂ (fun call result => ∀ addr,
        (decode2vliw DecodeTables.empty addr call.2).map Decoded.result = .ok result) calls results ∧
      (∀ addr code, (decode2vliw after addr code).map Decoded.result = decodeAlone code) ∧
      (∀ code vlp, isWide code = true → hashLookup after code = some vlp →
        decodeAlone code = .ok (true, vlp)) ∧
      (∀ code, isWide code = true → after.vliwHashTable (hashIt code) = ⟨0, Vliw.zero⟩ →
        hashLookup after code = none) ∧
      (∀ code vlp, decodeAlone code = .ok (false, vlp) →
        if isWide code then hashLookup after code = none
        else after.fastTable (code.setWidth 16) = none) ∧
      (∀ addr addr' code code', isWide code = false → isWide code' = false →
        code.setWidth 16 = code'.setWidth 16 → ∀ result,
        ((decode2vliw after addr code).map Decoded.result = .ok result ↔
          (decode2vliw after addr' code').map Decoded.result = .ok result)) := by
  obtain ⟨sound, agree⟩ := decodeCalls_sound DecodeTables.empty_sound completed
  refine ⟨?_, sound.transparent, ?_, ?_, ?_, ?_⟩
  · refine agree.imp ?_
    intro call result alone addr
    rw [DecodeTables.empty_sound.transparent addr call.2, alone]
  · intro code vlp wide found
    exact sound.lookup wide found
  · intro code wide untouched
    exact hashLookup_zeroSlot wide untouched
  · intro code vlp undecodable
    split
    · rename_i wide
      cases found : hashLookup after code with
      | none => rfl
      | some held =>
          have decodes := sound.lookup wide found
          simp [undecodable] at decodes
    · rename_i narrow
      cases found : after.fastTable (code.setWidth 16) with
      | none => rfl
      | some held =>
          have decodes := sound.fast _ held found code (by simpa using narrow) rfl
          simp [undecodable] at decodes
  · intro addr addr' code code' narrow narrow' same result
    rw [sound.transparent addr code, sound.transparent addr' code']
    exact decodeAlone_low narrow narrow' same result

/-- Two words with one hash, and one 16-bit word fetched with two upper halves. -/
theorem decodeCalls_transparent_collision :
    ∃ results after,
      decodeCalls DecodeTables.empty
          [(0, 0x00000093), (4, 0xff800113), (8, 0x00000093), (12, 0x00014501), (14, 0xffff4501)] =
        .ok (results, after) ∧
      hashIt 0x00000093 = hashIt 0xff800113 ∧
      ∀ addr code, (decode2vliw after addr code).map Decoded.result = decodeAlone code := by
  refine ⟨_, _, rfl, by decide, ?_⟩
  exact (decodeCalls_transparent
    [(0, 0x00000093), (4, 0xff800113), (8, 0x00000093), (12, 0x00014501), (14, 0xffff4501)]
    _ _ rfl).2.1

end RiscVFast
