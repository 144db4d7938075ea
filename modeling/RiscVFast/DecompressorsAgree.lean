import RiscVFast.Quadrants

/-! Where the table and the direct decompressor agree, after any sequence of decoder calls. -/

namespace RiscVFast

open MaskTable Fallible

/-! Codes with both low bits set: neither path expands them. -/

def expands (opcode : VliwOp) : Bool :=
  (expandCompressed opcode 0).toOption.isSome

theorem expandCompressed_error {opcode : VliwOp} (expanded : expands opcode = false)
    (code : Word) : ∃ abort, expandCompressed opcode code = .error abort := by
  cases opcode <;> first | exact ⟨_, rfl⟩ | exact absurd expanded (by decide)

theorem optable_lowBits : ∀ row ∈ optable,
    row.mask &&& 3 = 3 ∧ (row.code &&& 3 = 3 → expands row.vliw = false) := by
  decide +kernel

theorem lowBits_eq (code : Word) :
    code &&& (3 : Word) = (code.extractLsb' 0 2).setWidth 32 := by
  apply BitVec.eq_of_getLsbD_eq
  intro index inside
  simp only [BitVec.getLsbD_and, BitVec.getLsbD_setWidth, BitVec.getLsbD_extractLsb']
  interval_cases index <;> simp

theorem isWide_iff (code : Word) : isWide code = true ↔ code.extractLsb' 0 2 = 3 := by
  have parts : ∀ field : BitVec 2, field.setWidth 32 = (3 : Word) ↔ field = 3 := by decide
  simp only [isWide, lowBits_eq, beq_iff_eq]
  exact parts _

theorem wideCode_direct {code : BitVec 16} (op : code.extractLsb' 0 2 = 3) :
    directAlone code = none := by
  cases found : optableLookup (code.setWidth 32) with
  | none =>
      simp only [directAlone, scanCompressed, found]
      rfl
  | some row =>
      have lookup := found
      unfold optableLookup at lookup
      obtain ⟨looks, unexpanded⟩ := optable_lowBits row (List.mem_of_find?_eq_some lookup)
      have accepts := List.find?_some lookup
      simp only [Optable.matches, beq_iff_eq] at accepts
      have wide : row.code &&& 3 = 3 := by
        rw [← accepts, BitVec.and_assoc, looks, lowBits_eq, extract_wide code 0 2 (by decide), op]
        rfl
      obtain ⟨abort, refused⟩ := expandCompressed_error (unexpanded wide) (code.setWidth 32)
      simp only [directAlone, scanCompressed, found, refused]
      rfl

theorem quadrant3_settled {code : BitVec 16} (op : code.extractLsb' 0 2 = 3) : Settled code := by
  refine settled_none (table_none ?_) (wideCode_direct op) ?_
  · simp only [decomp16Table, op]
    rfl
  · simp only [decompressorsAgree, op]
    rfl

theorem settled (code : BitVec 16) : Settled code := by
  rcases four_cases (code.extractLsb' 0 2) with op | op | op | op
  · exact quadrant0_settled op
  · exact quadrant1_settled op
  · exact quadrant2_settled op
  · exact quadrant3_settled op

def NarrowSlots (tables : DecodeTables) : Prop :=
  ∀ slot, slot.extractLsb' 0 2 = 3 → tables.fastTable slot = none

theorem NarrowSlots.step {tables : DecodeTables} (narrow : NarrowSlots tables) {addr code : Word}
    {decoded : Decoded} (called : decode2vliw tables addr code = .ok decoded) :
    NarrowSlots decoded.tables := by
  cases wide : isWide code with
  | true =>
      rw [decode2vliw_of_wide tables addr wide] at called
      split at called
      · simp only [Except.ok.injEq] at called
        simpa [← called] using narrow
      · split at called
        · simp only [Except.ok.injEq] at called
          simpa [← called] using narrow
        · obtain ⟨vlp, _, called⟩ := bind_eq_ok.mp called
          simp only [Except.ok.injEq] at called
          subst called
          exact narrow
  | false =>
      rw [decode2vliw_of_narrow tables addr wide, decodeCompressed] at called
      split at called
      · simp only [Except.ok.injEq] at called
        simpa [← called] using narrow
      · split at called
        · simp only [Except.ok.injEq] at called
          simpa [← called] using narrow
        · obtain ⟨vlp, _, called⟩ := bind_eq_ok.mp called
          simp only [Except.ok.injEq] at called
          subst called
          intro slot op
          by_cases filled : slot = code.setWidth 16
          · -- Only `decode2vliw` fills slots, and it sends no such code here.
            have low : (code.setWidth 16).extractLsb' 0 2 = code.extractLsb' 0 2 := by
              apply BitVec.eq_of_getLsbD_eq
              intro index inside
              simp only [BitVec.getLsbD_extractLsb', BitVec.getLsbD_setWidth]
              simp [show index < 16 by omega]
            rw [filled, low, ← isWide_iff, wide] at op
            exact absurd op Bool.false_ne_true
          · simp only [fastAdd, Function.update_of_ne filled]
            exact narrow slot op

theorem NarrowSlots.of_calls {tables after : DecodeTables} {calls : List (Word × Word)}
    {results : List (Bool × Vliw)} (narrow : NarrowSlots tables)
    (completed : decodeCalls tables calls = .ok (results, after)) : NarrowSlots after := by
  induction calls generalizing tables results with
  | nil =>
      simp only [decodeCalls, Except.ok.injEq, Prod.mk.injEq] at completed
      obtain ⟨rfl, rfl⟩ := completed
      exact narrow
  | cons call calls ih =>
      simp only [decodeCalls] at completed
      obtain ⟨decoded, called, completed⟩ := bind_eq_ok.mp completed
      obtain ⟨⟨rest, last⟩, later, completed⟩ := bind_eq_ok.mp completed
      simp only [Except.ok.injEq, Prod.mk.injEq] at completed
      obtain ⟨rfl, rfl⟩ := completed
      exact ih (narrow.step called) later

theorem directPath_alone {tables : DecodeTables} (sound : tables.Sound)
    (narrow : NarrowSlots tables) (addr : Word) (code : BitVec 16) :
    directPath tables addr code = directAlone code := by
  have slot : (code.setWidth 32).setWidth 16 = code := by simp
  by_cases op : code.extractLsb' 0 2 = 3
  · have empty : tables.fastTable ((code.setWidth 32).setWidth 16) = none := by
      rw [slot]
      exact narrow code op
    simp only [directPath, directAlone, accepted_eq, decodeCompressed_scans tables addr _ empty]
  · have isNarrow : isWide (code.setWidth 32) = false := by
      rw [← Bool.not_eq_true, isWide_iff, extract_wide code 0 2 (by decide)]
      exact op
    simp only [directPath, directAlone, accepted_eq]
    rw [← decode2vliw_of_narrow tables addr isNarrow, sound.transparent,
      decodeAlone_compressed _ isNarrow]

/-- After any decoder calls the two decompressors agree on a code exactly when its expansion
extends no sign, keeps its registers and is not reserved. -/
theorem decompressors_agree_iff {calls : List (Word × Word)} {results : List (Bool × Vliw)}
    {tables : DecodeTables}
    (completed : decodeCalls DecodeTables.empty calls = .ok (results, tables)) (addr : Word)
    (code : BitVec 16) :
    PathsAgree (tablePath tables addr code) (directPath tables addr code) ↔
      decompressorsAgree code = true := by
  have sound := (decodeCalls_sound DecodeTables.empty_sound completed).1
  have narrow : NarrowSlots tables := NarrowSlots.of_calls (fun _ _ => rfl) completed
  rw [tablePath_alone sound, directPath_alone sound narrow]
  exact settled code

theorem decompressors_agree_iff_again : ∃ results tables,
    decodeCalls DecodeTables.empty [(0, 0x00014501), (2, 0x02a00513)] = .ok (results, tables) ∧
      (PathsAgree (tablePath tables 0 0x4501) (directPath tables 0 0x4501) ↔
        decompressorsAgree 0x4501 = true) :=
  ⟨_, _, rfl, @decompressors_agree_iff [(0, 0x00014501), (2, 0x02a00513)] _ _ rfl 0 0x4501⟩

/-- `c.slli x5, 4`: the direct path shifts `x13`. -/
theorem decompressors_differ :
    ¬ ∀ code, PathsAgree (tablePath DecodeTables.empty 0 code)
      (directPath DecodeTables.empty 0 code) := by
  intro agree
  have table : tablePath DecodeTables.empty 0 0x0292 =
      some ⟨.slli, 5, 5, 0, (4 : BitVec 5).setWidth 32⟩ := by decide +kernel
  have direct : directPath DecodeTables.empty 0 0x0292 =
      some ⟨.slli, 13, 13, 0, (4 : BitVec 5).setWidth 32⟩ := by decide +kernel
  have same := agree 0x0292
  rw [table, direct, pathsAgree_some, sameExecution_slli_iff _ _ _ (by decide)] at same
  exact absurd same (by decide)

end RiscVFast
