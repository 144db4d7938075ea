import RiscVFast.Disasm
import RiscVFast.Fields
import RiscVFast.RvCompile

/-! The immediates of `decode2vliw`, `rv_insn` and `disasm`, which each has its own code for. -/

namespace RiscVFast

open AsmText
open Rv32i hiding Word

section Formats

variable (word : Word)

theorem word_rType :
    word = rType (word.extractLsb' 25 7) (word.extractLsb' 20 5) (word.extractLsb' 15 5)
      (word.extractLsb' 12 3) (word.extractLsb' 7 5) (word.extractLsb' 0 7) := by
  apply BitVec.eq_of_getLsbD_eq
  intro index inside
  simp only [rType, BitVec.getLsbD_append, BitVec.getLsbD_extractLsb']
  interval_cases index <;> simp

theorem word_iType :
    word = iType (word.extractLsb' 20 12) (word.extractLsb' 15 5) (word.extractLsb' 12 3)
      (word.extractLsb' 7 5) (word.extractLsb' 0 7) := by
  apply BitVec.eq_of_getLsbD_eq
  intro index inside
  simp only [iType, BitVec.getLsbD_append, BitVec.getLsbD_extractLsb']
  interval_cases index <;> simp

theorem word_sType :
    word = sType (word.extractLsb' 25 7 ++ word.extractLsb' 7 5) (word.extractLsb' 20 5)
      (word.extractLsb' 15 5) (word.extractLsb' 12 3) (word.extractLsb' 0 7) := by
  apply BitVec.eq_of_getLsbD_eq
  intro index inside
  simp only [sType, BitVec.getLsbD_append, BitVec.getLsbD_extractLsb']
  interval_cases index <;> simp

theorem word_bType :
    word = bType (word.extractLsb' 31 1 ++ word.extractLsb' 7 1 ++ word.extractLsb' 25 6 ++
        word.extractLsb' 8 4) (word.extractLsb' 20 5) (word.extractLsb' 15 5)
      (word.extractLsb' 12 3) (word.extractLsb' 0 7) := by
  apply BitVec.eq_of_getLsbD_eq
  intro index inside
  simp only [bType, BitVec.getLsbD_append, BitVec.getLsbD_extractLsb']
  interval_cases index <;> simp

theorem word_uType :
    word = uType (word.extractLsb' 12 20) (word.extractLsb' 7 5) (word.extractLsb' 0 7) := by
  apply BitVec.eq_of_getLsbD_eq
  intro index inside
  simp only [uType, BitVec.getLsbD_append, BitVec.getLsbD_extractLsb']
  interval_cases index <;> simp

theorem word_jType :
    word = jType (word.extractLsb' 31 1 ++ word.extractLsb' 12 8 ++ word.extractLsb' 20 1 ++
      word.extractLsb' 21 10) (word.extractLsb' 7 5) (word.extractLsb' 0 7) := by
  apply BitVec.eq_of_getLsbD_eq
  intro index inside
  simp only [jType, BitVec.getLsbD_append, BitVec.getLsbD_extractLsb']
  interval_cases index <;> simp

end Formats

def decodeImmediates (code : Word) : Immediates where
  i := mkSimm12 code
  s := doS2imm12 code
  b := doBoff code
  j := joffImm code

theorem decodeImmediates_eq (word : Word) : decodeImmediates word = immediates word := by
  have i : mkSimm12 word = (immediates word).i := by
    conv_lhs => rw [word_iType word, mkSimm12_iType]
    rfl
  have s : doS2imm12 word = (immediates word).s := by
    conv_lhs => rw [word_sType word, doS2imm12_sType]
    rfl
  have b : doBoff word = (immediates word).b := by
    conv_lhs => rw [word_bType word, doBoff_bType]
    rfl
  have j : joffImm word = (immediates word).j := by
    conv_lhs => rw [word_jType word, joffImm_jType]
    rfl
  rw [decodeImmediates, i, s, b, j]

theorem signedImmediates_i (word : Word) : (signedImmediates word).i = (immediates word).i := by
  apply BitVec.eq_of_getLsbD_eq
  intro index inside
  simp only [signedImmediates, immediates, BitVec.getLsbD_signExtend, BitVec.getLsbD_sshiftRight,
    BitVec.getLsbD_extractLsb', BitVec.msb_eq_getLsbD_last]
  interval_cases index <;> simp

theorem signedImmediates_s (word : Word) : (signedImmediates word).s = (immediates word).s := by
  apply BitVec.eq_of_getLsbD_eq
  intro index inside
  simp only [signedImmediates, immediates, BitVec.getLsbD_signExtend, BitVec.getLsbD_sshiftRight,
    BitVec.getLsbD_or, BitVec.getLsbD_and, BitVec.getLsbD_ushiftRight, BitVec.getLsbD_append,
    BitVec.getLsbD_extractLsb', BitVec.msb_eq_getLsbD_last]
  interval_cases index <;> simp

theorem signedImmediates_b (word : Word) : (signedImmediates word).b = (immediates word).b := by
  apply BitVec.eq_of_getLsbD_eq
  intro index inside
  simp only [signedImmediates, immediates, displacement, BitVec.getLsbD_signExtend,
    BitVec.getLsbD_sshiftRight, BitVec.getLsbD_or, BitVec.getLsbD_and, BitVec.getLsbD_ushiftRight,
    BitVec.getLsbD_shiftLeft, BitVec.getLsbD_append, BitVec.getLsbD_extractLsb',
    BitVec.msb_eq_getLsbD_last]
  interval_cases index <;> simp

theorem signedImmediates_j (word : Word) : (signedImmediates word).j = (immediates word).j := by
  apply BitVec.eq_of_getLsbD_eq
  intro index inside
  simp only [signedImmediates, immediates, displacement, BitVec.getLsbD_signExtend,
    BitVec.getLsbD_sshiftRight, BitVec.getLsbD_or, BitVec.getLsbD_and, BitVec.getLsbD_ushiftRight,
    BitVec.getLsbD_shiftLeft, BitVec.getLsbD_append, BitVec.getLsbD_extractLsb',
    BitVec.msb_eq_getLsbD_last]
  interval_cases index <;> simp

theorem signedImmediates_eq (word : Word) : signedImmediates word = immediates word :=
  Immediates.ext (signedImmediates_i word) (signedImmediates_s word) (signedImmediates_b word)
    (signedImmediates_j word)

theorem signed_decodes (word : Word) : signedImmediates word = decodeImmediates word := by
  rw [signedImmediates_eq, decodeImmediates_eq]

theorem simm12_eq (word : Word) : (signedImmediates word).i = mkSimm12 word :=
  congrArg Immediates.i (signed_decodes word)

theorem s2imm12_eq (word : Word) : (signedImmediates word).s = doS2imm12 word :=
  congrArg Immediates.s (signed_decodes word)

theorem boff_eq (word : Word) : (signedImmediates word).b = doBoff word :=
  congrArg Immediates.b (signed_decodes word)

theorem joff_eq (word : Word) : (signedImmediates word).j = joffImm word :=
  congrArg Immediates.j (signed_decodes word)

/-- Each decoder's immediates are those of the architecture, whatever the word, and a branch or
jump goes to an even distance within its range. -/
theorem immediates_agree (word : Word) :
    decodeImmediates word = immediates word ∧
      rvInsnImmediates word = immediates word ∧
      disasmImmediates word = immediates word ∧
      (2 ∣ (immediates word).b.toInt ∧
        -4096 ≤ (immediates word).b.toInt ∧ (immediates word).b.toInt ≤ 4094) ∧
      (2 ∣ (immediates word).j.toInt ∧
        -1048576 ≤ (immediates word).j.toInt ∧ (immediates word).j.toInt ≤ 1048574) := by
  have branch : Reaches 12 (immediates word).b := displacement_reaches _ (by decide)
  have jump : Reaches 20 (immediates word).j := displacement_reaches _ (by decide)
  exact ⟨decodeImmediates_eq word, signedImmediates_eq word, signedImmediates_eq word,
    ⟨branch.even, branch.low, branch.high⟩, ⟨jump.even, jump.low, jump.high⟩⟩

end RiscVFast
