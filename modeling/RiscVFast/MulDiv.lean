import RiscVFast.Computational
import RiscVFast.Lib.RvExtensions

/-! The M extension, and where the host cannot divide. -/

namespace RiscVFast

open Rv32i hiding Word
open MaskTable Fallible

theorem setWidth_eq_ofInt (word : BitVec 64) :
    word.setWidth 32 = BitVec.ofInt 32 word.toInt := by
  apply BitVec.eq_of_toNat_eq
  rw [BitVec.toNat_setWidth, BitVec.toNat_ofInt, BitVec.toInt_eq_toNat_cond]
  split <;> omega

theorem highHalf_ofInt (x y : Int) :
    highHalf (BitVec.ofInt 64 x) (BitVec.ofInt 64 y) = upperHalf (x * y) := by
  have parts := Int.bmod_add_bdiv' (x * y) (2 ^ 64)
  have quotient : (x * y).bmod (2 ^ 64) / 2 ^ 32 =
      x * y / 2 ^ 32 - (x * y).bdiv (2 ^ 64) * 2 ^ 32 := by
    have modulus : ((2 ^ 64 : Nat) : Int) = 18446744073709551616 := by norm_num
    rw [modulus] at parts
    omega
  rw [highHalf, setWidth_eq_ofInt, BitVec.toInt_sshiftRight, ← BitVec.ofInt_mul,
    BitVec.toInt_ofInt, Int.shiftRight_eq_div_pow]
  apply BitVec.eq_of_toNat_eq
  rw [upperHalf, BitVec.toNat_ofInt, BitVec.toNat_ofInt]
  push_cast at quotient ⊢
  rw [quotient]
  omega

theorem setWidth_eq_ofNat (word : Word) : word.setWidth 64 = BitVec.ofInt 64 word.toNat := by
  apply BitVec.eq_of_toNat_eq
  rw [BitVec.toNat_setWidth, BitVec.toNat_ofInt]
  have bound := word.isLt
  omega

def mulDivOpcode : MulDivOp → VliwOp
  | .mul => .mul
  | .mulh => .mulh
  | .mulhsu => .mulhsu
  | .mulhu => .mulhu
  | .div => .div
  | .divu => .divu
  | .rem => .rem
  | .remu => .remu

structure HostDivides (op : MulDivOp) (a b : Word) : Prop where
  nonzero : op.divides = true → b ≠ 0
  fits : op.signedDivision = true → ¬ (a = 0x80000000 ∧ b = 0xffffffff)

theorem signedDivide_eq (divide : Word → Word → Word) {op : MulDivOp} {a b value : Word}
    (divides : op.divides = true) (signed : op.signedDivision = true)
    (result : b ≠ 0 → divide a b = value) :
    (HostDivides op a b ∧ signedDivide divide a b = .ok value) ∨
      (¬ HostDivides op a b ∧ signedDivide divide a b = .error .divideError) := by
  unfold signedDivide
  by_cases undefined : b = 0 ∨ (a = 0x80000000 ∧ b = 0xffffffff)
  · rw [if_pos undefined]
    refine .inr ⟨?_, rfl⟩
    intro host
    rcases undefined with zero | overflow
    · exact host.nonzero divides zero
    · exact host.fits signed overflow
  · rw [if_neg undefined]
    obtain ⟨nonzero, fits⟩ := not_or.mp undefined
    exact .inl ⟨⟨fun _ => nonzero, fun _ => fits⟩, congrArg Except.ok (result nonzero)⟩

theorem unsignedDivide_eq (divide : Word → Word → Word) {op : MulDivOp} {a b value : Word}
    (divides : op.divides = true) (unsigned : op.signedDivision = false)
    (result : b ≠ 0 → divide a b = value) :
    (HostDivides op a b ∧ unsignedDivide divide a b = .ok value) ∨
      (¬ HostDivides op a b ∧ unsignedDivide divide a b = .error .divideError) := by
  unfold unsignedDivide
  by_cases zero : b = 0
  · rw [if_pos zero]
    exact .inr ⟨fun host => host.nonzero divides zero, rfl⟩
  · rw [if_neg zero]
    refine .inl ⟨⟨fun _ => zero, ?_⟩, congrArg Except.ok (result zero)⟩
    intro signed
    simp [unsigned] at signed

theorem product_divides {op : MulDivOp} (a b : Word) (product : op.divides = false)
    (unsigned : op.signedDivision = false) : HostDivides op a b where
  nonzero := by simp [product]
  fits := by simp [unsigned]

theorem sdiv_eq {a b : Word} (nonzero : b ≠ 0) : a.sdiv b = MulDivOp.div.eval a b := by
  simp only [MulDivOp.eval, if_neg nonzero]
  apply BitVec.eq_of_toInt_eq
  rw [BitVec.toInt_sdiv, BitVec.toInt_ofInt]

theorem srem_eq {a b : Word} (nonzero : b ≠ 0) : a.srem b = MulDivOp.rem.eval a b := by
  simp only [MulDivOp.eval, if_neg nonzero]
  rw [← BitVec.toInt_srem, BitVec.ofInt_toInt]

theorem udiv_eq {a b : Word} (nonzero : b ≠ 0) : BitVec.udiv a b = MulDivOp.divu.eval a b := by
  simp only [MulDivOp.eval, if_neg nonzero]
  apply BitVec.eq_of_toNat_eq
  have bound := Nat.lt_of_le_of_lt (Nat.div_le_self a.toNat b.toNat) a.isLt
  rw [BitVec.toNat_ofNat, Nat.mod_eq_of_lt bound]
  exact BitVec.toNat_udiv

theorem umod_eq {a b : Word} (nonzero : b ≠ 0) : BitVec.umod a b = MulDivOp.remu.eval a b := by
  simp only [MulDivOp.eval, if_neg nonzero]
  apply BitVec.eq_of_toNat_eq
  have bound := Nat.lt_of_le_of_lt (Nat.mod_le a.toNat b.toNat) a.isLt
  rw [BitVec.toNat_ofNat, Nat.mod_eq_of_lt bound]
  exact BitVec.toNat_umod

theorem dispatch_mulDiv (cfg : Config) (op : MulDivOp) (rd rs1 rs2 : Reg) (imm : Word)
    (s : Machine) :
    (HostDivides op (s.cpu.reg rs1) (s.cpu.reg rs2) ∧
      dispatch cfg ⟨mulDivOpcode op, rd, rs1, rs2, imm⟩ s =
        .ok (s.setReg rd (op.eval (s.cpu.reg rs1) (s.cpu.reg rs2)))) ∨
    (¬ HostDivides op (s.cpu.reg rs1) (s.cpu.reg rs2) ∧
      dispatch cfg ⟨mulDivOpcode op, rd, rs1, rs2, imm⟩ s = .error .divideError) := by
  have divided : ∀ {quotient : Except Abort Word} {value : Word},
      (HostDivides op (s.cpu.reg rs1) (s.cpu.reg rs2) ∧ quotient = .ok value) ∨
        (¬ HostDivides op (s.cpu.reg rs1) (s.cpu.reg rs2) ∧ quotient = .error .divideError) →
      (HostDivides op (s.cpu.reg rs1) (s.cpu.reg rs2) ∧
        (quotient >>= fun value => .ok (s.setReg rd value)) = .ok (s.setReg rd value)) ∨
        (¬ HostDivides op (s.cpu.reg rs1) (s.cpu.reg rs2) ∧
          (quotient >>= fun value => .ok (s.setReg rd value)) = .error .divideError) := by
    rintro quotient value (⟨host, same⟩ | ⟨host, same⟩)
    · exact .inl ⟨host, by rw [same, ok_bind]⟩
    · exact .inr ⟨host, by rw [same, error_bind]⟩
  cases op with
  | mul =>
      refine .inl ⟨product_divides _ _ rfl rfl, ?_⟩
      simp only [mulDivOpcode, dispatch, MulDivOp.eval, BitVec.ofInt_mul, BitVec.ofInt_toInt]
  | mulh =>
      refine .inl ⟨product_divides _ _ rfl rfl, ?_⟩
      simp only [mulDivOpcode, dispatch, MulDivOp.eval, BitVec.signExtend, highHalf_ofInt]
  | mulhsu =>
      refine .inl ⟨product_divides _ _ rfl rfl, ?_⟩
      simp only [mulDivOpcode, dispatch, MulDivOp.eval, BitVec.signExtend, setWidth_eq_ofNat,
        highHalf_ofInt]
  | mulhu =>
      refine .inl ⟨product_divides _ _ rfl rfl, ?_⟩
      simp only [mulDivOpcode, dispatch, MulDivOp.eval, setWidth_eq_ofNat, highHalf_ofInt]
  | div => exact divided (signedDivide_eq BitVec.sdiv rfl rfl sdiv_eq)
  | divu => exact divided (unsignedDivide_eq BitVec.udiv rfl rfl udiv_eq)
  | rem => exact divided (signedDivide_eq BitVec.srem rfl rfl srem_eq)
  | remu => exact divided (unsignedDivide_eq BitVec.umod rfl rfl umod_eq)

theorem decodeAlone_mulDiv (op : MulDivOp) (rd rs1 rs2 : Reg) :
    decodeAlone (op.encode rd rs1 rs2) = .ok (true, ⟨mulDivOpcode op, rd, rs1, rs2, 0⟩) := by
  have described := rType_described 0b0000001 rs2 rs1 op.funct3 rd 0b0110011 []
    (agrees_some _) (agrees_some _) (agrees_none _) (by simp)
  have decoded := decodeAlone_of_search (mulDivOpcode op) ["rd", "rs1", "rs2"] described
    (by cases op <;> decide) (by cases op <;> decide +kernel)
  rw [MulDivOp.encode, decoded]
  simp [decodeItems, decodeItem, Vliw.ofOpcode]

/-- The M extension conforms exactly where the host can divide. -/
theorem mulDiv_conforms_iff (cfg : Config) (op : MulDivOp) (rd rs1 rs2 : Reg) (pc : Word)
    (s : Machine) (calls : List (Word × Word)) (results : List (Bool × Vliw))
    (tables : DecodeTables)
    (history : decodeCalls DecodeTables.empty calls = .ok (results, tables))
    (zero : s.cpu.reg 0 = 0) :
    (∃ decoded t, decode2vliw tables pc (op.encode rd rs1 rs2) = .ok decoded ∧
      decoded.found = true ∧ execute cfg decoded.vliw s = .ok t ∧
      t = { s with
        cpu.reg := writeReg s.cpu.reg rd (op.eval (s.cpu.reg rs1) (s.cpu.reg rs2)) }) ↔
      (op.divides = true → s.cpu.reg rs2 ≠ 0) ∧
        (op.signedDivision = true →
          ¬ (s.cpu.reg rs1 = 0x80000000 ∧ s.cpu.reg rs2 = 0xffffffff)) := by
  have sound := (decodeCalls_sound DecodeTables.empty_sound history).1
  have transparent := sound.transparent pc (op.encode rd rs1 rs2)
  rw [decodeAlone_mulDiv op rd rs1 rs2] at transparent
  obtain ⟨decoded, called, result⟩ := map_eq_ok.mp transparent
  simp only [Decoded.result, Prod.mk.injEq] at result
  rcases dispatch_mulDiv cfg op rd rs1 rs2 0 s with ⟨host, dispatched⟩ | ⟨host, dispatched⟩
  · refine iff_of_true ⟨decoded, _, called, result.1, ?_, rfl⟩ ⟨host.nonzero, host.fits⟩
    rw [result.2]
    exact execute_setReg zero dispatched
  · refine iff_of_false ?_ fun divides => host ⟨divides.1, divides.2⟩
    rintro ⟨decoded', t, called', _, executed, _⟩
    rw [called] at called'
    simp only [Except.ok.injEq] at called'
    rw [← called', result.2, execute, dispatched, map_error] at executed
    simp at executed

theorem mulDiv_conforms_iff_mulhsu :
    let s := (Simulator.boot (smallMemory 0x80000000 []) 0 0).machine
    ∃ decoded t, decode2vliw DecodeTables.empty 0 0x022122b3 = .ok decoded ∧
      execute (Config.standard Host.silent) decoded.vliw s = .ok t ∧
      t.cpu.reg 5 = 0xc0000000 := by
  obtain ⟨decoded, t, called, _, executed, result⟩ :=
    (mulDiv_conforms_iff (Config.standard Host.silent) .mulhsu 5 2 2 0
      (Simulator.boot (smallMemory 0x80000000 []) 0 0).machine [] [] DecodeTables.empty rfl
      (by decide)).mpr (by decide)
  refine ⟨decoded, t, called, executed, ?_⟩
  rw [result]
  decide

/-- `div x5,x0,x0`. -/
theorem div_by_zero_aborts :
    ¬ ∀ (cfg : Config) (op : MulDivOp) (rd rs1 rs2 : Reg) (pc : Word) (s : Machine)
      (calls : List (Word × Word)) (results : List (Bool × Vliw)) (tables : DecodeTables),
      decodeCalls DecodeTables.empty calls = .ok (results, tables) → s.cpu.reg 0 = 0 →
      ∃ decoded t, decode2vliw tables pc (op.encode rd rs1 rs2) = .ok decoded ∧
        decoded.found = true ∧ execute cfg decoded.vliw s = .ok t ∧
        t = { s with
          cpu.reg := writeReg s.cpu.reg rd (op.eval (s.cpu.reg rs1) (s.cpu.reg rs2)) } := by
  intro claimed
  obtain ⟨decoded, t, called, _, executed, _⟩ := claimed (Config.standard Host.silent) .div 5 0 0 0
    (Simulator.boot (smallMemory 0x80000000 []) 0 0).machine [] [] DecodeTables.empty rfl
    (by decide)
  have evaluated : (do
      let decoded ← decode2vliw DecodeTables.empty 0 (MulDivOp.div.encode 5 0 0)
      let _ ← execute (Config.standard Host.silent) decoded.vliw
        (Simulator.boot (smallMemory 0x80000000 []) 0 0).machine
      .ok () : Except Abort Unit) = .error .divideError := by
    rfl
  rw [called, ok_bind, executed, ok_bind] at evaluated
  cases evaluated

end RiscVFast
