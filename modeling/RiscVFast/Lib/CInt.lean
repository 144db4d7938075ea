import Mathlib.Data.BitVec

/-! Integer expressions of C on a host with 32-bit `int`: the two kinds of operands, the usual
conversions, and the cases that the language leaves undefined. -/

namespace CInt

inductive Kind
  | int | unsigned
deriving DecidableEq

structure Value where
  kind : Kind
  bits : BitVec 32
deriving DecidableEq

inductive Operator
  | add | sub | bitAnd | bitOr | bitXor | shl | shr | lt | ge | eq | ne
deriving DecidableEq

/-- Variables are `unsigned`. -/
inductive Expr (Var : Type)
  | var (name : Var)
  | decimal (value : BitVec 32)
  | hex (value : BitVec 32)
  | cast (kind : Kind) (operand : Expr Var)
  | binary (operator : Operator) (left right : Expr Var)
  | choose (test yes no : Expr Var)

def Kind.common : Kind → Kind → Kind
  | .int, .int => .int
  | _, _ => .unsigned

/-- A hexadecimal constant is an `int` where its value fits. -/
def Kind.ofHex (value : BitVec 32) : Kind := if value.msb then .unsigned else .int

def truth (flag : Bool) : Value := ⟨.int, if flag then 1 else 0⟩

def Kind.less : Kind → BitVec 32 → BitVec 32 → Bool
  | .int, a, b => a.slt b
  | .unsigned, a, b => a.ult b

/-- Signed arithmetic that leaves the range of `int` is undefined, and so is a shift by more
than the width, or a signed shift to the left that loses bits. -/
def Operator.apply (operator : Operator) (left right : Value) : Option Value :=
  let kind := left.kind.common right.kind
  match operator with
  | .add =>
      if kind = .int ∧ left.bits.saddOverflow right.bits = true then none
      else some ⟨kind, left.bits + right.bits⟩
  | .sub =>
      if kind = .int ∧ left.bits.ssubOverflow right.bits = true then none
      else some ⟨kind, left.bits - right.bits⟩
  | .bitAnd => some ⟨kind, left.bits &&& right.bits⟩
  | .bitOr => some ⟨kind, left.bits ||| right.bits⟩
  | .bitXor => some ⟨kind, left.bits ^^^ right.bits⟩
  | .shl =>
      if 32 ≤ right.bits.toNat then none
      else if left.kind = .int ∧ 2 ^ 31 ≤ left.bits.toNat * 2 ^ right.bits.toNat then none
      else some ⟨left.kind, left.bits <<< right.bits.toNat⟩
  | .shr =>
      if 32 ≤ right.bits.toNat then none
      else
        match left.kind with
        | .int => some ⟨.int, left.bits.sshiftRight right.bits.toNat⟩
        | .unsigned => some ⟨.unsigned, left.bits >>> right.bits.toNat⟩
  | .lt => some (truth (kind.less left.bits right.bits))
  | .ge => some (truth (!kind.less left.bits right.bits))
  | .eq => some (truth (left.bits == right.bits))
  | .ne => some (truth (left.bits != right.bits))

def Expr.kind {Var : Type} : Expr Var → Kind
  | .var _ => .unsigned
  | .decimal _ => .int
  | .hex value => .ofHex value
  | .cast kind _ => kind
  | .binary operator left right =>
      match operator with
      | .shl | .shr => left.kind
      | .lt | .ge | .eq | .ne => .int
      | _ => left.kind.common right.kind
  | .choose _ yes no => yes.kind.common no.kind

def Expr.eval {Var : Type} (env : Var → BitVec 32) : Expr Var → Option Value
  | .var name => some ⟨.unsigned, env name⟩
  | .decimal value => some ⟨.int, value⟩
  | .hex value => some ⟨.ofHex value, value⟩
  | .cast kind operand => (operand.eval env).map fun value => ⟨kind, value.bits⟩
  | .binary operator left right => do operator.apply (← left.eval env) (← right.eval env)
  | .choose test yes no => do
      let flag ← test.eval env
      let value ← if flag.bits ≠ 0 then yes.eval env else no.eval env
      some ⟨yes.kind.common no.kind, value.bits⟩

section Rules

variable {Var : Type} {env : Var → BitVec 32}

@[simp] theorem Kind.common_unsigned (kind : Kind) : Kind.unsigned.common kind = .unsigned := rfl

@[simp] theorem Kind.unsigned_common (kind : Kind) : kind.common .unsigned = .unsigned := by
  cases kind <;> rfl

@[simp] theorem truth_bits (flag : Bool) : (truth flag).bits = if flag then 1 else 0 := rfl

theorem truth_holds (flag : Bool) : (truth flag).bits ≠ 0 ↔ flag = true := by
  cases flag <;> decide

namespace Operator

variable {a : BitVec 32} {right : Value}

theorem apply_shl (inside : right.bits.toNat < 32) :
    shl.apply ⟨.unsigned, a⟩ right = some ⟨.unsigned, a <<< right.bits.toNat⟩ := by
  simp only [apply, if_neg (Nat.not_le.mpr inside)]
  rfl

theorem apply_shr_unsigned (inside : right.bits.toNat < 32) :
    shr.apply ⟨.unsigned, a⟩ right = some ⟨.unsigned, a >>> right.bits.toNat⟩ := by
  simp only [apply, if_neg (Nat.not_le.mpr inside)]

theorem apply_shr_int (inside : right.bits.toNat < 32) :
    shr.apply ⟨.int, a⟩ right = some ⟨.int, a.sshiftRight right.bits.toNat⟩ := by
  simp only [apply, if_neg (Nat.not_le.mpr inside)]

end Operator

namespace Expr

theorem eval_cast {operand : Expr Var} {value : Value} (kind : Kind)
    (evaluated : operand.eval env = some value) :
    (cast kind operand).eval env = some ⟨kind, value.bits⟩ := by
  rw [eval, evaluated, Option.map_some]

theorem eval_binary {left right : Expr Var} {a b : Value} (operator : Operator)
    (first : left.eval env = some a) (second : right.eval env = some b) :
    (binary operator left right).eval env = operator.apply a b := by
  simp only [eval, first, second, Option.bind_eq_bind, Option.bind_some]

theorem eval_choose {test yes no : Expr Var} {flag : Bool} {value : Value}
    (tested : test.eval env = some (truth flag))
    (chosen : (if flag then yes else no).eval env = some value) :
    (choose test yes no).eval env = some ⟨yes.kind.common no.kind, value.bits⟩ := by
  cases flag with
  | false =>
      have last : no.eval env = some value := chosen
      simp only [eval, tested, Option.bind_eq_bind, Option.bind_some, truth_holds,
        Bool.false_eq_true, if_false, last]
  | true =>
      have first : yes.eval env = some value := chosen
      simp only [eval, tested, Option.bind_eq_bind, Option.bind_some, truth_holds, if_true, first]

end Expr

end Rules

end CInt
