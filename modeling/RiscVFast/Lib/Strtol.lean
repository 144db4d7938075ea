import Mathlib.Algebra.Order.Ring.Int
import RiscVFast.Lib.AsmText

/-! `strtol` of the C library, where `long` has 64 bits, and the numbers it reads back. -/

namespace Strtol

open AsmText

def isspace (c : Char) : Bool := c == ' ' || '\t' ≤ c && c ≤ '\r'

def digitOf (c : Char) : Nat :=
  if '0' ≤ c ∧ c ≤ '9' then c.toNat - '0'.toNat
  else if 'a' ≤ c ∧ c ≤ 'z' then c.toNat - 'a'.toNat + 10
  else if 'A' ≤ c ∧ c ≤ 'Z' then c.toNat - 'A'.toNat + 10
  else 36

def scanDigits (base : Nat) : Nat → List Char → Nat × List Char
  | value, [] => (value, [])
  | value, c :: rest =>
      if digitOf c < base then scanDigits base (base * value + digitOf c) rest
      else (value, c :: rest)

def radixOf (base : Nat) : List Char → Nat × List Char
  | '0' :: x :: digit :: rest =>
      if (base = 0 ∨ base = 16) ∧ (x = 'x' ∨ x = 'X') ∧ digitOf digit < 16 then (16, digit :: rest)
      else (if base = 0 then 8 else base, '0' :: x :: digit :: rest)
  | '0' :: rest => (if base = 0 then 8 else base, '0' :: rest)
  | digits => (if base = 0 then 10 else base, digits)

def signOf : List Char → Bool × List Char
  | '-' :: rest => (true, rest)
  | '+' :: rest => (false, rest)
  | rest => (false, rest)

/-- The number, the nearest that fits, and where it ends: at the start of the text without one. -/
def strtol (base : Nat) (text : List Char) : Int × List Char :=
  let (negative, unsigned) := signOf (text.dropWhile isspace)
  let (radix, digits) := radixOf base unsigned
  let (magnitude, rest) := scanDigits radix 0 digits
  let value : Int := if negative then max (-2 ^ 63) (-magnitude) else min (2 ^ 63 - 1) magnitude
  (value, if rest.length = digits.length then text else rest)

theorem digitOf_digitChar : ∀ digit < 16, digitOf (Nat.digitChar digit) = digit := by
  decide

theorem digitOf_of_digitValue {base digit : Nat} {c : Char} (small : base ≤ 16)
    (reads : digitValue base c = some digit) : digitOf c = digit ∧ digit < base := by
  have inside : digit < base := by
    have member := List.mem_of_find?_eq_some reads
    simpa using member
  have same : Nat.digitChar digit = c := by
    simpa using List.find?_some reads
  rw [← same, digitOf_digitChar digit (by omega)]
  exact ⟨rfl, inside⟩

theorem scanDigits_of_readDigits {base : Nat} (small : base ≤ 16) {rest : List Char}
    (ends : ∀ c ∈ rest.head?, base ≤ digitOf c) (digits : List Char) {value n : Nat}
    (reads : readDigits base value digits = some n) :
    scanDigits base value (digits ++ rest) = (n, rest) := by
  induction digits generalizing value with
  | nil =>
      cases Option.some.inj reads
      cases rest with
      | nil => rfl
      | cons c rest =>
          have stops := ends c rfl
          rw [List.nil_append, scanDigits, if_neg (by omega)]
  | cons c digits ih =>
      simp only [readDigits, Option.bind_eq_bind, Option.bind_eq_some_iff] at reads
      obtain ⟨digit, found, reads⟩ := reads
      obtain ⟨same, inside⟩ := digitOf_of_digitValue small found
      rw [List.cons_append, scanDigits, same, if_pos inside]
      exact ih reads

theorem strtol_printPadded {base width n : Nat} (free : base = 0 ∨ base = 16) (fits : n < 2 ^ 63)
    {rest : List Char} (ends : ∀ c ∈ rest.head?, 16 ≤ digitOf c) :
    strtol base (("0x" ++ printPadded width 16 n).toList ++ rest) = ((n : Int), rest) := by
  have reads : readDigits 16 0 (List.replicate (width - (Nat.toDigits 16 n).length) '0' ++
      Nat.toDigits 16 n) = some n := by
    rw [readDigits_zeros (by decide), readDigits_toDigits (by decide) (by decide)]
  have text : ("0x" ++ printPadded width 16 n).toList ++ rest =
      '0' :: 'x' :: (List.replicate (width - (Nat.toDigits 16 n).length) '0' ++
        Nat.toDigits 16 n ++ rest) := by
    simp [printPadded]
  rw [text]
  have scanned := scanDigits_of_readDigits (by decide) ends _ reads
  cases parts : List.replicate (width - (Nat.toDigits 16 n).length) '0' ++ Nat.toDigits 16 n with
  | nil =>
      rw [List.append_eq_nil_iff] at parts
      exact absurd parts.2 Nat.toDigits_ne_nil
  | cons first digits =>
      rw [parts] at reads scanned
      have digit : digitOf first < 16 := by
        simp only [readDigits, Option.bind_eq_bind, Option.bind_eq_some_iff] at reads
        obtain ⟨digit, found, -⟩ := reads
        obtain ⟨same, inside⟩ := digitOf_of_digitValue (by decide) found
        rw [same]
        exact inside
      have plain : ('0' :: 'x' :: (first :: digits ++ rest)).dropWhile isspace =
          '0' :: 'x' :: (first :: digits ++ rest) := rfl
      have unsigned : signOf ('0' :: 'x' :: (first :: digits ++ rest)) =
          (false, '0' :: 'x' :: (first :: digits ++ rest)) := rfl
      have radix : radixOf base ('0' :: 'x' :: (first :: digits ++ rest)) =
          (16, first :: digits ++ rest) := if_pos ⟨free, .inl rfl, digit⟩
      have longer : rest.length ≠ (first :: digits ++ rest).length := by
        simp only [List.cons_append, List.length_cons, List.length_append]
        omega
      have bounded : min (2 ^ 63 - 1) (n : Int) = n := by omega
      simp only [strtol, plain, unsigned, radix, scanned, if_neg longer, Bool.false_eq_true,
        if_false, bounded]

end Strtol
