import Mathlib.Data.List.TakeWhile

/-! Assembly text: how numerals, operands and lines are printed, and how they are read. -/

namespace AsmText

def printNumeral (base n : Nat) : String := String.ofList (Nat.toDigits base n)

def printPadded (width base n : Nat) : String :=
  let digits := Nat.toDigits base n
  String.ofList (List.replicate (width - digits.length) '0' ++ digits)

/-- A minus sign and decimal digits, as `%d` prints. -/
def printSigned (value : Int) : String :=
  if value < 0 then "-" ++ printNumeral 10 value.natAbs else printNumeral 10 value.natAbs

def digitValue (base : Nat) (c : Char) : Option Nat :=
  (List.range base).find? fun digit => digit.digitChar == c

def readDigits (base : Nat) : Nat → List Char → Option Nat
  | value, [] => some value
  | value, c :: rest => do readDigits base (base * value + (← digitValue base c)) rest

def readNumeral (base : Nat) (digits : List Char) : Option Nat :=
  if digits = [] then none else readDigits base 0 digits

/-- A number in the given base, with a sign, or in hexadecimal behind `0x`. -/
def readChars (base : Nat) : List Char → Option Int
  | '-' :: digits => (readNumeral base digits).map fun (n : Nat) => -(n : Int)
  | '0' :: 'x' :: digits => (readNumeral 16 digits).map fun (n : Nat) => (n : Int)
  | digits => (readNumeral base digits).map fun (n : Nat) => (n : Int)

def readNumber (base : Nat) (text : String) : Option Int := readChars base text.toList

theorem digitChar_injective :
    ∀ first < 16, ∀ second < 16, Nat.digitChar first = Nat.digitChar second → first = second := by
  decide

theorem digitValue_digitChar {base digit : Nat} (small : base ≤ 16) (inside : digit < base) :
    digitValue base digit.digitChar = some digit := by
  unfold digitValue
  rw [List.find?_range_eq_some]
  refine ⟨beq_self_eq_true _, by simpa using inside, ?_⟩
  intro other before
  simp only [Bool.not_eq_true', beq_eq_false_iff_ne, ne_eq]
  intro same
  have equal := digitChar_injective other (by omega) digit (by omega) same
  omega

theorem readDigits_append (base value : Nat) (front back : List Char) :
    readDigits base value (front ++ back) =
      (readDigits base value front).bind fun middle => readDigits base middle back := by
  induction front generalizing value with
  | nil => rfl
  | cons c front ih =>
      simp only [List.cons_append, readDigits, Option.bind_eq_bind, Option.bind_assoc, ih]

theorem readDigits_zeros {base : Nat} (large : 1 < base) (count : Nat) (digits : List Char) :
    readDigits base 0 (List.replicate count '0' ++ digits) = readDigits base 0 digits := by
  have zero : digitValue base '0' = some 0 := by
    unfold digitValue
    rw [List.find?_range_eq_some]
    exact ⟨by decide, by simpa using by omega, fun other before => by omega⟩
  induction count with
  | zero => rfl
  | succ count ih =>
      simp only [List.replicate_succ, List.cons_append, readDigits, zero, Option.bind_eq_bind,
        Option.bind_some, Nat.mul_zero, Nat.add_zero, ih]

section Base

variable {base : Nat}

theorem readDigits_toDigits (large : 1 < base) (small : base ≤ 16) (n : Nat) :
    readDigits base 0 (Nat.toDigits base n) = some n := by
  induction n using Nat.strongRecOn with
  | ind n ih =>
      rw [Nat.toDigits_eq_if large]
      split
      · rename_i single
        simp only [readDigits, digitValue_digitChar small single, Nat.mul_zero, Nat.zero_add,
          Option.bind_eq_bind, Option.bind_some]
      · rename_i several
        have shorter : n / base < n := Nat.div_lt_self (by omega) large
        have last : n % base < base := Nat.mod_lt n (by omega)
        rw [readDigits_append, ih _ shorter]
        simp only [readDigits, digitValue_digitChar small last, Option.bind_eq_bind,
          Option.bind_some, Nat.div_add_mod]

theorem readNumeral_toDigits (large : 1 < base) (small : base ≤ 16) (n : Nat) :
    readNumeral base (Nat.toDigits base n) = some n := by
  rw [readNumeral, if_neg Nat.toDigits_ne_nil, readDigits_toDigits large small]

theorem not_mem_toDigits {c : Char} (other : ∀ digit < 16, Nat.digitChar digit ≠ c)
    (large : 1 < base) (small : base ≤ 16) (n : Nat) : c ∉ Nat.toDigits base n := by
  induction n using Nat.strongRecOn with
  | ind n ih =>
      rw [Nat.toDigits_eq_if large]
      split
      · rename_i single
        have differs := other n (by omega)
        simpa using differs.symm
      · rename_i several
        have shorter : n / base < n := Nat.div_lt_self (by omega) large
        have last : n % base < base := Nat.mod_lt n (by omega)
        have differs := other (n % base) (by omega)
        simp only [List.mem_append, List.mem_singleton, not_or]
        exact ⟨ih _ shorter, differs.symm⟩

theorem readChars_unmarked {digits : List Char} (noSign : '-' ∉ digits) (noMark : 'x' ∉ digits) :
    readChars base digits = (readNumeral base digits).map fun (n : Nat) => (n : Int) := by
  unfold readChars
  split
  · simp at noSign
  · simp at noMark
  · rfl

theorem readNumber_printNumeral (large : 1 < base) (small : base ≤ 16) (n : Nat) :
    readNumber base (printNumeral base n) = some (n : Int) := by
  have noSign := @not_mem_toDigits base '-' (by decide) large small n
  have noMark := @not_mem_toDigits base 'x' (by decide) large small n
  rw [readNumber, printNumeral, String.toList_ofList, readChars_unmarked noSign noMark,
    readNumeral_toDigits large small]
  rfl

theorem readNumber_hex (base n : Nat) :
    readNumber base ("0x" ++ printNumeral 16 n) = some (n : Int) := by
  have marked : ("0x" ++ printNumeral 16 n).toList = '0' :: 'x' :: Nat.toDigits 16 n := by
    simp [printNumeral]
  rw [readNumber, marked, readChars, readNumeral_toDigits (by decide) (by decide)]
  rfl

end Base

theorem readNumber_padded (base width n : Nat) :
    readNumber base ("0x" ++ printPadded width 16 n) = some (n : Int) := by
  have marked : ("0x" ++ printPadded width 16 n).toList =
      '0' :: 'x' :: (List.replicate (width - (Nat.toDigits 16 n).length) '0' ++
        Nat.toDigits 16 n) := by
    simp [printPadded]
  have nonempty : List.replicate (width - (Nat.toDigits 16 n).length) '0' ++
      Nat.toDigits 16 n ≠ [] := by
    simp
  rw [readNumber, marked, readChars, readNumeral, if_neg nonempty, readDigits_zeros (by decide),
    readDigits_toDigits (by decide) (by decide)]
  rfl

theorem readNumber_printSigned (value : Int) :
    readNumber 10 (printSigned value) = some value := by
  unfold printSigned
  split
  · rename_i negative
    have signed : ("-" ++ printNumeral 10 value.natAbs).toList =
        '-' :: Nat.toDigits 10 value.natAbs := by
      simp [printNumeral]
    rw [readNumber, signed, readChars, readNumeral_toDigits (by decide) (by decide)]
    simp only [Option.map_some, Option.some.injEq]
    omega
  · rename_i positive
    rw [readNumber_printNumeral (by decide) (by decide), Option.some.injEq]
    omega

/-! Lines: a mnemonic, and after a space its operands with commas between them. -/

structure Line where
  mnemonic : String
  operands : List String
deriving DecidableEq

def Line.print (line : Line) : String :=
  if line.operands = [] then line.mnemonic
  else line.mnemonic ++ " " ++ ",".intercalate line.operands

def readLine (text : String) : Line where
  mnemonic := String.ofList (text.toList.takeWhile (· != ' '))
  operands :=
    match text.toList.dropWhile (· != ' ') with
    | [] => []
    | _ :: rest => (rest.splitOn ',').map String.ofList

structure Line.WellFormed (line : Line) : Prop where
  mnemonic : ' ' ∉ line.mnemonic.toList
  operands : ∀ operand ∈ line.operands, ',' ∉ operand.toList

theorem takeWhile_before {front back : List Char} {stop : Char} (absent : stop ∉ front) :
    (front ++ stop :: back).takeWhile (· != stop) = front := by
  induction front with
  | nil => simp
  | cons c front ih =>
      simp only [List.mem_cons, not_or] at absent
      simp [ih absent.2, Ne.symm absent.1]

theorem dropWhile_before {front back : List Char} {stop : Char} (absent : stop ∉ front) :
    (front ++ stop :: back).dropWhile (· != stop) = stop :: back := by
  induction front with
  | nil => simp
  | cons c front ih =>
      simp only [List.mem_cons, not_or] at absent
      simp [ih absent.2, Ne.symm absent.1]

theorem readLine_print {line : Line} (wellFormed : line.WellFormed) :
    readLine line.print = line := by
  obtain ⟨mnemonic, operands⟩ := line
  obtain ⟨noSpace, noComma⟩ := wellFormed
  by_cases none : operands = []
  · subst none
    have all : ∀ c ∈ mnemonic.toList, (c != ' ') = true := by
      intro c member
      simp only [bne_iff_ne, ne_eq]
      rintro rfl
      exact noSpace member
    simp only [Line.print, if_true, readLine]
    rw [List.takeWhile_eq_self_iff.mpr all, List.dropWhile_eq_nil_iff.mpr all,
      String.ofList_toList]
  · have text : (Line.print ⟨mnemonic, operands⟩).toList =
        mnemonic.toList ++ ' ' :: [','].intercalate (operands.map String.toList) := by
      simp [Line.print, none]
    have pieces : ∀ piece ∈ operands.map String.toList, ',' ∉ piece := by
      simpa using noComma
    simp only [readLine, text, takeWhile_before noSpace, dropWhile_before noSpace,
      String.ofList_toList, Line.mk.injEq, true_and]
    rw [List.splitOn_intercalate ',' pieces (by simpa using none)]
    simp

def printMemory (offset base : String) : String := offset ++ "(" ++ base ++ ")"

def readMemory (text : String) : Option (String × String) :=
  match text.toList.dropWhile (· != '(') with
  | _ :: inside =>
      if inside.getLast? = some ')' then
        some (String.ofList (text.toList.takeWhile (· != '(')), String.ofList inside.dropLast)
      else none
  | [] => none

theorem readMemory_printMemory {offset : String} (base : String)
    (plain : '(' ∉ offset.toList) :
    readMemory (printMemory offset base) = some (offset, base) := by
  have text : (printMemory offset base).toList =
      offset.toList ++ '(' :: (base.toList ++ [')']) := by
    simp [printMemory]
  simp [readMemory, text, takeWhile_before plain, dropWhile_before plain]

end AsmText
