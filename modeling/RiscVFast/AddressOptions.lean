import RiscVFast.Debugger

/-! The address options of `main`: `-T addr:size`, `-D addr:size` and `-H addr`. -/

namespace RiscVFast

open AsmText Strtol

def skipEquals : List Char → List Char
  | '=' :: s => s
  | s => s

def getValue (argv : List Char) : Word := BitVec.ofInt 32 (strtol 16 (skipEquals argv)).1

/-- `*addr` and `*size`, which stays as it is without a colon. -/
def getAddrSize (str : List Char) (size : Word) : Word × Word :=
  match strtol 16 (skipEquals str) with
  | (addr, ':' :: s) => (BitVec.ofInt 32 addr, BitVec.ofInt 32 (strtol 16 s).1)
  | (addr, _) => (BitVec.ofInt 32 addr, size)

structure SegmentRange where
  memBase : Word
  memLen : Word

def placeSegment (title : String) (option : Option (List Char)) (range : SegmentRange) :
    SegmentRange × List String :=
  match option with
  | none => (range, [])
  | some text =>
      let (addr, size) := getAddrSize text 0
      (⟨addr, if size ≠ 0 then size else range.memLen⟩,
        [title ++ " = '" ++ String.ofList text ++ "' => 0x" ++ hex8 addr ++ ":0x" ++ hex8 size ++
          "\n"])

def shownHex (value : Word) : List Char := ("0x" ++ hex8 value).toList

theorem strtol_shownHex {base : Nat} (free : base = 0 ∨ base = 16) (value : Word)
    {rest : List Char} (ends : ∀ c ∈ rest.head?, 16 ≤ digitOf c) :
    strtol base (shownHex value ++ rest) = ((value.toNat : Int), rest) :=
  strtol_printPadded free (Nat.lt_of_lt_of_le value.isLt (by decide)) ends

theorem strtol_shownHex_alone {base : Nat} (free : base = 0 ∨ base = 16) (value : Word) :
    strtol base (shownHex value) = ((value.toNat : Int), []) := by
  have read := @strtol_shownHex base free value [] nofun
  rw [List.append_nil] at read
  exact read

theorem skipEquals_shownHex (equals : Bool) (value : Word) (rest : List Char) :
    skipEquals ((if equals then ['='] else []) ++ (shownHex value ++ rest)) =
      shownHex value ++ rest := by
  rw [shownHex, String.toList_append]
  cases equals <;> rfl

theorem ofInt_toNat (value : Word) : BitVec.ofInt 32 (value.toNat : Int) = value := by
  rw [BitVec.ofInt_natCast, BitVec.ofNat_toNat, BitVec.setWidth_eq]

theorem skipEquals_shownHex_alone (equals : Bool) (value : Word) :
    skipEquals ((if equals then ['='] else []) ++ shownHex value) = shownHex value := by
  have skipped := skipEquals_shownHex equals value []
  rwa [List.append_nil] at skipped

theorem getAddrSize_range (equals : Bool) (addr size other : Word) :
    getAddrSize ((if equals then ['='] else []) ++ (shownHex addr ++ ':' :: shownHex size)) other =
      (addr, size) := by
  have colon : ∀ c ∈ (':' :: shownHex size).head?, 16 ≤ digitOf c := by
    rintro c ⟨⟩
    decide
  simp only [getAddrSize, skipEquals_shownHex, strtol_shownHex (.inr rfl) addr colon,
    strtol_shownHex_alone (.inr rfl) size, ofInt_toNat]

theorem getAddrSize_address (equals : Bool) (addr other : Word) :
    getAddrSize ((if equals then ['='] else []) ++ shownHex addr) other = (addr, other) := by
  simp only [getAddrSize, skipEquals_shownHex_alone, strtol_shownHex_alone (.inr rfl) addr,
    ofInt_toNat]

/-- The ranges and addresses that are printed with `0x` are read back by the options, with an equals
sign or without one, and the addresses by the debugger. -/
theorem addresses_read_back (addr size : Word) (equals : Bool) (title : String)
    (range : SegmentRange) :
    let sign := if equals then ['='] else []
    (placeSegment title (some (sign ++ (shownHex addr ++ ':' :: shownHex size))) range).1 =
        ⟨addr, if size ≠ 0 then size else range.memLen⟩ ∧
      (placeSegment title (some (sign ++ shownHex addr)) range).1 = ⟨addr, range.memLen⟩ ∧
      getValue (sign ++ shownHex addr) = addr ∧ intArg (shownHex addr) = addr := by
  refine ⟨?_, ?_, ?_, ?_⟩
  · rw [placeSegment, getAddrSize_range]
  · rw [placeSegment, getAddrSize_address]
    rfl
  · rw [getValue, skipEquals_shownHex_alone, strtol_shownHex_alone (.inr rfl), ofInt_toNat]
  · rw [intArg, strtol_shownHex_alone (.inl rfl), ofInt_toNat]

end RiscVFast
