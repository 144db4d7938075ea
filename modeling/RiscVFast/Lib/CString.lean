import Mathlib.Data.List.Infix

/-! Strings in a buffer that may end before they do. `none` is a read past the end. -/

namespace CString

variable {Char : Type} [DecidableEq Char]

/-- Whether the buffer starts with all of `literal`; it is read up to the first difference. -/
def compare : List Char → List Char → Option Bool
  | _, [] => some true
  | [], _ :: _ => none
  | char :: buffer, expected :: literal =>
      if char = expected then compare buffer literal else some false

/-- The buffer ends within the literal, and agrees with it so far. -/
def CutShort (buffer literal : List Char) : Prop := buffer <+: literal ∧ buffer ≠ literal

instance (buffer literal : List Char) : Decidable (CutShort buffer literal) :=
  inferInstanceAs (Decidable (_ ∧ _))

theorem compare_eq_none {buffer literal : List Char} :
    compare buffer literal = none ↔ CutShort buffer literal := by
  unfold CutShort
  induction literal generalizing buffer with
  | nil => simp [compare]
  | cons expected literal ih =>
      cases buffer with
      | nil => simp [compare]
      | cons char buffer =>
          simp only [compare]
          by_cases same : char = expected
          · rw [if_pos same, ih, same]
            simp
          · rw [if_neg same]
            simp [List.cons_prefix_cons, same]

theorem compare_eq_true {buffer literal : List Char} :
    compare buffer literal = some true ↔ literal <+: buffer := by
  induction literal generalizing buffer with
  | nil => simp [compare]
  | cons expected literal ih =>
      cases buffer with
      | nil => simp [compare]
      | cons char buffer =>
          simp only [compare]
          by_cases same : char = expected
          · rw [if_pos same, ih, same, List.prefix_cons_inj]
          · rw [if_neg same]
            simp [List.cons_prefix_cons, Ne.symm same]

theorem compare_of_whole {buffer literal : List Char} (whole : ¬ CutShort buffer literal) :
    compare buffer literal = some (literal.isPrefixOf buffer) := by
  cases result : compare buffer literal with
  | none => exact absurd (compare_eq_none.mp result) whole
  | some same =>
      cases same with
      | true => rw [List.isPrefixOf_iff_prefix.mpr (compare_eq_true.mp result)]
      | false =>
          have differs : ¬ literal <+: buffer := by
            intro starts
            rw [compare_eq_true.mpr starts] at result
            simp at result
          rw [← List.isPrefixOf_iff_prefix, Bool.not_eq_true] at differs
          rw [differs]

variable (terminator : Char)

def read : List Char → Option (List Char)
  | [] => none
  | char :: rest => if char = terminator then some [] else (read rest).map (char :: ·)

theorem read_of_mem {buffer : List Char} (ends : terminator ∈ buffer) :
    read terminator buffer = some (buffer.takeWhile (· ≠ terminator)) := by
  induction buffer with
  | nil => simp at ends
  | cons char rest ih =>
      by_cases last : char = terminator
      · simp [read, last]
      · have later : terminator ∈ rest := by
          rcases List.mem_cons.mp ends with first | later
          · exact absurd first.symm last
          · exact later
        simp [read, last, ih later]

theorem read_eq_none {buffer : List Char} : read terminator buffer = none ↔ terminator ∉ buffer := by
  constructor
  · intro failed ends
    rw [read_of_mem terminator ends] at failed
    simp at failed
  · intro endless
    induction buffer with
    | nil => rfl
    | cons char rest ih =>
        obtain ⟨first, later⟩ := not_or.mp (mt List.mem_cons.mpr endless)
        simp [read, Ne.symm first, ih later]

def readAtMost : Nat → List Char → Option (List Char)
  | 0, _ => some []
  | _ + 1, [] => none
  | count + 1, char :: rest =>
      if char = terminator then some [] else (readAtMost count rest).map (char :: ·)

theorem readAtMost_eq_none {count : Nat} {buffer : List Char} :
    readAtMost terminator count buffer = none ↔ terminator ∉ buffer ∧ buffer.length < count := by
  induction count generalizing buffer with
  | zero => simp [readAtMost]
  | succ count ih =>
      cases buffer with
      | nil => simp [readAtMost]
      | cons char rest =>
          simp only [readAtMost]
          by_cases last : char = terminator
          · simp [last]
          · rw [if_neg last, Option.map_eq_none_iff, ih]
            simp [Ne.symm last]

end CString
