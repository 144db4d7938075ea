import Mathlib.Data.BitVec

/-! First-match tables of mask/value rows, searched under partial knowledge of the key. A
search that settles every row it passes gives the row that the full key would find. -/

namespace MaskTable

variable {width : Nat} {Row : Type}

/-- A pattern accepts the keys whose bits under `mask` are those of `value`. -/
structure Pattern (width : Nat) where
  value : BitVec width
  mask : BitVec width
deriving DecidableEq

def Pattern.accepts (pattern : Pattern width) (key : BitVec width) : Bool :=
  key &&& pattern.mask == pattern.value

/-- What is known of a key: its bits under `mask`, and some patterns it does not fit. -/
structure Knowledge (width : Nat) where
  mask : BitVec width
  value : BitVec width
  refuted : List (Pattern width)

structure Knowledge.Describes (known : Knowledge width) (key : BitVec width) : Prop where
  bits : key &&& known.mask = known.value
  refuted : ∀ pattern ∈ known.refuted, pattern.accepts key = false

def Knowledge.conflicts (known : Knowledge width) (pattern : Pattern width) : Bool :=
  pattern.value &&& known.mask != known.value &&& pattern.mask

def Knowledge.entails (known : Knowledge width) (pattern : Pattern width) : Bool :=
  known.mask &&& pattern.mask == pattern.mask && known.value &&& pattern.mask == pattern.value

theorem Knowledge.accepts_of_entails {known : Knowledge width} {pattern : Pattern width}
    {key : BitVec width} (describes : known.Describes key)
    (entailed : known.entails pattern = true) : pattern.accepts key = true := by
  simp only [entails, Bool.and_eq_true, beq_iff_eq] at entailed
  obtain ⟨covered, equal⟩ := entailed
  have bits : key &&& pattern.mask = pattern.value := by
    calc key &&& pattern.mask = key &&& (known.mask &&& pattern.mask) := by rw [covered]
      _ = (key &&& known.mask) &&& pattern.mask := (BitVec.and_assoc _ _ _).symm
      _ = pattern.value := by rw [describes.bits, equal]
  simpa [Pattern.accepts] using bits

theorem Knowledge.not_accepts_of_conflicts {known : Knowledge width} {pattern : Pattern width}
    {key : BitVec width} (describes : known.Describes key)
    (conflict : known.conflicts pattern = true) : pattern.accepts key = false := by
  simp only [conflicts, bne_iff_ne, ne_eq] at conflict
  simp only [Pattern.accepts, beq_eq_false_iff_ne, ne_eq]
  intro accepted
  apply conflict
  calc pattern.value &&& known.mask = (key &&& pattern.mask) &&& known.mask := by rw [accepted]
    _ = (key &&& known.mask) &&& pattern.mask := by
        rw [BitVec.and_assoc, BitVec.and_assoc, BitVec.and_comm pattern.mask]
    _ = known.value &&& pattern.mask := by rw [describes.bits]

/-- The scan under partial knowledge; `none` also when a row can not be settled. -/
def Knowledge.search (known : Knowledge width) (pattern : Row → Pattern width) :
    List Row → Option Row
  | [] => none
  | row :: rest =>
      if known.entails (pattern row) then some row
      else if known.conflicts (pattern row) || known.refuted.contains (pattern row) then
        known.search pattern rest
      else none

theorem Knowledge.search_sound {known : Knowledge width} {key : BitVec width}
    (describes : known.Describes key) (pattern : Row → Pattern width) {table : List Row} {row : Row}
    (found : known.search pattern table = some row) :
    table.find? (fun row => (pattern row).accepts key) = some row := by
  induction table with
  | nil => simp [search] at found
  | cons first rest ih =>
      simp only [search] at found
      split at found
      · rename_i entailed
        simp only [Option.some.injEq] at found
        subst first
        simp [Knowledge.accepts_of_entails describes entailed]
      · split at found
        · rename_i skipped
          have refused : (pattern first).accepts key = false := by
            simp only [Bool.or_eq_true, List.contains_iff_mem] at skipped
            rcases skipped with conflict | refuted
            · exact Knowledge.not_accepts_of_conflicts describes conflict
            · exact describes.refuted _ refuted
          simpa [List.find?_cons, refused] using ih found
        · simp at found

end MaskTable
