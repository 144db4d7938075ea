import Mathlib.Data.BitVec

/-! Memory as the initial contents and the stores made since, latest first. -/

namespace StoreLog

variable {width : Nat} {Value : Type}

/-- Successive cells written at `addr` and after it. -/
structure Store (width : Nat) (Value : Type) where
  addr : BitVec width
  cells : List Value
deriving DecidableEq

def Store.covers (store : Store width Value) (addr : BitVec width) : Prop :=
  (addr - store.addr).toNat < store.cells.length

instance (store : Store width Value) (addr : BitVec width) : Decidable (store.covers addr) :=
  inferInstanceAs (Decidable (_ < _))

def latest (initial : BitVec width → Value) : List (Store width Value) → BitVec width → Value
  | [], addr => initial addr
  | store :: stores, addr =>
      (store.cells[(addr - store.addr).toNat]?).getD (latest initial stores addr)

theorem latest_cons_of_not_covers {initial : BitVec width → Value}
    {stores : List (Store width Value)} {store : Store width Value} {addr : BitVec width}
    (missed : ¬ store.covers addr) :
    latest initial (store :: stores) addr = latest initial stores addr := by
  have beyond : store.cells.length ≤ (addr - store.addr).toNat := Nat.le_of_not_lt missed
  rw [latest, List.getElem?_eq_none beyond, Option.getD_none]

theorem latest_append (initial : BitVec width → Value) (later earlier : List (Store width Value))
    (addr : BitVec width) :
    latest (latest initial earlier) later addr = latest initial (later ++ earlier) addr := by
  induction later with
  | nil => rfl
  | cons store later ih => simp only [latest, List.cons_append, ih]

theorem latest_filter {initial : BitVec width → Value} {keep : Store width Value → Bool}
    {stores : List (Store width Value)} {addr : BitVec width}
    (missed : ∀ store ∈ stores, keep store = false → ¬ store.covers addr) :
    latest initial (stores.filter keep) addr = latest initial stores addr := by
  induction stores with
  | nil => rfl
  | cons store stores ih =>
      have rest := ih fun other member => missed other (List.mem_cons_of_mem store member)
      cases kept : keep store with
      | true =>
          rw [List.filter_cons_of_pos kept]
          simp only [latest, rest]
      | false =>
          rw [List.filter_cons_of_neg (by simp [kept]), rest,
            latest_cons_of_not_covers (missed store List.mem_cons_self kept)]

end StoreLog
