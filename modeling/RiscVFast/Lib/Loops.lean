import Mathlib.Data.List.Forall2
import RiscVFast.Lib.Fallible

/-! Loops over a list whose steps may fail. -/

namespace Fallible

variable {Error State Item Result : Type}

theorem foldlM_of_checks (Holds : State → Prop) {step : State → Item → Except Error State}
    {check : Item → Except Error Result} {update : State → Result → State}
    (steps : ∀ state item, Holds state → step state item = (check item).map (update state))
    (keeps : ∀ state item result, Holds state → check item = .ok result →
      Holds (update state result)) (items : List Item) {state : State} (holds : Holds state) :
    items.foldlM step state = (items.mapM check).map fun results => results.foldl update state := by
  induction items generalizing state with
  | nil => rfl
  | cons item items ih =>
      rw [List.foldlM_cons, List.mapM_cons, steps state item holds]
      cases checked : check item with
      | error e => rfl
      | ok result =>
          simp only [map_ok, ok_bind]
          rw [ih (keeps state item result holds checked)]
          cases items.mapM check <;> rfl

theorem mapM_eq_ok {check : Item → Except Error Result} {items : List Item}
    {results : List Result} : items.mapM check = .ok results ↔
      List.Forall₂ (fun item result => check item = .ok result) items results := by
  induction items generalizing results with
  | nil =>
      rw [List.mapM_nil, List.forall₂_nil_left_iff]
      exact ⟨fun same => (Except.ok.inj same).symm, fun same => congrArg Except.ok same.symm⟩
  | cons item items ih =>
      rw [List.mapM_cons, bind_eq_ok, List.forall₂_cons_left_iff]
      constructor
      · rintro ⟨result, checked, rest⟩
        obtain ⟨results, later, same⟩ := bind_eq_ok.mp rest
        exact ⟨result, results, checked, ih.mp later, (Except.ok.inj same).symm⟩
      · rintro ⟨result, results, checked, later, rfl⟩
        exact ⟨result, checked, bind_eq_ok.mpr ⟨results, ih.mpr later, rfl⟩⟩

theorem mapM_of_all (value : Item → Result) {check : Item → Except Error Result}
    {items : List Item} (all : ∀ item ∈ items, check item = .ok (value item)) :
    items.mapM check = .ok (items.map value) := by
  rw [mapM_eq_ok, List.forall₂_map_right_iff]
  exact List.forall₂_same.mpr all

theorem mapM_of_some {check : Item → Except Error Result} {items : List Item} {e : Error}
    (cases : ∀ item ∈ items, (∃ result, check item = .ok result) ∨ check item = .error e)
    (failing : ∃ item ∈ items, check item = .error e) : items.mapM check = .error e := by
  induction items with
  | nil => simp at failing
  | cons first items ih =>
      rw [List.mapM_cons]
      rcases cases first List.mem_cons_self with ⟨result, checked⟩ | failed
      · obtain ⟨item, member, failed⟩ := failing
        have later : item ∈ items := by
          rcases List.mem_cons.mp member with same | later
          · rw [same, checked] at failed
            cases failed
          · exact later
        rw [checked, ok_bind,
          ih (fun item member => cases item (List.mem_cons_of_mem _ member)) ⟨item, later, failed⟩]
        rfl
      · rw [failed, error_bind]

theorem foldlM_congr {first second : State → Item → Except Error State} {items : List Item}
    (same : ∀ state, ∀ item ∈ items, first state item = second state item) (state : State) :
    items.foldlM first state = items.foldlM second state := by
  induction items generalizing state with
  | nil => rfl
  | cons item items ih =>
      rw [List.foldlM_cons, List.foldlM_cons, same state item List.mem_cons_self]
      congr 1
      funext next
      exact ih (fun state item member => same state item (List.mem_cons_of_mem _ member)) next

/-- With an invariant of the items done and the state, the loop passes when every step would. -/
theorem foldlM_passes_iff (Holds : List Item → State → Prop)
    {step : State → Item → Except Error State} {passes : Item → Prop} {items : List Item}
    (steps : ∀ done state, ∀ item ∈ items, Holds done state →
      ((∃ next, step state item = .ok next) ↔ passes item))
    (keeps : ∀ done state next, ∀ item ∈ items, Holds done state → step state item = .ok next →
      Holds (done ++ [item]) next) {done : List Item} {state : State} (holds : Holds done state) :
    ((∃ after, items.foldlM step state = .ok after) ↔ ∀ item ∈ items, passes item) ∧
      ∀ after, items.foldlM step state = .ok after → Holds (done ++ items) after := by
  induction items generalizing done state with
  | nil =>
      rw [List.foldlM_nil, List.append_nil]
      refine ⟨iff_of_true ⟨state, rfl⟩ (by simp), fun after same => ?_⟩
      rw [← Except.ok.inj same]
      exact holds
  | cons item items ih =>
      rw [List.foldlM_cons]
      have round := steps done state item List.mem_cons_self holds
      have later : ∀ done state, ∀ other ∈ items, Holds done state →
          ((∃ next, step state other = .ok next) ↔ passes other) :=
        fun done state other member => steps done state other (List.mem_cons_of_mem _ member)
      have kept : ∀ done state next, ∀ other ∈ items, Holds done state →
          step state other = .ok next → Holds (done ++ [other]) next :=
        fun done state next other member => keeps done state next other
          (List.mem_cons_of_mem _ member)
      cases ran : step state item with
      | error e =>
          rw [ran] at round
          refine ⟨iff_of_false ?_ ?_, ?_⟩
          · rintro ⟨after, failed⟩
            cases failed
          · intro all
            obtain ⟨next, failed⟩ := round.mpr (all item List.mem_cons_self)
            cases failed
          · intro after failed
            cases failed
      | ok next =>
          have passed : passes item := round.mp ⟨next, ran⟩
          obtain ⟨runs, after⟩ := ih later kept
            (keeps done state next item List.mem_cons_self holds ran)
          rw [List.append_assoc] at after
          simp only [ok_bind, List.forall_mem_cons, passed, true_and]
          exact ⟨runs, after⟩

end Fallible
