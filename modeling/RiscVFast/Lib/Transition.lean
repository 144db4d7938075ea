import Mathlib.Data.List.Induction

/-! Labelled transition systems: finite runs with the labels they leave behind, and the
induction rules for facts about a state, about a state and its history, and about two systems
running in step. -/

namespace Transition

variable {State Label : Type}

/-- A finite run from one state to another; `labels` lists what happened, first step first. -/
inductive Runs (Step : State → Label → State → Prop) : State → List Label → State → Prop
  | nil (s : State) : Runs Step s [] s
  | cons {s middle t : State} {label : Label} {labels : List Label}
      (first : Step s label middle) (rest : Runs Step middle labels t) :
      Runs Step s (label :: labels) t

variable {Step : State → Label → State → Prop}

theorem Runs.snoc {s middle t : State} {labels : List Label} {label : Label}
    (runs : Runs Step s labels middle) (last : Step middle label t) :
    Runs Step s (labels ++ [label]) t := by
  induction runs with
  | nil s => exact .cons last (.nil t)
  | cons first rest ih => exact .cons first (ih last)

theorem Runs.append {s middle t : State} {before after : List Label}
    (early : Runs Step s before middle) (late : Runs Step middle after t) :
    Runs Step s (before ++ after) t := by
  induction early with
  | nil s => exact late
  | cons first rest ih => exact .cons first (ih late)

theorem Runs.split {s t : State} {before after : List Label}
    (runs : Runs Step s (before ++ after) t) :
    ∃ middle, Runs Step s before middle ∧ Runs Step middle after t := by
  induction before generalizing s with
  | nil => exact ⟨s, .nil s, runs⟩
  | cons label before ih =>
      cases runs with
      | cons first rest =>
          obtain ⟨middle, early, late⟩ := ih rest
          exact ⟨middle, .cons first early, late⟩

theorem Runs.stepAt {s t : State} {before after : List Label} {label : Label}
    (runs : Runs Step s (before ++ label :: after) t) :
    ∃ source target, Runs Step s before source ∧ Step source label target ∧
      Runs Step target after t := by
  obtain ⟨source, early, late⟩ := runs.split
  cases late with
  | cons first rest => exact ⟨source, _, early, first, rest⟩

/-- An invariant that admissible steps keep holds in every state of a run, and so a fact that it
gives the label of a step holds of all labels. -/
theorem Runs.labels_of_invariant {s t : State} {labels : List Label} (Inv : State → Prop)
    (Admissible Good : Label → Prop)
    (keeps : ∀ s label t, Inv s → Admissible label → Step s label t → Inv t ∧ Good label)
    (runs : Runs Step s labels t) (start : Inv s)
    (admissible : ∀ label ∈ labels, Admissible label) : Inv t ∧ ∀ label ∈ labels, Good label := by
  induction runs with
  | nil s => exact ⟨start, by simp⟩
  | cons first rest ih =>
      obtain ⟨kept, good⟩ := keeps _ _ _ start (admissible _ (by simp)) first
      obtain ⟨last, later⟩ := ih kept fun label member => admissible label (by simp [member])
      refine ⟨last, ?_⟩
      intro label member
      rcases List.mem_cons.mp member with rfl | member
      · exact good
      · exact later label member

theorem Runs.invariant {s t : State} {labels : List Label} (Inv : State → Prop)
    (keeps : ∀ s label t, Inv s → Step s label t → Inv t) (runs : Runs Step s labels t)
    (start : Inv s) : Inv t := by
  have run := runs.labels_of_invariant Inv (fun _ => True) (fun _ => True)
    (fun s label t holds _ first => ⟨keeps s label t holds first, trivial⟩)
    start (fun _ _ => trivial)
  exact run.1

theorem Runs.history {start : State} (Inv : List Label → State → Prop)
    (initial : Inv [] start)
    (keeps : ∀ past s label t, Runs Step start past s → Inv past s → Step s label t →
      Inv (past ++ [label]) t)
    {labels : List Label} {t : State} (runs : Runs Step start labels t) : Inv labels t := by
  suffices extend : ∀ {s t : State} {labels : List Label}, Runs Step s labels t →
      ∀ past, Runs Step start past s → Inv past s → Inv (past ++ labels) t by
    simpa using extend runs [] (.nil start) initial
  intro s t labels later
  induction later with
  | nil s =>
      intro past _ holds
      simpa using holds
  | @cons s middle t label labels first rest ih =>
      intro past earlier holds
      have kept := keeps past s label middle earlier holds first
      have next := ih (past ++ [label]) (earlier.snoc first) kept
      simpa using next

theorem Runs.deterministic
    (functional : ∀ s label t t', Step s label t → Step s label t' → t = t')
    {s t t' : State} {labels : List Label} (runs : Runs Step s labels t)
    (runs' : Runs Step s labels t') : t = t' := by
  induction runs with
  | nil s =>
      cases runs' with
      | nil => rfl
  | cons first rest ih =>
      cases runs' with
      | cons first' rest' =>
          have same := functional _ _ _ _ first first'
          subst same
          exact ih rest'

/-- Where a step keeps a fact exactly under a condition on the state before it, the fact holds
in every state of a run exactly when the condition holds at every step. -/
theorem Runs.along_iff (functional : ∀ s label t t', Step s label t → Step s label t' → t = t')
    {start finish : State} {labels : List Label} (Holds : State → Prop)
    (Keeps : State → Label → Prop) (initial : Holds start)
    (keeps_iff : ∀ past s label t, Runs Step start past s → Holds s → Step s label t →
      (Holds t ↔ Keeps s label))
    (runs : Runs Step start labels finish) :
    (∀ early late s, labels = early ++ late → Runs Step start early s → Holds s) ↔
      ∀ early label late s, labels = early ++ label :: late → Runs Step start early s →
        Keeps s label := by
  constructor
  · intro holds early label late s parts reaches
    subst parts
    obtain ⟨source, target, reachesSource, taken, _⟩ := runs.stepAt
    have same := reachesSource.deterministic functional reaches
    subst same
    have before := holds early (label :: late) source rfl reachesSource
    have after := holds (early ++ [label]) late target (by simp) (reachesSource.snoc taken)
    exact (keeps_iff early source label target reachesSource before taken).mp after
  · intro keeps early
    -- the prefix grows at its end
    induction early using List.reverseRecOn with
    | nil =>
        intro late s _ reaches
        cases reaches with
        | nil => exact initial
    | append_singleton early label ih =>
        intro late t parts reaches
        obtain ⟨s, target, reachesSource, taken, rest⟩ := reaches.stepAt
        have whole : labels = early ++ label :: late := by simpa using parts
        have before := ih (label :: late) s whole reachesSource
        cases rest with
        | nil =>
            exact (keeps_iff early s label t reachesSource before taken).mpr
              (keeps early label late s whole reachesSource)

theorem Runs.simulate {State' : Type} {Step' : State' → Label → State' → Prop}
    (Related : State → State' → Prop) (Admissible : Label → Prop)
    (simulates : ∀ s label t s', Related s s' → Admissible label → Step s label t →
      ∃ t', Step' s' label t' ∧ Related t t')
    {s t : State} {s' : State'} {labels : List Label} (runs : Runs Step s labels t)
    (start : Related s s') (admissible : ∀ label ∈ labels, Admissible label) :
    ∃ t', Runs Step' s' labels t' ∧ Related t t' := by
  induction runs generalizing s' with
  | nil s => exact ⟨s', .nil s', start⟩
  | cons first rest ih =>
      obtain ⟨middle', step', related⟩ :=
        simulates _ _ _ s' start (admissible _ (by simp)) first
      obtain ⟨t', runs', related'⟩ := ih related fun label member =>
        admissible label (by simp [member])
      exact ⟨t', .cons step' runs', related'⟩

end Transition
