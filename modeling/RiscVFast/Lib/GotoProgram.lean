import Mathlib.Data.List.Basic
import Mathlib.Logic.Relation

/-! Function bodies with labels: lines that run one after the other, jump to a label or leave the
function. -/

namespace GotoProgram

open Relation

inductive Flow (Label : Type)
  | onward
  | jump (target : Label)
  | leave
deriving DecidableEq

/-- `targets` are the labels that a line names; it jumps to no other. -/
structure Language (Line Label State : Type) where
  labelOf : Line → Option Label
  targets : Line → List Label
  effect : Line → State → Option (State × Flow Label)
  aims : ∀ {line : Line} {s t : State} {target : Label},
    effect line s = some (t, .jump target) → target ∈ targets line

variable {Line Label State : Type} (language : Language Line Label State)

def Language.labels (program : List Line) : List Label := program.filterMap language.labelOf

structure Language.WellFormed (program : List Line) : Prop where
  unique : (language.labels program).Nodup
  defined : ∀ line ∈ program, ∀ target ∈ language.targets line, target ∈ language.labels program

variable [DecidableEq Label]

def Language.behind (target : Label) : List Line → Option (List Line)
  | [] => none
  | line :: rest =>
      if language.labelOf line = some target then some rest else Language.behind target rest

abbrev Config (Line State : Type) := List Line × State

inductive Language.Step (program : List Line) : Config Line State → Config Line State → Prop
  | onward {line : Line} {rest : List Line} {s t : State}
      (ran : language.effect line s = some (t, .onward)) :
      Language.Step program (line :: rest, s) (rest, t)
  | jump {line : Line} {rest code : List Line} {s t : State} {target : Label}
      (ran : language.effect line s = some (t, .jump target))
      (found : language.behind target program = some code) :
      Language.Step program (line :: rest, s) (code, t)

abbrev Language.Reaches (program : List Line) :
    Config Line State → Config Line State → Prop :=
  ReflTransGen (language.Step program)

/-- A block of lines, up to its end or to the first line that jumps or leaves. -/
def Language.run : List Line → State → Option (State × Flow Label)
  | [], s => some (s, .onward)
  | line :: rest, s => do
      let (t, flow) ← language.effect line s
      match flow with
      | .onward => Language.run rest t
      | flow => some (t, flow)

section Labels

variable {language} {program before rest : List Line} {line : Line} {target : Label}

end Labels

section Blocks

variable {language} {program block rest code : List Line} {line : Line} {s t : State}
  {target : Label}

theorem Reaches.onward (ran : language.run block s = some (t, .onward)) :
    language.Reaches program (block ++ rest, s) (rest, t) := by
  induction block generalizing s with
  | nil =>
      rw [Language.run, Option.some.injEq, Prod.mk.injEq] at ran
      rw [ran.1]
      exact .refl
  | cons line block ih =>
      rw [Language.run, Option.bind_eq_bind, Option.bind_eq_some_iff] at ran
      obtain ⟨⟨middle, flow⟩, first, ran⟩ := ran
      cases flow with
      | onward => exact .head (.onward first) (ih ran)
      | jump target => simp at ran
      | leave => simp at ran

theorem Reaches.jump (ran : language.run block s = some (t, .jump target))
    (found : language.behind target program = some code) :
    language.Reaches program (block ++ rest, s) (code, t) := by
  induction block generalizing s with
  | nil => simp [Language.run] at ran
  | cons line block ih =>
      rw [Language.run, Option.bind_eq_bind, Option.bind_eq_some_iff] at ran
      obtain ⟨⟨middle, flow⟩, first, ran⟩ := ran
      cases flow with
      | onward => exact .head (.onward first) (ih ran)
      | jump other =>
          simp only [Option.some.injEq, Prod.mk.injEq, Flow.jump.injEq] at ran
          obtain ⟨rfl, rfl⟩ := ran
          exact .single (.jump first found)
      | leave => simp at ran

end Blocks

end GotoProgram
