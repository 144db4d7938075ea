import Mathlib.Data.Nat.Basic

/-! A loop that looks for requests only now and then: once every `period` rounds, and once every
`slow` rounds, after it has looked, a timer makes one. -/

namespace Poller

/-- Where the loop is in the slow period, whether it would serve a request, whether there is one,
and whether the timer counts as one. -/
structure State where
  phase : Nat
  enabled : Bool
  pending : Bool
  ticks : Bool
deriving DecidableEq

variable (period slow : Nat)

def State.fires (state : State) : Bool :=
  state.phase % period == period - 1 && state.enabled && state.pending

def State.next (state : State) : State where
  phase := (state.phase + 1) % slow
  enabled := state.enabled && !state.fires period
  pending := state.pending || state.phase == slow - 1 && state.ticks
  ticks := state.ticks

/-- The round in which the loop serves a request. -/
def State.fireRound (state : State) : Option Nat :=
  if !state.enabled then none
  else if state.pending then some (period - 1 - state.phase % period)
  else if state.ticks then some (slow - 1 - state.phase + period)
  else none

variable {period slow} {state : State}

theorem fires_iff_zero (positive : 0 < period) (inside : state.phase < slow) :
    state.fires period = true ↔ state.fireRound period slow = some 0 := by
  have below := Nat.mod_lt state.phase positive
  obtain ⟨phase, enabled, pending, ticks⟩ := state
  cases enabled <;> cases pending <;> cases ticks <;>
    simp [State.fires, State.fireRound] at below ⊢ <;> omega

theorem short_next (divides : period ∣ slow) (waiting : state.phase % period + 1 < period) :
    (state.next period slow).phase % period = state.phase % period + 1 := by
  have one : 1 % period = 1 := Nat.mod_eq_of_lt (by omega)
  calc (state.phase + 1) % slow % period = (state.phase + 1) % period :=
        Nat.mod_mod_of_dvd _ divides
    _ = (state.phase % period + 1) % period := by rw [Nat.add_mod, one]
    _ = state.phase % period + 1 := Nat.mod_eq_of_lt waiting

theorem fireRound_next (positive : 0 < period) (divides : period ∣ slow)
    (inside : state.phase < slow) (round : Nat) :
    (state.next period slow).fireRound period slow = some round ↔
      state.fireRound period slow = some (round + 1) := by
  have below := Nat.mod_lt state.phase positive
  cases enabled : state.enabled with
  | false => simp [State.fireRound, State.next, enabled]
  | true =>
      cases pending : state.pending with
      | true =>
          by_cases looks : state.phase % period = period - 1
          · simp [State.fireRound, State.next, State.fires, enabled, pending, looks]
          · have short := short_next divides (by omega : state.phase % period + 1 < period)
            have still : (state.next period slow).enabled = true := by
              simp [State.next, State.fires, enabled, looks]
            have waits : (state.next period slow).pending = true := by
              simp [State.next, pending]
            simp only [State.fireRound, enabled, pending, still, waits, short, Bool.not_true,
              Bool.false_eq_true, if_false, if_true, Option.some.injEq]
            omega
      | false =>
          have still : (state.next period slow).enabled = true := by
            simp [State.next, State.fires, enabled, pending]
          cases ticks : state.ticks with
          | false => simp [State.fireRound, State.next, enabled, pending, ticks]
          | true =>
              by_cases last : state.phase = slow - 1
              -- the timer makes its request now, and the loop looks a short period later
              · have wrapped : (state.phase + 1) % slow = 0 := by
                  rw [last, Nat.sub_add_cancel (by omega), Nat.mod_self]
                have made : state.next period slow = ⟨0, true, true, true⟩ := by
                  simp [State.next, State.fires, enabled, pending, ticks, last] at wrapped ⊢
                  exact wrapped
                simp only [State.fireRound, made, enabled, pending, ticks, last, Bool.not_true,
                  Bool.false_eq_true, if_false, if_true, Nat.zero_mod, Option.some.injEq]
                omega
              · have moved : (state.phase + 1) % slow = state.phase + 1 :=
                  Nat.mod_eq_of_lt (by omega)
                have closer : state.next period slow = ⟨state.phase + 1, true, false, true⟩ := by
                  simp [State.next, State.fires, enabled, pending, ticks, last, moved]
                simp only [State.fireRound, closer, enabled, pending, ticks, Bool.not_true,
                  Bool.false_eq_true, if_false, if_true, Option.some.injEq]
                omega

end Poller
