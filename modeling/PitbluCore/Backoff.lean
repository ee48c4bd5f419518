import Mathlib.Algebra.Order.Ring.Rat
import Mathlib.Data.List.GetD
import Mathlib.Tactic.Linarith
import PitbluCore.Connection

namespace PitbluCore

structure JitteredBackoffPolicy where
  delays : List ℚ
  jitterFraction : ℚ
  attempt : ℕ
  delays_ne : delays ≠ []
  delays_pos : ∀ d ∈ delays, 0 < d
  jitter_range : 0 ≤ jitterFraction ∧ jitterFraction ≤ 1

namespace JitteredBackoffPolicy

theorem default_delays_ne : backoffDelays.map (Nat.cast : ℕ → ℚ) ≠ [] := by
  simp [backoffDelays]

theorem default_delays_pos : ∀ d ∈ backoffDelays.map (Nat.cast : ℕ → ℚ), 0 < d := by
  simp [backoffDelays]

theorem default_jitter_range : (0 : ℚ) ≤ 1 / 5 ∧ (1 : ℚ) / 5 ≤ 1 := by constructor <;> norm_num

def default : JitteredBackoffPolicy where
  delays := backoffDelays.map Nat.cast
  jitterFraction := 1 / 5
  attempt := 0
  delays_ne := default_delays_ne
  delays_pos := default_delays_pos
  jitter_range := default_jitter_range

variable (b : JitteredBackoffPolicy)

def base (attempt : ℕ) : ℚ := b.delays.getD (min attempt (b.delays.length - 1)) 0

def factor (randomValue : ℚ) : ℚ := 1 + (randomValue * 2 - 1) * b.jitterFraction

def nextDelay (randomValue : ℚ) : ℚ × JitteredBackoffPolicy :=
  (b.base b.attempt * b.factor randomValue, { b with attempt := b.attempt + 1 })

def reset : JitteredBackoffPolicy := { b with attempt := 0 }

def Offers (attempt : ℕ) (delay : ℚ) : Prop :=
  b.base attempt * (1 - b.jitterFraction) ≤ delay ∧ delay ≤ b.base attempt * (1 + b.jitterFraction)

def Drawn (randomValue : ℚ) : Prop := 0 ≤ randomValue ∧ randomValue < 1

variable {b} {randomValue : ℚ}

theorem base_pos (attempt : ℕ) : 0 < b.base attempt := by
  have hlen : 0 < b.delays.length := List.length_pos_iff.mpr b.delays_ne
  have hlt : min attempt (b.delays.length - 1) < b.delays.length := by omega
  rw [base, List.getD_eq_getElem _ _ hlt]
  exact b.delays_pos _ (List.getElem_mem hlt)

theorem factor_range (h : Drawn randomValue) :
    1 - b.jitterFraction ≤ b.factor randomValue ∧ b.factor randomValue ≤ 1 + b.jitterFraction := by
  obtain ⟨h0, h1⟩ := h
  obtain ⟨hj, -⟩ := b.jitter_range
  unfold factor
  constructor <;> nlinarith

theorem nextDelay_offers (h : Drawn randomValue) : b.Offers b.attempt (b.nextDelay randomValue).1 := by
  obtain ⟨hlow, hhigh⟩ := factor_range (b := b) h
  have hpos := (base_pos (b := b) b.attempt).le
  exact ⟨mul_le_mul_of_nonneg_left hlow hpos, mul_le_mul_of_nonneg_left hhigh hpos⟩

end JitteredBackoffPolicy

end PitbluCore
