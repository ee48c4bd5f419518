import Mathlib.Algebra.Order.Field.Basic
import Mathlib.Tactic.Linarith
import Mathlib.Tactic.Ring

namespace Library.TokenBucket

variable {K : Type} [Field K] [LinearOrder K]

def refill (capacity rate tokens elapsed : K) : K := min capacity (tokens + max 0 elapsed * rate)

variable {capacity rate tokens elapsed elapsed' : K}

theorem refill_le_capacity : refill capacity rate tokens elapsed ≤ capacity := min_le_left _ _

theorem refill_le (he : 0 ≤ elapsed) : refill capacity rate tokens elapsed ≤ tokens + elapsed * rate := by
  rw [refill, max_eq_right he]
  exact min_le_right _ _

variable [IsStrictOrderedRing K]

theorem refill_nonneg (hc : 0 ≤ capacity) (hr : 0 ≤ rate) (ht : 0 ≤ tokens) :
    0 ≤ refill capacity rate tokens elapsed := by
  refine le_min hc ?_
  have hm : 0 ≤ max 0 elapsed * rate := mul_nonneg (le_max_left _ _) hr
  linarith

theorem refill_refill (hr : 0 ≤ rate) (he : 0 ≤ elapsed) (he' : 0 ≤ elapsed') :
    refill capacity rate (refill capacity rate tokens elapsed) elapsed' =
    refill capacity rate tokens (elapsed + elapsed') := by
  have hm : 0 ≤ elapsed' * rate := mul_nonneg he' hr
  simp only [refill, max_eq_right he, max_eq_right he', max_eq_right (add_nonneg he he')]
  rw [min_add, ← min_assoc, min_eq_left (a := capacity) (by linarith)]
  congr 1
  ring

theorem one_le_refill (hc : 1 ≤ capacity) (hr : 0 < rate) (he : (1 - tokens) / rate ≤ elapsed) :
    1 ≤ refill capacity rate tokens elapsed := by
  refine le_min hc ?_
  have hm : 1 - tokens ≤ elapsed * rate := (div_le_iff₀ hr).mp he
  have hx : elapsed * rate ≤ max 0 elapsed * rate := mul_le_mul_of_nonneg_right (le_max_right _ _) hr.le
  linarith

/-- What a bucket seen at time `last` can give out in the window from `start` on: a full bucket and the
refill, until it is seen in the window, and nothing once the window is over. -/
def budget (capacity rate start length tokens last : K) : K :=
  if last < start then capacity + length * rate
  else if last ≤ start + length then tokens + (start + length - last) * rate
  else 0

variable {start length last now spent : K}

theorem budget_le (hr : 0 ≤ rate) (hl : 0 ≤ length) (hc : 0 ≤ capacity) (ht : tokens ≤ capacity) :
    budget capacity rate start length tokens last ≤ capacity + length * rate := by
  have hm : 0 ≤ length * rate := mul_nonneg hl hr
  unfold budget
  split
  · exact le_rfl
  · split
    · have hw : (start + length - last) * rate ≤ length * rate := mul_le_mul_of_nonneg_right (by linarith) hr
      linarith
    · linarith

theorem budget_spend (hr : 0 ≤ rate) (hn : last ≤ now) (hs : start ≤ now) (he : now ≤ start + length) :
    spent + budget capacity rate start length (refill capacity rate tokens (now - last) - spent) now ≤
      budget capacity rate start length tokens last := by
  have hle : refill capacity rate tokens (now - last) ≤ tokens + (now - last) * rate := refill_le (by linarith)
  have hcap : refill capacity rate tokens (now - last) ≤ capacity := refill_le_capacity
  unfold budget
  rw [if_neg (not_lt.mpr hs), if_pos he]
  split
  · have hw : (start + length - now) * rate ≤ length * rate := mul_le_mul_of_nonneg_right (by linarith) hr
    linarith
  · rw [if_pos (hn.trans he)]
    nlinarith

theorem budget_idle (hc : 0 ≤ capacity) (hr : 0 ≤ rate) (hl : 0 ≤ length) (ht : 0 ≤ tokens) (hn : last ≤ now)
    (ho : now < start ∨ start + length < now) (tokens' : K) :
    budget capacity rate start length tokens' now ≤ budget capacity rate start length tokens last := by
  have hm : 0 ≤ length * rate := mul_nonneg hl hr
  unfold budget
  rcases ho with ho | ho
  · rw [if_pos ho, if_pos (hn.trans_lt ho)]
  · rw [if_neg (by linarith : ¬ now < start), if_neg (not_le.mpr ho)]
    split
    · linarith
    · split
      · have hw : 0 ≤ (start + length - last) * rate := mul_nonneg (by linarith) hr
        linarith
      · exact le_rfl

end Library.TokenBucket
