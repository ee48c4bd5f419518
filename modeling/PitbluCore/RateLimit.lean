import Mathlib.Data.Rat.Floor
import PitbluCore.Library.TokenBucket

namespace PitbluCore

open Library TokenBucket

structure RateLimit where
  rate : ℚ
  capacity : ℚ
  tokens : ℚ
  last : ℚ
  rate_pos : 0 < rate
  one_le_capacity : 1 ≤ capacity
  tokens_nonneg : 0 ≤ tokens
  tokens_le : tokens ≤ capacity

namespace RateLimit

def create (perMinute : ℕ) (h : 1 ≤ perMinute) (clock : ℚ) : RateLimit where
  rate := perMinute / 60
  capacity := min perMinute 10
  tokens := min perMinute 10
  last := clock
  rate_pos := div_pos (by exact_mod_cast h) (by norm_num)
  one_le_capacity := le_min (by exact_mod_cast h) (by norm_num)
  tokens_nonneg := le_min (by positivity) (by norm_num)
  tokens_le := le_rfl

section Calls

variable (s : RateLimit)

/-- `_tokens` once `retry_after` has refilled them. -/
def refilled (now : ℚ) : ℚ := refill s.capacity s.rate s.tokens (now - s.last)

theorem refilled_nonneg (now : ℚ) : 0 ≤ s.refilled now :=
  refill_nonneg (s.one_le_capacity.trans' zero_le_one) s.rate_pos.le s.tokens_nonneg

def retryAfter (now : ℚ) : ℤ × RateLimit :=
  let tokens := s.refilled now
  if h : 1 ≤ tokens then
    (0, { s with
      tokens := tokens - 1
      last := now
      tokens_nonneg := by linarith
      tokens_le := by linarith [show tokens ≤ s.capacity from refill_le_capacity] })
  else
    (max 1 ⌈(1 - tokens) / s.rate⌉, { s with
      tokens := tokens
      last := now
      tokens_nonneg := s.refilled_nonneg now
      tokens_le := refill_le_capacity })

def calls : RateLimit → List ℚ → List (ℚ × ℤ)
  | _, [] => []
  | s, now :: times => (now, (s.retryAfter now).1) :: calls (s.retryAfter now).2 times

def after (times : List ℚ) : RateLimit := times.foldl (fun s now => (s.retryAfter now).2) s

end Calls

def admitted (start length : ℚ) (calls : List (ℚ × ℤ)) : List (ℚ × ℤ) :=
  calls.filter (fun c => start ≤ c.1 && c.1 ≤ start + length && c.2 = 0)

variable {s : RateLimit} {now : ℚ}

theorem retryAfter_of_le (h : 1 ≤ s.refilled now) :
    (s.retryAfter now).1 = 0 ∧ (s.retryAfter now).2.tokens = s.refilled now - 1 := by
  simp [retryAfter, h]

theorem retryAfter_of_lt (h : s.refilled now < 1) :
    (s.retryAfter now).1 = max 1 ⌈(1 - s.refilled now) / s.rate⌉ ∧ (s.retryAfter now).2.tokens = s.refilled now := by
  simp [retryAfter, not_le.mpr h]

theorem retryAfter_frame (s : RateLimit) (now : ℚ) : (s.retryAfter now).2.last = now ∧
    (s.retryAfter now).2.rate = s.rate ∧ (s.retryAfter now).2.capacity = s.capacity := by
  unfold retryAfter
  dsimp only
  split <;> exact ⟨rfl, rfl, rfl⟩

theorem retryAfter_eq_zero_iff : (s.retryAfter now).1 = 0 ↔ 1 ≤ s.refilled now := by
  constructor
  · intro h
    by_contra hlt
    rw [(retryAfter_of_lt (not_le.mp hlt)).1] at h
    have hone : (1 : ℤ) ≤ max 1 ⌈(1 - s.refilled now) / s.rate⌉ := le_max_left _ _
    omega
  · exact fun h => (retryAfter_of_le h).1

section Window

variable {start length : ℚ}

def budget (s : RateLimit) (start length : ℚ) : ℚ := TokenBucket.budget s.capacity s.rate start length s.tokens s.last

theorem capacity_nonneg (s : RateLimit) : 0 ≤ s.capacity := zero_le_one.trans s.one_le_capacity

theorem budget_step (hl : 0 ≤ length) (hn : s.last ≤ now) :
    ((admitted start length [(now, (s.retryAfter now).1)]).length : ℚ) + (s.retryAfter now).2.budget start length ≤
      s.budget start length := by
  obtain ⟨hlast, hrate, hcap⟩ := retryAfter_frame s now
  unfold RateLimit.budget
  rw [hlast, hrate, hcap]
  by_cases hw : start ≤ now ∧ now ≤ start + length
  · by_cases hone : 1 ≤ s.refilled now
    · obtain ⟨hzero, htokens⟩ := retryAfter_of_le hone
      rw [htokens]
      simpa [admitted, hw, hzero, refilled] using budget_spend s.rate_pos.le hn hw.1 hw.2
    · obtain ⟨-, htokens⟩ := retryAfter_of_lt (not_le.mp hone)
      have hpos : (s.retryAfter now).1 ≠ 0 := fun hx => hone (retryAfter_eq_zero_iff.mp hx)
      have hidle : 0 + TokenBucket.budget s.capacity s.rate start length (s.refilled now - 0) now ≤
          TokenBucket.budget s.capacity s.rate start length s.tokens s.last :=
        budget_spend s.rate_pos.le hn hw.1 hw.2
      rw [htokens]
      simpa [admitted, hpos, refilled] using hidle
  · have hout : now < start ∨ start + length < now := by
      rcases not_and_or.mp hw with h | h
      · exact .inl (not_le.mp h)
      · exact .inr (not_le.mp h)
    have hidle := budget_idle s.capacity_nonneg s.rate_pos.le hl s.tokens_nonneg hn hout (s.retryAfter now).2.tokens
    have hnone : admitted start length [(now, (s.retryAfter now).1)] = [] := by
      rcases not_and_or.mp hw with h | h <;> simp [admitted, h]
    simpa [hnone] using hidle

theorem admitted_le_budget {times : List ℚ} (ht : (s.last :: times).IsChain (· ≤ ·)) (hl : 0 ≤ length) :
    ((admitted start length (s.calls times)).length : ℚ) ≤ s.budget start length := by
  induction times generalizing s with
  | nil =>
    have hm : 0 ≤ length * s.rate := mul_nonneg hl s.rate_pos.le
    unfold RateLimit.budget TokenBucket.budget
    simp only [calls, admitted, List.filter_nil, List.length_nil, Nat.cast_zero]
    split
    · exact add_nonneg s.capacity_nonneg hm
    · split
      · exact add_nonneg s.tokens_nonneg (mul_nonneg (by linarith) s.rate_pos.le)
      · exact le_rfl
  | cons now times ih =>
    obtain ⟨hn, ht⟩ := List.isChain_cons_cons.mp ht
    have hrest := ih (s := (s.retryAfter now).2) (by rw [(retryAfter_frame s now).1]; exact ht)
    have hstep : ((admitted start length [(now, (s.retryAfter now).1)]).length : ℚ) +
        (s.retryAfter now).2.budget start length ≤ s.budget start length := budget_step hl hn
    have hsplit : admitted start length (s.calls (now :: times)) =
        admitted start length [(now, (s.retryAfter now).1)] ++
          admitted start length ((s.retryAfter now).2.calls times) := by
      simp only [calls, admitted, ← List.filter_append, List.singleton_append]
    rw [hsplit, List.length_append, Nat.cast_add]
    linarith

end Window

section Advice

theorem refilled_of_rejected {times : List ℚ} {later : ℚ} (ht : (s.last :: times).IsChain (· ≤ ·))
    (hlast : ∀ time ∈ s.last :: times, time ≤ later) (hr : ∀ c ∈ s.calls times, c.2 ≠ 0) :
    (s.after times).refilled later = s.refilled later := by
  induction times generalizing s with
  | nil => rfl
  | cons now times ih =>
    obtain ⟨hn, ht⟩ := List.isChain_cons_cons.mp ht
    obtain ⟨hl, hrate, hcap⟩ := retryAfter_frame s now
    have hlt : s.refilled now < 1 := by
      by_contra hone
      exact hr (now, (s.retryAfter now).1) List.mem_cons_self (retryAfter_of_le (not_lt.mp hone)).1
    have hrest := ih (s := (s.retryAfter now).2) (by rw [hl]; exact ht)
      (by rw [hl]; exact fun time hm => hlast time (List.mem_cons_of_mem _ hm))
      (fun c hc => hr c (List.mem_cons_of_mem _ hc))
    have hfold : s.after (now :: times) = (s.retryAfter now).2.after times := rfl
    rw [hfold, hrest, refilled, hl, hrate, hcap, (retryAfter_of_lt hlt).2]
    have hnow : now ≤ later := hlast now (by simp)
    calc refill s.capacity s.rate (s.refilled now) (later - now)
        = refill s.capacity s.rate s.tokens ((now - s.last) + (later - now)) :=
          refill_refill s.rate_pos.le (by linarith) (by linarith)
      _ = s.refilled later := by
          rw [refilled]
          congr 1
          ring

theorem admitted_after_advice {times : List ℚ} {later : ℚ} (hpos : 0 < (s.retryAfter now).1)
    (ht : (now :: times).IsChain (· ≤ ·)) (hlast : ∀ time ∈ times, time ≤ later)
    (hr : ∀ c ∈ (s.retryAfter now).2.calls times, c.2 ≠ 0) (hl : now + (s.retryAfter now).1 ≤ later) :
    (((s.retryAfter now).2.after times).retryAfter later).1 = 0 := by
  obtain ⟨hlastNow, hrate, hcap⟩ := retryAfter_frame s now
  have hlt : s.refilled now < 1 := by
    by_contra hone
    exact hpos.ne' (retryAfter_of_le (not_lt.mp hone)).1
  obtain ⟨hadvice, htokens⟩ := retryAfter_of_lt hlt
  have hposQ : (0 : ℚ) < (s.retryAfter now).1 := by exact_mod_cast hpos
  have hwait : (1 - s.refilled now) / s.rate ≤ later - now := by
    have hceil : (1 - s.refilled now) / s.rate ≤ ((⌈(1 - s.refilled now) / s.rate⌉ : ℤ) : ℚ) := Int.le_ceil _
    have hmax : ((⌈(1 - s.refilled now) / s.rate⌉ : ℤ) : ℚ) ≤ (s.retryAfter now).1 := by
      rw [hadvice]
      exact_mod_cast le_max_right _ _
    linarith
  rw [retryAfter_eq_zero_iff, refilled_of_rejected (by rw [hlastNow]; exact ht) ?_ hr, refilled, hlastNow, htokens,
    hrate, hcap]
  · exact one_le_refill s.one_le_capacity s.rate_pos hwait
  · rw [hlastNow]
    refine List.forall_mem_cons.mpr ⟨?_, hlast⟩
    linarith

end Advice

theorem rate_limit_sound (perMinute : ℕ) (h : 1 ≤ perMinute) (clock : ℚ) (times : List ℚ)
    (ht : (clock :: times).IsChain (· ≤ ·)) :
    (∀ start length, 0 ≤ length → ((admitted start length ((create perMinute h clock).calls times)).length : ℚ) ≤
      min (perMinute : ℚ) 10 + length * (perMinute / 60)) ∧
    ∀ before now between later rest s, times = before ++ now :: (between ++ later :: rest) →
      s = (create perMinute h clock).after before → 0 < (s.retryAfter now).1 →
      (∀ c ∈ (s.retryAfter now).2.calls between, c.2 ≠ 0) → now + (s.retryAfter now).1 ≤ later →
      (((s.retryAfter now).2.after between).retryAfter later).1 = 0 := by
  constructor
  · intro start length hl
    refine (admitted_le_budget ht hl).trans ?_
    exact budget_le (create perMinute h clock).rate_pos.le hl (create perMinute h clock).capacity_nonneg le_rfl
  · rintro before now between later rest s rfl - hpos hr hl
    have hpair := (List.pairwise_append.mp (List.isChain_iff_pairwise.mp ht).of_cons).2.1
    obtain ⟨hnow, hpair⟩ := List.pairwise_cons.mp hpair
    obtain ⟨hbetween, -, hlater⟩ := List.pairwise_append.mp hpair
    refine admitted_after_advice hpos (List.isChain_iff_pairwise.mpr (List.pairwise_cons.mpr ⟨?_, hbetween⟩)) ?_ hr hl
    · exact fun time hm => hnow time (List.mem_append_left _ hm)
    · exact fun time hm => hlater time hm later List.mem_cons_self

theorem rate_limit_sound_refill :
    ((create 30 (by decide) 0).calls (List.replicate 11 0 ++ [2])).map Prod.snd = List.replicate 10 0 ++ [2, 0] ∧
      ((admitted 0 2 ((create 30 (by decide) 0).calls (List.replicate 11 0 ++ [2]))).length : ℚ) ≤
      min 30 10 + 2 * (30 / 60) ∧
      (((((create 30 (by decide) 0).after (List.replicate 10 0)).retryAfter 0).2.after []).retryAfter 2).1 = 0 := by
  have ht : ((0 : ℚ) :: (List.replicate 11 0 ++ [2])).IsChain (· ≤ ·) := by decide +kernel
  obtain ⟨hwindow, hadvice⟩ := rate_limit_sound 30 (by decide) 0 (List.replicate 11 0 ++ [2]) ht
  refine ⟨by decide +kernel, hwindow 0 2 (by norm_num), ?_⟩
  exact hadvice (List.replicate 10 0) 0 [] 2 [] _ rfl rfl (by decide +kernel) (fun c hc => by cases hc)
    (by decide +kernel)

end RateLimit

end PitbluCore
