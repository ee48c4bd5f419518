import Mathlib.Algebra.Order.Group.Nat
import Mathlib.Data.Nat.Init
import PitbluCore.Library.Runs

namespace Library

variable {S A B : Type}

structure Execution (step : S → A → Option S) where
  state : ℕ → S
  action : ℕ → A
  next : ∀ n, step (state n) (action n) = some (state (n + 1))

namespace Execution

variable {step : S → A → Option S} (e : Execution step)

def Eventually (P : S → Prop) (n : ℕ) : Prop := ∃ m ≥ n, P (e.state m)

/-- What is possible from some time on is done at some later time. -/
def WeaklyFair (possible : S → Prop) (does : A → Prop) : Prop :=
  ∀ n, (∀ m ≥ n, possible (e.state m)) → ∃ m ≥ n, does (e.action m)

/-- What is possible again and again is done at some later time. -/
def StronglyFair (possible : S → Prop) (does : A → Prop) : Prop :=
  ∀ n, (∀ m ≥ n, e.Eventually possible m) → ∃ m ≥ n, does (e.action m)

variable {e} {P Q : S → Prop} {n m : ℕ}

theorem Eventually.of_now (h : P (e.state n)) : e.Eventually P n := ⟨n, le_rfl, h⟩

theorem Eventually.imp (h : e.Eventually P n) (hi : ∀ m ≥ n, P (e.state m) → Q (e.state m)) : e.Eventually Q n := by
  obtain ⟨m, hm, hp⟩ := h
  exact ⟨m, hm, hi m hm hp⟩

theorem Eventually.bind (h : e.Eventually P n) (hq : ∀ m ≥ n, P (e.state m) → e.Eventually Q m) : e.Eventually Q n := by
  obtain ⟨m, hm, hp⟩ := h
  obtain ⟨k, hk, hk'⟩ := hq m hm hp
  exact ⟨k, hm.trans hk, hk'⟩

theorem persists (hs : ∀ m ≥ n, P (e.state m) → P (e.state (m + 1))) (hp : P (e.state n)) (hm : n ≤ m) :
    P (e.state m) := by
  induction m, hm using Nat.le_induction with
  | base => exact hp
  | succ m hm ih => exact hs m hm ih

theorem lasts (hstay : ∀ m ≥ n, P (e.state m) → P (e.state (m + 1)) ∨ Q (e.state (m + 1)))
    (hnever : ¬ e.Eventually Q n) (hp : P (e.state n)) (hm : n ≤ m) : P (e.state m) :=
  persists (fun k hk hpk => (hstay k hk hpk).resolve_right (fun hq => hnever ⟨k + 1, Nat.le_succ_of_le hk, hq⟩)) hp hm

section Rules

variable {possible : S → Prop} {does : A → Prop}

theorem StronglyFair.weakly (h : e.StronglyFair possible does) : e.WeaklyFair possible does :=
  fun n hn => h n (fun m hm => .of_now (hn m hm))

variable (hstay : ∀ m ≥ n, P (e.state m) → P (e.state (m + 1)) ∨ Q (e.state (m + 1)))
  (hdoes : ∀ m ≥ n, P (e.state m) → does (e.action m) → Q (e.state (m + 1))) (hp : P (e.state n))

include hstay hdoes hp

theorem WeaklyFair.eventually (h : e.WeaklyFair possible does)
    (hcan : ∀ m ≥ n, P (e.state m) → possible (e.state m)) : e.Eventually Q n := by
  by_contra hnever
  have hall : ∀ m ≥ n, P (e.state m) := fun m => lasts hstay hnever hp
  obtain ⟨m, hm, ha⟩ := h n (fun m hm => hcan m hm (hall m hm))
  exact hnever ⟨m + 1, Nat.le_succ_of_le hm, hdoes m hm (hall m hm) ha⟩

theorem StronglyFair.eventually (h : e.StronglyFair possible does)
    (hcan : ∀ m ≥ n, P (e.state m) → e.Eventually possible m) : e.Eventually Q n := by
  by_contra hnever
  have hall : ∀ m ≥ n, P (e.state m) := fun m => lasts hstay hnever hp
  obtain ⟨m, hm, ha⟩ := h n (fun m hm => hcan m hm (hall m hm))
  exact hnever ⟨m + 1, Nat.le_succ_of_le hm, hdoes m hm (hall m hm) ha⟩

end Rules

theorem eventually_all {bs : List B} {F : B → S → Prop}
    (hs : ∀ b ∈ bs, ∀ m ≥ n, F b (e.state m) → F b (e.state (m + 1)))
    (h : ∀ b ∈ bs, e.Eventually (F b) n) : e.Eventually (fun s => ∀ b ∈ bs, F b s) n := by
  induction bs with
  | nil => exact .of_now (by simp)
  | cons b bs ih =>
    obtain ⟨m, hm, hall⟩ := ih (fun b' hb' => hs b' (.tail _ hb')) (fun b' hb' => h b' (.tail _ hb'))
    obtain ⟨k, hk, hb⟩ := h b (.head _)
    refine ⟨max m k, hm.trans (le_max_left m k), fun b' hb' => ?_⟩
    rcases List.mem_cons.mp hb' with rfl | hb'
    · exact persists (n := k) (fun j hj => hs b' (.head _) j (hk.trans hj)) hb (le_max_right m k)
    · exact persists (n := m) (fun j hj => hs b' (.tail _ hb') j (hm.trans hj)) (hall b' hb') (le_max_left m k)

theorem eventually_of_rank (rank : S → ℕ)
    (h : ∀ m ≥ n, P (e.state m) → e.Eventually (fun s => Q s ∨ P s ∧ rank s < rank (e.state m)) m)
    (hp : P (e.state n)) : e.Eventually Q n := by
  suffices hall : ∀ r m, n ≤ m → rank (e.state m) = r → P (e.state m) → e.Eventually Q m from hall _ n le_rfl rfl hp
  intro r
  induction r using Nat.strong_induction_on with
  | _ r ih =>
    intro m hm hr hpm
    refine (h m hm hpm).bind (fun k hk hq => ?_)
    rcases hq with hq | ⟨hpk, hlt⟩
    · exact .of_now hq
    · exact ih _ (hr ▸ hlt) k (hm.trans hk) rfl hpk

theorem reaches {init : S → Prop} (h : Reachable init step (e.state 0)) (n : ℕ) : Reachable init step (e.state n) := by
  induction n with
  | zero => exact h
  | succ n ih => exact .step ih trivial (e.next n)

end Execution

end Library
