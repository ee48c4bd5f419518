import Mathlib.Logic.Relation
import Mathlib.Order.Basic

namespace Library

variable {S A : Type}

/-- States reached from an initial state by enabled actions that the guard accepts. -/
inductive Reaches (init : S → Prop) (step : S → A → Option S) (guard : S → A → Prop) : S → Prop
  | init {s : S} (h : init s) : Reaches init step guard s
  | step {s t : S} {a : A} (hr : Reaches init step guard s) (hg : guard s a) (ht : step s a = some t) :
      Reaches init step guard t

def unguarded : S → A → Prop := fun _ _ => True

abbrev Reachable (init : S → Prop) (step : S → A → Option S) : S → Prop := Reaches init step unguarded

def replay (step : S → A → Option S) : S → List A → Option S
  | s, [] => some s
  | s, a :: as => (step s a).bind (fun t => replay step t as)

def replayIf (ok : S → A → Bool) (step : S → A → Option S) : S → List A → Option S
  | s, [] => some s
  | s, a :: as => if ok s a then (step s a).bind (fun t => replayIf ok step t as) else none

theorem replay_of_replayIf {ok : S → A → Bool} {step : S → A → Option S} {as : List A} {s t : S}
    (h : replayIf ok step s as = some t) : replay step s as = some t := by
  induction as generalizing s with
  | nil => exact h
  | cons a as ih =>
    obtain ⟨u, hu, ht⟩ := Option.bind_eq_some_iff.mp (Option.ite_none_right_eq_some.mp h).2
    exact Option.bind_eq_some_iff.mpr ⟨u, hu, ih ht⟩

def paired {T : Type} (step : S → A → Option S) (effect : S → A → T → T) (p : S × T) (a : A) : Option (S × T) :=
  (step p.1 a).map (fun s => (s, effect p.1 a p.2))

namespace Reaches

variable {init : S → Prop} {step : S → A → Option S} {guard guard' : S → A → Prop}

theorem invariant {I : S → Prop} (h0 : ∀ s, init s → I s)
    (hs : ∀ s a t, I s → guard s a → step s a = some t → I t) {s : S} (h : Reaches init step guard s) : I s := by
  induction h with
  | init h => exact h0 _ h
  | step _ hg ht ih => exact hs _ _ _ ih hg ht

theorem mono (hg : ∀ s a, guard s a → guard' s a) {s : S} (h : Reaches init step guard s) :
    Reaches init step guard' s := by
  induction h with
  | init h => exact .init h
  | step _ ha ht ih => exact .step ih (hg _ _ ha) ht

theorem imp (hg : ∀ s a t, Reachable init step s → guard s a → step s a = some t → guard' s a) {s : S}
    (h : Reaches init step guard s) : Reaches init step guard' s := by
  induction h with
  | init h => exact .init h
  | step hr ha ht ih => exact .step ih (hg _ _ _ (hr.mono (fun _ _ _ => trivial)) ha ht) ht

theorem of_replay_guarded {as : List A} {s t : S} (hs : Reaches init step guard s) (hg : ∀ a ∈ as, ∀ u, guard u a)
    (h : replay step s as = some t) : Reaches init step guard t := by
  induction as generalizing s with
  | nil => exact Option.some.inj h ▸ hs
  | cons a as ih =>
    obtain ⟨u, hu, ht⟩ := Option.bind_eq_some_iff.mp h
    exact ih (.step hs (hg a List.mem_cons_self s) hu) (fun b hb => hg b (List.mem_cons_of_mem a hb)) ht

theorem of_replay {as : List A} {s t : S} (hs : Reachable init step s) (h : replay step s as = some t) :
    Reachable init step t := by
  induction as generalizing s with
  | nil => exact Option.some.inj h ▸ hs
  | cons a as ih =>
    obtain ⟨u, hu, ht⟩ := Option.bind_eq_some_iff.mp h
    exact ih (.step hs trivial hu) ht

theorem of_replayIf {ok : S → A → Bool} (hok : ∀ s a, ok s a = true → guard s a) {as : List A} {s t : S}
    (hs : Reaches init step guard s) (h : replayIf ok step s as = some t) : Reaches init step guard t := by
  induction as generalizing s with
  | nil => exact Option.some.inj h ▸ hs
  | cons a as ih =>
    obtain ⟨ha, h⟩ := Option.ite_none_right_eq_some.mp h
    obtain ⟨u, hu, ht⟩ := Option.bind_eq_some_iff.mp h
    exact ih (.step hs (hok s a ha) hu) ht

end Reaches

end Library
