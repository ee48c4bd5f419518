import Mathlib.Data.Option.Basic

namespace Library

variable {K V S : Type}

structure Layer (K V S : Type) where
  source : S
  given : K → Option V

/-- The source and the value of a key in the highest layer with one; the lowest layer is the first. -/
def highest : List (Layer K V S) → K → Option (S × V)
  | [], _ => none
  | layer :: upper, k => (highest upper k).or ((layer.given k).map (fun v => (layer.source, v)))

def highestValue (layers : List (Layer K V S)) (k : K) : Option V := (highest layers k).map Prod.snd

def highestSource (layers : List (Layer K V S)) (k : K) : Option S := (highest layers k).map Prod.fst

def Decides (layers : List (Layer K V S)) (k : K) (source : S) (v : V) : Prop :=
  ∃ lower layer upper, layers = lower ++ layer :: upper ∧ layer.source = source ∧ layer.given k = some v ∧
    ∀ above ∈ upper, above.given k = none

theorem highest_append (lower upper : List (Layer K V S)) (k : K) :
    highest (lower ++ upper) k = (highest upper k).or (highest lower k) := by
  induction lower with
  | nil => exact Option.or_none.symm
  | cons layer lower ih => rw [List.cons_append, highest, highest, ih, Option.or_assoc]

theorem highest_eq_none_iff {layers : List (Layer K V S)} {k : K} :
    highest layers k = none ↔ ∀ layer ∈ layers, layer.given k = none := by
  induction layers with
  | nil => simp [highest]
  | cons layer upper ih =>
    rw [highest, Option.or_eq_none_iff, ih, Option.map_eq_none_iff, List.forall_mem_cons, and_comm]

theorem highest_eq_some_iff {layers : List (Layer K V S)} {k : K} {source : S} {v : V} :
    highest layers k = some (source, v) ↔ Decides layers k source v := by
  constructor
  · intro h
    induction layers with
    | nil => cases h
    | cons layer upper ih =>
      rw [highest, Option.or_eq_some_iff] at h
      rcases h with h | ⟨hnone, h⟩
      · obtain ⟨lower, layer', upper', rfl, hrest⟩ := ih h
        exact ⟨layer :: lower, layer', upper', rfl, hrest⟩
      · obtain ⟨w, hw, he⟩ := Option.map_eq_some_iff.mp h
        cases he
        exact ⟨[], layer, upper, rfl, rfl, hw, highest_eq_none_iff.mp hnone⟩
  · rintro ⟨lower, layer, upper, rfl, rfl, hv, hupper⟩
    rw [highest_append, highest, highest_eq_none_iff.mpr hupper, hv]
    rfl

theorem highestValue_top (layers : List (Layer K V S)) (layer : Layer K V S) (k : K) :
    highestValue (layers ++ [layer]) k = (layer.given k).or (highestValue layers k) := by
  rw [highestValue, highestValue, highest_append]
  cases h : layer.given k <;> simp [highest, h]

theorem highestSource_top (layers : List (Layer K V S)) (layer : Layer K V S) (k : K) :
    highestSource (layers ++ [layer]) k =
    ((layer.given k).map (fun _ => layer.source)).or (highestSource layers k) := by
  rw [highestSource, highestSource, highest_append]
  cases h : layer.given k <;> simp [highest, h]

end Library
