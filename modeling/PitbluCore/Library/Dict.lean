import Mathlib.Data.List.Nodup
import Mathlib.Data.List.Basic

namespace Library

variable {K V W : Type}

def insertEntry [DecidableEq K] (k : K) (v : V) : List (K × V) → List (K × V)
  | [] => [(k, v)]
  | e :: l => if e.1 = k then (k, v) :: l else e :: insertEntry k v l

theorem insertEntry_keys [DecidableEq K] (k : K) (v : V) (l : List (K × V)) :
    (insertEntry k v l).map Prod.fst =
      if k ∈ l.map Prod.fst then l.map Prod.fst else l.map Prod.fst ++ [k] := by
  induction l with
  | nil => simp [insertEntry]
  | cons e l ih =>
    by_cases he : e.1 = k
    · simp [insertEntry, he]
    · have hk : k ≠ e.1 := fun h => he h.symm
      simp only [insertEntry, he, ↓reduceIte, List.map_cons, ih, List.mem_cons, hk, false_or]
      split <;> simp

theorem lookup_cons_ite [DecidableEq K] (e : K × V) (l : List (K × V)) (k : K) :
    (e :: l).lookup k = if k = e.1 then some e.2 else l.lookup k := by
  obtain ⟨a, b⟩ := e
  by_cases hk : k = a
  · simp [hk]
  · simp [List.lookup_cons, beq_eq_false_iff_ne.mpr hk, hk]

theorem insertEntry_lookup [DecidableEq K] (k k' : K) (v : V) (l : List (K × V)) :
    (insertEntry k v l).lookup k' = if k' = k then some v else l.lookup k' := by
  induction l with
  | nil => simp [insertEntry, lookup_cons_ite]
  | cons e l ih =>
    by_cases he : e.1 = k
    · subst he
      simp only [insertEntry, ↓reduceIte, lookup_cons_ite]
      split <;> rfl
    · simp only [insertEntry, he, ↓reduceIte, lookup_cons_ite, ih]
      by_cases hk : k' = e.1
      · have hne : k' ≠ k := fun h => he (hk.symm.trans h)
        simp [hk, he]
      · simp [hk]

theorem insertEntry_new [DecidableEq K] {k : K} {l : List (K × V)} (h : k ∉ l.map Prod.fst) (v : V) :
    insertEntry k v l = l ++ [(k, v)] := by
  induction l with
  | nil => rfl
  | cons e l ih =>
    simp only [List.map_cons, List.mem_cons, not_or] at h
    rw [insertEntry, if_neg (fun he => h.1 he.symm), ih h.2]
    rfl

theorem filter_lookup [DecidableEq K] (p : K → Bool) (k : K) (l : List (K × V)) :
    (l.filter (fun e => p e.1)).lookup k = if p k then l.lookup k else none := by
  induction l with
  | nil => simp
  | cons e l ih =>
    by_cases hk : k = e.1
    · subst hk
      by_cases hp : p e.1
      · simp [hp, lookup_cons_ite]
      · simp [hp, ih]
    · by_cases hp : p e.1 <;> simp [hp, lookup_cons_ite, hk, ih]

theorem map_lookup [DecidableEq K] (f : V → W) (k : K) (l : List (K × V)) :
    (l.map (fun e => (e.1, f e.2))).lookup k = (l.lookup k).map f := by
  induction l with
  | nil => rfl
  | cons e l ih =>
    rw [List.map_cons, lookup_cons_ite, lookup_cons_ite, ih]
    split <;> rfl

theorem lookup_map_find? {α : Type} [DecidableEq K] (f : α → K) (g : α → V) (l : List α) (k : K) :
    (l.map (fun x => (f x, g x))).lookup k = (l.find? (fun x => f x = k)).map g := by
  induction l with
  | nil => rfl
  | cons x l ih =>
    rw [List.map_cons, lookup_cons_ite, ih]
    by_cases hk : f x = k
    · simp [hk]
    · simp [hk, Ne.symm hk]

theorem lookup_eq_some_iff [DecidableEq K] {k : K} {v : V} {l : List (K × V)} (h : (l.map Prod.fst).Nodup) :
    l.lookup k = some v ↔ (k, v) ∈ l := by
  induction l with
  | nil => simp
  | cons e l ih =>
    simp only [List.map_cons, List.nodup_cons] at h
    rw [lookup_cons_ite, List.mem_cons]
    by_cases hk : k = e.1
    · subst hk
      have hl : (e.1, v) ∉ l := fun hm => h.1 (List.mem_map.mpr ⟨_, hm, rfl⟩)
      simp only [↓reduceIte, Option.some.injEq, hl, or_false]
      exact ⟨fun he => by rw [← he], fun he => by rw [← he]⟩
    · have hne : (k, v) ≠ e := fun he => hk (by rw [← he])
      simp only [hk, ↓reduceIte, hne, false_or, ih h.2]

theorem mem_insertEntry [DecidableEq K] {k : K} {v : V} {l : List (K × V)} (h : (l.map Prod.fst).Nodup) {e : K × V} :
    e ∈ insertEntry k v l ↔ e = (k, v) ∨ e.1 ≠ k ∧ e ∈ l := by
  induction l with
  | nil => simp [insertEntry]
  | cons e' l ih =>
    simp only [List.map_cons, List.nodup_cons] at h
    rw [insertEntry]
    split
    · rename_i hk
      subst hk
      have hl : ∀ e ∈ l, e.1 ≠ e'.1 := fun e he hke => h.1 (hke ▸ List.mem_map_of_mem he)
      simp only [List.mem_cons]
      refine or_congr_right ⟨fun he => ⟨hl e he, .inr he⟩, ?_⟩
      rintro ⟨hne, rfl | he⟩
      · exact absurd rfl hne
      · exact he
    · rename_i hk
      simp only [List.mem_cons, ih h.2]
      constructor
      · rintro (rfl | rfl | ⟨hne, he⟩)
        · exact .inr ⟨hk, .inl rfl⟩
        · exact .inl rfl
        · exact .inr ⟨hne, .inr he⟩
      · rintro (rfl | ⟨hne, rfl | he⟩)
        · exact .inr (.inl rfl)
        · exact .inl rfl
        · exact .inr (.inr ⟨hne, he⟩)

theorem insertEntry_last [DecidableEq K] {k : K} {l : List (K × V)} (h : k ∉ l.map Prod.fst) (v w : V) :
    insertEntry k w (l ++ [(k, v)]) = l ++ [(k, w)] := by
  induction l with
  | nil => simp [insertEntry]
  | cons e l ih =>
    simp only [List.map_cons, List.mem_cons, not_or] at h
    rw [List.cons_append, insertEntry, if_neg (Ne.symm h.1), ih h.2, List.cons_append]

theorem lookup_eq_none [DecidableEq K] {k : K} {l : List (K × V)} (h : k ∉ l.map Prod.fst) : l.lookup k = none := by
  rw [List.lookup_eq_none_iff]
  intro e he
  rw [bne_iff_ne]
  rintro rfl
  exact h (List.mem_map_of_mem he)

structure Dict (K V : Type) where
  entries : List (K × V)
  nodup : (entries.map Prod.fst).Nodup
  deriving DecidableEq

namespace Dict

def empty : Dict K V := ⟨[], List.nodup_nil⟩

instance : Inhabited (Dict K V) := ⟨empty⟩

def keys (d : Dict K V) : List K := d.entries.map Prod.fst

def values (d : Dict K V) : List V := d.entries.map Prod.snd

variable [DecidableEq K]

def get? (d : Dict K V) (k : K) : Option V := d.entries.lookup k

def contains (d : Dict K V) (k : K) : Bool := (d.get? k).isSome

def set (d : Dict K V) (k : K) (v : V) : Dict K V where
  entries := insertEntry k v d.entries
  nodup := by
    rw [insertEntry_keys]
    split
    · exact d.nodup
    · rename_i hk
      exact d.nodup.append (List.nodup_singleton k) (by simpa using hk)

def filterKeys (d : Dict K V) (p : K → Bool) : Dict K V where
  entries := d.entries.filter (fun e => p e.1)
  nodup := d.nodup.sublist ((List.filter_sublist).map Prod.fst)

def erase (d : Dict K V) (k : K) : Dict K V := d.filterKeys (fun k' => !decide (k' = k))

def mapValues (d : Dict K V) (f : V → W) : Dict K W where
  entries := d.entries.map (fun e => (e.1, f e.2))
  nodup := by simpa [Function.comp_def] using d.nodup

def mapWithKey (d : Dict K V) (f : K → V → W) : Dict K W where
  entries := d.entries.map (fun e => (e.1, f e.1 e.2))
  nodup := by simpa [Function.comp_def] using d.nodup

def modify (d : Dict K V) (k : K) (f : V → V) : Dict K V :=
  match d.get? k with
  | some v => d.set k (f v)
  | none => d

def update (d m : Dict K V) : Dict K V := m.entries.foldl (fun d e => d.set e.1 e.2) d

def ofList (l : List (K × V)) : Dict K V := l.foldl (fun d e => d.set e.1 e.2) empty

@[simp] theorem get?_empty (k : K) : (empty : Dict K V).get? k = none := rfl

@[simp] theorem get?_set (d : Dict K V) (k k' : K) (v : V) :
    (d.set k v).get? k' = if k' = k then some v else d.get? k' := insertEntry_lookup k k' v d.entries

@[simp] theorem get?_filterKeys (d : Dict K V) (p : K → Bool) (k : K) :
    (d.filterKeys p).get? k = if p k then d.get? k else none := filter_lookup p k d.entries

@[simp] theorem get?_erase (d : Dict K V) (k k' : K) :
    (d.erase k).get? k' = if k' = k then none else d.get? k' := by
  by_cases h : k' = k <;> simp [erase, h]

@[simp] theorem get?_modify (d : Dict K V) (k k' : K) (f : V → V) :
    (d.modify k f).get? k' = if k' = k then (d.get? k).map f else d.get? k' := by
  unfold modify
  cases hd : d.get? k with
  | none =>
    by_cases h : k' = k
    · simp [h, hd]
    · simp [h]
  | some v => by_cases h : k' = k <;> simp [h]

@[simp] theorem get?_mapWithKey (d : Dict K V) (f : K → V → W) (k : K) :
    (d.mapWithKey f).get? k = (d.get? k).map (f k) := by
  have hl : ∀ l : List (K × V), (l.map (fun e => (e.1, f e.1 e.2))).lookup k = (l.lookup k).map (f k) := by
    intro l
    induction l with
    | nil => rfl
    | cons e l ih =>
      rw [List.map_cons, lookup_cons_ite, lookup_cons_ite, ih]
      split
      · rename_i hk
        rw [hk, Option.map_some]
      · rfl
  exact hl d.entries

@[simp] theorem get?_mapValues (d : Dict K V) (f : V → W) (k : K) :
    (d.mapValues f).get? k = (d.get? k).map f := map_lookup f k d.entries

theorem mem_entries_iff {d : Dict K V} {k : K} {v : V} : (k, v) ∈ d.entries ↔ d.get? k = some v :=
  (lookup_eq_some_iff d.nodup).symm

theorem mem_keys_iff {d : Dict K V} {k : K} : k ∈ d.keys ↔ ∃ v, d.get? k = some v := by
  simp only [keys, List.mem_map, Prod.exists, exists_and_right, exists_eq_right, mem_entries_iff]

theorem mem_values_iff {d : Dict K V} {v : V} : v ∈ d.values ↔ ∃ k, d.get? k = some v := by
  simp only [values, List.mem_map, Prod.exists, exists_eq_right, mem_entries_iff]

theorem forall_values_iff {d : Dict K V} {p : V → Prop} : (∀ v ∈ d.values, p v) ↔ ∀ k v, d.get? k = some v → p v := by
  constructor
  · intro h k v hk
    exact h v (mem_values_iff.mpr ⟨k, hk⟩)
  · intro h v hv
    obtain ⟨k, hk⟩ := mem_values_iff.mp hv
    exact h k v hk

theorem keys_set (d : Dict K V) (k : K) (v : V) :
    (d.set k v).keys = if k ∈ d.keys then d.keys else d.keys ++ [k] := insertEntry_keys k v d.entries

theorem keys_set_of_mem {d : Dict K V} {k : K} (h : k ∈ d.keys) (v : V) : (d.set k v).keys = d.keys := by
  rw [keys_set, if_pos h]

omit [DecidableEq K] in
theorem filterKeys_eq_self {d : Dict K V} {p : K → Bool} (h : ∀ k ∈ d.keys, p k = true) : d.filterKeys p = d := by
  obtain ⟨l, hl⟩ := d
  simp only [filterKeys, Dict.mk.injEq]
  exact List.filter_eq_self.mpr fun e he => h e.1 (List.mem_map_of_mem he)

theorem length_values_set (d : Dict K V) (k : K) (v : V) : (d.set k v).values.length ≤ d.values.length + 1 := by
  have hkeys : (d.set k v).keys.length ≤ d.keys.length + 1 := by
    rw [keys_set]
    split <;> simp
  simpa only [keys, values, List.length_map] using hkeys

omit [DecidableEq K] in
theorem keys_mapWithKey (d : Dict K V) (f : K → V → W) : (d.mapWithKey f).keys = d.keys := by
  simp [keys, mapWithKey, Function.comp_def]

omit [DecidableEq K] in
theorem keys_mapValues (d : Dict K V) (f : V → W) : (d.mapValues f).keys = d.keys := by
  simp [keys, mapValues, Function.comp_def]

omit [DecidableEq K] in
theorem mapValues_mapValues_cancel {f : V → W} {g : W → V} (h : ∀ v, g (f v) = v) (d : Dict K V) :
    (d.mapValues f).mapValues g = d := by
  obtain ⟨l, hl⟩ := d
  simp only [mapValues, List.map_map, Dict.mk.injEq]
  exact (List.map_congr_left fun e _ => by simp [h]).trans (List.map_id l)

theorem lookup_map_keys {l : List (K × V)} (h : (l.map Prod.fst).Nodup) :
    (l.map Prod.fst).filterMap (fun k => (l.lookup k).map (fun v => (k, v))) = l := by
  rw [List.filterMap_map]
  calc l.filterMap ((fun k => (l.lookup k).map (fun v => (k, v))) ∘ Prod.fst) = l.filterMap some := by
        refine List.filterMap_congr fun e he => ?_
        obtain ⟨k, v⟩ := e
        simp [(lookup_eq_some_iff h).mpr he]
    _ = l := List.filterMap_some

theorem ext_keys {d d' : Dict K V} (hk : d.keys = d'.keys) (hg : ∀ k, d.get? k = d'.get? k) : d = d' := by
  have he : d.entries = d'.entries := by
    have hl : ∀ k, d.entries.lookup k = d'.entries.lookup k := hg
    rw [← lookup_map_keys d.nodup, ← lookup_map_keys d'.nodup]
    simp only [hl]
    exact congrArg _ hk
  cases d
  cases d'
  cases he
  rfl

section Update

variable (d m : Dict K V)

theorem get?_foldl_set (l : List (K × V)) (h : (l.map Prod.fst).Nodup) (k : K) :
    (l.foldl (fun d e => d.set e.1 e.2) d).get? k = (l.lookup k).or (d.get? k) := by
  induction l generalizing d with
  | nil => rfl
  | cons e l ih =>
    simp only [List.map_cons, List.nodup_cons] at h
    rw [List.foldl_cons, ih _ h.2, lookup_cons_ite, get?_set]
    by_cases hk : k = e.1
    · have hnone : l.lookup k = none := by
        cases hl : l.lookup k with
        | none => rfl
        | some v => exact absurd (List.mem_map.mpr ⟨_, (lookup_eq_some_iff h.2).mp hl, rfl⟩) (hk ▸ h.1)
      simp [hk ▸ hnone, hk]
    · simp [hk]

theorem get?_ofList {l : List (K × V)} (h : (l.map Prod.fst).Nodup) (k : K) : (ofList l).get? k = l.lookup k :=
  (get?_foldl_set empty l h k).trans Option.or_none

theorem mem_keys_ofList {l : List (K × V)} (h : (l.map Prod.fst).Nodup) {k : K} :
    k ∈ (ofList l).keys ↔ k ∈ l.map Prod.fst := by
  simp only [mem_keys_iff, get?_ofList h, lookup_eq_some_iff h, List.mem_map, Prod.exists, exists_and_right,
    exists_eq_right]

@[simp] theorem get?_update (k : K) : (d.update m).get? k = (m.get? k).or (d.get? k) :=
  get?_foldl_set d m.entries m.nodup k

variable {d m}

theorem keys_update (h : ∀ k ∈ m.keys, k ∈ d.keys) : (d.update m).keys = d.keys := by
  have hl : ∀ (l : List (K × V)) (d : Dict K V), (∀ e ∈ l, e.1 ∈ d.keys) →
      (l.foldl (fun d e => d.set e.1 e.2) d).keys = d.keys := by
    intro l
    induction l with
    | nil => exact fun _ _ => rfl
    | cons e l ih =>
      intro d hd
      have hset := keys_set_of_mem (hd e List.mem_cons_self) e.2
      rw [List.foldl_cons, ih _ (fun e' he' => by rw [hset]; exact hd e' (List.mem_cons_of_mem e he')), hset]
  exact hl m.entries d (fun e he => h e.1 (List.mem_map_of_mem he))

theorem entries_update_new (h : (d.keys ++ m.keys).Nodup) : (d.update m).entries = d.entries ++ m.entries := by
  have hl : ∀ (l : List (K × V)) (d : Dict K V), (d.keys ++ l.map Prod.fst).Nodup →
      (l.foldl (fun d e => d.set e.1 e.2) d).entries = d.entries ++ l := by
    intro l
    induction l with
    | nil => exact fun d _ => (List.append_nil d.entries).symm
    | cons e l ih =>
      intro d hd
      have hnew : e.1 ∉ d.keys := fun hm => List.disjoint_of_nodup_append hd hm List.mem_cons_self
      have hset : (d.set e.1 e.2).entries = d.entries ++ [e] := insertEntry_new hnew e.2
      rw [List.foldl_cons, ih, hset, List.append_assoc]
      · rfl
      · rw [keys, hset, List.map_append, List.append_assoc]
        exact hd
  exact hl m.entries d h

theorem mem_keys_update {k : K} : k ∈ (d.update m).keys ↔ k ∈ m.keys ∨ k ∈ d.keys := by
  rw [mem_keys_iff, mem_keys_iff, mem_keys_iff]
  cases hm : m.get? k <;> simp [hm]

theorem update_update {m' : Dict K V} (h : ∀ k ∈ m.keys, k ∈ d.keys) (h' : ∀ k ∈ m'.keys, k ∈ d.keys) :
    (d.update m).update m' = d.update (m.update m') := by
  have hk := keys_update h
  refine ext_keys ?_ fun k => ?_
  · rw [keys_update (fun k hm => hk ▸ h' k hm), hk, keys_update]
    intro k hm
    exact (mem_keys_update.mp hm).elim (h' k) (h k)
  · simp [Option.or_assoc]

theorem mapValues_set (f : V → W) (d : Dict K V) (k : K) (v : V) :
    (d.set k v).mapValues f = (d.mapValues f).set k (f v) := by
  refine ext_keys ?_ fun k' => ?_
  · rw [keys_mapValues, keys_set, keys_set, keys_mapValues]
  · simp only [get?_mapValues, get?_set]
    split <;> rfl

theorem mapValues_update (f : V → W) : (d.update m).mapValues f = (d.mapValues f).update (m.mapValues f) := by
  have hl : ∀ (l : List (K × V)) (d : Dict K V), (l.foldl (fun d e => d.set e.1 e.2) d).mapValues f =
      (l.map (fun e => (e.1, f e.2))).foldl (fun d e => d.set e.1 e.2) (d.mapValues f) := by
    intro l
    induction l with
    | nil => exact fun _ => rfl
    | cons e l ih =>
      intro d
      rw [List.foldl_cons, ih, mapValues_set]
      rfl
  exact hl m.entries d

end Update

end Dict

end Library
