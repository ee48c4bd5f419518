import PitbluCore.ServiceRuns

namespace PitbluCore

open Library

theorem mem_splitOnP {α : Type} {p : α → Bool} {xs l : List α} (hl : l ∈ xs.splitOnP p) : ∀ x ∈ l, p x = false := by
  induction xs generalizing l with
  | nil => simp_all [List.splitOnP_nil]
  | cons x xs ih =>
    rw [List.splitOnP_cons_eq_if_modifyHead] at hl
    split at hl
    · rcases List.mem_cons.mp hl with rfl | hl
      · simp
      · exact ih hl
    · next hx =>
      obtain ⟨head, tail, hxs⟩ := List.exists_cons_of_ne_nil (List.splitOnP_ne_nil p xs)
      rw [hxs, List.modifyHead_cons, List.mem_cons] at hl
      rcases hl with rfl | hl
      · rintro y (_ | ⟨_, hy⟩)
        · simpa using hx
        · exact ih (by simp [hxs]) y hy
      · exact ih (by simp [hxs, hl])

theorem mem_intercalate {α : Type} {sep : List α} {ls : List (List α)} {x : α} (h : x ∈ sep.intercalate ls) :
    x ∈ sep ∨ ∃ l ∈ ls, x ∈ l := by
  induction ls with
  | nil => simp [List.intercalate] at h
  | cons l ls ih =>
    cases ls with
    | nil => exact .inr ⟨l, by simp, by simpa using h⟩
    | cons l' ls =>
      rw [List.intercalate_cons_cons, List.mem_append, List.mem_append] at h
      rcases h with (h | h) | h
      · exact .inr ⟨l, by simp, h⟩
      · exact .inl h
      · rcases ih h with h | ⟨m, hm, h⟩
        · exact .inl h
        · exact .inr ⟨m, by simp [hm], h⟩

def idChar (c : Char) : Bool := slugChar c || c = '-'

theorem slug_chars {name : String} : ∀ c ∈ (slug name).toList, idChar c := by
  intro c hc
  rw [slug, String.toList_ofList] at hc
  rcases mem_intercalate hc with h | ⟨l, hl, h⟩
  · simp_all [idChar]
  · have := mem_splitOnP (List.mem_filter.mp hl).1 c h
    simp_all [idChar]

def HexPrefix (suffix : String) : Prop :=
  suffix.length = 8 ∧ ∀ c ∈ suffix.toList, ('0' ≤ c ∧ c ≤ '9') ∨ ('a' ≤ c ∧ c ≤ 'f')

def registeredId (name suffix : String) : DeviceId := if slug name = "" then "igrill-" ++ suffix else slug name

theorem registeredId_ne_empty {name suffix : String} : registeredId name suffix ≠ "" := by
  unfold registeredId
  split
  · intro h
    have := congrArg String.length h
    simp at this
  · assumption

theorem registeredId_chars {name suffix : String} (h : HexPrefix suffix) :
    ∀ c ∈ (registeredId name suffix).toList, idChar c := by
  unfold registeredId
  split
  · rw [String.toList_append]
    intro c hc
    rcases List.mem_append.mp hc with hc | hc
    · have hall : "igrill-".toList.all idChar := by decide
      exact List.all_eq_true.mp hall c hc
    · rcases h.2 c hc with ⟨h0, h9⟩ | ⟨ha, hf⟩
      · simp [idChar, slugChar, h0, h9]
      · have hz : c ≤ 'z' := Char.le_trans hf (by decide)
        simp [idChar, slugChar, ha, hz]
  · exact slug_chars

namespace Service

variable {s s' : Service} {id : DiscoveryId} {c : DiscoveredDevice} {friendlyName : Option String} {auto : Bool}
  {suffix : String} {now : Time} {d : DeviceId}

theorem register_eq (friendlyName : Option String) (auto : Bool) (suffix : String) (now : Time)
    (hc : s.candidates.get? id = some c) : ∃ s₁,
    s.register id friendlyName auto suffix now =
      if c.identity.isSome && s.store.devices.values.any (fun row => row.identity = c.identity) then
        .error (.stateConflict "device is already registered")
      else if (s.store.device (registeredId c.name suffix)).isSome then
        .error (.stateConflict "device is already registered")
      else .ok (s₁, registeredId c.name suffix) :=
  ⟨_, by simp only [register, hc]; rfl⟩

theorem register_ok (h : s.register id friendlyName auto suffix now = .ok (s', d)) :
    ∃ c, s.candidates.get? id = some c ∧ d = registeredId c.name suffix ∧ s.store.device d = none := by
  cases hc : s.candidates.get? id with
  | none =>
    simp only [register, hc] at h
    cases h
  | some c =>
    obtain ⟨s₁, he⟩ := register_eq friendlyName auto suffix now hc
    rw [he] at h
    split at h
    · cases h
    · split at h
      · cases h
      · next hd =>
        obtain ⟨-, rfl⟩ := Prod.mk.inj (Except.ok.inj h)
        exact ⟨c, rfl, rfl, by simpa using hd⟩

theorem register_accepts (hc : s.candidates.get? id = some c) (hi : c.identity.isSome) :
    (∃ r, s.register id friendlyName auto suffix now = .ok r) ↔
      (∀ row ∈ s.store.devices.values, row.identity ≠ c.identity) ∧ s.store.device (registeredId c.name suffix) =
      none := by
  obtain ⟨s₁, he⟩ := register_eq friendlyName auto suffix now hc
  rw [he, hi, Bool.true_and]
  split
  · next h =>
    obtain ⟨row, hrow, he⟩ := List.any_eq_true.mp h
    simp only [reduceCtorEq, exists_false, false_iff, not_and]
    exact fun hall => absurd (of_decide_eq_true he) (hall row hrow)
  · next h =>
    have hall : ∀ row ∈ s.store.devices.values, row.identity ≠ c.identity := by simpa using h
    split
    · next hd =>
      constructor
      · rintro ⟨_, hr⟩
        cases hr
      · rintro ⟨-, hnone⟩
        rw [hnone] at hd
        cases hd
    · next hd => exact ⟨fun _ => ⟨hall, by simpa using hd⟩, fun _ => ⟨_, rfl⟩⟩

theorem register_distinguishes (hc : s.candidates.get? id = some c) (hi : c.identity.isSome) :
    ((∃ r, s.register id friendlyName auto suffix now = .ok r) ↔
      (∀ row ∈ s.store.devices.values, row.identity ≠ c.identity) ∧
        s.store.device (registeredId c.name suffix) = none) ∧
    ∀ s' d, s.register id friendlyName auto suffix now = .ok (s', d) →
      d = registeredId c.name suffix ∧ ∀ d', (s.store.device d').isSome → d ≠ d' := by
  refine ⟨register_accepts hc hi, fun s' d h => ?_⟩
  obtain ⟨c', hc', rfl, hnone⟩ := register_ok h
  obtain rfl := Option.some.inj (hc.symm.trans hc')
  refine ⟨rfl, ?_⟩
  rintro d' hd' rfl
  rw [hnone] at hd'
  cases hd'

def namesakesFound : Outcome := .found [advertised "a" "00:00:00:00:00:0A", advertised "a" "00:00:00:00:00:0B"]

def registerNamesake : List Action := [go 0, go 0, go 0, .resume 0 namesakesFound 0 0, .register 0 none true "" 0]

theorem register_distinguishes_namesake : ∃ s c, replay step firstSession registerNamesake = some s ∧
    s.candidates.get? 1 = some c ∧
    ((∃ r, s.register 1 none true "" 1 = .ok r) ↔
      (∀ row ∈ s.store.devices.values, row.identity ≠ c.identity) ∧ s.store.device (registeredId c.name "") = none) ∧
    ∀ s' d, s.register 1 none true "" 1 = .ok (s', d) →
      d = registeredId c.name "" ∧ ∀ d', (s.store.device d').isSome → d ≠ d' := by
  have hrun : (replay step firstSession registerNamesake).map (fun s =>
      (s.candidates.get? 1).map (fun c => c.identity.isSome)) = some (some true) := by decide +kernel
  obtain ⟨s, hs, hf⟩ := Option.map_eq_some_iff.mp hrun
  obtain ⟨c, hc, hi⟩ := Option.map_eq_some_iff.mp hf
  exact ⟨s, c, hs, hc, register_distinguishes hc hi⟩

theorem not_register_distinguishes :
    ¬ ∀ s, Reachable Started step s → (∀ row ∈ s.store.devices.values, row.identity.isSome) →
      ∀ id c friendlyName auto suffix now, s.candidates.get? id = some c → c.identity.isSome →
        ((∃ r, s.register id friendlyName auto suffix now = .ok r) ↔
          ∀ row ∈ s.store.devices.values, row.identity ≠ c.identity) ∧
        ∀ s' d, s.register id friendlyName auto suffix now = .ok (s', d) → ∀ d', (s.store.device d').isSome →
        d ≠ d' := by
  intro hall
  have hrun : (replay step firstSession registerNamesake).map (fun s =>
      ((s.candidates.get? 1).map (fun c => (c.identity.isSome, s.store.devices.values.all (fun row =>
        row.identity.isSome && decide (row.identity ≠ c.identity)))), (s.register 1 none true "" 1).isOk)) =
      some (some (true, true), false) := by decide +kernel
  obtain ⟨s, hs, hf⟩ := Option.map_eq_some_iff.mp hrun
  simp only [Prod.mk.injEq, Option.map_eq_some_iff, List.all_eq_true, Bool.and_eq_true, decide_eq_true_eq] at hf
  obtain ⟨⟨c, hc, hi, hrows⟩, herror⟩ := hf
  have hr : Reachable Started step s := .of_replay (.init firstSession_started) hs
  obtain ⟨r, hok⟩ :=
    (hall s hr (fun row hrow => (hrows row hrow).1) 1 c none true "" 1 hc hi).1.mpr (fun row hrow => (hrows row hrow).2)
  rw [hok] at herror
  cases herror

end Service

end PitbluCore
