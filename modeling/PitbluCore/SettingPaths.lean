import PitbluCore.ConfigurationManager

namespace PitbluCore

open Library

def joinDots (parts : List Char × List (List Char)) : List Char :=
  parts.1 ++ parts.2.flatMap (fun part => '.' :: part)

theorem joinDots_splitDots (cs : List Char) : joinDots (splitDots cs) = cs := by
  induction cs with
  | nil => rfl
  | cons c cs ih =>
    unfold splitDots
    split
    · rename_i hc
      subst hc
      exact congrArg ('.' :: ·) ih
    · exact congrArg (c :: ·) ih

theorem segments_injective {p q : String} (h : segments p = segments q) : p = q := by
  have hinj : Function.Injective String.ofList := fun a b hab => by simpa using congrArg String.toList hab
  simp only [segments, Prod.mk.injEq] at h
  have hsplit : splitDots p.toList = splitDots q.toList :=
    Prod.ext (hinj h.1) (List.map_injective_iff.mpr hinj h.2)
  have hjoin := congrArg joinDots hsplit
  rw [joinDots_splitDots, joinDots_splitDots] at hjoin
  exact String.toList_inj.mp hjoin

def settingAt (root : List (String × Value)) (sec name : String) : Option Value :=
  match root.lookup sec with
  | some (.map below) => below.lookup name
  | _ => none

theorem assign_settingAt {root root' : List (String × Value)} {a b : String} {v : Value}
    (h : assign root a v [b] = some root') (a' b' : String) :
    settingAt root' a' b' = if a' = a ∧ b' = b then some v else settingAt root a' b' := by
  simp only [assign] at h
  split at h
  · rename_i hnone
    simp only [Option.map_some, Option.some.injEq] at h
    subst h
    by_cases ha : a' = a
    · subst ha
      by_cases hb : b' = b <;> simp [settingAt, insertEntry_lookup, insertEntry, hnone, hb, lookup_cons_ite]
    · simp [settingAt, insertEntry_lookup, ha]
  · rename_i below hbelow
    simp only [Option.map_some, Option.some.injEq] at h
    subst h
    by_cases ha : a' = a
    · subst ha
      simp [settingAt, insertEntry_lookup, hbelow]
    · simp [settingAt, insertEntry_lookup, ha]
  · cases h

def TwoSegments (path : String) : Prop := ∃ a b, segments path = (a, [b])

theorem foldlM_assign_settingAt {l : List (String × Value)} (hl : (l.map Prod.fst).Nodup)
    (h2 : ∀ e ∈ l, TwoSegments e.1) {root root' : List (String × Value)}
    (h : l.foldlM (fun result e => assign result (segments e.1).1 e.2 (segments e.1).2) root = some root')
    {path a b : String} (hp : segments path = (a, [b])) :
    settingAt root' a b = (l.lookup path).or (settingAt root a b) := by
  induction l generalizing root with
  | nil =>
    cases h
    rfl
  | cons e l ih =>
    simp only [List.map_cons, List.nodup_cons] at hl
    rw [List.foldlM_cons] at h
    obtain ⟨root₁, h₁, hrest⟩ := Option.bind_eq_some_iff.mp h
    obtain ⟨a₁, b₁, he⟩ := h2 e List.mem_cons_self
    rw [he] at h₁
    rw [ih hl.2 (fun e' he' => h2 e' (List.mem_cons_of_mem e he')) hrest, assign_settingAt h₁, lookup_cons_ite]
    by_cases hk : path = e.1
    · have hnone : l.lookup path = none := by
        cases hlk : l.lookup path with
        | none => rfl
        | some v => exact absurd (List.mem_map.mpr ⟨_, (lookup_eq_some_iff hl.2).mp hlk, rfl⟩) (hk ▸ hl.1)
      have hab : a = a₁ ∧ b = b₁ := by
        rw [hk, he] at hp
        simpa [eq_comm] using hp
      rw [hnone, if_pos hab, if_pos hk]
      rfl
    · have hab : ¬(a = a₁ ∧ b = b₁) := by
        rintro ⟨rfl, rfl⟩
        exact hk (segments_injective (hp.trans he.symm))
      rw [if_neg hab, if_neg hk]

theorem inflate_settingAt {values : Dict String Value} (h2 : ∀ k ∈ values.keys, TwoSegments k)
    {root : List (String × Value)} (h : inflate values = some root) {path a b : String}
    (hp : segments path = (a, [b])) : settingAt root a b = values.get? path := by
  have hl := foldlM_assign_settingAt values.nodup (fun e he => h2 e.1 (List.mem_map_of_mem he)) h hp
  simpa [settingAt, Dict.get?] using hl

def settingNames : List String :=
  ["server.bind", "server.port", "server.cors_origins", "auth.mode", "bluetooth.scan_duration",
    "bluetooth.missing_scan_interval", "bluetooth.connected_scan_interval", "bluetooth.connect_timeout",
    "bluetooth.initialise_timeout", "bluetooth.read_timeout", "polling.probe_interval",
    "polling.battery_interval", "polling.stale_after", "polling.thermometer_heartbeat_stale_after",
    "polling.degraded_after_failures", "polling.forced_reconnect_after", "polling.availability_heartbeat",
    "polling.stable_backoff_reset", "mqtt.enabled", "mqtt.host", "mqtt.port", "mqtt.tls", "mqtt.username",
    "mqtt.base_topic", "mqtt.qos", "simulation.enabled", "simulation.probe_count",
    "security.auth_requests_per_minute", "security.mutations_per_minute", "security.maximum_body_bytes",
    "security.maximum_sse_clients"]

theorem AppConfig.schema_keys (P : Pydantic) : (AppConfig.schema P).defaults.keys = settingNames := by
  have h : (flatten defaultDump).keys = settingNames := by decide +kernel
  exact h

theorem AppConfig.schema_twoSegments (P : Pydantic) : ∀ k ∈ (AppConfig.schema P).defaults.keys, TwoSegments k := by
  have hall : ∀ k ∈ settingNames, (segments k).2.length = 1 := by decide +kernel
  rw [AppConfig.schema_keys]
  intro k hk
  obtain ⟨b, hb⟩ := List.length_eq_one_iff.mp (hall k hk)
  exact ⟨(segments k).1, b, by rw [← hb]⟩

end PitbluCore
