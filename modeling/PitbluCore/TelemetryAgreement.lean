import PitbluCore.Library.Runs
import PitbluCore.TelemetryFrames

namespace PitbluCore.TelemetryState

open Library

structure SnapshotAgrees (retained : EventType → Option ℕ → Option EventData) (c : CurrentSnapshot) : Prop where
  battery : ∃ data, retained .battery none = some data ∧
    data.lookup "available" = some (.bool (c.snapshot.batteryAvailable && !c.stale)) ∧
    data.lookup "percentage" = some (percentage (if c.stale then none else c.snapshot.batteryPercent))
  available : ∃ data, retained .deviceAvailability none = some data ∧
    data.lookup "available" = some (.bool (c.snapshot.probes.any (fun p => p.available && !c.stale)))
  probes : ∀ p ∈ c.snapshot.probes, ∃ data, retained .probeAvailability (some p.number) = some data ∧
    data.lookup "available" = some (.bool (p.available && !c.stale)) ∧
    data.lookup "present" = some (.bool p.present)
  numbers : ∀ n data, retained .probeAvailability n = some data → ∃ p ∈ c.snapshot.probes, n = some p.number

structure HeartbeatAgrees (T : TelemetryState) (d : DeviceId) : Prop where
  published : ∀ h, T.heartbeats.get? d = some h → h.sequence ≠ 0 →
    T.retained d .thermometerHeartbeat none = some (T.heartbeatData h)
  current : ∀ data, T.retained d .thermometerHeartbeat none = some data →
    ∃ h, T.heartbeats.get? d = some h ∧ h.sequence ≠ 0

structure Agrees (T : TelemetryState) : Prop where
  snapshot : ∀ d c, T.current.get? d = some c → SnapshotAgrees (T.retained d) c
  absent : ∀ d, T.current.get? d = none → ∀ n, T.retained d .probeAvailability n = none
  heartbeat : ∀ d, HeartbeatAgrees T d

theorem HeartbeatAgrees.congr {T T' : TelemetryState} {d : DeviceId} (hs : SameHeartbeats T T')
    (h : HeartbeatAgrees T d) : HeartbeatAgrees T' d := by
  constructor
  · intro hb hget hseq
    rw [hs.heartbeats] at hget
    rw [hs.retained, h.published hb hget hseq]
    simp only [heartbeatData, hs.staleAfter]
  · intro data hdata
    rw [hs.retained] at hdata
    simpa only [hs.heartbeats] using h.current data hdata

theorem SnapshotAgrees.congr {R R' : EventType → Option ℕ → Option EventData} {c : CurrentSnapshot}
    (hb : R' .battery none = R .battery none) (hd : R' .deviceAvailability none = R .deviceAvailability none)
    (hp : ∀ n, R' .probeAvailability n = R .probeAvailability n) (h : SnapshotAgrees R c) :
    SnapshotAgrees R' c where
  battery := by rw [hb]; exact h.battery
  available := by rw [hd]; exact h.available
  probes := fun p hm => by rw [hp]; exact h.probes p hm
  numbers := fun n data hn => h.numbers n data (by rw [← hp]; exact hn)

theorem Agrees.of_sameSnapshots {T T' : TelemetryState} (hs : SameSnapshots T T') (h : Agrees T)
    (hh : ∀ d, HeartbeatAgrees T' d) : Agrees T' where
  snapshot := fun d c hc => by
    rw [hs.current] at hc
    exact (h.snapshot d c hc).congr (hs.retained d _ _ (by decide)) (hs.retained d _ _ (by decide))
      (fun n => hs.retained d _ n (by decide))
  absent := fun d hd n => by
    rw [hs.current] at hd
    rw [hs.retained d _ n (by decide)]
    exact h.absent d hd n
  heartbeat := hh

section Heartbeats

variable {T : TelemetryState} {d : DeviceId} {h : HeartbeatState} {src : TelemetrySource} {t now : Time}

theorem publishHeartbeat_heartbeatAgrees (ha : ∀ d, HeartbeatAgrees T d) (d' : DeviceId) :
    HeartbeatAgrees (T.publishHeartbeat d h t) d' := by
  by_cases hd : d' = d
  · subst hd
    constructor
    · intro hb hget hseq
      simp only [publishHeartbeat, emit_heartbeats, setHeartbeat_heartbeats, Dict.get?_set, ↓reduceIte,
        Option.some.injEq] at hget
      subst hget
      simp [publishHeartbeat, EventType.keepsLatest, heartbeatData]
    · intro data hdata
      refine ⟨_, by simp [publishHeartbeat]; rfl, ?_⟩
      simp only [sequence]
      omega
  · have hr : (T.publishHeartbeat d h t).retained d' .thermometerHeartbeat none =
        T.retained d' .thermometerHeartbeat none := by
      simp only [publishHeartbeat, emit_retained, hd, false_and, and_false, ↓reduceIte]
      rfl
    have hg : (T.publishHeartbeat d h t).heartbeats.get? d' = T.heartbeats.get? d' := by
      simp [publishHeartbeat, hd]
    constructor
    · intro hb hget hseq
      rw [hg] at hget
      rw [hr, (ha d').published hb hget hseq]
      rfl
    · intro data hdata
      rw [hr] at hdata
      simpa only [hg] using (ha d').current data hdata

theorem ensureHeartbeat_heartbeatAgrees (ha : ∀ d, HeartbeatAgrees T d) (d' : DeviceId) :
    HeartbeatAgrees (T.ensureHeartbeat d src) d' := by
  unfold ensureHeartbeat
  cases hd : T.heartbeats.get? d with
  | some h => exact ha d'
  | none =>
    have hnone : T.retained d .thermometerHeartbeat none = none := by
      cases hr : T.retained d .thermometerHeartbeat none with
      | none => rfl
      | some data =>
        obtain ⟨h, hget, -⟩ := (ha d).current data hr
        rw [hd] at hget
        cases hget
    constructor
    · intro hb hget hseq
      by_cases hdd : d' = d
      · subst hdd
        simp only [setHeartbeat_heartbeats, Dict.get?_set, ↓reduceIte, Option.some.injEq] at hget
        subst hget
        exact absurd rfl hseq
      · simp only [setHeartbeat_heartbeats, Dict.get?_set, hdd, ↓reduceIte] at hget
        exact (ha d').published hb hget hseq
    · intro data hdata
      have hdd : d' ≠ d := by
        rintro rfl
        exact absurd (hnone.symm.trans hdata) (by simp)
      simpa [hdd] using (ha d').current data hdata

theorem registerHeartbeat_heartbeatAgrees (ha : ∀ d, HeartbeatAgrees T d) (d' : DeviceId) :
    HeartbeatAgrees (T.registerHeartbeat d src now) d' := by
  unfold registerHeartbeat
  dsimp only
  split
  · exact publishHeartbeat_heartbeatAgrees (ensureHeartbeat_heartbeatAgrees ha) d'
  · exact ensureHeartbeat_heartbeatAgrees ha d'

theorem communicationSucceeded_heartbeatAgrees (ha : ∀ d, HeartbeatAgrees T d) (d' : DeviceId) :
    HeartbeatAgrees (T.communicationSucceeded d t src) d' := by
  unfold communicationSucceeded
  dsimp only
  split
  · exact ensureHeartbeat_heartbeatAgrees ha d'
  · have hc : ∀ d', HeartbeatAgrees ((T.ensureHeartbeat d src).cancelHeartbeatStaleTask d) d' :=
      fun d' => (ensureHeartbeat_heartbeatAgrees ha d').congr (cancelHeartbeatStaleTask_sameHeartbeats _ d)
    exact (publishHeartbeat_heartbeatAgrees hc d').congr (armHeartbeatStaleTask_sameHeartbeats _ d t)

theorem heartbeatDisconnected_heartbeatAgrees (ha : ∀ d, HeartbeatAgrees T d) (d' : DeviceId) :
    HeartbeatAgrees (T.heartbeatDisconnected d now) d' := by
  unfold heartbeatDisconnected
  cases T.heartbeats.get? d with
  | none => exact ha d'
  | some h =>
    have hc : ∀ d', HeartbeatAgrees (T.cancelHeartbeatStaleTask d) d' :=
      fun d' => (ha d').congr (cancelHeartbeatStaleTask_sameHeartbeats T d)
    dsimp only
    split
    · exact hc d'
    · exact publishHeartbeat_heartbeatAgrees hc d'

theorem heartbeatExpected_heartbeatAgrees (ha : ∀ d, HeartbeatAgrees T d) (d' : DeviceId) :
    HeartbeatAgrees (T.heartbeatExpected d now) d' := by
  unfold heartbeatExpected
  cases T.heartbeats.get? d with
  | none => exact ha d'
  | some h =>
    dsimp only
    split
    · exact publishHeartbeat_heartbeatAgrees ha d'
    · exact ha d'

end Heartbeats

section MarkStale

variable {T : TelemetryState} {now : Time} {reason : String} {d : DeviceId}

theorem staleDevice_agrees {s : DeviceSnapshot}
    (hn : ∀ n data, T.retained d .probeAvailability n = some data → ∃ p ∈ s.probes, n = some p.number) :
    SnapshotAgrees ((T.staleDevice now reason d s).retained d) ⟨s, true⟩ := by
  obtain ⟨ha, hb, hp, ho, -⟩ := staleDevice_retained T now reason d s
  refine ⟨⟨_, hb, ?_, rfl⟩, ⟨_, ha, ?_⟩, ?_, ?_⟩
  · simp
  · simp
  · intro p hm
    exact ⟨_, hp p hm, by simp, rfl⟩
  · intro n data hdata
    by_contra hc
    have hne : ∀ p ∈ s.probes, n ≠ some p.number := fun p hm he => hc ⟨p, hm, he⟩
    rw [ho n hne] at hdata
    exact hc (hn n data hdata)

theorem markStale_agrees {force : Option DeviceId} (ha : Agrees T) : Agrees (T.markStale now force reason) := by
  -- every iteration keeps agreement, and keeps each device's snapshot up to its stale flag
  have hloop : ∀ d, (∀ c, (T.markStale now force reason).current.get? d = some c →
        SnapshotAgrees ((T.markStale now force reason).retained d) c) ∧
      (T.current.get? d = none → ∀ n, (T.markStale now force reason).retained d .probeAvailability n = none) ∧
      ((T.markStale now force reason).current.get? d).map CurrentSnapshot.snapshot =
        (T.current.get? d).map CurrentSnapshot.snapshot := by
    unfold markStale
    refine foldl_keeps (I := fun T' => ∀ d, (∀ c, T'.current.get? d = some c → SnapshotAgrees (T'.retained d) c) ∧
      (T.current.get? d = none → ∀ n, T'.retained d .probeAvailability n = none) ∧
      (T'.current.get? d).map CurrentSnapshot.snapshot = (T.current.get? d).map CurrentSnapshot.snapshot)
      ?_ (fun d => ⟨ha.snapshot d, ha.absent d, rfl⟩)
    rintro T' ⟨d₀, c₀⟩ hmem ih d
    have hc₀ : T.current.get? d₀ = some c₀ := Dict.mem_entries_iff.mp hmem
    obtain ⟨-, -, -, -, ho⟩ := staleDevice_retained T' now reason d₀ c₀.snapshot
    obtain ⟨hold, habsent, hsame⟩ := ih d
    dsimp only
    split
    · rw [staleDevice_current]
      by_cases hd : d = d₀
      · subst hd
        refine ⟨fun c hc => ?_, fun hnone => absurd (hc₀.symm.trans hnone) (by simp), by simp [hc₀]⟩
        simp only [Dict.get?_set, ↓reduceIte, Option.some.injEq] at hc
        subst hc
        apply staleDevice_agrees
        intro n data hdata
        obtain ⟨c', hc', hs'⟩ := Option.map_eq_some_iff.mp (hsame.trans (by rw [hc₀]; rfl))
        obtain ⟨p, hp, hnum⟩ := (hold c' hc').numbers n data hdata
        exact ⟨p, hs' ▸ hp, hnum⟩
      · simp only [Dict.get?_set, hd, ↓reduceIte]
        refine ⟨fun c hc => (hold c hc).congr (ho d _ _ hd) (ho d _ _ hd) (fun n => ho d _ n hd), fun hnone n => ?_,
          hsame⟩
        rw [ho d _ n hd, habsent hnone n]
    · exact ih d
  refine ⟨fun d => (hloop d).1, fun d hd => (hloop d).2.1 ?_,
    fun d => (ha.heartbeat d).congr (.of_announces (markStale_announces T now reason force) (by decide))⟩
  rw [markStale_current, Option.map_eq_none_iff] at hd
  exact hd

end MarkStale

section Emit

variable {T : TelemetryState} {d : DeviceId} {seq : ℕ} {src : TelemetrySource} {t : Time}

theorem emit_agrees {ty : EventType} {n : Option ℕ} {data : EventData}
    (hty : ty = .deviceConnection ∨ ty = .probeTemperature)
    (ha : Agrees T) : Agrees (T.emit d ty n seq src t data) where
  snapshot := fun d' c hc => by
    rcases hty with rfl | rfl <;>
      exact (ha.snapshot d' c hc).congr (by simp) (by simp) (fun n => by simp)
  absent := fun d' hd' n => by rcases hty with rfl | rfl <;> simpa using ha.absent d' hd' n
  heartbeat := fun d' => by
    rcases hty with rfl | rfl <;> exact (ha.heartbeat d').congr (emit_sameHeartbeats T (by decide))

theorem emit_unavailable_agrees {reason : String} (hs : ∀ c, T.current.get? d = some c → c.stale = true)
    (ha : Agrees T) : Agrees (T.emit d .deviceAvailability none seq src t
      [("available", .bool false), ("reason", .str reason)]) where
  snapshot := fun d' c hc => by
    have h := ha.snapshot d' c hc
    by_cases hd : d' = d
    · subst hd
      have hstale := hs c hc
      exact {
        battery := by simpa using h.battery
        available := ⟨_, by simp [EventType.keepsLatest]; rfl, by simp [hstale]⟩
        probes := fun p hp => by simpa using h.probes p hp
        numbers := fun n data hn => h.numbers n data (by simpa using hn) }
    · exact h.congr (by simp) (by simp [hd]) (fun n => by simp)
  absent := fun d' hd' n => by simpa using ha.absent d' hd' n
  heartbeat := fun d' => (ha.heartbeat d').congr (emit_sameHeartbeats T (by decide))

end Emit

theorem connection_agrees {T : TelemetryState} {d : DeviceId} {state : ConnectionState} {now : Time}
    (ha : Agrees T) : Agrees (T.connection d state now) := by
  unfold connection
  cases hc : T.current.get? d with
  | none => exact ha
  | some c =>
    dsimp only
    split
    · apply emit_unavailable_agrees _ (markStale_agrees (emit_agrees (.inl rfl) ha))
      intro c' hc'
      rw [markStale_current, emit_current, hc, Option.map_some, Option.some.injEq] at hc'
      subst hc'
      by_cases hs : c.stale <;> simp [expired, hs]
    · exact emit_agrees (.inl rfl) ha

/-- Successive snapshots of one device carry the same probes, and the same battery data when they carry
the same battery time. -/
def Successive (T : TelemetryState) : TelemetryOp → Prop
  | .record d s _ => ∀ c, T.current.get? d = some c → c.snapshot.observedAt < s.observedAt →
      (∀ n, n ∈ s.probes.map ProbeReading.number ↔ n ∈ c.snapshot.probes.map ProbeReading.number) ∧
      (s.batteryTime = c.snapshot.batteryTime →
        s.batteryAvailable = c.snapshot.batteryAvailable ∧ s.batteryPercent = c.snapshot.batteryPercent)
  | _ => True

section Record

variable {T : TelemetryState} {d : DeviceId} {s : DeviceSnapshot}

theorem store_heartbeatAgrees (ha : Agrees T) (d' : DeviceId) : HeartbeatAgrees (T.store d s) d' := by
  have h : ∀ T' : TelemetryState, SameHeartbeats T' ((T'.setCurrent d ⟨s, false⟩).armStaleTask d s) := fun T' =>
    (setCurrent_sameHeartbeats T' d _).trans (armStaleTask_sameHeartbeats _ d s)
  unfold store
  cases s.successfulCommunicationAt with
  | none => exact (ha.heartbeat d').congr (h T)
  | some t => exact (communicationSucceeded_heartbeatAgrees ha.heartbeat d').congr (h _)

theorem recordNew_battery {now : Time} (ha : Agrees T) (hs : Successive T (.record d s now))
    (hnew : ∀ c, T.current.get? d = some c → c.snapshot.observedAt < s.observedAt) :
    ∃ data, (T.recordNew d s).retained d .battery none = some data ∧
      data.lookup "available" = some (.bool s.batteryAvailable) ∧
      data.lookup "percentage" = some (percentage s.batteryPercent) := by
  obtain ⟨-, hb, -⟩ := recordNew_retained T d s
  rw [hb]
  by_cases hdue : batteryDue (T.current.get? d) s
  · exact ⟨_, if_pos hdue, by simp, by simp [List.lookup_cons]⟩
  · rw [if_neg hdue]
    cases hc : T.current.get? d with
    | none => simp [batteryDue, hc] at hdue
    | some c =>
      simp only [batteryDue, hc, Option.all_some, Bool.or_eq_true, decide_eq_true_eq, not_or, not_not,
        Bool.not_eq_true] at hdue
      obtain ⟨hfresh, htime⟩ := hdue
      obtain ⟨havail, hpercent⟩ := (hs c hc (hnew c hc)).2 htime
      have h := (ha.snapshot d c hc).battery
      simpa [hfresh, ← havail, ← hpercent] using h

theorem recordNew_agrees {now : Time} (ha : Agrees T) (hs : Successive T (.record d s now))
    (hnew : ∀ c, T.current.get? d = some c → c.snapshot.observedAt < s.observedAt) : Agrees (T.recordNew d s) := by
  obtain ⟨hav, -, hp, hkeep, ho⟩ := recordNew_retained T d s
  constructor
  · intro d' c hc
    rw [recordNew_current] at hc
    by_cases hd : d' = d
    · subst hd
      simp only [Dict.get?_set, ↓reduceIte, Option.some.injEq] at hc
      subst hc
      refine ⟨by simpa using recordNew_battery ha hs hnew, ⟨_, hav, ?_⟩, ?_, ?_⟩
      · simp [DeviceSnapshot.anyAvailable]
      · intro p hm
        exact ⟨_, hp p hm, by simp, by simp [List.lookup_cons]⟩
      · intro n data hdata
        by_contra hcon
        have hne : ∀ p ∈ s.probes, n ≠ some p.number := fun p hm he => hcon ⟨p, hm, he⟩
        rw [hkeep n hne] at hdata
        cases hcur : T.current.get? d' with
        | none => exact absurd ((ha.absent d' hcur n).symm.trans hdata) (by simp)
        | some c =>
          -- the event of an earlier snapshot is of a probe that this snapshot also carries
          obtain ⟨p, hm, rfl⟩ := (ha.snapshot d' c hcur).numbers n data hdata
          have hnum := ((hs c hcur (hnew c hcur)).1 p.number).mpr (List.mem_map_of_mem hm)
          obtain ⟨q, hq, he⟩ := List.mem_map.mp hnum
          exact hne q hq (congrArg some he.symm)
    · simp only [Dict.get?_set, hd, ↓reduceIte] at hc
      exact (ha.snapshot d' c hc).congr (ho _ _ _ hd (by decide)) (ho _ _ _ hd (by decide))
        (fun n => ho _ _ _ hd (by decide))
  · intro d' hd' n
    rw [recordNew_current] at hd'
    by_cases hd : d' = d
    · simp [hd] at hd'
    · simp only [Dict.get?_set, hd, ↓reduceIte] at hd'
      rw [ho d' _ n hd (by decide), ha.absent d' hd' n]
  · exact fun d' => (store_heartbeatAgrees ha d').congr (.of_announces (recordNew_announces T d s) (by decide))

theorem record_agrees {now : Time} (ha : Agrees T) (hs : Successive T (.record d s now)) :
    Agrees (T.record d s now) := by
  unfold record
  split
  · exact markStale_agrees ha
  · rename_i hold
    refine recordNew_agrees ha hs (fun c hc => ?_)
    simpa [hc] using hold

end Record

section Remove

variable {T : TelemetryState} {d : DeviceId} {now : Time}

theorem forget_retained (d' : DeviceId) (ty : EventType) (n : Option ℕ) :
    (T.forget d).retained d' ty n = if d' = d then none else T.retained d' ty n := by
  by_cases hd : d' = d <;> simp [retained, forget, EventBus.forgetDevice, hd]

theorem forget_agrees (ha : Agrees T) : Agrees (T.forget d) := by
  have hcur : ∀ d', (T.forget d).current.get? d' = if d' = d then none else T.current.get? d' :=
    fun d' => Dict.get?_erase T.current d d'
  have hbeat : ∀ d', (T.forget d).heartbeats.get? d' = if d' = d then none else T.heartbeats.get? d' :=
    fun d' => Dict.get?_erase T.heartbeats d d'
  refine ⟨fun d' c hc => ?_, fun d' hd' n => ?_, fun d' => ⟨fun h hget hseq => ?_, fun data hdata => ?_⟩⟩
  · rw [hcur] at hc
    split at hc
    · cases hc
    · rename_i hd
      exact (ha.snapshot d' c hc).congr (by rw [forget_retained, if_neg hd]) (by rw [forget_retained, if_neg hd])
        (fun n => by rw [forget_retained, if_neg hd])
  · rw [forget_retained]
    split
    · rfl
    · rename_i hd
      exact ha.absent d' (by rwa [hcur, if_neg hd] at hd') n
  · rw [hbeat] at hget
    split at hget
    · cases hget
    · rename_i hd
      rw [forget_retained, if_neg hd, (ha.heartbeat d').published h hget hseq]
      rfl
  · rw [forget_retained] at hdata
    rw [hbeat]
    split at hdata
    · cases hdata
    · rename_i hd
      rw [if_neg hd]
      exact (ha.heartbeat d').current data hdata

theorem remove_agrees (ha : Agrees T) : Agrees (T.remove d now) := by
  have hc : Agrees (T.connection d .disconnected now) := connection_agrees ha
  exact forget_agrees (hc.of_sameSnapshots (.of_beat (heartbeatDisconnected_beat _ d now))
    (heartbeatDisconnected_heartbeatAgrees hc.heartbeat))

end Remove

section Deadlines

variable {T T' : TelemetryState} {d : DeviceId} {now : Time}

theorem Agrees.of_same (hs : SameSnapshots T T') (hh : SameHeartbeats T T') (h : Agrees T) : Agrees T' :=
  h.of_sameSnapshots hs (fun d => (h.heartbeat d).congr hh)

theorem staleDeadline_agrees (ha : Agrees T) (h : T.staleDeadline d now = some T') : Agrees T' := by
  unfold staleDeadline at h
  split at h
  · rename_i snapshot htask
    have hrun : Agrees { T with staleTasks := T.staleTasks.set d ⟨snapshot, true⟩ } :=
      Agrees.of_same (T := T) ⟨rfl, fun _ _ _ _ => rfl⟩ ⟨rfl, rfl, fun _ _ => rfl⟩ ha
    dsimp only at h
    split at h <;> cases h
    · exact markStale_agrees hrun
    · exact hrun
  · cases h

theorem heartbeatDeadline_agrees (ha : Agrees T) (h : T.heartbeatDeadline d now = some T') : Agrees T' := by
  unfold heartbeatDeadline at h
  split at h
  · rename_i successfulAt htask
    have hrun : Agrees { T with heartbeatStaleTasks := T.heartbeatStaleTasks.set d ⟨successfulAt, true⟩ } :=
      Agrees.of_same (T := T) ⟨rfl, fun _ _ _ _ => rfl⟩ ⟨rfl, rfl, fun _ _ => rfl⟩ ha
    dsimp only at h
    split at h
    · split at h <;> cases h
      · exact hrun.of_sameSnapshots (.of_beat (publishHeartbeat_beat _ d _ now))
          (publishHeartbeat_heartbeatAgrees hrun.heartbeat)
      · exact hrun
    · cases h
      exact hrun
  · cases h

end Deadlines

theorem initial_agrees {T : TelemetryState} (h : T.Initial) : Agrees T := by
  obtain ⟨_, _, _, _, _, _, _, _, _, rfl⟩ := h
  constructor
  · intro d c hc
    simp [create] at hc
  · intro d _ n
    rfl
  · intro d
    constructor
    · intro h hget
      simp [create] at hget
    · intro data hdata
      simp [retained, create, EventBus.create] at hdata

theorem step_agrees {T T' : TelemetryState} {op : TelemetryOp} (ha : Agrees T) (hs : Successive T op)
    (h : T.step op = some T') : Agrees T' := by
  cases op with
  | staleDeadline d now => exact staleDeadline_agrees ha h
  | heartbeatDeadline d now => exact heartbeatDeadline_agrees ha h
  | record d s now =>
    cases h
    exact record_agrees ha hs
  | markStale now force reason =>
    cases h
    exact markStale_agrees ha
  | connection d state now =>
    cases h
    exact connection_agrees ha
  | ensureHeartbeat d source =>
    cases h
    exact ha.of_sameSnapshots (.of_beat (ensureHeartbeat_beat T d source))
      (ensureHeartbeat_heartbeatAgrees ha.heartbeat)
  | registerHeartbeat d source now =>
    cases h
    exact ha.of_sameSnapshots (.of_beat (registerHeartbeat_beat T d source now))
      (registerHeartbeat_heartbeatAgrees ha.heartbeat)
  | communicationSucceeded d t source =>
    cases h
    exact ha.of_sameSnapshots (.of_beat (communicationSucceeded_beat T d source t))
      (communicationSucceeded_heartbeatAgrees ha.heartbeat)
  | heartbeatDisconnected d now =>
    cases h
    exact ha.of_sameSnapshots (.of_beat (heartbeatDisconnected_beat T d now))
      (heartbeatDisconnected_heartbeatAgrees ha.heartbeat)
  | heartbeatExpected d now =>
    cases h
    exact ha.of_sameSnapshots (.of_beat (heartbeatExpected_beat T d now))
      (heartbeatExpected_heartbeatAgrees ha.heartbeat)
  | remove d now =>
    cases h
    exact remove_agrees ha
  | close =>
    cases h
    exact Agrees.of_same (T := T) ⟨rfl, fun _ _ _ _ => rfl⟩ ⟨rfl, rfl, fun _ _ => rfl⟩ ha

structure ViewsAgree (T : TelemetryState) (d : DeviceId) : Prop where
  battery : ∀ view, T.battery d = some view → ∃ data, T.retained d .battery none = some data ∧
    data.lookup "available" = some (.bool view.available) ∧
    data.lookup "percentage" = some (percentage view.percentage)
  probes : T.current.contains d → ∀ n data, T.retained d .probeAvailability n = some data →
    ∃ view ∈ T.probes d, n = some view.probe ∧ data.lookup "available" = some (.bool view.available) ∧
      data.lookup "present" = some (.bool view.present)
  announced : ∀ view ∈ T.probes d, (T.retained d .probeAvailability (some view.probe)).isSome
  availability : T.current.contains d → ∃ data, T.retained d .deviceAvailability none = some data ∧
    data.lookup "available" = some (.bool ((T.probes d).any ProbeView.available))
  heartbeat : ∀ h, T.heartbeats.get? d = some h → h.sequence ≠ 0 →
    T.retained d .thermometerHeartbeat none = some (T.heartbeatData h)
  published : ∀ data, T.retained d .thermometerHeartbeat none = some data →
    ∃ h, T.heartbeats.get? d = some h ∧ data = T.heartbeatData h

theorem Agrees.viewsAgree {T : TelemetryState} (ha : Agrees T) (d : DeviceId) : ViewsAgree T d := by
  have hbeat : ∀ h, T.heartbeats.get? d = some h → h.sequence ≠ 0 →
    T.retained d .thermometerHeartbeat none = some (T.heartbeatData h) := fun h => (ha.heartbeat d).published h
  have hpub : ∀ data, T.retained d .thermometerHeartbeat none = some data →
      ∃ h, T.heartbeats.get? d = some h ∧ data = T.heartbeatData h := by
    intro data hdata
    obtain ⟨h, hget, hseq⟩ := (ha.heartbeat d).current data hdata
    exact ⟨h, hget, Option.some.inj (hdata.symm.trans (hbeat h hget hseq))⟩
  cases hc : T.current.get? d with
  | none =>
    refine ⟨?_, ?_, ?_, ?_, hbeat, hpub⟩ <;> simp [battery, probes, Dict.contains, hc]
  | some c =>
    have h := ha.snapshot d c hc
    refine ⟨?_, ?_, ?_, ?_, hbeat, hpub⟩
    · intro view hview
      simp only [battery, hc, Option.map_some, Option.some.injEq] at hview
      subst hview
      exact h.battery
    · intro _ n data hdata
      obtain ⟨p, hp, rfl⟩ := h.numbers n data hdata
      obtain ⟨data', hdata', hav, hpr⟩ := h.probes p hp
      cases hdata.symm.trans hdata'
      exact ⟨probeView c p, by simp only [probes, hc]; exact List.mem_map_of_mem hp, rfl, hav, hpr⟩
    · intro view hview
      simp only [probes, hc, List.mem_map] at hview
      obtain ⟨p, hp, rfl⟩ := hview
      obtain ⟨data, hdata, -⟩ := h.probes p hp
      exact Option.isSome_iff_exists.mpr ⟨data, hdata⟩
    · intro _
      obtain ⟨data, hdata, hav⟩ := h.available
      exact ⟨data, hdata, by simpa [probes, hc, List.any_map, Function.comp_def, probeView] using hav⟩

theorem views_agree {T : TelemetryState} (h : Reaches Initial step Successive T) (d : DeviceId) : ViewsAgree T d :=
  (h.invariant (fun _ => initial_agrees) (fun _ _ _ ha hg ht => step_agrees ha hg ht)).viewsAgree d

theorem views_agree_disconnected :
    ViewsAgree (((session.record "grill" (sampleSnapshot 1 1 (by decide)) 1).record "grill"
      (sampleSnapshot 2 2 (by decide)) 2).connection "grill" .disconnected 3) "grill" := by
  apply views_agree
  have h₁ : Reaches Initial step Successive (session.record "grill" (sampleSnapshot 1 1 (by decide)) 1) := by
    refine .step (a := .record "grill" (sampleSnapshot 1 1 (by decide)) 1) (.init ⟨_, _, _, _, _, _, _, _, _, rfl⟩) ?_
      rfl
    intro c hc
    cases hc
  refine .step (a := .connection "grill" .disconnected 3)
    (.step (a := .record "grill" (sampleSnapshot 2 2 (by decide)) 2)
    h₁ ?_ rfl) trivial rfl
  intro c hc _
  have hcur : (session.record "grill" (sampleSnapshot 1 1 (by decide)) 1).current.get? "grill" =
      some ⟨sampleSnapshot 1 1 (by decide), false⟩ := rfl
  cases hcur.symm.trans hc
  exact ⟨fun n => Iff.rfl, fun _ => ⟨rfl, rfl⟩⟩

end PitbluCore.TelemetryState
