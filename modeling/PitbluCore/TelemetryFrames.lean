import Mathlib.Data.List.Basic
import PitbluCore.Telemetry

namespace PitbluCore.TelemetryState

open Library

def retained (T : TelemetryState) (d : DeviceId) (ty : EventType) (n : Option ℕ) : Option EventData :=
  (T.events.latest.get? (some d, ty, n)).map TelemetryEvent.data

@[simp] theorem setCurrent_current (T : TelemetryState) (d : DeviceId) (c : CurrentSnapshot) :
    (T.setCurrent d c).current = T.current.set d c := rfl

@[simp] theorem setCurrent_retained (T : TelemetryState) (d : DeviceId) (c : CurrentSnapshot) :
    (T.setCurrent d c).retained = T.retained := rfl

@[simp] theorem setHeartbeat_heartbeats (T : TelemetryState) (d : DeviceId) (h : HeartbeatState) :
    (T.setHeartbeat d h).heartbeats = T.heartbeats.set d h := rfl

@[simp] theorem setHeartbeat_heartbeatStaleAfter (T : TelemetryState) (d : DeviceId) (h : HeartbeatState) :
    (T.setHeartbeat d h).heartbeatStaleAfter = T.heartbeatStaleAfter := rfl

@[simp] theorem setHeartbeat_retained (T : TelemetryState) (d : DeviceId) (h : HeartbeatState) :
    (T.setHeartbeat d h).retained = T.retained := rfl

@[simp] theorem armStaleTask_current (T : TelemetryState) (d : DeviceId) (s : DeviceSnapshot) :
    (T.armStaleTask d s).current = T.current := rfl

@[simp] theorem armStaleTask_retained (T : TelemetryState) (d : DeviceId) (s : DeviceSnapshot) :
    (T.armStaleTask d s).retained = T.retained := rfl

section Emit

variable (T : TelemetryState) (d : DeviceId) (ty : EventType) (n : Option ℕ) (seq : ℕ)
  (src : TelemetrySource) (t : Time) (data : EventData)

@[simp] theorem emit_current : (T.emit d ty n seq src t data).current = T.current := rfl

@[simp] theorem emit_heartbeats : (T.emit d ty n seq src t data).heartbeats = T.heartbeats := rfl

@[simp] theorem emit_heartbeatStaleAfter :
    (T.emit d ty n seq src t data).heartbeatStaleAfter = T.heartbeatStaleAfter := rfl

@[simp] theorem emit_retained (d' : DeviceId) (ty' : EventType) (n' : Option ℕ) :
    (T.emit d ty n seq src t data).retained d' ty' n' =
      if ty.keepsLatest ∧ d' = d ∧ ty' = ty ∧ n' = n then some data else T.retained d' ty' n' := by
  by_cases hk : ty.keepsLatest
  · by_cases he : d' = d ∧ ty' = ty ∧ n' = n
    · obtain ⟨rfl, rfl, rfl⟩ := he
      simp [retained, emit, EventBus.publish, TelemetryEvent.key, hk]
    · have hne : ¬((some d', ty', n') = ((some d, ty, n) : EventKey)) := by simpa using he
      simp only [retained, emit, EventBus.publish, TelemetryEvent.key, hk, ↓reduceIte, Dict.get?_set, hne,
        true_and, he]
  · simp [retained, emit, EventBus.publish, hk]

end Emit

theorem foldl_retained {P : Type} (body : TelemetryState → P → TelemetryState) (d : DeviceId) (ty : EventType)
    (number : P → ℕ) (data : P → EventData)
    (hb : ∀ T p d' ty' n, (body T p).retained d' ty' n =
      if d' = d ∧ ty' = ty ∧ n = some (number p) then some (data p) else T.retained d' ty' n)
    (l : List P) (hl : (l.map number).Nodup) (T : TelemetryState) :
    (∀ p ∈ l, (l.foldl body T).retained d ty (some (number p)) = some (data p)) ∧
      ∀ d' ty' n, ¬(d' = d ∧ ty' = ty ∧ ∃ p ∈ l, n = some (number p)) →
        (l.foldl body T).retained d' ty' n = T.retained d' ty' n := by
  induction l generalizing T with
  | nil => simp
  | cons q l ih =>
    simp only [List.map_cons, List.nodup_cons] at hl
    obtain ⟨hnew, hold⟩ := ih hl.2 (body T q)
    rw [List.foldl_cons]
    refine ⟨fun p hp => ?_, fun d' ty' n hn => ?_⟩
    · rcases List.mem_cons.mp hp with rfl | hp
      · rw [hold _ _ _ ?_, hb, if_pos ⟨rfl, rfl, rfl⟩]
        rintro ⟨-, -, p', hp', he⟩
        exact hl.1 (List.mem_map.mpr ⟨p', hp', (Option.some.inj he).symm⟩)
      · exact hnew p hp
    · rw [hold _ _ _ ?_, hb, if_neg ?_]
      · rintro ⟨h₁, h₂, h₃⟩
        exact hn ⟨h₁, h₂, q, List.mem_cons_self, h₃⟩
      · rintro ⟨h₁, h₂, p, hp, h₃⟩
        exact hn ⟨h₁, h₂, p, List.mem_cons_of_mem _ hp, h₃⟩

theorem foldl_keeps {P : Type} {body : TelemetryState → P → TelemetryState} {I : TelemetryState → Prop}
    {l : List P} (hb : ∀ T, ∀ p ∈ l, I T → I (body T p)) {T : TelemetryState} (h : I T) :
    I (l.foldl body T) := by
  induction l generalizing T with
  | nil => exact h
  | cons p l ih =>
    exact ih (fun T q hq => hb T q (List.mem_cons_of_mem _ hq)) (hb T p List.mem_cons_self h)

structure SameHeartbeats (T T' : TelemetryState) : Prop where
  heartbeats : T'.heartbeats = T.heartbeats
  staleAfter : T'.heartbeatStaleAfter = T.heartbeatStaleAfter
  retained : ∀ d n, T'.retained d .thermometerHeartbeat n = T.retained d .thermometerHeartbeat n

theorem SameHeartbeats.refl (T : TelemetryState) : SameHeartbeats T T := ⟨rfl, rfl, fun _ _ => rfl⟩

theorem SameHeartbeats.trans {T T' T'' : TelemetryState} (h : SameHeartbeats T T') (h' : SameHeartbeats T' T'') :
    SameHeartbeats T T'' :=
  ⟨h'.heartbeats.trans h.heartbeats, h'.staleAfter.trans h.staleAfter,
    fun d n => (h'.retained d n).trans (h.retained d n)⟩

structure SameSnapshots (T T' : TelemetryState) : Prop where
  current : T'.current = T.current
  retained : ∀ d ty n, ty ≠ .thermometerHeartbeat → T'.retained d ty n = T.retained d ty n

theorem SameSnapshots.refl (T : TelemetryState) : SameSnapshots T T := ⟨rfl, fun _ _ _ _ => rfl⟩

theorem SameSnapshots.trans {T T' T'' : TelemetryState} (h : SameSnapshots T T') (h' : SameSnapshots T' T'') :
    SameSnapshots T T'' :=
  ⟨h'.current.trans h.current, fun d ty n hty => (h'.retained d ty n hty).trans (h.retained d ty n hty)⟩

section TimerTables

variable (T : TelemetryState) (d : DeviceId) (s : DeviceSnapshot) (t : Time)

theorem cancelHeartbeatStaleTask_sameHeartbeats : SameHeartbeats T (T.cancelHeartbeatStaleTask d) :=
  ⟨rfl, rfl, fun _ _ => rfl⟩

theorem armHeartbeatStaleTask_sameHeartbeats : SameHeartbeats T (T.armHeartbeatStaleTask d t) :=
  ⟨rfl, rfl, fun _ _ => rfl⟩

theorem armStaleTask_sameHeartbeats : SameHeartbeats T (T.armStaleTask d s) := ⟨rfl, rfl, fun _ _ => rfl⟩

theorem setCurrent_sameHeartbeats (c : CurrentSnapshot) : SameHeartbeats T (T.setCurrent d c) :=
  ⟨rfl, rfl, fun _ _ => rfl⟩

end TimerTables

theorem emit_sameHeartbeats (T : TelemetryState) {d : DeviceId} {ty : EventType} {n : Option ℕ} {seq : ℕ}
    {src : TelemetrySource} {t : Time} {data : EventData} (hty : ty ≠ .thermometerHeartbeat) :
    SameHeartbeats T (T.emit d ty n seq src t data) :=
  ⟨rfl, rfl, fun d' n' => by simp [hty.symm]⟩

theorem publishProbe_retained (T : TelemetryState) (d : DeviceId) (s : DeviceSnapshot) (p : ProbeReading)
    (d' : DeviceId) (ty : EventType) (n : Option ℕ) :
    (T.publishProbe d s p).retained d' ty n =
      if d' = d ∧ ty = .probeAvailability ∧ n = some p.number then
        some [("available", .bool p.available), ("present", .bool p.present)]
      else T.retained d' ty n := by
  unfold publishProbe
  cases p.temperatureC with
  | none => simp [EventType.keepsLatest]
  | some t =>
    by_cases hp : p.available && p.present <;> simp [hp, EventType.keepsLatest]

theorem publishProbe_current (T : TelemetryState) (d : DeviceId) (s : DeviceSnapshot) (p : ProbeReading) :
    (T.publishProbe d s p).current = T.current := by
  unfold publishProbe
  cases p.temperatureC with
  | none => rfl
  | some t => by_cases hp : p.available && p.present <;> simp [hp]

section StaleDevice

variable (T : TelemetryState) (now : Time) (reason : String) (d : DeviceId) (s : DeviceSnapshot)

theorem staleDevice_current : (T.staleDevice now reason d s).current = T.current.set d ⟨s, true⟩ := by
  unfold staleDevice
  refine foldl_keeps (I := fun T' => T'.current = T.current.set d ⟨s, true⟩) ?_ rfl
  intro T' p _ h
  exact h

theorem staleDevice_retained :
    (T.staleDevice now reason d s).retained d .deviceAvailability none =
        some [("available", .bool false), ("reason", .str reason)] ∧
      (T.staleDevice now reason d s).retained d .battery none =
        some [("available", .bool false), ("percentage", .null), ("reason", .str reason)] ∧
      (∀ p ∈ s.probes, (T.staleDevice now reason d s).retained d .probeAvailability (some p.number) =
        some [("available", .bool false), ("present", .bool p.present), ("reason", .str reason)]) ∧
      (∀ n, (∀ p ∈ s.probes, n ≠ some p.number) →
        (T.staleDevice now reason d s).retained d .probeAvailability n = T.retained d .probeAvailability n) ∧
      ∀ d' ty n, d' ≠ d → (T.staleDevice now reason d s).retained d' ty n = T.retained d' ty n := by
  unfold staleDevice
  dsimp only
  generalize hT₁ : ((T.setCurrent d ⟨s, true⟩).emit d .deviceAvailability none s.sequence s.source now
      [("available", .bool false), ("reason", .str reason)]).emit d .battery none s.sequence s.source now
      [("available", .bool false), ("percentage", .null), ("reason", .str reason)] = T₁
  obtain ⟨hnew, hold⟩ := foldl_retained (fun T p => T.emit d .probeAvailability (some p.number) p.sequence
      s.source now [("available", .bool false), ("present", .bool p.present), ("reason", .str reason)])
    d .probeAvailability ProbeReading.number
    (fun p => [("available", .bool false), ("present", .bool p.present), ("reason", .str reason)])
    (fun T p d' ty' n => by simp [EventType.keepsLatest]) s.probes s.probe_numbers T₁
  refine ⟨?_, ?_, hnew, ?_, ?_⟩
  · rw [hold _ _ _ (by simp), ← hT₁]
    simp [EventType.keepsLatest]
  · rw [hold _ _ _ (by simp), ← hT₁]
    simp [EventType.keepsLatest]
  · intro n hn
    rw [hold _ _ _ (fun ⟨_, _, p, hp, he⟩ => hn p hp he), ← hT₁]
    simp
  · intro d' ty n hd
    rw [hold _ _ _ (fun h => hd h.1), ← hT₁]
    simp [hd]

end StaleDevice

theorem staleDevice_foldl_current (now : Time) (reason : String) (p : DeviceId → CurrentSnapshot → Bool)
    (l : List (DeviceId × CurrentSnapshot)) (hl : (l.map Prod.fst).Nodup) (T : TelemetryState) (d : DeviceId) :
    (l.foldl (fun T e => if p e.1 e.2 then T.staleDevice now reason e.1 e.2.snapshot else T) T).current.get? d =
      match l.lookup d with
      | some c => if p d c then some ⟨c.snapshot, true⟩ else T.current.get? d
      | none => T.current.get? d := by
  induction l generalizing T with
  | nil => rfl
  | cons e l ih =>
    obtain ⟨d₀, c₀⟩ := e
    simp only [List.map_cons, List.nodup_cons] at hl
    rw [List.foldl_cons, ih hl.2, lookup_cons_ite]
    by_cases hd : d = d₀
    · subst hd
      have hnone : l.lookup d = none := by
        cases hlk : l.lookup d with
        | none => rfl
        | some c => exact absurd (List.mem_map.mpr ⟨_, (lookup_eq_some_iff hl.2).mp hlk, rfl⟩) hl.1
      by_cases hp : p d c₀ <;> simp [hnone, hp, staleDevice_current]
    · by_cases hp : p d₀ c₀ <;> simp [hd, hp, staleDevice_current]

theorem markStale_current (T : TelemetryState) (now : Time) (force : Option DeviceId) (reason : String)
    (d : DeviceId) : (T.markStale now force reason).current.get? d =
      (T.current.get? d).map (fun c => if T.expired now force d c then ⟨c.snapshot, true⟩ else c) := by
  unfold markStale
  rw [staleDevice_foldl_current now reason (fun d c => T.expired now force d c) _ T.current.nodup]
  change (match T.current.get? d with | some c => _ | none => _) = _
  cases hc : T.current.get? d with
  | none => rfl
  | some c => by_cases he : T.expired now force d c <;> simp [he]

inductive Beat : TelemetryState → TelemetryState → Prop
  | tables {T T' : TelemetryState} (events : T'.events = T.events) (current : T'.current = T.current)
      (staleAfter : T'.staleAfter = T.staleAfter) : Beat T T'
  | emit (T : TelemetryState) (d : DeviceId) (h : HeartbeatState) (seq : ℕ) (src : TelemetrySource) (t : Time) :
      Beat T (T.emit d .thermometerHeartbeat none seq src t (T.heartbeatData h))
  | trans {T T' T'' : TelemetryState} (h : Beat T T') (h' : Beat T' T'') : Beat T T''

section Heartbeats

variable (T : TelemetryState) (d : DeviceId) (h : HeartbeatState) (src : TelemetrySource) (t now : Time)

theorem publishHeartbeat_beat : Beat T (T.publishHeartbeat d h t) := by
  generalize hh : { h with sequence := T.sequence (d, .thermometerHeartbeat, none) (h.sequence + 1) } = h'
  have he := Beat.emit (T.setHeartbeat d h') d h' (h.sequence + 1) h.adapterSource t
  have ht : Beat T (T.setHeartbeat d h') := .tables rfl rfl rfl
  rw [publishHeartbeat, hh]
  exact ht.trans he

theorem ensureHeartbeat_beat : Beat T (T.ensureHeartbeat d src) := by
  unfold ensureHeartbeat
  split <;> exact .tables rfl rfl rfl

theorem registerHeartbeat_beat : Beat T (T.registerHeartbeat d src now) := by
  unfold registerHeartbeat
  dsimp only
  split
  · exact (ensureHeartbeat_beat T d src).trans (publishHeartbeat_beat _ _ _ _)
  · exact ensureHeartbeat_beat T d src

theorem communicationSucceeded_beat : Beat T (T.communicationSucceeded d t src) := by
  have he := ensureHeartbeat_beat T d src
  unfold communicationSucceeded
  dsimp only
  split
  · exact he
  · have hc : Beat (T.ensureHeartbeat d src) ((T.ensureHeartbeat d src).cancelHeartbeatStaleTask d) :=
      .tables rfl rfl rfl
    exact ((he.trans hc).trans (publishHeartbeat_beat _ d _ t)).trans (.tables rfl rfl rfl)

theorem heartbeatDisconnected_beat : Beat T (T.heartbeatDisconnected d now) := by
  have hc : Beat T (T.cancelHeartbeatStaleTask d) := .tables rfl rfl rfl
  unfold heartbeatDisconnected
  cases T.heartbeats.get? d with
  | none => exact .tables rfl rfl rfl
  | some h =>
    dsimp only
    split
    · exact hc
    · exact hc.trans (publishHeartbeat_beat _ d _ now)

theorem heartbeatExpected_beat : Beat T (T.heartbeatExpected d now) := by
  unfold heartbeatExpected
  cases T.heartbeats.get? d with
  | none => exact .tables rfl rfl rfl
  | some h =>
    dsimp only
    split
    · exact publishHeartbeat_beat T d _ now
    · exact .tables rfl rfl rfl

theorem heartbeatDeadline_beat {T T' : TelemetryState} {d : DeviceId} {now : Time}
    (hT : T.heartbeatDeadline d now = some T') : Beat T T' := by
  unfold heartbeatDeadline at hT
  split at hT
  · rename_i t _
    have hran : Beat T { T with heartbeatStaleTasks := T.heartbeatStaleTasks.set d ⟨t, true⟩ } := .tables rfl rfl rfl
    dsimp only at hT
    split at hT
    · split at hT <;> cases hT
      · exact hran.trans (publishHeartbeat_beat _ d _ now)
      · exact hran
    · cases hT
      exact hran
  · cases hT

end Heartbeats

theorem SameSnapshots.of_beat {T T' : TelemetryState} (h : Beat T T') : SameSnapshots T T' := by
  induction h with
  | tables he hc => exact ⟨hc, fun d ty n _ => by simp only [TelemetryState.retained, he]⟩
  | emit T d h seq src t =>
    refine ⟨rfl, fun d' ty n hty => ?_⟩
    rw [emit_retained, if_neg (fun he => hty he.2.2.1)]
  | trans _ _ ih ih' => exact ih.trans ih'

theorem staleAfter_of_beat {T T' : TelemetryState} (h : Beat T T') : T'.staleAfter = T.staleAfter := by
  induction h with
  | tables _ _ hs => exact hs
  | emit => rfl
  | trans _ _ ih ih' => exact ih'.trans ih

section Record

variable (T : TelemetryState) (d : DeviceId) (s : DeviceSnapshot)

theorem store_current : (T.store d s).current = T.current.set d ⟨s, false⟩ := by
  unfold store
  cases s.successfulCommunicationAt with
  | none => rfl
  | some t =>
    rw [armStaleTask_current, setCurrent_current,
      (SameSnapshots.of_beat (communicationSucceeded_beat T d s.source t)).current]

theorem store_retained {ty : EventType} (hty : ty ≠ .thermometerHeartbeat) (d' : DeviceId) (n : Option ℕ) :
    (T.store d s).retained d' ty n = T.retained d' ty n := by
  unfold store
  rw [armStaleTask_retained, setCurrent_retained]
  cases s.successfulCommunicationAt with
  | none => rfl
  | some t => exact (SameSnapshots.of_beat (communicationSucceeded_beat T d s.source t)).retained d' ty n hty

variable (previous : Option CurrentSnapshot)

theorem announce_current : (T.announce d s previous).current = T.current := by
  unfold announce
  dsimp only
  split <;> rfl

theorem announce_retained :
    (T.announce d s previous).retained d .deviceAvailability none = some [("available", .bool s.anyAvailable)] ∧
      (T.announce d s previous).retained d .battery none =
        (if batteryDue previous s then
          some [("available", .bool s.batteryAvailable), ("percentage", percentage s.batteryPercent)]
        else T.retained d .battery none) ∧
      (∀ d' n, (T.announce d s previous).retained d' .probeAvailability n = T.retained d' .probeAvailability n) ∧
      ∀ d' ty n, d' ≠ d → (T.announce d s previous).retained d' ty n = T.retained d' ty n := by
  unfold announce
  dsimp only
  by_cases hb : batteryDue previous s
  · simp only [hb, ↓reduceIte]
    exact ⟨by simp [EventType.keepsLatest], by simp [EventType.keepsLatest], fun d' n => by simp,
      fun d' ty n hd => by simp [hd]⟩
  · simp only [hb, Bool.false_eq_true, ↓reduceIte]
    exact ⟨by simp [EventType.keepsLatest], by simp, fun d' n => by simp, fun d' ty n hd => by simp [hd]⟩

theorem recordNew_current : (T.recordNew d s).current = T.current.set d ⟨s, false⟩ := by
  unfold recordNew
  refine foldl_keeps (I := fun T' => T'.current = T.current.set d ⟨s, false⟩) ?_ ?_
  · intro T' p _ h
    rw [publishProbe_current, h]
  · rw [announce_current, store_current]

theorem recordNew_retained :
    (T.recordNew d s).retained d .deviceAvailability none = some [("available", .bool s.anyAvailable)] ∧
      (T.recordNew d s).retained d .battery none =
        (if batteryDue (T.current.get? d) s then
          some [("available", .bool s.batteryAvailable), ("percentage", percentage s.batteryPercent)]
        else T.retained d .battery none) ∧
      (∀ p ∈ s.probes, (T.recordNew d s).retained d .probeAvailability (some p.number) =
        some [("available", .bool p.available), ("present", .bool p.present)]) ∧
      (∀ n, (∀ p ∈ s.probes, n ≠ some p.number) →
        (T.recordNew d s).retained d .probeAvailability n = T.retained d .probeAvailability n) ∧
      ∀ d' ty n, d' ≠ d → ty ≠ .thermometerHeartbeat →
        (T.recordNew d s).retained d' ty n = T.retained d' ty n := by
  obtain ⟨ha, hb, hp, ho⟩ := announce_retained (T.store d s) d s (T.current.get? d)
  obtain ⟨hnew, hold⟩ := foldl_retained (fun T p => T.publishProbe d s p) d .probeAvailability ProbeReading.number
    (fun p => [("available", .bool p.available), ("present", .bool p.present)])
    (fun T p => publishProbe_retained T d s p) s.probes s.probe_numbers
    ((T.store d s).announce d s (T.current.get? d))
  unfold recordNew
  refine ⟨?_, ?_, hnew, ?_, ?_⟩
  · rw [hold _ _ _ (by simp), ha]
  · rw [hold _ _ _ (by simp), hb, store_retained T d s (by decide)]
  · intro n hn
    rw [hold _ _ _ (fun ⟨_, _, p, hm, he⟩ => hn p hm he), hp, store_retained T d s (by decide)]
  · intro d' ty n hd hty
    rw [hold _ _ _ (fun h => hd h.1), ho _ _ _ hd, store_retained T d s hty]

end Record

inductive Announces (types : List EventType) : TelemetryState → TelemetryState → Prop
  | tables {T T' : TelemetryState} (events : T'.events = T.events) (heartbeats : T'.heartbeats = T.heartbeats)
      (staleAfter : T'.staleAfter = T.staleAfter)
      (heartbeatStaleAfter : T'.heartbeatStaleAfter = T.heartbeatStaleAfter) : Announces types T T'
  | emit {ty : EventType} (h : ty ∈ types) (T : TelemetryState) (d : DeviceId) (n : Option ℕ) (seq : ℕ)
      (src : TelemetrySource) (t : Time) (data : EventData) : Announces types T (T.emit d ty n seq src t data)
  | trans {T T' T'' : TelemetryState} (h : Announces types T T') (h' : Announces types T' T'') : Announces types T T''

section Announces

variable {types types' : List EventType} {T T' : TelemetryState}

theorem Announces.refl (T : TelemetryState) : Announces types T T := .tables rfl rfl rfl rfl

theorem Announces.mono (h : Announces types T T') (ht : types ⊆ types') : Announces types' T T' := by
  induction h with
  | tables he hh hs hb => exact .tables he hh hs hb
  | emit h T d n seq src t data => exact .emit (ht h) T d n seq src t data
  | trans _ _ ih ih' => exact ih.trans ih'

theorem SameHeartbeats.of_announces (h : Announces types T T') (ht : .thermometerHeartbeat ∉ types) :
    SameHeartbeats T T' := by
  induction h with
  | tables he hh _ hb => exact ⟨hh, hb, fun d n => by simp only [TelemetryState.retained, he]⟩
  | emit h T =>
    apply emit_sameHeartbeats
    rintro rfl
    exact ht h
  | trans _ _ ih ih' => exact ih.trans ih'

theorem staleAfter_of_announces (h : Announces types T T') : T'.staleAfter = T.staleAfter := by
  induction h with
  | tables _ _ hs => exact hs
  | emit => rfl
  | trans _ _ ih ih' => exact ih'.trans ih

end Announces

section Announcements

variable (T : TelemetryState) (d : DeviceId) (s : DeviceSnapshot) (now : Time) (reason : String)

def readingTypes : List EventType := [.deviceAvailability, .battery, .probeAvailability, .probeTemperature]

theorem staleDevice_announces : Announces readingTypes T (T.staleDevice now reason d s) := by
  have hc : Announces readingTypes T (T.setCurrent d ⟨s, true⟩) := .tables rfl rfl rfl rfl
  have ha := hc.trans (.emit (by decide : .deviceAvailability ∈ readingTypes) _ d none s.sequence s.source now
    [("available", .bool false), ("reason", .str reason)])
  unfold staleDevice
  refine foldl_keeps (I := Announces readingTypes T) (fun T' p _ h => h.trans (.emit (by decide) T' d _ _ _ _ _)) ?_
  exact ha.trans (.emit (by decide) _ d none _ _ _ _)

theorem markStale_announces (force : Option DeviceId) : Announces readingTypes T (T.markStale now force reason) := by
  unfold markStale
  refine foldl_keeps (I := Announces readingTypes T) (fun T' e _ h => ?_) (.refl T)
  split
  · exact h.trans (staleDevice_announces T' e.1 e.2.snapshot now reason)
  · exact h

theorem publishProbe_announces (p : ProbeReading) : Announces readingTypes T (T.publishProbe d s p) := by
  have ha : Announces readingTypes T (T.emit d .probeAvailability (some p.number) p.sequence s.source s.observedAt
    [("available", .bool p.available), ("present", .bool p.present)]) := .emit (by decide) T d _ _ _ _ _
  unfold publishProbe
  split
  · split
    · exact ha.trans (.emit (by decide) _ d _ _ _ _ _)
    · exact ha
  · exact ha

theorem announce_announces (previous : Option CurrentSnapshot) :
    Announces (.deviceConnection :: readingTypes) T (T.announce d s previous) := by
  have ha : Announces (.deviceConnection :: readingTypes) T (T.emit d .deviceAvailability none s.sequence s.source
    s.observedAt [("available", .bool s.anyAvailable)]) := .emit (by decide) T d _ _ _ _ _
  have hc := ha.trans (.emit List.mem_cons_self _ d none s.sequence s.source s.observedAt
    [("state", .str ConnectionState.polling.value)])
  unfold announce
  dsimp only
  split
  · exact hc.trans (.emit (by decide) _ d _ _ _ _ _)
  · exact hc

theorem recordNew_announces : Announces (.deviceConnection :: readingTypes) (T.store d s) (T.recordNew d s) := by
  unfold recordNew
  refine foldl_keeps (I := Announces (.deviceConnection :: readingTypes) (T.store d s)) (fun T' p _ h => ?_)
    (announce_announces (T.store d s) d s _)
  exact h.trans ((publishProbe_announces T' d s p).mono (List.subset_cons_self _ _))

theorem connection_announces (state : ConnectionState) :
    Announces (.deviceConnection :: readingTypes) T (T.connection d state now) := by
  unfold connection
  split
  · exact .refl T
  · rename_i c _
    have hc : Announces (.deviceConnection :: readingTypes) T (T.emit d .deviceConnection none c.snapshot.sequence
      c.snapshot.source now [("state", .str state.value)]) := .emit List.mem_cons_self T d _ _ _ _ _
    dsimp only
    split
    · have hm := hc.trans ((markStale_announces _ now "disconnected" (some d)).mono (List.subset_cons_self _ _))
      exact hm.trans (.emit (by decide) _ d _ _ _ _ _)
    · exact hc

end Announcements

section StaleAfter

variable (T : TelemetryState) (d : DeviceId) (s : DeviceSnapshot) (now : Time)

theorem connection_staleAfter (state : ConnectionState) : (T.connection d state now).staleAfter = T.staleAfter :=
  staleAfter_of_announces (connection_announces T d now state)

theorem store_staleAfter : (T.store d s).staleAfter = T.staleAfter := by
  unfold store
  cases s.successfulCommunicationAt with
  | none => rfl
  | some t =>
    have hs := staleAfter_of_beat (communicationSucceeded_beat T d s.source t)
    exact hs

theorem record_staleAfter : (T.record d s now).staleAfter = T.staleAfter := by
  unfold record
  split
  · exact staleAfter_of_announces (markStale_announces T now "stale" none)
  · exact (staleAfter_of_announces (recordNew_announces T d s)).trans (store_staleAfter T d s)

end StaleAfter

end PitbluCore.TelemetryState
