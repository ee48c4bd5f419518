import PitbluCore.TelemetryFrames

namespace PitbluCore.TelemetryState

open Library

def Keyed (T : TelemetryState) : Prop := ∀ k e, T.events.latest.get? k = some e → e.key = k

structure Clean (T : TelemetryState) (d : DeviceId) : Prop where
  current : T.current.get? d = none
  heartbeats : T.heartbeats.get? d = none
  latest : ∀ ty n, T.events.latest.get? (some d, ty, n) = none

theorem Clean.retainedState {T : TelemetryState} {d : DeviceId} (h : T.Clean d) (hk : T.Keyed) :
    ∀ e ∈ T.events.retainedState, e.deviceId ≠ some d := by
  intro e he hd
  obtain ⟨k, hg⟩ := Dict.mem_values_iff.mp he
  have hkey : k = (some d, e.type, e.probe) := by rw [← hk k e hg, TelemetryEvent.key, hd]
  rw [hkey, h.latest] at hg
  cases hg

/-- The change from one state to the other is confined to the devices `D`. -/
structure Confined (D : DeviceId → Prop) (T T' : TelemetryState) : Prop where
  current : ∀ d, ¬ D d → T'.current.get? d = T.current.get? d
  heartbeats : ∀ d, ¬ D d → T'.heartbeats.get? d = T.heartbeats.get? d
  latest : ∀ k e, T'.events.latest.get? k = some e →
    T.events.latest.get? k = some e ∨ e.key = k ∧ ∀ d, k.1 = some d → D d

namespace Confined

variable {D E : DeviceId → Prop} {T T' T'' : TelemetryState}

theorem of_same (hc : T'.current = T.current) (hh : T'.heartbeats = T.heartbeats)
    (hl : T'.events.latest = T.events.latest) : Confined D T T' :=
  ⟨fun d _ => by rw [hc], fun d _ => by rw [hh], fun k e he => .inl (hl ▸ he)⟩

theorem refl (T : TelemetryState) : Confined D T T := of_same rfl rfl rfl

theorem trans (h : Confined D T T') (h' : Confined D T' T'') : Confined D T T'' where
  current d hd := (h'.current d hd).trans (h.current d hd)
  heartbeats d hd := (h'.heartbeats d hd).trans (h.heartbeats d hd)
  latest k e he := (h'.latest k e he).elim (h.latest k e) .inr

theorem mono (h : Confined D T T') (hDE : ∀ d, D d → E d) : Confined E T T' where
  current d hd := h.current d (fun hD => hd (hDE d hD))
  heartbeats d hd := h.heartbeats d (fun hD => hd (hDE d hD))
  latest k e he := (h.latest k e he).imp_right (fun hk => ⟨hk.1, fun d hd => hDE d (hk.2 d hd)⟩)

theorem clean (h : Confined D T T') {d : DeviceId} (hd : ¬ D d) (hc : T.Clean d) : T'.Clean d where
  current := (h.current d hd).trans hc.current
  heartbeats := (h.heartbeats d hd).trans hc.heartbeats
  latest ty n := by
    cases hg : T'.events.latest.get? (some d, ty, n) with
    | none => rfl
    | some e =>
      rcases h.latest _ e hg with ho | ⟨-, hD⟩
      · rw [hc.latest] at ho
        cases ho
      · exact absurd (hD d rfl) hd

theorem keyed (h : Confined D T T') (hk : T.Keyed) : T'.Keyed :=
  fun k e he => (h.latest k e he).elim (hk k e) And.left

end Confined

section Operations

variable (T : TelemetryState) (d : DeviceId)

theorem emit_confined (ty : EventType) (n : Option ℕ) (seq : ℕ) (src : TelemetrySource) (t : Time)
    (data : EventData) : Confined (· = d) T (T.emit d ty n seq src t data) := by
  refine ⟨fun _ _ => rfl, fun _ _ => rfl, fun k e he => ?_⟩
  by_cases hkeep : ty.keepsLatest
  · simp only [emit, EventBus.publish, hkeep, ↓reduceIte, Dict.get?_set] at he
    split at he
    · rename_i hk
      cases he
      exact .inr ⟨hk.symm, fun d' hd' => by rw [hk] at hd'; exact (Option.some.inj hd').symm⟩
    · exact .inl he
  · simp only [emit, EventBus.publish, hkeep] at he
    exact .inl he

theorem setCurrent_confined (c : CurrentSnapshot) : Confined (· = d) T (T.setCurrent d c) :=
  ⟨fun d' hd => by simp [hd], fun _ _ => rfl, fun _ _ h => .inl h⟩

theorem setHeartbeat_confined (h : HeartbeatState) : Confined (· = d) T (T.setHeartbeat d h) :=
  ⟨fun _ _ => rfl, fun d' hd => by simp [hd], fun _ _ h => .inl h⟩

theorem publishHeartbeat_confined (h : HeartbeatState) (t : Time) :
    Confined (· = d) T (T.publishHeartbeat d h t) :=
  (setHeartbeat_confined T d _).trans (emit_confined _ d _ _ _ _ _ _)

theorem ensureHeartbeat_confined (src : TelemetrySource) : Confined (· = d) T (T.ensureHeartbeat d src) := by
  unfold ensureHeartbeat
  split
  · exact .refl T
  · exact setHeartbeat_confined T d _

theorem registerHeartbeat_confined (src : TelemetrySource) (now : Time) :
    Confined (· = d) T (T.registerHeartbeat d src now) := by
  unfold registerHeartbeat
  dsimp only
  split
  · exact (ensureHeartbeat_confined T d src).trans (publishHeartbeat_confined _ d _ now)
  · exact ensureHeartbeat_confined T d src

theorem communicationSucceeded_confined (t : Time) (src : TelemetrySource) :
    Confined (· = d) T (T.communicationSucceeded d t src) := by
  unfold communicationSucceeded
  dsimp only
  split
  · exact ensureHeartbeat_confined T d src
  · have hc : Confined (· = d) T ((T.ensureHeartbeat d src).cancelHeartbeatStaleTask d) :=
      (ensureHeartbeat_confined T d src).trans (.of_same rfl rfl rfl)
    exact (hc.trans (publishHeartbeat_confined _ d _ t)).trans (.of_same rfl rfl rfl)

def Known (T : TelemetryState) (d : DeviceId) : Prop :=
  (T.current.get? d).isSome ∨ (T.heartbeats.get? d).isSome

theorem not_known_of_clean {T : TelemetryState} {d : DeviceId} (h : T.Clean d) : ¬ T.Known d := by
  rintro (hk | hk)
  · rw [h.current] at hk
    cases hk
  · rw [h.heartbeats] at hk
    cases hk

theorem Confined.known {D : DeviceId → Prop} {T T' : TelemetryState} (h : Confined D T T') {d : DeviceId}
    (hd : T'.Known d) : D d ∨ T.Known d := by
  by_cases hD : D d
  · exact .inl hD
  · rcases hd with hd | hd
    · exact .inr (.inl (h.current d hD ▸ hd))
    · exact .inr (.inr (h.heartbeats d hD ▸ hd))

theorem Confined.trans_known {T T' T'' : TelemetryState} (h : Confined T.Known T T') (h' : Confined T'.Known T' T'') :
    Confined T.Known T T'' := h.trans (h'.mono (fun _ hd => (h.known hd).elim id id))

theorem heartbeatDisconnected_confined (now : Time) : Confined T.Known T (T.heartbeatDisconnected d now) := by
  unfold heartbeatDisconnected
  cases hh : T.heartbeats.get? d with
  | none => exact .refl T
  | some h =>
    have hD : ∀ d', d' = d → T.Known d' := by
      rintro d' rfl
      exact .inr (by simp [hh])
    dsimp only
    split
    · exact .of_same rfl rfl rfl
    · refine Confined.trans ?_ ((publishHeartbeat_confined _ d _ now).mono hD)
      exact .of_same rfl rfl rfl

theorem heartbeatExpected_confined (now : Time) : Confined T.Known T (T.heartbeatExpected d now) := by
  unfold heartbeatExpected
  cases hh : T.heartbeats.get? d with
  | none => exact .refl T
  | some h =>
    have hD : ∀ d', d' = d → T.Known d' := by
      rintro d' rfl
      exact .inr (by simp [hh])
    dsimp only
    split
    · exact (publishHeartbeat_confined T d _ now).mono hD
    · exact .refl T

theorem staleDevice_confined (now : Time) (reason : String) (s : DeviceSnapshot) :
    Confined (· = d) T (T.staleDevice now reason d s) := by
  unfold staleDevice
  refine foldl_keeps (I := Confined (· = d) T) (fun T' p _ h => h.trans (emit_confined T' d _ _ _ _ _ _)) ?_
  exact ((setCurrent_confined T d _).trans (emit_confined _ d _ _ _ _ _ _)).trans (emit_confined _ d _ _ _ _ _ _)

theorem markStale_confined (now : Time) (force : Option DeviceId) (reason : String) :
    Confined T.Known T (T.markStale now force reason) := by
  unfold markStale
  refine foldl_keeps (I := Confined T.Known T) (fun T' e he h => ?_) (.refl T)
  split
  · refine h.trans ((staleDevice_confined T' e.1 now reason e.2.snapshot).mono ?_)
    rintro d rfl
    exact .inl (by simp [Dict.mem_entries_iff.mp he])
  · exact h

theorem connection_confined (state : ConnectionState) (now : Time) :
    Confined T.Known T (T.connection d state now) := by
  unfold connection
  cases hc : T.current.get? d with
  | none => exact .refl T
  | some c =>
    have hD : ∀ d', d' = d → T.Known d' := by
      rintro d' rfl
      exact .inl (by simp [hc])
    dsimp only
    have he := (emit_confined T d .deviceConnection none c.snapshot.sequence c.snapshot.source now
      [("state", .str state.value)]).mono hD
    split
    · exact (he.trans_known (markStale_confined _ now (some d) "disconnected")).trans
        ((emit_confined _ d _ _ _ _ _ _).mono hD)
    · exact he

theorem publishProbe_confined (s : DeviceSnapshot) (p : ProbeReading) :
    Confined (· = d) T (T.publishProbe d s p) := by
  unfold publishProbe
  dsimp only
  have he := emit_confined T d .probeAvailability (some p.number) p.sequence s.source s.observedAt
    [("available", .bool p.available), ("present", .bool p.present)]
  split
  · split
    · exact he.trans (emit_confined _ d _ _ _ _ _ _)
    · exact he
  · exact he

theorem store_confined (s : DeviceSnapshot) : Confined (· = d) T (T.store d s) := by
  have harm (T' : TelemetryState) (h : Confined (· = d) T T') :
      Confined (· = d) T ((T'.setCurrent d ⟨s, false⟩).armStaleTask d s) :=
    (h.trans (setCurrent_confined T' d ⟨s, false⟩)).trans (.of_same rfl rfl rfl)
  unfold store
  apply harm
  split
  · exact communicationSucceeded_confined T d _ _
  · exact .refl T

theorem announce_confined (s : DeviceSnapshot) (previous : Option CurrentSnapshot) :
    Confined (· = d) T (T.announce d s previous) := by
  unfold announce
  dsimp only
  have h := (emit_confined T d .deviceAvailability none s.sequence s.source s.observedAt
    [("available", .bool s.anyAvailable)]).trans
    (emit_confined _ d .deviceConnection none s.sequence s.source s.observedAt
      [("state", .str ConnectionState.polling.value)])
  split
  · exact h.trans (emit_confined _ d _ _ _ _ _ _)
  · exact h

theorem record_confined (s : DeviceSnapshot) (now : Time) :
    Confined (fun d' => d' = d ∨ T.Known d') T (T.record d s now) := by
  unfold record
  split
  · exact (markStale_confined T now none "stale").mono (fun _ h => .inr h)
  · refine Confined.mono ?_ (fun _ h => .inl h)
    unfold recordNew
    exact foldl_keeps (I := Confined (· = d) T) (fun T' p _ h => h.trans (publishProbe_confined T' d s p))
      ((store_confined T d s).trans (announce_confined _ d s _))

variable {T d} in
theorem staleDeadline_confined {now : Time} {T' : TelemetryState} (h : T.staleDeadline d now = some T') :
    Confined T.Known T T' := by
  unfold staleDeadline at h
  split at h
  · dsimp only at h
    split at h
    · cases h
      refine Confined.trans ?_ ((markStale_confined _ now none "stale").mono (fun _ hk => hk))
      exact .of_same rfl rfl rfl
    · cases h
      exact .of_same rfl rfl rfl
  · cases h

variable {T d} in
theorem heartbeatDeadline_confined {now : Time} {T' : TelemetryState} (h : T.heartbeatDeadline d now = some T') :
    Confined T.Known T T' := by
  unfold heartbeatDeadline at h
  split at h
  · dsimp only at h
    cases hh : T.heartbeats.get? d with
    | none =>
      simp only [hh] at h
      cases h
      exact .of_same rfl rfl rfl
    | some b =>
      simp only [hh] at h
      have hD : ∀ d', d' = d → T.Known d' := by
        rintro d' rfl
        exact .inr (by simp [hh])
      split at h
      · cases h
        refine Confined.trans ?_ ((publishHeartbeat_confined _ d _ now).mono hD)
        exact .of_same rfl rfl rfl
      · cases h
        exact .of_same rfl rfl rfl
  · cases h

end Operations

section Remove

variable {T : TelemetryState} {d : DeviceId}

theorem forget_clean (T : TelemetryState) (d : DeviceId) : (T.forget d).Clean d :=
  ⟨by simp [forget], by simp [forget], fun ty n => by simp [forget, EventBus.forgetDevice]⟩

theorem remove_clean (T : TelemetryState) (d : DeviceId) (now : Time) : (T.remove d now).Clean d :=
  forget_clean _ d

theorem forget_confined (T : TelemetryState) (d : DeviceId) : Confined (· = d) T (T.forget d) := by
  refine ⟨fun d' hd => by simp [forget, hd], fun d' hd => by simp [forget, hd], fun k e he => ?_⟩
  simp only [forget, EventBus.forgetDevice, Dict.get?_filterKeys] at he
  split at he
  · exact .inl he
  · cases he

theorem remove_confined (T : TelemetryState) (d : DeviceId) (now : Time) :
    Confined (fun d' => d' = d ∨ T.Known d') T (T.remove d now) := by
  have h := (connection_confined T d .disconnected now).trans_known (heartbeatDisconnected_confined _ d now)
  exact (h.mono (fun _ h => .inr h)).trans ((forget_confined _ d).mono (fun _ h => .inl h))

end Remove

end PitbluCore.TelemetryState
