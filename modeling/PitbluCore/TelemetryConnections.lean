import PitbluCore.TelemetryFrames

namespace PitbluCore

open Library

def connectionData (state : ConnectionState) : EventData := [("state", .str state.value)]

namespace TelemetryState

def connections (T : TelemetryState) (d : DeviceId) : List EventData :=
  (T.events.published.filter (fun e => e.key = (some d, .deviceConnection, none))).map TelemetryEvent.data

def newer (T : TelemetryState) (d : DeviceId) (s : DeviceSnapshot) : Bool :=
  !(T.current.get? d).any (fun c => decide (s.observedAt ≤ c.snapshot.observedAt))

structure SameConnections (T T' : TelemetryState) : Prop where
  connections : T'.connections = T.connections
  current : ∀ d, (T'.current.get? d).isSome = (T.current.get? d).isSome

namespace SameConnections

variable {T T' T'' : TelemetryState}

theorem refl (T : TelemetryState) : SameConnections T T := ⟨rfl, fun _ => rfl⟩

theorem trans (h : SameConnections T T') (h' : SameConnections T' T'') : SameConnections T T'' :=
  ⟨h'.connections.trans h.connections, fun d => (h'.current d).trans (h.current d)⟩

theorem of_eq (he : T'.events = T.events) (hc : T'.current = T.current) : SameConnections T T' :=
  ⟨funext (fun d => by rw [TelemetryState.connections, TelemetryState.connections, he]), fun d => by rw [hc]⟩

end SameConnections

section Emit

variable (T : TelemetryState) (d : DeviceId) (ty : EventType) (n : Option ℕ) (seq : ℕ)
  (src : TelemetrySource) (t : Time) (data : EventData)

theorem emit_connections (d' : DeviceId) : (T.emit d ty n seq src t data).connections d' =
    if d' = d ∧ ty = .deviceConnection ∧ n = none then data :: T.connections d' else T.connections d' := by
  by_cases h : d' = d ∧ ty = .deviceConnection ∧ n = none
  · obtain ⟨rfl, rfl, rfl⟩ := h
    simp [connections, emit, EventBus.publish, TelemetryEvent.key]
  · have hne : ¬ (d = d' ∧ ty = .deviceConnection ∧ n = none) := fun he => h ⟨he.1.symm, he.2⟩
    simp [connections, emit, EventBus.publish, TelemetryEvent.key, h, hne]

theorem emit_sameConnections (hty : ty ≠ .deviceConnection) : SameConnections T (T.emit d ty n seq src t data) := by
  refine ⟨funext (fun d' => ?_), fun _ => rfl⟩
  rw [emit_connections, if_neg (fun h => hty h.2.1)]

end Emit

theorem connections_of_announces {types : List EventType} {T T' : TelemetryState} (h : Announces types T T')
    (ht : .deviceConnection ∉ types) : T'.connections = T.connections := by
  induction h with
  | tables he => exact funext (fun d => by rw [connections, connections, he])
  | emit h T d n seq src t data =>
    refine (emit_sameConnections T d _ n seq src t data ?_).connections
    rintro rfl
    exact ht h
  | trans _ _ ih ih' => exact ih'.trans ih

theorem markStale_sameConnections (T : TelemetryState) (now : Time) (reason : String) (force : Option DeviceId) :
    SameConnections T (T.markStale now force reason) := by
  refine ⟨connections_of_announces (markStale_announces T now reason force) (by decide), fun d => ?_⟩
  rw [markStale_current, Option.isSome_map]

theorem SameConnections.of_beat {T T' : TelemetryState} (h : Beat T T') : SameConnections T T' := by
  induction h with
  | tables he hc => exact .of_eq he hc
  | emit T d h seq src t => exact emit_sameConnections T d .thermometerHeartbeat none seq src t _ (by decide)
  | trans _ _ ih ih' => exact ih.trans ih'

theorem staleDeadline_sameConnections {T T' : TelemetryState} {d : DeviceId} {now : Time}
    (hT : T.staleDeadline d now = some T') : SameConnections T T' := by
  unfold staleDeadline at hT
  split at hT
  · dsimp only at hT
    split at hT
    · obtain rfl := Option.some.inj hT
      apply SameConnections.trans _ (markStale_sameConnections _ now "stale" none)
      exact .of_eq rfl rfl
    · obtain rfl := Option.some.inj hT
      exact .of_eq rfl rfl
  · cases hT

section Record

variable (T : TelemetryState) (d : DeviceId) (s : DeviceSnapshot) (now : Time)

theorem store_connections : (T.store d s).connections = T.connections := by
  unfold store
  cases s.successfulCommunicationAt with
  | none => rfl
  | some t => exact (SameConnections.of_beat (communicationSucceeded_beat T d s.source t)).connections

theorem announce_connections (previous : Option CurrentSnapshot) (d' : DeviceId) :
    (T.announce d s previous).connections d' =
      if d' = d then connectionData .polling :: T.connections d' else T.connections d' := by
  have ha := emit_sameConnections T d .deviceAvailability none s.sequence s.source s.observedAt
    [("available", .bool s.anyAvailable)] (by decide)
  have hc := emit_connections (T.emit d .deviceAvailability none s.sequence s.source s.observedAt
    [("available", .bool s.anyAvailable)]) d .deviceConnection none s.sequence s.source s.observedAt
    (connectionData .polling) d'
  rw [ha.connections] at hc
  simp only [and_true] at hc
  unfold announce
  dsimp only
  split
  · rw [(emit_sameConnections _ d .battery _ _ _ _ _ (by decide)).connections]
    exact hc
  · exact hc

theorem recordNew_connections (d' : DeviceId) : (T.recordNew d s).connections d' =
    if d' = d then connectionData .polling :: T.connections d' else T.connections d' := by
  have hloop : (T.recordNew d s).connections = ((T.store d s).announce d s (T.current.get? d)).connections := by
    unfold recordNew
    refine foldl_keeps (I := fun T' => T'.connections = _) (fun T' p _ h => ?_) rfl
    exact (connections_of_announces (publishProbe_announces T' d s p) (by decide)).trans h
  rw [hloop, announce_connections, store_connections]

theorem record_connections (d' : DeviceId) : (T.record d s now).connections d' =
    if d' = d ∧ T.newer d s then connectionData .polling :: T.connections d' else T.connections d' := by
  unfold record newer
  split
  · rename_i h
    rw [(markStale_sameConnections T now "stale" none).connections, if_neg]
    simp [h]
  · rename_i h
    rw [recordNew_connections]
    simp [h]

theorem record_current (d' : DeviceId) : ((T.record d s now).current.get? d').isSome =
    (d' = d || (T.current.get? d').isSome) := by
  unfold record
  split
  · rename_i h
    rw [(markStale_sameConnections T now "stale" none).current]
    by_cases hd : d' = d
    · cases hc : T.current.get? d with
      | none => simp [hc] at h
      | some c => simp [hd, hc]
    · simp [hd]
  · rw [recordNew_current, Dict.get?_set]
    by_cases hd : d' = d <;> simp [hd]

theorem connection_connections (state : ConnectionState) (d' : DeviceId) : (T.connection d state now).connections d' =
    if d' = d ∧ (T.current.get? d).isSome then connectionData state :: T.connections d' else T.connections d' := by
  unfold connection
  cases hc : T.current.get? d with
  | none => simp
  | some c =>
    have hT := emit_connections T d .deviceConnection none c.snapshot.sequence c.snapshot.source now
      (connectionData state) d'
    simp only [and_true] at hT
    simp only [Option.isSome_some, and_true]
    split
    · rw [(emit_sameConnections _ d .deviceAvailability _ _ _ _ _ (by decide)).connections,
        (markStale_sameConnections _ now "disconnected" (some d)).connections]
      exact hT
    · exact hT

theorem connection_current (state : ConnectionState) (d' : DeviceId) :
    ((T.connection d state now).current.get? d').isSome = (T.current.get? d').isSome := by
  unfold connection
  cases T.current.get? d with
  | none => rfl
  | some c =>
    dsimp only
    split
    · rw [emit_current, (markStale_sameConnections _ now "disconnected" (some d)).current, emit_current]
    · rw [emit_current]

theorem remove_other {d' : DeviceId} (hd : d' ≠ d) : (T.remove d now).connections d' = T.connections d' ∧
    ((T.remove d now).current.get? d').isSome = (T.current.get? d').isSome := by
  have hh := SameConnections.of_beat (heartbeatDisconnected_beat (T.connection d .disconnected now) d now)
  constructor
  · change ((T.connection d .disconnected now).heartbeatDisconnected d now).connections d' = _
    rw [hh.connections, connection_connections, if_neg (fun h => hd h.1)]
  · rw [remove, forget, Dict.get?_erase, if_neg hd, hh.current, connection_current]

end Record

end TelemetryState

end PitbluCore
