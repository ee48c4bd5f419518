import Mathlib.Data.List.Pairwise
import PitbluCore.TelemetryFrames
import PitbluCore.Library.Runs

namespace PitbluCore.TelemetryState

open Library

abbrev SequenceKey := DeviceId × EventType × Option ℕ

def history (T : TelemetryState) (k : SequenceKey) : List ℕ :=
  (T.events.published.filter (fun e => e.key = (some k.1, k.2.1, k.2.2))).map TelemetryEvent.sequence

def sequences (T : TelemetryState) (k : SequenceKey) : List ℕ := (T.history k).reverse

def Counted (T : TelemetryState) (k : SequenceKey) : Prop := (T.eventSequences.get? k).isSome

def Fresh (T : TelemetryState) (k : SequenceKey) (sequence : ℕ) : Prop :=
  ¬T.Counted k → ∀ x ∈ T.history k, x < sequence

structure Ordered (T : TelemetryState) : Prop where
  bounded : ∀ k v, T.eventSequences.get? k = some v → ∀ x ∈ T.history k, x ≤ v
  decreasing : ∀ k, (T.history k).Pairwise (· > ·)

structure Grows (T T' : TelemetryState) : Prop where
  counted : ∀ k, T.Counted k → T'.Counted k
  fresh : ∀ k sequence, T.Fresh k sequence → T'.Fresh k sequence

theorem Grows.refl (T : TelemetryState) : Grows T T := ⟨fun _ h => h, fun _ _ h => h⟩

theorem Grows.trans {T T' T'' : TelemetryState} (h : Grows T T') (h' : Grows T' T'') : Grows T T'' :=
  ⟨fun k hk => h'.counted k (h.counted k hk), fun k s hs => h'.fresh k s (h.fresh k s hs)⟩

theorem Grows.of_same (T : TelemetryState) {T' : TelemetryState} (hs : T'.eventSequences = T.eventSequences)
    (he : T'.events = T.events) : Grows T T' := by
  refine ⟨fun k hk => ?_, fun k s hf => ?_⟩
  · simpa only [Counted, hs] using hk
  · simpa only [Fresh, Counted, history, hs, he] using hf

theorem Ordered.of_same {T T' : TelemetryState} (h : Ordered T) (hs : T'.eventSequences = T.eventSequences)
    (he : T'.events = T.events) : Ordered T' where
  bounded := by simpa only [history, hs, he] using h.bounded
  decreasing := by simpa only [history, he] using h.decreasing

theorem Counted.fresh {T : TelemetryState} {k : SequenceKey} (h : T.Counted k) (sequence : ℕ) :
    T.Fresh k sequence := fun hn => absurd h hn

section Emit

variable {T : TelemetryState} {d : DeviceId} {ty : EventType} {n : Option ℕ} {seq : ℕ} {src : TelemetrySource}
  {t : Time} {data : EventData}

theorem emit_history (k : SequenceKey) : (T.emit d ty n seq src t data).history k =
    if k = (d, ty, n) then T.sequence (d, ty, n) seq :: T.history k else T.history k := by
  obtain ⟨d', ty', n'⟩ := k
  by_cases hk : (d', ty', n') = (d, ty, n)
  · obtain ⟨rfl, rfl, rfl⟩ := hk
    simp [history, emit, EventBus.publish, TelemetryEvent.key]
  · have hne : ¬(some d = some d' ∧ ty = ty' ∧ n = n') := by
      rintro ⟨hd, rfl, rfl⟩
      exact hk (by rw [Option.some.inj hd])
    have hdrop : ∀ (e : TelemetryEvent) l, e.key = ((some d, ty, n) : EventKey) →
        (e :: l).filter (fun (e : TelemetryEvent) => e.key = (some d', ty', n')) =
          l.filter (fun (e : TelemetryEvent) => e.key = (some d', ty', n')) := by
      intro e l he
      rw [List.filter_cons_of_neg]
      simpa [he] using hne
    simp only [history, emit, EventBus.publish, hk, ↓reduceIte]
    rw [hdrop _ _ rfl]

theorem emit_eventSequences (k : SequenceKey) : (T.emit d ty n seq src t data).eventSequences.get? k =
    if k = (d, ty, n) then some (T.sequence (d, ty, n) seq) else T.eventSequences.get? k :=
  Dict.get?_set _ _ _ _

theorem emit_counted : (T.emit d ty n seq src t data).Counted (d, ty, n) := by
  simp [Counted, emit_eventSequences]

theorem emit_grows : Grows T (T.emit d ty n seq src t data) := by
  have hc : ∀ k, T.Counted k → (T.emit d ty n seq src t data).Counted k := by
    intro k hk
    rw [Counted, emit_eventSequences]
    split
    · rfl
    · exact hk
  refine ⟨hc, fun k s hs hn x hx => ?_⟩
  have hne : k ≠ (d, ty, n) := by
    rintro rfl
    exact hn emit_counted
  rw [emit_history, if_neg hne] at hx
  exact hs (fun hk => hn (hc k hk)) x hx

theorem sequence_gt (h : Ordered T) {k : SequenceKey} (hf : T.Fresh k seq) :
    ∀ x ∈ T.history k, x < T.sequence k seq := by
  intro x hx
  unfold sequence
  cases hc : T.eventSequences.get? k with
  | none =>
    have hlt := hf (by simp [Counted, hc]) x hx
    exact lt_of_lt_of_le hlt (le_max_left _ _)
  | some v =>
    have hle := h.bounded k v hc x hx
    simp only [Option.getD_some]
    omega

theorem emit_ordered (h : Ordered T) (hf : T.Fresh (d, ty, n) seq) : Ordered (T.emit d ty n seq src t data) := by
  have hgt := sequence_gt h hf
  constructor
  · intro k v hv x hx
    rw [emit_eventSequences] at hv
    rw [emit_history] at hx
    split at hv
    · rename_i hk
      subst hk
      cases hv
      rw [if_pos rfl] at hx
      rcases List.mem_cons.mp hx with rfl | hx
      · exact le_refl _
      · exact le_of_lt (hgt x hx)
    · rename_i hk
      rw [if_neg hk] at hx
      exact h.bounded k v hv x hx
  · intro k
    rw [emit_history]
    split
    · rename_i hk
      subst hk
      exact List.pairwise_cons.mpr ⟨hgt, h.decreasing _⟩
    · exact h.decreasing k

end Emit

theorem foldl_ordered {P : Type} {body : TelemetryState → P → TelemetryState} {l : List P} {T₀ : TelemetryState}
    (hb : ∀ T, ∀ p ∈ l, Grows T₀ T → Ordered T → Ordered (body T p) ∧ Grows T (body T p)) (h : Ordered T₀) :
    Ordered (l.foldl body T₀) ∧ Grows T₀ (l.foldl body T₀) :=
  foldl_keeps (I := fun T => Ordered T ∧ Grows T₀ T)
    (fun T p hp hT => ⟨(hb T p hp hT.2 hT.1).1, hT.2.trans (hb T p hp hT.2 hT.1).2⟩) ⟨h, .refl T₀⟩

structure SnapshotCounted (T : TelemetryState) (d : DeviceId) (s : DeviceSnapshot) : Prop where
  availability : T.Counted (d, .deviceAvailability, none)
  battery : T.Counted (d, .battery, none)
  connection : T.Counted (d, .deviceConnection, none)
  probes : ∀ p ∈ s.probes, T.Counted (d, .probeAvailability, some p.number)

theorem SnapshotCounted.grows {T T' : TelemetryState} {d : DeviceId} {s : DeviceSnapshot} (hg : Grows T T')
    (h : SnapshotCounted T d s) : SnapshotCounted T' d s :=
  ⟨hg.counted _ h.availability, hg.counted _ h.battery, hg.counted _ h.connection,
    fun p hp => hg.counted _ (h.probes p hp)⟩

structure Sequenced (T : TelemetryState) : Prop where
  ordered : Ordered T
  current : ∀ d c, T.current.get? d = some c → SnapshotCounted T d c.snapshot
  heartbeat : ∀ d h, T.heartbeats.get? d = some h →
    (h.sequence = 0 ∧ h.status = .unknown) ∨ T.Counted (d, .thermometerHeartbeat, none)

theorem Sequenced.of_same {T T' : TelemetryState} (h : Sequenced T) (hs : T'.eventSequences = T.eventSequences)
    (he : T'.events = T.events) (hc : T'.current = T.current) (hh : T'.heartbeats = T.heartbeats) :
    Sequenced T' where
  ordered := h.ordered.of_same hs he
  current := fun d c hget => (h.current d c (hc ▸ hget)).grows (.of_same T hs he)
  heartbeat := fun d b hget => (h.heartbeat d b (hh ▸ hget)).imp_right ((Grows.of_same T hs he).counted _)

section Heartbeats

variable {T : TelemetryState} {d : DeviceId} {h : HeartbeatState} {src : TelemetrySource} {t now : Time}

theorem setHeartbeat_grows : Grows T (T.setHeartbeat d h) := .of_same T rfl rfl

theorem publishHeartbeat_grows : Grows T (T.publishHeartbeat d h t) := setHeartbeat_grows.trans emit_grows

theorem publishHeartbeat_sequenced (hT : Sequenced T)
    (hf : T.Fresh (d, .thermometerHeartbeat, none) (h.sequence + 1)) : Sequenced (T.publishHeartbeat d h t) where
  ordered := emit_ordered (hT.ordered.of_same rfl rfl) ((Grows.of_same T rfl rfl).fresh _ _ hf)
  current := fun d' c hc => (hT.current d' c hc).grows publishHeartbeat_grows
  heartbeat := fun d' h' hget => by
    by_cases hd : d' = d
    · subst hd
      exact .inr emit_counted
    · simp only [publishHeartbeat, emit_heartbeats, setHeartbeat_heartbeats, Dict.get?_set, hd, ↓reduceIte] at hget
      exact (hT.heartbeat d' h' hget).imp_right (publishHeartbeat_grows.counted _)

theorem Sequenced.heartbeat_fresh (hT : Sequenced T) (hget : T.heartbeats.get? d = some h)
    (hs : h.sequence ≠ 0 ∨ h.status ≠ .unknown) (s : ℕ) : T.Fresh (d, .thermometerHeartbeat, none) s := by
  rcases hT.heartbeat d h hget with ⟨h₀, hu⟩ | hc
  · exact absurd hs (by simp [h₀, hu])
  · exact hc.fresh s

theorem ensureHeartbeat_grows : Grows T (T.ensureHeartbeat d src) := by
  unfold ensureHeartbeat
  split <;> exact .of_same T rfl rfl

theorem ensureHeartbeat_sequenced (hT : Sequenced T) : Sequenced (T.ensureHeartbeat d src) := by
  unfold ensureHeartbeat
  split
  · exact hT
  · refine ⟨hT.ordered.of_same rfl rfl, fun d' c hc => (hT.current d' c hc).grows (.of_same T rfl rfl), ?_⟩
    intro d' h' hget
    by_cases hd : d' = d
    · simp only [setHeartbeat_heartbeats, Dict.get?_set, hd, ↓reduceIte, Option.some.injEq] at hget
      subst hget
      exact .inl ⟨rfl, rfl⟩
    · simp only [setHeartbeat_heartbeats, Dict.get?_set, hd, ↓reduceIte] at hget
      exact hT.heartbeat d' h' hget

theorem registerHeartbeat_sequenced (hT : Sequenced T)
    (hf : T.Fresh (d, .thermometerHeartbeat, none) ((T.heartbeatOf d src).sequence + 1)) :
    Sequenced (T.registerHeartbeat d src now) ∧ Grows T (T.registerHeartbeat d src now) := by
  unfold registerHeartbeat
  dsimp only
  split
  · exact ⟨publishHeartbeat_sequenced (ensureHeartbeat_sequenced hT) (ensureHeartbeat_grows.fresh _ _ hf),
      ensureHeartbeat_grows.trans publishHeartbeat_grows⟩
  · exact ⟨ensureHeartbeat_sequenced hT, ensureHeartbeat_grows⟩

theorem cancelHeartbeatStaleTask_sequenced (hT : Sequenced T) : Sequenced (T.cancelHeartbeatStaleTask d) :=
  hT.of_same rfl rfl rfl rfl

theorem cancelHeartbeatStaleTask_grows : Grows T (T.cancelHeartbeatStaleTask d) := .of_same T rfl rfl

theorem communicationSucceeded_grows : Grows T (T.communicationSucceeded d t src) := by
  unfold communicationSucceeded
  dsimp only
  split
  · exact ensureHeartbeat_grows
  · exact ((ensureHeartbeat_grows.trans cancelHeartbeatStaleTask_grows).trans publishHeartbeat_grows).trans
      (.of_same _ rfl rfl)

theorem communicationSucceeded_sequenced (hT : Sequenced T)
    (hf : T.Fresh (d, .thermometerHeartbeat, none) ((T.heartbeatOf d src).sequence + 1)) :
    Sequenced (T.communicationSucceeded d t src) := by
  unfold communicationSucceeded
  dsimp only
  split
  · exact ensureHeartbeat_sequenced hT
  · have hcancel : Sequenced ((T.ensureHeartbeat d src).cancelHeartbeatStaleTask d) :=
      cancelHeartbeatStaleTask_sequenced (ensureHeartbeat_sequenced hT)
    have hgrow : Grows T (T.ensureHeartbeat d src) := ensureHeartbeat_grows
    exact (publishHeartbeat_sequenced (h := { T.heartbeatOf d src with
      status := .healthy, lastSuccessfulCommunicationAt := some t, successfulSource := some src })
      hcancel (hgrow.fresh _ _ hf)).of_same rfl rfl rfl rfl

theorem heartbeatDisconnected_sequenced (hT : Sequenced T)
    (hf : ∀ h, T.heartbeats.get? d = some h → T.Fresh (d, .thermometerHeartbeat, none) (h.sequence + 1)) :
    Sequenced (T.heartbeatDisconnected d now) ∧ Grows T (T.heartbeatDisconnected d now) := by
  unfold heartbeatDisconnected
  cases hd : T.heartbeats.get? d with
  | none => exact ⟨hT, .refl T⟩
  | some h =>
    have hcancel := cancelHeartbeatStaleTask_sequenced (d := d) hT
    dsimp only
    split
    · exact ⟨hcancel, cancelHeartbeatStaleTask_grows⟩
    · exact ⟨publishHeartbeat_sequenced hcancel (hf h hd),
        cancelHeartbeatStaleTask_grows.trans publishHeartbeat_grows⟩

theorem heartbeatExpected_sequenced (hT : Sequenced T) :
    Sequenced (T.heartbeatExpected d now) ∧ Grows T (T.heartbeatExpected d now) := by
  unfold heartbeatExpected
  cases hd : T.heartbeats.get? d with
  | none => exact ⟨hT, .refl T⟩
  | some h =>
    dsimp only
    split
    · rename_i hs
      have hleft : h.status ≠ .unknown := by
        rw [hs]
        decide
      exact ⟨publishHeartbeat_sequenced hT (hT.heartbeat_fresh hd (.inr hleft) _), publishHeartbeat_grows⟩
    · exact ⟨hT, .refl T⟩

theorem heartbeatDeadline_sequenced {T' : TelemetryState} (hT : Sequenced T)
    (h : T.heartbeatDeadline d now = some T') : Sequenced T' ∧ Grows T T' := by
  unfold heartbeatDeadline at h
  split at h
  · rename_i successfulAt htask
    have hrun : Sequenced { T with heartbeatStaleTasks := T.heartbeatStaleTasks.set d ⟨successfulAt, true⟩ } :=
      hT.of_same rfl rfl rfl rfl
    have hg : Grows T { T with heartbeatStaleTasks := T.heartbeatStaleTasks.set d ⟨successfulAt, true⟩ } :=
      .of_same T rfl rfl
    dsimp only at h
    split at h
    · rename_i b hget
      split at h <;> cases h
      · rename_i hs
        have hleft : b.status ≠ .unknown := by
          rw [hs.1]
          decide
        exact ⟨publishHeartbeat_sequenced hrun (hrun.heartbeat_fresh hget (.inr hleft) _),
          hg.trans publishHeartbeat_grows⟩
      · exact ⟨hrun, hg⟩
    · cases h
      exact ⟨hrun, hg⟩
  · cases h

end Heartbeats

section MarkStale

variable {T : TelemetryState} {d : DeviceId} {s : DeviceSnapshot} {now : Time} {reason : String}

theorem staleDevice_ordered (h : Ordered T) (hc : SnapshotCounted T d s) :
    Ordered (T.staleDevice now reason d s) ∧ Grows T (T.staleDevice now reason d s) := by
  unfold staleDevice
  dsimp only
  generalize h₁ : (T.setCurrent d ⟨s, true⟩).emit d .deviceAvailability none s.sequence s.source now
    [("available", .bool false), ("reason", .str reason)] = T₁
  generalize h₂ : T₁.emit d .battery none s.sequence s.source now
    [("available", .bool false), ("percentage", .null), ("reason", .str reason)] = T₂
  have hset : Grows T (T.setCurrent d ⟨s, true⟩) := .of_same T rfl rfl
  have hg₁ : Grows T T₁ := h₁ ▸ hset.trans emit_grows
  have hg₂ : Grows T₁ T₂ := h₂ ▸ emit_grows
  have ho₁ : Ordered T₁ := h₁ ▸ emit_ordered (h.of_same rfl rfl) ((hset.counted _ hc.availability).fresh s.sequence)
  have ho₂ : Ordered T₂ := h₂ ▸ emit_ordered ho₁ ((hg₁.counted _ hc.battery).fresh s.sequence)
  have hg : Grows T T₂ := hg₁.trans hg₂
  obtain ⟨hord, hgrow⟩ := foldl_ordered (fun T p hp hT hord =>
    ⟨emit_ordered hord ((hT.counted _ (hg.counted _ (hc.probes p hp))).fresh p.sequence), emit_grows⟩) ho₂
  exact ⟨hord, hg.trans hgrow⟩

theorem markStale_sequenced {force : Option DeviceId} (hT : Sequenced T) :
    Sequenced (T.markStale now force reason) ∧ Grows T (T.markStale now force reason) := by
  have hloop : Ordered (T.markStale now force reason) ∧ Grows T (T.markStale now force reason) := by
    unfold markStale
    refine foldl_ordered ?_ hT.ordered
    rintro T' ⟨d₀, c₀⟩ hmem hg ho
    dsimp only
    split
    · exact staleDevice_ordered ho ((hT.current d₀ c₀ (Dict.mem_entries_iff.mp hmem)).grows hg)
    · exact ⟨ho, .refl T'⟩
  refine ⟨⟨hloop.1, fun d c hc => ?_, fun d h hget => ?_⟩, hloop.2⟩
  · rw [markStale_current] at hc
    obtain ⟨c₀, hc₀, he⟩ := Option.map_eq_some_iff.mp hc
    have hs : c.snapshot = c₀.snapshot := by
      rw [← he]
      split <;> rfl
    rw [hs]
    exact (hT.current d c₀ hc₀).grows hloop.2
  · rw [(SameHeartbeats.of_announces (markStale_announces T now reason force) (by decide)).heartbeats] at hget
    exact (hT.heartbeat d h hget).imp_right (hloop.2.counted _)

end MarkStale

theorem emit_sequenced {T : TelemetryState} {d : DeviceId} {ty : EventType} {n : Option ℕ} {seq : ℕ}
    {src : TelemetrySource} {t : Time} {data : EventData} (hT : Sequenced T) (hf : T.Fresh (d, ty, n) seq) :
    Sequenced (T.emit d ty n seq src t data) where
  ordered := emit_ordered hT.ordered hf
  current := fun d' c hc => (hT.current d' c hc).grows emit_grows
  heartbeat := fun d' h hget => (hT.heartbeat d' h hget).imp_right (emit_grows.counted _)

theorem connection_sequenced {T : TelemetryState} {d : DeviceId} {state : ConnectionState} {now : Time}
    (hT : Sequenced T) : Sequenced (T.connection d state now) ∧ Grows T (T.connection d state now) := by
  unfold connection
  cases hc : T.current.get? d with
  | none => exact ⟨hT, .refl T⟩
  | some c =>
    have hcount := hT.current d c hc
    dsimp only
    generalize h₁ : T.emit d .deviceConnection none c.snapshot.sequence c.snapshot.source now
      [("state", .str state.value)] = T₁
    have hs₁ : Sequenced T₁ := h₁ ▸ emit_sequenced hT (hcount.connection.fresh c.snapshot.sequence)
    have hg₁ : Grows T T₁ := h₁ ▸ emit_grows
    split
    · have hg₂ : Grows T (T₁.markStale now (some d) "disconnected") := hg₁.trans (markStale_sequenced hs₁).2
      exact ⟨emit_sequenced (markStale_sequenced hs₁).1 ((hg₂.counted _ hcount.availability).fresh _),
        hg₂.trans emit_grows⟩
    · exact ⟨hs₁, hg₁⟩

structure SnapshotFresh (T : TelemetryState) (d : DeviceId) (s : DeviceSnapshot) : Prop where
  device : ∀ ty, ty = .deviceAvailability ∨ ty = .deviceConnection ∨ ty = .battery → T.Fresh (d, ty, none) s.sequence
  probe : ∀ p ∈ s.probes, T.Fresh (d, .probeAvailability, some p.number) p.sequence
  temperature : ∀ p ∈ s.probes, p.temperatureC.isSome → T.Fresh (d, .probeTemperature, some p.number) p.sequence
  heartbeat : s.successfulCommunicationAt.isSome →
    T.Fresh (d, .thermometerHeartbeat, none) ((T.heartbeatOf d s.source).sequence + 1)

section Record

variable {T : TelemetryState} {d : DeviceId} {s : DeviceSnapshot} {now : Time}

theorem publishProbe_ordered {p : ProbeReading} (h : Ordered T)
    (hp : T.Fresh (d, .probeAvailability, some p.number) p.sequence)
    (ht : p.temperatureC.isSome → T.Fresh (d, .probeTemperature, some p.number) p.sequence) :
    Ordered (T.publishProbe d s p) ∧ Grows T (T.publishProbe d s p) ∧
      (T.publishProbe d s p).Counted (d, .probeAvailability, some p.number) := by
  unfold publishProbe
  dsimp only
  generalize h₁ : T.emit d .probeAvailability (some p.number) p.sequence s.source s.observedAt
    [("available", .bool p.available), ("present", .bool p.present)] = T₁
  have ho : Ordered T₁ := h₁ ▸ emit_ordered h hp
  have hg : Grows T T₁ := h₁ ▸ emit_grows
  have hc : T₁.Counted (d, .probeAvailability, some p.number) := h₁ ▸ emit_counted
  cases htemp : p.temperatureC with
  | none => exact ⟨ho, hg, hc⟩
  | some t =>
    dsimp only
    split
    · exact ⟨emit_ordered ho (hg.fresh _ _ (ht (by simp [htemp]))), hg.trans emit_grows, emit_grows.counted _ hc⟩
    · exact ⟨ho, hg, hc⟩

theorem publishProbes_ordered {l : List ProbeReading} (h : Ordered T)
    (hp : ∀ p ∈ l, T.Fresh (d, .probeAvailability, some p.number) p.sequence)
    (ht : ∀ p ∈ l, p.temperatureC.isSome → T.Fresh (d, .probeTemperature, some p.number) p.sequence) :
    Ordered (l.foldl (fun T p => T.publishProbe d s p) T) ∧ Grows T (l.foldl (fun T p => T.publishProbe d s p) T) ∧
      ∀ p ∈ l, (l.foldl (fun T p => T.publishProbe d s p) T).Counted (d, .probeAvailability, some p.number) := by
  induction l generalizing T with
  | nil => exact ⟨h, .refl T, fun p hp => absurd hp List.not_mem_nil⟩
  | cons q l ih =>
    obtain ⟨ho, hg, hc⟩ := publishProbe_ordered (s := s) h (hp q List.mem_cons_self) (ht q List.mem_cons_self)
    obtain ⟨ho', hg', hc'⟩ := ih ho (fun p hm => hg.fresh _ _ (hp p (List.mem_cons_of_mem q hm)))
      (fun p hm hs => hg.fresh _ _ (ht p (List.mem_cons_of_mem q hm) hs))
    refine ⟨ho', hg.trans hg', fun p hm => ?_⟩
    rcases List.mem_cons.mp hm with rfl | hm
    · exact hg'.counted _ hc
    · exact hc' p hm

theorem announce_ordered {previous : Option CurrentSnapshot} (h : Ordered T)
    (hf : ∀ ty, ty = .deviceAvailability ∨ ty = .deviceConnection ∨ ty = .battery → T.Fresh (d, ty, none) s.sequence)
    (hb : batteryDue previous s = false → T.Counted (d, .battery, none)) :
    Ordered (T.announce d s previous) ∧ Grows T (T.announce d s previous) ∧
      ∀ ty, ty = .deviceAvailability ∨ ty = .deviceConnection ∨ ty = .battery →
        (T.announce d s previous).Counted (d, ty, none) := by
  unfold announce
  dsimp only
  generalize h₁ : T.emit d .deviceAvailability none s.sequence s.source s.observedAt
    [("available", .bool s.anyAvailable)] = T₁
  generalize h₂ : T₁.emit d .deviceConnection none s.sequence s.source s.observedAt
    [("state", .str ConnectionState.polling.value)] = T₂
  have hg₁ : Grows T T₁ := h₁ ▸ emit_grows
  have hg₂ : Grows T₁ T₂ := h₂ ▸ emit_grows
  have ho : Ordered T₂ :=
    h₂ ▸ emit_ordered (h₁ ▸ emit_ordered h (hf _ (.inl rfl))) (hg₁.fresh _ _ (hf _ (.inr (.inl rfl))))
  have ha : T₂.Counted (d, .deviceAvailability, none) := hg₂.counted _ (h₁ ▸ emit_counted)
  have hc : T₂.Counted (d, .deviceConnection, none) := h₂ ▸ emit_counted
  have hg := hg₁.trans hg₂
  split
  · refine ⟨emit_ordered ho (hg.fresh _ _ (hf _ (.inr (.inr rfl)))), hg.trans emit_grows, ?_⟩
    rintro ty (rfl | rfl | rfl)
    · exact emit_grows.counted _ ha
    · exact emit_grows.counted _ hc
    · exact emit_counted
  · rename_i hdue
    refine ⟨ho, hg, ?_⟩
    rintro ty (rfl | rfl | rfl)
    · exact ha
    · exact hc
    · exact hg.counted _ (hb (by simpa using hdue))

theorem store_sequenced (hT : Sequenced T) (hf : SnapshotFresh T d s) :
    Ordered (T.store d s) ∧ Grows T (T.store d s) ∧
      ∀ d' h, (T.store d s).heartbeats.get? d' = some h →
        (h.sequence = 0 ∧ h.status = .unknown) ∨ (T.store d s).Counted (d', .thermometerHeartbeat, none) := by
  have hkeep : ∀ T' : TelemetryState, Grows T' ((T'.setCurrent d ⟨s, false⟩).armStaleTask d s) :=
    fun T' => .of_same T' rfl rfl
  unfold store
  cases hs : s.successfulCommunicationAt with
  | none =>
    exact ⟨hT.ordered.of_same rfl rfl, hkeep T,
      fun d' h hget => (hT.heartbeat d' h hget).imp_right ((hkeep T).counted _)⟩
  | some t =>
    have h := communicationSucceeded_sequenced (d := d) (t := t) hT (hf.heartbeat (by simp [hs]))
    exact ⟨h.ordered.of_same rfl rfl, communicationSucceeded_grows.trans (hkeep _),
      fun d' b hget => (h.heartbeat d' b hget).imp_right ((hkeep _).counted _)⟩

theorem recordNew_sequenced (hT : Sequenced T) (hf : SnapshotFresh T d s) :
    Sequenced (T.recordNew d s) ∧ Grows T (T.recordNew d s) := by
  obtain ⟨ho, hg, hheart⟩ := store_sequenced hT hf
  have hbattery : batteryDue (T.current.get? d) s = false → (T.store d s).Counted (d, .battery, none) := by
    intro hdue
    cases hc : T.current.get? d with
    | none => simp [batteryDue, hc] at hdue
    | some c => exact hg.counted _ (hT.current d c hc).battery
  obtain ⟨ho', hg', hdev⟩ := announce_ordered ho (fun ty hty => hg.fresh _ _ (hf.device ty hty)) hbattery
  obtain ⟨ho'', hg'', hprobe⟩ := publishProbes_ordered (s := s) ho'
    (fun p hp => hg'.fresh _ _ (hg.fresh _ _ (hf.probe p hp)))
    (fun p hp hs => hg'.fresh _ _ (hg.fresh _ _ (hf.temperature p hp hs)))
  refine ⟨⟨ho'', fun d' c hc => ?_, fun d' h hget => ?_⟩, (hg.trans hg').trans hg''⟩
  · rw [recordNew_current] at hc
    by_cases hd : d' = d
    · subst hd
      simp only [Dict.get?_set, ↓reduceIte, Option.some.injEq] at hc
      subst hc
      exact ⟨hg''.counted _ (hdev _ (.inl rfl)), hg''.counted _ (hdev _ (.inr (.inr rfl))),
        hg''.counted _ (hdev _ (.inr (.inl rfl))), hprobe⟩
    · simp only [Dict.get?_set, hd, ↓reduceIte] at hc
      exact (hT.current d' c hc).grows ((hg.trans hg').trans hg'')
  · rw [(SameHeartbeats.of_announces (recordNew_announces T d s) (by decide)).heartbeats] at hget
    exact (hheart d' h hget).imp_right (fun hk => hg''.counted _ (hg'.counted _ hk))

def Newer (T : TelemetryState) (d : DeviceId) (s : DeviceSnapshot) : Prop :=
  ∀ c, T.current.get? d = some c → c.snapshot.observedAt < s.observedAt

theorem record_sequenced (hT : Sequenced T) (hf : T.Newer d s → SnapshotFresh T d s) :
    Sequenced (T.record d s now) ∧ Grows T (T.record d s now) := by
  unfold record
  split
  · exact markStale_sequenced hT
  · rename_i hold
    refine recordNew_sequenced hT (hf fun c hc => ?_)
    simpa [hc] using hold

end Record

section Remove

variable {T : TelemetryState} {d : DeviceId} {now : Time}

theorem forget_counted {k : SequenceKey} (hk : k.1 ≠ d) (h : T.Counted k) : (T.forget d).Counted k := by
  rw [Counted, forget, Dict.get?_filterKeys, if_pos (by simpa using hk)]
  exact h

theorem forget_sequenced (hT : Sequenced T) : Sequenced (T.forget d) where
  ordered := by
    refine ⟨fun k v hv x hx => ?_, hT.ordered.decreasing⟩
    rw [forget, Dict.get?_filterKeys] at hv
    split at hv
    · exact hT.ordered.bounded k v hv x hx
    · cases hv
  current := fun d' c hc => by
    rw [forget, Dict.get?_erase] at hc
    split at hc
    · cases hc
    · rename_i hd
      have h := hT.current d' c hc
      exact ⟨forget_counted hd h.availability, forget_counted hd h.battery, forget_counted hd h.connection,
        fun p hp => forget_counted hd (h.probes p hp)⟩
  heartbeat := fun d' h hget => by
    rw [forget, Dict.get?_erase] at hget
    split at hget
    · cases hget
    · rename_i hd
      exact (hT.heartbeat d' h hget).imp_right (forget_counted hd)

theorem connection_heartbeats (state : ConnectionState) : (T.connection d state now).heartbeats = T.heartbeats := by
  unfold connection
  cases T.current.get? d with
  | none => rfl
  | some c =>
    dsimp only
    split
    · rw [emit_heartbeats, (SameHeartbeats.of_announces (markStale_announces _ now _ _) (by decide)).heartbeats,
        emit_heartbeats]
    · rfl

theorem remove_sequenced (hT : Sequenced T)
    (hf : ∀ h, T.heartbeats.get? d = some h → T.Fresh (d, .thermometerHeartbeat, none) (h.sequence + 1)) :
    Sequenced (T.remove d now) := by
  obtain ⟨hc, hg⟩ : Sequenced (T.connection d .disconnected now) ∧ Grows T (T.connection d .disconnected now) :=
    connection_sequenced hT
  refine forget_sequenced (heartbeatDisconnected_sequenced hc fun h hget => hg.fresh _ _ (hf h ?_)).1
  rwa [connection_heartbeats] at hget

end Remove

theorem staleDeadline_sequenced {T T' : TelemetryState} {d : DeviceId} {now : Time} (hT : Sequenced T)
    (h : T.staleDeadline d now = some T') : Sequenced T' ∧ Grows T T' := by
  unfold staleDeadline at h
  split at h
  · rename_i snapshot htask
    have hrun : Sequenced { T with staleTasks := T.staleTasks.set d ⟨snapshot, true⟩ } :=
      hT.of_same rfl rfl rfl rfl
    have hg : Grows T { T with staleTasks := T.staleTasks.set d ⟨snapshot, true⟩ } := .of_same T rfl rfl
    dsimp only at h
    split at h <;> cases h
    · exact ⟨(markStale_sequenced hrun).1, hg.trans (markStale_sequenced hrun).2⟩
    · exact ⟨hrun, hg⟩
  · cases h

/-- What the operation may publish on keys without a counter exceeds what they published before. -/
def Admits (T : TelemetryState) : TelemetryOp → Prop
  | .record d s _ => T.Newer d s → SnapshotFresh T d s
  | .registerHeartbeat d source _ =>
    T.Fresh (d, .thermometerHeartbeat, none) ((T.heartbeatOf d source).sequence + 1)
  | .communicationSucceeded d _ source =>
    T.Fresh (d, .thermometerHeartbeat, none) ((T.heartbeatOf d source).sequence + 1)
  | .heartbeatDisconnected d _ =>
    ∀ h, T.heartbeats.get? d = some h → T.Fresh (d, .thermometerHeartbeat, none) (h.sequence + 1)
  | .remove d _ =>
    ∀ h, T.heartbeats.get? d = some h → T.Fresh (d, .thermometerHeartbeat, none) (h.sequence + 1)
  | _ => True

theorem step_sequenced {T T' : TelemetryState} {op : TelemetryOp} (hT : Sequenced T) (ha : T.Admits op)
    (h : T.step op = some T') : Sequenced T' ∧ (op.IsRemove ∨ Grows T T') := by
  cases op with
  | remove d now =>
    cases h
    exact ⟨remove_sequenced hT ha, .inl trivial⟩
  | record d s now =>
    cases h
    exact (record_sequenced hT ha).imp_right .inr
  | markStale now force reason =>
    cases h
    exact (markStale_sequenced hT).imp_right .inr
  | connection d state now =>
    cases h
    exact (connection_sequenced hT).imp_right .inr
  | ensureHeartbeat d source =>
    cases h
    exact ⟨ensureHeartbeat_sequenced hT, .inr ensureHeartbeat_grows⟩
  | registerHeartbeat d source now =>
    cases h
    exact (registerHeartbeat_sequenced hT ha).imp_right .inr
  | communicationSucceeded d t source =>
    cases h
    exact ⟨communicationSucceeded_sequenced hT ha, .inr communicationSucceeded_grows⟩
  | heartbeatDisconnected d now =>
    cases h
    exact (heartbeatDisconnected_sequenced hT ha).imp_right .inr
  | heartbeatExpected d now =>
    cases h
    exact (heartbeatExpected_sequenced hT).imp_right .inr
  | staleDeadline d now => exact (staleDeadline_sequenced hT h).imp_right .inr
  | heartbeatDeadline d now => exact (heartbeatDeadline_sequenced hT h).imp_right .inr
  | close =>
    cases h
    exact ⟨hT.of_same rfl rfl rfl rfl, .inr (.of_same T rfl rfl)⟩

theorem initial_sequenced {T : TelemetryState} (h : T.Initial) : Sequenced T ∧ ∀ k, T.Fresh k 0 := by
  obtain ⟨_, _, _, _, _, _, _, _, _, rfl⟩ := h
  refine ⟨⟨⟨?_, ?_⟩, ?_, ?_⟩, ?_⟩ <;> simp [create, EventBus.create, history, Fresh]

theorem Ordered.increasing {T : TelemetryState} (h : Ordered T) (k : SequenceKey) :
    (T.sequences k).Pairwise (· < ·) := List.pairwise_reverse.mpr (h.decreasing k)

theorem sequences_increasing_of_kept {T : TelemetryState}
    (h : Reaches Initial step (fun _ op => ¬op.IsRemove) T) (k : SequenceKey) : (T.sequences k).Pairwise (· < ·) := by
  have hinv : Sequenced T ∧ ∀ k, T.Fresh k 0 := by
    refine h.invariant (I := fun T => Sequenced T ∧ ∀ k, T.Fresh k 0) (fun _ => initial_sequenced) ?_
    intro T op T' ⟨hT, hzero⟩ hop ht
    have hfresh : ∀ k s, T.Fresh k s := fun k s hn x hx => lt_of_lt_of_le (hzero k hn x hx) (Nat.zero_le s)
    have hadm : T.Admits op := by
      cases op with
      | record d s now =>
        exact fun _ => ⟨fun _ _ => hfresh _ _, fun _ _ => hfresh _ _, fun _ _ _ => hfresh _ _, fun _ => hfresh _ _⟩
      | registerHeartbeat | communicationSucceeded => exact hfresh _ _
      | heartbeatDisconnected | remove => exact fun _ _ => hfresh _ _
      | _ => trivial
    obtain ⟨hT', hr | hg⟩ := step_sequenced hT hadm ht
    · exact absurd hr hop
    · exact ⟨hT', fun k => hg.fresh k 0 (hzero k)⟩
  exact hinv.1.ordered.increasing k

theorem sequences_increasing {T : TelemetryState} (h : Reaches Initial step Admits T) (k : SequenceKey) :
    (T.sequences k).Pairwise (· < ·) :=
  (h.invariant (fun _ hi => (initial_sequenced hi).1)
    (fun _ _ _ hT ha ht => (step_sequenced hT ha ht).1)).ordered.increasing k

theorem sequences_increasing_removed :
    (((session.registerHeartbeat "grill" .physical 0).remove "grill" 1).sequences
      ("grill", .thermometerHeartbeat, none)).Pairwise (· < ·) := by
  refine sequences_increasing (.step (a := .remove "grill" 1) (.step (a := .registerHeartbeat "grill" .physical 0)
    (.init ⟨_, _, _, _, _, _, _, _, _, rfl⟩) ?_ rfl) ?_ rfl) _
  · intro _ x hx
    cases hx
  · have hc : (session.registerHeartbeat "grill" .physical 0).Counted ("grill", .thermometerHeartbeat, none) := by
      unfold Counted
      decide +kernel
    exact fun h _ => hc.fresh _

/-- A device that is removed and registered again restarts the numbers of its heartbeat. -/
theorem sequences_restart : ¬∀ T, Reachable Initial step T → ∀ k : SequenceKey, (T.sequences k).Pairwise (· < ·) := by
  intro hall
  have hr : Reachable Initial step (((session.registerHeartbeat "grill" .physical 0).remove "grill" 1).registerHeartbeat
      "grill" .physical 2) :=
    .step (a := .registerHeartbeat "grill" .physical 2) (.step (a := .remove "grill" 1)
      (.step (a := .registerHeartbeat "grill" .physical 0) (.init ⟨_, _, _, _, _, _, _, _, _, rfl⟩) trivial rfl)
      trivial rfl) trivial rfl
  have hseq := hall _ hr ("grill", .thermometerHeartbeat, none)
  have hlist : (((session.registerHeartbeat "grill" .physical 0).remove "grill" 1).registerHeartbeat
      "grill" .physical 2).sequences ("grill", .thermometerHeartbeat, none) = [1, 2, 1] := by
    decide +kernel
  rw [hlist] at hseq
  revert hseq
  decide

end PitbluCore.TelemetryState
