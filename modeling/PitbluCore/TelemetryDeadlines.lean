import PitbluCore.Library.Runs
import PitbluCore.TelemetryFrames

namespace PitbluCore.TelemetryState

open Library

variable {T T' : TelemetryState} {d : DeviceId} {t : Time}

structure Expired (T : TelemetryState) (d : DeviceId) : Prop where
  probes : ∀ view ∈ T.probes d, view.fresh = false ∧ view.available = false ∧ view.temperatureC = none
  battery : ∀ view, T.battery d = some view → view.fresh = false ∧ view.available = false ∧ view.percentage = none

def Stale (T : TelemetryState) (d : DeviceId) (s : DeviceSnapshot) : Prop := T.current.get? d = some ⟨s, true⟩

/-- The operations until a later snapshot of the device is recorded or the device is removed. -/
def Retains (d : DeviceId) (t : Time) (_ : TelemetryState) : TelemetryOp → Prop
  | .record d' s _ => d' = d → s.observedAt ≤ t
  | .remove d' _ => d' ≠ d
  | _ => True

theorem Stale.expired {s : DeviceSnapshot} (h : T.Stale d s) : T.Expired d := by
  unfold Stale at h
  constructor
  · intro view hview
    simp only [probes, h, List.mem_map] at hview
    obtain ⟨p, -, rfl⟩ := hview
    simp [probeView]
  · intro view hview
    simp only [battery, h, Option.map_some, Option.some.injEq] at hview
    subst hview
    simp

theorem Expired.stale {c : CurrentSnapshot} (h : T.Expired d) (hc : T.current.get? d = some c) : c.stale = true := by
  have hb : T.battery d = (some c).map _ := congrArg _ hc
  simpa using (h.battery _ hb).1

theorem markStale_stale {s : DeviceSnapshot} (h : T.Stale d s) (now : Time) (force : Option DeviceId)
    (reason : String) :
    (T.markStale now force reason).Stale d s := by
  unfold Stale at *
  rw [markStale_current, h]
  simp

theorem connection_stale {s : DeviceSnapshot} (h : T.Stale d s) (d' : DeviceId) (state : ConnectionState) (now : Time) :
    (T.connection d' state now).Stale d s := by
  unfold connection
  cases T.current.get? d' with
  | none => exact h
  | some c =>
    dsimp only
    split
    · have he : (T.emit d' .deviceConnection none c.snapshot.sequence c.snapshot.source now
        [("state", .str state.value)]).Stale d s := h
      exact markStale_stale he now (some d') "disconnected"
    · exact h

theorem Stale.of_sameSnapshots {s : DeviceSnapshot} (h : T.Stale d s) (hs : SameSnapshots T T') : T'.Stale d s :=
  (congrArg (fun c : Dict DeviceId CurrentSnapshot => c.get? d) hs.current).trans h

theorem record_stale {s : DeviceSnapshot} (h : T.Stale d s) {d' : DeviceId} {s' : DeviceSnapshot} (now : Time)
    (hold : d' = d → s'.observedAt ≤ s.observedAt) : (T.record d' s' now).Stale d s := by
  unfold record
  split
  · exact markStale_stale h now none "stale"
  · rename_i hnew
    have hne : d ≠ d' := by
      rintro rfl
      unfold Stale at h
      rw [h] at hnew
      exact hnew (by simpa using hold rfl)
    unfold Stale at *
    rw [recordNew_current, Dict.get?_set, if_neg hne]
    exact h

theorem remove_stale {s : DeviceSnapshot} (h : T.Stale d s) {d' : DeviceId} (hd : d' ≠ d) (now : Time) :
    (T.remove d' now).Stale d s := by
  have hc := (connection_stale h d' .disconnected now).of_sameSnapshots
    (.of_beat (heartbeatDisconnected_beat (T.connection d' .disconnected now) d' now))
  unfold remove forget Stale at *
  simp only [Dict.get?_erase, if_neg hd.symm]
  exact hc

theorem staleDeadline_stale {s : DeviceSnapshot} (h : T.Stale d s) {d' : DeviceId} {now : Time}
    (hs : T.staleDeadline d' now = some T') : T'.Stale d s := by
  unfold staleDeadline at hs
  split at hs
  · rename_i snapshot _
    have h' : ({ T with staleTasks := T.staleTasks.set d' ⟨snapshot, true⟩ } : TelemetryState).Stale d s := h
    dsimp only at hs
    split at hs <;> cases hs
    · exact markStale_stale h' now none "stale"
    · exact h'
  · cases hs

theorem step_stale {s : DeviceSnapshot} {op : TelemetryOp} (h : T.Stale d s) (hr : Retains d s.observedAt T op)
    (hs : T.step op = some T') : T'.Stale d s := by
  cases op with
  | staleDeadline d' now => exact staleDeadline_stale h hs
  | heartbeatDeadline d' now => exact h.of_sameSnapshots (SameSnapshots.of_beat (heartbeatDeadline_beat hs))
  | record d' s' now =>
    cases hs
    exact record_stale h now hr
  | markStale now force reason =>
    cases hs
    exact markStale_stale h now force reason
  | connection d' state now =>
    cases hs
    exact connection_stale h d' state now
  | ensureHeartbeat d' source =>
    cases hs
    exact h.of_sameSnapshots (.of_beat (ensureHeartbeat_beat T d' source))
  | registerHeartbeat d' source now =>
    cases hs
    exact h.of_sameSnapshots (.of_beat (registerHeartbeat_beat T d' source now))
  | communicationSucceeded d' t source =>
    cases hs
    exact h.of_sameSnapshots (.of_beat (communicationSucceeded_beat T d' source t))
  | heartbeatDisconnected d' now =>
    cases hs
    exact h.of_sameSnapshots (.of_beat (heartbeatDisconnected_beat T d' now))
  | heartbeatExpected d' now =>
    cases hs
    exact h.of_sameSnapshots (.of_beat (heartbeatExpected_beat T d' now))
  | remove d' now =>
    cases hs
    exact remove_stale h hr now
  | close =>
    cases hs
    exact h

theorem stale_of_reaches {s : DeviceSnapshot} (h : T.Stale d s)
    (hr : Reaches (· = T) step (Retains d s.observedAt) T') : T'.Stale d s := by
  refine hr.invariant (I := fun T => T.Stale d s) ?_ (fun _ _ _ hs hg ht => step_stale hs hg ht)
  rintro T rfl
  exact h

theorem staleDeadline_current {c : CurrentSnapshot} {now : Time} (ht : T.staleTasks.get? d = some ⟨c.snapshot, false⟩)
    (hc : T.current.get? d = some c) (hs : T.staleDeadline d now = some T') :
    T'.current.get? d = some ⟨c.snapshot, c.stale || decide (T.staleAfter ≤ now - c.snapshot.observedAt)⟩ := by
  unfold staleDeadline at hs
  rw [ht] at hs
  simp only [hc, Option.any_some, decide_true, ↓reduceIte, Option.some.injEq] at hs
  subst hs
  rw [markStale_current]
  simp only [hc, Option.map_some, expired]
  obtain ⟨s, stale⟩ := c
  cases stale <;> by_cases h : T.staleAfter ≤ now - s.observedAt <;> simp [h]

theorem deadline_expires_iff {c : CurrentSnapshot} {now : Time} (ht : T.staleTasks.get? d = some ⟨c.snapshot, false⟩)
    (hc : T.current.get? d = some c) (hs : T.step (.staleDeadline d now) = some T') :
    (∀ T'', Reaches (· = T') step (Retains d c.snapshot.observedAt) T'' → T''.Stale d c.snapshot ∧ T''.Expired d) ↔
      c.stale = true ∨ T.staleAfter ≤ now - c.snapshot.observedAt := by
  have hcur := staleDeadline_current ht hc hs
  constructor
  · intro h
    simpa using (h T' (.init rfl)).2.stale hcur
  · intro h T'' hr
    have hstale : T'.Stale d c.snapshot := by
      rw [Stale, hcur]
      simpa using h
    have hstale' := stale_of_reaches hstale hr
    exact ⟨hstale', hstale'.expired⟩

theorem deadline_expires_iff_due :
    ∃ T', (session.record "grill" (sampleSnapshot 0 1 (by decide)) 0).step (.staleDeadline "grill" 30000000) = some T' ∧
      T'.Stale "grill" (sampleSnapshot 0 1 (by decide)) ∧ T'.Expired "grill" := by
  have hc : (session.record "grill" (sampleSnapshot 0 1 (by decide)) 0).current.get? "grill" =
      some ⟨sampleSnapshot 0 1 (by decide), false⟩ := rfl
  have hs : (session.record "grill" (sampleSnapshot 0 1 (by decide)) 0).step (.staleDeadline "grill" 30000000) =
      some _ := rfl
  exact ⟨_, hs, (deadline_expires_iff rfl hc hs).mpr (.inr (by decide)) _ (.init rfl)⟩

/-- The wall clock was set back by a second while the task slept. -/
theorem deadline_not_expires :
    ¬ ∀ T d c now T', Reachable Initial step T → T.staleTasks.get? d = some ⟨c.snapshot, false⟩ →
      T.current.get? d = some c → T.step (.staleDeadline d now) = some T' →
      ∀ T'', Reaches (· = T') step (Retains d c.snapshot.observedAt) T'' → T''.Stale d c.snapshot ∧ T''.Expired d := by
  intro hall
  have hr : Reachable Initial step (session.record "grill" (sampleSnapshot 0 1 (by decide)) 0) :=
    .step (a := .record "grill" (sampleSnapshot 0 1 (by decide)) 0) (.init ⟨_, _, _, _, _, _, _, _, _, rfl⟩) trivial rfl
  have hc : (session.record "grill" (sampleSnapshot 0 1 (by decide)) 0).current.get? "grill" =
      some ⟨sampleSnapshot 0 1 (by decide), false⟩ := rfl
  obtain ⟨hstale, -⟩ := hall _ "grill" ⟨sampleSnapshot 0 1 (by decide), false⟩ 29000000 _ hr rfl hc rfl _ (.init rfl)
  have hrun : (session.record "grill" (sampleSnapshot 0 1 (by decide)) 0).staleDeadline "grill" 29000000 = some _ := rfl
  have hcur := staleDeadline_current rfl hc hrun
  have he := Option.some.inj (hcur.symm.trans hstale)
  exact absurd (congrArg CurrentSnapshot.stale he) (by decide)

end PitbluCore.TelemetryState
