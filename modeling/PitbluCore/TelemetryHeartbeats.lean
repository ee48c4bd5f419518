import PitbluCore.Library.Runs
import PitbluCore.TelemetryFrames

namespace PitbluCore

open Library

def TelemetryOp.Communicates (op : TelemetryOp) (d : DeviceId) (t : Time) : Prop :=
  match op with
  | .communicationSucceeded d' t' _ => d' = d ∧ t' = t
  | .record d' s _ => d' = d ∧ s.successfulCommunicationAt = some t
  | _ => False

def HeartbeatState.after (h : HeartbeatState) (t : Time) (src : TelemetrySource) : HeartbeatState :=
  { h with status := .healthy, lastSuccessfulCommunicationAt := some t, successfulSource := some src }

structure Pulse where
  heartbeat : Option HeartbeatState
  timer : Option (Timer Time)

namespace Pulse

def last (p : Pulse) : Option Time := p.heartbeat.bind HeartbeatState.lastSuccessfulCommunicationAt

def status (p : Pulse) : Option HeartbeatStatus := p.heartbeat.map HeartbeatState.status

/-- What an operation can do to the entries of device `d`. -/
inductive Beats (op : TelemetryOp) (d : DeviceId) : Pulse → Pulse → Prop
  | same (p : Pulse) : Beats op d p p
  | kept (p : Pulse) (src : TelemetrySource) (n : ℕ) :
      Beats op d p ⟨some { p.heartbeat.getD (.create src) with sequence := n }, p.timer⟩
  | succeeded (p : Pulse) (src : TelemetrySource) (n : ℕ) {t : Time} (hc : op.Communicates d t)
      (hn : ∀ previous, p.last = some previous → previous < t) :
      Beats op d p ⟨some { (p.heartbeat.getD (.create src)).after t src with sequence := n }, some ⟨t, false⟩⟩
  | disconnected (h : HeartbeatState) (timer : Option (Timer Time)) (n : ℕ) :
      Beats op d ⟨some h, timer⟩ ⟨some { h with status := .disconnected, sequence := n }, none⟩
  | expected {h : HeartbeatState} (timer : Option (Timer Time)) (n : ℕ) (hs : h.status = .disconnected) :
      Beats op d ⟨some h, timer⟩ ⟨some { h with status := TelemetryState.HeartbeatState.resumed h, sequence := n },
        timer⟩
  | aged {h : HeartbeatState} {t : Time} (n : ℕ) (hs : h.status = .healthy)
      (hl : h.lastSuccessfulCommunicationAt = some t) :
      Beats op d ⟨some h, some ⟨t, false⟩⟩ ⟨some { h with status := .stale, sequence := n }, some ⟨t, true⟩⟩
  | ran (heartbeat : Option HeartbeatState) {t : Time}
      (hn : ∀ h, heartbeat = some h → ¬ (h.status = .healthy ∧ h.lastSuccessfulCommunicationAt = some t)) :
      Beats op d ⟨heartbeat, some ⟨t, false⟩⟩ ⟨heartbeat, some ⟨t, true⟩⟩
  | removed (p : Pulse) : Beats op d p ⟨none, none⟩

structure Sound (p : Pulse) : Prop where
  healthy : p.status = some .healthy → ∃ t, p.last = some t ∧ p.timer = some ⟨t, false⟩
  unknown : p.status = some .unknown → p.last = none
  stale : p.status = some .stale → ∃ t, p.last = some t

variable {op : TelemetryOp} {d : DeviceId} {p q : Pulse}

theorem sound_none (timer : Option (Timer Time)) : Sound ⟨none, timer⟩ := by
  constructor <;> rintro ⟨⟩

theorem Sound.beats (h : p.Sound) (hb : Beats op d p q) : q.Sound := by
  cases hb with
  | same => exact h
  | kept _ src n =>
    obtain ⟨_ | b, timer⟩ := p
    · constructor <;> simp [status, last, HeartbeatState.create]
    · exact ⟨h.healthy, h.unknown, h.stale⟩
  | succeeded _ src n hc hn => constructor <;> simp [status, last, HeartbeatState.after]
  | disconnected b timer n => constructor <;> simp [status]
  | @expected b timer n hs =>
    constructor <;> cases hl : b.lastSuccessfulCommunicationAt <;>
      simp [status, last, TelemetryState.HeartbeatState.resumed, hl]
  | aged n hs hl => constructor <;> simp [status, last, hl]
  | @ran b t hn =>
    refine ⟨fun hs => ?_, h.unknown, h.stale⟩
    -- a healthy heartbeat has the deadline that just ran, and would have aged
    obtain ⟨t', hl, ht⟩ := h.healthy hs
    cases ht
    obtain ⟨b', hb, hs'⟩ := Option.map_eq_some_iff.mp hs
    obtain ⟨b'', hb', hl'⟩ := Option.bind_eq_some_iff.mp hl
    cases hb.symm.trans hb'
    exact absurd ⟨hs', hl'⟩ (hn b' hb)
  | removed => exact sound_none none

theorem Beats.last_mono (hb : Beats op d p q) (hq : q.heartbeat.isSome) {t : Time} (ht : p.last = some t) :
    ∃ t', q.last = some t' ∧ t ≤ t' := by
  cases hb with
  | same => exact ⟨t, ht, Int.le_refl t⟩
  | kept _ src n =>
    obtain ⟨_ | b, timer⟩ := p
    · cases ht
    · exact ⟨t, ht, Int.le_refl t⟩
  | @succeeded _ src n t' hc hn => exact ⟨t', rfl, Int.le_of_lt (hn t ht)⟩
  | disconnected | expected | aged | ran => exact ⟨t, ht, Int.le_refl t⟩
  | removed => cases hq

theorem Beats.healthy (hb : Beats op d p q) (hq : q.status = some .healthy) (hp : p.status ≠ some .healthy) :
    ∃ t, op.Communicates d t ∧ q.last = some t ∧ ∀ previous, p.last = some previous → previous < t := by
  cases hb with
  | same | ran => exact absurd hq hp
  | kept _ src n =>
    obtain ⟨_ | b, timer⟩ := p
    · cases hq
    · exact absurd hq hp
  | succeeded _ src n hc hn => exact ⟨_, hc, rfl, hn⟩
  | @expected b timer n hs =>
    cases hl : b.lastSuccessfulCommunicationAt <;> simp [status, TelemetryState.HeartbeatState.resumed, hl] at hq
  | disconnected | aged | removed => cases hq

end Pulse

namespace TelemetryState

def pulse (T : TelemetryState) (d : DeviceId) : Pulse := ⟨T.heartbeats.get? d, T.heartbeatStaleTasks.get? d⟩

def SamePulses (T T' : TelemetryState) : Prop :=
  T'.heartbeats = T.heartbeats ∧ T'.heartbeatStaleTasks = T.heartbeatStaleTasks

variable {T T' T'' : TelemetryState} {d d' : DeviceId}

section Frames

theorem SamePulses.refl (T : TelemetryState) : SamePulses T T := ⟨rfl, rfl⟩

theorem SamePulses.trans (h : SamePulses T T') (h' : SamePulses T' T'') : SamePulses T T'' :=
  ⟨h'.1.trans h.1, h'.2.trans h.2⟩

theorem SamePulses.pulse (h : SamePulses T T') (d : DeviceId) : T'.pulse d = T.pulse d := by
  simp only [TelemetryState.pulse, h.1, h.2]

theorem staleDevice_samePulses (T : TelemetryState) (now : Time) (reason : String) (d : DeviceId) (s : DeviceSnapshot) :
    SamePulses T (T.staleDevice now reason d s) := by
  unfold staleDevice
  refine foldl_keeps (I := SamePulses T) ?_ ⟨rfl, rfl⟩
  intro T' p _ h
  exact h

theorem markStale_samePulses (T : TelemetryState) (now : Time) (force : Option DeviceId) (reason : String) :
    SamePulses T (T.markStale now force reason) := by
  unfold markStale
  refine foldl_keeps (I := SamePulses T) (fun T' e _ h => ?_) (SamePulses.refl T)
  split
  · exact h.trans (staleDevice_samePulses T' now reason e.1 e.2.snapshot)
  · exact h

theorem connection_samePulses (T : TelemetryState) (d : DeviceId) (state : ConnectionState) (now : Time) :
    SamePulses T (T.connection d state now) := by
  unfold connection
  cases T.current.get? d with
  | none => exact SamePulses.refl T
  | some c =>
    dsimp only
    split
    · exact markStale_samePulses (T.emit d .deviceConnection none c.snapshot.sequence c.snapshot.source now _) now
        (some d) "disconnected"
    · exact ⟨rfl, rfl⟩

theorem publishProbe_samePulses (T : TelemetryState) (d : DeviceId) (s : DeviceSnapshot) (p : ProbeReading) :
    SamePulses T (T.publishProbe d s p) := by
  unfold publishProbe
  cases p.temperatureC with
  | none => exact ⟨rfl, rfl⟩
  | some t =>
    dsimp only
    split <;> exact ⟨rfl, rfl⟩

theorem recordNew_samePulses (T : TelemetryState) (d : DeviceId) (s : DeviceSnapshot) :
    SamePulses (T.store d s) (T.recordNew d s) := by
  unfold recordNew
  refine foldl_keeps (I := SamePulses (T.store d s)) (fun T' p _ h => h.trans (publishProbe_samePulses T' d s p)) ?_
  unfold announce
  dsimp only
  split <;> exact ⟨rfl, rfl⟩

end Frames

section Operations

theorem pulse_publishHeartbeat (T : TelemetryState) (d : DeviceId) (h : HeartbeatState) (t : Time) (d' : DeviceId) :
    (T.publishHeartbeat d h t).pulse d' =
      if d' = d then ⟨some { h with sequence := T.sequence (d, .thermometerHeartbeat, none) (h.sequence + 1) },
        T.heartbeatStaleTasks.get? d⟩ else T.pulse d' := by
  unfold publishHeartbeat pulse
  by_cases hd : d' = d <;> simp [hd] <;> rfl

theorem pulse_ensureHeartbeat (T : TelemetryState) (d : DeviceId) (src : TelemetrySource) (d' : DeviceId) :
    (T.ensureHeartbeat d src).pulse d' =
      if d' = d then ⟨some ((T.heartbeats.get? d).getD (.create src)), T.heartbeatStaleTasks.get? d⟩
      else T.pulse d' := by
  unfold ensureHeartbeat pulse
  cases h : T.heartbeats.get? d with
  | none => by_cases hd : d' = d <;> simp [hd] <;> rfl
  | some b => by_cases hd : d' = d <;> simp [hd, h]

theorem beats_ensureHeartbeat (op : TelemetryOp) (d : DeviceId) (src : TelemetrySource) (d' : DeviceId) :
    Pulse.Beats op d' (T.pulse d') ((T.ensureHeartbeat d src).pulse d') := by
  rw [pulse_ensureHeartbeat]
  split
  · rename_i hd
    subst hd
    exact .kept (T.pulse d') src ((T.heartbeats.get? d').getD (.create src)).sequence
  · exact .same _

theorem beats_registerHeartbeat (op : TelemetryOp) (d : DeviceId) (src : TelemetrySource) (now : Time) (d' : DeviceId) :
    Pulse.Beats op d' (T.pulse d') ((T.registerHeartbeat d src now).pulse d') := by
  unfold registerHeartbeat
  dsimp only
  split
  · rw [pulse_publishHeartbeat]
    split
    · rename_i hd
      subst hd
      have ht : (T.ensureHeartbeat d' src).heartbeatStaleTasks.get? d' = T.heartbeatStaleTasks.get? d' := by
        have h := pulse_ensureHeartbeat T d' src d'
        rw [if_pos rfl] at h
        exact congrArg Pulse.timer h
      rw [ht]
      exact .kept (T.pulse d') src _
    · exact beats_ensureHeartbeat op d src d'
  · exact beats_ensureHeartbeat op d src d'

theorem pulse_armHeartbeatStaleTask (T : TelemetryState) (d : DeviceId) (t : Time) (d' : DeviceId) :
    (T.armHeartbeatStaleTask d t).pulse d' = if d' = d then ⟨T.heartbeats.get? d, some ⟨t, false⟩⟩ else T.pulse d' := by
  unfold armHeartbeatStaleTask pulse
  by_cases hd : d' = d <;> simp [hd]

theorem pulse_cancelHeartbeatStaleTask (T : TelemetryState) (d d' : DeviceId) :
    (T.cancelHeartbeatStaleTask d).pulse d' = if d' = d then ⟨T.heartbeats.get? d, none⟩ else T.pulse d' := by
  unfold cancelHeartbeatStaleTask pulse
  by_cases hd : d' = d <;> simp [hd]

theorem communicationSucceeded_eq (T : TelemetryState) (d : DeviceId) (t : Time) (src : TelemetrySource) :
    T.communicationSucceeded d t src =
      if (T.heartbeatOf d src).lastSuccessfulCommunicationAt.any (fun previous => decide (t ≤ previous)) then
        T.ensureHeartbeat d src
      else (((T.ensureHeartbeat d src).cancelHeartbeatStaleTask d).publishHeartbeat d
      ((T.heartbeatOf d src).after t src)
        t).armHeartbeatStaleTask d t := rfl

theorem beats_communicationSucceeded {op : TelemetryOp} {t : Time} (hop : op.Communicates d t) (src : TelemetrySource)
    (d' : DeviceId) : Pulse.Beats op d' (T.pulse d') ((T.communicationSucceeded d t src).pulse d') := by
  rw [communicationSucceeded_eq]
  split
  · exact beats_ensureHeartbeat op d src d'
  · rename_i hlate
    rw [pulse_armHeartbeatStaleTask]
    split
    · rename_i hd
      subst hd
      have hheart := congrArg Pulse.heartbeat (pulse_publishHeartbeat
        ((T.ensureHeartbeat d' src).cancelHeartbeatStaleTask d') d' ((T.heartbeatOf d' src).after t src) t d')
      rw [if_pos rfl] at hheart
      rw [show Dict.get? _ d' = _ from hheart]
      refine .succeeded (T.pulse d') src _ hop (fun previous hp => ?_)
      obtain ⟨b, hb, hl⟩ := Option.bind_eq_some_iff.mp hp
      have hb' : T.heartbeatOf d' src = b := by
        unfold heartbeatOf
        rw [show T.heartbeats.get? d' = some b from hb]
        rfl
      rw [hb', hl] at hlate
      simpa using hlate
    · rename_i hd
      rw [pulse_publishHeartbeat, if_neg hd, pulse_cancelHeartbeatStaleTask, if_neg hd]
      exact beats_ensureHeartbeat op d src d'

theorem beats_heartbeatDisconnected (op : TelemetryOp) (d : DeviceId) (now : Time) (d' : DeviceId) :
    Pulse.Beats op d' (T.pulse d') ((T.heartbeatDisconnected d now).pulse d') := by
  unfold heartbeatDisconnected
  cases hb : T.heartbeats.get? d with
  | none => exact .same _
  | some b =>
    have hp : T.pulse d = ⟨some b, T.heartbeatStaleTasks.get? d⟩ := by rw [pulse, hb]
    dsimp only
    split
    · rename_i hs
      rw [pulse_cancelHeartbeatStaleTask]
      split
      · rename_i hd
        subst hd
        rw [hp, hb]
        have h : Pulse.Beats op d' _ _ := .disconnected b (T.heartbeatStaleTasks.get? d') b.sequence
        rwa [show ({ b with status := .disconnected, sequence := b.sequence } : HeartbeatState) = b from hs ▸ rfl] at h
      · exact .same _
    · rw [pulse_publishHeartbeat]
      split
      · rename_i hd
        subst hd
        rw [hp]
        have hnone : (T.cancelHeartbeatStaleTask d').heartbeatStaleTasks.get? d' = none := by
          simp [cancelHeartbeatStaleTask]
        rw [hnone]
        exact .disconnected b _ _
      · rename_i hd
        rw [pulse_cancelHeartbeatStaleTask, if_neg hd]
        exact .same _

theorem beats_heartbeatExpected (op : TelemetryOp) (d : DeviceId) (now : Time) (d' : DeviceId) :
    Pulse.Beats op d' (T.pulse d') ((T.heartbeatExpected d now).pulse d') := by
  unfold heartbeatExpected
  cases hb : T.heartbeats.get? d with
  | none => exact .same _
  | some b =>
    dsimp only
    split
    · rename_i hs
      rw [pulse_publishHeartbeat]
      split
      · rename_i hd
        subst hd
        rw [pulse, hb]
        exact .expected _ _ hs
      · exact .same _
    · exact .same _

theorem beats_heartbeatDeadline (op : TelemetryOp) {now : Time} (h : T.heartbeatDeadline d now = some T')
    (d' : DeviceId) : Pulse.Beats op d' (T.pulse d') (T'.pulse d') := by
  unfold heartbeatDeadline at h
  split at h
  · rename_i t ht
    have hrun : ∀ d', ({ T with heartbeatStaleTasks := T.heartbeatStaleTasks.set d ⟨t, true⟩ } : TelemetryState).pulse
        d' =
        if d' = d then ⟨T.heartbeats.get? d, some ⟨t, true⟩⟩ else T.pulse d' := by
      intro d'
      unfold pulse
      by_cases hd : d' = d <;> simp [hd]
    have hp : T.pulse d = ⟨T.heartbeats.get? d, some ⟨t, false⟩⟩ := by rw [pulse, ht]
    -- the deadline has run without effect
    have hran : (∀ b, T.heartbeats.get? d = some b →
        ¬ (b.status = .healthy ∧ b.lastSuccessfulCommunicationAt = some t)) →
        Pulse.Beats op d' (T.pulse d')
          (({ T with heartbeatStaleTasks := T.heartbeatStaleTasks.set d ⟨t, true⟩ } : TelemetryState).pulse d') := by
      intro hn
      rw [hrun]
      split
      · rename_i hd
        subst hd
        rw [hp]
        exact .ran _ hn
      · exact .same _
    dsimp only at h
    split at h
    · rename_i b hb
      split at h
      · rename_i hs
        cases h
        rw [pulse_publishHeartbeat]
        split
        · rename_i hd
          subst hd
          rw [hp, hb]
          simp only [Dict.get?_set, ↓reduceIte]
          exact .aged _ hs.1 hs.2
        · rename_i hd
          rw [hrun, if_neg hd]
          exact .same _
      · rename_i hs
        cases h
        refine hran (fun b' hb' => ?_)
        cases hb.symm.trans hb'
        exact hs
    · rename_i hb
      cases h
      exact hran (fun b' hb' => by cases hb.symm.trans hb')
  · cases h

theorem heartbeatDeadline_heartbeats {now t : Time} (h : T.heartbeatDeadline d now = some T')
    (ht : T.heartbeatStaleTasks.get? d = some ⟨t, false⟩) (d' : DeviceId) :
    T'.heartbeats.get? d' = T.heartbeats.get? d' ∨
      d' = d ∧ ∃ b, T.heartbeats.get? d = some b ∧ b.lastSuccessfulCommunicationAt = some t := by
  unfold heartbeatDeadline at h
  rw [ht] at h
  dsimp only at h
  split at h
  · rename_i b hb
    split at h
    · rename_i hs
      by_cases hd : d' = d
      · exact .inr ⟨hd, b, hb, hs.2⟩
      · cases h
        left
        have hp := pulse_publishHeartbeat { T with heartbeatStaleTasks := T.heartbeatStaleTasks.set d ⟨t, true⟩ } d
          { b with status := .stale } now d'
        rw [if_neg hd] at hp
        exact congrArg Pulse.heartbeat hp
    · cases h
      exact .inl rfl
  · cases h
    exact .inl rfl

theorem beats_store (T : TelemetryState) (d : DeviceId) (s : DeviceSnapshot) (now : Time) (d' : DeviceId) :
    Pulse.Beats (.record d s now) d' (T.pulse d') ((T.store d s).pulse d') := by
  have hstore : ∀ T' : TelemetryState, ((T'.setCurrent d ⟨s, false⟩).armStaleTask d s).pulse d' = T'.pulse d' :=
    fun _ => rfl
  unfold store
  rw [hstore]
  cases hs : s.successfulCommunicationAt with
  | none => exact .same _
  | some t =>
    have hop : TelemetryOp.Communicates (.record d s now) d t := ⟨rfl, hs⟩
    exact beats_communicationSucceeded hop s.source d'

theorem pulse_forget (T : TelemetryState) (d d' : DeviceId) :
    (T.forget d).pulse d' = if d' = d then ⟨none, none⟩ else T.pulse d' := by
  unfold forget pulse
  by_cases hd : d' = d <;> simp [hd]

/-- Other operations are allowed in the run; `close` cancels every deadline. -/
def Open (_ : TelemetryState) (op : TelemetryOp) : Prop := op ≠ .close

theorem step_beats {op : TelemetryOp} (ho : T.Open op) (h : T.step op = some T') (d : DeviceId) :
    Pulse.Beats op d (T.pulse d) (T'.pulse d) := by
  cases op with
  | record d' s now =>
    cases h
    unfold record
    split
    · rw [(markStale_samePulses T now none "stale").pulse]
      exact .same _
    · rw [(recordNew_samePulses T d' s).pulse]
      exact beats_store T d' s now d
  | markStale now force reason =>
    cases h
    rw [(markStale_samePulses T now force reason).pulse]
    exact .same _
  | connection d' state now =>
    cases h
    rw [(connection_samePulses T d' state now).pulse]
    exact .same _
  | ensureHeartbeat d' source =>
    cases h
    exact beats_ensureHeartbeat _ d' source d
  | registerHeartbeat d' source now =>
    cases h
    exact beats_registerHeartbeat _ d' source now d
  | communicationSucceeded d' t source =>
    cases h
    have hop : TelemetryOp.Communicates (.communicationSucceeded d' t source) d' t := ⟨rfl, rfl⟩
    exact beats_communicationSucceeded hop source d
  | heartbeatDisconnected d' now =>
    cases h
    exact beats_heartbeatDisconnected _ d' now d
  | heartbeatExpected d' now =>
    cases h
    exact beats_heartbeatExpected _ d' now d
  | staleDeadline d' now =>
    have hs : SamePulses T T' := by
      unfold step staleDeadline at h
      dsimp only at h
      split at h
      · rename_i snapshot _
        have hmark := markStale_samePulses { T with staleTasks := T.staleTasks.set d' ⟨snapshot, true⟩ } now none
            "stale"
        split at h <;> cases h
        · exact hmark
        · exact ⟨rfl, rfl⟩
      · cases h
    rw [hs.pulse]
    exact .same _
  | heartbeatDeadline d' now => exact beats_heartbeatDeadline _ h d
  | remove d' now =>
    cases h
    have hconn := connection_samePulses T d' .disconnected now
    unfold remove
    rw [pulse_forget]
    split
    · exact .removed _
    · have hb := beats_heartbeatDisconnected (T := T.connection d' .disconnected now) (.remove d' now) d' now d
      rwa [hconn.pulse] at hb
  | close => exact absurd rfl ho

end Operations

theorem pulse_sound (h : Reaches Initial step Open T) (d : DeviceId) : (T.pulse d).Sound := by
  refine h.invariant (I := fun T => (T.pulse d).Sound) ?_ ?_
  · rintro T ⟨historySize, queueSize, sessionId, staleAfter, heartbeatStaleAfter, h, h', h₁, h₂, rfl⟩
    exact Pulse.sound_none _
  · exact fun T op T' hs ho hstep => hs.beats (step_beats ho hstep d)

structure HeartbeatSound (T : TelemetryState) (d : DeviceId) : Prop where
  healthy : ∀ h, T.heartbeats.get? d = some h → h.status = .healthy → ∃ t, h.lastSuccessfulCommunicationAt = some t ∧
    T.heartbeatStaleTasks.get? d = some ⟨t, false⟩
  unknown : ∀ h, T.heartbeats.get? d = some h → h.status = .unknown → h.lastSuccessfulCommunicationAt = none
  stale : ∀ h, T.heartbeats.get? d = some h → h.status = .stale → h.lastSuccessfulCommunicationAt.isSome

structure HeartbeatStep (T T' : TelemetryState) (op : TelemetryOp) (d : DeviceId) : Prop where
  monotone : ∀ h h' t, T.heartbeats.get? d = some h → T'.heartbeats.get? d = some h' →
    h.lastSuccessfulCommunicationAt = some t → ∃ t', h'.lastSuccessfulCommunicationAt = some t' ∧ t ≤ t'
  healthy : ∀ h', T'.heartbeats.get? d = some h' → h'.status = .healthy →
    (∀ h, T.heartbeats.get? d = some h → h.status ≠ .healthy) →
    ∃ t, op.Communicates d t ∧ h'.lastSuccessfulCommunicationAt = some t ∧
      ∀ h previous, T.heartbeats.get? d = some h → h.lastSuccessfulCommunicationAt = some previous → previous < t
  superseded : ∀ d' now t, op = .heartbeatDeadline d' now → T.heartbeatStaleTasks.get? d' = some ⟨t, false⟩ →
    ∀ h h', T.heartbeats.get? d = some h → T'.heartbeats.get? d = some h' → h'.status ≠ h.status →
    d = d' ∧ h.lastSuccessfulCommunicationAt = some t

theorem heartbeatSound_of_pulse (h : (T.pulse d).Sound) : T.HeartbeatSound d := by
  constructor
  · intro b hb hs
    obtain ⟨t, hl, ht⟩ := h.healthy (by simp [pulse, Pulse.status, hb, hs])
    exact ⟨t, by simpa [pulse, Pulse.last, hb] using hl, ht⟩
  · intro b hb hs
    simpa [pulse, Pulse.last, hb] using h.unknown (by simp [pulse, Pulse.status, hb, hs])
  · intro b hb hs
    obtain ⟨t, hl⟩ := h.stale (by simp [pulse, Pulse.status, hb, hs])
    have hl' : b.lastSuccessfulCommunicationAt = some t := by simpa [pulse, Pulse.last, hb] using hl
    simp [hl']

theorem heartbeatStep_of_step {op : TelemetryOp} (ho : T.Open op) (h : T.step op = some T') (d : DeviceId) :
    T.HeartbeatStep T' op d := by
  have hbeats := step_beats ho h d
  constructor
  · intro b b' t hb hb' hl
    obtain ⟨t', hl', hle⟩ := hbeats.last_mono (by simp [pulse, hb']) (t := t) (by simp [pulse, Pulse.last, hb, hl])
    exact ⟨t', by simpa [pulse, Pulse.last, hb'] using hl', hle⟩
  · intro b' hb' hs' hn
    obtain ⟨t, hc, hl, hlt⟩ := hbeats.healthy (by simp [pulse, Pulse.status, hb', hs']) (by
      intro hs
      obtain ⟨b, hb, hs⟩ := Option.map_eq_some_iff.mp hs
      exact hn b hb hs)
    refine ⟨t, hc, by simpa [pulse, Pulse.last, hb'] using hl, fun b previous hb hp => hlt previous ?_⟩
    simp [pulse, Pulse.last, hb, hp]
  · rintro d' now t rfl ht b b' hb hb' hne
    rcases heartbeatDeadline_heartbeats h ht d with he | ⟨rfl, b'', hb'', hl⟩
    · cases hb'.symm.trans (he.trans hb)
      exact absurd rfl hne
    · cases hb.symm.trans hb''
      exact ⟨rfl, hl⟩

theorem heartbeat_machine (h : Reaches Initial step Open T) (d : DeviceId) :
    T.HeartbeatSound d ∧ ∀ op T', T.Open op → T.step op = some T' → T.HeartbeatStep T' op d :=
  ⟨heartbeatSound_of_pulse (pulse_sound h d), fun _ _ ho hstep => heartbeatStep_of_step ho hstep d⟩

theorem heartbeat_machine_aged :
    ∃ T, (session.communicationSucceeded "grill" 1 .physical).communicationSucceeded "grill" 5 .physical = T ∧
      T.HeartbeatSound "grill" ∧ ∀ T', T.step (.heartbeatDeadline "grill" 90000005) = some T' →
        T.HeartbeatStep T' (.heartbeatDeadline "grill" 90000005) "grill" := by
  have h₀ : Reaches Initial step Open session := .init ⟨_, _, _, _, _, _, _, _, _, rfl⟩
  have h₁ : Reaches Initial step Open (session.communicationSucceeded "grill" 1 .physical) :=
    .step (a := .communicationSucceeded "grill" 1 .physical) h₀ (by rintro ⟨⟩) rfl
  have h₂ : Reaches Initial step Open
      ((session.communicationSucceeded "grill" 1 .physical).communicationSucceeded "grill" 5 .physical) :=
    .step (a := .communicationSucceeded "grill" 5 .physical) h₁ (by rintro ⟨⟩) rfl
  obtain ⟨hsound, hstep⟩ := heartbeat_machine h₂ "grill"
  exact ⟨_, rfl, hsound, fun T' => hstep _ T' (by rintro ⟨⟩)⟩

end TelemetryState

end PitbluCore
