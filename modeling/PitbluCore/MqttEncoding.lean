import PitbluCore.MqttTopics
import PitbluCore.ServiceRegistration
import PitbluCore.TelemetryFrames

namespace PitbluCore

open Library

def Datum.json (iso : Time → String) : Datum → Datum
  | .time t => .str (iso t)
  | v => v

def mqttJson (iso : Time → String) (e : TelemetryEvent) : Payload := (mqttPayload e).mapValues (Datum.json iso)

def jsonData (iso : Time → String) (e : TelemetryEvent) : EventData := e.data.map (fun x => (x.1, x.2.json iso))

def envelopeKeys : List String :=
  ["schemaVersion", "observedAt", "sequence", "source", "sessionId", "deviceId", "probe"]

def envelope (e : TelemetryEvent) : EventData :=
  [("schemaVersion", .int 1), ("observedAt", .time e.observedAt), ("sequence", .int e.sequence),
    ("source", .str e.source.value)] ++
  e.sessionId.elim [] (fun n => [("sessionId", .int n)]) ++
  e.deviceId.elim [] (fun d => [("deviceId", .str d)]) ++
  e.probe.elim [] (fun n => [("probe", .int n)])

def Separate (data : EventData) : Prop := (data.map Prod.fst).Nodup ∧ ∀ k ∈ data.map Prod.fst, k ∉ envelopeKeys

def Registrable (d : DeviceId) : Prop :=
  ∃ s id friendlyName auto suffix now s', HexPrefix suffix ∧
    Service.register s id friendlyName auto suffix now = .ok (s', d)

/-- The events that the publisher encodes. -/
structure Encodable (e : TelemetryEvent) : Prop where
  telemetry : e.type.isTelemetry
  issued : ∀ d, e.deviceId = some d → Registrable d
  service : e.type = .serviceAvailability → e.deviceId = none ∧ e.probe = none
  probed : e.type = .probeAvailability ∨ e.type = .probeTemperature → e.probe.isSome
  separate : Separate e.data

theorem Registrable.ne_empty {d : DeviceId} (h : Registrable d) : d ≠ "" := by
  obtain ⟨s, id, friendlyName, auto, suffix, now, s', -, h⟩ := h
  obtain ⟨c, -, rfl, -⟩ := Service.register_ok h
  exact registeredId_ne_empty

theorem Registrable.chars {d : DeviceId} (h : Registrable d) : ∀ c ∈ d.toList, idChar c := by
  obtain ⟨s, id, friendlyName, auto, suffix, now, s', hs, h⟩ := h
  obtain ⟨c, -, rfl, -⟩ := Service.register_ok h
  exact registeredId_chars hs

section Topic

variable {b : String} {e e' : TelemetryEvent} {t : String}

def TelemetryEvent.addressed (e : TelemetryEvent) : TelemetryEvent :=
  if e.type.topicPart.isSome then { e with probe := none } else e

theorem addressed_type : e.addressed.type = e.type := by
  unfold TelemetryEvent.addressed
  split <;> rfl

theorem addressed_deviceId : e.addressed.deviceId = e.deviceId := by
  unfold TelemetryEvent.addressed
  split <;> rfl

theorem addressed_probe : e.addressed.probe = if e.type.topicPart.isSome then none else e.probe := by
  unfold TelemetryEvent.addressed
  split <;> rfl

theorem topicFor_addressed : topicFor b e.addressed = topicFor b e := by
  unfold TelemetryEvent.addressed
  split
  · next h =>
    obtain ⟨part, hp⟩ := Option.isSome_iff_exists.mp h
    simp only [topicFor, hp]
  · rfl

theorem Encodable.wellFormed (h : Encodable e) (ht : topicFor b e = some t) : WellFormed e.addressed := by
  have hslash : ∀ d, e.deviceId = some d → '/' ∉ d.toList :=
    fun d hd hs => absurd ((h.issued d hd).chars '/' hs) (by decide)
  cases hty : e.type with
  | operation | configuration => simp [WellFormed, addressed_type, hty]
  | serviceAvailability =>
    simpa [WellFormed, addressed_type, addressed_deviceId, addressed_probe, hty,
      EventType.topicPart] using h.service hty
  | deviceAvailability | deviceConnection | thermometerHeartbeat | battery =>
    cases hd : e.deviceId with
    | none => simp [topicFor, hty, hd] at ht
    | some d =>
      simpa [WellFormed, addressed_type, addressed_deviceId, addressed_probe, hty, hd, EventType.topicPart] using
        hslash d hd
  | probeAvailability | probeTemperature =>
    cases hd : e.deviceId with
    | none => simp [topicFor, hty, hd] at ht
    | some d =>
      simpa [WellFormed, addressed_type, addressed_deviceId, addressed_probe, hty, hd, EventType.topicPart] using
        And.intro (hslash d hd) (h.probed (by simp [hty]))

theorem topicFor_agree (h : Encodable e) (h' : Encodable e') (ht : topicFor b e = some t)
    (ht' : topicFor b e' = some t) : e.type = e'.type ∧ e.deviceId = e'.deviceId ∧
      (e.type = .probeAvailability ∨ e.type = .probeTemperature → e.probe = e'.probe) := by
  have hkey : e.addressed.key = e'.addressed.key :=
    topicFor_key (b := b) (h.wellFormed ht) (h'.wellFormed ht') (by rw [addressed_type, h.telemetry])
      (by rw [addressed_type, h'.telemetry]) (by rw [topicFor_addressed, topicFor_addressed, ht, ht'])
  simp only [TelemetryEvent.key, Prod.mk.injEq, addressed_deviceId, addressed_type] at hkey
  obtain ⟨hd, hty, hn⟩ := hkey
  refine ⟨hty, hd, fun hp => ?_⟩
  have hnone : e.type.topicPart = none := by rcases hp with hp | hp <;> rw [hp] <;> rfl
  simpa [addressed_probe, ← hty, hnone] using hn

theorem topicPath_chars (h : ∀ d, e.deviceId = some d → ∀ c ∈ d.toList, idChar c) :
    ∀ l ∈ topicPath e.key, ∀ c ∈ l, idChar c := by
  have hword : ∀ w : String, w.toList.all idChar → ∀ c ∈ w.toList, idChar c := fun w hw => List.all_eq_true.mp hw
  have hd : ∀ c ∈ (e.deviceId.getD "").toList, idChar c := by
    cases hd : e.deviceId with
    | none => simp
    | some d => exact h d hd
  have hn : ∀ c ∈ (e.probe.getD 0).repr.toList, idChar c := by
    intro c hc
    rw [Nat.toList_repr] at hc
    have := Nat.isDigit_of_mem_toDigits (by omega) (by omega) hc
    simp_all [Char.isDigit, idChar, slugChar, Char.le_def]
  cases hty : e.type with
  | operation | configuration => simp [topicPath, TelemetryEvent.key, hty]
  | serviceAvailability =>
    simp only [topicPath, TelemetryEvent.key, hty, List.forall_mem_cons]
    refine ⟨?_, ?_, ?_, by simp⟩ <;> apply hword <;> decide
  | deviceAvailability | deviceConnection | thermometerHeartbeat | battery =>
    simp only [topicPath, TelemetryEvent.key, hty, List.forall_mem_cons]
    refine ⟨?_, ?_, hd, ?_, by simp⟩ <;> apply hword <;> decide
  | probeAvailability | probeTemperature =>
    simp only [topicPath, TelemetryEvent.key, hty, List.forall_mem_cons]
    refine ⟨?_, ?_, hd, ?_, hn, ?_, by simp⟩ <;> apply hword <;> decide

/-- The characters a topic may not hold: the wildcards and NUL. -/
def reservedChars : List Char := ['+', '#', Char.ofNat 0]

theorem mem_stripSlashes {c : Char} (h : c ∈ (stripSlashes b).toList) : c ∈ b.toList := by
  rw [stripSlashes, String.toList_ofList] at h
  have h := (List.dropWhile_suffix _).mem (List.mem_reverse.mp h)
  exact (List.dropWhile_suffix _).mem (List.mem_reverse.mp h)

theorem topicFor_reserved (h : Encodable e) (ht : topicFor b e = some t) (hb : ∀ c ∈ reservedChars, c ∉ b.toList) :
    ∀ c ∈ reservedChars, c ∉ t.toList := by
  intro c hc hmem
  obtain ⟨t', ht', hl⟩ := topicFor_eq (b := b) (h.wellFormed ht) (by rw [addressed_type, h.telemetry])
  obtain rfl : t' = t := Option.some.inj (ht'.symm.trans (topicFor_addressed.trans ht))
  rw [hl, List.mem_append, List.mem_cons] at hmem
  have hreserved : reservedChars.all (fun c => !idChar c && c ≠ '/') := by decide
  have hc' := List.all_eq_true.mp hreserved c hc
  simp only [Bool.and_eq_true, Bool.not_eq_true', decide_eq_true_eq] at hc'
  obtain ⟨hid, hslash⟩ := hc'
  rcases hmem with hmem | hmem | hmem
  · exact hb c hc (mem_stripSlashes hmem)
  · exact hslash hmem
  · rcases mem_intercalate hmem with hmem | ⟨l, hl, hmem⟩
    · exact hslash (List.mem_singleton.mp hmem)
    · have := topicPath_chars (fun d hd => (h.issued d (addressed_deviceId ▸ hd)).chars) l hl c hmem
      rw [hid] at this
      cases this

end Topic

section Payload

variable {iso : Time → String} {e e' : TelemetryEvent}

theorem envelope_keys : (envelope e).map Prod.fst =
    ["schemaVersion", "observedAt", "sequence", "source"] ++ e.sessionId.elim [] (fun _ => ["sessionId"]) ++
      e.deviceId.elim [] (fun _ => ["deviceId"]) ++ e.probe.elim [] (fun _ => ["probe"]) := by
  unfold envelope
  cases e.sessionId <;> cases e.deviceId <;> cases e.probe <;> rfl

theorem envelope_sublist : ((envelope e).map Prod.fst).Sublist envelopeKeys := by
  rw [envelope_keys]
  cases e.sessionId <;> cases e.deviceId <;> cases e.probe <;> simp only [Option.elim] <;> decide

theorem envelope_disjoint (h : Separate e.data) : ∀ k ∈ e.data.map Prod.fst, k ∉ (envelope e).map Prod.fst :=
  fun k hk hm => h.2 k hk (envelope_sublist.mem hm)

def header (e : TelemetryEvent) : Payload := mqttPayload { e with data := [] }

theorem header_entries : (header e).entries = envelope e := by
  obtain ⟨eventId, sessionId, type, observedAt, sequence, source, deviceId, probe, data⟩ := e
  cases sessionId <;> cases deviceId <;> cases probe <;> rfl

theorem mqttPayload_entries (h : Separate e.data) : (mqttPayload e).entries = envelope e ++ e.data := by
  have hu : mqttPayload e = (header e).update ⟨e.data, h.1⟩ := rfl
  rw [hu, Dict.entries_update_new, header_entries]
  rw [Dict.keys, header_entries]
  exact (envelope_sublist.nodup (by decide)).append h.1 (fun k hm hk => envelope_disjoint h k hk hm)

theorem mqttJson_data (h : Separate e.data) :
    (mqttJson iso e).entries.filter (fun x => x.1 ∉ envelopeKeys) = jsonData iso e := by
  have hmap : (mqttJson iso e).entries = (envelope e ++ e.data).map (fun x => (x.1, x.2.json iso)) := by
    rw [← mqttPayload_entries h]
    rfl
  rw [hmap, List.map_append, List.filter_append, List.filter_eq_nil_iff.mpr, List.filter_eq_self.mpr, List.nil_append]
  · rfl
  · intro x hx
    obtain ⟨y, hy, rfl⟩ := List.mem_map.mp hx
    exact decide_eq_true (h.2 y.1 (List.mem_map_of_mem hy))
  · intro x hx
    obtain ⟨y, hy, rfl⟩ := List.mem_map.mp hx
    simpa using envelope_sublist.mem (List.mem_map_of_mem hy)

theorem mqttJson_get? (h : Separate e.data) {k : String} (hk : k ∈ envelopeKeys) :
    (mqttJson iso e).get? k = ((envelope e).lookup k).map (Datum.json iso) := by
  have hnone : e.data.lookup k = none := by
    rw [List.lookup_eq_none_iff]
    intro x hx
    have hne : k ≠ x.1 := fun he => h.2 x.1 (List.mem_map_of_mem hx) (he ▸ hk)
    simpa using hne
  rw [mqttJson, Dict.get?_mapValues, Dict.get?, mqttPayload_entries h, List.lookup_append, hnone, Option.or_none]

theorem envelope_observedAt : (envelope e).lookup "observedAt" = some (.time e.observedAt) := rfl

theorem envelope_sequence : (envelope e).lookup "sequence" = some (.int e.sequence) := rfl

theorem envelope_source : (envelope e).lookup "source" = some (.str e.source.value) := rfl

theorem envelope_sessionId : (envelope e).lookup "sessionId" = e.sessionId.map (fun n => .int n) := by
  unfold envelope
  cases e.sessionId <;> cases e.deviceId <;> cases e.probe <;> rfl

theorem envelope_probe : (envelope e).lookup "probe" = e.probe.map (fun n => .int n) := by
  unfold envelope
  cases e.sessionId <;> cases e.deviceId <;> cases e.probe <;> rfl

theorem source_value_injective : Function.Injective TelemetrySource.value := by
  rintro (_ | _) (_ | _) h <;> first | rfl | exact absurd h (by decide)

theorem mqttJson_agree (hiso : Function.Injective iso) (h : Separate e.data) (h' : Separate e'.data)
    (heq : mqttJson iso e = mqttJson iso e') : e.observedAt = e'.observedAt ∧ e.sequence = e'.sequence ∧
      e.source = e'.source ∧ e.sessionId = e'.sessionId ∧ e.probe = e'.probe ∧ jsonData iso e = jsonData iso e' := by
  have hget : ∀ k ∈ envelopeKeys,
      ((envelope e).lookup k).map (Datum.json iso) = ((envelope e').lookup k).map (Datum.json iso) := by
    intro k hk
    rw [← mqttJson_get? h hk, heq, mqttJson_get? h' hk]
  have hint : Function.Injective (Datum.json iso ∘ fun n : ℕ => Datum.int n) := by
    intro n n' hn
    simp only [Function.comp_apply, Datum.json, Datum.int.injEq] at hn
    omega
  refine ⟨?_, ?_, ?_, ?_, ?_, ?_⟩
  · have := hget "observedAt" (by decide)
    rw [envelope_observedAt, envelope_observedAt] at this
    exact hiso (by simpa [Datum.json] using this)
  · have := hget "sequence" (by decide)
    rw [envelope_sequence, envelope_sequence] at this
    exact hint (Option.some.inj this)
  · have := hget "source" (by decide)
    rw [envelope_source, envelope_source] at this
    exact source_value_injective (by simpa [Datum.json] using this)
  · have := hget "sessionId" (by decide)
    rw [envelope_sessionId, envelope_sessionId, Option.map_map, Option.map_map] at this
    exact Option.map_injective hint this
  · have := hget "probe" (by decide)
    rw [envelope_probe, envelope_probe, Option.map_map, Option.map_map] at this
    exact Option.map_injective hint this
  · rw [← mqttJson_data h, ← mqttJson_data h', heq]

end Payload

namespace TelemetryState

variable {T T' : TelemetryState} {d : DeviceId} {ty : EventType} {n : Option ℕ} {seq : ℕ} {src : TelemetrySource}
  {t now : Time} {data : EventData} {h : HeartbeatState} {s : DeviceSnapshot}

def dataKeys : List (List String) :=
  [["available"], ["available", "reason"], ["available", "present"], ["available", "present", "reason"],
    ["available", "percentage"], ["available", "percentage", "reason"], ["state"], ["temperatureC"],
    ["status", "lastSuccessfulCommunicationAt", "fresh", "staleAfterSeconds"]]

def Shaped (T : TelemetryState) : Prop := ∀ e ∈ T.events.published, e.data.map Prod.fst ∈ dataKeys

theorem emit_shaped (hT : T.Shaped) (hd : data.map Prod.fst ∈ dataKeys) : (T.emit d ty n seq src t data).Shaped := by
  rintro e (_ | ⟨_, he⟩)
  · exact hd
  · exact hT e he

theorem shaped_of_beat (h : Beat T T') (hT : T.Shaped) : T'.Shaped := by
  induction h with
  | tables he =>
    unfold Shaped
    rw [he]
    exact hT
  | emit T d h => exact emit_shaped hT (by simp [heartbeatData, dataKeys])
  | trans _ _ ih ih' => exact ih' (ih hT)

theorem staleDevice_shaped {reason : String} (hT : T.Shaped) : (T.staleDevice now reason d s).Shaped := by
  unfold staleDevice
  refine foldl_keeps (I := Shaped) (fun T p _ hT => emit_shaped hT (by simp [dataKeys])) ?_
  exact emit_shaped (emit_shaped (T := T.setCurrent d _) hT (by simp [dataKeys])) (by simp [dataKeys])

theorem markStale_shaped {force : Option DeviceId} {reason : String} (hT : T.Shaped) :
    (T.markStale now force reason).Shaped := by
  unfold markStale
  refine foldl_keeps (I := Shaped) (fun T' e _ hT' => ?_) hT
  split
  · exact staleDevice_shaped hT'
  · exact hT'

theorem publishProbe_shaped {p : ProbeReading} (hT : T.Shaped) : (T.publishProbe d s p).Shaped := by
  have ha : (T.emit d .probeAvailability (some p.number) p.sequence s.source s.observedAt
    [("available", .bool p.available), ("present", .bool p.present)]).Shaped := emit_shaped hT (by simp [dataKeys])
  unfold publishProbe
  dsimp only
  split
  · split
    · exact emit_shaped ha (by simp [dataKeys])
    · exact ha
  · exact ha

theorem record_shaped (hT : T.Shaped) : (T.record d s now).Shaped := by
  unfold record
  split
  · exact markStale_shaped hT
  · have hstore : (T.store d s).Shaped := by
      unfold store
      split
      · rename_i t _
        have hc := shaped_of_beat (communicationSucceeded_beat T d s.source t) hT
        exact hc
      · exact hT
    refine foldl_keeps (I := Shaped) (fun T p _ hT => publishProbe_shaped hT) ?_
    unfold announce
    dsimp only
    split
    · exact emit_shaped (emit_shaped (emit_shaped hstore (by simp [dataKeys])) (by simp [dataKeys]))
        (by simp [dataKeys])
    · exact emit_shaped (emit_shaped hstore (by simp [dataKeys])) (by simp [dataKeys])

theorem connection_shaped {state : ConnectionState} (hT : T.Shaped) : (T.connection d state now).Shaped := by
  unfold connection
  split
  · exact hT
  · dsimp only
    split
    · exact emit_shaped (markStale_shaped (emit_shaped hT (by simp [dataKeys]))) (by simp [dataKeys])
    · exact emit_shaped hT (by simp [dataKeys])

theorem remove_shaped (hT : T.Shaped) : (T.remove d now).Shaped := by
  have hc : (T.connection d .disconnected now).Shaped := connection_shaped hT
  have hh := shaped_of_beat (heartbeatDisconnected_beat (T.connection d .disconnected now) d now) hc
  exact hh

theorem staleDeadline_shaped (hT : T.Shaped) (h : T.staleDeadline d now = some T') : T'.Shaped := by
  unfold staleDeadline at h
  split at h
  · dsimp only at h
    split at h <;> cases h
    · exact markStale_shaped (T := { T with staleTasks := _ }) hT
    · exact hT
  · cases h

theorem step_shaped {op : TelemetryOp} (hT : T.Shaped) (h : T.step op = some T') : T'.Shaped := by
  cases op with
  | staleDeadline d now => exact staleDeadline_shaped hT h
  | heartbeatDeadline d now => exact shaped_of_beat (heartbeatDeadline_beat h) hT
  | record d s now => cases h; exact record_shaped hT
  | markStale now force reason => cases h; exact markStale_shaped hT
  | connection d state now => cases h; exact connection_shaped hT
  | ensureHeartbeat d source => cases h; exact shaped_of_beat (ensureHeartbeat_beat T d source) hT
  | registerHeartbeat d source now => cases h; exact shaped_of_beat (registerHeartbeat_beat T d source now) hT
  | communicationSucceeded d t source => cases h; exact shaped_of_beat (communicationSucceeded_beat T d source t) hT
  | heartbeatDisconnected d now => cases h; exact shaped_of_beat (heartbeatDisconnected_beat T d now) hT
  | heartbeatExpected d now => cases h; exact shaped_of_beat (heartbeatExpected_beat T d now) hT
  | remove d now => cases h; exact remove_shaped hT
  | close => cases h; exact hT

theorem published_separate (hT : Reachable Initial step T) : ∀ e ∈ T.events.published, Separate e.data := by
  have hs : T.Shaped := by
    refine hT.invariant (I := Shaped) ?_ fun _ _ _ hs _ => step_shaped hs
    rintro T ⟨_, _, _, _, _, _, _, _, _, rfl⟩ e he
    cases he
  have hkeys : dataKeys.all (fun ks => decide ks.Nodup && ks.all (fun k => k ∉ envelopeKeys)) := by decide
  intro e he
  have := List.all_eq_true.mp hkeys _ (hs e he)
  simpa [Separate] using this

end TelemetryState

theorem mqtt_encoding_unambiguous (b : String) {iso : Time → String} (hiso : Function.Injective iso) :
    (∀ e e' t, Encodable e → Encodable e' → topicFor b e = some t → topicFor b e' = some t →
      e.type = e'.type ∧ e.deviceId = e'.deviceId ∧
      (e.type = .probeAvailability ∨ e.type = .probeTemperature → e.probe = e'.probe) ∧
      (mqttJson iso e = mqttJson iso e' → e.probe = e'.probe ∧ e.observedAt = e'.observedAt ∧
        e.sequence = e'.sequence ∧ e.source = e'.source ∧ e.sessionId = e'.sessionId ∧
        jsonData iso e = jsonData iso e')) ∧
    (∀ d, Registrable d → d ≠ "" ∧ ∀ c ∈ d.toList, ('a' ≤ c ∧ c ≤ 'z') ∨ ('0' ≤ c ∧ c ≤ '9') ∨ c = '-') ∧
    (∀ e t, Encodable e → topicFor b e = some t → (∀ c ∈ reservedChars, c ∉ b.toList) →
      ∀ c ∈ reservedChars, c ∉ t.toList) ∧
    ∀ T, Reachable TelemetryState.Initial TelemetryState.step T → ∀ e ∈ T.events.published, Separate e.data := by
  refine ⟨?_, ?_, ?_, fun T => TelemetryState.published_separate⟩
  · intro e e' t he he' ht ht'
    obtain ⟨hty, hd, hn⟩ := topicFor_agree he he' ht ht'
    refine ⟨hty, hd, hn, fun heq => ?_⟩
    obtain ⟨ho, hseq, hsrc, hsession, hprobe, hdata⟩ := mqttJson_agree hiso he.separate he'.separate heq
    exact ⟨hprobe, ho, hseq, hsrc, hsession, hdata⟩
  · intro d hd
    refine ⟨hd.ne_empty, fun c hc => ?_⟩
    have := hd.chars c hc
    simpa [idChar, slugChar, or_assoc] using this
  · exact fun e t he ht hb => topicFor_reserved he ht hb

def epochMarks (t : ℤ) : List Char := List.replicate t.toNat '>' ++ List.replicate (-t).toNat '<'

theorem epochMarks_injective : Function.Injective epochMarks := by
  intro t t' h
  have hafter := congrArg (List.count '>') h
  have hbefore := congrArg (List.count '<') h
  simp only [epochMarks, List.count_append, List.count_replicate, beq_self_eq_true, ↓reduceIte, Char.reduceBEq,
    Bool.false_eq_true, Nat.add_zero, Nat.zero_add] at hafter hbefore
  omega

def epochFormat (t : Time) : String := "1970-01-01T00:00:00+00:00" ++ String.ofList (epochMarks t)

theorem append_ofList_cancel {l l' : List Char} (s : String) (h : s ++ String.ofList l = s ++ String.ofList l') :
    l = l' := by
  have := congrArg String.toList h
  simpa using this

theorem epochFormat_injective : Function.Injective epochFormat :=
  fun _ _ h => epochMarks_injective (append_ofList_cancel _ h)

def availabilityEvent (sequence : ℕ) : TelemetryEvent :=
  ⟨0, some 1, .probeAvailability, 0, sequence, .physical, some "igrill-v202-a", some 1,
    [("available", .bool true), ("present", .bool true)]⟩

theorem hexPrefix_sample : HexPrefix "5f0c93aa" := by
  have hall : "5f0c93aa".toList.all (fun c => decide (('0' ≤ c ∧ c ≤ '9') ∨ ('a' ≤ c ∧ c ≤ 'f'))) = true := by decide
  exact ⟨by decide, fun c hc => of_decide_eq_true (List.all_eq_true.mp hall c hc)⟩

theorem registrable_found : Registrable "igrill-v202-a" := by
  have hrun : ((replay Service.step Service.firstSession [Service.go 0, Service.go 0, Service.go 0,
      .resume 0 Service.bothFound 0 0]).bind fun s => (s.register 0 none true "5f0c93aa" 0).toOption.map Prod.snd) =
      some "igrill-v202-a" := by decide +kernel
  obtain ⟨s, -, hs⟩ := Option.bind_eq_some_iff.mp hrun
  cases hok : s.register 0 none true "5f0c93aa" 0 with
  | error e => simp [hok, Except.toOption] at hs
  | ok r =>
    have hd : r.2 = "igrill-v202-a" := by simpa [hok, Except.toOption] using hs
    exact ⟨s, 0, none, true, "5f0c93aa", 0, r.1, hexPrefix_sample, by rw [hok, ← hd]⟩

theorem availabilityEvent_encodable {n : ℕ} : Encodable (availabilityEvent n) where
  telemetry := rfl
  issued := by
    rintro d ⟨⟩
    exact registrable_found
  service := by
    intro h
    cases h
  probed := fun _ => rfl
  separate := by
    constructor
    · show ["available", "present"].Nodup
      decide
    · show ∀ k ∈ ["available", "present"], k ∉ envelopeKeys
      decide

theorem mqtt_encoding_unambiguous_availability : ∃ t,
    topicFor "home" (availabilityEvent 1) = some t ∧ topicFor "home" (availabilityEvent 2) = some t ∧
    (∀ c ∈ reservedChars, c ∉ t.toList) ∧
    mqttJson epochFormat (availabilityEvent 1) ≠ mqttJson epochFormat (availabilityEvent 2) := by
  obtain ⟨hagree, -, hreserved, -⟩ := mqtt_encoding_unambiguous "home" epochFormat_injective
  have hhome : reservedChars.all (fun c => decide (c ∉ "home".toList)) = true := by decide
  have hbase : ∀ c ∈ reservedChars, c ∉ "home".toList := fun c hc => of_decide_eq_true (List.all_eq_true.mp hhome c hc)
  refine ⟨_, rfl, rfl, hreserved _ _ availabilityEvent_encodable rfl hbase, fun heq => ?_⟩
  obtain ⟨-, -, -, hall⟩ := hagree (availabilityEvent 1) (availabilityEvent 2) _ availabilityEvent_encodable
    availabilityEvent_encodable rfl rfl
  obtain ⟨-, -, hseq, -⟩ := hall heq
  exact absurd hseq (by decide)

end PitbluCore
