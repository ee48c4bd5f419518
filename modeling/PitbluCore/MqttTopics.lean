import PitbluCore.Mqtt

namespace PitbluCore

open Library

/-- The events the service publishes: those of a device name it by an id without slashes, only those of
a probe carry a probe number. -/
def WellFormed (e : TelemetryEvent) : Prop :=
  match e.type with
  | .operation | .configuration => True
  | .serviceAvailability => e.deviceId = none ∧ e.probe = none
  | .probeAvailability | .probeTemperature => (∃ d, e.deviceId = some d ∧ '/' ∉ d.toList) ∧ e.probe.isSome
  | .deviceAvailability | .deviceConnection | .thermometerHeartbeat | .battery =>
    (∃ d, e.deviceId = some d ∧ '/' ∉ d.toList) ∧ e.probe = none

def topicPath (key : EventKey) : List (List Char) :=
  let device := (key.1.getD "").toList
  match key.2.1 with
  | .serviceAvailability => ["v1".toList, "service".toList, "availability".toList]
  | .deviceAvailability => ["v1".toList, "devices".toList, device, "availability".toList]
  | .deviceConnection => ["v1".toList, "devices".toList, device, "connection".toList]
  | .thermometerHeartbeat => ["v1".toList, "devices".toList, device, "heartbeat".toList]
  | .battery => ["v1".toList, "devices".toList, device, "battery".toList]
  | .probeAvailability =>
    ["v1".toList, "devices".toList, device, "probes".toList, (key.2.2.getD 0).repr.toList, "availability".toList]
  | .probeTemperature =>
    ["v1".toList, "devices".toList, device, "probes".toList, (key.2.2.getD 0).repr.toList, "temperature".toList]
  | .operation | .configuration => []

theorem repr_no_slash (n : ℕ) : '/' ∉ n.repr.toList := by
  rw [Nat.toList_repr]
  intro h
  exact absurd (Nat.isDigit_of_mem_toDigits (by omega) (by omega) h) (by decide)

def pathKey : List (List Char) → EventKey
  | [_, _, d, leaf] =>
    let type := if leaf = "availability".toList then .deviceAvailability
      else if leaf = "connection".toList then .deviceConnection
      else if leaf = "heartbeat".toList then .thermometerHeartbeat else .battery
    (some (String.ofList d), type, none)
  | [_, _, d, _, n, leaf] =>
    (some (String.ofList d), if leaf = "availability".toList then .probeAvailability else .probeTemperature,
      some (Nat.ofDigitChars 10 n 0))
  | _ => (none, .serviceAvailability, none)

section Topic

variable {b : String} {e e' : TelemetryEvent}

theorem topicFor_eq (h : WellFormed e) (ht : e.type.isTelemetry) : ∃ t, topicFor b e = some t ∧
    t.toList = (stripSlashes b).toList ++ '/' :: ['/'].intercalate (topicPath e.key) := by
  cases hty : e.type with
  | operation | configuration =>
    rw [hty] at ht
    cases ht
  | serviceAvailability =>
    refine ⟨_, by simp [topicFor, hty]; rfl, ?_⟩
    simp [topicPath, TelemetryEvent.key, hty, List.intercalate]
  | deviceAvailability | deviceConnection | thermometerHeartbeat | battery =>
    simp only [WellFormed, hty] at h
    obtain ⟨⟨d, hd, -⟩, -⟩ := h
    refine ⟨_, by simp [topicFor, hty, hd, EventType.topicPart]; rfl, ?_⟩
    simp [topicPath, TelemetryEvent.key, hty, hd, List.intercalate]
  | probeAvailability | probeTemperature =>
    simp only [WellFormed, hty] at h
    obtain ⟨⟨d, hd, -⟩, hn⟩ := h
    obtain ⟨n, hn⟩ := Option.isSome_iff_exists.mp hn
    refine ⟨_, by simp [topicFor, hty, hd, hn, EventType.topicPart]; rfl, ?_⟩
    simp [topicPath, TelemetryEvent.key, hty, hd, hn, List.intercalate]

theorem topicPath_no_slash (h : WellFormed e) : ∀ l ∈ topicPath e.key, '/' ∉ l := by
  cases hty : e.type with
  | operation | configuration => simp [topicPath, TelemetryEvent.key, hty]
  | serviceAvailability =>
    simp only [topicPath, TelemetryEvent.key, hty]
    decide
  | deviceAvailability | deviceConnection | thermometerHeartbeat | battery =>
    simp only [WellFormed, hty] at h
    obtain ⟨⟨d, hd, hs⟩, -⟩ := h
    simp only [topicPath, TelemetryEvent.key, hty, hd, Option.getD_some, List.forall_mem_cons, hs,
      not_false_eq_true, true_and, List.not_mem_nil, IsEmpty.forall_iff, implies_true, and_true]
    decide
  | probeAvailability | probeTemperature =>
    simp only [WellFormed, hty] at h
    obtain ⟨⟨d, hd, hs⟩, -⟩ := h
    simp only [topicPath, TelemetryEvent.key, hty, hd, Option.getD_some, List.forall_mem_cons, hs, repr_no_slash,
      not_false_eq_true, true_and, List.not_mem_nil, IsEmpty.forall_iff, implies_true, and_true]
    decide

theorem pathKey_topicPath (h : WellFormed e) (ht : e.type.isTelemetry) : pathKey (topicPath e.key) = e.key := by
  cases hty : e.type with
  | operation | configuration =>
    rw [hty] at ht
    cases ht
  | serviceAvailability =>
    simp only [WellFormed, hty] at h
    simp [topicPath, TelemetryEvent.key, hty, h, pathKey]
  | deviceAvailability | deviceConnection | thermometerHeartbeat | battery =>
    simp only [WellFormed, hty] at h
    obtain ⟨⟨d, hd, -⟩, hn⟩ := h
    simp [topicPath, TelemetryEvent.key, hty, hd, hn, pathKey]
  | probeAvailability | probeTemperature =>
    simp only [WellFormed, hty] at h
    obtain ⟨⟨d, hd, -⟩, hn⟩ := h
    obtain ⟨n, hn⟩ := Option.isSome_iff_exists.mp hn
    have hdigits : Nat.ofDigitChars 10 (Nat.toDigits 10 n) 0 = n := Nat.ofDigitChars_toDigits (by omega) (by omega)
    simp [topicPath, TelemetryEvent.key, hty, hd, hn, pathKey, hdigits]

theorem topicPath_ne_nil (ht : e.type.isTelemetry) : topicPath e.key ≠ [] := by
  cases hty : e.type <;> simp_all [topicPath, TelemetryEvent.key, EventType.isTelemetry]

theorem topicFor_key (h : WellFormed e) (h' : WellFormed e') (ht : e.type.isTelemetry) (ht' : e'.type.isTelemetry)
    (heq : topicFor b e = topicFor b e') : e.key = e'.key := by
  obtain ⟨t, he, hl⟩ := topicFor_eq (b := b) h ht
  obtain ⟨t', he', hl'⟩ := topicFor_eq (b := b) h' ht'
  have htt : t = t' := Option.some.inj (he.symm.trans (heq.trans he'))
  have hcat := List.append_cancel_left (hl.symm.trans (htt ▸ hl'))
  have hpath := congrArg (List.splitOn '/') (List.cons_inj_right '/' |>.mp hcat)
  rw [List.splitOn_intercalate _ (topicPath_no_slash h) (topicPath_ne_nil ht),
    List.splitOn_intercalate _ (topicPath_no_slash h') (topicPath_ne_nil ht')] at hpath
  rw [← pathKey_topicPath h ht, hpath, pathKey_topicPath h' ht']

end Topic

end PitbluCore
