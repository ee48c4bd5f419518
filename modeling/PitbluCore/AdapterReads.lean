import Mathlib.Data.List.Forall2
import PitbluCore.Protocol

/-!
One call of `read_snapshot`: what each GATT read yields and what the clocks show
are inputs. The constructors of readings and snapshots check their arguments.
-/

namespace PitbluCore

def valueError (detail : String) : Failure := ⟨"ValueError", detail⟩

def ProbeReading.create (number : ℕ) (available present : Bool) (temperatureC : Option ℚ) (observedAt : Time)
    (sequence : ℕ) (source : TelemetrySource) (errorCode : Option String) : Except Failure ProbeReading :=
  if number_range : 1 ≤ number ∧ number ≤ 4 then
    if sequence_pos : 1 ≤ sequence then
      if temperature_present : temperatureC.isSome → available ∧ present then
        .ok { number, available, present, temperatureC, observedAt, sequence, source, errorCode, number_range,
              sequence_pos, temperature_present }
      else .error (valueError "a temperature requires an available, present probe")
    else .error (valueError "probe sequence must be positive")
  else .error (valueError "probe number must be between 1 and 4")

def DeviceSnapshot.create (model : String) (probes : List ProbeReading) (batteryPercent : Option ℕ)
    (batteryAvailable : Bool) (observedAt : Time) (sequence : ℕ) (source : TelemetrySource)
    (batteryObservedAt successfulCommunicationAt : Option Time) : Except Failure DeviceSnapshot :=
  if h : (1 ≤ probes.length ∧ probes.length ≤ 4) ∧ (probes.map ProbeReading.number).Nodup then
    if sequence_pos : 1 ≤ sequence then
      if battery_range : ∀ p ∈ batteryPercent, p ≤ 100 then
        if battery_available : batteryPercent.isSome → batteryAvailable then
          .ok { model, probes, batteryPercent, batteryAvailable, observedAt, sequence, source, batteryObservedAt,
                successfulCommunicationAt, probe_count := h.1, probe_numbers := h.2, sequence_pos, battery_range,
                battery_available }
        else .error (valueError "a battery value requires battery availability")
      else .error (valueError "battery percentage must be between 0 and 100")
    else .error (valueError "snapshot sequence must be positive")
  else .error (valueError "a snapshot requires one to four unique probes")

/-- How a GATT read ends: a time-out is any `TimeoutError`, of the deadline or of the read. -/
inductive GattRead
  | returned (payload : List UInt8)
  | timedOut
  | raised (e : Failure)

def bounded (operation : String) : GattRead → Except Failure (List UInt8)
  | .returned payload => .ok payload
  | .timedOut => .error ⟨"AdapterError", operation ++ " timed out"⟩
  | .raised e => .error e

theorem bounded_bind_ok {α : Type} {operation : String} {o : GattRead} {f : List UInt8 → Except Failure α} {x : α} :
    (bounded operation o).bind f = .ok x ↔ ∃ payload, o = .returned payload ∧ f payload = .ok x := by
  cases o with
  | returned payload => simp [bounded, Except.bind]
  | timedOut | raised e => simp [bounded, Except.bind]

/-- What one call meets: the outcome of each read, and the readings of the clocks in the order they are taken. -/
structure Readings where
  gatt : Characteristic → GattRead
  observedAt : Time
  clock : ℚ
  decodedAt : Characteristic → Time
  batteryObservedAt : Time
  batteryClock : ℚ

structure V202Adapter where
  client : Option Bool
  sequence : ℕ
  batteryInterval : ℚ
  batteryDue : ℚ
  batteryPercent : Option ℕ
  batteryObservedAt : Option Time
  batteryInterval_pos : 0 < batteryInterval
  battery_range : ∀ p ∈ batteryPercent, p ≤ 100

structure ReadProgress where
  probes : List ProbeReading
  successfulCommunicationAt : Option Time
  requested : List Characteristic

namespace V202Adapter

variable (a : V202Adapter) (r : Readings)

def isConnected : Bool := a.client.getD false

def connected (now : ℚ) : V202Adapter :=
  { a with client := some true, batteryDue := now, batteryPercent := none, batteryObservedAt := none
           battery_range := by rintro _ ⟨⟩ }

def batteryReadDue : Bool := a.batteryPercent.isNone || decide (a.batteryDue ≤ r.clock)

def readBattery : V202Adapter × ReadProgress :=
  if a.batteryReadDue r then
    match h : (bounded "battery read" (r.gatt batteryLevelUuid)).bind decodeBatteryPercent with
    | .ok percent =>
      ({ a with batteryPercent := some percent, batteryObservedAt := some r.batteryObservedAt
                batteryDue := r.batteryClock + a.batteryInterval
                battery_range := by
                  rintro p ⟨⟩
                  obtain ⟨payload, -, hp⟩ := bounded_bind_ok.mp h
                  obtain ⟨b, -, -, hle⟩ := decodeBatteryPercent_ok.mp hp
                  exact hle },
        ⟨[], some (r.decodedAt batteryLevelUuid), [batteryLevelUuid]⟩)
    | .error _ =>
      ({ a with batteryPercent := none, batteryObservedAt := some r.batteryObservedAt
                batteryDue := r.batteryClock + a.batteryInterval
                battery_range := by rintro _ ⟨⟩ },
        ⟨[], none, [batteryLevelUuid]⟩)
  else (a, ⟨[], none, []⟩)

def readProbe (progress : ReadProgress) (x : Characteristic × ℕ) : Except Failure ReadProgress :=
  let requested := progress.requested ++ [x.1]
  match (bounded ("probe " ++ x.2.repr ++ " read") (r.gatt x.1)).bind decodeProbeTemperatureC with
  | .error e => do
    let p ← ProbeReading.create x.2 false false none r.observedAt a.sequence .physical (some e.type)
    return ⟨progress.probes ++ [p], progress.successfulCommunicationAt, requested⟩
  | .ok temperature => do
    let p ← ProbeReading.create x.2 true temperature.isSome temperature r.observedAt a.sequence .physical none
    return ⟨progress.probes ++ [p], some (r.decodedAt x.1), requested⟩

def readSnapshot : V202Adapter × Except Failure (DeviceSnapshot × List Characteristic) :=
  if !a.isConnected then (a, .error ⟨"AdapterDisconnectedError", "V202 is not connected"⟩)
  else
    let (a, progress) := { a with sequence := a.sequence + 1 }.readBattery r
    (a, do
      let progress ← (probeTemperatureUuids.zipIdx 1).foldlM (a.readProbe r) progress
      let snapshot ← DeviceSnapshot.create "igrill-v202" progress.probes a.batteryPercent a.batteryPercent.isSome
        r.observedAt a.sequence .physical a.batteryObservedAt progress.successfulCommunicationAt
      return (snapshot, progress.requested))

end V202Adapter

section Probes

variable {a : V202Adapter} {r : Readings} {o : GattRead} {n sequence : ℕ} {t : Time} {p : ProbeReading}

def probeResult (sequence : ℕ) (observedAt : Time) (number : ℕ) (o : GattRead) : Except Failure ProbeReading :=
  match (bounded ("probe " ++ number.repr ++ " read") o).bind decodeProbeTemperatureC with
  | .error e => ProbeReading.create number false false none observedAt sequence .physical (some e.type)
  | .ok temperature =>
    ProbeReading.create number true temperature.isSome temperature observedAt sequence .physical none

def RawValue (o : GattRead) (raw : ℕ) : Prop :=
  ∃ b₀ b₁ rest, o = .returned (b₀ :: b₁ :: rest) ∧ b₀.toNat + 256 * b₁.toNat = raw

structure ProbeRead (o : GattRead) (p : ProbeReading) : Prop where
  available : p.available ↔ ∃ payload, o = .returned payload ∧ 2 ≤ payload.length
  present : p.present ↔ ∃ raw, RawValue o raw ∧ raw ≠ 63536
  temperature : ∀ c, p.temperatureC = some c ↔ ∃ raw : ℕ, RawValue o raw ∧ raw ≠ 63536 ∧ c = raw

theorem probeReading_create (hn : 1 ≤ n ∧ n ≤ 4) (hs : 1 ≤ sequence) (available present : Bool)
    (temperatureC : Option ℚ) (errorCode : Option String) (ht : temperatureC.isSome → available ∧ present) :
    ∃ p, ProbeReading.create n available present temperatureC t sequence .physical errorCode = .ok p ∧ p.number = n ∧
      p.available = available ∧ p.present = present ∧ p.temperatureC = temperatureC := by
  rw [ProbeReading.create, dif_pos hn, dif_pos hs, dif_pos ht]
  exact ⟨_, rfl, rfl, rfl, rfl, rfl⟩

theorem rawValue_pair {b₀ b₁ : UInt8} {rest : List UInt8} {raw : ℕ} :
    RawValue (.returned (b₀ :: b₁ :: rest)) raw ↔ b₀.toNat + 256 * b₁.toNat = raw := by
  constructor
  · rintro ⟨_, _, _, ⟨⟩, h⟩
    exact h
  · exact fun h => ⟨b₀, b₁, rest, rfl, h⟩

theorem RawValue.length {raw : ℕ} (h : RawValue o raw) : ∃ payload, o = .returned payload ∧ 2 ≤ payload.length := by
  obtain ⟨b₀, b₁, rest, ho, -⟩ := h
  exact ⟨_, ho, by simp⟩

theorem exists_pair {payload : List UInt8} (h : 2 ≤ payload.length) : ∃ b₀ b₁ rest, payload = b₀ :: b₁ :: rest := by
  match payload, h with
  | b₀ :: b₁ :: rest, _ => exact ⟨b₀, b₁, rest, rfl⟩

theorem not_readable {operation : String} {e : Failure}
    (h : (bounded operation o).bind decodeProbeTemperatureC = .error e) :
    ¬∃ payload, o = .returned payload ∧ 2 ≤ payload.length := by
  rintro ⟨payload, rfl, hl⟩
  obtain ⟨b₀, b₁, rest, rfl⟩ := exists_pair hl
  simp [bounded, Except.bind, decodeProbeTemperatureC_pair] at h

theorem probeResult_read (hn : 1 ≤ n ∧ n ≤ 4) (hs : 1 ≤ sequence) :
    ∃ p, probeResult sequence t n o = .ok p ∧ p.number = n ∧ ProbeRead o p := by
  unfold probeResult
  cases hd : (bounded ("probe " ++ n.repr ++ " read") o).bind decodeProbeTemperatureC with
  | error e =>
    have hno := not_readable hd
    obtain ⟨p, hp, hnum, ha, hpres, htemp⟩ := probeReading_create (t := t) hn hs false false none (some e.type)
      (by simp)
    refine ⟨p, hp, hnum, ?_, ?_, ?_⟩
    · simpa [ha] using hno
    · simp only [hpres, Bool.false_eq_true, false_iff]
      rintro ⟨raw, hraw, -⟩
      exact hno hraw.length
    · intro c
      simp only [htemp, reduceCtorEq, false_iff]
      rintro ⟨raw, hraw, -⟩
      exact hno hraw.length
  | ok temperature =>
    obtain ⟨payload, rfl, hok⟩ := bounded_bind_ok.mp hd
    obtain ⟨b₀, b₁, rest, rfl⟩ := exists_pair (decodeProbeTemperatureC_ok hok)
    rw [decodeProbeTemperatureC_pair] at hok
    obtain rfl := Except.ok.inj hok
    obtain ⟨p, hp, hnum, ha, hpres, htemp⟩ := probeReading_create (t := t) hn hs true _ _ none
      (fun h => ⟨rfl, h⟩)
    refine ⟨p, hp, hnum, ?_, ?_, ?_⟩
    · simp [ha]
    · simp [hpres, rawValue_pair]
    · intro c
      simp [htemp, rawValue_pair, eq_comm]

theorem readProbe_eq {progress : ReadProgress} {u : Characteristic}
    (h : probeResult a.sequence r.observedAt n (r.gatt u) = .ok p)
    (hp : ProbeRead (r.gatt u) p) : a.readProbe r progress (u, n) =
      .ok ⟨progress.probes ++ [p], if p.available then some (r.decodedAt u) else progress.successfulCommunicationAt,
        progress.requested ++ [u]⟩ := by
  unfold probeResult at h
  unfold V202Adapter.readProbe
  cases hd : (bounded ("probe " ++ n.repr ++ " read") (r.gatt u)).bind decodeProbeTemperatureC with
  | error e =>
    have ha : p.available = false := by
      rw [← Bool.not_eq_true, hp.available]
      exact not_readable hd
    simp only [hd] at h
    simp [h, ha, Bind.bind, Except.bind, Pure.pure, Except.pure]
  | ok temperature =>
    have ha : p.available = true := by
      obtain ⟨payload, ho, hok⟩ := bounded_bind_ok.mp hd
      exact hp.available.mpr ⟨payload, ho, decodeProbeTemperatureC_ok hok⟩
    simp only [hd] at h
    simp [h, ha, Bind.bind, Except.bind, Pure.pure, Except.pure]

def Made (a : V202Adapter) (r : Readings) (x : Characteristic × ℕ) (p : ProbeReading) : Prop :=
  probeResult a.sequence r.observedAt x.2 (r.gatt x.1) = .ok p ∧ p.number = x.2 ∧ ProbeRead (r.gatt x.1) p

theorem readProbes_eq {l : List (Characteristic × ℕ)} (hl : ∀ x ∈ l, 1 ≤ x.2 ∧ x.2 ≤ 4) (hs : 1 ≤ a.sequence)
    (progress : ReadProgress) : ∃ ps t,
      l.foldlM (a.readProbe r) progress = .ok ⟨progress.probes ++ ps, t, progress.requested ++ l.map Prod.fst⟩ ∧
      List.Forall₂ (Made a r) l ps ∧
      (t.isSome ↔ progress.successfulCommunicationAt.isSome ∨
        ∃ x ∈ l, ∃ payload, r.gatt x.1 = .returned payload ∧ 2 ≤ payload.length) := by
  induction l generalizing progress with
  | nil => exact ⟨[], progress.successfulCommunicationAt, by simp [Pure.pure, Except.pure], .nil, by simp⟩
  | cons x l ih =>
    obtain ⟨u, n⟩ := x
    obtain ⟨p, hp, hnum, hread⟩ := probeResult_read (t := r.observedAt) (o := r.gatt u) (hl (u, n) (by simp)) hs
    obtain ⟨ps, t, hfold, hall, ht⟩ := ih (fun x hx => hl x (by simp [hx])) ⟨progress.probes ++ [p],
      if p.available then some (r.decodedAt u) else progress.successfulCommunicationAt, progress.requested ++ [u]⟩
    refine ⟨p :: ps, t, ?_, .cons ⟨hp, hnum, hread⟩ hall, ?_⟩
    · simpa [readProbe_eq hp hread, Bind.bind, Except.bind] using hfold
    · rw [ht, List.exists_mem_cons_iff, ← hread.available]
      cases p.available <;> simp

theorem Made.numbers {l : List (Characteristic × ℕ)} {ps : List ProbeReading} (h : List.Forall₂ (Made a r) l ps) :
    ps.map ProbeReading.number = l.map Prod.snd := by
  induction h with
  | nil => rfl
  | cons hx _ ih => rw [List.map_cons, List.map_cons, hx.2.1, ih]

end Probes

section Snapshot

variable {a : V202Adapter} {r : Readings}

def Readings.Decoded (r : Readings) (c : Characteristic) : Prop :=
  ∃ payload, r.gatt c = .returned payload ∧
    if c = batteryLevelUuid then ∃ b, payload = [b] ∧ b.toNat ≤ 100 else 2 ≤ payload.length

def V202Adapter.BatteryExpired (a : V202Adapter) (r : Readings) : Prop :=
  a.batteryPercent = none ∨ a.batteryDue ≤ r.clock

instance : Decidable (a.BatteryExpired r) := inferInstanceAs (Decidable (_ ∨ _))

/-- What a call makes of its reads, each on its own. -/
structure Isolated (a : V202Adapter) (r : Readings) (s : DeviceSnapshot) (cs : List Characteristic) : Prop where
  numbers : s.probes.map ProbeReading.number = [1, 2, 3, 4]
  probe : ∀ (i : ℕ) u, probeTemperatureUuids[i]? = some u → ∃ p, s.probes[i]? = some p ∧ ProbeRead (r.gatt u) p
  alone : ∀ (a' : V202Adapter) r' s' cs', (a'.readSnapshot r').2 = .ok (s', cs') →
    a'.sequence = a.sequence → r'.observedAt = r.observedAt →
    ∀ (i : ℕ) u, probeTemperatureUuids[i]? = some u → r'.gatt u = r.gatt u → s'.probes[i]? = s.probes[i]?
  requested : cs = (if a.BatteryExpired r then [batteryLevelUuid] else []) ++ probeTemperatureUuids
  batteryRead : a.BatteryExpired r →
    (∀ p, s.batteryPercent = some p ↔ ∃ b, r.gatt batteryLevelUuid = .returned [b] ∧ b.toNat = p ∧ p ≤ 100) ∧
    s.batteryAvailable = s.batteryPercent.isSome ∧ s.batteryObservedAt = some r.batteryObservedAt
  batteryCached : ¬a.BatteryExpired r →
    s.batteryPercent = a.batteryPercent ∧ s.batteryAvailable ∧ s.batteryObservedAt = a.batteryObservedAt
  successful : s.successfulCommunicationAt.isSome ↔ ∃ c ∈ cs, r.Decoded c

structure BatteryRead (a : V202Adapter) (r : Readings) (b : V202Adapter) (progress : ReadProgress) : Prop where
  sequence : b.sequence = a.sequence
  probes : progress.probes = []
  requested : progress.requested = if a.BatteryExpired r then [batteryLevelUuid] else []
  read : a.BatteryExpired r →
    (∀ p, b.batteryPercent = some p ↔ ∃ v, r.gatt batteryLevelUuid = .returned [v] ∧ v.toNat = p ∧ p ≤ 100) ∧
    b.batteryObservedAt = some r.batteryObservedAt
  cached : ¬a.BatteryExpired r → b.batteryPercent = a.batteryPercent ∧ b.batteryPercent.isSome ∧
    b.batteryObservedAt = a.batteryObservedAt
  successful : progress.successfulCommunicationAt.isSome ↔ a.BatteryExpired r ∧ r.Decoded batteryLevelUuid

theorem batteryReadDue_iff : a.batteryReadDue r ↔ a.BatteryExpired r := by
  simp [V202Adapter.batteryReadDue, V202Adapter.BatteryExpired]

theorem decoded_battery : r.Decoded batteryLevelUuid ↔
    ∃ b, r.gatt batteryLevelUuid = .returned [b] ∧ b.toNat ≤ 100 := by
  simp only [Readings.Decoded, ↓reduceIte]
  constructor
  · rintro ⟨_, hr, b, rfl, hb⟩
    exact ⟨b, hr, hb⟩
  · rintro ⟨b, hr, hb⟩
    exact ⟨_, hr, b, rfl, hb⟩

theorem decode_battery {p : ℕ} : (bounded "battery read" (r.gatt batteryLevelUuid)).bind decodeBatteryPercent = .ok p ↔
    ∃ b, r.gatt batteryLevelUuid = .returned [b] ∧ b.toNat = p ∧ p ≤ 100 := by
  rw [bounded_bind_ok]
  simp only [decodeBatteryPercent_ok]
  constructor
  · rintro ⟨_, hr, b, rfl, hb⟩
    exact ⟨b, hr, hb⟩
  · rintro ⟨b, hr, hb⟩
    exact ⟨_, hr, b, rfl, hb⟩

theorem readBattery_read : BatteryRead a r (a.readBattery r).1 (a.readBattery r).2 := by
  unfold V202Adapter.readBattery
  split
  · next hdue =>
    have hx : a.BatteryExpired r := batteryReadDue_iff.mp hdue
    split
    · next percent hd =>
      obtain ⟨b, hb, hp, hle⟩ := decode_battery.mp hd
      refine ⟨rfl, rfl, by rw [if_pos hx], fun _ => ⟨fun p => ?_, rfl⟩, fun hn => absurd hx hn, ?_⟩
      · have hiff := decode_battery (r := r) (p := p)
        rw [hd, Except.ok.injEq] at hiff
        simpa using hiff
      · simp only [Option.isSome_some, true_iff]
        exact ⟨hx, decoded_battery.mpr ⟨b, hb, hp ▸ hle⟩⟩
    · next e hd =>
      refine ⟨rfl, rfl, by rw [if_pos hx], fun _ => ⟨fun p => ?_, rfl⟩, fun hn => absurd hx hn, ?_⟩
      · have hiff := decode_battery (r := r) (p := p)
        rw [hd] at hiff
        simpa using hiff
      · simp only [Option.isSome_none, Bool.false_eq_true, false_iff, not_and]
        intro _ hdec
        obtain ⟨b, hb, hle⟩ := decoded_battery.mp hdec
        rw [decode_battery.mpr ⟨b, hb, rfl, hle⟩] at hd
        cases hd
  · next hdue =>
    have hx : ¬a.BatteryExpired r := fun h => hdue (batteryReadDue_iff.mpr h)
    refine ⟨rfl, rfl, by rw [if_neg hx], fun h => absurd h hx, fun _ => ⟨rfl, ?_, rfl⟩, by simp [hx]⟩
    exact Option.isSome_iff_ne_none.mpr fun h => hx (.inl h)

theorem snapshot_create (progress : ReadProgress) (hnum : progress.probes.map ProbeReading.number = [1, 2, 3, 4])
    (hs : 1 ≤ a.sequence) : ∃ s, DeviceSnapshot.create "igrill-v202" progress.probes a.batteryPercent
      a.batteryPercent.isSome r.observedAt a.sequence .physical a.batteryObservedAt
      progress.successfulCommunicationAt = .ok s ∧ s.probes = progress.probes ∧ s.batteryPercent = a.batteryPercent ∧
      s.batteryAvailable = a.batteryPercent.isSome ∧ s.batteryObservedAt = a.batteryObservedAt ∧
      s.successfulCommunicationAt = progress.successfulCommunicationAt := by
  have hlen : progress.probes.length = 4 := by
    have := congrArg List.length hnum
    simpa using this
  rw [DeviceSnapshot.create, dif_pos ⟨by omega, by rw [hnum]; decide⟩, dif_pos hs, dif_pos a.battery_range,
    dif_pos id]
  exact ⟨_, rfl, rfl, rfl, rfl, rfl, rfl⟩

theorem decoded_probe {u : Characteristic} (h : u ∈ probeTemperatureUuids) :
    r.Decoded u ↔ ∃ payload, r.gatt u = .returned payload ∧ 2 ≤ payload.length := by
  have hne : u ≠ batteryLevelUuid := by
    rintro rfl
    exact absurd h (by decide)
  simp only [Readings.Decoded, hne, ↓reduceIte]

theorem probe_numbers_range : ∀ x ∈ probeTemperatureUuids.zipIdx 1, 1 ≤ x.2 ∧ x.2 ≤ 4 := by decide

theorem readSnapshot_eq (h : a.isConnected) : ∃ b progress ps t s,
    BatteryRead { a with sequence := a.sequence + 1 } r b progress ∧
    List.Forall₂ (Made b r) (probeTemperatureUuids.zipIdx 1) ps ∧
    (t.isSome ↔ progress.successfulCommunicationAt.isSome ∨ ∃ u ∈ probeTemperatureUuids, r.Decoded u) ∧
    s.probes = ps ∧ s.batteryPercent = b.batteryPercent ∧ s.batteryAvailable = b.batteryPercent.isSome ∧
    s.batteryObservedAt = b.batteryObservedAt ∧ s.successfulCommunicationAt = t ∧
    a.readSnapshot r = (b, .ok (s, progress.requested ++ probeTemperatureUuids)) := by
  have hb := readBattery_read (a := { a with sequence := a.sequence + 1 }) (r := r)
  generalize hbe : V202Adapter.readBattery { a with sequence := a.sequence + 1 } r = br at hb
  obtain ⟨b, progress⟩ := br
  have hs : 1 ≤ b.sequence := by
    rw [hb.sequence]
    exact Nat.le_add_left 1 a.sequence
  obtain ⟨ps, t, hfold, hall, ht⟩ := readProbes_eq probe_numbers_range hs progress (r := r)
  rw [hb.probes, List.nil_append, List.zipIdx_map_fst] at hfold
  obtain ⟨s, hcreate, hprobes, hpercent, havailable, hobserved, hsuccess⟩ := snapshot_create (r := r) (a := b)
    ⟨ps, t, progress.requested ++ probeTemperatureUuids⟩ (Made.numbers hall) hs
  refine ⟨b, progress, ps, t, s, hb, hall, ?_, hprobes, hpercent, havailable, hobserved, hsuccess, ?_⟩
  · rw [ht]
    refine or_congr_right ?_
    constructor
    · rintro ⟨x, hx, hpayload⟩
      have hu : x.1 ∈ probeTemperatureUuids := List.fst_mem_of_mem_zipIdx hx
      exact ⟨x.1, hu, (decoded_probe hu).mpr hpayload⟩
    · rintro ⟨u, hu, hdec⟩
      obtain ⟨i, hi, rfl⟩ := List.getElem_of_mem hu
      exact ⟨(_, 1 + i), List.mk_add_mem_zipIdx_iff_getElem?.mpr (by simp [hi]), (decoded_probe hu).mp hdec⟩
  · unfold V202Adapter.readSnapshot
    rw [h]
    simp only [Bool.not_true, Bool.false_eq_true, ↓reduceIte, hbe, hfold, Bind.bind, Except.bind, hcreate, Pure.pure,
      Except.pure]

theorem made_at {b : V202Adapter} {ps : List ProbeReading}
    (h : List.Forall₂ (Made b r) (probeTemperatureUuids.zipIdx 1) ps)
    {i : ℕ} {u : Characteristic} (hi : probeTemperatureUuids[i]? = some u) :
    ∃ p, ps[i]? = some p ∧ Made b r (u, i + 1) p := by
  obtain ⟨hlt, rfl⟩ := List.getElem?_eq_some_iff.mp hi
  have hx : i < (probeTemperatureUuids.zipIdx 1).length := by simpa using hlt
  have hy : i < ps.length := h.length_eq ▸ hx
  have hmade := h.get hx hy
  rw [List.get_eq_getElem, List.get_eq_getElem, List.getElem_zipIdx, Nat.add_comm] at hmade
  exact ⟨ps[i], List.getElem?_eq_getElem hy, hmade⟩

theorem isConnected_of_ok {s : DeviceSnapshot} {cs : List Characteristic} (h : (a.readSnapshot r).2 = .ok (s, cs)) :
    a.isConnected := by
  by_contra hn
  rw [V202Adapter.readSnapshot, Bool.not_eq_true _ |>.mp hn] at h
  cases h

theorem read_snapshot_isolated (h : a.isConnected) :
    ∃ s cs, (a.readSnapshot r).2 = .ok (s, cs) ∧ Isolated a r s cs := by
  obtain ⟨b, progress, ps, t, s, hb, hall, ht, rfl, hpercent, havailable, hobserved, rfl, he⟩ :=
    readSnapshot_eq (r := r) h
  refine ⟨s, _, by rw [he], ?_⟩
  constructor
  · exact Made.numbers hall
  · intro i u hi
    obtain ⟨p, hp, -, -, hread⟩ := made_at hall hi
    exact ⟨p, hp, hread⟩
  · intro a' r' s' cs' hs' hseq hobs i u hi hu
    obtain ⟨b', progress', ps', t', s₁, hb', hall', -, rfl, -, -, -, -, he'⟩ := readSnapshot_eq (isConnected_of_ok hs')
    obtain rfl : s₁ = s' := by
      rw [he'] at hs'
      exact (Prod.mk.inj (Except.ok.inj hs')).1
    obtain ⟨p, hp, hmade, -⟩ := made_at hall hi
    obtain ⟨p', hp', hmade', -⟩ := made_at hall' hi
    rw [hb'.sequence, hobs, hu, hseq] at hmade'
    rw [hb.sequence] at hmade
    rw [hp, hp', Except.ok.inj (hmade'.symm.trans hmade)]
  · rw [hb.requested]
    rfl
  · intro hx
    obtain ⟨hp, ho⟩ := hb.read hx
    exact ⟨fun p => by rw [hpercent, hp], by rw [havailable, hpercent], by rw [hobserved, ho]⟩
  · intro hx
    obtain ⟨hp, hsome, ho⟩ := hb.cached hx
    exact ⟨hpercent.trans hp, by rw [havailable, hsome], hobserved.trans ho⟩
  · have hx : V202Adapter.BatteryExpired { a with sequence := a.sequence + 1 } r ↔ a.BatteryExpired r := Iff.rfl
    simp only [ht, hb.successful, hb.requested, hx, List.mem_append]
    by_cases hd : a.BatteryExpired r <;> simp [hd, or_and_right, exists_or]

def justConnected : V202Adapter :=
  V202Adapter.connected ⟨none, 0, 300, 0, none, none, by decide, by rintro _ ⟨⟩⟩ 0

def mixedReadings : Readings where
  gatt c :=
    if c = batteryLevelUuid then .returned [85]
    else if c = "06ef0002-2e06-4b79-9e33-fce2c42805ec" then .returned [60, 0, 7]
    else if c = "06ef0004-2e06-4b79-9e33-fce2c42805ec" then .returned [0x30, 0xF8]
    else if c = "06ef0006-2e06-4b79-9e33-fce2c42805ec" then .returned [60]
    else .timedOut
  observedAt := 0
  clock := 0
  decodedAt _ := 1
  batteryObservedAt := 2
  batteryClock := 0

theorem read_snapshot_isolated_mixed :
    ∃ s cs, (justConnected.readSnapshot mixedReadings).2 = .ok (s, cs) ∧ Isolated justConnected mixedReadings s cs :=
  read_snapshot_isolated rfl

end Snapshot

end PitbluCore
