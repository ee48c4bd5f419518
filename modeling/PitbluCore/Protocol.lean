import PitbluCore.Adapter

namespace PitbluCore

abbrev Characteristic := String

def probeTemperatureUuids : List Characteristic :=
  ["06ef0002-2e06-4b79-9e33-fce2c42805ec",
   "06ef0004-2e06-4b79-9e33-fce2c42805ec",
   "06ef0006-2e06-4b79-9e33-fce2c42805ec",
   "06ef0008-2e06-4b79-9e33-fce2c42805ec"]

def batteryLevelUuid : Characteristic := "00002a19-0000-1000-8000-00805f9b34fb"

def unpluggedProbe : ℕ := 63536

def protocolError (detail : String) : Failure := ⟨"ProtocolError", detail⟩

def fromBytes : List UInt8 → ℕ
  | [] => 0
  | b :: bs => b.toNat + 256 * fromBytes bs

/-- `float` of a 16-bit integer is exact. -/
def decodeProbeTemperatureC (payload : List UInt8) : Except Failure (Option ℚ) :=
  if payload.length < 2 then .error (protocolError "probe payload must contain at least two bytes")
  else
    let raw := fromBytes (payload.take 2)
    if raw = unpluggedProbe then .ok none else .ok (some raw)

def decodeBatteryPercent (payload : List UInt8) : Except Failure ℕ :=
  match payload with
  | [value] =>
    if value.toNat > 100 then .error (protocolError "battery percentage is outside 0 to 100") else .ok value.toNat
  | _ => .error (protocolError "battery payload must contain exactly one byte")

theorem decodeProbeTemperatureC_pair {b₀ b₁ : UInt8} {rest : List UInt8} :
    decodeProbeTemperatureC (b₀ :: b₁ :: rest) =
      .ok (if b₀.toNat + 256 * b₁.toNat = 63536 then none else some ((b₀.toNat + 256 * b₁.toNat : ℕ) : ℚ)) := by
  have hraw : fromBytes ((b₀ :: b₁ :: rest).take 2) = b₀.toNat + 256 * b₁.toNat := by simp [fromBytes]
  rw [decodeProbeTemperatureC, if_neg (by simp), hraw]
  exact (apply_ite Except.ok _ _ _).symm

theorem decodeProbeTemperatureC_ok {payload : List UInt8} {temperature : Option ℚ}
    (h : decodeProbeTemperatureC payload = .ok temperature) : 2 ≤ payload.length := by
  unfold decodeProbeTemperatureC at h
  split at h
  · cases h
  · omega

theorem decodeBatteryPercent_ok {payload : List UInt8} {p : ℕ} :
    decodeBatteryPercent payload = .ok p ↔ ∃ b, payload = [b] ∧ b.toNat = p ∧ p ≤ 100 := by
  unfold decodeBatteryPercent
  split
  · next b =>
    split
    · next hb =>
      simp only [reduceCtorEq, List.cons.injEq, and_true, false_iff, not_exists, not_and]
      rintro b' rfl hp
      omega
    · next hb =>
      constructor
      · rintro ⟨⟩
        exact ⟨b, rfl, rfl, by omega⟩
      · rintro ⟨b', hb', rfl, -⟩
        cases hb'
        rfl
  · next hne =>
    simp only [reduceCtorEq, false_iff, not_exists, not_and]
    exact fun b hb => absurd hb (hne b)

end PitbluCore
