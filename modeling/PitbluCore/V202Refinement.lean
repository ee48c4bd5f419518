import PitbluCore.AdapterReads
import PitbluCore.V202Handshake

namespace PitbluCore

open Library

namespace V202Session

variable {a t : V202Session} {b : Adapter} {links : ℕ → Link}

/-- The last write of the handshake is only acknowledged over a link that is up. -/
def live (a : V202Session) : SessionAction → Bool
  | .resume j (.returned _) =>
    match a.calls.get? j with
    | some (.connecting n (.writingDeviceResponse _)) => (a.clients.get? n).any BleakClient.isConnected
    | _ => true
  | _ => true

def supportedAdvertisement : Advertisement := ⟨none, none, [Adapter.temperatureServiceUuid], 0, none⟩

def effect (links : ℕ → Link) (a : V202Session) : SessionAction → Adapter → Adapter
  | .discover found, b => b.discover (.replicate found supportedAdvertisement)
  | .disconnect, b | .linkLost _, b => b.disconnect
  | .resume j (.returned _), b =>
    match a.calls.get? j with
    | some (.connecting n (.writingDeviceResponse _)) => b.connect (links n)
    | _ => b
  | _, b => b

structure Refines (links : ℕ → Link) (a : V202Session) (b : Adapter) : Prop where
  candidates : b.nativeById = a.nativeById
  nextDiscoveryId : b.nextDiscoveryId = a.nextDiscoveryId
  client : b.client = a.client.map links
  up : ∀ n, a.client = some n → ∃ c, a.clients.get? n = some c ∧ c.isConnected = true

structure Kept (a t : V202Session) : Prop where
  candidates : t.nativeById = a.nativeById
  nextDiscoveryId : t.nextDiscoveryId = a.nextDiscoveryId
  client : t.client = a.client
  up : ∀ n c, a.clients.get? n = some c → c.isConnected = true → ∃ c', t.clients.get? n = some c' ∧
    c'.isConnected = true

section Kept

theorem Kept.of_clients (hclients : t.clients = a.clients) (hcandidates : t.nativeById = a.nativeById)
    (hnext : t.nextDiscoveryId = a.nextDiscoveryId) (hclient : t.client = a.client) : Kept a t :=
  ⟨hcandidates, hnext, hclient, fun n c hc hup => ⟨c, by rw [hclients, hc], hup⟩⟩

theorem Kept.trans {u : V202Session} (h : Kept a t) (h' : Kept t u) : Kept a u where
  candidates := h'.candidates.trans h.candidates
  nextDiscoveryId := h'.nextDiscoveryId.trans h.nextDiscoveryId
  client := h'.client.trans h.client
  up n c hc hup := by
    obtain ⟨c', hc', hup'⟩ := h.up n c hc hup
    exact h'.up n c' hc' hup'

theorem Kept.modify {n : ℕ} {f : BleakClient → BleakClient} (hclients : t.clients = a.clients.modify n f)
    (hcandidates : t.nativeById = a.nativeById) (hnext : t.nextDiscoveryId = a.nextDiscoveryId)
    (hclient : t.client = a.client)
    (hf : ∀ c, c.isConnected = true → (f c).isConnected = true) : Kept a t := by
  refine ⟨hcandidates, hnext, hclient, fun m c hc hup => ?_⟩
  rw [hclients, Dict.get?_modify]
  split
  · rename_i hm
    subst hm
    exact ⟨f c, by rw [hc]; rfl, hf c hup⟩
  · exact ⟨c, hc, hup⟩

variable (a) (j n : ℕ)

theorem kept_await (call : AdapterCall) : Kept a (a.await j call) := .of_clients rfl rfl rfl rfl

theorem kept_finish (o : CallOutcome) : Kept a (a.finish j o) := .of_clients rfl rfl rfl rfl

theorem kept_immediate (o : CallOutcome) : Kept a (a.immediate o) := .of_clients rfl rfl rfl rfl

theorem kept_note (event : GattEvent) : Kept a (a.note n event) := .modify rfl rfl rfl rfl (fun _ => id)

theorem kept_release : Kept a (a.release n) := .modify rfl rfl rfl rfl (fun _ => id)

theorem kept_connectFails (e : Option Failure) : Kept a (a.connectFails j n e) := by
  unfold connectFails
  split
  · exact (kept_release a n).trans (kept_await _ j _)
  · exact kept_finish a j _

theorem kept_opened (services : List String) : Kept a (a.opened j n services) := by
  unfold opened
  split
  · exact (kept_note a n _).trans (kept_await _ j _)
  · exact kept_connectFails a j n _

theorem kept_challenged (challenge : List UInt8) : Kept a (a.challenged j n challenge) := by
  unfold challenged
  split
  · exact ((kept_note a n _).trans (kept_note _ n _)).trans (kept_await _ j _)
  · exact (kept_note a n _).trans (kept_connectFails _ j n _)

theorem kept_readNext (us : List Characteristic) : Kept a (a.readNext j n us) := by
  cases us with
  | nil => exact kept_finish a j _
  | cons u us => exact (kept_note a n _).trans (kept_await _ j _)

theorem kept_connect (h : a.Disciplined) (device : DiscoveredDevice) : Kept a (a.connect device) := by
  unfold connect
  split
  · exact kept_immediate a _
  split
  · refine ⟨rfl, rfl, rfl, fun m c hc hup => ⟨c, ?_, hup⟩⟩
    have hm : m ≠ a.nextClient := (h.clients m c hc).1.ne
    simp [hm, hc]
  · exact kept_immediate a _

theorem kept_readSnapshot (battery : Bool) : Kept a (a.readSnapshot battery) := by
  unfold readSnapshot
  split
  · exact kept_immediate a _
  split
  · exact (show Kept a { a with nextCall := a.nextCall + 1 } from .of_clients rfl rfl rfl rfl).trans
      (kept_readNext _ _ _ _)
  · exact kept_immediate a _

theorem kept_resumeRead {u : Characteristic} {rest : List Characteristic} {o : Awaited}
    (ht : a.resumeRead j n u rest o = some t) : Kept a t := by
  unfold resumeRead at ht
  split at ht <;> cases ht
  · exact (kept_note a n _).trans (kept_readNext _ j n _)
  · exact kept_readNext a j n _
  · exact kept_readNext a j n _
  · exact kept_finish a j _

theorem kept_resumeDisconnect {o : Awaited} (ht : a.resumeDisconnect j o = some t) : Kept a t := by
  unfold resumeDisconnect at ht
  split at ht <;> cases ht
  · exact kept_finish a j _
  · exact kept_finish a j _

end Kept

section Steps

variable {j n : ℕ}

theorem Refines.kept (h : Refines links a b) (hk : Kept a t) : Refines links t b where
  candidates := h.candidates.trans hk.candidates.symm
  nextDiscoveryId := h.nextDiscoveryId.trans hk.nextDiscoveryId.symm
  client := by rw [h.client, hk.client]
  up n hn := by
    rw [hk.client] at hn
    obtain ⟨c, hc, hup⟩ := h.up n hn
    exact hk.up n c hc hup

theorem Refines.lose (h : Refines links a b) (hcandidates : t.nativeById = a.nativeById)
    (hnext : t.nextDiscoveryId = a.nextDiscoveryId) (hclient : t.client = none) : Refines links t b.disconnect where
  candidates := h.candidates.trans hcandidates.symm
  nextDiscoveryId := h.nextDiscoveryId.trans hnext.symm
  client := by rw [hclient]; rfl
  up n hn := by rw [hclient] at hn; cases hn

theorem Refines.adopt (h : Refines links a b) (hup : (a.clients.get? n).any BleakClient.isConnected = true)
    (event : GattEvent) :
    Refines links ((a.note n event).adopt j n) (b.connect (links n)) where
  candidates := h.candidates
  nextDiscoveryId := h.nextDiscoveryId
  client := rfl
  up m hm := by
    cases hm
    cases hc : a.clients.get? n with
    | none =>
      rw [hc] at hup
      cases hup
    | some c =>
      rw [hc] at hup
      exact (kept_note a n event).up n c hc hup

theorem discover_replicate (b : Adapter) (found : ℕ) :
    (b.discover (.replicate found supportedAdvertisement)).nativeById = List.range' b.nextDiscoveryId found ∧
      (b.discover (.replicate found supportedAdvertisement)).nextDiscoveryId = b.nextDiscoveryId + found := by
  have hsupported : b.supported supportedAdvertisement = true := by
    rw [Adapter.supported, show ((supportedAdvertisement.serviceUuids.map String.toLower).contains _) =
      true by decide +kernel,
      Bool.or_true]
  have hids := b.candidates_ids (.replicate found supportedAdvertisement)
  rw [List.filter_replicate_of_pos hsupported, List.length_replicate] at hids
  exact ⟨hids, by
    rw [Adapter.discover, ← List.length_map (f := DiscoveredDevice.discoveryId), hids, List.length_range']⟩

theorem Refines.disconnect (h : Refines links a b) : Refines links a.disconnect b.disconnect := by
  unfold V202Session.disconnect
  split
  · rename_i hn
    exact h.lose rfl rfl hn
  dsimp only
  split
  · exact h.lose rfl rfl rfl
  · exact h.lose rfl rfl rfl

theorem Refines.resumeConnect {point : ConnectPoint} {o : Awaited} (h : Refines links a b)
    (hj : a.calls.get? j = some (.connecting n point)) (hlive : a.live (.resume j o) = true)
    (ht : a.resumeConnect j n point o = some t) : Refines links t (effect links a (.resume j o) b) := by
  unfold V202Session.resumeConnect at ht
  split at ht <;> cases ht
  · exact h.kept (kept_finish a j _)
  · rw [show effect links a (.resume j o) b = b by cases o <;> simp [effect, hj]]
    exact h.kept (kept_finish a j _)
  · exact h.kept (kept_opened a j n _)
  · rw [show effect links a _ b = b by simp [effect, hj]]
    exact h.kept (((kept_note a n _).trans (kept_note _ n _)).trans (kept_await _ j _))
  · rw [show effect links a _ b = b by simp [effect, hj]]
    exact h.kept (kept_challenged a j n _)
  · rw [show effect links a _ b = b.connect (links n) by simp [effect, hj]]
    exact h.adopt (by simpa [live, hj] using hlive) _
  · exact h.kept (kept_connectFails a j n _)
  · exact h.kept (kept_connectFails a j n _)
  · exact h.kept (kept_connectFails a j n _)

theorem Refines.step {x : SessionAction} (h : Refines links a b) (hd : a.Disciplined) (hlive : a.live x = true)
    (ht : a.step x = some t) : Refines links t (effect links a x b) := by
  cases x with
  | discover found =>
    cases ht
    obtain ⟨hids, hnext⟩ := discover_replicate b found
    rw [h.nextDiscoveryId] at hids hnext
    exact ⟨hids, hnext, h.client, h.up⟩
  | connect device =>
    cases ht
    exact h.kept (kept_connect a hd device)
  | disconnect =>
    cases ht
    exact h.disconnect
  | readSnapshot battery =>
    cases ht
    exact h.kept (kept_readSnapshot a battery)
  | resume j o =>
    obtain ⟨call, hj, ht⟩ := Option.bind_eq_some_iff.mp ht
    cases call with
    | connecting n point => exact h.resumeConnect hj hlive ht
    | disconnecting =>
      rw [show effect links a (.resume j o) b = b by cases o <;> simp [effect, hj]]
      exact h.kept (kept_resumeDisconnect a j ht)
    | reading n u rest =>
      rw [show effect links a (.resume j o) b = b by cases o <;> simp [effect, hj]]
      exact h.kept (kept_resumeRead a j n ht)
  | linkUp j =>
    obtain ⟨call, hj, ht⟩ := Option.bind_eq_some_iff.mp ht
    split at ht <;> cases ht
    exact h.kept (.modify rfl rfl rfl rfl (fun _ _ => rfl))
  | linkLost n =>
    obtain ⟨c, -, ht⟩ := Option.bind_eq_some_iff.mp ht
    split at ht <;> cases ht
    exact h.lose rfl rfl rfl

end Steps

section Runs

def Beside (links : ℕ → Link) (a : V202Session) (b : Adapter) : Prop :=
  Reaches (fun p => ∃ next, p = (.create next, .create next)) (paired step (effect links)) (fun p x => p.1.live x =
    true) (a, b)

theorem refines (h : Beside links a b) : a.Disciplined ∧ Refines links a b := by
  refine h.invariant (I := fun p => p.1.Disciplined ∧ Refines links p.1 p.2) ?_ ?_
  · rintro _ ⟨next, rfl⟩
    exact ⟨create_disciplined next, rfl, rfl, rfl, fun n hn => by cases hn⟩
  · rintro ⟨a, b⟩ x _ ⟨hd, hr⟩ hlive ht
    obtain ⟨t, hstep, rfl⟩ := Option.map_eq_some_iff.mp ht
    exact ⟨hd.step hstep, hr.step hd hlive hstep⟩

theorem Refines.isConnected (h : Refines links a b) : a.isConnected = b.isConnected := by
  rw [V202Session.isConnected, Adapter.isConnected, h.client]
  cases hn : a.client with
  | none => rfl
  | some n =>
    obtain ⟨c, hc, hup⟩ := h.up n hn
    simp [hc, hup]

theorem connect_waits (hd : a.Disciplined) (device : DiscoveredDevice) :
    ((a.connect device).calls.get? a.nextCall).isSome ↔
      a.isConnected = false ∧ (a.nativeById.contains device.discoveryId && device.model = "igrill-v202") := by
  unfold connect
  split
  · simp [immediate, hd.freshCall, *]
  split
  · rename_i hdown hcurrent
    exact iff_of_true (by simp [begin, await]) ⟨by simpa using hdown, hcurrent⟩
  · rename_i hcurrent
    exact iff_of_false (by simp [immediate, hd.freshCall]) (fun h => hcurrent h.2)

theorem readSnapshot_waits (hd : a.Disciplined) (battery : Bool) :
    ((a.readSnapshot battery).calls.get? a.nextCall).isSome ↔ a.isConnected = true := by
  unfold readSnapshot V202Session.isConnected
  split
  · rename_i hn
    simp [immediate, hd.freshCall, hn]
  rename_i n hn
  split
  · rename_i hup
    cases battery <;> simp [characteristics, probeTemperatureUuids, readNext, await, note, hn, hup]
  · rename_i hdown
    simp [immediate, hd.freshCall, hn, hdown]

theorem session_refines_adapter (h : Beside links a b) :
    b.nativeById = a.nativeById ∧ b.client = a.client.map links ∧ b.isConnected = a.isConnected ∧
    (∀ device, ((a.connect device).calls.get? a.nextCall).isSome ↔ b.isConnected = false ∧ b.current device = true) ∧
    ∀ battery, ((a.readSnapshot battery).calls.get? a.nextCall).isSome ↔ b.isConnected = true := by
  obtain ⟨hd, hr⟩ := refines h
  refine ⟨hr.candidates, hr.client, hr.isConnected.symm, fun device => ?_, fun battery => ?_⟩
  · rw [connect_waits hd, hr.isConnected, ← hr.candidates]
    rfl
  · rw [readSnapshot_waits hd, hr.isConnected]

def sampleLink (n : ℕ) : Link := ⟨if n = 0 then "igrill-v202-a" else "igrill-v202-b", sampleCandidate⟩

theorem session_refines_adapter_sample : ∃ a b, Beside sampleLink a b ∧ b.client = some (sampleLink 1) ∧
    b.client = a.client.map sampleLink ∧
    ∀ battery, ((a.readSnapshot battery).calls.get? a.nextCall).isSome ↔ b.isConnected = true := by
  have hrun : ((replayIf (fun p x => p.1.live x) (paired step (effect sampleLink))
      (create 0, Adapter.create 0) sampleRun).map (fun p => p.2.client)) =
        some (some (sampleLink 1)) := by decide +kernel
  obtain ⟨⟨a, b⟩, hrun, hclient⟩ := Option.map_eq_some_iff.mp hrun
  have hab : Beside sampleLink a b := .of_replayIf (fun _ _ h => h) (.init ⟨0, rfl⟩) hrun
  obtain ⟨-, hmap, -, -, hreads⟩ := session_refines_adapter hab
  exact ⟨a, b, hab, hclient, hmap, hreads⟩

end Runs

end V202Session

end PitbluCore
