import PitbluCore.V202Session

namespace PitbluCore

open Library

def handshake (challenge : List UInt8) : List GattEvent :=
  [.asked writeAppChallenge, .answered writeAppChallenge [], .asked readDeviceChallenge,
   .answered readDeviceChallenge challenge, .asked (writeDeviceResponse challenge),
   .answered (writeDeviceResponse challenge) []]

def GattEvent.sensor : GattEvent → Prop
  | .asked (.read u) | .answered (.read u) _ => u ∈ V202Session.characteristics true
  | _ => False

def Authenticated (events : List GattEvent) : Prop :=
  ∃ challenge readings, challenge.length = 16 ∧ events = handshake challenge ++ readings ∧ ∀ e ∈ readings, e.sensor

def Underway (events : List GattEvent) : Prop :=
  ∃ challenge, events <+: handshake challenge ∧ events.length ≤ 5 ∧ (5 ≤ events.length → challenge.length = 16)

def Follows (events : List GattEvent) : Prop := Underway events ∨ Authenticated events

def BleakClient.LetGo (c : BleakClient) : Prop := c.isConnected = false ∨ c.released = true

def ConnectPoint.Reached (c : BleakClient) : ConnectPoint → Prop
  | .opening => c.events = []
  | .writingAppChallenge => c.events = [.asked writeAppChallenge]
  | .readingDeviceChallenge =>
    c.events = [.asked writeAppChallenge, .answered writeAppChallenge [], .asked readDeviceChallenge]
  | .writingDeviceResponse challenge => challenge.length = 16 ∧ c.events = (handshake challenge).take 5
  | .closing _ => Underway c.events ∧ c.released = true

section Events

theorem Authenticated.length {events : List GattEvent} (h : Authenticated events) : 6 ≤ events.length := by
  obtain ⟨challenge, readings, -, rfl, -⟩ := h
  simp [handshake]

theorem Authenticated.append {events : List GattEvent} (h : Authenticated events) {e : GattEvent} (he : e.sensor) :
    Authenticated (events ++ [e]) := by
  obtain ⟨challenge, readings, hlength, rfl, hs⟩ := h
  refine ⟨challenge, readings ++ [e], hlength, by rw [List.append_assoc], fun x hx => ?_⟩
  rcases List.mem_append.mp hx with hx | hx
  · exact hs x hx
  · cases List.mem_singleton.mp hx
    exact he

theorem Underway.not_authenticated {events : List GattEvent} (h : Underway events) : ¬Authenticated events := by
  obtain ⟨-, -, hlength, -⟩ := h
  intro ha
  have hle := ha.length
  omega

theorem ConnectPoint.Reached.underway {c : BleakClient} {point : ConnectPoint} (h : point.Reached c) :
    Underway c.events := by
  cases point with
  | opening =>
    rw [show c.events = [] from h]
    exact ⟨[], List.nil_prefix, by simp, by simp⟩
  | writingAppChallenge =>
    rw [show c.events = _ from h]
    exact ⟨[], ⟨_, rfl⟩, by simp, by simp⟩
  | readingDeviceChallenge =>
    rw [show c.events = _ from h]
    exact ⟨[], ⟨_, rfl⟩, by simp, by simp⟩
  | writingDeviceResponse challenge =>
    rw [h.2]
    exact ⟨challenge, List.take_prefix 5 _, List.length_take_le 5 _, fun _ => h.1⟩
  | closing e => exact h.1

end Events

namespace V202Session

variable {a t : V202Session}

/-- The client has completed the handshake. -/
def Trusted (a : V202Session) (n : ℕ) : Prop := ∃ c, a.clients.get? n = some c ∧ Authenticated c.events

def Alone (a : V202Session) (n : ℕ) : Prop := ∀ k point, a.calls.get? k ≠ some (.connecting n point)

structure Disciplined (a : V202Session) : Prop where
  clients : ∀ n c, a.clients.get? n = some c → n < a.nextClient ∧ Follows c.events
  connecting : ∀ j n point, a.calls.get? j = some (.connecting n point) →
    ∃ c, a.clients.get? n = some c ∧ point.Reached c
  calls : ∀ j call, a.calls.get? j = some call → j < a.nextCall
  apart : ∀ j k n point point', a.calls.get? j = some (.connecting n point) →
    a.calls.get? k = some (.connecting n point') → j = k
  reading : ∀ j n u rest, a.calls.get? j = some (.reading n u rest) →
    a.Trusted n ∧ ∀ x ∈ u :: rest, x ∈ characteristics true
  current : ∀ n, a.client = some n → a.Trusted n
  connected : ∀ j n, a.outcomes.get? j = some (.connected n) → a.Trusted n
  failed : ∀ j n e, a.outcomes.get? j = some (.connectFailed n e) →
    (∃ c, a.clients.get? n = some c ∧ c.LetGo) ∧ a.Alone n

def Allowed (t a : V202Session) (j n : ℕ) : AdapterCall → Prop
  | .connecting m point => m = n ∧ (∃ c, t.clients.get? n = some c ∧ point.Reached c) ∧
      (∀ k e, a.outcomes.get? k ≠ some (.connectFailed n e)) ∧
      ∀ k point, k ≠ j → a.calls.get? k ≠ some (.connecting n point)
  | .reading m u rest => t.Trusted m ∧ ∀ x ∈ u :: rest, x ∈ characteristics true
  | .disconnecting => True

def Earned (t : V202Session) (n : ℕ) : CallOutcome → Prop
  | .connected m => t.Trusted m
  | .connectFailed m _ => m = n ∧ (∃ c, t.clients.get? n = some c ∧ c.LetGo) ∧ t.Alone n
  | _ => True

theorem Disciplined.update (h : a.Disciplined) {j n : ℕ} {p : Option AdapterCall} {c : Option BleakClient}
    (hclients : ∀ m, t.clients.get? m = if m = n then c else a.clients.get? m)
    (hcalls : ∀ k, t.calls.get? k = if k = j then p else a.calls.get? k)
    (hnext : a.nextClient ≤ t.nextClient ∧ a.nextCall ≤ t.nextCall)
    (hothers : ∀ k point, k ≠ j → a.calls.get? k = some (.connecting n point) → ∃ y, c = some y ∧ point.Reached y)
    (hnew : ∀ y, c = some y → n < t.nextClient ∧ Follows y.events)
    (hold : ∀ x, a.clients.get? n = some x → ∃ y, c = some y ∧ (Authenticated x.events → Authenticated y.events) ∧
      ((∃ k e, a.outcomes.get? k = some (.connectFailed n e)) → x.LetGo → y.LetGo))
    (hcall : ∀ x, p = some x → j < t.nextCall ∧ Allowed t a j n x)
    (hcurrent : ∀ m, t.client = some m → a.client = some m ∨ t.Trusted m)
    (houtcomes : ∀ k o, t.outcomes.get? k = some o → a.outcomes.get? k = some o ∨ Earned t n o) :
    t.Disciplined := by
  have htrusted : ∀ m, a.Trusted m → t.Trusted m := by
    rintro m ⟨x, hx, ha⟩
    by_cases hm : m = n
    · subst hm
      obtain ⟨y, hy, hauth, -⟩ := hold x hx
      exact ⟨y, by rw [hclients, if_pos rfl, hy], hauth ha⟩
    · exact ⟨x, by rw [hclients, if_neg hm, hx], ha⟩
  have hcase : ∀ k x, t.calls.get? k = some x → k = j ∧ p = some x ∨ k ≠ j ∧ a.calls.get? k = some x := by
    intro k x hx
    rw [hcalls] at hx
    split at hx
    · rename_i hk
      exact .inl ⟨hk, hx⟩
    · rename_i hk
      exact .inr ⟨hk, hx⟩
  constructor
  · intro m x hx
    rw [hclients] at hx
    split at hx
    · rename_i hm
      exact hm ▸ hnew x hx
    · obtain ⟨hlt, hf⟩ := h.clients m x hx
      exact ⟨hlt.trans_le hnext.1, hf⟩
  · intro k m point hk
    rcases hcase k _ hk with ⟨-, hx⟩ | ⟨hkj, hx⟩
    · obtain ⟨-, rfl, hreached, -⟩ := hcall _ hx
      exact hreached
    · by_cases hm : m = n
      · subst hm
        obtain ⟨y, hy, hreached⟩ := hothers k point hkj hx
        exact ⟨y, by rw [hclients, if_pos rfl, hy], hreached⟩
      · obtain ⟨x, hget, hreached⟩ := h.connecting k m point hx
        exact ⟨x, by rw [hclients, if_neg hm, hget], hreached⟩
  · intro k x hk
    rcases hcase k x hk with ⟨rfl, hx⟩ | ⟨-, hx⟩
    · exact (hcall x hx).1
    · exact (h.calls k x hx).trans_le hnext.2
  · intro k k' m point point' hk hk'
    rcases hcase k _ hk with ⟨hkj, hx⟩ | ⟨hkj, hx⟩
    · rcases hcase k' _ hk' with ⟨hkj', -⟩ | ⟨hkj', hx'⟩
      · rw [hkj, hkj']
      · obtain ⟨-, rfl, -, -, halone⟩ := hcall _ hx
        exact absurd hx' (halone k' point' hkj')
    · rcases hcase k' _ hk' with ⟨-, hx'⟩ | ⟨-, hx'⟩
      · obtain ⟨-, rfl, -, -, halone⟩ := hcall _ hx'
        exact absurd hx (halone k point hkj)
      · exact h.apart k k' m point point' hx hx'
  · intro k m u rest hk
    rcases hcase k _ hk with ⟨-, hx⟩ | ⟨-, hx⟩
    · exact (hcall _ hx).2
    · obtain ⟨ht, hs⟩ := h.reading k m u rest hx
      exact ⟨htrusted m ht, hs⟩
  · intro m hm
    rcases hcurrent m hm with hm | ht
    · exact htrusted m (h.current m hm)
    · exact ht
  · intro k m hk
    rcases houtcomes k _ hk with ho | he
    · exact htrusted m (h.connected k m ho)
    · exact he
  · intro k m e hk
    rcases houtcomes k _ hk with ho | he
    · obtain ⟨⟨x, hx, hgo⟩, ha⟩ := h.failed k m e ho
      constructor
      · by_cases hm : m = n
        · subst hm
          obtain ⟨y, hy, -, hletgo⟩ := hold x hx
          exact ⟨y, by rw [hclients, if_pos rfl, hy], hletgo ⟨k, e, ho⟩ hgo⟩
        · exact ⟨x, by rw [hclients, if_neg hm, hx], hgo⟩
      · intro k' point hk'
        rcases hcase k' _ hk' with ⟨-, hx'⟩ | ⟨-, hx'⟩
        · obtain ⟨-, rfl, -, hnot, -⟩ := hcall _ hx'
          exact hnot k e ho
        · exact ha k' point hx'
    · obtain ⟨rfl, hgo, ha⟩ := he
      exact ⟨hgo, ha⟩

section Calls

variable {j n : ℕ} {point q : ConnectPoint} {f : BleakClient → BleakClient} {c : BleakClient}

theorem Disciplined.fresh (h : a.Disciplined) : a.clients.get? a.nextClient = none := by
  cases hget : a.clients.get? a.nextClient with
  | none => rfl
  | some c => exact absurd (h.clients _ c hget).1 (lt_irrefl _)

theorem Disciplined.freshCall (h : a.Disciplined) : a.calls.get? a.nextCall = none := by
  cases hget : a.calls.get? a.nextCall with
  | none => rfl
  | some call => exact absurd (h.calls _ call hget) (lt_irrefl _)

theorem Disciplined.alone (h : a.Disciplined) (ht : a.Trusted n) : a.Alone n := by
  intro k point hk
  obtain ⟨c, hc, ha⟩ := ht
  obtain ⟨c', hc', hreached⟩ := h.connecting k n point hk
  cases hc.symm.trans hc'
  exact hreached.underway.not_authenticated ha

theorem Disciplined.turn (h : a.Disciplined) {p : Option AdapterCall} (hclients : t.clients = a.clients)
    (hcalls : ∀ k, t.calls.get? k = if k = j then p else a.calls.get? k)
    (hnext : t.nextClient = a.nextClient) (hnextCall : a.nextCall ≤ t.nextCall)
    (hcall : ∀ x, p = some x → j < t.nextCall ∧ x = .disconnecting)
    (hcurrent : ∀ m, t.client = some m → a.client = some m)
    (houtcomes : ∀ k o, t.outcomes.get? k = some o → a.outcomes.get? k = some o ∨
      (∀ m, o ≠ .connected m) ∧ ∀ m e, o ≠ .connectFailed m e) : t.Disciplined := by
  refine h.update (n := a.nextClient) (c := none) (fun m => ?_) hcalls ⟨hnext.ge, hnextCall⟩ (fun k point _ hk => ?_)
    (fun y hy => by cases hy)
    (fun x hx => ?_) (fun x hx => ?_) (fun m hm => .inl (hcurrent m hm)) (fun k o hk => ?_)
  · rw [hclients]
    split
    · rename_i hm
      rw [hm, h.fresh]
    · rfl
  · obtain ⟨c, hc, -⟩ := h.connecting k _ point hk
    rw [h.fresh] at hc
    cases hc
  · rw [h.fresh] at hx
    cases hx
  · obtain ⟨hlt, rfl⟩ := hcall x hx
    exact ⟨hlt, trivial⟩
  · refine (houtcomes k o hk).imp_right fun ⟨hne, hne'⟩ => ?_
    cases o with
    | connected m => exact absurd rfl (hne m)
    | connectFailed m e => exact absurd rfl (hne' m e)
    | _ => trivial

theorem Disciplined.advance (h : a.Disciplined) (hj : a.calls.get? j = some (.connecting n point))
    (hclients : ∀ m, t.clients.get? m = if m = n then (a.clients.get? n).map f else a.clients.get? m)
    (hcalls : ∀ k, t.calls.get? k = if k = j then some (.connecting n q) else a.calls.get? k)
    (hnext : t.nextClient = a.nextClient ∧ t.nextCall = a.nextCall) (hclient : t.client = a.client)
    (houtcomes : t.outcomes = a.outcomes)
    (hf : ∀ c, point.Reached c → q.Reached (f c)) : t.Disciplined := by
  obtain ⟨c, hc, hreached⟩ := h.connecting j n point hj
  have halone : ∀ k p, k ≠ j → a.calls.get? k ≠ some (.connecting n p) :=
    fun k p hk hx => hk (h.apart k j n p point hx hj)
  have hfailed : ∀ k e, a.outcomes.get? k ≠ some (.connectFailed n e) :=
    fun k e hk => (h.failed k n e hk).2 j point hj
  rw [hc] at hclients
  refine h.update hclients hcalls ⟨hnext.1.ge, hnext.2.ge⟩ (fun k p hk hx => absurd hx (halone k p hk)) (fun y hy => ?_)
    (fun x hx => ?_)
    (fun x hx => ?_) (fun m hm => .inl (hclient ▸ hm)) (fun k o hk => .inl (houtcomes ▸ hk))
  · cases hy
    exact ⟨hnext.1 ▸ (h.clients n c hc).1, .inl (hf c hreached).underway⟩
  · cases hc.symm.trans hx
    exact ⟨f c, rfl, fun ha => absurd ha hreached.underway.not_authenticated, fun ⟨k, e, hk⟩ => absurd hk (hfailed k e)⟩
  · cases hx
    exact ⟨hnext.2 ▸ h.calls j _ hj, rfl, ⟨f c, by rw [hclients, if_pos rfl]; rfl, hf c hreached⟩, hfailed, halone⟩

theorem Disciplined.ends (h : a.Disciplined) (hj : a.calls.get? j = some (.connecting n point)) {o : CallOutcome}
    (hclients : ∀ m, t.clients.get? m = if m = n then (a.clients.get? n).map f else a.clients.get? m)
    (hcalls : ∀ k, t.calls.get? k = if k = j then none else a.calls.get? k)
    (hnext : t.nextClient = a.nextClient ∧ t.nextCall = a.nextCall)
    (hclient : ∀ m, t.client = some m → a.client = some m ∨ m = n ∧ o = .connected n)
    (houtcomes : ∀ k, t.outcomes.get? k = if k = j then some o else a.outcomes.get? k)
    (hf : ∀ c, a.clients.get? n = some c → point.Reached c → Follows (f c).events ∧
      ((∃ e, o = .connectFailed n e) ∧ (f c).LetGo ∨ o = .connected n ∧ Authenticated (f c).events)) :
    t.Disciplined := by
  obtain ⟨c, hc, hreached⟩ := h.connecting j n point hj
  obtain ⟨hfollows, hends⟩ := hf c hc hreached
  have halone : ∀ k p, k ≠ j → a.calls.get? k ≠ some (.connecting n p) :=
    fun k p hk hx => hk (h.apart k j n p point hx hj)
  have hfailed : ∀ k e, a.outcomes.get? k ≠ some (.connectFailed n e) :=
    fun k e hk => (h.failed k n e hk).2 j point hj
  rw [hc] at hclients
  have hget : t.clients.get? n = some (f c) := by rw [hclients, if_pos rfl]; rfl
  refine h.update hclients hcalls ⟨hnext.1.ge, hnext.2.ge⟩ (fun k p hk hx => absurd hx (halone k p hk)) (fun y hy => ?_)
    (fun x hx => ?_)
    (fun x hx => by cases hx) (fun m hm => ?_) (fun k o' hk => ?_)
  · cases hy
    exact ⟨hnext.1 ▸ (h.clients n c hc).1, hfollows⟩
  · cases hc.symm.trans hx
    exact ⟨f c, rfl, fun ha => absurd ha hreached.underway.not_authenticated, fun ⟨k, e, hk⟩ => absurd hk (hfailed k e)⟩
  · refine (hclient m hm).imp_right ?_
    rintro ⟨rfl, rfl⟩
    obtain ⟨⟨e, he⟩, -⟩ | ⟨-, ha⟩ := hends
    · cases he
    · exact ⟨f c, hget, ha⟩
  · rw [houtcomes] at hk
    split at hk
    · cases hk
      refine .inr ?_
      obtain ⟨⟨e, rfl⟩, hgo⟩ | ⟨rfl, ha⟩ := hends
      · refine ⟨rfl, ⟨f c, hget, hgo⟩, fun k p hk => ?_⟩
        rw [hcalls] at hk
        split at hk
        · cases hk
        · rename_i hkj
          exact halone k p hkj hk
      · exact ⟨f c, hget, ha⟩
    · exact .inl hk

theorem Disciplined.fails {b : V202Session} (h : a.Disciplined) (hj : a.calls.get? j = some (.connecting n point))
    (hclients : ∀ m, b.clients.get? m = if m = n then (a.clients.get? n).map f else a.clients.get? m)
    (hcalls : b.calls = a.calls) (hnext : b.nextClient = a.nextClient ∧ b.nextCall = a.nextCall)
    (hclient : b.client = a.client) (houtcomes : b.outcomes = a.outcomes)
    (hf : ∀ c, point.Reached c → Underway (f c).events) (e : Option Failure) :
    (b.connectFails j n e).Disciplined := by
  unfold connectFails
  split
  · refine h.advance (f := fun c => { f c with released := true }) (q := .closing e) hj (fun m => ?_) (fun k => ?_)
      hnext hclient houtcomes (fun c hc => ⟨hf c hc, rfl⟩)
    · simp only [await, release, Dict.get?_modify, hclients]
      split
      · simp [Function.comp_def]
      · rfl
    · simp [await, release, hcalls]
  · rename_i hdown
    refine h.ends (f := f) (o := .connectFailed n e) hj hclients (fun k => ?_) hnext
      (fun m hm => .inl (hclient ▸ hm)) (fun k => ?_) (fun c hc hreached => ⟨.inl (hf c hreached),
        .inl ⟨⟨e, rfl⟩, .inl ?_⟩⟩)
    · simp [finish, hcalls]
    · simp [finish, houtcomes]
    · rw [hclients, if_pos rfl, hc] at hdown
      simpa using hdown

end Calls

section Steps

variable {j n : ℕ}

theorem Disciplined.opened (h : a.Disciplined) (hj : a.calls.get? j = some (.connecting n .opening))
    (services : List String) :
    (a.opened j n services).Disciplined := by
  unfold V202Session.opened
  split
  · refine h.advance (f := fun c => c.note (.asked writeAppChallenge)) (q := .writingAppChallenge) hj (fun m => ?_)
      (fun k => ?_) ⟨rfl, rfl⟩ rfl rfl (fun c hc => ?_)
    · simp [await, note]
    · simp [await, note]
    · simp [ConnectPoint.Reached, BleakClient.note, show c.events = [] from hc]
  · exact h.fails (f := id) hj (fun m => by split <;> simp_all) rfl ⟨rfl, rfl⟩ rfl rfl (fun c hc => hc.underway) _

theorem Disciplined.challenged (h : a.Disciplined) (hj : a.calls.get? j = some (.connecting n .readingDeviceChallenge))
    (challenge : List UInt8) : (a.challenged j n challenge).Disciplined := by
  unfold V202Session.challenged
  split
  · rename_i hlength
    refine h.advance (f := fun c =>
      (c.note (.answered readDeviceChallenge challenge)).note (.asked (writeDeviceResponse challenge)))
      (q := .writingDeviceResponse challenge) hj (fun m => ?_) (fun k => ?_) ⟨rfl, rfl⟩ rfl rfl
        (fun c hc => ⟨hlength, ?_⟩)
    · simp only [await, note, Dict.get?_modify]
      split
      · simp [Function.comp_def]
      · rfl
    · simp [await, note]
    · simp [BleakClient.note, show c.events = _ from hc, handshake]
  · refine h.fails (b := a.note n (.answered readDeviceChallenge challenge))
      (f := fun c => c.note (.answered readDeviceChallenge challenge)) hj (fun m => ?_) rfl ⟨rfl, rfl⟩ rfl rfl
        (fun c hc => ?_) _
    · simp [note]
    · exact ⟨challenge, by simp [BleakClient.note, show c.events = _ from hc, handshake],
        by simp [BleakClient.note, show c.events = _ from hc], by simp [BleakClient.note, show c.events = _ from hc]⟩

theorem Disciplined.adopt {challenge : List UInt8} (h : a.Disciplined)
    (hj : a.calls.get? j = some (.connecting n (.writingDeviceResponse challenge))) :
    ((a.note n (.answered (writeDeviceResponse challenge) [])).adopt j n).Disciplined := by
  refine h.ends (f := fun c => c.note (.answered (writeDeviceResponse challenge) []))
    (o := .connected n) hj (fun m => ?_) (fun k => ?_) ⟨rfl, rfl⟩ (fun m hm => .inr ⟨?_, rfl⟩) (fun k => ?_)
      (fun c hc hreached => ?_)
  · simp [V202Session.adopt, finish, note]
  · simp [V202Session.adopt, finish, note]
  · cases hm
    rfl
  · simp [V202Session.adopt, finish, note]
  · have ha : Authenticated (c.events ++ [.answered (writeDeviceResponse challenge) []]) :=
      ⟨challenge, [], hreached.1, by rw [hreached.2]; rfl, by simp⟩
    exact ⟨.inr ha, .inr ⟨rfl, ha⟩⟩

theorem Disciplined.closed {e : Option Failure} (h : a.Disciplined)
    (hj : a.calls.get? j = some (.connecting n (.closing e)))
    (e' : Option Failure) : (a.finish j (.connectFailed n e')).Disciplined := by
  refine h.ends (f := id) (o := .connectFailed n e') hj (fun m => ?_) (fun k => ?_) ⟨rfl, rfl⟩ (fun m hm => .inl hm)
    (fun k => ?_)
    (fun c hc hreached => ⟨.inl hreached.1, .inl ⟨⟨e', rfl⟩, .inr hreached.2⟩⟩)
  · simp only [finish]
    split <;> simp_all
  · simp [finish]
  · simp [finish]

theorem Disciplined.resumeConnect {point : ConnectPoint} {o : Awaited} (h : a.Disciplined)
    (hj : a.calls.get? j = some (.connecting n point)) (ht : a.resumeConnect j n point o = some t) : t.Disciplined := by
  have hfails : ∀ e, (a.connectFails j n e).Disciplined := fun e =>
    h.fails (f := id) hj (fun m => by split <;> simp_all) rfl ⟨rfl, rfl⟩ rfl rfl (fun c hc => hc.underway) e
  unfold V202Session.resumeConnect at ht
  split at ht <;> cases ht
  · exact h.closed hj none
  · exact h.closed hj _
  · exact h.opened hj _
  · refine h.advance (f := fun c => (c.note (.answered writeAppChallenge [])).note (.asked readDeviceChallenge))
      (q := .readingDeviceChallenge) hj (fun m => ?_) (fun k => ?_) ⟨rfl, rfl⟩ rfl rfl (fun c hc => ?_)
    · simp only [await, note, Dict.get?_modify]
      split
      · simp [Function.comp_def]
      · rfl
    · simp [await, note]
    · simp [ConnectPoint.Reached, BleakClient.note, show c.events = _ from hc]
  · exact h.challenged hj _
  · exact h.adopt hj
  · exact hfails _
  · exact hfails _
  · exact hfails _

theorem Disciplined.immediate (h : a.Disciplined) {o : CallOutcome}
    (ho : (∀ m, o ≠ .connected m) ∧ ∀ m e, o ≠ .connectFailed m e) :
    (a.immediate o).Disciplined := by
  refine h.turn (j := a.nextCall) (p := none) rfl (fun k => ?_) rfl (Nat.le_succ _) (fun x hx => by cases hx)
    (fun m hm => hm) (fun k o' hk => ?_)
  · split
    · rename_i hk
      rw [hk]
      exact h.freshCall
    · rfl
  · rw [V202Session.immediate, Dict.get?_set] at hk
    split at hk
    · cases hk
      exact .inr ho
    · exact .inl hk

theorem Disciplined.ended (h : a.Disciplined) {o : CallOutcome}
    (ho : (∀ m, o ≠ .connected m) ∧ ∀ m e, o ≠ .connectFailed m e) :
    (a.finish j o).Disciplined := by
  refine h.turn (j := j) (p := none) rfl (fun k => Dict.get?_erase ..) rfl le_rfl (fun x hx => by cases hx)
    (fun m hm => hm) (fun k o' hk => ?_)
  rw [finish, Dict.get?_set] at hk
  split at hk
  · cases hk
    exact .inr ho
  · exact .inl hk

theorem Disciplined.connect (h : a.Disciplined) (device : DiscoveredDevice) : (a.connect device).Disciplined := by
  unfold V202Session.connect
  split
  · exact h.immediate ⟨nofun, nofun⟩
  split
  · have hopening : ConnectPoint.opening.Reached ⟨device.discoveryId, false, false, []⟩ := rfl
    refine h.update (j := a.nextCall) (n := a.nextClient) (fun m => Dict.get?_set ..) (fun k => Dict.get?_set ..)
      ⟨Nat.le_succ _, Nat.le_succ _⟩ (fun k point _ hk => ?_) (fun y hy => ?_) (fun x hx => ?_) (fun x hx => ?_)
      (fun m hm => .inl hm) (fun k o hk => .inl hk)
    · obtain ⟨c, hc, -⟩ := h.connecting k _ point hk
      rw [h.fresh] at hc
      cases hc
    · cases hy
      exact ⟨Nat.lt_succ_self _, .inl hopening.underway⟩
    · rw [h.fresh] at hx
      cases hx
    · cases hx
      refine ⟨Nat.lt_succ_self _, rfl, ⟨_, by rw [Dict.get?_set, if_pos rfl], hopening⟩, fun k e hk => ?_,
        fun k point _ hk => ?_⟩
      · obtain ⟨⟨c, hc, -⟩, -⟩ := h.failed k _ e hk
        rw [h.fresh] at hc
        cases hc
      · obtain ⟨c, hc, -⟩ := h.connecting k _ point hk
        rw [h.fresh] at hc
        cases hc
  · exact h.immediate ⟨nofun, nofun⟩

theorem Disciplined.disconnect (h : a.Disciplined) : a.disconnect.Disciplined := by
  unfold V202Session.disconnect
  split
  · exact h.immediate ⟨nofun, nofun⟩
  rename_i n hn
  have hlet : ({ a with client := none } : V202Session).Disciplined :=
    h.turn (j := a.nextCall) (p := none) rfl (fun k => by split <;> simp_all [h.freshCall]) rfl le_rfl
      (fun x hx => by cases hx)
      (fun m hm => by cases hm) (fun k o hk => .inl hk)
  have halone := h.alone (h.current n hn)
  dsimp only
  split
  · refine hlet.update (j := a.nextCall) (n := n) (fun m => Dict.get?_modify ..) (fun k => Dict.get?_set ..)
      ⟨le_rfl, Nat.le_succ _⟩ (fun k point _ hk => absurd hk (halone k point)) (fun y hy => ?_) (fun x hx => ?_)
        (fun x hx => ?_)
      (fun m hm => .inl hm) (fun k o hk => .inl hk)
    · obtain ⟨c, hc, rfl⟩ := Option.map_eq_some_iff.mp hy
      exact h.clients n c hc
    · exact ⟨{ x with released := true }, by rw [hx]; rfl, id, fun _ _ => .inr rfl⟩
    · cases hx
      exact ⟨Nat.lt_succ_self _, trivial⟩
  · exact hlet.immediate ⟨nofun, nofun⟩

theorem Disciplined.resumeDisconnect {o : Awaited} (h : a.Disciplined) (ht : a.resumeDisconnect j o = some t) :
    t.Disciplined := by
  unfold V202Session.resumeDisconnect at ht
  split at ht <;> cases ht
  · exact h.ended ⟨nofun, nofun⟩
  · exact h.ended ⟨nofun, nofun⟩

theorem Disciplined.reads {p : Option AdapterCall} {f : BleakClient → BleakClient} (h : a.Disciplined)
    (hn : a.Trusted n)
    (hclients : ∀ m, t.clients.get? m = if m = n then (a.clients.get? n).map f else a.clients.get? m)
    (hcalls : ∀ k, t.calls.get? k = if k = j then p else a.calls.get? k)
    (hnext : t.nextClient = a.nextClient) (hnextCall : a.nextCall ≤ t.nextCall ∧ j < t.nextCall)
    (hclient : t.client = a.client)
    (houtcomes : ∀ k o, t.outcomes.get? k = some o → a.outcomes.get? k = some o ∨ o = .returned)
    (hf : ∀ c, Authenticated c.events → Authenticated (f c).events ∧ (c.LetGo → (f c).LetGo))
    (hcall : ∀ x, p = some x → ∃ u rest, x = .reading n u rest ∧ ∀ v ∈ u :: rest, v ∈ characteristics true) :
    t.Disciplined := by
  have halone := h.alone hn
  obtain ⟨c, hc, ha⟩ := hn
  rw [hc] at hclients
  have htrusted : t.Trusted n := ⟨f c, by rw [hclients, if_pos rfl]; rfl, (hf c ha).1⟩
  refine h.update hclients hcalls ⟨hnext.ge, hnextCall.1⟩ (fun k point _ hk => absurd hk (halone k point))
    (fun y hy => ?_)
    (fun x hx => ?_) (fun x hx => ?_) (fun m hm => .inl (hclient ▸ hm)) (fun k o hk => ?_)
  · cases hy
    exact ⟨hnext ▸ (h.clients n c hc).1, .inr (hf c ha).1⟩
  · cases hc.symm.trans hx
    exact ⟨f c, rfl, fun _ => (hf c ha).1, fun _ => (hf c ha).2⟩
  · obtain ⟨u, rest, rfl, hs⟩ := hcall x hx
    exact ⟨hnextCall.2, htrusted, hs⟩
  · refine (houtcomes k o hk).imp_right ?_
    rintro rfl
    trivial

theorem Disciplined.readNext {b : V202Session} {f : BleakClient → BleakClient} (h : a.Disciplined) (hn : a.Trusted n)
    (hclients : ∀ m, b.clients.get? m = if m = n then (a.clients.get? n).map f else a.clients.get? m)
    (hcalls : b.calls = a.calls) (hnext : b.nextClient = a.nextClient)
    (hnextCall : a.nextCall ≤ b.nextCall ∧ j < b.nextCall) (hclient : b.client = a.client)
    (houtcomes : b.outcomes = a.outcomes)
    (hf : ∀ c, Authenticated c.events → Authenticated (f c).events ∧ (c.LetGo → (f c).LetGo)) {us : List Characteristic}
    (hus : ∀ u ∈ us, u ∈ characteristics true) : (b.readNext j n us).Disciplined := by
  cases us with
  | nil =>
    refine h.reads (j := j) (p := none) hn hclients (fun k => ?_) hnext hnextCall hclient (fun k o hk => ?_) hf
      (fun x hx => by cases hx)
    · simp [V202Session.readNext, finish, hcalls]
    · simp only [V202Session.readNext, finish, Dict.get?_set, houtcomes] at hk
      split at hk
      · cases hk
        exact .inr rfl
      · exact .inl hk
  | cons u us =>
    refine h.reads (j := j) (p := some (.reading n u us)) (f := fun c => (f c).note (.asked (.read u))) hn (fun m => ?_)
      (fun k => ?_) hnext hnextCall hclient
      (fun k o hk => .inl ?_) (fun c hc => ⟨?_, (hf c hc).2⟩) (fun x hx => ?_)
    · simp only [V202Session.readNext, await, note, Dict.get?_modify, hclients]
      split
      · simp [Function.comp_def]
      · rfl
    · simp only [V202Session.readNext, await, note, Dict.get?_set, hcalls]
    · exact houtcomes ▸ hk
    · exact (hf c hc).1.append (hus u List.mem_cons_self)
    · cases hx
      exact ⟨u, us, rfl, hus⟩

theorem Disciplined.readSnapshot (h : a.Disciplined) (battery : Bool) : (a.readSnapshot battery).Disciplined := by
  unfold V202Session.readSnapshot
  split
  · exact h.immediate ⟨nofun, nofun⟩
  rename_i n hn
  split
  · refine h.readNext (b := { a with nextCall := a.nextCall + 1 }) (f := id) (h.current n hn) (fun m => ?_) rfl rfl
      ⟨Nat.le_succ _, Nat.lt_succ_self _⟩ rfl rfl
      (fun c hc => ⟨hc, id⟩) (fun u hu => ?_)
    · split <;> simp_all
    · cases battery with
      | false => exact List.mem_cons_of_mem _ hu
      | true => exact hu
  · exact h.immediate ⟨nofun, nofun⟩

theorem Disciplined.resumeRead {u : Characteristic} {rest : List Characteristic} {o : Awaited} (h : a.Disciplined)
    (hj : a.calls.get? j = some (.reading n u rest)) (ht : a.resumeRead j n u rest o = some t) : t.Disciplined := by
  obtain ⟨hn, hus⟩ := h.reading j n u rest hj
  have hrest : ∀ v ∈ rest, v ∈ characteristics true := fun v hv => hus v (List.mem_cons_of_mem _ hv)
  have hskip : (a.readNext j n rest).Disciplined :=
    h.readNext (f := id) hn (fun m => by split <;> simp_all) rfl rfl ⟨le_rfl, h.calls j _ hj⟩ rfl rfl
      (fun c hc => ⟨hc, id⟩) hrest
  unfold V202Session.resumeRead at ht
  split at ht <;> cases ht
  · rename_i value
    exact h.readNext (b := a.note n (.answered (.read u) value)) (f := fun c => c.note (.answered (.read u) value)) hn
      (fun m => Dict.get?_modify ..) rfl rfl ⟨le_rfl, h.calls j _ hj⟩ rfl rfl
      (fun c hc => ⟨hc.append (hus u List.mem_cons_self), id⟩) hrest
  · exact hskip
  · exact hskip
  · exact h.ended ⟨nofun, nofun⟩

theorem Disciplined.linkLost (h : a.Disciplined) (ht : a.linkLost n = some t) : t.Disciplined := by
  obtain ⟨c, hc, ht⟩ := Option.bind_eq_some_iff.mp ht
  split at ht <;> cases ht
  have hmodify := fun m => Dict.get?_modify a.clients n m (fun c => { c with isConnected := false })
  rw [hc] at hmodify
  refine h.update (j := a.nextCall) (p := none) hmodify (fun k => ?_) ⟨le_rfl, le_rfl⟩ (fun k point _ hk => ?_)
    (fun y hy => ?_)
    (fun x hx => ?_) (fun x hx => by cases hx) (fun m hm => by cases hm) (fun k o hk => .inl hk)
  · split
    · rename_i hk
      rw [hk]
      exact h.freshCall
    · rfl
  · obtain ⟨x, hx, hreached⟩ := h.connecting k n point hk
    cases hc.symm.trans hx
    refine ⟨_, rfl, ?_⟩
    cases point <;> exact hreached
  · cases hy
    exact h.clients n c hc
  · cases hc.symm.trans hx
    exact ⟨_, rfl, id, fun _ _ => .inl rfl⟩

theorem Disciplined.linkUp (h : a.Disciplined) (ht : a.linkUp j = some t) : t.Disciplined := by
  obtain ⟨call, hj, ht⟩ := Option.bind_eq_some_iff.mp ht
  split at ht <;> cases ht
  refine h.advance (f := fun c => { c with isConnected := true }) (q := .opening) hj (fun m => Dict.get?_modify ..)
    (fun k => ?_)
    ⟨rfl, rfl⟩ rfl rfl (fun c hc => hc)
  split
  · rename_i hk
    rw [hk]
    exact hj
  · rfl

theorem Disciplined.step {x : SessionAction} (h : a.Disciplined) (ht : a.step x = some t) : t.Disciplined := by
  cases x with
  | discover found =>
    cases ht
    refine h.turn (j := a.nextCall) (p := none) rfl (fun k => ?_) rfl le_rfl (fun x hx => by cases hx) (fun m hm => hm)
      (fun k o hk => .inl hk)
    split
    · rename_i hk
      rw [hk]
      exact h.freshCall
    · rfl
  | connect device =>
    cases ht
    exact h.connect device
  | disconnect =>
    cases ht
    exact h.disconnect
  | readSnapshot battery =>
    cases ht
    exact h.readSnapshot battery
  | resume j o =>
    obtain ⟨call, hj, ht⟩ := Option.bind_eq_some_iff.mp ht
    cases call with
    | connecting n point => exact h.resumeConnect hj ht
    | disconnecting => exact h.resumeDisconnect ht
    | reading n u rest => exact h.resumeRead hj ht
  | linkUp j => exact h.linkUp ht
  | linkLost n => exact h.linkLost ht

end Steps

theorem create_disciplined (next : DiscoveryId) : (create next).Disciplined where
  clients _ _ hc := by cases hc
  connecting _ _ _ hj := by cases hj
  calls _ _ hj := by cases hj
  apart _ _ _ _ _ hj := by cases hj
  reading _ _ _ _ hj := by cases hj
  current _ hn := by cases hn
  connected _ _ hj := by cases hj
  failed _ _ _ hj := by cases hj

theorem disciplined {guard : V202Session → SessionAction → Prop}
    (h : Reaches (fun a => ∃ next, a = .create next) step guard a) :
    a.Disciplined := by
  refine h.invariant ?_ (fun _ _ _ hs _ ht => hs.step ht)
  rintro _ ⟨next, rfl⟩
  exact create_disciplined next

theorem sensors_read_authenticated (h : Reachable (fun a => ∃ next, a = .create next) step a) :
    (∀ n c, a.clients.get? n = some c → Follows c.events) ∧
    (∀ n, a.client = some n → a.Trusted n) ∧
    (∀ j n u rest, a.calls.get? j = some (.reading n u rest) → a.Trusted n) ∧
    (∀ j n, a.outcomes.get? j = some (.connected n) → a.Trusted n) ∧
    ∀ j n e, a.outcomes.get? j = some (.connectFailed n e) → ∃ c, a.clients.get? n = some c ∧ c.LetGo :=
  have hd := disciplined h
  ⟨fun n c hc => (hd.clients n c hc).2, hd.current, fun j n u rest hj => (hd.reading j n u rest hj).1, hd.connected,
    fun j n e hj => (hd.failed j n e hj).1⟩

def sampleCandidate : DiscoveredDevice := ⟨0, "iGrill_V202-1", "igrill-v202", none, none⟩

def sampleRun : List SessionAction :=
  [.discover 1, .connect sampleCandidate, .linkUp 0, .resume 0 (.opened [Adapter.temperatureServiceUuid]),
   .resume 0 .timedOut, .resume 0 (.returned []), .linkLost 0,
   .connect sampleCandidate, .linkUp 1, .resume 1 (.opened [Adapter.temperatureServiceUuid]), .resume 1 (.returned []),
   .resume 1 (.returned (.replicate 16 7)), .resume 1 (.returned []), .readSnapshot true, .resume 2 (.returned [80])]

theorem sensors_read_authenticated_second : ∃ a, replay step (create 0) sampleRun = some a ∧ a.client = some 1 ∧
    (∀ n c, a.clients.get? n = some c → Follows c.events) ∧ a.Trusted 1 := by
  have hrun : ((replay step (create 0) sampleRun).map (·.client)) = some (some 1) := by decide +kernel
  obtain ⟨a, ha, hclient⟩ := Option.map_eq_some_iff.mp hrun
  obtain ⟨hfollows, hcurrent, -⟩ := sensors_read_authenticated (.of_replay (.init ⟨0, rfl⟩) ha)
  exact ⟨a, ha, hclient, hfollows, hcurrent 1 hclient⟩

end V202Session

end PitbluCore
