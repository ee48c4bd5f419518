import PitbluCore.ServiceRules

namespace PitbluCore

open Library Relation

namespace Registry

variable {R R' : Registry}

structure Distinct (R : Registry) : Prop where
  keyed : ∀ d sel, R.rows d = some sel → sel.deviceId = d
  identity : ∀ d d' sel sel' i, R.rows d = some sel → R.rows d' = some sel' → sel.identity = some i →
    sel'.identity = some i → d = d'

def Retained (R R' : Registry) : Prop :=
  ∀ d sel', R'.rows d = some sel' → ∃ sel, R.rows d = some sel ∧ sel.deviceId = sel'.deviceId ∧
    sel.identity = sel'.identity

theorem Distinct.retained (h : R.Distinct) (hr : R.Retained R') : R'.Distinct := by
  constructor
  · intro d sel' hd
    obtain ⟨sel, hsel, hid, -⟩ := hr d sel' hd
    exact hid ▸ h.keyed d sel hsel
  · intro d d' sel sel' i hd hd' hi hi'
    obtain ⟨old, hold, -, he⟩ := hr d sel hd
    obtain ⟨old', hold', -, he'⟩ := hr d' sel' hd'
    exact h.identity d d' old old' i hold hold' (he.trans hi) (he'.trans hi')

theorem retained_of_rows (h : R'.rows = R.rows) : R.Retained R' := by
  intro d sel hd
  rw [h] at hd
  exact ⟨sel, hd, rfl, rfl⟩

theorem Distinct.assign (h : R.Distinct) {d : DeviceId} (sel : Selection) (hid : sel.deviceId = d)
    (hi : ∀ i, sel.identity = some i → ∀ d' sel', d' ≠ d → R.rows d' = some sel' → sel'.identity ≠ some i)
    (hr : ∀ d' sel', R'.rows d' = some sel' → d' = d ∧ sel' = sel ∨ d' ≠ d ∧ R.rows d' = some sel') : R'.Distinct := by
  constructor
  · intro d' sel' hd
    rcases hr d' sel' hd with ⟨rfl, rfl⟩ | ⟨-, hold⟩
    · exact hid
    · exact h.keyed d' sel' hold
  · intro d₁ d₂ sel₁ sel₂ i h₁ h₂ hi₁ hi₂
    rcases hr d₁ sel₁ h₁ with ⟨rfl, rfl⟩ | ⟨hne₁, hold₁⟩
    · rcases hr d₂ sel₂ h₂ with ⟨rfl, rfl⟩ | ⟨hne₂, hold₂⟩
      · rfl
      · exact absurd hi₂ (hi i hi₁ d₂ sel₂ hne₂ hold₂)
    · rcases hr d₂ sel₂ h₂ with ⟨rfl, rfl⟩ | ⟨-, hold₂⟩
      · exact absurd hi₁ (hi i hi₂ d₁ sel₁ hne₁ hold₁)
      · exact h.identity d₁ d₂ sel₁ sel₂ i hold₁ hold₂ hi₁ hi₂

end Registry

namespace Service

variable {G : Guards} {s s' : Service} {t : TaskId} {task : Task} {n : OperationId}

section Fields

theorem registry_markOperation (id : OperationId) (status : OperationStatus) (error : Option ErrorCode) (now : Time) :
    (s.markOperation id status error now).registry = s.registry := by
  unfold markOperation
  split <;> rfl

theorem registry_scheduleEvent (id : OperationId) : (s.scheduleEvent id).registry = s.registry := by
  rcases scheduleEvent_eq (s := s) id with he | ⟨row, he⟩ <;> rw [he]
  rfl

theorem registry_scheduleRecovery (d : DeviceId) (immediate : Bool) :
    (s.scheduleRecovery d immediate).registry = s.registry := by
  unfold scheduleRecovery
  split <;> rfl

theorem registry_startPolling (d : DeviceId) : (s.startPolling d).registry = s.registry := by
  unfold startPolling
  dsimp only
  split <;> rfl

theorem registry_setDesired (d : DeviceId) (desired : DesiredState) (observed : ConnectionState) :
    (s.setDesired d desired observed).registry = s.registry := registry_updateDevice (fun _ => rfl)

theorem registry_setObserved (d : DeviceId) (state : ConnectionState) :
    (s.setObserved d state).registry = s.registry := registry_updateDevice (fun _ => rfl)

theorem rows_updateDevice {d d' : DeviceId} {f : DeviceRow → DeviceRow} :
    (s.updateDevice d f).registry.rows d' =
      if d' = d then (s.store.device d).map (fun row => (f row).selection) else s.registry.rows d' := by
  by_cases hd : d' = d <;> simp [registry, updateDevice, hd, Function.comp_def]

theorem rows_removeDevice (d d' : DeviceId) (now : Time) :
    (s.removeDevice d now).registry.rows d' = if d' = d then none else s.registry.rows d' := by
  simp only [registry, removeDevice, AdministrativeStore.device_deleteDevice]
  split <;> rfl

theorem rows_register (row : DeviceRow) (trace : List TraceItem) (d : DeviceId) :
    ({ s with store := s.store.saveDevice row, trace := trace } : Service).registry.rows d =
      if d = row.deviceId then some row.selection else s.registry.rows d := by
  simp only [registry, AdministrativeStore.device_saveDevice]
  split <;> rfl

theorem registry_startDevice (now : Time) (row : DeviceRow) : (s.startDevice now row).registry = s.registry := by
  have hset : ((s.registerHeartbeat row.deviceId row.desiredState now).setObserved row.deviceId
      .disconnected).registry = s.registry := registry_setObserved _ _
  unfold startDevice
  dsimp only
  split
  · rw [registry_scheduleRecovery]
    exact hset
  · exact hset

theorem registry_start (boot : Service) (now : Time) : (boot.start now).registry = boot.registry := by
  have hfold : ∀ (l : List DeviceRow) (m : Service),
      (l.foldl (fun s row => s.startDevice now row) m).registry = m.registry := by
    intro l
    induction l with
    | nil => exact fun _ => rfl
    | cons row l ih => exact fun m => (ih _).trans (registry_startDevice now row)
  exact hfold _ _

theorem row_of_rows {d : DeviceId} {sel : Selection} (h : s.registry.rows d = some sel) :
    ∃ row, s.store.device d = some row ∧ row.selection = sel := Option.map_eq_some_iff.mp h

end Fields

section Identities

def Keyed (s : Service) : Prop := ∀ d row, s.store.device d = some row → row.deviceId = d

def IdentitiesDistinct (s : Service) : Prop :=
  ∀ d d' row row' i, s.store.device d = some row → s.store.device d' = some row' → row.identity = some i →
    row'.identity = some i → d = d'

theorem distinct_iff : s.registry.Distinct ↔ s.Keyed ∧ s.IdentitiesDistinct := by
  constructor
  · intro h
    refine ⟨fun d row hd => ?_, fun d d' row row' i hd hd' => ?_⟩
    · exact h.keyed d row.selection (by simp [registry, hd])
    · exact h.identity d d' row.selection row'.selection i (by simp [registry, hd]) (by simp [registry, hd'])
  · rintro ⟨hk, hi⟩
    constructor
    · intro d sel hd
      obtain ⟨row, hrow, rfl⟩ := row_of_rows hd
      exact hk d row hrow
    · intro d d' sel sel' i hd hd'
      obtain ⟨row, hrow, rfl⟩ := row_of_rows hd
      obtain ⟨row', hrow', rfl⟩ := row_of_rows hd'
      exact hi d d' row row' i hrow hrow'

theorem retained_removeDevice (d : DeviceId) (now : Time) : s.registry.Retained (s.removeDevice d now).registry := by
  intro d' sel hd
  rw [rows_removeDevice] at hd
  exact ⟨sel, (Option.ite_none_left_eq_some.mp hd).2, rfl, rfl⟩

theorem retained_select (d : DeviceId) (c : DiscoveredDevice) :
    s.registry.Retained (s.updateDevice d (fun row => { row with discoveryId := c.discoveryId })).registry := by
  intro d' sel hd
  rw [rows_updateDevice] at hd
  split at hd
  · rename_i he
    subst he
    obtain ⟨row, hrow, rfl⟩ := Option.map_eq_some_iff.mp hd
    exact ⟨row.selection, by simp [registry, hrow], rfl, rfl⟩
  · exact ⟨sel, hd, rfl, rfl⟩

theorem retained_move (hm : Move G t task n s s') : s.registry.Retained s'.registry := by
  cases hm with
  | quiet hq => exact Registry.retained_of_rows (congrArg Registry.rows hq.registry)
  | select _ _ => exact retained_select _ _
  | mark _ status error now _ =>
    exact Registry.retained_of_rows (congrArg Registry.rows (registry_markOperation _ status error now))
  | event id => exact Registry.retained_of_rows (congrArg Registry.rows (registry_scheduleEvent id))
  | scheduleRecovery d immediate _ _ _ _ =>
    exact Registry.retained_of_rows (congrArg Registry.rows (registry_scheduleRecovery d immediate))
  | startPolling _ _ => exact Registry.retained_of_rows (congrArg Registry.rows (registry_startPolling _))
  | commit observed _ _ _ _ =>
    exact Registry.retained_of_rows (congrArg Registry.rows (registry_setDesired _ .connected observed))
  | disconnected _ _ =>
    exact Registry.retained_of_rows (congrArg Registry.rows (registry_setDesired _ .disconnected .disconnected))
  | @releaseAdapter call id _ _ _ _ _ =>
    have hr := registry_setDesired (s := s.releaseAdapter id) call.device .disconnected .disconnected
    refine Registry.retained_of_rows ?_
    rw [hr]
    rfl
  | remove now _ _ _ => exact retained_removeDevice _ now
  | removeConnected now _ _ _ _ _ => exact retained_removeDevice (s := s.release.setConnected none) _ now
  | _ => exact Registry.retained_of_rows rfl

theorem park_registry (hp : Park G t task n s s') : s'.registry = s.registry := by cases hp <;> rfl

theorem selectIdentity_ok {d : DeviceId} {id : DiscoveryId} {candidate : Option DiscoveredDevice}
    (h : s.selectIdentity d (some id) = .ok candidate) :
    s.owner ≠ some d ∧ ∃ c, candidate = some c ∧ s.candidates.get? id = some c ∧
      ∀ i, c.identity = some i → ∀ row ∈ s.store.devices.values, row.deviceId ≠ d → row.identity ≠ some i := by
  unfold selectIdentity at h
  dsimp only at h
  split at h
  · cases h
  · rename_i ho
    split at h
    · cases h
    · rename_i c hc
      split at h
      · cases h
      · rename_i hnew
        cases h
        refine ⟨ho, c, rfl, hc, fun i hi row hrow hd he => hnew ?_⟩
        rw [hi, Option.isSome_some, Bool.true_and]
        exact List.any_eq_true.mpr ⟨row, hrow, by simp [hd, he]⟩

theorem distinct_patch (h : s.registry.Distinct) {d : DeviceId} {patch : DevicePatch}
    {candidate : Option DiscoveredDevice} (hs : s.selectIdentity d patch.discoveryId = .ok candidate) :
    (s.updateDevice d (patchRow patch candidate)).registry.Distinct := by
  cases hp : patch.discoveryId with
  | none =>
    rw [hp] at hs
    cases hs
    exact h.retained (Registry.retained_of_rows (congrArg Registry.rows (registry_updateDevice (fun _ => rfl))))
  | some id =>
    rw [hp] at hs
    obtain ⟨-, c, rfl, hc, hnew⟩ := selectIdentity_ok hs
    cases hd : s.store.device d with
    | none =>
      refine h.retained (fun d' sel hsel => ?_)
      rw [rows_updateDevice, hd] at hsel
      exact ⟨sel, (Option.ite_none_left_eq_some.mp hsel).2, rfl, rfl⟩
    | some row =>
      have hkey : row.deviceId = d := h.keyed d row.selection (by simp [registry, hd])
      refine h.assign (patchRow patch (some c) row).selection hkey ?_ ?_
      · intro i hi d' sel' hne hsel hi'
        obtain ⟨other, hother, rfl⟩ := row_of_rows hsel
        have hkey' : other.deviceId = d' := h.keyed d' _ hsel
        exact hnew i hi other (Dict.mem_values_iff.mpr ⟨d', hother⟩) (by rwa [hkey']) hi'
      · intro d' sel' hsel
        rw [rows_updateDevice, hd] at hsel
        split at hsel
        · rename_i he
          exact .inl ⟨he, (Option.some.inj hsel).symm⟩
        · rename_i hne
          exact .inr ⟨hne, hsel⟩

theorem distinct_register (h : s.registry.Distinct) {row : DeviceRow}
    (hi : ∀ i, row.identity = some i → ∀ other ∈ s.store.devices.values, other.identity ≠ some i)
    (trace : List TraceItem) :
    ({ s with store := s.store.saveDevice row, trace := trace } : Service).registry.Distinct := by
  refine h.assign row.selection rfl ?_ ?_
  · intro i hrow d' sel' _ hsel
    obtain ⟨other, hother, rfl⟩ := row_of_rows hsel
    exact hi i hrow other (Dict.mem_values_iff.mpr ⟨d', hother⟩)
  · intro d' sel' hsel
    rw [rows_register] at hsel
    split at hsel
    · rename_i he
      exact .inl ⟨he, (Option.some.inj hsel).symm⟩
    · rename_i hne
      exact .inr ⟨hne, hsel⟩

theorem distinct_request (h : s.registry.Distinct) (hr : Request G s s') : s'.registry.Distinct := by
  cases hr with
  | quiet hq =>
    rw [hq.registry]
    exact h
  | register row _ _ _ _ hi => exact distinct_register h hi (.registered row.deviceId :: s.trace)
  | patch d patch candidate _ hs => exact distinct_patch h hs
  | delete now _ _ _ _ => exact h.retained (retained_removeDevice _ now)
  | @accept d action now _ _ _ _ =>
    have hu := registry_updateDevice (s := s) (d := d) (f := fun row => { row with desiredState := action.desired })
      (fun _ => rfl)
    exact h.retained (Registry.retained_of_rows (congrArg Registry.rows hu))
  | @adopt d _ =>
    rw [registry_scheduleRecovery]
    exact h
  | _ => exact h

theorem preserved_distinct : Preserved G (fun s => s.registry.Distinct) where
  move _ _ h hm := h.retained (retained_move hm)
  park _ _ h hp := by
    rw [park_registry hp]
    exact h
  request _ h hr := distinct_request h hr
  restart _ _ h := h.retained (Registry.retained_of_rows rfl)

def StartedDistinct (s : Service) : Prop := Started s ∧ s.Keyed ∧ s.IdentitiesDistinct

def Rejects (s : Service) : Action → Prop
  | .register id friendlyName automatic suffix now =>
    ∃ e, s.register id friendlyName automatic suffix now = .error e
  | .patchDevice d patch => ∃ e, s.patchDevice d patch = .error e
  | _ => False

theorem identities_distinct (h : Reachable StartedDistinct step s) :
    s.IdentitiesDistinct ∧ ∀ a s', s.Rejects a → s.step a = some s' → s'.store = s.store := by
  have hd : s.registry.Distinct := by
    refine (preserved_distinct.reaches (G := {}) (fun _ hs => hs.1) ?_ (fun _ _ _ => {}) h).2
    intro boot now hb hs
    have hstart : (boot.start now).registry.Distinct := distinct_iff.mpr hs.2
    rw [registry_start] at hstart
    exact hstart.retained (Registry.retained_of_rows rfl)
  refine ⟨(distinct_iff.mp hd).2, fun a s' hr hs => ?_⟩
  cases a with
  | register | patchDevice =>
    obtain ⟨e, he⟩ := hr
    simp only [step, he] at hs
    cases hs
    rfl
  | _ => exact hr.elim

theorem firstSession_startedDistinct : StartedDistinct firstSession := by
  refine ⟨firstSession_started, fun d row hd => ?_, fun d d' row row' i hd => ?_⟩ <;> cases hd

theorem identities_distinct_registerBoth :
    ∃ s, replay step firstSession registerBoth = some s ∧ s.store.devices.keys.length = 2 ∧ s.IdentitiesDistinct := by
  have hrun : (replay step firstSession registerBoth).map (fun s => s.store.devices.keys.length) = some 2 := by
    decide +kernel
  obtain ⟨s, hs, hl⟩ := Option.map_eq_some_iff.mp hrun
  exact ⟨s, hs, hl, (identities_distinct (.of_replay (.init firstSession_startedDistinct) hs)).1⟩

end Identities

section Candidates

def latestFound (trace : List TraceItem) : List DiscoveredDevice :=
  (trace.findSome? (fun item => match item with
    | .discovered found => some found
    | _ => none)).getD []

/-- Each call of `connect` passes a candidate of the latest scan, which the adapter knows and which has
the identity stored for the device. -/
def CallsKnown (trace : List TraceItem) : Prop :=
  ∀ D c current identity rest, .connectCalled D c current identity :: rest <:+ trace →
    c ∈ latestFound rest ∧ current = true ∧ ∀ i, identity = some i → c.identity = some i

theorem CallsKnown.cons {trace : List TraceItem} (h : CallsKnown trace) {item : TraceItem}
    (hi : ∀ D c current identity, item ≠ .connectCalled D c current identity) : CallsKnown (item :: trace) := by
  intro D c current identity rest hr
  rcases List.suffix_cons_iff.mp hr with he | hr
  · exact absurd (List.cons.inj he).1.symm (hi D c current identity)
  · exact h D c current identity rest hr

end Candidates

end Service

namespace Registry

variable {R R' : Registry} {found : List DiscoveredDevice} {sel : Selection} {task : Task}

def Known (R : Registry) (found : List DiscoveredDevice) : Prop :=
  ∀ id c, R.candidates.get? id = some c →
    c.discoveryId = id ∧ id < R.nextDiscoveryId ∧ c ∈ found ∧ id ∈ R.nativeById ∧ c.model = "igrill-v202"

def Selected (R : Registry) (sel : Selection) : Prop :=
  sel.discoveryId < R.nextDiscoveryId ∧ ∀ c, R.candidates.get? sel.discoveryId = some c → c.identity = sel.identity

structure Anchors (R : Registry) (task : Task) : Prop where
  selected : ∀ call row point, task.frame = .procedure call row point → R.Selected row.selection
  identity : ∀ call row point, task.frame = .procedure call row point → call.action ≠ .disconnect →
    task.cancelled = false → ∀ sel, R.rows call.device = some sel → sel.identity = row.identity

structure Forward (R R' : Registry) : Prop where
  next : R.nextDiscoveryId ≤ R'.nextDiscoveryId
  candidates : ∀ id c, id < R.nextDiscoveryId → R'.candidates.get? id = some c → R.candidates.get? id = some c

theorem forward_of_candidates (hn : R'.nextDiscoveryId = R.nextDiscoveryId)
    (hc : ∀ id c, R'.candidates.get? id = some c → R.candidates.get? id = some c) : R.Forward R' :=
  ⟨hn.ge, fun id c _ => hc id c⟩

theorem Selected.forward (h : R.Selected sel) (hf : R.Forward R') : R'.Selected sel :=
  ⟨lt_of_lt_of_le h.1 hf.next, fun c hc => h.2 c (hf.candidates _ c h.1 hc)⟩

theorem Anchors.cancel (h : R.Anchors task) : R.Anchors task.cancel := by
  constructor
  · intro call row point hf
    rw [Task.cancel_frame] at hf
    exact h.selected call row point hf
  · intro call row point hf _ hc
    rw [Task.cancel_frame] at hf
    unfold Task.cancel at hc
    rw [hf] at hc
    cases hc

theorem anchors_of_other {f : Frame} (h : ∀ call row point, f ≠ .procedure call row point) : R.Anchors ⟨f, false⟩ :=
  ⟨fun call row point hf => absurd hf (h call row point), fun call row point hf => absurd hf (h call row point)⟩

end Registry

def Task.connects (device : DeviceId) (task : Task) : Bool :=
  match task.frame with
  | .procedure call _ _ => !task.cancelled && call.action ≠ .disconnect && call.device = device
  | _ => false

namespace Registry

variable {R R' : Registry} {task : Task}

theorem Anchors.forward (h : R.Anchors task) (hf : R.Forward R')
    (hi : ∀ d sel', task.connects d = true → R'.rows d = some sel' →
      ∃ sel, R.rows d = some sel ∧ sel.identity = sel'.identity) : R'.Anchors task := by
  constructor
  · intro call row point hk
    exact (h.selected call row point hk).forward hf
  · intro call row point hk ha hc sel' hsel'
    obtain ⟨sel, hsel, he⟩ := hi call.device sel' (by simp [Task.connects, hk, ha, hc]) hsel'
    exact he.symm.trans (h.identity call row point hk ha hc sel hsel)

end Registry

namespace Service

variable {G : Guards} {s s' : Service} {t : TaskId} {task : Task} {n : OperationId}

section Sources

structure Sourced (s : Service) : Prop where
  known : s.registry.Known (latestFound s.trace)
  rows : ∀ d sel, s.registry.rows d = some sel → s.registry.Selected sel
  tasks : s.Each s.registry.Anchors
  calls : CallsKnown s.trace

theorem Sourced.forward (h : s.Sourced) (hf : s.registry.Forward s'.registry)
    (hknown : s'.registry.Known (latestFound s'.trace)) (hcalls : CallsKnown s'.trace)
    (hrows : ∀ d sel, s'.registry.rows d = some sel → s'.registry.Selected sel ∨ s.registry.rows d = some sel)
    (hk : s'.Each s.registry.Anchors)
    (hi : ∀ u k d sel', s'.tasks.get? u = some k → k.connects d = true → s'.registry.rows d = some sel' →
      ∃ sel, s.registry.rows d = some sel ∧ sel.identity = sel'.identity) : s'.Sourced := by
  refine ⟨hknown, fun d sel hsel => ?_, fun u k hu => ?_, hcalls⟩
  · rcases hrows d sel hsel with hnew | hold
    · exact hnew
    · exact (h.rows d sel hold).forward hf
  · exact (hk u k hu).forward hf (fun d sel' hc hsel => hi u k d sel' hu hc hsel)

theorem Sourced.drop (h : s.Sourced) (hn : s'.adapter.nextDiscoveryId = s.adapter.nextDiscoveryId)
    (hnat : s'.adapter.nativeById = s.adapter.nativeById)
    (hc : ∀ id c, s'.candidates.get? id = some c → s.candidates.get? id = some c)
    (hrows : ∀ d sel, s'.registry.rows d = some sel → s.registry.rows d = some sel)
    (hl : latestFound s'.trace = latestFound s.trace) (hcalls : CallsKnown s'.trace)
    (hk : s'.Each s.registry.Anchors) : s'.Sourced := by
  refine h.forward (Registry.forward_of_candidates hn hc) ?_ hcalls (fun d sel hsel => .inr (hrows d sel hsel)) hk ?_
  · intro id c hget
    obtain ⟨hid, hlt, hfound, hnative, hm⟩ := h.known id c (hc id c hget)
    rw [hl]
    have hnat' : s'.registry.nativeById = s.registry.nativeById := hnat
    exact ⟨hid, hlt.trans_eq hn.symm, hfound, by rwa [hnat'], hm⟩
  · intro u k d sel' _ _ hsel
    exact ⟨sel', hrows d sel' hsel, rfl⟩

theorem Sourced.same (h : s.Sourced) (hr : s'.registry = s.registry) (ht : s'.trace = s.trace)
    (hk : s'.Each s.registry.Anchors) : s'.Sourced := by
  refine h.drop (congrArg Registry.nextDiscoveryId hr) (congrArg Registry.nativeById hr) ?_ ?_ (by rw [ht]) ?_ hk
  · intro id c hget
    rwa [show s'.candidates = s.candidates from congrArg Registry.candidates hr] at hget
  · rw [hr]
    exact fun _ _ => id
  · rw [ht]
    exact h.calls

theorem Sourced.selects (h : s.Sourced) (hk : s.tasks.get? t = some task) {d : DeviceId} {c : DiscoveredDevice}
    (hs : Selects s task.frame d c) (hc : task.cancelled = false) :
    s.candidates.get? c.discoveryId = some c ∧ ∀ sel, s.registry.rows d = some sel → sel.identity = c.identity := by
  obtain ⟨frame, cancelled⟩ := task
  have ha := h.tasks t _ hk
  cases hs with
  | @cached call row c hx hget =>
    have hid := (h.known _ _ hget).1
    refine ⟨by rwa [hid], fun sel hsel => ?_⟩
    have hrow := (ha.selected call row .lockConnect rfl).2 c hget
    exact (ha.identity call row .lockConnect rfl hx hc sel hsel).trans hrow.symm
  | @resolved call row point c hx hget hi =>
    exact ⟨hget, fun sel hsel => (ha.identity call row point rfl hx hc sel hsel).trans hi.symm⟩

theorem Sourced.discover (h : s.Sourced) (results : List Advertisement) : (s.discover results).Sourced := by
  refine h.forward ⟨Nat.le_add_right _ _, fun id c hlt hc => ?_⟩ ?_ (h.calls.cons (by simp))
    (fun d sel hsel => .inr hsel) h.tasks (fun u k d sel _ _ hsel => ⟨sel, hsel, rfl⟩)
  · obtain ⟨hmem, rfl⟩ := candidates_discover_iff.mp hc
    exact absurd hlt (not_lt_of_ge (Adapter.candidate_id hmem).1)
  · intro id c hc
    obtain ⟨hmem, rfl⟩ := candidates_discover_iff.mp hc
    obtain ⟨-, hlt, hcur⟩ := Adapter.candidate_id hmem
    obtain ⟨hnative, hmodel⟩ := (Bool.and_eq_true _ _).mp hcur
    exact ⟨rfl, hlt, hmem, List.contains_iff_mem.mp hnative, by simpa using hmodel⟩

theorem Sourced.select (h : s.Sourced) (hk : s.tasks.get? t = some task) {d : DeviceId} {c : DiscoveredDevice}
    (hs : Selects s task.frame d c) (hc : task.cancelled = false) :
    (s.updateDevice d (fun row => { row with discoveryId := c.discoveryId })).Sourced := by
  obtain ⟨hget, hi⟩ := h.selects hk hs hc
  refine h.forward (Registry.forward_of_candidates rfl (fun _ _ => id)) h.known h.calls (fun d' sel hsel => ?_) h.tasks
    (fun u k d' sel' _ _ hsel => ?_)
  · rw [rows_updateDevice] at hsel
    split at hsel
    · obtain ⟨row, hrow, rfl⟩ := Option.map_eq_some_iff.mp hsel
      left
      refine ⟨(h.known _ _ hget).2.1, fun c' hget' => ?_⟩
      obtain rfl : c = c' := Option.some.inj (hget.symm.trans hget')
      exact (hi row.selection (by simp [registry, hrow])).symm
    · exact .inr hsel
  · obtain ⟨sel, hold, -, he⟩ := retained_select d c d' sel' hsel
    exact ⟨sel, hold, he⟩

theorem Sourced.connectCalled (h : s.Sourced) (hk : s.tasks.get? t = some task) {d : DeviceId} {c : DiscoveredDevice}
    (hs : Selects s task.frame d c) (hc : task.cancelled = false) : (s.logConnect d c).Sourced := by
  obtain ⟨hget, hi⟩ := h.selects hk hs hc
  obtain ⟨-, -, hfound, hnative, hmodel⟩ := h.known _ _ hget
  refine ⟨h.known, h.rows, h.tasks, fun D c' current identity rest hr => ?_⟩
  rcases List.suffix_cons_iff.mp hr with he | hr
  · obtain ⟨hitem, rfl⟩ := List.cons.inj he
    cases hitem
    refine ⟨hfound, ?_, fun i hid => ?_⟩
    · rw [Adapter.current, Bool.and_eq_true]
      exact ⟨List.contains_iff_mem.mpr hnative, by simpa using hmodel⟩
    · obtain ⟨row, hrow, hid⟩ := Option.bind_eq_some_iff.mp hid
      exact (hi row.selection (by simp [registry, hrow])).symm.trans hid
  · exact h.calls D c' current identity rest hr

theorem Sourced.removeDevice (h : s.Sourced) (d : DeviceId) (now : Time) : (s.removeDevice d now).Sourced := by
  refine h.drop rfl rfl (fun _ _ => id) (fun d' sel hsel => ?_) rfl (h.calls.cons (by simp)) h.tasks
  rw [rows_removeDevice] at hsel
  exact (Option.ite_none_left_eq_some.mp hsel).2

theorem Sourced.move (h : s.Sourced) (hk : s.tasks.get? t = some task) (hm : Move G t task n s s') : s'.Sourced := by
  have ht : s'.Each s.registry.Anchors := by
    refine h.tasks.move hm (fun _ hc => hc.cancel) (fun f hf => ?_)
    cases hf <;> exact Registry.anchors_of_other (by simp)
  cases hm with
  | quiet hq => exact h.same hq.registry (congrArg Control.trace hq.control) ht
  | discover results => exact h.discover results
  | select hs hc => exact h.select hk hs hc
  | connectCalled hs hc => exact h.connectCalled hk hs hc
  | succeeded _ | attempt _ _ | record _ _ _ _ _ _ _ => exact ⟨h.known, h.rows, h.tasks, h.calls.cons (by simp)⟩
  | mark _ status error now _ =>
    exact h.same (registry_markOperation _ status error now) (steady_markOperation _ status error now).trace ht
  | event id => exact h.same (registry_scheduleEvent id) (steady_scheduleEvent id).trace ht
  | scheduleRecovery d immediate _ _ _ _ =>
    exact h.same (registry_scheduleRecovery d immediate) (steady_scheduleRecovery d immediate).trace ht
  | startPolling _ _ => exact h.same (registry_startPolling _) (steady_startPolling _).trace ht
  | commit observed _ _ _ _ => exact h.same (registry_setDesired _ .connected observed) rfl ht
  | disconnected _ _ => exact h.same (registry_setDesired _ .disconnected .disconnected) rfl ht
  | @releaseAdapter call id _ _ _ _ _ =>
    have hr := registry_setDesired (s := s.releaseAdapter id) call.device .disconnected .disconnected
    refine h.drop rfl rfl (fun id' c hget => ?_) (fun d sel hsel => ?_) rfl h.calls ht
    · exact (Option.ite_none_left_eq_some.mp ((Dict.get?_erase _ _ _).symm.trans hget)).2
    · rw [hr] at hsel
      exact hsel
  | remove now _ _ _ => exact h.removeDevice _ now
  | removeConnected now _ _ _ _ _ =>
    have hm : (s.release.setConnected none).Sourced := ⟨h.known, h.rows, h.tasks, h.calls⟩
    exact hm.removeDevice _ now
  | _ => exact h.same rfl rfl ht

theorem Sourced.park (h : s.Sourced) (hk : s.tasks.get? t = some task) (hp : Park G t task n s s') : s'.Sourced := by
  have ht : s'.Each s.registry.Anchors := by
    refine h.tasks.park hk hp (fun f hf hc => ?_)
    have hbegun : ∀ call row point, f = .procedure call row point → s.registry.Selected row.selection ∧
        (call.action ≠ .disconnect → ∀ sel, s.registry.rows call.device = some sel → sel.identity = row.identity) := by
      intro call row point he
      rcases hf.row call row point he with ⟨point', hold⟩ | ⟨hrow, -⟩
      · have ha := h.tasks t task hk
        exact ⟨ha.selected call row point' hold, fun hx => ha.identity call row point' hold hx hc⟩
      · refine ⟨h.rows _ _ hrow, fun _ sel hsel => ?_⟩
        obtain rfl : sel = row.selection := Option.some.inj (hsel.symm.trans hrow)
        rfl
    exact ⟨fun call row point he => (hbegun call row point he).1,
      fun call row point he hx _ => (hbegun call row point he).2 hx⟩
  have htrace : s'.trace = s.trace := by cases hp <;> rfl
  exact h.same (park_registry hp) htrace ht

def Unread (d : DeviceId) (tasks : Dict TaskId Task) : Prop :=
  ∀ u task, tasks.get? u = some task → task.connects d = false

def registryGuards : Guards where
  register := Unread
  patch d patch tasks := patch.discoveryId.isSome → Unread d tasks

theorem Sourced.register (h : s.Sourced) {row : DeviceRow}
    (hc : ∃ c, s.candidates.get? row.discoveryId = some c ∧ row.identity = c.identity)
    (hx : Unread row.deviceId s.tasks) :
    ({ s with store := s.store.saveDevice row, trace := .registered row.deviceId :: s.trace } : Service).Sourced := by
  refine h.forward (Registry.forward_of_candidates rfl (fun _ _ => id)) h.known (h.calls.cons (by simp))
    (fun d sel hsel => ?_) h.tasks (fun u k d sel hk hcon hsel => ?_)
  · rw [rows_register] at hsel
    split at hsel
    · cases hsel
      obtain ⟨c, hget, hi⟩ := hc
      left
      refine ⟨(h.known _ _ hget).2.1, fun c' hget' => ?_⟩
      obtain rfl : c = c' := Option.some.inj (hget.symm.trans hget')
      exact hi.symm
    · exact .inr hsel
  · rw [rows_register] at hsel
    split at hsel
    · rename_i hd
      subst hd
      cases (hx u k hk).symm.trans hcon
    · exact ⟨sel, hsel, rfl⟩

theorem Sourced.patch (h : s.Sourced) {d : DeviceId} {patch : DevicePatch} {candidate : Option DiscoveredDevice}
    (hs : s.selectIdentity d patch.discoveryId = .ok candidate)
    (hx : patch.discoveryId.isSome → Unread d s.tasks) : (s.updateDevice d (patchRow patch candidate)).Sourced := by
  cases hp : patch.discoveryId with
  | none =>
    rw [hp] at hs
    cases hs
    exact h.same (registry_updateDevice (fun _ => rfl)) rfl h.tasks
  | some id =>
    rw [hp] at hs hx
    obtain ⟨-, c, rfl, hget, -⟩ := selectIdentity_ok hs
    obtain rfl : c.discoveryId = id := (h.known _ _ hget).1
    refine h.forward (Registry.forward_of_candidates rfl (fun _ _ => fun hc => hc)) h.known h.calls
      (fun d' sel hsel => ?_) h.tasks (fun u k d' sel hk hcon hsel => ?_)
    · rw [rows_updateDevice] at hsel
      split at hsel
      · obtain ⟨row, hrow, rfl⟩ := Option.map_eq_some_iff.mp hsel
        left
        refine ⟨(h.known _ _ hget).2.1, fun c' hget' => ?_⟩
        obtain rfl : c = c' := Option.some.inj (hget.symm.trans hget')
        rfl
      · exact .inr hsel
    · rw [rows_updateDevice] at hsel
      split at hsel
      · rename_i hd
        subst hd
        cases (hx rfl u k hk).symm.trans hcon
      · exact ⟨sel, hsel, rfl⟩

theorem Sourced.request (h : s.Sourced) (hr : Request registryGuards s s') : s'.Sourced := by
  have ht : s'.Each s.registry.Anchors := by
    refine h.tasks.request hr (fun _ hc => hc.cancel) (fun f hf => ?_)
    cases hf <;> exact Registry.anchors_of_other (by simp)
  cases hr with
  | quiet hq => exact h.same hq.registry (congrArg Control.trace hq.control) ht
  | register row _ _ _ hc _ hx =>
    have hrow := h.register hc hx
    exact hrow.same rfl rfl (hrow.tasks.of_set rfl (Registry.anchors_of_other (by simp)))
  | patch d patch candidate _ hs hx => exact h.patch hs hx
  | delete now _ _ _ _ => exact h.removeDevice _ now
  | join _ _ => exact ⟨h.known, h.rows, h.tasks, h.calls.cons (by simp)⟩
  | @accept d action now _ _ _ _ =>
    have hu := registry_updateDevice (s := s) (d := d) (f := fun row => { row with desiredState := action.desired })
      (fun _ => rfl)
    refine h.drop rfl rfl (fun _ _ => id) (fun d' sel hsel => ?_) rfl (h.calls.cons (by simp)) ht
    exact (congrFun (congrArg Registry.rows hu) d').symm.trans hsel
  | @adopt d _ =>
    exact h.same (registry_scheduleRecovery d true) (steady_scheduleRecovery d true).trace ht
  | _ => exact h.same rfl rfl ht

theorem sourced_startDiscovery {boot : Service} (hc : boot.candidates = Dict.empty) (ht : boot.tasks = Dict.empty)
    (hrows : ∀ d sel, boot.registry.rows d = some sel → sel.discoveryId < boot.adapter.nextDiscoveryId)
    (hcalls : CallsKnown boot.trace) (now : Time) : (boot.startDiscovery now).Sourced := by
  have hnone : ∀ id c, (boot.startDiscovery now).registry.candidates.get? id ≠ some c := by
    intro id c hget
    have hget' : boot.candidates.get? id = some c := hget
    rw [hc] at hget'
    cases hget'
  refine ⟨fun id c hget => absurd hget (hnone id c), fun d sel hsel => ?_, ?_, hcalls⟩
  · exact ⟨hrows d sel hsel, fun c hget => absurd hget (hnone _ c)⟩
  · refine Each.of_set (s := boot) (f := .discovery .starting) (fun u task hk => ?_) rfl
      (Registry.anchors_of_other (by simp))
    rw [ht] at hk
    cases hk

theorem preserved_sourced : Preserved registryGuards Sourced where
  move _ hk h hm := h.move hk hm
  park _ hk h hp := h.park hk hp
  request _ h hr := h.request hr
  restart {s} now _ h := by
    have hrows : ∀ d sel, s.successor.registry.rows d = some sel → sel.discoveryId < s.adapter.nextDiscoveryId :=
      fun d sel hsel => (h.rows d sel hsel).1
    exact @sourced_startDiscovery s.successor rfl rfl hrows h.calls now

def identifies (s : Service) : Action → Option DeviceId
  | .register id friendlyName automatic suffix now =>
    (s.register id friendlyName automatic suffix now).toOption.map Prod.snd
  | .patchDevice d patch => if patch.discoveryId.isSome && (s.patchDevice d patch).toOption.isSome then some d else none
  | _ => none

/-- A device gets its identity only while no procedure has read its row and goes on to connect. -/
def Settles (s : Service) (a : Action) : Prop := ∀ d, s.identifies a = some d → Unread d s.tasks

instance (d : DeviceId) (tasks : Dict TaskId Task) : Decidable (Unread d tasks) :=
  decidable_of_iff (∀ task ∈ tasks.values, task.connects d = false) Dict.forall_values_iff

instance (s : Service) (a : Action) : Decidable (s.Settles a) :=
  decidable_of_iff (∀ d ∈ s.identifies a, Unread d s.tasks) Iff.rfl

theorem Settles.promised {a : Action} (h : s.Settles a) : registryGuards.Promised s a where
  register := by
    rintro id friendlyName automatic suffix now r rfl hr
    exact h r.2 (by simp [identifies, hr, Except.toOption])
  patch := by
    rintro d patch s' rfl hp hid
    exact h d (by simp [identifies, hp, hid, Except.toOption])

def StartedFresh (s : Service) : Prop :=
  Started s ∧ ∀ d row, s.store.device d = some row → row.discoveryId < s.adapter.nextDiscoveryId

theorem connects_to_candidates (h : Reaches StartedFresh step Settles s) : CallsKnown s.trace := by
  refine (preserved_sourced.reaches (fun _ hs => hs.1) ?_ (fun _ _ hy => hy.promised) h).2.calls
  rintro boot now ⟨settings, store, T, id, nextOperation, -, -, rfl⟩ ⟨-, hrows⟩
  refine sourced_startDiscovery rfl rfl (fun d sel hsel => ?_) (fun D c current identity rest hr => ?_) now
  · have hrow : ((create settings store T id nextOperation []).start now).registry.rows d = some sel := by
      rw [registry_start]
      exact hsel
    obtain ⟨row, hd, rfl⟩ := row_of_rows hrow
    have hlt := hrows d row hd
    have hnext := congrArg Registry.nextDiscoveryId (registry_start (create settings store T id nextOperation []) now)
    exact hlt.trans_eq hnext
  · cases List.suffix_nil.mp hr

theorem firstSession_startedFresh : StartedFresh firstSession :=
  ⟨firstSession_started, fun d row hd => by cases hd⟩

def selected (id : DiscoveryId) (suffix address : String) : DiscoveredDevice :=
  ⟨id, "iGrill_V202-" ++ suffix, "igrill-v202", some (-60), some address⟩

def firstConnect : List Action := registerBoth ++ [.startConnectionOperation "igrill-v202-a" .connect 0, go 3, go 3]

theorem connects_to_candidates_firstConnect :
    ∃ s, replay step firstSession firstConnect = some s ∧ CallsKnown s.trace ∧
      s.trace.head? = some (.connectCalled "igrill-v202-a" (selected 0 "a" "00:00:00:00:00:0A") true
        (some "00:00:00:00:00:0A")) := by
  have hrun : (replayIf (fun s a => decide (s.Settles a)) step firstSession firstConnect).map (fun s => s.trace.head?) =
      some (some (.connectCalled "igrill-v202-a" (selected 0 "a" "00:00:00:00:00:0A") true
        (some "00:00:00:00:00:0A"))) := by decide +kernel
  obtain ⟨s, hs, ht⟩ := Option.map_eq_some_iff.mp hrun
  have hr : Reaches StartedFresh step Settles s :=
    .of_replayIf (fun _ _ => of_decide_eq_true) (.init firstSession_startedFresh) hs
  exact ⟨s, replay_of_replayIf hs, connects_to_candidates hr, ht⟩

/-- A disconnect of the second device gives the adapter up while the first waits for the lock, so the
first may be given another identity. -/
def reselected : List Action :=
  registerBoth ++
  [go 0, go 0, .startConnectionOperation "igrill-v202-b" .disconnect 0, go 3,
   .startConnectionOperation "igrill-v202-a" .connect 0,
   .resume 0 (.found [advertised "a" "00:00:00:00:00:0A", advertised "c" "00:00:00:00:00:0C"]) 0 0,
   go 3, go 4, go 3, .patchDevice "igrill-v202-a" ⟨none, none, some 3⟩, go 4, .resume 4 bothFound 0 0]

theorem not_connects_to_candidates : ¬ ∀ s, Reachable StartedFresh step s → CallsKnown s.trace := by
  intro hall
  have hrun : (replay step firstSession reselected).map (fun s => s.trace.head?) =
      some (some (.connectCalled "igrill-v202-a" (selected 4 "a" "00:00:00:00:00:0A") true
        (some "00:00:00:00:00:0C"))) := by decide +kernel
  obtain ⟨s, hs, ht⟩ := Option.map_eq_some_iff.mp hrun
  have hr : Reachable StartedFresh step s := .of_replay (.init firstSession_startedFresh) hs
  obtain ⟨rest, hrest⟩ := List.head?_eq_some_iff.mp ht
  have hi := (hall s hr _ _ _ _ rest ⟨[], hrest.symm⟩).2.2 _ rfl
  exact absurd hi (by decide)

end Sources

end Service

end PitbluCore
