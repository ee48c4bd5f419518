import PitbluCore.ServiceExclusion

namespace PitbluCore

open Library

def Control.DisconnectQueued (c : Control) (d : DeviceId) : Prop :=
  ∃ id row, c.active.get? d = some id ∧ c.operations.get? id = some row ∧ row.status = .queued ∧ row.kind = .disconnect

theorem Control.DisconnectQueued.of_same {c c' : Control} {d : DeviceId} (h : c.DisconnectQueued d)
    (ha : c'.active = c.active)
    (ho : c'.operations = c.operations) : c'.DisconnectQueued d := by
  unfold Control.DisconnectQueued at *
  rw [ha, ho]
  exact h

instance (c : Control) (d : DeviceId) : Decidable (c.DisconnectQueued d) :=
  decidable_of_iff (∃ id ∈ c.active.get? d, ∃ row ∈ c.operations.get? id, row.status = .queued ∧ row.kind = .disconnect)
    (by simp [Control.DisconnectQueued])

def Task.sleeps (device : DeviceId) (task : Task) : Bool := task.frame = .recovery device .sleeping && !task.cancelled

def Sleeping (device : DeviceId) (tasks : Dict TaskId Task) : Prop :=
  ∃ u task, tasks.get? u = some task ∧ task.sleeps device = true

instance (d : DeviceId) (tasks : Dict TaskId Task) : Decidable (Sleeping d tasks) :=
  decidable_of_iff (¬ ∀ task ∈ tasks.values, task.sleeps d = false) (by
    rw [Dict.forall_values_iff]
    simp [Sleeping])

theorem Task.sleeps_cancel {task : Task} {d : DeviceId} (h : task.cancel.sleeps d = true) : task.sleeps d = true := by
  unfold sleeps at *
  rw [cancel_frame] at h
  simp only [Bool.and_eq_true, decide_eq_true_eq, Bool.not_eq_true'] at h ⊢
  refine ⟨h.1, ?_⟩
  have hc := h.2
  unfold cancel at hc
  split at hc
  · exact hc
  · cases hc

theorem Task.recovers_of_sleeps {task : Task} {d : DeviceId} (h : task.sleeps d = true) :
    task.frame.role.recovers d = true ∧ task.cancelled = false := by
  simp only [sleeps, Bool.and_eq_true, decide_eq_true_eq, Bool.not_eq_true'] at h
  rw [h.1]
  exact ⟨by simp [Frame.role, Role.recovers], h.2⟩

namespace Service

variable {G : Guards} {s s' : Service} {t : TaskId} {task : Task} {n : OperationId} {d : DeviceId} {x : Option TaskId}

section Rows

def Labels (s : Service) (role : Role) : Prop :=
  match role with
  | .procedure call =>
    ∃ row, s.operations.get? call.operation = some row ∧ row.kind = call.action.kind ∧ row.deviceId = some call.device
  | .scan id => ∃ row, s.operations.get? id = some row ∧ row.kind = .scan
  | _ => True

structure Labelled (s : Service) : Prop where
  tasks : s.Each (fun task => s.Labels task.frame.role)
  active : ∀ d id, s.active.get? d = some id → ∃ row, s.operations.get? id = some row ∧ row.deviceId = some d

def RowsKept (s s' : Service) : Prop :=
  ∀ id row, s.operations.get? id = some row →
    ∃ row', s'.operations.get? id = some row' ∧ row'.kind = row.kind ∧ row'.deviceId = row.deviceId

theorem RowsKept.of_same (h : s'.operations = s.operations) : RowsKept s s' := by
  intro id row hrow
  exact ⟨row, by rw [h]; exact hrow, rfl, rfl⟩

theorem rowsKept_markOperation (hc : s.control.Coherent x n) (id : OperationId) (status : OperationStatus)
    (error : Option ErrorCode) (now : Time) : RowsKept s (s.markOperation id status error now) := by
  intro j row hrow
  unfold markOperation
  split
  · exact ⟨row, hrow, rfl, rfl⟩
  · rename_i old hold
    obtain ⟨hid, -⟩ := hc.memory id old hold
    simp only [saveOperation, Dict.get?_set, hid]
    split
    · rename_i hj
      subst hj
      obtain rfl : old = row := Option.some.inj (hold.symm.trans hrow)
      exact ⟨_, rfl, rfl, rfl⟩
    · exact ⟨row, hrow, rfl, rfl⟩

theorem rowsKept_newOperation (hc : s.control.Coherent x n) (kind : OperationKind) (device : Option DeviceId)
    (now : Time) :
    RowsKept s (s.newOperation kind device now) := by
  intro id row hrow
  have hne : id ≠ s.nextOperation := (hc.memory id row hrow).2.ne
  exact ⟨row, by simp [newOperation, saveOperation, hne, hrow], rfl, rfl⟩

theorem rowsKept_move (hc : s.control.Coherent (some t) n) (hm : Move G t task n s s') : RowsKept s s' := by
  cases hm with
  | quiet hq => exact .of_same (congrArg Control.operations hq.control)
  | mark _ status error now => exact rowsKept_markOperation hc _ status error now
  | create d now => exact rowsKept_newOperation hc .reconnect (some d) now
  | event id => exact .of_same (operations_scheduleEvent id)
  | scheduleRecovery d immediate => exact .of_same (operations_scheduleRecovery d immediate)
  | startPolling => exact .of_same (startPolling_operations _)
  | _ => exact .of_same rfl

theorem Labels.mono (h : RowsKept s s') {role : Role} (hl : s.Labels role) : s'.Labels role := by
  cases role with
  | procedure call =>
    obtain ⟨row, hrow, hkind, hdevice⟩ := hl
    obtain ⟨row', hrow', hkind', hdevice'⟩ := h _ row hrow
    exact ⟨row', hrow', hkind'.trans hkind, hdevice'.trans hdevice⟩
  | scan id =>
    obtain ⟨row, hrow, hkind⟩ := hl
    obtain ⟨row', hrow', hkind', -⟩ := h _ row hrow
    exact ⟨row', hrow', hkind'.trans hkind⟩
  | _ => trivial

theorem Labelled.mono (h : s.Labelled) (hr : RowsKept s s') (ha : s'.active = s.active)
    (ht : s'.Each (fun task => s.Labels task.frame.role)) : s'.Labelled := by
  refine ⟨ht.imp (fun k hk => hk.mono hr), fun d id hid => ?_⟩
  rw [ha] at hid
  obtain ⟨row, hrow, hdevice⟩ := h.active d id hid
  obtain ⟨row', hrow', -, hdevice'⟩ := hr _ row hrow
  exact ⟨row', hrow', hdevice'.trans hdevice⟩

theorem labels_cancel (k : Task) (h : s.Labels k.frame.role) : s.Labels k.cancel.frame.role := by
  rw [Task.cancel_frame]
  exact h

theorem Labelled.move (hc : s.control.Coherent (some t) n) (h : s.Labelled) (hm : Move G t task n s s') :
    s'.Labelled := by
  refine h.mono (rowsKept_move hc hm) (active_move hm) (h.tasks.move hm labels_cancel (fun f hf => ?_))
  cases hf <;> trivial

theorem Labelled.park (h : s.Labelled) (hk : s.tasks.get? t = some task) (hp : Park G t task n s s') : s'.Labelled := by
  have ht : s'.Each (fun task => s.Labels task.frame.role) := by
    refine h.tasks.park hk hp (fun f hs _ => ?_)
    have hold : s.Labels task.frame.role := h.tasks t task hk
    have hpend := hs.pending
    have hhand := hs.role
    dsimp only
    generalize task.frame.role = r at hold hhand
    generalize f.role = r' at hpend hhand
    cases hhand with
    | same => exact hold
    | attempt d hn =>
      obtain ⟨⟨row, hrow, -, -, hdevice, hkind⟩, -⟩ := hpend
      exact ⟨row, hrow, hkind, hdevice⟩
    | _ => trivial
  have hrows : RowsKept s s' := by
    cases hp <;> exact .of_same rfl
  exact h.mono hrows (active_park hp) ht

theorem Labelled.accept (hc : s.Coherent) (h : s.Labelled) (d : DeviceId) (action : ConnectionAction) (now : Time) :
    (s.accept d action now).Labelled := by
  have hrows : RowsKept s (s.accept d action now) := by
    intro id row hrow
    have hne : id ≠ s.nextOperation := (hc.memory id row hrow).2.ne
    exact ⟨row, by simp [Service.accept, log, spawn, newOperation, saveOperation, updateDevice, hne, hrow], rfl, rfl⟩
  refine ⟨fun u k hk => ?_, fun d' id hid => ?_⟩
  · have hk' : (s.spawn (.queued ⟨s.nextOperation, d, action, false⟩)).tasks.get? u = some k := hk
    rcases Control.get?_spawn (c := s.control) hk' with ⟨-, rfl⟩ | hold
    · exact ⟨⟨s.nextOperation, action.kind, some d, .queued, now, now, none⟩,
        by simp [Service.accept, log, spawn, newOperation, saveOperation, updateDevice], rfl, rfl⟩
    · exact (h.tasks u k hold).mono hrows
  · simp only [Service.accept, log, spawn, newOperation, saveOperation, updateDevice, Dict.get?_set] at hid ⊢
    split at hid
    · rename_i he
      subst he
      cases hid
      exact ⟨_, if_pos rfl, rfl⟩
    · obtain ⟨row, hrow, hdevice⟩ := h.active d' id hid
      exact ⟨row, (if_neg (hc.memory id row hrow).2.ne).trans hrow, hdevice⟩

theorem Labelled.startScan (hc : s.Coherent) (h : s.Labelled) (now : Time) :
    ((s.newOperation .scan none now).spawn (.scan (.starting s.nextOperation))).Labelled := by
  have hrows : RowsKept s (s.newOperation .scan none now) := rowsKept_newOperation hc .scan none now
  have hm : (s.newOperation .scan none now).Labelled := h.mono hrows rfl h.tasks
  refine ⟨hm.tasks.spawn ?_, hm.active⟩
  exact ⟨⟨s.nextOperation, .scan, none, .queued, now, now,
    none⟩, by simp [newOperation, saveOperation, ScanPoint.operation], rfl⟩

theorem Labelled.request (hc : s.Coherent) (h : s.Labelled) (hr : Request G s s') : s'.Labelled := by
  cases hr with
  | accept action now => exact h.accept hc _ action now
  | startScan now => exact h.startScan hc now
  | quiet hq =>
    exact h.mono (.of_same (congrArg Control.operations hq.control)) (congrArg Control.active hq.control)
      (h.tasks.of_tasks (congrArg Control.tasks hq.control))
  | register | deleteConnected => exact h.mono (.of_same rfl) rfl (h.tasks.of_set rfl trivial)
  | deleteRecovering => exact h.mono (.of_same rfl) rfl ((h.tasks.stopRecovery labels_cancel _ _).spawn trivial)
  | deletePolling => exact h.mono (.of_same rfl) rfl ((h.tasks.stopPolling labels_cancel _ _).spawn trivial)
  | close => exact h.mono (.of_same rfl) rfl ((h.tasks.cancel labels_cancel _).of_set rfl trivial)
  | @adopt d =>
    have ho : ({ s with owner := some d } : Service).Each (fun task => s.Labels task.frame.role) := h.tasks
    exact h.mono (.of_same (operations_scheduleRecovery d true)) (active_scheduleRecovery d true)
      (ho.scheduleRecovery (fun _ => trivial))
  | _ => exact h.mono (.of_same rfl) rfl h.tasks

theorem labelled_startDiscovery {boot : Service} (ht : boot.tasks = Dict.empty) (ha : boot.active = Dict.empty)
    (now : Time) :
    (boot.startDiscovery now).Labelled := by
  refine ⟨fun u k hk => ?_, fun d id hid => ?_⟩
  · obtain rfl := get?_startDiscovery ht hk
    trivial
  · have hid' : boot.active.get? d = some id := hid
    rw [ha] at hid'
    cases hid'

end Rows

section Sleepers

def BeginsDisconnect (x : Option TaskId) (s : Service) (d : DeviceId) : Prop :=
  ∃ t task call, x = some t ∧ s.tasks.get? t = some task ∧ task.cancelled = false ∧ task.frame = .queued call ∧
    call.action = .disconnect ∧ call.device = d

/-- The device is registered, and wanted unless a disconnect of it waits for its turn. -/
def Rests (x : Option TaskId) (s : Service) (d : DeviceId) : Prop :=
  ∃ p, s.control.desire d = some p ∧
    (p = (.connected, true) ∨ s.control.DisconnectQueued d ∨ s.BeginsDisconnect x d)

structure Watchful (x : Option TaskId) (s : Service) : Prop where
  procedures : s.Procedures
  undisturbed : s.Undisturbed (fun call => call.action = .disconnect) x
  labelled : s.Labelled
  sleepers : ∀ d, Sleeping d s.tasks → s.Rests x d
  wanted : ∀ d wanted, .attempted d wanted ∈ s.trace → wanted = true

theorem Rests.keep (h : s.Rests x d)
    (hd : ∀ p, s.control.desire d = some p →
      ∃ p', s'.control.desire d = some p' ∧ (p = (.connected, true) → p' = (.connected, true)))
    (hq : s.control.DisconnectQueued d → s'.control.DisconnectQueued d ∨ s'.BeginsDisconnect x d)
    (hb : s.BeginsDisconnect x d → s'.BeginsDisconnect x d) : s'.Rests x d := by
  obtain ⟨p, hp, hrest⟩ := h
  obtain ⟨p', hp', he⟩ := hd p hp
  refine ⟨p', hp', hrest.imp he ?_⟩
  rintro (hx | hx)
  · exact hq hx
  · exact .inr (hb hx)

theorem sleeping_move (hm : Move G t task n s s') (h : Sleeping d s'.tasks) : Sleeping d s.tasks := by
  obtain ⟨u, k, hk, hx⟩ := h
  have hall : s'.Each (fun k => k.sleeps d = true → Sleeping d s.tasks) := by
    refine Each.move (s := s) (fun v k' hk' hx' => ⟨v, k', hk', hx'⟩) hm
      (fun k' hk' hx' => hk' (Task.sleeps_cancel hx'))
      (fun f hf hx' => ?_)
    cases hf <;> simp [Task.sleeps] at hx'
  exact hall u k hk hx

theorem not_sleeping_of_halted (h : s.Watchful x) (hk : s.tasks.get? t = some task) {call : Call}
    (ha : call.action = .disconnect)
    (hb : Halted s task.frame call) : ¬ Sleeping call.device s.tasks := by
  rintro ⟨u, k, hu, hx⟩
  obtain ⟨hrec, hlive⟩ := Task.recovers_of_sleeps hx
  rcases hb with ⟨row, point, hf⟩ | hnone
  · rcases h.undisturbed t u task k call hk (by rw [hf]; rfl) ha hu hrec hlive with rfl | ⟨-, hn, -⟩
    · obtain rfl : task = k := Option.some.inj (hk.symm.trans hu)
      rw [Task.sleeps, hf] at hx
      cases hx
    · exact hn ha
  · cases hnone.symm.trans (h.procedures.tabled u k _ hu hrec hlive)

def recoveryGuards : Guards where
  remove d c := ¬ Sleeping d c.tasks
  patch d patch tasks := patch.automaticReconnection = some false → ¬ Sleeping d tasks
  wake d c := ¬ c.DisconnectQueued d
  rearm d tasks := ∀ u k call, tasks.get? u = some k → k.frame.executing = some call → call.action = .disconnect →
    call.device ≠ d

theorem Watchful.marks (hc : s.control.Coherent (some t) n) (hk : s.tasks.get? t = some task) (h : s.Watchful (some t))
    {id : OperationId} (hid : task.frame.role.operation = some id ∨ n ≤ id)
    (hb : task.cancelled = true → ∀ call, task.frame ≠ .queued call) (hs : Sleeping d s.tasks)
    (ha : s.active.get? d = some id) {row : OperationRow} (hrow : s.operations.get? id = some row)
    (hkind : row.kind = .disconnect) : s.BeginsDisconnect (some t) d := by
  have hop : task.frame.role.operation = some id :=
    hid.resolve_right (fun hn => absurd (hc.active d id ha) (not_lt_of_ge hn))
  obtain ⟨row', hrow', hdevice⟩ := h.labelled.active d id ha
  obtain rfl : row' = row := Option.some.inj (hrow'.symm.trans hrow)
  have hlab : s.Labels task.frame.role := h.labelled.tasks t task hk
  generalize hr : task.frame.role = r at hop hlab
  cases r with
  | procedure call =>
    obtain rfl : call.operation = id := Option.some.inj hop
    obtain ⟨row'', hrow'', hkind', hdevice'⟩ := hlab
    obtain rfl : row'' = row' := Option.some.inj (hrow''.symm.trans hrow')
    have hact : call.action = .disconnect := ConnectionAction.kind_injective (hkind'.symm.trans hkind)
    obtain rfl : call.device = d := Option.some.inj (hdevice'.symm.trans hdevice)
    cases hf : task.frame with
    | queued call' =>
      rw [hf] at hr
      cases hr
      refine ⟨t, task, call, rfl, hk, ?_, hf, hact, rfl⟩
      exact Bool.eq_false_iff.mpr (fun hx => hb hx call hf)
    | procedure call' row point =>
      rw [hf] at hr
      cases hr
      exact absurd hs (not_sleeping_of_halted h hk hact (.inl ⟨row, point, hf⟩))
    | _ =>
      rw [hf] at hr
      cases hr
  | scan id' =>
    obtain rfl : id' = id := Option.some.inj hop
    obtain ⟨row'', hrow'', hkind'⟩ := hlab
    obtain rfl : row'' = row' := Option.some.inj (hrow''.symm.trans hrow')
    cases hkind.symm.trans hkind'
  | _ => cases hop

theorem attempted_of_desire (h : s.control.desire d = some (.connected, true)) {d' : DeviceId} {wanted : Bool}
    (hl : ∀ d' wanted, .attempted d' wanted ∈ s.trace → wanted = true)
    (hm : .attempted d' wanted ∈ (s.logAttempt d).trace) :
    wanted = true := by
  rcases List.mem_cons.mp hm with he | hm
  · cases he
    obtain ⟨row, hrow, heq⟩ := Option.map_eq_some_iff.mp h
    simp [hrow, (Prod.mk.inj heq).1, (Prod.mk.inj heq).2]
  · exact hl d' wanted hm

theorem Watchful.attempt (hk : s.tasks.get? t = some task) (h : s.Watchful (some t)) (hc : task.cancelled = false)
    (hw : s.control.Wanted d ∨ task.frame = .recovery d .sleeping ∧ ¬ s.control.DisconnectQueued d) :
    s.control.desire d = some (.connected, true) := by
  rcases hw with hw | ⟨hf, hn⟩
  · exact hw.2
  · have hs : Sleeping d s.tasks := ⟨t, task, hk, by simp [Task.sleeps, hf, hc]⟩
    obtain ⟨p, hp, rfl | hq | ⟨u, k, call, hu, hk', -, hf', -, -⟩⟩ := h.sleepers d hs
    · exact hp
    · exact absurd hq hn
    · obtain rfl := Option.some.inj hu
      obtain rfl : k = task := Option.some.inj (hk'.symm.trans hk)
      cases hf.symm.trans hf'

theorem Watchful.move (hc : s.control.Coherent (some t) n) (hk : s.tasks.get? t = some task) (h : s.Watchful (some t))
    (hm : Move recoveryGuards t task n s s') : s'.Watchful (some t) := by
  have hpr := h.procedures.move hm
  have hun : s'.Undisturbed (fun call => call.action = .disconnect) (some t) := by
    refine h.undisturbed.move hc hk h.procedures hm (fun _ _ hG => hG) (fun v k call call₀ hv hx hq hrec => ?_)
    have hvalid := Frame.requested_of_disconnect (hc.tasks v k hv).valid (Frame.role_of_executing hx) hq
    cases hrec.symm.trans hvalid
  have hl := h.labelled.move hc hm
  have hk' := (coherent_move hc hk hm).2
  have hold : ∀ d, Sleeping d s'.tasks → Sleeping d s.tasks := fun d => sleeping_move hm
  have hbegin : ∀ d, s.BeginsDisconnect (some t) d → s'.BeginsDisconnect (some t) d := by
    rintro d ⟨u, k, call, hu, hku, hrest⟩
    obtain rfl := Option.some.inj hu
    obtain rfl : k = task := Option.some.inj (hku.symm.trans hk)
    exact ⟨t, k, call, rfl, hk', hrest⟩
  have hactive := active_move hm
  -- what most moves do
  have hkeep : (∀ d, Sleeping d s'.tasks → ∀ p, s.control.desire d = some p →
        ∃ p', s'.control.desire d = some p' ∧ (p = (.connected, true) → p' = (.connected, true))) →
      s'.operations = s.operations → (∀ d wanted, .attempted d wanted ∈ s'.trace → .attempted d wanted ∈ s.trace) →
      s'.Watchful (some t) := by
    intro hd ho ht
    refine ⟨hpr, hun, hl, fun d hs => ?_, fun d wanted hx => h.wanted d wanted (ht d wanted hx)⟩
    exact (h.sleepers d (hold d hs)).keep (hd d hs) (fun hq => .inl (hq.of_same hactive ho)) (hbegin d)
  have hsame : s'.control.desire = s.control.desire → ∀ d, Sleeping d s'.tasks → ∀ p, s.control.desire d = some p →
      ∃ p', s'.control.desire d = some p' ∧ (p = (.connected, true) → p' = (.connected, true)) := by
    intro he d _ p hp
    exact ⟨p, by rw [he]; exact hp, id⟩
  have hsteady : Steady s s' → s'.operations = s.operations → s'.Watchful (some t) :=
    fun hs ho => hkeep (hsame hs.desire) ho (fun d wanted hx => by rw [← hs.trace]; exact hx)
  cases hm with
  | attempt d hlive hw =>
    refine ⟨hpr, hun, hl, fun d' hs => (h.sleepers d' (hold d' hs)).keep (hsame rfl d' hs) .inl (hbegin d'),
      fun d' wanted hx => ?_⟩
    exact attempted_of_desire (h.attempt hk hlive hw) h.wanted hx
  | @mark id hid status error now hlive hs he hb =>
    have hst := steady_markOperation (s := s) id status error now
    refine ⟨hpr, hun, hl, fun d hs => (h.sleepers d (hold d hs)).keep (hsame hst.desire d hs) ?_ (hbegin d),
      fun d wanted hx => ?_⟩
    · rintro ⟨j, row, hj, hrow, hq, hkind⟩
      by_cases hji : j = id
      · subst hji
        exact .inr (hbegin d (h.marks hc hk (hid.imp_right And.left) (fun hx => (hb hx).2.2) (hold d hs) hj hrow hkind))
      · refine .inl ⟨j, row, (congrArg (·.get? d) hactive).trans hj, ?_, hq, hkind⟩
        exact (operations_markOperation_ne hc hji status error now).trans hrow
    · rw [hst.trace] at hx
      exact h.wanted d wanted hx
  | create d now hr hlive =>
    refine ⟨hpr, hun, hl, fun d' hs => (h.sleepers d' (hold d' hs)).keep (hsame rfl d' hs) ?_ (hbegin d'), h.wanted⟩
    rintro ⟨j, row, hj, hrow, hrest⟩
    have hne : j ≠ s.nextOperation := (hc.memory j row hrow).2.ne
    exact .inl ⟨j, row, hj, by simpa [control, newOperation, saveOperation, hne] using hrow, hrest⟩
  | @commit call observed hrole ha hlive hg =>
    refine hkeep (fun d hs p hp => ?_) rfl (fun _ _ hx => hx)
    rw [desire_setDesired]
    split
    · rename_i he
      subst he
      refine ⟨(.connected, p.2), by rw [hp]; rfl, ?_⟩
      rintro rfl
      rfl
    · exact ⟨p, hp, id⟩
  | @disconnected call hrole ha hb =>
    refine hkeep (fun d hs p hp => ⟨p, ?_, id⟩) rfl (fun _ _ hx => hx)
    rw [desire_setDesired, if_neg, hp]
    rintro rfl
    exact not_sleeping_of_halted h hk ha hb (hold _ hs)
  | @releaseAdapter call discovery hrole ha hcut hlock hg hb =>
    refine hkeep (fun d hs p hp => ⟨p, ?_, id⟩) rfl (fun _ _ hx => hx)
    rw [desire_setDesired, if_neg]
    · exact hp
    · rintro rfl
      exact not_sleeping_of_halted h hk ha hb (hold _ hs)
  | @remove d now hrole hd hg =>
    refine hkeep (fun d' hs p hp => ⟨p, ?_, id⟩) rfl
      (fun _ _ hx => (List.mem_cons.mp hx).resolve_left (fun he => by cases he))
    rw [desire_removeDevice, if_neg, hp]
    rintro rfl
    exact hg (hold _ hs)
  | @removeConnected d now hrole hcut hlock hg hg' =>
    refine hkeep (fun d' hs p hp => ⟨p, ?_, id⟩) rfl
      (fun _ _ hx => (List.mem_cons.mp hx).resolve_left (fun he => by cases he))
    rw [desire_removeDevice, if_neg]
    · exact hp
    · rintro rfl
      exact hg (hold _ hs)
  | quiet hq => exact hsteady (steady_of_control hq.control) (congrArg Control.operations hq.control)
  | select => exact hsteady (steady_of_control (control_select _ _)) rfl
  | event id => exact hsteady (steady_scheduleEvent id) (operations_scheduleEvent id)
  | scheduleRecovery d immediate =>
    exact hsteady (steady_scheduleRecovery d immediate) (operations_scheduleRecovery d immediate)
  | startPolling => exact hsteady (steady_startPolling _) (startPolling_operations _)
  | discover | connectCalled | succeeded | record =>
    exact hkeep (hsame rfl) rfl (fun d wanted hx => (List.mem_cons.mp hx).resolve_left (fun he => by cases he))
  | _ => exact hkeep (hsame rfl) rfl (fun _ _ hx => hx)

theorem sleeping_endTask (h : Sleeping d (s.endTask t).tasks) :
    ∃ u k, u ≠ t ∧ s.tasks.get? u = some k ∧ k.sleeps d = true := by
  obtain ⟨u, k, hk, hx⟩ := h
  exact ⟨u, k, (get?_endTask hk).1, (get?_endTask hk).2, hx⟩

theorem Rests.settle (h : s.Rests (some t) d) (hk : s.tasks.get? t = some task)
    (hd : s'.control.desire = s.control.desire)
    (ho : s'.operations = s.operations) (ha : s'.active = s.active)
    (hb : task.cancelled = false → ∀ call, task.frame = .queued call → call.action = .disconnect → call.device = d →
      False) : s'.Rests none d := by
  obtain ⟨p, hp, hrest⟩ := h
  refine ⟨p, by rw [hd]; exact hp, hrest.imp_right ?_⟩
  rintro (hq | ⟨u, k, call, hu, hk', hlive, hf, hact, hdev⟩)
  · exact .inl (hq.of_same ha ho)
  · obtain rfl := Option.some.inj hu
    obtain rfl : k = task := Option.some.inj (hk'.symm.trans hk)
    exact (hb hlive call hf hact hdev).elim

theorem Watchful.park (hc : s.control.Coherent (some t) n) (hk : s.tasks.get? t = some task) (h : s.Watchful (some t))
    (hp : Park recoveryGuards t task n s s') : s'.Watchful none := by
  have hpr := h.procedures.park hk hp
  have hun := h.undisturbed.park hk h.procedures.tabled hp
  have hl := h.labelled.park hk hp
  have hs := steady_park hp
  have hw : ∀ d wanted, .attempted d wanted ∈ s'.trace → wanted = true := by
    rw [hs.trace]
    exact h.wanted
  have htabled : ∀ d u k, s.tasks.get? u = some k → k.sleeps d = true → s.recoveries.get? d = some u := by
    intro d u k hu hx
    obtain ⟨hrec, hlive⟩ := Task.recovers_of_sleeps hx
    exact h.procedures.tabled u k d hu hrec hlive
  have hvalid := (hc.tasks t task hk).valid
  cases hp with
  | suspend f hsus hlive =>
    refine ⟨hpr, hun, hl, fun d hsl => ?_, hw⟩
    obtain ⟨u, k, hk', hx⟩ := hsl
    rcases get?_suspend hk' with ⟨rfl, old, hold, rfl⟩ | ⟨-, hold⟩
    · have hfr : f = .recovery d .sleeping := by
        simp only [Task.sleeps, Bool.and_eq_true, decide_eq_true_eq] at hx
        exact hx.1
      exact ⟨(.connected, true), (hsus.wanted d hfr).2, .inl rfl⟩
    · refine (h.sleepers d ⟨u, k, hold, hx⟩).settle hk rfl rfl rfl (fun _ call hq ha hdev => ?_)
      have hrec : call.recovering = false := by
        rw [hq] at hvalid
        exact hvalid
      have hrole := hsus.role
      rw [hq] at hrole
      cases f with
      | queued call' => exact hsus.begun call' rfl
      | procedure call' row point =>
        obtain rfl : call' = call := Role.procedure.inj (hrole.requested hrec)
        rcases hsus.row call' row point rfl with ⟨point', hf'⟩ | ⟨-, hnone⟩
        · cases hq.symm.trans hf'
        · have htab := htabled d u k hold hx
          rw [← hdev, hnone hrec] at htab
          cases htab
      | _ => cases hrole.requested hrec
  | done hr hpoll hrel hq =>
    refine ⟨hpr, hun, hl, fun d hsl => ?_, hw⟩
    obtain ⟨u, k, -, hold, hx⟩ := sleeping_endTask hsl
    have hrest := h.sleepers d ⟨u, k, hold, hx⟩
    refine hrest.settle hk rfl rfl rfl (fun hlive call hqd ha hdev => ?_)
    rcases hq hlive call hqd with hnone | hnone
    · have htab := htabled d u k hold hx
      rw [← hdev, hnone] at htab
      cases htab
    · obtain ⟨p, hp, -⟩ := hrest
      rw [← hdev] at hp
      simp [control, hnone] at hp
  | @recovery d' hr hrel =>
    refine ⟨hpr, hun, hl, fun d hsl => ?_, hw⟩
    obtain ⟨u, k, -, hold, hx⟩ := sleeping_endTask hsl
    refine (h.sleepers d ⟨u, k, hold, hx⟩).settle hk rfl rfl rfl (fun _ call hqd _ _ => ?_)
    rw [hqd] at hr hvalid
    have hrec : call.recovering = false := hvalid
    simp [Frame.role, Role.recovers, hrec] at hr
  | @polling d' hr hrel =>
    refine ⟨hpr, hun, hl, fun d hsl => ?_, hw⟩
    obtain ⟨u, k, -, hold, hx⟩ := sleeping_endTask hsl
    refine (h.sleepers d ⟨u, k, hold, hx⟩).settle hk rfl rfl rfl (fun _ call hqd _ _ => ?_)
    rw [hqd] at hr
    rcases hr with hr | hr <;> cases hr

theorem sleeping_request (hr : Request G s s') (h : Sleeping d s'.tasks) : Sleeping d s.tasks := by
  obtain ⟨u, k, hk, hx⟩ := h
  have hall : s'.Each (fun k => k.sleeps d = true → Sleeping d s.tasks) := by
    refine Each.request (s := s) (fun v k' hk' hx' => ⟨v, k', hk', hx'⟩) hr
      (fun k' hk' hx' => hk' (Task.sleeps_cancel hx'))
      (fun f hf hx' => ?_)
    cases hf <;> simp [Task.sleeps] at hx'
  exact hall u k hk hx

theorem Rests.accept (hc : s.Coherent) (h : s.Rests none d) {d' : DeviceId} {action : ConnectionAction} {now : Time}
    (hp : s.pendingOperation d' = none) : (s.accept d' action now).Rests none d := by
  obtain ⟨p, hp', hrest⟩ := h
  have hactive : (s.accept d' action now).active.get? d = if d = d' then some s.nextOperation else s.active.get? d := by
    simp [Service.accept, log, spawn, newOperation, saveOperation, updateDevice]
  have hrow : ∀ id, (s.accept d' action now).operations.get? id =
      if id = s.nextOperation then some ⟨s.nextOperation, action.kind, some d', .queued, now, now, none⟩
      else s.operations.get? id := by
    intro id
    simp [Service.accept, log, spawn, newOperation, saveOperation, updateDevice]
  by_cases hd : d = d'
  · subst hd
    refine ⟨(action.desired, p.2), by rw [desire_accept, if_pos rfl, hp']; rfl, ?_⟩
    rcases hrest with rfl | ⟨id, row, hid, hrow', hq, -⟩ | ⟨u, k, call, hu, -⟩
    · by_cases ha : action = .disconnect
      · subst ha
        exact .inr (.inl ⟨s.nextOperation, _, hactive.trans (if_pos rfl), (hrow _).trans (if_pos rfl), rfl, rfl⟩)
      · refine .inl ?_
        cases action <;> first | rfl | exact absurd rfl ha
    · have hpend : s.pendingOperation d = some row := by
        have hid' : s.active.get? d = some id := hid
        have hrow'' : s.operations.get? id = some row := hrow'
        simp [Service.pendingOperation, hid', hrow'', hq, OperationStatus.pending]
      cases hp.symm.trans hpend
    · cases hu
  · refine ⟨p, by rw [desire_accept, if_neg hd]; exact hp', hrest.imp_right ?_⟩
    rintro (⟨id, row, hid, hrow', hrest⟩ | ⟨u, k, call, hu, -⟩)
    · refine .inl ⟨id, row, (hactive.trans (if_neg hd)).trans hid, ((hrow id).trans (if_neg ?_)).trans hrow', hrest⟩
      exact (hc.memory id row hrow').2.ne
    · cases hu

theorem Watchful.request (hc : s.Coherent) (h : s.Watchful none) (hr : Request recoveryGuards s s') :
    s'.Watchful none := by
  have hpr := h.procedures.request hc hr
  have hun := h.undisturbed.request hr
  have hl := h.labelled.request hc hr
  have hold : ∀ d, Sleeping d s'.tasks → Sleeping d s.tasks := fun d => sleeping_request hr
  have hbegin : ∀ {s' : Service} d, s.BeginsDisconnect none d → s'.BeginsDisconnect none d := by
    rintro s' d ⟨u, k, call, hu, -⟩
    cases hu
  have hkeep : (∀ d, Sleeping d s'.tasks → ∀ p, s.control.desire d = some p →
        ∃ p', s'.control.desire d = some p' ∧ (p = (.connected, true) → p' = (.connected, true))) →
      s'.operations = s.operations → s'.active = s.active →
      (∀ d wanted, .attempted d wanted ∈ s'.trace → .attempted d wanted ∈ s.trace) → s'.Watchful none := by
    intro hd ho ha ht
    refine ⟨hpr, hun, hl, fun d hs => ?_, fun d wanted hx => h.wanted d wanted (ht d wanted hx)⟩
    exact (h.sleepers d (hold d hs)).keep (hd d hs) (fun hq => .inl (hq.of_same ha ho)) (hbegin d)
  have hsame : s'.control.desire = s.control.desire → ∀ d, Sleeping d s'.tasks → ∀ p, s.control.desire d = some p →
      ∃ p', s'.control.desire d = some p' ∧ (p = (.connected, true) → p' = (.connected, true)) := by
    intro he d _ p hp
    exact ⟨p, by rw [he]; exact hp, fun h => h⟩
  cases hr with
  | quiet hq =>
    refine hkeep (hsame (congrArg Control.desire hq.control)) (congrArg Control.operations hq.control)
      (congrArg Control.active hq.control) ?_
    rw [show s'.trace = s.trace from congrArg Control.trace hq.control]
    exact fun _ _ hx => hx
  | startScan now =>
    refine ⟨hpr, hun, hl, fun d hs => ((h.sleepers d (hold d hs)).keep (hsame rfl d hs) (fun hq => .inl ?_) (hbegin d)),
      h.wanted⟩
    obtain ⟨id, row, hid, hrow, hrest⟩ := hq
    have hne : id ≠ s.nextOperation := (hc.memory id row hrow).2.ne
    exact ⟨id, row, hid, by simpa [control, spawn, newOperation, saveOperation, hne] using hrow, hrest⟩
  | register row hn =>
    refine hkeep (fun d hs p hp => ⟨p, (desire_register d row (.registered row.deviceId :: s.trace)).trans ?_, id⟩) rfl
      rfl
      (fun d wanted hx => (List.mem_cons.mp hx).resolve_left (fun he => by cases he))
    rw [if_neg, hp]
    rintro rfl
    simp [control, hn] at hp
  | patch d patch candidate hg hs hx =>
    refine hkeep (fun d' hs' p hp => ⟨(p.1, if d' = d then patch.automaticReconnection.getD p.2 else p.2), ?_, ?_⟩) rfl
      rfl
      (fun _ _ hx => hx)
    · rw [desire_patch]
      split
      · rename_i he
        subst he
        rw [hp]
        rfl
      · exact hp
    · rintro rfl
      split
      · rename_i he
        subst he
        have hne : patch.automaticReconnection ≠ some false := fun he => hx he (hold _ hs')
        cases hpatch : patch.automaticReconnection with
        | none => rfl
        | some auto =>
          cases auto
          · exact absurd hpatch hne
          · rfl
      · rfl
  | delete now hp hrec hd hg =>
    refine hkeep (fun d' hs p hp => ⟨p, ?_, id⟩) rfl rfl
      (fun _ _ hx => (List.mem_cons.mp hx).resolve_left (fun he => by cases he))
    rw [desire_removeDevice, if_neg, hp]
    rintro rfl
    exact hg (hold _ hs)
  | join =>
    exact hkeep (hsame rfl) rfl rfl
      (fun d wanted hx => (List.mem_cons.mp hx).resolve_left (fun he => by cases he))
  | @accept d action now hd hp =>
    refine ⟨hpr, hun, hl, fun d' hs => ?_, fun d' wanted hx => h.wanted d' wanted ?_⟩
    · exact (h.sleepers d' (hold d' hs)).accept hc hp
    · exact (List.mem_cons.mp hx).resolve_left (fun he => by cases he)
  | @adopt d =>
    have hs : Steady { s with owner := some d } ({ s with owner := some d }.scheduleRecovery d true) :=
      steady_scheduleRecovery d true
    refine hkeep (hsame hs.desire) (operations_scheduleRecovery d true) (active_scheduleRecovery d true) ?_
    rw [hs.trace]
    exact fun _ _ hx => hx
  | _ => exact hkeep (hsame rfl) rfl rfl (fun _ _ hx => hx)

theorem Rests.begin (h : s.Rests none d) (t : TaskId) : s.Rests (some t) d := by
  obtain ⟨p, hp, hrest⟩ := h
  refine ⟨p, hp, hrest.imp_right (Or.imp_right ?_)⟩
  rintro ⟨u, k, call, hu, -⟩
  cases hu

theorem watchful_startDiscovery {boot : Service} (ht : boot.tasks = Dict.empty) (ha : boot.active = Dict.empty)
    (now : Time)
    (hw : ∀ d wanted, .attempted d wanted ∈ boot.trace → wanted = true) : (boot.startDiscovery now).Watchful none := by
  refine ⟨procedures_startDiscovery ht now, undisturbed_startDiscovery ht now, labelled_startDiscovery ht ha now,
    fun d hs => ?_, hw⟩
  obtain ⟨u, k, hk, hx⟩ := hs
  obtain rfl := get?_startDiscovery ht hk
  cases hx

theorem preserved_watchful : PreservedAt recoveryGuards Watchful where
  begin _ _ h _ _ := ⟨h.procedures, h.undisturbed.begin _, h.labelled, fun d hs => (h.sleepers d hs).begin _, h.wanted⟩
  move hc hk h hm := h.move hc hk hm
  park _ _ _ _ _ hc hk _ h hp := h.park hc hk hp
  request hc h hr := h.request hc hr
  restart {s} now _ h := @watchful_startDiscovery s.successor rfl rfl now h.wanted

end Sleepers

section Results

def Action.forgoes : Action → Option DeviceId
  | .patchDevice d patch => if patch.automaticReconnection = some false then some d else none
  | _ => none

/-- While recovery of a device sleeps, the step neither switches its automatic reconnection off nor
deletes it; no recovery wakes up while a disconnect of its device is queued; and no poll schedules one
while a disconnect of its device is under way. -/
structure Respects (s : Service) (a : Action) : Prop where
  remove : ∀ d, s.removes a = some d → ¬ Sleeping d s.tasks
  patch : ∀ d, a.forgoes = some d → ¬ Sleeping d s.tasks
  wake : ∀ d, s.wakes a = some d → ¬ s.control.DisconnectQueued d
  rearm : ∀ d, s.rearms a = some d → ∀ u k call, s.tasks.get? u = some k → k.frame.executing = some call →
    call.action = .disconnect → call.device ≠ d

theorem Respects.promised {a : Action} (h : s.Respects a) : recoveryGuards.Promised s a where
  remove := h.remove
  patch d patch _ ha _ hoff := h.patch d (by rw [ha]; simp [Action.forgoes, hoff])
  wake := h.wake
  rearm := h.rearm

instance (s : Service) (a : Action) : Decidable (s.Respects a) :=
  decidable_of_iff
    ((∀ d ∈ s.removes a, ¬ Sleeping d s.tasks) ∧ (∀ d ∈ a.forgoes, ¬ Sleeping d s.tasks) ∧
      (∀ d ∈ s.wakes a, ¬ s.control.DisconnectQueued d) ∧
      ∀ d ∈ s.rearms a, ∀ k ∈ s.tasks.values, ∀ call ∈ k.frame.executing, call.action = .disconnect →
        call.device ≠ d) (by
    simp only [Dict.forall_values_iff, Option.mem_def]
    exact ⟨fun h => ⟨h.1, h.2.1, h.2.2.1, fun d hd u k call hu => h.2.2.2 d hd u k hu call⟩,
      fun h => ⟨h.remove, h.patch, h.wake, fun d hd u k hu call => h.rearm d hd u k call hu⟩⟩)

theorem attempt_wanted (h : Reaches Started step Respects s) :
    ∀ d wanted, .attempted d wanted ∈ s.trace → wanted = true := by
  refine (preserved_watchful.reaches (fun _ hs => hs) ?_ (fun _ _ ha => ha.promised) h).2.wanted
  rintro boot now ⟨settings, store, T, id, nextOperation, -, -, rfl⟩ -
  exact watchful_startDiscovery rfl rfl now (fun d wanted hx => by cases hx)

theorem attempt_wanted_recovering :
    ∃ s, replay step firstSession recoverFirst = some s ∧ .attempted "igrill-v202-a" true ∈ s.trace ∧
      ∀ d wanted, .attempted d wanted ∈ s.trace → wanted = true := by
  have hrun : (replayIf (fun s a => decide (s.Respects a)) step firstSession recoverFirst).map
      (fun s => decide (.attempted "igrill-v202-a" true ∈ s.trace)) = some true := by decide +kernel
  obtain ⟨s, hs, hf⟩ := Option.map_eq_some_iff.mp hrun
  have hr : Reaches Started step Respects s :=
    .of_replayIf (fun _ _ => of_decide_eq_true) (.init firstSession_started) hs
  exact ⟨s, replay_of_replayIf hs, of_decide_eq_true hf, attempt_wanted hr⟩

/-- Automatic reconnection is switched off while recovery sleeps. -/
def patchSleeping : List Action :=
  connectFirst ++
  [go 4, go 4, go 4, .resume 4 (.raised ⟨"AdapterError", "read failed"⟩) 0 30000000, go 6,
   .patchDevice "igrill-v202-a" ⟨none, some false, none⟩, go 6]

theorem not_attempt_wanted :
    ¬ ∀ s, Reachable Started step s → ∀ d wanted, .attempted d wanted ∈ s.trace → wanted = true := by
  intro hall
  have hrun : (replay step firstSession patchSleeping).map
      (fun s => decide (.attempted "igrill-v202-a" false ∈ s.trace)) = some true := by decide +kernel
  obtain ⟨s, hs, hf⟩ := Option.map_eq_some_iff.mp hrun
  have hr : Reachable Started step s := .of_replay (.init firstSession_started) hs
  cases hall s hr "igrill-v202-a" false (of_decide_eq_true hf)

end Results

end Service

end PitbluCore
