import PitbluCore.ServiceSteps

namespace PitbluCore

open Library Relation

variable {x : Option TaskId} {n : OperationId} {c : Control}

namespace Control

structure Sound (c : Control) (x : Option TaskId) (n : OperationId) (u : TaskId) (task : Task) : Prop where
  valid : task.frame.Valid
  lock : x ≠ some u → task.frame.holdsLock = true → c.ioLock = some u
  cut : x ≠ some u → task.frame.disconnecting = true → c.client = none
  accounted : x ≠ some u → c.Accounted task.frame.role
  operation : ∀ id, task.frame.role.operation = some id → id < n
  closing : task.frame.role = .closing → c.closing = true
  cancelled : task.cancelled = true → c.closing = true ∨ ∃ d, task.frame.role.supports d = true

/-- The bookkeeping of a service; the operations of its tasks are below `n`. -/
structure Coherent (c : Control) (x : Option TaskId) (n : OperationId) : Prop where
  fresh : ∀ u, c.nextTask ≤ u → c.tasks.get? u = none
  bound : n ≤ c.nextOperation
  tasks : ∀ u task, c.tasks.get? u = some task → c.Sound x n u task
  unique : ∀ u v task task' id, c.tasks.get? u = some task → c.tasks.get? v = some task' →
    task.frame.role.operation = some id → task'.frame.role.operation = some id → u = v
  recoveries : ∀ d u, c.recoveries.get? d = some u →
    ∃ task, c.tasks.get? u = some task ∧ task.frame.role.recovers d = true ∧
      (c.closing = false → task.cancelled = false)
  pollingTasks : ∀ d u, c.pollingTasks.get? d = some u →
    ∃ task, c.tasks.get? u = some task ∧ (task.frame.role = .polling d ∨ task.frame.role = .pollingFailed d)
  memory : ∀ id row, c.operations.get? id = some row → row.operationId = id ∧ id < c.nextOperation
  stored : ∀ id row, c.stored.get? id = some row → id < c.nextOperation
  active : ∀ d id, c.active.get? d = some id → id < n

end Control

theorem Frame.holdsLock_of_disconnecting {f : Frame} (h : f.disconnecting = true) : f.holdsLock = true := by
  unfold Frame.disconnecting at h
  split at h <;> first | rfl | cases h

namespace Role

variable {r r' : Role} {d d' : DeviceId}

theorem recovers_unique (h : r.recovers d = true) (h' : r.recovers d' = true) : d = d' := by
  cases r <;> simp_all [recovers]

theorem Handover.recovers (h : Handover n r r') : r'.recovers d = r.recovers d := by
  cases h with
  | retry hr => simp [Role.recovers, hr]
  | _ => rfl

theorem Handover.polling (h : Handover n r r') (hp : r = .polling d ∨ r = .pollingFailed d) :
    r' = .polling d ∨ r' = .pollingFailed d := by
  cases h <;> simp_all

theorem Handover.operation {id : OperationId} (h : Handover n r r') (hid : r'.operation = some id) :
    r.operation = some id ∨ n ≤ id := by
  cases h with
  | same => exact .inl hid
  | attempt d hn =>
    cases hid
    exact .inr hn
  | retry | crash => cases hid

theorem Handover.of_closing (h : Handover n r .closing) : r = .closing := by
  cases h
  rfl

theorem supports_of_recovers (h : r.recovers d = true) : r.supports d = true := by simp [supports, h]

end Role

namespace Control

variable {u t : TaskId} {task : Task}

section Frames

theorem Accounted.mono {c' : Control} {r : Role} (h : c.Accounted r)
    (hm : ∀ id, r.operation = some id → c'.operations.get? id = c.operations.get? id)
    (hc : c'.closing = false → c.closing = false)
    (hs : c'.closing = false → ∀ id row, r.operation = some id → c.stored.get? id = some row → row.status.pending →
      c'.stored.get? id = some row) : c'.Accounted r := by
  cases r with
  | procedure call =>
    obtain ⟨hrow, hstored⟩ := h
    constructor
    · rw [hm call.operation rfl]
      exact hrow
    · intro hclosing
      obtain ⟨row, hr, hp, hd⟩ := hstored (hc hclosing)
      exact ⟨row, hs hclosing call.operation row rfl hr hp, hp, hd⟩
  | scan operation =>
    obtain ⟨row, hrow, hp⟩ := h
    exact ⟨row, (hm operation rfl).trans hrow, hp⟩
  | _ => trivial

theorem Accounted.live {r : Role} {id : OperationId} (h : c.Accounted r) (hid : r.operation = some id) : c.Live id := by
  cases r <;> cases hid
  · exact h.1.imp (fun _ hrow => ⟨hrow.1, hrow.2.1, hrow.2.2.1⟩)
  · exact h

theorem Sound.mono {c' : Control} (h : c.Sound x n u task)
    (hl : x ≠ some u → task.frame.holdsLock = true → c.ioLock = some u →
      c'.ioLock = some u ∧ (c.client = none → c'.client = none))
    (ha : x ≠ some u → c.Accounted task.frame.role → c'.Accounted task.frame.role)
    (hc : c.closing = true → c'.closing = true) : c'.Sound x n u task where
  valid := h.valid
  lock hx hf := (hl hx hf (h.lock hx hf)).1
  cut hx hf := by
    have hf' := Frame.holdsLock_of_disconnecting hf
    exact (hl hx hf' (h.lock hx hf')).2 (h.cut hx hf)
  accounted hx := ha hx (h.accounted hx)
  operation := h.operation
  closing hf := hc (h.closing hf)
  cancelled hf := (h.cancelled hf).imp_left hc

theorem Accounted.same {c' : Control} {r : Role} (h : c.Accounted r) (hm : c'.operations = c.operations)
    (hs : c'.stored = c.stored) (hc : c'.closing = c.closing) : c'.Accounted r :=
  h.mono (fun _ _ => by rw [hm]) (fun h => hc ▸ h) (fun _ _ _ _ hr _ => hs ▸ hr)

theorem Sound.same {c' : Control} (h : c.Sound x n u task) (hl : c'.ioLock = c.ioLock) (hk : c'.client = c.client)
    (hm : c'.operations = c.operations) (hs : c'.stored = c.stored) (hc : c'.closing = c.closing) :
    c'.Sound x n u task :=
  h.mono (fun _ _ h => ⟨hl.trans h, hk.trans⟩) (fun _ ha => ha.same hm hs hc) hc.trans

theorem Coherent.frame (h : c.Coherent x n) (connected owner : Option DeviceId)
    (desire : DeviceId → Option (DesiredState × Bool)) (trace : List TraceItem) :
    ({ c with connectedDevice := connected, owner := owner, desire := desire, trace := trace } : Control).Coherent x
      n := by
  refine ⟨h.fresh, h.bound, fun u task hk => ?_, h.unique, h.recoveries, h.pollingTasks, h.memory, h.stored, h.active⟩
  exact (h.tasks u task hk).same rfl rfl rfl rfl rfl

theorem Coherent.close (h : c.Coherent x n) : ({ c with closed := true } : Control).Coherent x n := by
  refine ⟨h.fresh, h.bound, fun u task hk => ?_, h.unique, h.recoveries, h.pollingTasks, h.memory, h.stored, h.active⟩
  exact (h.tasks u task hk).same rfl rfl rfl rfl rfl

theorem Coherent.unlink (h : c.Coherent x n) : ({ c with client := none } : Control).Coherent x n := by
  refine ⟨h.fresh, h.bound, fun u task hk => ?_, h.unique, h.recoveries, h.pollingTasks, h.memory, h.stored, h.active⟩
  exact (h.tasks u task hk).mono (fun _ _ hl => ⟨hl, fun _ => rfl⟩) (fun _ ha => ha.same rfl rfl rfl) id

theorem Coherent.locked (h : c.Coherent (some t) n) (hl : c.ioLock = some t ∨ c.ioLock = none) (lock : Option TaskId)
    (client : Option Link) : ({ c with ioLock := lock, client := client } : Control).Coherent (some t) n := by
  refine ⟨h.fresh, h.bound, fun u task hk => ?_, h.unique, h.recoveries, h.pollingTasks, h.memory, h.stored, h.active⟩
  refine (h.tasks u task hk).mono (fun hx _ hu => ?_) (fun _ ha => ha.same rfl rfl rfl) id
  rw [hu] at hl
  rcases hl with hl | hl
  · exact absurd hl.symm hx
  · cases hl

theorem Coherent.shut (h : c.Coherent x n) : ({ c with closing := true } : Control).Coherent x n := by
  refine ⟨h.fresh, h.bound, fun u task hk => ?_, h.unique, fun d u hu => ?_, h.pollingTasks, h.memory, h.stored,
    h.active⟩
  · refine (h.tasks u task hk).mono (fun _ _ hl => ⟨hl, id⟩) (fun _ ha => ?_) (fun _ => rfl)
    exact ha.mono (fun _ _ => rfl) (fun hf => by cases hf) (fun hf => by cases hf)
  · obtain ⟨task, hk, hr, -⟩ := h.recoveries d u hu
    exact ⟨task, hk, hr, fun hf => by cases hf⟩

theorem Coherent.activate (h : c.Coherent x n) (d : DeviceId) (id : OperationId) (hid : id < n) :
    ({ c with active := c.active.set d id } : Control).Coherent x n := by
  refine ⟨h.fresh, h.bound, fun u task hk => (h.tasks u task hk).same rfl rfl rfl rfl rfl, h.unique, h.recoveries,
    h.pollingTasks, h.memory, h.stored, fun d' id' ha => ?_⟩
  simp only [Dict.get?_set] at ha
  split at ha
  · cases ha
    exact hid
  · exact h.active d' id' ha

end Frames

section Tasks

theorem Coherent.raise (h : c.Coherent x n) {m : OperationId} (hn : n ≤ m) (hm : m ≤ c.nextOperation) :
    c.Coherent x m := by
  refine ⟨h.fresh, hm, fun u task hk => ?_, h.unique, h.recoveries, h.pollingTasks, h.memory, h.stored,
    fun d id ha => lt_of_lt_of_le (h.active d id ha) hn⟩
  have hs := h.tasks u task hk
  exact ⟨hs.valid, hs.lock, hs.cut, hs.accounted, fun id hid => lt_of_lt_of_le (hs.operation id hid) hn, hs.closing,
    hs.cancelled⟩

theorem Coherent.begin (h : c.Coherent none n) (t : TaskId) : c.Coherent (some t) n := by
  refine ⟨h.fresh, h.bound, fun u task hk => ?_, h.unique, h.recoveries, h.pollingTasks, h.memory, h.stored, h.active⟩
  have hs := h.tasks u task hk
  exact ⟨hs.valid, fun _ => hs.lock (by simp), fun _ => hs.cut (by simp), fun _ => hs.accounted (by simp),
    hs.operation, hs.closing, hs.cancelled⟩

def spawn (c : Control) (frame : Frame) : Control :=
  { c with tasks := c.tasks.set c.nextTask ⟨frame, false⟩, nextTask := c.nextTask + 1 }

theorem Coherent.absent (h : c.Coherent x n) : c.tasks.get? c.nextTask = none := h.fresh _ le_rfl

theorem Coherent.ne_nextTask (h : c.Coherent x n) (hk : c.tasks.get? u = some task) : u ≠ c.nextTask := by
  rintro rfl
  rw [h.absent] at hk
  cases hk

theorem get?_spawn_of_some (h : c.Coherent x n) {f : Frame} (hk : c.tasks.get? u = some task) :
    (c.spawn f).tasks.get? u = some task := by
  simp [spawn, h.ne_nextTask hk, hk]

theorem get?_spawn {f : Frame} (hk : (c.spawn f).tasks.get? u = some task) :
    (u = c.nextTask ∧ task = ⟨f, false⟩) ∨ c.tasks.get? u = some task := by
  simp only [spawn, Dict.get?_set] at hk
  split at hk
  · rename_i hu
    exact .inl ⟨hu, (Option.some.inj hk).symm⟩
  · exact .inr hk

theorem Coherent.spawn (h : c.Coherent x n) (f : Frame) (hl : f.holdsLock = false) (hv : f.Valid)
    (ha : c.Accounted f.role) (hc : f.role = .closing → c.closing = true)
    (ho : ∀ id, f.role.operation = some id →
      id < n ∧ ∀ u task, c.tasks.get? u = some task → task.frame.role.operation ≠ some id) :
    (c.spawn f).Coherent x n := by
  have hsame : ∀ u task, c.Sound x n u task → (c.spawn f).Sound x n u task :=
    fun _ _ hs => hs.same rfl rfl rfl rfl rfl
  refine ⟨?_, h.bound, ?_, ?_, ?_, ?_, h.memory, h.stored, h.active⟩
  · intro u hu
    have hu' : c.nextTask < u := hu
    simp only [Control.spawn, Dict.get?_set, hu'.ne', ↓reduceIte]
    exact h.fresh u hu'.le
  · intro u task hk
    apply hsame
    rcases get?_spawn hk with ⟨rfl, rfl⟩ | hk
    · refine ⟨hv, ?_, ?_, fun _ => ha, fun id hid => (ho id hid).1, hc, ?_⟩
      · intro _ hf
        cases hl.symm.trans hf
      · intro _ hf
        cases hl.symm.trans (Frame.holdsLock_of_disconnecting hf)
      · intro hf
        cases hf
    · exact h.tasks u task hk
  · intro u v task task' id hk hk' hid hid'
    rcases get?_spawn hk with ⟨rfl, rfl⟩ | hk
    · rcases get?_spawn hk' with ⟨rfl, rfl⟩ | hk'
      · rfl
      · exact absurd hid' ((ho id hid).2 v task' hk')
    · rcases get?_spawn hk' with ⟨rfl, rfl⟩ | hk'
      · exact absurd hid ((ho id hid').2 u task hk)
      · exact h.unique u v task task' id hk hk' hid hid'
  · intro d u hu
    obtain ⟨task, hk, hr⟩ := h.recoveries d u hu
    exact ⟨task, get?_spawn_of_some h hk, hr⟩
  · intro d u hu
    obtain ⟨task, hk, hr⟩ := h.pollingTasks d u hu
    exact ⟨task, get?_spawn_of_some h hk, hr⟩

def cancel (c : Control) (u : TaskId) : Control := { c with tasks := c.tasks.modify u Task.cancel }

theorem get?_cancel {v : TaskId} (hk : (c.cancel u).tasks.get? v = some task) :
    ∃ old, c.tasks.get? v = some old ∧ task.frame = old.frame ∧ (task = old ∨ v = u) := by
  simp only [cancel, Dict.get?_modify] at hk
  split at hk
  · rename_i hv
    subst hv
    obtain ⟨old, hold, rfl⟩ := Option.map_eq_some_iff.mp hk
    exact ⟨old, hold, old.cancel_frame, .inr rfl⟩
  · exact ⟨task, hk, rfl, .inl rfl⟩

theorem get?_cancel_of_ne {v : TaskId} (hv : v ≠ u) : (c.cancel u).tasks.get? v = c.tasks.get? v := by
  simp [cancel, hv]

theorem get?_cancel_of_some {v : TaskId} (hk : c.tasks.get? v = some task) :
    ∃ task', (c.cancel u).tasks.get? v = some task' ∧ task'.frame = task.frame := by
  by_cases hv : v = u
  · subst hv
    exact ⟨task.cancel, by simp [cancel, hk], task.cancel_frame⟩
  · exact ⟨task, by rw [get?_cancel_of_ne hv, hk], rfl⟩

/-- Only `close` cancels tasks that are listed as recoveries, or that are no recovery and no poll. -/
theorem Coherent.cancel (h : c.Coherent x n) (hr : c.closing = true ∨ ∀ d, c.recoveries.get? d ≠ some u)
    (hs : ∀ task, c.tasks.get? u = some task → c.closing = true ∨ ∃ d, task.frame.role.supports d = true) :
    (c.cancel u).Coherent x n := by
  refine ⟨?_, h.bound, ?_, ?_, ?_, ?_, h.memory, h.stored, h.active⟩
  · intro v hv
    cases hk : (c.cancel u).tasks.get? v with
    | none => rfl
    | some task =>
      obtain ⟨old, hold, -⟩ := get?_cancel hk
      rw [h.fresh v hv] at hold
      cases hold
  · intro v task hk
    obtain ⟨old, hold, hf, hc⟩ := get?_cancel hk
    have ho := h.tasks v old hold
    refine ⟨hf ▸ ho.valid, hf ▸ ho.lock, hf ▸ ho.cut, fun hx => ?_, hf ▸ ho.operation, hf ▸ ho.closing, fun ht => ?_⟩
    · rw [hf]
      exact (ho.accounted hx).same rfl rfl rfl
    · rcases hc with rfl | rfl
      · exact ho.cancelled ht
      · rw [hf]
        exact hs old hold
  · intro v w task task' id hk hk' hid hid'
    obtain ⟨old, hold, hf, -⟩ := get?_cancel hk
    obtain ⟨old', hold', hf', -⟩ := get?_cancel hk'
    exact h.unique v w old old' id hold hold' (hf ▸ hid) (hf' ▸ hid')
  · intro d v hv
    obtain ⟨task, hk, hrec, hlive⟩ := h.recoveries d v hv
    obtain ⟨task', hk', hf⟩ := get?_cancel_of_some (u := u) hk
    refine ⟨task', hk', by rw [hf]; exact hrec, fun hc => ?_⟩
    rcases hr with hr | hr
    · cases hr.symm.trans hc
    · have hne : v ≠ u := by
        rintro rfl
        exact hr d hv
      rw [get?_cancel_of_ne hne, hk] at hk'
      cases hk'
      exact hlive hc
  · intro d v hv
    obtain ⟨task, hk, hp⟩ := h.pollingTasks d v hv
    obtain ⟨task', hk', hf⟩ := get?_cancel_of_some (u := u) hk
    exact ⟨task', hk', hf ▸ hp⟩

theorem Coherent.clearRecovery (h : c.Coherent x n) (R : Dict DeviceId TaskId)
    (hR : ∀ d u, R.get? d = some u → c.recoveries.get? d = some u) :
    ({ c with recoveries := R } : Control).Coherent x n := by
  refine ⟨h.fresh, h.bound, fun u task hk => ?_, h.unique, fun d u hu => h.recoveries d u (hR d u hu),
    h.pollingTasks, h.memory, h.stored, h.active⟩
  exact (h.tasks u task hk).same rfl rfl rfl rfl rfl

theorem Coherent.clearPolling (h : c.Coherent x n) (P : Dict DeviceId TaskId)
    (hP : ∀ d u, P.get? d = some u → c.pollingTasks.get? d = some u) :
    ({ c with pollingTasks := P } : Control).Coherent x n := by
  refine ⟨h.fresh, h.bound, fun u task hk => ?_, h.unique, h.recoveries,
    fun d u hu => h.pollingTasks d u (hP d u hu), h.memory, h.stored, h.active⟩
  exact (h.tasks u task hk).same rfl rfl rfl rfl rfl

theorem get?_erase_some {d d' : DeviceId} {D : Dict DeviceId TaskId} (h : (D.erase d).get? d' = some u) :
    D.get? d' = some u := by
  rw [Dict.get?_erase] at h
  exact (Option.ite_none_left_eq_some.mp h).2

theorem Coherent.stopRecovery (h : c.Coherent x n) {d : DeviceId} (hu : c.recoveries.get? d = some u) :
    (({ c with recoveries := c.recoveries.erase d } : Control).cancel u).Coherent x n := by
  obtain ⟨task, hk, hrec, -⟩ := h.recoveries d u hu
  apply (h.clearRecovery _ (fun _ _ => get?_erase_some)).cancel
  · right
    intro d' hd'
    obtain ⟨task', hk', hrec', -⟩ := h.recoveries d' u (get?_erase_some hd')
    obtain rfl : task' = task := Option.some.inj (hk'.symm.trans hk)
    obtain rfl := Role.recovers_unique hrec hrec'
    simp at hd'
  · intro task' hk'
    obtain rfl : task' = task := Option.some.inj (hk'.symm.trans hk)
    exact .inr ⟨d, Role.supports_of_recovers hrec⟩

theorem Coherent.stopPolling (h : c.Coherent x n) {d : DeviceId} (hu : c.pollingTasks.get? d = some u) :
    (({ c with pollingTasks := c.pollingTasks.erase d } : Control).cancel u).Coherent x n := by
  obtain ⟨task, hk, hp⟩ := h.pollingTasks d u hu
  apply (h.clearPolling _ (fun _ _ => get?_erase_some)).cancel
  · right
    intro d' hd'
    obtain ⟨task', hk', hrec', -⟩ := h.recoveries d' u hd'
    obtain rfl : task' = task := Option.some.inj (hk'.symm.trans hk)
    rcases hp with hp | hp <;> simp [hp, Role.recovers] at hrec'
  · intro task' hk'
    obtain rfl : task' = task := Option.some.inj (hk'.symm.trans hk)
    right
    rcases hp with hp | hp <;> exact ⟨d, by simp [hp, Role.supports, Role.polls, Role.recovers]⟩

theorem Coherent.startRecovery (h : c.Coherent x n) (d : DeviceId) (immediate : Bool) :
    (({ c with recoveries := c.recoveries.set d c.nextTask } : Control).spawn
      (.recovery d (.starting immediate))).Coherent x n := by
  have hs := h.spawn (.recovery d (.starting immediate)) rfl trivial trivial (fun hf => by cases hf)
    (fun id hid => by cases hid)
  refine ⟨hs.fresh, hs.bound, fun u task hk => (hs.tasks u task hk).same rfl rfl rfl rfl rfl, hs.unique,
    fun d' u hu => ?_, hs.pollingTasks, hs.memory, hs.stored, hs.active⟩
  simp only [Control.spawn, Dict.get?_set] at hu
  split at hu
  · rename_i hd
    cases hu
    exact ⟨⟨.recovery d (.starting immediate), false⟩, by simp [Control.spawn],
      by simp [Frame.role, Role.recovers, hd], fun _ => rfl⟩
  · exact hs.recoveries d' u hu

theorem Coherent.startPolling (h : c.Coherent x n) (d : DeviceId) :
    (({ c with pollingTasks := c.pollingTasks.set d c.nextTask } : Control).spawn
      (.polling d .starting)).Coherent x n := by
  have hs := h.spawn (.polling d .starting) rfl trivial trivial (fun hf => by cases hf) (fun id hid => by cases hid)
  refine ⟨hs.fresh, hs.bound, fun u task hk => (hs.tasks u task hk).same rfl rfl rfl rfl rfl, hs.unique,
    hs.recoveries, fun d' u hu => ?_, hs.memory, hs.stored, hs.active⟩
  simp only [Control.spawn, Dict.get?_set] at hu
  split at hu
  · rename_i hd
    cases hu
    exact ⟨⟨.polling d .starting, false⟩, by simp [Control.spawn], .inl (by rw [hd]; rfl)⟩
  · exact hs.pollingTasks d' u hu

end Tasks

end Control

namespace Service

variable {s : Service} {t : TaskId} {task : Task}

section Operations

theorem coherent_saveOperation (h : s.control.Coherent x n) {row : OperationRow}
    (hid : row.operationId < s.nextOperation)
    (ho : ∀ u task, s.tasks.get? u = some task → x ≠ some u → task.frame.role.operation ≠ some row.operationId) :
    (s.saveOperation row).control.Coherent x n := by
  refine ⟨h.fresh, h.bound, fun u task hk => ?_, h.unique, h.recoveries, h.pollingTasks, ?_, ?_, h.active⟩
  · refine (h.tasks u task hk).mono (fun _ _ hl => ⟨hl, id⟩) (fun hx ha => ?_) id
    have hne : ∀ id, task.frame.role.operation = some id → id ≠ row.operationId := by
      rintro id hid rfl
      exact ho u task hk hx hid
    refine ha.mono (fun id hid => ?_) id (fun _ id r hid hr hp => ?_)
    · simp [control, saveOperation, hne id hid]
    · exact AdministrativeStore.saveOperation_get?_ne s.store hr hp (hne id hid)
  · intro id r hr
    simp only [control, saveOperation, Dict.get?_set] at hr
    split at hr
    · rename_i he
      cases hr
      exact ⟨he.symm, he ▸ hid⟩
    · exact h.memory id r hr
  · intro id r hr
    rcases AdministrativeStore.mem_saveOperation s.store hr with rfl | hr
    · exact hid
    · exact h.stored id r hr

theorem coherent_markOperation (h : s.control.Coherent x n) {id : OperationId}
    (ho : ∀ u task, s.tasks.get? u = some task → x ≠ some u → task.frame.role.operation ≠ some id)
    (status : OperationStatus) (error : Option ErrorCode) (now : Time) :
    (s.markOperation id status error now).control.Coherent x n := by
  unfold markOperation
  split
  · exact h
  · rename_i row hrow
    obtain ⟨rfl, hid⟩ := h.memory id row hrow
    exact coherent_saveOperation h hid ho

theorem coherent_nextOperation (h : s.control.Coherent x n) :
    ({ s with nextOperation := s.nextOperation + 1 } : Service).control.Coherent x n := by
  refine ⟨h.fresh, h.bound.trans (Nat.le_succ _), fun u task hk => ?_, h.unique, h.recoveries, h.pollingTasks,
    fun id row hr => ⟨(h.memory id row hr).1, Nat.lt_succ_of_lt (h.memory id row hr).2⟩,
    fun id row hr => Nat.lt_succ_of_lt (h.stored id row hr), h.active⟩
  exact (h.tasks u task hk).same rfl rfl rfl rfl rfl

theorem coherent_interruptOperations (h : s.control.Coherent x n) (hc : s.closing = true) (now : Time) :
    ({ s with store := s.store.interruptOperations now } : Service).control.Coherent x n := by
  refine ⟨h.fresh, h.bound, fun u task hk => ?_, h.unique, h.recoveries, h.pollingTasks, h.memory, ?_, h.active⟩
  · refine (h.tasks u task hk).mono (fun _ _ hl => ⟨hl, id⟩) (fun _ ha => ?_) id
    exact ha.mono (fun _ _ => rfl) id (fun hf => absurd (hc.symm.trans hf) (by simp))
  · intro id row hr
    obtain ⟨old, hold, -⟩ := Option.map_eq_some_iff.mp ((Dict.get?_mapValues _ _ _).symm.trans hr)
    exact h.stored id old hold

theorem operation_lt (h : s.control.Coherent x n) {u : TaskId} (hk : s.tasks.get? u = some task) {id : OperationId}
    (hid : task.frame.role.operation = some id) : id < n := (h.tasks u task hk).operation id hid

theorem coherent_newOperation (h : s.control.Coherent x n) (kind : OperationKind) (device : Option DeviceId)
    (now : Time) : (s.newOperation kind device now).control.Coherent x n := by
  have hc : ({ s with nextOperation := s.nextOperation + 1 } : Service).control.Coherent x n := coherent_nextOperation h
  refine coherent_saveOperation hc (Nat.lt_succ_self _) (fun u task hk _ hid => ?_)
  exact absurd (h.bound.trans_lt' (operation_lt h hk hid)) (lt_irrefl _)

theorem coherent_scheduleEvent (h : s.control.Coherent x n) (id : OperationId) :
    (s.scheduleEvent id).control.Coherent x n := by
  rcases scheduleEvent_eq (s := s) id with he | ⟨row, he⟩
  · rw [he]
    exact h
  · rw [he]
    exact h.spawn (.event row) rfl trivial trivial (fun hf => by cases hf) (fun id hid => by cases hid)

end Operations

section Steps

variable {G : Guards} {s' : Service}

theorem ne_of_recoveries (h : s.control.Coherent x n) (hk : s.tasks.get? t = some task) {d : DeviceId} {u : TaskId}
    (hu : s.recoveries.get? d = some u) (hr : task.frame.role.recovers d = false) : t ≠ u := by
  rintro rfl
  obtain ⟨task', hk', hr', -⟩ := h.recoveries d t hu
  obtain rfl : task' = task := Option.some.inj (hk'.symm.trans hk)
  cases hr.symm.trans hr'

theorem ne_of_pollingTasks (h : s.control.Coherent x n) (hk : s.tasks.get? t = some task) {d : DeviceId} {u : TaskId}
    (hu : s.pollingTasks.get? d = some u)
    (hp : task.frame.role ≠ .polling d ∧ task.frame.role ≠ .pollingFailed d) : t ≠ u := by
  rintro rfl
  obtain ⟨task', hk', hp'⟩ := h.pollingTasks d t hu
  obtain rfl : task' = task := Option.some.inj (hk'.symm.trans hk)
  exact hp'.elim hp.1 hp.2

theorem ne_of_listed (h : s.control.Coherent x n) (hk : s.tasks.get? t = some task) {u : TaskId} (hu : s.Listed u)
    (hr : task.frame.role = .closing) : t ≠ u := by
  rcases hu with ⟨d, hu⟩ | ⟨d, hu⟩ | ⟨task', hk', hs⟩
  · exact ne_of_recoveries h hk hu (by rw [hr]; rfl)
  · exact ne_of_pollingTasks h hk hu (by simp [hr])
  · rintro rfl
    obtain rfl : task' = task := Option.some.inj (hk'.symm.trans hk)
    cases hf : task'.frame <;> simp [hf, Frame.role, Frame.scheduled] at hr hs

theorem get?_cancel_ne {u : TaskId} (hne : t ≠ u) (hk : s.tasks.get? t = some task) :
    (s.cancel u).tasks.get? t = some task := by simp [cancel, hne, hk]

theorem coherent_stopPolling (h : s.control.Coherent x n) {d : DeviceId} {u : TaskId}
    (hu : s.pollingTasks.get? d = some u) : (s.stopPolling d u).control.Coherent x n :=
      Control.Coherent.stopPolling h hu

theorem coherent_scheduleRecovery (h : s.control.Coherent x n) (d : DeviceId) (immediate : Bool) :
    (s.scheduleRecovery d immediate).control.Coherent x n := by
  unfold scheduleRecovery
  split
  · exact h
  · exact Control.Coherent.startRecovery h d immediate

theorem coherent_startPolling (h : s.control.Coherent x n) (d : DeviceId) :
    (s.startPolling d).control.Coherent x n := by
  unfold startPolling
  dsimp only
  split
  · rename_i u hu
    exact Control.Coherent.startPolling (coherent_stopPolling h hu) d
  · exact Control.Coherent.startPolling h d

theorem get?_spawn (h : s.control.Coherent x n) (hk : s.tasks.get? t = some task) (f : Frame) :
    (s.spawn f).tasks.get? t = some task := Control.get?_spawn_of_some h hk

theorem get?_scheduleRecovery (h : s.control.Coherent x n) (hk : s.tasks.get? t = some task) (d : DeviceId)
    (immediate : Bool) : (s.scheduleRecovery d immediate).tasks.get? t = some task := by
  unfold scheduleRecovery
  split
  · exact hk
  · exact get?_spawn h hk _

theorem get?_startPolling (h : s.control.Coherent x n) (hk : s.tasks.get? t = some task) {d : DeviceId}
    (hp : task.frame.role ≠ .polling d ∧ task.frame.role ≠ .pollingFailed d) :
    (s.startPolling d).tasks.get? t = some task := by
  unfold startPolling
  dsimp only
  split
  · rename_i u hu
    have hne := ne_of_pollingTasks h hk hu hp
    have hk' : (s.stopPolling d u).tasks.get? t = some task := get?_cancel_ne hne hk
    exact get?_spawn (coherent_stopPolling h hu) hk' _
  · exact get?_spawn h hk _

theorem get?_scheduleEvent (h : s.control.Coherent x n) (hk : s.tasks.get? t = some task) (id : OperationId) :
    (s.scheduleEvent id).tasks.get? t = some task := by
  rcases scheduleEvent_eq (s := s) id with he | ⟨row, he⟩
  · rw [he]
    exact hk
  · rw [he]
    exact get?_spawn h hk _

theorem markOperation_tasks (id : OperationId) (status : OperationStatus) (error : Option ErrorCode) (now : Time) :
    (s.markOperation id status error now).tasks = s.tasks := by
  unfold markOperation
  split <;> rfl

theorem not_polling_of_executes {d : DeviceId} (h : task.frame.role.executes d = true) :
    task.frame.role ≠ .polling d ∧ task.frame.role ≠ .pollingFailed d := by
  constructor <;> intro hr <;> rw [hr] at h <;> cases h

theorem coherent_move (h : s.control.Coherent (some t) n) (hk : s.tasks.get? t = some task)
    (hm : Move G t task n s s') : s'.control.Coherent (some t) n ∧ s'.tasks.get? t = some task := by
  cases hm with
  | quiet hq =>
    have ht : s'.tasks = s.tasks := congrArg Control.tasks hq.control
    rw [hq.control, ht]
    exact ⟨h, hk⟩
  | acquire hl => exact ⟨h.locked (.inr hl) (some t) s.adapter.client, hk⟩
  | release hl => exact ⟨h.locked (.inl hl) none s.adapter.client, hk⟩
  | unlink => exact ⟨h.unlink, hk⟩
  | link hf hl => exact ⟨h.locked (.inl hl) s.ioLock (some _), hk⟩
  | discover results => exact ⟨h.frame _ _ _ _, hk⟩
  | select _ _ =>
    rw [control_select]
    exact ⟨h, hk⟩
  | connectCalled _ _ | succeeded _ | attempt _ _ => exact ⟨h.frame _ _ _ _, hk⟩
  | create d now _ => exact ⟨coherent_newOperation h .reconnect (some d) now, hk⟩
  | mark hid status error now hs =>
    refine ⟨coherent_markOperation h ?_ status error now, by rw [markOperation_tasks]; exact hk⟩
    intro u k hu hx hop
    rcases hid with hid | hid
    · exact hx (congrArg some (h.unique t u task k _ hk hu hid hop))
    · exact absurd (operation_lt h hu hop) (not_lt_of_ge hid.1)
  | event id => exact ⟨coherent_scheduleEvent h id, get?_scheduleEvent h hk id⟩
  | scheduleRecovery d immediate _ _ =>
    exact ⟨coherent_scheduleRecovery h d immediate, get?_scheduleRecovery h hk d immediate⟩
  | stopRecovery hu hr hrec =>
    have hne := ne_of_recoveries h hk hu (by simp [hr, Role.recovers, hrec])
    exact ⟨Control.Coherent.stopRecovery h hu, get?_cancel_ne hne hk⟩
  | stopPolling hu hr _ =>
    have hne := ne_of_pollingTasks h hk hu (by rcases hr with ⟨call, hr, -⟩ | hr | hr <;> simp [hr])
    exact ⟨coherent_stopPolling h hu, get?_cancel_ne hne hk⟩
  | connected _ => exact ⟨h.frame _ _ _ _, hk⟩
  | startPolling hx _ => exact ⟨coherent_startPolling h _, get?_startPolling h hk (not_polling_of_executes hx)⟩
  | commit observed _ _ _ _ => exact ⟨h.frame _ _ _ _, hk⟩
  | disconnected _ _ _ => exact ⟨h.frame _ _ _ _, hk⟩
  | releaseAdapter id _ _ _ hl _ _ => exact ⟨(h.locked (.inl hl) none s.adapter.client).frame _ _ _ _, hk⟩
  | record d link snapshot now _ _ _ => exact ⟨h.frame _ _ _ _, hk⟩
  | remove now _ _ _ => exact ⟨h.frame _ _ _ _, hk⟩
  | removeConnected now _ _ hl _ _ => exact ⟨(h.locked (.inl hl) none s.adapter.client).frame _ _ _ _, hk⟩
  | cancel hu hr =>
    have hc := (h.tasks t task hk).closing hr
    exact ⟨h.cancel (.inl hc) (fun _ _ => .inl hc), get?_cancel_ne (ne_of_listed h hk hu hr) hk⟩
  | clearRecoveries _ => exact ⟨h.clearRecovery _ (fun d u hu => by cases hu), hk⟩
  | clearPolling _ => exact ⟨h.clearPolling _ (fun d u hu => by cases hu), hk⟩
  | interruptOperations now hr =>
    exact ⟨coherent_interruptOperations h ((h.tasks t task hk).closing hr) now, hk⟩
  | shut _ => exact ⟨h.close, hk⟩

theorem get?_suspend {u : TaskId} {k : Task} {f : Frame} (h : (s.suspend t f).tasks.get? u = some k) :
    (u = t ∧ ∃ old, s.tasks.get? t = some old ∧ k = { old with frame := f }) ∨ u ≠ t ∧ s.tasks.get? u = some k := by
  simp only [suspend, Dict.get?_modify] at h
  split at h
  · rename_i hu
    obtain ⟨old, hold, rfl⟩ := Option.map_eq_some_iff.mp h
    exact .inl ⟨hu, old, hold, rfl⟩
  · rename_i hu
    exact .inr ⟨hu, h⟩

theorem get?_suspend_self (hk : s.tasks.get? t = some task) (f : Frame) :
    (s.suspend t f).tasks.get? t = some { task with frame := f } := by simp [suspend, hk]

theorem get?_suspend_ne {u : TaskId} (hu : u ≠ t) (f : Frame) : (s.suspend t f).tasks.get? u = s.tasks.get? u := by
  simp [suspend, hu]

theorem get?_endTask {u : TaskId} {k : Task} (h : (s.endTask t).tasks.get? u = some k) :
    u ≠ t ∧ s.tasks.get? u = some k := by
  simp only [endTask, Dict.get?_erase] at h
  exact Option.ite_none_left_eq_some.mp h

theorem Sound.others {c : Control} {u : TaskId} {k : Task} (h : c.Sound (some t) n u k) (hu : u ≠ t)
    (hn : n ≤ c.nextOperation) : c.Sound none c.nextOperation u k := by
  have hx : some t ≠ some u := fun he => hu (Option.some.inj he).symm
  exact ⟨h.valid, fun _ => h.lock hx, fun _ => h.cut hx, fun _ => h.accounted hx,
    fun id hid => lt_of_lt_of_le (h.operation id hid) hn, h.closing, h.cancelled⟩

theorem coherent_suspend (h : s.control.Coherent (some t) n) (hk : s.tasks.get? t = some task) {f : Frame}
    (hf : Suspends t task n s f) (hc : task.cancelled = false) :
    (s.suspend t f).control.Coherent none s.nextOperation := by
  have hnew : s.control.Sound none s.nextOperation t { task with frame := f } := by
    have hs := h.tasks t task hk
    refine ⟨hf.valid, fun _ => hf.lock, fun _ => hf.cut, fun _ => hf.pending, fun id hid => ?_, fun hr => ?_, ?_⟩
    · rcases hf.role.operation hid with hold | -
      · exact lt_of_lt_of_le (hs.operation id hold) h.bound
      · obtain ⟨row, hrow, -⟩ := hf.pending.live hid
        exact (h.memory id row hrow).2
    · exact hs.closing (hr ▸ hf.role).of_closing
    · intro ht
      cases hc.symm.trans ht
  refine ⟨?_, le_rfl, ?_, ?_, ?_, ?_, h.memory, h.stored,
    fun d id ha => lt_of_lt_of_le (h.active d id ha) h.bound⟩
  · intro u hu
    cases hk' : (s.suspend t f).tasks.get? u with
    | none => exact hk'
    | some k =>
      rcases get?_suspend hk' with ⟨rfl, old, hold, -⟩ | ⟨-, hold⟩
      · cases (h.fresh u hu).symm.trans hold
      · cases (h.fresh u hu).symm.trans hold
  · intro u k hk'
    rcases get?_suspend hk' with ⟨rfl, old, hold, rfl⟩ | ⟨hu, hold⟩
    · obtain rfl : task = old := Option.some.inj (hk.symm.trans hold)
      exact hnew.same rfl rfl rfl rfl rfl
    · exact (Sound.others (h.tasks u k hold) hu h.bound).same rfl rfl rfl rfl rfl
  · intro u v k k' id hk₁ hk₂ hid hid'
    -- an id the task hands over is its own or new
    have hown : ∀ w old, w ≠ t → s.tasks.get? w = some old → old.frame.role.operation = some id →
        f.role.operation ≠ some id := by
      intro w old hw hold hop hop'
      rcases hf.role.operation hop' with ht | ht
      · exact hw (h.unique w t old task id hold hk hop ht)
      · exact absurd (operation_lt h hold hop) (not_lt_of_ge ht)
    rcases get?_suspend hk₁ with ⟨rfl, old, hold, rfl⟩ | ⟨hu, hold⟩
    · rcases get?_suspend hk₂ with ⟨rfl, -⟩ | ⟨hv, hold'⟩
      · rfl
      · exact absurd hid (hown v k' hv hold' hid')
    · rcases get?_suspend hk₂ with ⟨rfl, old, -, rfl⟩ | ⟨hv, hold'⟩
      · exact absurd hid' (hown u k hu hold hid)
      · exact h.unique u v k k' id hold hold' hid hid'
  · intro d u hu
    obtain ⟨k, hold, hr, hlive⟩ := h.recoveries d u hu
    by_cases hut : u = t
    · subst hut
      obtain rfl : task = k := Option.some.inj (hk.symm.trans hold)
      exact ⟨{ task with frame := f }, get?_suspend_self hk f, hf.role.recovers.trans hr, hlive⟩
    · exact ⟨k, (get?_suspend_ne hut f).trans hold, hr, hlive⟩
  · intro d u hu
    obtain ⟨k, hold, hp⟩ := h.pollingTasks d u hu
    by_cases hut : u = t
    · subst hut
      obtain rfl : task = k := Option.some.inj (hk.symm.trans hold)
      exact ⟨{ task with frame := f }, get?_suspend_self hk f, hf.role.polling hp⟩
    · exact ⟨k, (get?_suspend_ne hut f).trans hold, hp⟩

theorem coherent_endTask (h : s.control.Coherent (some t) n) (hr : ∀ d, s.recoveries.get? d ≠ some t)
    (hp : ∀ d, s.pollingTasks.get? d ≠ some t) : (s.endTask t).control.Coherent none s.nextOperation := by
  have hother : ∀ u k, u ≠ t → s.tasks.get? u = some k → (s.endTask t).tasks.get? u = some k := by
    intro u k hu hold
    simp [endTask, hu, hold]
  refine ⟨?_, le_rfl, ?_, ?_, ?_, ?_, h.memory, h.stored,
    fun d id ha => lt_of_lt_of_le (h.active d id ha) h.bound⟩
  · intro u hu
    cases hk' : (s.endTask t).tasks.get? u with
    | none => exact hk'
    | some k => cases (h.fresh u hu).symm.trans (get?_endTask hk').2
  · intro u k hk'
    obtain ⟨hu, hold⟩ := get?_endTask hk'
    exact (Sound.others (h.tasks u k hold) hu h.bound).same rfl rfl rfl rfl rfl
  · intro u v k k' id hk₁ hk₂
    exact h.unique u v k k' id (get?_endTask hk₁).2 (get?_endTask hk₂).2
  · intro d u hu
    obtain ⟨k, hold, hrec⟩ := h.recoveries d u hu
    exact ⟨k, hother u k (fun he => hr d (he ▸ hu)) hold, hrec⟩
  · intro d u hu
    obtain ⟨k, hold, hpoll⟩ := h.pollingTasks d u hu
    exact ⟨k, hother u k (fun he => hp d (he ▸ hu)) hold, hpoll⟩

theorem get?_dropped {D : Dict DeviceId TaskId} {d d' : DeviceId} {u : TaskId}
    (h : (if D.get? d = some t then D.erase d else D).get? d' = some u) :
    D.get? d' = some u ∧ ¬ (d' = d ∧ u = t) := by
  split at h
  · simp only [Dict.get?_erase] at h
    obtain ⟨hne, hu⟩ := Option.ite_none_left_eq_some.mp h
    exact ⟨hu, fun he => hne he.1⟩
  · rename_i hd
    refine ⟨h, ?_⟩
    rintro ⟨rfl, rfl⟩
    exact hd h

theorem coherent_park (h : s.control.Coherent (some t) n) (hk : s.tasks.get? t = some task)
    (hp : Park G t task n s s') : s'.control.Coherent none s'.nextOperation := by
  have hrec : ∀ d, s.recoveries.get? d = some t → task.frame.role.recovers d = true := by
    intro d hd
    obtain ⟨k, hold, hr, -⟩ := h.recoveries d t hd
    obtain rfl : task = k := Option.some.inj (hk.symm.trans hold)
    exact hr
  have hpoll : ∀ d, s.pollingTasks.get? d = some t →
      task.frame.role = .polling d ∨ task.frame.role = .pollingFailed d := by
    intro d hd
    obtain ⟨k, hold, hr⟩ := h.pollingTasks d t hd
    obtain rfl : task = k := Option.some.inj (hk.symm.trans hold)
    exact hr
  cases hp with
  | suspend f hf hc => exact coherent_suspend h hk hf hc
  | done hr hp _ _ =>
    refine coherent_endTask h (fun d hd => ?_) (fun d hd => ?_)
    · cases (hr d).symm.trans (hrec d hd)
    · exact (hpoll d hd).elim (hp d).1 (hp d).2
  | @recovery d hr _ =>
    have hdrop : ∀ d' u, (s.endRecovery t d).recoveries.get? d' = some u → _ := fun d' u hu => get?_dropped hu
    refine coherent_endTask (s := { s with recoveries := (s.endRecovery t d).recoveries })
      (h.clearRecovery (s.endRecovery t d).recoveries (fun d' u hu => (hdrop d' u hu).1))
      (fun d' hd' => ?_) (fun d' hd' => ?_)
    · obtain ⟨hold, hne⟩ := hdrop d' t hd'
      exact hne ⟨Role.recovers_unique (hrec d' hold) hr, rfl⟩
    · rcases hpoll d' hd' with hp | hp <;> simp [hp, Role.recovers] at hr
  | @polling d hr _ =>
    have hdrop : ∀ d' u, (s.endPolling t d).pollingTasks.get? d' = some u → _ := fun d' u hu => get?_dropped hu
    refine coherent_endTask (s := { s with pollingTasks := (s.endPolling t d).pollingTasks })
      (h.clearPolling (s.endPolling t d).pollingTasks (fun d' u hu => (hdrop d' u hu).1))
      (fun d' hd' => ?_) (fun d' hd' => ?_)
    · have hrec' := hrec d' hd'
      rcases hr with hr | hr <;> simp [hr, Role.recovers] at hrec'
    · obtain ⟨hold, hne⟩ := hdrop d' t hd'
      refine hne ⟨?_, rfl⟩
      have hp := hpoll d' hold
      rcases hr with hr | hr <;> simpa [hr, eq_comm] using hp

abbrev Coherent (s : Service) : Prop := s.control.Coherent none s.nextOperation

theorem coherent_startScan (h : s.Coherent) (now : Time) :
    ((s.newOperation .scan none now).spawn (.scan (.starting s.nextOperation))).Coherent := by
  have hn := (coherent_newOperation h .scan none now).raise (Nat.le_succ _) le_rfl
  refine hn.spawn (.scan (.starting s.nextOperation)) rfl trivial ?_ (fun hf => by cases hf) ?_
  · exact ⟨⟨s.nextOperation, .scan, none, .queued, now, now, none⟩,
      by simp [control, newOperation, saveOperation, ScanPoint.operation], rfl, rfl⟩
  · rintro id ⟨⟩
    exact ⟨Nat.lt_succ_self _, fun u k hk hid => absurd (operation_lt h hk hid) (lt_irrefl _)⟩

theorem coherent_accept (h : s.Coherent) (d : DeviceId) (action : ConnectionAction) (now : Time) :
    (s.accept d action now).Coherent := by
  have hf : ({ s with owner := if action = ConnectionAction.disconnect then s.owner else some d }.updateDevice d
      (fun row => { row with desiredState := action.desired })).Coherent := h.frame _ _ _ _
  generalize hm : { s with owner := if action = ConnectionAction.disconnect then s.owner else some d }.updateDevice d
    (fun row => { row with desiredState := action.desired }) = m at hf
  have hid : s.nextOperation = m.nextOperation := by rw [← hm]; rfl
  have hn := (coherent_newOperation hf action.kind (some d) now).raise (Nat.le_succ _) le_rfl
  have hp : (m.newOperation action.kind (some d) now).control.Pending ⟨m.nextOperation, d, action, false⟩ := by
    have hs : (m.saveOperation ⟨m.nextOperation, action.kind, some d, .queued, now, now, none⟩).control.Pending
        ⟨m.nextOperation, d, action, false⟩ := by
      refine pending_saveOperation rfl rfl rfl rfl (fun _ r hr => ?_)
      exact absurd (hf.stored _ r hr) (lt_irrefl _)
    exact hs
  have ha := hn.activate d m.nextOperation (Nat.lt_succ_self _)
  have hspawn := ha.spawn (.queued ⟨m.nextOperation, d, action, false⟩) rfl rfl ?_ (fun hf => by cases hf) ?_
  · have hfin := hspawn.frame m.connectedDevice m.owner m.control.desire (.accepted d action :: m.trace)
    unfold accept
    dsimp only
    rw [hm, hid]
    exact hfin
  · exact Control.Accounted.same (r := .procedure ⟨m.nextOperation, d, action, false⟩) hp rfl rfl rfl
  · rintro id ⟨⟩
    exact ⟨Nat.lt_succ_self _, fun u k hk hid => absurd (operation_lt hf hk hid) (lt_irrefl _)⟩

theorem coherent_request (h : s.Coherent) (hr : Request G s s') : s'.Coherent := by
  cases hr with
  | quiet hq =>
    have hn : s'.nextOperation = s.nextOperation := congrArg Control.nextOperation hq.control
    unfold Coherent
    rw [hq.control, hn]
    exact h
  | unlink => exact h.unlink
  | startScan now => exact coherent_startScan h now
  | register row _ _ _ =>
    exact (h.frame _ _ _ _).spawn (.registerHeartbeat row.deviceId .disconnected) rfl trivial trivial
      (fun hf => by cases hf) (fun id hid => by cases hid)
  | patch d patch candidate _ => exact h.frame _ _ _ _
  | deleteRecovering _ hu =>
    exact (Control.Coherent.stopRecovery h hu).spawn (.deletion _ _) rfl trivial trivial (fun hf => by cases hf)
      (fun id hid => by cases hid)
  | deletePolling _ hu =>
    exact (Control.Coherent.stopPolling h hu).spawn (.deletion _ _) rfl trivial trivial (fun hf => by cases hf)
      (fun id hid => by cases hid)
  | deleteConnected _ =>
    exact h.spawn (.deletion _ _) rfl trivial trivial (fun hf => by cases hf) (fun id hid => by cases hid)
  | delete now _ _ _ _ => exact h.frame _ _ _ _
  | join _ _ => exact h.frame _ _ _ _
  | accept action now _ _ _ => exact coherent_accept h _ action now
  | close =>
    exact (h.shut.cancel (.inl rfl) (fun _ _ => .inl rfl)).spawn (.closing _) rfl trivial trivial (fun _ => rfl)
      (fun id hid => by cases hid)
  | @adopt d _ =>
    have hf : ({ s with owner := some d } : Service).Coherent := h.frame _ _ _ _
    have hn : ({ s with owner := some d }.scheduleRecovery d true).nextOperation = s.nextOperation := by
      unfold scheduleRecovery
      split <;> rfl
    unfold Coherent
    rw [hn]
    exact coherent_scheduleRecovery hf d true

theorem coherent_requests (h : s.Coherent) (hr : ReflTransGen (Request G) s s') : s'.Coherent := by
  induction hr with
  | refl => exact h
  | tail _ hr ih => exact coherent_request ih hr

theorem coherent_create {settings : ServiceSettings} {store : AdministrativeStore} {T : TelemetryState}
    {id : DiscoveryId} {nextOperation : OperationId} {trace : List TraceItem}
    (h : ∀ id row, store.operations.get? id = some row → id < nextOperation) (now : Time) :
    ((create settings store T id nextOperation trace).startDiscovery now).Coherent := by
  have hc : ({ create settings store T id nextOperation trace with
      store := store.interruptOperations now, discoveryTask := 0 } : Service).Coherent := by
    refine ⟨fun _ _ => rfl, le_rfl, ?_, ?_, ?_, ?_, ?_, fun id row hr => ?_, ?_⟩
    case refine_6 =>
      obtain ⟨old, hold, -⟩ := Option.map_eq_some_iff.mp ((Dict.get?_mapValues _ _ _).symm.trans hr)
      exact h id old hold
    all_goals
      intros
      contradiction
  exact hc.spawn (.discovery .starting) rfl trivial trivial (fun hf => by cases hf) (fun id hid => by cases hid)

theorem coherent_moves {m : Service} (h : s.Coherent) (hk : s.tasks.get? t = some task)
    (hm : ReflTransGen (Move G t task s.nextOperation) s m) :
    m.control.Coherent (some t) s.nextOperation ∧ m.tasks.get? t = some task := by
  induction hm with
  | refl => exact ⟨h.begin t, hk⟩
  | tail _ hm ih => exact coherent_move ih.1 ih.2 hm

theorem coherent_evolves (h : s.Coherent) (he : Evolves G s s') : s'.Coherent := by
  cases he with
  | segment hk _ _ hseg =>
    obtain ⟨m, hm, hp⟩ := hseg
    obtain ⟨hc, hk'⟩ := coherent_moves h hk hm
    exact coherent_park hc hk' hp
  | request hr => exact coherent_requests h hr
  | restart now hr => exact coherent_requests (coherent_create h.stored now) hr

theorem Coherent.ready (h : s.Coherent) (hk : s.tasks.get? t = some task) : Ready t task s := by
  have hs := h.tasks t task hk
  refine ⟨h.fresh, hs.lock (by simp), hs.cut (by simp), hs.valid, hs.accounted (by simp), ?_⟩
  cases hr : s.store.operations.get? s.nextOperation with
  | none => rfl
  | some row => exact absurd (h.stored _ row hr) (lt_irrefl _)

theorem evolves_step (h : s.Coherent) {a : Action} (hG : G.Promised s a) (hs : s.step a = some s') : Evolves G s s' :=
  evolves_of_step (fun _ _ hk => h.ready hk) hG hs

theorem proceeds_step (h : s.Coherent) {a : Action} (hG : G.Promised s a) (ha : ∀ now, a ≠ .restart now)
    (hs : s.step a = some s') :
    (∃ t task, s.tasks.get? t = some task ∧ Segment G t task s.nextOperation s s') ∨ ReflTransGen (Request G) s s' :=
  (proceeds_of_step (fun _ _ hk => h.ready hk) hG ha hs).imp_left
    (fun ⟨t, task, _, _, _, hk, _, _, hseg⟩ => ⟨t, task, hk, hseg⟩)

end Steps

end Service

end PitbluCore
