import PitbluCore.ServiceOperations

namespace PitbluCore

open Library Relation OperationRow

def Role.requested : Role → Bool
  | .procedure call => !call.recovering
  | .scan _ => true
  | _ => false

def Role.tends : Role → Bool
  | .procedure call => call.recovering
  | .recovery _ | .polling _ => true
  | _ => false

def Role.restores : Role → Bool
  | .procedure call => call.recovering
  | .recovery _ => true
  | _ => false

def Role.monitors : Role → Bool
  | .polling _ => true
  | _ => false

structure Role.Assigned (f : Role → Bool) : Prop where
  handover : ∀ {n r r'}, Handover n r r' → f r' = true → f r = true
  closing : f .closing = false
  failed : ∀ d, f (.pollingFailed d) = false

namespace Role

variable {r : Role}

theorem assigned_requested : Assigned requested where
  handover h hr := by
    cases h with
    | same => exact hr
    | _ => cases hr
  closing := rfl
  failed _ := rfl

theorem assigned_restores : Assigned restores where
  handover h hr := by
    cases h with
    | same => exact hr
    | attempt => rfl
    | retry hrec => exact hrec
    | crash => cases hr
  closing := rfl
  failed _ := rfl

theorem assigned_tends : Assigned tends where
  handover h hr := by
    cases h with
    | same => exact hr
    | attempt => rfl
    | retry hrec => exact hrec
    | crash => cases hr
  closing := rfl
  failed _ := rfl

theorem tends_of_restores (h : r.restores = true) : r.tends = true := by
  cases r <;> first | exact h | rfl

theorem restores_or_monitors (h : r.tends = true) : r.restores = true ∨ r.monitors = true := by
  cases r with
  | polling => exact .inr rfl
  | _ => exact .inl h

theorem restores_iff : r.restores = true ↔ ∃ d, r.recovers d = true := by
  cases r <;> simp [restores, recovers]

theorem monitors_iff : r.monitors = true ↔ ∃ d, r.polls d = true := by
  cases r <;> simp [monitors, polls]

end Role

theorem Frame.scheduled_of_requested {f : Frame} (h : f.role.requested = true) : f.scheduled = true := by
  cases f <;> first | rfl | exact h

namespace Service

variable {G : Guards} {s s' : Service} {t : TaskId} {task : Task} {n : OperationId} {d : DeviceId}

section Stages

/-- The tasks with such a role are among these. -/
def Within (s : Service) (f : Role → Bool) (ts : List TaskId) : Prop :=
  ∀ u k, s.tasks.get? u = some k → f k.frame.role = true → u ∈ ts

structure Drained (s : Service) : Prop extends s.Unrecovering where
  requests : s.Within Role.requested []

structure Emptied (s : Service) : Prop extends s.Drained where
  polls : ∀ d, s.pollingTasks.get? d = none

structure Settled (s : Service) : Prop extends s.Emptied where
  rows : ∀ id row, s.store.operations.get? id = some row → row.status.pending = false

def Stage (s : Service) : ClosePoint → Prop
  | .stoppingDiscovery _ => True
  | .stoppingOperations ts => s.Within Role.requested ts
  | .stoppingRecoveries _ => s.Drained
  | .stoppingPolling _ | .stoppingRemaining _ => s.Emptied
  | .disconnecting => s.Settled

variable {ts : List TaskId} {f : Role → Bool}

theorem Within.arises {new : Frame → Prop} (h : s.Within f ts) (ha : Arises s new s')
    (hf : ∀ fr, new fr → f fr.role = false) : s'.Within f ts := by
  intro u k hk hr
  cases ha u k hk with
  | spawned hnew hk =>
    rw [hk] at hr
    cases (hf _ hnew).symm.trans hr
  | @kept old hold hk =>
    refine h u old hold ?_
    rcases hk with rfl | rfl
    · exact hr
    · rwa [Task.cancel_frame] at hr

theorem Within.park (hf : Role.Assigned f) (h : s.Within f ts) (hk : s.tasks.get? t = some task)
    (hp : Park G t task n s s') : s'.Within f ts := by
  have hend : (s.endTask t).Within f ts := fun u k hk' => h u k (get?_endTask hk').2
  cases hp with
  | suspend fr hs _ =>
    intro u k hk' hr
    rcases get?_suspend hk' with ⟨rfl, old, hold, rfl⟩ | ⟨-, hold⟩
    · obtain rfl : task = old := Option.some.inj (hk.symm.trans hold)
      exact h u task hk (hf.handover hs.role hr)
    · exact h u k hold hr
  | done | recovery | polling => exact hend

theorem Within.ended (hf : Role.Assigned f) (h : s.Within f ts) (he : s.ended ts = true) : s.Within f [] := by
  intro u k hk hr
  have hdone := List.all_eq_true.mp he u (h u k hk hr)
  rw [hk] at hdone
  have hdone' : k.done = true := hdone
  unfold Task.done at hdone'
  split at hdone'
  · rename_i d hd
    rw [hd] at hr
    cases (hf.failed d).symm.trans hr
  · cases hdone'

theorem Within.requests_move (h : s.Within Role.requested ts) (hm : Move G t task n s s') :
    s'.Within Role.requested ts :=
  h.arises (arises_move hm) (fun f hf => by cases hf <;> rfl)

theorem Within.requests_request (h : s.Within Role.requested ts) (hc : s.closing = true) (hr : Request G s s') :
    s'.Within Role.requested ts := by
  refine h.arises (arises_request hr) (fun f hf => ?_)
  have hnot : s.closing ≠ false := by simp [hc]
  cases hf with
  | scan id hc => exact absurd hc hnot
  | queued hd hp ho hc => exact absurd hc hnot
  | _ => rfl

theorem Drained.cancelled (h : s.Drained) (htab : s.Tabled) (hk : s.tasks.get? t = some task) {id : OperationId}
    (hop : task.frame.role.operation = some id) : task.cancelled = true := by
  have hreq := h.requests t task hk
  have hrec : ∀ d, task.frame.role.recovers d = true → task.cancelled = true :=
    fun d => h.toUnrecovering.cancelled htab hk
  generalize task.frame.role = r at hop hreq hrec
  cases r with
  | procedure call =>
    cases hr : call.recovering with
    | true => exact hrec call.device (by simp [Role.recovers, hr])
    | false => cases hreq (by simp [Role.requested, hr])
  | scan => cases hreq rfl
  | _ => cases hop

theorem Drained.not_executes (h : s.Drained) (htab : s.Tabled) (hk : s.tasks.get? t = some task)
    (hx : task.frame.role.executes d = true) : task.cancelled = true := by
  have hcancel : ∀ id, task.frame.role.operation = some id → task.cancelled = true := fun id => h.cancelled htab hk
  generalize task.frame.role = r at hx hcancel
  cases r with
  | procedure call => exact hcancel call.operation rfl
  | _ => cases hx

theorem Drained.move (h : s.Drained) (hm : Move G t task n s s') : s'.Drained :=
  ⟨h.toUnrecovering.move hm, h.requests.requests_move hm⟩

theorem Drained.park (h : s.Drained) (hk : s.tasks.get? t = some task) (hp : Park G t task n s s') : s'.Drained :=
  ⟨h.toUnrecovering.park hp, h.requests.park Role.assigned_requested hk hp⟩

theorem Drained.request (h : s.Drained) (hr : Request G s s') : s'.Drained :=
  ⟨h.toUnrecovering.request hr, h.requests.requests_request h.closing hr⟩

theorem polls_of_same (h : ∀ d, s.pollingTasks.get? d = none)
    (hp : ∀ d u, s'.pollingTasks.get? d = some u → s.pollingTasks.get? d = some u) :
    ∀ d, s'.pollingTasks.get? d = none := by
  refine fun d => Option.eq_none_iff_forall_ne_some.mpr (fun u hu => ?_)
  cases (h d).symm.trans (hp d u hu)

theorem Emptied.move (h : s.Emptied) (htab : s.Tabled) (hk : s.tasks.get? t = some task) (hm : Move G t task n s s') :
    s'.Emptied := by
  refine ⟨h.toDrained.move hm, polls_of_same h.polls (fun d u hu => ?_)⟩
  cases hm with
  | quiet hq =>
    have hp : s'.pollingTasks = s.pollingTasks := congrArg Control.pollingTasks hq.control
    rwa [hp] at hu
  | mark _ status error now =>
    unfold markOperation at hu
    split at hu <;> exact hu
  | event id =>
    unfold scheduleEvent at hu
    split at hu <;> exact hu
  | scheduleRecovery d' immediate => rwa [scheduleRecovery_of_closing h.closing] at hu
  | stopPolling => exact Control.get?_erase_some hu
  | startPolling hx _ hlive => cases hlive.symm.trans (h.toDrained.not_executes htab hk hx)
  | clearPolling => cases hu
  | _ => exact hu

theorem Emptied.park (h : s.Emptied) (hk : s.tasks.get? t = some task) (hp : Park G t task n s s') : s'.Emptied := by
  refine ⟨h.toDrained.park hk hp, polls_of_same h.polls (fun d u hu => ?_)⟩
  cases hp with
  | polling =>
    simp only [endPolling] at hu
    split at hu
    · exact Control.get?_erase_some hu
    · exact hu
  | _ => exact hu

theorem Emptied.request (h : s.Emptied) (hr : Request G s s') : s'.Emptied := by
  refine ⟨h.toDrained.request hr, polls_of_same h.polls (fun d u hu => ?_)⟩
  cases hr with
  | quiet hq =>
    have hp : s'.pollingTasks = s.pollingTasks := congrArg Control.pollingTasks hq.control
    rwa [hp] at hu
  | deletePolling => exact Control.get?_erase_some hu
  | @adopt d' =>
    have he := scheduleRecovery_of_closing (s := { s with owner := some d' }) h.closing d' true
    rwa [he] at hu
  | _ => exact hu

theorem Settled.move (h : s.Settled) (htab : s.Tabled) (hk : s.tasks.get? t = some task) (hm : Move G t task n s s') :
    s'.Settled := by
  refine ⟨h.toEmptied.move htab hk hm, fun id row hrow => ?_⟩
  have hrec : ∀ d, task.frame.role = .recovery d → task.cancelled = true := by
    intro d hr
    exact h.toUnrecovering.cancelled htab hk (d := d) (by simp [hr, Role.recovers])
  cases writes_move hm id with
  | kept _ hs => exact h.rows id row (hs row hrow)
  | saved hid _ _ _ _ _ hb hs =>
    have hcancel : task.cancelled = true := by
      rcases hid with hop | ⟨-, -, d, hr⟩
      · exact h.toDrained.cancelled htab hk hop
      · exact hrec d hr
    rw [(hs row hrow).1]
    exact (hb hcancel).not_pending
  | created _ hlive hr =>
    obtain ⟨d, hr⟩ := hr
    cases hlive.symm.trans (hrec d hr)
  | interrupted _ _ hs =>
    obtain ⟨r, hr, ⟨rfl, hp⟩ | ⟨-, hi⟩⟩ := hs row hrow
    · exact hp
    · exact hi.not_pending

theorem Settled.park (h : s.Settled) (hk : s.tasks.get? t = some task) (hp : Park G t task n s s') : s'.Settled := by
  have hs : s'.store = s.store := by cases hp <;> rfl
  refine ⟨h.toEmptied.park hk hp, ?_⟩
  rw [hs]
  exact h.rows

theorem Settled.request (h : s.Settled) (hr : Request G s s') : s'.Settled := by
  refine ⟨h.toEmptied.request hr, ?_⟩
  rcases rows_request hr with ⟨-, hs⟩ | ⟨hc, -⟩
  · rw [hs]
    exact h.rows
  · cases hc.symm.trans h.closing

variable {point : ClosePoint}

theorem Stage.move (h : s.Stage point) (htab : s.Tabled) (hk : s.tasks.get? t = some task) (hm : Move G t task n s s') :
    s'.Stage point := by
  cases point with
  | stoppingDiscovery => trivial
  | stoppingOperations => exact Within.requests_move h hm
  | stoppingRecoveries => exact Drained.move h hm
  | stoppingPolling | stoppingRemaining => exact Emptied.move h htab hk hm
  | disconnecting => exact Settled.move h htab hk hm

theorem Stage.park (h : s.Stage point) (hk : s.tasks.get? t = some task) (hp : Park G t task n s s') :
    s'.Stage point := by
  cases point with
  | stoppingDiscovery => trivial
  | stoppingOperations => exact Within.park Role.assigned_requested h hk hp
  | stoppingRecoveries => exact Drained.park h hk hp
  | stoppingPolling | stoppingRemaining => exact Emptied.park h hk hp
  | disconnecting => exact Settled.park h hk hp

theorem Stage.request (h : s.Stage point) (hc : s.closing = true) (hr : Request G s s') : s'.Stage point := by
  cases point with
  | stoppingDiscovery => trivial
  | stoppingOperations => exact Within.requests_request h hc hr
  | stoppingRecoveries => exact Drained.request h hr
  | stoppingPolling | stoppingRemaining => exact Emptied.request h hr
  | disconnecting => exact Settled.request h hr

end Stages

section Closing

/-- What `close` does between two awaits of its task: it cancels tasks, empties tables and marks rows as interrupted. -/
structure Winds (t : TaskId) (s s' : Service) : Prop where
  operations : s'.operations = s.operations
  closing : s'.closing = s.closing
  tasks : ∀ u k, u ≠ t → s'.tasks.get? u = some k →
    ∃ old, s.tasks.get? u = some old ∧ k.frame = old.frame ∧ (old.cancelled = true → k.cancelled = true)
  self : ∀ k, s'.tasks.get? t = some k → k.frame.role = .closing
  recoveries : ∀ d u, s'.recoveries.get? d = some u → s.recoveries.get? d = some u
  pollingTasks : ∀ d u, s'.pollingTasks.get? d = some u → s.pollingTasks.get? d = some u
  store : s'.store.operations = s.store.operations ∨ s'.Drained ∧ ∀ id r', s'.store.operations.get? id = some r' →
    ∃ r, s.store.operations.get? id = some r ∧ (r' = r ∨ r.status.pending = true ∧ r'.Interrupted)

theorem Winds.refl (h : ∀ k, s.tasks.get? t = some k → k.frame.role = .closing) : Winds t s s :=
  ⟨rfl, rfl, fun _ k _ hk => ⟨k, hk, rfl, id⟩, h, fun _ _ => id, fun _ _ => id, .inl rfl⟩

theorem Winds.within {f : Role → Bool} (hf : Role.Assigned f) (h : Winds t s s') {ts : List TaskId}
    (hr : s.Within f ts) : s'.Within f ts := by
  intro u k hk hx
  by_cases hu : u = t
  · subst hu
    rw [h.self k hk] at hx
    cases hf.closing.symm.trans hx
  · obtain ⟨old, hold, hf, -⟩ := h.tasks u k hu hk
    exact hr u old hold (by rw [← hf]; exact hx)

theorem Winds.drained (h : Winds t s s') (hd : s.Drained) : s'.Drained :=
  ⟨hd.toUnrecovering.of_same h.closing h.recoveries, h.within Role.assigned_requested hd.requests⟩

theorem Winds.stored (h : Winds t s s') {id : OperationId} {r' : OperationRow}
    (hr' : s'.store.operations.get? id = some r') :
    ∃ r, s.store.operations.get? id = some r ∧ (r' = r ∨ r.status.pending = true ∧ r'.Interrupted ∧ s'.Drained) := by
  rcases h.store with he | ⟨hd, hall⟩
  · exact ⟨r', he ▸ hr', .inl rfl⟩
  · obtain ⟨r, hr, hx⟩ := hall id r' hr'
    exact ⟨r, hr, hx.imp_right (fun hx => ⟨hx.1, hx.2, hd⟩)⟩

theorem Winds.trans {m : Service} (h : Winds t s m) (h' : Winds t m s') : Winds t s s' := by
  refine ⟨h'.operations.trans h.operations, h'.closing.trans h.closing, fun u k hu hk => ?_, h'.self,
    fun d u hu => h.recoveries d u (h'.recoveries d u hu), fun d u hu =>
      h.pollingTasks d u (h'.pollingTasks d u hu), ?_⟩
  · obtain ⟨k', hk', hf', hc'⟩ := h'.tasks u k hu hk
    obtain ⟨old, hold, hf, hc⟩ := h.tasks u k' hu hk'
    exact ⟨old, hold, hf'.trans hf, fun hx => hc' (hc hx)⟩
  · rcases h'.store with he' | ⟨hd', hall'⟩
    · rw [he']
      exact h.store.imp_right (fun hx => ⟨h'.drained hx.1, hx.2⟩)
    · refine .inr ⟨hd', fun id r'' hr'' => ?_⟩
      obtain ⟨r', hr', hx'⟩ := hall' id r'' hr''
      obtain ⟨r, hr, hx⟩ := h.stored hr'
      refine ⟨r, hr, ?_⟩
      rcases hx' with rfl | ⟨hp, hi⟩
      · exact hx.imp_right (fun hx => ⟨hx.1, hx.2.1⟩)
      · rcases hx with rfl | ⟨-, hi', -⟩
        · exact .inr ⟨hp, hi⟩
        · cases hp.symm.trans hi'.not_pending

theorem winds_cancel (h : ∀ k, s.tasks.get? t = some k → k.frame.role = .closing) (u : TaskId) :
    Winds t s (s.cancel u) := by
  have hrefl := Winds.refl h
  have harise : Arises s (fun _ => False) (s.cancel u) := .cancel rfl
  refine ⟨rfl, rfl, fun v k hv hk => ?_, fun k hk => ?_, hrefl.recoveries, hrefl.pollingTasks, .inl rfl⟩
  · rcases harise v k hk with ⟨hold, rfl | rfl⟩ | ⟨hnew, -⟩
    · exact ⟨_, hold, rfl, id⟩
    · refine ⟨_, hold, Task.cancel_frame _, fun hc => ?_⟩
      unfold Task.cancel
      split
      · exact hc
      · rfl
    · exact hnew.elim
  · rcases harise t k hk with ⟨hold, rfl | rfl⟩ | ⟨hnew, -⟩
    · exact h _ hold
    · rw [Task.cancel_frame]
      exact h _ hold
    · exact hnew.elim

theorem winds_cancelAll (h : ∀ k, s.tasks.get? t = some k → k.frame.role = .closing) (ts : List TaskId) :
    Winds t s (s.cancelAll ts) := by
  induction ts generalizing s with
  | nil => exact .refl h
  | cons u ts ih => exact (winds_cancel h u).trans (ih (winds_cancel h u).self)

theorem winds_suspend (h : ∀ k, s.tasks.get? t = some k → k.frame.role = .closing) (point : ClosePoint) :
    Winds t s (s.suspend t (.closing point)) := by
  have hrefl := Winds.refl h
  refine ⟨rfl, rfl, fun u k hu hk => ?_, fun k hk => ?_, hrefl.recoveries, hrefl.pollingTasks, .inl rfl⟩
  · rw [get?_suspend_ne hu] at hk
    exact ⟨k, hk, rfl, id⟩
  · rcases get?_suspend hk with ⟨-, old, hold, rfl⟩ | ⟨hne, -⟩
    · rfl
    · exact absurd rfl hne

variable (h : Winds t s s')

include h

theorem Winds.emptied (he : s.Emptied) : s'.Emptied := ⟨h.drained he.toDrained, polls_of_same he.polls h.pollingTasks⟩

theorem Winds.settled (hs : s.Settled) : s'.Settled := by
  refine ⟨h.emptied hs.toEmptied, fun id r' hr' => ?_⟩
  obtain ⟨r, hr, rfl | ⟨-, hi, -⟩⟩ := h.stored hr'
  · exact hs.rows id _ hr
  · exact hi.not_pending

theorem Winds.stage {point : ClosePoint} (hs : s.Stage point) : s'.Stage point := by
  cases point with
  | stoppingDiscovery => trivial
  | stoppingOperations => exact h.within Role.assigned_requested hs
  | stoppingRecoveries => exact h.drained hs
  | stoppingPolling | stoppingRemaining => exact h.emptied hs
  | disconnecting => exact h.settled hs

omit h

structure Lands (t : TaskId) (s s' : Service) : Prop where
  winds : Winds t s s'
  stage : ∀ k, s'.tasks.get? t = some k → ∃ point, k.frame = .closing point ∧ s'.Stage point

theorem Winds.lands {m : Service} (h : Winds t s m) (hl : Lands t m s') : Lands t s s' := ⟨h.trans hl.winds, hl.stage⟩

theorem Winds.suspend {m : Service} {point : ClosePoint} (h : Winds t s m) (hs : m.Stage point) :
    Lands t s (m.suspend t (.closing point)) := by
  have hw := winds_suspend h.self point
  refine ⟨h.trans hw, fun k hk => ⟨point, ?_, hw.stage hs⟩⟩
  rcases get?_suspend hk with ⟨-, old, -, rfl⟩ | ⟨hne, -⟩
  · rfl
  · exact absurd rfl hne

variable (hself : ∀ k, s.tasks.get? t = some k → k.frame.role = .closing)

include hself

theorem lands_closeAdapter (he : s.Emptied) (now : Time) : Lands t s (s.closeAdapter t now) := by
  have hrefl := Winds.refl hself
  have hw : ∀ m : Service, m.operations = s.operations → m.closing = s.closing → m.tasks = s.tasks →
      m.recoveries = s.recoveries → m.pollingTasks = s.pollingTasks →
      m.store.operations = (s.store.interruptOperations now).operations →
        Lands t s (m.suspend t (.closing .disconnecting)) := by
    intro m hop hclosing htasks hrec hpoll hst
    have hd : m.Drained := by
      refine ⟨⟨hclosing.trans he.closing, fun d => by rw [hrec]; exact he.recoveries d⟩, ?_⟩
      unfold Within
      rw [htasks]
      exact he.requests
    have hw : Winds t s m := by
      refine ⟨hop, hclosing, ?_, ?_, ?_, ?_, .inr ⟨hd, fun id r' hr' => ?_⟩⟩
      · rw [htasks]
        exact hrefl.tasks
      · rw [htasks]
        exact hself
      · rw [hrec]
        exact fun _ _ => id
      · rw [hpoll]
        exact fun _ _ => id
      · rw [hst] at hr'
        obtain ⟨r, hr, hx⟩ := AdministrativeStore.get?_interruptOperations hr'
        exact ⟨r, hr, hx.imp_left And.left⟩
    refine hw.suspend ⟨hw.emptied he, fun id r' hr' => ?_⟩
    rw [hst] at hr'
    obtain ⟨r, -, ⟨rfl, hp⟩ | ⟨-, hi⟩⟩ := AdministrativeStore.get?_interruptOperations hr'
    · exact hp
    · exact hi.not_pending
  unfold closeAdapter
  dsimp only
  split
  · exact hw _ rfl rfl rfl rfl rfl rfl
  · exact hw _ rfl rfl rfl rfl rfl rfl

theorem lands_closeRemaining (he : s.Emptied) (now : Time) : Lands t s (s.closeRemaining t now) := by
  unfold closeRemaining
  dsimp only
  split
  · exact lands_closeAdapter hself he now
  · have hw := winds_cancelAll hself s.scheduledTasks
    exact hw.suspend (hw.emptied he)

theorem lands_closePolling (hd : s.Drained) (now : Time) : Lands t s (s.closePolling t now) := by
  have hrefl := Winds.refl hself
  have hw₁ : Winds t s { s with pollingTasks := Dict.empty } :=
    ⟨rfl, rfl, hrefl.tasks, hself, fun _ _ => id, fun _ _ hu => (by cases hu), .inl rfl⟩
  have hw := hw₁.trans (winds_cancelAll hw₁.self s.pollingTasks.values)
  have he : ({ s with pollingTasks := Dict.empty }.cancelAll s.pollingTasks.values : Service).Emptied := by
    refine ⟨hw.drained hd, fun d => ?_⟩
    rw [cancelAll_pollingTasks]
    rfl
  unfold closePolling
  dsimp only
  split
  · exact hw.lands (lands_closeRemaining hw.self he now)
  · exact hw.suspend he

theorem lands_closeRecoveries (hc : s.closing = true) (hr : s.Within Role.requested []) (now : Time) :
    Lands t s (s.closeRecoveries t now) := by
  have hrefl := Winds.refl hself
  have hw₁ : Winds t s { s with recoveries := Dict.empty } :=
    ⟨rfl, rfl, hrefl.tasks, hself, fun _ _ hu => (by cases hu), fun _ _ => id, .inl rfl⟩
  have hw := hw₁.trans (winds_cancelAll hw₁.self s.recoveries.values)
  have hd : ({ s with recoveries := Dict.empty }.cancelAll s.recoveries.values : Service).Drained := by
    refine ⟨⟨hw.closing.trans hc, fun d => ?_⟩, hw.within Role.assigned_requested hr⟩
    rw [cancelAll_recoveries]
    rfl
  unfold closeRecoveries
  dsimp only
  split
  · exact hw.lands (lands_closePolling hw.self hd now)
  · exact hw.suspend hd

theorem lands_closeOperations (hc : s.closing = true) (now : Time) : Lands t s (s.closeOperations t now) := by
  have hall : s.Within Role.requested s.scheduledTasks := by
    intro u k hk hr
    refine List.mem_map.mpr ⟨(u, k), List.mem_filter.mpr ⟨Dict.mem_entries_iff.mpr hk, ?_⟩, rfl⟩
    exact Frame.scheduled_of_requested hr
  unfold closeOperations
  dsimp only
  split
  · rename_i hnil
    exact lands_closeRecoveries hself hc (hnil ▸ hall) now
  · have hw := winds_cancelAll hself s.scheduledTasks
    exact hw.suspend (hw.within Role.assigned_requested hall)

theorem lands_resumeClosing {point : ClosePoint} {outcome : Outcome} {now : Time} (hc : s.closing = true)
    (hs : s.Stage point) (h : s.resumeClosing t point outcome now = some s') : Lands t s s' := by
  unfold resumeClosing at h
  split at h
  case h_1 =>
    split at h <;> cases h
    exact lands_closeOperations hself hc now
  case h_2 =>
    split at h <;> cases h
    rename_i he
    exact lands_closeRecoveries hself hc (Within.ended Role.assigned_requested hs he) now
  case h_3 =>
    split at h <;> cases h
    exact lands_closePolling hself hs now
  case h_4 =>
    split at h <;> cases h
    exact lands_closeRemaining hself hs now
  case h_5 =>
    split at h <;> cases h
    exact lands_closeAdapter hself hs now
  case h_6 =>
    cases h
    have hrefl := Winds.refl hself
    have hend : ∀ k, ({ s with telemetry := s.telemetry.close, closed := true }.endTask t).tasks.get? t ≠ some k :=
      fun k hk => (get?_endTask hk).1 rfl
    refine ⟨⟨rfl, rfl, fun u k hu hk => ⟨k, (get?_endTask hk).2, rfl, id⟩, fun k hk => absurd hk (hend k),
      fun _ _ => id, fun _ _ => id, .inl rfl⟩, fun k hk => absurd hk (hend k)⟩
  case h_7 => cases h

end Closing

section Lifecycle

def Stages (s : Service) : Prop :=
  ∀ u k point, s.tasks.get? u = some k → k.frame = .closing point → s.Stage point

theorem closing_of_kept {k old : Task} {point : ClosePoint} (hk : k = old ∨ k = old.cancel)
    (hf : k.frame = .closing point) : old.frame = .closing point := by
  rcases hk with rfl | rfl
  · exact hf
  · rwa [Task.cancel_frame] at hf

theorem closing_of_move {u : TaskId} {k : Task} {point : ClosePoint} (hm : Move G t task n s s')
    (hu : s'.tasks.get? u = some k) (hf : k.frame = .closing point) :
    ∃ old, s.tasks.get? u = some old ∧ old.frame = .closing point := by
  cases arises_move hm u k hu with
  | spawned hnew hk' =>
    rw [hk'] at hf
    cases hnew <;> cases hf
  | kept hold hk' => exact ⟨_, hold, closing_of_kept hk' hf⟩

theorem closing_of_request {u : TaskId} {k : Task} {point : ClosePoint} (hr : Request G s s')
    (hu : s'.tasks.get? u = some k) (hf : k.frame = .closing point) :
    (∃ v, point = .stoppingDiscovery v) ∨ ∃ old, s.tasks.get? u = some old ∧ old.frame = .closing point := by
  cases arises_request hr u k hu with
  | spawned hnew hk' =>
    rw [hk'] at hf
    cases hnew <;> cases hf
    exact .inl ⟨_, rfl⟩
  | kept hold hk' => exact .inr ⟨_, hold, closing_of_kept hk' hf⟩

theorem Stages.move (h : s.Stages) (hk : s.tasks.get? t = some task) (htab : s.Tabled) (hm : Move G t task n s s') :
    s'.Stages := by
  intro u k point hu hf
  obtain ⟨old, hold, hf⟩ := closing_of_move hm hu hf
  exact (h u old point hold hf).move htab hk hm

theorem closing_of_park {u : TaskId} {k : Task} {point : ClosePoint} (hr : task.frame.role ≠ .closing)
    (hp : Park G t task n s s') (hu : s'.tasks.get? u = some k) (hf : k.frame = .closing point) :
    ∃ old, s.tasks.get? u = some old ∧ old.frame = .closing point := by
  cases hp with
  | suspend f hs _ =>
    rcases get?_suspend hu with ⟨rfl, old, hold, rfl⟩ | ⟨-, hold⟩
    · have hrole := hs.role
      rw [show f.role = .closing by rw [show f = .closing point from hf]; rfl] at hrole
      exact absurd hrole.of_closing hr
    · exact ⟨k, hold, hf⟩
  | done | recovery | polling => exact ⟨k, (get?_endTask hu).2, hf⟩

theorem Stages.park (h : s.Stages) (hr : task.frame.role ≠ .closing) (hk : s.tasks.get? t = some task)
    (hp : Park G t task n s s') : s'.Stages := by
  intro u k point hu hf
  obtain ⟨old, hold, hf⟩ := closing_of_park hr hp hu hf
  exact (h u old point hold hf).park hk hp

theorem Stages.request (h : s.Stages) (hcs : s.Coherent) (hr : Request G s s') : s'.Stages := by
  intro u k point hu hf
  rcases closing_of_request hr hu hf with ⟨v, rfl⟩ | ⟨old, hold, hf⟩
  · trivial
  · exact (h u old point hold hf).request ((hcs.tasks u old hold).closing (by rw [hf]; rfl)) hr

theorem Lands.stages (hl : Lands t s s') (h : s.Stages) : s'.Stages := by
  intro u k point hu hf
  by_cases hut : u = t
  · subst hut
    obtain ⟨point', hf', hst⟩ := hl.stage k hu
    rw [hf'] at hf
    cases hf
    exact hst
  · obtain ⟨old, hold, hfr, -⟩ := hl.winds.tasks u k hut hu
    exact hl.winds.stage (h u old point hold (by rw [← hfr]; exact hf))

/-- The rows in the store are up to date, `close` is as far as its stage says, and once it has returned
nothing is pending. -/
structure Managed (s : Service) : Prop where
  mirrored : s.Mirrored
  stages : ∀ u k point, s.tasks.get? u = some k → k.frame = .closing point → s.Stage point
  closed : s.closed = true → s.Settled

structure Lifecycle (x : Option TaskId) (s : Service) : Prop where
  tabled : s.Tabled
  proper : ∀ id row, s.store.operations.get? id = some row → row.Proper
  managed : (∀ t k, x = some t → s.tasks.get? t = some k → k.frame.role ≠ .closing) → s.Managed

theorem proper_of_same {row row' : OperationRow} (h : row'.Proper) (hs : row.status = row'.status)
    (he : row.errorCode = row'.errorCode) : row.Proper := by
  unfold OperationRow.Proper
  rw [hs, he]
  exact h

theorem proper_move (h : ∀ id row, s.store.operations.get? id = some row → row.Proper) (hm : Move G t task n s s') :
    ∀ id row, s'.store.operations.get? id = some row → row.Proper := by
  intro id row hrow
  cases writes_move hm id with
  | kept _ hs => exact h id row (hs row hrow)
  | saved _ _ _ _ _ he _ hs | created _ _ _ _ he hs =>
    obtain ⟨hst, herr⟩ := hs row hrow
    exact proper_of_same he hst herr
  | interrupted _ _ hs =>
    obtain ⟨r, hr, ⟨rfl, -⟩ | ⟨-, hi⟩⟩ := hs row hrow
    · exact h id _ hr
    · exact hi.proper

theorem proper_request (h : ∀ id row, s.store.operations.get? id = some row → row.Proper) (hr : Request G s s') :
    ∀ id row, s'.store.operations.get? id = some row → row.Proper := by
  intro id row hrow
  rcases rows_request hr with ⟨-, hs⟩ | ⟨-, kind, device, now, -, hs, -⟩
  · rw [hs] at hrow
    exact h id row hrow
  · rw [hs] at hrow
    rcases get?_newOperation (s := s) kind device now id with ⟨-, row', -, hq, he, hst⟩ | ⟨-, -, hold⟩
    · obtain ⟨hst, herr⟩ := hst row hrow
      have hnew : row'.Proper := by simp [OperationRow.Proper, hq, he]
      exact proper_of_same hnew hst herr
    · exact h id row (hold row hrow)

theorem proper_interruptOperations {S : AdministrativeStore}
    (h : ∀ id row, S.operations.get? id = some row → row.Proper)
    (now : Time) : ∀ id row, (S.interruptOperations now).operations.get? id = some row → row.Proper := by
  intro id row hrow
  obtain ⟨r, hr, ⟨rfl, -⟩ | ⟨-, hi⟩⟩ := AdministrativeStore.get?_interruptOperations hrow
  · exact h id _ hr
  · exact hi.proper

theorem closed_move (hm : Move G t task n s s') :
    s'.closed = s.closed ∨ task.frame.role = .closing ∧ s'.closed = true := by
  cases hm with
  | shut hf => exact .inr ⟨by rw [hf]; rfl, rfl⟩
  | quiet hq => exact .inl (congrArg Control.closed hq.control)
  | mark =>
    unfold markOperation
    split <;> exact .inl rfl
  | event =>
    unfold scheduleEvent
    split <;> exact .inl rfl
  | scheduleRecovery =>
    unfold scheduleRecovery
    split <;> exact .inl rfl
  | startPolling =>
    unfold startPolling
    dsimp only
    split <;> exact .inl rfl
  | _ => exact .inl rfl

theorem closed_park (hp : Park G t task n s s') : s'.closed = s.closed := by cases hp <;> rfl

theorem closed_request (hr : Request G s s') : s'.closed = s.closed := by
  cases hr with
  | quiet hq => exact congrArg Control.closed hq.control
  | adopt =>
    unfold scheduleRecovery
    split <;> rfl
  | _ => rfl

theorem closed_requests (hr : ReflTransGen (Request G) s s') : s'.closed = s.closed := by
  induction hr with
  | refl => rfl
  | tail _ hr ih => exact (closed_request hr).trans ih

theorem closed_moves {m : Service} (hm : ReflTransGen (Move G t task n) s m) (h : s.closed = true) :
    m.closed = true := by
  induction hm with
  | refl => exact h
  | tail _ hm ih =>
    rcases closed_move hm with he | ⟨-, he⟩
    · exact he.trans ih
    · exact he

theorem closed_step {a : Action} (hc : s.Coherent) (ha : ∀ now, a ≠ .restart now) (hs : s.step a = some s')
    (h : s.closed = true) : s'.closed = true := by
  rcases proceeds_step (G := {}) hc {} ha hs with ⟨t, task, -, m, hm, hp⟩ | hr
  · exact (closed_park hp).trans (closed_moves hm h)
  · exact (closed_requests hr).trans h

theorem Managed.move (hr : task.frame.role ≠ .closing) (hk : s.tasks.get? t = some task) (htab : s.Tabled)
    (h : s.Managed) (hm : Move G t task n s s') : s'.Managed := by
  refine ⟨h.mirrored.move hr hm, Stages.move h.stages hk htab hm, fun hc => ?_⟩
  rw [(closed_move hm).resolve_right (fun hx => hr hx.1)] at hc
  exact (h.closed hc).move htab hk hm

theorem Managed.park (hr : task.frame.role ≠ .closing) (hk : s.tasks.get? t = some task) (htab : s.Tabled)
    (h : s.Managed) (hp : Park G t task n s s') : s'.Managed := by
  refine ⟨h.mirrored.park hk htab hp, Stages.park h.stages hr hk hp, fun hc => ?_⟩
  rw [closed_park hp] at hc
  exact (h.closed hc).park hk hp

theorem Managed.request (hcs : s.Coherent) (h : s.Managed) (hr : Request G s s') : s'.Managed := by
  refine ⟨h.mirrored.request hr, Stages.request h.stages hcs hr, fun hc => ?_⟩
  rw [closed_request hr] at hc
  exact (h.closed hc).request hr

theorem closed_resumeClosing {point : ClosePoint} {outcome : Outcome} {now : Time}
    (h : s.resumeClosing t point outcome now = some s') : s'.closed = s.closed ∨ point = .disconnecting := by
  have hall : ∀ (ts : List TaskId) (m : Service), (m.cancelAll ts).closed = m.closed := by
    intro ts m
    obtain ⟨tasks, he⟩ := cancelAll_eq (s := m) ts
    rw [he]
  have hadapter : ∀ m : Service, (m.closeAdapter t now).closed = m.closed := by
    intro m
    unfold closeAdapter
    dsimp only
    split <;> rfl
  have hremaining : ∀ m : Service, (m.closeRemaining t now).closed = m.closed := by
    intro m
    unfold closeRemaining
    dsimp only
    split
    · exact hadapter m
    · exact hall _ m
  have hpolling : ∀ m : Service, (m.closePolling t now).closed = m.closed := by
    intro m
    unfold closePolling
    dsimp only
    split
    · exact (hremaining _).trans (hall _ _)
    · exact hall _ _
  have hrecoveries : ∀ m : Service, (m.closeRecoveries t now).closed = m.closed := by
    intro m
    unfold closeRecoveries
    dsimp only
    split
    · exact (hpolling _).trans (hall _ _)
    · exact hall _ _
  unfold resumeClosing at h
  split at h
  case h_1 =>
    split at h <;> cases h
    refine .inl ?_
    unfold closeOperations
    dsimp only
    split
    · exact hrecoveries s
    · exact hall _ s
  case h_2 =>
    split at h <;> cases h
    exact .inl (hrecoveries s)
  case h_3 =>
    split at h <;> cases h
    exact .inl (hpolling s)
  case h_4 =>
    split at h <;> cases h
    exact .inl (hremaining s)
  case h_5 =>
    split at h <;> cases h
    exact .inl (hadapter s)
  case h_6 => exact .inr rfl
  case h_7 => cases h

theorem resumeClosing_of_resume {outcome : Outcome} {now clock : Time} (hk : s.tasks.get? t = some task)
    (hr : task.frame.role = .closing) (hs : s.resume t outcome now clock = some s') :
    ∃ point, task.frame = .closing point ∧ task.cancelled = false ∧ s.resumeClosing t point outcome now = some s' := by
  unfold Service.resume at hs
  rw [hk] at hs
  dsimp only at hs
  cases hf : task.frame with
  | closing point =>
    rw [hf] at hs
    split at hs
    · cases hs
    · rename_i hc
      refine ⟨point, rfl, by simpa using hc, ?_⟩
      cases outcome <;> exact hs
  | _ =>
    rw [hf] at hr
    cases hr

theorem lands_resume (hcs : s.Coherent) (h : s.Stages) {outcome : Outcome} {now clock : Time}
    (hk : s.tasks.get? t = some task) (hr : task.frame.role = .closing) (hs : s.resume t outcome now clock = some s') :
    Lands t s s' := by
  obtain ⟨point, hf, -, hs'⟩ := resumeClosing_of_resume hk hr hs
  have hself : ∀ k, s.tasks.get? t = some k → k.frame.role = .closing := by
    intro k hk'
    obtain rfl := Option.some.inj (hk.symm.trans hk')
    exact hr
  exact lands_resumeClosing hself ((hcs.tasks t task hk).closing hr) (h t task point hk hf) hs'

theorem Managed.resumeClosing (hcs : s.Coherent) {point : ClosePoint} {outcome : Outcome} {now clock : Time}
    (hk : s.tasks.get? t = some task) (hf : task.frame = .closing point) (h : s.Lifecycle none) (htab : s'.Tabled)
    (hr : s.resume t outcome now clock = some s')
    (hs : s.resumeClosing t point outcome now = some s') : s'.Managed := by
  have hM := h.managed (fun _ _ hx => by cases hx)
  have hlands : Lands t s s' := lands_resume hcs hM.stages hk (by rw [hf]; rfl) hr
  have hw := hlands.winds
  refine ⟨mirrored_of_memory (fun id row row' hrow hrow' hp => ?_), hlands.stages hM.stages, fun hc => ?_⟩
  · rw [hw.operations] at hrow'
    obtain ⟨r, hr, rfl | ⟨-, hi, hd⟩⟩ := hw.stored hrow
    · refine (hM.mirrored.memory id _ row' hr hrow' hp).imp_right (fun ha => ⟨ha.1, ?_⟩)
      refine ⟨ha.2.unrecovering.of_same hw.closing hw.recoveries, fun u k hu hop => ?_⟩
      by_cases hut : u = t
      · subst hut
        rw [hw.self k hu] at hop
        cases hop
      · obtain ⟨old, hold, hfr, hcan⟩ := hw.tasks u k hut hu
        exact hcan (ha.2.cancelled u old hold (by rw [← hfr]; exact hop))
    · exact .inr ⟨hi, hd.toUnrecovering, fun u k hu hop => hd.cancelled htab hu hop⟩
  · refine hw.settled ?_
    rcases closed_resumeClosing hs with he | rfl
    · exact hM.closed (he ▸ hc)
    · exact hM.stages t task _ hk hf

theorem lifecycle_startDiscovery {boot : Service} (ht : boot.tasks = Dict.empty) (ho : boot.operations = Dict.empty)
    (hc : boot.closed = false)
    (h : ∀ id row, boot.store.operations.get? id = some row → row.Proper) (now : Time) :
    (boot.startDiscovery now).Lifecycle none := by
  have hdisc : ∀ {u k}, (boot.startDiscovery now).tasks.get? u = some k → k = ⟨.discovery .starting, false⟩ :=
    get?_startDiscovery ht
  refine ⟨fun u k d hk hx => ?_, proper_interruptOperations h now, fun _ => ⟨?_, ?_, ?_⟩⟩
  · obtain rfl := hdisc hk
    cases hx
  · refine mirrored_of_memory (fun id row row' _ hrow' => ?_)
    have hrow'' : boot.operations.get? id = some row' := hrow'
    rw [ho] at hrow''
    cases hrow''
  · intro u k point hk hf
    obtain rfl := hdisc hk
    cases hf
  · intro hx
    cases hc.symm.trans hx

theorem not_closing_self (hk : s.tasks.get? t = some task) (hr : task.frame.role ≠ .closing) :
    ∀ u k, some t = some u → s.tasks.get? u = some k → k.frame.role ≠ .closing := by
  rintro u k hu hk'
  obtain rfl := Option.some.inj hu
  obtain rfl := Option.some.inj (hk.symm.trans hk')
  exact hr

theorem preserved_lifecycle : PreservedAt G Lifecycle where
  begin _ _ h _ _ := ⟨h.tabled, h.proper, fun _ => h.managed (fun _ _ hx => by cases hx)⟩
  move {t task n s s'} hc hk h hm := by
    refine ⟨h.tabled.move hm, proper_move h.proper hm, fun hx => ?_⟩
    have hr : task.frame.role ≠ .closing := hx t task rfl (coherent_move hc hk hm).2
    exact (h.managed (not_closing_self hk hr)).move hr hk h.tabled hm
  park {t task s m s' outcome now clock} hcs hk hj hs hG hc hk' _ h hp := by
    have htab := h.tabled.park hk' hp
    have hstore : s'.store = m.store := by cases hp <;> rfl
    refine ⟨htab, by rw [hstore]; exact h.proper, fun _ => ?_⟩
    by_cases hr : task.frame.role = .closing
    · obtain ⟨point, hf, hlive, hs'⟩ := resumeClosing_of_resume hk hr hs
      exact Managed.resumeClosing hcs hk hf hj htab hs hs'
    · exact (h.managed (not_closing_self hk' hr)).park hr hk' h.tabled hp
  request hc h hr :=
    ⟨h.tabled.request hr, proper_request h.proper hr,
      fun _ => (h.managed (fun _ _ hx => by cases hx)).request hc hr⟩
  restart {s} now _ h := @lifecycle_startDiscovery s.successor rfl rfl rfl h.proper now

end Lifecycle

end Service

end PitbluCore
