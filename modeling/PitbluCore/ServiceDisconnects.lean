import PitbluCore.ServiceProcedures

namespace PitbluCore

open Library

namespace Role

def reconnects (device : DeviceId) (r : Role) : Bool := r.executes device || r.recovers device

def disconnects (device : DeviceId) : Role → Bool
  | .procedure call => call.action = .disconnect && call.device = device
  | _ => false

variable {r r' : Role} {d : DeviceId} {n : OperationId}

theorem disconnects_iff :
    r.disconnects d = true ↔ ∃ call, r = .procedure call ∧ call.action = .disconnect ∧ call.device = d := by
  cases r <;> simp [disconnects]

theorem executes_iff :
    r.executes d = true ↔ ∃ call, r = .procedure call ∧ call.action ≠ .disconnect ∧ call.device = d := by
  cases r <;> simp [executes]

theorem Handover.reconnects (h : Handover n r r') : r'.reconnects d = r.reconnects d := by
  cases h with
  | attempt d' => simp [Role.reconnects, Role.executes, Role.recovers]
  | @retry call hr =>
    by_cases hd : call.device = d <;> simp [Role.reconnects, Role.executes, Role.recovers, hr, hd]
  | _ => rfl

theorem Handover.disconnects (h : Handover n r r') (hd : r'.disconnects d = true) : r.disconnects d = true := by
  cases h with
  | same => exact hd
  | _ => simp [Role.disconnects] at hd

theorem recovers_or_requests (h : r.reconnects d = true) : r.recovers d = true ∨
    ∃ call, r = .procedure call ∧ call.recovering = false ∧ call.action ≠ .disconnect ∧ call.device = d := by
  cases r with
  | procedure call =>
    cases hrec : call.recovering with
    | true =>
      refine .inl ?_
      simp only [reconnects, executes, recovers, hrec, Bool.or_eq_true, Bool.and_eq_true, decide_eq_true_eq,
        true_and] at h ⊢
      exact h.elim And.right id
    | false =>
      refine .inr ⟨call, rfl, hrec, ?_⟩
      simpa [reconnects, executes, recovers, hrec] using h
  | recovery => simpa [reconnects, executes, recovers] using h
  | _ => cases h

end Role

def Frame.disconnects (device : DeviceId) : Frame → Bool
  | .procedure call _ _ => call.action = .disconnect && call.device = device
  | _ => false

theorem Frame.disconnects_role {f : Frame} {d : DeviceId} (h : f.disconnects d = true) :
    f.role.disconnects d = true := by
  cases f with
  | procedure => exact h
  | _ => cases h

def Task.Ceased (f : Role → Bool) (task : Task) : Prop := f task.frame.role = true → task.cancelled = true

theorem Task.Ceased.cancel {f : Role → Bool} {task : Task} (h : task.Ceased f) : task.cancel.Ceased f := by
  intro hr
  rw [cancel_frame] at hr
  unfold Task.cancel
  split
  · exact h hr
  · rfl

namespace Service

variable {G : Guards} {s s' : Service} {t : TaskId} {task : Task} {n : OperationId} {d : DeviceId} {f : Role → Bool}

def Has (s : Service) (q : Frame → Bool) : Prop := ∃ u task, s.tasks.get? u = some task ∧ q task.frame = true

def finished (device : DeviceId) : List TraceItem → Bool
  | [] => false
  | .succeeded d action :: trace => d = device && action = .disconnect || finished device trace
  | .accepted d action :: trace => !(d = device && action ≠ .disconnect) && finished device trace
  | _ :: trace => finished device trace

def Heeded (trace : List TraceItem) : Prop :=
  ∀ d c current identity rest, .connectCalled d c current identity :: rest <:+ trace → finished d rest = false

theorem Heeded.cons {trace : List TraceItem} (h : Heeded trace) {item : TraceItem}
    (hi : ∀ d c current identity, item = .connectCalled d c current identity → finished d trace = false) :
    Heeded (item :: trace) := by
  intro d c current identity rest hs
  rcases List.suffix_cons_iff.mp hs with he | hs
  · obtain ⟨rfl, rfl⟩ := List.cons.inj he
    exact hi d c current identity rfl
  · exact h d c current identity rest hs

/-- Once a disconnect of a device has begun its recovery has been stopped, and once it has succeeded the
device is unwanted and nothing connects it any more. -/
structure Final (s : Service) : Prop where
  procedures : s.Procedures
  stopped : ∀ d, s.Has (Frame.disconnects d) → s.Each (Task.Ceased (Role.recovers d))
  settled : ∀ d, finished d s.trace = true → s.Unwanted d ∧ s.Each (Task.Ceased (Role.reconnects d))
  heeded : Heeded s.trace

def disconnectGuards : Guards where
  rearm d tasks := ∀ u k, tasks.get? u = some k → k.frame.disconnects d = false

section Ceased

theorem ceased_move (h : s.Each (Task.Ceased f)) (hm : Move G t task n s s') (he : f .event = false)
    (hp : ∀ d, f (.polling d) = false)
    (hr : ∀ d immediate, Spawns G s task (.recovery d (.starting immediate)) → f (.recovery d) = false) :
    s'.Each (Task.Ceased f) := by
  refine h.move hm (fun _ hc => hc.cancel) (fun g hg hf => absurd hf ?_)
  have hspawn := hg
  cases hg with
  | event row => simp [Frame.role, he]
  | recovery immediate hx hc hw => simp [Frame.role, hr _ immediate hspawn]
  | polling hx hd => simp [Frame.role, hp]

theorem ceased_park (hk : s.tasks.get? t = some task) (h : s.Each (Task.Ceased f)) (hp : Park G t task n s s')
    (hf : ∀ r, Role.Handover n task.frame.role r → f r = f task.frame.role) : s'.Each (Task.Ceased f) := by
  refine h.park hk hp (fun g hs _ hr => h t task hk ?_)
  rw [← hf _ hs.role]
  exact hr

end Ceased

section Moves

theorem Has.of_move {q : Frame → Bool} (hm : Move G t task n s s') (hq : ∀ f, Spawns G s task f → q f = false)
    (h : s'.Has q) : s.Has q := by
  obtain ⟨u, k, hk, hx⟩ := h
  have hall : s'.Each (fun k => q k.frame = true → s.Has q) := by
    refine Each.move (s := s) (fun v k' hk' hx' => ⟨v, k', hk', hx'⟩) hm (fun k' hk' => ?_) (fun f hf hx' => ?_)
    · rw [Task.cancel_frame]
      exact hk'
    · cases (hq f hf).symm.trans hx'
  exact hall u k hk hx

theorem unwanted_setDesired (h : s.Unwanted d) {d' : DeviceId} {desired : DesiredState} {observed : ConnectionState}
    (hd : d = d' → desired = .disconnected) : (s.setDesired d' desired observed).Unwanted d := by
  intro auto hx
  rw [desire_setDesired] at hx
  split at hx
  · rename_i he
    obtain ⟨p, -, hp⟩ := Option.map_eq_some_iff.mp hx
    rw [hd he] at hp
    cases hp
  · exact h auto hx

theorem unwanted_removeDevice (h : s.Unwanted d) (d' : DeviceId) (now : Time) : (s.removeDevice d' now).Unwanted d := by
  intro auto hx
  rw [desire_removeDevice] at hx
  exact h auto (Option.ite_none_left_eq_some.mp hx).2

theorem Final.keep (h : s.Final) (hp : s'.Procedures)
    (hu : ∀ d, finished d s.trace = true → s.Unwanted d → s'.Unwanted d)
    (hd : ∀ d, s'.Has (Frame.disconnects d) → s.Has (Frame.disconnects d))
    (hc : ∀ d, s.Has (Frame.disconnects d) ∨ s.Unwanted d → ∀ f, (∀ d', f (.recovery d') = true → d' = d) →
      f .event = false → (∀ d', f (.polling d') = false) → s.Each (Task.Ceased f) → s'.Each (Task.Ceased f))
    (hf : ∀ d, finished d s'.trace = true → finished d s.trace = true)
    (ht : Heeded s'.trace) : s'.Final := by
  have hrec : ∀ d d', Role.recovers d (.recovery d') = true → d' = d := by
    intro d d' hx
    simpa [Role.recovers] using hx
  refine ⟨hp, fun d hx => ?_, fun d hx => ?_, ht⟩
  · exact hc d (.inl (hd d hx)) _ (hrec d) rfl (fun _ => rfl) (h.stopped d (hd d hx))
  · obtain ⟨hun, hall⟩ := h.settled d (hf d hx)
    refine ⟨hu d (hf d hx) hun, hc d (.inr hun) _ (fun d' hx' => hrec d d' ?_) rfl (fun _ => rfl) hall⟩
    simpa [Role.reconnects, Role.executes] using hx'

theorem not_disconnects_of_request {x : Option TaskId} (hc : s.control.Coherent x n) (hk : s.tasks.get? t = some task)
    (h : s.Each (Task.Enlisted s.active)) {call : Call} (hr : task.frame.role = .procedure call)
    (hrec : call.recovering = false) (ha : call.action ≠ .disconnect) :
    ¬ s.Has (fun f => f.role.disconnects call.device) := by
  rintro ⟨u, k, hu, hx⟩
  obtain ⟨call', hr', ha', hd⟩ := Role.disconnects_iff.mp hx
  have hrec' := Frame.requested_of_disconnect (hc.tasks u k hu).valid hr' ha'
  obtain rfl : u = t := request_unique hc h hu hk (d := call.device) (by simp [hr', Role.requests, hrec', hd])
    (by simp [hr, Role.requests, hrec])
  obtain rfl : k = task := Option.some.inj (hu.symm.trans hk)
  cases hr.symm.trans hr'
  exact ha ha'

theorem Final.succeeded (hc : s.control.Coherent (some t) n) (hk : s.tasks.get? t = some task) (h : s.Final)
    {call : Call}
    (hp : (s.log (.succeeded call.device call.action)).Procedures) (hr : task.frame.role = .procedure call)
    (hb : Halted s task.frame call) (hun : call.action = .disconnect → s.Unwanted call.device) :
    (s.log (.succeeded call.device call.action)).Final := by
  refine ⟨hp, h.stopped, fun d hfin => ?_, h.heeded.cons (fun _ _ _ _ he => by cases he)⟩
  have hfin' : (call.device = d ∧ call.action = .disconnect) ∨ finished d s.trace = true := by
    simpa [log, finished] using hfin
  rcases hfin' with ⟨rfl, ha⟩ | hfin'
  · have hdis : task.frame.role.disconnects call.device = true := by simp [hr, Role.disconnects, ha]
    refine ⟨hun ha, fun v k hv hx => ?_⟩
    rcases Role.recovers_or_requests hx with hrec | ⟨call', hr', hrec', ha', hd⟩
    · rcases hb with ⟨row, point, hf⟩ | hnone
      · refine h.stopped call.device ⟨t, task, hk, ?_⟩ v k hv hrec
        simp [hf, Frame.disconnects, ha]
      · by_contra hc'
        cases hnone.symm.trans (h.procedures.tabled v k _ hv hrec (by simpa using hc'))
    · refine absurd ⟨t, task, hk, ?_⟩ (not_disconnects_of_request hc hv h.procedures.enlisted hr' hrec' ha')
      rw [hd]
      exact hdis
  · exact h.settled d hfin'

theorem trace_move (hm : Move G t task n s s') : s'.trace = s.trace ∨ ∃ item, s'.trace = item :: s.trace ∧
    ∀ d c current identity, item = .connectCalled d c current identity →
      task.frame.role.executes d = true ∧ task.cancelled = false := by
  cases hm with
  | quiet hq => exact .inl (congrArg Control.trace hq.control)
  | mark _ status error now => exact .inl (steady_markOperation _ status error now).trace
  | event id => exact .inl (steady_scheduleEvent id).trace
  | scheduleRecovery d immediate => exact .inl (steady_scheduleRecovery d immediate).trace
  | startPolling => exact .inl (steady_startPolling _).trace
  | connectCalled hs hlive =>
    refine .inr ⟨_, rfl, fun d c current identity he => ⟨?_, hlive⟩⟩
    cases he
    generalize task.frame = f at hs
    cases hs <;> simp_all [Frame.role, Role.executes]
  | discover | succeeded | attempt | record | remove | removeConnected =>
    exact .inr ⟨_, rfl, fun _ _ _ _ he => by cases he⟩
  | _ => exact .inl rfl

theorem Final.not_spawns (hc : s.control.Coherent (some t) n) (hk : s.tasks.get? t = some task) (h : s.Final)
    {immediate : Bool} (hs : Spawns disconnectGuards s task (.recovery d (.starting immediate))) :
    ¬ (s.Has (Frame.disconnects d) ∨ s.Unwanted d) := by
  rintro (hx | hun)
  · cases hs with
    | recovery _ hr hlive hw hd hg =>
      cases hexec : task.frame.role.executes d with
      | false =>
        obtain ⟨u, k, hu, hdis⟩ := hx
        cases (hg hexec u k hu).symm.trans hdis
      | true =>
        obtain ⟨call, hrole, ha, rfl⟩ := Role.executes_iff.mp hexec
        refine not_disconnects_of_request hc hk h.procedures.enlisted hrole (hd call hrole).2.1 ha ?_
        obtain ⟨u, k, hu, hdis⟩ := hx
        exact ⟨u, k, hu, Frame.disconnects_role hdis⟩
  · cases hs with
    | recovery _ hr hlive hw => exact hun.not_wanted hw

theorem Final.move (hc : s.control.Coherent (some t) n) (hk : s.tasks.get? t = some task) (h : s.Final)
    (hm : Move disconnectGuards t task n s s') : s'.Final := by
  have hp := h.procedures.move hm
  have hd : ∀ d, s'.Has (Frame.disconnects d) → s.Has (Frame.disconnects d) :=
    fun d => Has.of_move hm (fun f hf => by cases hf <;> rfl)
  have hcease : ∀ d, s.Has (Frame.disconnects d) ∨ s.Unwanted d → ∀ f, (∀ d', f (.recovery d') = true → d' = d) →
      f .event = false → (∀ d', f (.polling d') = false) → s.Each (Task.Ceased f) → s'.Each (Task.Ceased f) := by
    intro d hx f hf he hpoll hall
    refine ceased_move hall hm he hpoll (fun d' immediate hs => Bool.eq_false_iff.mpr (fun hrec => ?_))
    obtain rfl := hf d' hrec
    exact h.not_spawns hc hk hs hx
  have ht : Heeded s'.trace := by
    rcases trace_move hm with he | ⟨item, he, hi⟩
    · rw [he]
      exact h.heeded
    · rw [he]
      refine h.heeded.cons (fun d c current identity heq => Bool.eq_false_iff.mpr (fun hfin => ?_))
      obtain ⟨hx, hlive⟩ := hi d c current identity heq
      cases hlive.symm.trans ((h.settled d hfin).2 t task hk (by simp [Role.reconnects, hx]))
  have hsame : s'.control.desire = s.control.desire → (∀ d, finished d s'.trace = true → finished d s.trace = true) →
      s'.Final := by
    refine fun he hf => h.keep hp (fun d _ hun auto hx => hun auto ?_) hd hcease hf ht
    rw [← he]
    exact hx
  have hsteady : Steady s s' → s'.Final := fun hs => hsame hs.desire (fun d hf => by rw [← hs.trace]; exact hf)
  cases hm with
  | @commit call observed hrole ha hlive hg =>
    refine h.keep hp (fun d hfin hun => unwanted_setDesired hun (fun he => ?_)) hd hcease (fun _ hf => hf) ht
    -- who connects a device is not stopped, so no disconnect of it was the last word
    subst he
    cases hlive.symm.trans ((h.settled _ hfin).2 t task hk (by simp [hrole, Role.reconnects, Role.executes, ha]))
  | @succeeded call hrole hlive hb hun => exact h.succeeded hc hk hp hrole hb hun
  | @disconnected call hrole ha hb =>
    exact h.keep hp (fun d _ hun => unwanted_setDesired hun (fun _ => rfl)) hd hcease (fun _ hf => hf) ht
  | @releaseAdapter call id hrole ha hcut hl hg hb =>
    exact h.keep hp (fun d _ hun => unwanted_setDesired (s := s.releaseAdapter id) hun (fun _ => rfl)) hd hcease
      (fun _ hf => hf) ht
  | @remove d now hrole hd' hg =>
    exact h.keep hp (fun d' _ hun => unwanted_removeDevice hun d now) hd hcease (fun _ hf => hf) ht
  | @removeConnected d now hrole hcut hl hg hg' =>
    exact h.keep hp (fun d' _ hun => unwanted_removeDevice (s := s.release.setConnected none) hun d now) hd hcease
      (fun _ hf => hf) ht
  | quiet hq => exact hsteady (steady_of_control hq.control)
  | select => exact hsteady (steady_of_control (control_select _ _))
  | mark _ status error now => exact hsteady (steady_markOperation _ status error now)
  | event id => exact hsteady (steady_scheduleEvent id)
  | scheduleRecovery d immediate => exact hsteady (steady_scheduleRecovery d immediate)
  | startPolling => exact hsteady (steady_startPolling _)
  | _ => exact hsame rfl (fun _ hf => hf)

theorem Has.of_endTask {q : Frame → Bool} (h : (s.endTask t).Has q) : s.Has q := by
  obtain ⟨u, k, hk, hx⟩ := h
  exact ⟨u, k, (get?_endTask hk).2, hx⟩

theorem Has.of_park {q : Frame → Bool} (hk : s.tasks.get? t = some task) (hp : Park G t task n s s') (h : s'.Has q) :
    s.Has q ∨ ∃ f, Suspends t task n s f ∧ task.cancelled = false ∧ q f = true := by
  cases hp with
  | suspend f hs hc =>
    obtain ⟨u, k, hk', hx⟩ := h
    rcases get?_suspend hk' with ⟨rfl, old, hold, rfl⟩ | ⟨-, hold⟩
    · exact .inr ⟨f, hs, hc, hx⟩
    · exact .inl ⟨u, k, hold, hx⟩
  | done | recovery | polling => exact .inl (Has.of_endTask h)

theorem Final.park (hk : s.tasks.get? t = some task) (h : s.Final) (hp : Park G t task n s s') : s'.Final := by
  have hs := steady_park hp
  have hun : ∀ d, s.Unwanted d → s'.Unwanted d := fun d hun auto hx => hun auto (by rw [← hs.desire]; exact hx)
  have hcease : ∀ d, s.Each (Task.Ceased (Role.recovers d)) → s'.Each (Task.Ceased (Role.recovers d)) :=
    fun d hc => ceased_park hk hc hp (fun r hr => hr.recovers)
  refine ⟨h.procedures.park hk hp, fun d hx => ?_, fun d hf => ?_, by rw [hs.trace]; exact h.heeded⟩
  · rcases Has.of_park hk hp hx with hx | ⟨f, hf, hc, hd⟩
    · exact hcease d (h.stopped d hx)
    · cases f with
      | procedure call row point =>
        have hd' : call.action = .disconnect ∧ call.device = d := by simpa [Frame.disconnects] using hd
        obtain ⟨ha, rfl⟩ := hd'
        rcases hf.row call row point rfl with ⟨point', hf'⟩ | ⟨-, hnone⟩
        · exact hcease _ (h.stopped _ ⟨t, task, hk, by simp [hf', Frame.disconnects, ha]⟩)
        · -- a disconnect that begins finds no recovery in the table
          refine hcease _ (fun u k hu hrec => ?_)
          by_contra hlive
          have hrow := h.procedures.tabled u k _ hu hrec (by simpa using hlive)
          cases (hnone (Frame.requested_of_disconnect hf.valid rfl ha)).symm.trans hrow
      | _ => cases hd
  · rw [hs.trace] at hf
    obtain ⟨hu, hall⟩ := h.settled d hf
    exact ⟨hun d hu, ceased_park hk hall hp (fun r hr => hr.reconnects)⟩

end Moves

section Requests

def Starting (s s' : Service) (f : Frame) : Prop :=
  ∀ P : Task → Prop, (∀ k, P k → P k.cancel) → P ⟨f, false⟩ → s.Each P → s'.Each P

theorem Starting.has {f : Frame} (h : Starting s s' f) {q : Frame → Bool} (hq : s'.Has q) : s.Has q ∨ q f = true := by
  obtain ⟨u, k, hk, hx⟩ := hq
  have hall : s'.Each (fun k => q k.frame = true → s.Has q ∨ q f = true) :=
    h _ (fun k hk hx => hk (by rwa [Task.cancel_frame] at hx)) .inr (fun v k hk hx => .inl ⟨v, k, hk, hx⟩)
  exact hall u k hk hx

theorem starting_of_set {f : Frame} (ht : s'.tasks = s.tasks.set s.nextTask ⟨f, false⟩) : Starting s s' f :=
  fun _ _ hf h => h.of_set ht hf

theorem Final.start (h : s.Final) {f : Frame} (hs : Starting s s' f) (hp : s'.Procedures)
    (hu : ∀ d, finished d s'.trace = true → s.Unwanted d → s'.Unwanted d)
    (hf : ∀ d, finished d s'.trace = true → finished d s.trace = true) (ht : Heeded s'.trace)
    (hq : ∀ d, f.disconnects d = false) (hrec : ∀ d, f.role.recovers d = false)
    (hr : ∀ d, f.role.reconnects d = true → finished d s'.trace = false) : s'.Final := by
  refine ⟨hp, fun d hx => ?_, fun d hx => ?_, ht⟩
  · have hx' := (hs.has hx).resolve_right (by simp [hq d])
    exact hs _ (fun _ hc => hc.cancel) (fun hx => by cases (hrec d).symm.trans hx) (h.stopped d hx')
  · obtain ⟨hun, hall⟩ := h.settled d (hf d hx)
    refine ⟨hu d hx hun, hs _ (fun _ hc => hc.cancel) (fun hx' => ?_) hall⟩
    cases (hr d hx').symm.trans hx

theorem Final.bystander (h : s.Final) {f : Frame} (hs : Starting s s' f) (hp : s'.Procedures)
    (hu : ∀ d, s.Unwanted d → s'.Unwanted d) (hf : ∀ d, finished d s'.trace = true → finished d s.trace = true)
    (ht : Heeded s'.trace) (hd : ∀ d, f.role.disconnects d = false) (hr : ∀ d, f.role.reconnects d = false) :
    s'.Final := by
  refine h.start hs hp (fun d _ => hu d) hf ht (fun d => ?_) (fun d => ((Bool.or_eq_false_iff).mp (hr d)).2)
    (fun d hx => ?_)
  · exact Bool.eq_false_iff.mpr (fun hx => by cases (hd d).symm.trans (Frame.disconnects_role hx))
  · cases (hr d).symm.trans hx

theorem unwanted_accept (h : s.Unwanted d) {d' : DeviceId} {action : ConnectionAction} {now : Time}
    (ha : d = d' → action = .disconnect) : (s.accept d' action now).Unwanted d := by
  intro auto hx
  rw [desire_accept] at hx
  split at hx
  · rename_i he
    obtain ⟨p, -, hp⟩ := Option.map_eq_some_iff.mp hx
    rw [ha he] at hp
    cases hp
  · exact h auto hx

theorem Final.accept (h : s.Final) {action : ConnectionAction} {now : Time}
    (hproc : (s.accept d action now).Procedures) : (s.accept d action now).Final := by
  have hfin : ∀ d', finished d' (s.accept d action now).trace =
      (!(d = d' && action ≠ .disconnect) && finished d' s.trace) := fun _ => rfl
  have hs : Starting s (s.accept d action now) (.queued ⟨s.nextOperation, d, action, false⟩) := starting_of_set rfl
  refine h.start hs hproc (fun d' hx hun => unwanted_accept hun ?_) (fun d' hx => ?_) ?_ (fun _ => rfl) (fun _ => rfl)
    (fun d' hx => ?_)
  · rintro rfl
    rw [hfin] at hx
    simpa using (Bool.and_eq_true _ _).mp hx |>.1
  · rw [hfin] at hx
    exact ((Bool.and_eq_true _ _).mp hx).2
  · exact h.heeded.cons (fun _ _ _ _ he => by cases he)
  · have hx' : action ≠ .disconnect ∧
        d = d' := by simpa [Frame.role, Role.reconnects, Role.executes, Role.recovers] using hx
    rw [hfin]
    simp [hx'.1, hx'.2]

theorem Final.request (hc : s.Coherent) (h : s.Final) (hr : Request G s s') : s'.Final := by
  have hp := h.procedures.request hc hr
  cases hr with
  | @accept d action now hd hpend ho hclosing => exact h.accept hp
  | startScan now =>
    exact h.bystander (starting_of_set (f := .scan (.starting s.nextOperation)) rfl) hp (fun _ hu => hu)
      (fun _ hf => hf)
      h.heeded (fun _ => rfl) (fun _ => rfl)
  | register row hn hd =>
    refine h.bystander (starting_of_set (f := .registerHeartbeat row.deviceId .disconnected) rfl) hp
      (fun d hu auto hx => ?_)
      (fun _ hf => hf) (h.heeded.cons (fun _ _ _ _ he => by cases he)) (fun _ => rfl) (fun _ => rfl)
    have hx' := (desire_register (s := s) d row (.registered row.deviceId :: s.trace)).symm.trans hx
    split at hx'
    · rw [hd] at hx'
      cases hx'
    · exact hu auto hx'
  | @deleteRecovering d u =>
    refine h.bystander (f := .deletion d (.stoppingRecovery u)) (fun P hcancel hf he => ?_) hp (fun _ hu => hu)
      (fun _ hf => hf) h.heeded (fun _ => rfl) (fun _ => rfl)
    exact (he.stopRecovery hcancel d u).spawn hf
  | @deletePolling d u =>
    refine h.bystander (f := .deletion d (.stoppingPolling [] u)) (fun P hcancel hf he => ?_) hp (fun _ hu => hu)
      (fun _ hf => hf) h.heeded (fun _ => rfl) (fun _ => rfl)
    exact (he.stopPolling hcancel d u).spawn hf
  | @deleteConnected d =>
    exact h.bystander (starting_of_set (f := .deletion d (.lock [])) rfl) hp (fun _ hu => hu) (fun _ hf => hf) h.heeded
      (fun _ => rfl) (fun _ => rfl)
  | close =>
    refine h.bystander (f := .closing (.stoppingDiscovery s.discoveryTask)) (fun P hcancel hf he => ?_) hp
      (fun _ hu => hu)
      (fun _ hf => hf) h.heeded (fun _ => rfl) (fun _ => rfl)
    exact (he.cancel hcancel _).of_set rfl hf
  | @adopt d ho hnone =>
    have hs : Steady { s with owner := some d } ({ s with owner := some d }.scheduleRecovery d true) :=
      steady_scheduleRecovery d true
    have hun : ∀ d', s.Unwanted d' → ({ s with owner := some d }.scheduleRecovery d true).Unwanted d' := by
      intro d' hu auto hx
      rw [hs.desire] at hx
      exact hu auto hx
    have hfin : ∀ d', finished d' ({ s with owner := some d }.scheduleRecovery d true).trace = true →
        finished d' s.trace = true := by
      intro d' hx
      rw [hs.trace] at hx
      exact hx
    have ht : Heeded ({ s with owner := some d }.scheduleRecovery d true).trace := by
      rw [hs.trace]
      exact h.heeded
    have hcease : ∀ f : Role → Bool, (f (.recovery d) = true → ¬ s.control.Wanted d) → s.Each (Task.Ceased f) →
        ({ s with owner := some d }.scheduleRecovery d true).Each (Task.Ceased f) := by
      intro f hf he
      have he' : ({ s with owner := some d } : Service).Each (Task.Ceased f) := he
      exact he'.scheduleRecovery (fun hw hx => absurd hw (hf hx))
    have hhas : ∀ q : Frame → Bool, q (.recovery d (.starting true)) = false →
        ({ s with owner := some d }.scheduleRecovery d true).Has q → s.Has q := by
      rintro q hq ⟨u, k, hk, hx⟩
      have he : ({ s with owner := some d } : Service).Each (fun k => q k.frame = true → s.Has q) :=
        fun v k' hk' hx' => ⟨v, k', hk', hx'⟩
      exact he.scheduleRecovery (fun _ hx' => by cases hq.symm.trans hx') u k hk hx
    have hno : ∀ d', ¬ s.Has (Frame.disconnects d') := by
      rintro d' ⟨u, k, hk, hx⟩
      obtain ⟨call, hrole, -, -⟩ := Role.disconnects_iff.mp (Frame.disconnects_role hx)
      exact hnone u k call hk hrole
    refine h.keep hp (fun d' _ => hun d') (fun d' => hhas _ rfl)
      (fun d' hu f hf he _ => hcease f (fun hx => ?_)) hfin ht
    rw [hf d hx]
    exact (hu.resolve_left (hno d')).not_wanted
  | quiet hq =>
    have ht : s'.trace = s.trace := congrArg Control.trace hq.control
    have htasks : s'.tasks = s.tasks := congrArg Control.tasks hq.control
    refine h.keep hp (fun d _ hu auto hx => hu auto ?_) (fun d => ?_) (fun _ _ _ _ _ _ he => he.of_tasks htasks)
      (fun d => by rw [ht]; exact id) (by rw [ht]; exact h.heeded)
    · rw [← hq.control]
      exact hx
    · unfold Has
      rw [htasks]
      exact id
  | patch d patch candidate =>
    refine h.keep hp (fun d' _ hu auto hx => ?_) (fun _ hx => hx) (fun _ _ _ _ _ _ he => he) (fun _ hx => hx) h.heeded
    rw [desire_patch] at hx
    split at hx
    · rename_i he
      subst he
      obtain ⟨⟨desired, auto'⟩, hx', heq⟩ := Option.map_eq_some_iff.mp hx
      cases (Prod.mk.inj heq).1
      exact hu auto' hx'
    · exact hu auto hx
  | @delete d now =>
    exact h.keep hp (fun d' _ hu => unwanted_removeDevice hu d now) (fun _ hx => hx) (fun _ _ _ _ _ _ he => he)
      (fun _ hx => hx) (h.heeded.cons (fun _ _ _ _ he => by cases he))
  | @join d action row =>
    exact h.keep hp (fun _ _ hu => hu) (fun _ hx => hx) (fun _ _ _ _ _ _ he => he)
      (fun _ hx => ((Bool.and_eq_true _ _).mp hx).2) (h.heeded.cons (fun _ _ _ _ he => by cases he))
  | unlink =>
    exact h.keep hp (fun _ _ hu => hu) (fun _ hx => hx) (fun _ _ _ _ _ _ he => he) (fun _ hx => hx) h.heeded

theorem final_startDiscovery {boot : Service} (ht : boot.tasks = Dict.empty) (now : Time)
    (hf : ∀ d, finished d boot.trace = true → boot.Unwanted d) (hh : Heeded boot.trace) :
    (boot.startDiscovery now).Final := by
  refine ⟨procedures_startDiscovery ht now, fun d hx => ?_, fun d hx => ⟨hf d hx, fun u k hk hr => ?_⟩, hh⟩
  · obtain ⟨u, k, hk, hx⟩ := hx
    obtain rfl := get?_startDiscovery ht hk
    cases hx
  · obtain rfl := get?_startDiscovery ht hk
    cases hr

theorem preserved_final : Preserved disconnectGuards Final where
  move hc hk h hm := h.move hc hk hm
  park _ hk h hp := h.park hk hp
  request hc h hr := h.request hc hr
  restart {s} now _ h := @final_startDiscovery s.successor rfl now (fun d hx => (h.settled d hx).1) h.heeded

end Requests

section Results

/-- Where a poll schedules a recovery of its device in this step, no disconnect of the device is under way. -/
def Forbears (s : Service) (a : Action) : Prop :=
  ∀ d ∈ s.rearms a, ∀ k ∈ s.tasks.values, k.frame.disconnects d = false

instance (s : Service) (a : Action) : Decidable (s.Forbears a) := by
  unfold Forbears
  infer_instance

theorem Forbears.promised {a : Action} (h : s.Forbears a) : disconnectGuards.Promised s a where
  rearm d hd u k hk := h d hd k (Dict.mem_values_iff.mpr ⟨u, hk⟩)

theorem disconnect_final (h : Reaches Started step Forbears s) :
    ∀ d c current identity rest, .connectCalled d c current identity :: rest <:+ s.trace → finished d rest = false := by
  refine (preserved_final.reaches (fun _ hs => hs) ?_ (fun _ _ ha => ha.promised) h).2.heeded
  rintro boot now ⟨settings, store, T, id, nextOperation, -, -, rfl⟩ -
  refine final_startDiscovery rfl now (fun d hx => by cases hx) (fun d c current identity rest hx => ?_)
  cases List.suffix_nil.mp hx

def disconnectRecovering : List Action :=
  connectFirst ++
  [go 4, go 4, go 4, .resume 4 (.raised ⟨"AdapterError", "read failed"⟩) 0 30000000, go 6,
   .startConnectionOperation "igrill-v202-a" .disconnect 0, go 7, go 6, go 7, go 7, go 7]

theorem disconnect_final_recovering :
    ∃ s, replay step firstSession disconnectRecovering = some s ∧ finished "igrill-v202-a" s.trace = true ∧
      ∀ d c current identity rest, .connectCalled d c current identity :: rest <:+ s.trace →
      finished d rest = false := by
  have hrun : (replayIf (fun s a => decide (s.Forbears a)) step firstSession disconnectRecovering).map
      (fun s => finished "igrill-v202-a" s.trace) = some true := by decide +kernel
  obtain ⟨s, hs, hf⟩ := Option.map_eq_some_iff.mp hrun
  have hr : Reaches Started step Forbears s :=
    .of_replayIf (fun _ _ => of_decide_eq_true) (.init firstSession_started) hs
  exact ⟨s, replay_of_replayIf hs, hf, disconnect_final hr⟩

/-- A poll raises, and an accepted reconnect succeeds before the callback of the poll schedules a
recovery. The new poll raises as well, the recovery attempt succeeds after a disconnect was accepted,
and when the disconnect has begun the callback of that poll schedules another recovery, which the
disconnect does not stop. -/
def reconnectFinished : List Action :=
  connectFirst ++
  [go 4, go 5, .startConnectionOperation "igrill-v202-a" .reconnect 0, go 4, go 4, .resume 4 .crashed 0 0,
   -- the poll is done, so nobody waits for it
   go 6, go 6, go 6, go 6, .resume 6 (.released true) 0 0, go 6, .resume 6 bothFound 0 0, .resume 6 .linked 0 0,
   .resume 6 (.read (TelemetryState.sampleSnapshot 0 1 Nat.one_pos)) 0 0, go 4, go 7, go 8, go 9,
   .startConnectionOperation "igrill-v202-a" .disconnect 0, go 7, go 7, .resume 7 .crashed 0 0,
   go 9, go 9, go 9, go 9, .resume 9 (.released true) 0 0, go 9, .resume 9 bothFound 0 0, .resume 9 .linked 0 0,
   .resume 9 (.read (TelemetryState.sampleSnapshot 0 1 Nat.one_pos)) 0 0, go 10, go 7, go 11, go 12, go 13, go 10,
   go 10, go 10, go 14,
   -- the disconnect has succeeded
   go 13, go 13, go 13, .resume 13 (.released true) 0 0, go 13, .resume 13 bothFound 0 0]

def calledFinished : List TraceItem → Bool
  | .connectCalled d _ _ _ :: rest => finished d rest
  | _ => false

theorem not_disconnect_final :
    ¬ ∀ s, Reachable Started step s →
      ∀ d c current identity rest, .connectCalled d c current identity :: rest <:+ s.trace →
      finished d rest = false := by
  intro hall
  have hrun : (replay step firstSession reconnectFinished).map (fun s => calledFinished s.trace) = some true := by
    decide +kernel
  obtain ⟨s, hs, hf⟩ := Option.map_eq_some_iff.mp hrun
  have hr : Reachable Started step s := .of_replay (.init firstSession_started) hs
  unfold calledFinished at hf
  split at hf
  · rename_i d c current identity rest heq
    cases (hall s hr d c current identity rest (heq ▸ List.suffix_refl _)).symm.trans hf
  · cases hf

end Results

end Service

end PitbluCore
