import PitbluCore.ServiceProcedures

namespace PitbluCore

open Library

def Frame.executing : Frame → Option Call
  | .procedure call _ _ => some call
  | _ => none

theorem Frame.executing_iff {f : Frame} {call : Call} :
    f.executing = some call ↔ ∃ row point, f = .procedure call row point := by
  cases f <;> simp [executing]

theorem Frame.role_of_executing {f : Frame} {call : Call} (h : f.executing = some call) : f.role = .procedure call := by
  obtain ⟨row, point, rfl⟩ := executing_iff.mp h
  rfl

namespace Service

variable {G : Guards} {s s' : Service} {t : TaskId} {task : Task} {n : OperationId} {d : DeviceId} {x : Option TaskId}
  {q : Call → Prop}

section Recoveries

def Undisturbed (q : Call → Prop) (x : Option TaskId) (s : Service) : Prop :=
  ∀ v w k k' call, s.tasks.get? v = some k → k.frame.executing = some call → q call →
    s.tasks.get? w = some k' → k'.frame.role.recovers call.device = true → k'.cancelled = false →
    v = w ∨ x = some v ∧ call.action ≠ .disconnect ∧ ¬ s.control.Live call.operation

theorem Undisturbed.begin (h : s.Undisturbed q none) (t : TaskId) : s.Undisturbed q (some t) := by
  intro v w k k' call hv hx hq hw hrec hlive
  refine (h v w k k' call hv hx hq hw hrec hlive).imp_right ?_
  rintro ⟨hx, -⟩
  cases hx

theorem Undisturbed.arises {new : Frame → Prop} (h : s.Undisturbed q x) (ha : Arises s new s')
    (hf : ∀ f, new f → f.executing = none)
    (hr : ∀ f d, new f → f.role.recovers d = true → ∀ v k call, s.tasks.get? v = some k →
    k.frame.executing = some call →
      q call → call.device = d → x = some v ∧ call.action ≠ .disconnect ∧ ¬ s.control.Live call.operation)
    (hl : ∀ v k call, x = some v → s.tasks.get? v = some k → k.frame.executing = some call →
      ¬ s.control.Live call.operation → ¬ s'.control.Live call.operation) : s'.Undisturbed q x := by
  intro v w k k' call hv hx hq hw hrec hlive
  cases ha v k hv with
  | spawned hnew hk =>
    rw [hk, hf _ hnew] at hx
    cases hx
  | @kept old hold hk =>
    have hx' : old.frame.executing = some call := by
      rcases hk with rfl | rfl
      · exact hx
      · rwa [Task.cancel_frame] at hx
    have hlast : x = some v ∧ call.action ≠ .disconnect ∧ ¬ s.control.Live call.operation →
        x = some v ∧ call.action ≠ .disconnect ∧ ¬ s'.control.Live call.operation :=
      fun he => ⟨he.1, he.2.1, hl v old call he.1 hold hx' he.2.2⟩
    cases ha w k' hw with
    | spawned hnew hk' =>
      subst hk'
      exact .inr (hlast (hr _ _ hnew hrec v old call hold hx' hq rfl))
    | @kept old' hold' hk' =>
      rcases hk' with rfl | rfl
      · exact (h v w old _ call hold hx' hq hold' hrec hlive).imp_right hlast
      · cases hlive.symm.trans (old'.stopped_cancel.cancelled (f := Role.recovers call.device) (fun _ => rfl) hrec)

theorem Undisturbed.move (hc : s.control.Coherent (some t) n) (hk : s.tasks.get? t = some task) (hp : s.Procedures)
    (h : s.Undisturbed q (some t)) (hm : Move G t task n s s')
    (hG : ∀ d tasks, G.rearm d tasks → ∀ v k call, tasks.get? v = some k → k.frame.executing = some call → q call →
      call.device ≠ d)
    (hz : ∀ v k call call₀, s.tasks.get? v = some k → k.frame.executing = some call → q call → call.recovering = true →
      task.frame.executing = some call₀ → call₀.recovering = false → call.device ≠ call₀.device) :
    s'.Undisturbed q (some t) := by
  refine h.arises (arises_move hm) (fun f hf => by cases hf <;> rfl) ?_ ?_
  · intro f d hf hrec v k call hv hx hq hd
    cases hf with
    | @recovery d' immediate hr hlive hw hfail hg =>
      obtain rfl : d' = d := by simpa [Frame.role, Role.recovers] using hrec
      cases hexe : task.frame.role.executes d' with
      | false => exact absurd hd (hG _ _ (hg hexe) v k call hv hx hq)
      | true =>
        obtain ⟨call₀, hrole, ha, hd₀⟩ : ∃ call₀, task.frame.role = .procedure call₀ ∧ call₀.action ≠ .disconnect ∧
            call₀.device = d' := by
          generalize task.frame.role = r at hexe
          cases r <;> simp_all [Role.executes]
        obtain ⟨⟨row, point, hf₀⟩, hrec₀, hn⟩ := hfail call₀ hrole
        cases hrec' : call.recovering with
        | true => exact absurd (hd.trans hd₀.symm) (hz v k call call₀ hv hx hq hrec' (by rw [hf₀]; rfl) hrec₀)
        | false =>
          have hrole' := Frame.role_of_executing hx
          obtain rfl : v = t :=
            request_unique hc hp.enlisted hv hk (d := d') (by simp [hrole', Role.requests, hrec', hd])
            (by simp [hrole, Role.requests, hrec₀, hd₀])
          obtain rfl : k = task := Option.some.inj (hv.symm.trans hk)
          obtain rfl : call = call₀ := by
            rw [hrole] at hrole'
            cases hrole'
            rfl
          exact ⟨rfl, ha, hn⟩
    | event | polling => cases hrec
  · intro v k call hv hk' hx hn
    refine not_live_move hc hm ((hc.tasks v k hk').operation _ ?_) hn
    rw [Frame.role_of_executing hx]
    rfl

theorem Undisturbed.ended (h : s.Undisturbed q (some t)) (he : s'.tasks = (s.endTask t).tasks) :
    s'.Undisturbed q none := by
  intro v w k k' call hv hx hq hw hrec hlive
  rw [he] at hv hw
  obtain ⟨hvt, hv⟩ := get?_endTask hv
  obtain ⟨-, hw⟩ := get?_endTask hw
  refine (h v w k k' call hv hx hq hw hrec hlive).imp_right ?_
  rintro ⟨hvt', -⟩
  exact absurd (Option.some.inj hvt').symm hvt

theorem Undisturbed.park (hk : s.tasks.get? t = some task) (htab : s.Tabled) (h : s.Undisturbed q (some t))
    (hp : Park G t task n s s') : s'.Undisturbed q none := by
  cases hp with
  | suspend f hs hlive =>
    intro v w k k' call hv hx hq hw hrec hlive'
    refine .inl (by_contra fun hne => ?_)
    obtain ⟨old, hold, hrec', hlive'⟩ : ∃ old, s.tasks.get? w = some old ∧ old.frame.role.recovers call.device = true ∧
        old.cancelled = false := by
      rcases get?_suspend hw with ⟨rfl, old, hold, rfl⟩ | ⟨-, hold⟩
      · obtain rfl : task = old := Option.some.inj (hk.symm.trans hold)
        exact ⟨task, hk, hs.role.recovers.symm.trans hrec, hlive⟩
      · exact ⟨k', hold, hrec, hlive'⟩
    rcases get?_suspend hv with ⟨rfl, old', hold', rfl⟩ | ⟨hvt, hold'⟩
    · obtain rfl : task = old' := Option.some.inj (hk.symm.trans hold')
      obtain ⟨row, point, rfl⟩ := Frame.executing_iff.mp hx
      rcases hs.row call row point rfl with ⟨point', hf⟩ | ⟨-, hnone⟩
      · rcases h v w task old call hk (by rw [hf]; rfl) hq hold hrec' hlive' with he | ⟨-, -, hn⟩
        · exact hne he
        · exact hn (hs.pending.live rfl)
      · have htab' := htab w old _ hold hrec' hlive'
        cases hrec₀ : call.recovering with
        | false => cases (hnone hrec₀).symm.trans htab'
        | true =>
          have hself : task.frame.role.recovers call.device = true := by
            rw [← hs.role.recovers]
            simp [Frame.role, Role.recovers, hrec₀]
          exact hne (Option.some.inj ((htab v task _ hk hself hlive).symm.trans htab'))
    · rcases h v w k old call hold' hx hq hold hrec' hlive' with he | ⟨he, -⟩
      · exact hne he
      · exact hvt (Option.some.inj he).symm
  | done | recovery | polling => exact h.ended rfl

theorem Undisturbed.request (h : s.Undisturbed q none) (hr : Request G s s') : s'.Undisturbed q none := by
  refine h.arises (arises_request hr) (fun f hf => by cases hf <;> rfl) ?_ (fun _ _ _ hx => by cases hx)
  intro f d hf hrec v k call hv hx
  cases hf with
  | recovery ho hw ht => exact absurd (Frame.role_of_executing hx) (ht v k call hv)
  | _ => cases hrec

theorem undisturbed_startDiscovery {boot : Service} (ht : boot.tasks = Dict.empty) (now : Time) :
    (boot.startDiscovery now).Undisturbed q none := by
  intro v w k k' call hv hx
  obtain rfl := get?_startDiscovery ht hv
  cases hx

end Recoveries

section Exclusion

def Awaits (k : Task) (v : TaskId) (k' : Task) : Prop :=
  ∃ call row call', k.frame = .procedure call row (.stoppingRecovery v) ∧ call.recovering = false ∧
    k'.frame.executing = some call' ∧ call'.recovering = true ∧ k'.cancelled = true

/-- Two procedures of one device are a request and the attempt it waits for; task `x` waits no longer. -/
def Sole (x : Option TaskId) (s : Service) : Prop :=
  ∀ u v k k' call call', s.tasks.get? u = some k → k.frame.executing = some call → s.tasks.get? v = some k' →
    k'.frame.executing = some call' → call.device = call'.device →
    u = v ∨ (Awaits k v k' ∧ x ≠ some u) ∨ (Awaits k' u k ∧ x ≠ some v)

theorem Awaits.kept {k k' old old' : Task} {v : TaskId} (h : Awaits old v old') (hk : k = old ∨ k = old.cancel)
    (hk' : k' = old' ∨ k' = old'.cancel) : Awaits k v k' := by
  obtain ⟨call, row, call', hf, hrec, hx, hrec', hc⟩ := h
  refine ⟨call, row, call', ?_, hrec, ?_, hrec', ?_⟩
  · rcases hk with rfl | rfl
    · exact hf
    · rwa [Task.cancel_frame]
  · rcases hk' with rfl | rfl
    · exact hx
    · rwa [Task.cancel_frame]
  · rcases hk' with rfl | rfl
    · exact hc
    · refine old'.stopped_cancel.cancelled (f := Role.recovers call'.device) (fun _ => rfl) ?_
      rw [Task.cancel_frame, Frame.role_of_executing hx]
      simp [Role.recovers, hrec']

theorem Sole.arises {new : Frame → Prop} (h : s.Sole x) (ha : Arises s new s') (hf : ∀ f, new f → f.executing = none) :
    s'.Sole x := by
  intro u v k k' call call' hu hx hv hx' hd
  have hold : ∀ {u k call}, s'.tasks.get? u = some k → k.frame.executing = some call →
      ∃ old, s.tasks.get? u = some old ∧ (k = old ∨ k = old.cancel) ∧ old.frame.executing = some call := by
    intro u k call hu hx
    cases ha u k hu with
    | spawned hnew hk =>
      rw [hk, hf _ hnew] at hx
      cases hx
    | @kept old hold hk =>
      refine ⟨old, hold, hk, ?_⟩
      rcases hk with rfl | rfl
      · exact hx
      · rwa [Task.cancel_frame] at hx
  obtain ⟨old, hold₁, hk, hx⟩ := hold hu hx
  obtain ⟨old', hold₂, hk', hx'⟩ := hold hv hx'
  refine (h u v old old' call call' hold₁ hx hold₂ hx' hd).imp_right (Or.imp ?_ ?_)
  · exact fun ⟨hw, hne⟩ => ⟨hw.kept hk hk', hne⟩
  · exact fun ⟨hw, hne⟩ => ⟨hw.kept hk' hk, hne⟩

theorem not_awaits_of_resume {outcome : Outcome} {now clock : Time} (hk : s.tasks.get? t = some task)
    (hs : s.resume t outcome now clock = some s') {v : TaskId} {k : Task} (hv : s.tasks.get? v = some k) :
    ¬ Awaits task v k := by
  rintro ⟨call, row, call', hf, -, hx, -⟩
  have hdone : k.done = false := by
    unfold Task.done
    split
    · rename_i d hfailed
      rw [hfailed] at hx
      cases hx
    · rfl
  have hlive : s.ended [v] = false := by simp [ended, hv, hdone]
  unfold Service.resume at hs
  rw [hk] at hs
  dsimp only at hs
  split at hs
  · rw [hf] at hs
    simp [interrupted, interruptProcedure, Point.awaited, hlive] at hs
  · rw [hf] at hs
    cases outcome <;> simp [advance, resumeProcedure, hlive] at hs

theorem Sole.begin {outcome : Outcome} {now clock : Time} (h : s.Sole none) (hk : s.tasks.get? t = some task)
    (hs : s.resume t outcome now clock = some s') : s.Sole (some t) := by
  intro u v k k' call call' hu hx hv hx' hd
  refine (h u v k k' call call' hu hx hv hx' hd).imp_right (Or.imp ?_ ?_)
  · rintro ⟨hw, -⟩
    refine ⟨hw, fun he => ?_⟩
    obtain rfl := Option.some.inj he
    obtain rfl : task = k := Option.some.inj (hk.symm.trans hu)
    exact not_awaits_of_resume hk hs hv hw
  · rintro ⟨hw, -⟩
    refine ⟨hw, fun he => ?_⟩
    obtain rfl := Option.some.inj he
    obtain rfl : task = k' := Option.some.inj (hk.symm.trans hv)
    exact not_awaits_of_resume hk hs hu hw

theorem executing_moves {m : Service} (hm : Relation.ReflTransGen (Move G t task n) s m) {v : TaskId} {k : Task}
    {call : Call}
    (hv : m.tasks.get? v = some k) (hx : k.frame.executing = some call) :
    ∃ old, s.tasks.get? v = some old ∧ old.frame = k.frame := by
  induction hm generalizing k with
  | refl => exact ⟨k, hv, rfl⟩
  | tail _ hm ih =>
    cases arises_move hm v k hv with
    | spawned hnew hk =>
      rw [hk] at hx
      cases hnew <;> cases hx
    | @kept old hold hk =>
      have hf : k.frame = old.frame := by
        rcases hk with rfl | rfl
        · rfl
        · exact old.cancel_frame
      obtain ⟨old', hold', hf'⟩ := ih hold (by rw [← hf]; exact hx)
      exact ⟨old', hold', hf'.trans hf.symm⟩

theorem awaits_beginProcedure (hk : s.tasks.get? t = some task) {call call' : Call} (now : Time) {v : TaskId} {k : Task}
    (hrec : call.recovering = false) (hdev : (s.store.device call.device).isSome)
    (hrow : s.recoveries.get? call.device = some v)
    (hv : s.tasks.get? v = some k) (hvt : v ≠ t) (hx : k.frame.executing = some call')
    (hrec' : call'.recovering = true) :
    ∃ k₁ k₂, (s.beginProcedure t call now).tasks.get? t = some k₁ ∧
      (s.beginProcedure t call now).tasks.get? v = some k₂ ∧ Awaits k₁ v k₂ := by
  have hdev' : ∃ row, (s.markRunning call.operation now).store.device call.device = some row := by
    rw [show (s.markRunning call.operation now).store.device call.device = s.store.device call.device from ?_]
    · exact Option.isSome_iff_exists.mp hdev
    · unfold markRunning markOperation
      split <;> rfl
  have htasks : (s.markRunning call.operation now).tasks = s.tasks := markOperation_tasks _ _ _ _
  have hrecs : (s.markRunning call.operation now).recoveries.get? call.device = some v := by
    rw [← hrow]
    unfold markRunning markOperation
    split <;> rfl
  obtain ⟨row, hdev'⟩ := hdev'
  have he : s.beginProcedure t call now =
      ((s.markRunning call.operation now).stopRecovery call.device v).await t call row (.stoppingRecovery v) := by
    unfold beginProcedure
    simp [hdev', hrec, hrecs]
  have hcancel : (k.cancel).cancelled = true := by
    refine k.stopped_cancel.cancelled (f := Role.recovers call'.device) (fun _ => rfl) ?_
    rw [Task.cancel_frame, Frame.role_of_executing hx]
    simp [Role.recovers, hrec']
  refine ⟨{ task with frame := .procedure call row (.stoppingRecovery v) }, k.cancel, ?_, ?_, call, row, call', rfl,
    hrec, ?_,
    hrec', hcancel⟩
  · simp [he, Service.await, suspend, stopRecovery, cancel, htasks, hk, hvt.symm]
  · simp [he, Service.await, suspend, stopRecovery, cancel, htasks, hv, hvt]
  · rwa [Task.cancel_frame]

structure Exclusive (x : Option TaskId) (s : Service) : Prop where
  procedures : s.Procedures
  undisturbed : s.Undisturbed (fun _ => True) x
  sole : s.Sole x

def exclusionGuards : Guards where
  rearm d tasks := ∀ u k call, tasks.get? u = some k → k.frame.executing = some call → call.device ≠ d
  start d tasks := ∀ u k call, tasks.get? u = some k → k.frame.executing = some call → call.device = d →
    call.recovering = true → k.cancelled = false

theorem Exclusive.move (hc : s.control.Coherent (some t) n) (hk : s.tasks.get? t = some task) (h : s.Exclusive (some t))
    (hm : Move exclusionGuards t task n s s') : s'.Exclusive (some t) := by
  refine ⟨h.procedures.move hm, h.undisturbed.move hc hk h.procedures hm ?_ ?_, h.sole.arises (arises_move hm) ?_⟩
  · exact fun d tasks hG v k call hv hx _ => hG v k call hv hx
  · -- the failed request would wait for the attempt, or the other way round
    intro v k call call₀ hv hx _ hrec hx₀ hrec₀ hd
    rcases h.sole t v task k call₀ call hk hx₀ hv hx hd.symm with rfl | ⟨-, hne⟩ |
      ⟨⟨call', row, call'', hf, hrec', -⟩, -⟩
    · obtain rfl : task = k := Option.some.inj (hk.symm.trans hv)
      obtain rfl : call₀ = call := Option.some.inj (hx₀.symm.trans hx)
      cases hrec.symm.trans hrec₀
    · exact hne rfl
    · rw [hf] at hx
      cases hx
      cases hrec.symm.trans hrec'
  · exact fun f hf => by cases hf <;> rfl

theorem Exclusive.suspended {m : Service} {outcome : Outcome} {now clock : Time} (hcs : s.Coherent)
    (hk : s.tasks.get? t = some task) (hj : s.Exclusive none) (hs : s.resume t outcome now clock = some s')
    (hG : exclusionGuards.Promised s (.resume t outcome now clock)) (hc : m.control.Coherent (some t) n)
    (hk' : m.tasks.get? t = some task) (hm : Relation.ReflTransGen (Move exclusionGuards t task n) s m)
    (h : m.Exclusive (some t)) {f : Frame} (hsus : Suspends t task n m f) (hlive : task.cancelled = false)
    (he : s' = m.suspend t f) {v : TaskId} {k : Task} {call call' : Call} (hf : f.executing = some call) (hvt : v ≠ t)
    (hv : m.tasks.get? v = some k) (hx : k.frame.executing = some call') (hd : call.device = call'.device) :
    Awaits { task with frame := f } v k := by
  obtain ⟨row, point, rfl⟩ := Frame.executing_iff.mp hf
  have hrole := hsus.role
  cases hf₀ : task.frame with
  | procedure call₀ row₀ point₀ =>
    rw [hf₀] at hrole
    obtain rfl : call₀ = call := by
      cases hrole
      rfl
    rcases h.sole t v task k call₀ call' hk' (by rw [hf₀]; rfl) hv hx hd with he | ⟨-, hne⟩ |
      ⟨⟨_, _, _, _, _, _, _, hc'⟩, -⟩
    · exact absurd he.symm hvt
    · exact absurd rfl hne
    · cases hlive.symm.trans hc'
  | queued call₀ =>
    rw [hf₀] at hrole
    obtain rfl : call₀ = call := by
      cases hrole
      rfl
    have hrec : call₀.recovering = false := by
      have hvalid := (hcs.tasks t task hk).valid
      rw [hf₀] at hvalid
      exact hvalid
    cases hrec' : call'.recovering with
    | false =>
      refine absurd (request_unique hc h.procedures.enlisted hv hk' (d := call₀.device) ?_ ?_) hvt
      · rw [Frame.role_of_executing hx]
        simp [Role.requests, hrec', hd]
      · simp [hf₀, Frame.role, Role.requests, hrec]
    | true =>
      obtain ⟨old, hold, hfold⟩ := executing_moves hm hv hx
      have hxold : old.frame.executing = some call' := by rw [hfold]; exact hx
      have hbegins : s.begins (.resume t outcome now clock) = some call₀.device := by
        simp [begins, acting, hk, hlive, hf₀]
      have hlive' : old.cancelled = false := hG.start _ hbegins v old call' hold hxold hd.symm hrec'
      have hrow : s.recoveries.get? call₀.device = some v := by
        refine hj.procedures.tabled v old _ hold ?_ hlive'
        rw [Frame.role_of_executing hxold]
        simp [Role.recovers, hrec', hd]
      have hbegin : s.beginProcedure t call₀ now = m.suspend t (.procedure call₀ row point) := by
        rw [← he]
        unfold Service.resume at hs
        rw [hk] at hs
        cases outcome <;> simp [hlive, hf₀, advance] at hs
        exact hs
      have hself : (m.suspend t (.procedure call₀ row point)).tasks.get? t =
          some { task with frame := .procedure call₀ row point } :=
        get?_suspend_self hk' _
      cases hdev : s.store.device call₀.device with
      | none =>
        have hnone : (s.beginProcedure t call₀ now).tasks.get? t = none := by
          have hdev' : (s.markRunning call₀.operation now).store.device call₀.device = none := by
            rw [← hdev]
            unfold markRunning markOperation
            split <;> rfl
          simp [beginProcedure, hdev', leave, hrec, endTask]
        rw [hbegin, hself] at hnone
        cases hnone
      | some row' =>
        obtain ⟨k₁, k₂, hk₁, hk₂, hw⟩ := awaits_beginProcedure hk now hrec (by simp [hdev]) hrow hold hvt hxold hrec'
        rw [hbegin] at hk₁ hk₂
        obtain rfl := Option.some.inj (hself.symm.trans hk₁)
        obtain rfl := Option.some.inj (((get?_suspend_ne hvt _).trans hv).symm.trans hk₂)
        exact hw
  | recovery d point₀ =>
    rw [hf₀] at hrole
    have hself : task.frame.role.recovers call'.device = true := by
      rw [hf₀]
      cases hrole
      simpa [Frame.role, Role.recovers] using hd
    rcases h.undisturbed v t k task call' hv hx trivial hk' hself hlive with he | ⟨he, -⟩
    · exact absurd he hvt
    · exact absurd (Option.some.inj he).symm hvt
  | _ =>
    rw [hf₀] at hrole
    cases hrole

theorem Sole.ended (h : s.Sole (some t)) (he : s'.tasks = (s.endTask t).tasks) : s'.Sole none := by
  intro u v k k' call call' hu hx hv hx' hd
  rw [he] at hu hv
  refine (h u v k k' call call' (get?_endTask hu).2 hx (get?_endTask hv).2 hx' hd).imp_right (Or.imp ?_ ?_)
  · exact fun ⟨hw, _⟩ => ⟨hw, by simp⟩
  · exact fun ⟨hw, _⟩ => ⟨hw, by simp⟩

theorem Exclusive.park {m : Service} {outcome : Outcome} {now clock : Time} (hcs : s.Coherent)
    (hk : s.tasks.get? t = some task) (hj : s.Exclusive none) (hs : s.resume t outcome now clock = some s')
    (hG : exclusionGuards.Promised s (.resume t outcome now clock)) (hc : m.control.Coherent (some t) n)
    (hk' : m.tasks.get? t = some task) (hm : Relation.ReflTransGen (Move exclusionGuards t task n) s m)
    (h : m.Exclusive (some t)) (hp : Park exclusionGuards t task n m s') : s'.Exclusive none := by
  refine ⟨h.procedures.park hk' hp, h.undisturbed.park hk' h.procedures.tabled hp, ?_⟩
  cases hp with
  | suspend f hsus hlive =>
    have hself : ∀ {u : TaskId} {k : Task}, (m.suspend t f).tasks.get? u = some k →
        (u = t ∧ k = { task with frame := f }) ∨ u ≠ t ∧ m.tasks.get? u = some k := by
      intro u k hu
      rcases get?_suspend hu with ⟨rfl, old, hold, rfl⟩ | hrest
      · obtain rfl : task = old := Option.some.inj (hk'.symm.trans hold)
        exact .inl ⟨rfl, rfl⟩
      · exact .inr hrest
    intro u v k k' call call' hu hx hv hx' hd
    rcases hself hu with ⟨rfl, rfl⟩ | ⟨hut, hold⟩
    · rcases hself hv with ⟨rfl, -⟩ | ⟨hvt, hold⟩
      · exact .inl rfl
      · exact .inr (.inl ⟨Exclusive.suspended hcs hk hj hs hG hc hk' hm h hsus hlive rfl hx hvt hold hx' hd, by simp⟩)
    · rcases hself hv with ⟨rfl, rfl⟩ | ⟨hvt, hold'⟩
      · have hwait := Exclusive.suspended hcs hk hj hs hG hc hk' hm h hsus hlive rfl hx' hut hold hx hd.symm
        exact .inr (.inr ⟨hwait, by simp⟩)
      · refine (h.sole u v k k' call call' hold hx hold' hx' hd).imp_right (Or.imp ?_ ?_)
        · exact fun ⟨hw, _⟩ => ⟨hw, by simp⟩
        · exact fun ⟨hw, _⟩ => ⟨hw, by simp⟩
  | done | recovery | polling => exact h.sole.ended rfl

theorem sole_startDiscovery {boot : Service} (ht : boot.tasks = Dict.empty) (now : Time) :
    (boot.startDiscovery now).Sole none := by
  intro u v k k' call call' hu hx
  obtain rfl := get?_startDiscovery ht hu
  cases hx

theorem exclusive_startDiscovery {boot : Service} (ht : boot.tasks = Dict.empty) (now : Time) :
    (boot.startDiscovery now).Exclusive none :=
  ⟨procedures_startDiscovery ht now, undisturbed_startDiscovery ht now, sole_startDiscovery ht now⟩

theorem preserved_exclusive : PreservedAt exclusionGuards Exclusive where
  begin _ hk h hs _ := ⟨h.procedures, h.undisturbed.begin _, h.sole.begin hk hs⟩
  move hc hk h hm := h.move hc hk hm
  park hcs hk hj hs hG hc hk' hm h hp := Exclusive.park hcs hk hj hs hG hc hk' hm h hp
  request hc h hr := ⟨h.procedures.request hc hr, h.undisturbed.request hr,
    h.sole.arises (arises_request hr) (fun f hf => by cases hf <;> rfl)⟩
  restart {s} now _ _ := @exclusive_startDiscovery s.successor rfl now

end Exclusion

section Results

/-- In the step no poll schedules a recovery of a device while a procedure of the device is under way,
and no request begins while a recovery attempt of its device that was cancelled has yet to end. -/
structure Orderly (s : Service) (a : Action) : Prop where
  rearm : ∀ d, s.rearms a = some d → ∀ u k call, s.tasks.get? u = some k → k.frame.executing = some call →
    call.device ≠ d
  start : ∀ d, s.begins a = some d → ∀ u k call, s.tasks.get? u = some k → k.frame.executing = some call →
    call.device = d → call.recovering = true → k.cancelled = false

theorem Orderly.promised {a : Action} (h : s.Orderly a) : exclusionGuards.Promised s a where
  rearm := h.rearm
  start := h.start

instance (s : Service) (a : Action) : Decidable (s.Orderly a) :=
  decidable_of_iff
    ((∀ d ∈ s.rearms a, ∀ k ∈ s.tasks.values, ∀ call ∈ k.frame.executing, call.device ≠ d) ∧
      ∀ d ∈ s.begins a, ∀ k ∈ s.tasks.values, ∀ call ∈ k.frame.executing, call.device = d → call.recovering = true →
        k.cancelled = false) (by
    simp only [Dict.forall_values_iff, Option.mem_def]
    exact ⟨fun h => ⟨fun d hd u k call hu => h.1 d hd u k hu call, fun d hd u k call hu => h.2 d hd u k hu call⟩,
      fun h => ⟨fun d hd u k hu call => h.rearm d hd u k call hu, fun d hd u k hu call => h.start d hd u k call hu⟩⟩)

theorem one_procedure (h : Reaches Started step Orderly s) :
    ∀ u v k k' call call', s.tasks.get? u = some k → k.frame.executing = some call → s.tasks.get? v = some k' →
      k'.frame.executing = some call' → call.device = call'.device → u = v ∨ Awaits k v k' ∨ Awaits k' u k := by
  have hj := (preserved_exclusive.reaches (fun _ hs => hs) (fun boot now hb _ => exclusive_startDiscovery hb.tasks now)
    (fun _ _ ha => ha.promised) h).2
  intro u v k k' call call' hu hx hv hx' hd
  exact (hj.sole u v k k' call call' hu hx hv hx' hd).imp_right (Or.imp And.left And.left)

def disconnectAttempt : List Action := recoverFirst ++ [.startConnectionOperation "igrill-v202-a" .disconnect 0, go 7]

theorem one_procedure_disconnecting :
    ∃ s, replay step firstSession disconnectAttempt = some s ∧
      (s.tasks.values.filter (fun k => k.frame.executing.any (fun call => call.device = "igrill-v202-a"))).length = 2 ∧
      ∀ u v k k' call call', s.tasks.get? u = some k → k.frame.executing = some call → s.tasks.get? v = some k' →
        k'.frame.executing = some call' → call.device = call'.device → u = v ∨ Awaits k v k' ∨ Awaits k' u k := by
  have hrun : (replayIf (fun s a => decide (s.Orderly a)) step firstSession disconnectAttempt).map (fun s =>
      (s.tasks.values.filter (fun k => k.frame.executing.any (fun call => call.device = "igrill-v202-a"))).length) =
        some 2 := by
    decide +kernel
  obtain ⟨s, hs, htwo⟩ := Option.map_eq_some_iff.mp hrun
  have hr : Reaches Started step Orderly s :=
    .of_replayIf (fun _ _ => of_decide_eq_true) (.init firstSession_started) hs
  exact ⟨s, replay_of_replayIf hs, htwo, one_procedure hr⟩

/-- The link is lost. A connect request waits for the lock when the poll finds that out and gives the
device up: it schedules a recovery, whose first attempt begins while the request is still waiting. -/
def connectUnlinked : List Action :=
  connectFirst ++
  [go 4, go 4, .linkLost, .startConnectionOperation "igrill-v202-a" .connect 0, go 6, go 4, go 7, go 7]

theorem not_one_procedure :
    ¬ ∀ s, Reachable Started step s →
      ∀ u v k k' call call', s.tasks.get? u = some k → k.frame.executing = some call → s.tasks.get? v = some k' →
        k'.frame.executing = some call' → call.device = call'.device → u = v ∨ Awaits k v k' ∨ Awaits k' u k := by
  intro hall
  have hrun : (replay step firstSession connectUnlinked).map (fun s => [6, 7].map (fun u =>
      (s.tasks.get? u).map (fun k => (k.frame.executing.map Call.device, k.cancelled)))) =
      some [some (some "igrill-v202-a", false), some (some "igrill-v202-a", false)] := by decide +kernel
  obtain ⟨s, hs, hf⟩ := Option.map_eq_some_iff.mp hrun
  have hr : Reachable Started step s := .of_replay (.init firstSession_started) hs
  simp only [List.map_cons, List.map_nil, List.cons.injEq, and_true, Option.map_eq_some_iff, Prod.mk.injEq] at hf
  obtain ⟨⟨k, hk, ⟨call, hx, hd⟩, hc⟩, ⟨k', hk', ⟨call', hx', hd'⟩, hc'⟩⟩ := hf
  rcases hall s hr 6 7 k k' call call' hk hx hk' hx' (hd.trans hd'.symm) with he | ⟨_, _, _, _, _, _, _, hw⟩ |
    ⟨_, _, _, _, _, _, _, hw⟩
  · cases he
  · cases hc'.symm.trans hw
  · cases hc.symm.trans hw

end Results

end Service

end PitbluCore
