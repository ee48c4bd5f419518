import PitbluCore.ServiceProcedures

namespace PitbluCore

open Library Relation

inductive OperationStatus.Next : OperationStatus → OperationStatus → Prop
  | run : Next .queued .running
  | interrupt : Next .queued .failed
  | succeed : Next .running .succeeded
  | fail : Next .running .failed

namespace OperationRow

variable {row row' row'' : OperationRow}

/-- The status moves on, and once the operation has ended neither it nor the error code changes. -/
structure Becomes (row row' : OperationRow) : Prop where
  status : ReflTransGen OperationStatus.Next row.status row'.status
  ended : row.status.pending = false → row'.status = row.status ∧ row'.errorCode = row.errorCode

def Proper (row : OperationRow) : Prop := row.errorCode = none ↔ row.status ≠ .failed

def Interrupted (row : OperationRow) : Prop := row.status = .failed ∧ row.errorCode = some .interrupted

theorem Becomes.of_same (hs : row'.status = row.status) (he : row'.errorCode = row.errorCode) : row.Becomes row' :=
  ⟨by rw [hs], fun _ => ⟨hs, he⟩⟩

theorem Becomes.trans (h : row.Becomes row') (h' : row'.Becomes row'') : row.Becomes row'' := by
  refine ⟨h.status.trans h'.status, fun hp => ?_⟩
  obtain ⟨hs, he⟩ := h.ended hp
  obtain ⟨hs', he'⟩ := h'.ended (by rw [hs]; exact hp)
  exact ⟨hs'.trans hs, he'.trans he⟩

theorem becomes_of_pending (hp : row.status.pending = true) (hs : row'.status ≠ .queued) : row.Becomes row' := by
  refine ⟨?_, fun hn => by cases hp.symm.trans hn⟩
  have hrun : ReflTransGen OperationStatus.Next .queued .running := .single .run
  cases h : row.status with
  | queued =>
    cases h' : row'.status with
    | queued => exact absurd h' hs
    | running => exact hrun
    | succeeded => exact hrun.tail .succeed
    | failed => exact .single .interrupt
  | running =>
    cases h' : row'.status with
    | queued => exact absurd h' hs
    | running => exact .refl
    | succeeded => exact .single .succeed
    | failed => exact .single .fail
  | succeeded | failed =>
    rw [h] at hp
    cases hp

theorem Interrupted.not_pending (h : row.Interrupted) : row.status.pending = false := by
  rw [h.1]
  rfl

theorem Interrupted.becomes (h : row.Interrupted) (h' : row'.Interrupted) : row.Becomes row' :=
  .of_same (h'.1.trans h.1.symm) (h'.2.trans h.2.symm)

theorem Interrupted.proper (h : row.Interrupted) : row.Proper := by
  unfold Proper
  rw [h.1, h.2]
  simp

end OperationRow

open OperationRow

theorem AdministrativeStore.get?_interruptOperations {S : AdministrativeStore} {now : Time} {id : OperationId}
    {row' : OperationRow}
    (h : (S.interruptOperations now).operations.get? id = some row') :
    ∃ row, S.operations.get? id = some row ∧
      (row' = row ∧ row.status.pending = false ∨ row.status.pending = true ∧ row'.Interrupted) := by
  simp only [interruptOperations, Dict.get?_mapValues] at h
  obtain ⟨row, hrow, he⟩ := Option.map_eq_some_iff.mp h
  refine ⟨row, hrow, ?_⟩
  split at he
  · rename_i hp
    exact .inr ⟨hp, by rw [← he]; exact ⟨rfl, rfl⟩⟩
  · rename_i hp
    exact .inl ⟨he.symm, Bool.eq_false_iff.mpr hp⟩

namespace Service

variable {G : Guards} {s s' : Service} {t : TaskId} {task : Task} {n id : OperationId} {d : DeviceId}

section Writes

theorem get?_newOperation (kind : OperationKind) (device : Option DeviceId) (now : Time) (id : OperationId) :
    (id = s.nextOperation ∧ ∃ row', (s.newOperation kind device now).operations.get? id = some row' ∧
    row'.status = .queued ∧
      row'.errorCode = none ∧ ∀ r, (s.newOperation kind device now).store.operations.get? id = some r →
        r.status = row'.status ∧ r.errorCode = row'.errorCode) ∨
    id ≠ s.nextOperation ∧ (s.newOperation kind device now).operations.get? id = s.operations.get? id ∧
      ∀ r, (s.newOperation kind device now).store.operations.get? id = some r →
      s.store.operations.get? id = some r := by
  by_cases hid : id = s.nextOperation
  · subst hid
    refine .inl ⟨rfl, ⟨s.nextOperation, kind, device, .queued, now, now, none⟩, by simp [newOperation, saveOperation],
      rfl, rfl, fun r hr => ?_⟩
    rcases AdministrativeStore.get?_saveOperation _ hr with ⟨-, hst⟩ | ⟨hne, -⟩
    · exact hst
    · exact absurd rfl hne
  · refine .inr ⟨hid, by simp [newOperation, saveOperation, hid], fun r hr => ?_⟩
    rcases AdministrativeStore.get?_saveOperation _ hr with ⟨hx, -⟩ | ⟨-, hold⟩
    · exact absurd hx hid
    · exact hold

inductive Writes (task : Task) (n : OperationId) (s s' : Service) (id : OperationId) : Prop
  | kept (hm : s'.operations.get? id = s.operations.get? id)
      (hs : ∀ r, s'.store.operations.get? id = some r → s.store.operations.get? id = some r)
  | saved {row row' : OperationRow}
      (h : task.frame.role.operation = some id ∨ n ≤ id ∧ task.cancelled = false ∧ ∃ d, task.frame.role = .recovery d)
      (hrow : s.operations.get? id = some row) (hp : row.status.pending = true)
      (hrow' : s'.operations.get? id = some row') (hq : row'.status ≠ .queued) (he : row'.Proper)
      (hb : task.cancelled = true → row'.Interrupted)
      (hs : ∀ r, s'.store.operations.get? id = some r → r.status = row'.status ∧ r.errorCode = row'.errorCode)
  | created {row' : OperationRow} (h : id = s.nextOperation) (hc : task.cancelled = false)
      (hr : ∃ d, task.frame.role = .recovery d) (hrow' : s'.operations.get? id = some row') (he : row'.Proper)
      (hs : ∀ r, s'.store.operations.get? id = some r → r.status = row'.status ∧ r.errorCode = row'.errorCode)
  | interrupted (hr : task.frame.role = .closing) (hm : s'.operations.get? id = s.operations.get? id)
      (hs : ∀ r', s'.store.operations.get? id = some r' → ∃ r, s.store.operations.get? id = some r ∧
        (r' = r ∧ r.status.pending = false ∨ r.status.pending = true ∧ r'.Interrupted))

theorem Writes.of_same (hm : s'.operations = s.operations) (hs : s'.store.operations = s.store.operations) :
    Writes task n s s' id := by
  refine .kept (by rw [hm]) (fun r hr => ?_)
  rw [hs] at hr
  exact hr

inductive Records (task : Task) (n : OperationId) (s : Service) : Service → Prop
  | same {s' : Service} (hm : s'.operations = s.operations) (hs : s'.store.operations = s.store.operations) :
      Records task n s s'
  | mark {row : OperationRow} (status : OperationStatus) (error : Option ErrorCode) (now : Time)
      (h : task.frame.role.operation = some row.operationId ∨
        n ≤ row.operationId ∧ task.cancelled = false ∧ ∃ d, task.frame.role = .recovery d)
      (hrow : s.operations.get? row.operationId = some row) (hp : row.status.pending = true) (hs : status ≠ .queued)
      (he : error = none ↔ status ≠ .failed) (hb : task.cancelled = true → status = .failed ∧
        error = some .interrupted) :
      Records task n s (s.saveOperation { row with status := status, errorCode := error, updatedAt := now })
  | create (d : DeviceId) (now : Time) (h : task.frame.role = .recovery d) (hc : task.cancelled = false) :
      Records task n s (s.newOperation .reconnect (some d) now)
  | interrupt (now : Time) (h : task.frame.role = .closing) :
      Records task n s { s with store := s.store.interruptOperations now }

theorem records_move (hm : Move G t task n s s') : Records task n s s' := by
  cases hm with
  | quiet hq => exact .same (congrArg Control.operations hq.control) (congrArg Control.stored hq.control)
  | @mark j h status error now hl hs he hb =>
    obtain ⟨row, hrow, rfl, hp⟩ := hl
    have hrow' : s.operations.get? row.operationId = some row := hrow
    have hmark : s.markOperation row.operationId status error now =
        s.saveOperation { row with status := status, errorCode := error, updatedAt := now } := by
      unfold markOperation
      rw [hrow']
    rw [hmark]
    exact .mark status error now h hrow' hp hs he (fun hx => ⟨(hb hx).1, (hb hx).2.1⟩)
  | create d now hr hlive => exact .create d now hr hlive
  | interruptOperations now hr => exact .interrupt now hr
  | select => exact .same rfl rfl
  | event j =>
    refine .same (operations_scheduleEvent j) ?_
    unfold scheduleEvent
    split <;> rfl
  | scheduleRecovery d immediate =>
    refine .same (operations_scheduleRecovery d immediate) ?_
    unfold scheduleRecovery
    split <;> rfl
  | startPolling =>
    exact .same (startPolling_operations _) (congrArg AdministrativeStore.operations (startPolling_store _))
  | _ => exact .same rfl rfl

theorem writes_move (hm : Move G t task n s s') (id : OperationId) :
    Writes task n s s' id := by
  cases records_move hm with
  | same hm hs => exact .of_same hm hs
  | @mark row status error now h hrow hp hs he hb =>
    by_cases hij : id = row.operationId
    · subst hij
      have hnew : (s.saveOperation { row with status := status, errorCode := error, updatedAt := now }).operations.get?
          row.operationId = some { row with status := status, errorCode := error, updatedAt := now } := by
        simp [Service.saveOperation]
      refine .saved h hrow hp hnew hs he hb (fun r hr => ?_)
      rcases AdministrativeStore.get?_saveOperation _ hr with ⟨-, hst⟩ | ⟨hne, -⟩
      · exact hst
      · exact absurd rfl hne
    · refine .kept (by simp [Service.saveOperation, hij]) (fun r hr => ?_)
      rcases AdministrativeStore.get?_saveOperation _ hr with ⟨hx, -⟩ | ⟨-, hold⟩
      · exact absurd hx hij
      · exact hold
  | create d now hr hlive =>
    rcases get?_newOperation (s := s) .reconnect (some d) now id with ⟨hid, row', hrow', hq, he, hs⟩ | ⟨-, hm, hs⟩
    · exact .created hid hlive ⟨d, hr⟩ hrow' (by simp [OperationRow.Proper, hq, he]) hs
    · exact .kept hm hs
  | interrupt now hr => exact .interrupted hr rfl (fun r' hr' => AdministrativeStore.get?_interruptOperations hr')

theorem operation_of_spawns {f : Frame} (h : Spawns G s task f) : f.role.operation = none := by
  cases h <;> rfl

theorem rows_request (hr : Request G s s') : (s'.operations = s.operations ∧ s'.store.operations = s.store.operations) ∨
    s.closing = false ∧ ∃ kind device now, s'.operations = (s.newOperation kind device now).operations ∧
      s'.store.operations = (s.newOperation kind device now).store.operations ∧
      (kind = .scan → G.scan s.store.operations) := by
  cases hr with
  | quiet hq => exact .inl ⟨congrArg Control.operations hq.control, congrArg Control.stored hq.control⟩
  | startScan now hc hg => exact .inr ⟨hc, .scan, none, now, rfl, rfl, fun _ => hg⟩
  | @accept d action now hd hp ho hc =>
    exact .inr ⟨hc, action.kind, some d, now, rfl, rfl,
      fun hk => by cases action <;> cases hk⟩
  | @adopt d =>
    refine .inl ⟨operations_scheduleRecovery d true, ?_⟩
    unfold scheduleRecovery
    split <;> rfl
  | _ => exact .inl ⟨rfl, rfl⟩

end Writes

section Abandoned

structure Unrecovering (s : Service) : Prop where
  closing : s.closing = true
  recoveries : ∀ d, s.recoveries.get? d = none

theorem closing_move (hm : Move G t task n s s') : s'.closing = s.closing := by
  cases hm with
  | quiet hq => exact congrArg Control.closing hq.control
  | mark _ status error now => exact (steady_markOperation _ status error now).closing
  | event id => exact (steady_scheduleEvent id).closing
  | scheduleRecovery d immediate => exact (steady_scheduleRecovery d immediate).closing
  | startPolling => exact (steady_startPolling _).closing
  | _ => rfl

theorem scheduleRecovery_of_closing (hc : s.closing = true) (d : DeviceId) (immediate : Bool) :
    s.scheduleRecovery d immediate = s := by
  simp [scheduleRecovery, recoveryWanted, hc]

theorem Unrecovering.of_same (h : s.Unrecovering) (hc : s'.closing = s.closing)
    (hr : ∀ d u, s'.recoveries.get? d = some u → s.recoveries.get? d = some u) : s'.Unrecovering := by
  refine ⟨hc.trans h.closing, fun d => Option.eq_none_iff_forall_ne_some.mpr (fun u hu => ?_)⟩
  cases (h.recoveries d).symm.trans (hr d u hu)

theorem Unrecovering.move (h : s.Unrecovering) (hm : Move G t task n s s') : s'.Unrecovering := by
  refine h.of_same (closing_move hm) (fun d u hu => ?_)
  cases hm with
  | quiet hq =>
    have hr : s'.recoveries = s.recoveries := congrArg Control.recoveries hq.control
    rwa [hr] at hu
  | mark _ status error now =>
    unfold markOperation at hu
    split at hu <;> exact hu
  | event id =>
    unfold scheduleEvent at hu
    split at hu <;> exact hu
  | scheduleRecovery d' immediate => rwa [scheduleRecovery_of_closing h.closing] at hu
  | stopRecovery => exact Control.get?_erase_some hu
  | startPolling =>
    unfold startPolling at hu
    dsimp only at hu
    split at hu <;> exact hu
  | clearRecoveries => cases hu
  | _ => exact hu

theorem Unrecovering.park (h : s.Unrecovering) (hp : Park G t task n s s') : s'.Unrecovering := by
  refine h.of_same (by cases hp <;> rfl) (fun d u hu => ?_)
  cases hp with
  | recovery =>
    simp only [endRecovery] at hu
    split at hu
    · exact Control.get?_erase_some hu
    · exact hu
  | _ => exact hu

theorem Unrecovering.request (h : s.Unrecovering) (hr : Request G s s') : s'.Unrecovering := by
  have hnot : s.closing ≠ false := by simp [h.closing]
  cases hr with
  | quiet hq =>
    refine h.of_same (congrArg Control.closing hq.control) (fun d u hu => ?_)
    have hr : s'.recoveries = s.recoveries := congrArg Control.recoveries hq.control
    rwa [hr] at hu
  | startScan now hc => exact absurd hc hnot
  | accept action now hd hp ho hc => exact absurd hc hnot
  | close hc => exact absurd hc hnot
  | deleteRecovering => exact h.of_same rfl (fun d u hu => Control.get?_erase_some hu)
  | @adopt d =>
    have he := scheduleRecovery_of_closing (s := { s with owner := some d }) h.closing d true
    rw [he]
    exact h.of_same rfl (fun _ _ hu => hu)
  | _ => exact h.of_same rfl (fun _ _ hu => hu)

theorem Unrecovering.cancelled (h : s.Unrecovering) (htab : s.Tabled) (hk : s.tasks.get? t = some task)
    (hr : task.frame.role.recovers d = true) : task.cancelled = true := by
  by_contra hlive
  cases (h.recoveries d).symm.trans (htab t task d hk hr (by simpa using hlive))

structure Abandoned (s : Service) (id : OperationId) : Prop where
  unrecovering : s.Unrecovering
  cancelled : ∀ u k, s.tasks.get? u = some k → k.frame.role.operation = some id → k.cancelled = true

theorem Abandoned.arises {new : Frame → Prop} (h : s.Abandoned id) (hu : s'.Unrecovering) (ha : Arises s new s')
    (hf : ∀ f, new f → f.role.operation = none) : s'.Abandoned id := by
  refine ⟨hu, fun u k hk hop => ?_⟩
  cases ha u k hk with
  | spawned hnew hk =>
    rw [hk, hf _ hnew] at hop
    cases hop
  | @kept old hold hk =>
    rcases hk with rfl | rfl
    · exact h.cancelled u _ hold hop
    · rw [Task.cancel_frame] at hop
      unfold Task.cancel
      split
      · exact h.cancelled u old hold hop
      · rfl

theorem Abandoned.move (h : s.Abandoned id) (hm : Move G t task n s s') : s'.Abandoned id :=
  h.arises (h.unrecovering.move hm) (arises_move hm) (fun _ hf => operation_of_spawns hf)

theorem Abandoned.park (h : s.Abandoned id) (htab : s.Tabled) (hk : s.tasks.get? t = some task)
    (hp : Park G t task n s s') : s'.Abandoned id := by
  refine ⟨h.unrecovering.park hp, ?_⟩
  have hend : ∀ u k, (s.endTask t).tasks.get? u = some k → k.frame.role.operation = some id → k.cancelled = true :=
    fun u k hk' => h.cancelled u k (get?_endTask hk').2
  cases hp with
  | suspend f hs hlive =>
    intro u k hk' hop
    rcases get?_suspend hk' with ⟨rfl, old, hold, rfl⟩ | ⟨-, hold⟩
    · obtain rfl : task = old := Option.some.inj (hk.symm.trans hold)
      have hop' : f.role.operation = some id := hop
      have hrole := hs.role
      have hself := h.cancelled u task hk
      have hrec : ∀ d, task.frame.role.recovers d = true → task.cancelled = true :=
        fun d hr => h.unrecovering.cancelled htab hk hr
      generalize task.frame.role = r at hrole hself hrec
      generalize f.role = r' at hop' hrole
      cases hrole with
      | same => exact hself hop'
      | attempt d => exact hrec d (by simp [Role.recovers])
      | retry | crash => cases hop'
    · exact h.cancelled u k hold hop
  | done | recovery | polling => exact hend

theorem Abandoned.request (h : s.Abandoned id) (hr : Request G s s') : s'.Abandoned id := by
  refine h.arises (h.unrecovering.request hr) (arises_request hr) (fun f hf => ?_)
  have hnot : s.closing ≠ false := by simp [h.unrecovering.closing]
  cases hf with
  | scan id hc => exact absurd hc hnot
  | queued hd hp ho hc => exact absurd hc hnot
  | _ => rfl

end Abandoned

section Tracks

/-- The rows of the store have become what the rows were to become, and whatever is still pending in
memory carries on from them, unless the row was interrupted behind its back and nothing will touch it
again but to say so. -/
structure Tracks (rows : Dict OperationId OperationRow) (s : Service) : Prop where
  stored : ∀ id row row', rows.get? id = some row → s.store.operations.get? id = some row' → row.Becomes row'
  memory : ∀ id row row', rows.get? id = some row → s.operations.get? id = some row' → row'.status.pending = true →
    row.Becomes row' ∨ row.Interrupted ∧ s.Abandoned id

def Mirrored (s : Service) : Prop := Tracks s.store.operations s

variable {rows : Dict OperationId OperationRow}

theorem mirrored_of_memory (h : ∀ id row row', s.store.operations.get? id = some row →
    s.operations.get? id = some row' →
    row'.status.pending = true → row.Becomes row' ∨ row.Interrupted ∧ s.Abandoned id) : s.Mirrored := by
  refine ⟨fun id row row' hrow hrow' => ?_, h⟩
  obtain rfl : row = row' := Option.some.inj (hrow.symm.trans hrow')
  exact .of_same rfl rfl

theorem Tracks.move (hn : ∀ id row, rows.get? id = some row → id < s.nextOperation) (hk : s.tasks.get? t = some task)
    (htab : s.Tabled) (hr : task.frame.role ≠ .closing) (h : Tracks rows s) (hm : Move G t task n s s') :
    Tracks rows s' := by
  have hself : ∀ id, s.Abandoned id → task.frame.role.operation = some id ∨
      n ≤ id ∧ task.cancelled = false ∧ (∃ d, task.frame.role = .recovery d) → task.cancelled = true := by
    rintro id ha (hop | ⟨-, -, d, hrec⟩)
    · exact ha.cancelled t task hk hop
    · exact ha.unrecovering.cancelled htab hk (d := d) (by simp [hrec, Role.recovers])
  refine ⟨fun id row r hrow hr' => ?_, fun id row r hrow hr' hp => ?_⟩
  · cases writes_move hm id with
    | kept _ hs => exact h.stored id row r hrow (hs r hr')
    | saved hid hold hpend hnew hq he hb hs =>
      obtain ⟨hst, herr⟩ := hs r hr'
      refine .trans ?_ (.of_same hst herr)
      rcases h.memory id row _ hrow hold hpend with hb' | ⟨hi, ha⟩
      · exact hb'.trans (becomes_of_pending hpend hq)
      · exact hi.becomes (hb (hself id ha hid))
    | created hid => exact absurd hid (hn id row hrow).ne
    | interrupted hclosing => exact absurd hclosing hr
  · cases writes_move hm id with
    | kept hm' _ => exact (h.memory id row r hrow (hm' ▸ hr') hp).imp_right (fun ha => ⟨ha.1, ha.2.move hm⟩)
    | saved hid hold hpend hnew hq he hb hs =>
      obtain rfl := Option.some.inj (hnew.symm.trans hr')
      rcases h.memory id row _ hrow hold hpend with hb' | ⟨-, ha⟩
      · exact .inl (hb'.trans (becomes_of_pending hpend hq))
      · cases hp.symm.trans (hb (hself id ha hid)).not_pending
    | created hid => exact absurd hid (hn id row hrow).ne
    | interrupted hclosing => exact absurd hclosing hr

theorem Mirrored.move (hr : task.frame.role ≠ .closing) (h : s.Mirrored) (hm : Move G t task n s s') : s'.Mirrored := by
  refine mirrored_of_memory (fun id row row' hrow hrow' hp => ?_)
  cases writes_move hm id with
  | kept hm' hs =>
    exact (h.memory id row row' (hs row hrow) (hm' ▸ hrow') hp).imp_right
      (fun ha => ⟨ha.1, ha.2.move hm⟩)
  | saved _ _ _ hnew _ _ _ hs | created _ _ _ hnew _ hs =>
    obtain rfl := Option.some.inj (hnew.symm.trans hrow')
    obtain ⟨hst, herr⟩ := hs row hrow
    exact .inl (.of_same hst.symm herr.symm)
  | interrupted hclosing => exact absurd hclosing hr

theorem Tracks.park (hk : s.tasks.get? t = some task) (htab : s.Tabled) (h : Tracks rows s)
    (hp : Park G t task n s s') :
    Tracks rows s' := by
  have hm : s'.operations = s.operations := by cases hp <;> rfl
  have hs : s'.store = s.store := by cases hp <;> rfl
  refine ⟨fun id row row' hrow hrow' => ?_, fun id row row' hrow hrow' hpend => ?_⟩
  · rw [hs] at hrow'
    exact h.stored id row row' hrow hrow'
  · rw [hm] at hrow'
    exact (h.memory id row row' hrow hrow' hpend).imp_right (fun ha => ⟨ha.1, ha.2.park htab hk hp⟩)

theorem Mirrored.park (hk : s.tasks.get? t = some task) (htab : s.Tabled) (h : s.Mirrored) (hp : Park G t task n s s') :
    s'.Mirrored := by
  have hs : s'.store = s.store := by cases hp <;> rfl
  unfold Mirrored
  rw [hs]
  exact Tracks.park hk htab h hp

theorem Tracks.request (hn : ∀ id row, rows.get? id = some row → id < s.nextOperation) (h : Tracks rows s)
    (hr : Request G s s') : Tracks rows s' := by
  rcases rows_request hr with ⟨hm, hs⟩ | ⟨hc, kind, device, now, hm, hs, -⟩
  · refine ⟨fun id row row' hrow hrow' => ?_, fun id row row' hrow hrow' hp => ?_⟩
    · rw [hs] at hrow'
      exact h.stored id row row' hrow hrow'
    · rw [hm] at hrow'
      exact (h.memory id row row' hrow hrow' hp).imp_right (fun ha => ⟨ha.1, ha.2.request hr⟩)
  · refine ⟨fun id row row' hrow hrow' => ?_, fun id row row' hrow hrow' hp => ?_⟩
    · rw [hs] at hrow'
      rcases get?_newOperation (s := s) kind device now id with ⟨hid, -⟩ | ⟨-, -, hold⟩
      · exact absurd hid (hn id row hrow).ne
      · exact h.stored id row row' hrow (hold row' hrow')
    · rw [hm] at hrow'
      rcases get?_newOperation (s := s) kind device now id with ⟨hid, -⟩ | ⟨-, hold, -⟩
      · exact absurd hid (hn id row hrow).ne
      · exact (h.memory id row row' hrow (hold ▸ hrow') hp).imp_right (fun ha => ⟨ha.1, ha.2.request hr⟩)

theorem Mirrored.request (h : s.Mirrored) (hr : Request G s s') : s'.Mirrored := by
  rcases rows_request hr with ⟨hm, hs⟩ | ⟨hc, kind, device, now, hm, hs, -⟩
  · refine mirrored_of_memory (fun id row row' hrow hrow' hp => ?_)
    rw [hs] at hrow
    rw [hm] at hrow'
    exact (h.memory id row row' hrow hrow' hp).imp_right (fun ha => ⟨ha.1, ha.2.request hr⟩)
  · refine mirrored_of_memory (fun id row row' hrow hrow' hp => ?_)
    rw [hs] at hrow
    rw [hm] at hrow'
    rcases get?_newOperation (s := s) kind device now id with ⟨-, row'', hrow'', -, -, hst⟩ | ⟨-, hold, hold'⟩
    · obtain rfl := Option.some.inj (hrow''.symm.trans hrow')
      obtain ⟨hst, herr⟩ := hst row hrow
      exact .inl (.of_same hst.symm herr.symm)
    · exact (h.memory id row row' (hold' row hrow) (hold ▸ hrow') hp).imp_right (fun ha => ⟨ha.1, ha.2.request hr⟩)

end Tracks

end Service

end PitbluCore
