import PitbluCore.StorageRetention
import PitbluCore.ServiceShutdown

namespace PitbluCore

open Library Relation

def OperationRow.scanning (row : OperationRow) : Bool := row.kind = .scan && row.status.pending

theorem OperationRow.scanning_iff {row : OperationRow} :
    row.scanning = true ↔ row.kind = .scan ∧ row.status.pending = true := by
  simp [scanning]

theorem OperationRow.Interrupted.not_scanning {row : OperationRow} (h : row.Interrupted) : row.scanning = false := by
  simp [scanning, h.not_pending]

namespace AdministrativeStore

variable {S : AdministrativeStore} {row r : OperationRow}

theorem get?_saveOperation_self (h : (S.saveOperation row).operations.get? row.operationId = some r) :
    r = row ∧ S.operations.get? row.operationId = none ∨ ∃ old, S.operations.get? row.operationId = some old ∧
      r.operationId = old.operationId ∧ r.kind = old.kind ∧ r.status = row.status := by
  have hw : (S.upsertOperation row).operation row.operationId = some r := operation_of_pruneOperations h
  rw [operation_upsertOperation, if_pos rfl, Option.some.injEq] at hw
  cases hold : S.operations.get? row.operationId with
  | none =>
    refine .inl ⟨?_, rfl⟩
    rw [← hw, operation, hold]
    rfl
  | some old =>
    refine .inr ⟨old, rfl, ?_⟩
    rw [← hw, operation, hold]
    exact ⟨rfl, rfl, rfl⟩

end AdministrativeStore

namespace Service

variable {G : Guards} {s s' : Service} {t : TaskId} {task : Task} {n id : OperationId} {row row' : OperationRow}

section Scans

/-- There is one scan in the store at most that is pending, and what is pending in memory is pending
there, unless it has been interrupted. -/
structure Scans (s : Service) : Prop where
  unique : ∀ id id' row row', s.store.operations.get? id = some row → s.store.operations.get? id' = some row' →
    row.scanning = true → row'.scanning = true → id = id'
  named : ∀ id row, s.store.operations.get? id = some row → row.scanning = true → row.operationId = id
  kinds : ∀ id row row', s.operations.get? id = some row → s.store.operations.get? id = some row' →
    row'.kind = row.kind ∨ s.Abandoned id
  backed : ∀ id row, s.operations.get? id = some row → row.scanning = true →
    (∃ row', s.store.operations.get? id = some row' ∧ row'.scanning = true) ∨ s.Abandoned id

theorem Scans.of_same (h : s.Scans) (hm : s'.operations = s.operations) (hs : s'.store.operations = s.store.operations)
    (ha : ∀ id, s.Abandoned id → s'.Abandoned id) : s'.Scans := by
  refine ⟨?_, ?_, fun id row row' hrow hrow' => ?_, fun id row hrow hscan => ?_⟩
  · rw [hs]
    exact h.unique
  · rw [hs]
    exact h.named
  · rw [hm] at hrow
    rw [hs] at hrow'
    exact (h.kinds id row row' hrow hrow').imp_right (ha id)
  · rw [hm] at hrow
    rw [hs]
    exact (h.backed id row hrow hscan).imp_right (ha id)

theorem Scans.of_scanning (h : s.Scans)
    (hs : ∀ id row', s'.store.operations.get? id = some row' → row'.scanning = true →
      ∃ row, s.store.operations.get? id = some row ∧ row.scanning = true ∧ row'.operationId = row.operationId)
    (hk : ∀ id row row', s'.operations.get? id = some row → s'.store.operations.get? id = some row' →
      row'.kind = row.kind ∨ s'.Abandoned id)
    (hb : ∀ id row, s'.operations.get? id = some row → row.scanning = true →
      (∃ row', s'.store.operations.get? id = some row' ∧ row'.scanning = true) ∨ s'.Abandoned id) : s'.Scans := by
  refine ⟨fun id id' row row' hrow hrow' hx hx' => ?_, fun id row' hrow' hx' => ?_, hk, hb⟩
  · obtain ⟨r, hr, hrx, -⟩ := hs id row hrow hx
    obtain ⟨r', hr', hrx', -⟩ := hs id' row' hrow' hx'
    exact h.unique id id' r r' hr hr' hrx hrx'
  · obtain ⟨r, hr, hrx, hid⟩ := hs id row' hrow' hx'
    exact hid.trans (h.named id r hr hrx)

theorem Scans.save (h : s.Scans) (hrow : s.operations.get? row.operationId = some row) (hp : row.status.pending = true)
    (hid : row'.operationId = row.operationId) (hkind : row'.kind = row.kind)
    (hdead : s.Abandoned row.operationId → row'.status.pending = false)
    (ha : ∀ id, s.Abandoned id → (s.saveOperation row').Abandoned id) : (s.saveOperation row').Scans := by
  have hbacked : row'.scanning = true → ∃ old, s.store.operations.get? row.operationId = some old ∧
      old.scanning = true := by
    intro hx
    obtain ⟨hk, hp'⟩ := OperationRow.scanning_iff.mp hx
    refine (h.backed _ row hrow (OperationRow.scanning_iff.mpr ⟨hkind ▸ hk, hp⟩)).resolve_right (fun hab => ?_)
    cases (hdead hab).symm.trans hp'
  apply h.of_scanning
  · intro id r hr hx
    rcases AdministrativeStore.mem_saveOperation _ hr with rfl | hold
    · rcases AdministrativeStore.get?_saveOperation_self hr with ⟨rfl, hnone⟩ | ⟨old, hold, hrid, hrk, hrs⟩
      · obtain ⟨old, hold, -⟩ := hbacked hx
        rw [hid] at hnone
        cases hnone.symm.trans hold
      · refine ⟨old, hold, ?_, hrid⟩
        obtain ⟨hk, hp'⟩ := OperationRow.scanning_iff.mp hx
        rw [hid] at hold
        rcases h.kinds _ row old hrow hold with hsame | hab
        · have hscan : row'.scanning = true :=
            OperationRow.scanning_iff.mpr ⟨by rw [hkind, ← hsame, ← hrk, hk], by rw [← hrs, hp']⟩
          obtain ⟨old', hold', hx'⟩ := hbacked hscan
          obtain rfl := Option.some.inj (hold.symm.trans hold')
          exact hx'
        · cases (hdead hab).symm.trans (hrs ▸ hp')
    · exact ⟨r, hold, hx, rfl⟩
  · intro id r r' hr hr'
    have hm : (s.operations.set row'.operationId row').get? id = some r := hr
    rw [Dict.get?_set] at hm
    split at hm
    · rename_i heq
      subst heq
      cases hm
      rcases AdministrativeStore.get?_saveOperation_self hr' with ⟨rfl, -⟩ | ⟨old, hold, -, hrk, -⟩
      · exact .inl rfl
      · rw [hid] at hold
        rw [hrk, hkind, hid]
        exact (h.kinds _ row old hrow hold).imp_right (ha _)
    · rename_i hne
      exact (h.kinds id r r' hm ((AdministrativeStore.mem_saveOperation _ hr').resolve_left hne)).imp_right (ha id)
  · intro id r hr hx
    have hm : (s.operations.set row'.operationId row').get? id = some r := hr
    rw [Dict.get?_set] at hm
    split at hm
    · rename_i heq
      subst heq
      cases hm
      obtain ⟨old, hold, hox⟩ := hbacked hx
      obtain ⟨hk, hp'⟩ := OperationRow.scanning_iff.mp hx
      rw [← hid] at hold
      have hwritten : (s.store.upsertOperation row').operations.get? row'.operationId = some { old with
          status := row'.status, updatedAt := row'.updatedAt, errorCode := row'.errorCode } := by
        simp [AdministrativeStore.upsertOperation, hold]
      have hkept := AdministrativeStore.pruneOperations_get? _ hwritten hp'
      exact .inl ⟨_, hkept, OperationRow.scanning_iff.mpr ⟨(OperationRow.scanning_iff.mp hox).1, hp'⟩⟩
    · rename_i hne
      refine Or.imp ?_ (ha id) (h.backed id r hm hx)
      rintro ⟨r', hr', hx'⟩
      exact ⟨r', AdministrativeStore.saveOperation_get?_ne _ hr' (OperationRow.scanning_iff.mp hx').2 hne, hx'⟩

theorem Scans.create (h : s.Scans) (hs : ∀ id row, s.store.operations.get? id = some row → id < s.nextOperation)
    (kind : OperationKind) (device : Option DeviceId) (now : Time)
    (hnone : kind = .scan → ∀ id row, s.store.operations.get? id = some row → row.scanning = false)
    (ha : ∀ id, s.Abandoned id → (s.newOperation kind device now).Abandoned id) :
    (s.newOperation kind device now).Scans := by
  let row : OperationRow := ⟨s.nextOperation, kind, device, .queued, now, now, none⟩
  have hfresh : s.store.operations.get? s.nextOperation = none :=
    Option.eq_none_iff_forall_ne_some.mpr (fun r hr => lt_irrefl _ (hs _ r hr))
  -- what the store has after it: the new row, or a row of before
  have hstored : ∀ id r, (s.newOperation kind device now).store.operations.get? id = some r →
      id = s.nextOperation ∧ r = row ∨ id ≠ s.nextOperation ∧ s.store.operations.get? id = some r := by
    intro id r hr
    by_cases hid : id = s.nextOperation
    · subst hid
      have hr' : (s.store.saveOperation row).operations.get? row.operationId = some r := hr
      rcases AdministrativeStore.get?_saveOperation_self hr' with ⟨rfl, -⟩ | ⟨old, hold, -⟩
      · exact .inl ⟨rfl, rfl⟩
      · cases hfresh.symm.trans hold
    · exact .inr ⟨hid, (AdministrativeStore.mem_saveOperation _ hr).resolve_left hid⟩
  have hmemory : ∀ id r, (s.newOperation kind device now).operations.get? id = some r →
      id = s.nextOperation ∧ r = row ∨ id ≠ s.nextOperation ∧ s.operations.get? id = some r := by
    intro id r hr
    have hr' : (s.operations.set s.nextOperation row).get? id = some r := hr
    rw [Dict.get?_set] at hr'
    split at hr'
    · rename_i hid
      exact .inl ⟨hid, (Option.some.inj hr').symm⟩
    · rename_i hid
      exact .inr ⟨hid, hr'⟩
  refine ⟨fun id id' r r' hr hr' hx hx' => ?_, fun id r hr hx => ?_, fun id r r' hr hr' => ?_, fun id r hr hx => ?_⟩
  · rcases hstored id r hr with ⟨rfl, rfl⟩ | ⟨-, hold⟩ <;> rcases hstored id' r' hr' with ⟨rfl, rfl⟩ | ⟨-, hold'⟩
    · rfl
    · cases hx'.symm.trans (hnone (OperationRow.scanning_iff.mp hx).1 id' r' hold')
    · cases hx.symm.trans (hnone (OperationRow.scanning_iff.mp hx').1 id r hold)
    · exact h.unique id id' r r' hold hold' hx hx'
  · rcases hstored id r hr with ⟨rfl, rfl⟩ | ⟨-, hold⟩
    · rfl
    · exact h.named id r hold hx
  · rcases hmemory id r hr with ⟨rfl, rfl⟩ | ⟨hne, hold⟩
    · rcases hstored _ r' hr' with ⟨-, rfl⟩ | ⟨hne, -⟩
      · exact .inl rfl
      · exact absurd rfl hne
    · rcases hstored id r' hr' with ⟨heq, -⟩ | ⟨-, hold'⟩
      · exact absurd heq hne
      · exact (h.kinds id r r' hold hold').imp_right (ha id)
  · rcases hmemory id r hr with ⟨rfl, rfl⟩ | ⟨hne, hold⟩
    · refine .inl ⟨row, AdministrativeStore.pruneOperations_get? _ ?_ rfl, hx⟩
      simp [AdministrativeStore.upsertOperation, hfresh, row]
    · refine Or.imp ?_ (ha id) (h.backed id r hold hx)
      rintro ⟨r', hr', hx'⟩
      exact ⟨r', AdministrativeStore.saveOperation_get?_ne _ hr' (OperationRow.scanning_iff.mp hx').2 hne, hx'⟩

end Scans

section Sharing

theorem Scans.move (hc : s.control.Coherent (some t) n) (hk : s.tasks.get? t = some task) (htab : s.Tabled)
    (hr : task.frame.role ≠ .closing) (h : s.Scans) (hm : Move G t task n s s') : s'.Scans := by
  have ha : ∀ id, s.Abandoned id → s'.Abandoned id := fun id hab => hab.move hm
  cases records_move hm with
  | same hops hs => exact h.of_same hops hs ha
  | mark status error now hop hrow hp hs he hb =>
    refine h.save hrow hp rfl rfl (fun hab => ?_) ha
    have hcancel : task.cancelled = true := by
      rcases hop with hop | ⟨-, -, d, hrec⟩
      · exact hab.cancelled t task hk hop
      · exact hab.unrecovering.cancelled htab hk (d := d) (by simp [hrec, Role.recovers])
    rw [(hb hcancel).1]
    rfl
  | create d now hrec hlive =>
    exact h.create hc.stored .reconnect (some d) now (fun hx => by cases hx) ha
  | interrupt now hclosing => exact absurd hclosing hr

theorem Scans.park (hk : s.tasks.get? t = some task) (htab : s.Tabled) (h : s.Scans) (hp : Park G t task n s s') :
    s'.Scans := by
  have hm : s'.operations = s.operations := by cases hp <;> rfl
  have hs : s'.store = s.store := by cases hp <;> rfl
  exact h.of_same hm (by rw [hs]) (fun id hab => hab.park htab hk hp)

def scanGuards : Guards where
  scan rows := ∀ id row, rows.get? id = some row → row.scanning = false

theorem Scans.request (hc : s.Coherent) (h : s.Scans) (hr : Request scanGuards s s') : s'.Scans := by
  have ha : ∀ id, s.Abandoned id → s'.Abandoned id := fun id hab => hab.request hr
  rcases rows_request hr with ⟨hm, hs⟩ | ⟨hopen, kind, device, now, hm, hs, hg⟩
  · exact h.of_same hm hs ha
  · have hnever : ∀ id, ¬ s.Abandoned id := by
      intro id hab
      cases hopen.symm.trans hab.unrecovering.closing
    have hnew : (s.newOperation kind device now).Scans :=
      h.create hc.stored kind device now hg (fun id hab => absurd hab (hnever id))
    refine hnew.of_same hm hs (fun id hab => ?_)
    exact absurd (hopen.symm.trans hab.unrecovering.closing) (by simp)

theorem Winds.scans (hw : Winds t s s') (htab : s'.Tabled) (h : s.Scans) : s'.Scans := by
  have hdrained : s'.Drained → ∀ id, s'.Abandoned id :=
    fun hd id => ⟨hd.toUnrecovering, fun u k hu hop => hd.cancelled htab hu hop⟩
  rcases hw.store with hs | ⟨hd, -⟩
  · refine h.of_same hw.operations hs (fun id hab => ⟨hab.unrecovering.of_same hw.closing hw.recoveries,
      fun u k hu hop => ?_⟩)
    by_cases hut : u = t
    · subst hut
      rw [hw.self k hu] at hop
      cases hop
    · obtain ⟨old, hold, hfr, hcan⟩ := hw.tasks u k hut hu
      exact hcan (hab.cancelled u old hold (by rw [← hfr]; exact hop))
  · refine h.of_scanning (fun id r' hr' hx => ?_) (fun id _ _ _ _ => .inr (hdrained hd id))
      (fun id _ _ _ => .inr (hdrained hd id))
    obtain ⟨r, hr, rfl | ⟨-, hi, -⟩⟩ := hw.stored hr'
    · exact ⟨r', hr, hx, rfl⟩
    · cases hx.symm.trans hi.not_scanning

structure Sharing (x : Option TaskId) (s : Service) : Prop where
  tabled : s.Tabled
  shared : (∀ t k, x = some t → s.tasks.get? t = some k → k.frame.role ≠ .closing) → s.Stages ∧ s.Scans

theorem sharing_startDiscovery {boot : Service} (ht : boot.tasks = Dict.empty) (ho : boot.operations = Dict.empty)
    (now : Time) : (boot.startDiscovery now).Sharing none := by
  have hdisc : ∀ {u k}, (boot.startDiscovery now).tasks.get? u = some k → k = ⟨.discovery .starting, false⟩ :=
    get?_startDiscovery ht
  have hnone : ∀ id row, (boot.startDiscovery now).store.operations.get? id = some row → row.scanning = false := by
    intro id row hrow
    obtain ⟨r, -, ⟨rfl, hp⟩ | ⟨-, hi⟩⟩ := AdministrativeStore.get?_interruptOperations hrow
    · simp [OperationRow.scanning, hp]
    · exact hi.not_scanning
  have hempty : ∀ id row, (boot.startDiscovery now).operations.get? id ≠ some row := by
    intro id row hrow
    have hrow' : boot.operations.get? id = some row := hrow
    rw [ho] at hrow'
    cases hrow'
  refine ⟨fun u k d hk hx => ?_, fun _ => ⟨fun u k point hk hf => ?_, ?_⟩⟩
  · obtain rfl := hdisc hk
    cases hx
  · obtain rfl := hdisc hk
    cases hf
  · refine ⟨fun id id' row row' hrow _ hx _ => ?_, fun id row hrow hx => ?_,
      fun id row _ hrow => absurd hrow (hempty id row),
      fun id row hrow => absurd hrow (hempty id row)⟩
    · cases hx.symm.trans (hnone id row hrow)
    · cases hx.symm.trans (hnone id row hrow)

theorem preserved_sharing : PreservedAt scanGuards Sharing where
  begin _ _ h _ _ := ⟨h.tabled, fun _ => h.shared (fun _ _ hx => by cases hx)⟩
  move {t task n s s'} hc hk h hm := by
    refine ⟨h.tabled.move hm, fun hx => ?_⟩
    have hr : task.frame.role ≠ .closing := hx t task rfl (coherent_move hc hk hm).2
    obtain ⟨hst, hsc⟩ := h.shared (not_closing_self hk hr)
    exact ⟨hst.move hk h.tabled hm, hsc.move hc hk h.tabled hr hm⟩
  park {t task s m s' outcome now clock} hcs hk hj hs _ hc hk' _ h hp := by
    have htab := h.tabled.park hk' hp
    refine ⟨htab, fun _ => ?_⟩
    by_cases hr : task.frame.role = .closing
    · obtain ⟨hst, hsc⟩ := hj.shared (fun _ _ hx => by cases hx)
      have hlands : Lands t s s' := lands_resume hcs hst hk hr hs
      exact ⟨hlands.stages hst, hlands.winds.scans htab hsc⟩
    · obtain ⟨hst, hsc⟩ := h.shared (not_closing_self hk' hr)
      exact ⟨hst.park hr hk' hp, hsc.park hk' h.tabled hp⟩
  request hc h hr := by
    obtain ⟨hst, hsc⟩ := h.shared (fun _ _ hx => by cases hx)
    exact ⟨h.tabled.request hr, fun _ => ⟨hst.request hc hr, hsc.request hc hr⟩⟩
  restart {s} now _ _ := @sharing_startDiscovery s.successor rfl rfl now

end Sharing

section Results

/-- A request for a scan finds what is pending of them in the listing of the operations. -/
def Finds (s : Service) (a : Action) : Prop :=
  ∀ now, a = .startScan now → ∀ row ∈ s.store.operations.values, row.scanning = true → row ∈ s.store.recentOperations

instance (s : Service) (a : Action) : Decidable (s.Finds a) :=
  decidable_of_iff ((match a with
    | .startScan _ => true
    | _ => false) = true → ∀ row ∈ s.store.operations.values, row.scanning = true → row ∈ s.store.recentOperations) (by
    cases a <;> simp [Finds])

theorem Finds.promised {a : Action} (h : s.Finds a) : scanGuards.Promised s a where
  scan now ha hnone id row hrow := by
    by_contra hx
    rw [Bool.not_eq_false] at hx
    have hin := h now ha row (Dict.mem_values_iff.mpr ⟨id, hrow⟩) hx
    exact absurd hx (List.find?_eq_none.mp hnone row hin)

theorem Scans.startScan (h : s.Scans) {now : Time} (hl : s.Finds (.startScan now))
    (hrow : s.store.operations.get? id = some row)
    (hx : row.scanning = true) :
    s.startScan now = if s.closing then .error (.stateConflict "service is stopping") else .ok (s, row) := by
  have hin : row ∈ s.store.recentOperations := hl now rfl row (Dict.mem_values_iff.mpr ⟨id, hrow⟩) hx
  unfold Service.startScan
  congr 1
  cases hf : s.store.recentOperations.find? (fun row => row.kind = .scan && row.status.pending) with
  | none => exact absurd hx (List.find?_eq_none.mp hf row hin)
  | some found =>
    have hfx : found.scanning = true := List.find?_some hf
    obtain ⟨id', hfound⟩ := Dict.mem_values_iff.mp (mem_of_mem_newest (List.mem_of_find?_eq_some hf))
    obtain rfl := h.unique id' id found row hfound hrow hfx hx
    obtain rfl := Option.some.inj (hfound.symm.trans hrow)
    rfl

theorem concurrent_scans_share (h : Reaches Started step Finds s) :
    (∀ id id' row row', s.store.operations.get? id = some row → s.store.operations.get? id' = some row' →
      row.scanning = true → row'.scanning = true → id = id') ∧
    ∀ id row now, s.store.operations.get? id = some row → row.scanning = true → s.Finds (.startScan now) →
      row.operationId = id ∧
        s.startScan now = if s.closing then .error (.stateConflict "service is stopping") else .ok (s, row) := by
  have hj : s.Coherent ∧ s.Sharing none := by
    refine preserved_sharing.reaches (fun _ hs => hs) (fun boot now hb _ => ?_) (fun _ _ ha => ha.promised) h
    obtain ⟨settings, store, T, id, nextOperation, -, -, rfl⟩ := hb
    exact sharing_startDiscovery rfl rfl now
  have hs : s.Scans := (hj.2.shared (fun _ _ hx => by cases hx)).2
  exact ⟨hs.unique, fun id row now hrow hx hl => ⟨hs.named id row hrow hx, hs.startScan hl hrow hx⟩⟩

def scanAgain : List Action :=
  registerBoth ++ [.startScan 1, go 3, .startConnectionOperation "igrill-v202-b" .disconnect 2, .startScan 3]

theorem concurrent_scans_share_again : ∃ s row, replay step firstSession scanAgain = some s ∧
    s.store.operations.get? 0 = some row ∧ row.scanning = true ∧
    (∀ id id' row row', s.store.operations.get? id = some row → s.store.operations.get? id' = some row' →
      row.scanning = true → row'.scanning = true → id = id') ∧
    row.operationId = 0 ∧
      s.startScan 4 = if s.closing then .error (.stateConflict "service is stopping") else .ok (s, row) := by
  have hrun : (replayIf (fun s a => decide (s.Finds a)) step firstSession scanAgain).map (fun s =>
      (decide (s.Finds (.startScan 4)), (s.store.operations.get? 0).map OperationRow.scanning)) =
        some (true, some true) := by
    decide +kernel
  obtain ⟨s, hs, hf⟩ := Option.map_eq_some_iff.mp hrun
  simp only [Prod.mk.injEq, decide_eq_true_eq, Option.map_eq_some_iff] at hf
  obtain ⟨hl, row, hrow, hx⟩ := hf
  have hr : Reaches Started step Finds s :=
    .of_replayIf (fun _ _ => of_decide_eq_true) (.init firstSession_started) hs
  obtain ⟨hunique, hreturn⟩ := concurrent_scans_share hr
  exact ⟨s, row, replay_of_replayIf hs, hrow, hx, hunique, hreturn 0 row 4 hrow hx hl⟩

/-- A hundred finished operations of the last session; since then the clock has been set back. -/
def laterStore : AdministrativeStore where
  configVersion := 1
  configOverrides := Dict.empty
  secrets := Dict.empty
  administratorAuth := none
  devices := Dict.empty
  operations := {
    entries := (List.range 100).map (fun i => (i, ⟨i, .scan, none, .succeeded, 100 + i, 100 + i, none⟩))
    nodup := by decide +kernel }

def laterSession : Service := (create ⟨3, 30000000, 60000000⟩ laterStore .session 0 100 []).start 0

theorem laterSession_started : Started laterSession := by
  refine ⟨_, 0, ⟨⟨3, 30000000, 60000000⟩, laterStore, .session, 0, 100, ⟨_, _, _, _, _, _, _, _, _, rfl⟩, ?_, rfl⟩, rfl⟩
  intro id hid
  simpa [laterStore, Dict.keys, Function.comp_def] using hid

theorem not_concurrent_scans_share :
    ¬ ∀ s, Reachable Started step s →
      (∀ id id' row row', s.store.operations.get? id = some row → s.store.operations.get? id' = some row' →
        row.scanning = true → row'.scanning = true → id = id') ∧
      ∀ id row now, s.store.operations.get? id = some row → row.scanning = true → row.operationId = id ∧
        s.startScan now = if s.closing then .error (.stateConflict "service is stopping") else .ok (s, row) := by
  intro hall
  have hrun : (replay step laterSession [.startScan 1, .startScan 2]).map (fun s =>
      ((s.store.operations.get? 100).map OperationRow.scanning,
        (s.store.operations.get? 101).map OperationRow.scanning)) =
      some (some true, some true) := by decide +kernel
  obtain ⟨s, hs, hf⟩ := Option.map_eq_some_iff.mp hrun
  simp only [Prod.mk.injEq, Option.map_eq_some_iff] at hf
  obtain ⟨⟨row, hrow, hx⟩, row', hrow', hx'⟩ := hf
  have hr : Reachable Started step s := .of_replay (.init laterSession_started) hs
  exact absurd ((hall s hr).1 100 101 row row' hrow hrow' hx hx') (by decide)

end Results

end Service

end PitbluCore
