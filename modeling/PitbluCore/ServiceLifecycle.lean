import PitbluCore.ServiceShutdown

namespace PitbluCore

open Library Relation OperationRow

namespace Service

variable {G : Guards} {s s' : Service} {t : TaskId} {task : Task} {n : OperationId}

section Rows

theorem nextOperation_move (hm : Move G t task n s s') : s.nextOperation ≤ s'.nextOperation := by
  cases hm with
  | quiet hq => exact (congrArg Control.nextOperation hq.control).ge
  | create => exact Nat.le_succ _
  | mark =>
    unfold markOperation
    split <;> exact le_rfl
  | event =>
    unfold scheduleEvent
    split <;> exact le_rfl
  | scheduleRecovery =>
    unfold scheduleRecovery
    split <;> exact le_rfl
  | startPolling =>
    unfold startPolling
    dsimp only
    split <;> exact le_rfl
  | _ => exact le_rfl

theorem nextOperation_request (hr : Request G s s') : s.nextOperation ≤ s'.nextOperation := by
  cases hr with
  | quiet hq => exact (congrArg Control.nextOperation hq.control).ge
  | startScan | accept => exact Nat.le_succ _
  | adopt =>
    unfold scheduleRecovery
    split <;> exact le_rfl
  | _ => exact le_rfl

variable {rows : Dict OperationId OperationRow}

def Older (rows : Dict OperationId OperationRow) (s : Service) : Prop :=
  ∀ id row, rows.get? id = some row → id < s.nextOperation

theorem Older.mono (h : Older rows s) (hn : s.nextOperation ≤ s'.nextOperation) : Older rows s' :=
  fun id row hrow => (h id row hrow).trans_le hn

theorem Tracks.moves {m : Service} (hc : s.Coherent) (hk : s.tasks.get? t = some task) (hr : task.frame.role ≠ .closing)
    (hn : Older rows s) (htab : s.Tabled) (h : Tracks rows s) (hm : ReflTransGen (Move G t task s.nextOperation) s m) :
    Older rows m ∧ m.Tabled ∧ Tracks rows m := by
  induction hm with
  | refl => exact ⟨hn, htab, h⟩
  | tail hms hm ih =>
    obtain ⟨hn', htab', h'⟩ := ih
    have hk' := (coherent_moves hc hk hms).2
    exact ⟨hn'.mono (nextOperation_move hm), htab'.move hm, h'.move hn' hk' htab' hr hm⟩

theorem Tracks.requests (hn : Older rows s) (h : Tracks rows s) (hr : ReflTransGen (Request G) s s') :
    Older rows s' ∧ Tracks rows s' := by
  induction hr with
  | refl => exact ⟨hn, h⟩
  | tail _ hr ih => exact ⟨ih.1.mono (nextOperation_request hr), ih.2.request ih.1 hr⟩

theorem older_stored (hc : s.Coherent) : Older s.store.operations s := hc.stored

theorem tracks_successor (now : Time) : Tracks s.store.operations (s.successor.startDiscovery now) := by
  refine ⟨fun id row row' hrow hrow' => ?_, fun id row row' _ hrow' => ?_⟩
  · have hi : (s.store.interruptOperations now).operations.get? id = some row' := hrow'
    obtain ⟨r, hr, hx⟩ := AdministrativeStore.get?_interruptOperations hi
    obtain rfl : row = r := Option.some.inj (hrow.symm.trans hr)
    rcases hx with ⟨rfl, -⟩ | ⟨hp, hi⟩
    · exact .of_same rfl rfl
    · exact becomes_of_pending hp (by rw [hi.1]; simp)
  · cases hrow'

theorem becomes_evolves (hc : s.Coherent) (h : s.Lifecycle none) (he : Evolves G s s') {id : OperationId}
    {row row' : OperationRow} (hrow : s.store.operations.get? id = some row)
    (hrow' : s'.store.operations.get? id = some row') : row.Becomes row' := by
  have hM : s.Managed := h.managed (fun _ _ hx => by cases hx)
  cases he with
  | @segment t task _ _ _ hk hs hG hseg =>
    by_cases hr : task.frame.role = .closing
    · have hlands : Lands t s s' := lands_resume hc hM.stages hk hr hs
      obtain ⟨r, hr', hx⟩ := hlands.winds.stored hrow'
      obtain rfl : row = r := Option.some.inj (hrow.symm.trans hr')
      rcases hx with rfl | ⟨hp, hi, -⟩
      · exact .of_same rfl rfl
      · exact becomes_of_pending hp (by rw [hi.1]; simp)
    · obtain ⟨m, hm, hp⟩ := hseg
      obtain ⟨-, htab, h'⟩ := hM.mirrored.moves hc hk hr (older_stored hc) h.tabled hm
      exact (h'.park (coherent_moves hc hk hm).2 htab hp).stored id row row' hrow hrow'
  | request hr => exact (hM.mirrored.requests (older_stored hc) hr).2.stored id row row' hrow hrow'
  | restart now hr =>
    have hstart : Older s.store.operations (s.successor.startDiscovery now) := hc.stored
    exact ((tracks_successor now).requests hstart hr).2.stored id row row' hrow hrow'

end Rows

section Closed

/-- What `close` means to leave: no operation that has not ended, and no task that could go on with one or begin one. -/
structure Quiescent (s : Service) : Prop where
  rows : ∀ id row, s.store.operations.get? id = some row → row.status.pending = false
  tasks : ∀ u k, s.tasks.get? u = some k → k.frame.role.operation = none ∧ k.frame.role.tends = false

theorem Settled.quiescent (h : s.Settled) (hw : s.Within Role.tends []) : s.Quiescent := by
  have htends : ∀ u k, s.tasks.get? u = some k → k.frame.role.tends = false :=
    fun u k hk => Bool.eq_false_iff.mpr (fun hx => by cases hw u k hk hx)
  refine ⟨h.rows, fun u k hk => ⟨Option.eq_none_iff_forall_ne_some.mpr (fun id hop => ?_), htends u k hk⟩⟩
  have hreq := h.requests u k hk
  have htends := htends u k hk
  generalize k.frame.role = r at hop hreq htends
  cases r with
  | procedure call =>
    cases hr : call.recovering with
    | true => cases hr.symm.trans htends
    | false => cases hreq (by simp [Role.requested, hr])
  | scan => cases hreq rfl
  | _ => cases hop

end Closed

section Collected

variable {f : Role → Bool} {ts : List TaskId} {point : ClosePoint}

def collectionGuards : Guards where
  takeRecoveries c := c.closed = false →
    ∀ u k, c.tasks.get? u = some k → k.cancelled = true → k.frame.role.restores = false
  takePolling c := c.closed = false →
    ∀ u k, c.tasks.get? u = some k → k.cancelled = true → k.frame.role.monitors = false

def Gathers (s : Service) : ClosePoint → Prop
  | .stoppingDiscovery _ | .stoppingOperations _ => True
  | .stoppingRecoveries ts => s.Within Role.restores ts
  | .stoppingPolling ts => s.Within Role.tends ts
  | .stoppingRemaining _ | .disconnecting => s.Within Role.tends []

theorem Gathers.imp (h : s.Gathers point) (hst : s.Stage point)
    (hw : s.Drained → ∀ f ts, Role.Assigned f → (∀ r, f r = true → r.tends = true) → s.Within f ts → s'.Within f ts) :
    s'.Gathers point := by
  cases point with
  | stoppingDiscovery | stoppingOperations => trivial
  | stoppingRecoveries => exact hw hst _ _ Role.assigned_restores (fun _ => Role.tends_of_restores) h
  | stoppingPolling | stoppingRemaining => exact hw (Emptied.toDrained hst) _ _ Role.assigned_tends (fun _ => id) h
  | disconnecting => exact hw (Settled.toEmptied hst).toDrained _ _ Role.assigned_tends (fun _ => id) h

theorem Drained.within_move (h : s.Drained) (htab : s.Tabled) (hk : s.tasks.get? t = some task)
    (hf : ∀ r, f r = true → r.tends = true) (hw : s.Within f ts) (hm : Move G t task n s s') : s'.Within f ts := by
  refine hw.arises (arises_move hm) (fun fr hfr => Bool.eq_false_iff.mpr (fun hx => ?_))
  have htends := hf _ hx
  cases hfr with
  | event => cases htends
  | recovery _ _ _ hwant => cases hwant.1.symm.trans h.closing
  | polling hexec _ hlive => cases hlive.symm.trans (h.not_executes htab hk hexec)

theorem Drained.within_request (h : s.Drained) (hf : ∀ r, f r = true → r.tends = true) (hw : s.Within f ts)
    (hr : Request G s s') : s'.Within f ts := by
  refine hw.arises (arises_request hr) (fun fr hfr => Bool.eq_false_iff.mpr (fun hx => ?_))
  have htends := hf _ hx
  cases hfr with
  | recovery _ hwant => cases hwant.1.symm.trans h.closing
  | _ => cases htends

structure Collected (s : Service) : Prop where
  stages : ∀ u k point, s.tasks.get? u = some k → k.frame = .closing point → s.Gathers point
  closed : s.closed = true → s.Within Role.tends []

theorem Collected.move (h : s.Collected) (hM : s.Managed) (hr : task.frame.role ≠ .closing) (htab : s.Tabled)
    (hk : s.tasks.get? t = some task) (hm : Move G t task n s s') : s'.Collected := by
  refine ⟨fun u k point hu hf => ?_, fun hc => ?_⟩
  · obtain ⟨old, hold, hf⟩ := closing_of_move hm hu hf
    exact (h.stages u old point hold hf).imp (hM.stages u old point hold hf)
      (fun hd _ _ _ ht hw => hd.within_move htab hk ht hw hm)
  · rw [(closed_move hm).resolve_right (fun hx => hr hx.1)] at hc
    exact (hM.closed hc).toDrained.within_move htab hk (fun _ => id) (h.closed hc) hm

theorem Collected.park (h : s.Collected) (hM : s.Managed) (hr : task.frame.role ≠ .closing)
    (hk : s.tasks.get? t = some task) (hp : Park G t task n s s') : s'.Collected := by
  refine ⟨fun u k point hu hf => ?_, fun hc => ?_⟩
  · obtain ⟨old, hold, hf⟩ := closing_of_park hr hp hu hf
    exact (h.stages u old point hold hf).imp (hM.stages u old point hold hf) (fun _ _ _ ha _ hw => hw.park ha hk hp)
  · rw [closed_park hp] at hc
    exact (h.closed hc).park Role.assigned_tends hk hp

theorem Collected.request (h : s.Collected) (hM : s.Managed) (hr : Request G s s') : s'.Collected := by
  refine ⟨fun u k point hu hf => ?_, fun hc => ?_⟩
  · rcases closing_of_request hr hu hf with ⟨v, rfl⟩ | ⟨old, hold, hf⟩
    · trivial
    · exact (h.stages u old point hold hf).imp (hM.stages u old point hold hf)
        (fun hd _ _ _ ht hw => hd.within_request ht hw hr)
  · rw [closed_request hr] at hc
    exact (hM.closed hc).toDrained.within_request (fun _ => id) (h.closed hc) hr

theorem within_recoveries (htab : s.Tabled)
    (h : ∀ u k, s.tasks.get? u = some k → k.cancelled = true → k.frame.role.restores = false) :
    s.Within Role.restores s.recoveries.values := by
  intro u k hk hr
  obtain ⟨d, hd⟩ := Role.restores_iff.mp hr
  refine Dict.mem_values_iff.mpr ⟨d, htab u k d hk hd (Bool.eq_false_iff.mpr (fun hc => ?_))⟩
  cases (h u k hk hc).symm.trans hr

theorem within_polling (henr : s.Enrolled)
    (h : ∀ u k, s.tasks.get? u = some k → k.cancelled = true → k.frame.role.monitors = false) :
    s.Within Role.monitors s.pollingTasks.values := by
  intro u k hk hr
  obtain ⟨d, hd⟩ := Role.monitors_iff.mp hr
  refine Dict.mem_values_iff.mpr ⟨d, henr u k d hk hd (Bool.eq_false_iff.mpr (fun hc => ?_))⟩
  cases (h u k hk hc).symm.trans hr

theorem Within.tends (hr : s.Within Role.restores []) (hp : s.Within Role.monitors ts) : s.Within Role.tends ts := by
  intro u k hk hx
  rcases Role.restores_or_monitors hx with hx | hx
  · cases hr u k hk hx
  · exact hp u k hk hx

theorem Within.gathers (h : s.Within Role.tends []) : s.Gathers point := by
  have hall : ∀ f ts, (∀ r, f r = true → r.tends = true) → s.Within f ts :=
    fun f ts hf u k hk hx => by cases h u k hk (hf _ hx)
  cases point with
  | stoppingDiscovery | stoppingOperations => trivial
  | stoppingRecoveries => exact hall _ _ (fun _ => Role.tends_of_restores)
  | _ => exact hall _ _ (fun _ => id)

def Turns (t : TaskId) (s s' : Service) : Prop :=
  ∀ k point, s'.tasks.get? t = some k → k.frame = .closing point → s.Gathers point

theorem turns_suspend {m : Service} (h : s.Gathers point) : Turns t s (m.suspend t (.closing point)) := by
  intro k point' hk hf
  rcases get?_suspend hk with ⟨-, old, -, rfl⟩ | ⟨hne, -⟩
  · cases hf
    exact h
  · exact absurd rfl hne

theorem turns_closeAdapter (h : s.Within Role.tends []) (now : Time) : Turns t s (s.closeAdapter t now) := by
  unfold closeAdapter
  dsimp only
  split <;> exact turns_suspend h

theorem turns_closeRemaining (h : s.Within Role.tends []) (now : Time) : Turns t s (s.closeRemaining t now) := by
  unfold closeRemaining
  dsimp only
  split
  · exact turns_closeAdapter h now
  · exact turns_suspend h

theorem turns_closePolling (hr : s.Within Role.restores []) (hp : s.Within Role.monitors s.pollingTasks.values)
    (now : Time) : Turns t s (s.closePolling t now) := by
  have h := hr.tends hp
  unfold closePolling
  dsimp only
  split
  · rename_i hnil
    rw [hnil] at h ⊢
    exact turns_closeRemaining (s := { s with pollingTasks := Dict.empty }) h now
  · exact turns_suspend h

theorem turns_closeRecoveries (hr : s.Within Role.restores s.recoveries.values)
    (hp : s.recoveries.values = [] → s.Within Role.monitors s.pollingTasks.values) (now : Time) :
    Turns t s (s.closeRecoveries t now) := by
  unfold closeRecoveries
  dsimp only
  split
  · rename_i hnil
    rw [hnil] at hr ⊢
    exact turns_closePolling (s := { s with recoveries := Dict.empty }) hr (hp hnil) now
  · exact turns_suspend hr

theorem turns_resumeClosing {outcome : Outcome} {now : Time} {a : Action} (h : s.Gathers point)
    (ha : s.acting a = some (.closing point))
    (hr : s.takesRecoveries a = true → s.Within Role.restores s.recoveries.values)
    (hp : s.takesPolling a = true → s.Within Role.monitors s.pollingTasks.values)
    (hs : s.resumeClosing t point outcome now = some s') : Turns t s s' := by
  unfold resumeClosing at hs
  split at hs
  case h_1 =>
    split at hs <;> cases hs
    unfold closeOperations
    dsimp only
    split
    · rename_i hnil
      have htakes : s.takesRecoveries a = true := by simp [takesRecoveries, ha, hnil]
      exact turns_closeRecoveries (hr htakes) (fun hn => hp (by simp [takesPolling, ha, htakes, hn])) now
    · exact turns_suspend trivial
  case h_2 =>
    split at hs <;> cases hs
    have htakes : s.takesRecoveries a = true := by simp [takesRecoveries, ha]
    exact turns_closeRecoveries (hr htakes) (fun hn => hp (by simp [takesPolling, ha, htakes, hn])) now
  case h_3 =>
    split at hs <;> cases hs
    rename_i he
    exact turns_closePolling (Within.ended Role.assigned_restores h he) (hp (by simp [takesPolling, ha])) now
  case h_4 =>
    split at hs <;> cases hs
    rename_i he
    exact turns_closeRemaining (Within.ended Role.assigned_tends h he) now
  case h_5 =>
    split at hs <;> cases hs
    exact turns_closeAdapter h now
  case h_6 =>
    cases hs
    intro k point hk _
    exact absurd rfl (get?_endTask hk).1
  case h_7 => cases hs

theorem Winds.gathers (hw : Winds t s s') (h : s.Gathers point) : s'.Gathers point := by
  cases point with
  | stoppingDiscovery | stoppingOperations => trivial
  | stoppingRecoveries => exact hw.within Role.assigned_restores h
  | _ => exact hw.within Role.assigned_tends h

structure Collecting (x : Option TaskId) (s : Service) : Prop extends Lifecycle x s where
  enrolled : s.Enrolled
  collected : (∀ t k, x = some t → s.tasks.get? t = some k → k.frame.role ≠ .closing) → s.Collected

theorem Collecting.resumeClosing (h : s.Collecting none) (hc : s.Coherent) {outcome : Outcome} {now clock : Time}
    (hk : s.tasks.get? t = some task) (hr : task.frame.role = .closing)
    (hG : collectionGuards.Promised s (.resume t outcome now clock)) (hs : s.resume t outcome now clock = some s') :
    s'.Collected := by
  obtain ⟨point, hf, hlive, hs'⟩ := resumeClosing_of_resume hk hr hs
  have hM := h.managed (fun _ _ hx => by cases hx)
  have hC := h.collected (fun _ _ hx => by cases hx)
  have hw : Winds t s s' := (lands_resume hc hM.stages hk hr hs).winds
  have hact : s.acting (.resume t outcome now clock) = some (.closing point) := by simp [acting, hk, hlive, hf]
  have hturns : Turns t s s' := by
    by_cases hcl : s.closed = true
    · exact fun _ _ _ _ => (hC.closed hcl).gathers
    · have hopen : s.closed = false := by simpa using hcl
      exact turns_resumeClosing (hC.stages t task point hk hf) hact
        (fun ht => within_recoveries h.tabled (hG.takeRecoveries ht hopen))
        (fun ht => within_polling h.enrolled (hG.takePolling ht hopen)) hs'
  refine ⟨fun u k p hu hp => hw.gathers ?_, fun hcl => hw.within Role.assigned_tends ?_⟩
  · by_cases hut : u = t
    · subst hut
      exact hturns k p hu hp
    · obtain ⟨old, hold, hfr, -⟩ := hw.tasks u k hut hu
      exact hC.stages u old p hold (hfr.symm.trans hp)
  · rcases closed_resumeClosing hs' with he | rfl
    · exact hC.closed (he ▸ hcl)
    · exact hC.stages t task _ hk hf

theorem collecting_startDiscovery {boot : Service} (ht : boot.tasks = Dict.empty) (hc : boot.closed = false)
    {now : Time} (h : (boot.startDiscovery now).Lifecycle none) : (boot.startDiscovery now).Collecting none := by
  have hdisc : ∀ {u k}, (boot.startDiscovery now).tasks.get? u = some k → k = ⟨.discovery .starting, false⟩ :=
    get?_startDiscovery ht
  refine ⟨h, fun u k d hk hx => ?_, fun _ => ⟨fun u k point hk hf => ?_, fun hcl => ?_⟩⟩
  · obtain rfl := hdisc hk
    cases hx
  · obtain rfl := hdisc hk
    cases hf
  · cases hc.symm.trans hcl

theorem preserved_collecting : PreservedAt collectionGuards Collecting where
  begin hc hk h hs hG :=
    ⟨preserved_lifecycle.begin hc hk h.toLifecycle hs hG, h.enrolled, fun _ => h.collected (fun _ _ hx => by cases hx)⟩
  move {t task n s s'} hc hk h hm := by
    refine ⟨preserved_lifecycle.move hc hk h.toLifecycle hm, h.enrolled.move hm, fun hx => ?_⟩
    have hr : task.frame.role ≠ .closing := hx t task rfl (coherent_move hc hk hm).2
    have hself := not_closing_self hk hr
    exact (h.collected hself).move (h.managed hself) hr h.tabled hk hm
  park {t task s m s' outcome now clock} hcs hk hj hs hG hc hk' hms h hp := by
    refine ⟨preserved_lifecycle.park hcs hk hj.toLifecycle hs hG hc hk' hms h.toLifecycle hp, h.enrolled.park hk' hp,
      fun _ => ?_⟩
    by_cases hr : task.frame.role = .closing
    · exact hj.resumeClosing hcs hk hr hG hs
    · have hself := not_closing_self hk' hr
      exact (h.collected hself).park (h.managed hself) hr hk' hp
  request hc h hr :=
    ⟨preserved_lifecycle.request hc h.toLifecycle hr, h.enrolled.request hr, fun _ =>
      (h.collected (fun _ _ hx => by cases hx)).request (h.managed (fun _ _ hx => by cases hx)) hr⟩
  restart {s} now hc h := by
    have hstart : (s.successor.startDiscovery now).Lifecycle none :=
      (preserved_lifecycle (G := {})).restart now hc h.toLifecycle
    exact collecting_startDiscovery rfl rfl hstart

end Collected

section Results

def StartedProper (s : Service) : Prop :=
  ∃ boot now, Booted boot ∧ (∀ id row, boot.store.operations.get? id = some row → row.Proper) ∧ s = boot.start now

/-- Where `close` takes a table over, no recovery (poll) that was taken out of it before is left. -/
structure Collects (s : Service) (a : Action) : Prop where
  recoveries : s.takesRecoveries a = true → s.closed = false →
    ∀ u k, s.tasks.get? u = some k → k.cancelled = true → k.frame.role.restores = false
  polls : s.takesPolling a = true → s.closed = false →
    ∀ u k, s.tasks.get? u = some k → k.cancelled = true → k.frame.role.monitors = false

instance (s : Service) (a : Action) : Decidable (s.Collects a) :=
  decidable_of_iff ((s.takesRecoveries a = true → s.closed = false →
      ∀ k ∈ s.tasks.values, k.cancelled = true → k.frame.role.restores = false) ∧
    (s.takesPolling a = true → s.closed = false →
      ∀ k ∈ s.tasks.values, k.cancelled = true → k.frame.role.monitors = false)) (by
    simp only [Dict.forall_values_iff]
    exact ⟨fun h => ⟨h.1, h.2⟩, fun h => ⟨h.recoveries, h.polls⟩⟩)

theorem Collects.promised {a : Action} (h : s.Collects a) : collectionGuards.Promised s a where
  takeRecoveries := h.recoveries
  takePolling := h.polls

theorem StartedProper.boot (h : StartedProper s) :
    ∃ boot now, Booted boot ∧ (boot.startDiscovery now).Lifecycle none ∧ boot.tasks = Dict.empty ∧ boot.closed = false ∧
      s = boot.start now := by
  obtain ⟨boot, now, hb, hp, rfl⟩ := h
  have hb' := hb
  obtain ⟨settings, store, T, id, nextOperation, -, -, rfl⟩ := hb'
  exact ⟨_, now, hb, lifecycle_startDiscovery rfl rfl rfl hp now, rfl, rfl, rfl⟩

theorem collecting_of_reaches (h : Reaches StartedProper step Collects s) : s.Coherent ∧ s.Collecting none := by
  refine preserved_collecting.reaches_of (fun s hs => ?_) (fun _ _ ha => ha.promised) h
  obtain ⟨boot, now, hb, hl, ht, hc, rfl⟩ := hs.boot
  exact ⟨boot, now, hb, collecting_startDiscovery ht hc hl, rfl⟩

theorem collects_of_closed {a : Action} (h : s.closed = true) : s.Collects a :=
  ⟨fun _ hc => (by cases hc.symm.trans h), fun _ hc => (by cases hc.symm.trans h)⟩

theorem quiescent_of_reaches (h : Reaches StartedProper step Collects s) (hc : s.closed = true) : s.Quiescent := by
  obtain ⟨-, hl⟩ := collecting_of_reaches h
  exact ((hl.managed (fun _ _ hx => by cases hx)).closed hc).quiescent
    ((hl.collected (fun _ _ hx => by cases hx)).closed hc)

theorem operation_life_cycle (h : Reachable StartedProper step s) :
    (∀ a s' id row row', s.step a = some s' → s.store.operations.get? id = some row →
      s'.store.operations.get? id = some row' → row.Becomes row') ∧
    (∀ id row, s.store.operations.get? id = some row → (row.errorCode = none ↔ row.status ≠ .failed)) ∧
    (s.closed = true → (∀ id row, s.store.operations.get? id = some row → row.status.pending = false) ∧
      ∀ a s', (∀ now, a ≠ .restart now) → s.step a = some s' → s'.closed = true) ∧
    (Reaches StartedProper step Collects s → s.closed = true → s.Quiescent ∧
      ∀ a s', (∀ now, a ≠ .restart now) → s.step a = some s' → s'.Quiescent) := by
  have hj : s.Coherent ∧ s.Lifecycle none := by
    refine (preserved_lifecycle (G := {})).reaches_of (fun s hs => ?_) (fun _ _ _ => {}) h
    obtain ⟨boot, now, hb, hl, -, -, rfl⟩ := hs.boot
    exact ⟨boot, now, hb, hl, rfl⟩
  obtain ⟨hc, hl⟩ := hj
  refine ⟨fun a s' id row row' hs hrow hrow' => ?_, hl.proper, fun hclosed => ⟨?_, fun a s' ha hs => ?_⟩,
    fun hr hclosed => ⟨quiescent_of_reaches hr hclosed, fun a s' ha hs => ?_⟩⟩
  · exact becomes_evolves hc hl (evolves_step (G := {}) hc {} hs) hrow hrow'
  · exact ((hl.managed (fun _ _ hx => by cases hx)).closed hclosed).rows
  · exact closed_step hc ha hs hclosed
  · exact quiescent_of_reaches (hr.step (collects_of_closed hclosed) hs) (closed_step hc ha hs hclosed)

def closeScanning : List Action :=
  connectFirst ++ [go 4, go 4, .startScan 0, .close, go 0, go 7, go 5, go 6, go 7, go 4, go 7, go 7]

theorem firstSession_proper : StartedProper firstSession := by
  refine ⟨_, 0, ⟨⟨3, 30000000, 60000000⟩, .create, .session, 0, 0, ?_, ?_, rfl⟩, ?_, rfl⟩
  · exact ⟨_, _, _, _, _, _, _, _, _, rfl⟩
  · intro id hid
    cases hid
  · intro id row hrow
    cases hrow

theorem operation_life_cycle_scanning :
    ∃ s, replay step firstSession closeScanning = some s ∧ s.closed = true ∧
      (∀ a s' id row row', s.step a = some s' → s.store.operations.get? id = some row →
        s'.store.operations.get? id = some row' → row.Becomes row') ∧
      (∀ id row, s.store.operations.get? id = some row → (row.errorCode = none ↔ row.status ≠ .failed)) ∧
      (∀ id row, s.store.operations.get? id = some row → row.status.pending = false) ∧ s.Quiescent ∧
      ∀ a s', (∀ now, a ≠ .restart now) → s.step a = some s' → s'.closed = true ∧ s'.Quiescent := by
  have hrun : (replayIf (fun s a => decide (s.Collects a)) step firstSession closeScanning).map Service.closed =
      some true := by decide +kernel
  obtain ⟨s, hs, hclosed⟩ := Option.map_eq_some_iff.mp hrun
  have hr : Reaches StartedProper step Collects s :=
    .of_replayIf (fun _ _ => of_decide_eq_true) (.init firstSession_proper) hs
  obtain ⟨hbecomes, hcode, hpending, hquiet⟩ :=
    operation_life_cycle (.of_replay (.init firstSession_proper) (replay_of_replayIf hs))
  refine ⟨s, replay_of_replayIf hs, hclosed, hbecomes, hcode, (hpending hclosed).1, (hquiet hr hclosed).1,
    fun a s' ha hs' => ⟨(hpending hclosed).2 a s' ha hs', (hquiet hr hclosed).2 a s' ha hs'⟩⟩

/-- A deletion has cancelled the recovery attempt, which is still in `connect` when `close` returns. -/
def closeDeleting : List Action :=
  recoverFirst.dropLast ++ [.deleteDevice "igrill-v202-a" 0, go 5, .close, go 0, go 8, go 8]

theorem not_operation_life_cycle :
    ¬ ∀ s, Reachable StartedProper step s →
      (∀ a s' id row row', s.step a = some s' → s.store.operations.get? id = some row →
        s'.store.operations.get? id = some row' → row.Becomes row') ∧
      (∀ id row, s.store.operations.get? id = some row → (row.errorCode = none ↔ row.status ≠ .failed)) ∧
      (s.closed = true → s.Quiescent ∧ ∀ a s', (∀ now, a ≠ .restart now) → s.step a = some s' → s'.Quiescent) := by
  intro hall
  have hrun : (replay step firstSession closeDeleting).map (fun s =>
      (s.closed, (s.tasks.get? 6).map (fun k => k.frame.role.operation))) =
        some (true, some (some 1)) := by decide +kernel
  obtain ⟨s, hs, hf⟩ := Option.map_eq_some_iff.mp hrun
  have hr : Reachable StartedProper step s := .of_replay (.init firstSession_proper) hs
  simp only [Prod.mk.injEq, Option.map_eq_some_iff] at hf
  obtain ⟨hclosed, k, hk, hop⟩ := hf
  cases hop.symm.trans (((hall s hr).2.2 hclosed).1.tasks 6 k hk).1

end Results

end Service

end PitbluCore
