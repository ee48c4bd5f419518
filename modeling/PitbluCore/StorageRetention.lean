import Mathlib.Data.List.Induction
import PitbluCore.Library.Newest
import PitbluCore.Storage

namespace PitbluCore

open Library

inductive OperationCall
  | save (row : OperationRow)
  | interrupt (timestamp : Time)

def OperationCall.concerns (id : OperationId) (r : OperationRow) : OperationCall → Prop
  | .save row => id = row.operationId
  | .interrupt _ => r.status.pending = true

namespace AdministrativeStore

/-- The rows a call writes, before a save prunes. -/
def written (S : AdministrativeStore) : OperationCall → AdministrativeStore
  | .save row => S.upsertOperation row
  | .interrupt timestamp => S.interruptOperations timestamp

def called (S : AdministrativeStore) : OperationCall → AdministrativeStore
  | .save row => S.saveOperation row
  | .interrupt timestamp => S.interruptOperations timestamp

def history (calls : List OperationCall) : AdministrativeStore := calls.foldl called create

def distinctCreation (calls : List OperationCall) : Prop :=
  ∀ row row', .save row ∈ calls → .save row' ∈ calls → row.operationId ≠ row'.operationId →
    row.createdAt ≠ row'.createdAt

structure Retains (S : AdministrativeStore) (c : OperationCall) : Prop where
  writes : ∀ id r, S.operation id = some r → ((S.written c).operation id).isSome
  pending_kept : ∀ id r, S.operation id = some r → r.status.pending = true → (S.called c).operation id = none →
    ∃ row, c = .save row ∧ row.operationId = id ∧ row.status.pending = false
  removed_old : ∀ id r, (S.written c).operation id = some r → (S.called c).operation id = none →
    r.status.pending = false ∧ 100 ≤ (later OperationRow.createdAt r.createdAt (S.called c).operations.values).length
  recent : ∀ row, c = .save row → ∀ id r, (S.called c).operation id = some r → r.status.pending = false →
    (later OperationRow.createdAt r.createdAt (S.called c).operations.values).length < 100
  finished_le : ∀ row, c = .save row →
    ((S.called c).operations.values.filter (fun r => !r.status.pending)).length ≤ 100
  fixed : ∀ id r r', S.operation id = some r → (S.called c).operation id = some r' →
    r'.kind = r.kind ∧ r'.deviceId = r.deviceId ∧ r'.createdAt = r.createdAt
  status : ∀ id r r', S.operation id = some r → (S.called c).operation id = some r' → r'.status ≠ r.status →
    c.concerns id r

section Recorded

def Recorded (calls : List OperationCall) (S : AdministrativeStore) : Prop :=
  ∀ id r, S.operation id = some r →
    r.operationId = id ∧ ∃ row, .save row ∈ calls ∧ row.operationId = id ∧ row.createdAt = r.createdAt

variable {S : AdministrativeStore} {calls : List OperationCall} {id : OperationId} {row r r' : OperationRow}

theorem operation_upsertOperation :
    (S.upsertOperation row).operation id = if id = row.operationId then
      some ((S.operation id).elim row (fun old =>
        { old with status := row.status, updatedAt := row.updatedAt, errorCode := row.errorCode }))
    else S.operation id := by
  simp only [upsertOperation, operation, Dict.get?_set]
  split
  · rename_i hid
    subst hid
    cases S.operations.get? row.operationId <;> rfl
  · rfl

theorem operation_pruneOperations :
    S.pruneOperations.operation id = if (S.operations.get? id).any (fun r => r.status.pending) ||
      decide (id ∈ S.recentOperations.map OperationRow.operationId) then S.operation id else none := by
  simp only [pruneOperations, operation, Dict.get?_filterKeys]

theorem operation_interruptOperations (timestamp : Time) :
    (S.interruptOperations timestamp).operation id = (S.operation id).map (fun r =>
      if r.status.pending then { r with status := .failed, errorCode := some .interrupted, updatedAt := timestamp }
      else r) := by
  simp only [interruptOperations, operation, Dict.get?_mapValues]

theorem operation_of_pruneOperations (h : S.pruneOperations.operation id = some r) : S.operation id = some r := by
  rw [operation_pruneOperations] at h
  split at h
  · exact h
  · cases h

theorem called_le_written {c : OperationCall} (h : (S.called c).operation id = some r) :
    (S.written c).operation id = some r := by
  cases c with
  | save row => exact operation_of_pruneOperations h
  | interrupt timestamp => exact h

theorem written_of_stored (c : OperationCall) (h : S.operation id = some r) :
    ∃ r', (S.written c).operation id = some r' ∧
      (r'.operationId = r.operationId ∧ r'.kind = r.kind ∧ r'.deviceId = r.deviceId ∧ r'.createdAt = r.createdAt) ∧
      (r'.status ≠ r.status → c.concerns id r) := by
  cases c with
  | save row =>
    simp only [written, operation_upsertOperation, h, Option.elim_some]
    by_cases hid : id = row.operationId
    · exact ⟨_, if_pos hid, ⟨rfl, rfl, rfl, rfl⟩, fun _ => hid⟩
    · exact ⟨r, if_neg hid, ⟨rfl, rfl, rfl, rfl⟩, fun hne => absurd rfl hne⟩
  | interrupt timestamp =>
    refine ⟨_, by rw [written, operation_interruptOperations, h, Option.map_some], ?_⟩
    by_cases hp : r.status.pending = true
    · simp only [hp, ↓reduceIte, true_and]
      exact fun _ => hp
    · simp only [hp, Bool.false_eq_true, ↓reduceIte, true_and]
      exact fun hne => absurd rfl hne

theorem stored_of_written {c : OperationCall} (h : (S.written c).operation id = some r) :
    (∃ r', S.operation id = some r' ∧ r'.operationId = r.operationId ∧ r'.createdAt = r.createdAt) ∨
      c = .save r ∧ r.operationId = id := by
  cases hold : S.operation id with
  | some old =>
    obtain ⟨r', hr', ⟨hid, -, -, hat⟩, -⟩ := written_of_stored c hold
    obtain rfl := Option.some.inj (hr'.symm.trans h)
    exact .inl ⟨old, rfl, hid.symm, hat.symm⟩
  | none =>
    cases c with
    | save row =>
      simp only [written, operation_upsertOperation, hold, Option.elim_none] at h
      obtain ⟨hid, hrow⟩ := Option.ite_none_right_eq_some.mp h
      cases hrow
      exact .inr ⟨rfl, hid.symm⟩
    | interrupt timestamp =>
      simp [written, operation_interruptOperations, hold] at h

theorem Recorded.written (h : Recorded calls S) (c : OperationCall) : Recorded (calls ++ [c]) (S.written c) := by
  intro id r hr
  rcases stored_of_written hr with ⟨r', hr', hid, hat⟩ | ⟨rfl, hid⟩
  · obtain ⟨hid', row, hrow, hrowId, hrowAt⟩ := h id r' hr'
    exact ⟨hid ▸ hid', row, List.mem_append_left _ hrow, hrowId, hrowAt.trans hat⟩
  · exact ⟨hid, r, by simp, hid, rfl⟩

theorem recorded_history (calls : List OperationCall) : Recorded calls (history calls) := by
  induction calls using List.reverseRecOn with
  | nil => intro id r hr; cases hr
  | append_singleton calls c ih =>
    intro id r hr
    rw [history, List.foldl_append] at hr
    exact ih.written c id r (called_le_written hr)

theorem Recorded.injective (h : Recorded calls S) (hd : distinctCreation calls) :
    ∀ r ∈ S.operations.values, ∀ r' ∈ S.operations.values, r.createdAt = r'.createdAt → r = r' := by
  intro r hr r' hr' hat
  obtain ⟨id, hid⟩ := Dict.mem_values_iff.mp hr
  obtain ⟨id', hid'⟩ := Dict.mem_values_iff.mp hr'
  obtain ⟨-, row, hrow, rfl, hrowAt⟩ := h id r hid
  obtain ⟨-, row', hrow', rfl, hrowAt'⟩ := h id' r' hid'
  have hsame : row.operationId = row'.operationId := by
    by_contra hne
    exact hd row row' hrow hrow' hne (hrowAt.trans (hat.trans hrowAt'.symm))
  rw [hsame] at hid
  exact Option.some.inj (hid.symm.trans hid')

theorem Recorded.values_nodup (h : Recorded calls S) : S.operations.values.Nodup := by
  have hkeys : S.operations.values.map OperationRow.operationId = S.operations.keys := by
    rw [Dict.values, Dict.keys, List.map_map]
    apply List.map_congr_left
    intro e he
    exact (h e.1 e.2 (Dict.mem_entries_iff.mp he)).1
  have hnodup : S.operations.keys.Nodup := S.operations.nodup
  rw [← hkeys] at hnodup
  exact hnodup.of_map

theorem Recorded.operation_of_recent (h : Recorded calls S) (hr : r ∈ S.recentOperations) :
    S.operation r.operationId = some r := by
  obtain ⟨id, hid⟩ := Dict.mem_values_iff.mp (mem_of_mem_newest hr)
  rw [(h id r hid).1]
  exact hid

theorem operation_pruneOperations_of_recent (h : S.operation id = some r) (hid : r.operationId = id)
    (hr : r ∈ S.recentOperations) : S.pruneOperations.operation id = some r := by
  have hmem : id ∈ S.recentOperations.map OperationRow.operationId := List.mem_map.mpr ⟨r, hr, hid⟩
  rw [operation_pruneOperations, if_pos (by simp only [hmem, decide_true, Bool.or_true])]
  exact h

theorem Recorded.recent_of_pruned (hS : Recorded calls S) (h : S.pruneOperations.operation id = some r)
    (hp : r.status.pending = false) : r ∈ S.recentOperations := by
  have hold : S.operations.get? id = some r := operation_of_pruneOperations h
  rw [operation_pruneOperations, hold] at h
  simp only [Option.any_some, hp, Bool.false_or, decide_eq_true_eq] at h
  have hmem : id ∈ S.recentOperations.map OperationRow.operationId := by
    by_contra hno
    rw [if_neg hno] at h
    cases h
  obtain ⟨b, hb, rfl⟩ := List.mem_map.mp hmem
  obtain rfl := Option.some.inj ((hS.operation_of_recent hb).symm.trans hold)
  exact hb

theorem values_pruneOperations : S.pruneOperations.operations.values.Sublist S.operations.values :=
  List.filter_sublist.map _

theorem Recorded.removed_old (hS : Recorded calls S) (hd : distinctCreation calls) (h : S.operation id = some r)
    (hn : S.pruneOperations.operation id = none) : r.status.pending = false ∧
      100 ≤ (later OperationRow.createdAt r.createdAt S.pruneOperations.operations.values).length := by
  have hp : r.status.pending = false := by
    by_contra hp
    rw [Bool.not_eq_false] at hp
    have hkept : S.pruneOperations.operations.get? id = some r := pruneOperations_get? S h hp
    exact absurd (hkept.symm.trans hn) (by simp)
  have hr : r ∈ S.operations.values := Dict.mem_values_iff.mpr ⟨id, h⟩
  have hout : r ∉ S.recentOperations := by
    intro hin
    have hkept := operation_pruneOperations_of_recent h (hS id r h).1 hin
    exact absurd (hkept.symm.trans hn) (by simp)
  have hfull : S.recentOperations.length = 100 :=
    newest_length_of_mem_older ((mem_newest_or_older hr).resolve_left hout)
  have hlater : S.recentOperations ⊆ later OperationRow.createdAt r.createdAt S.pruneOperations.operations.values := by
    intro b hb
    have hstored := hS.operation_of_recent hb
    have hkept := operation_pruneOperations_of_recent hstored rfl hb
    have hlt : r.createdAt < b.createdAt := lt_of_mem_newest (hS.injective hd) hr hout hb
    exact List.mem_filter.mpr ⟨Dict.mem_values_iff.mpr ⟨_, hkept⟩, by simpa using hlt⟩
  have hnodup : S.recentOperations.Nodup := newest_nodup hS.values_nodup
  exact ⟨hp, hfull.ge.trans (List.subperm_of_subset hnodup hlater).length_le⟩

theorem Recorded.recent (hS : Recorded calls S) (h : S.pruneOperations.operation id = some r)
    (hp : r.status.pending = false) :
    (later OperationRow.createdAt r.createdAt S.pruneOperations.operations.values).length < 100 := by
  have hsub : (later OperationRow.createdAt r.createdAt S.pruneOperations.operations.values).Sublist
      (later OperationRow.createdAt r.createdAt S.operations.values) := values_pruneOperations.filter _
  exact hsub.length_le.trans_lt (later_length_lt (hS.recent_of_pruned h hp))

theorem Recorded.finished_le (hS : Recorded calls S) :
    (S.pruneOperations.operations.values.filter (fun r => !r.status.pending)).length ≤ 100 := by
  have hnodup : (S.pruneOperations.operations.values.filter (fun r => !r.status.pending)).Nodup :=
    (hS.values_nodup.sublist values_pruneOperations).filter _
  have hrecent : ∀ r ∈ S.pruneOperations.operations.values.filter (fun r => !r.status.pending),
      r ∈ newest OperationRow.createdAt 100 S.operations.values := by
    intro r hr
    obtain ⟨hr, hp⟩ := List.mem_filter.mp hr
    obtain ⟨id, hid⟩ := Dict.mem_values_iff.mp hr
    exact hS.recent_of_pruned hid (by simpa using hp)
  exact length_le_of_subset_newest hnodup hrecent

theorem Recorded.pruned_few (hS : Recorded calls S) (h : S.operations.values.length ≤ 100) : S.pruneOperations = S := by
  have hkept : S.operations.filterKeys (fun id => (S.operations.get? id).any (fun r => r.status.pending) ||
      decide (id ∈ S.recentOperations.map OperationRow.operationId)) = S.operations := by
    refine Dict.filterKeys_eq_self fun id hid => ?_
    obtain ⟨r, hr⟩ := Dict.mem_keys_iff.mp hid
    have hrecent : r ∈ S.recentOperations := mem_newest_of_length_le (Dict.mem_values_iff.mpr ⟨id, hr⟩) h
    have hmem : id ∈ S.recentOperations.map OperationRow.operationId := List.mem_map.mpr ⟨r, hrecent, (hS id r hr).1⟩
    simp only [hmem, decide_true, Bool.or_true]
  rw [pruneOperations, hkept]

theorem length_written (c : OperationCall) :
    (S.written c).operations.values.length ≤ S.operations.values.length + 1 := by
  cases c with
  | save row => exact Dict.length_values_set _ _ _
  | interrupt timestamp =>
    simp only [written, interruptOperations, Dict.mapValues, Dict.values, List.length_map]
    omega

theorem history_few (h : calls.length ≤ 100) : history calls = calls.foldl written create ∧
    (history calls).operations.values.length ≤ calls.length := by
  induction calls using List.reverseRecOn with
  | nil => exact ⟨rfl, Nat.zero_le _⟩
  | append_singleton calls c ih =>
    rw [List.length_append, List.length_singleton] at h
    obtain ⟨hold, hlen⟩ := ih (by omega)
    have hwritten : ((history calls).written c).operations.values.length ≤ calls.length + 1 :=
      (length_written c).trans (by omega)
    have hcalled : (history calls).called c = (history calls).written c := by
      cases c with
      | save row => exact ((recorded_history calls).written (.save row)).pruned_few (hwritten.trans h)
      | interrupt timestamp => rfl
    have hlast : history (calls ++ [c]) = (history calls).written c := by
      rw [← hcalled, history, List.foldl_append]
      rfl
    constructor
    · rw [hlast, hold, List.foldl_append]
      rfl
    · rw [hlast, List.length_append, List.length_singleton]
      exact hwritten

end Recorded

theorem operations_retained (before : List OperationCall) (c : OperationCall) (h : distinctCreation (before ++ [c])) :
    Retains (history before) c := by
  have hwritten : Recorded (before ++ [c]) ((history before).written c) := (recorded_history before).written c
  constructor
  · intro id r hr
    obtain ⟨r', hr', -⟩ := written_of_stored c hr
    rw [hr', Option.isSome_some]
  · intro id r hr hp hn
    obtain ⟨r', hr', -, hstatus⟩ := written_of_stored c hr
    cases c with
    | save row =>
      have hp' : r'.status.pending = false := (hwritten.removed_old h hr' hn).1
      have hid : id = row.operationId := hstatus (fun he => by rw [he, hp] at hp'; cases hp')
      refine ⟨row, rfl, hid.symm, ?_⟩
      rw [written, operation_upsertOperation, hr, if_pos hid] at hr'
      cases hr'
      exact hp'
    | interrupt timestamp => exact absurd (hr'.symm.trans hn) (by simp)
  · intro id r hr hn
    cases c with
    | save row => exact hwritten.removed_old h hr hn
    | interrupt timestamp => exact absurd (hr.symm.trans hn) (by simp)
  · rintro row rfl id r hr hp
    exact hwritten.recent hr hp
  · rintro row rfl
    exact hwritten.finished_le
  · intro id r r' hr hr'
    obtain ⟨r'', hr'', hsame, -⟩ := written_of_stored c hr
    obtain rfl := Option.some.inj (hr''.symm.trans (called_le_written hr'))
    exact hsame.2
  · intro id r r' hr hr' hne
    obtain ⟨r'', hr'', -, hstatus⟩ := written_of_stored c hr
    obtain rfl := Option.some.inj (hr''.symm.trans (called_le_written hr'))
    exact hstatus hne

def connectQueued : OperationCall := .save ⟨0, .connect, some "probe", .queued, 0, 0, none⟩

def scanSucceeds (n : ℕ) : OperationCall := .save ⟨n, .scan, none, .succeeded, n, n, none⟩

def connectFails : OperationCall := .save ⟨0, .connect, some "probe", .failed, 0, 200, some .deviceOperationFailed⟩

def scansMeanwhile : List OperationCall := connectQueued :: (List.range' 1 99).map scanSucceeds

/-- A hundred scans succeed while a connect is queued; its row goes when it fails. -/
theorem operations_retained_late : Retains (history (scansMeanwhile ++ [scanSucceeds 100])) connectFails ∧
    ((history (scansMeanwhile ++ [scanSucceeds 100])).called connectFails).operation 0 = none := by
  have hfirst : history scansMeanwhile = scansMeanwhile.foldl written create := (history_few (by decide)).1
  have hlast : history (scansMeanwhile ++ [scanSucceeds 100]) = (history scansMeanwhile).called (scanSucceeds 100) := by
    rw [history, List.foldl_append]
    rfl
  have hpruned : (((scansMeanwhile.foldl written create).called (scanSucceeds 100)).called connectFails).operation 0 =
      none := by decide +kernel
  refine ⟨operations_retained _ _ ?_, by rw [hlast, hfirst, hpruned]⟩
  have hcreated : ∀ row, .save row ∈ scansMeanwhile ++ [scanSucceeds 100] ++ [connectFails] →
      row.createdAt = row.operationId := by
    intro row hrow
    simp only [scansMeanwhile, connectQueued, scanSucceeds, connectFails, List.cons_append, List.mem_cons,
      List.mem_append, List.mem_map, List.not_mem_nil, or_false] at hrow
    rcases hrow with hrow | (⟨i, -, hrow⟩ | hrow) | hrow <;> cases hrow <;> rfl
  intro row row' hrow hrow' hne he
  rw [hcreated row hrow, hcreated row' hrow'] at he
  exact hne (Int.ofNat_inj.mp he)

end AdministrativeStore

end PitbluCore
