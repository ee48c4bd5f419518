import Mathlib.Data.List.Sort
import PitbluCore.Connection
import PitbluCore.Library.Dict

/-!
The administrative store. A transaction is all or nothing, so each method is one
function of the state; rows keep their insertion order.
-/

namespace PitbluCore

open Library

inductive OperationKind
  | scan
  | connect
  | disconnect
  | reconnect
  deriving DecidableEq

def OperationKind.value : OperationKind → String
  | .scan => "scan"
  | .connect => "connect"
  | .disconnect => "disconnect"
  | .reconnect => "reconnect"

inductive OperationStatus
  | queued
  | running
  | succeeded
  | failed
  deriving DecidableEq

def OperationStatus.value : OperationStatus → String
  | .queued => "queued"
  | .running => "running"
  | .succeeded => "succeeded"
  | .failed => "failed"

def OperationStatus.pending (s : OperationStatus) : Bool := s = .queued || s = .running

inductive ErrorCode
  | interrupted
  | deviceOperationFailed
  deriving DecidableEq

def ErrorCode.value : ErrorCode → String
  | .interrupted => "interrupted"
  | .deviceOperationFailed => "device_operation_failed"

structure OperationRow where
  operationId : OperationId
  kind : OperationKind
  deviceId : Option DeviceId
  status : OperationStatus
  createdAt : Time
  updatedAt : Time
  errorCode : Option ErrorCode
  deriving DecidableEq

structure DeviceRow where
  deviceId : DeviceId
  discoveryId : DiscoveryId
  name : String
  friendlyName : Option String
  model : String
  autoReconnect : Bool
  desiredState : DesiredState
  observedState : ConnectionState
  createdAt : Time
  identity : Option Identity
  deriving DecidableEq

structure AuthRecord where
  salt : List UInt8
  digest : List UInt8
  changedAt : Time
  deriving DecidableEq

structure AdministrativeStore where
  configVersion : ℤ
  configOverrides : Dict String JsonText
  secrets : Dict String (String × Time)
  administratorAuth : Option AuthRecord
  devices : Dict DeviceId DeviceRow
  operations : Dict OperationId OperationRow

namespace AdministrativeStore

def create : AdministrativeStore := ⟨1, Dict.empty, Dict.empty, none, Dict.empty, Dict.empty⟩

def configState (S : AdministrativeStore) : ℤ × Dict String JsonText := (S.configVersion, S.configOverrides)

def replaceConfig (S : AdministrativeStore) (values : Dict String JsonText) (expectedVersion : ℤ) :
    Except ℤ (ℤ × AdministrativeStore) :=
  if S.configVersion ≠ expectedVersion then .error S.configVersion
  else .ok (S.configVersion + 1, { S with configOverrides := values, configVersion := S.configVersion + 1 })

def putSecret (S : AdministrativeStore) (name value : String) (changedAt : Time) : AdministrativeStore :=
  { S with secrets := S.secrets.set name (value, changedAt) }

def deleteSecret (S : AdministrativeStore) (name : String) : AdministrativeStore :=
  { S with secrets := S.secrets.erase name }

def authRecord (S : AdministrativeStore) : Option AuthRecord := S.administratorAuth

def setAuthRecord (S : AdministrativeStore) (record : AuthRecord) : AdministrativeStore :=
  { S with administratorAuth := some record }

def device (S : AdministrativeStore) (deviceId : DeviceId) : Option DeviceRow := S.devices.get? deviceId

def deviceRows (S : AdministrativeStore) : List DeviceRow :=
  (S.devices.entries.map (fun e => { e.2 with deviceId := e.1 })).insertionSort (fun a b => a.createdAt ≤ b.createdAt)

/-- The primary key is new wherever the service inserts a row. -/
def saveDevice (S : AdministrativeStore) (row : DeviceRow) : AdministrativeStore :=
  { S with devices := S.devices.set row.deviceId row }

def updateDevice (S : AdministrativeStore) (deviceId : DeviceId) (f : DeviceRow → DeviceRow) : AdministrativeStore :=
  { S with devices := S.devices.modify deviceId f }

def deleteDevice (S : AdministrativeStore) (deviceId : DeviceId) : AdministrativeStore :=
  { S with devices := S.devices.erase deviceId }

def operation (S : AdministrativeStore) (operationId : OperationId) : Option OperationRow :=
  S.operations.get? operationId

def recentOperations (S : AdministrativeStore) : List OperationRow :=
  (S.operations.values.insertionSort (fun a b => b.createdAt ≤ a.createdAt)).take 100

def upsertOperation (S : AdministrativeStore) (row : OperationRow) : AdministrativeStore :=
  let stored := match S.operations.get? row.operationId with
    | some old => { old with status := row.status, updatedAt := row.updatedAt, errorCode := row.errorCode }
    | none => row
  { S with operations := S.operations.set row.operationId stored }

def pruneOperations (S : AdministrativeStore) : AdministrativeStore :=
  let kept := S.recentOperations.map OperationRow.operationId
  let pending := fun id => (S.operations.get? id).any (fun row => row.status.pending)
  { S with operations := S.operations.filterKeys (fun id => pending id || decide (id ∈ kept)) }

def saveOperation (S : AdministrativeStore) (row : OperationRow) : AdministrativeStore :=
  (S.upsertOperation row).pruneOperations

def interruptOperations (S : AdministrativeStore) (timestamp : Time) : AdministrativeStore :=
  let interrupt := fun (row : OperationRow) =>
    if row.status.pending then
      { row with status := .failed, errorCode := some .interrupted, updatedAt := timestamp }
    else row
  { S with operations := S.operations.mapValues interrupt }

section Rows

variable (S : AdministrativeStore)

@[simp] theorem device_updateDevice (d d' : DeviceId) (f : DeviceRow → DeviceRow) :
    (S.updateDevice d f).device d' = if d' = d then (S.device d).map f else S.device d' :=
  Dict.get?_modify _ _ _ _

@[simp] theorem device_saveDevice (row : DeviceRow) (d : DeviceId) :
    (S.saveDevice row).device d = if d = row.deviceId then some row else S.device d := Dict.get?_set _ _ _ _

@[simp] theorem device_deleteDevice (d d' : DeviceId) :
    (S.deleteDevice d).device d' = if d' = d then none else S.device d' := Dict.get?_erase _ _ _

theorem device_of_mem_deviceRows {row : DeviceRow} (h : row ∈ S.deviceRows) :
    ∃ r, S.device row.deviceId = some r ∧ r.desiredState = row.desiredState ∧ r.autoReconnect = row.autoReconnect := by
  obtain ⟨⟨d, r⟩, he, rfl⟩ := List.mem_map.mp ((List.mem_insertionSort _).mp h)
  exact ⟨r, Dict.mem_entries_iff.mp he, rfl, rfl⟩

@[simp] theorem device_saveOperation (row : OperationRow) (d : DeviceId) :
    (S.saveOperation row).device d = S.device d := rfl

@[simp] theorem device_interruptOperations (now : Time) (d : DeviceId) :
    (S.interruptOperations now).device d = S.device d := rfl

theorem pruneOperations_get? {id : OperationId} {row : OperationRow} (h : S.operations.get? id = some row)
    (hp : row.status.pending) : S.pruneOperations.operations.get? id = some row := by
  simp [pruneOperations, h, hp]

theorem saveOperation_get?_ne {id : OperationId} {row r : OperationRow} (h : S.operations.get? id = some r)
    (hp : r.status.pending) (hne : id ≠ row.operationId) :
    (S.saveOperation row).operations.get? id = some r :=
  pruneOperations_get? _ (by simp [upsertOperation, hne, h]) hp

theorem saveOperation_get?_self {row : OperationRow} (hp : row.status.pending)
    (h : ∀ r, S.operations.get? row.operationId = some r → r.kind = row.kind ∧ r.deviceId = row.deviceId) :
    ∃ r, (S.saveOperation row).operations.get? row.operationId = some r ∧ r.status.pending ∧
      r.kind = row.kind ∧ r.deviceId = row.deviceId := by
  cases hg : S.operations.get? row.operationId with
  | none => exact ⟨row, pruneOperations_get? _ (by simp [upsertOperation, hg]) hp, hp, rfl, rfl⟩
  | some r =>
    obtain ⟨hk, hd⟩ := h r hg
    refine ⟨{ r with status := row.status, updatedAt := row.updatedAt, errorCode := row.errorCode },
      pruneOperations_get? _ ?_ hp, hp, hk, hd⟩
    simp [upsertOperation, hg]

theorem get?_saveOperation {id : OperationId} {row r : OperationRow}
    (h : (S.saveOperation row).operations.get? id = some r) :
    (id = row.operationId ∧ r.status = row.status ∧ r.errorCode = row.errorCode) ∨
      id ≠ row.operationId ∧ S.operations.get? id = some r := by
  simp only [saveOperation, pruneOperations, upsertOperation, Dict.get?_filterKeys, Dict.get?_set] at h
  have hr := (Option.ite_none_right_eq_some.mp h).2
  by_cases hid : id = row.operationId
  · rw [if_pos hid] at hr
    refine .inl ⟨hid, ?_⟩
    split at hr <;> cases hr <;> exact ⟨rfl, rfl⟩
  · rw [if_neg hid] at hr
    exact .inr ⟨hid, hr⟩

theorem mem_saveOperation {id : OperationId} {row r : OperationRow}
    (h : (S.saveOperation row).operations.get? id = some r) :
    id = row.operationId ∨ S.operations.get? id = some r := (S.get?_saveOperation h).imp And.left And.right

end Rows

end AdministrativeStore

end PitbluCore
