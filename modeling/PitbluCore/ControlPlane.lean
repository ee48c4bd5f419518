import PitbluCore.AdministratorTokens
import PitbluCore.ConfigurationDescription
import PitbluCore.Deployment
import PitbluCore.RateLimit

/-!
The control plane of one process: requests that pass `authenticate`, whose hashes run in
worker threads, and the administrative handlers behind it. Every suspension of a request and
every step of a worker is an action of its own.
-/

namespace PitbluCore

open Library ConfigurationManager

structure FieldError where
  type : String
  loc : List String
  msg : String
  input : String
  deriving DecidableEq

structure ValidationDetail where
  type : String
  location : List String
  message : String
  deriving DecidableEq

def validationDetails (errors : List FieldError) : List ValidationDetail :=
  errors.map (fun error => ⟨error.type, error.loc, error.msg⟩)

structure ApiError where
  status : ℕ
  code : String
  message : String
  retryAfter : Option ℤ
  details : Option (List ValidationDetail)
  deriving DecidableEq

namespace ApiError

def authenticationRequired : ApiError := ⟨401, "authentication_required", "valid bearer token required", none, none⟩
def rateLimited (retryAfter : ℤ) : ApiError := ⟨429, "rate_limited", "retry later", some retryAfter, none⟩
def internal : ApiError := ⟨500, "internal_error", "internal service error", none, none⟩
def stateConflict (message : String) : ApiError := ⟨409, "state_conflict", message, none, none⟩
def validation (message : String) : ApiError := ⟨422, "validation_error", message, none, none⟩
def requestValidation (errors : List FieldError) : ApiError :=
  ⟨422, "validation_error", "request validation failed", none, some (validationDetails errors)⟩

end ApiError

def ConfigurationError.toApiError : ConfigurationError → ApiError
  | .unknownSetting path => .validation ("unknown configuration setting: " ++ path)
  | .invalidSettings => .validation "configuration validation failed"
  | .notAnObject => .validation "configuration YAML must contain an object"
  | .versionConflict current =>
    .stateConflict ("configuration version conflict; current version is " ++ toString current)
  | .invalidYaml => .internal

def RequestError.toApiError : RequestError → ApiError
  | .ifMatchRequired => .stateConflict "If-Match header required"
  | .versionInvalid => .stateConflict "configuration version is invalid"
  | .tokenNotConfigured => .stateConflict "rotate an administrator token before enabling token mode"
  | .versionConflict current => (ConfigurationError.versionConflict current).toApiError
  | .value e => e.toApiError

inductive ControlCall
  | getConfig
  | validateConfig (values : Dict String Value)
  | patchConfig (values : Dict String Value) (ifMatch : IfMatch)
  | putSecret (value : String)
  | deleteSecret
  | rotateToken
  | other

structure ApiRequest where
  method : String
  authorization : String
  call : ControlCall

structure Draw where
  token : RandomBytes 32
  salt : RandomBytes 16
  now : Time

inductive ApiResponse
  | error (e : ApiError)
  | configuration (version : ℤ) (settings : List (String × SettingView)) (configured : Bool) (changedAt : Option Time)
  | valid
  | secret (name : String) (configured : Bool) (changedAt : Option Time)
  | token (token : String)
  | other

def secretName : String := "mqtt.password"

def secretStatus (S : AdministrativeStore) (name : String) : Bool × Option Time :=
  match S.secrets.get? name with
  | none => (false, none)
  | some (_, changedAt) => (true, some changedAt)

section Handlers

variable (P : Pydantic) (digest : String → List UInt8 → List UInt8)

def configResponse (m : ConfigurationManager AppConfig) (S : AdministrativeStore) : ApiResponse :=
  let (configured, changedAt) := secretStatus S secretName
  match m.describe (AppConfig.schema P) with
  | none => .error .internal
  | some (version, settings) => .configuration version settings configured changedAt

inductive SecretFault
  | tooShort
  | tooLong
  deriving DecidableEq

def secretFault (value : String) : Option SecretFault :=
  if value.length < 1 then some .tooShort else if 4096 < value.length then some .tooLong else none

def SecretFault.error (value : String) : SecretFault → FieldError
  | .tooShort => ⟨"string_too_short", ["body", "value"], "String should have at least 1 character", value⟩
  | .tooLong => ⟨"string_too_long", ["body", "value"], "String should have at most 4096 characters", value⟩

def handle (m : ConfigurationManager AppConfig) (S : AdministrativeStore) (draw : Draw) :
    ControlCall → ConfigurationManager AppConfig × AdministrativeStore × ApiResponse
  | .getConfig => (m, S, configResponse P m S)
  | .validateConfig values =>
    match m.validatePatch (AppConfig.schema P) values with
    | .error e => (m, S, .error e.toApiError)
    | .ok _ => (m, S, .valid)
  | .patchConfig values ifMatch =>
    match patchConfig P m S values ifMatch with
    | .error e => (m, S, .error e.toApiError)
    | .ok (m, S) => (m, S, configResponse P m S)
  | .putSecret value =>
    match secretFault value with
    | none => (m, S.putSecret secretName value draw.now, .secret secretName true (some draw.now))
    | some fault => (m, S, .error (.requestValidation [fault.error value]))
  | .deleteSecret => (m, S.deleteSecret secretName, .secret secretName false none)
  | .rotateToken =>
    let (token, S) := AdministratorTokens.rotate digest S draw.token draw.salt draw.now
    (m, S, .token token)
  | .other => (m, S, .other)

end Handlers

inductive Verdict
  | valid
  | invalid
  | raised
  deriving DecidableEq

/-- A call of `verify` in a worker thread; `since` counts the records there had been when it began. -/
structure HashJob where
  token : String
  since : ℕ
  verdict : Option Verdict

inductive ExchangePhase
  | verifying (job : ℕ)
  | admitted
  | answered (response : ApiResponse)
  | abandoned

/-- A request and how far it is; `since` counts the records there had been when it arrived. -/
structure Exchange where
  request : ApiRequest
  since : ℕ
  phase : ExchangePhase

/-- `records` is every value the stored record has had, the last one first; `hashes` are the times at
which hashes began, `mutations` the mutations admitted and when, and `authenticationCalls` and
`mutationCalls` the calls of the limiters with their results. No step reads the last four; `records`
only counts. -/
structure ControlPlane where
  authMode : AuthMode
  manager : ConfigurationManager AppConfig
  store : AdministrativeStore
  authenticationLimit : RateLimit
  mutationLimit : RateLimit
  authenticationJobs : List ℕ
  jobs : Dict ℕ HashJob
  nextJob : ℕ
  exchanges : Dict ℕ Exchange
  nextExchange : ℕ
  records : List (Option AuthRecord)
  hashes : List ℚ
  mutations : List (ℕ × ℚ)
  authenticationCalls : List (ℚ × ℤ)
  mutationCalls : List (ℚ × ℤ)

inductive ControlAction
  | arrive (request : ApiRequest) (clock : ℚ)
  | hash (job : ℕ)
  | crash (job : ℕ)
  | finish (job : ℕ)
  | resume (exchange : ℕ) (clock : ℚ)
  | disconnect (exchange : ℕ)
  | handle (exchange : ℕ) (draw : Draw)

def bearer (authorization : String) : Option String :=
  let chars := authorization.toList
  if String.ofList ((chars.takeWhile (· ≠ ' ')).map lowerCase) = "bearer" then
    some (String.ofList ((chars.dropWhile (· ≠ ' ')).drop 1))
  else none

def isMutation (method : String) : Bool := method ∈ ["POST", "PATCH", "PUT", "DELETE"]

namespace ControlPlane

section Create

variable (digest : String → List UInt8 → List UInt8)

def bootstrapped (m : ConfigurationManager AppConfig) (S : AdministrativeStore) (draw : Draw) : AdministrativeStore :=
  if m.config.auth.mode = .token then
    match AdministratorTokens.bootstrap digest S draw.token draw.salt draw.now with
    | .ok (_, S) => S
    | .error _ => S
  else S

theorem one_le_perMinute {lo hi : ℤ} (h : 1 ≤ lo) (perMinute : IntRange lo hi) : 1 ≤ perMinute.1.toNat := by
  obtain ⟨i, hlo, -⟩ := perMinute
  change 1 ≤ i.toNat
  omega

def limiter {lo hi : ℤ} (h : 1 ≤ lo) (perMinute : IntRange lo hi) (clock : ℚ) : RateLimit :=
  .create perMinute.1.toNat (one_le_perMinute h perMinute) clock

theorem one_le_ten : (1 : ℤ) ≤ 10 := by decide

def create (m : ConfigurationManager AppConfig) (S : AdministrativeStore) (draw : Draw) (clock : ℚ) : ControlPlane where
  authMode := m.config.auth.mode
  manager := m
  store := bootstrapped digest m S draw
  authenticationLimit := limiter one_le_ten m.config.security.authRequestsPerMinute clock
  mutationLimit := limiter (Int.le_refl 1) m.config.security.mutationsPerMinute clock
  authenticationJobs := []
  jobs := Dict.empty
  nextJob := 0
  exchanges := Dict.empty
  nextExchange := 0
  records := [(bootstrapped digest m S draw).authRecord]
  hashes := []
  mutations := []
  authenticationCalls := []
  mutationCalls := []

end Create

variable (s : ControlPlane)

def setPhase (n : ℕ) (phase : ExchangePhase) : ControlPlane :=
  { s with exchanges := s.exchanges.modify n (fun e => { e with phase := phase }) }

def refuse (n : ℕ) (e : ApiError) : ControlPlane := s.setPhase n (.answered (.error e))

def letThrough (n : ℕ) (method : String) (clock : ℚ) : ControlPlane :=
  if isMutation method then
    let (retry, limit) := s.mutationLimit.retryAfter clock
    let s := { s with mutationLimit := limit, mutationCalls := (clock, retry) :: s.mutationCalls }
    if retry = 0 then { s.setPhase n .admitted with mutations := (n, clock) :: s.mutations }
    else s.refuse n (.rateLimited retry)
  else s.setPhase n .admitted

def startHash (n : ℕ) (token : String) (clock : ℚ) : ControlPlane :=
  { s.setPhase n (.verifying s.nextJob) with
    jobs := s.jobs.set s.nextJob ⟨token, s.records.length, none⟩
    authenticationJobs := s.authenticationJobs ++ [s.nextJob]
    nextJob := s.nextJob + 1
    hashes := clock :: s.hashes }

def authenticate (n : ℕ) (request : ApiRequest) (clock : ℚ) : ControlPlane :=
  if s.authMode = .disabled then s.letThrough n request.method clock
  else
    let (retry, limit) := s.authenticationLimit.retryAfter clock
    let s := { s with authenticationLimit := limit, authenticationCalls := (clock, retry) :: s.authenticationCalls }
    if retry ≠ 0 then s.refuse n (.rateLimited retry)
    else match bearer request.authorization with
      | none => s.refuse n .authenticationRequired
      | some token =>
        if 2 ≤ s.authenticationJobs.length then s.refuse n (.rateLimited 1) else s.startHash n token clock

def accept (request : ApiRequest) : ControlPlane :=
  { s with
    exchanges := s.exchanges.set s.nextExchange ⟨request, s.records.length, .abandoned⟩
    nextExchange := s.nextExchange + 1 }

def arrive (request : ApiRequest) (clock : ℚ) : ControlPlane :=
  (s.accept request).authenticate s.nextExchange request clock

def setVerdict (j : ℕ) (verdict : Verdict) : Option ControlPlane :=
  (s.jobs.get? j).bind fun job =>
    match job.verdict with
    | none => some { s with jobs := s.jobs.set j { job with verdict := some verdict } }
    | some _ => none

def finish (j : ℕ) : Option ControlPlane :=
  (s.jobs.get? j).bind fun job =>
    if job.verdict.isSome then some { s with authenticationJobs := s.authenticationJobs.filter (· ≠ j) } else none

def resume (n : ℕ) (clock : ℚ) : Option ControlPlane :=
  (s.exchanges.get? n).bind fun e =>
    match e.phase with
    | .verifying j =>
      if j ∈ s.authenticationJobs then none
      else (s.jobs.get? j).bind fun job =>
        match job.verdict with
        | none => none
        | some .valid => some (s.letThrough n e.request.method clock)
        | some .invalid => some (s.refuse n .authenticationRequired)
        | some .raised => some (s.refuse n .internal)
    | _ => none

def disconnect (n : ℕ) : Option ControlPlane :=
  (s.exchanges.get? n).bind fun e =>
    match e.phase with
    | .verifying _ => some (s.setPhase n .abandoned)
    | _ => none

section Step

variable (P : Pydantic) (digest : String → List UInt8 → List UInt8)

def runHandler (n : ℕ) (draw : Draw) : Option ControlPlane :=
  (s.exchanges.get? n).bind fun e =>
    match e.phase with
    | .admitted =>
      let (m, S, response) := PitbluCore.handle P digest s.manager s.store draw e.request.call
      some { s.setPhase n (.answered response) with
        manager := m
        store := S
        records := if S.authRecord = s.store.authRecord then s.records else S.authRecord :: s.records }
    | _ => none

def step : ControlAction → Option ControlPlane
  | .arrive request clock => some (s.arrive request clock)
  | .hash j =>
    (s.jobs.get? j).bind fun job =>
      s.setVerdict j (if AdministratorTokens.verify digest s.store job.token then .valid else .invalid)
  | .crash j => s.setVerdict j .raised
  | .finish j => s.finish j
  | .resume n clock => s.resume n clock
  | .disconnect n => s.disconnect n
  | .handle n draw => s.runHandler P digest n draw

end Step

end ControlPlane

end PitbluCore
