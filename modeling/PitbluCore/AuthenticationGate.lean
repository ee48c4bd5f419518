import PitbluCore.Library.Runs
import PitbluCore.ControlPlane

namespace PitbluCore

open Library

namespace ControlPlane

variable {digest : String → List UInt8 → List UInt8} {s t : ControlPlane}

/-- The records that have been current since there were `since` of them. -/
def window (s : ControlPlane) (since : ℕ) : List (Option AuthRecord) := s.records.take (s.records.length + 1 - since)

def Accepts (digest : String → List UInt8 → List UInt8) (s : ControlPlane) (since : ℕ) (token : String) : Prop :=
  ∃ r, some r ∈ s.window since ∧ AdministratorTokens.passes digest r token = true

def Rejects (digest : String → List UInt8 → List UInt8) (s : ControlPlane) (since : ℕ) (token : String) : Prop :=
  ∃ o ∈ s.window since, o.any (fun r => AdministratorTokens.passes digest r token) = false

def HashJob.Justified (digest : String → List UInt8 → List UInt8) (s : ControlPlane) (j : ℕ) (job : HashJob) : Prop :=
  match job.verdict with
  | none => j ∈ s.authenticationJobs
  | some .valid => Accepts digest s job.since job.token
  | some .invalid => Rejects digest s job.since job.token
  | some .raised => True

def Exchange.Justified (digest : String → List UInt8 → List UInt8) (s : ControlPlane) (e : Exchange) : Prop :=
  match e.phase with
  | .verifying j => s.authMode = .token ∧ ∃ job, s.jobs.get? j = some job ∧ e.since ≤ job.since ∧
      bearer e.request.authorization = some job.token
  | .admitted => s.authMode = .token → ∃ token, bearer e.request.authorization = some token ∧
      Accepts digest s e.since token
  | .answered (.error error) => error = .authenticationRequired → s.authMode = .token ∧
      ∀ token, bearer e.request.authorization = some token → Rejects digest s e.since token
  | _ => True

structure Sound (digest : String → List UInt8 → List UInt8) (s : ControlPlane) : Prop where
  current : s.records.head? = some s.store.authRecord
  jobs : ∀ j job, s.jobs.get? j = some job → j < s.nextJob ∧ job.since ≤ s.records.length ∧
    HashJob.Justified digest s j job
  exchanges : ∀ n e, s.exchanges.get? n = some e → n < s.nextExchange ∧ e.since ≤ s.records.length ∧
    Exchange.Justified digest s e
  slots : s.authenticationJobs.length ≤ 2

section Window

theorem window_self (h : s.records.head? = some s.store.authRecord) :
    s.store.authRecord ∈ s.window s.records.length := by
  obtain ⟨rest, hr⟩ : ∃ rest, s.records = s.store.authRecord :: rest := by
    cases hs : s.records with
    | nil =>
      rw [hs] at h
      cases h
    | cons o rest =>
      rw [hs] at h
      cases h
      exact ⟨rest, rfl⟩
  rw [window, hr]
  simp

theorem window_mono {since since' : ℕ} (h : since ≤ since') : s.window since' ⊆ s.window since :=
  List.take_subset_take_left _ (by omega)

theorem window_grows {o : Option AuthRecord} {since : ℕ} (h : since ≤ s.records.length)
    (ht : t.records = s.records ∨ t.records = o :: s.records) : s.window since ⊆ t.window since := by
  rcases ht with ht | ht
  · rw [window, window, ht]
    exact fun _ hx => hx
  · have hlen : s.records.length + 1 + 1 - since = s.records.length + 1 - since + 1 := by omega
    rw [window, window, ht, List.length_cons, hlen, List.take_succ_cons]
    exact List.subset_cons_self _ _

end Window

structure Extends (s t : ControlPlane) : Prop where
  authMode : t.authMode = s.authMode
  records : t.records = s.records ∨ ∃ o, t.records = o :: s.records
  jobs : ∀ j job, s.jobs.get? j = some job → ∃ v, t.jobs.get? j = some { job with verdict := v }

section Extends

theorem Extends.of_same (hm : t.authMode = s.authMode) (hr : t.records = s.records) (hj : t.jobs = s.jobs) :
    Extends s t := ⟨hm, .inl hr, fun _ job hjob => ⟨job.verdict, hj ▸ hjob⟩⟩

theorem Extends.length (h : Extends s t) : s.records.length ≤ t.records.length := by
  rcases h.records with hr | ⟨o, hr⟩
  · rw [hr]
  · rw [hr, List.length_cons]
    omega

theorem Extends.window (h : Extends s t) {since : ℕ} (hs : since ≤ s.records.length) :
    s.window since ⊆ t.window since := by
  rcases h.records with hr | ⟨o, hr⟩
  · exact window_grows (o := none) hs (.inl hr)
  · exact window_grows hs (.inr hr)

theorem Extends.accepts (h : Extends s t) {since : ℕ} {token : String} (hs : since ≤ s.records.length)
    (ha : Accepts digest s since token) : Accepts digest t since token := by
  obtain ⟨r, hr, hp⟩ := ha
  exact ⟨r, h.window hs hr, hp⟩

theorem Extends.rejects (h : Extends s t) {since : ℕ} {token : String} (hs : since ≤ s.records.length)
    (ha : Rejects digest s since token) : Rejects digest t since token := by
  obtain ⟨o, ho, hp⟩ := ha
  exact ⟨o, h.window hs ho, hp⟩

theorem Extends.job (h : Extends s t) {j : ℕ} {job : HashJob} (hs : job.since ≤ s.records.length)
    (hslots : job.verdict = none → j ∈ s.authenticationJobs → j ∈ t.authenticationJobs)
    (hj : HashJob.Justified digest s j job) :
    HashJob.Justified digest t j job := by
  unfold HashJob.Justified at hj ⊢
  split
  · rename_i hv
    rw [hv] at hj
    exact hslots hv hj
  · rename_i hv
    rw [hv] at hj
    exact h.accepts hs hj
  · rename_i hv
    rw [hv] at hj
    exact h.rejects hs hj
  · trivial

theorem Extends.exchange (h : Extends s t) {e : Exchange} (hs : e.since ≤ s.records.length)
    (he : Exchange.Justified digest s e) : Exchange.Justified digest t e := by
  unfold Exchange.Justified at he ⊢
  rw [h.authMode]
  split
  · rename_i j hp
    rw [hp] at he
    obtain ⟨hm, job, hjob, hsince, hb⟩ := he
    obtain ⟨v, hv⟩ := h.jobs j job hjob
    exact ⟨hm, _, hv, hsince, hb⟩
  · rename_i hp
    rw [hp] at he
    intro hm
    obtain ⟨token, hb, ha⟩ := he hm
    exact ⟨token, hb, h.accepts hs ha⟩
  · rename_i error hp
    rw [hp] at he
    intro herror
    obtain ⟨hm, hr⟩ := he herror
    exact ⟨hm, fun token hb => h.rejects hs (hr token hb)⟩
  · trivial

theorem Sound.turn (h : s.Sound digest) {n : ℕ} {phase : ExchangePhase} (hm : t.authMode = s.authMode)
    (hr : t.records = s.records) (hS : t.store = s.store) (hj : t.jobs = s.jobs) (hnj : t.nextJob = s.nextJob)
    (hslots : t.authenticationJobs = s.authenticationJobs) (hne : t.nextExchange = s.nextExchange)
    (he : t.exchanges = s.exchanges.modify n (fun e => { e with phase := phase }))
    (hn : ∀ e, s.exchanges.get? n = some e → Exchange.Justified digest s { e with phase := phase }) :
    t.Sound digest := by
  have hx : Extends s t := .of_same hm hr hj
  refine ⟨by rw [hr, hS]; exact h.current, fun j job hjob => ?_, fun m e hget => ?_, by rw [hslots]; exact h.slots⟩
  · rw [hj] at hjob
    obtain ⟨hlt, hs, hjust⟩ := h.jobs j job hjob
    exact ⟨hnj ▸ hlt, hr ▸ hs, hx.job hs (fun _ hmem => hslots ▸ hmem) hjust⟩
  · rw [he, Dict.get?_modify] at hget
    rw [hne, hr]
    split at hget
    · rename_i hmn
      obtain ⟨old, hold, rfl⟩ := Option.map_eq_some_iff.mp hget
      obtain ⟨hlt, hs, -⟩ := h.exchanges n old hold
      exact ⟨hmn ▸ hlt, hs, hx.exchange hs (hn old hold)⟩
    · obtain ⟨hlt, hs, hjust⟩ := h.exchanges m e hget
      exact ⟨hlt, hs, hx.exchange hs hjust⟩

theorem Sound.refuse (h : s.Sound digest) {n : ℕ} {e : ApiError} (hn : ∀ x, s.exchanges.get? n = some x →
    Exchange.Justified digest s { x with phase := .answered (.error e) }) : (s.refuse n e).Sound digest :=
  h.turn rfl rfl rfl rfl rfl rfl rfl rfl hn

theorem justified_rateLimited (x : Exchange) (retry : ℤ) :
    Exchange.Justified digest s { x with phase := .answered (.error (.rateLimited retry)) } :=
  fun hx => by simp [ApiError.rateLimited, ApiError.authenticationRequired] at hx

theorem Sound.letThrough (h : s.Sound digest) {n : ℕ} {method : String} {clock : ℚ} (hn : ∀ x,
    s.exchanges.get? n = some x → Exchange.Justified digest s { x with phase := .admitted }) :
    (s.letThrough n method clock).Sound digest := by
  unfold ControlPlane.letThrough
  split
  · dsimp only
    split
    · exact h.turn rfl rfl rfl rfl rfl rfl rfl rfl hn
    · exact h.turn rfl rfl rfl rfl rfl rfl rfl rfl (fun x _ => justified_rateLimited x _)
  · exact h.turn rfl rfl rfl rfl rfl rfl rfl rfl hn

end Extends

section Steps

theorem token_of_ne {mode : AuthMode} (h : mode ≠ .disabled) : mode = .token := by
  cases mode with
  | disabled => exact absurd rfl h
  | token => rfl

theorem Sound.startHash (h : s.Sound digest) {n : ℕ} {token : String} {clock : ℚ} (hmode : s.authMode = .token)
    (hslots : s.authenticationJobs.length < 2)
    (hn : ∀ e, s.exchanges.get? n = some e → bearer e.request.authorization = some token) :
    (s.startHash n token clock).Sound digest := by
  generalize ht : s.startHash n token clock = t
  have hjobs : ∀ j, t.jobs.get? j = if j = s.nextJob then some ⟨token, s.records.length, none⟩ else s.jobs.get? j := by
    intro j
    rw [← ht]
    exact Dict.get?_set _ _ _ _
  have hfresh : s.jobs.get? s.nextJob = none := by
    cases hget : s.jobs.get? s.nextJob with
    | none => rfl
    | some job => exact absurd (h.jobs _ job hget).1 (lt_irrefl _)
  have hx : Extends s t := by
    refine ⟨by rw [← ht]; rfl, .inl (by rw [← ht]; rfl), fun j job hjob => ⟨job.verdict, ?_⟩⟩
    rw [hjobs, if_neg]
    · exact hjob
    · rintro rfl
      rw [hfresh] at hjob
      cases hjob
  have hrecords : t.records = s.records := by rw [← ht]; rfl
  constructor
  · rw [← ht]
    exact h.current
  · intro j job hjob
    rw [hjobs] at hjob
    rw [hrecords]
    split at hjob
    · rename_i hj
      cases hjob
      refine ⟨by rw [hj, ← ht]; exact Nat.lt_succ_self _, le_rfl, ?_⟩
      change j ∈ t.authenticationJobs
      rw [hj, ← ht]
      exact List.mem_append_right _ (List.mem_singleton_self _)
    · obtain ⟨hlt, hs, hjust⟩ := h.jobs j job hjob
      refine ⟨by rw [← ht]; exact Nat.lt_succ_of_lt hlt, hs, hx.job hs (fun _ hmem => ?_) hjust⟩
      rw [← ht]
      exact List.mem_append_left _ hmem
  · intro m e hget
    have hget' : (s.exchanges.modify n (fun e => { e with phase := .verifying s.nextJob })).get? m = some e := by
      rw [← ht] at hget
      exact hget
    rw [hrecords]
    rw [Dict.get?_modify] at hget'
    split at hget'
    · rename_i hm
      obtain ⟨old, hold, rfl⟩ := Option.map_eq_some_iff.mp hget'
      obtain ⟨hlt, hs, -⟩ := h.exchanges n old hold
      refine ⟨by rw [hm, ← ht]; exact hlt, hs, by rw [← ht]; exact hmode, ⟨token, s.records.length, none⟩, ?_, hs,
        hn old hold⟩
      rw [hjobs, if_pos rfl]
    · obtain ⟨hlt, hs, hjust⟩ := h.exchanges m e hget'
      exact ⟨by rw [← ht]; exact hlt, hs, hx.exchange hs hjust⟩
  · rw [← ht]
    change (s.authenticationJobs ++ [s.nextJob]).length ≤ 2
    rw [List.length_append, List.length_singleton]
    omega

theorem Sound.limited (h : s.Sound digest) {limit : RateLimit} {calls : List (ℚ × ℤ)} :
    ({ s with authenticationLimit := limit, authenticationCalls := calls } : ControlPlane).Sound digest :=
  ⟨h.current, h.jobs, h.exchanges, h.slots⟩

theorem Sound.authenticate (h : s.Sound digest) {n : ℕ} {request : ApiRequest} {clock : ℚ}
    (hn : ∀ e, s.exchanges.get? n = some e → e.request = request) : (s.authenticate n request clock).Sound digest := by
  unfold ControlPlane.authenticate
  split
  · rename_i hmode
    refine h.letThrough fun e _ htoken => ?_
    rw [hmode] at htoken
    cases htoken
  · rename_i hmode
    have htoken := token_of_ne hmode
    dsimp only
    split
    · exact h.limited.refuse (fun x _ => justified_rateLimited x _)
    · split
      · rename_i hb
        refine h.limited.refuse fun x hx _ => ⟨htoken, fun token hb' => ?_⟩
        rw [hn x hx, hb] at hb'
        cases hb'
      · rename_i token hb
        split
        · exact h.limited.refuse (fun x _ => justified_rateLimited x _)
        · rename_i hslots
          exact h.limited.startHash htoken (Nat.lt_of_not_le hslots) (fun x hx => (hn x hx) ▸ hb)

theorem Sound.arrive (h : s.Sound digest) (request : ApiRequest) (clock : ℚ) :
    (s.arrive request clock).Sound digest := by
  have hget : ∀ m, (s.accept request).exchanges.get? m = if m = s.nextExchange then
      some ⟨request, s.records.length, .abandoned⟩ else s.exchanges.get? m := fun m => Dict.get?_set _ _ _ _
  have hsound : (s.accept request).Sound digest := by
    refine ⟨h.current, h.jobs, fun m e he => ?_, h.slots⟩
    rw [hget] at he
    split at he
    · rename_i hm
      cases he
      exact ⟨hm ▸ Nat.lt_succ_self _, le_rfl, trivial⟩
    · obtain ⟨hlt, hs, hjust⟩ := h.exchanges m e he
      exact ⟨Nat.lt_succ_of_lt hlt, hs, hjust⟩
  refine hsound.authenticate fun e he => ?_
  rw [hget, if_pos rfl] at he
  cases he
  rfl

theorem Sound.setVerdict (h : s.Sound digest) {j : ℕ} {verdict : Verdict} (hs : s.setVerdict j verdict = some t)
    (hv : ∀ job, s.jobs.get? j = some job → HashJob.Justified digest s j { job with verdict := some verdict }) :
    t.Sound digest := by
  obtain ⟨job, hget, hs⟩ := Option.bind_eq_some_iff.mp hs
  split at hs
  · cases hs
    have hx : Extends s { s with jobs := s.jobs.set j { job with verdict := some verdict } } := by
      refine ⟨rfl, .inl rfl, fun i old hold => ?_⟩
      rw [Dict.get?_set]
      split
      · rename_i hi
        rw [hi, hget] at hold
        cases hold
        exact ⟨some verdict, rfl⟩
      · exact ⟨old.verdict, hold⟩
    refine ⟨h.current, fun i job' hjob => ?_, fun m e hm => ?_, h.slots⟩
    · rw [Dict.get?_set] at hjob
      split at hjob
      · rename_i hi
        cases hjob
        obtain ⟨hlt, hsince, -⟩ := h.jobs j job hget
        exact ⟨hi ▸ hlt, hsince, hx.job hsince (fun _ hm => hm) (hi ▸ hv job hget)⟩
      · obtain ⟨hlt, hsince, hjust⟩ := h.jobs i job' hjob
        exact ⟨hlt, hsince, hx.job hsince (fun _ hm => hm) hjust⟩
    · obtain ⟨hlt, hsince, hjust⟩ := h.exchanges m e hm
      exact ⟨hlt, hsince, hx.exchange hsince hjust⟩
  · cases hs

theorem Sound.hash (h : s.Sound digest) {j : ℕ} {job : HashJob} (hget : s.jobs.get? j = some job)
    (hs : s.setVerdict j (if AdministratorTokens.verify digest s.store job.token then .valid else .invalid) = some t) :
    t.Sound digest := by
  refine h.setVerdict hs fun job' hget' => ?_
  cases hget.symm.trans hget'
  have hmem : s.store.authRecord ∈ s.window job.since := window_mono (h.jobs j job hget).2.1 (window_self h.current)
  have hverify := AdministratorTokens.verify_eq digest s.store job.token
  cases hv : AdministratorTokens.verify digest s.store job.token with
  | false =>
    rw [hv] at hverify
    exact ⟨_, hmem, hverify.symm⟩
  | true =>
    rw [hv] at hverify
    obtain ⟨r, hr, hp⟩ := Option.any_eq_true _ _ |>.mp hverify.symm
    exact ⟨r, hr ▸ hmem, hp⟩

theorem Sound.finish (h : s.Sound digest) {j : ℕ} (hs : s.finish j = some t) : t.Sound digest := by
  obtain ⟨job, hget, hs⟩ := Option.bind_eq_some_iff.mp hs
  obtain ⟨hverdict, hs⟩ := Option.ite_none_right_eq_some.mp hs
  cases hs
  have hx : Extends s { s with authenticationJobs := s.authenticationJobs.filter (· ≠ j) } := .of_same rfl rfl rfl
  refine ⟨h.current, fun i job' hjob => ?_, fun m e hm => ?_, (List.length_filter_le _ _).trans h.slots⟩
  · obtain ⟨hlt, hsince, hjust⟩ := h.jobs i job' hjob
    refine ⟨hlt, hsince, hx.job hsince (fun hnone hmem => List.mem_filter.mpr ⟨hmem, ?_⟩) hjust⟩
    -- the job that ends has its verdict
    rw [decide_eq_true_iff]
    rintro rfl
    cases hget.symm.trans hjob
    rw [hnone] at hverdict
    cases hverdict
  · obtain ⟨hlt, hsince, hjust⟩ := h.exchanges m e hm
    exact ⟨hlt, hsince, hx.exchange hsince hjust⟩

theorem Sound.resume (h : s.Sound digest) {n : ℕ} {clock : ℚ} (hs : s.resume n clock = some t) : t.Sound digest := by
  obtain ⟨e, hget, hs⟩ := Option.bind_eq_some_iff.mp hs
  obtain ⟨-, -, hjust⟩ := h.exchanges n e hget
  split at hs
  · rename_i j hphase
    unfold Exchange.Justified at hjust
    rw [hphase] at hjust
    obtain ⟨hmode, job, hjob, hsince, hb⟩ := hjust
    obtain ⟨-, -, hverdict⟩ := h.jobs j job hjob
    unfold HashJob.Justified at hverdict
    split at hs
    · cases hs
    · rw [hjob, Option.bind_some] at hs
      split at hs
      · cases hs
      · rename_i hv
        cases hs
        rw [hv] at hverdict
        refine h.letThrough fun x hx _ => ?_
        cases hget.symm.trans hx
        obtain ⟨r, hr, hp⟩ := hverdict
        exact ⟨job.token, hb, r, window_mono hsince hr, hp⟩
      · rename_i hv
        cases hs
        rw [hv] at hverdict
        refine h.refuse fun x hx _ => ⟨hmode, fun token hb' => ?_⟩
        cases hget.symm.trans hx
        cases hb.symm.trans hb'
        obtain ⟨o, ho, hp⟩ := hverdict
        exact ⟨o, window_mono hsince ho, hp⟩
      · cases hs
        exact h.refuse (fun x _ hx => by simp [ApiError.internal, ApiError.authenticationRequired] at hx)
  · cases hs

theorem Sound.disconnect (h : s.Sound digest) {n : ℕ} (hs : s.disconnect n = some t) : t.Sound digest := by
  obtain ⟨e, -, hs⟩ := Option.bind_eq_some_iff.mp hs
  split at hs
  · cases hs
    exact h.turn rfl rfl rfl rfl rfl rfl rfl rfl (fun _ _ => trivial)
  · cases hs

end Steps

section Results

variable {P : Pydantic}

theorem toApiError_ne (e : ConfigurationError) : e.toApiError ≠ .authenticationRequired := by
  cases e <;> simp [ConfigurationError.toApiError, ApiError.validation, ApiError.stateConflict, ApiError.internal,
    ApiError.authenticationRequired]

theorem requestError_ne (e : RequestError) : e.toApiError ≠ .authenticationRequired := by
  cases e with
  | value e => exact toApiError_ne e
  | versionConflict current => exact toApiError_ne (.versionConflict current)
  | ifMatchRequired | versionInvalid | tokenNotConfigured =>
    simp [RequestError.toApiError, ApiError.stateConflict, ApiError.authenticationRequired]

theorem configResponse_ne (m : ConfigurationManager AppConfig) (S : AdministrativeStore) :
    configResponse P m S ≠ .error .authenticationRequired := by
  unfold configResponse
  dsimp only
  split <;> simp [ApiError.internal, ApiError.authenticationRequired]

theorem handle_ne (P : Pydantic) (digest : String → List UInt8 → List UInt8) (m : ConfigurationManager AppConfig)
    (S : AdministrativeStore) (draw : Draw) (call : ControlCall) :
    (handle P digest m S draw call).2.2 ≠ .error .authenticationRequired := by
  cases call with
  | getConfig => exact configResponse_ne m S
  | validateConfig values =>
    dsimp only [handle]
    split
    · exact fun h => toApiError_ne _ (ApiResponse.error.inj h)
    · exact fun h => by cases h
  | patchConfig values ifMatch =>
    dsimp only [handle]
    split
    · exact fun h => requestError_ne _ (ApiResponse.error.inj h)
    · exact configResponse_ne _ _
  | putSecret value =>
    dsimp only [handle]
    split
    · exact fun h => by cases h
    · simp [ApiError.requestValidation, ApiError.authenticationRequired]
  | deleteSecret | rotateToken | other => exact fun h => by cases h

theorem runHandler_cases {n : ℕ} {draw : Draw} (hs : s.runHandler P digest n draw = some t) :
    ∃ e m S response, s.exchanges.get? n = some e ∧ e.phase = .admitted ∧
      handle P digest s.manager s.store draw e.request.call = (m, S, response) ∧
      t = { s.setPhase n (.answered response) with
        manager := m
        store := S
        records := if S.authRecord = s.store.authRecord then s.records else S.authRecord :: s.records } := by
  obtain ⟨e, hget, hs⟩ := Option.bind_eq_some_iff.mp hs
  split at hs
  · rename_i hphase
    cases hs
    exact ⟨e, _, _, _, hget, hphase, rfl, rfl⟩
  · cases hs

theorem Sound.runHandler (h : s.Sound digest) {n : ℕ} {draw : Draw} (hs : s.runHandler P digest n draw = some t) :
    t.Sound digest := by
  obtain ⟨e, m, S, response, -, -, hcall, rfl⟩ := runHandler_cases hs
  have hne : response ≠ .error .authenticationRequired := by
    have hresponse := handle_ne P digest s.manager s.store draw e.request.call
    rwa [hcall] at hresponse
  generalize ht : ({ s.setPhase n (.answered response) with manager := m, store := S, records := _ } : ControlPlane) = t
  have hrecords : t.records = s.records ∧ S.authRecord = s.store.authRecord ∨
      t.records = S.authRecord :: s.records := by
    rw [← ht]
    dsimp only
    split
    · rename_i hsame
      exact .inl ⟨rfl, hsame⟩
    · exact .inr rfl
  have hx : Extends s t := by
    refine ⟨by rw [← ht]; rfl, hrecords.imp And.left (fun hr => ⟨_, hr⟩), fun j job hjob => ⟨job.verdict, ?_⟩⟩
    rw [← ht]
    exact hjob
  have hlength := hx.length
  refine ⟨?_, fun j job hjob => ?_, fun k x hk => ?_, by rw [← ht]; exact h.slots⟩
  · have hstore : t.store = S := by rw [← ht]
    rw [hstore]
    rcases hrecords with ⟨hr, hsame⟩ | hr
    · rw [hr, hsame]
      exact h.current
    · rw [hr]
      rfl
  · obtain ⟨hlt, hsince, hjust⟩ := h.jobs j job (by rw [← ht] at hjob; exact hjob)
    refine ⟨by rw [← ht]; exact hlt, hsince.trans hlength, hx.job hsince (fun _ hm => ?_) hjust⟩
    rw [← ht]
    exact hm
  · have hk' : (s.exchanges.modify n (fun e => { e with phase := .answered response })).get? k = some x := by
      rw [← ht] at hk
      exact hk
    rw [Dict.get?_modify] at hk'
    have hnext : t.nextExchange = s.nextExchange := by rw [← ht]; rfl
    rw [hnext]
    split at hk'
    · rename_i hkn
      obtain ⟨old, hold, rfl⟩ := Option.map_eq_some_iff.mp hk'
      obtain ⟨hlt, hsince, -⟩ := h.exchanges n old hold
      refine ⟨hkn ▸ hlt, hsince.trans hlength, ?_⟩
      unfold Exchange.Justified
      cases response with
      | error error => exact fun herror => absurd (herror ▸ rfl) hne
      | _ => trivial
    · obtain ⟨hlt, hsince, hjust⟩ := h.exchanges k x hk'
      exact ⟨hlt, hsince.trans hlength, hx.exchange hsince hjust⟩

def Issued (digest : String → List UInt8 → List UInt8) (o : Option AuthRecord) (token : String) : Prop :=
  ∃ random salt now, token = AdministratorTokens.tokenUrlsafe random ∧
    o = some (AdministratorTokens.record digest token salt now)

def IssuedOnly (digest : String → List UInt8 → List UInt8) (o : Option AuthRecord) : Prop :=
  ∀ r, o = some r → ∃ token, Issued digest o token

def Initial (digest : String → List UInt8 → List UInt8) (s : ControlPlane) : Prop :=
  ∃ m S draw clock, IssuedOnly digest S.authRecord ∧ s = create digest m S draw clock

/-- Whom the gate lets through and whom it turns away. -/
structure Authenticated (digest : String → List UInt8 → List UInt8) (s : ControlPlane) (e : Exchange) : Prop where
  admitted : e.phase = .admitted → ∃ token issued r, bearer e.request.authorization = some token ∧
    some r ∈ s.window e.since ∧ Issued digest (some r) issued ∧
    (token = issued ∨ AdministratorTokens.matchesToken token = true ∧ digest token r.salt = digest issued r.salt)
  refused : e.phase = .answered (.error .authenticationRequired) → ∀ token,
    bearer e.request.authorization = some token → ∃ o ∈ s.window e.since, ¬Issued digest o token

def isAdmitted : ExchangePhase → Bool
  | .admitted => true
  | _ => false

end Results

end ControlPlane

end PitbluCore
