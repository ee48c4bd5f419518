import PitbluCore.AuthenticationGate

namespace PitbluCore

open Library

namespace RateLimit

/-- The calls a limiter has had since it was `start`, the last one first. -/
def Logged (start limit : RateLimit) (calls : List (ℚ × ℤ)) : Prop :=
  ∃ times, (start.last :: times).IsChain (· ≤ ·) ∧ limit = start.after times ∧ calls.reverse = start.calls times

variable {start limit : RateLimit} {calls : List (ℚ × ℤ)} {now : ℚ}

theorem calls_append (s : RateLimit) (times : List ℚ) (now : ℚ) :
    s.calls (times ++ [now]) = s.calls times ++ [(now, ((s.after times).retryAfter now).1)] := by
  induction times generalizing s with
  | nil => rfl
  | cons first times ih =>
    rw [List.cons_append, RateLimit.calls, ih, RateLimit.calls, List.cons_append]
    rfl

theorem after_append (s : RateLimit) (times : List ℚ) (now : ℚ) :
    s.after (times ++ [now]) = ((s.after times).retryAfter now).2 := by
  simp only [after, List.foldl_append, List.foldl_cons, List.foldl_nil]

theorem chain_append {times : List ℚ} (h : (start.last :: times).IsChain (· ≤ ·))
    (hn : (start.after times).last ≤ now) :
    (start.last :: (times ++ [now])).IsChain (· ≤ ·) := by
  induction times generalizing start with
  | nil =>
    rw [List.nil_append]
    exact List.isChain_cons_cons.mpr ⟨hn, List.IsChain.singleton now⟩
  | cons first times ih =>
    obtain ⟨hfirst, h⟩ := List.isChain_cons_cons.mp h
    have hlast := (retryAfter_frame start first).1
    rw [List.cons_append]
    refine List.isChain_cons_cons.mpr ⟨hfirst, ?_⟩
    have hrest : ((start.retryAfter first).2.last :: (times ++ [now])).IsChain (· ≤ ·) := ih (by rw [hlast]; exact h) hn
    rwa [hlast] at hrest

theorem Logged.call (h : Logged start limit calls) (hn : limit.last ≤ now) :
    Logged start (limit.retryAfter now).2 ((now, (limit.retryAfter now).1) :: calls) := by
  obtain ⟨times, hchain, rfl, hcalls⟩ := h
  refine ⟨times ++ [now], chain_append hchain hn, (after_append start times now).symm, ?_⟩
  rw [List.reverse_cons, hcalls, calls_append]

def admittedTimes (calls : List (ℚ × ℤ)) : List ℚ := (calls.filter (fun c => c.2 = 0)).map Prod.fst

theorem log_admitted {times : List ℚ} (h : times.Sublist (admittedTimes calls)) {retry : ℤ} (hr : retry = 0) (now : ℚ) :
    (now :: times).Sublist (admittedTimes ((now, retry) :: calls)) := by
  rw [admittedTimes, List.filter_cons_of_pos (by simpa using hr), List.map_cons]
  exact h.cons_cons now

theorem log_call {times : List ℚ} (h : times.Sublist (admittedTimes calls)) (call : ℚ × ℤ) :
    times.Sublist (admittedTimes (call :: calls)) := by
  refine h.trans (List.Sublist.map _ ?_)
  exact (List.sublist_cons_self call calls).filter _

end RateLimit

namespace ControlPlane

variable {P : Pydantic} {digest : String → List UInt8 → List UInt8} {s t : ControlPlane}
  {authentication mutation : RateLimit}

def Monotonic (s : ControlPlane) : ControlAction → Prop
  | .arrive _ clock | .resume _ clock => s.authenticationLimit.last ≤ clock ∧ s.mutationLimit.last ≤ clock
  | _ => True

structure Throttled (authentication mutation : RateLimit) (s : ControlPlane) : Prop where
  authentication : RateLimit.Logged authentication s.authenticationLimit s.authenticationCalls
  mutation : RateLimit.Logged mutation s.mutationLimit s.mutationCalls
  hashes : s.hashes.Sublist (RateLimit.admittedTimes s.authenticationCalls)
  mutations : (s.mutations.map Prod.snd).Sublist (RateLimit.admittedTimes s.mutationCalls)
  served : ∀ n e, s.exchanges.get? n = some e → isMutation e.request.method = true → isAdmitted e.phase = true →
    n ∈ s.mutations.map Prod.fst

section Throttled

theorem Throttled.congr (h : s.Throttled authentication mutation) (ha : t.authenticationLimit = s.authenticationLimit)
    (hac : t.authenticationCalls = s.authenticationCalls) (hm : t.mutationLimit = s.mutationLimit)
    (hmc : t.mutationCalls = s.mutationCalls) (hh : t.hashes = s.hashes) (hms : t.mutations = s.mutations)
    (he : t.exchanges = s.exchanges) : t.Throttled authentication mutation := by
  refine ⟨?_, ?_, ?_, ?_, ?_⟩
  · rw [ha, hac]
    exact h.authentication
  · rw [hm, hmc]
    exact h.mutation
  · rw [hh, hac]
    exact h.hashes
  · rw [hms, hmc]
    exact h.mutations
  · rw [hms, he]
    exact h.served

theorem Throttled.turn (h : s.Throttled authentication mutation) (n : ℕ) (phase : ExchangePhase)
    (hp : isAdmitted phase = false) : (s.setPhase n phase).Throttled authentication mutation := by
  refine ⟨h.authentication, h.mutation, h.hashes, h.mutations, fun m e hget hmut hadm => ?_⟩
  change (s.exchanges.modify n _).get? m = some e at hget
  rw [Dict.get?_modify] at hget
  split at hget
  · obtain ⟨old, -, rfl⟩ := Option.map_eq_some_iff.mp hget
    exact absurd (hp.symm.trans hadm) Bool.noConfusion
  · exact h.served m e hget hmut hadm

theorem Throttled.refuse (h : s.Throttled authentication mutation) (n : ℕ) (e : ApiError) :
    (s.refuse n e).Throttled authentication mutation := h.turn n _ rfl

theorem Throttled.letThrough (h : s.Throttled authentication mutation) {n : ℕ} {method : String} {clock : ℚ}
    (hclock : s.mutationLimit.last ≤ clock)
    (hn : ∀ e, s.exchanges.get? n = some e → e.request.method = method) :
    (s.letThrough n method clock).Throttled authentication mutation := by
  unfold ControlPlane.letThrough
  split
  · have hcall := h.mutation.call hclock
    dsimp only
    split
    · rename_i hretry
      refine ⟨h.authentication, hcall, h.hashes, RateLimit.log_admitted h.mutations hretry clock,
        fun m e hget hmut hadm => ?_⟩
      change (s.exchanges.modify n _).get? m = some e at hget
      rw [Dict.get?_modify] at hget
      split at hget
      · rename_i hm
        subst hm
        exact List.mem_cons_self
      · exact List.mem_cons_of_mem _ (h.served m e hget hmut hadm)
    · have hcalled : ({ s with
          mutationLimit := (s.mutationLimit.retryAfter clock).2
          mutationCalls := (clock, (s.mutationLimit.retryAfter clock).1) :: s.mutationCalls } : ControlPlane).Throttled
          authentication mutation := ⟨h.authentication, hcall, h.hashes, RateLimit.log_call h.mutations _, h.served⟩
      exact hcalled.refuse n _
  · rename_i hmethod
    refine ⟨h.authentication, h.mutation, h.hashes, h.mutations, fun m e hget hmut hadm => ?_⟩
    change (s.exchanges.modify n _).get? m = some e at hget
    rw [Dict.get?_modify] at hget
    split at hget
    · obtain ⟨old, hold, rfl⟩ := Option.map_eq_some_iff.mp hget
      rw [hn old hold] at hmut
      exact absurd hmut hmethod
    · exact h.served m e hget hmut hadm

theorem Throttled.authenticate (h : s.Throttled authentication mutation) {n : ℕ} {request : ApiRequest} {clock : ℚ}
    (hclock : s.authenticationLimit.last ≤ clock ∧ s.mutationLimit.last ≤ clock)
    (hn : ∀ e, s.exchanges.get? n = some e → e.request = request) :
    (s.authenticate n request clock).Throttled authentication mutation := by
  unfold ControlPlane.authenticate
  split
  · exact h.letThrough hclock.2 (fun e he => congrArg ApiRequest.method (hn e he))
  · have hcall := h.authentication.call hclock.1
    have hcalled : ({ s with
        authenticationLimit := (s.authenticationLimit.retryAfter clock).2
        authenticationCalls := (clock, (s.authenticationLimit.retryAfter clock).1) :: s.authenticationCalls } :
        ControlPlane).Throttled authentication mutation :=
      ⟨hcall, h.mutation, RateLimit.log_call h.hashes _, h.mutations, h.served⟩
    dsimp only
    split
    · exact hcalled.refuse n _
    · rename_i hretry
      split
      · exact hcalled.refuse n _
      · split
        · exact hcalled.refuse n _
        · have hturn := hcalled.turn n (.verifying s.nextJob) rfl
          exact ⟨hcall, h.mutation, RateLimit.log_admitted h.hashes (not_ne_iff.mp hretry) clock, h.mutations,
            hturn.served⟩

theorem Throttled.arrive (h : s.Throttled authentication mutation) {request : ApiRequest} {clock : ℚ}
    (hclock : s.authenticationLimit.last ≤ clock ∧ s.mutationLimit.last ≤ clock) :
    (s.arrive request clock).Throttled authentication mutation := by
  have hget : ∀ m, (s.accept request).exchanges.get? m = if m = s.nextExchange then
      some ⟨request, s.records.length, .abandoned⟩ else s.exchanges.get? m := fun m => Dict.get?_set _ _ _ _
  have haccept : (s.accept request).Throttled authentication mutation := by
    refine ⟨h.authentication, h.mutation, h.hashes, h.mutations, fun m e he hmut hadm => ?_⟩
    rw [hget] at he
    split at he
    · cases he
      cases hadm
    · exact h.served m e he hmut hadm
  refine haccept.authenticate hclock fun e he => ?_
  rw [hget, if_pos rfl] at he
  cases he
  rfl

theorem Throttled.step {a : ControlAction} (h : s.Throttled authentication mutation) (hg : Monotonic s a)
    (hs : s.step P digest a = some t) : t.Throttled authentication mutation := by
  cases a with
  | arrive request clock =>
    cases hs
    exact h.arrive hg
  | hash j =>
    obtain ⟨_, -, hs⟩ := Option.bind_eq_some_iff.mp hs
    obtain ⟨_, -, hs⟩ := Option.bind_eq_some_iff.mp hs
    split at hs <;> cases hs
    exact h.congr rfl rfl rfl rfl rfl rfl rfl
  | crash j =>
    obtain ⟨_, -, hs⟩ := Option.bind_eq_some_iff.mp hs
    split at hs <;> cases hs
    exact h.congr rfl rfl rfl rfl rfl rfl rfl
  | finish j =>
    obtain ⟨_, -, hs⟩ := Option.bind_eq_some_iff.mp hs
    obtain ⟨-, hs⟩ := Option.ite_none_right_eq_some.mp hs
    cases hs
    exact h.congr rfl rfl rfl rfl rfl rfl rfl
  | resume n clock =>
    obtain ⟨e, hget, hs⟩ := Option.bind_eq_some_iff.mp hs
    split at hs
    · split at hs
      · cases hs
      · obtain ⟨_, -, hs⟩ := Option.bind_eq_some_iff.mp hs
        split at hs <;> cases hs
        · refine h.letThrough hg.2 fun x hx => ?_
          cases hget.symm.trans hx
          rfl
        · exact h.refuse n _
        · exact h.refuse n _
    · cases hs
  | disconnect n =>
    obtain ⟨_, -, hs⟩ := Option.bind_eq_some_iff.mp hs
    split at hs <;> cases hs
    exact h.turn n _ rfl
  | handle n draw =>
    obtain ⟨e, m, S, response, -, -, -, rfl⟩ := runHandler_cases hs
    exact (h.turn n (.answered response) rfl).congr rfl rfl rfl rfl rfl rfl rfl

def running (s : ControlPlane) : List (ℕ × HashJob) := s.jobs.entries.filter (fun e => e.2.verdict = none)

end Throttled

end ControlPlane

end PitbluCore
