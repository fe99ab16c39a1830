import RegistryAuth.Proofs.Issuance.Order

/-! # Cancelled requests

A request may be cancelled before it is served and by any component that is
called for it. From then on no stage is entered, and the request gets no token:
unless a stage has failed by itself, it ends as cancelled.
-/

namespace RegistryAuth.TokenPipeline

variable {pipeline : TokenPipeline} {occasion : Occasion} {request : TokenRequest}
  {cancelled : Bool} {calls : List Call}

theorem isCancelledAfter_of_prefix {before : List Call} (hp : before <+: calls)
    (h : pipeline.isCancelledAfter occasion cancelled calls = false) :
    pipeline.isCancelledAfter occasion cancelled before = false := by
  obtain ⟨rest, rfl⟩ := hp
  rw [isCancelledAfter_append, Bool.or_eq_false_iff] at h
  exact h.1

/-- Once the request is cancelled, no stage is entered. -/
theorem Timely.of_cancelled (h : pipeline.Timely occasion cancelled calls)
    {before rest : List Call} (hc : calls = before ++ rest)
    (hb : pipeline.isCancelledAfter occasion cancelled before = true) :
    ∀ call ∈ rest, call.entersStage = false := by
  intro call hm
  obtain ⟨first, last, rfl⟩ := List.append_of_mem hm
  cases hs : call.entersStage with
  | false => rfl
  | true =>
    have hf := h (before ++ first) call last (by simpa using hc) hs
    rw [isCancelledAfter_append, hb] at hf
    cases hf

theorem Ends.not_cancelled {response : TokenResponse}
    (h : pipeline.Ends occasion request cancelled (.ok response) calls) :
    pipeline.isCancelledAfter occasion cancelled calls = false := by
  cases h with
  | answered _ _ hc => exact hc

/-- A request that is cancelled and at which no stage fails ends as cancelled. -/
theorem Ends.of_cancelled {result : Except AuthError TokenResponse}
    (h : pipeline.Ends occasion request cancelled result calls)
    (hc : pipeline.isCancelledAfter occasion cancelled calls = true)
    (hf : ∀ call ∈ calls, ∀ e, pipeline.Halts occasion call e → e = .cancelled) :
    result = .error .cancelled := by
  cases h with
  | answered _ _ hn => simp [hn] at hc
  | cancelled h => rfl
  | halted h hn ht he => rw [hf _ (by simp) _ ((halts_iff hn).mpr he)]

/-- Only a request that is never cancelled gets a response. Once it is cancelled no stage is entered,
and it ends as cancelled unless one has failed. -/
theorem cancelled_request_gets_no_token (pipeline : TokenPipeline) (occasion : Occasion)
    (cancelled : Bool) (request : TokenRequest) :
    (∀ response, (pipeline.service.issue occasion cancelled request).result = .ok response →
      ∀ before, before <+: (pipeline.service.issue occasion cancelled request).calls →
        pipeline.isCancelledAfter occasion cancelled before = false) ∧
    pipeline.Timely occasion cancelled
      (pipeline.service.issue occasion cancelled request).calls ∧
    (∀ before, before <+: (pipeline.service.issue occasion cancelled request).calls →
      pipeline.isCancelledAfter occasion cancelled before = true →
      (∀ call ∈ before, call.asksForToken = false) →
      ∀ call ∈ (pipeline.service.issue occasion cancelled request).calls,
        call.asksForToken = false) ∧
    (∀ call ∈ (pipeline.service.issue occasion cancelled request).calls,
      (pipeline.answer occasion call).outcome = .hangs →
      (pipeline.service.issue occasion cancelled request).result = .error .cancelled) ∧
    ((∀ call ∈ (pipeline.service.issue occasion cancelled request).calls,
        (∀ e, (pipeline.answer occasion call).outcome ≠ .failure e) ∧
        ¬ pipeline.RefusesOwner call ∧ ¬ pipeline.Widens call) →
      pipeline.isCancelledAfter occasion cancelled
        (pipeline.service.issue occasion cancelled request).calls = true →
      (pipeline.service.issue occasion cancelled request).result = .error .cancelled) := by
  have h := service_ends pipeline occasion cancelled request
  generalize (pipeline.service.issue occasion cancelled request).result = result at h
  generalize (pipeline.service.issue occasion cancelled request).calls = calls at h
  refine ⟨?_, h.timely, ?_, fun call hm hh => (h.of_halts hm (.hung hh)).2, ?_⟩
  · rintro response rfl before hp
    exact isCancelledAfter_of_prefix hp h.not_cancelled
  · rintro before ⟨rest, hc⟩ hb hn call hm
    rw [← hc] at hm
    rcases List.mem_append.mp hm with hm | hm
    · exact hn call hm
    · have hs := h.timely.of_cancelled hc.symm hb call hm
      cases call <;> first | rfl | cases hs
  · intro hf hc
    refine h.of_cancelled hc fun call hm e he => ?_
    obtain ⟨hf, ho, hw⟩ := hf call hm
    cases he with
    | failed hv => exact absurd hv (hf e)
    | hung => rfl
    | refused hr => exact absurd hr ho
    | widened hg hs => exact absurd ⟨_, _, _, rfl, hg, hs⟩ hw

end RegistryAuth.TokenPipeline
