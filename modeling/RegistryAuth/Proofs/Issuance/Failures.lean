import RegistryAuth.Proofs.Issuance.Order

/-! # Failures of a request

A call that fails is the last one made for its request, and the request ends
with just its error. Conversely an error is the last call's own unless it tells
of an owner that is refused, of a grant that widens the request, or of a request
that was cancelled.
-/

namespace RegistryAuth.TokenPipeline

variable {pipeline : TokenPipeline} {occasion : Occasion} {request : TokenRequest}
  {cancelled : Bool} {calls : List Call} {call : Call} {e : AuthError}
  {result : Except AuthError TokenResponse}

theorem Ends.getLast?_of_halts
    (h : pipeline.Ends occasion request cancelled result calls) (hm : call ∈ calls)
    (he : pipeline.Halts occasion call e) :
    calls.getLast? = some call ∧ result = .error e := by
  obtain ⟨⟨before, rfl⟩, hr⟩ := h.of_halts hm he
  exact ⟨List.getLast?_concat .., hr⟩

/-- Every error has a cause: the last call, or that the request was cancelled. -/
theorem Ends.halts_or_cancelled
    (h : pipeline.Ends occasion request cancelled (.error e) calls) :
    (∃ call, calls.getLast? = some call ∧ pipeline.Halts occasion call e) ∨
      e = .cancelled ∧ pipeline.isCancelledAfter occasion cancelled calls = true := by
  cases h with
  | cancelled _ hc => exact .inr ⟨rfl, hc⟩
  | halted _ hn _ he => exact .inl ⟨_, List.getLast?_concat .., (halts_iff hn).mpr he⟩

/-- Calls keep their order, and one that fails is the last and gives its error unchanged. An error
that no call gives has one of the few causes of `Halts`, or is that of a cancelled request. -/
theorem failed_call_ends_request (pipeline : TokenPipeline) (occasion : Occasion)
    (cancelled : Bool) (request : TokenRequest) :
    (∃ id subject granted, (pipeline.service.issue occasion cancelled request).calls <+:
      request.callOrder id subject granted) ∧
    (pipeline.service.issue occasion cancelled request).calls.Pairwise
      (fun earlier later => earlier.place < later.place) ∧
    (∀ call ∈ (pipeline.service.issue occasion cancelled request).calls, ∀ e,
      (pipeline.answer occasion call).outcome = .failure e →
      (pipeline.service.issue occasion cancelled request).calls.getLast? = some call ∧
      (pipeline.service.issue occasion cancelled request).result = .error e) ∧
    ∀ e, (pipeline.service.issue occasion cancelled request).result = .error e →
      (∃ call,
        (pipeline.service.issue occasion cancelled request).calls.getLast? = some call ∧
        pipeline.Halts occasion call e) ∨
      e = .cancelled ∧ pipeline.isCancelledAfter occasion cancelled
        (pipeline.service.issue occasion cancelled request).calls = true := by
  have h := service_ends pipeline occasion cancelled request
  refine ⟨h.prefix_callOrder, h.ascending, ?_, ?_⟩
  · intro call hm e hf
    exact h.getLast?_of_halts hm (.failed hf)
  · intro e he
    rw [he] at h
    exact h.halts_or_cancelled

end RegistryAuth.TokenPipeline
