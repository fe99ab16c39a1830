import RegistryAuth.Proofs.Issuance.Order
import RegistryAuth.Proofs.Scope.Inclusion

/-! # What issued tokens grant

A response names the authenticated subject and the granted scopes, which lie
within the requested ones, and holds the tokens that the issuers made for just
these. A grant beyond the request ends it before a token is asked for.
-/

namespace RegistryAuth

namespace TokenPipeline

section

variable (pipeline : TokenPipeline) (occasion : Occasion) (request : TokenRequest)

/-- The response is made for a subject, authenticated by the calls `opening`, from what the
authoriser and the issuers answered for that subject. -/
structure Responds (calls opening : List Call) (subject : Subject) (access : AccessToken)
    (response : TokenResponse) : Prop where
  authenticated :
    pipeline.authenticator.Authenticates occasion.now request.credential opening subject
  granted : pipeline.Grants request subject response.scopes
  issued : (pipeline.accessIssuer.issue occasion subject request.service
    response.scopes).outcome = .value access
  subject_eq : response.subject = subject.id
  accessToken_eq : response.accessToken = access.token
  expiresIn_eq : response.expiresIn = access.expiresIn
  issuedAt_eq : response.issuedAt = access.issuedAt
  refreshed_iff : response.refreshToken.isSome = true ↔
    request.issueRefreshToken = true ∧ subject.id ≠ ""
  refreshed : ∀ refresh, response.refreshToken = some refresh →
    (pipeline.refreshIssuer.issue occasion subject).outcome = .value refresh
  calls_eq : calls = opening ++ .authorize subject request.scopes ::
    .issueAccessToken subject request.service response.scopes ::
      (if response.refreshToken.isSome then [.issueRefreshToken subject] else [])

end

variable {pipeline : TokenPipeline} {occasion : Occasion} {request : TokenRequest}
  {cancelled : Bool} {calls opening : List Call} {subject : Subject} {access : AccessToken}
  {response : TokenResponse}

theorem Ends.responds
    (h : pipeline.Ends occasion request cancelled (.ok response) calls) :
    ∃ opening subject access,
      pipeline.Responds occasion request calls opening subject access response := by
  cases h with
  | @answered _ phase _ h hr hc =>
    cases phase with
    | accessIssued subject granted access =>
      simp only [Phase.response?] at hr
      split at hr
      next => cases hr
      next hw =>
        cases hr
        obtain ⟨opening, ho, hg, hi, rfl⟩ := h.holds
        refine ⟨opening, subject, access, ho, hg, hi, rfl, rfl, rfl, rfl, ?_, nofun, rfl⟩
        simpa [Subject.isAnonymous] using hw
    | refreshIssued subject granted access refresh =>
      cases hr
      obtain ⟨opening, ho, hg, hi, hw, ht, rfl⟩ := h.holds
      refine ⟨opening, subject, access, ho, hg, hi, rfl, rfl, rfl, rfl, ?_, ?_, rfl⟩
      · simpa [Subject.isAnonymous] using hw
      · rintro _ ⟨⟩
        exact ht
    | _ => cases hr

/-- The access issuer is called once, for the granted scopes. -/
theorem Responds.issueAccessToken_once
    (h : pipeline.Responds occasion request calls opening subject access response) :
    calls.filter (· matches .issueAccessToken ..) =
      [.issueAccessToken subject request.service response.scopes] := by
  have ho : opening.filter (· matches .issueAccessToken ..) = [] := by
    rw [h.authenticated.calls_eq]
    rcases request.credential with _ | ⟨_, _⟩ | _ <;> rfl
  rw [h.calls_eq, List.filter_append, ho]
  cases response.refreshToken <;> rfl

theorem Ends.of_widened {result : Except AuthError TokenResponse} {requested granted : List Scope}
    (h : pipeline.Ends occasion request cancelled result calls)
    (hm : .authorize subject requested ∈ calls)
    (hg : (pipeline.authorizer.authorize subject requested).outcome = .value granted)
    (hs : Scope.isSubset granted requested = false) :
    result = .error (.widened granted requested) ∧
      ∀ call ∈ calls, call.asksForToken = false := by
  obtain ⟨⟨before, rfl⟩, hr⟩ := h.of_halts hm (.widened hg hs)
  refine ⟨hr, fun call hc => ?_⟩
  rcases List.mem_append.mp hc with hc | hc
  · have hp := (List.pairwise_append.mp h.ascending).2.2 call hc (.authorize subject requested)
      (by simp)
    change call.place < 2 at hp
    rw [Bool.eq_false_iff, ne_eq, Call.asksForToken_iff]
    omega
  · rw [List.mem_singleton.mp hc]
    rfl

/-- Tokens are issued only for the authenticated subject and for scopes within the request, and none
at all where the authoriser grants more. -/
theorem tokens_only_as_granted (pipeline : TokenPipeline) (occasion : Occasion)
    (cancelled : Bool) (request : TokenRequest) :
    (∀ response, (pipeline.service.issue occasion cancelled request).result = .ok response →
      Scope.isSubset response.scopes request.scopes = true ∧
      (∀ type name action, Scope.Allows response.scopes type name action →
        Scope.Allows request.scopes type name action) ∧
      ∃ opening subject access, pipeline.Responds occasion request
          (pipeline.service.issue occasion cancelled request).calls opening subject access
          response ∧
        (pipeline.service.issue occasion cancelled request).calls.filter
          (· matches .issueAccessToken ..) =
            [.issueAccessToken subject request.service response.scopes]) ∧
    ∀ subject granted,
      .authorize subject request.scopes ∈
        (pipeline.service.issue occasion cancelled request).calls →
      (pipeline.authorizer.authorize subject request.scopes).outcome = .value granted →
      Scope.isSubset granted request.scopes = false →
      (∃ detail, (pipeline.service.issue occasion cancelled request).result =
        .error (.internal detail)) ∧
      ∀ call ∈ (pipeline.service.issue occasion cancelled request).calls,
        call.asksForToken = false := by
  have h := service_ends pipeline occasion cancelled request
  constructor
  · intro response hr
    rw [hr] at h
    obtain ⟨opening, subject, access, hs⟩ := h.responds
    exact ⟨hs.granted.2, fun _ _ _ ha => ha.of_isSubset hs.granted.2, opening, subject, access,
      hs, hs.issueAccessToken_once⟩
  · intro subject granted hm hg hs
    obtain ⟨hr, hc⟩ := h.of_widened hm hg hs
    exact ⟨⟨_, hr⟩, hc⟩

theorem tokens_granted_to_login :
    ∃ (pipeline : TokenPipeline) (occasion : Occasion) (request : TokenRequest)
      (response : TokenResponse),
      (pipeline.service.issue occasion false request).result = .ok response ∧
      response.refreshToken = some "refresh" ∧
      Scope.isSubset response.scopes request.scopes = true := by
  let users : PasswordAuthenticator := ⟨fun name _ => .value (Subject.ofId name), none⟩
  let tokens : RefreshTokenAuthenticator :=
    ⟨⟨fun _ _ => .failure .authenticationFailed⟩, ⟨fun _ => .value none⟩⟩
  let pipeline : TokenPipeline := ⟨⟨users, tokens⟩, Authorizer.allowAll,
    ⟨fun occasion _ _ _ => .value ⟨"access", 60, occasion.now⟩⟩,
    ⟨fun _ _ => .value "refresh", none⟩⟩
  let occasion : Occasion := ⟨Instant.ofSeconds 0, "a", "r"⟩
  let request : TokenRequest := ⟨some (.password "alice" "secret"), none,
    [⟨"repository", "app", ["pull"]⟩], true⟩
  let response : TokenResponse := ⟨"alice", "access", 60, occasion.now, some "refresh",
    request.scopes⟩
  have h : (pipeline.service.issue occasion false request).result = .ok response := by rfl
  exact ⟨pipeline, occasion, request, response, h, rfl,
    ((tokens_only_as_granted pipeline occasion false request).1 response h).1⟩

end TokenPipeline

end RegistryAuth
