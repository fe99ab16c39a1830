import RegistryAuth.Proofs.Except
import RegistryAuth.Proofs.Issuance.Grants

/-! # Owners of refresh tokens

A refresh token is redeemed for the subject that is found under the id that the
token was verified for, if it is enabled and carries that id itself. Whatever a
verifier and a repository answer, a redeemed token stands for no one else, and
an error of theirs is told as it is.
-/

namespace RegistryAuth

namespace RefreshTokenAuthenticator

variable {authenticator : RefreshTokenAuthenticator} {now : Instant} {token id : String}
  {progress : Progress} {subject : Subject} {e : AuthError}

/-- Apart from the calls made, redeeming a token is a computation on the answers to them. -/
theorem fst_authenticate (authenticator : RefreshTokenAuthenticator) (now : Instant)
    (token : String) (progress : Progress) :
    (authenticator.authenticate now token progress).1 =
      (authenticator.verifier.verify now token).outcome.result >>= fun id =>
        (authenticator.repository.findSubject id).outcome.result >>= fun found =>
          (ownerOf id found).mapError .failed := by
  rw [authenticate, Attempt.fst_bind, Attempt.call_apply]
  refine congrArg _ (funext fun id => ?_)
  rw [Attempt.fst_bind, Attempt.call_apply]
  exact congrArg _ (funext fun found => congrArg Prod.fst (ownerOf_apply id found _))

theorem calls_authenticate (authenticator : RefreshTokenAuthenticator) (now : Instant)
    (token : String) (progress : Progress) :
    (authenticator.authenticate now token progress).2.calls =
      match (authenticator.verifier.verify now token).outcome with
      | .value id => progress.calls ++ [.verifyRefreshToken token, .findSubject id]
      | _ => progress.calls ++ [.verifyRefreshToken token] := by
  rw [authenticate, Attempt.snd_bind, Attempt.call_apply]
  cases hv : (authenticator.verifier.verify now token).outcome with
  | value id =>
    simp only [Outcome.result, Attempt.snd_bind, Attempt.call_apply]
    cases hf : (authenticator.repository.findSubject id).outcome with
    | value found =>
      refine (congrArg (·.2.calls) (ownerOf_apply id found _)).trans ?_
      simp [Progress.answered]
    | _ => simp [Progress.answered]
  | _ => rfl

theorem authenticate_eq_ok_iff :
    (authenticator.authenticate now token progress).1 = .ok subject ↔
      ∃ id, (authenticator.verifier.verify now token).outcome = .value id ∧
        (authenticator.repository.findSubject id).outcome = .value (some subject) ∧
        subject.id = id ∧ subject.enabled = true := by
  simp only [fst_authenticate, Except.bind_eq_ok_iff, Outcome.result_eq_ok_iff,
    Except.mapError_eq_ok_iff, ownerOf_eq_ok_iff]
  grind

theorem authenticate_eq_failed_iff :
    (authenticator.authenticate now token progress).1 = .error (.failed e) ↔
      (authenticator.verifier.verify now token).outcome = .failure e ∨
      ∃ id, (authenticator.verifier.verify now token).outcome = .value id ∧
        ((authenticator.repository.findSubject id).outcome = .failure e ∨
          e = .authenticationFailed ∧ ∃ found,
            (authenticator.repository.findSubject id).outcome = .value found ∧
            ∀ subject, found = some subject → subject.enabled = true → subject.id ≠ id) := by
  simp only [fst_authenticate, Except.bind_eq_error_iff, Outcome.result_eq_ok_iff,
    Outcome.result_eq_failed_iff, Except.mapError_eq_error_iff, Halt.failed.injEq,
    exists_eq_right, TokenPipeline.ownerOf_eq_error_iff]
  grind

theorem authenticate_eq_hung_iff :
    (authenticator.authenticate now token progress).1 = .error .hung ↔
      (authenticator.verifier.verify now token).outcome = .hangs ∨
      ∃ id, (authenticator.verifier.verify now token).outcome = .value id ∧
        (authenticator.repository.findSubject id).outcome = .hangs := by
  simp [fst_authenticate, Except.bind_eq_error_iff, Outcome.result_eq_ok_iff,
    Outcome.result_eq_hung_iff, Except.mapError_eq_error_iff]

end RefreshTokenAuthenticator

/-- Only a verifier and a repository together make up an authenticator. -/
theorem Authenticator.ofComponents_eq_ok_iff {password : PasswordAuthenticator}
    {issuer : RefreshTokenIssuer} {authenticator : Authenticator} :
    Authenticator.ofComponents password issuer = .ok authenticator ↔
      ∃ verifier repository, issuer.verifier? = some verifier ∧
        password.repository? = some repository ∧
        authenticator = ⟨password, ⟨verifier, repository⟩⟩ := by
  unfold ofComponents
  rcases issuer.verifier? with _ | verifier <;> rcases password.repository? with _ | repository <;>
    simp [eq_comm]

namespace TokenPipeline

variable {pipeline : TokenPipeline} {occasion : Occasion} {request : TokenRequest} {token : String}
  {calls opening : List Call} {subject : Subject} {access : AccessToken} {response : TokenResponse}

/-- Whoever is answered for a refresh token is the enabled subject found under its id. -/
theorem Responds.redeemed
    (h : pipeline.Responds occasion request calls opening subject access response)
    (hc : request.credential = some (.refreshToken token)) :
    (pipeline.authenticator.refreshToken.verifier.verify occasion.now token).outcome =
        .value subject.id ∧
      (pipeline.authenticator.refreshToken.repository.findSubject subject.id).outcome =
        .value (some subject) ∧ subject.enabled = true := by
  have ha := h.authenticated
  rw [hc] at ha
  cases ha with
  | refreshToken hv hf he => exact ⟨hv, hf, he⟩

/-- For any verifier and any repository, a refresh token is redeemed for the enabled subject that is
found under the verified id and carries it, and for no other. Errors of the two are passed on, and
all else fails authentication. So the access token of a redemption is made for the verified id. -/
theorem redemption_bound_to_owner :
    (∀ (authenticator : RefreshTokenAuthenticator) (now : Instant) (token : String)
      (progress : Progress),
      (∀ subject, (authenticator.authenticate now token progress).1 = .ok subject ↔
        ∃ id, (authenticator.verifier.verify now token).outcome = .value id ∧
          (authenticator.repository.findSubject id).outcome = .value (some subject) ∧
          subject.id = id ∧ subject.enabled = true) ∧
      (∀ e, (authenticator.authenticate now token progress).1 = .error (.failed e) ↔
        (authenticator.verifier.verify now token).outcome = .failure e ∨
        ∃ id, (authenticator.verifier.verify now token).outcome = .value id ∧
          ((authenticator.repository.findSubject id).outcome = .failure e ∨
            e = .authenticationFailed ∧ ∃ found,
              (authenticator.repository.findSubject id).outcome = .value found ∧
              ∀ subject, found = some subject → subject.enabled = true → subject.id ≠ id)) ∧
      ((authenticator.authenticate now token progress).1 = .error .hung ↔
        (authenticator.verifier.verify now token).outcome = .hangs ∨
        ∃ id, (authenticator.verifier.verify now token).outcome = .value id ∧
          (authenticator.repository.findSubject id).outcome = .hangs) ∧
      (authenticator.authenticate now token progress).2.calls =
        match (authenticator.verifier.verify now token).outcome with
        | .value id => progress.calls ++ [.verifyRefreshToken token, .findSubject id]
        | _ => progress.calls ++ [.verifyRefreshToken token]) ∧
    ∀ (password : PasswordAuthenticator) (issuer : RefreshTokenIssuer)
      (verifier : RefreshTokenVerifier) (repository : SubjectRepository),
      issuer.verifier? = some verifier → password.repository? = some repository →
      ∃ authenticator, Authenticator.ofComponents password issuer = .ok authenticator ∧
        ∀ (pipeline : TokenPipeline) (occasion : Occasion) (cancelled : Bool)
          (request : TokenRequest) (token : String) (response : TokenResponse),
          pipeline.authenticator = authenticator →
          request.credential = some (.refreshToken token) →
          (pipeline.service.issue occasion cancelled request).result = .ok response →
          ∃ subject access, (verifier.verify occasion.now token).outcome = .value subject.id ∧
            (repository.findSubject subject.id).outcome = .value (some subject) ∧
            subject.enabled = true ∧
            (pipeline.service.issue occasion cancelled request).calls.filter
              (· matches .issueAccessToken ..) =
                [.issueAccessToken subject request.service response.scopes] ∧
            (pipeline.accessIssuer.issue occasion subject request.service response.scopes).outcome =
              .value access ∧
            response.accessToken = access.token ∧ response.subject = subject.id := by
  refine ⟨fun authenticator now token progress =>
    ⟨fun _ => RefreshTokenAuthenticator.authenticate_eq_ok_iff,
      fun _ => RefreshTokenAuthenticator.authenticate_eq_failed_iff,
      RefreshTokenAuthenticator.authenticate_eq_hung_iff,
      authenticator.calls_authenticate now token progress⟩, ?_⟩
  intro password issuer verifier repository hv hr
  refine ⟨_, Authenticator.ofComponents_eq_ok_iff.mpr ⟨verifier, repository, hv, hr, rfl⟩, ?_⟩
  intro pipeline occasion cancelled request token response ha hc ho
  have h := service_ends pipeline occasion cancelled request
  rw [ho] at h
  obtain ⟨opening, subject, access, hs⟩ := h.responds
  have ht := hs.redeemed hc
  rw [ha] at ht
  exact ⟨subject, access, ht.1, ht.2.1, ht.2.2, hs.issueAccessToken_once, hs.issued,
    hs.accessToken_eq, hs.subject_eq⟩

/-- The repository finds the same subject under every id. Its own token is redeemed for it, and that
of another is refused. -/
theorem found_under_other_id_is_refused :
    ∃ (pipeline : TokenPipeline) (occasion : Occasion) (own other : TokenRequest)
      (subject : Subject) (response : TokenResponse),
      (∀ id, (pipeline.authenticator.refreshToken.repository.findSubject id).outcome =
        .value (some subject)) ∧
      own.credential = some (.refreshToken "alice") ∧
      (pipeline.service.issue occasion false own).result = .ok response ∧
      subject.id = "alice" ∧ response.subject = subject.id ∧
      (pipeline.service.issue occasion false own).calls.filter
        (· matches .issueAccessToken ..) =
          [.issueAccessToken subject own.service response.scopes] ∧
      other.credential = some (.refreshToken "bob") ∧
      (pipeline.authenticator.refreshToken.authenticate occasion.now "bob" ⟨[], false⟩).1 =
        .error (.failed .authenticationFailed) := by
  let alice : Subject := Subject.ofId "alice"
  let repository : SubjectRepository := ⟨fun _ => .value (some alice)⟩
  let verifier : RefreshTokenVerifier := ⟨fun _ token => .value token⟩
  let password : PasswordAuthenticator :=
    ⟨fun _ _ => .failure .authenticationFailed, some repository⟩
  let issuer : RefreshTokenIssuer := ⟨fun _ _ => .value "refresh", some verifier⟩
  let occasion : Occasion := ⟨Instant.ofSeconds 0, "a", "r"⟩
  let request (token : String) : TokenRequest :=
    ⟨some (.refreshToken token), none, [⟨"repository", "app", ["pull"]⟩], false⟩
  let pipeline : TokenPipeline := ⟨⟨password, ⟨verifier, repository⟩⟩, Authorizer.allowAll,
    ⟨fun occasion _ _ _ => .value ⟨"access", 60, occasion.now⟩⟩, issuer⟩
  let response : TokenResponse :=
    ⟨"alice", "access", 60, occasion.now, none, (request "alice").scopes⟩
  have ho : (pipeline.service.issue occasion false (request "alice")).result = .ok response := rfl
  obtain ⟨redeems, serves⟩ := redemption_bound_to_owner
  obtain ⟨_, hc, issues⟩ := serves password issuer verifier repository rfl rfl
  cases hc
  obtain ⟨subject, access, hv, hf, -, hm, -, -, hs⟩ :=
    issues pipeline occasion false (request "alice") "alice" response rfl rfl ho
  cases hf
  refine ⟨pipeline, occasion, request "alice", request "bob", alice, response, fun _ => rfl, rfl, ho,
    rfl, hs, hm, rfl, ?_⟩
  refine ((redeems ⟨verifier, repository⟩ occasion.now "bob" ⟨[], false⟩).2.1 _).mpr
    (.inr ⟨"bob", rfl, .inr ⟨rfl, some alice, rfl, ?_⟩⟩)
  rintro _ ⟨⟩ -
  decide

end TokenPipeline

end RegistryAuth
