import RegistryAuth.TokenService

/-! # Reports of requests

The logged service asks the service within it once for each request and hands on
what that answers. The report of a request follows from what may be known about
it: neither a password nor a token can be told from the log.
-/

namespace RegistryAuth

/-- Credentials that differ in their secret at most. -/
inductive Credential.SameButSecret : Credential → Credential → Prop where
  | password (username here there : String) :
    SameButSecret (.password username here) (.password username there)
  | refreshToken (here there : String) : SameButSecret (.refreshToken here) (.refreshToken there)

structure TokenRequest.SameButSecret (here there : TokenRequest) : Prop where
  credential : Option.Rel Credential.SameButSecret here.credential there.credential
  service : here.service = there.service
  scopes : here.scopes = there.scopes
  issueRefreshToken : here.issueRefreshToken = there.issueRefreshToken

/-- Answers that differ in the tokens, their lifetime and their time of issue at most. -/
inductive TokenResponse.SameButTokens :
    Except AuthError TokenResponse → Except AuthError TokenResponse → Prop where
  | error (e : AuthError) : SameButTokens (.error e) (.error e)
  | ok {here there : TokenResponse} (subject : here.subject = there.subject)
    (scopes : here.scopes = there.scopes)
    (refreshToken : here.refreshToken.isSome = there.refreshToken.isSome) :
    SameButTokens (.ok here) (.ok there)

namespace TokenRequest

variable {here there : TokenRequest} {first second : Except AuthError TokenResponse}

/-- What a request claims about its sender before it is authenticated. -/
theorem SameButSecret.claims_eq (h : here.SameButSecret there) :
    here.grantType = there.grantType ∧ here.username = there.username := by
  obtain ⟨here, _, _, _⟩ := here
  obtain ⟨there, _, _, _⟩ := there
  cases h.credential with
  | none => exact ⟨rfl, rfl⟩
  | some hc => cases hc <;> exact ⟨rfl, rfl⟩

/-- The report depends neither on the secret nor on the tokens. -/
theorem event_eq (h : here.SameButSecret there) (hr : TokenResponse.SameButTokens first second) :
    here.event first = there.event second := by
  obtain ⟨hg, hu⟩ := h.claims_eq
  cases hr with
  | error e => cases e <;> simp only [event, hg, hu, h.service, h.scopes]
  | ok subject scopes refreshToken =>
    simp only [event, hg, h.service, h.scopes, subject, scopes, refreshToken]

end TokenRequest

namespace TokenService

/-- What a service is asked: a request with its occasion, cancelled from the start or not. -/
structure Inquiry where
  occasion : Occasion
  cancelled : Bool
  request : TokenRequest
deriving DecidableEq, Repr

def answer (service : TokenService) (inquiry : Inquiry) : Issuance :=
  service.issue inquiry.occasion inquiry.cancelled inquiry.request

/-- Only a breakdown is an error of the server. -/
def severity : Except AuthError TokenResponse → LogLevel
  | .ok _ => .info
  | .error (.internal _) => .error
  | .error _ => .warn

theorem level_event (request : TokenRequest) (result : Except AuthError TokenResponse) :
    (request.event result).level = severity result := by
  cases result with
  | ok response => rfl
  | error e => cases e <;> rfl

section Recording

variable {m : Type → Type} [Monad m]

/-- Keeps what was asked before it is answered. -/
def recording (serve : Occasion → Bool → TokenRequest → m Issuance) (occasion : Occasion)
    (cancelled : Bool) (request : TokenRequest) : StateT (List Inquiry) m Issuance := do
  modify (· ++ [⟨occasion, cancelled, request⟩])
  serve occasion cancelled request

/-- The effects are those of a single inquiry. -/
theorem run_logging_recording [LawfulMonad m]
    (serve : Occasion → Bool → TokenRequest → m Issuance) (inquiry : Inquiry)
    (inquiries : List Inquiry) :
    (logging (recording serve) inquiry.occasion inquiry.cancelled inquiry.request).run inquiries =
      (fun issuance => (issuance.reported inquiry.request, inquiries ++ [inquiry])) <$>
        serve inquiry.occasion inquiry.cancelled inquiry.request := by
  simp [logging, recording]

end Recording

theorem answer_logged (service : TokenService) (inquiry : Inquiry) :
    service.logged.answer inquiry = (service.answer inquiry).reported inquiry.request := rfl

/-- A logged service asks the service within once, whatever effects that has, and adds one event to
its answer. From this event two requests cannot be told apart that differ in their secret alone and
whose answers differ in their tokens alone. -/
theorem logged_once_without_secrets {m : Type → Type} [Monad m] [LawfulMonad m]
    (serve : Occasion → Bool → TokenRequest → m Issuance) (service other : TokenService) :
    (∀ inquiry inquiries,
      (logging (recording serve) inquiry.occasion inquiry.cancelled inquiry.request).run
          inquiries =
        (fun issuance => (issuance.reported inquiry.request, inquiries ++ [inquiry])) <$>
          serve inquiry.occasion inquiry.cancelled inquiry.request) ∧
    (∀ inquiry, ∃ event,
      service.logged.answer inquiry = { service.answer inquiry with
        log := (service.answer inquiry).log ++ [event] } ∧
      event.level = severity (service.answer inquiry).result) ∧
    ∀ here there : Inquiry, here.request.SameButSecret there.request →
      TokenResponse.SameButTokens (service.answer here).result (other.answer there).result →
      ∃ event, (service.logged.answer here).log = (service.answer here).log ++ [event] ∧
        (other.logged.answer there).log = (other.answer there).log ++ [event] := by
  refine ⟨run_logging_recording serve, fun inquiry => ?_, fun here there h hr => ?_⟩
  · exact ⟨_, answer_logged service inquiry, level_event _ _⟩
  · refine ⟨here.request.event (service.answer here).result, rfl, ?_⟩
    rw [answer_logged, Issuance.reported, TokenRequest.event_eq h hr]

/-- Two logins of one user, with different passwords and answered with different tokens, leave the
same log. A service that counts its requests counts one. -/
theorem logins_logged_alike :
    let login (password : String) : TokenRequest :=
      ⟨some (.password "alice" password), some "registry", [⟨"repository", "a", ["pull"]⟩], true⟩
    let service (token : String) (lifetime : Nat) : TokenService :=
      ⟨fun occasion _ request => ⟨.ok ⟨"alice", token, lifetime, occasion.now, some token,
        request.scopes⟩, [], []⟩⟩
    let here : Inquiry := ⟨⟨Instant.ofSeconds 0, "a", "b"⟩, false, login "wonderland"⟩
    let there : Inquiry := ⟨⟨Instant.ofSeconds 9, "c", "d"⟩, true, login "looking-glass"⟩
    let counted : Occasion → Bool → TokenRequest → StateM Nat Issuance :=
      fun occasion cancelled request => do
        modify (· + 1)
        return (service "x" 60).issue occasion cancelled request
    ((service "x" 60).logged.answer here).log = ((service "y" 61).logged.answer there).log ∧
    ((service "x" 60).logged.answer here).log.length = 1 ∧
    ((logging (recording counted) here.occasion here.cancelled here.request).run []).run 0 =
      (((service "x" 60).logged.answer here, [here]), 1) := by
  intro login service here there counted
  have hs : here.request.SameButSecret there.request :=
    ⟨.some (.password _ _ _), rfl, rfl, rfl⟩
  obtain ⟨once, -, alike⟩ := logged_once_without_secrets counted (service "x" 60) (service "y" 61)
  obtain ⟨event, hh, ht⟩ := alike here there hs (.ok rfl rfl rfl)
  refine ⟨hh.trans ht.symm, by rw [hh]; rfl, ?_⟩
  rw [once here []]
  rfl

end TokenService

end RegistryAuth
