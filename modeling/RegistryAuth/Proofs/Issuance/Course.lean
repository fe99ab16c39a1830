import RegistryAuth.Proofs.Attempt
import RegistryAuth.TokenService

/-! # The course of a request

The pipeline seen as a machine. A phase holds what the components have answered
so far and fixes the next call, whose answer leads to another phase or to an
error. A request reaches a phase by calls that are each made in time, and every
run of the pipeline ends from a phase that the request has reached.
-/

namespace RegistryAuth

namespace Call

/-- Whether a call is the first of its stage. Finding the owner of a refresh token belongs to the
stage that begins by verifying the token. -/
def entersStage : Call → Bool
  | findSubject _ => false
  | _ => true

end Call

inductive Phase where
  | arrived
  | verified (id : String)
  | authenticated (subject : Subject)
  | authorized (subject : Subject) (granted : List Scope)
  | accessIssued (subject : Subject) (granted : List Scope) (access : AccessToken)
  | refreshIssued (subject : Subject) (granted : List Scope) (access : AccessToken)
      (refresh : String)

namespace Phase

/-- A request without a credential is anonymous from the start. -/
def first (request : TokenRequest) : Phase :=
  if request.credential.isSome then arrived else authenticated Subject.anonymous

/-- The response in a phase that leaves no call to make. -/
def response? (request : TokenRequest) : Phase → Option TokenResponse
  | accessIssued subject granted access =>
    if request.issueRefreshToken && !subject.isAnonymous then none
    else some ⟨subject.id, access.token, access.expiresIn, access.issuedAt, none, granted⟩
  | refreshIssued subject granted access refresh =>
    some ⟨subject.id, access.token, access.expiresIn, access.issuedAt, some refresh, granted⟩
  | _ => none

end Phase

/-- The owner of a refresh token for `id` among what was found: it must be enabled and carry that
id. -/
def ownerOf (id : String) : Option Subject → Except AuthError Subject
  | some subject =>
    if subject.enabled && subject.id == id then .ok subject else .error .authenticationFailed
  | none => .error .authenticationFailed

theorem ownerOf_apply (id : String) (found : Option Subject) (progress : Progress) :
    (match found with
      | some subject =>
        if subject.enabled && subject.id == id then Attempt.pure subject
        else Attempt.fail .authenticationFailed
      | none => Attempt.fail .authenticationFailed) progress =
      ((ownerOf id found).mapError .failed, progress) := by
  rcases found with _ | subject
  · rfl
  · by_cases h : (subject.enabled && subject.id == id) = true
    · simp only [ownerOf, h, if_true]
      rfl
    · simp only [ownerOf, h]
      rfl

namespace TokenPipeline

section

variable (pipeline : TokenPipeline) (occasion : Occasion)

/-- The answer of a component to a call, without the value that it may give. -/
def answer : Call → Reply Unit
  | .authenticate username secret =>
    (pipeline.authenticator.password.authenticate username secret).forget
  | .verifyRefreshToken token =>
    (pipeline.authenticator.refreshToken.verifier.verify occasion.now token).forget
  | .findSubject id => (pipeline.authenticator.refreshToken.repository.findSubject id).forget
  | .authorize subject requested => (pipeline.authorizer.authorize subject requested).forget
  | .issueAccessToken subject audience scopes =>
    (pipeline.accessIssuer.issue occasion subject audience scopes).forget
  | .issueRefreshToken subject => (pipeline.refreshIssuer.issue occasion subject).forget

/-- Whether a request is cancelled once the calls have been answered, given whether it was from
the start. -/
def isCancelledAfter (cancelled : Bool) (calls : List Call) : Bool :=
  cancelled || calls.any fun call => (pipeline.answer occasion call).cancels

variable (request : TokenRequest)

/-- The next call in a phase, and where its answer leads. -/
inductive Next : Phase → Call → Reply (Except AuthError Phase) → Prop where
  | authenticate {username secret : String} :
      request.credential = some (.password username secret) →
      Next .arrived (.authenticate username secret)
        ((pipeline.authenticator.password.authenticate username secret).map fun subject =>
          .ok (.authenticated subject))
  | verifyRefreshToken {token : String} : request.credential = some (.refreshToken token) →
      Next .arrived (.verifyRefreshToken token)
        ((pipeline.authenticator.refreshToken.verifier.verify occasion.now token).map fun id =>
          .ok (.verified id))
  | findSubject {id : String} : Next (.verified id) (.findSubject id)
      ((pipeline.authenticator.refreshToken.repository.findSubject id).map fun found =>
        (ownerOf id found).map .authenticated)
  | authorize {subject : Subject} :
      Next (.authenticated subject) (.authorize subject request.scopes)
        ((pipeline.authorizer.authorize subject request.scopes).map fun granted =>
          if Scope.isSubset granted request.scopes then .ok (.authorized subject granted)
          else .error (.widened granted request.scopes))
  | issueAccessToken {subject : Subject} {granted : List Scope} :
      Next (.authorized subject granted) (.issueAccessToken subject request.service granted)
        ((pipeline.accessIssuer.issue occasion subject request.service granted).map fun access =>
          .ok (.accessIssued subject granted access))
  | issueRefreshToken {subject : Subject} {granted : List Scope} {access : AccessToken} :
      (request.issueRefreshToken && !subject.isAnonymous) = true →
      Next (.accessIssued subject granted access) (.issueRefreshToken subject)
        ((pipeline.refreshIssuer.issue occasion subject).map fun refresh =>
          .ok (.refreshIssued subject granted access refresh))

variable (cancelled : Bool)

/-- The calls by which a request reaches a phase. -/
inductive Reached : List Call → Phase → Prop where
  | first : Reached [] (Phase.first request)
  | next {calls : List Call} {phase after : Phase} {call : Call}
      {reply : Reply (Except AuthError Phase)} : Reached calls phase →
      pipeline.Next occasion request phase call reply →
      (call.entersStage = true → pipeline.isCancelledAfter occasion cancelled calls = false) →
      reply.outcome = .value (.ok after) → Reached (calls ++ [call]) after

/-- The error in which a call ends a request by its outcome. A call that hangs is ended by the
cancellation of the request. -/
def endingError? : Outcome (Except AuthError Phase) → Option AuthError
  | .value (.ok _) => none
  | .value (.error e) => some e
  | .failure e => some e
  | .hangs => some .cancelled

/-- How a request may end, and after which calls. -/
inductive Ends : Except AuthError TokenResponse → List Call → Prop where
  | answered {calls : List Call} {phase : Phase} {response : TokenResponse} :
      pipeline.Reached occasion request cancelled calls phase →
      phase.response? request = some response →
      pipeline.isCancelledAfter occasion cancelled calls = false → Ends (.ok response) calls
  | cancelled {calls : List Call} {phase : Phase} :
      pipeline.Reached occasion request cancelled calls phase →
      pipeline.isCancelledAfter occasion cancelled calls = true → Ends (.error .cancelled) calls
  | halted {calls : List Call} {phase : Phase} {call : Call}
      {reply : Reply (Except AuthError Phase)} {e : AuthError} :
      pipeline.Reached occasion request cancelled calls phase →
      pipeline.Next occasion request phase call reply →
      (call.entersStage = true → pipeline.isCancelledAfter occasion cancelled calls = false) →
      endingError? reply.outcome = some e → Ends (.error e) (calls ++ [call])

/-- The progress of a request that has reached a phase. -/
def At (phase : Phase) (progress : Progress) : Prop :=
  pipeline.Reached occasion request cancelled progress.calls phase ∧
    progress.cancelled = pipeline.isCancelledAfter occasion cancelled progress.calls

end

variable {pipeline : TokenPipeline} {occasion : Occasion} {request : TokenRequest}
  {cancelled : Bool}

theorem Next.forget {phase : Phase} {call : Call} {reply : Reply (Except AuthError Phase)}
    (h : pipeline.Next occasion request phase call reply) :
    reply.forget = pipeline.answer occasion call := by
  cases h <;> exact Reply.forget_map ..

theorem isCancelledAfter_append (calls more : List Call) :
    pipeline.isCancelledAfter occasion cancelled (calls ++ more) =
      (pipeline.isCancelledAfter occasion cancelled calls ||
        more.any fun call => (pipeline.answer occasion call).cancels) := by
  simp [isCancelledAfter, Bool.or_assoc]

section Triples

open Attempt

variable {α : Type} {phase : Phase} {call : Call} {reply : Reply α} {f : α → Except AuthError Phase}

theorem call_triple (hn : pipeline.Next occasion request phase call (reply.map f)) :
    Triple (fun p => pipeline.At occasion request cancelled phase p ∧
        (call.entersStage = true → p.cancelled = false))
      (Attempt.call call reply)
      (fun a p => match f a with
        | .ok after => pipeline.At occasion request cancelled after p
        | .error e => pipeline.Ends occasion request cancelled (.error e) p.calls)
      (fun e => pipeline.Ends occasion request cancelled (.error e)) := by
  have hforget := hn.forget
  rw [Reply.forget_map] at hforget
  apply Triple.call
  · rintro p a ⟨⟨hp, hc⟩, ht⟩ hr
    rw [hc] at ht
    cases hf : f a with
    | ok after =>
      refine ⟨hp.next hn ht (by simp [hr, hf]), ?_⟩
      simp [Progress.answered, isCancelledAfter_append, hc, ← hforget, Reply.forget]
    | error e => exact .halted hp hn ht (by simp [hr, hf, endingError?])
  · rintro p e ⟨⟨hp, hc⟩, ht⟩ hr
    rw [hc] at ht
    exact .halted hp hn ht (by simp [hr, endingError?])
  · rintro p ⟨⟨hp, hc⟩, ht⟩ hr
    rw [hc] at ht
    exact .halted hp hn ht (by simp [hr, endingError?])

theorem guarded_triple {x : Attempt α} {Q : α → Progress → Prop}
    (hx : Triple (fun p => pipeline.At occasion request cancelled phase p ∧ p.cancelled = false) x
      Q (fun e => pipeline.Ends occasion request cancelled (.error e))) :
    Triple (pipeline.At occasion request cancelled phase) (guarded x) Q
      (fun e => pipeline.Ends occasion request cancelled (.error e)) :=
  .guarded (fun _ hp hc => .cancelled hp.1 (hp.2 ▸ hc)) hx

theorem guarded_call_triple
    (hn : pipeline.Next occasion request phase call (reply.map f)) :
    Triple (pipeline.At occasion request cancelled phase) (guarded (Attempt.call call reply))
      (fun a p => match f a with
        | .ok after => pipeline.At occasion request cancelled after p
        | .error e => pipeline.Ends occasion request cancelled (.error e) p.calls)
      (fun e => pipeline.Ends occasion request cancelled (.error e)) :=
  guarded_triple ((call_triple hn).of_imp (fun _ hp => hp.imp_right fun h _ => h) fun _ _ h => h)

theorem authenticated_triple :
    Triple (pipeline.At occasion request cancelled (Phase.first request))
      (pipeline.authenticated occasion request.credential)
      (fun subject => pipeline.At occasion request cancelled (.authenticated subject))
      (fun e => pipeline.Ends occasion request cancelled (.error e)) := by
  rcases hc : request.credential with _ | ⟨username, secret⟩ | token
  · exact .pure fun p hp => by simpa [Phase.first, hc] using hp
  · have hf : Phase.first request = .arrived := by simp [Phase.first, hc]
    exact hf ▸ guarded_call_triple (.authenticate hc)
  · have hf : Phase.first request = .arrived := by simp [Phase.first, hc]
    refine hf ▸ guarded_triple (.bind ((call_triple (.verifyRefreshToken hc)).of_imp
      (fun p hp => hp.imp_right fun h _ => h) fun _ _ h => h) fun id => ?_)
    -- The look-up belongs to the stage that verifying began, so it needs no check of its own.
    refine .bind ((call_triple .findSubject).of_imp (fun p hp => ⟨hp, nofun⟩)
      fun _ _ h => h) fun found => ?_
    rcases found with _ | subject
    · exact .fail fun p hp => hp
    · by_cases h : (subject.enabled && subject.id == id) = true
      · simp only [ownerOf, h, if_true]
        exact .pure fun p hp => hp
      · simp only [ownerOf, h]
        exact .fail fun p hp => hp

theorem authorized_triple (subject : Subject) :
    Triple (pipeline.At occasion request cancelled (.authenticated subject))
      (pipeline.authorized subject request.scopes)
      (fun granted => pipeline.At occasion request cancelled (.authorized subject granted))
      (fun e => pipeline.Ends occasion request cancelled (.error e)) := by
  refine .bind (guarded_call_triple .authorize) fun granted => ?_
  by_cases h : Scope.isSubset granted request.scopes = true
  · simp only [h, if_true]
    exact .pure fun p hp => hp
  · simp only [h]
    exact .fail fun p hp => hp

/-- After the refresh stage no call is left, whether or not the stage was needed. -/
theorem refreshToken?_triple (subject : Subject) (granted : List Scope) (access : AccessToken) :
    Triple (pipeline.At occasion request cancelled (.accessIssued subject granted access))
      (pipeline.refreshToken? occasion request.issueRefreshToken subject)
      (fun refresh p => ∃ phase, pipeline.At occasion request cancelled phase p ∧
        phase.response? request = some ⟨subject.id, access.token, access.expiresIn, access.issuedAt,
          refresh, granted⟩)
      (fun e => pipeline.Ends occasion request cancelled (.error e)) := by
  unfold refreshToken?
  by_cases h : (request.issueRefreshToken && !subject.isAnonymous) = true
  · rw [if_pos h]
    refine .bind (guarded_call_triple (.issueRefreshToken h)) fun refresh => ?_
    exact .pure fun p hp => ⟨_, hp, rfl⟩
  · rw [if_neg h]
    exact .pure fun p hp => ⟨_, hp, if_neg h⟩

theorem respond_triple :
    Triple (pipeline.At occasion request cancelled (Phase.first request))
      (pipeline.respond occasion request)
      (fun response p => pipeline.Ends occasion request cancelled (.ok response) p.calls)
      (fun e => pipeline.Ends occasion request cancelled (.error e)) := by
  refine .bind authenticated_triple fun subject => ?_
  refine .bind (authorized_triple subject) fun granted => ?_
  refine .bind (.failIfCancelled fun p hp hc => .cancelled hp.1 (hp.2 ▸ hc)) fun _ => ?_
  refine .bind ((guarded_call_triple .issueAccessToken).of_imp (fun p hp => hp.1) fun _ _ h => h)
    fun access => ?_
  refine .bind (refreshToken?_triple subject granted access) fun refresh => ?_
  refine .bind (.failIfCancelled ?_) fun _ => .pure ?_
  · rintro p ⟨phase, hp, -⟩ hc
    exact .cancelled hp.1 (hp.2 ▸ hc)
  · rintro p ⟨⟨phase, hp, hr⟩, hc⟩
    exact .answered hp.1 hr (hp.2 ▸ hc)

end Triples

theorem service_ends (pipeline : TokenPipeline) (occasion : Occasion) (cancelled : Bool)
    (request : TokenRequest) :
    pipeline.Ends occasion request cancelled
      (pipeline.service.issue occasion cancelled request).result
      (pipeline.service.issue occasion cancelled request).calls := by
  have hp : pipeline.At occasion request cancelled (Phase.first request) ⟨[], cancelled⟩ :=
    ⟨.first, by simp [isCancelledAfter]⟩
  have h := respond_triple.run hp
  change pipeline.Ends occasion request cancelled ((pipeline.respond occasion request).run
    cancelled).1 ((pipeline.respond occasion request).run cancelled).2.calls
  rcases hr : (pipeline.respond occasion request).run cancelled with ⟨_ | _, after⟩ <;>
    rw [hr] at h <;> exact h

end TokenPipeline

end RegistryAuth
