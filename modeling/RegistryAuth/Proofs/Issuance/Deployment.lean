import RegistryAuth.Proofs.Authorization.Policy
import RegistryAuth.Proofs.Components.Users
import RegistryAuth.Proofs.Except
import RegistryAuth.Proofs.Issuance.History
import RegistryAuth.Token.Issuers

/-! # The built-in components at work

A deployment is made of a user list, a policy and two issuers of signed tokens.
Each of these answers at once, so that the pipeline made of them comes to the
same result as a computation without calls and cancellation.
-/

namespace RegistryAuth

/-- The built-in components of a service, with a valid user list. -/
structure Deployment where
  users : UserConfig
  decoySalt : Bytes
  policy : Policy
  accessIssuer : JwtAccessIssuer
  refreshIssuer : JwtRefreshIssuer
  users_valid : users.validate = .ok ()

namespace Deployment

def table (deployment : Deployment) : UserTable :=
  .ofUsers deployment.decoySalt deployment.users.entries

def verifier (deployment : Deployment) : RefreshTokenVerifier :=
  ⟨fun now token => Reply.ofExcept (deployment.refreshIssuer.verify now token)⟩

def repository (deployment : Deployment) : SubjectRepository :=
  ⟨fun id => Reply.value ((deployment.table.find? id).map User.subject)⟩

def pipeline (deployment : Deployment) : TokenPipeline where
  authenticator := ⟨deployment.table.component, ⟨deployment.verifier, deployment.repository⟩⟩
  authorizer := deployment.policy.authorizer
  accessIssuer := deployment.accessIssuer.component
  refreshIssuer := deployment.refreshIssuer.component

/-- The subject that a credential stands for. -/
def authenticate (deployment : Deployment) (now : Instant) :
    Option Credential → Except AuthError Subject
  | none => .ok Subject.anonymous
  | some (.password username secret) => deployment.table.authenticate username secret
  | some (.refreshToken token) => do
    let id ← deployment.refreshIssuer.verify now token
    ownerOf id ((deployment.table.find? id).map User.subject)

def refreshTokenFor (deployment : Deployment) (occasion : Occasion) (wanted : Bool)
    (subject : Subject) : Except AuthError (Option String) :=
  if wanted && !subject.isAnonymous then do
    let token ← deployment.refreshIssuer.issue occasion subject
    return some token
  else .ok none

/-- What a request gets once its subject is known. Its credential plays no part any more. -/
def respond (deployment : Deployment) (occasion : Occasion) (request : TokenRequest)
    (subject : Subject) : Except AuthError TokenResponse := do
  let granted := deployment.policy.grant subject request.scopes
  let access ← deployment.accessIssuer.issue occasion subject request.service granted
  let refresh ← deployment.refreshTokenFor occasion request.issueRefreshToken subject
  return ⟨subject.id, access.token, access.expiresIn, access.issuedAt, refresh, granted⟩

def answer (deployment : Deployment) (occasion : Occasion) (request : TokenRequest) :
    Except AuthError TokenResponse := do
  let subject ← deployment.authenticate occasion.now request.credential
  deployment.respond occasion request subject

variable (deployment : Deployment) (occasion : Occasion) (request : TokenRequest)

section Gives

open Attempt

theorem gives_ownerOf (id : String) (found : Option Subject) :
    Gives (match found with
      | some subject =>
        if subject.enabled && subject.id == id then Attempt.pure subject
        else Attempt.fail .authenticationFailed
      | none => Attempt.fail .authenticationFailed) (ownerOf id found) :=
  fun progress hp => ⟨progress, hp, ownerOf_apply id found progress⟩

theorem gives_authenticated (credential : Option Credential) :
    Gives (deployment.pipeline.authenticated occasion credential)
      (deployment.authenticate occasion.now credential) := by
  rcases credential with _ | ⟨username, secret⟩ | token
  · exact .pure _
  · exact .guarded (.call _ _)
  · refine .guarded (.bind (.call _ _) fun id => ?_)
    exact (Gives.call (.findSubject id) (.ok _)).bind_ok (gives_ownerOf id _)

theorem gives_authorized (subject : Subject) (requested : List Scope) :
    Gives (deployment.pipeline.authorized subject requested)
      (.ok (deployment.policy.grant subject requested)) := by
  have hg : Gives (guarded (Attempt.call (.authorize subject requested)
      (deployment.pipeline.authorizer.authorize subject requested)))
      (.ok (deployment.policy.grant subject requested)) := by
    change Gives (guarded (Attempt.call _
      (deployment.policy.authorizer.authorize subject requested))) _
    rw [Policy.authorize_authorizer]
    exact .guarded (.call _ _)
  -- No policy widens a request, so that the check behind it never fails.
  refine hg.bind_ok ?_
  rw [if_pos (deployment.policy.isSubset_grant subject requested)]
  exact .pure _

theorem gives_refreshToken? (wanted : Bool) (subject : Subject) :
    Gives (deployment.pipeline.refreshToken? occasion wanted subject)
      (deployment.refreshTokenFor occasion wanted subject) := by
  unfold TokenPipeline.refreshToken? refreshTokenFor
  by_cases h : (wanted && !subject.isAnonymous) = true
  · rw [if_pos h, if_pos h]
    exact .bind (.guarded (.call _ _)) fun token => .pure (some token)
  · rw [if_neg h, if_neg h]
    exact .pure _

theorem gives_respond :
    Gives (deployment.pipeline.respond occasion request) (deployment.answer occasion request) := by
  refine .bind (deployment.gives_authenticated occasion request.credential) fun subject => ?_
  refine .bind_ok (deployment.gives_authorized subject request.scopes) ?_
  refine .bind_ok .failIfCancelled ?_
  refine .bind (.guarded (.call _ _)) fun access => ?_
  refine .bind (deployment.gives_refreshToken? occasion request.issueRefreshToken subject)
    fun refresh => ?_
  exact .bind_ok .failIfCancelled (.pure _)

end Gives

theorem result_eq_answer :
    (deployment.pipeline.service.issue occasion false request).result =
      deployment.answer occasion request :=
  (deployment.gives_respond occasion request).run

variable {deployment occasion request} {now : Instant} {username secret id : String} {user : User}
  {subject : Subject} {response : TokenResponse}

theorem find?_table_iff :
    deployment.table.find? username = some user ↔
      user ∈ deployment.users.entries ∧ user.username = username :=
  UserTable.find?_eq_some_iff (UserConfig.validate_eq_ok_iff.mp deployment.users_valid).2

theorem username_ne (hm : user ∈ deployment.users.entries) : user.username ≠ "" :=
  ((UserConfig.validate_eq_ok_iff.mp deployment.users_valid).1 user hm).username_ne

/-- A user who may obtain tokens under the name. -/
def Enables (deployment : Deployment) (username : String) (user : User) : Prop :=
  user ∈ deployment.users.entries ∧ user.username = username ∧ user.enabled = true

theorem authenticate_password_eq_ok_iff :
    deployment.authenticate now (some (.password username secret)) = .ok subject ↔
      ∃ user, deployment.Enables username user ∧
        Password.verify secret user.passwordHash = true ∧ user.subject = subject := by
  simp only [authenticate, UserTable.authenticate_eq_ok_iff, find?_table_iff, Enables, and_assoc]

theorem ownerOf_find?_eq_ok_iff :
    ownerOf id ((deployment.table.find? id).map User.subject) = .ok subject ↔
      ∃ user, deployment.Enables id user ∧ user.subject = subject := by
  rw [ownerOf_eq_ok_iff, Option.map_eq_some_iff]
  constructor
  · rintro ⟨⟨user, hf, rfl⟩, he, -⟩
    obtain ⟨hm, hn⟩ := find?_table_iff.mp hf
    exact ⟨user, ⟨hm, hn, he⟩, rfl⟩
  · rintro ⟨user, ⟨hm, hn, he⟩, rfl⟩
    exact ⟨⟨user, find?_table_iff.mpr ⟨hm, hn⟩, rfl⟩, he, hn⟩

theorem ownerOf_find?_eq_error (h : ∀ user, ¬ deployment.Enables id user) :
    ownerOf id ((deployment.table.find? id).map User.subject) =
      .error .authenticationFailed := by
  cases ho : ownerOf id ((deployment.table.find? id).map User.subject) with
  | ok subject =>
    obtain ⟨user, he, -⟩ := ownerOf_find?_eq_ok_iff.mp ho
    exact absurd he (h user)
  | error e => rw [(TokenPipeline.ownerOf_eq_error_iff.mp ho).1]

/-- Only a subject with a name gets a refresh token, and only if one is wanted. -/
theorem refreshTokenFor_eq_ok_iff {wanted : Bool} {refresh : Option String} :
    deployment.refreshTokenFor occasion wanted subject = .ok refresh ↔
      if wanted = true ∧ subject.id ≠ "" then
        ∃ token, deployment.refreshIssuer.issue occasion subject = .ok token ∧ some token = refresh
      else none = refresh := by
  have hn : (wanted && !subject.isAnonymous) = true ↔ wanted = true ∧ subject.id ≠ "" := by
    simp [Subject.isAnonymous]
  unfold refreshTokenFor
  simp only [hn]
  split
  next => simp only [Except.bind_eq_ok_iff, Except.pure_eq_ok_iff]
  next => simp

theorem issue_of_refreshTokenFor {wanted : Bool} {token : String}
    (h : deployment.refreshTokenFor occasion wanted subject = .ok (some token)) :
    subject.id ≠ "" ∧ deployment.refreshIssuer.issue occasion subject = .ok token := by
  rw [refreshTokenFor_eq_ok_iff] at h
  split at h
  next hw =>
    obtain ⟨issued, hi, hs⟩ := h
    cases hs
    exact ⟨hw.2, hi⟩
  next => cases h

theorem respond_eq_ok_iff :
    deployment.respond occasion request subject = .ok response ↔
      ∃ access refresh, deployment.accessIssuer.issue occasion subject request.service
          (deployment.policy.grant subject request.scopes) = .ok access ∧
        deployment.refreshTokenFor occasion request.issueRefreshToken subject = .ok refresh ∧
        response = ⟨subject.id, access.token, access.expiresIn, access.issuedAt, refresh,
          deployment.policy.grant subject request.scopes⟩ := by
  simp only [respond, Except.bind_eq_ok_iff, Except.pure_eq_ok_iff]
  grind

end Deployment

end RegistryAuth
