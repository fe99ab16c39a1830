import RegistryAuth.Proofs.Issuance.Deployment
import RegistryAuth.Proofs.Token.Configured

/-! # Redeemed refresh tokens

A refresh token says who its owner is and nothing else. Redeemed later, maybe
after others, it is worth just what a login of its owner would be worth at that
time, and nothing once its owner is not enabled any more. This takes issuers
whose keys work: a key for checking that does not belong to the key for signing
refuses the tokens of its own issuer.
-/

namespace RegistryAuth

/-- A request served under a deployment, which nothing cancels. -/
structure Visit where
  deployment : Deployment
  occasion : Occasion
  request : TokenRequest

namespace Visit

def result (visit : Visit) : Except AuthError TokenResponse :=
  (visit.deployment.pipeline.service.issue visit.occasion false visit.request).result

def withCredential (visit : Visit) (credential : Credential) : Visit :=
  { visit with request.credential := some credential }

def HandsOut (visit : Visit) (token : String) : Prop :=
  ∃ response, visit.result = .ok response ∧ response.refreshToken = some token

/-- The issuers can make the tokens asked for: the access key signs, and the ends of their
lifetimes can be told. -/
structure CanIssue (visit : Visit) : Prop where
  signs : visit.deployment.accessIssuer.key.Signs
  access : ∃ expires, expiresAt visit.occasion.now.unixSeconds
    visit.deployment.accessIssuer.lifetime = .ok expires
  refresh : visit.request.issueRefreshToken = true →
    ∃ expires, expiresAt visit.occasion.now.unixSeconds
      visit.deployment.refreshIssuer.lifetime = .ok expires

/-- The issuers stand for valid configurations, and the clock shows a time. -/
structure IsConfigured (visit : Visit) : Prop where
  access : visit.deployment.accessIssuer.IsConfigured
  refresh : visit.deployment.refreshIssuer.IsConfigured
  inCalendar : visit.occasion.now.InCalendar

/-- The visit redeems a token of an earlier one within its validity. -/
structure Redeems (visit earlier : Visit) (username token : String) : Prop where
  presented : visit.request.credential = some (.refreshToken token)
  handedOut : earlier.HandsOut token
  holds : (visit.deployment.refreshIssuer.claimsOn earlier.occasion username).holdAt
    visit.occasion.now.unixSeconds = true

/-- The issuer accepts its own signature on the token, and the list in force has its owner
enabled. -/
def Honours (visit : Visit) (username token : String) : Prop :=
  visit.deployment.refreshIssuer.HasSigned token ∧
    ∃ user, visit.deployment.Enables username user

end Visit

/-- Visits of one user, the latest first: a login with a password, then redemptions of tokens handed
out before. Between them all may change but the issuer of refresh tokens. -/
inductive Chain (issuer : JwtRefreshIssuer) (username : String) : List Visit → Prop where
  | login {visit : Visit} {secret : String} {response : TokenResponse} :
      visit.deployment.refreshIssuer = issuer →
      visit.request.credential = some (.password username secret) →
      visit.result = .ok response → Chain issuer username [visit]
  | redemption {visit earlier : Visit} {visits : List Visit} {token : String} :
      Chain issuer username visits → visit.deployment.refreshIssuer = issuer →
      earlier ∈ visits → visit.Redeems earlier username token →
      Chain issuer username (visit :: visits)

/-- The result of a redemption follows from the configuration in force. -/
structure Visit.IsCurrent (visit : Visit) (username token : String) : Prop where
  refused : ¬ visit.Honours username token →
    visit.result = .error (if visit.deployment.refreshIssuer.key.checking.isSome
      then .authenticationFailed else .noVerificationKey)
  succeeds_iff : (∃ response, visit.result = .ok response) ↔
    visit.Honours username token ∧ visit.CanIssue
  fails_inside : visit.Honours username token → ¬ visit.CanIssue →
    ∃ detail, visit.result = .error (.internal detail)
  as_login : visit.Honours username token → ∀ user secret,
    visit.deployment.Enables username user → Password.verify secret user.passwordHash = true →
    visit.result = (visit.withCredential (.password username secret)).result
  answered : ∀ response, visit.result = .ok response →
    ∃ user, visit.deployment.Enables username user ∧ response.subject = username ∧
      response.scopes = visit.deployment.policy.grant user.subject visit.request.scopes ∧
      response.expiresIn = visit.deployment.accessIssuer.lifetime ∧
      Jwt.sign visit.deployment.accessIssuer.key
        (visit.deployment.accessIssuer.claimsOn visit.occasion username visit.request.service
          response.scopes).toJson = .ok response.accessToken

/-- What configured issuers leave open. The token's signature is accepted if the key is a shared
secret, and the tokens asked for can be made if the access key signs. It does so if it is a shared
secret, or if it has signed before. -/
structure Visit.IssuersServe (visit : Visit) (token : String) : Prop where
  checks : visit.deployment.refreshIssuer.key.checking.isSome = true
  hasSigned_of_hmac : visit.deployment.refreshIssuer.key.algorithm.family = .hmac →
    visit.deployment.refreshIssuer.HasSigned token
  canIssue_iff : visit.CanIssue ↔ visit.deployment.accessIssuer.key.Signs
  signs_of_hmac : visit.deployment.accessIssuer.key.algorithm.family = .hmac →
    visit.deployment.accessIssuer.key.Signs
  signs_of_answered : ∀ other : Visit,
    other.deployment.accessIssuer.key = visit.deployment.accessIssuer.key →
    (∃ response, other.result = .ok response) → visit.deployment.accessIssuer.key.Signs

/-- Issuing fails with an internal error, if it fails at all. -/
theorem Deployment.respond_eq_error {deployment : Deployment} {occasion : Occasion}
    {request : TokenRequest} {subject : Subject} {e : AuthError}
    (h : deployment.respond occasion request subject = .error e) :
    ∃ detail, e = .internal detail := by
  rcases Except.bind_eq_error_iff.mp h with h | ⟨access, -, h⟩
  · exact JwtAccessIssuer.issue_eq_error h
  rcases Except.bind_eq_error_iff.mp h with h | ⟨refresh, -, h⟩
  · unfold refreshTokenFor at h
    split at h
    next =>
      rcases Except.bind_eq_error_iff.mp h with h | ⟨_, -, h⟩
      · exact JwtRefreshIssuer.issue_eq_error h
      · cases h
    next => cases h
  · cases h

namespace Visit

variable {visit earlier : Visit} {username secret token : String} {user : User}
  {subject : Subject} {response : TokenResponse}

theorem result_eq_of_authenticate {result : Except AuthError Subject}
    (h : visit.deployment.authenticate visit.occasion.now visit.request.credential = result) :
    visit.result = result >>= visit.deployment.respond visit.occasion visit.request := by
  rw [← h]
  exact visit.deployment.result_eq_answer visit.occasion visit.request

/-- A refresh token is issued for whoever the request was authenticated as. -/
theorem HandsOut.issued (h : visit.HandsOut token) :
    ∃ subject, visit.deployment.authenticate visit.occasion.now visit.request.credential =
        .ok subject ∧ subject.id ≠ "" ∧
      visit.deployment.refreshIssuer.issue visit.occasion subject = .ok token := by
  obtain ⟨response, hr, ht⟩ := h
  rw [result_eq_of_authenticate rfl] at hr
  obtain ⟨subject, ha, hs⟩ := Except.bind_eq_ok_iff.mp hr
  obtain ⟨access, refresh, -, hf, rfl⟩ := Deployment.respond_eq_ok_iff.mp hs
  cases ht
  obtain ⟨hid, hi⟩ := Deployment.issue_of_refreshTokenFor hf
  exact ⟨subject, ha, hid, hi⟩

/-- A redemption acts for the owner that the user list in force has for the token's subject. -/
theorem Redeems.authenticate (h : visit.Redeems earlier username token)
    (hs : visit.deployment.refreshIssuer.HasSigned token)
    (hi : visit.deployment.refreshIssuer.issue earlier.occasion subject = .ok token)
    (hn : subject.id = username) (hu : username ≠ "") :
    visit.deployment.authenticate visit.occasion.now visit.request.credential =
      ownerOf username ((visit.deployment.table.find? username).map User.subject) := by
  subst hn
  have ht : -(2 ^ 63) ≤ earlier.occasion.now.unixSeconds := by
    have he := (RefreshClaims.holdAt_iff.mp h.holds).1
    have hl := (JwtRefreshIssuer.issue_eq_ok_iff.mp hi).1.1
    simp only [JwtRefreshIssuer.claimsOn, maxTime] at he hl
    omega
  have hv := JwtRefreshIssuer.verify_issued hi hs ht hu visit.occasion.now
  rw [if_pos h.holds] at hv
  rw [h.presented]
  simp only [Deployment.authenticate, hv]
  rfl

/-- A token that its own issuer does not accept is refused before anyone is looked up. -/
theorem result_of_not_hasSigned (h : visit.request.credential = some (.refreshToken token))
    (hs : ¬ visit.deployment.refreshIssuer.HasSigned token) :
    visit.result = .error (if visit.deployment.refreshIssuer.key.checking.isSome
      then .authenticationFailed else .noVerificationKey) := by
  have hv := JwtRefreshIssuer.verify_of_not_hasSigned hs visit.occasion.now
  rw [result_eq_of_authenticate rfl, h]
  simp only [Deployment.authenticate, hv]
  rfl

section CanIssue

theorem CanIssue.exists_access (h : visit.CanIssue) (subject : Subject) (scopes : List Scope) :
    ∃ access, visit.deployment.accessIssuer.issue visit.occasion subject visit.request.service
      scopes = .ok access := by
  obtain ⟨_, ha⟩ := h.access
  obtain ⟨text, ht⟩ := h.signs.exists_sign (visit.deployment.accessIssuer.claimsOn visit.occasion
    subject.id visit.request.service scopes).toJson
  exact ⟨⟨text, _, _⟩,
    JwtAccessIssuer.issue_eq_ok_iff.mpr ⟨(expiresAt_eq_ok_iff.mp ha).1, ht, rfl, rfl⟩⟩

theorem CanIssue.exists_refresh (h : visit.CanIssue)
    (hs : visit.deployment.refreshIssuer.key.Signs)
    (hw : visit.request.issueRefreshToken = true) (subject : Subject) :
    ∃ token, visit.deployment.refreshIssuer.issue visit.occasion subject = .ok token := by
  obtain ⟨_, hr⟩ := h.refresh hw
  obtain ⟨renewed, hn⟩ := hs.exists_sign
    (visit.deployment.refreshIssuer.claimsOn visit.occasion subject.id).toJson
  exact ⟨renewed, JwtRefreshIssuer.issue_eq_ok_iff.mpr ⟨(expiresAt_eq_ok_iff.mp hr).1, hn⟩⟩

theorem CanIssue.exists_response (h : visit.CanIssue)
    (hs : visit.deployment.refreshIssuer.key.Signs) (subject : Subject) :
    ∃ response, visit.deployment.respond visit.occasion visit.request subject = .ok response := by
  obtain ⟨access, ha⟩ := h.exists_access subject
    (visit.deployment.policy.grant subject visit.request.scopes)
  have hf : ∃ refresh, visit.deployment.refreshTokenFor visit.occasion
      visit.request.issueRefreshToken subject = .ok refresh := by
    simp only [Deployment.refreshTokenFor_eq_ok_iff]
    split
    next hw =>
      obtain ⟨token, hr⟩ := h.exists_refresh hs hw.1 subject
      exact ⟨some token, token, hr, rfl⟩
    next => exact ⟨none, rfl⟩
  obtain ⟨refresh, hf⟩ := hf
  exact ⟨_, Deployment.respond_eq_ok_iff.mpr ⟨access, refresh, ha, hf, rfl⟩⟩

/-- Whoever is answered was served by issuers that can make the tokens. -/
theorem canIssue_of_respond (hid : subject.id ≠ "")
    (h : visit.deployment.respond visit.occasion visit.request subject = .ok response) :
    visit.CanIssue := by
  obtain ⟨access, refresh, ha, hf, -⟩ := Deployment.respond_eq_ok_iff.mp h
  obtain ⟨hl, hs, -⟩ := JwtAccessIssuer.issue_eq_ok_iff.mp ha
  refine ⟨⟨_, _, hs⟩, ⟨_, expiresAt_eq_ok_iff.mpr ⟨hl, rfl⟩⟩, fun hw => ?_⟩
  rw [Deployment.refreshTokenFor_eq_ok_iff, if_pos ⟨hw, hid⟩] at hf
  obtain ⟨token, hi, -⟩ := hf
  exact ⟨_, expiresAt_eq_ok_iff.mpr ⟨(JwtRefreshIssuer.issue_eq_ok_iff.mp hi).1, rfl⟩⟩

theorem signs_of_result (h : visit.result = .ok response) :
    visit.deployment.accessIssuer.key.Signs := by
  rw [result_eq_of_authenticate rfl] at h
  obtain ⟨subject, -, h⟩ := Except.bind_eq_ok_iff.mp h
  obtain ⟨access, _, ha, -⟩ := Deployment.respond_eq_ok_iff.mp h
  exact ⟨_, _, (JwtAccessIssuer.issue_eq_ok_iff.mp ha).2.1⟩

theorem IsConfigured.canIssue_iff (h : visit.IsConfigured) :
    visit.CanIssue ↔ visit.deployment.accessIssuer.key.Signs :=
  ⟨CanIssue.signs, fun hs => ⟨hs, h.access.exists_expiresAt h.inCalendar,
    fun _ => h.refresh.exists_expiresAt h.inCalendar⟩⟩

/-- A login of an enabled user hands out a token if one is wanted and the issuers can make it. -/
theorem exists_login (h : visit.CanIssue) (hs : visit.deployment.refreshIssuer.key.Signs)
    (hc : visit.request.credential = some (.password username secret))
    (hw : visit.request.issueRefreshToken = true) (hu : username ≠ "")
    (he : visit.deployment.Enables username user)
    (hp : Password.verify secret user.passwordHash = true) :
    ∃ token, Chain visit.deployment.refreshIssuer username [visit] ∧ visit.HandsOut token ∧
      visit.deployment.refreshIssuer.issue visit.occasion user.subject = .ok token := by
  have ha : visit.deployment.authenticate visit.occasion.now visit.request.credential =
      .ok user.subject := by
    rw [hc]
    exact Deployment.authenticate_password_eq_ok_iff.mpr ⟨user, he, hp, rfl⟩
  obtain ⟨access, hi⟩ := h.exists_access user.subject
    (visit.deployment.policy.grant user.subject visit.request.scopes)
  obtain ⟨token, ht⟩ := h.exists_refresh hs hw user.subject
  have hn : user.subject.id ≠ "" := fun hn => hu (he.2.1.symm.trans hn)
  have hf : visit.deployment.refreshTokenFor visit.occasion visit.request.issueRefreshToken
      user.subject = .ok (some token) := by
    rw [Deployment.refreshTokenFor_eq_ok_iff, if_pos ⟨hw, hn⟩]
    exact ⟨token, ht, rfl⟩
  have hr := (result_eq_of_authenticate ha).trans
    (Deployment.respond_eq_ok_iff.mpr ⟨access, some token, hi, hf, rfl⟩)
  exact ⟨token, .login rfl hc hr, ⟨_, hr, rfl⟩, ht⟩

end CanIssue

section Redeemed

variable (h : visit.Redeems earlier username token)
  (hi : visit.deployment.refreshIssuer.issue earlier.occasion subject = .ok token)
  (hn : subject.id = username) (hu : username ≠ "")

include h hi hn hu

/-- A redemption that is honoured gets what the user in force is answered with. The token plays no
part in it any more. -/
theorem Redeems.result_of_enables (hs : visit.deployment.refreshIssuer.HasSigned token)
    (he : visit.deployment.Enables username user) :
    visit.result = visit.deployment.respond visit.occasion visit.request user.subject := by
  rw [result_eq_of_authenticate (h.authenticate hs hi hn hu),
    Deployment.ownerOf_find?_eq_ok_iff.mpr ⟨user, he, rfl⟩]
  rfl

theorem Redeems.result_of_not_honours (hh : ¬ visit.Honours username token) :
    visit.result = .error (if visit.deployment.refreshIssuer.key.checking.isSome
      then .authenticationFailed else .noVerificationKey) := by
  by_cases hs : visit.deployment.refreshIssuer.HasSigned token
  · have hd : ∀ user, ¬ visit.deployment.Enables username user :=
      fun user he => hh ⟨hs, user, he⟩
    obtain ⟨material, hk, -⟩ := id hs
    rw [result_eq_of_authenticate (h.authenticate hs hi hn hu),
      Deployment.ownerOf_find?_eq_error hd, hk]
    rfl
  · exact result_of_not_hasSigned h.presented hs

theorem Redeems.exists_owner (hr : visit.result = .ok response) :
    visit.deployment.refreshIssuer.HasSigned token ∧
      ∃ user, visit.deployment.Enables username user ∧
        visit.deployment.respond visit.occasion visit.request user.subject = .ok response := by
  by_cases hh : visit.Honours username token
  · obtain ⟨hs, user, he⟩ := hh
    exact ⟨hs, user, he, (h.result_of_enables hi hn hu hs he).symm.trans hr⟩
  · cases (h.result_of_not_honours hi hn hu hh).symm.trans hr

theorem Redeems.isCurrent : visit.IsCurrent username token := by
  constructor
  case refused => exact h.result_of_not_honours hi hn hu
  case succeeds_iff =>
    constructor
    · rintro ⟨response, hr⟩
      obtain ⟨hs, user, he, hr⟩ := h.exists_owner hi hn hu hr
      have hid : user.subject.id = username := he.2.1
      exact ⟨⟨hs, user, he⟩, canIssue_of_respond (hid ▸ hu) hr⟩
    · rintro ⟨⟨hs, user, he⟩, hc⟩
      rw [h.result_of_enables hi hn hu hs he]
      exact hc.exists_response ⟨_, _, (JwtRefreshIssuer.issue_eq_ok_iff.mp hi).2⟩ user.subject
  case fails_inside =>
    rintro ⟨hs, user, he⟩ hc
    rw [h.result_of_enables hi hn hu hs he]
    cases hr : visit.deployment.respond visit.occasion visit.request user.subject with
    | ok response =>
      have hid : user.subject.id = username := he.2.1
      exact absurd (canIssue_of_respond (hid ▸ hu) hr) hc
    | error e =>
      obtain ⟨detail, rfl⟩ := Deployment.respond_eq_error hr
      exact ⟨detail, rfl⟩
  case as_login =>
    rintro ⟨hs, -⟩ user secret he hp
    have ha : visit.deployment.authenticate visit.occasion.now
        (visit.withCredential (.password username secret)).request.credential = .ok user.subject :=
      Deployment.authenticate_password_eq_ok_iff.mpr ⟨user, he, hp, rfl⟩
    rw [h.result_of_enables hi hn hu hs he, result_eq_of_authenticate ha]
    rfl
  case answered =>
    intro response hr
    obtain ⟨-, user, he, hr⟩ := h.exists_owner hi hn hu hr
    obtain ⟨access, refresh, ha, -, rfl⟩ := Deployment.respond_eq_ok_iff.mp hr
    obtain ⟨-, hj, hl, -⟩ := JwtAccessIssuer.issue_eq_ok_iff.mp ha
    have hid : user.subject.id = username := he.2.1
    rw [hid] at hj
    exact ⟨user, he, hid, rfl, hl, hj⟩

omit h hn hu in
theorem IsConfigured.issuersServe (hc : visit.IsConfigured) : visit.IssuersServe token where
  checks := hc.refresh.checks
  hasSigned_of_hmac hf := hc.refresh.hasSigned hf hi
  canIssue_iff := hc.canIssue_iff
  signs_of_hmac := hc.access.signs
  signs_of_answered _ hk := fun ⟨_, hr⟩ => hk ▸ signs_of_result hr

end Redeemed

end Visit

/-! Services of one user. -/

section Samples

def sharedSecret : String := "0123456789abcdef0123456789abcdef"

/-- The issuer of access tokens with a shared secret. -/
def sharedAccessIssuer : JwtAccessIssuer :=
  AccessIssuerConfig.issuerWith ⟨"i", none, 60, .ofSecret sharedSecret⟩
    (.ofSecret .hs256 (Bytes.ofText sharedSecret) none)

@[inherit_doc sharedAccessIssuer]
def sharedRefreshIssuer : JwtRefreshIssuer :=
  RefreshIssuerConfig.issuerWith ⟨"i", 600, .ofSecret sharedSecret⟩
    (.ofSecret .hs256 (Bytes.ofText sharedSecret) none)

theorem load_sharedSecret (mustCheck : Bool) :
    (SigningKeyConfig.ofSecret sharedSecret).load ⟨[]⟩ mustCheck =
      .ok (.ofSecret .hs256 (Bytes.ofText sharedSecret) none) :=
  SigningKeyConfig.load_ofSecret (by decide) ⟨[]⟩ mustCheck

theorem isConfigured_sharedAccessIssuer : sharedAccessIssuer.IsConfigured :=
  AccessIssuerConfig.isConfigured (by decide) (by decide) (load_sharedSecret false)

theorem isConfigured_sharedRefreshIssuer : sharedRefreshIssuer.IsConfigured :=
  RefreshIssuerConfig.isConfigured (by decide) (by decide) (load_sharedSecret true)

variable {user other : User} {policy : Policy} {access : JwtAccessIssuer}
  {refresh : JwtRefreshIssuer} {username : String}

def Deployment.forUser (hu : user.IsValid) (policy : Policy) (access : JwtAccessIssuer)
    (refresh : JwtRefreshIssuer) : Deployment :=
  ⟨⟨[user]⟩, [], policy, access, refresh, UserConfig.validate_singleton hu⟩

theorem Deployment.enables_forUser (hu : user.IsValid) :
    (forUser hu policy access refresh).Enables username other ↔
      other = user ∧ other.username = username ∧ other.enabled = true := by
  simp [Enables, forUser]

/-- A visit that asks for one scope and a refresh token. -/
def Visit.toPull (deployment : Deployment) (seconds : Int) (credential : Credential) : Visit :=
  ⟨deployment, ⟨Instant.ofSeconds seconds, "a", "r"⟩,
    ⟨some credential, none, [⟨"repository", "app", ["pull"]⟩], true⟩⟩

end Samples

namespace Chain

variable {issuer : JwtRefreshIssuer} {username : String} {visits : List Visit}

/-- All tokens handed out in a chain stand for its user. -/
theorem issued (h : Chain issuer username visits) :
    ∀ visit ∈ visits, ∀ token, visit.HandsOut token → ∃ subject : Subject,
      subject.id = username ∧ username ≠ "" ∧
        issuer.issue visit.occasion subject = .ok token := by
  induction h with
  | @login visit secret response hi hc hr =>
    intro _ hm token ht
    obtain rfl := List.mem_singleton.mp hm
    obtain ⟨subject, ha, hid, hs⟩ := ht.issued
    rw [hc] at ha
    obtain ⟨user, he, -, rfl⟩ := Deployment.authenticate_password_eq_ok_iff.mp ha
    obtain rfl : user.subject.id = username := he.2.1
    exact ⟨user.subject, rfl, hid, hi ▸ hs⟩
  | @redemption visit earlier visits token _ hi he hr ih =>
    intro other hm handed ht
    rcases List.mem_cons.mp hm with rfl | hm
    · -- The redeemed token stands for the user already, and its owner is looked up by that name.
      obtain ⟨subject, hn, hu, hs⟩ := ih earlier he token hr.handedOut
      obtain ⟨response, hv, -⟩ := id ht
      have hg := (hr.exists_owner (hi ▸ hs) hn hu hv).1
      obtain ⟨owner, ha, hid, ho⟩ := ht.issued
      rw [hr.authenticate hg (hi ▸ hs) hn hu] at ha
      obtain ⟨user, he, rfl⟩ := Deployment.ownerOf_find?_eq_ok_iff.mp ha
      exact ⟨user.subject, he.2.1, hu, hi ▸ ho⟩
    · exact ih other hm handed ht

/-- Whatever was in force before, each redemption in a chain gets what its user may have now, as
far as the issuer accepts its own signature and the issuers can make the tokens. Configured issuers
with shared secrets always do. -/
theorem redemption_isCurrent (h : Chain issuer username visits) {visit : Visit}
    (hm : visit ∈ visits) {token : String}
    (hc : visit.request.credential = some (.refreshToken token)) :
    visit.IsCurrent username token ∧ (visit.IsConfigured → visit.IssuersServe token) := by
  induction h with
  | @login visit secret response _ hp _ =>
    obtain rfl := List.mem_singleton.mp hm
    cases hp.symm.trans hc
  | @redemption visit earlier visits other hv hi he hr ih =>
    rcases List.mem_cons.mp hm with rfl | hm
    · cases hr.presented.symm.trans hc
      obtain ⟨subject, hn, hu, hs⟩ := hv.issued earlier he _ hr.handedOut
      exact ⟨hr.isCurrent (hi ▸ hs) hn hu, Visit.IsConfigured.issuersServe (hi ▸ hs)⟩
    · exact ih hm

/-- The token of a login is redeemed under other rules, and once more after its user was
disabled. -/
theorem disabled_user_redemption_fails :
    ∃ (issuer : JwtRefreshIssuer) (login redeemed refused : Visit),
      Chain issuer "u" [refused, redeemed, login] ∧ redeemed.IsConfigured ∧
      (∃ response, redeemed.result = .ok response) ∧
      refused.result = .error .authenticationFailed := by
  have hn : "u" ≠ "" := by decide
  obtain ⟨hash, hp, hu⟩ := User.exists_passwordHash hn "secret"
  let service (enabled : Bool) (policy : Policy) : Deployment :=
    .forUser (hu enabled []) policy sharedAccessIssuer sharedRefreshIssuer
  have he : ∀ policy, (service true policy).Enables "u" ⟨"u", hash, true, []⟩ :=
    fun _ => (Deployment.enables_forUser (hu true [])).mpr ⟨rfl, rfl, rfl⟩
  let login := Visit.toPull (service true .allowAll) 100 (.password "u" "secret")
  have hearly : (Instant.ofSeconds 100).InCalendar := ⟨by decide, by decide⟩
  have hlate : (Instant.ofSeconds 200).InCalendar := ⟨by decide, by decide⟩
  have hl : login.IsConfigured :=
    ⟨isConfigured_sharedAccessIssuer, isConfigured_sharedRefreshIssuer, hearly⟩
  obtain ⟨token, hone, ht, -⟩ := Visit.exists_login
    (hl.canIssue_iff.mpr (hl.access.signs rfl)) (SigningKey.signs_ofSecret rfl _ _) rfl rfl hn
    (he _) hp
  let redeemed := Visit.toPull (service true (.rules ⟨[]⟩)) 200 (.refreshToken token)
  let refused := Visit.toPull (service false .allowAll) 700 (.refreshToken token)
  have hr : redeemed.IsConfigured :=
    ⟨isConfigured_sharedAccessIssuer, isConfigured_sharedRefreshIssuer, hlate⟩
  have htwo : Chain sharedRefreshIssuer "u" [redeemed, login] :=
    .redemption hone rfl (List.mem_singleton_self _) ⟨rfl, ht, rfl⟩
  have hthree : Chain sharedRefreshIssuer "u" [refused, redeemed, login] :=
    .redemption htwo rfl (by simp) ⟨rfl, ht, rfl⟩
  refine ⟨_, login, redeemed, refused, hthree, hr, ?_, ?_⟩
  · have hm : redeemed ∈ [refused, redeemed, login] := by simp
    obtain ⟨hcurrent, hserve⟩ := redemption_isCurrent hthree hm rfl
    have hk := hserve hr
    exact hcurrent.succeeds_iff.mpr ⟨⟨hk.hasSigned_of_hmac rfl, _, he _⟩,
      hk.canIssue_iff.mpr (hk.signs_of_hmac rfl)⟩
  · refine (redemption_isCurrent hthree (by simp) rfl).1.refused ?_
    rintro ⟨-, user, hd⟩
    obtain ⟨rfl, -, hd⟩ := (Deployment.enables_forUser (hu false [])).mp hd
    cases hd

/-- The user stays enabled, and redemption fails all the same. The checking key of the refresh
tokens belongs to another signing key, or the access tokens are to be signed with a key that cannot
sign. -/
theorem enabled_user_redemption_fails :
    (∃ (login redeemed : Visit) (token : String) (user : User),
      mismatchedPair.load ⟨[]⟩ true = .ok login.deployment.refreshIssuer.key ∧
      login.IsConfigured ∧ redeemed.IsConfigured ∧ redeemed.deployment = login.deployment ∧
      Chain login.deployment.refreshIssuer "u" [redeemed, login] ∧
      redeemed.request.credential = some (.refreshToken token) ∧
      redeemed.deployment.Enables "u" user ∧ redeemed.result = .error .authenticationFailed) ∧
    ∃ (login redeemed : Visit) (token : String) (user : User) (detail : String),
      hollowKey.load ⟨[]⟩ false = .ok redeemed.deployment.accessIssuer.key ∧
      login.IsConfigured ∧ redeemed.IsConfigured ∧
      redeemed.deployment =
        { login.deployment with accessIssuer := redeemed.deployment.accessIssuer } ∧
      Chain login.deployment.refreshIssuer "u" [redeemed, login] ∧
      redeemed.request.credential = some (.refreshToken token) ∧
      redeemed.deployment.Enables "u" user ∧ redeemed.result = .error (.internal detail) := by
  have hn : "u" ≠ "" := by decide
  obtain ⟨hash, hp, hu⟩ := User.exists_passwordHash hn "secret"
  let service (access : JwtAccessIssuer) (refresh : JwtRefreshIssuer) : Deployment :=
    .forUser (hu true []) .allowAll access refresh
  have he : ∀ access refresh, (service access refresh).Enables "u" ⟨"u", hash, true, []⟩ :=
    fun _ _ => (Deployment.enables_forUser (hu true [])).mpr ⟨rfl, rfl, rfl⟩
  have hearly : (Instant.ofSeconds 100).InCalendar := ⟨by decide, by decide⟩
  have hlate : (Instant.ofSeconds 200).InCalendar := ⟨by decide, by decide⟩
  refine ⟨?mismatched, ?hollow⟩
  case mismatched =>
    let service : Deployment := service sharedAccessIssuer mismatchedIssuer
    let login := Visit.toPull service 100 (.password "u" "secret")
    have hl : login.IsConfigured :=
      ⟨isConfigured_sharedAccessIssuer, isConfigured_mismatchedIssuer, hearly⟩
    obtain ⟨token, hone, ht, hi⟩ := Visit.exists_login
      (hl.canIssue_iff.mpr (hl.access.signs rfl))
      (SigningKey.signs_of_refusesOwn refusesOwn_mismatchedKey) rfl rfl hn (he _ _) hp
    let redeemed := Visit.toPull service 200 (.refreshToken token)
    have hs : ¬ redeemed.deployment.refreshIssuer.HasSigned token :=
      JwtRefreshIssuer.not_hasSigned_of_refusesOwn hi refusesOwn_mismatchedKey
    exact ⟨login, redeemed, token, _, load_mismatchedPair, hl,
      ⟨isConfigured_sharedAccessIssuer, isConfigured_mismatchedIssuer, hlate⟩, rfl,
      .redemption hone rfl (List.mem_singleton_self _) ⟨rfl, ht, rfl⟩, rfl, he _ _,
      Visit.result_of_not_hasSigned rfl hs⟩
  case hollow =>
    obtain ⟨key, hk, hs⟩ := exists_load_hollowKey
    let access := AccessIssuerConfig.issuerWith ⟨"i", none, 60, hollowKey⟩ key
    have ha : access.IsConfigured := AccessIssuerConfig.isConfigured (by decide) (by decide) hk
    let login := Visit.toPull (service sharedAccessIssuer sharedRefreshIssuer) 100
      (.password "u" "secret")
    have hl : login.IsConfigured :=
      ⟨isConfigured_sharedAccessIssuer, isConfigured_sharedRefreshIssuer, hearly⟩
    obtain ⟨token, hone, ht, hi⟩ := Visit.exists_login
      (hl.canIssue_iff.mpr (hl.access.signs rfl)) (SigningKey.signs_ofSecret rfl _ _) rfl rfl hn
      (he _ _) hp
    let redeemed := Visit.toPull (service access sharedRefreshIssuer) 200 (.refreshToken token)
    have hc : redeemed.IsConfigured := ⟨ha, isConfigured_sharedRefreshIssuer, hlate⟩
    have hr : redeemed.Redeems login "u" token := ⟨rfl, ht, rfl⟩
    have hh : redeemed.Honours "u" token := ⟨hc.refresh.hasSigned rfl hi, _, he _ _⟩
    obtain ⟨detail, hf⟩ := (hr.isCurrent hi rfl hn).fails_inside hh (mt hc.canIssue_iff.mp hs)
    exact ⟨login, redeemed, token, _, detail, hk, hl, hc, rfl,
      .redemption hone rfl (List.mem_singleton_self _) hr, rfl, he _ _, hf⟩

end Chain

end RegistryAuth
