import RegistryAuth.Proofs.Configuration.Components
import RegistryAuth.Proofs.Http.TokenEndpoint
import RegistryAuth.Proofs.Issuance.Redemption

/-! # Who obtains tokens

The tokens in a response name the anonymous subject, if the message was a query
without credentials, or an enabled user of the configuration whose password or
refresh token the message presents. There is no other way to a token.
-/

namespace RegistryAuth

/-- Years that can be written lie within the times that claims can hold. -/
theorem Instant.isClaimTime_of_rfc3339? {t : Instant} {text : String}
    (h : t.rfc3339? = some text) : IsClaimTime t.unixSeconds := by
  have hy : 0 ≤ t.date.year ∧ t.date.year ≤ 9999 := by
    by_cases hy : 0 ≤ t.date.year ∧ t.date.year ≤ 9999
    · exact hy
    · simp [rfc3339?, hy] at h
  simp only [date, Date.ofDays] at hy
  unfold IsClaimTime
  omega

/-- The payload of a token names a subject. -/
def Jwt.HasSubject (token id : String) : Prop :=
  ∃ payload, payload? token = some payload ∧ payload.member? "sub" = some (.string id)

section Tokens

variable {occasion : Occasion} {subject : Subject}

theorem JwtAccessIssuer.hasSubject {issuer : JwtAccessIssuer} {audience : Option String}
    {scopes : List Scope} {token : AccessToken} (ht : IsClaimTime occasion.now.unixSeconds)
    (h : issuer.issue occasion subject audience scopes = .ok token) :
    Jwt.HasSubject token.token subject.id := by
  have hp := Jwt.payload?_of_sign (issue_eq_ok_iff.mp h).2.1 (AccessClaims.isPlain_toJson _ _)
  refine ⟨_, hp.trans (AccessClaims.reread?_toJson (isClaimTime_claimsOn h ht) ht ht _), ?_⟩
  cases ha : (issuer.claimsOn occasion subject.id audience scopes).audience <;>
    simp [AccessClaims.toJson, ha, Json.member?, List.lookup_cons] <;> rfl

theorem JwtRefreshIssuer.hasSubject {issuer : JwtRefreshIssuer} {token : String}
    (ht : IsClaimTime occasion.now.unixSeconds) (h : issuer.issue occasion subject = .ok token) :
    Jwt.HasSubject token subject.id := by
  obtain ⟨he, hi⟩ := isClaimTime_claimsOn h ht.1
  have hp := Jwt.payload?_of_sign (issue_eq_ok_iff.mp h).2 (RefreshClaims.isPlain_toJson _ _)
  exact ⟨_, hp.trans (RefreshClaims.reread?_toJson he hi hi _), rfl⟩

end Tokens

/-- Why a message obtains tokens for a subject. -/
inductive Http.Request.Obtains (request : Request) (users : UserConfig)
    (verifier : RefreshTokenVerifier) (now : Instant) : String → Prop where
  | anonymous : request.IsAnonymous → Obtains request users verifier now ""
  | password {user : User} {secret : String} : user ∈ users.entries → user.enabled = true →
      user.username ≠ "" → request.Presents (.password user.username secret) →
      Password.verify secret user.passwordHash = true →
      Obtains request users verifier now user.username
  | refreshToken {user : User} {token : String} : user ∈ users.entries → user.enabled = true →
      user.username ≠ "" → request.Presents (.refreshToken token) →
      (verifier.verify now token).outcome = .value user.username →
      Obtains request users verifier now user.username

namespace Http.Request.Obtains

variable {request : Request} {users : UserConfig} {verifier : RefreshTokenVerifier}
  {now : Instant} {id : String}

theorem id_ne (h : request.Obtains users verifier now id) (hp : request.method = "POST") :
    id ≠ "" := by
  cases h with
  | anonymous ha => exact absurd (hp.symm.trans ha.1) (by decide)
  | password _ _ hn => exact hn
  | refreshToken _ _ hn => exact hn

/-- No entry that is disabled has the name of a subject who obtains tokens. -/
theorem enabled (h : request.Obtains users verifier now id) (hv : users.validate = .ok ())
    {user : User} (hm : user ∈ users.entries) (hn : user.username = id) : user.enabled = true := by
  obtain ⟨hi, hd⟩ := UserConfig.validate_eq_ok_iff.mp hv
  cases h with
  | anonymous => exact absurd hn (hi user hm).username_ne
  | password ho he => rwa [User.eq_of_distinct hd hm ho hn]
  | refreshToken ho he => rwa [User.eq_of_distinct hd hm ho hn]

end Http.Request.Obtains

namespace Deployment

variable {deployment : Deployment} {occasion : Occasion} {request : Http.Request}
  {admitted : TokenRequest} {subject : Subject} {response : TokenResponse}

theorem verify_of_authenticate {now : Instant} {token : String}
    (h : deployment.authenticate now (some (.refreshToken token)) = .ok subject) :
    ∃ user, deployment.Enables subject.id user ∧ user.subject = subject ∧
      (deployment.verifier.verify now token).outcome = .value subject.id := by
  obtain ⟨id, hv, ho⟩ := Except.bind_eq_ok_iff.mp h
  obtain ⟨user, he, rfl⟩ := ownerOf_find?_eq_ok_iff.mp ho
  obtain rfl : user.subject.id = id := he.2.1
  refine ⟨user, he, rfl, ?_⟩
  simp [verifier, hv, Reply.ofExcept, Reply.value]

/-- A message is authenticated as none but the subject that it obtains tokens for. -/
theorem obtains_of_authenticate (hm : request.Makes admitted)
    (h : deployment.authenticate occasion.now admitted.credential = .ok subject) :
    request.Obtains deployment.users deployment.verifier occasion.now subject.id := by
  unfold Http.Request.Makes at hm
  rcases hc : admitted.credential with _ | ⟨username, secret⟩ | token <;> rw [hc] at hm h
  · cases h
    exact .anonymous hm
  · obtain ⟨user, ⟨hu, rfl, he⟩, hv, rfl⟩ := authenticate_password_eq_ok_iff.mp h
    exact .password hu he (username_ne hu) hm hv
  · obtain ⟨user, ⟨hu, -, he⟩, rfl, hv⟩ := verify_of_authenticate h
    exact .refreshToken hu he (username_ne hu) hm hv

theorem hasSubject_of_respond (ht : IsClaimTime occasion.now.unixSeconds)
    (h : deployment.respond occasion admitted subject = .ok response) :
    Jwt.HasSubject response.accessToken subject.id ∧
      ∀ token, response.refreshToken = some token → Jwt.HasSubject token subject.id := by
  obtain ⟨access, refresh, ha, hr, rfl⟩ := respond_eq_ok_iff.mp h
  refine ⟨JwtAccessIssuer.hasSubject ht ha, ?_⟩
  rintro token rfl
  exact JwtRefreshIssuer.hasSubject ht (issue_of_refreshTokenFor hr).2

theorem issuedAt_of_respond (h : deployment.respond occasion admitted subject = .ok response) :
    response.issuedAt = occasion.now := by
  obtain ⟨access, refresh, ha, hr, rfl⟩ := respond_eq_ok_iff.mp h
  exact (JwtAccessIssuer.issue_eq_ok_iff.mp ha).2.2.2

/-- The service of one user has tokens for anyone until the end of time is near. -/
theorem exists_respond_ofUser {username hash : String} (salt : Bytes) (secret : String)
    (hi : User.IsValid ⟨username, hash, true, []⟩) (occasion : Occasion)
    (ht : occasion.now.unixSeconds + 604800 ≤ maxTime) (admitted : TokenRequest)
    (subject : Subject) :
    ∃ response, (ofUser salt secret hi).respond occasion admitted subject = .ok response := by
  have hx : ∀ lifetime ≤ 604800, ∃ expires,
      expiresAt occasion.now.unixSeconds lifetime = .ok expires := by
    intro lifetime hl
    exact ⟨_, expiresAt_eq_ok_iff.mpr ⟨by unfold maxTime at ht ⊢; omega, rfl⟩⟩
  have hf : Algorithm.hs256.family = .hmac := rfl
  have hk := SigningKey.signs_ofSecret hf (Bytes.ofText secret) none
  let visit : Visit := ⟨ofUser salt secret hi, occasion, admitted⟩
  have hc : visit.CanIssue := ⟨hk, hx 300 (by decide), fun _ => hx 604800 (Nat.le_refl _)⟩
  exact hc.exists_response hk subject

end Deployment

namespace Configuration

/-- Whoever obtains tokens from the built-in components is anonymous or a user enabled in the
configuration, and the tokens name nobody else. -/
theorem tokens_name_presented_user (configuration : Configuration) (files : Files) (salt : Bytes)
    {built : Built Components} {service : TokenService}
    (hb : configuration.buildComponents (Registries.builtin files salt) = .ok built)
    (hs : built.component.tokenService = .ok service) :
    ∃ users verifier,
      configuration.passwordAuthenticator.config.ReadsAs UserConfig.reader users ∧
      built.component.refreshTokenIssuer.verifier? = some verifier ∧
      ∀ (occasion : Occasion) (request : Http.Request), request.path = "/token" →
        request.method = "GET" ∨ request.method = "POST" →
        ((Http.Server.ofSettings configuration.server service).handle
          occasion request).response.status = 200 →
        ∃ access refresh id,
          ((Http.Server.ofSettings configuration.server service).handle
            occasion request).response.body.Carries access refresh ∧
          Jwt.HasSubject access id ∧ (∀ token, refresh = some token → Jwt.HasSubject token id) ∧
          request.Obtains users verifier occasion.now id ∧ (request.method = "POST" → id ≠ "") ∧
          ∀ user ∈ users.entries, user.username = id → user.enabled = true := by
  obtain ⟨deployment, hu, hv, rfl⟩ := exists_deployment hb hs
  refine ⟨deployment.users, deployment.verifier, hu, hv, ?_⟩
  intro occasion request hp hm h
  obtain ⟨admitted, response, ha, hr, ⟨text, ht⟩, hc⟩ := Http.Server.handle_token_status hp hm h
  have hr : deployment.answer occasion admitted = .ok response :=
    (deployment.result_eq_answer occasion admitted).symm.trans hr
  obtain ⟨subject, hsub, hr⟩ := Except.bind_eq_ok_iff.mp hr
  -- The time of issue was written into the response, so the claims can hold it as well.
  rw [Deployment.issuedAt_of_respond hr] at ht
  obtain ⟨haccess, hrefresh⟩ :=
    Deployment.hasSubject_of_respond (Instant.isClaimTime_of_rfc3339? ht) hr
  have ho := Deployment.obtains_of_authenticate ha hsub
  exact ⟨_, _, subject.id, hc, haccess, hrefresh, ho, ho.id_ne,
    fun _ => ho.enabled deployment.users_valid⟩

/-- A form that presents the password of the only user is answered with tokens. -/
theorem exists_login (form : String) {read : Http.TokenForm} {admitted : TokenRequest}
    (hl : (Bytes.ofText form).length ≤ Http.TokenForm.bodyLimit)
    (hp : Http.TokenForm.ofPairs (Form.pairs (Bytes.ofText form)) = .ok read)
    (ha : read.Admits false admitted) (hc : admitted.credential = some (.password "u" "p")) :
    ∃ (hash : String) (built : Built Components) (service : TokenService),
      (ofUser "u" hash "0123456789abcdef0123456789abcdef").buildComponents
        (Registries.builtin ⟨[]⟩ []) = .ok built ∧
      built.component.tokenService = .ok service ∧
      ((Http.Server.ofSettings (ofUser "u" hash "0123456789abcdef0123456789abcdef").server
        service).handle ⟨Instant.ofSeconds 0, "a", "r"⟩ (.ofForm form)).response.status = 200 := by
  have hn : "u" ≠ "" := by decide
  have hsecret : minimalSecret ≤ "0123456789abcdef0123456789abcdef".utf8ByteSize := by decide
  have ht : (Instant.ofSeconds 0).rfc3339? = some "1970-01-01T00:00:00Z" := by decide +kernel
  have hx : (Instant.ofSeconds 0).unixSeconds + 604800 ≤ maxTime := by decide
  obtain ⟨hash, hv, hi⟩ := User.exists_passwordHash hn "p"
  obtain ⟨built, hb, hs⟩ := exists_built_ofUser ⟨[]⟩ [] (hi true []) hsecret
  let visit : Visit := ⟨.ofUser [] "0123456789abcdef0123456789abcdef" (hi true []),
    ⟨Instant.ofSeconds 0, "a", "r"⟩, admitted⟩
  have hsub : visit.deployment.authenticate visit.occasion.now visit.request.credential =
      .ok ⟨"u", true, []⟩ := by
    change visit.deployment.authenticate visit.occasion.now admitted.credential = _
    rw [hc]
    exact Deployment.authenticate_password_eq_ok_iff.mpr
      ⟨_, ⟨List.mem_singleton_self _, rfl, rfl⟩, hv, rfl⟩
  obtain ⟨response, hr⟩ := Deployment.exists_respond_ofUser [] _ (hi true []) visit.occasion
    hx visit.request ⟨"u", true, []⟩
  have hw : response.issuedAt = Instant.ofSeconds 0 := Deployment.issuedAt_of_respond hr
  rw [← hw] at ht
  let server : Http.Server := ⟨visit.deployment.pipeline.service.logged, "r", false⟩
  have hissue : (server.service.issue visit.occasion false visit.request).result = .ok response :=
    (Visit.result_eq_of_authenticate hsub).trans hr
  exact ⟨hash, built, _, hb, hs, Http.Server.handle_post_status (Http.Request.path_ofForm form) rfl
    ((Http.TokenForm.ofBody_ofForm hl).trans hp) (Http.TokenForm.tokenRequest_eq_ok_iff.mpr ha)
    hissue ht⟩

/-- The form of a user's login is answered with a token of that user. -/
theorem login_names_user :
    ∃ (hash : String) (built : Built Components) (service : TokenService) (access : String)
      (refresh : Option String),
      (ofUser "u" hash "0123456789abcdef0123456789abcdef").buildComponents
        (Registries.builtin ⟨[]⟩ []) = .ok built ∧
      built.component.tokenService = .ok service ∧
      ((Http.Server.ofSettings (ofUser "u" hash "0123456789abcdef0123456789abcdef").server
        service).handle ⟨Instant.ofSeconds 0, "a", "r"⟩
          (.ofForm "grant_type=password&username=u&password=p")).response.body.Carries
            access refresh ∧
      Jwt.HasSubject access "u" := by
  have hpairs : Form.pairs (Bytes.ofText "grant_type=password&username=u&password=p") =
    [("grant_type", "password"), ("username", "u"), ("password", "p")] := by decide +kernel
  have ha : Http.TokenForm.Admits ⟨some "password", some "u", some "p", none, none, none⟩ false
      ⟨some (.password "u" "p"), none, [], true⟩ :=
    ⟨⟨_, rfl, .password rfl rfl (by decide) rfl (by decide) rfl⟩, rfl, rfl⟩
  obtain ⟨hash, built, service, hb, hs, h⟩ :=
    exists_login "grant_type=password&username=u&password=p" (by decide +kernel)
      (by rw [hpairs]; rfl) ha rfl
  -- The section is read as the one user only, who is the one that the tokens name.
  obtain ⟨_, verifier, hread, -, hall⟩ := tokens_name_presented_user _ _ _ hb hs
  cases hread
  obtain ⟨access, refresh, id, hcarry, hsub, -, ho, -⟩ := hall _ _ (by decide) (.inr rfl) h
  have hid : id = "u" := by
    cases ho with
    | anonymous ha => exact absurd ha.1 (by decide)
    | password hm => rw [List.mem_singleton.mp hm]
    | refreshToken hm => rw [List.mem_singleton.mp hm]
  exact ⟨hash, built, _, access, refresh, hb, hs, hcarry, hid ▸ hsub⟩

end Configuration

end RegistryAuth
