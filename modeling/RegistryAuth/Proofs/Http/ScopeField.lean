import RegistryAuth.Proofs.Http.Identity
import RegistryAuth.Proofs.Scope.Canonical
import RegistryAuth.Proofs.Token.Access

/-! # The granted scopes in a response

A response to a form names the granted scopes in a text. A client that reads this
text gets the very list that the access token carries, because what is requested
in words and what a policy leaves of it are lists that their text gives back.
-/

namespace RegistryAuth

theorem Policy.areCanonical_grant (policy : Policy) (subject : Subject) {requested : List Scope}
    (h : Scope.AreCanonical requested) : Scope.AreCanonical (policy.grant subject requested) :=
  h.of_isPartOf (policy.grant_inOrder subject requested)

/-- The payload of an access token lists the scopes. -/
def Jwt.HasAccess (token : String) (scopes : List Scope) : Prop :=
  ∃ (contents : Contents) (members : List (String × Json)) (claims : AccessClaims),
    token.toList = contents.text ∧ IsTextOf contents.payload (.object members) ∧
      claims.WrittenIn members ∧ claims.access = scopes

theorem Deployment.hasAccess_of_respond {deployment : Deployment} {occasion : Occasion}
    {admitted : TokenRequest} {subject : Subject} {response : TokenResponse}
    (ht : IsClaimTime occasion.now.unixSeconds)
    (h : deployment.respond occasion admitted subject = .ok response) :
    Jwt.HasAccess response.accessToken response.scopes := by
  obtain ⟨access, refresh, ha, -, rfl⟩ := respond_eq_ok_iff.mp h
  obtain ⟨contents, hc, -, ⟨members, hp, hw⟩, -⟩ :=
    JwtAccessIssuer.exists_contents_of_issue ha ht
  exact ⟨contents, members, _, hc, hp, hw, rfl⟩

theorem Deployment.areCanonical_of_respond {deployment : Deployment} {occasion : Occasion}
    {admitted : TokenRequest} {subject : Subject} {response : TokenResponse}
    (hs : Scope.AreCanonical admitted.scopes)
    (h : deployment.respond occasion admitted subject = .ok response) :
    Scope.AreCanonical response.scopes := by
  obtain ⟨access, refresh, -, -, rfl⟩ := respond_eq_ok_iff.mp h
  exact deployment.policy.areCanonical_grant subject hs

namespace Configuration

/-- Requested and granted scopes are read back from their own text. So the text in a response to a
form is read as the list in the payload of its access token. -/
theorem scope_text_tells_access :
    (∀ values scopes, Scope.parseAll values = .ok scopes →
      Scope.parseAll [Scope.renderAll scopes] = .ok scopes ∧
      ∀ (policy : Policy) (subject : Subject), ∃ granted,
        policy.authorizer.authorize subject scopes = Reply.value granted ∧
        Scope.parseAll [Scope.renderAll granted] = .ok granted) ∧
    ∀ (configuration : Configuration) (files : Files) (salt : Bytes) (built : Built Components)
      (service : TokenService),
      configuration.buildComponents (Registries.builtin files salt) = .ok built →
      built.component.tokenService = .ok service →
      ∀ (occasion : Occasion) (request : Http.Request), request.path = "/token" →
        request.method = "POST" →
        ((Http.Server.ofSettings configuration.server service).handle
          occasion request).response.status = 200 →
        ∃ members access text scopes,
          ((Http.Server.ofSettings configuration.server service).handle
            occasion request).response.body = .json (.object members) ∧
          Json.IsOnly members "access_token" (.string access) ∧
          Json.IsOnly members "scope" (.string text) ∧
          Scope.parseAll [text] = .ok scopes ∧ Jwt.HasAccess access scopes := by
  constructor
  · intro values scopes h
    have hs := Scope.areCanonical_of_parseAll h
    refine ⟨Scope.parseAll_renderAll_iff.mpr hs, fun policy subject => ?_⟩
    exact ⟨_, policy.authorize_authorizer subject scopes,
      Scope.parseAll_renderAll_iff.mpr (policy.areCanonical_grant subject hs)⟩
  · intro configuration files salt built service hb hs occasion request hp hm h
    obtain ⟨deployment, -, -, rfl⟩ := exists_deployment hb hs
    rw [Http.Server.handle_post hp hm] at h ⊢
    obtain ⟨form, admitted, -, ha, hi⟩ := Http.Server.postToken_status h
    rw [hi] at h ⊢
    obtain ⟨response, members, hr, ⟨text, ht⟩, hbody, haccess, hscope⟩ :=
      Http.resultResponse_oauth2_status h
    have hr : deployment.answer occasion admitted = .ok response :=
      (deployment.result_eq_answer occasion admitted).symm.trans hr
    obtain ⟨subject, -, hr⟩ := Except.bind_eq_ok_iff.mp hr
    -- The answer was written with its time of issue, which claims can hold as well.
    rw [Deployment.issuedAt_of_respond hr] at ht
    have hc := Deployment.areCanonical_of_respond (Scope.areCanonical_of_parseAll ha.scopes) hr
    exact ⟨members, _, _, _, hbody, haccess, hscope, Scope.parseAll_renderAll_iff.mpr hc,
      Deployment.hasAccess_of_respond (Instant.isClaimTime_of_rfc3339? ht) hr⟩

/-- What the words of a field request on one resource is merged, granted and told. -/
theorem merged_scopes_told_with_token :
    Scope.parseAll [Scope.renderAll [⟨"a", "b:1", ["c", "d"]⟩, ⟨"x", "y", []⟩]] =
      .ok [⟨"a", "b:1", ["c", "d"]⟩, ⟨"x", "y", []⟩] ∧
    ∃ (hash : String) (built : Built Components) (service : TokenService)
      (members : List (String × Json)) (access text : String) (scopes : List Scope),
      (ofUser "u" hash "0123456789abcdef0123456789abcdef").buildComponents
        (Registries.builtin ⟨[]⟩ []) = .ok built ∧
      built.component.tokenService = .ok service ∧
      ((Http.Server.ofSettings (ofUser "u" hash "0123456789abcdef0123456789abcdef").server
        service).handle ⟨Instant.ofSeconds 0, "a", "r"⟩ (.ofForm
          "grant_type=password&username=u&password=p&scope=a:b:1:c+x:y:++a:b:1:c,d")
            ).response.body = .json (.object members) ∧
      Json.IsOnly members "access_token" (.string access) ∧
      Json.IsOnly members "scope" (.string text) ∧
      Scope.parseAll [text] = .ok scopes ∧ Jwt.HasAccess access scopes := by
  have hpairs : Form.pairs (Bytes.ofText
      "grant_type=password&username=u&password=p&scope=a:b:1:c+x:y:++a:b:1:c,d") =
    [("grant_type", "password"), ("username", "u"), ("password", "p"),
      ("scope", "a:b:1:c x:y:  a:b:1:c,d")] := by decide +kernel
  have hscopes : Scope.parseAll ["a:b:1:c x:y:  a:b:1:c,d"] =
    .ok [⟨"a", "b:1", ["c", "d"]⟩, ⟨"x", "y", []⟩] := by decide +kernel
  have ha : Http.TokenForm.Admits
      ⟨some "password", some "u", some "p", none, some "a:b:1:c x:y:  a:b:1:c,d", none⟩ false
      ⟨some (.password "u" "p"), none, [⟨"a", "b:1", ["c", "d"]⟩, ⟨"x", "y", []⟩], true⟩ :=
    ⟨⟨_, rfl, .password rfl rfl (by decide) rfl (by decide) rfl⟩, rfl, hscopes⟩
  obtain ⟨hash, built, service, hb, hs, h⟩ :=
    exists_login "grant_type=password&username=u&password=p&scope=a:b:1:c+x:y:++a:b:1:c,d"
      (by decide +kernel) (by rw [hpairs]; rfl) ha rfl
  obtain ⟨members, access, text, scopes, hbody, haccess, hscope, hp, hj⟩ :=
    scope_text_tells_access.2 _ _ _ _ _ hb hs _ _ (Http.Request.path_ofForm _) rfl h
  exact ⟨(scope_text_tells_access.1 _ _ hscopes).1, hash, built, service, members, access, text,
    scopes, hb, hs, hbody, haccess, hscope, hp, hj⟩

end Configuration

end RegistryAuth
