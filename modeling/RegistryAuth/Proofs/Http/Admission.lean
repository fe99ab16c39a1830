import RegistryAuth.Proofs.Http.TokenEndpoint

/-! # Which forms are served

A form that names its grant and holds the credential for it makes the one call of
the service that its fields describe. No other form reaches the service, and all
of them are answered with status 400.
-/

namespace RegistryAuth.Http.Server

variable {server : Server} {occasion : Occasion} {request : Request} {form : TokenForm}
  {admitted : TokenRequest}

theorem postToken_of_admits
    (hb : TokenForm.ofBody (request.header? "content-type") request.body = .ok form)
    (ha : form.Admits server.rotateRefreshTokens admitted) :
    server.postToken occasion request = server.issue occasion .oauth2 admitted := by
  simp only [postToken, hb, TokenForm.tokenRequest_eq_ok_iff.mpr ha]

/-- A form that is not admitted is refused in the same way by every service. -/
theorem postToken_of_not_admits (occasion : Occasion)
    (hb : TokenForm.ofBody (request.header? "content-type") request.body = .ok form)
    (hn : ∀ admitted, ¬ form.Admits server.rotateRefreshTokens admitted) :
    ∃ response log, response.status = 400 ∧ ∀ service,
      ({ server with service := service } : Server).postToken occasion request =
        ⟨response, none, log⟩ := by
  cases ht : form.tokenRequest server.rotateRefreshTokens with
  | ok admitted => exact absurd (TokenForm.tokenRequest_eq_ok_iff.mp ht) (hn admitted)
  | error rejection =>
    simp only [postToken, hb, ht]
    rcases TokenForm.tokenRequest_eq_error ht with ⟨message, rfl⟩ | ⟨type, rfl⟩
    · exact ⟨_, _, rfl, fun _ => rfl⟩
    · exact ⟨_, _, rfl, fun _ => rfl⟩

section Form

variable (hp : request.path = "/token") (hm : request.method = "POST")
  (hb : TokenForm.ofBody (request.header? "content-type") request.body = .ok form)

include hp hm hb

theorem handle_of_admits (ha : form.Admits server.rotateRefreshTokens admitted) :
    server.handle occasion request = (server.issue occasion .oauth2 admitted).opened := by
  rw [handle_post hp hm, postToken_of_admits hb ha]

theorem handle_of_not_admits (occasion : Occasion)
    (hn : ∀ admitted, ¬ form.Admits server.rotateRefreshTokens admitted) :
    ∃ response log, response.status = 400 ∧ ∀ service,
      ({ server with service := service } : Server).handle occasion request =
        ⟨response, none, log⟩ := by
  obtain ⟨response, log, hs, hall⟩ := postToken_of_not_admits occasion hb hn
  refine ⟨response.withHeaders openHeaders, log, hs, fun service => ?_⟩
  rw [handle_post hp hm, hall]
  rfl

theorem handle_admitted_iff :
    (server.handle occasion request).admitted = some admitted ↔
      form.Admits server.rotateRefreshTokens admitted := by
  constructor
  · intro h
    by_cases he : ∃ other, form.Admits server.rotateRefreshTokens other
    · obtain ⟨other, ho⟩ := he
      rw [handle_of_admits hp hm hb ho] at h
      cases h
      exact ho
    · obtain ⟨_, _, -, hall⟩ := handle_of_not_admits hp hm hb occasion (not_exists.mp he)
      rw [hall server.service] at h
      cases h
  · intro ha
    rw [handle_of_admits hp hm hb ha]
    rfl

end Form

/-- The service is called for a form if its scopes can be read and it holds what its grant needs.
It is called once, with the credential of that grant, and what it answers is sent. All other forms
are answered with status 400, whatever the service would do. -/
theorem form_served_by_its_grant (server : Server) (occasion : Occasion) {request : Request}
    {form : TokenForm} (hp : request.path = "/token") (hm : request.method = "POST")
    (hb : TokenForm.ofBody (request.header? "content-type") request.body = .ok form) :
    ((∃ admitted, (server.handle occasion request).admitted = some admitted) ↔
      (∃ scopes, Scope.parseAll form.scope.toList = .ok scopes) ∧
        (form.grantType = some "password" ∧ form.username.getD "" ≠ "" ∧
            form.password.getD "" ≠ "" ∧ form.refreshToken.getD "" = "" ∨
          form.grantType = some "refresh_token" ∧ form.refreshToken.getD "" ≠ "" ∧
            ¬ (form.username.getD "" ≠ "" ∧ form.password.isSome = true))) ∧
    (∀ admitted, (server.handle occasion request).admitted = some admitted →
      form.Admits server.rotateRefreshTokens admitted ∧
        (server.handle occasion request).IsCall server occasion .oauth2 admitted) ∧
    ((server.handle occasion request).admitted = none →
      ∃ response log, response.status = 400 ∧ ∀ service,
        ({ server with service := service } : Server).handle occasion request =
          ⟨response, none, log⟩) := by
  have ha : ∀ admitted, (server.handle occasion request).admitted = some admitted ↔
      form.Admits server.rotateRefreshTokens admitted := fun _ => handle_admitted_iff hp hm hb
  refine ⟨?_, fun admitted h => ?_, fun h => ?_⟩
  · simp only [ha]
    exact TokenForm.exists_admits_iff server.rotateRefreshTokens
  · have hadm := (ha admitted).mp h
    rw [handle_of_admits hp hm hb hadm]
    exact ⟨hadm, server.issue_isCall occasion .oauth2 admitted⟩
  · refine handle_of_not_admits hp hm hb occasion fun admitted hadm => ?_
    cases h.symm.trans ((ha admitted).mpr hadm)

/-- A token is redeemed beside a login without a name, and refused beside a full one. -/
theorem token_served_beside_nameless_login :
    ∃ (server : Server) (occasion : Occasion),
      Exchange.IsCall
        (server.handle occasion (.ofForm
          "grant_type=refresh_token&refresh_token=t&username=&password=p&service=&scope=a:b:c"))
        server occasion .oauth2 ⟨some (.refreshToken "t"), none, [⟨"a", "b", ["c"]⟩], true⟩ ∧
      (server.handle occasion (.ofForm
        "grant_type=refresh_token&refresh_token=t&username=u&password=")).response.status =
          400 := by
  let server : Server := ⟨⟨fun _ _ _ => ⟨.error .cancelled, [], []⟩⟩, "r", true⟩
  let occasion : Occasion := ⟨Instant.ofSeconds 0, "a", "r"⟩
  let served := "grant_type=refresh_token&refresh_token=t&username=&password=p&service=&scope=a:b:c"
  let refused := "grant_type=refresh_token&refresh_token=t&username=u&password="
  have hs : TokenForm.ofPairs (Form.pairs (Bytes.ofText served)) =
    .ok ⟨some "refresh_token", some "", some "p", some "t", some "a:b:c", some ""⟩ := by
    decide +kernel
  have hr : TokenForm.ofPairs (Form.pairs (Bytes.ofText refused)) =
    .ok ⟨some "refresh_token", some "u", some "", some "t", none, none⟩ := by decide +kernel
  have hscopes : Scope.parseAll ["a:b:c"] = .ok [⟨"a", "b", ["c"]⟩] := by decide +kernel
  obtain ⟨hiff, hserved, -⟩ := form_served_by_its_grant server occasion (by decide) rfl
    ((TokenForm.ofBody_ofForm (by decide +kernel)).trans hs)
  obtain ⟨hnone, -, hrefused⟩ := form_served_by_its_grant server occasion (by decide) rfl
    ((TokenForm.ofBody_ofForm (by decide +kernel)).trans hr)
  obtain ⟨admitted, ha⟩ := hiff.mpr ⟨⟨_, hscopes⟩, .inr ⟨rfl, by decide, by decide⟩⟩
  obtain ⟨⟨⟨credential, hc, hg⟩, hv, hp⟩, he⟩ := hserved admitted ha
  obtain ⟨response, log, h400, hall⟩ := hrefused (by
    rw [Option.eq_none_iff_forall_ne_some]
    intro admitted h
    obtain ⟨-, hg | hg⟩ := hnone.mp ⟨admitted, h⟩
    · exact absurd hg.1 (by decide)
    · exact hg.2.2 (by decide))
  refine ⟨server, occasion, ?_, by rw [hall server.service]; exact h400⟩
  obtain ⟨_, service, scopes, wanted⟩ := admitted
  cases hg with
  | password ht => exact absurd ht (by decide)
  | refreshToken _ ht =>
    cases ht
    cases hc
    cases hv
    cases hscopes.symm.trans hp
    exact he

end RegistryAuth.Http.Server
