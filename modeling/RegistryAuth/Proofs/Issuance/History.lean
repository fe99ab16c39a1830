import RegistryAuth.Proofs.Issuance.Course

/-! # What leads to a phase

Invariants of the phases that a request reaches. The calls made by then and
their answers are those that the phase stands for, each of them let the request
go on, and none entered a stage after the request was cancelled.
-/

namespace RegistryAuth

/-- The calls that authenticate a credential, and the subject that they give. -/
inductive Authenticator.Authenticates (authenticator : Authenticator) (now : Instant) :
    Option Credential → List Call → Subject → Prop where
  | anonymous : Authenticates authenticator now none [] Subject.anonymous
  | password {username secret : String} {subject : Subject} :
      (authenticator.password.authenticate username secret).outcome = .value subject →
      Authenticates authenticator now (some (.password username secret))
        [.authenticate username secret] subject
  | refreshToken {token : String} {subject : Subject} :
      (authenticator.refreshToken.verifier.verify now token).outcome = .value subject.id →
      (authenticator.refreshToken.repository.findSubject subject.id).outcome =
        .value (some subject) →
      subject.enabled = true →
      Authenticates authenticator now (some (.refreshToken token))
        [.verifyRefreshToken token, .findSubject subject.id] subject

theorem ownerOf_eq_ok_iff {id : String} {found : Option Subject} {subject : Subject} :
    ownerOf id found = .ok subject ↔
      found = some subject ∧ subject.enabled = true ∧ subject.id = id := by
  rcases found with _ | owner
  · simp [ownerOf]
  · simp only [ownerOf, Bool.and_eq_true, beq_iff_eq, Option.some.injEq]
    constructor
    · intro h
      split at h
      · cases h
        exact ⟨rfl, ‹_›⟩
      · cases h
    · rintro ⟨rfl, h⟩
      rw [if_pos h]

namespace TokenPipeline

section

variable (pipeline : TokenPipeline) (occasion : Occasion) (request : TokenRequest)

/-- The authoriser grants scopes to a subject, and no more than were requested. -/
def Grants (subject : Subject) (granted : List Scope) : Prop :=
  (pipeline.authorizer.authorize subject request.scopes).outcome = .value granted ∧
    Scope.isSubset granted request.scopes = true

/-- What has been called and answered when a request is in a phase. -/
def Holds : Phase → List Call → Prop
  | .arrived, calls => calls = []
  | .verified id, calls => ∃ token, request.credential = some (.refreshToken token) ∧
      (pipeline.authenticator.refreshToken.verifier.verify occasion.now token).outcome =
        .value id ∧ calls = [.verifyRefreshToken token]
  | .authenticated subject, calls =>
      pipeline.authenticator.Authenticates occasion.now request.credential calls subject
  | .authorized subject granted, calls => ∃ opening,
      pipeline.authenticator.Authenticates occasion.now request.credential opening subject ∧
      pipeline.Grants request subject granted ∧
      calls = opening ++ [.authorize subject request.scopes]
  | .accessIssued subject granted access, calls => ∃ opening,
      pipeline.authenticator.Authenticates occasion.now request.credential opening subject ∧
      pipeline.Grants request subject granted ∧
      (pipeline.accessIssuer.issue occasion subject request.service granted).outcome =
        .value access ∧
      calls = opening ++ [.authorize subject request.scopes,
        .issueAccessToken subject request.service granted]
  | .refreshIssued subject granted access refresh, calls => ∃ opening,
      pipeline.authenticator.Authenticates occasion.now request.credential opening subject ∧
      pipeline.Grants request subject granted ∧
      (pipeline.accessIssuer.issue occasion subject request.service granted).outcome =
        .value access ∧
      (request.issueRefreshToken && !subject.isAnonymous) = true ∧
      (pipeline.refreshIssuer.issue occasion subject).outcome = .value refresh ∧
      calls = opening ++ [.authorize subject request.scopes,
        .issueAccessToken subject request.service granted, .issueRefreshToken subject]

/-- A verified refresh token has no owner, or one that is disabled or carries another id. -/
def RefusesOwner (call : Call) : Prop :=
  ∃ id found, call = .findSubject id ∧
    (pipeline.authenticator.refreshToken.repository.findSubject id).outcome = .value found ∧
    ∀ subject, found = some subject → subject.enabled = true → subject.id ≠ id

/-- The authoriser grants more than it was asked for. -/
def Widens (call : Call) : Prop :=
  ∃ subject requested granted, call = .authorize subject requested ∧
    (pipeline.authorizer.authorize subject requested).outcome = .value granted ∧
    Scope.isSubset granted requested = false

/-- The calls at which a request ends, each with the error that it ends with. -/
inductive Halts : Call → AuthError → Prop where
  | failed {call : Call} {e : AuthError} :
      (pipeline.answer occasion call).outcome = .failure e → Halts call e
  | hung {call : Call} : (pipeline.answer occasion call).outcome = .hangs → Halts call .cancelled
  | refused {call : Call} : pipeline.RefusesOwner call → Halts call .authenticationFailed
  | widened {subject : Subject} {requested granted : List Scope} :
      (pipeline.authorizer.authorize subject requested).outcome = .value granted →
      Scope.isSubset granted requested = false →
      Halts (.authorize subject requested) (.widened granted requested)

/-- No call enters a stage once the request is cancelled. -/
def Timely (cancelled : Bool) (calls : List Call) : Prop :=
  ∀ before call after, calls = before ++ call :: after → call.entersStage = true →
    pipeline.isCancelledAfter occasion cancelled before = false

end

variable {pipeline : TokenPipeline} {occasion : Occasion} {request : TokenRequest}
  {cancelled : Bool} {calls : List Call} {phase after : Phase} {call : Call}
  {reply : Reply (Except AuthError Phase)}

theorem Holds.next (h : pipeline.Holds occasion request phase calls)
    (hn : pipeline.Next occasion request phase call reply)
    (hr : reply.outcome = .value (.ok after)) :
    pipeline.Holds occasion request after (calls ++ [call]) := by
  cases hn with
  | authenticate hc =>
    obtain ⟨subject, ha, ⟨⟩⟩ := Outcome.map_eq_value_iff.mp hr
    cases h
    simpa [Holds, hc] using .password ha
  | @verifyRefreshToken token hc =>
    obtain ⟨id, ha, ⟨⟩⟩ := Outcome.map_eq_value_iff.mp hr
    cases h
    exact ⟨token, hc, ha, rfl⟩
  | @findSubject id =>
    obtain ⟨found, ha, hf⟩ := Outcome.map_eq_value_iff.mp hr
    obtain ⟨token, hc, hv, rfl⟩ := h
    cases ho : ownerOf id found with
    | error e => simp [ho, Except.map] at hf
    | ok subject =>
      obtain ⟨rfl, he, rfl⟩ := ownerOf_eq_ok_iff.mp ho
      simp only [ho, Except.map, Except.ok.injEq] at hf
      subst hf
      simpa [Holds, hc] using .refreshToken hv ha he
  | authorize =>
    obtain ⟨granted, ha, hf⟩ := Outcome.map_eq_value_iff.mp hr
    by_cases hs : Scope.isSubset granted request.scopes = true
    · simp only [hs, if_true, Except.ok.injEq] at hf
      subst hf
      exact ⟨calls, h, ⟨ha, hs⟩, rfl⟩
    · simp [hs] at hf
  | issueAccessToken =>
    obtain ⟨access, ha, ⟨⟩⟩ := Outcome.map_eq_value_iff.mp hr
    obtain ⟨opening, ho, hg, rfl⟩ := h
    exact ⟨opening, ho, hg, ha, by simp⟩
  | issueRefreshToken hw =>
    obtain ⟨refresh, ha, ⟨⟩⟩ := Outcome.map_eq_value_iff.mp hr
    obtain ⟨opening, ho, hg, hi, rfl⟩ := h
    exact ⟨opening, ho, hg, hi, hw, ha, by simp⟩

theorem Reached.holds (h : pipeline.Reached occasion request cancelled calls phase) :
    pipeline.Holds occasion request phase calls := by
  induction h with
  | first =>
    rcases hc : request.credential with _ | credential <;>
      simp only [Phase.first, hc, Option.isSome, if_true, Bool.false_eq_true, if_false]
    · simpa [Holds, hc] using .anonymous
    · rfl
  | next _ hn _ hr ih => exact ih.next hn hr

theorem ownerOf_eq_error_iff {id : String} {found : Option Subject} {e : AuthError} :
    ownerOf id found = .error e ↔ e = .authenticationFailed ∧
      ∀ subject, found = some subject → subject.enabled = true → subject.id ≠ id := by
  rcases found with _ | owner
  · exact ⟨fun h => ⟨(Except.error.inj h).symm, nofun⟩, fun h => congrArg _ h.1.symm⟩
  · by_cases h : owner.enabled = true ∧ owner.id = id
    · simp [ownerOf, h]
    · have hw : ownerOf id (some owner) = .error .authenticationFailed := by
        simpa [ownerOf] using h
      rw [hw]
      refine ⟨fun he => ⟨(Except.error.inj he).symm, ?_⟩, fun he => congrArg _ he.1.symm⟩
      rintro subject ⟨⟩ he hi
      exact h ⟨he, hi⟩

theorem Halts.of_refused {e : AuthError} (hn : pipeline.Next occasion request phase call reply)
    (hr : reply.outcome = .value (.error e)) : pipeline.Halts occasion call e := by
  cases hn with
  | @findSubject id =>
    obtain ⟨found, ha, hf⟩ := Outcome.map_eq_value_iff.mp hr
    cases ho : ownerOf id found with
    | ok subject => simp [ho, Except.map] at hf
    | error e' =>
      obtain ⟨rfl, hs⟩ := ownerOf_eq_error_iff.mp ho
      simp only [ho, Except.map, Except.error.injEq] at hf
      subst hf
      exact .refused ⟨id, found, rfl, ha, hs⟩
  | authorize =>
    obtain ⟨granted, ha, hf⟩ := Outcome.map_eq_value_iff.mp hr
    by_cases hs : Scope.isSubset granted request.scopes = true
    · simp [hs] at hf
    · simp only [hs, Bool.false_eq_true, if_false, Except.error.injEq] at hf
      subst hf
      exact .widened ha (by simpa using hs)
  | _ =>
    obtain ⟨_, _, ⟨⟩⟩ := Outcome.map_eq_value_iff.mp hr

theorem halts_iff {e : AuthError} (hn : pipeline.Next occasion request phase call reply) :
    pipeline.Halts occasion call e ↔ endingError? reply.outcome = some e := by
  have ha := hn.forget
  constructor
  · intro h
    cases h with
    | failed hf =>
      rw [← ha] at hf
      rw [Outcome.map_eq_failure_iff.mp hf]
      rfl
    | hung hh =>
      rw [← ha] at hh
      rw [Outcome.map_eq_hangs_iff.mp hh]
      rfl
    | refused hr =>
      obtain ⟨id, found, rfl, hv, hs⟩ := hr
      have ho := ownerOf_eq_error_iff.mpr ⟨rfl, hs⟩
      cases hn
      simp [hv, ho, Except.map, endingError?]
    | widened hv hs =>
      cases hn
      simp [hv, hs, endingError?]
  · intro h
    rcases ho : reply.outcome with (error | after) | error | _ <;> rw [ho] at h <;> cases h
    · exact .of_refused hn ho
    · exact .failed (by rw [← ha]; exact Outcome.map_eq_failure_iff.mpr ho)
    · exact .hung (by rw [← ha]; exact Outcome.map_eq_hangs_iff.mpr ho)

theorem Reached.passed (h : pipeline.Reached occasion request cancelled calls phase) :
    ∀ call ∈ calls, ∀ e, ¬ pipeline.Halts occasion call e := by
  induction h with
  | first => simp
  | @next calls phase after call reply _ hn _ hr ih =>
    intro made hm e he
    rcases List.mem_append.mp hm with hm | hm
    · exact ih made hm e he
    · obtain rfl := List.mem_singleton.mp hm
      have hs := (halts_iff hn).mp he
      simp [hr, endingError?] at hs

theorem Timely.append (h : pipeline.Timely occasion cancelled calls)
    (ht : call.entersStage = true → pipeline.isCancelledAfter occasion cancelled calls = false) :
    pipeline.Timely occasion cancelled (calls ++ [call]) := by
  intro before made after he hs
  rcases List.eq_nil_or_concat after with rfl | ⟨rest, last, rfl⟩
  · obtain ⟨rfl, hc⟩ := List.append_inj' he rfl
    cases hc
    exact ht hs
  · refine h before made rest ?_ hs
    have hc : calls ++ [call] = (before ++ made :: rest) ++ [last] := by simpa using he
    exact (List.append_inj' hc rfl).1

theorem Reached.timely (h : pipeline.Reached occasion request cancelled calls phase) :
    pipeline.Timely occasion cancelled calls := by
  induction h with
  | first => simp [Timely]
  | next _ _ ht _ ih => exact ih.append ht

/-- A call at which the request halts is its last, and gives its error. -/
theorem Ends.of_halts {result : Except AuthError TokenResponse} {e : AuthError}
    (h : pipeline.Ends occasion request cancelled result calls) (hm : call ∈ calls)
    (he : pipeline.Halts occasion call e) :
    (∃ before, calls = before ++ [call]) ∧ result = .error e := by
  cases h with
  | answered h => exact absurd he (h.passed _ hm _)
  | cancelled h => exact absurd he (h.passed _ hm _)
  | halted h hn ht hr =>
    rcases List.mem_append.mp hm with hm | hm
    · exact absurd he (h.passed _ hm _)
    · obtain rfl := List.mem_singleton.mp hm
      rw [(halts_iff hn).mp he, Option.some.injEq] at hr
      exact ⟨⟨_, rfl⟩, congrArg _ hr.symm⟩

theorem Ends.timely {result : Except AuthError TokenResponse}
    (h : pipeline.Ends occasion request cancelled result calls) :
    pipeline.Timely occasion cancelled calls := by
  cases h with
  | answered h => exact h.timely
  | cancelled h => exact h.timely
  | halted h _ ht => exact h.timely.append ht

end TokenPipeline

end RegistryAuth
