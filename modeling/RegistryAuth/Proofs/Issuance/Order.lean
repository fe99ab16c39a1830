import RegistryAuth.Proofs.Issuance.History

/-! # The order of calls

The components are called in one order, which the credential of the request
decides, and each of them at most once. However a request ends, the calls made
for it begin that order.
-/

namespace RegistryAuth

namespace Call

/-- The place of a call in the order of calls. Authentication takes the first two places. -/
def place : Call → Nat
  | authenticate _ _ => 0
  | verifyRefreshToken _ => 0
  | findSubject _ => 1
  | authorize _ _ => 2
  | issueAccessToken _ _ _ => 3
  | issueRefreshToken _ => 4

/-- Whether a call asks for a token. -/
def asksForToken : Call → Bool
  | issueAccessToken _ _ _ => true
  | issueRefreshToken _ => true
  | _ => false

theorem asksForToken_iff {call : Call} : call.asksForToken = true ↔ 2 < call.place := by
  cases call <;> simp [asksForToken, place]

end Call

/-- The calls that authenticate a credential, given the id that a refresh token stands for. -/
def authenticationCalls : Option Credential → String → List Call
  | some (.password username secret), _ => [.authenticate username secret]
  | some (.refreshToken token), id => [.verifyRefreshToken token, .findSubject id]
  | none, _ => []

/-- All calls that a request may take, in their order. -/
def TokenRequest.callOrder (request : TokenRequest) (id : String) (subject : Subject)
    (granted : List Scope) : List Call :=
  authenticationCalls request.credential id ++ [.authorize subject request.scopes,
    .issueAccessToken subject request.service granted, .issueRefreshToken subject]

theorem TokenRequest.callOrder_ascending (request : TokenRequest) (id : String)
    (subject : Subject) (granted : List Scope) :
    (request.callOrder id subject granted).Pairwise fun a b => a.place < b.place := by
  rcases h : request.credential with _ | ⟨_, _⟩ | _ <;>
    simp [TokenRequest.callOrder, authenticationCalls, h, Call.place]

theorem Authenticator.Authenticates.calls_eq {authenticator : Authenticator} {now : Instant}
    {credential : Option Credential} {calls : List Call} {subject : Subject}
    (h : authenticator.Authenticates now credential calls subject) :
    calls = authenticationCalls credential subject.id := by
  cases h <;> rfl

namespace TokenPipeline

variable {pipeline : TokenPipeline} {occasion : Occasion} {request : TokenRequest}
  {cancelled : Bool} {calls : List Call} {phase : Phase} {call : Call}
  {reply : Reply (Except AuthError Phase)}

theorem Holds.next_prefix (h : pipeline.Holds occasion request phase calls)
    (hn : pipeline.Next occasion request phase call reply) :
    ∃ id subject granted, calls ++ [call] <+: request.callOrder id subject granted := by
  cases hn with
  | authenticate hc =>
    cases h
    exact ⟨"", Subject.anonymous, [], by simp [TokenRequest.callOrder, authenticationCalls, hc]⟩
  | verifyRefreshToken hc =>
    cases h
    exact ⟨"", Subject.anonymous, [], by simp [TokenRequest.callOrder, authenticationCalls, hc]⟩
  | @findSubject id =>
    obtain ⟨token, hc, -, rfl⟩ := h
    exact ⟨id, Subject.anonymous, [], by simp [TokenRequest.callOrder, authenticationCalls, hc]⟩
  | @authorize subject =>
    obtain rfl := Authenticator.Authenticates.calls_eq h
    exact ⟨subject.id, subject, [], by simp [TokenRequest.callOrder]⟩
  | @issueAccessToken subject granted =>
    obtain ⟨opening, ho, -, rfl⟩ := h
    obtain rfl := ho.calls_eq
    exact ⟨subject.id, subject, granted, by simp [TokenRequest.callOrder]⟩
  | @issueRefreshToken subject granted =>
    obtain ⟨opening, ho, -, -, rfl⟩ := h
    obtain rfl := ho.calls_eq
    exact ⟨subject.id, subject, granted, by simp [TokenRequest.callOrder]⟩

theorem Reached.prefix_callOrder (h : pipeline.Reached occasion request cancelled calls phase) :
    ∃ id subject granted, calls <+: request.callOrder id subject granted := by
  cases h with
  | first => exact ⟨"", Subject.anonymous, [], List.nil_prefix⟩
  | next h hn => exact h.holds.next_prefix hn

theorem Ends.prefix_callOrder {result : Except AuthError TokenResponse}
    (h : pipeline.Ends occasion request cancelled result calls) :
    ∃ id subject granted, calls <+: request.callOrder id subject granted := by
  cases h with
  | answered h => exact h.prefix_callOrder
  | cancelled h => exact h.prefix_callOrder
  | halted h hn => exact h.holds.next_prefix hn

theorem Ends.ascending {result : Except AuthError TokenResponse}
    (h : pipeline.Ends occasion request cancelled result calls) :
    calls.Pairwise fun a b => a.place < b.place := by
  obtain ⟨id, subject, granted, hp⟩ := h.prefix_callOrder
  exact (request.callOrder_ascending id subject granted).sublist hp.sublist

end TokenPipeline

end RegistryAuth
