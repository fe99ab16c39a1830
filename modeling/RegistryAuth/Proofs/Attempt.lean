import RegistryAuth.Stage

/-! # Reasoning about attempts

A triple relates the progress before an attempt to its value and the progress
after it, and says with which error and after which calls it may end instead.
Each way to build an attempt has a rule, so that a triple is proved by following
the text of the attempt. An attempt whose calls are all answered at once, and by
none of which it is cancelled, gives the result of a plain computation.
-/

namespace RegistryAuth

variable {α β : Type}

@[simp]
def Outcome.map (f : α → β) : Outcome α → Outcome β
  | .value a => .value (f a)
  | .failure e => .failure e
  | .hangs => .hangs

theorem Outcome.map_eq_value_iff {f : α → β} {outcome : Outcome α} {b : β} :
    outcome.map f = .value b ↔ ∃ a, outcome = .value a ∧ f a = b := by
  cases outcome <;> simp

theorem Outcome.map_eq_failure_iff {f : α → β} {outcome : Outcome α} {e : AuthError} :
    outcome.map f = .failure e ↔ outcome = .failure e := by
  cases outcome <;> simp

theorem Outcome.map_eq_hangs_iff {f : α → β} {outcome : Outcome α} :
    outcome.map f = .hangs ↔ outcome = .hangs := by
  cases outcome <;> simp

/-- What the caller of a component gets by its outcome. -/
def Outcome.result : Outcome α → Except Halt α
  | .value a => .ok a
  | .failure e => .error (.failed e)
  | .hangs => .error .hung

theorem Outcome.result_eq_ok_iff {outcome : Outcome α} {a : α} :
    outcome.result = .ok a ↔ outcome = .value a := by
  cases outcome <;> simp [result]

theorem Outcome.result_eq_failed_iff {outcome : Outcome α} {e : AuthError} :
    outcome.result = .error (.failed e) ↔ outcome = .failure e := by
  cases outcome <;> simp [result]

theorem Outcome.result_eq_hung_iff {outcome : Outcome α} :
    outcome.result = .error .hung ↔ outcome = .hangs := by
  cases outcome <;> simp [result]

namespace Reply

def map (f : α → β) (reply : Reply α) : Reply β :=
  ⟨reply.outcome.map f, reply.cancels⟩

@[simp]
theorem outcome_map (f : α → β) (reply : Reply α) :
    (reply.map f).outcome = reply.outcome.map f := rfl

@[simp]
theorem cancels_map (f : α → β) (reply : Reply α) : (reply.map f).cancels = reply.cancels := rfl

/-- A reply without the value that it may give. -/
def forget (reply : Reply α) : Reply Unit :=
  reply.map fun _ => ()

theorem forget_map (f : α → β) (reply : Reply α) : (reply.map f).forget = reply.forget := by
  rcases reply with ⟨_ | _ | _, _⟩ <;> rfl

end Reply

/-- The error with which a run ends that halts. -/
def Halt.error : Halt → AuthError
  | .failed e => e
  | .hung => .cancelled

/-- Progress once a call has been answered. -/
def Progress.answered (progress : Progress) (made : Call) (reply : Reply α) : Progress :=
  ⟨progress.calls ++ [made], progress.cancelled || reply.cancels⟩

namespace Attempt

section Apply

variable {x : Attempt α} {a : α} {progress : Progress}

theorem call_apply (made : Call) (reply : Reply α) (progress : Progress) :
    call made reply progress = (reply.outcome.result, progress.answered made reply) := by
  unfold call
  cases reply.outcome <;> rfl

theorem fst_bind (x : Attempt α) (f : α → Attempt β) (progress : Progress) :
    ((x >>= f) progress).1 = ((x progress).1 >>= fun a => (f a (x progress).2).1) := by
  change (Attempt.bind x f progress).1 = _
  unfold Attempt.bind
  rcases x progress with ⟨_ | a, after⟩ <;> rfl

theorem snd_bind (x : Attempt α) (f : α → Attempt β) (progress : Progress) :
    ((x >>= f) progress).2 = match (x progress).1 with
      | .ok a => (f a (x progress).2).2
      | .error _ => (x progress).2 := by
  change (Attempt.bind x f progress).2 = _
  unfold Attempt.bind
  rcases x progress with ⟨_ | a, after⟩ <;> rfl

theorem guarded_apply_of_ok (hc : progress.cancelled = false)
    (h : (x progress).1 = .ok a) : guarded x progress = x progress := by
  unfold guarded
  rw [hc]
  rcases hx : x progress with ⟨halt | a, after⟩
  · rw [hx] at h
    cases h
  · rfl

end Apply

def Triple (P : Progress → Prop) (x : Attempt α) (Q : α → Progress → Prop)
    (E : AuthError → List Call → Prop) : Prop :=
  ∀ progress, P progress →
    match x progress with
    | (.ok a, after) => Q a after
    | (.error halt, after) => E halt.error after.calls

namespace Triple

variable {P P' : Progress → Prop} {Q Q' : α → Progress → Prop} {R : β → Progress → Prop}
  {E : AuthError → List Call → Prop}

theorem of_imp {x : Attempt α} (hx : Triple P' x Q' E) (hP : ∀ p, P p → P' p)
    (hQ : ∀ a p, Q' a p → Q a p) : Triple P x Q E := by
  intro p hp
  have h := hx p (hP p hp)
  rcases hr : x p with ⟨_ | a, after⟩ <;> rw [hr] at h
  · exact h
  · exact hQ a after h

theorem pure {a : α} (h : ∀ p, P p → Q a p) : Triple P (Attempt.pure a) Q E := h

theorem fail {e : AuthError} (h : ∀ p, P p → E e p.calls) :
    Triple P (Attempt.fail e : Attempt α) Q E := h

theorem bind {x : Attempt α} {f : α → Attempt β} (hx : Triple P x Q E)
    (hf : ∀ a, Triple (Q a) (f a) R E) : Triple P (x >>= f) R E := by
  intro p hp
  have h := hx p hp
  change match Attempt.bind x f p with
    | (.ok b, after) => R b after
    | (.error halt, after) => E halt.error after.calls
  unfold Attempt.bind
  rcases hr : x p with ⟨_ | a, after⟩ <;> rw [hr] at h
  · exact h
  · exact hf a after h

theorem call {made : Call} {reply : Reply α}
    (hv : ∀ p a, P p → reply.outcome = .value a → Q a (p.answered made reply))
    (he : ∀ p e, P p → reply.outcome = .failure e → E e (p.calls ++ [made]))
    (hh : ∀ p, P p → reply.outcome = .hangs → E .cancelled (p.calls ++ [made])) :
    Triple P (Attempt.call made reply) Q E := by
  intro p hp
  unfold Attempt.call
  cases hr : reply.outcome with
  | value a => exact hv p a hp hr
  | failure e => exact he p e hp hr
  | hangs => exact hh p hp hr

theorem failIfCancelled (hc : ∀ p, P p → p.cancelled = true → E .cancelled p.calls) :
    Triple P Attempt.failIfCancelled (fun _ p => P p ∧ p.cancelled = false) E := by
  intro p hp
  unfold Attempt.failIfCancelled
  cases hf : p.cancelled with
  | true => exact hc p hp hf
  | false => exact ⟨hp, hf⟩

/-- Inside a guard the request is known not to be cancelled yet. -/
theorem guarded {x : Attempt α} (hc : ∀ p, P p → p.cancelled = true → E .cancelled p.calls)
    (hx : Triple (fun p => P p ∧ p.cancelled = false) x Q E) :
    Triple P (Attempt.guarded x) Q E := by
  intro p hp
  unfold Attempt.guarded
  cases hf : p.cancelled with
  | true => exact hc p hp hf
  | false =>
    have h := hx p ⟨hp, hf⟩
    rcases hr : x p with ⟨halt | a, after⟩ <;> rw [hr] at h
    · cases halt <;> exact h
    · exact h

theorem run {x : Attempt α} {cancelled : Bool} (hx : Triple P x Q E) (hp : P ⟨[], cancelled⟩) :
    match x.run cancelled with
    | (.ok a, after) => Q a after
    | (.error e, after) => E e after.calls := by
  have h := hx _ hp
  unfold Attempt.run
  rcases hr : x ⟨[], cancelled⟩ with ⟨halt | a, after⟩ <;> rw [hr] at h
  · cases halt <;> exact h
  · exact h

end Triple

/-- Unless the request was cancelled before, the attempt ends with a result and leaves the request
uncancelled. -/
def Gives (x : Attempt α) (result : Except AuthError α) : Prop :=
  ∀ progress : Progress, progress.cancelled = false →
    ∃ after : Progress, after.cancelled = false ∧ x progress = (result.mapError .failed, after)

namespace Gives

variable {x : Attempt α} {result : Except AuthError α}

theorem pure (a : α) : Gives (Attempt.pure a) (.ok a) :=
  fun progress hp => ⟨progress, hp, rfl⟩

theorem call (made : Call) (result : Except AuthError α) :
    Gives (Attempt.call made (Reply.ofExcept result)) result := by
  intro progress hp
  have ha : (progress.cancelled || false) = false := by rw [Bool.or_false, hp]
  cases result with
  | error e => exact ⟨_, ha, rfl⟩
  | ok a => exact ⟨_, ha, rfl⟩

theorem bind {f : α → Attempt β} {next : α → Except AuthError β} (hx : Gives x result)
    (hf : ∀ a, Gives (f a) (next a)) : Gives (x >>= f) (result >>= next) := by
  intro progress hp
  obtain ⟨after, ha, hr⟩ := hx progress hp
  change ∃ last : Progress, last.cancelled = false ∧
    Attempt.bind x f progress = ((result >>= next).mapError .failed, last)
  unfold Attempt.bind
  rw [hr]
  cases result with
  | error e => exact ⟨after, ha, rfl⟩
  | ok a => exact hf a after ha

theorem bind_ok {a : α} {f : α → Attempt β} {next : Except AuthError β} (hx : Gives x (.ok a))
    (hf : Gives (f a) next) : Gives (x >>= f) next := by
  intro progress hp
  obtain ⟨after, ha, hr⟩ := hx progress hp
  obtain ⟨last, hl, hn⟩ := hf after ha
  refine ⟨last, hl, ?_⟩
  change Attempt.bind x f progress = _
  unfold Attempt.bind
  rw [hr]
  exact hn

theorem guarded (hx : Gives x result) : Gives (Attempt.guarded x) result := by
  intro progress hp
  obtain ⟨after, ha, hr⟩ := hx progress hp
  refine ⟨after, ha, ?_⟩
  simp only [Attempt.guarded, hp, hr, Bool.false_eq_true, if_false]
  cases result <;> rfl

theorem failIfCancelled : Gives Attempt.failIfCancelled (.ok ()) := by
  intro progress hp
  refine ⟨progress, hp, ?_⟩
  simp only [Attempt.failIfCancelled, hp, Bool.false_eq_true, if_false]
  rfl

theorem run (hx : Gives x result) : (x.run false).1 = result := by
  obtain ⟨after, ha, hr⟩ := hx ⟨[], false⟩ rfl
  unfold Attempt.run
  rw [hr]
  cases result <;> rfl

end Gives

end Attempt

end RegistryAuth
