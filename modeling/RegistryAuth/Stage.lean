import RegistryAuth.Scope
import RegistryAuth.Subject

/-! # Stages of a request

A request passes through components that may answer, fail, or never finish, and
that may cancel the request meanwhile. A run of stages keeps the calls made so
far and whether the request is cancelled. A stage guarded against cancellation
is not entered once the request is cancelled, and one that never finishes is
ended by the request's cancellation.
-/

namespace RegistryAuth

inductive Outcome (α : Type) where
  | value (value : α)
  | failure (error : AuthError)
  | hangs
deriving DecidableEq, Repr

/-- What a component does when called: its outcome, and whether the request is cancelled by
then. -/
structure Reply (α : Type) where
  outcome : Outcome α
  cancels : Bool
deriving DecidableEq, Repr

namespace Reply

variable {α : Type}

def value (value : α) : Reply α := ⟨.value value, false⟩

def failure (error : AuthError) : Reply α := ⟨.failure error, false⟩

def ofExcept : Except AuthError α → Reply α
  | .ok a => value a
  | .error e => failure e

end Reply

/-- A call of a component, with what it is given. -/
inductive Call where
  | authenticate (username password : String)
  | verifyRefreshToken (token : String)
  | findSubject (id : String)
  | authorize (subject : Subject) (requested : List Scope)
  | issueAccessToken (subject : Subject) (audience : Option String) (scopes : List Scope)
  | issueRefreshToken (subject : Subject)
deriving DecidableEq, Repr

structure Progress where
  calls : List Call
  cancelled : Bool
deriving DecidableEq, Repr

inductive Halt where
  | failed (error : AuthError)
  | hung
deriving DecidableEq, Repr

/-- A run of stages that gives a value of type `α` unless it halts before. -/
def Attempt (α : Type) : Type := Progress → Except Halt α × Progress

namespace Attempt

variable {α β : Type}

def pure (a : α) : Attempt α := fun progress => (.ok a, progress)

def bind (x : Attempt α) (f : α → Attempt β) : Attempt β := fun progress =>
  match x progress with
  | (.ok a, after) => f a after
  | (.error halt, after) => (.error halt, after)

instance : Monad Attempt where
  pure := pure
  bind := bind

def fail (error : AuthError) : Attempt α := fun progress => (.error (.failed error), progress)

/-- Calls a component and waits for its answer. -/
def call (made : Call) (reply : Reply α) : Attempt α := fun progress =>
  let after := ⟨progress.calls ++ [made], progress.cancelled || reply.cancels⟩
  match reply.outcome with
  | .value a => (.ok a, after)
  | .failure e => (.error (.failed e), after)
  | .hangs => (.error .hung, after)

def failIfCancelled : Attempt Unit := fun progress =>
  if progress.cancelled then (.error (.failed .cancelled), progress) else (.ok (), progress)

/-- Runs a stage unless the request is cancelled, and ends it by cancellation if it hangs. -/
def guarded (stage : Attempt α) : Attempt α := fun progress =>
  if progress.cancelled then (.error (.failed .cancelled), progress)
  else match stage progress with
    | (.error .hung, after) => (.error (.failed .cancelled), { after with cancelled := true })
    | result => result

/-- The result of a run and the progress it made. A run that hangs is ended by cancellation. -/
def run (attempt : Attempt α) (cancelled : Bool) : Except AuthError α × Progress :=
  match attempt ⟨[], cancelled⟩ with
  | (.ok a, after) => (.ok a, after)
  | (.error (.failed e), after) => (.error e, after)
  | (.error .hung, after) => (.error .cancelled, { after with cancelled := true })

end Attempt

end RegistryAuth
