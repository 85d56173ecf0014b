import KnowledgeBase.Inference.Gate
import KnowledgeBase.Library.Run

/-!
# Facade invocations

`InferenceFacade._invoke` and `_legacy_call` as coroutines: a step runs from the end of one await to the next await
or to the end. The awaits are the operation of an attempt, the recorder and the sleep before a retry. The operation,
the validator and the recorder are the environment: a step is told how its await ended.
-/

namespace KnowledgeBase

/-- What is raised: `MkbError` with its code, another exception, or the cancellation. -/
inductive Raised
  | mkb (code : String)
  | exception
  | cancelled
  deriving DecidableEq

/-- Where an invocation is: at its start, at an await, or ended. -/
inductive Await
  | starting
  | recordingRefusal (code : String)
  | calling (attempt : Nat)
  | recordingSuccess (attempt : Nat)
  | recordingFailure (raised : Raised)
  | sleeping (attempt : Nat)
  | ended (outcome : Except Raised Unit)
  deriving DecidableEq

/-- Which coroutine an invocation is: `_invoke` with the error of its preflight, or `_legacy_call`. -/
inductive InvocationKind
  | invoke (preflight : Option String)
  | legacy
  deriving DecidableEq

/-- An invocation: its gate capability and the lease it holds. `calls`, `acquired` and `released` count what it has
done so far, `refusedAt` is `calls` at the time it found the gate full. -/
structure Invocation where
  kind : InvocationKind
  gateKey : String
  pc : Await := .starting
  lease : Option String := none
  calls : Nat := 0
  acquired : Nat := 0
  released : Nat := 0
  refusedAt : Option Nat := none
  deriving DecidableEq

/-- The limits of the facade's gate and its attempts, as the constructor admits them. -/
structure FacadeConfig where
  limits : GateLimits String
  maxAttempts : Nat
  maxAttempts_range : 1 ≤ maxAttempts ∧ maxAttempts ≤ 10

/-- How an await ended: for the operation, with the validator and the provenance after it. -/
abbrev Answer := Except Raised Unit

namespace Invocation

/-- The invocation once it holds a lease and awaits the operation. -/
def called (inv : Invocation) (attempt : Nat) : Invocation :=
  { inv with
    pc := .calling attempt
    lease := some inv.gateKey
    calls := inv.calls + 1
    acquired := inv.acquired + 1 }

/-- The invocation once it has found the gate full. -/
def refused (inv : Invocation) (next : Await) : Invocation :=
  { inv with pc := next, refusedAt := some inv.calls }

def ended (inv : Invocation) (outcome : Answer) : Invocation := { inv with pc := .ended outcome }

def gaveBack (inv : Invocation) (next : Await) : Invocation :=
  { inv with pc := next, lease := none, released := inv.released + 1 }

/-- The `finally`: the lease, if any, is given back. -/
def finish (inv : Invocation) (outcome : Answer) (c : Counters String) : Invocation × Counters String :=
  match inv.lease with
  | none => (inv.ended outcome, c)
  | some k =>
    match GateLimits.release c k with
    | some c' => (inv.gaveBack (.ended outcome), c')
    | none => (inv.ended (.error .exception), c)

variable (F : FacadeConfig)

/-- The `except` clauses of an attempt of `_invoke`. -/
def attemptFailed (inv : Invocation) (attempt : Nat) (raised : Raised) (c : Counters String) :
    Invocation × Counters String :=
  match raised with
  | .cancelled => inv.finish (.error .cancelled) c
  | .exception => ({ inv with pc := .recordingFailure (.mkb "INFERENCE_INTERNAL_UNEXPECTED") }, c)
  | .mkb code =>
    if code = "INFERENCE_SPACE_VIOLATION" then ({ inv with pc := .recordingFailure (.mkb code) }, c)
    else if code = "INFERENCE_TRANSPORT_RETRYABLE" ∧ attempt + 1 < F.maxAttempts then
      match inv.lease with
      | none => inv.finish (.error .exception) c
      | some k =>
        match GateLimits.release c k with
        | none => inv.finish (.error .exception) c
        | some c' => (inv.gaveBack (.sleeping attempt), c')
    else if code = "INFERENCE_TRANSPORT_RETRYABLE" then
      ({ inv with pc := .recordingFailure (.mkb "INFERENCE_TRANSPORT_EXHAUSTED") }, c)
    else ({ inv with pc := .recordingFailure (.mkb code) }, c)

/-- A lease is taken and the operation called, or the gate is full. -/
def acquire (inv : Invocation) (attempt : Nat) (whenFull : Await) (c : Counters String) :
    Invocation × Counters String :=
  match F.limits.tryAcquire c inv.gateKey with
  | some c' => (inv.called attempt, c')
  | none => (inv.refused whenFull, c)

/-- One step of `_invoke`. -/
def invokeStep (preflight : Option String) (inv : Invocation) (answer : Answer) (c : Counters String) :
    Invocation × Counters String :=
  match inv.pc, answer with
  | .starting, .error e => (inv.ended (.error e), c)
  | .starting, .ok () =>
    match preflight with
    | some code => ({ inv with pc := .recordingRefusal code }, c)
    | none => inv.acquire F 0 (.recordingRefusal "INFERENCE_BACKPRESSURE") c
  | .recordingRefusal code, .ok () => (inv.ended (.error (.mkb code)), c)
  | .recordingRefusal _, .error e => (inv.ended (.error e), c)
  | .calling attempt, .ok () => ({ inv with pc := .recordingSuccess attempt }, c)
  | .calling attempt, .error e => inv.attemptFailed F attempt e c
  | .recordingSuccess _, .ok () => inv.finish (.ok ()) c
  | .recordingSuccess attempt, .error e => inv.attemptFailed F attempt e c
  | .recordingFailure raised, .ok () => inv.finish (.error raised) c
  | .recordingFailure _, .error e => inv.finish (.error e) c
  | .sleeping attempt, .ok () =>
    inv.acquire F (attempt + 1) (.recordingFailure (.mkb "INFERENCE_BACKPRESSURE")) c
  | .sleeping _, .error e => inv.finish (.error e) c
  | .ended _, _ => (inv, c)

/-- The `except` clause of an attempt of `_legacy_call`: the retry sleeps with its lease. -/
def legacyFailed (inv : Invocation) (attempt : Nat) (raised : Raised) (c : Counters String) :
    Invocation × Counters String :=
  match raised with
  | .mkb code =>
    if code ≠ "INFERENCE_TRANSPORT_RETRYABLE" then inv.finish (.error raised) c
    else if attempt + 1 = F.maxAttempts then inv.finish (.error (.mkb "INFERENCE_TRANSPORT_EXHAUSTED")) c
    else ({ inv with pc := .sleeping attempt }, c)
  | _ => inv.finish (.error raised) c

/-- One step of `_legacy_call`. -/
def legacyStep (inv : Invocation) (answer : Answer) (c : Counters String) : Invocation × Counters String :=
  match inv.pc, answer with
  | .starting, .error e => (inv.ended (.error e), c)
  | .starting, .ok () => inv.acquire F 0 (.ended (.error (.mkb "INFERENCE_BACKPRESSURE"))) c
  | .calling _, .ok () => inv.finish (.ok ()) c
  | .calling attempt, .error e => inv.legacyFailed F attempt e c
  | .sleeping attempt, .ok () => ({ inv with pc := .calling (attempt + 1), calls := inv.calls + 1 }, c)
  | .sleeping _, .error e => inv.finish (.error e) c
  | .ended _, _ => (inv, c)
  | _, _ => (inv, c)

def step (inv : Invocation) (answer : Answer) (c : Counters String) : Invocation × Counters String :=
  match inv.kind with
  | .invoke preflight => inv.invokeStep F preflight answer c
  | .legacy => inv.legacyStep F answer c

/-- An invocation that has not begun. -/
def new (kind : InvocationKind) (gateKey : String) : Invocation := { kind, gateKey }

end Invocation

/-- The gate of a facade and its invocations. -/
structure FacadeState where
  gate : Counters String
  invocations : List Invocation

namespace FacadeState

variable (F : FacadeConfig)

/-- The await of one invocation ends and that invocation runs to its next await. -/
def step (s : FacadeState) (o : Nat × Answer) : FacadeState :=
  match s.invocations[o.1]? with
  | none => s
  | some inv =>
    { gate := (inv.step F o.2 s.gate).2, invocations := s.invocations.set o.1 (inv.step F o.2 s.gate).1 }

/-- Invocations that have not begun, at a gate that nobody holds. -/
def initial (calls : List (InvocationKind × String)) : FacadeState :=
  ⟨Counters.empty, calls.map fun call => Invocation.new call.1 call.2⟩

end FacadeState

end KnowledgeBase
