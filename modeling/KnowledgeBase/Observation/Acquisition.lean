import KnowledgeBase.Observation.Reservations

/-!
# Deliveries of an acquisition

One delivery of the Process that acquires the source of an ingest: the stage, which closes the attempt of the
Observation in a transaction of its own when its read raises, the worker, which turns what was raised into an outcome,
and the engine, which grants a retry or ends the Process. What the environment raises, and where, is given.
-/

namespace KnowledgeBase

/-! ### errors -/

/-- What a stage or the commit of its outcome raises. -/
inductive StageError
  /-- An `MkbError`. -/
  | typed (e : MkbError)
  /-- A `TypeError`, a `ValueError` or a `JSONDecodeError`. -/
  | invalid
  /-- Any other `Exception`. -/
  | unexpected

/-- `_RECOVERABLE_ERROR_CODES`. -/
def recoverableErrorCodes : List String :=
  ["VECTORIZE_INFERENCE_FAILED", "GENERATION_INFERENCE_FAILED", "VECTORIZE_CONFIG_SNAPSHOT_UNAVAILABLE",
    "INFERENCE_TRANSPORT_RETRYABLE", "CLAUDE_CLI_TIMEOUT", "CLAUDE_CLI_TRANSPORT_FAILED",
    "INFERENCE_TRANSPORT_EXHAUSTED", "INFERENCE_BACKPRESSURE", "not-ready"]

/-- `_FENCE_CONFLICT_CODES`. -/
def fenceConflictCodes : List String :=
  ["stale-process-fence", "stale-process-outcome", "process-not-running", "execution-cancelling",
    "TERMINAL_OUTCOME_FENCED", "outcome-digest-invalid"]

/-- `is_fence_conflict`, asked of a `ConflictError` only: of the errors here, those with status 409. -/
def MkbError.isFenceConflict (e : MkbError) : Bool :=
  e.status == 409 && (fenceConflictCodes.contains e.code || e.code.endsWith "_FENCE")

/-- What becomes of a delivery that did not succeed. -/
inductive Refusal
  | retryable (errorCode : String)
  | failed (errorCode : String)
  /-- Another owner holds the Process. -/
  | fenced
  deriving DecidableEq

namespace StageError

/-- The code an attempt is closed with. -/
def attemptCode : StageError → String
  | typed e => e.code
  | _ => "ACQUISITION_FAILED"

/-- The outcome of a stage that raised, by its `run` and by the worker around it. That its own heartbeat cancels a stage
(`lease-heartbeat-fenced`, retryable) is left out. -/
def refusal : StageError → Refusal
  | typed e => if recoverableErrorCodes.contains e.code then .retryable e.code else .failed e.code
  | invalid => .failed "PIPELINE_INPUT_INVALID"
  | unexpected => .retryable "stage-handler-exception"

/-- The outcome the worker submits when the commit of a success raised. -/
def commitRefusal : StageError → Refusal
  | typed e => if e.isFenceConflict then .fenced else .failed e.code
  | _ => .retryable "outcome-commit-exception"

end StageError

/-! ### one delivery -/

/-- What is raised in one delivery: before the source is read, by the read, after it, and by the commit. -/
structure AcquireRun where
  before : Option StageError := none
  read : Option StageError := none
  after : Option StageError := none
  commit : Option StageError := none

/-- `_is_full_retry` of the Observation of an Execution. -/
def Reservations.isFullRetry (s : Reservations) (e : ExecutionId) : Bool :=
  (s.identity? e).isSome && (s.executions e).any (·.fullRetry)

/-- `_acquire`: what it raises, and the reservations it leaves. A full retry reads a frozen artifact and a registered
API the records of the Task; neither touches the attempt. -/
def acquire (registeredApi : Bool) (e : ExecutionId) (r : AcquireRun) (s : Reservations) :
    Option StageError × Reservations :=
  match r.before with
  | some error => (some error, s)
  | none =>
    match r.read with
    | some error =>
      if s.isFullRetry e || registeredApi then (some error, s) else (some error, markFailedTx e error.attemptCode s)
    | none => (r.after, s)

/-- The callback of the acquisition in the transaction of its outcome. -/
def acquireCallback (e : ExecutionId) (s : Reservations) : Except MkbError Reservations :=
  if s.isFullRetry e then .ok s else markAcquiredTx e s

/-- The Process that acquires, with the reservations its stage writes. -/
structure IngestProcess where
  reservations : Reservations
  status : ProcessStatus := .ready
  retryCount : Nat := 0
  maxRetries : Nat
  errorCode : Option String := none

/-- `accept_outcome` of an outcome that is no success. -/
def IngestProcess.refuse (p : IngestProcess) : Refusal → IngestProcess
  | .retryable errorCode =>
    if p.retryCount < p.maxRetries then { p with retryCount := p.retryCount + 1, errorCode := some errorCode }
    else { p with status := .failed, errorCode := some "retry-exhausted" }
  | .failed errorCode => { p with status := .failed, errorCode := some errorCode }
  | .fenced => p

/-- `run_once` for the Process; a Process that has ended is not delivered. -/
def deliver (registeredApi : Bool) (e : ExecutionId) (p : IngestProcess) (r : AcquireRun) : IngestProcess :=
  if p.status != .ready then p
  else
    match acquire registeredApi e r p.reservations with
    | (some error, s) => { p with reservations := s }.refuse error.refusal
    | (none, s) =>
      match r.commit with
      | some error => { p with reservations := s }.refuse error.commitRefusal
      | none =>
        match acquireCallback e s with
        | .ok s' => { p with reservations := s', status := .succeeded, errorCode := none }
        | .error error => { p with reservations := s }.refuse (StageError.typed error).commitRefusal

end KnowledgeBase
