import KnowledgeBase.Library.Checked
import KnowledgeBase.Library.Run
import KnowledgeBase.Store.Database
import Mathlib.Logic.Function.Basic

/-!
# Observation reservations

The admission of an ingest under its Observation key, the callbacks of the pipeline on the Observation of an
Execution, and the full retry of a Task. An Observation is known by its unique key, an attempt by its Observation and
generation, a Task by its Team and the name the caller chose; what ends a Task, wherever in the engine it does, is a
projection of a status onto it. Items are written by other services.
-/

namespace KnowledgeBase

open Checked

/-! ### rows -/

abbrev TaskKey := TeamId × String

/-- The unique key of a source. -/
structure SourceKey where
  team : TeamId
  kind : String
  externalKey : String
  deriving DecidableEq

/-- The unique key of an Observation. -/
structure ObservationKey where
  source : SourceKey
  key : String
  deriving DecidableEq

inductive ObservationState
  | reserved | acquiring | acquired | accepted | failed | abandoned
  deriving DecidableEq

inductive CompatibilityMode
  | v2Explicit | v1TaskDerived | v1RegisteredExternalKey
  deriving DecidableEq

/-- What the fingerprint of an Observation is the digest of. -/
structure ObservationFingerprint where
  sourceKind : String
  normalizedExternalKey : String
  source : Digest
  deriving DecidableEq

structure ObservationRow where
  fingerprint : ObservationFingerprint
  state : ObservationState := .reserved
  generation : Nat := 1
  ownerTask : TaskKey
  ownerExecution : ExecutionId
  acceptedSnapshot : Option SnapshotId := none
  lastErrorCode : Option String := none
  rowRevision : Nat := 0
  compatibilityMode : CompatibilityMode
  deriving DecidableEq

structure AttemptRow where
  task : TaskKey
  execution : ExecutionId
  state : ObservationState := .reserved
  expectedObservationRevision : Nat
  rowRevision : Nat := 0
  errorCode : Option String := none
  deriving DecidableEq

structure SourceItem where
  lifecycle : IntakeLifecycle
  rowRevision : Nat
  deriving DecidableEq

structure AdmittedTask where
  fingerprint : Digest
  status : TaskStatus := .queued
  rowRevision : Nat := 0
  generation : Nat := 1
  currentRoot : ExecutionId
  deleted : Bool := false
  deriving DecidableEq

structure AdmittedExecution where
  task : TaskKey
  generation : Nat := 1
  retryOf : Option ExecutionId := none
  fullRetry : Bool := false
  observation : Option ObservationKey := none
  attemptGeneration : Option Nat := none
  expectedItemEpoch : Option Nat := none
  deriving DecidableEq

structure RestartEntry where
  task : TaskKey
  expectedRevision : Nat
  reason : Digest
  deriving DecidableEq

structure Reservations where
  items : SourceKey → Option SourceItem := fun _ => none
  observations : ObservationKey → Option ObservationRow := fun _ => none
  attempts : ObservationKey × Nat → Option AttemptRow := fun _ => none
  tasks : TaskKey → Option AdmittedTask := fun _ => none
  executions : ExecutionId → Option AdmittedExecution := fun _ => none
  restarts : List RestartEntry := []
  next : ExecutionId := 0

namespace Reservations

def putObservation (k : ObservationKey) (o : ObservationRow) (s : Reservations) : Reservations :=
  { s with observations := Function.update s.observations k (some o) }

def putAttempt (k : ObservationKey × Nat) (a : AttemptRow) (s : Reservations) : Reservations :=
  { s with attempts := Function.update s.attempts k (some a) }

def putTask (t : TaskKey) (row : AdmittedTask) (s : Reservations) : Reservations :=
  { s with tasks := Function.update s.tasks t (some row) }

/-- A new Execution under the next identity. -/
def addExecution (row : AdmittedExecution) (s : Reservations) : Reservations :=
  { s with executions := Function.update s.executions s.next (some row), next := s.next + 1 }

end Reservations

/-! ### admission -/

structure ObservationDeployment where
  strip : String → String
  casefold : String → String
  isExternalUuid : String → Bool
  /-- A UUID in its canonical text has no blank at its ends. -/
  strip_uuid : ∀ x, isExternalUuid x = true → strip x = x ∧ x ≠ ""
  activeSourceKinds : List String

structure IngestRequest where
  team : TeamId
  task : String
  fingerprint : Digest
  sourceKind : String
  externalKey : String
  /-- The source as it is fingerprinted: without the three fields that follow. -/
  source : Digest
  observationKey : Option String := none
  retryFailedObservation : Bool := false
  expectedAttempt : Option Nat := none

structure ObservationCoordinates where
  key : ObservationKey
  fingerprint : ObservationFingerprint
  compatibilityMode : CompatibilityMode

/-- `observation_coordinates`. -/
def IngestRequest.coordinates (d : ObservationDeployment) (request : IngestRequest) : ObservationCoordinates :=
  let normalized := d.casefold (d.strip request.externalKey)
  let source : SourceKey := ⟨request.team, request.sourceKind, normalized⟩
  let fingerprint : ObservationFingerprint := ⟨request.sourceKind, normalized, request.source⟩
  match (request.observationKey.map d.strip).filter (· != "") with
  | some key => ⟨⟨source, key⟩, fingerprint, .v2Explicit⟩
  | none =>
    if request.sourceKind == "registered_api" then ⟨⟨source, normalized⟩, fingerprint, .v1RegisteredExternalKey⟩
    else ⟨⟨source, request.task⟩, fingerprint, .v1TaskDerived⟩

structure ObservationAdmission where
  generation : Nat
  expectedItemEpoch : Option Nat
  compatibilityMode : CompatibilityMode
  retryExisting : Bool := false
  replayTask : Option TaskKey := none

/-- The refusal of an inactive Item. -/
def inactiveItemError (item : SourceItem) : MkbError :=
  conflictError (if item.lifecycle == .deleted then "INTAKE_ITEM_DELETED" else "INTAKE_ITEM_NOT_ACTIVE")
    "Inactive Intake identity requires an explicit lifecycle command"

/-- The admission under an Observation that exists. -/
def admitExisting (request : IngestRequest) (c : ObservationCoordinates) (epoch : Option Nat)
    (existing : ObservationRow) : Except MkbError ObservationAdmission := do
  failIf (existing.fingerprint != c.fingerprint)
    (conflictError "OBSERVATION_CONFLICT" "Observation key has a different fingerprint")
  if existing.state == .failed then do
    failIf (!request.retryFailedObservation)
      (conflictError "OBSERVATION_FAILED_RETRY_REQUIRED" "Failed Observation requires a typed retry")
    failIf (request.expectedAttempt != some existing.generation)
      (conflictError "OBSERVATION_ATTEMPT_CONFLICT" "Observation attempt generation changed")
    pure ⟨existing.generation + 1, epoch, existing.compatibilityMode, true, none⟩
  else do
    failIf request.retryFailedObservation
      (conflictError "OBSERVATION_RETRY_STATE_CONFLICT" "Only a failed Observation can be retried")
    failIf (existing.state != .reserved && existing.state != .acquired && existing.state != .accepted)
      (conflictError "OBSERVATION_STATE_CONFLICT" "Observation cannot be adopted in its current state")
    pure ⟨existing.generation, epoch, existing.compatibilityMode, false, some existing.ownerTask⟩

/-- `resolve_tx`. -/
def resolveTx (d : ObservationDeployment) (request : IngestRequest) (s : Reservations) :
    Except MkbError ObservationAdmission := do
  let c := request.coordinates d
  failIf (!d.activeSourceKinds.contains request.sourceKind)
    ⟨"REGISTRY_NOT_FOUND", "Source kind definition is unavailable", 503⟩
  let item := s.items c.key.source
  match item.filter fun i => i.lifecycle != .active with
  | some i => .error (inactiveItemError i)
  | none =>
    let epoch := item.map (·.rowRevision)
    match s.observations c.key with
    | none => do
      failIf request.retryFailedObservation
        (conflictError "OBSERVATION_RETRY_TARGET_MISSING" "Failed Observation does not exist")
      pure ⟨1, epoch, c.compatibilityMode, false, none⟩
    | some existing => admitExisting request c epoch existing

/-- The Observation row of an admission. -/
def reservedObservation (c : ObservationCoordinates) (admission : ObservationAdmission) (t : TaskKey)
    (e : ExecutionId) (existing : Option ObservationRow) : ObservationRow :=
  match existing with
  | some o => { o with
      state := .reserved
      generation := admission.generation
      ownerTask := t
      ownerExecution := e
      acceptedSnapshot := none
      lastErrorCode := none
      rowRevision := o.rowRevision + 1 }
  | none => {
      fingerprint := c.fingerprint
      generation := admission.generation
      ownerTask := t
      ownerExecution := e
      compatibilityMode := admission.compatibilityMode }

/-- A retry finds the failed Observation of the generation before; a new Observation finds none. -/
def reservable (k : ObservationKey) (admission : ObservationAdmission) (s : Reservations) : Except MkbError Unit :=
  if admission.retryExisting then
    failIf (!(s.observations k).any fun o => o.state == .failed && o.generation + 1 == admission.generation)
      (conflictError "OBSERVATION_ATTEMPT_CONFLICT" "Observation retry lost its generation fence")
  else
    failIf (s.observations k).isSome ⟨"IntegrityError", "UNIQUE constraint failed: mkb_intake_observations", 500⟩

/-- The state with the Observation row of an admission and its attempt. -/
def Reservations.reserved (s : Reservations) (c : ObservationCoordinates) (admission : ObservationAdmission)
    (t : TaskKey) (e : ExecutionId) : Reservations :=
  (s.putObservation c.key (reservedObservation c admission t e (s.observations c.key))).putAttempt
    (c.key, admission.generation)
    { task := t, execution := e, expectedObservationRevision := if admission.retryExisting then 1 else 0 }

/-- `reserve_tx`. -/
def reserveTx (c : ObservationCoordinates) (admission : ObservationAdmission) (t : TaskKey) (e : ExecutionId)
    (s : Reservations) : Except MkbError Reservations := do
  reservable c.key admission s
  failIf (s.attempts (c.key, admission.generation)).isSome
    ⟨"IntegrityError", "UNIQUE constraint failed: mkb_observation_attempts", 500⟩
  pure (s.reserved c admission t e)

/-- `create`: the Task the caller is shown, and whether it is a replay. -/
def createTx (d : ObservationDeployment) (request : IngestRequest) (s : Reservations) :
    Except MkbError ((TaskKey × Bool) × Reservations) :=
  let t : TaskKey := (request.team, request.task)
  let c := request.coordinates d
  match s.tasks t with
  | some existing => do
    failIf (existing.fingerprint != request.fingerprint)
      (conflictError "task-identity-conflict" "Task identity has a different creation fingerprint")
    pure ((t, true), s)
  | none => do
    let admission ← resolveTx d request s
    match admission.replayTask with
    | some owner => do
      failIf (s.tasks owner).isNone (notFoundError "task-not-found" "Task was not found")
      pure ((owner, true), s)
    | none => do
      let e := s.next
      let row : AdmittedExecution := {
        task := t
        observation := some c.key
        attemptGeneration := some admission.generation
        expectedItemEpoch := admission.expectedItemEpoch }
      let s ← reserveTx c admission t e
        ((s.putTask t { fingerprint := request.fingerprint, currentRoot := e }).addExecution row)
      pure ((t, false), s)

/-! ### the pipeline -/

/-- `identity_for_execution_tx`. -/
def Reservations.identity? (s : Reservations) (e : ExecutionId) : Option (ObservationKey × ObservationRow) := do
  let row ← s.executions e
  let k ← row.observation
  let o ← s.observations k
  some (k, o)

/-- `mark_acquired_tx`. -/
def markAcquiredTx (e : ExecutionId) (s : Reservations) : Except MkbError Reservations :=
  match s.identity? e with
  | none => .ok s
  | some (k, o) =>
    match s.attempts (k, o.generation) with
    | none => .ok s
    | some a =>
      if a.state == .acquired then .ok s
      else do
        failIf (a.state != .reserved && a.state != .acquiring)
          (conflictError "OBSERVATION_ATTEMPT_CONFLICT" "Observation acquire attempt changed")
        let s := s.putAttempt (k, o.generation) { a with state := .acquired, rowRevision := a.rowRevision + 1 }
        pure (if o.state == .reserved then
          s.putObservation k { o with state := .acquired, rowRevision := o.rowRevision + 1 } else s)

/-- `mark_accepted_tx`. -/
def markAcceptedTx (e : ExecutionId) (snapshot : SnapshotId) (s : Reservations) : Except MkbError Reservations :=
  match s.identity? e with
  | none => .ok s
  | some (k, o) => do
    let a ← required (s.attempts (k, o.generation))
      ⟨"OBSERVATION_ATTEMPT_MISSING", "Observation attempt is unavailable", 503⟩
    failIf (o.state != .acquired) (conflictError "OBSERVATION_STATE_CONFLICT" "Observation acceptance changed")
    let s := if a.state == .acquired then
        s.putAttempt (k, o.generation) { a with state := .accepted, rowRevision := a.rowRevision + 1 } else s
    pure (s.putObservation k { o with
      state := .accepted
      acceptedSnapshot := some snapshot
      rowRevision := o.rowRevision + 1 })

/-- `mark_failed_for_execution`. -/
def markFailedTx (e : ExecutionId) (errorCode : String) (s : Reservations) : Reservations :=
  match s.identity? e with
  | none => s
  | some (k, o) =>
    match s.attempts (k, o.generation) with
    | none => s
    | some a =>
      if a.state == .accepted || a.state == .failed || a.state == .abandoned then s
      else
        let s := s.putAttempt (k, o.generation) { a with
          state := .failed
          errorCode := some errorCode
          rowRevision := a.rowRevision + 1 }
        if o.state == .reserved || o.state == .acquired then
          s.putObservation k { o with
            state := .failed
            lastErrorCode := some errorCode
            rowRevision := o.rowRevision + 1 }
        else s

/-! ### the Task -/

/-- The state after a full retry: a new root Execution that carries the links of the previous one. -/
def Reservations.retried (s : Reservations) (t : TaskKey) (row : AdmittedTask) (previous : AdmittedExecution)
    (entry : RestartEntry) : Reservations :=
  let retry := s.addExecution { previous with
    task := t
    generation := row.generation + 1
    retryOf := some row.currentRoot
    fullRetry := true }
  let retry := retry.putTask t { row with
    status := .queued
    generation := row.generation + 1
    currentRoot := s.next
    rowRevision := row.rowRevision + 1 }
  { retry with restarts := s.restarts ++ [entry] }

/-- `retry`. -/
def retryTx (t : TaskKey) (expectedRevision : Nat) (reason : Digest) (s : Reservations) :
    Except MkbError Reservations := do
  let row ← required ((s.tasks t).filter fun row => !row.deleted) (notFoundError "task-not-found" "Task was not found")
  if s.restarts.contains ⟨t, expectedRevision, reason⟩ then pure s
  else do
    failIf (row.rowRevision != expectedRevision) (conflictError "revision-conflict" "Task revision is stale")
    failIf (!row.status.isTerminal) (conflictError "task-active" "An active Task cannot be retried")
    failIf (row.status == .succeeded)
      (conflictError "retry-not-allowed" "Succeeded Task must be rebuilt as a new Task")
    let previous ← required (s.executions row.currentRoot)
      ⟨"execution-missing", "Task current execution is missing", 503⟩
    failIf (!(previous.observation.bind s.observations).any fun o => o.state == .accepted && o.acceptedSnapshot.isSome)
      (conflictError "FULL_REPLAY_INPUT_UNAVAILABLE" "Full retry requires a verified frozen Observation input")
    pure (s.retried t row previous ⟨t, expectedRevision, reason⟩)

/-- The projection of a status onto a Task that has not ended. -/
def projectTask (t : TaskKey) (status : TaskStatus) (s : Reservations) : Reservations :=
  match (s.tasks t).filter fun row => !row.status.isTerminal with
  | none => s
  | some row => s.putTask t { row with status := status, rowRevision := row.rowRevision + 1 }

/-- `soft_delete`. -/
def softDeleteTx (t : TaskKey) (expectedRevision : Nat) (s : Reservations) : Except MkbError Reservations := do
  let row ← required (s.tasks t) (notFoundError "task-not-found" "Task was not found")
  failIf (row.rowRevision != expectedRevision) (conflictError "revision-conflict" "Task revision is stale")
  failIf (!row.status.isTerminal) (conflictError "task-active" "Active Task must be cancelled before soft-delete")
  pure (if row.deleted then s else s.putTask t { row with deleted := true, rowRevision := row.rowRevision + 1 })

/-! ### the system -/

inductive ReservationEvent
  | create (request : IngestRequest)
  | markAcquired (e : ExecutionId)
  | markAccepted (e : ExecutionId) (snapshot : SnapshotId)
  | markFailed (e : ExecutionId) (errorCode : String)
  | project (t : TaskKey) (status : TaskStatus)
  | retry (t : TaskKey) (expectedRevision : Nat) (reason : Digest)
  | softDelete (t : TaskKey) (expectedRevision : Nat)
  /-- A write of the Item of a source by another service. -/
  | writeItem (k : SourceKey) (item : SourceItem)

/-- What an event that does not raise leads to. -/
def reservationResult (d : ObservationDeployment) (s : Reservations) : ReservationEvent → Except MkbError Reservations
  | .create request => do
    failIf (!d.isExternalUuid request.task) ⟨"invalid-uuid", "task_uuid must be a UUIDv4 or UUIDv7", 422⟩
    let (_, s) ← createTx d request s
    pure s
  | .markAcquired e => markAcquiredTx e s
  | .markAccepted e snapshot => markAcceptedTx e snapshot s
  | .markFailed e errorCode => .ok (markFailedTx e errorCode s)
  | .project t status => .ok (projectTask t status s)
  | .retry t expectedRevision reason => retryTx t expectedRevision reason s
  | .softDelete t expectedRevision => softDeleteTx t expectedRevision s
  | .writeItem k item => .ok { s with items := Function.update s.items k (some item) }

/-- One step: a transaction that raises changes nothing. -/
def reservationStep (d : ObservationDeployment) (s : Reservations) (event : ReservationEvent) : Reservations :=
  match reservationResult d s event with
  | .ok s' => s'
  | .error _ => s

end KnowledgeBase
