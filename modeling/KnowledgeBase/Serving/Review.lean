import KnowledgeBase.Serving.System
import Mathlib.Logic.Function.Basic

/-!
# Review of what is accepted

What an Execution carries from its acceptance to its publication: the Revisions it accepted, the admission result of
its own preflight and the decision on its gate. Every other writer of the serving tables is interleaved with them.
-/

namespace KnowledgeBase

open Checked Serving

/-- A Revision with the Snapshot it is reviewed in: what the target of a review gate freezes. -/
structure ReviewedRevision where
  team : TeamId
  snapshot : SnapshotId
  revision : RevisionId
  deriving DecidableEq

structure ReviewedExecution where
  team : TeamId
  snapshot : SnapshotId
  revisions : List RevisionId
  admission : AdmissionResult
  decision : Option ReviewDecision := none
  /-- Routed past its admission: auto admitted, or resumed by an approval. -/
  cleared : Bool
  ended : Bool := false
  deriving DecidableEq

/-- The Execution as its acceptance leaves it. -/
def acceptedExecution (team : TeamId) (snapshot : SnapshotId) (revisions : List RevisionId)
    (admission : AdmissionResult) : ReviewedExecution where
  team := team
  snapshot := snapshot
  revisions := revisions
  admission := admission
  cleared := admission == .autoAdmitted

def ReviewedExecution.target (x : ReviewedExecution) (revision : RevisionId) : ReviewedRevision :=
  ⟨x.team, x.snapshot, revision⟩

structure ReviewSystem where
  serving : Serving := .empty
  executions : ExecutionId → Option ReviewedExecution := fun _ => none
  /-- The Revisions accepted so far. -/
  revisions : List (TeamId × RevisionId) := []
  /-- Those first accepted under a preflight that requires review. -/
  reviewed : List ReviewedRevision := []
  /-- The targets of the approve decisions committed so far. -/
  approved : List ReviewedRevision := []

namespace ReviewSystem

/-- The targets of Revisions that this acceptance is the first of, where its preflight requires review. -/
def awaits (s : ReviewSystem) (x : ReviewedExecution) : List ReviewedRevision :=
  if x.admission = .humanReviewRequired then
    (x.revisions.filter fun r => !s.revisions.contains (x.team, r)).map x.target
  else []

/-- An Execution past its acceptance. -/
def enter (s : ReviewSystem) (serving : Serving) (e : ExecutionId) (x : ReviewedExecution) : ReviewSystem where
  serving := serving
  executions := Function.update s.executions e (some x)
  revisions := s.revisions ++ x.revisions.map fun r => (x.team, r)
  reviewed := s.reviewed ++ s.awaits x
  approved := s.approved

def putExecution (s : ReviewSystem) (e : ExecutionId) (x : ReviewedExecution) : ReviewSystem :=
  { s with executions := Function.update s.executions e (some x) }

/-- The Execution that runs the stage has passed its admission, and works on a Revision it accepted. -/
def permits (s : ReviewSystem) : ServingStep → Bool
  | .vectorize c => (s.executions c.execution).any fun x =>
    x.cleared && !x.ended && x.team == c.team && x.revisions.contains c.revision
  | .publish c => (s.executions c.producer.execution).any fun x => x.cleared && !x.ended
  | .acceptSnapshot _ | .acceptCollection _ | .acceptRebuild _ _ | .acceptMetadataUpdate _ _ _ | .humanReview _ _ _ => false
  | _ => true

end ReviewSystem

inductive ReviewEvent
  | accept (c : AcceptSnapshot)
  | acceptCollection (c : AcceptCollection) (admission : AdmissionResult)
  /-- The acceptance of a full retry of a Task that the second Execution accepted the Observation of. -/
  | replay (e source : ExecutionId)
  | rebuild (t : FrozenTarget) (snapshot : SnapshotId) (producer : ProcessFence)
  | updateMetadata (t : FrozenTarget) (snapshot : SnapshotId) (metadataRevision : Option RevisionId)
    (producer : ProcessFence)
  /-- A child Execution of a collection, for one of its members. -/
  | dispatch (child root : ExecutionId) (revision : RevisionId)
  /-- The decision of a reviewer on the gate of an Execution. -/
  | decide (e : ExecutionId) (decision : ReviewDecision)
  /-- The effect of a committed decision on its Execution. -/
  | applyDecision (e : ExecutionId)
  | cancel (e : ExecutionId)
  | write (t : ServingStep)

def stageStale : MkbError := conflictError "lease-conflict" "Process lease or fencing changed"

variable (grace : Nat)

def ReviewEvent.transact (s : ReviewSystem) : ReviewEvent → Except MkbError ReviewSystem
  | .accept c => do
    failIf (s.executions c.producer.execution).isSome stageStale
    let serving ← s.serving.acceptSnapshot c
    pure (s.enter serving c.producer.execution (acceptedExecution c.team c.snapshot [c.revision]
      (if c.requireHumanReview then .humanReviewRequired else .autoAdmitted)))
  | .acceptCollection c admission => do
    failIf (s.executions c.producer.execution).isSome stageStale
    let serving ← s.serving.acceptCollection c
    pure (s.enter serving c.producer.execution
      (acceptedExecution c.team c.snapshot (c.members.map (·.revision)) admission))
  | .replay e source => do
    failIf (s.executions e).isSome stageStale
    let x ← required (s.executions source)
      (conflictError "FULL_REPLAY_INPUT_UNAVAILABLE" "Full retry accepted Observation is unavailable")
    failIf (!x.ended) (conflictError "task-active" "An active Task cannot be retried")
    -- the member of ordinal 0 of the accepted Snapshot, whatever its preflight required
    pure (s.enter s.serving e (acceptedExecution x.team x.snapshot (x.revisions.take 1) .autoAdmitted))
  | .rebuild t snapshot producer => do
    failIf (s.executions producer.execution).isSome stageStale
    let serving ← s.serving.acceptRebuild t producer
    pure (s.enter serving producer.execution (acceptedExecution t.team snapshot [t.revision] .autoAdmitted))
  | .updateMetadata t snapshot metadataRevision producer => do
    failIf (s.executions producer.execution).isSome stageStale
    let serving ← s.serving.acceptMetadataUpdate t metadataRevision producer
    pure (s.enter serving producer.execution
      (acceptedExecution t.team snapshot metadataRevision.toList .autoAdmitted))
  | .dispatch child root revision => do
    failIf (s.executions child).isSome stageStale
    let x ← required (s.executions root) stageStale
    failIf (!x.cleared || x.ended || !x.revisions.contains revision) stageStale
    pure (s.putExecution child { x with revisions := [revision] })
  | .decide e decision => do
    let x ← required (s.executions e) (notFoundError "gate-not-found" "Execution Gate was not found")
    failIf (x.admission != .humanReviewRequired) (notFoundError "gate-not-found" "Execution Gate was not found")
    failIf x.decision.isSome
      (conflictError "gate-revision-conflict" "Execution Gate is no longer open at the supplied revision")
    failIf x.ended (conflictError "gate-execution-conflict" "Gate is not the current durable execution wait")
    let s := s.putExecution e { x with decision := some decision }
    pure (if decision = .approve then { s with approved := s.approved ++ x.revisions.map x.target } else s)
  | .applyDecision e => do
    let x ← required (s.executions e) stageStale
    failIf (x.ended || x.cleared) stageStale
    let decision ← required x.decision (notFoundError "gate-decision-not-found" "Execution Gate decision was not found")
    let s := { s with serving := s.serving.applyHumanReview x.team x.snapshot decision }
    pure (s.putExecution e { x with cleared := decision = .approve, ended := decision = .reject })
  | .cancel e => do
    let x ← required (s.executions e) stageStale
    pure (s.putExecution e { x with ended := true })
  | .write t => do
    failIf (!s.permits t) stageStale
    let serving ← t.transact grace s.serving
    pure { s with serving := serving }

/-- A transaction that fails changes nothing. -/
def reviewStep (s : ReviewSystem) (event : ReviewEvent) : ReviewSystem :=
  match event.transact grace s with
  | .ok s' => s'
  | .error _ => s

end KnowledgeBase
