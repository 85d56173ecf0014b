import KnowledgeBase.Library.Run
import KnowledgeBase.Serving.Publication

/-!
# Index maintenance and the writers together

An index rebuild clones the active generation into its successor, retirement soft-deletes a superseded generation
after its grace, purge and cleanup soft-delete by artifact and by Item. `servingStep` interleaves every writer of
the serving tables; a transaction that fails changes nothing.
-/

namespace KnowledgeBase

open Checked Relational

def VectorRecordRow.erase (now : Time) (r : VectorRecordRow) : VectorRecordRow :=
  { r with publicationState := .withdrawn, deletedAt := some (r.deletedAt.getD now) }

namespace Serving

/-! ### index rebuild -/

/-- A frozen plan of one rebuild: the target, the pointer and the set it starts from, and the planned identities. -/
structure IndexRebuildPlan where
  item : ItemId
  revision : RevisionId
  itemRowRevision : Nat
  nspace : NamespaceId
  oldIndexGeneration : Nat
  pointerRowRevision : Nat
  sourceProof : ProofId
  sourceGenerationArtifact : ArtifactId
  sourceContentDigest : Digest
  sourceRecords : List (VectorRecordId × Digest)
  layerA : EmbeddingModelRef
  generationArtifact : ArtifactId
  rebuiltContentDigest : Digest
  publicationProof : ProofId
  newRecord : VectorRecordId → VectorRecordId

structure IndexRebuild where
  team : TeamId
  producer : ProcessFence
  plans : List IndexRebuildPlan
  now : Time

def IndexRebuildPlan.nextIndexGeneration (p : IndexRebuildPlan) : Nat := p.oldIndexGeneration + 1

/-- `_index_rebuild_records_tx`. -/
def IndexRebuildPlan.isSource (team : TeamId) (p : IndexRebuildPlan) (r : VectorRecordRow) : Bool :=
  r.team == team && r.item == p.item && r.revision == p.revision && r.nspace == p.nspace &&
    r.generationArtifact == p.sourceGenerationArtifact && r.indexGeneration == p.oldIndexGeneration && r.isIndexed

/-- The pointer is still as the plan was frozen. -/
def IndexRebuildPlan.isFrozen (team : TeamId) (p : IndexRebuildPlan) (q : PointerRow) : Bool :=
  q.key == (team, p.item, p.nspace) && q.lifecycleState == .active && q.activeIndexGeneration == p.oldIndexGeneration &&
    q.pointerRowRevision == p.pointerRowRevision && q.lastProof == p.sourceProof &&
    q.generationArtifact == p.sourceGenerationArtifact

def pointerFence (message : String) : MkbError := conflictError "INDEX_REBUILD_POINTER_FENCE" message

/-- `_validate_index_rebuild_source_records`. -/
def validateSourceRecords (p : IndexRebuildPlan) (proof : ProofRow) (records : List VectorRecordRow) :
    Except MkbError Unit := do
  failIf records.isEmpty
    (conflictError "INDEX_REBUILD_SOURCE_RECORDS_MISSING" "Active index generation has no indexed vectors")
  failIf (records.any fun r => r.layerA != p.layerA)
    (conflictError "INDEX_REBUILD_SOURCE_LAYER_A_INVALID" "Active vector records drifted from their namespace")
  failIf (proof.expectedCount != records.length || proof.actualCount != records.length ||
      proof.matchedCount != records.length || !proof.requiredSet.isPerm (records.map VectorRecordRow.member) ||
      !proof.actualSet.isPerm (records.map VectorRecordRow.member))
    (conflictError "INDEX_REBUILD_SOURCE_PROOF_INVALID" "Active vector set no longer matches its publication proof")

/-- `_revalidate_index_rebuild_plan_tx`: the Item and the records of the active generation. -/
def revalidatePlan (team : TeamId) (p : IndexRebuildPlan) (s : Serving) :
    Except MkbError (ItemRow × List VectorRecordRow) := do
  let stale := conflictError "INDEX_REBUILD_TARGET_STALE" "Frozen index rebuild target changed before promotion"
  let i ← required (s.item? team p.item) stale
  failIf (i.rowRevision != p.itemRowRevision || i.lifecycleState != .active || i.latestRevision != some p.revision ||
    i.servingRevision != some p.revision) stale
  let q ← required (s.pointer? team p.item p.nspace) (pointerFence "Active index pointer changed before promotion")
  failIf (!p.isFrozen team q || !(s.namespace? team p.nspace).any fun n => n.isActive && n.layerA == p.layerA)
    (pointerFence "Active index pointer changed before promotion")
  let proof ← required (s.proofs.find? fun r => r.proof == p.sourceProof && r.team == team && r.item == p.item &&
      r.revision == p.revision && r.nspace == p.nspace && r.indexGeneration == p.oldIndexGeneration &&
      r.generationArtifact == p.sourceGenerationArtifact)
    (conflictError "INDEX_REBUILD_SOURCE_PROOF_MISSING" "Active publication proof changed before promotion")
  let a ← required (s.artifact? team p.sourceGenerationArtifact)
    (conflictError "INDEX_REBUILD_SOURCE_ARTIFACT_INVALID" "Source projection artifact changed before promotion")
  failIf (!a.fullValid || a.item != p.item || a.revision != p.revision || a.contentDigest != p.sourceContentDigest)
    (conflictError "INDEX_REBUILD_SOURCE_ARTIFACT_INVALID" "Source projection artifact changed before promotion")
  let records := s.records.filter (p.isSource team)
  validateSourceRecords p proof records
  failIf (!p.sourceRecords.isPerm (records.map VectorRecordRow.member))
    (conflictError "INDEX_REBUILD_SOURCE_RECORDS_CHANGED" "Source vector set changed before promotion")
  return (i, records)

/-- The row a source record is cloned into. -/
def IndexRebuildPlan.clone (team : TeamId) (p : IndexRebuildPlan) (r : VectorRecordRow) : VectorRecordRow where
  record := p.newRecord r.record
  team := team
  nspace := p.nspace
  generationArtifact := p.generationArtifact
  unitId := r.unitId
  channel := r.channel
  item := p.item
  revision := p.revision
  contentDigest := r.contentDigest
  layerA := r.layerA
  publicationState := .indexed
  indexGeneration := p.nextIndexGeneration
  deletedAt := none

/-- `_clone_rebuilt_vector_records_tx`. -/
def cloneRecords (team : TeamId) (p : IndexRebuildPlan) (sources records : List VectorRecordRow) :
    Except MkbError (List VectorRecordRow) :=
  foldEach (fun l r => insertUnique VectorRecordRow.record constraintViolation (p.clone team r) l) records sources

def IndexRebuildPlan.proofRow (team : TeamId) (producer : ProcessFence) (p : IndexRebuildPlan)
    (sources : List VectorRecordRow) : ProofRow where
  proof := p.publicationProof
  team := team
  item := p.item
  revision := p.revision
  producer := producer
  generationArtifact := p.generationArtifact
  nspace := p.nspace
  layerA := p.layerA
  indexGeneration := p.nextIndexGeneration
  expectedCount := sources.length
  actualCount := sources.length
  matchedCount := sources.length
  requiredSet := (sources.map (p.clone team)).map VectorRecordRow.member
  actualSet := (sources.map (p.clone team)).map VectorRecordRow.member

/-- The rebuilt projection; no generation pointer names it. -/
def IndexRebuildPlan.artifactRow (team : TeamId) (producer : ProcessFence) (p : IndexRebuildPlan) : ArtifactRow where
  team := team
  artifact := p.generationArtifact
  execution := producer.execution
  item := p.item
  revision := p.revision
  contentDigest := p.rebuiltContentDigest
  fullValid := true
  current := false

/-- One plan of `_commit_index_rebuild`. -/
def commitPlan (grace : Nat) (c : IndexRebuild) (s : Serving) (p : IndexRebuildPlan) : Except MkbError Serving := do
  let (i, sources) ← s.revalidatePlan c.team p
  let artifacts ← insertUnique ArtifactRow.artifact constraintViolation (p.artifactRow c.team c.producer) s.artifacts
  let records ← cloneRecords c.team p sources s.records
  let proof := p.proofRow c.team c.producer sources
  let proofs ← insertUnique ProofRow.proof constraintViolation proof s.proofs
  let pointers ← casWhere (p.isFrozen c.team) (PointerRow.promote proof c.now)
    (pointerFence "Active index pointer changed before promotion") s.pointers
  let namespaces ← casWhere
    (fun n => n.team == c.team && n.nspace == p.nspace && n.isActive && n.layerA == p.layerA)
    (NamespaceRow.raise p.nextIndexGeneration)
    (conflictError "INDEX_REBUILD_NAMESPACE_FENCE" "Index namespace changed before promotion") s.namespaces
  let s := { s with
    artifacts := artifacts, records := records, proofs := proofs, pointers := pointers, namespaces := namespaces }
  let s ← s.scheduleRetirement grace c.team p.item p.nspace p.oldIndexGeneration p.nextIndexGeneration
    (p.pointerRowRevision + 1)
  return s.record
    { team := c.team, item := p.item, before := ⟨.active, some p.revision, i.servingRevision, i.rowRevision⟩
      after := ⟨.active, some p.revision, i.servingRevision, i.rowRevision⟩
      fence := .indexRebuild c.producer p.oldIndexGeneration p.nextIndexGeneration }

/-- `_commit_index_rebuild`. -/
def indexRebuild (grace : Nat) (c : IndexRebuild) (s : Serving) : Except MkbError Serving :=
  foldEach (commitPlan grace c) s c.plans

/-! ### retirement -/

/-- `_active_pointer_tx`. -/
def activePointer? (s : Serving) (team : TeamId) (item : ItemId) (nspace : NamespaceId) : Option PointerRow :=
  if (s.namespace? team nspace).any (·.isActive) &&
      (s.item? team item).any (fun i => i.lifecycleState == .active && i.deletedAt.isNone && i.servingRevision.isSome) then
    (s.pointer? team item nspace).filter fun p => p.lifecycleState == .active
  else none

def isOfGeneration (team : TeamId) (item : ItemId) (nspace : NamespaceId) (generation : Nat) (r : VectorRecordRow) :
    Bool :=
  r.team == team && r.item == item && r.nspace == nspace && r.indexGeneration == generation && r.deletedAt.isNone

def noAction : MkbError := ⟨"NO_ACTION", "Nothing is due", 200⟩

/-- One row of `discover_retirements`: a live generation below the active one is scheduled. -/
def discoverRetirement (grace : Nat) (team : TeamId) (item : ItemId) (nspace : NamespaceId) (retired : Nat)
    (s : Serving) : Except MkbError Serving := do
  let p ← required (s.activePointer? team item nspace) noAction
  failIf (!s.records.any (isOfGeneration team item nspace retired) || decide (p.activeIndexGeneration ≤ retired)) noAction
  s.scheduleRetirement grace team item nspace retired p.activeIndexGeneration p.pointerRowRevision

/-- The soft-delete of one generation with the end of its intent. -/
def retireGeneration (i : RetirementIntent) (now : Time) (s : Serving) : Serving :=
  { s with
    records := updateWhere (isOfGeneration i.team i.item i.nspace i.retiredIndexGeneration)
      (VectorRecordRow.softDelete now) s.records
    retirements := s.retirements.filter fun q => q.key != i.key }

/-- `soft_purge`: a due intent, unless the pointer has gone back to its generation; without an active pointer the
intent is abandoned with the same soft-delete. -/
def softPurge (i : RetirementIntent) (now : Time) (s : Serving) : Except MkbError Serving := do
  failIf (!s.retirements.contains i || decide (now < i.eligibleAt)) noAction
  match s.activePointer? i.team i.item i.nspace with
  | none => return s.retireGeneration i now
  | some p =>
    failIf (decide (p.activeIndexGeneration ≤ i.retiredIndexGeneration)) noAction
    return s.retireGeneration i now

/-! ### purge and cleanup -/

structure PurgeGeneration where
  team : TeamId
  targetGenerationArtifacts : List ArtifactId
  matchedRecords : Nat
  now : Time
deriving DecidableEq

def PurgeGeneration.isTarget (c : PurgeGeneration) (r : VectorRecordRow) : Bool :=
  r.team == c.team && r.deletedAt.isNone && c.targetGenerationArtifacts.contains r.generationArtifact

/-- `purge_tx`. -/
def purgeGeneration (c : PurgeGeneration) (s : Serving) : Except MkbError Serving := do
  failIf (!c.targetGenerationArtifacts.all fun a => (s.artifact? c.team a).any (·.fullValid))
    (conflictError "PURGE_TARGET_NOT_FOUND" "Purge target is not a full-valid dual-channel generation")
  failIf (s.records.countP c.isTarget != c.matchedRecords)
    (conflictError "PURGE_REQUIRED_SET_CHANGED" "Purge target changed after its receipt was planned")
  return { s with records := updateWhere c.isTarget (VectorRecordRow.softDelete c.now) s.records }

/-- The `vector_projection` step of a cleanup job, for a delete intent. -/
def cleanupVectors (team : TeamId) (item : ItemId) (now : Time) (s : Serving) : Except MkbError Serving := do
  failIf (!s.deleteCleanups.contains (team, item)) noAction
  return { s with records := updateWhere (fun r => r.team == team && r.item == item) (VectorRecordRow.erase now) s.records }

end Serving

/-! ### the interleaving -/

open Serving

/-- One transaction of a writer of the serving tables. -/
inductive ServingStep
  | acceptSnapshot (c : AcceptSnapshot)
  | acceptCollection (c : AcceptCollection)
  | acceptRebuild (t : FrozenTarget) (producer : ProcessFence)
  | acceptMetadataUpdate (t : FrozenTarget) (metadataRevision : Option RevisionId) (producer : ProcessFence)
  | lifecycle (c : LifecycleCommand)
  | humanReview (team : TeamId) (snapshot : SnapshotId) (decision : ReviewDecision)
  | acceptConstruct (a : ArtifactRow)
  | vectorize (c : Vectorize)
  | publish (c : Publish)
  | indexRebuild (c : IndexRebuild)
  | discoverRetirement (team : TeamId) (item : ItemId) (nspace : NamespaceId) (retired : Nat)
  | softPurge (i : RetirementIntent) (now : Time)
  | purgeGeneration (c : PurgeGeneration)
  | cleanupVectors (team : TeamId) (item : ItemId) (now : Time)

variable (grace : Nat)

def ServingStep.transact (s : Serving) : ServingStep → Except MkbError Serving
  | .acceptSnapshot c => s.acceptSnapshot c
  | .acceptCollection c => s.acceptCollection c
  | .acceptRebuild t producer => s.acceptRebuild t producer
  | .acceptMetadataUpdate t metadataRevision producer => s.acceptMetadataUpdate t metadataRevision producer
  | .lifecycle c => s.applyLifecycle c
  | .humanReview team snapshot decision => .ok (s.applyHumanReview team snapshot decision)
  | .acceptConstruct a => s.acceptConstruct a
  | .vectorize c => s.vectorize c
  | .publish c => s.publish grace c
  | .indexRebuild c => s.indexRebuild grace c
  | .discoverRetirement team item nspace retired => s.discoverRetirement grace team item nspace retired
  | .softPurge i now => s.softPurge i now
  | .purgeGeneration c => s.purgeGeneration c
  | .cleanupVectors team item now => s.cleanupVectors team item now

/-! ### one Item from acceptance to serving -/

def sampleLayerA : EmbeddingModelRef := ⟨1, 1, 1, 8⟩

def sampleAccept (review : Bool) : AcceptSnapshot where
  team := 1
  source := 1
  item := 1
  externalKey := 1
  revision := 10
  snapshot := 1
  requireHumanReview := review
  expectedItemEpoch := none
  producer := ⟨1, 1, 1⟩

def sampleVectorize : Vectorize where
  team := 1
  execution := 1
  item := 1
  revision := 10
  generationArtifact := 100
  nspace := 1
  indexGeneration := 1
  publicationProof := 1000
  layerA := sampleLayerA
  records := [⟨7, 1, .original, 77⟩]

/-- An Item accepted without review, vectorized with one unit and published. -/
def samplePublication : List ServingStep :=
  [.acceptSnapshot (sampleAccept false), .acceptConstruct ⟨1, 100, 1, 1, 10, 5, true, true⟩, .vectorize sampleVectorize,
    .publish ⟨1, ⟨1, 2, 1⟩, 0⟩]

/-- A transaction that fails changes nothing. -/
def servingStep (s : Serving) (t : ServingStep) : Serving :=
  match t.transact grace s with
  | .ok s' => s'
  | .error _ => s

theorem servingStep_cases {s : Serving} {t : ServingStep} :
    servingStep grace s t = s ∨ t.transact grace s = .ok (servingStep grace s t) := by
  unfold servingStep
  cases h : t.transact grace s with
  | ok s' => exact .inr rfl
  | error e => exact .inl rfl

end KnowledgeBase
