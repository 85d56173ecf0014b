import KnowledgeBase.Serving.Acceptance

/-!
# Publication

The transactions that write the index: a vectorize stage reserves a generation and writes withdrawn records, a
publish stage indexes them with their proof, moves the active pointer, advances the serving Revision and schedules
the retirement of the generation it supersedes.
-/

namespace KnowledgeBase

open Checked Relational

/-! ### row updates -/

def VectorRecordRow.index (r : VectorRecordRow) : VectorRecordRow := { r with publicationState := .indexed }

def VectorRecordRow.softDelete (now : Time) (r : VectorRecordRow) : VectorRecordRow := { r with deletedAt := some now }

/-- The pointer, moved to the generation of the proof. -/
def PointerRow.promote (p : ProofRow) (now : Time) (q : PointerRow) : PointerRow :=
  { q with
    activeIndexGeneration := p.indexGeneration
    lifecycleState := .active
    lastProof := p.proof
    generationArtifact := p.generationArtifact
    pointerRowRevision := q.pointerRowRevision + 1
    updatedAt := now }

/-- The pointer a first publication inserts. -/
def ProofRow.firstPointer (p : ProofRow) (now : Time) : PointerRow where
  team := p.team
  item := p.item
  nspace := p.nspace
  activeIndexGeneration := p.indexGeneration
  pointerRowRevision := 0
  lifecycleState := .active
  lastProof := p.proof
  generationArtifact := p.generationArtifact
  updatedAt := now

def NamespaceRow.raise (generation : Nat) (n : NamespaceRow) : NamespaceRow :=
  { n with indexGeneration := max n.indexGeneration generation }

def ItemRow.serve (revision : RevisionId) (i : ItemRow) : ItemRow :=
  { i with servingRevision := some revision, rowRevision := i.rowRevision + 1 }

def ProofRow.isComplete (p : ProofRow) : Bool := p.expectedCount == p.actualCount && p.expectedCount == p.matchedCount

def ProofRow.manifest (p : ProofRow) (itemEpoch : Nat) (fetched : List VectorRecordRow) : ManifestRow where
  proof := p.proof
  team := p.team
  item := p.item
  revision := p.revision
  itemEpoch := itemEpoch
  generationArtifact := p.generationArtifact
  nspace := p.nspace
  indexGeneration := p.indexGeneration
  members := fetched.map VectorRecordRow.member

namespace Serving

/-! ### vectorize -/

/-- The accepted output of a construct stage; a generation artifact is never updated or deleted. -/
def acceptConstruct (a : ArtifactRow) (s : Serving) : Except MkbError Serving := do
  failIf (s.item? a.team a.item).isNone constraintViolation
  let artifacts ← insertUnique ArtifactRow.artifact constraintViolation a s.artifacts
  return { s with artifacts := artifacts }

/-- A required vector unit with the identity planned for it. -/
structure PlannedRecord where
  record : VectorRecordId
  unitId : Nat
  channel : VectorChannel
  contentDigest : Digest
deriving DecidableEq

/-- What `_vectorize_from_construct` commits: the handoff it planned and the units it embedded. -/
structure Vectorize where
  team : TeamId
  execution : ExecutionId
  item : ItemId
  revision : RevisionId
  generationArtifact : ArtifactId
  nspace : NamespaceId
  indexGeneration : Nat
  publicationProof : ProofId
  layerA : EmbeddingModelRef
  records : List PlannedRecord
deriving DecidableEq

def Vectorize.handoff (c : Vectorize) : VectorizeHandoff where
  team := c.team
  execution := c.execution
  item := c.item
  revision := c.revision
  nspace := c.nspace
  indexGeneration := c.indexGeneration
  generationArtifact := c.generationArtifact
  publicationProof := c.publicationProof
  layerA := c.layerA
  vectorRecords := c.records.map fun r => (r.record, r.contentDigest)

/-- `_assert_construct_to_vectorize_gate_tx`. -/
def constructGate (c : Vectorize) (s : Serving) : Except MkbError Unit := do
  let a ← required (s.artifact? c.team c.generationArtifact)
    (conflictError "CONSTRUCT_TO_VECTORIZE_GATE" "Generation artifact ledger no longer matches the frozen handoff")
  failIf (!a.fullValid || a.execution != c.execution || a.item != c.item || a.revision != c.revision)
    (conflictError "CONSTRUCT_TO_VECTORIZE_GATE" "Generation artifact ledger no longer matches the frozen handoff")
  failIf (!a.current)
    (conflictError "CONSTRUCT_TO_VECTORIZE_GATE" "Generation artifact is no longer the accepted current member")

/-- `_ensure_namespace`: a Team has one namespace for a Layer A. -/
def ensureNamespace (c : Vectorize) (s : Serving) : Except MkbError Serving :=
  match s.namespaces.find? fun n => n.team == c.team && n.layerA == c.layerA with
  | some n => do
    failIf (n.nspace != c.nspace) (conflictError "VECTOR_NAMESPACE_BINDING_CONFLICT" "Namespace binding conflicts")
    return s
  | none => do
    let namespaces ← insertUnique NamespaceRow.nspace constraintViolation ⟨c.nspace, c.team, c.layerA, true, 0⟩ s.namespaces
    return { s with namespaces := namespaces }

/-- The live withdrawn record at the coordinate of a planned unit. -/
def isAtCoordinate (c : Vectorize) (u : PlannedRecord) (r : VectorRecordRow) : Bool :=
  r.team == c.team && r.nspace == c.nspace && r.generationArtifact == c.generationArtifact && r.unitId == u.unitId &&
    r.channel == u.channel && r.layerA.modelKey == c.layerA.modelKey && r.indexGeneration == c.indexGeneration &&
    r.publicationState == .withdrawn && r.deletedAt.isNone

/-- The row a planned unit is stored as. -/
def Vectorize.recordRow (c : Vectorize) (u : PlannedRecord) : VectorRecordRow where
  record := u.record
  team := c.team
  nspace := c.nspace
  generationArtifact := c.generationArtifact
  unitId := u.unitId
  channel := u.channel
  item := c.item
  revision := c.revision
  contentDigest := u.contentDigest
  layerA := c.layerA
  publicationState := .withdrawn
  indexGeneration := c.indexGeneration
  deletedAt := none

/-- The columns the update of an existing coordinate sets. -/
def Vectorize.overwrite (c : Vectorize) (u : PlannedRecord) (r : VectorRecordRow) : VectorRecordRow :=
  { r with
    item := c.item
    revision := c.revision
    contentDigest := u.contentDigest
    layerA := c.layerA
    publicationState := .withdrawn
    indexGeneration := c.indexGeneration }

/-- `_upsert_vector_record_tx`. -/
def upsertVectorRecord (c : Vectorize) (records : List VectorRecordRow) (u : PlannedRecord) :
    Except MkbError (List VectorRecordRow) :=
  match records.find? (isAtCoordinate c u) with
  | some r => do
    failIf (r.record != u.record)
      (conflictError "VECTORIZE_COORDINATE_FENCE" "A vector coordinate was claimed by a different replay")
    casWhere (fun q => q.team == c.team && q.record == u.record && q.deletedAt.isNone) (c.overwrite u)
      (conflictError "VECTORIZE_COORDINATE_FENCE" "Vector coordinate changed during its fenced update") records
  | none => insertUnique VectorRecordRow.record constraintViolation (c.recordRow u) records

/-- The outcome transaction of a vectorize stage. Its Execution has one vectorize outcome, the handoff. -/
def vectorize (c : Vectorize) (s : Serving) : Except MkbError Serving := do
  s.constructGate c
  failIf (s.item? c.team c.item).isNone constraintViolation
  let s ← s.ensureNamespace c
  let namespaces ← casWhere
    (fun n => n.nspace == c.nspace && n.team == c.team && n.isActive && n.indexGeneration + 1 == c.indexGeneration)
    (NamespaceRow.raise c.indexGeneration)
    (conflictError "VECTORIZE_GENERATION_FENCE" "Index generation was reserved by a concurrent vectorize") s.namespaces
  let records ← foldEach (upsertVectorRecord c) s.records c.records
  let handoffs ← insertUnique VectorizeHandoff.execution constraintViolation c.handoff s.handoffs
  return { s with namespaces := namespaces, records := records, handoffs := handoffs }

/-! ### retirement intents -/

/-- `schedule_retirement_tx`: an open intent of the generation keeps its deadline. -/
def scheduleRetirement (grace : Nat) (team : TeamId) (item : ItemId) (nspace : NamespaceId) (retired successor : Nat)
    (pointerRowRevision : Nat) (s : Serving) : Except MkbError Serving := do
  let p ← required (s.pointer? team item nspace)
    (conflictError "INDEX_RETIREMENT_POINTER_FENCE"
      "The active index pointer changed before its retirement intent was recorded")
  failIf (!(s.namespace? team nspace).any (·.isActive) ||
      !(s.item? team item).any (fun i => i.lifecycleState == .active && i.deletedAt.isNone && i.servingRevision.isSome) ||
      p.lifecycleState != .active || p.activeIndexGeneration != successor || p.pointerRowRevision != pointerRowRevision ||
      decide (successor ≤ retired))
    (conflictError "INDEX_RETIREMENT_POINTER_FENCE"
      "The active index pointer changed before its retirement intent was recorded")
  let intent := ⟨team, item, nspace, retired, p.updatedAt + grace⟩
  return { s with retirements := insertOrIgnore (fun q => q.key == RetirementIntent.key intent) intent s.retirements }

/-! ### publication -/

structure Publish where
  team : TeamId
  producer : ProcessFence
  now : Time
deriving DecidableEq

/-- The proof a publish stage inserts for the fetched records. -/
def Publish.proofRow (c : Publish) (h : VectorizeHandoff) (fetched : List VectorRecordRow) : ProofRow where
  proof := h.publicationProof
  team := c.team
  item := h.item
  revision := h.revision
  producer := c.producer
  generationArtifact := h.generationArtifact
  nspace := h.nspace
  layerA := h.layerA
  indexGeneration := h.indexGeneration
  expectedCount := h.vectorRecords.length
  actualCount := h.vectorRecords.length
  matchedCount := h.vectorRecords.length
  requiredSet := h.vectorRecords
  actualSet := fetched.map VectorRecordRow.member

def isOfHandoff (team : TeamId) (h : VectorizeHandoff) (r : VectorRecordRow) : Bool :=
  r.team == team && h.vectorRecords.any fun v => v.1 == r.record

def vectorFence (message : String) : MkbError := conflictError "PUBLICATION_VECTOR_FENCE" message

/-- The fetched set of a publication, publishable as a whole. -/
def publishableRecords (c : Publish) (h : VectorizeHandoff) (s : Serving) : Except MkbError (List VectorRecordRow) := do
  let fetched := s.records.filter (isOfHandoff c.team h)
  failIf (fetched.length != h.vectorRecords.length || fetched.any fun r =>
      r.publicationState != .withdrawn || r.indexGeneration != h.indexGeneration)
    (vectorFence "Vector record set is not publishable")
  failIf (!(fetched.map VectorRecordRow.member).isPerm h.vectorRecords)
    (vectorFence "Vector record content set changed before publication")
  return fetched

/-- The active pointer of a publication: inserted, or moved to a newer generation. -/
def promotePointer (p : ProofRow) (now : Time) (s : Serving) : Except MkbError Serving :=
  match s.pointer? p.team p.item p.nspace with
  | none => .ok { s with pointers := s.pointers ++ [p.firstPointer now] }
  | some q => do
    let pointers ← casWhere
      (fun r => r.key == q.key && r.pointerRowRevision == q.pointerRowRevision &&
        decide (r.activeIndexGeneration < p.indexGeneration)) (PointerRow.promote p now)
      (conflictError "PUBLICATION_POINTER_FENCE" "Active index pointer changed concurrently") s.pointers
    return { s with pointers := pointers }

def raiseNamespace (team : TeamId) (nspace : NamespaceId) (generation : Nat) (l : List NamespaceRow) :
    List NamespaceRow :=
  updateWhere (fun n => n.nspace == nspace && n.team == team && n.isActive) (NamespaceRow.raise generation) l

def servesNext (before : ItemRow) (revision : RevisionId) (i : ItemRow) : Bool :=
  i.key == before.key && i.lifecycleState == .active && i.rowRevision == before.rowRevision &&
    i.latestRevision == some revision

def servingFence (message : String) : MkbError := conflictError "PUBLICATION_SERVING_FENCE" message

/-- `publish_revision_tx`, for the proof the caller wrote and the pointer it moved. -/
def publishRevision (item : ItemId) (revision : RevisionId) (proof : ProofId) (nspace : NamespaceId) (generation : Nat)
    (c : Publish) (s : Serving) : Except MkbError Serving := do
  let i ← required (s.item? c.team item) (notFoundError "intake-item-not-found" "Intake item was not found")
  if s.hasTransition c.team item (.publication item revision proof c.producer) then
    failIf (i.servingRevision != some revision) (conflictError "intake-publication-replay-conflict"
      "Published serving pointer no longer matches the replayed proof")
    return s
  else
    failIf (i.lifecycleState != .active) (servingFence "Intake item is not active for publication")
    failIf (i.latestRevision != some revision)
      (servingFence "Publication revision is no longer the Intake item's latest revision")
    let p ← required (s.proofs.find? fun p => p.proof == proof && p.team == c.team && p.item == item &&
        p.revision == revision && p.nspace == nspace && p.indexGeneration == generation)
      (conflictError "PUBLICATION_PROOF_INVALID" "Publication proof does not match the serving target")
    failIf (p.producer != c.producer || !p.isComplete)
      (conflictError "PUBLICATION_PROOF_INVALID" "Publication proof is incomplete or causally mismatched")
    let q ← required (s.pointer? c.team item nspace)
      (conflictError "PUBLICATION_POINTER_FENCE" "Active index pointer does not match publication proof")
    failIf (q.lifecycleState != .active || q.activeIndexGeneration != generation || q.lastProof != proof ||
        q.generationArtifact != p.generationArtifact)
      (conflictError "PUBLICATION_POINTER_FENCE" "Active index pointer does not match publication proof")
    let items ← casWhere (servesNext i revision) (ItemRow.serve revision)
      (servingFence "Serving revision changed concurrently") s.items
    return { s with items := items }.record
      { team := c.team, item := item, before := ⟨.active, i.latestRevision, i.servingRevision, i.rowRevision⟩
        after := ⟨.active, i.latestRevision, some revision, i.rowRevision + 1⟩
        fence := .publication item revision proof c.producer }

/-- The rows of `_publish` before the pointer moves. -/
def insertPublication (p : ProofRow) (fetched : List VectorRecordRow) (s : Serving) : Except MkbError Serving := do
  let proofs ← insertUnique ProofRow.proof constraintViolation p s.proofs
  let i ← required (s.item? p.team p.item)
    (conflictError "PUBLICATION_ITEM_MISSING" "Publication item disappeared before manifest commit")
  failIf (s.manifests.any fun m => m.proof == p.proof) constraintViolation
  let manifests ← insertUnique ManifestRow.key constraintViolation (p.manifest i.rowRevision fetched) s.manifests
  return { s with proofs := proofs, manifests := manifests }

/-- The retirement of the generation a publication supersedes. -/
def retireSuperseded (grace : Nat) (p : ProofRow) (before : Option PointerRow) (s : Serving) : Except MkbError Serving :=
  match before with
  | none => .ok s
  | some q =>
    if q.activeIndexGeneration < p.indexGeneration then
      s.scheduleRetirement grace p.team p.item p.nspace q.activeIndexGeneration p.indexGeneration
        (q.pointerRowRevision + 1)
    else .ok s

/-- `_publish`, the outcome transaction, for the handoff of its own Execution. -/
def publish (grace : Nat) (c : Publish) (s : Serving) : Except MkbError Serving := do
  let h ← required (s.handoffs.find? fun h => h.execution == c.producer.execution && h.team == c.team)
    (conflictError "PUBLICATION_HANDOFF_MISSING" "Publication requires a typed Vectorize handoff")
  failIf h.vectorRecords.isEmpty (conflictError "PUBLICATION_VECTOR_MISSING" "Vectorization receipt is unavailable")
  let fetched ← s.publishableRecords c h
  let p := c.proofRow h fetched
  let s := { s with records := updateWhere (isOfHandoff c.team h) VectorRecordRow.index s.records }
  let s ← s.insertPublication p fetched
  let before := s.pointer? p.team p.item p.nspace
  let s ← s.promotePointer p c.now
  let s := { s with namespaces := raiseNamespace c.team h.nspace h.indexGeneration s.namespaces }
  let s ← s.publishRevision h.item h.revision h.publicationProof h.nspace h.indexGeneration c
  s.retireSuperseded grace p before

end Serving

end KnowledgeBase
