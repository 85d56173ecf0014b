import KnowledgeBase.Library.Relation
import KnowledgeBase.Store.Database

/-!
# Serving rows

The tables a search answers from and the tables that decide what they hold: Items with their transition ledger,
active index pointers, publication proofs with their manifests, vector records with their namespaces, generation
artifacts, Snapshot memberships and the cleanup intents. Writers choose their keys, so a table is the list of its
rows. A digest of a set of records stands for the set.
-/

namespace KnowledgeBase

abbrev SourceId := Nat
abbrev NamespaceId := Nat
abbrev ArtifactId := Nat
abbrev ProofId := Nat
abbrev VectorRecordId := Nat

/-- The Process a writer runs in, with its fence. -/
structure ProcessFence where
  execution : ExecutionId
  process : ProcessId
  fencingGeneration : Nat
deriving DecidableEq

/-- Layer A; `embedding_model` is its model key in every table. -/
structure EmbeddingModelRef where
  modelKey : Nat
  modelVersion : Nat
  adapterKind : Nat
  dimension : Nat
deriving DecidableEq

/-! ### Items -/

structure ItemRow where
  team : TeamId
  item : ItemId
  source : SourceId
  externalKey : Nat
  lifecycleState : IntakeLifecycle
  latestRevision : Option RevisionId
  servingRevision : Option RevisionId
  rowRevision : Nat
  deletedAt : Option Time
deriving DecidableEq

inductive ItemAction
  | deactivate | reactivate | delete
deriving DecidableEq

/-- What `transition_fence` is the digest of. -/
inductive TransitionFence
  | acceptRevision (producer : ProcessFence)
  | acceptMember (producer : ProcessFence) (memberOrdinal : Nat)
  | rebuild (producer : ProcessFence)
  | updateMetadata (producer : ProcessFence)
  | metadataNoChange (producer : ProcessFence)
  | indexRebuild (producer : ProcessFence) (fromGeneration toGeneration : Nat)
  | publication (item : ItemId) (revision : RevisionId) (proof : ProofId) (producer : ProcessFence)
  | lifecycle (item : ItemId) (action : ItemAction) (idempotencyKey : Nat)
deriving DecidableEq

/-- The columns of an Item that its ledger records. -/
structure ItemFacts where
  lifecycleState : IntakeLifecycle
  latestRevision : Option RevisionId
  servingRevision : Option RevisionId
  rowRevision : Nat
deriving DecidableEq

def ItemRow.facts (i : ItemRow) : ItemFacts :=
  ⟨i.lifecycleState, i.latestRevision, i.servingRevision, i.rowRevision⟩

/-- A row of `mkb_intake_item_transitions`: its before and after columns. -/
structure TransitionRow where
  team : TeamId
  item : ItemId
  before : ItemFacts
  after : ItemFacts
  fence : TransitionFence
deriving DecidableEq

structure SnapshotMembership where
  team : TeamId
  snapshot : SnapshotId
  memberOrdinal : Nat
  externalKey : Nat
  item : ItemId
deriving DecidableEq

/-! ### the index -/

inductive PointerLifecycle
  | active | withdrawn
deriving DecidableEq

structure PointerRow where
  team : TeamId
  item : ItemId
  nspace : NamespaceId
  activeIndexGeneration : Nat
  pointerRowRevision : Nat
  lifecycleState : PointerLifecycle
  lastProof : ProofId
  generationArtifact : ArtifactId
  updatedAt : Time
deriving DecidableEq

structure ProofRow where
  proof : ProofId
  team : TeamId
  item : ItemId
  revision : RevisionId
  producer : ProcessFence
  generationArtifact : ArtifactId
  nspace : NamespaceId
  layerA : EmbeddingModelRef
  indexGeneration : Nat
  expectedCount : Nat
  actualCount : Nat
  matchedCount : Nat
  requiredSet : List (VectorRecordId × Digest)
  actualSet : List (VectorRecordId × Digest)
deriving DecidableEq

/-- A row of `mkb_publication_manifests` with its members. -/
structure ManifestRow where
  proof : ProofId
  team : TeamId
  item : ItemId
  revision : RevisionId
  itemEpoch : Nat
  generationArtifact : ArtifactId
  nspace : NamespaceId
  indexGeneration : Nat
  members : List (VectorRecordId × Digest)
deriving DecidableEq

inductive PublicationState
  | indexed | withdrawn
deriving DecidableEq

inductive VectorChannel
  | original | summary
deriving DecidableEq

structure VectorRecordRow where
  record : VectorRecordId
  team : TeamId
  nspace : NamespaceId
  generationArtifact : ArtifactId
  unitId : Nat
  channel : VectorChannel
  item : ItemId
  revision : RevisionId
  contentDigest : Digest
  layerA : EmbeddingModelRef
  publicationState : PublicationState
  indexGeneration : Nat
  deletedAt : Option Time
deriving DecidableEq

/-- `deleted_at IS NULL AND publication_state='indexed'`. -/
def VectorRecordRow.isIndexed (r : VectorRecordRow) : Bool := r.deletedAt.isNone && r.publicationState == .indexed

def VectorRecordRow.member (r : VectorRecordRow) : VectorRecordId × Digest := (r.record, r.contentDigest)

structure NamespaceRow where
  nspace : NamespaceId
  team : TeamId
  layerA : EmbeddingModelRef
  isActive : Bool
  indexGeneration : Nat
deriving DecidableEq

/-- A dual-channel projection of `mkb_generation_artifacts`; `current` when the generation pointer of its Execution
names it. -/
structure ArtifactRow where
  team : TeamId
  artifact : ArtifactId
  execution : ExecutionId
  item : ItemId
  revision : RevisionId
  contentDigest : Digest
  fullValid : Bool
  current : Bool
deriving DecidableEq

/-! ### stage state and cleanup -/

/-- What a vectorize stage hands to publication: the planned coordinates and the records it wrote. -/
structure VectorizeHandoff where
  team : TeamId
  execution : ExecutionId
  item : ItemId
  revision : RevisionId
  nspace : NamespaceId
  indexGeneration : Nat
  generationArtifact : ArtifactId
  publicationProof : ProofId
  layerA : EmbeddingModelRef
  vectorRecords : List (VectorRecordId × Digest)
deriving DecidableEq

/-- An open intent of the index retirement policy. -/
structure RetirementIntent where
  team : TeamId
  item : ItemId
  nspace : NamespaceId
  retiredIndexGeneration : Nat
  eligibleAt : Time
deriving DecidableEq

structure Serving where
  items : List ItemRow
  transitions : List TransitionRow
  memberships : List SnapshotMembership
  pointers : List PointerRow
  proofs : List ProofRow
  manifests : List ManifestRow
  records : List VectorRecordRow
  namespaces : List NamespaceRow
  artifacts : List ArtifactRow
  handoffs : List VectorizeHandoff
  retirements : List RetirementIntent
  deleteCleanups : List (TeamId × ItemId)

def Serving.empty : Serving := ⟨[], [], [], [], [], [], [], [], [], [], [], []⟩

/-! ### keys -/

def ItemRow.key (i : ItemRow) : TeamId × ItemId := (i.team, i.item)
def TransitionRow.key (t : TransitionRow) : TeamId × ItemId := (t.team, t.item)
def PointerRow.key (p : PointerRow) : TeamId × ItemId × NamespaceId := (p.team, p.item, p.nspace)
def ManifestRow.key (m : ManifestRow) : TeamId × ItemId × NamespaceId × Nat := (m.team, m.item, m.nspace, m.indexGeneration)
def RetirementIntent.key (i : RetirementIntent) : TeamId × ItemId × NamespaceId × Nat :=
  (i.team, i.item, i.nspace, i.retiredIndexGeneration)

namespace Serving

def item? (s : Serving) (team : TeamId) (item : ItemId) : Option ItemRow := s.items.find? fun i => i.key == (team, item)

def pointer? (s : Serving) (team : TeamId) (item : ItemId) (nspace : NamespaceId) : Option PointerRow :=
  s.pointers.find? fun p => p.key == (team, item, nspace)

def proof? (s : Serving) (proof : ProofId) : Option ProofRow := s.proofs.find? fun p => p.proof == proof

def namespace? (s : Serving) (team : TeamId) (nspace : NamespaceId) : Option NamespaceRow :=
  s.namespaces.find? fun n => n.nspace == nspace && n.team == team

def artifact? (s : Serving) (team : TeamId) (artifact : ArtifactId) : Option ArtifactRow :=
  s.artifacts.find? fun a => a.team == team && a.artifact == artifact

/-- `mkb_intake_item_transitions` holds a row of the Item under the fence. -/
def hasTransition (s : Serving) (team : TeamId) (item : ItemId) (fence : TransitionFence) : Bool :=
  s.transitions.any fun t => t.key == (team, item) && t.fence == fence

def record (s : Serving) (t : TransitionRow) : Serving := { s with transitions := s.transitions ++ [t] }

end Serving

end KnowledgeBase
