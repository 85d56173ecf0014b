import KnowledgeBase.Lsrag.Adopt

/-!
# The generation ledger

Generation members are promoted as objects under their digest, entered in a ledger by their identity and made current
by the pointer of their Execution and type. A table is a map from its primary key; a handle is the Team and the digest
that `object_handle` writes into it.
-/

namespace KnowledgeBase

/-- The runtime of the generation stages: the kernel's, and the size of bytes. -/
structure GenerationPlatform (β : Type) extends Platform β where
  byteSize : β → Nat

inductive ArtifactType
  | structureDocument | retrievalBlockProjection | structureValidationReport
  | constructionDocument | dualChannelProjection | constructionValidationReport
deriving DecidableEq

structure ObjectHandle where
  team : Text
  digest : Text
deriving DecidableEq

/-- What a stage keeps of a member: its identity, handle, digest and size, as far as they have the right type. -/
structure MemberReceipt where
  artifactUuid : Option Text
  logicalHandle : Option ObjectHandle
  contentDigest : Option Text
  sizeBytes : Option Int
deriving DecidableEq

/-- The coordinates of the Process at work. -/
structure ProcessCommand where
  team : Text
  task : Text
  execution : Text
deriving DecidableEq

structure GenerationArtifact where
  team : Text
  artifactType : ArtifactType
  task : Text
  execution : Text
  intakeItem : Option Text
  intakeRevision : Option Text
  cleanArtifact : Option Text
  cleanArtifactDigest : Option Text
  logicalHandle : ObjectHandle
  contentDigest : Text
  sizeBytes : Int
  fullValid : Bool
deriving DecidableEq

/-- A row of `mkb_intake_revision_semantics`. -/
structure RevisionSemantic where
  semanticKey : Text
  valueKind : Text
  valueInt : Option Int
  valueText : Option Text
deriving DecidableEq

/-- `mkb_generation_artifacts`, `mkb_generation_pointers` and the semantics of the revisions of a Team, with the object
files by Team and digest. -/
structure GenerationStore (β : Type) where
  objects : Text → Text → Option β
  artifacts : Text → Option GenerationArtifact
  pointers : Text → Text → ArtifactType → Option Text
  semantics : Text → Text → List RevisionSemantic

variable {β : Type} (K : GenerationPlatform β)

/-! ### objects -/

structure ObjectStat where
  handle : ObjectHandle
  sha256 : Text
  sizeBytes : Nat
deriving DecidableEq

namespace GenerationStore

/-- The bytes under a key. -/
def writeObject (w : GenerationStore β) (team digest : Text) (data : β) : GenerationStore β :=
  { w with objects := fun t d => if t = team ∧ d = digest then some data else w.objects t d }

/-- `_promote_staging_sync`: bytes that exist already are verified and nothing is written. -/
def promote (w : GenerationStore β) (team : Text) (data : β) : Except MkbError (ObjectStat × GenerationStore β) :=
  let digest := K.sha256 data
  let stat : ObjectStat := ⟨⟨team, digest⟩, digest, K.byteSize data⟩
  match w.objects team digest with
  | some existing => do
    Checked.failIf (K.sha256 existing != digest || K.byteSize existing != K.byteSize data)
      ⟨"OBJECT_INTEGRITY_COLLISION", "CAS object integrity mismatch", 503⟩
    return (stat, w)
  | none => .ok (stat, w.writeObject team digest data)

/-- `read_verified`. -/
def readVerified (w : GenerationStore β) (team : Text) (handle : ObjectHandle) : Except MkbError β := do
  Checked.failIf (handle.team != team)
    ⟨"OBJECT_AUTH_TEAM_MISMATCH", "Object handle belongs to a different Team", 403⟩
  let data ← Checked.required (w.objects team handle.digest)
    (notFoundError "OBJECT_MISSING" "Object bytes are unavailable")
  Checked.failIf (K.sha256 data != handle.digest)
    ⟨"OBJECT_INTEGRITY_DIGEST", "Object bytes failed integrity verification", 503⟩
  return data

/-! ### rows -/

/-- `_insert_generation_artifact`, which the primary key refuses for an identity in use. -/
def insertGenerationArtifact (w : GenerationStore β) (artifactUuid : Text) (row : GenerationArtifact) :
    Except MkbError (GenerationStore β) := do
  Checked.failIf (w.artifacts artifactUuid).isSome ⟨"DATABASE_CONSTRAINT", "generation_artifact_uuid", 409⟩
  return { w with artifacts := fun u => if u = artifactUuid then some row else w.artifacts u }

/-- `_advance_generation_pointer`. -/
def advanceGenerationPointer (w : GenerationStore β) (c : ProcessCommand) (artifactType : ArtifactType)
    (artifactUuid : Text) : GenerationStore β :=
  { w with pointers := fun team execution type_ =>
      if team = c.team ∧ execution = c.execution ∧ type_ = artifactType then some artifactUuid
      else w.pointers team execution type_ }

/-- The row of a member of this Team and type. -/
def artifactOf (w : GenerationStore β) (team artifactUuid : Text) (artifactType : ArtifactType) :
    Option GenerationArtifact :=
  (w.artifacts artifactUuid).filter fun row => row.team == team && row.artifactType == artifactType

end GenerationStore

/-! ### receipts -/

/-- `_generation_state_text`: a text that is not empty. -/
def generationStateText (value : Option Text) (errorCode key : String) : Except MkbError Text :=
  Checked.required (value.filter fun t => !t.isEmpty) (conflictError errorCode ("Generation state is missing " ++ key))

/-- The declared size of a member. -/
def generationSize (value : Option Int) (errorCode message : String) : Except MkbError Int :=
  Checked.required (value.filter fun n => decide (0 ≤ n)) (conflictError errorCode message)

/-- The bytes name the identity they are filed under. -/
def declaresUuid (v : Json) (artifactUuid : Text) : Bool :=
  match v with
  | .obj members => match members.lookup "generation_artifact_uuid" with
    | some (.str t) => t == artifactUuid
    | _ => false
  | _ => false

/-- `_read_frozen_generation_asset`. -/
def readFrozenGenerationAsset (w : GenerationStore β) (c : ProcessCommand) (r : MemberReceipt) (errorCode : String) :
    Except MkbError β := do
  let artifactUuid ← generationStateText r.artifactUuid errorCode "artifact_uuid"
  let handle ← Checked.required r.logicalHandle (conflictError errorCode "Generation state is missing logical_handle")
  let digest ← generationStateText r.contentDigest errorCode "content_digest"
  let size ← generationSize r.sizeBytes errorCode "Generation artifact has an invalid declared size"
  let data ← w.readVerified K c.team handle
  Checked.failIf ((K.byteSize data : Int) != size || K.sha256 data != digest)
    (conflictError errorCode "Generation artifact bytes no longer match their frozen receipt")
  let decoded ← Checked.required (K.loads data)
    (conflictError errorCode "Generation artifact is not deterministic JSON")
  Checked.failIf (!declaresUuid decoded artifactUuid)
    (conflictError errorCode "Generation artifact identity does not match its frozen receipt")
  return data

/-- The row of a member agrees with its receipt. -/
def memberRowMatches (row : GenerationArtifact) (c : ProcessCommand) (handle : ObjectHandle) (digest : Text)
    (size : Int) : Bool :=
  row.logicalHandle == handle && row.contentDigest == digest && row.sizeBytes == size && row.fullValid &&
    row.execution == c.execution && row.task == c.task

/-- One member of `_assert_generation_members_tx`. -/
def assertGenerationMember (w : GenerationStore β) (c : ProcessCommand) (errorCode : String) (artifactType : ArtifactType)
    (r : MemberReceipt) : Except MkbError Unit := do
  let artifactUuid ← generationStateText r.artifactUuid errorCode "artifact_uuid"
  let handle ← Checked.required r.logicalHandle (conflictError errorCode "Generation state is missing logical_handle")
  let digest ← generationStateText r.contentDigest errorCode "content_digest"
  let size ← generationSize r.sizeBytes errorCode "Generation artifact size receipt is invalid"
  Checked.failIf (!(w.artifactOf c.team artifactUuid artifactType).any fun row =>
      memberRowMatches row c handle digest size)
    (conflictError errorCode "Generation artifact ledger no longer matches the frozen handoff")
  Checked.failIf (w.pointers c.team c.execution artifactType != some artifactUuid)
    (conflictError errorCode "Generation artifact is no longer the accepted current member")

/-! ### members of a stage -/

/-- A promoted member. -/
structure GenerationAsset where
  artifactUuid : Text
  artifactType : ArtifactType
  stat : ObjectStat
deriving DecidableEq

/-- What the stage state keeps of an asset. -/
def GenerationAsset.receipt (a : GenerationAsset) : MemberReceipt :=
  ⟨some a.artifactUuid, some a.stat.handle, some a.stat.sha256, some a.stat.sizeBytes⟩

/-- `_promote_generation_member`. -/
def promoteGenerationMember (w : GenerationStore β) (c : ProcessCommand) (artifactUuid : Text)
    (artifactType : ArtifactType) (payload : Json.Dict) : Except MkbError (GenerationAsset × GenerationStore β) := do
  Checked.failIf (!declaresUuid (.obj payload) artifactUuid)
    (schemaError "GENERATION_ARTIFACT_BINDING" "Generation payload identity does not match its ledger key")
  let promoted ← w.promote K c.team (K.canonicalJson (.obj payload))
  return (⟨artifactUuid, artifactType, promoted.1⟩, promoted.2)

end KnowledgeBase
