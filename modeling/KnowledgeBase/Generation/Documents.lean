import KnowledgeBase.Generation.Ledger
import KnowledgeBase.Lsrag.Construct

/-!
# Construction members

The payloads of the construction members and of the validation reports, the admission of a bound construction, and
the transports that fill the summaries of an accepted candidate.
-/

namespace KnowledgeBase

section Payloads

variable {β : Type} (J : JsonCodec β)

/-! ### payloads -/

def ConstructionUnit.payload (unit : ConstructionUnit) : Json :=
  .obj [("coordinate", .str unit.coordinate), ("granularity", .int unit.granularity), ("unit_id", .str unit.unitId)]

/-- `construction_payload`, by key. -/
def constructionPayload (document : ConstructionDocument) : Json.Dict :=
  [("generation_artifact_uuid", .str document.generationArtifact),
    ("metadata_projection_digest", .str document.metadataProjectionDigest),
    ("projection_digest", .str document.projectionDigest),
    ("projection_generation_artifact_uuid", .str document.projectionGenerationArtifact),
    ("proof_digest", .str document.proofDigest), ("recipe_version", .str document.contentFullRecipeVersion),
    ("schema_version", textJson "mkb.construction-document.v1"),
    ("structure_document_digest", .str document.structureDocumentDigest),
    ("structure_generation_artifact_uuid", .str document.structureGenerationArtifact),
    ("units", .arr (document.units.map ConstructionUnit.payload))]

def ConstructionUnit.dualPayload (unit : ConstructionUnit) : Json :=
  .obj [("granularity", .int unit.granularity), ("original", .str unit.original.body),
    ("original_digest", .str unit.original.bodyDigest), ("summary", .str unit.summary.body),
    ("summary_digest", .str unit.summary.bodyDigest), ("unit_id", .str unit.unitId)]

/-- `dual_channel_payload`, by key. -/
def dualChannelPayload (dual : DualChannelProjection) : Json.Dict :=
  [("generation_artifact_uuid", .str dual.generationArtifact), ("recipe_version", .str contentFullV1),
    ("schema_version", textJson "mkb.dual-channel-projection.v1"),
    ("units", .arr (dual.units.map ConstructionUnit.dualPayload))]

/-- `_structure_validation_report_payload`, by key. -/
def structureValidationReportPayload (artifactUuid : Text) (structure_ : StructureDocument)
    (projection : RetrievalBlockProjection) : Json.Dict :=
  let structureDigest := structureDocumentDigest J structure_
  let projectionValueDigest := projectionDigest J projection
  [("disposition", textJson "full_valid"), ("generation_artifact_uuid", .str artifactUuid),
    ("proof_digest", .str (J.stableDigest (.obj [("disposition", textJson "full_valid"),
      ("retrieval_block_projection_digest", .str projectionValueDigest),
      ("structure_document_digest", .str structureDigest)]))),
    ("retrieval_block_projection_digest", .str projectionValueDigest),
    ("retrieval_block_projection_generation_artifact_uuid", .str projection.generationArtifact),
    ("schema_version", textJson "mkb.structure-validation-report.v1"),
    ("structure_document_digest", .str structureDigest),
    ("structure_generation_artifact_uuid", .str structure_.generationArtifact)]

/-- `_construction_validation_report_payload`, by key. -/
def constructionValidationReportPayload (artifactUuid : Text) (construction : ConstructionDocument)
    (dual : DualChannelProjection) : Json.Dict :=
  let constructionDigest := constructionDocumentDigest J construction
  [("construction_document_digest", .str constructionDigest),
    ("construction_generation_artifact_uuid", .str construction.generationArtifact),
    ("disposition", textJson "full_valid"),
    ("dual_channel_generation_artifact_uuid", .str dual.generationArtifact),
    ("dual_channel_proof_digest", .str dual.proofDigest), ("generation_artifact_uuid", .str artifactUuid),
    ("proof_digest", .str (J.stableDigest (.obj [("construction_document_digest", .str constructionDigest),
      ("disposition", textJson "full_valid"), ("dual_channel_generation_artifact_uuid", .str dual.generationArtifact),
      ("dual_channel_proof_digest", .str dual.proofDigest)]))),
    ("schema_version", textJson "mkb.construction-validation-report.v1")]

/-! ### admission -/

inductive ConstructMode
  | fullConstruct | metadataRefresh
deriving DecidableEq

def ConstructMode.name : ConstructMode → Text
  | .fullConstruct => "full_construct".toList
  | .metadataRefresh => "metadata_refresh".toList

/-- What a construction is bound to besides its identities. -/
structure ConstructInputs where
  structure_ : StructureDocument
  projection : RetrievalBlockProjection
  summaries : List (Text × Text)
  metadataHeaders : Option Headers
  requiredGranularities : List Int

/-- The checks of `bind_construct`. -/
def bindConstruct (mode : ConstructMode) (cleanText : Text) (inputs : ConstructInputs)
    (constructionUuid dualUuid : Text) : Except MkbError Unit := do
  Checked.failIf cleanText.isBlank
    (schemaError "CONSTRUCT_BINDING_CLEAN_DIGEST" "A construction requires non-empty clean text")
  Checked.failIf (constructionUuid.isEmpty || dualUuid.isEmpty)
    (schemaError "CONSTRUCT_BINDING_INVALID" "Construction generation identity is required")
  Checked.failIf (constructionUuid == dualUuid)
    (schemaError "CONSTRUCT_BINDING_INVALID" "Construction and dual-channel artifact identities must be distinct")
  Checked.failIf inputs.summaries.isEmpty
    (summaryIncomplete "Every non-empty original projection block needs a grounded summary")
  Checked.failIf (mode == .fullConstruct && inputs.metadataHeaders.isSome)
    (conflictError "CONSTRUCT_MODE_INVALID" "full_construct does not take metadata headers")

/-- `admit` of a bound construction: a summary is the last one under its block. -/
def admitConstruct (mode : ConstructMode) (cleanText : Text) (inputs : ConstructInputs)
    (constructionUuid dualUuid : Text) : Except MkbError (ConstructionDocument × DualChannelProjection) := do
  bindConstruct mode cleanText inputs constructionUuid dualUuid
  construct J inputs.structure_ inputs.projection cleanText (lookupLast inputs.summaries)
    ⟨constructionUuid, some dualUuid, inputs.metadataHeaders.getD [], contentFullV1, some inputs.requiredGranularities⟩

end Payloads

/-! ### summaries -/

/-- `deterministic_summaries` within 480 characters. -/
def deterministicSummaries (projection : RetrievalBlockProjection) : List (Text × Text) :=
  projection.blocks.map fun block =>
    (block.blockId, if block.originalText.length ≤ 480 then block.originalText
      else Text.rstrip (block.originalText.take 479) ++ ['…'])

/-- A block of a worker, whose original channel may be missing. -/
structure WorkerBlock where
  blockId : Nat
  granularity : Nat
  originalContent : Option LayeredChannel
  llmSummary : LayeredChannel
deriving DecidableEq

/-- A package that a worker returns. -/
structure WorkerPackage where
  contextMeta : Option LayeredMeta
  date : Option LayeredDate
  knowledgeTree : Option KnowledgeTree
  blocks : List WorkerBlock
deriving DecidableEq

/-- The block with the original channel of the accepted block under its key. -/
def realignBlock (accepted : LayeredContent) (block : WorkerBlock) : Except MkbError LayeredBlock := do
  let acceptedBlock := lookupLast (accepted.blocks.map fun b => (b.key, b)) (block.granularity, block.blockId)
  let original ← Checked.required ((acceptedBlock.map LayeredBlock.originalContent).or block.originalContent)
    (schemaError "STRUCTURE_SCHEMA_INVALID" "layered_content block is invalid")
  return ⟨block.blockId, block.granularity, original, block.llmSummary⟩

/-- `realign_construct_original`; what is then not of the wire shape is refused. -/
def realignConstructOriginal (accepted : LayeredContent) (completed : WorkerPackage) :
    Except MkbError LayeredContent := do
  let blocks ← Checked.mapEach completed.blocks (realignBlock accepted)
  return ⟨completed.contextMeta.getD accepted.contextMeta, completed.date.or accepted.date,
    completed.knowledgeTree.or accepted.knowledgeTree, blocks⟩

/-- The facts a salvage depends on. -/
structure SalvageGate where
  cliWired : Bool
  dispatchPoolLocal : Bool
  lowPriority : Bool
  quota : Bool
deriving DecidableEq

/-- The workers at hand: none, Claude, or the local inference with what Claude would return after it failed. -/
inductive SummaryTransport
  | deterministic
  | claudeCli (returned : Except MkbError WorkerPackage)
  | localInference (returned : Except MkbError WorkerPackage) (gate : SalvageGate)
      (salvaged : Except MkbError WorkerPackage)

/-- `_API_INFERENCE_SALVAGE_CODES`. -/
def salvageCodes : List String :=
  ["INFERENCE_VALIDATION_RESPONSE", "INFERENCE_VALIDATION_STRUCTURED", "INFERENCE_VALIDATION_REMOTE",
    "INFERENCE_TRANSPORT_RETRYABLE", "INFERENCE_TRANSPORT_EXHAUSTED", "INFERENCE_INTERNAL_UNEXPECTED",
    "GENERATION_INFERENCE_FAILED", "CONSTRUCT_KERNEL_SUMMARY_INVALID", "CONSTRUCT_KERNEL_SUMMARY_INCOMPLETE",
    "CONSTRUCT_KERNEL_ALIGNMENT_INVALID", "CONSTRUCT_KERNEL_ORIGINAL_MUTATION", "STRUCTURE_SUMMARY_INVALID",
    "STRUCTURE_SCHEMA_INVALID"]

/-- `_can_salvage_local_inference`. -/
def canSalvageLocalInference (error : MkbError) (gate : SalvageGate) : Bool :=
  salvageCodes.contains error.code && gate.cliWired && gate.dispatchPoolLocal && !gate.lowPriority && gate.quota

section Summaries

variable {β : Type} (P : Platform β)

/-- A package of a worker, realigned, with the summaries it maps to. -/
def mapWorkerPackage (projection : RetrievalBlockProjection) (accepted : LayeredContent)
    (returned : Except MkbError WorkerPackage) : Except MkbError (LayeredContent × List (Text × Text)) := do
  let package ← returned
  let completed ← realignConstructOriginal accepted package
  let summaries ← layeredSummaryMap P completed projection (some accepted)
  return (completed, summaries)

/-- `_complete_construct_summaries`: the completed package and its summaries. -/
def completeConstructSummaries (projection : RetrievalBlockProjection) (accepted : LayeredContent) :
    SummaryTransport → Except MkbError (LayeredContent × List (Text × Text))
  | .claudeCli returned => mapWorkerPackage P projection accepted returned
  | .deterministic => do
    let completed ← fillLayeredSummaries P accepted projection (lookupLast (deterministicSummaries projection))
    return (completed, deterministicSummaries projection)
  | .localInference returned gate salvaged =>
    match mapWorkerPackage P projection accepted returned with
    | .ok done => .ok done
    | .error error =>
      if canSalvageLocalInference error gate then mapWorkerPackage P projection accepted salvaged else .error error

end Summaries

end KnowledgeBase
