import KnowledgeBase.Generation.Documents

/-!
# The construct stage

`_construct` builds the construction of an Execution from its stage state, promotes the members, enters them in the
ledger and leaves their receipts in the state. `_reconstruct_construct_contract` re-derives the construction from
that state and the stored bytes, and the member gate rechecks the current members.
-/

namespace KnowledgeBase

/-! ### stage state -/

structure RefreshTarget where
  intakeItem : Option Text
  intakeRevision : Option Text
  cleanArtifact : Option (Option Text × Option Text)
deriving DecidableEq

/-- The value digests of the merged metadata semantics. -/
structure MergedSemantics where
  contextMetadata : Option Text
  filterMetadata : Option Text
deriving DecidableEq

structure MetadataRefreshSource where
  schemaVersion : Option Text
  sourceExecution : Option Text
  sourceTask : Option Text
  sourceIntakeRevision : Option Text
  sourceCleanArtifact : Option Text
  sourceCleanDigest : Option Text
  sourceCleanContentDigest : Option Text
  sourceConstruction : Option Text
  members : ArtifactType → Option MemberReceipt

/-- The stage state, as far as the construct and vectorize stages read it; `receipts` are the four keys of each
member. -/
structure ConstructState where
  cleanText : Option Text
  cleanDigest : Option Text
  cleanArtifact : Option Text
  intakeItem : Option Text
  intakeRevision : Option Text
  constructMode : Option Text
  layeredContentCandidate : Option LayeredContent
  layeredContentConstructed : Option LayeredContent
  layeredContentProfile : Option (List Int)
  granularitySet : Option (List Int)
  promptGranularitySet : Option (List Int)
  receipts : ArtifactType → MemberReceipt
  structureDocumentDigest : Option Text
  projectionDigest : Option Text
  constructionDocumentDigest : Option Text
  metadataRefreshMode : Option Text
  metadataFingerprint : Option Text
  metadataMergedSemantics : Option MergedSemantics
  metadataRefreshHeaders : Option Headers
  metadataRefreshSource : Option MetadataRefreshSource
  frozenTarget : Option RefreshTarget

namespace ConstructState

/-- `_construct_mode`. -/
def mode (s : ConstructState) : Except MkbError ConstructMode :=
  match s.constructMode with
  | none => .ok .fullConstruct
  | some t =>
    if t = ConstructMode.fullConstruct.name then .ok .fullConstruct
    else if t = ConstructMode.metadataRefresh.name then .ok .metadataRefresh
    else .error (conflictError "CONSTRUCT_MODE_INVALID" "Construction mode is not registered")

/-- `_layered_profile`. -/
def layeredProfile (s : ConstructState) (errorCode : String) : Except MkbError (List Int) := do
  let raw ← Checked.required
    (((s.layeredContentProfile.or s.granularitySet).or s.promptGranularitySet).filter fun l => !l.isEmpty)
    (conflictError errorCode "Layered granularity profile is unavailable")
  let values := raw.dedup.insertionSort (· ≤ ·)
  Checked.failIf (values.any (fun g => !isGranularity g) || !values.contains 0)
    (conflictError errorCode "Layered granularity profile is invalid")
  return values

end ConstructState

/-- `_is_sha256_digest`. -/
def isSha256Digest (t : Text) : Bool := t.length == 64 && t.all Text.isLowerHex

/-- A value that is a SHA-256 digest. -/
def isSha256Value (v : Option Json) : Bool :=
  match v with
  | some (.str t) => isSha256Digest t
  | _ => false

def isText (v : Option Json) (t : Text) : Bool :=
  match v with
  | some (.str u) => u == t
  | _ => false

/-- `v == n` on decoded values: a truth value counts as 0 or 1, and a float is written with its fraction. -/
def isNumber (v : Option Json) (n : Int) : Bool :=
  match v with
  | some (.int m) => m == n
  | some (.bool b) => (if b then 1 else 0) == n
  | some (.float lexeme) => lexeme == (toString n).toList ++ ".0".toList
  | _ => false

section Stage

variable {β : Type} [DecidableEq β] (K : GenerationPlatform β) (w : GenerationStore β) (c : ProcessCommand)
  (s : ConstructState)

/-- `_generation_clean_text`. -/
def generationCleanText (errorCode : String) : Except MkbError Text := do
  let clean ← generationStateText s.cleanText errorCode "clean_text"
  let declared ← generationStateText s.cleanDigest errorCode "clean_digest"
  Checked.failIf (K.textDigest clean != declared)
    (conflictError errorCode "Selected clean text no longer matches its frozen digest")
  return clean

/-! ### the members of a generation -/

/-- `_structure_generation_members`. -/
def structureGenerationMembers : List ArtifactType :=
  [.structureDocument, .retrievalBlockProjection, .structureValidationReport]

/-- `_construction_output_members`. -/
def constructionOutputMembers : List ArtifactType :=
  [.constructionDocument, .dualChannelProjection, .constructionValidationReport]

/-- `_assert_generation_members`. -/
def assertGenerationMembers (members : List ArtifactType) (errorCode : String) : Except MkbError Unit :=
  Checked.checkEach members fun artifactType =>
    assertGenerationMember w c errorCode artifactType (s.receipts artifactType)

/-- `_assert_construct_to_vectorize_gate`. -/
def assertConstructToVectorizeGate : Except MkbError Unit := do
  let mode ← s.mode
  assertGenerationMembers w c s
    (if mode = .metadataRefresh then constructionOutputMembers
      else structureGenerationMembers ++ constructionOutputMembers) "CONSTRUCT_TO_VECTORIZE_GATE"

/-! ### the structure of a full construction -/

/-- `_reconstruct_structure_contract`. -/
def reconstructStructureContract : Except MkbError (StructureDocument × RetrievalBlockProjection) := do
  let clean ← generationCleanText K s "CONSTRUCT_BINDING_CLEAN_DIGEST"
  let cleanArtifact ← generationStateText s.cleanArtifact "CONSTRUCT_BINDING_CLEAN_ARTIFACT" "clean_artifact_uuid"
  let structureUuid ← generationStateText (s.receipts .structureDocument).artifactUuid
    "CONSTRUCT_BINDING_STRUCTURE_MISSING" "structure_artifact_uuid"
  let projectionUuid ← generationStateText (s.receipts .retrievalBlockProjection).artifactUuid
    "CONSTRUCT_BINDING_PROJECTION_MISSING" "retrieval_block_projection_artifact_uuid"
  let candidate ← Checked.required s.layeredContentCandidate
    (conflictError "CONSTRUCT_BINDING_CANDIDATE_MISSING" "Accepted layered JSON candidate is unavailable")
  let profile ← s.layeredProfile "CONSTRUCT_BINDING_PROFILE_INVALID"
  let documents ← adoptLayeredJson K.toPlatform clean candidate
    ⟨structureUuid, some projectionUuid, cleanArtifact, s.cleanDigest, some profile⟩
  let structureData ← readFrozenGenerationAsset K w c (s.receipts .structureDocument)
    "CONSTRUCT_BINDING_STRUCTURE_DIGEST"
  let projectionData ← readFrozenGenerationAsset K w c (s.receipts .retrievalBlockProjection)
    "CONSTRUCT_BINDING_PROJECTION_DIGEST"
  Checked.failIf (decide (structureData ≠ K.canonicalJson (.obj (structurePayload documents.1)) ∨
      projectionData ≠ K.canonicalJson (.obj (retrievalProjectionPayload documents.2))))
    (conflictError "CONSTRUCT_BINDING_DIGEST" "Structure/projection bytes do not match their generation-local contract")
  Checked.failIf ((s.structureDocumentDigest.any fun d => d != structureDocumentDigest K.toJsonCodec documents.1) ||
      s.projectionDigest.any fun d => d != projectionDigest K.toJsonCodec documents.2)
    (conflictError "CONSTRUCT_BINDING_DIGEST" "Structure/projection semantic digests do not match the frozen handoff")
  assertGenerationMembers w c s structureGenerationMembers "CONSTRUCT_BINDING_CURRENT"
  return documents

/-! ### the source of a metadata refresh -/

def refreshSourceError (message : String) : MkbError := conflictError "METADATA_REFRESH_SOURCE_INVALID" message

/-- `_METADATA_REFRESH_SOURCE_TYPES`. -/
def metadataRefreshSourceTypes : List ArtifactType := structureGenerationMembers ++ constructionOutputMembers

def isPresent (value : Option Text) : Bool := value.any fun t => !t.isEmpty

/-- A receipt of the frozen source is complete. -/
def sourceReceiptValid (receipt : Option MemberReceipt) : Bool :=
  receipt.any fun r => isPresent r.artifactUuid && r.logicalHandle.isSome && r.contentDigest.any isSha256Digest &&
    r.sizeBytes.any fun n => decide (0 ≤ n)

/-- `_metadata_refresh_source_state`. -/
def metadataRefreshSourceState : Except MkbError MetadataRefreshSource := do
  let source ← Checked.required s.metadataRefreshSource
    (refreshSourceError "Frozen metadata refresh source is unavailable")
  Checked.failIf (source.schemaVersion != some "mkb.metadata-refresh-source.v1".toList)
    (refreshSourceError "Frozen metadata refresh source is unavailable")
  Checked.failIf ([source.sourceExecution, source.sourceTask, source.sourceIntakeRevision, source.sourceCleanArtifact,
      source.sourceCleanDigest, source.sourceCleanContentDigest, source.sourceConstruction].any fun t => !isPresent t)
    (refreshSourceError "Frozen metadata refresh source is incomplete")
  Checked.failIf (metadataRefreshSourceTypes.any fun t => !sourceReceiptValid (source.members t))
    (refreshSourceError "Frozen generation receipt is invalid")
  Checked.failIf (source.sourceConstruction != (source.members .constructionDocument).bind MemberReceipt.artifactUuid)
    (refreshSourceError "Source construction identity is inconsistent")
  return source

/-- The row of a source member agrees with its receipt and with the source. -/
def sourceRowMatches (source : MetadataRefreshSource) (target : RefreshTarget) (r : MemberReceipt)
    (row : GenerationArtifact) : Bool :=
  some row.logicalHandle == r.logicalHandle && some row.contentDigest == r.contentDigest &&
    some row.sizeBytes == r.sizeBytes && row.fullValid && some row.execution == source.sourceExecution &&
    some row.task == source.sourceTask && row.intakeItem == target.intakeItem &&
    row.intakeRevision == source.sourceIntakeRevision && row.cleanArtifact == source.sourceCleanArtifact &&
    row.cleanArtifactDigest == source.sourceCleanDigest

/-- One member of `_assert_metadata_refresh_source`. -/
def assertSourceMember (source : MetadataRefreshSource) (target : RefreshTarget) (artifactType : ArtifactType) :
    Except MkbError Unit := do
  let receipt ← Checked.required (source.members artifactType)
    (refreshSourceError "Frozen metadata refresh family is incomplete")
  Checked.failIf (!(receipt.artifactUuid.bind fun u => w.artifactOf c.team u artifactType).any
      (sourceRowMatches source target receipt))
    (refreshSourceError "Source generation ledger no longer matches the frozen metadata refresh receipt")
  Checked.failIf ((source.sourceExecution.bind fun e => w.pointers c.team e artifactType) != receipt.artifactUuid)
    (refreshSourceError "Source generation member is no longer its accepted current artifact")

/-- `_assert_metadata_refresh_source`. -/
def assertMetadataRefreshSource : Except MkbError MetadataRefreshSource := do
  let source ← metadataRefreshSourceState s
  let target ← Checked.required s.frozenTarget (refreshSourceError "Metadata refresh target is unavailable")
  let clean ← Checked.required target.cleanArtifact (refreshSourceError "Metadata refresh target is unavailable")
  Checked.failIf (target.intakeRevision != source.sourceIntakeRevision || clean.1 != source.sourceCleanArtifact ||
      clean.2 != source.sourceCleanContentDigest || s.intakeItem != target.intakeItem ||
      s.cleanDigest != source.sourceCleanDigest)
    (refreshSourceError "Metadata refresh source does not bind the selected clean revision")
  Checked.checkEach metadataRefreshSourceTypes (assertSourceMember w c source target)
  return source

/-! ### the headers of a metadata refresh -/

def metadataProjectionError (message : String) : MkbError := conflictError "METADATA_PROJECTION_INVALID" message

/-- `_metadata_refresh_headers`, by key. -/
def metadataRefreshHeadersOf (merged : MergedSemantics) (fingerprint : Text) : Except MkbError Headers := do
  Checked.failIf (!isSha256Digest fingerprint) (metadataProjectionError "Metadata fingerprint is invalid")
  let context ← Checked.required (merged.contextMetadata.filter isSha256Digest)
    (metadataProjectionError "Metadata projection lacks a registered semantic digest")
  let filter ← Checked.required (merged.filterMetadata.filter isSha256Digest)
    (metadataProjectionError "Metadata projection lacks a registered semantic digest")
  return [("s04.context_metadata_digest".toList, context), ("s04.filter_metadata_digest".toList, filter),
    ("s04.metadata_fingerprint".toList, fingerprint)]

/-- `_metadata_refresh_headers_from_state`. -/
def metadataRefreshHeadersFromState : Except MkbError Headers := do
  let mode ← s.mode
  Checked.failIf (mode != .metadataRefresh)
    (conflictError "METADATA_REFRESH_MODE_INVALID" "Construction is not in metadata refresh mode")
  Checked.failIf (s.metadataRefreshMode != some "reuse_summaries".toList)
    (conflictError "METADATA_REFRESH_MODE_INVALID" "Metadata refresh summary behavior is not registered")
  let fingerprint ← Checked.required s.metadataFingerprint
    (metadataProjectionError "Metadata projection state is incomplete")
  let merged ← Checked.required s.metadataMergedSemantics
    (metadataProjectionError "Metadata projection state is incomplete")
  let declared ← Checked.required s.metadataRefreshHeaders
    (metadataProjectionError "Metadata projection state is incomplete")
  let expected ← metadataRefreshHeadersOf merged fingerprint
  Checked.failIf (declared != expected)
    (metadataProjectionError "Metadata projection does not match the accepted revision")
  return expected

/-! ### the frozen family -/

def sourceConstructionKeys : List String :=
  ["schema_version", "generation_artifact_uuid", "structure_generation_artifact_uuid",
    "projection_generation_artifact_uuid", "structure_document_digest", "projection_digest",
    "metadata_projection_digest", "recipe_version", "units", "proof_digest"]

/-- The frozen construction binds the source structure and projection. -/
def sourceConstructionBinds (structure_ : StructureDocument) (projection : RetrievalBlockProjection)
    (artifactUuid : Text) (members : Json.Dict) : Bool :=
  Json.hasKeys members sourceConstructionKeys &&
    isText (members.lookup "schema_version") "mkb.construction-document.v1".toList &&
    isText (members.lookup "generation_artifact_uuid") artifactUuid &&
    isText (members.lookup "structure_generation_artifact_uuid") structure_.generationArtifact &&
    isText (members.lookup "projection_generation_artifact_uuid") projection.generationArtifact &&
    isText (members.lookup "structure_document_digest") (structureDocumentDigest K.toJsonCodec structure_) &&
    isText (members.lookup "projection_digest") (projectionDigest K.toJsonCodec projection) &&
    isText (members.lookup "recipe_version") contentFullV1 &&
    isSha256Value (members.lookup "metadata_projection_digest") && isSha256Value (members.lookup "proof_digest")

/-- The frozen dual channel is of the strict shape. -/
def sourceDualBinds (artifactUuid : Text) (members : Json.Dict) : Bool :=
  Json.hasKeys members ["schema_version", "generation_artifact_uuid", "recipe_version", "units"] &&
    isText (members.lookup "schema_version") "mkb.dual-channel-projection.v1".toList &&
    isText (members.lookup "generation_artifact_uuid") artifactUuid &&
    isText (members.lookup "recipe_version") contentFullV1

def sourceValidationKeys : List String :=
  ["schema_version", "generation_artifact_uuid", "disposition", "construction_generation_artifact_uuid",
    "construction_document_digest", "dual_channel_generation_artifact_uuid", "dual_channel_proof_digest",
    "proof_digest"]

/-- The frozen validation report names the frozen construction and dual channel. -/
def sourceValidationBinds (reportUuid constructionUuid dualUuid : Text) (members : Json.Dict) : Bool :=
  Json.hasKeys members sourceValidationKeys &&
    isText (members.lookup "schema_version") "mkb.construction-validation-report.v1".toList &&
    isText (members.lookup "generation_artifact_uuid") reportUuid &&
    isText (members.lookup "disposition") "full_valid".toList &&
    isText (members.lookup "construction_generation_artifact_uuid") constructionUuid &&
    isText (members.lookup "dual_channel_generation_artifact_uuid") dualUuid &&
    ["construction_document_digest", "dual_channel_proof_digest", "proof_digest"].all fun key =>
      isSha256Value (members.lookup key)

def dualUnitKeys : List String := ["unit_id", "granularity", "original", "summary", "original_digest", "summary_digest"]

/-- The units of one block agree with it. -/
def sourceUnitsAlign (structure_ : StructureDocument) (projection : RetrievalBlockProjection) (block : RetrievalBlock)
    (constructionUnit dualUnit : Json.Dict) : Bool :=
  Json.hasKeys constructionUnit ["unit_id", "granularity", "coordinate"] &&
    isText (constructionUnit.lookup "unit_id") block.blockId &&
    isNumber (constructionUnit.lookup "granularity") block.granularity &&
    isText (constructionUnit.lookup "coordinate") (unitCoordinate structure_ projection block.blockId) &&
    Json.hasKeys dualUnit dualUnitKeys && isText (dualUnit.lookup "unit_id") block.blockId &&
    isNumber (dualUnit.lookup "granularity") block.granularity &&
    isText (dualUnit.lookup "original") block.originalText &&
    isText (dualUnit.lookup "original_digest") block.originalDigest

/-- The summary of one block, from its units. -/
def sourceSummary (structure_ : StructureDocument) (projection : RetrievalBlockProjection)
    (entry : RetrievalBlock × Json × Json) : Except MkbError (Text × Text) :=
  match entry with
  | (block, .obj constructionUnit, .obj dualUnit) =>
    match dualUnit.lookup "summary" with
    | some (.str summary) => do
      Checked.failIf (!sourceUnitsAlign structure_ projection block constructionUnit dualUnit || summary.isBlank ||
          !isText (dualUnit.lookup "summary_digest") (K.textDigest summary))
        (refreshSourceError "Frozen source dual-channel summaries do not align to the source projection")
      return (block.blockId, summary)
    | _ => .error (refreshSourceError "Frozen source dual-channel summaries do not align to the source projection")
  | _ => .error (refreshSourceError "Frozen source dual-channel summaries do not align to the source projection")

/-- A frozen member of the source, decoded. -/
def decodeSourceMember (data : β) : Except MkbError Json :=
  Checked.required (K.loads data) (refreshSourceError "Frozen source construction family is not deterministic JSON")

/-- The members of a decoded dictionary. -/
def sourceMembers (v : Json) (message : String) : Except MkbError Json.Dict :=
  match v with
  | .obj members => .ok members
  | _ => .error (refreshSourceError message)

def unitsOf (members : Json.Dict) (message : String) : Except MkbError (List Json) :=
  match members.lookup "units" with
  | some (.arr units) => .ok units
  | _ => .error (refreshSourceError message)

/-- The receipt and the bytes of a source member. -/
def readMetadataRefreshMember (source : MetadataRefreshSource) (artifactType : ArtifactType) :
    Except MkbError (Text × β) := do
  let receipt ← Checked.required (source.members artifactType)
    (refreshSourceError "Frozen metadata refresh family is incomplete")
  let data ← readFrozenGenerationAsset K w c receipt "METADATA_REFRESH_SOURCE_INVALID"
  return (receipt.artifactUuid.getD [], data)

/-- What a metadata refresh takes from its source. -/
structure MetadataRefreshContract where
  structure_ : StructureDocument
  projection : RetrievalBlockProjection
  summaries : List (Text × Text)
  headers : Headers

/-- `_reconstruct_metadata_refresh_contract`. -/
def reconstructMetadataRefreshContract : Except MkbError MetadataRefreshContract := do
  let source ← assertMetadataRefreshSource w c s
  let headers ← metadataRefreshHeadersFromState s
  let clean ← generationCleanText K s "METADATA_REFRESH_SOURCE_INVALID"
  let structureMember ← readMetadataRefreshMember K w c source .structureDocument
  let projectionMember ← readMetadataRefreshMember K w c source .retrievalBlockProjection
  let documents ← reproveStructureFromStoredPayloads K.toJsonCodec clean structureMember.2 projectionMember.2
    "METADATA_REFRESH_SOURCE_INVALID"
  let structureValidation ← readMetadataRefreshMember K w c source .structureValidationReport
  Checked.failIf (decide (structureValidation.2 ≠ K.canonicalJson (.obj (structureValidationReportPayload
      K.toJsonCodec structureValidation.1 documents.1 documents.2))))
    (refreshSourceError "Frozen source structure validation report is inconsistent")
  let constructionMember ← readMetadataRefreshMember K w c source .constructionDocument
  let dualMember ← readMetadataRefreshMember K w c source .dualChannelProjection
  let validationMember ← readMetadataRefreshMember K w c source .constructionValidationReport
  let constructionValue ← decodeSourceMember K constructionMember.2
  let dualValue ← decodeSourceMember K dualMember.2
  let validationValue ← decodeSourceMember K validationMember.2
  let construction ← sourceMembers constructionValue "Frozen source construction payload is invalid"
  let dual ← sourceMembers dualValue "Frozen source construction payload is invalid"
  let constructionUnits ← unitsOf construction "Frozen source construction binding is invalid"
  Checked.failIf (!sourceConstructionBinds K documents.1 documents.2 constructionMember.1 construction)
    (refreshSourceError "Frozen source construction binding is invalid")
  let dualUnits ← unitsOf dual "Frozen source dual-channel family is incomplete"
  Checked.failIf (!sourceDualBinds dualMember.1 dual || constructionUnits.length != documents.2.blocks.length ||
      dualUnits.length != documents.2.blocks.length)
    (refreshSourceError "Frozen source dual-channel family is incomplete")
  let summaries ← Checked.mapEach (documents.2.blocks.zip (constructionUnits.zip dualUnits))
    (sourceSummary K documents.1 documents.2)
  let validation ← sourceMembers validationValue "Frozen source construction validation report is inconsistent"
  Checked.failIf (!sourceValidationBinds validationMember.1 constructionMember.1 dualMember.1 validation)
    (refreshSourceError "Frozen source construction validation report is inconsistent")
  return ⟨documents.1, documents.2, summaries, headers⟩

end Stage

end KnowledgeBase
