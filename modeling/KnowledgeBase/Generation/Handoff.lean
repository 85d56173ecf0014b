import KnowledgeBase.Generation.Construct

/-!
# The construct to vectorize handoff

The construct stage with its outcome transaction, and the re-proof that the vectorize stage makes of it from the stage
state and the stored bytes.
-/

namespace KnowledgeBase

/-! ### the context of a revision -/

/-- The line boundaries of `str.splitlines`. -/
def Text.isLineBreak (ch : Char) : Bool := [10, 11, 12, 13, 28, 29, 30, 133, 8232, 8233].contains ch.toNat

/-- `str.splitlines`, after the line read so far. -/
def Text.splitLinesFrom (line : Text) : Text → List Text
  | [] => if line.isEmpty then [] else [line]
  | '\r' :: '\n' :: t => line :: splitLinesFrom [] t
  | ch :: t => if isLineBreak ch then line :: splitLinesFrom [] t else splitLinesFrom (line ++ [ch]) t

structure RevisionContext where
  realm : Text
  type : Text
  channel : Text
  sourceName : Text
  tags : List Text
deriving DecidableEq

/-- The context of the projected structure, by key. -/
def RevisionContext.projected (r : RevisionContext) : Json.Dict :=
  [("channel", .str r.channel), ("realm", .str r.realm), ("source_name", .str r.sourceName),
    ("tags", .arr (r.tags.map .str)), ("type", .str r.type)]

def semanticsIncomplete (message : String) : MkbError := schemaError "STRUCTURE_CONTEXT_SEMANTICS_INCOMPLETE" message

def semanticKeys : List String := ["realm", "type", "channel", "source_name", "is_active", "context_tags"]

/-- The last row under a key. -/
def semanticRow (rows : List RevisionSemantic) (key : String) : Option RevisionSemantic :=
  rows.reverse.find? fun row => row.semanticKey == key.toList

/-- A semantic text that is not empty. -/
def semanticText (rows : List RevisionSemantic) (key : String) : Except MkbError Text :=
  Checked.required ((semanticRow rows key).bind fun row =>
      if row.valueKind = "text".toList then row.valueText.filter fun t => !t.isEmpty else none)
    (semanticsIncomplete "S04 semantic text is invalid")

/-- An identity drawn by `uuid7`. -/
abbrev FreshUuid := { t : Text // t.isEmpty = false }

/-- The identities a construct stage draws; the last three are drawn by a metadata refresh only. -/
structure ConstructUuids where
  construction : FreshUuid
  dual : FreshUuid
  validation : FreshUuid
  structure_ : FreshUuid
  projection : FreshUuid
  structureValidation : FreshUuid

section Stage

variable {β : Type} [DecidableEq β] (K : GenerationPlatform β) (w : GenerationStore β) (c : ProcessCommand)
  (s : ConstructState)

/-- `_revision_context_semantics`. -/
def revisionContextSemantics : Except MkbError RevisionContext := do
  let revision ← Checked.required s.intakeRevision (semanticsIncomplete "Intake revision is unavailable")
  let rows := w.semantics c.team revision
  Checked.failIf (semanticKeys.any fun key => (semanticRow rows key).isNone)
    (semanticsIncomplete "S04 semantic six-tuple is unavailable")
  let realm ← semanticText rows "realm"
  let type_ ← semanticText rows "type"
  let channel ← semanticText rows "channel"
  let sourceName ← semanticText rows "source_name"
  Checked.failIf (!(semanticRow rows "is_active").any fun row =>
      row.valueKind == "int".toList && (row.valueInt == some 0 || row.valueInt == some 1))
    (semanticsIncomplete "S04 active semantic is invalid")
  let tags ← Checked.required ((semanticRow rows "context_tags").bind fun row =>
      if row.valueKind = "text".toList then row.valueText else none)
    (semanticsIncomplete "S04 context tags are invalid")
  return ⟨realm, type_, channel, sourceName, Text.splitLinesFrom [] tags⟩

/-! ### the construct stage -/

/-- The inputs of a metadata refresh: the source family under new identities and the context of the revision. -/
def refreshInputs (uuids : ConstructUuids) : Except MkbError ConstructInputs := do
  let contract ← reconstructMetadataRefreshContract K w c s
  let context ← revisionContextSemantics w c s
  let structure_ : StructureDocument :=
    { contract.structure_ with
      generationArtifact := uuids.structure_
      contextMeta := context.projected }
  let projection : RetrievalBlockProjection :=
    { contract.projection with
      generationArtifact := uuids.projection
      structureGenerationArtifact := uuids.structure_
      structureDocumentDigest := structureDocumentDigest K.toJsonCodec structure_ }
  return ⟨structure_, projection, contract.summaries, some contract.headers, projection.granularities⟩

/-- The inputs of a full construction, with the completed package. -/
def fullInputs (transport : SummaryTransport) : Except MkbError (ConstructInputs × LayeredContent) := do
  let documents ← reconstructStructureContract K w c s
  let accepted ← Checked.required s.layeredContentCandidate
    (conflictError "CONSTRUCT_BINDING_CANDIDATE_MISSING" "Accepted layered JSON candidate is unavailable")
  let profile ← s.layeredProfile "CONSTRUCT_BINDING_PROFILE_INVALID"
  let completed ← completeConstructSummaries K.toPlatform documents.2 accepted transport
  -- a full construction takes no headers, so its title is not used
  return (⟨documents.1, documents.2, completed.2, none, profile⟩, completed.1)

/-- The inputs of the mode, with the completed package of a full construction. -/
def stageInputs (mode : ConstructMode) (transport : SummaryTransport) (uuids : ConstructUuids) :
    Except MkbError (ConstructInputs × Option LayeredContent) :=
  match mode with
  | .metadataRefresh => (refreshInputs K w c s uuids).map fun inputs => (inputs, none)
  | .fullConstruct => (fullInputs K w c s transport).map fun inputs => (inputs.1, some inputs.2)

/-- The members of a construction, in the order in which they are promoted. -/
def constructionMembers (uuids : ConstructUuids) (construction : ConstructionDocument) (dual : DualChannelProjection) :
    List (Text × ArtifactType × Json.Dict) :=
  [(uuids.construction, .constructionDocument, constructionPayload construction),
    (uuids.dual, .dualChannelProjection, dualChannelPayload dual),
    (uuids.validation, .constructionValidationReport,
      constructionValidationReportPayload K.toJsonCodec uuids.validation construction dual)]

/-- The structure members of a metadata refresh. -/
def refreshedMembers (uuids : ConstructUuids) (inputs : ConstructInputs) : List (Text × ArtifactType × Json.Dict) :=
  [(inputs.structure_.generationArtifact, .structureDocument, structurePayload inputs.structure_),
    (inputs.projection.generationArtifact, .retrievalBlockProjection, retrievalProjectionPayload inputs.projection),
    (uuids.structureValidation, .structureValidationReport,
      structureValidationReportPayload K.toJsonCodec uuids.structureValidation inputs.structure_ inputs.projection)]

/-- The members promoted one after the other. -/
def promoteMembers : GenerationStore β → List (Text × ArtifactType × Json.Dict) →
    Except MkbError (List GenerationAsset × GenerationStore β)
  | w, [] => .ok ([], w)
  | w, member :: members => do
    let promoted ← promoteGenerationMember K w c member.1 member.2.1 member.2.2
    let rest ← promoteMembers promoted.2 members
    return (promoted.1 :: rest.1, rest.2)

/-- The receipts with those of the assets. -/
def withReceipts (receipts : ArtifactType → MemberReceipt) (assets : List GenerationAsset) (t : ArtifactType) :
    MemberReceipt :=
  match assets.find? fun a => a.artifactType == t with
  | some a => a.receipt
  | none => receipts t

/-- The state the stage hands on. -/
def constructedState (mode : ConstructMode) (inputs : ConstructInputs) (completed : Option LayeredContent)
    (construction : ConstructionDocument) (assets : List GenerationAsset) : ConstructState :=
  { s with
    constructMode := some mode.name
    receipts := withReceipts s.receipts assets
    constructionDocumentDigest := some (constructionDocumentDigest K.toJsonCodec construction)
    structureDocumentDigest :=
      if mode = .metadataRefresh then some (structureDocumentDigest K.toJsonCodec inputs.structure_)
      else s.structureDocumentDigest
    projectionDigest :=
      if mode = .metadataRefresh then some (projectionDigest K.toJsonCodec inputs.projection) else s.projectionDigest
    layeredContentConstructed := completed.or s.layeredContentConstructed }

/-- The ledger row of an asset. -/
def assetRow (a : GenerationAsset) : GenerationArtifact where
  team := c.team
  artifactType := a.artifactType
  task := c.task
  execution := c.execution
  intakeItem := s.intakeItem
  intakeRevision := s.intakeRevision
  cleanArtifact := s.cleanArtifact
  cleanArtifactDigest := s.cleanDigest
  logicalHandle := a.stat.handle
  contentDigest := a.stat.sha256
  sizeBytes := a.stat.sizeBytes
  fullValid := true

/-- The outcome transaction: a row for every asset, then the pointers. -/
def acceptAssets (assets : List GenerationAsset) : Except MkbError (GenerationStore β) := do
  let entered ← Checked.foldEach
    (fun w a => GenerationStore.insertGenerationArtifact w a.artifactUuid (assetRow c s a)) w assets
  return assets.foldl (fun w a => w.advanceGenerationPointer c a.artifactType a.artifactUuid) entered

/-- What an accepted construct stage leaves. -/
structure ConstructOutcome (β : Type) where
  mode : ConstructMode
  state : ConstructState
  store : GenerationStore β
  inputs : ConstructInputs
  construction : ConstructionDocument
  dual : DualChannelProjection

/-- `_construct`, with its outcome transaction. -/
def constructStage (transport : SummaryTransport) (uuids : ConstructUuids) : Except MkbError (ConstructOutcome β) := do
  let mode ← s.mode
  let inputs ← stageInputs K w c s mode transport uuids
  let clean ← generationCleanText K s "CONSTRUCT_BINDING_CLEAN_DIGEST"
  let documents ← admitConstruct K.toJsonCodec mode clean inputs.1 uuids.construction uuids.dual
  let constructed ← promoteMembers K c w (constructionMembers K uuids documents.1 documents.2)
  let refreshed ← promoteMembers K c constructed.2
    (if mode = .metadataRefresh then refreshedMembers K uuids inputs.1 else [])
  let assets := refreshed.1 ++ constructed.1
  let store ← acceptAssets refreshed.2 c s assets
  return ⟨mode, constructedState K s mode inputs.1 inputs.2 documents.1 assets, store, inputs.1, documents.1,
    documents.2⟩

/-! ### the re-proof -/

/-- The inputs of a metadata refresh re-derived from the source and the stored structure members. -/
def reproveRefreshInputs : Except MkbError ConstructInputs := do
  let contract ← reconstructMetadataRefreshContract K w c s
  let structureData ← readFrozenGenerationAsset K w c (s.receipts .structureDocument) "CONSTRUCT_TO_VECTORIZE_GATE"
  let projectionData ← readFrozenGenerationAsset K w c (s.receipts .retrievalBlockProjection)
    "CONSTRUCT_TO_VECTORIZE_GATE"
  let clean ← generationCleanText K s "CONSTRUCT_TO_VECTORIZE_GATE"
  let documents ← reproveStructureFromStoredPayloads K.toJsonCodec clean structureData projectionData
    "METADATA_REFRESH_SOURCE_INVALID"
  let validationData ← readFrozenGenerationAsset K w c (s.receipts .structureValidationReport)
    "CONSTRUCT_TO_VECTORIZE_GATE"
  Checked.failIf (decide (validationData ≠ K.canonicalJson (.obj (structureValidationReportPayload K.toJsonCodec
      ((s.receipts .structureValidationReport).artifactUuid.getD []) documents.1 documents.2))))
    (conflictError "CONSTRUCT_TO_VECTORIZE_GATE" "Projected structure validation is inconsistent")
  assertGenerationMembers w c s structureGenerationMembers "CONSTRUCT_TO_VECTORIZE_GATE"
  return ⟨documents.1, documents.2, contract.summaries, some contract.headers, documents.2.granularities⟩

/-- The inputs of a full construction re-derived from the candidate and the completed package. -/
def reproveFullInputs : Except MkbError ConstructInputs := do
  let documents ← reconstructStructureContract K w c s
  let accepted ← Checked.required s.layeredContentCandidate
    (conflictError "CONSTRUCT_TO_VECTORIZE_GATE" "Accepted layered JSON candidate is unavailable")
  let completed ← Checked.required s.layeredContentConstructed
    (conflictError "CONSTRUCT_TO_VECTORIZE_GATE" "Completed layered summary package is unavailable")
  let summaries ← layeredSummaryMap K.toPlatform completed documents.2 (some accepted)
  let profile ← s.layeredProfile "CONSTRUCT_TO_VECTORIZE_GATE"
  return ⟨documents.1, documents.2, summaries, none, profile⟩

def reproveInputs (mode : ConstructMode) : Except MkbError ConstructInputs :=
  match mode with
  | .metadataRefresh => reproveRefreshInputs K w c s
  | .fullConstruct => reproveFullInputs K w c s

/-- `_reconstruct_construct_contract`, with the inputs it re-derives. -/
def reconstructConstructContract :
    Except MkbError (ConstructInputs × ConstructionDocument × DualChannelProjection) := do
  let mode ← s.mode
  let inputs ← reproveInputs K w c s mode
  let constructionUuid ← generationStateText (s.receipts .constructionDocument).artifactUuid
    "CONSTRUCT_TO_VECTORIZE_GATE" "construction_artifact_uuid"
  let dualUuid ← generationStateText (s.receipts .dualChannelProjection).artifactUuid
    "CONSTRUCT_TO_VECTORIZE_GATE" "dual_channel_artifact_uuid"
  let clean ← generationCleanText K s "CONSTRUCT_TO_VECTORIZE_GATE"
  let documents ← admitConstruct K.toJsonCodec mode clean inputs constructionUuid dualUuid
  let constructionData ← readFrozenGenerationAsset K w c (s.receipts .constructionDocument)
    "CONSTRUCT_TO_VECTORIZE_GATE"
  let dualData ← readFrozenGenerationAsset K w c (s.receipts .dualChannelProjection) "CONSTRUCT_TO_VECTORIZE_GATE"
  Checked.failIf (decide (constructionData ≠ K.canonicalJson (.obj (constructionPayload documents.1)) ∨
      dualData ≠ K.canonicalJson (.obj (dualChannelPayload documents.2))))
    (conflictError "CONSTRUCT_TO_VECTORIZE_GATE" "Construct bytes do not match the exact full-valid generation")
  Checked.failIf (s.constructionDocumentDigest.any fun d =>
      d != constructionDocumentDigest K.toJsonCodec documents.1)
    (conflictError "CONSTRUCT_TO_VECTORIZE_GATE" "Construction semantic digest does not match the frozen handoff")
  return (inputs, documents)

end Stage

end KnowledgeBase
