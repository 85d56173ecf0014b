import KnowledgeBase.Lsrag.Adopt

/-!
# Construction

`construct` builds the two channels of every adopted block, `vectorization_plan` recomputes their texts and plans
the vectors, and `reprove_structure_from_stored_payloads` reads the stored members back.
-/

namespace KnowledgeBase

variable {β : Type} (J : JsonCodec β)

/-- What a construction is called with besides the adopted documents, the clean text and the summaries. -/
structure ConstructArguments where
  constructionArtifact : Text
  dualArtifact : Option Text
  headers : Headers
  recipeVersion : Text
  requiredGranularities : Option (List Int)
deriving DecidableEq

/-- `dual_channel_generation_artifact_uuid or f"{construction_generation_artifact_uuid}:dual"`. -/
def ConstructArguments.dual (a : ConstructArguments) : Text :=
  if (a.dualArtifact.getD []).isEmpty then a.constructionArtifact ++ ":dual".toList else a.dualArtifact.getD []

/-- `required_granularities or frozenset(block.granularity for block in projection.blocks)`. -/
def ConstructArguments.granularities (a : ConstructArguments) (projection : RetrievalBlockProjection) : List Int :=
  if (a.requiredGranularities.getD []).isEmpty then projection.granularities else a.requiredGranularities.getD []

def unitCoordinate (structure_ : StructureDocument) (projection : RetrievalBlockProjection) (blockId : Text) : Text :=
  structure_.generationArtifact ++ [':'] ++ projection.generationArtifact ++ [':'] ++ blockId

/-- The unit of one block. -/
def constructUnit (structure_ : StructureDocument) (projection : RetrievalBlockProjection)
    (summaries : Text → Option Text) (a : ConstructArguments) (block : RetrievalBlock) :
    Except MkbError ConstructionUnit := do
  let summary ← Checked.required (summaries block.blockId)
    (summaryIncomplete "Every non-empty original projection block needs a grounded summary")
  Checked.failIf summary.isBlank
    (summaryIncomplete "Every non-empty original projection block needs a grounded summary")
  let coordinate := unitCoordinate structure_ projection block.blockId
  let originalFull ← contentFull block.originalText a.headers a.recipeVersion
  let summaryFull ← contentFull summary a.headers a.recipeVersion
  return {
    unitId := block.blockId
    granularity := block.granularity
    coordinate := coordinate
    original := ⟨.original, block.originalText, block.originalDigest, originalFull, J.textDigest originalFull,
      coordinate, if block.granularity = 0 then .nativeFull else .reattached⟩
    summary := ⟨.summary, summary, J.textDigest summary, summaryFull, J.textDigest summaryFull, coordinate,
      .notApplicable⟩ }

def headersJson (headers : Headers) : Json := .obj (headers.map fun h => (String.ofList h.1, .str h.2))

/-- The construction document of the units. -/
def constructionDocument (structure_ : StructureDocument) (projection : RetrievalBlockProjection)
    (a : ConstructArguments) (units : List ConstructionUnit) : ConstructionDocument where
  generationArtifact := a.constructionArtifact
  structureGenerationArtifact := structure_.generationArtifact
  projectionGenerationArtifact := projection.generationArtifact
  structureDocumentDigest := structureDocumentDigest J structure_
  projectionDigest := projectionDigest J projection
  units := units
  metadataProjectionDigest := J.stableDigest (headersJson a.headers)
  contentFullRecipeVersion := a.recipeVersion
  proofDigest := J.stableDigest (.obj [
    ("alignment", .arr (units.map fun unit => .arr [.str unit.unitId, .str unit.coordinate])),
    ("full_valid", .bool true), ("g0", .bool true)])

/-- The dual-channel projection of a construction document. -/
def dualProjection (a : ConstructArguments) (document : ConstructionDocument) : DualChannelProjection where
  generationArtifact := a.dual
  constructionGenerationArtifact := a.constructionArtifact
  constructionDocumentDigest := constructionDocumentDigest J document
  units := document.units
  proofDigest := J.stableDigest (.obj [("units", .arr (document.units.map fun unit =>
    .arr [.str unit.unitId, .str unit.original.contentFullDigest, .str unit.summary.contentFullDigest]))])

/-- `construct`. -/
def construct (structure_ : StructureDocument) (projection : RetrievalBlockProjection) (cleanText : Text)
    (summaries : Text → Option Text) (a : ConstructArguments) :
    Except MkbError (ConstructionDocument × DualChannelProjection) := do
  validateStructure J structure_ projection cleanText (a.granularities projection)
  Checked.failIf (a.constructionArtifact.isEmpty || a.dual.isEmpty)
    (schemaError "CONSTRUCT_BINDING_INVALID" "Construction generation identity is required")
  Checked.failIf (a.dual == a.constructionArtifact)
    (schemaError "CONSTRUCT_BINDING_INVALID" "Construction and dual-channel artifact identities must be distinct")
  let units ← Checked.mapEach projection.blocks (constructUnit J structure_ projection summaries a)
  let document := constructionDocument J structure_ projection a units
  let dual := dualProjection J a document
  validateConstruction J document dual a.headers
  return (document, dual)

/-! ### the vectorization plan -/

/-- What a channel of a unit adds to the plan: a vector, a skipped name or, for the g0 original, neither. -/
inductive PlannedChannel
  | vector (unit : VectorizationUnit)
  | skipped (name : Text)
  | g0Original (ready : Bool)
deriving DecidableEq

def Channel.name : Channel → Text
  | .original => "original".toList
  | .summary => "summary".toList

/-- One channel of one unit. -/
def planChannel (recipeVersion : Text) (headers : Headers) (maxBytes : Nat) (unit : ConstructionUnit)
    (channel : ChannelRecord) : Except MkbError PlannedChannel := do
  let recomputed ← contentFull channel.body headers recipeVersion
  Checked.failIf (channel.contentFullDigest != J.textDigest recomputed || channel.contentFull != recomputed)
    (schemaError "VECTORIZE_CONTENT_MISMATCH" "Vectorization must recompute and verify content_full")
  if unit.granularity == 0 && channel.channel == .original then
    return .g0Original (!recomputed.isBlank && unit.original.isReattached)
  else if recomputed.isBlank then
    return .skipped (unit.unitId ++ [':'] ++ channel.channel.name)
  else do
    Checked.failIf (decide (maxBytes < recomputed.utf8Length))
      (schemaError "VECTORIZE_BUDGET_CONTENT_FULL" "A vectorization input exceeds the configured byte budget")
    return .vector ⟨unit.unitId, unit.granularity, channel.channel, unit.coordinate, recomputed,
      J.textDigest recomputed⟩

def planUnit (recipeVersion : Text) (headers : Headers) (maxBytes : Nat) (unit : ConstructionUnit) :
    Except MkbError (List PlannedChannel) := do
  let original ← planChannel J recipeVersion headers maxBytes unit unit.original
  let summary ← planChannel J recipeVersion headers maxBytes unit unit.summary
  return [original, summary]

def PlannedChannel.vector? : PlannedChannel → Option VectorizationUnit
  | .vector unit => some unit
  | _ => none

def PlannedChannel.skipped? : PlannedChannel → Option Text
  | .skipped name => some name
  | _ => none

/-- The order of the plan: granularity, unit, channel. -/
def VectorizationUnit.precedes (a b : VectorizationUnit) : Bool :=
  decide (a.granularity < b.granularity) || (a.granularity == b.granularity &&
    (if a.unitId == b.unitId then a.channel.name.precedes b.channel.name else a.unitId.precedes b.unitId))

/-- The g0 summary is a vector of the plan. -/
def VectorizationUnit.isG0Summary (unit : VectorizationUnit) : Bool :=
  unit.granularity == 0 && unit.channel == .summary && !unit.contentFull.isBlank

/-- `vectorization_plan`. -/
def vectorizationPlan (document : ConstructionDocument) (dual : DualChannelProjection) (headers : Headers)
    (maxBytes : Nat) : Except MkbError VectorizationPlan := do
  validateConstruction J document dual headers
  Checked.failIf (decide (maxBytes < 1))
    (schemaError "VECTORIZE_BUDGET_INVALID" "Vectorization byte budget must be positive")
  let channels ← Checked.mapEach dual.units (planUnit J document.contentFullRecipeVersion headers maxBytes)
  let required := (channels.flatten.filterMap PlannedChannel.vector?).insertionSort fun a b => a.precedes b = true
  Checked.failIf (!channels.flatten.contains (.g0Original true))
    (schemaError "ORIGINAL_NOT_REATTACHED" "Vectorize requires a reattached non-empty g0 original in construct")
  Checked.failIf (!required.any VectorizationUnit.isG0Summary)
    (schemaError "G0_SUMMARY_REQUIRED" "Non-empty g0 summary must remain a required vectorization unit")
  return ⟨required, (channels.flatten.filterMap PlannedChannel.skipped?).insertionSort (fun a b => a.precedes b = true),
    J.stableDigest (.arr (required.map fun unit => .str unit.contentFullDigest))⟩

/-! ### the re-proof of stored members -/

def sourceInvalid (errorCode message : String) : MkbError := ⟨errorCode, message, 409⟩

/-- The stored members parsed and validated against the clean text. -/
def parseStoredPayloads (cleanText : Text) (structureData projectionData : β) :
    Except MkbError (StructureDocument × RetrievalBlockProjection) := do
  let structureValue ← Checked.required (J.loads structureData) runtimeError
  let projectionValue ← Checked.required (J.loads projectionData) runtimeError
  let structureMembers ← membersOf structureValue "generation members must be objects"
  let projectionMembers ← membersOf projectionValue "generation members must be objects"
  let structure_ ← parseStructurePayload J structureMembers
  let projection ← parseRetrievalProjectionPayload J projectionMembers
  validateStructure J structure_ projection cleanText projection.granularities
  return (structure_, projection)

/-- `reprove_structure_from_stored_payloads`. -/
def reproveStructureFromStoredPayloads [DecidableEq β] (cleanText : Text) (structureData projectionData : β)
    (errorCode : String) : Except MkbError (StructureDocument × RetrievalBlockProjection) :=
  match parseStoredPayloads J cleanText structureData projectionData with
  | .error _ => .error (sourceInvalid errorCode "Frozen source structure members cannot be re-proven")
  | .ok documents => do
    Checked.failIf (decide (structureData ≠ J.canonicalJson (.obj (structurePayload documents.1)) ∨
      projectionData ≠ J.canonicalJson (.obj (retrievalProjectionPayload documents.2))))
      (sourceInvalid errorCode "Frozen source structure bytes do not bind the inherited clean artifact")
    return documents

end KnowledgeBase
