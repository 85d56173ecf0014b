import KnowledgeBase.Lsrag.Payloads

/-!
# Validators

`validate_structure` and `validate_construction`: the tree, its coverage of the clean bytes, the anchored blocks of
the projection, and the two channels of every unit.
-/

namespace KnowledgeBase

variable {β : Type} (J : JsonCodec β)

/-! ### structure -/

namespace StructureDocument

def nodeIds (document : StructureDocument) : List Text := document.nodes.map StructureNode.nodeId

def childrenOf (document : StructureDocument) (nodeId : Text) : List StructureNode :=
  document.nodes.filter fun node => node.parentNodeId == some nodeId

/-- The leaves that carry content, in reading order. -/
def contentLeaves (document : StructureDocument) : List StructureNode :=
  document.nodes.filter fun node => (document.childrenOf node.nodeId).isEmpty && node.contentRole == "content".toList

end StructureDocument

def contiguous (l : List Int) : Bool := l == (List.range l.length).map Int.ofNat

def validateParent (document : StructureDocument) (node : StructureNode) : Except MkbError Unit :=
  match node.parentNodeId with
  | none => .ok ()
  | some parentId => do
    let parent ← Checked.required (document.nodes.find? fun candidate => candidate.nodeId == parentId)
      (schemaError "STRUCTURE_TREE_PARENT" "Structure node has an unknown parent")
    Checked.failIf (node.depth != parent.depth + 1)
      (schemaError "STRUCTURE_TREE_DEPTH" "Structure node depth is inconsistent")

/-- One root, distinct nodes of known kinds in reading order, with known parents and contiguous siblings. -/
def validateTree (document : StructureDocument) : Except MkbError Unit := do
  Checked.failIf (match document.nodes.filter fun node => node.parentNodeId.isNone with
    | [root] => root.nodeId != document.documentRootNodeId || root.nodeKind != "document".toList
    | _ => true) (schemaError "STRUCTURE_TREE_ROOT" "Structure documents require exactly one document root")
  Checked.failIf (!decide document.nodeIds.Nodup)
    (schemaError "STRUCTURE_TREE_DUPLICATE_NODE" "Structure node identities must be unique")
  Checked.failIf (document.nodes.any fun node => !nodeKinds.contains node.nodeKind)
    (schemaError "STRUCTURE_NODE_KIND_INVALID" "Structure node kind is not in the schema closed set")
  Checked.failIf (!contiguous (document.nodes.map StructureNode.readingOrdinal))
    (schemaError "STRUCTURE_ORDER_INVALID" "Structure reading order must be complete and contiguous")
  Checked.checkEach document.nodes (validateParent document)
  Checked.failIf (document.nodes.any fun node => !contiguous (((document.childrenOf node.nodeId).map
    StructureNode.siblingOrdinal).insertionSort (· ≤ ·)))
    (schemaError "STRUCTURE_ORDER_INVALID" "Sibling ordinals must be contiguous")

/-- The anchor of a content leaf, with its digest. -/
def leafAnchor (cleanText : Text) (leaf : StructureNode) : Except MkbError TextSpan := do
  let span ← Checked.required leaf.sourceAnchor
    (schemaError "STRUCTURE_ANCHOR_MISSING" "Content leaves require exact clean anchors")
  let anchored ← spanText cleanText span.startByte span.endByte
  Checked.failIf (leaf.contentDigest != some (J.textDigest anchored))
    (schemaError "STRUCTURE_ANCHOR_DIGEST" "Content leaf digest does not match its anchor")
  return span

/-- The next span starts where the last one ended. -/
def coverSpan (cleanText : Text) (expectedStart : Int) (span : TextSpan) : Except MkbError Int := do
  let _ ← spanText cleanText span.startByte span.endByte
  Checked.failIf (decide (span.startByte ≠ expectedStart ∨ span.endByte ≤ span.startByte))
    (schemaError "STRUCTURE_COVERAGE_INVALID"
      "Content leaf anchors must be an ordered, gap-free clean-byte partition")
  return span.endByte

def validateCoverage (document : StructureDocument) (cleanText : Text) : Except MkbError Unit := do
  let spans ← Checked.mapEach document.contentLeaves (leafAnchor J cleanText)
  let finish ← Checked.foldEach (coverSpan cleanText) 0 spans
  Checked.failIf (spans.isEmpty || finish != (cleanText.utf8Length : Int))
    (schemaError "STRUCTURE_COVERAGE_INVALID" "Content leaf anchors must cover the selected clean artifact")

/-- The slice of one span, after the end of the one before. -/
def anchorPiece (cleanText : Text) (state : Int × Text) (span : TextSpan) : Except MkbError (Int × Text) := do
  Checked.failIf (decide (span.startByte < state.1 ∨ span.endByte ≤ span.startByte))
    (schemaError "STRUCTURE_PROJECTION_ORDER" "Projection source spans must be ordered and non-overlapping")
  let piece ← spanText cleanText span.startByte span.endByte
  return (span.endByte, state.2 ++ piece)

def isGranularity (g : Int) : Bool := g == 0 || g == 1 || g == 2

/-- One block of the projection, after those whose identities are taken. -/
def validateProjectionBlock (nodeIds : List Text) (cleanText : Text) (taken : List Text) (block : RetrievalBlock) :
    Except MkbError (List Text) := do
  Checked.failIf (taken.contains block.blockId || !isGranularity block.granularity || block.sourceNodeRefs.isEmpty ||
    block.orderedSourceSpans.isEmpty) (schemaError "STRUCTURE_PROJECTION_INVALID" "Projection block shape is invalid")
  Checked.failIf (block.sourceNodeRefs.any fun nodeId => !nodeIds.contains nodeId)
    (schemaError "STRUCTURE_PROJECTION_NODE" "Projection block references an unknown structure node")
  let state ← Checked.foldEach (anchorPiece cleanText) (-1, []) block.orderedSourceSpans
  Checked.failIf (state.2 != block.originalText || block.originalDigest != J.textDigest state.2)
    (schemaError "STRUCTURE_PROJECTION_ORIGINAL" "Projection original body is not an anchored clean slice")
  return taken ++ [block.blockId]

def sameSet (l l' : List Int) : Bool := l.all (fun g => l'.contains g) && l'.all fun g => l.contains g

def RetrievalBlockProjection.granularities (projection : RetrievalBlockProjection) : List Int :=
  projection.blocks.map RetrievalBlock.granularity

/-- A block of granularity 0 that is not blank. -/
def RetrievalBlockProjection.hasG0 (projection : RetrievalBlockProjection) : Bool :=
  projection.blocks.any fun block => block.granularity == 0 && !block.originalText.isBlank

/-- The checks of `validate_structure` before the granularities. -/
def validateAnchors (document : StructureDocument) (projection : RetrievalBlockProjection) (cleanText : Text) :
    Except MkbError Unit := do
  Checked.failIf (document.cleanDigest != J.textDigest cleanText)
    (schemaError "STRUCTURE_BINDING_CLEAN_DIGEST" "The structure is not bound to these clean bytes")
  Checked.failIf (projection.structureGenerationArtifact != document.generationArtifact ||
    projection.generationArtifact == document.generationArtifact)
    (schemaError "STRUCTURE_BINDING_CROSS_GENERATION" "Structure and projection generations differ")
  Checked.failIf (projection.structureDocumentDigest != structureDocumentDigest J document)
    (schemaError "STRUCTURE_BINDING_DIGEST" "Projection does not bind this exact structure document")
  validateTree document
  validateCoverage J document cleanText
  let _ ← Checked.foldEach (validateProjectionBlock J document.nodeIds cleanText) [] projection.blocks

/-- `validate_structure`. -/
def validateStructure (document : StructureDocument) (projection : RetrievalBlockProjection) (cleanText : Text)
    (requiredGranularities : List Int) : Except MkbError Unit := do
  validateAnchors J document projection cleanText
  Checked.failIf (!sameSet projection.granularities requiredGranularities || !projection.hasG0)
    (schemaError "STRUCTURE_PROJECTION_G0_REQUIRED" "Projection granularities do not match the frozen profile")

/-! ### construction -/

def validateChannel (headers : Headers) (recipeVersion : Text) (unit : ConstructionUnit) (channel : ChannelRecord) :
    Except MkbError Unit := do
  Checked.failIf (channel.groundsCoordinate != unit.coordinate || channel.body.isBlank)
    (schemaError "CONSTRUCT_KERNEL_SUMMARY_INCOMPLETE" "Construction channels must be non-empty and grounded")
  let recomputed ← contentFull channel.body headers recipeVersion
  Checked.failIf (recomputed != channel.contentFull || channel.contentFullDigest != J.textDigest recomputed)
    (schemaError "CONSTRUCT_CONTENT_MISMATCH" "A content_full recipe digest does not match its channel body")

def ChannelRecord.isReattached (channel : ChannelRecord) : Bool :=
  channel.reattachStatus == .reattached || channel.reattachStatus == .nativeFull

def validateUnit (headers : Headers) (recipeVersion : Text) (unit : ConstructionUnit) : Except MkbError Unit := do
  Checked.failIf (unit.original.channel != .original || unit.summary.channel != .summary || unit.coordinate.isEmpty)
    (schemaError "CONSTRUCT_KERNEL_ALIGNMENT_INVALID" "Construction unit channel identities are invalid")
  validateChannel J headers recipeVersion unit unit.original
  validateChannel J headers recipeVersion unit unit.summary

/-- `validate_construction`. -/
def validateConstruction (document : ConstructionDocument) (dual : DualChannelProjection) (headers : Headers) :
    Except MkbError Unit := do
  Checked.failIf (document.generationArtifact != dual.constructionGenerationArtifact ||
    document.generationArtifact == dual.generationArtifact ||
    document.structureGenerationArtifact == document.projectionGenerationArtifact ||
    dual.constructionDocumentDigest != constructionDocumentDigest J document)
    (schemaError "CONSTRUCT_BINDING_DIGEST" "Dual-channel projection does not bind this construction document")
  Checked.failIf (document.units.isEmpty ||
    document.units.map ConstructionUnit.unitId != dual.units.map ConstructionUnit.unitId)
    (schemaError "CONSTRUCT_KERNEL_ALIGNMENT_INVALID" "Construction and dual-channel units must align 1:1")
  Checked.checkEach dual.units (validateUnit J headers document.contentFullRecipeVersion)
  Checked.failIf (!dual.units.any fun unit =>
    unit.granularity == 0 && !unit.original.body.isBlank && unit.original.isReattached)
    (schemaError "CONSTRUCT_G0_ORIGINAL_REQUIRED" "Full-valid construction requires a reattached g0 original")

end KnowledgeBase
