import KnowledgeBase.Lsrag.Models

/-!
# Payloads

The digests of the compiler's documents, their JSON payloads, and the parsers of the stored structure and
projection members.
-/

namespace KnowledgeBase

variable {β : Type} (J : JsonCodec β)

def textJson (s : String) : Json := .str s.toList

/-! ### digests -/

namespace TextSpan

def digestJson (span : TextSpan) : Json := .arr [.int span.startByte, .int span.endByte]

end TextSpan

def StructureNode.digestJson (node : StructureNode) : Json :=
  .obj [("content", .ofOption .str node.contentDigest), ("depth", .int node.depth), ("id", .str node.nodeId),
    ("kind", .str node.nodeKind), ("parent", .ofOption .str node.parentNodeId),
    ("reading", .int node.readingOrdinal), ("role", .str node.contentRole), ("sibling", .int node.siblingOrdinal),
    ("span", .ofOption TextSpan.digestJson node.sourceAnchor), ("subtree", .str node.subtreeDigest)]

/-- The member is present only when the dictionary is not empty. -/
def contextMember (contextMeta : Json.Dict) : Json.Dict :=
  if contextMeta.isEmpty then [] else [("context_meta", .obj contextMeta)]

/-- `structure_document_digest`. -/
def structureDocumentDigest (document : StructureDocument) : Text :=
  J.stableDigest (.obj ([("clean_artifact", .str document.cleanArtifact), ("clean_digest", .str document.cleanDigest)]
    ++ contextMember document.contextMeta ++
    [("generation", .str document.generationArtifact), ("nodes", .arr (document.nodes.map StructureNode.digestJson)),
      ("proof", .str document.proofDigest), ("root", .str document.documentRootNodeId)]))

def RetrievalBlock.digestJson (block : RetrievalBlock) : Json :=
  .obj [("g", .int block.granularity), ("id", .str block.blockId), ("nodes", .arr (block.sourceNodeRefs.map .str)),
    ("original", .str block.originalDigest), ("spans", .arr (block.orderedSourceSpans.map TextSpan.digestJson))]

/-- `projection_digest`. -/
def projectionDigest (projection : RetrievalBlockProjection) : Text :=
  J.stableDigest (.obj [("blocks", .arr (projection.blocks.map RetrievalBlock.digestJson)),
    ("generation", .str projection.generationArtifact), ("proof", .str projection.proofDigest),
    ("structure_digest", .str projection.structureDocumentDigest),
    ("structure_generation", .str projection.structureGenerationArtifact)])

def ConstructionUnit.digestJson (unit : ConstructionUnit) : Json :=
  .arr [.str unit.unitId, .int unit.granularity, .str unit.coordinate, .str unit.original.contentFullDigest,
    .str unit.summary.contentFullDigest]

/-- `construction_document_digest`. -/
def constructionDocumentDigest (document : ConstructionDocument) : Text :=
  J.stableDigest (.obj [("generation", .str document.generationArtifact),
    ("metadata", .str document.metadataProjectionDigest), ("projection_digest", .str document.projectionDigest),
    ("projection_generation", .str document.projectionGenerationArtifact), ("proof", .str document.proofDigest),
    ("recipe", .str document.contentFullRecipeVersion), ("structure_digest", .str document.structureDocumentDigest),
    ("structure_generation", .str document.structureGenerationArtifact),
    ("units", .arr (document.units.map ConstructionUnit.digestJson))])

/-! ### payloads -/

def structureSchema : Json := textJson "mkb.structure-document.v1"

def projectionSchema : Json := textJson "mkb.retrieval-block-projection.v1"

/-- The anchor of a node. -/
def TextSpan.anchorJson (span : TextSpan) : Json :=
  .obj [("end_byte", .int span.endByte), ("kind", textJson "text_span"), ("start_byte", .int span.startByte)]

def TextSpan.spanJson (span : TextSpan) : Json :=
  .obj [("end_byte", .int span.endByte), ("start_byte", .int span.startByte)]

def StructureNode.payload (node : StructureNode) : Json :=
  .obj [("content_digest", .ofOption .str node.contentDigest), ("content_role", .str node.contentRole),
    ("depth", .int node.depth), ("node_id", .str node.nodeId), ("node_kind", .str node.nodeKind),
    ("parent_node_id", .ofOption .str node.parentNodeId), ("reading_ordinal", .int node.readingOrdinal),
    ("sibling_ordinal", .int node.siblingOrdinal), ("source_anchor", .ofOption TextSpan.anchorJson node.sourceAnchor),
    ("subtree_digest", .str node.subtreeDigest)]

/-- `structure_payload`, by key. -/
def structurePayload (document : StructureDocument) : Json.Dict :=
  [("clean_artifact_uuid", .str document.cleanArtifact), ("clean_digest", .str document.cleanDigest)] ++
    contextMember document.contextMeta ++
    [("document_root_node_id", .str document.documentRootNodeId),
      ("generation_artifact_uuid", .str document.generationArtifact),
      ("nodes", .arr (document.nodes.map StructureNode.payload)), ("proof_digest", .str document.proofDigest),
      ("schema_version", structureSchema)]

def RetrievalBlock.payload (block : RetrievalBlock) : Json :=
  .obj [("block_id", .str block.blockId), ("granularity", .int block.granularity),
    ("ordered_source_spans", .arr (block.orderedSourceSpans.map TextSpan.spanJson)),
    ("original", .str block.originalText), ("original_digest", .str block.originalDigest),
    ("source_node_refs", .arr (block.sourceNodeRefs.map .str))]

/-- `retrieval_projection_payload`, by key. -/
def retrievalProjectionPayload (projection : RetrievalBlockProjection) : Json.Dict :=
  [("blocks", .arr (projection.blocks.map RetrievalBlock.payload)),
    ("generation_artifact_uuid", .str projection.generationArtifact), ("proof_digest", .str projection.proofDigest),
    ("schema_version", projectionSchema), ("structure_document_digest", .str projection.structureDocumentDigest),
    ("structure_generation_artifact_uuid", .str projection.structureGenerationArtifact)]

/-! ### parsers -/

def artifactInvalid (message : String) : MkbError := schemaError "STRUCTURE_ARTIFACT_INVALID" message

/-- A `KeyError`, `TypeError` or `ValueError` of the runtime. -/
def runtimeError : MkbError := ⟨"", "", 500⟩

namespace JsonCodec

/-- `int(payload[key])`. -/
def intField (members : Json.Dict) (key : String) : Except MkbError Int :=
  Checked.required ((members.lookup key).bind J.pyInt) runtimeError

/-- `str(payload[key])`. -/
def strField (members : Json.Dict) (key : String) : Except MkbError Text :=
  Checked.required ((members.lookup key).map J.pyStr) runtimeError

/-- `None if payload[key] is None else str(payload[key])`. -/
def optionalStrField (members : Json.Dict) (key : String) : Except MkbError (Option Text) :=
  match members.lookup key with
  | none => .error runtimeError
  | some .null => .ok none
  | some v => .ok (some (J.pyStr v))

end JsonCodec

def membersOf (v : Json) (message : String) : Except MkbError Json.Dict :=
  match v with
  | .obj members => .ok members
  | _ => .error (artifactInvalid message)

def itemsOf (v : Option Json) (message : String) : Except MkbError (List Json) :=
  match v with
  | some (.arr items) => .ok items
  | _ => .error (artifactInvalid message)

def parseAnchor (v : Option Json) : Except MkbError (Option TextSpan) :=
  match v with
  | some .null => .ok none
  | some (.obj members) => do
    Checked.failIf (!Json.hasKeys members ["kind", "start_byte", "end_byte"])
      (artifactInvalid "Frozen structure source anchor is invalid")
    Checked.failIf (match members.lookup "kind" with
      | some (.str t) => t != "text_span".toList
      | _ => true) (artifactInvalid "Frozen structure source anchor is invalid")
    let startByte ← J.intField members "start_byte"
    let endByte ← J.intField members "end_byte"
    return some ⟨startByte, endByte⟩
  | _ => .error (artifactInvalid "Frozen structure source anchor is invalid")

def nodeKeys : List String :=
  ["node_id", "node_kind", "parent_node_id", "sibling_ordinal", "depth", "reading_ordinal", "content_role",
    "source_anchor", "content_digest", "subtree_digest"]

def parseNode (raw : Json) : Except MkbError StructureNode := do
  let members ← membersOf raw "Frozen structure node shape is invalid"
  Checked.failIf (!Json.hasKeys members nodeKeys) (artifactInvalid "Frozen structure node shape is invalid")
  let sourceAnchor ← parseAnchor J (members.lookup "source_anchor")
  let nodeId ← J.strField members "node_id"
  let nodeKind ← J.strField members "node_kind"
  let parentNodeId ← J.optionalStrField members "parent_node_id"
  let siblingOrdinal ← J.intField members "sibling_ordinal"
  let depth ← J.intField members "depth"
  let readingOrdinal ← J.intField members "reading_ordinal"
  let contentRole ← J.strField members "content_role"
  let contentDigest ← J.optionalStrField members "content_digest"
  let subtreeDigest ← J.strField members "subtree_digest"
  return { nodeId, nodeKind, parentNodeId, siblingOrdinal, depth, readingOrdinal, contentRole, sourceAnchor,
           contentDigest, subtreeDigest }

/-- `dict(payload.get("context_meta") or {})`. -/
def contextOf : Option Json → Except MkbError Json.Dict
  | none | some .null | some (.bool false) | some (.int 0) | some (.str []) | some (.arr []) => .ok []
  | some (.obj members) => .ok members
  | _ => .error runtimeError

def structureKeys : List String :=
  ["schema_version", "generation_artifact_uuid", "clean_artifact_uuid", "clean_digest", "document_root_node_id",
    "nodes", "proof_digest"]

def isSchema (v : Option Json) (schema : String) : Bool :=
  match v with
  | some (.str t) => t == schema.toList
  | _ => false

/-- `parse_structure_payload`. -/
def parseStructurePayload (members : Json.Dict) : Except MkbError StructureDocument := do
  Checked.failIf (!((Json.hasKeys members structureKeys || Json.hasKeys members ("context_meta" :: structureKeys)) &&
    isSchema (members.lookup "schema_version") "mkb.structure-document.v1"))
    (artifactInvalid "Frozen structure payload shape is invalid")
  let rawNodes ← itemsOf (members.lookup "nodes") "Frozen structure nodes are invalid"
  let nodes ← Checked.mapEach rawNodes (parseNode J)
  let generationArtifact ← J.strField members "generation_artifact_uuid"
  let cleanArtifact ← J.strField members "clean_artifact_uuid"
  let cleanDigest ← J.strField members "clean_digest"
  let documentRootNodeId ← J.strField members "document_root_node_id"
  let proofDigest ← J.strField members "proof_digest"
  let contextMeta ← contextOf (members.lookup "context_meta")
  return { generationArtifact, cleanArtifact, cleanDigest, documentRootNodeId, nodes, proofDigest, contextMeta }

def parseSpan (raw : Json) : Except MkbError TextSpan := do
  let members ← membersOf raw "Frozen projection span shape is invalid"
  Checked.failIf (!Json.hasKeys members ["start_byte", "end_byte"])
    (artifactInvalid "Frozen projection span shape is invalid")
  let startByte ← J.intField members "start_byte"
  let endByte ← J.intField members "end_byte"
  return { startByte, endByte }

def parseRef (raw : Json) : Except MkbError Text :=
  match raw with
  | .str t => .ok t
  | _ => .error (artifactInvalid "Frozen projection references are invalid")

def blockKeys : List String :=
  ["block_id", "granularity", "source_node_refs", "ordered_source_spans", "original", "original_digest"]

def parseBlock (raw : Json) : Except MkbError RetrievalBlock := do
  let members ← membersOf raw "Frozen projection block shape is invalid"
  Checked.failIf (!Json.hasKeys members blockKeys) (artifactInvalid "Frozen projection block shape is invalid")
  let rawRefs ← itemsOf (members.lookup "source_node_refs") "Frozen projection references are invalid"
  let sourceNodeRefs ← Checked.mapEach rawRefs parseRef
  let rawSpans ← itemsOf (members.lookup "ordered_source_spans") "Frozen projection references are invalid"
  let orderedSourceSpans ← Checked.mapEach rawSpans (parseSpan J)
  let blockId ← J.strField members "block_id"
  let granularity ← J.intField members "granularity"
  let originalText ← J.strField members "original"
  let originalDigest ← J.strField members "original_digest"
  return { blockId, granularity, sourceNodeRefs, orderedSourceSpans, originalText, originalDigest }

def projectionKeys : List String :=
  ["schema_version", "generation_artifact_uuid", "structure_generation_artifact_uuid", "structure_document_digest",
    "blocks", "proof_digest"]

/-- `parse_retrieval_projection_payload`. -/
def parseRetrievalProjectionPayload (members : Json.Dict) : Except MkbError RetrievalBlockProjection := do
  Checked.failIf (!(Json.hasKeys members projectionKeys &&
    isSchema (members.lookup "schema_version") "mkb.retrieval-block-projection.v1"))
    (artifactInvalid "Frozen projection payload shape is invalid")
  let rawBlocks ← itemsOf (members.lookup "blocks") "Frozen projection blocks are invalid"
  let blocks ← Checked.mapEach rawBlocks (parseBlock J)
  let generationArtifact ← J.strField members "generation_artifact_uuid"
  let structureGenerationArtifact ← J.strField members "structure_generation_artifact_uuid"
  let structureDocumentDigest ← J.strField members "structure_document_digest"
  let proofDigest ← J.strField members "proof_digest"
  return { generationArtifact, structureGenerationArtifact, structureDocumentDigest, blocks, proofDigest }

/-! ### a parser inverts its payload -/

theorem parseNode_payload (node : StructureNode) : parseNode J node.payload = .ok node := by
  obtain ⟨nodeId, nodeKind, parentNodeId, siblingOrdinal, depth, readingOrdinal, contentRole, sourceAnchor,
    contentDigest, subtreeDigest⟩ := node
  cases parentNodeId <;> cases contentDigest <;> cases sourceAnchor <;> rfl

theorem parseSpan_payload (span : TextSpan) : parseSpan J span.spanJson = .ok span := rfl

theorem mapEach_map {α : Type} {f : α → Json} {g : Json → Except MkbError α} (h : ∀ a, g (f a) = .ok a)
    (l : List α) : Checked.mapEach (l.map f) g = .ok l := by
  rw [Checked.mapEach_ok_iff, List.forall₂_map_left_iff, List.forall₂_same]
  exact fun a _ => h a

end KnowledgeBase
