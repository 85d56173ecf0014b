import KnowledgeBase.Lsrag.LayeredContent

/-!
# Compiler documents

The intermediate documents of the compiler and the helpers its stages share: digests of texts, slices of the clean
text by byte offsets, and the identity of an adopted block.
-/

namespace KnowledgeBase

structure TextSpan where
  startByte : Int
  endByte : Int
deriving DecidableEq

structure StructureNode where
  nodeId : Text
  nodeKind : Text
  parentNodeId : Option Text
  siblingOrdinal : Int
  depth : Int
  readingOrdinal : Int
  contentRole : Text
  sourceAnchor : Option TextSpan
  contentDigest : Option Text
  subtreeDigest : Text
deriving DecidableEq

structure StructureDocument where
  generationArtifact : Text
  cleanArtifact : Text
  cleanDigest : Text
  documentRootNodeId : Text
  nodes : List StructureNode
  proofDigest : Text
  contextMeta : Json.Dict

structure RetrievalBlock where
  blockId : Text
  granularity : Int
  sourceNodeRefs : List Text
  orderedSourceSpans : List TextSpan
  originalText : Text
  originalDigest : Text
deriving DecidableEq

structure RetrievalBlockProjection where
  generationArtifact : Text
  structureGenerationArtifact : Text
  structureDocumentDigest : Text
  blocks : List RetrievalBlock
  proofDigest : Text
deriving DecidableEq

inductive Channel
  | original | summary
deriving DecidableEq

inductive ReattachStatus
  | nativeFull | reattached | notApplicable
deriving DecidableEq

structure ChannelRecord where
  channel : Channel
  body : Text
  bodyDigest : Text
  contentFull : Text
  contentFullDigest : Text
  groundsCoordinate : Text
  reattachStatus : ReattachStatus
deriving DecidableEq

structure ConstructionUnit where
  unitId : Text
  granularity : Int
  coordinate : Text
  original : ChannelRecord
  summary : ChannelRecord
deriving DecidableEq

structure ConstructionDocument where
  generationArtifact : Text
  structureGenerationArtifact : Text
  projectionGenerationArtifact : Text
  structureDocumentDigest : Text
  projectionDigest : Text
  units : List ConstructionUnit
  metadataProjectionDigest : Text
  contentFullRecipeVersion : Text
  proofDigest : Text
deriving DecidableEq

structure DualChannelProjection where
  generationArtifact : Text
  constructionGenerationArtifact : Text
  constructionDocumentDigest : Text
  units : List ConstructionUnit
  proofDigest : Text
deriving DecidableEq

structure VectorizationUnit where
  unitId : Text
  granularity : Int
  channel : Channel
  coordinate : Text
  contentFull : Text
  contentFullDigest : Text
deriving DecidableEq

structure VectorizationPlan where
  required : List VectorizationUnit
  skipped : List Text
  requiredDigest : Text
deriving DecidableEq

def nodeKinds : List Text :=
  ["document".toList, "section".toList, "paragraph".toList, "list".toList, "list_item".toList, "table".toList,
    "table_row".toList, "table_cell".toList, "code".toList, "quote".toList, "media_ref".toList, "heading".toList]

/-- `_text_digest`. -/
def JsonCodec.textDigest {β : Type} (J : JsonCodec β) (t : Text) : Text := J.stableDigest (.obj [("text", .str t)])

/-- `_span_text`: an empty slice never splits a code point. -/
def spanText (t : Text) (startByte endByte : Int) : Except MkbError Text := do
  Checked.failIf (decide (startByte < 0 ∨ endByte < startByte ∨ (t.utf8Length : Int) < endByte))
    (schemaError "STRUCTURE_ANCHOR_INVALID" "A source anchor is outside the selected clean artifact")
  if startByte = endByte then return []
  let first ← Checked.required (t.charIndex? startByte.toNat)
    (schemaError "STRUCTURE_ANCHOR_INVALID" "A source anchor splits a UTF-8 code point")
  let last ← Checked.required (t.charIndex? endByte.toNat)
    (schemaError "STRUCTURE_ANCHOR_INVALID" "A source anchor splits a UTF-8 code point")
  return (t.drop first).take (last - first)

/-- The identity of an adopted block in the projection. -/
def projectionBlockId (granularity blockId : Nat) : Text :=
  "g".toList ++ Nat.toDigits 10 granularity ++ ":b".toList ++ Text.padded4 blockId

/-- `_ADOPTED_BLOCK_ID` and `_block_number`: exactly four digits. -/
def blockNumber? : Text → Option Nat
  | 'g' :: g :: ':' :: 'b' :: digits =>
    if (g == '0' || g == '1' || g == '2') && digits.length == 4 && digits.all Char.isDigit then
      some (Nat.ofDigitChars 10 digits 0)
    else none
  | _ => none

def blockNumber (blockId : Text) : Except MkbError Nat :=
  Checked.required (blockNumber? blockId) (schemaError "CONSTRUCT_KERNEL_ALIGNMENT_INVALID"
    "Projection block identity is not an adopted layered block")

/-- Metadata headers, by key. -/
abbrev Headers := List (Text × Text)

/-- `_HEADER_KEY`. -/
def isHeaderKey : Text → Bool
  | [] => false
  | c :: rest => c.isLower && decide (rest.length ≤ 63) &&
      rest.all fun c => c.isLower || c.isDigit || c == '_' || c == '.' || c == '-'

def contentFullV1 : Text := "content_full.v1".toList

/-- A header that may be rendered. -/
def headerValid (h : Text × Text) : Bool :=
  isHeaderKey h.1 && !h.2.any fun c => c == Char.ofNat 0 || c == '\n' || c == '\r'

/-- The header lines, in the order of their keys, and a blank line. -/
def headerText (headers : Headers) : Text :=
  (headers.map fun h => h.1 ++ ": ".toList ++ h.2 ++ ['\n']).flatten ++ ['\n']

/-- The headers, if there are any, before the body. -/
def fullText (headers : Headers) (body : Text) : Text :=
  if headers.isEmpty then body else headerText headers ++ body

/-- `content_full`. -/
def contentFull (body : Text) (headers : Headers) (recipeVersion : Text) : Except MkbError Text := do
  Checked.failIf (recipeVersion != contentFullV1)
    (schemaError "CONSTRUCT_RECIPE_UNSUPPORTED" "The content_full recipe version is unsupported")
  Checked.failIf (!headers.all headerValid)
    (schemaError "CONSTRUCT_METADATA_PROJECTION_INVALID" "Content header projection is invalid")
  return fullText headers body

end KnowledgeBase
