import KnowledgeBase.Lsrag.Validate
import Mathlib.Data.List.Dedup

/-!
# Adoption

A layered candidate is normalized into the accepted candidate, adopted into a structure and a projection anchored
in the clean text, and later filled with summaries, which `layered_summary_map` reads back.
-/

namespace KnowledgeBase

variable {β : Type} (P : Platform β)

/-- `declared_granularities`. -/
def declaredGranularities (granularitySet : Option (List Int)) : Except MkbError (List Int) := do
  let items := if (granularitySet.getD []).isEmpty then [0, 1, 2] else granularitySet.getD []
  let declared := items.dedup.insertionSort (· ≤ ·)
  Checked.failIf (declared.any (fun g => !isGranularity g) || !declared.contains 0)
    (schemaError "STRUCTURE_PROFILE_INVALID" "A layered profile must declare a closed set containing g0")
  return declared

/-! ### the accepted candidate -/

def LayeredBlock.key (block : LayeredBlock) : Nat × Nat := (block.granularity, block.blockId)

/-- The original channel of a block, normalized; a blank g0 body is the clean text. -/
def normalizeBlock (clean : Text) (block : LayeredBlock) : Except MkbError LayeredBlock :=
  let title := block.originalContent.title.map (normalizeLayeredText P)
  let body := block.originalContent.body.map (normalizeLayeredText P)
  if body.all Text.isBlank then
    if block.granularity == 0 then .ok { block with originalContent := ⟨title, some clean⟩ }
    else .error (schemaError "STRUCTURE_ANCHOR_MISSING" "A non-g0 layered body is empty")
  else .ok { block with originalContent := ⟨title, body⟩ }

/-- The blocks in order, under distinct keys. -/
def normalizeBlocks (clean : Text) (blocks : List LayeredBlock) : Except MkbError (List LayeredBlock) :=
  Checked.eachDistinct LayeredBlock.key
    (schemaError "STRUCTURE_SCHEMA_INVALID" "Layered block identities must be unique") (normalizeBlock P clean) [] blocks

/-- `normalize_layered_candidate`. -/
def normalizeLayeredCandidate (cleanText : Text) (layered : LayeredContent) (granularitySet : Option (List Int)) :
    Except MkbError LayeredContent := do
  let declared ← declaredGranularities granularitySet
  validateLayeredContent P layered false true
  Checked.failIf (!sameSet (layered.blocks.map fun block => (block.granularity : Int)) declared)
    (schemaError "STRUCTURE_GRANULARITY_SET_MISMATCH" "Candidate granularity set does not match the frozen profile")
  Checked.failIf ((layered.blocks.filter fun block => block.granularity == 0).length != 1)
    (schemaError "STRUCTURE_G0_REQUIRED" "A layered candidate must contain exactly one g0 block")
  let blocks ← normalizeBlocks P (normalizeLayeredText P cleanText) layered.blocks
  return { layered with blocks := blocks }

/-! ### adoption -/

/-- An entry of the anchor report. -/
structure AnchorReport where
  blockId : Nat
  projectionBlockId : Text
  granularity : Nat
  startByte : Nat
  endByte : Nat
  occurrenceCount : Nat
deriving DecidableEq

def AnchorReport.json (r : AnchorReport) : Json :=
  .obj [("block_id", .int r.blockId), ("end_byte", .int r.endByte), ("granularity", .int r.granularity),
    ("occurrence_count", .int r.occurrenceCount), ("projection_block_id", .str r.projectionBlockId),
    ("start_byte", .int r.startByte)]

def leafId : Text := "node-0001".toList

def rootId : Text := "root".toList

/-- The order of adoption: by granularity, then by block id. -/
def LayeredBlock.precedes (a b : LayeredBlock) : Bool :=
  decide (a.granularity < b.granularity) || (a.granularity == b.granularity && decide (a.blockId ≤ b.blockId))

/-- One block anchored at its first occurrence from where the last one of its granularity ended. -/
def adoptBlock (clean : Text) (searchFrom : Nat) (block : LayeredBlock) :
    Except MkbError (RetrievalBlock × AnchorReport × Nat) := do
  Checked.failIf (block.originalContent.body.all Text.isBlank)
    (schemaError "STRUCTURE_ANCHOR_MISSING" "A non-g0 layered body is empty")
  let body := normalizeLayeredText P (block.originalContent.body.getD [])
  Checked.failIf (block.granularity == 0 && body != clean)
    (schemaError "STRUCTURE_ANCHOR_MISSING" "The g0 body is not the complete clean artifact")
  Checked.failIf (!clean.hasSub body)
    (schemaError "STRUCTURE_ANCHOR_MISSING" "A layered body is not an exact clean substring")
  let firstChar ← Checked.required (clean.findFrom body searchFrom)
    (schemaError "STRUCTURE_ANCHOR_MISSING" "A layered body has no exact clean anchor")
  let start := clean.byteOffset firstChar
  let finish := clean.byteOffset (firstChar + body.length)
  let blockId := projectionBlockId block.granularity block.blockId
  return (⟨blockId, block.granularity, [leafId], [⟨start, finish⟩], body, P.textDigest body⟩,
    ⟨block.blockId, blockId, block.granularity, start, finish, clean.count body⟩, firstChar + max body.length 1)

/-- The blocks in order; `searchFrom` is kept by granularity. -/
def adoptBlocks (clean : Text) : (Nat → Nat) → List LayeredBlock →
    Except MkbError (List (RetrievalBlock × AnchorReport))
  | _, [] => .ok []
  | searchFrom, block :: blocks => do
    let adopted ← adoptBlock P clean (searchFrom block.granularity) block
    let rest ← adoptBlocks clean (Function.update searchFrom block.granularity adopted.2.2) blocks
    return (adopted.1, adopted.2.1) :: rest

/-- The single-leaf tree of the clean text. -/
def adoptedStructure (clean generationArtifact cleanArtifact : Text) (contextMeta : Json.Dict) : StructureDocument :=
  let end_ : Int := clean.utf8Length
  let leafDigest := P.textDigest clean
  { generationArtifact := generationArtifact
    cleanArtifact := cleanArtifact
    cleanDigest := P.textDigest clean
    documentRootNodeId := rootId
    nodes := [⟨rootId, "document".toList, none, 0, 0, 0, "container".toList, none, none,
        P.stableDigest (.obj [("children", .arr [.str leafDigest])])⟩,
      ⟨leafId, "paragraph".toList, some rootId, 0, 1, 1, "content".toList, some ⟨0, end_⟩, some leafDigest, leafDigest⟩]
    proofDigest := P.stableDigest (.obj [("coverage", .arr [.arr [.int 0, .int end_]]),
      ("order", .arr [.str rootId, .str leafId]), ("tree", textJson "layered-adopt")])
    contextMeta := contextMeta }

/-- What an adoption is called with besides the text and the candidate. -/
structure AdoptArguments where
  generationArtifact : Text
  projectionGenerationArtifact : Option Text
  cleanArtifact : Text
  cleanDigest : Option Text
  granularitySet : Option (List Int)
deriving DecidableEq

/-- `projection_generation_artifact_uuid or f"{generation_artifact_uuid}:projection"`. -/
def AdoptArguments.projectionArtifact (a : AdoptArguments) : Text :=
  if (a.projectionGenerationArtifact.getD []).isEmpty then a.generationArtifact ++ ":projection".toList
  else a.projectionGenerationArtifact.getD []

/-- `_adopt_layered_json`, without the report. -/
def adoptLayeredJson (cleanText : Text) (layered : LayeredContent) (a : AdoptArguments) :
    Except MkbError (StructureDocument × RetrievalBlockProjection) := do
  let clean := normalizeLayeredText P cleanText
  Checked.failIf clean.isBlank
    (schemaError "STRUCTURE_KERNEL_EMPTY" "A structure document requires non-empty clean text")
  Checked.failIf (a.generationArtifact.isEmpty || a.cleanArtifact.isEmpty)
    (schemaError "STRUCTURE_BINDING_INVALID" "Generation and clean artifact identities are required")
  Checked.failIf (a.projectionArtifact == a.generationArtifact)
    (schemaError "STRUCTURE_BINDING_INVALID" "Structure and projection artifact identities must be distinct")
  let declared ← declaredGranularities a.granularitySet
  Checked.failIf (a.cleanDigest.any fun d => d != P.textDigest clean)
    (schemaError "STRUCTURE_BINDING_CLEAN_DIGEST" "The selected clean artifact digest does not match its bytes")
  let candidate ← normalizeLayeredCandidate P clean layered (some declared)
  let structure_ := adoptedStructure P clean a.generationArtifact a.cleanArtifact candidate.contextMeta.toDict
  let adopted ← adoptBlocks P clean (fun _ => 0) (candidate.blocks.insertionSort fun a b => a.precedes b = true)
  let projection : RetrievalBlockProjection :=
    ⟨a.projectionArtifact, a.generationArtifact, structureDocumentDigest P.toJsonCodec structure_, adopted.map Prod.fst,
      P.stableDigest (.obj [("coverage", .arr (adopted.map fun r => r.2.json)),
        ("required_g", .arr (declared.map .int))])⟩
  validateStructure P.toJsonCodec structure_ projection clean declared
  return (structure_, projection)

theorem adoptLayeredJson_eq_ok {cleanText : Text} {layered : LayeredContent} {a : AdoptArguments}
    {structure_ : StructureDocument} {projection : RetrievalBlockProjection}
    (h : adoptLayeredJson P cleanText layered a = .ok (structure_, projection)) :
    ∃ declared candidate adopted,
      (normalizeLayeredText P cleanText).isBlank = false ∧ a.projectionArtifact ≠ a.generationArtifact ∧
      (∀ d, a.cleanDigest = some d → d = P.textDigest (normalizeLayeredText P cleanText)) ∧
      normalizeLayeredCandidate P (normalizeLayeredText P cleanText) layered (some declared) = .ok candidate ∧
      adoptBlocks P (normalizeLayeredText P cleanText) (fun _ => 0)
        (candidate.blocks.insertionSort fun a b => a.precedes b = true) = .ok adopted ∧
      structure_ = adoptedStructure P (normalizeLayeredText P cleanText) a.generationArtifact a.cleanArtifact
        candidate.contextMeta.toDict ∧
      projection.generationArtifact = a.projectionArtifact ∧ projection.blocks = adopted.map Prod.fst ∧
      validateStructure P.toJsonCodec structure_ projection (normalizeLayeredText P cleanText) declared = .ok () := by
  unfold adoptLayeredJson at h
  simp only [Checked.bind_ok_iff, Checked.failIf_ok_iff, Checked.pure_ok_iff, Prod.mk.injEq] at h
  obtain ⟨_, hblank, _, -, _, hdistinct, declared, -, _, hdigest, candidate, hcandidate, adopted, hadopted, ⟨⟩, hvalid,
    hstructure, hprojection⟩ := h
  subst hstructure hprojection
  refine ⟨declared, candidate, adopted, hblank, by simpa using hdistinct, ?_, hcandidate, hadopted, rfl, rfl, rfl,
    hvalid⟩
  intro d hd
  rw [hd] at hdigest
  simpa using hdigest

/-! ### summaries -/

/-- The blocks of the projection by granularity and number. -/
def projectionByKey (projection : RetrievalBlockProjection) :
    Except MkbError (List ((Int × Nat) × RetrievalBlock)) :=
  Checked.mapEach projection.blocks fun block => do
    let number ← blockNumber block.blockId
    return ((block.granularity, number), block)

/-- A later entry replaces an earlier one under the same key. -/
def lookupLast {κ α : Type} [BEq κ] (l : List (κ × α)) (k : κ) : Option α := l.reverse.lookup k

def LayeredBlock.projectionKey (block : LayeredBlock) : Int × Nat := (block.granularity, block.blockId)

def alignmentError (message : String) : MkbError := schemaError "CONSTRUCT_KERNEL_ALIGNMENT_INVALID" message

def summaryIncomplete (message : String) : MkbError := schemaError "CONSTRUCT_KERNEL_SUMMARY_INCOMPLETE" message

/-- A block with the summary of its projection block. -/
def fillBlock (byKey : List ((Int × Nat) × RetrievalBlock)) (summaries : Text → Option Text) (block : LayeredBlock) :
    Except MkbError LayeredBlock := do
  let projectionBlock ← Checked.required (lookupLast byKey block.projectionKey)
    (alignmentError "Summary package does not align to the adopted projection")
  let summary ← Checked.required (summaries projectionBlock.blockId)
    (summaryIncomplete "Every adopted block needs a non-empty C summary")
  Checked.failIf summary.isBlank (summaryIncomplete "Every adopted block needs a non-empty C summary")
  return { block with llmSummary := { block.llmSummary with body := some summary } }

/-- Some key of the projection has no block. -/
def leavesUncovered (byKey : List ((Int × Nat) × RetrievalBlock)) (blocks : List LayeredBlock) : Bool :=
  !byKey.all fun entry => (blocks.map LayeredBlock.projectionKey).contains entry.1

/-- `fill_layered_summaries`. -/
def fillLayeredSummaries (accepted : LayeredContent) (projection : RetrievalBlockProjection)
    (summaries : Text → Option Text) : Except MkbError LayeredContent := do
  validateLayeredContent P accepted false true
  let byKey ← projectionByKey projection
  let blocks ← Checked.eachDistinct LayeredBlock.projectionKey
    (alignmentError "Summary package does not align to the adopted projection") (fillBlock byKey summaries) []
    accepted.blocks
  Checked.failIf (leavesUncovered byKey accepted.blocks)
    (alignmentError "Summary package must cover the adopted projection exactly")
  return { accepted with blocks := blocks }

/-- The original that a C block must carry: a blank accepted g0 body stands for the adopted text. -/
def expectedOriginal (acceptedBlock : LayeredBlock) (projectionBlock : RetrievalBlock) : LayeredChannel :=
  if acceptedBlock.granularity == 0 && acceptedBlock.originalContent.body.all Text.isBlank then
    { acceptedBlock.originalContent with body := some projectionBlock.originalText }
  else acceptedBlock.originalContent

/-- The original content of a C block is untouched. -/
def checkOriginal (accepted : Option LayeredContent) (block : LayeredBlock) (projectionBlock : RetrievalBlock) :
    Except MkbError Unit :=
  match accepted with
  | some accepted => do
    let acceptedBlock ← Checked.required
      (lookupLast (accepted.blocks.map fun b => (b.projectionKey, b)) block.projectionKey)
      (schemaError "CONSTRUCT_KERNEL_ORIGINAL_MUTATION" "C may fill summary only; original content is immutable")
    Checked.failIf (block.originalContent != expectedOriginal acceptedBlock projectionBlock)
      (schemaError "CONSTRUCT_KERNEL_ORIGINAL_MUTATION" "C may fill summary only; original content is immutable")
  | none =>
    Checked.failIf (block.originalContent.body != some projectionBlock.originalText)
      (schemaError "CONSTRUCT_KERNEL_ORIGINAL_MUTATION" "C original content does not match the adopted projection")

/-- The summary of one C block. -/
def summaryOf (byKey : List ((Int × Nat) × RetrievalBlock)) (accepted : Option LayeredContent)
    (block : LayeredBlock) : Except MkbError (Text × Text) := do
  let projectionBlock ← Checked.required (lookupLast byKey block.projectionKey)
    (alignmentError "C layered blocks do not align to the adopted projection")
  checkOriginal accepted block projectionBlock
  let body ← Checked.required block.llmSummary.body
    (summaryIncomplete "Every adopted block needs a non-empty C summary")
  Checked.failIf body.isBlank (summaryIncomplete "Every adopted block needs a non-empty C summary")
  return (projectionBlock.blockId, body)

/-- `layered_summary_map`. -/
def layeredSummaryMap (layered : LayeredContent) (projection : RetrievalBlockProjection)
    (accepted : Option LayeredContent) : Except MkbError (List (Text × Text)) := do
  validateLayeredContent P layered true false
  Checked.checkEach accepted.toList fun accepted => validateLayeredContent P accepted false true
  let byKey ← projectionByKey projection
  let summaries ← Checked.eachDistinct LayeredBlock.projectionKey
    (alignmentError "C layered blocks do not align to the adopted projection") (summaryOf byKey accepted) []
    layered.blocks
  Checked.failIf (leavesUncovered byKey layered.blocks)
    (alignmentError "C layered output must cover the adopted projection exactly")
  return summaries

end KnowledgeBase
