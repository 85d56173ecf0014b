import KnowledgeBase.Library.Packing
import KnowledgeBase.Lsrag.Construct
import KnowledgeBase.Serving.Acceptance

/-!
# Vectorization

The vectorize stage on a construct package: the plan's texts without their headers, their embeddings by the frozen
profile (live in batches within a character budget, or deterministic), one record for each planned unit, and the
upsert of the records at their coordinates. `F` is the type of an embedding's components.
-/

namespace KnowledgeBase

open Checked Relational

variable {F : Type}

/-- `_LIVE_EMBED_CHAR_BUDGET`. -/
def liveEmbedCharBudget : Nat := 16000

/-- `_embed_bodies` on the content of one item. -/
def embedBody (headers : Headers) (content : Text) : Text :=
  if headers.isEmpty then content
  else if (headerText headers).isPrefixOf content then content.drop (headerText headers).length
  else content

/-! ### live embeddings -/

structure EmbeddingResponse (F : Type) where
  adapterKind : Option Nat
  modelKey : Nat
  modelVersion : Nat
  dimension : Nat
  vectors : List (List F)

/-- What the adapter behind the facade answers to the n-th request. -/
abbrev EmbeddingAdapter (F : Type) := Nat → List Text → Except MkbError (EmbeddingResponse F)

/-- The bounds of an `EmbeddingRequest`. -/
def embeddingRequestValid (texts : List Text) : Bool :=
  1 ≤ texts.length && texts.length ≤ 128 && texts.all fun text => 1 ≤ text.length && text.length ≤ 100000

def vectorValid (isFinite : F → Bool) (dimension : Nat) (vector : List F) : Bool :=
  vector.length == dimension && vector.all isFinite

def spaceViolation : MkbError :=
  ⟨"INFERENCE_SPACE_VIOLATION", "Embedding response conflicts with the frozen Layer A", 422⟩

/-- `_validate_embedding`. -/
def validateEmbedding (isFinite : F → Bool) (layerA : EmbeddingModelRef) (texts : List Text)
    (raw : EmbeddingResponse F) : Except MkbError Unit := do
  failIf (raw.modelKey != layerA.modelKey || raw.modelVersion != layerA.modelVersion ||
    raw.adapterKind.any (fun kind => kind != layerA.adapterKind) || raw.vectors.length != texts.length ||
    raw.dimension != layerA.dimension) spaceViolation
  failIf (!raw.vectors.all (vectorValid isFinite raw.dimension)) spaceViolation

/-- One batch: the request, the answer to it and its check. -/
def embedBatch (isFinite : F → Bool) (layerA : EmbeddingModelRef) (adapter : EmbeddingAdapter F)
    (batch : List Text × Nat) : Except MkbError (EmbeddingResponse F) := do
  failIf (!embeddingRequestValid batch.1) ⟨"VECTORIZE_INFERENCE_FAILED", "Embedding inference failed", 503⟩
  let response ← adapter batch.2 batch.1
  validateEmbedding isFinite layerA batch.1 response
  return response

/-- A space violation and a client error that is no invitation to retry pass through. -/
def inferenceError (e : MkbError) : MkbError :=
  if e.code == "INFERENCE_SPACE_VIOLATION" ||
      (400 ≤ e.status && e.status < 500 && e.status != 408 && e.status != 425 && e.status != 429) then e
  else ⟨"VECTORIZE_INFERENCE_FAILED", e.message, 503⟩

def layerAMismatch : MkbError :=
  ⟨"VECTORIZE_SPACE_LAYER_A_MISMATCH", "Embedding response conflicts with the frozen Layer A", 409⟩

/-- `_live_embeddings`: the texts in greedy batches, and the vectors of the answers put together. -/
def liveEmbeddings (isFinite : F → Bool) (layerA : EmbeddingModelRef) (adapter : EmbeddingAdapter F)
    (texts : List Text) : Except MkbError (List (List F)) := do
  let responses ← (mapEach (Packing.packs List.length liveEmbedCharBudget texts).zipIdx
    (embedBatch isFinite layerA adapter)).mapError inferenceError
  let last ← required responses.getLast?
    ⟨"VECTORIZE_INFERENCE_FAILED", "Embedding inference returned no batches", 503⟩
  let vectors := (responses.map EmbeddingResponse.vectors).flatten
  failIf (last.modelKey != layerA.modelKey || last.modelVersion != layerA.modelVersion ||
    vectors.length != texts.length) layerAMismatch
  failIf (!vectors.all (vectorValid isFinite layerA.dimension)) layerAMismatch
  return vectors

/-- The frozen embedding profile: live, with the adapter if one is configured, or the registered local one. -/
inductive EmbeddingProfile (F : Type)
  | live (adapter : Option (EmbeddingAdapter F))
  | deterministic (embedding : Text → List F)

/-- The embeddings of the required units, in their order. -/
def embedRequired (isFinite : F → Bool) (layerA : EmbeddingModelRef) (headers : Headers)
    (items : List VectorizationUnit) : EmbeddingProfile F → Except MkbError (List (List F))
  | .live adapter => do
    failIf (items.any fun item => liveEmbedCharBudget < item.contentFull.length)
      ⟨"VECTORIZE_BUDGET_CONTENT_FULL", "A required vector unit exceeds the live embedding context budget", 422⟩
    let adapter ← required adapter ⟨"VECTORIZE_INFERENCE_UNAVAILABLE", "Embedding inference is not configured", 503⟩
    liveEmbeddings isFinite layerA adapter (items.map fun item => embedBody headers item.contentFull)
  | .deterministic embedding => return items.map fun item => embedding (embedBody headers item.contentFull)

/-! ### records -/

structure VectorizedRecord (F : Type) where
  record : VectorRecordId
  unitId : Text
  granularity : Int
  channel : Channel
  coordinate : Text
  content : Text
  contentDigest : Text
  embedding : List F

/-- The record of a unit, under the identity that its coordinate already has or a new one. -/
def vectorizedRecord (identity : VectorizationUnit → VectorRecordId) (item : VectorizationUnit) (vector : List F) :
    VectorizedRecord F :=
  ⟨identity item, item.unitId, item.granularity, item.channel, item.coordinate, item.contentFull,
    item.contentFullDigest, vector⟩

/-- `_vectorize_from_construct` up to its transaction: the records to write. -/
def vectorizedRecords {β : Type} (J : JsonCodec β) (isFinite : F → Bool) (document : ConstructionDocument)
    (dual : DualChannelProjection) (headers : Headers) (maxBytes : Nat) (layerA : EmbeddingModelRef)
    (profile : EmbeddingProfile F) (identity : VectorizationUnit → VectorRecordId) :
    Except MkbError (List (VectorizedRecord F)) := do
  let plan ← vectorizationPlan J document dual headers maxBytes
  failIf plan.required.isEmpty
    ⟨"CONSTRUCT_TO_VECTORIZE_GATE", "Construct package has no required vector units", 409⟩
  let vectors ← embedRequired isFinite layerA headers plan.required profile
  failIf (vectors.length != plan.required.length)
    ⟨"VECTORIZE_INFERENCE_FAILED", "Embedding response does not cover the required vector set", 503⟩
  return List.zipWith (vectorizedRecord identity) plan.required vectors

/-! ### the table of vectors -/

/-- The part of a coordinate that all records of one vectorization share. -/
structure VectorScope where
  team : TeamId
  nspace : NamespaceId
  generationArtifact : ArtifactId
  layerA : EmbeddingModelRef
  indexGeneration : Nat
deriving DecidableEq

/-- A row of `mkb_vector_records` with its embedding. -/
structure EmbeddedRow (F : Type) where
  record : VectorRecordId
  scope : VectorScope
  unitId : Text
  channel : Channel
  contentDigest : Text
  embedding : List F
  publicationState : PublicationState
  deletedAt : Option Time

/-- The row is live at the coordinate. -/
def EmbeddedRow.isAt (scope : VectorScope) (unitId : Text) (channel : Channel) (r : EmbeddedRow F) : Bool :=
  r.scope == scope && r.unitId == unitId && r.channel == channel && r.deletedAt.isNone

/-- The row of a record. -/
def VectorizedRecord.row (scope : VectorScope) (r : VectorizedRecord F) : EmbeddedRow F :=
  ⟨r.record, scope, r.unitId, r.channel, r.contentDigest, r.embedding, .withdrawn, none⟩

/-- `UPDATE mkb_vector_records` of an existing coordinate. -/
def EmbeddedRow.refresh (record : VectorizedRecord F) (r : EmbeddedRow F) : EmbeddedRow F :=
  { r with contentDigest := record.contentDigest, embedding := record.embedding, publicationState := .withdrawn }

/-- `_upsert_vector_record_tx`. -/
def upsertVectorRecord {β : Type} (J : JsonCodec β) (scope : VectorScope) (rows : List (EmbeddedRow F))
    (record : VectorizedRecord F) : Except MkbError (List (EmbeddedRow F)) := do
  failIf (record.unitId.isEmpty || record.content.isEmpty || record.contentDigest.isEmpty)
    ⟨"VECTORIZE_INPUT_INVALID", "Vectorization record is incomplete", 422⟩
  failIf (J.textDigest record.content != record.contentDigest)
    ⟨"VECTORIZE_CONTENT_MISMATCH", "Vectorization content digest does not match the recomputed recipe", 409⟩
  match rows.find? fun r => r.isAt scope record.unitId record.channel && r.publicationState == .withdrawn with
  | some existing => do
    failIf (existing.record != record.record)
      ⟨"VECTORIZE_COORDINATE_FENCE", "A vector coordinate was claimed by a different replay", 409⟩
    return updateWhere (fun r => r.record == existing.record && r.deletedAt.isNone) (EmbeddedRow.refresh record) rows
  | none => do
    failIf (rows.any fun r => r.record == record.record || r.isAt scope record.unitId record.channel)
      constraintViolation
    return rows ++ [record.row scope]

/-- The accepted vectorize outcome: its records, and the table with them written. -/
def vectorizeFromConstruct {β : Type} (J : JsonCodec β) (isFinite : F → Bool) (document : ConstructionDocument)
    (dual : DualChannelProjection) (headers : Headers) (maxBytes : Nat) (scope : VectorScope)
    (profile : EmbeddingProfile F) (identity : VectorizationUnit → VectorRecordId) (rows : List (EmbeddedRow F)) :
    Except MkbError (List (VectorizedRecord F) × List (EmbeddedRow F)) := do
  let records ← vectorizedRecords J isFinite document dual headers maxBytes scope.layerA profile identity
  let rows ← foldEach (upsertVectorRecord J scope) rows records
  return (records, rows)

end KnowledgeBase
