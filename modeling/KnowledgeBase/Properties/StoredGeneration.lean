import KnowledgeBase.Lsrag.Construct

/-!
# Stored generations

The parsers of the stored members invert the payloads on every document, and the decoder gives the payloads back
because they are sorted. The members of an adopted generation are therefore re-proven from their bytes against the
text they were adopted from, and bytes that are re-proven are canonical: `storedGeneration_reproved`.
-/

namespace KnowledgeBase

open Checked

variable {β : Type} (J : JsonCodec β)

/-! ### the parsers invert the payloads -/

theorem parseBlock_payload (block : RetrievalBlock) : parseBlock J block.payload = .ok block := by
  obtain ⟨blockId, granularity, refs, spans, originalText, originalDigest⟩ := block
  have hrefs : mapEach (refs.map Json.str) parseRef = .ok refs := mapEach_map (f := Json.str) (fun _ => rfl) refs
  have hspans : mapEach (spans.map TextSpan.spanJson) (parseSpan J) = .ok spans :=
    mapEach_map (parseSpan_payload J) spans
  have hparse : parseBlock J (RetrievalBlock.payload ⟨blockId, granularity, refs, spans, originalText, originalDigest⟩)
      = (do
        let sourceNodeRefs ← mapEach (refs.map Json.str) parseRef
        let orderedSourceSpans ← mapEach (spans.map TextSpan.spanJson) (parseSpan J)
        return ⟨blockId, granularity, sourceNodeRefs, orderedSourceSpans, originalText, originalDigest⟩) := rfl
  rw [hparse, hrefs, hspans]
  rfl

theorem parseRetrievalProjectionPayload_payload (projection : RetrievalBlockProjection) :
    parseRetrievalProjectionPayload J (retrievalProjectionPayload projection) = .ok projection := by
  obtain ⟨generation, structureGeneration, digest, blocks, proof⟩ := projection
  have hblocks : mapEach (blocks.map RetrievalBlock.payload) (parseBlock J) = .ok blocks :=
    mapEach_map (parseBlock_payload J) blocks
  have hparse : parseRetrievalProjectionPayload J
      (retrievalProjectionPayload ⟨generation, structureGeneration, digest, blocks, proof⟩) = (do
        let blocks ← mapEach (blocks.map RetrievalBlock.payload) (parseBlock J)
        return ⟨generation, structureGeneration, digest, blocks, proof⟩) := rfl
  rw [hparse, hblocks]
  rfl

theorem parseStructurePayload_payload (document : StructureDocument) :
    parseStructurePayload J (structurePayload document) = .ok document := by
  obtain ⟨generation, clean, cleanDigest, root, nodes, proof, contextMeta⟩ := document
  have hnodes : mapEach (nodes.map StructureNode.payload) (parseNode J) = .ok nodes :=
    mapEach_map (parseNode_payload J) nodes
  have hparse : parseStructurePayload J
      (structurePayload ⟨generation, clean, cleanDigest, root, nodes, proof, contextMeta⟩) = (do
        let nodes ← mapEach (nodes.map StructureNode.payload) (parseNode J)
        return ⟨generation, clean, cleanDigest, root, nodes, proof, contextMeta⟩) := by
    cases contextMeta with
    | nil => rfl
    | cons m l => rfl
  rw [hparse, hnodes]
  rfl

/-! ### the payloads are sorted -/

theorem sorted_of_keys {members : Json.Dict} (keys : List String) (hm : members.map Prod.fst = keys)
    (hk : keys.Pairwise (· < ·)) (h : ∀ m ∈ members, m.2.Sorted) : (Json.obj members).Sorted :=
  .obj (hm.symm ▸ hk) h

theorem sorted_textSpan_anchorJson (span : TextSpan) : span.anchorJson.Sorted := by
  refine sorted_of_keys ["end_byte", "kind", "start_byte"] rfl (by decide) ?_
  simp only [List.forall_mem_cons]
  exact ⟨.int _, .str _, .int _, by simp⟩

theorem sorted_spanJson (span : TextSpan) : span.spanJson.Sorted := by
  refine sorted_of_keys ["end_byte", "start_byte"] rfl (by decide) ?_
  simp only [List.forall_mem_cons]
  exact ⟨.int _, .int _, by simp⟩

theorem sorted_node_payload (node : StructureNode) : node.payload.Sorted := by
  refine sorted_of_keys ["content_digest", "content_role", "depth", "node_id", "node_kind", "parent_node_id",
    "reading_ordinal", "sibling_ordinal", "source_anchor", "subtree_digest"] rfl (by decide) ?_
  simp only [List.forall_mem_cons]
  exact ⟨.ofOption .str _, .str _, .int _, .str _, .str _, .ofOption .str _, .int _, .int _,
    .ofOption sorted_textSpan_anchorJson _, .str _, by simp⟩

theorem sorted_block_payload (block : RetrievalBlock) : block.payload.Sorted := by
  refine sorted_of_keys ["block_id", "granularity", "ordered_source_spans", "original", "original_digest",
    "source_node_refs"] rfl (by decide) ?_
  simp only [List.forall_mem_cons]
  exact ⟨.str _, .int _, .map sorted_spanJson, .str _, .str _, .map .str, by simp⟩

theorem sorted_retrievalProjectionPayload (projection : RetrievalBlockProjection) :
    (Json.obj (retrievalProjectionPayload projection)).Sorted := by
  refine sorted_of_keys ["blocks", "generation_artifact_uuid", "proof_digest", "schema_version",
    "structure_document_digest", "structure_generation_artifact_uuid"] rfl (by decide) ?_
  unfold retrievalProjectionPayload
  simp only [List.forall_mem_cons]
  exact ⟨.map sorted_block_payload, .str _, .str _, .str _, .str _, .str _, by simp⟩

theorem sorted_structurePayload {document : StructureDocument} (h : (Json.obj document.contextMeta).Sorted) :
    (Json.obj (structurePayload document)).Sorted := by
  obtain ⟨generation, clean, cleanDigest, root, nodes, proof, contextMeta⟩ := document
  have hnodes : (Json.arr (nodes.map StructureNode.payload)).Sorted := .map sorted_node_payload
  cases contextMeta with
  | nil =>
    refine sorted_of_keys ["clean_artifact_uuid", "clean_digest", "document_root_node_id",
      "generation_artifact_uuid", "nodes", "proof_digest", "schema_version"] rfl (by decide) ?_
    simp only [structurePayload, contextMember, List.isEmpty_nil, if_true, List.append_nil, List.cons_append,
      List.nil_append, List.forall_mem_cons]
    exact ⟨.str _, .str _, .str _, .str _, hnodes, .str _, .str _, by simp⟩
  | cons m l =>
    refine sorted_of_keys ["clean_artifact_uuid", "clean_digest", "context_meta", "document_root_node_id",
      "generation_artifact_uuid", "nodes", "proof_digest", "schema_version"] rfl (by decide) ?_
    simp only [structurePayload, contextMember, List.isEmpty_cons, Bool.false_eq_true, if_false, List.cons_append,
      List.nil_append, List.forall_mem_cons]
    exact ⟨.str _, .str _, h, .str _, .str _, hnodes, .str _, .str _, by simp⟩

theorem text_keys (key : String) (field : Option (Option Text)) :
    ((LayeredMeta.text key field).map Prod.fst).Sublist [key] := by
  cases field with
  | none => exact List.nil_sublist _
  | some v => exact List.Sublist.refl _

theorem sorted_text {key : String} {field : Option (Option Text)} {m : String × Json}
    (h : m ∈ LayeredMeta.text key field) : m.2.Sorted := by
  cases field with
  | none => cases h
  | some v =>
    obtain rfl := List.mem_singleton.1 h
    exact .ofOption .str v

theorem tagMember_keys (field : Option (Option (List Text))) :
    ((LayeredMeta.tagMember field).map Prod.fst).Sublist ["tags"] := by
  cases field with
  | none => exact List.nil_sublist _
  | some v => exact List.Sublist.refl _

theorem sorted_tagMember {field : Option (Option (List Text))} {m : String × Json}
    (h : m ∈ LayeredMeta.tagMember field) : m.2.Sorted := by
  cases field with
  | none => cases h
  | some v =>
    obtain rfl := List.mem_singleton.1 h
    exact .ofOption (fun _ => .map .str) v

theorem sorted_toDict (m : LayeredMeta) : (Json.obj m.toDict).Sorted := by
  refine .obj ?_ ?_
  · have hsub : (m.toDict.map Prod.fst).Sublist ["author", "channel", "default_locale", "publisher", "realm",
        "source_name", "source_url", "tags", "title", "type"] := by
      unfold LayeredMeta.toDict
      simp only [List.map_append]
      exact (((((((((text_keys _ _).append (text_keys _ _)).append (text_keys _ _)).append (text_keys _ _)).append
        (text_keys _ _)).append (text_keys _ _)).append (text_keys _ _)).append (tagMember_keys _)).append (text_keys _ _)).append
        (text_keys _ _)
    exact List.Pairwise.sublist hsub (by decide)
  · intro e he
    unfold LayeredMeta.toDict at he
    simp only [List.mem_append] at he
    rcases he with ((((((((h | h) | h) | h) | h) | h) | h) | h) | h) | h
    on_goal 8 => exact sorted_tagMember h
    all_goals exact sorted_text h

/-! ### the re-proof -/

theorem granularities_of_validateStructure {document : StructureDocument} {projection : RetrievalBlockProjection}
    {cleanText : Text} {required : List Int}
    (h : validateStructure J document projection cleanText required = .ok ()) :
    validateStructure J document projection cleanText projection.granularities = .ok () := by
  unfold validateStructure at h ⊢
  rw [bind_ok_iff] at h ⊢
  obtain ⟨u, hanchors, hg⟩ := h
  refine ⟨u, hanchors, ?_⟩
  rw [failIf_ok_iff, Bool.or_eq_false_iff] at hg ⊢
  refine ⟨?_, hg.2⟩
  simp [sameSet]

theorem reprove_of_validateStructure [DecidableEq β] (hinv : J.Inverts) {document : StructureDocument}
    {projection : RetrievalBlockProjection} {cleanText : Text} {required : List Int}
    (hmeta : (Json.obj document.contextMeta).Sorted)
    (h : validateStructure J document projection cleanText required = .ok ()) (errorCode : String) :
    reproveStructureFromStoredPayloads J cleanText (J.canonicalJson (.obj (structurePayload document)))
      (J.canonicalJson (.obj (retrievalProjectionPayload projection))) errorCode = .ok (document, projection) := by
  have hparse : parseStoredPayloads J cleanText (J.canonicalJson (.obj (structurePayload document)))
      (J.canonicalJson (.obj (retrievalProjectionPayload projection))) = .ok (document, projection) := by
    unfold parseStoredPayloads
    rw [hinv _ (sorted_structurePayload hmeta), hinv _ (sorted_retrievalProjectionPayload projection)]
    simp only [bind_ok_iff, required_ok_iff, pure_ok_iff]
    exact ⟨_, rfl, _, rfl, _, rfl, _, rfl, document, parseStructurePayload_payload J document, projection,
      parseRetrievalProjectionPayload_payload J projection, (), granularities_of_validateStructure J h, rfl⟩
  unfold reproveStructureFromStoredPayloads
  rw [hparse]
  simp only [bind_ok_iff, failIf_ok_iff]
  exact ⟨(), by simp, rfl⟩

/-- Bytes that are re-proven are the canonical encoding of the documents they are re-proven as. -/
theorem canonical_of_reprove [DecidableEq β] {cleanText : Text} {structureData projectionData : β}
    {errorCode : String} {document : StructureDocument} {projection : RetrievalBlockProjection}
    (h : reproveStructureFromStoredPayloads J cleanText structureData projectionData errorCode
      = .ok (document, projection)) :
    structureData = J.canonicalJson (.obj (structurePayload document)) ∧
      projectionData = J.canonicalJson (.obj (retrievalProjectionPayload projection)) := by
  unfold reproveStructureFromStoredPayloads at h
  split at h
  · cases h
  · simp only [bind_ok_iff, failIf_ok_iff, pure_ok_iff] at h
    obtain ⟨_, hbytes, rfl⟩ := h
    rw [decide_eq_false_iff_not, not_or, not_not, not_not] at hbytes
    exact hbytes

theorem normalized_of_adopt (P : Platform β) (hdigest : Function.Injective P.textDigest) {cleanText : Text}
    {layered : LayeredContent} {a : AdoptArguments} {structure_ : StructureDocument}
    {projection : RetrievalBlockProjection}
    (h : adoptLayeredJson P cleanText layered a = .ok (structure_, projection))
    (hd : a.cleanDigest = some (P.textDigest cleanText)) : normalizeLayeredText P cleanText = cleanText := by
  obtain ⟨-, -, -, -, -, hdeclared, -⟩ := adoptLayeredJson_eq_ok P h
  exact (hdigest (hdeclared _ hd)).symm

/-- The members of an adopted generation are parsed back and re-proven from their canonical bytes against the
normalized clean text, which is the clean text itself if its own digest was declared; and whatever bytes are
re-proven are canonical. -/
theorem storedGeneration_reproved [DecidableEq β] (P : Platform β) (hinv : P.Inverts)
    (hdigest : Function.Injective P.textDigest) :
    (∀ (cleanText : Text) (layered : LayeredContent) (a : AdoptArguments) (structure_ : StructureDocument)
        (projection : RetrievalBlockProjection) (errorCode : String),
      adoptLayeredJson P cleanText layered a = .ok (structure_, projection) →
      P.loads (P.canonicalJson (.obj (structurePayload structure_))) = some (.obj (structurePayload structure_)) ∧
      parseStructurePayload P.toJsonCodec (structurePayload structure_) = .ok structure_ ∧
      P.loads (P.canonicalJson (.obj (retrievalProjectionPayload projection)))
        = some (.obj (retrievalProjectionPayload projection)) ∧
      parseRetrievalProjectionPayload P.toJsonCodec (retrievalProjectionPayload projection) = .ok projection ∧
      reproveStructureFromStoredPayloads P.toJsonCodec (normalizeLayeredText P cleanText)
        (P.canonicalJson (.obj (structurePayload structure_)))
        (P.canonicalJson (.obj (retrievalProjectionPayload projection))) errorCode = .ok (structure_, projection) ∧
      (a.cleanDigest = some (P.textDigest cleanText) → normalizeLayeredText P cleanText = cleanText)) ∧
    (∀ (cleanText : Text) (structureData projectionData : β) (errorCode : String) (structure_ : StructureDocument)
        (projection : RetrievalBlockProjection),
      reproveStructureFromStoredPayloads P.toJsonCodec cleanText structureData projectionData errorCode
        = .ok (structure_, projection) →
      structureData = P.canonicalJson (.obj (structurePayload structure_)) ∧
        projectionData = P.canonicalJson (.obj (retrievalProjectionPayload projection))) := by
  refine ⟨?_, fun _ _ _ _ _ _ h => canonical_of_reprove _ h⟩
  intro cleanText layered a structure_ projection errorCode h
  obtain ⟨declared, candidate, adopted, -, -, -, -, -, hstructure, -, -, hvalid⟩ := adoptLayeredJson_eq_ok P h
  have hmeta : (Json.obj structure_.contextMeta).Sorted := by
    rw [hstructure]
    exact sorted_toDict _
  exact ⟨hinv _ (sorted_structurePayload hmeta), parseStructurePayload_payload _ _,
    hinv _ (sorted_retrievalProjectionPayload _), parseRetrievalProjectionPayload_payload _ _,
    reprove_of_validateStructure _ hinv hmeta hvalid errorCode, normalized_of_adopt P hdigest h⟩

/-! ### a platform whose bytes are the values themselves -/

/-- The digest of a text is the text. -/
def plainDigest : Json → Text
  | .obj [(_, .str t)] => t
  | _ => []

def plainPlatform : Platform Json where
  canonicalJson v := v
  loads v := some v
  sha256 := plainDigest
  intOf _ := none
  strOf _ := []
  nfc t := t
  isDecimal := Char.isDigit

/-- One g0 block whose body is left to the kernel. -/
def tunnelCandidate : LayeredContent where
  contextMeta := ⟨none, none, none, none, none, none, none, none, none, none⟩
  date := none
  knowledgeTree := none
  blocks := [⟨0, 0, ⟨none, none⟩, ⟨none, none⟩⟩]

def tunnelArguments (cleanDigest : Text) : AdoptArguments :=
  ⟨"structure".toList, none, "clean".toList, some cleanDigest, some [0]⟩

open Classical in
/-- A stored generation of a two-line text. -/
theorem storedGeneration_reproved_tunnel :
    ∃ structure_ projection,
      adoptLayeredJson plainPlatform "a\nb".toList tunnelCandidate (tunnelArguments "a\nb".toList)
        = .ok (structure_, projection) ∧
      reproveStructureFromStoredPayloads plainPlatform.toJsonCodec "a\nb".toList
        (.obj (structurePayload structure_)) (.obj (retrievalProjectionPayload projection)) "" =
          .ok (structure_, projection) := by
  refine ⟨_, _, rfl, ?_⟩
  exact ((storedGeneration_reproved plainPlatform (fun _ _ => rfl) (fun _ _ h => h)).1 "a\nb".toList tunnelCandidate
    (tunnelArguments "a\nb".toList) _ _ "" rfl).2.2.2.2.1

open Classical in
/-- The digest of the normalized text is accepted with a text that is not normalized, which is no text to re-prove
the members against. -/
theorem storedGeneration_not_reproved :
    ¬ ∀ (cleanText : Text) (layered : LayeredContent) (a : AdoptArguments) (structure_ : StructureDocument)
        (projection : RetrievalBlockProjection) (errorCode : String), a.cleanDigest.isSome = true →
      adoptLayeredJson plainPlatform cleanText layered a = .ok (structure_, projection) →
      reproveStructureFromStoredPayloads plainPlatform.toJsonCodec cleanText
        (plainPlatform.canonicalJson (.obj (structurePayload structure_)))
        (plainPlatform.canonicalJson (.obj (retrievalProjectionPayload projection))) errorCode
          = .ok (structure_, projection) := by
  intro h
  have hreproved := h "a\r".toList tunnelCandidate (tunnelArguments "a\n".toList) _ _ "" rfl rfl
  unfold reproveStructureFromStoredPayloads at hreproved
  cases hreproved

end KnowledgeBase
