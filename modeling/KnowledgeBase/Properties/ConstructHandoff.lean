import KnowledgeBase.Generation.Effects
import KnowledgeBase.Properties.Handoff

/-!
# The re-proof of a construction

What a construct stage accepted, the vectorize stage re-derives from the stage state and the stored bytes: the members
are read back through their receipts, the summaries of the completed package are those the construction was built
from, and a refreshed structure is parsed back from its bytes. What is re-derived equals what is stored, and every
member is current: `constructHandoff_reproved`.
-/

namespace KnowledgeBase

open Checked

variable {β : Type} (K : GenerationPlatform β)

/-! ### the payloads are sorted -/

theorem sorted_construction_unit (unit : ConstructionUnit) : unit.payload.Sorted := by
  refine sorted_of_keys ["coordinate", "granularity", "unit_id"] rfl (by decide) ?_
  simp only [List.forall_mem_cons]
  exact ⟨.str _, .int _, .str _, by simp⟩

theorem sorted_constructionPayload (document : ConstructionDocument) :
    (Json.obj (constructionPayload document)).Sorted := by
  refine sorted_of_keys ["generation_artifact_uuid", "metadata_projection_digest", "projection_digest",
    "projection_generation_artifact_uuid", "proof_digest", "recipe_version", "schema_version",
    "structure_document_digest", "structure_generation_artifact_uuid", "units"] rfl (by decide) ?_
  unfold constructionPayload
  simp only [List.forall_mem_cons]
  exact ⟨.str _, .str _, .str _, .str _, .str _, .str _, .str _, .str _, .str _, .map sorted_construction_unit,
    by simp⟩

theorem sorted_dual_unit (unit : ConstructionUnit) : unit.dualPayload.Sorted := by
  refine sorted_of_keys ["granularity", "original", "original_digest", "summary", "summary_digest", "unit_id"] rfl
    (by decide) ?_
  simp only [List.forall_mem_cons]
  exact ⟨.int _, .str _, .str _, .str _, .str _, .str _, by simp⟩

theorem sorted_dualChannelPayload (dual : DualChannelProjection) : (Json.obj (dualChannelPayload dual)).Sorted := by
  refine sorted_of_keys ["generation_artifact_uuid", "recipe_version", "schema_version", "units"] rfl (by decide) ?_
  unfold dualChannelPayload
  simp only [List.forall_mem_cons]
  exact ⟨.str _, .str _, .str _, .map sorted_dual_unit, by simp⟩

theorem sorted_structureValidation (J : JsonCodec β) (artifactUuid : Text) (structure_ : StructureDocument)
    (projection : RetrievalBlockProjection) :
    (Json.obj (structureValidationReportPayload J artifactUuid structure_ projection)).Sorted := by
  refine sorted_of_keys ["disposition", "generation_artifact_uuid", "proof_digest",
    "retrieval_block_projection_digest", "retrieval_block_projection_generation_artifact_uuid", "schema_version",
    "structure_document_digest", "structure_generation_artifact_uuid"] rfl (by decide) ?_
  unfold structureValidationReportPayload
  simp only [List.forall_mem_cons]
  exact ⟨.str _, .str _, .str _, .str _, .str _, .str _, .str _, .str _, by simp⟩

theorem sorted_constructionValidation (J : JsonCodec β) (artifactUuid : Text) (construction : ConstructionDocument)
    (dual : DualChannelProjection) :
    (Json.obj (constructionValidationReportPayload J artifactUuid construction dual)).Sorted := by
  refine sorted_of_keys ["construction_document_digest", "construction_generation_artifact_uuid", "disposition",
    "dual_channel_generation_artifact_uuid", "dual_channel_proof_digest", "generation_artifact_uuid", "proof_digest",
    "schema_version"] rfl (by decide) ?_
  unfold constructionValidationReportPayload
  simp only [List.forall_mem_cons]
  exact ⟨.str _, .str _, .str _, .str _, .str _, .str _, .str _, .str _, by simp⟩

theorem sorted_projected (r : RevisionContext) : (Json.obj r.projected).Sorted := by
  refine sorted_of_keys ["channel", "realm", "source_name", "tags", "type"] rfl (by decide) ?_
  unfold RevisionContext.projected
  simp only [List.forall_mem_cons]
  exact ⟨.str _, .str _, .str _, .map .str, .str _, by simp⟩

/-! ### the summaries of a full construction -/

theorem lookupLast_eq_lookup {κ α : Type} [BEq κ] [LawfulBEq κ] {l : List (κ × α)} (hl : (l.map Prod.fst).Nodup)
    (k : κ) : lookupLast l k = l.lookup k := by
  by_cases hk : k ∈ l.map Prod.fst
  · obtain ⟨⟨k', a⟩, hmem, rfl⟩ := List.mem_map.1 hk
    rw [lookupLast_of_mem hl hmem, lookup_of_mem hl hmem]
  · rw [lookup_eq_none_of_not_mem hk]
    refine lookup_eq_none_of_not_mem ?_
    rw [List.map_reverse, List.mem_reverse]
    exact hk

theorem summaries_of_construct {J : JsonCodec β} {structure_ : StructureDocument} {projection : RetrievalBlockProjection}
    {cleanText : Text} {summaries : Text → Option Text} {a : ConstructArguments}
    {documents : ConstructionDocument × DualChannelProjection}
    (h : construct J structure_ projection cleanText summaries a = .ok documents) :
    ∀ block ∈ projection.blocks, ∃ summary, summaries block.blockId = some summary ∧ summary.isBlank = false := by
  unfold construct at h
  simp only [bind_ok_iff] at h
  obtain ⟨_, -, _, -, _, -, units, hunits, -⟩ := h
  intro block hblock
  obtain ⟨unit, -, hunit⟩ := mapEach_forall hunits block hblock
  unfold constructUnit at hunit
  simp only [bind_ok_iff, required_ok_iff, failIf_ok_iff] at hunit
  obtain ⟨summary, hsummary, _, hblank, -⟩ := hunit
  exact ⟨summary, hsummary, hblank⟩

theorem deterministicSummaries_keys (projection : RetrievalBlockProjection) :
    (deterministicSummaries projection).map Prod.fst = projection.blocks.map RetrievalBlock.blockId := by
  unfold deterministicSummaries
  rw [List.map_map]
  rfl

theorem summaryMap_deterministic {projection : RetrievalBlockProjection}
    (h : ∀ block ∈ projection.blocks, ∃ summary,
      lookupLast (deterministicSummaries projection) block.blockId = some summary ∧ summary.isBlank = false) :
    SummaryMap projection (lookupLast (deterministicSummaries projection)) := by
  have hdomain : ∀ id, (lookupLast (deterministicSummaries projection) id).isSome = true →
      id ∈ projection.blocks.map RetrievalBlock.blockId := by
    intro id hid
    by_contra hnot
    rw [← deterministicSummaries_keys] at hnot
    have hnone : lookupLast (deterministicSummaries projection) id = none := by
      refine lookup_eq_none_of_not_mem ?_
      rw [List.map_reverse, List.mem_reverse]
      exact hnot
    rw [hnone] at hid
    cases hid
  constructor
  · intro id
    refine ⟨hdomain id, fun hid => ?_⟩
    obtain ⟨block, hblock, rfl⟩ := List.mem_map.1 hid
    obtain ⟨summary, hsummary, -⟩ := h block hblock
    rw [hsummary]
    rfl
  · intro id summary hsummary
    obtain ⟨block, hblock, rfl⟩ := List.mem_map.1 (hdomain id (by rw [hsummary]; rfl))
    obtain ⟨summary', hsummary', hblank⟩ := h block hblock
    rw [hsummary] at hsummary'
    rw [Option.some.inj hsummary']
    exact hblank

/-- The candidate of a full construction is one that S06 normalized for the clean text. -/
def ConstructState.Structurized (s : ConstructState) : Prop :=
  s.mode = .ok .fullConstruct → ∀ clean candidate, s.cleanText = some clean →
    s.layeredContentCandidate = some candidate →
    ∃ layered granularitySet, normalizeLayeredCandidate K.toPlatform clean layered granularitySet = .ok candidate

/-- The source of a refresh is an earlier Execution. -/
def ConstructState.SourceApart (s : ConstructState) (c : ProcessCommand) : Prop :=
  ∀ source, s.metadataRefreshSource = some source → source.sourceExecution ≠ some c.execution

theorem summaryMap_of_complete {P : Platform β} (hn : P.IsNfc) {clean : Text} {accepted layered : LayeredContent}
    {granularitySet : Option (List Int)} {a : AdoptArguments} {structure_ : StructureDocument}
    {projection : RetrievalBlockProjection} {transport : SummaryTransport} {completed : LayeredContent}
    {summaries : List (Text × Text)}
    (hnorm : normalizeLayeredCandidate P clean layered granularitySet = .ok accepted)
    (hadopt : adoptLayeredJson P clean accepted a = .ok (structure_, projection))
    (hcomplete : completeConstructSummaries P projection accepted transport = .ok (completed, summaries))
    (hblocks : ∀ block ∈ projection.blocks, ∃ summary,
      lookupLast summaries block.blockId = some summary ∧ summary.isBlank = false) :
    ∃ entries, layeredSummaryMap P completed projection (some accepted) = .ok entries ∧
      lookupLast entries = lookupLast summaries := by
  have hworker : ∀ returned, mapWorkerPackage P projection accepted returned = .ok (completed, summaries) →
      layeredSummaryMap P completed projection (some accepted) = .ok summaries := by
    intro returned hreturned
    unfold mapWorkerPackage at hreturned
    simp only [bind_ok_iff, pure_ok_iff, Prod.mk.injEq] at hreturned
    obtain ⟨_, -, completed', -, summaries', hmap, rfl, rfl⟩ := hreturned
    exact hmap
  cases transport with
  | claudeCli returned => exact ⟨summaries, hworker returned hcomplete, rfl⟩
  | localInference returned gate salvaged =>
    simp only [completeConstructSummaries] at hcomplete
    split at hcomplete
    · rename_i done hdone
      obtain rfl := Except.ok.inj hcomplete
      exact ⟨summaries, hworker returned hdone, rfl⟩
    · split at hcomplete
      · exact ⟨summaries, hworker salvaged hcomplete, rfl⟩
      · cases hcomplete
  | deterministic =>
    simp only [completeConstructSummaries, bind_ok_iff, pure_ok_iff, Prod.mk.injEq] at hcomplete
    obtain ⟨filled, hfill, rfl, rfl⟩ := hcomplete
    obtain ⟨haccepts, raws, h⟩ := adoption_of_adopt hn hnorm (Or.inr rfl) hadopt
    have hs := summaryMap_deterministic hblocks
    have hlt : ∀ block ∈ accepted.blocks, block.blockId < 10000 := by
      have hkept := hfill
      unfold fillLayeredSummaries at hkept
      simp only [bind_ok_iff] at hkept
      obtain ⟨_, -, byKey, hbyKey, -⟩ := hkept
      exact h.lt_of_projectionByKey hbyKey
    rw [fillLayeredSummaries_eq haccepts h hs hlt] at hfill
    obtain rfl := Except.ok.inj hfill
    refine ⟨_, layeredSummaryMap_eq haccepts h hs hlt, funext fun id => ?_⟩
    rw [lookupLast_eq_lookup, lookup_summaryEntries h haccepts hs]
    unfold summaryEntries
    rw [List.map_map]
    refine List.Nodup.map_on (fun b hb b' hb' hid => ?_) haccepts.nodup.of_map
    exact List.inj_on_of_nodup_map haccepts.nodup hb hb'
      (projectionBlockId_injective (haccepts.granularity b hb) (haccepts.granularity b' hb') hid)

/-! ### the members of an outcome -/

/-- The members that a stage promoted, those of a refreshed structure first. -/
def ConstructOutcome.members (uuids : ConstructUuids) (o : ConstructOutcome β) :
    List (Text × ArtifactType × Json.Dict) :=
  (if o.mode = .metadataRefresh then refreshedMembers K uuids o.inputs else []) ++
    constructionMembers K uuids o.construction o.dual

theorem nodup_memberTypes (uuids : ConstructUuids) (o : ConstructOutcome β) :
    ((o.members K uuids).map fun m => m.2.1).Nodup := by
  unfold ConstructOutcome.members
  split
  · show [ArtifactType.structureDocument, .retrievalBlockProjection, .structureValidationReport,
      .constructionDocument, .dualChannelProjection, .constructionValidationReport].Nodup
    decide
  · show [ArtifactType.constructionDocument, .dualChannelProjection, .constructionValidationReport].Nodup
    decide

/-- The Executions whose pointers the re-proof reads: its own and that of the source. -/
def ConstructState.ReadsPointersOf (s : ConstructState) (c : ProcessCommand) (e : Text) : Prop :=
  e = c.execution ∨ ∃ source, s.metadataRefreshSource = some source ∧ source.sourceExecution = some e

/-- A later store in which the object store returns what was promoted, and rows and pointers are as the stage left
them. -/
structure ConstructOutcome.KeptIn (uuids : ConstructUuids) (o : ConstructOutcome β) (c : ProcessCommand)
    (s : ConstructState) (later : GenerationStore β) : Prop where
  retains : o.store.Retains later c.team fun e _ => s.ReadsPointersOf c e
  returned : ∀ m ∈ o.members K uuids, later.objects c.team (K.sha256 (memberBytes K m)) = some (memberBytes K m)

section Outcome

variable [DecidableEq β] {w later : GenerationStore β} {c : ProcessCommand} {s : ConstructState}
  {transport : SummaryTransport} {uuids : ConstructUuids} {o : ConstructOutcome β}

theorem constructStage_eq_ok (h : constructStage K w c s transport uuids = .ok o) :
    ∃ completed clean, s.mode = .ok o.mode ∧
      stageInputs K w c s o.mode transport uuids = .ok (o.inputs, completed) ∧
      generationCleanText K s "CONSTRUCT_BINDING_CLEAN_DIGEST" = .ok clean ∧
      admitConstruct K.toJsonCodec o.mode clean o.inputs uuids.construction uuids.dual
        = .ok (o.construction, o.dual) ∧
      o.state = constructedState K s o.mode o.inputs completed o.construction
        ((o.members K uuids).map (memberAsset K c)) ∧
      (∀ m ∈ o.members K uuids, declaresUuid (.obj m.2.2) m.1 = true ∧
        o.store.artifacts m.1 = some (assetRow c s (memberAsset K c m)) ∧
        o.store.pointers c.team c.execution m.2.1 = some m.1) ∧
      w.Retains o.store c.team fun e t => e ≠ c.execution ∨ t ∉ (o.members K uuids).map fun m => m.2.1 := by
  unfold constructStage at h
  simp only [bind_ok_iff, pure_ok_iff] at h
  obtain ⟨mode, hmode, ⟨inputs, completed⟩, hinputs, clean, hclean, ⟨construction, dual⟩, hadmit, ⟨assets, promoted⟩,
    hconstructed, ⟨assets', promoted'⟩, hrefreshed, store, haccept, rfl⟩ := h
  obtain ⟨rfl, hdeclares, hretains⟩ := promoteMembers_eq_ok K hconstructed
  obtain ⟨rfl, hdeclares', hretains'⟩ := promoteMembers_eq_ok K hrefreshed
  simp only at haccept
  rw [← List.map_append] at haccept
  have hnodup := nodup_memberTypes K uuids
    (⟨mode, constructedState K s mode inputs completed construction [], store, inputs, construction, dual⟩)
  have htypes : ∀ members : List (Text × ArtifactType × Json.Dict),
      (members.map (memberAsset K c)).map GenerationAsset.artifactType = members.map fun m => m.2.1 := by
    intro members
    rw [List.map_map]
    rfl
  obtain ⟨hassets, hstore⟩ := acceptAssets_eq_ok ((htypes _).symm ▸ hnodup) haccept
  refine ⟨completed, clean, hmode, hinputs, hclean, hadmit, ?_, fun m hm => ?_, ?_⟩
  · show constructedState K s mode inputs completed construction _ = constructedState K s mode inputs completed
      construction _
    rw [← List.map_append]
    rfl
  · obtain ⟨hrow, hpointer⟩ := hassets (memberAsset K c m) (List.mem_map_of_mem hm)
    refine ⟨?_, hrow, hpointer⟩
    rcases List.mem_append.1 hm with hm | hm
    · exact hdeclares' m hm
    · exact hdeclares m hm
  · have hpromoted : w.Retains promoted' c.team fun _ _ => True := hretains.trans hretains'
    rw [htypes] at hstore
    exact (hpromoted.mono fun _ _ _ => trivial).trans hstore

theorem refreshInputs_eq_ok {inputs : ConstructInputs} (h : refreshInputs K w c s uuids = .ok inputs) :
    ∃ contract context, reconstructMetadataRefreshContract K w c s = .ok contract ∧
      inputs.structure_.generationArtifact = uuids.structure_ ∧
      inputs.structure_.contextMeta = RevisionContext.projected context ∧
      inputs.projection.generationArtifact = uuids.projection ∧ inputs.summaries = contract.summaries ∧
      inputs.metadataHeaders = some contract.headers ∧
      inputs.requiredGranularities = inputs.projection.granularities := by
  unfold refreshInputs at h
  simp only [bind_ok_iff, pure_ok_iff] at h
  obtain ⟨contract, hcontract, context, -, rfl⟩ := h
  exact ⟨contract, context, hcontract, rfl, rfl, rfl, rfl, rfl, rfl⟩

theorem stageInputs_refresh {completed : Option LayeredContent} {inputs : ConstructInputs}
    (h : stageInputs K w c s .metadataRefresh transport uuids = .ok (inputs, completed)) :
    refreshInputs K w c s uuids = .ok inputs := by
  obtain ⟨inputs', hinputs, heq⟩ := map_eq_ok h
  rw [hinputs, (Prod.mk.inj heq).1]

theorem member_sorted {completed : Option LayeredContent}
    (hinputs : stageInputs K w c s o.mode transport uuids = .ok (o.inputs, completed)) :
    ∀ m ∈ o.members K uuids, (Json.obj m.2.2).Sorted ∧ m.1.isEmpty = false := by
  have hconstruction : ∀ m ∈ constructionMembers K uuids o.construction o.dual,
      (Json.obj m.2.2).Sorted ∧ m.1.isEmpty = false := by
    unfold constructionMembers
    simp only [List.forall_mem_cons]
    exact ⟨⟨sorted_constructionPayload _, uuids.construction.2⟩, ⟨sorted_dualChannelPayload _, uuids.dual.2⟩,
      ⟨sorted_constructionValidation _ _ _ _, uuids.validation.2⟩, by simp⟩
  intro m hm
  unfold ConstructOutcome.members at hm
  rcases List.mem_append.1 hm with hm | hm
  · split at hm
    · rename_i hmode
      rw [hmode] at hinputs
      obtain ⟨contract, context, -, hstructure, hmeta, hprojection, -⟩ :=
        refreshInputs_eq_ok K (stageInputs_refresh K hinputs)
      have hrefreshed : ∀ m ∈ refreshedMembers K uuids o.inputs, (Json.obj m.2.2).Sorted ∧ m.1.isEmpty = false := by
        unfold refreshedMembers
        simp only [List.forall_mem_cons]
        refine ⟨⟨sorted_structurePayload ?_, ?_⟩, ⟨sorted_retrievalProjectionPayload _, ?_⟩,
          ⟨sorted_structureValidation _ _ _ _, uuids.structureValidation.2⟩, by simp⟩
        · rw [hmeta]
          exact sorted_projected context
        · rw [hstructure]
          exact uuids.structure_.2
        · rw [hprojection]
          exact uuids.projection.2
      exact hrefreshed m hm
    · exact absurd hm List.not_mem_nil
  · exact hconstruction m hm

/-- The members are read back through the receipts of the state, and are current. -/
structure MembersKept (later : GenerationStore β) (c : ProcessCommand) (s' : ConstructState)
    (members : List (Text × ArtifactType × Json.Dict)) : Prop where
  uuid : ∀ m ∈ members, (s'.receipts m.2.1).artifactUuid = some m.1
  read : ∀ m ∈ members, ∀ code, readFrozenGenerationAsset K later c (s'.receipts m.2.1) code = .ok (memberBytes K m)
  current : ∀ m ∈ members, ∀ code, assertGenerationMember later c code m.2.1 (s'.receipts m.2.1) = .ok ()

theorem membersKept_of_stage (hinv : K.Inverts) (hsha : ∀ b, (K.sha256 b).isEmpty = false)
    (h : constructStage K w c s transport uuids = .ok o) (hkept : o.KeptIn K uuids c s later) :
    MembersKept K later c o.state (o.members K uuids) := by
  obtain ⟨completed, clean, -, hinputs, -, -, hstate, hmembers, -⟩ := constructStage_eq_ok K h
  have hreceipt : ∀ m ∈ o.members K uuids, o.state.receipts m.2.1 = (memberAsset K c m).receipt := by
    intro m hm
    have hnodup : (((o.members K uuids).map (memberAsset K c)).map GenerationAsset.artifactType).Nodup := by
      rw [List.map_map]
      exact nodup_memberTypes K uuids o
    rw [hstate]
    exact withReceipts_of_mem hnodup (List.mem_map_of_mem hm)
  have hsorted := member_sorted K hinputs
  refine ⟨fun m hm => ?_, fun m hm code => ?_, fun m hm code => ?_⟩
  · rw [hreceipt m hm]
    rfl
  · rw [hreceipt m hm]
    exact readFrozen_member K hinv hsha (hsorted m hm).1 (hmembers m hm).1 (hsorted m hm).2 (hkept.returned m hm) code
  · obtain ⟨-, hrow, hpointer⟩ := hmembers m hm
    rw [hreceipt m hm]
    refine assertMember_asset K hsha (hsorted m hm).2 (hkept.retains.artifacts _ _ hrow) ?_ code
    rw [hkept.retains.pointers _ _ (Or.inl rfl)]
    exact hpointer

/-! ### the state that is handed on -/

omit [DecidableEq β] in
theorem mode_constructedState (mode : ConstructMode) (inputs : ConstructInputs) (completed : Option LayeredContent)
    (construction : ConstructionDocument) (assets : List GenerationAsset) :
    (constructedState K s mode inputs completed construction assets).mode = .ok mode := by
  cases mode <;> rfl

omit [DecidableEq β] in
theorem generationCleanText_code {code : String} {clean : Text} (h : generationCleanText K s code = .ok clean)
    (code' : String) : generationCleanText K s code' = .ok clean := by
  unfold generationCleanText generationStateText at h ⊢
  simp only [bind_ok_iff, required_ok_iff, failIf_ok_iff, pure_ok_iff] at h ⊢
  exact h

theorem layeredProfile_code {code : String} {profile : List Int} (h : s.layeredProfile code = .ok profile)
    (code' : String) : s.layeredProfile code' = .ok profile := by
  unfold ConstructState.layeredProfile at h ⊢
  simp only [bind_ok_iff, required_ok_iff, failIf_ok_iff, pure_ok_iff] at h ⊢
  exact h

theorem reconstructRefresh_congr (hmode : s.mode = .ok .metadataRefresh) (inputs : ConstructInputs)
    (completed : Option LayeredContent) (construction : ConstructionDocument) (assets : List GenerationAsset) :
    reconstructMetadataRefreshContract K later c
        (constructedState K s .metadataRefresh inputs completed construction assets) =
      reconstructMetadataRefreshContract K later c s := by
  unfold reconstructMetadataRefreshContract metadataRefreshHeadersFromState
  rw [mode_constructedState, hmode]
  rfl

omit [DecidableEq β] in
theorem assertMembers_congr {s' : ConstructState} {members : List ArtifactType}
    (h : ∀ t ∈ members, s'.receipts t = s.receipts t) (code : String) :
    assertGenerationMembers later c s' members code = assertGenerationMembers later c s members code := by
  unfold assertGenerationMembers
  induction members with
  | nil => rfl
  | cons t members ih =>
    unfold checkEach
    beta_reduce
    rw [h t List.mem_cons_self, ih fun u hu => h u (List.mem_cons_of_mem t hu)]

theorem reconstructStructure_congr {assets : List GenerationAsset}
    (h : ∀ t ∈ structureGenerationMembers, t ∉ assets.map GenerationAsset.artifactType) (inputs : ConstructInputs)
    (completed : Option LayeredContent) (construction : ConstructionDocument) :
    reconstructStructureContract K later c
        (constructedState K s .fullConstruct inputs completed construction assets) =
      reconstructStructureContract K later c s := by
  have hreceipts : ∀ t ∈ structureGenerationMembers,
      (constructedState K s .fullConstruct inputs completed construction assets).receipts t = s.receipts t :=
    fun t ht => withReceipts_of_not_mem (h t ht)
  unfold reconstructStructureContract
  rw [assertMembers_congr hreceipts, hreceipts .structureDocument (by decide),
    hreceipts .retrievalBlockProjection (by decide)]
  rfl

/-- A structure that is re-proven was adopted from the candidate of the state for its clean text. -/
theorem reconstructStructure_eq_ok {documents : StructureDocument × RetrievalBlockProjection}
    (h : reconstructStructureContract K w c s = .ok documents) :
    ∃ clean candidate a, s.cleanText = some clean ∧ s.layeredContentCandidate = some candidate ∧
      adoptLayeredJson K.toPlatform clean candidate a = .ok documents := by
  unfold reconstructStructureContract at h
  simp only [bind_ok_iff, pure_ok_iff, required_ok_iff] at h
  obtain ⟨clean, hclean, cleanArtifact, -, structureUuid, -, projectionUuid, -, candidate, hcandidate, profile, -,
    documents', hadopt, _, -, _, -, _, -, _, -, _, -, rfl⟩ := h
  unfold generationCleanText generationStateText at hclean
  simp only [bind_ok_iff, required_ok_iff, pure_ok_iff, Option.filter_eq_some_iff] at hclean
  obtain ⟨clean', ⟨hclean', -⟩, _, -, _, -, rfl⟩ := hclean
  exact ⟨clean', candidate, _, hclean', hcandidate, hadopt⟩

/-! ### the inputs are re-derived -/

omit [DecidableEq β] in
theorem admitConstruct_congr {J : JsonCodec β} {mode : ConstructMode} {clean : Text} {inputs : ConstructInputs}
    {constructionUuid dualUuid : Text} {documents : ConstructionDocument × DualChannelProjection}
    (h : admitConstruct J mode clean inputs constructionUuid dualUuid = .ok documents) {entries : List (Text × Text)}
    (hentries : lookupLast entries = lookupLast inputs.summaries) (hne : entries.isEmpty = false) :
    admitConstruct J mode clean { inputs with summaries := entries } constructionUuid dualUuid = .ok documents := by
  unfold admitConstruct bindConstruct at h ⊢
  simp only [bind_ok_iff, failIf_ok_iff] at h ⊢
  obtain ⟨u, ⟨_, hblank, _, huuids, _, hdistinct, _, -, hheaders⟩, hconstruct⟩ := h
  rw [hentries]
  exact ⟨u, ⟨(), hblank, (), huuids, (), hdistinct, (), hne, hheaders⟩, hconstruct⟩

omit [DecidableEq β] in
theorem construct_of_admit {J : JsonCodec β} {mode : ConstructMode} {clean : Text} {inputs : ConstructInputs}
    {constructionUuid dualUuid : Text} {documents : ConstructionDocument × DualChannelProjection}
    (h : admitConstruct J mode clean inputs constructionUuid dualUuid = .ok documents) :
    inputs.summaries.isEmpty = false ∧
      construct J inputs.structure_ inputs.projection clean (lookupLast inputs.summaries)
        ⟨constructionUuid, some dualUuid, inputs.metadataHeaders.getD [], contentFullV1,
          some inputs.requiredGranularities⟩ = .ok documents := by
  unfold admitConstruct bindConstruct at h
  simp only [bind_ok_iff, failIf_ok_iff] at h
  obtain ⟨_, ⟨_, -, _, -, _, -, _, hne, -⟩, hconstruct⟩ := h
  exact ⟨hne, hconstruct⟩

/-- The inputs of a full construction are re-derived, with summaries that are the same under every block. -/
theorem reproveFull_of_stage (hn : K.IsNfc) (hs : s.Structurized K)
    (h : constructStage K w c s transport uuids = .ok o) (hmode : o.mode = .fullConstruct)
    (hkept : o.KeptIn K uuids c s later) :
    ∃ entries, reproveInputs K later c o.state o.mode = .ok { o.inputs with summaries := entries } ∧
      lookupLast entries = lookupLast o.inputs.summaries ∧ entries.isEmpty = false := by
  obtain ⟨completed, clean, hstageMode, hinputs, -, hadmit, hstate, -, hretains⟩ := constructStage_eq_ok K h
  obtain ⟨hnonempty, hconstruct⟩ := construct_of_admit hadmit
  have htypes : ∀ t ∈ structureGenerationMembers, t ∉ (o.members K uuids).map fun m => m.2.1 := by
    unfold ConstructOutcome.members
    rw [hmode, if_neg (by decide)]
    show ∀ t ∈ structureGenerationMembers, t ∉ [ArtifactType.constructionDocument, .dualChannelProjection,
      .constructionValidationReport]
    decide
  have hassets : ∀ t ∈ structureGenerationMembers,
      t ∉ ((o.members K uuids).map (memberAsset K c)).map GenerationAsset.artifactType := by
    rw [List.map_map]
    exact htypes
  have hlater : w.Retains later c.team fun e t => e = c.execution ∧ t ∈ structureGenerationMembers :=
    (hretains.mono fun e t he => Or.inr (htypes t he.2)).trans (hkept.retains.mono fun e t he => Or.inl he.1)
  rw [hmode] at hinputs hstate hstageMode ⊢
  obtain ⟨⟨inputs, package⟩, hfull, heq⟩ := map_eq_ok hinputs
  obtain ⟨hinputsEq, hcompleted⟩ := Prod.mk.inj heq
  simp only at hinputsEq hcompleted
  unfold fullInputs at hfull
  simp only [bind_ok_iff, required_ok_iff, pure_ok_iff, Prod.mk.injEq] at hfull
  obtain ⟨documents, hdocuments, accepted, haccepted, profile, hprofile, ⟨filled, summaries⟩, hcomplete, hbuilt,
    hpackage⟩ := hfull
  rw [← hbuilt] at hinputsEq
  obtain ⟨cleanText, candidate, a, hcleanText, hcandidate, hadopt⟩ := reconstructStructure_eq_ok K hdocuments
  obtain rfl : accepted = candidate := Option.some.inj (haccepted.symm.trans hcandidate)
  obtain ⟨layered, granularitySet, hnorm⟩ := hs hstageMode cleanText accepted hcleanText haccepted
  rw [← hinputsEq] at hconstruct hnonempty ⊢
  have hblocks := summaries_of_construct hconstruct
  obtain ⟨entries, hentries, hlookup⟩ := summaryMap_of_complete hn hnorm hadopt hcomplete hblocks
  refine ⟨entries, ?_, hlookup, ?_⟩
  · have hstructure : reconstructStructureContract K later c o.state = .ok documents := by
      rw [hstate, reconstructStructure_congr K hassets]
      exact reconstructStructure_mono K hlater s (fun t ht => ⟨rfl, ht⟩) documents hdocuments
    have hstateCompleted : o.state.layeredContentConstructed = some filled := by
      rw [hstate, ← hcompleted, ← hpackage]
      rfl
    have hstateAccepted : o.state.layeredContentCandidate = some accepted := by
      rw [hstate]
      exact haccepted
    have hstateProfile : o.state.layeredProfile "CONSTRUCT_TO_VECTORIZE_GATE" = .ok profile := by
      rw [hstate]
      exact layeredProfile_code (s := s) hprofile _
    unfold reproveInputs reproveFullInputs
    simp only [bind_ok_iff, required_ok_iff, pure_ok_iff]
    exact ⟨documents, hstructure, accepted, hstateAccepted, filled, hstateCompleted, entries, hentries, profile,
      hstateProfile, rfl⟩
  · by_contra hempty
    rw [Bool.not_eq_false, List.isEmpty_iff] at hempty
    subst hempty
    simp only at hnonempty hlookup
    cases summaries with
    | nil => exact absurd hnonempty (by simp)
    | cons entry rest =>
      have hsome : (lookupLast (entry :: rest) entry.1).isSome = true := by
        unfold lookupLast
        rw [List.lookup_isSome_iff]
        exact ⟨entry, by simp, by simp⟩
      rw [← hlookup] at hsome
      cases hsome

theorem reproveRefresh_of_stage (hinv : K.Inverts) (hsha : ∀ b, (K.sha256 b).isEmpty = false)
    (hsource : s.SourceApart c) (h : constructStage K w c s transport uuids = .ok o)
    (hmode : o.mode = .metadataRefresh) (hkept : o.KeptIn K uuids c s later) :
    reproveInputs K later c o.state o.mode = .ok o.inputs := by
  have hmembers := membersKept_of_stage K hinv hsha h hkept
  obtain ⟨completed, clean, hstageMode, hinputs, hclean, hadmit, hstate, -, hretains⟩ := constructStage_eq_ok K h
  obtain ⟨-, hconstruct⟩ := construct_of_admit hadmit
  have hlater : w.Retains later c.team fun e _ =>
      ∃ source, s.metadataRefreshSource = some source ∧ source.sourceExecution = some e := by
    refine (hretains.mono fun e t he => Or.inl ?_).trans (hkept.retains.mono fun e t he => Or.inr he)
    obtain ⟨source, hs, he⟩ := he
    rintro rfl
    exact hsource source hs he
  have hrefreshed : ∀ m ∈ refreshedMembers K uuids o.inputs, m ∈ o.members K uuids := by
    intro m hm
    unfold ConstructOutcome.members
    rw [hmode, if_pos rfl]
    exact List.mem_append_left _ hm
  rw [hmode] at hinputs hstate hstageMode ⊢
  obtain ⟨contract, context, hcontract, hstructure, hmeta, hprojection, hsummaries, hheaders, hgranularities⟩ :=
    refreshInputs_eq_ok K (stageInputs_refresh K hinputs)
  have hvalid : validateStructure K.toJsonCodec o.inputs.structure_ o.inputs.projection clean
      (ConstructArguments.granularities ⟨uuids.construction, some uuids.dual, o.inputs.metadataHeaders.getD [],
        contentFullV1, some o.inputs.requiredGranularities⟩ o.inputs.projection) = .ok () := by
    unfold construct at hconstruct
    obtain ⟨_, hvalid, -⟩ := bind_ok_iff.1 hconstruct
    exact hvalid
  have hsorted : (Json.obj o.inputs.structure_.contextMeta).Sorted := by
    rw [hmeta]
    exact sorted_projected context
  unfold reproveInputs reproveRefreshInputs
  simp only [bind_ok_iff, failIf_ok_iff, pure_ok_iff]
  refine ⟨contract, ?_, _, hmembers.read _ (hrefreshed _ List.mem_cons_self) _, _,
    hmembers.read _ (hrefreshed _ (List.mem_cons_of_mem _ List.mem_cons_self)) _, clean, ?_,
    (o.inputs.structure_, o.inputs.projection), reprove_of_validateStructure _ hinv hsorted hvalid _, _,
    hmembers.read _ (hrefreshed _ (List.mem_cons_of_mem _ (List.mem_cons_of_mem _ List.mem_cons_self))) _, (), ?_, (),
    ?_, ?_⟩
  · rw [hstate, reconstructRefresh_congr K hstageMode]
    exact reconstructRefresh_mono K hlater s (fun source e hs he _ => ⟨source, hs, he⟩) contract hcontract
  · rw [hstate]
    exact generationCleanText_code K (s := s) hclean _
  · have huuid := hmembers.uuid _ (hrefreshed _ (List.mem_cons_of_mem _ (List.mem_cons_of_mem _ List.mem_cons_self)))
    rw [show (o.state.receipts .structureValidationReport).artifactUuid = some uuids.structureValidation.1 from huuid]
    exact decide_eq_false fun hne => hne rfl
  · refine checkEach_ok_iff.2 fun t ht => ?_
    have hmember : ∃ m ∈ refreshedMembers K uuids o.inputs, m.2.1 = t := by
      simp only [structureGenerationMembers, List.mem_cons, List.not_mem_nil, or_false] at ht
      rcases ht with rfl | rfl | rfl
      · exact ⟨_, List.mem_cons_self, rfl⟩
      · exact ⟨_, List.mem_cons_of_mem _ List.mem_cons_self, rfl⟩
      · exact ⟨_, List.mem_cons_of_mem _ (List.mem_cons_of_mem _ List.mem_cons_self), rfl⟩
    obtain ⟨m, hm, rfl⟩ := hmember
    exact hmembers.current m (hrefreshed m hm) _
  · rw [← hsummaries, ← hheaders, ← hgranularities]

/-! ### what a re-proof has checked -/

/-- The bytes that the store holds under a receipt. -/
def GenerationStore.stored (w : GenerationStore β) (c : ProcessCommand) (r : MemberReceipt) : Option β :=
  r.logicalHandle.bind fun handle => w.objects c.team handle.digest

/-- The member of the receipt is the current one of its Execution. -/
def GenerationStore.IsCurrent (w : GenerationStore β) (c : ProcessCommand) (t : ArtifactType) (r : MemberReceipt) :
    Prop :=
  ∃ artifactUuid, r.artifactUuid = some artifactUuid ∧ w.pointers c.team c.execution t = some artifactUuid

omit [DecidableEq β] in
theorem readFrozen_stored {r : MemberReceipt} {code : String} {data : β}
    (h : readFrozenGenerationAsset K w c r code = .ok data) : w.stored c r = some data := by
  unfold readFrozenGenerationAsset GenerationStore.readVerified at h
  simp only [bind_ok_iff, failIf_ok_iff, required_ok_iff, pure_ok_iff] at h
  obtain ⟨_, -, handle, hhandle, _, -, _, -, data', ⟨_, -, data'', hobject, _, -, rfl⟩, _, -, _, -, _, -, rfl⟩ := h
  unfold GenerationStore.stored
  rw [hhandle]
  exact hobject

omit [DecidableEq β] in
theorem assertMember_code {t : ArtifactType} {r : MemberReceipt} {code : String}
    (h : assertGenerationMember w c code t r = .ok ()) (code' : String) :
    assertGenerationMember w c code' t r = .ok () := by
  unfold assertGenerationMember generationStateText generationSize at h ⊢
  simp only [bind_ok_iff, failIf_ok_iff, required_ok_iff] at h ⊢
  exact h

omit [DecidableEq β] in
theorem current_of_assertMember {t : ArtifactType} {r : MemberReceipt} {code : String}
    (h : assertGenerationMember w c code t r = .ok ()) : w.IsCurrent c t r := by
  unfold assertGenerationMember generationStateText at h
  simp only [bind_ok_iff, failIf_ok_iff, required_ok_iff, Option.filter_eq_some_iff] at h
  obtain ⟨artifactUuid, ⟨huuid, -⟩, _, -, _, -, _, -, _, -, hpointer⟩ := h
  exact ⟨artifactUuid, huuid, by simpa using hpointer⟩

omit [DecidableEq β] in
theorem assertMembers_eq_ok {members : List ArtifactType} {code : String} {u : Unit} :
    assertGenerationMembers w c s members code = .ok u ↔
      ∀ t ∈ members, assertGenerationMember w c code t (s.receipts t) = .ok () :=
  checkEach_ok_iff

/-- What the re-derived inputs agree with: the stored structure and projection, whose members are current. -/
theorem reproveInputs_eq_ok {mode : ConstructMode} {inputs : ConstructInputs}
    (h : reproveInputs K w c s mode = .ok inputs) :
    w.stored c (s.receipts .structureDocument) = some (K.canonicalJson (.obj (structurePayload inputs.structure_))) ∧
    w.stored c (s.receipts .retrievalBlockProjection)
      = some (K.canonicalJson (.obj (retrievalProjectionPayload inputs.projection))) ∧
    ∀ t ∈ structureGenerationMembers, ∀ code, assertGenerationMember w c code t (s.receipts t) = .ok () := by
  cases mode with
  | metadataRefresh =>
    unfold reproveInputs reproveRefreshInputs at h
    simp only [bind_ok_iff, pure_ok_iff] at h
    obtain ⟨_, -, structureData, hstructure, projectionData, hprojection, clean, -, documents, hreprove, _, -, _, -, _,
      hmembers, rfl⟩ := h
    obtain ⟨hs, hp⟩ := canonical_of_reprove _ hreprove
    refine ⟨?_, ?_, fun t ht code => assertMember_code (assertMembers_eq_ok.1 hmembers t ht) code⟩
    · rw [readFrozen_stored K hstructure, hs]
    · rw [readFrozen_stored K hprojection, hp]
  | fullConstruct =>
    unfold reproveInputs reproveFullInputs reconstructStructureContract at h
    simp only [bind_ok_iff, pure_ok_iff] at h
    obtain ⟨documents, ⟨_, -, _, -, _, -, _, -, _, -, _, -, documents', -, structureData, hstructure, projectionData,
      hprojection, _, hbytes, _, -, _, hmembers, rfl⟩, _, -, _, -, _, -, _, -, rfl⟩ := h
    rw [failIf_ok_iff, decide_eq_false_iff_not, not_or, not_not, not_not] at hbytes
    refine ⟨?_, ?_, fun t ht code => assertMember_code (assertMembers_eq_ok.1 hmembers t ht) code⟩
    · rw [readFrozen_stored K hstructure, hbytes.1]
    · rw [readFrozen_stored K hprojection, hbytes.2]

/-- What the vectorize stage has re-proven: the stored members are those of the re-derived documents, which are
constructed from the re-derived structure and projection, and all six members are current. -/
structure Reproven (w : GenerationStore β) (c : ProcessCommand) (s : ConstructState) (inputs : ConstructInputs)
    (construction : ConstructionDocument) (dual : DualChannelProjection) : Prop where
  storedStructure : w.stored c (s.receipts .structureDocument)
    = some (K.canonicalJson (.obj (structurePayload inputs.structure_)))
  storedProjection : w.stored c (s.receipts .retrievalBlockProjection)
    = some (K.canonicalJson (.obj (retrievalProjectionPayload inputs.projection)))
  storedConstruction : w.stored c (s.receipts .constructionDocument)
    = some (K.canonicalJson (.obj (constructionPayload construction)))
  storedDual : w.stored c (s.receipts .dualChannelProjection) = some (K.canonicalJson (.obj (dualChannelPayload dual)))
  structureDigest : construction.structureDocumentDigest = structureDocumentDigest K.toJsonCodec inputs.structure_
  projectionDigest : construction.projectionDigest = projectionDigest K.toJsonCodec inputs.projection
  current : ∀ t ∈ metadataRefreshSourceTypes, w.IsCurrent c t (s.receipts t)

/-- A re-proof that succeeds has compared every stored member, and the gate every pointer. -/
theorem rebuilt_of_reconstruct {inputs : ConstructInputs} {construction : ConstructionDocument}
    {dual : DualChannelProjection}
    (h : reconstructConstructContract K w c s = .ok (inputs, construction, dual))
    (hgate : assertConstructToVectorizeGate w c s = .ok ()) : Reproven K w c s inputs construction dual := by
  unfold reconstructConstructContract at h
  simp only [bind_ok_iff, pure_ok_iff, Prod.mk.injEq] at h
  obtain ⟨mode, hmode, inputs', hinputs, _, -, _, -, clean, -, ⟨construction', dual'⟩, hadmit, constructionData,
    hconstruction, dualData, hdual, _, hbytes, _, -, rfl, hdocuments⟩ := h
  obtain ⟨rfl, rfl⟩ := Prod.mk.inj hdocuments
  rw [failIf_ok_iff, decide_eq_false_iff_not, not_or, not_not, not_not] at hbytes
  obtain ⟨hstructure, hprojection, hmembers⟩ := reproveInputs_eq_ok K hinputs
  obtain ⟨-, hconstruct⟩ := construct_of_admit hadmit
  have hdigests : construction'.structureDocumentDigest = structureDocumentDigest K.toJsonCodec inputs'.structure_ ∧
      construction'.projectionDigest = projectionDigest K.toJsonCodec inputs'.projection := by
    unfold construct at hconstruct
    simp only [bind_ok_iff, pure_ok_iff, Prod.mk.injEq] at hconstruct
    obtain ⟨_, -, _, -, _, -, units, -, _, -, rfl, -⟩ := hconstruct
    exact ⟨rfl, rfl⟩
  have houtputs : ∀ t ∈ constructionOutputMembers, w.IsCurrent c t (s.receipts t) := by
    unfold assertConstructToVectorizeGate at hgate
    obtain ⟨mode', -, hgate⟩ := bind_ok_iff.1 hgate
    intro t ht
    refine current_of_assertMember (assertMembers_eq_ok.1 hgate t ?_)
    split
    · exact ht
    · exact List.mem_append_right _ ht
  refine ⟨hstructure, hprojection, ?_, ?_, hdigests.1, hdigests.2, fun t ht => ?_⟩
  · rw [readFrozen_stored K hconstruction, hbytes.1]
  · rw [readFrozen_stored K hdual, hbytes.2]
  · rcases List.mem_append.1 ht with ht | ht
    · exact current_of_assertMember (hmembers t ht "")
    · exact houtputs t ht

/-! ### an accepted construction is re-proven -/

/-- The re-proof and the gate go through on what an accepted stage left. -/
theorem reproven_of_stage (hinv : K.Inverts) (hn : K.IsNfc) (hsha : ∀ b, (K.sha256 b).isEmpty = false)
    (hs : s.Structurized K) (hsource : s.SourceApart c) (h : constructStage K w c s transport uuids = .ok o)
    (hkept : o.KeptIn K uuids c s later) :
    (∃ inputs, reconstructConstructContract K later c o.state = .ok (inputs, o.construction, o.dual)) ∧
      assertConstructToVectorizeGate later c o.state = .ok () := by
  have hmembers := membersKept_of_stage K hinv hsha h hkept
  obtain ⟨completed, clean, -, -, hclean, hadmit, hstate, -, -⟩ := constructStage_eq_ok K h
  have hmode : o.state.mode = .ok o.mode := by
    rw [hstate]
    exact mode_constructedState K _ _ _ _ _
  have hinputs : ∃ inputs, reproveInputs K later c o.state o.mode = .ok inputs ∧
      admitConstruct K.toJsonCodec o.mode clean inputs uuids.construction uuids.dual
        = .ok (o.construction, o.dual) := by
    cases hm : o.mode with
    | fullConstruct =>
      obtain ⟨entries, hentries, hlookup, hne⟩ := reproveFull_of_stage K hn hs h hm hkept
      rw [hm] at hentries hadmit
      exact ⟨_, hentries, admitConstruct_congr hadmit hlookup hne⟩
    | metadataRefresh =>
      have hreproved := reproveRefresh_of_stage K hinv hsha hsource h hm hkept
      rw [hm] at hreproved hadmit
      exact ⟨_, hreproved, hadmit⟩
  obtain ⟨inputs, hinputs, hadmit'⟩ := hinputs
  have houtput : ∀ m ∈ constructionMembers K uuids o.construction o.dual, m ∈ o.members K uuids :=
    fun m hm => List.mem_append_right _ hm
  have hconstruction := houtput _ List.mem_cons_self
  have hdual := houtput _ (List.mem_cons_of_mem _ List.mem_cons_self)
  have hvalidation := houtput _ (List.mem_cons_of_mem _ (List.mem_cons_of_mem _ List.mem_cons_self))
  constructor
  · refine ⟨inputs, ?_⟩
    unfold reconstructConstructContract
    simp only [bind_ok_iff, pure_ok_iff, failIf_ok_iff]
    refine ⟨o.mode, hmode, inputs, hinputs, uuids.construction.1, ?_, uuids.dual.1, ?_, clean, ?_, _, hadmit', _,
      hmembers.read _ hconstruction _, _, hmembers.read _ hdual _, (), ?_, (), ?_, rfl⟩
    · rw [show (o.state.receipts .constructionDocument).artifactUuid = some uuids.construction.1 from
        hmembers.uuid _ hconstruction]
      exact generationStateText_some uuids.construction.2 _ _
    · rw [show (o.state.receipts .dualChannelProjection).artifactUuid = some uuids.dual.1 from
        hmembers.uuid _ hdual]
      exact generationStateText_some uuids.dual.2 _ _
    · rw [hstate]
      exact generationCleanText_code K (s := s) hclean _
    · exact decide_eq_false fun hne => hne.elim (fun hne => hne rfl) fun hne => hne rfl
    · rw [hstate]
      exact bne_self_eq_false _
  · have hstructure := (reproveInputs_eq_ok K hinputs).2.2
    have houtputs : ∀ t ∈ constructionOutputMembers,
        assertGenerationMember later c "CONSTRUCT_TO_VECTORIZE_GATE" t (o.state.receipts t) = .ok () := by
      intro t ht
      simp only [constructionOutputMembers, List.mem_cons, List.not_mem_nil, or_false] at ht
      rcases ht with rfl | rfl | rfl
      · exact hmembers.current _ hconstruction _
      · exact hmembers.current _ hdual _
      · exact hmembers.current _ hvalidation _
    unfold assertConstructToVectorizeGate
    rw [bind_ok_iff]
    refine ⟨o.mode, hmode, assertMembers_eq_ok.2 fun t ht => ?_⟩
    split at ht
    · exact houtputs t ht
    · rcases List.mem_append.1 ht with ht | ht
      · exact hstructure t ht _
      · exact houtputs t ht

end Outcome

/-- What a construct stage accepted is re-proven from the state it handed on, in every later store that returns the
stored bytes and kept the rows and pointers: the very construction and dual channel are rebuilt and the gate opens. And
whatever is re-proven past the gate agrees with every stored member, all of them current. -/
theorem constructHandoff_reproved [DecidableEq β] (K : GenerationPlatform β) (hinv : K.Inverts) (hn : K.IsNfc)
    (hsha : ∀ b, (K.sha256 b).isEmpty = false) :
    (∀ (w later : GenerationStore β) (c : ProcessCommand) (s : ConstructState) (transport : SummaryTransport)
        (uuids : ConstructUuids) (o : ConstructOutcome β),
      s.Structurized K → s.SourceApart c → constructStage K w c s transport uuids = .ok o →
      o.KeptIn K uuids c s later →
      (∃ inputs, reconstructConstructContract K later c o.state = .ok (inputs, o.construction, o.dual)) ∧
        assertConstructToVectorizeGate later c o.state = .ok ()) ∧
    (∀ (w : GenerationStore β) (c : ProcessCommand) (s : ConstructState) (inputs : ConstructInputs)
        (construction : ConstructionDocument) (dual : DualChannelProjection),
      reconstructConstructContract K w c s = .ok (inputs, construction, dual) →
      assertConstructToVectorizeGate w c s = .ok () → Reproven K w c s inputs construction dual) :=
  ⟨fun _ _ _ _ _ _ _ hs hsource h hkept => reproven_of_stage K hinv hn hsha hs hsource h hkept,
    fun _ _ _ _ _ _ h hgate => rebuilt_of_reconstruct K h hgate⟩

/-! ### a full construction without workers -/

namespace Json

mutual

def beqJson : Json → Json → Bool
  | .null, .null => true
  | .bool a, .bool b => a == b
  | .int a, .int b => a == b
  | .float a, .float b => a == b
  | .str a, .str b => a == b
  | .arr a, .arr b => beqItems a b
  | .obj a, .obj b => beqMembers a b
  | _, _ => false

def beqItems : List Json → List Json → Bool
  | [], [] => true
  | v :: l, v' :: l' => beqJson v v' && beqItems l l'
  | _, _ => false

def beqMembers : List (String × Json) → List (String × Json) → Bool
  | [], [] => true
  | (k, v) :: l, (k', v') :: l' => k == k' && beqJson v v' && beqMembers l l'
  | _, _ => false

end

mutual

theorem eq_of_beqJson {v v' : Json} (h : beqJson v v' = true) : v = v' := by
  cases v <;> cases v' <;> simp only [beqJson, beq_iff_eq, Bool.false_eq_true] at h
  case null.null => rfl
  case arr.arr => exact congrArg arr (eq_of_beqItems h)
  case obj.obj => exact congrArg obj (eq_of_beqMembers h)
  all_goals rw [h]

theorem eq_of_beqItems {l l' : List Json} (h : beqItems l l' = true) : l = l' := by
  match l, l' with
  | [], [] => rfl
  | [], _ :: _ => simp [beqItems] at h
  | _ :: _, [] => simp [beqItems] at h
  | v :: l, v' :: l' =>
    simp only [beqItems, Bool.and_eq_true] at h
    rw [eq_of_beqJson h.1, eq_of_beqItems h.2]

theorem eq_of_beqMembers {l l' : List (String × Json)} (h : beqMembers l l' = true) : l = l' := by
  match l, l' with
  | [], [] => rfl
  | [], _ :: _ => simp [beqMembers] at h
  | _ :: _, [] => simp [beqMembers] at h
  | (k, v) :: l, (k', v') :: l' =>
    simp only [beqMembers, Bool.and_eq_true, beq_iff_eq] at h
    rw [h.1.1, eq_of_beqJson h.1.2, eq_of_beqMembers h.2]

end

mutual

theorem beqJson_self (v : Json) : beqJson v v = true := by
  cases v <;> simp only [beqJson, beq_self_eq_true]
  · exact beqItems_self _
  · exact beqMembers_self _

theorem beqItems_self (l : List Json) : beqItems l l = true := by
  match l with
  | [] => rfl
  | v :: l => simp only [beqItems, beqJson_self v, beqItems_self l, Bool.and_self]

theorem beqMembers_self (l : List (String × Json)) : beqMembers l l = true := by
  match l with
  | [] => rfl
  | (k, v) :: l => simp only [beqMembers, beqJson_self v, beqMembers_self l, beq_self_eq_true, Bool.and_self]

end

instance : DecidableEq Json := fun v v' =>
  decidable_of_iff (beqJson v v' = true) ⟨eq_of_beqJson, fun h => h ▸ beqJson_self v⟩

end Json

/-- The digest of a member is its identity, that of a text the text. -/
def memberDigest : Json → Text
  | .obj members =>
    match members.lookup "generation_artifact_uuid" with
    | some (.str t) => 'd' :: t
    | _ => 'd' :: plainDigest (.obj members)
  | _ => ['d']

def memberPlatform : GenerationPlatform Json where
  canonicalJson v := v
  loads v := some v
  sha256 := memberDigest
  intOf _ := none
  strOf _ := []
  nfc t := t
  isDecimal := Char.isDigit
  byteSize _ := 1

def tunnelCommand : ProcessCommand := ⟨"team".toList, "task".toList, "execution".toList⟩

def tunnelUuids : ConstructUuids :=
  ⟨⟨"c".toList, rfl⟩, ⟨"x".toList, rfl⟩, ⟨"v".toList, rfl⟩, ⟨"s".toList, rfl⟩, ⟨"p".toList, rfl⟩, ⟨"r".toList, rfl⟩⟩

/-- The state before the structure members are promoted. -/
def tunnelState (candidate : LayeredContent) : ConstructState where
  cleanText := some "ab".toList
  cleanDigest := some (memberPlatform.textDigest "ab".toList)
  cleanArtifact := some "clean".toList
  intakeItem := some "item".toList
  intakeRevision := some "revision".toList
  constructMode := none
  layeredContentCandidate := some candidate
  layeredContentConstructed := none
  layeredContentProfile := some [0]
  granularitySet := none
  promptGranularitySet := none
  receipts _ := ⟨none, none, none, none⟩
  structureDocumentDigest := none
  projectionDigest := none
  constructionDocumentDigest := none
  metadataRefreshMode := none
  metadataFingerprint := none
  metadataMergedSemantics := none
  metadataRefreshHeaders := none
  metadataRefreshSource := none
  frozenTarget := none

/-- The store and the state after the structure stage of a two-letter text. -/
def tunnelStructurized : Except MkbError (GenerationStore Json × ConstructState) := do
  let candidate ← normalizeLayeredCandidate memberPlatform.toPlatform "ab".toList tunnelCandidate (some [0])
  let documents ← adoptLayeredJson memberPlatform.toPlatform "ab".toList candidate
    ⟨"s".toList, some "p".toList, "clean".toList, some (memberPlatform.textDigest "ab".toList), some [0]⟩
  let promoted ← promoteMembers memberPlatform tunnelCommand ⟨fun _ _ => none, fun _ => none, fun _ _ _ => none,
      fun _ _ => []⟩ (refreshedMembers memberPlatform tunnelUuids ⟨documents.1, documents.2, [], none, []⟩)
  let store ← acceptAssets promoted.2 tunnelCommand (tunnelState candidate) promoted.1
  return (store, { tunnelState candidate with
    receipts := withReceipts (tunnelState candidate).receipts promoted.1
    structureDocumentDigest := some (structureDocumentDigest memberPlatform.toJsonCodec documents.1)
    projectionDigest := some (projectionDigest memberPlatform.toJsonCodec documents.2) })


/-- The stage accepts, and its store returns what was promoted. -/
def stageReturns (transport : SummaryTransport) : Bool :=
  match tunnelStructurized with
  | .ok (w, s) =>
    match constructStage memberPlatform w tunnelCommand s transport tunnelUuids with
    | .ok o => (o.members memberPlatform tunnelUuids).all fun m =>
        o.store.objects tunnelCommand.team (memberPlatform.sha256 (memberBytes memberPlatform m))
          == some (memberBytes memberPlatform m)
    | .error _ => false
  | .error _ => false

theorem stageReturns_deterministic : stageReturns .deterministic = true := by decide +kernel

theorem exists_of_stageReturns {transport : SummaryTransport} (h : stageReturns transport = true) :
    ∃ w s o, tunnelStructurized = .ok (w, s) ∧
      constructStage memberPlatform w tunnelCommand s transport tunnelUuids = .ok o ∧
      ∀ m ∈ o.members memberPlatform tunnelUuids,
        o.store.objects tunnelCommand.team (memberPlatform.sha256 (memberBytes memberPlatform m))
          = some (memberBytes memberPlatform m) := by
  unfold stageReturns at h
  split at h
  · rename_i w s hstructurized
    split at h
    · rename_i o hstage
      refine ⟨w, s, o, hstructurized, hstage, fun m hm => ?_⟩
      exact beq_iff_eq.1 (List.all_eq_true.1 h m hm)
    · cases h
  · cases h

theorem structurized_of_tunnel {w : GenerationStore Json} {s : ConstructState}
    (h : tunnelStructurized = .ok (w, s)) : s.Structurized memberPlatform ∧ s.SourceApart tunnelCommand := by
  unfold tunnelStructurized at h
  simp only [bind_ok_iff, pure_ok_iff, Prod.mk.injEq] at h
  obtain ⟨candidate, hnorm, documents, -, promoted, -, store, -, rfl, rfl⟩ := h
  refine ⟨fun _ clean candidate' hclean hcandidate => ?_, fun source hsource => ?_⟩
  · obtain rfl : "ab".toList = clean := Option.some.inj hclean
    obtain rfl : candidate = candidate' := Option.some.inj hcandidate
    exact ⟨tunnelCandidate, some [0], hnorm⟩
  · cases hsource

theorem memberDigest_nonempty (v : Json) : (memberDigest v).isEmpty = false := by
  unfold memberDigest
  split
  · split <;> rfl
  · rfl

/-- The deterministic construction of a two-letter text is re-proven in the store it left. -/
theorem constructHandoff_tunnel : ∃ w s o, tunnelStructurized = .ok (w, s) ∧
    constructStage memberPlatform w tunnelCommand s .deterministic tunnelUuids = .ok o ∧
    (∃ inputs, reconstructConstructContract memberPlatform o.store tunnelCommand o.state
      = .ok (inputs, o.construction, o.dual)) ∧
    assertConstructToVectorizeGate o.store tunnelCommand o.state = .ok () := by
  obtain ⟨w, s, o, hstructurized, hstage, hreturned⟩ := exists_of_stageReturns stageReturns_deterministic
  obtain ⟨hs, hsource⟩ := structurized_of_tunnel hstructurized
  refine ⟨w, s, o, hstructurized, hstage, ?_⟩
  exact (constructHandoff_reproved memberPlatform (fun _ _ => rfl) ⟨fun _ => rfl, fun _ h => h⟩
    memberDigest_nonempty).1 w o.store tunnelCommand s .deterministic tunnelUuids o hs hsource hstage ⟨.rfl, hreturned⟩

end KnowledgeBase
