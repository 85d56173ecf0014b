import KnowledgeBase.Generation.Documents
import KnowledgeBase.Properties.Handoff

/-!
# Realigned summaries

A model fills the summaries of an accepted candidate and may return any original content. `realignedSummaries_exact`:
with the accepted originals put back, the summaries of its package map to the projection exactly if the block ids of
the candidate have at most four digits.
-/

namespace KnowledgeBase

open Checked

variable {β : Type} {P : Platform β} {layered accepted completed : LayeredContent}
  {projection : RetrievalBlockProjection} {raws : List LayeredBlock}

/-! ### the realigned package -/

/-- A package of the wire shape, as a worker returns it. -/
def LayeredContent.package (content : LayeredContent) : WorkerPackage where
  contextMeta := some content.contextMeta
  date := content.date
  knowledgeTree := content.knowledgeTree
  blocks := content.blocks.map fun block =>
    ⟨block.blockId, block.granularity, some block.originalContent, block.llmSummary⟩

/-- The block with the original of the accepted block of its key, if there is one. -/
def LayeredContent.originalFor (accepted : LayeredContent) (block : LayeredBlock) : LayeredBlock :=
  { block with
    originalContent := ((lookupLast (accepted.blocks.map fun b => (b.key, b)) block.key).map
      LayeredBlock.originalContent).getD block.originalContent }

/-- The completed package with the originals of the accepted candidate. -/
def LayeredContent.realigned (accepted completed : LayeredContent) : LayeredContent :=
  { completed with
    date := completed.date.or accepted.date
    knowledgeTree := completed.knowledgeTree.or accepted.knowledgeTree
    blocks := completed.blocks.map accepted.originalFor }

theorem realignConstructOriginal_package (accepted completed : LayeredContent) :
    realignConstructOriginal accepted completed.package = .ok (accepted.realigned completed) := by
  have hblocks : mapEach completed.package.blocks (realignBlock accepted) =
      .ok (completed.blocks.map accepted.originalFor) := by
    unfold LayeredContent.package
    rw [mapEach_ok_iff, List.forall₂_map_left_iff, List.forall₂_map_right_iff, List.forall₂_same]
    intro block _
    unfold realignBlock LayeredContent.originalFor
    simp only [bind_ok_iff, required_ok_iff, pure_ok_iff]
    refine ⟨_, ?_, rfl⟩
    show ((lookupLast (accepted.blocks.map fun b => (b.key, b)) block.key).map LayeredBlock.originalContent).or
      (some block.originalContent) = _
    cases (lookupLast (accepted.blocks.map fun b => (b.key, b)) block.key).map LayeredBlock.originalContent with
    | none => rfl
    | some original => rfl
  unfold realignConstructOriginal
  rw [hblocks]
  rfl

theorem keys_realigned (accepted completed : LayeredContent) :
    (accepted.realigned completed).blocks.map LayeredBlock.key = completed.blocks.map LayeredBlock.key := by
  unfold LayeredContent.realigned
  rw [List.map_map]
  rfl

theorem exists_original (haccepts : Accepts P layered accepted) {block : LayeredBlock}
    (hkey : block.key ∈ accepted.blocks.map LayeredBlock.key) :
    ∃ a ∈ accepted.blocks, a.key = (accepted.originalFor block).key ∧
      (accepted.originalFor block).originalContent = a.originalContent := by
  obtain ⟨a, ha, hakey⟩ := List.mem_map.1 hkey
  have hlookup : lookupLast (accepted.blocks.map fun b => (b.key, b)) block.key = some a := by
    refine lookupLast_of_mem ?_ (List.mem_map.2 ⟨a, ha, by rw [hakey]⟩)
    rw [List.map_map]
    exact haccepts.nodup
  refine ⟨a, ha, hakey, ?_⟩
  unfold LayeredContent.originalFor
  rw [hlookup]
  rfl

theorem validateEnvelope_realigned (haccepted : validateEnvelope P accepted = .ok ())
    (hcompleted : validateEnvelope P completed = .ok ()) :
    validateEnvelope P (accepted.realigned completed) = .ok () := by
  have horElse {α : Type} {check : α → Bool} {o o' : Option α} (ho : o.any check = false)
      (ho' : o'.any check = false) : (o.or o').any check = false := by
    cases o with
    | none => exact ho'
    | some a => exact ho
  unfold validateEnvelope at *
  simp only [bind_ok_iff, failIf_ok_iff] at *
  obtain ⟨_, hfile, _, hupstream, _, hdownstream, _, -, _, hprocessed, hpublished⟩ := haccepted
  obtain ⟨_, hfile', _, hupstream', _, hdownstream', _, hurl, _, hprocessed', hpublished'⟩ := hcompleted
  exact ⟨(), horElse hfile' hfile, (), horElse hupstream' hupstream, (), horElse hdownstream' hdownstream, (), hurl,
    (), horElse hprocessed' hprocessed, horElse hpublished' hpublished⟩

theorem validateLayeredContent_realigned (haccepted : validateLayeredContent P accepted false true = .ok ())
    (hcompleted : validateLayeredContent P completed true false = .ok ()) :
    validateLayeredContent P (accepted.realigned completed) true false = .ok () := by
  have hblocks : validateLayeredContent P { completed with blocks := (accepted.realigned completed).blocks }
      true false = .ok () := by
    refine validateLayeredContent_of_blocks hcompleted ?_ ?_
    · have := congrArg (List.map Prod.fst) (keys_realigned accepted completed)
      rwa [List.map_map, List.map_map] at this
    · intro block hblock
      obtain ⟨raw, hraw, rfl⟩ := List.mem_map.1 hblock
      unfold validateLayeredContent at hcompleted
      simp only [bind_ok_iff, checkEach_ok_iff] at hcompleted
      obtain ⟨-, -, -, -, -, hvalid, -⟩ := hcompleted
      have hrawValid := hvalid raw hraw
      exact hrawValid
  unfold validateLayeredContent at haccepted hcompleted hblocks ⊢
  rw [bind_ok_iff] at haccepted hcompleted hblocks ⊢
  obtain ⟨_, haccepted, -⟩ := haccepted
  obtain ⟨_, hcompleted, -⟩ := hcompleted
  obtain ⟨_, -, hrest⟩ := hblocks
  exact ⟨(), validateEnvelope_realigned haccepted hcompleted, hrest⟩

theorem writtenSummaries_realigned (accepted completed : LayeredContent) :
    writtenSummaries (accepted.realigned completed).blocks = writtenSummaries completed.blocks := by
  unfold writtenSummaries LayeredContent.realigned
  rw [List.map_map]
  rfl

/-- `layered_summary_map` on the realigned package. -/
def mapRealigned (P : Platform β) (accepted completed : LayeredContent) (projection : RetrievalBlockProjection) :
    Except MkbError (List (Text × Text)) := do
  let realigned ← realignConstructOriginal accepted completed.package
  layeredSummaryMap P realigned projection (some accepted)

/-- The summaries of a completed package, whatever originals it carries, are read back exactly if every block id of
the candidate has at most four digits. -/
theorem realignedSummaries_exact (P : Platform β) (hn : P.IsNfc) (cleanText : Text)
    (layered candidate accepted completed : LayeredContent) (granularitySet : Option (List Int)) (a : AdoptArguments)
    (structure_ : StructureDocument) (projection : RetrievalBlockProjection)
    (hnorm : normalizeLayeredCandidate P cleanText layered granularitySet = .ok accepted)
    (hcandidate : candidate = layered ∨ candidate = accepted)
    (hadopt : adoptLayeredJson P cleanText candidate a = .ok (structure_, projection))
    (hcompleted : validateLayeredContent P completed true false = .ok ())
    (hkeys : (completed.blocks.map LayeredBlock.key).Perm (accepted.blocks.map LayeredBlock.key)) :
    mapRealigned P accepted completed projection = .ok (writtenSummaries completed.blocks) ↔
      ∀ block ∈ layered.blocks, block.blockId < 10000 := by
  obtain ⟨haccepts, raws, h⟩ := adoption_of_adopt hn hnorm hcandidate hadopt
  unfold mapRealigned
  rw [haccepts.ids_iff, realignConstructOriginal_package]
  show layeredSummaryMap P (accepted.realigned completed) projection (some accepted) = _ ↔ _
  constructor
  · intro hmap
    unfold layeredSummaryMap at hmap
    simp only [bind_ok_iff] at hmap
    obtain ⟨_, -, _, -, byKey, hbyKey, -⟩ := hmap
    exact h.lt_of_projectionByKey hbyKey
  · intro hlt
    rw [← writtenSummaries_realigned accepted completed]
    refine layeredSummaryMap_of_originals haccepts h hlt (validateLayeredContent_realigned haccepts.valid hcompleted)
      (keys_realigned accepted completed ▸ hkeys) fun block hblock => ?_
    obtain ⟨raw, hraw, rfl⟩ := List.mem_map.1 hblock
    exact exists_original haccepts (hkeys.mem_iff.1 (List.mem_map_of_mem hraw))

/-! ### one block -/

/-- The package of one g0 block, with an original of the model's own. -/
def oneCompleted (blockId : Nat) : LayeredContent :=
  { tunnelCandidate with blocks := [⟨blockId, 0, ⟨some "t".toList, some "z".toList⟩, ⟨none, some "s".toList⟩⟩] }

/-- The summary of a block of id 7 is read back. -/
theorem realignedSummaries_oneBlock : ∃ accepted structure_ projection,
    normalizeLayeredCandidate plainPlatform "a".toList (oneBlock 7) (some [0]) = .ok accepted ∧
    adoptLayeredJson plainPlatform "a".toList accepted (tunnelArguments "a".toList) = .ok (structure_, projection) ∧
    mapRealigned plainPlatform accepted (oneCompleted 7) projection =
      .ok [("g0:b0007".toList, "s".toList)] := by
  refine ⟨_, _, _, rfl, rfl, ?_⟩
  refine (realignedSummaries_exact plainPlatform plainPlatform_isNfc "a".toList (oneBlock 7) _ _ (oneCompleted 7)
    (some [0]) (tunnelArguments "a".toList) _ _ rfl (Or.inr rfl) rfl rfl (List.Perm.refl _)).2 ?_
  decide

/-- A block of id 10000 is accepted and adopted, and its summary is refused. -/
theorem realignedSummaries_refused : ∃ accepted structure_ projection error,
    normalizeLayeredCandidate plainPlatform "a".toList (oneBlock 10000) (some [0]) = .ok accepted ∧
    adoptLayeredJson plainPlatform "a".toList accepted (tunnelArguments "a".toList) = .ok (structure_, projection) ∧
    validateLayeredContent plainPlatform (oneCompleted 10000) true false = .ok () ∧
    ((oneCompleted 10000).blocks.map LayeredBlock.key).Perm (accepted.blocks.map LayeredBlock.key) ∧
    mapRealigned plainPlatform accepted (oneCompleted 10000) projection = .error error ∧ error.code = "CONSTRUCT_KERNEL_ALIGNMENT_INVALID" :=
  ⟨_, _, _, _, rfl, rfl, rfl, List.Perm.refl _, rfl, rfl⟩

end KnowledgeBase
