import KnowledgeBase.Properties.SearchFence
import KnowledgeBase.Properties.Vectorization
import KnowledgeBase.Serving.Inflation

/-!
# Inflation of adopted documents

Vectorization records no original of granularity 0, and inflation looks for the document root among the recorded
originals: `inflation_missing`: a hit of another granularity never gets a root.
-/

namespace KnowledgeBase

open Checked Relational

variable {β F : Type} {casefold : Text → Text}

/-! ### identities of adopted units -/

theorem inferGranularity_projectionBlockId {g : Nat} (hg : isGranularity g = true) (n : Nat) :
    inferGranularity casefold (projectionBlockId g n) = g := by
  have hcases : g = 0 ∨ g = 1 ∨ g = 2 := by
    simp only [isGranularity, Bool.or_eq_true, beq_iff_eq] at hg
    omega
  have hat : granularityAt (projectionBlockId g n) = some g := by
    rcases hcases with rfl | rfl | rfl
    · rfl
    · rfl
    · rfl
  unfold inferGranularity
  rw [hat]
  rfl

/-- The unit's identity is the one that its granularity renders. -/
def ConstructionUnit.IsAdopted (unit : ConstructionUnit) : Prop :=
  ∃ g n : Nat, isGranularity g = true ∧ unit.unitId = projectionBlockId g n ∧ unit.granularity = g

theorem isGranularity_of_validateStructure {J : JsonCodec β} {structure_ : StructureDocument}
    {projection : RetrievalBlockProjection} {cleanText : Text} {required : List Int}
    (h : validateStructure J structure_ projection cleanText required = .ok ()) :
    ∀ block ∈ projection.blocks, isGranularity block.granularity = true := by
  unfold validateStructure validateAnchors at h
  simp only [bind_ok_iff] at h
  obtain ⟨_, ⟨_, -, _, -, _, -, _, -, _, -, _, hblocks, -⟩, -⟩ := h
  have hstep {taken taken' : List Text} {block : RetrievalBlock}
      (hblock : validateProjectionBlock J structure_.nodeIds cleanText taken block = .ok taken') :
      isGranularity block.granularity = true := by
    unfold validateProjectionBlock at hblock
    obtain ⟨_, hshape, -⟩ := bind_ok_iff.1 hblock
    simp only [failIf_ok_iff, Bool.or_eq_false_iff, Bool.not_eq_false'] at hshape
    exact hshape.1.1.2
  exact foldEach_reaches (P := fun _ => True) (R := fun (block : RetrievalBlock) _ => isGranularity block.granularity = true)
    (fun _ _ _ _ _ hblock => ⟨trivial, hstep hblock⟩) (fun _ _ _ _ _ _ hg _ => hg) trivial hblocks

theorem isAdopted_of_construct {P : Platform β} {cleanText cleanText' : Text} {layered : LayeredContent}
    {a : AdoptArguments} {structure_ : StructureDocument} {projection : RetrievalBlockProjection}
    {summaries : Text → Option Text} {c : ConstructArguments} {document : ConstructionDocument}
    {dual : DualChannelProjection} (hadopt : adoptLayeredJson P cleanText layered a = .ok (structure_, projection))
    (hconstruct : construct P.toJsonCodec structure_ projection cleanText' summaries c = .ok (document, dual)) :
    ∀ unit ∈ dual.units, unit.IsAdopted := by
  obtain ⟨declared, inner, adopted, -, -, -, -, hadopted, -, -, hblocks, hvalid⟩ := adoptLayeredJson_eq_ok P hadopt
  unfold construct at hconstruct
  simp only [bind_ok_iff, pure_ok_iff] at hconstruct
  obtain ⟨_, -, _, -, _, -, units, hunits, _, -, hend⟩ := hconstruct
  obtain ⟨-, rfl⟩ := Prod.mk.inj hend
  intro unit hunit
  obtain ⟨block, hblock, hmade⟩ := forall₂_exists_of_mem_right (mapEach_ok_iff.1 hunits) hunit
  obtain ⟨raw, -, hraw⟩ := forall₂_exists_of_mem_right (adoptBlocks_eq_ok hadopted) (hblocks ▸ hblock)
  unfold constructUnit at hmade
  simp only [bind_ok_iff, pure_ok_iff] at hmade
  obtain ⟨_, -, _, -, _, -, _, -, rfl⟩ := hmade
  refine ⟨raw.granularity, raw.blockId, ?_, hraw.blockId, hraw.granularity⟩
  rw [← hraw.granularity]
  exact isGranularity_of_validateStructure hvalid block hblock

/-! ### no root among the records -/

def VectorChannel.toChannel : VectorChannel → Channel
  | .original => .original
  | .summary => .summary

/-- The rows of the generation in the tables are rows of its records; `unitName` reads a unit's symbol. -/
def IsPublished (unitName : Nat → Text) (generation : ArtifactId) (records : List (VectorizedRecord F)) (s : Serving) :
    Prop :=
  ∀ r ∈ s.records, r.generationArtifact = generation →
    ∃ record ∈ records, unitName r.unitId = record.unitId ∧ r.channel.toChannel = record.channel

variable {units : List ConstructionUnit} {records : List (VectorizedRecord F)} {f : Inflation} {s : Serving}
  {q : SearchInput} {rows : List Candidate} {generation : ArtifactId}

theorem inferGranularity_ne_zero (casefold : Text → Text) (hunits : ∀ unit ∈ units, unit.IsAdopted)
    (hcovers : CoversExactly units records)
    {record : VectorizedRecord F} (hrecord : record ∈ records) (hchannel : record.channel = .original) :
    inferGranularity casefold record.unitId ≠ 0 := by
  obtain ⟨unit, hunit, channel, -, ⟨-, hneeds⟩, hof⟩ := hcovers.sound record hrecord
  obtain ⟨g, n, hg, hid, hgranularity⟩ := hunits unit hunit
  rw [hof.unitId, hid, inferGranularity_projectionBlockId hg]
  rintro rfl
  exact hneeds ⟨hgranularity, hof.channel.symm.trans hchannel⟩

theorem original_of_fetch {targets : List ArtifactId} (h : s.fetchCandidateRows (f.query q targets) = .ok rows)
    {row : Candidate} (hrow : row ∈ rows) : ∃ r ∈ s.records, r.channel = .original ∧
      r.generationArtifact = row.generationArtifact ∧ r.unitId = row.unitId := by
  unfold Serving.fetchCandidateRows at h
  obtain ⟨_, -, h⟩ := bind_ok_iff.1 h
  obtain rfl := pure_ok_iff.1 h
  obtain ⟨r, hr, hcited⟩ := List.mem_filterMap.1 hrow
  obtain ⟨hmem, hselected⟩ := List.mem_filter.1 hr
  obtain ⟨proof, -, rfl⟩ := Option.map_eq_some_iff.1 hcited
  unfold Serving.isSelected at hselected
  rw [Bool.and_eq_true] at hselected
  cases hitem : s.item? r.team r.item with
  | none =>
    rw [hitem] at hselected
    cases hselected.2
  | some i =>
    rw [hitem] at hselected
    have hfilters : (f.filters r i && targets.contains r.generationArtifact && r.channel == .original) = true :=
      hselected.2
    rw [Bool.and_eq_true, beq_iff_eq] at hfilters
    exact ⟨r, hmem, hfilters.2, rfl, rfl⟩

theorem root?_eq_none (hunits : ∀ unit ∈ units, unit.IsAdopted) (hcovers : CoversExactly units records)
    (hpublished : IsPublished f.unitName generation records s) {targets : List ArtifactId}
    (h : s.fetchCandidateRows (f.query q targets) = .ok rows) : f.root? rows generation = none := by
  unfold Inflation.root?
  rw [List.find?_eq_none]
  intro row hrow hroot
  rw [Bool.and_eq_true, beq_iff_eq, beq_iff_eq] at hroot
  obtain ⟨r, hr, hchannel, hgeneration, hunit⟩ := original_of_fetch h hrow
  obtain ⟨record, hrecord, hname, hsame⟩ := hpublished r hr (hgeneration.trans hroot.1)
  rw [hchannel] at hsame
  refine inferGranularity_ne_zero f.casefold hunits hcovers hrecord hsame.symm ?_
  rw [← hname, hunit]
  exact hroot.2

/-! ### every item -/

theorem missing_of_inflateItem {attached : List ArtifactId} {item : ResultWork} {r : List ArtifactId × ResultWork}
    (h : f.inflateItem rows attached item = .ok r) :
    r.2.candidate = item.candidate ∧ r.2.granularity = item.granularity ∧
      (item.granularity ≠ 0 → f.root? rows item.candidate.generationArtifact = none →
        r.2.inflationStatus = .missing) := by
  unfold Inflation.inflateItem at h
  simp only at h
  split at h
  · rename_i hzero
    obtain rfl := Except.ok.inj h
    exact ⟨rfl, rfl, fun hne => absurd hzero hne⟩
  · split at h
    · obtain rfl := Except.ok.inj h
      exact ⟨rfl, rfl, fun _ _ => rfl⟩
    · rename_i root hroot
      have hno : f.root? rows item.candidate.generationArtifact ≠ none := by
        rw [hroot]
        exact Option.some_ne_none root
      split at h
      · obtain rfl := Except.ok.inj h
        exact ⟨rfl, rfl, fun _ hnone => absurd hnone hno⟩
      · obtain ⟨material, -, h⟩ := bind_ok_iff.1 h
        split at h
        · obtain rfl := pure_ok_iff.1 h
          exact ⟨rfl, rfl, fun _ hnone => absurd hnone hno⟩
        · split at h
          · obtain rfl := pure_ok_iff.1 h
            exact ⟨rfl, rfl, fun _ hnone => absurd hnone hno⟩
          · obtain rfl := pure_ok_iff.1 h
            exact ⟨rfl, rfl, fun _ hnone => absurd hnone hno⟩

theorem missing_of_inflateItems {attached : List ArtifactId} {work work' : List ResultWork}
    (h : f.inflateItems rows attached work = .ok work') (hroot : f.root? rows generation = none) :
    ∀ item ∈ work', item.candidate.generationArtifact = generation → item.granularity ≠ 0 →
      item.inflationStatus = .missing := by
  induction work generalizing attached work' with
  | nil =>
    obtain rfl := Except.ok.inj h
    exact fun _ hitem => absurd hitem List.not_mem_nil
  | cons item work ih =>
    obtain ⟨r, hr, h⟩ := bind_ok_iff.1 h
    obtain ⟨rest, hrest, hend⟩ := bind_ok_iff.1 h
    obtain rfl := pure_ok_iff.1 hend
    intro inflated hmem hgeneration hgranularity
    rcases List.mem_cons.1 hmem with rfl | hmem
    · obtain ⟨hcandidate, hsame, hmissing⟩ := missing_of_inflateItem hr
      rw [hcandidate] at hgeneration
      rw [hsame] at hgranularity
      refine hmissing hgranularity ?_
      rw [hgeneration]
      exact hroot
    · exact ih hrest inflated hmem hgeneration hgranularity

/-- No hit of an adopted and published generation gets its document root. -/
theorem inflation_missing (P : Platform β) (isFinite : F → Bool) (cleanText cleanText' : Text) (layered : LayeredContent)
    (a : AdoptArguments) (structure_ : StructureDocument) (projection : RetrievalBlockProjection)
    (summaries : Text → Option Text) (c : ConstructArguments) (document : ConstructionDocument)
    (dual : DualChannelProjection) (headers : Headers) (maxBytes : Nat) (layerA : EmbeddingModelRef)
    (profile : EmbeddingProfile F) (identity : VectorizationUnit → VectorRecordId) (records : List (VectorizedRecord F))
    (f : Inflation) (s : Serving) (q : SearchInput) (generation : ArtifactId) (work work' : List ResultWork)
    (hadopt : adoptLayeredJson P cleanText layered a = .ok (structure_, projection))
    (hconstruct : construct P.toJsonCodec structure_ projection cleanText' summaries c = .ok (document, dual))
    (hrecords : vectorizedRecords P.toJsonCodec isFinite document dual headers maxBytes layerA profile identity =
      .ok records)
    (hpublished : IsPublished f.unitName generation records s) (hroots : 1 ≤ f.maxRoots)
    (h : f.inflateDocuments s q work = .ok work') :
    ∀ item ∈ work', item.candidate.generationArtifact = generation → item.granularity ≠ 0 →
      item.inflationStatus = .missing := by
  have hunits := isAdopted_of_construct hadopt hconstruct
  have hcovers : CoversExactly dual.units records := by
    obtain ⟨plan, vectors, hplan, -, -, hlength, rfl⟩ := vectorizedRecords_eq_ok hrecords
    obtain ⟨hvalid, hrequired, -⟩ := vectorizationPlan_eq_ok hplan
    exact coversExactly_of_required (hrequired ▸ List.perm_insertionSort _ _) hlength
      (channeled_of_validateConstruction hvalid) (units_of_construct hconstruct).2
  unfold Inflation.inflateDocuments at h
  simp only at h
  intro item hitem hgeneration hgranularity
  split at h
  · rename_i hnone
    obtain rfl := Except.ok.inj h
    rw [Bool.or_eq_true, List.isEmpty_iff, beq_iff_eq] at hnone
    rcases hnone with hnone | hzero
    · have htarget : item.candidate.generationArtifact ∈ ((work.filter fun item => item.granularity != 0).map fun item =>
          item.candidate.generationArtifact).dedup := by
        rw [List.mem_dedup]
        exact List.mem_map.2 ⟨item, List.mem_filter.2 ⟨hitem, by simpa using hgranularity⟩, rfl⟩
      rw [hnone] at htarget
      cases htarget
    · omega
  · split at h
    · obtain rfl := Except.ok.inj h
      obtain ⟨before, -, rfl⟩ := List.mem_map.1 hitem
      split
      · rfl
      · rename_i hzero
        rw [if_neg hzero] at hgranularity
        exact absurd hgranularity hzero
    · rename_i rows hrows
      exact missing_of_inflateItems h (root?_eq_none hunits hcovers hpublished hrows) item hitem hgeneration hgranularity

/-! ### a document of two blocks -/

/-- The document and a block of granularity 1. -/
def oneLayerA : EmbeddingModelRef := ⟨1, 1, 1, 1⟩

def twoUnitName (unit : Nat) : Text := if unit = 0 then "g0:b0000".toList else "g1:b0001".toList

def twoUnitRow (record : VectorRecordId) (unit : Nat) (channel : VectorChannel) : VectorRecordRow :=
  ⟨record, 1, 1, 1, unit, channel, 1, 10, 1, oneLayerA, .indexed, 1, none⟩

/-- The published generation: the g0 summary and both channels of the other unit. -/
def twoUnitServing : Serving :=
  { Serving.empty with
    items := [⟨1, 1, 1, 1, .active, some 10, some 10, 1, none⟩]
    pointers := [⟨1, 1, 1, 1, 1, .active, 1, 1, 0⟩]
    proofs := [⟨1, 1, 1, 10, ⟨1, 1, 1⟩, 1, 1, oneLayerA, 1, 3, 3, 3, [], []⟩]
    records := [twoUnitRow 1 0 .summary, twoUnitRow 2 1 .original, twoUnitRow 3 1 .summary]
    namespaces := [⟨1, 1, oneLayerA, true, 1⟩]
    artifacts := [⟨1, 1, 1, 1, 10, 1, true, true⟩] }

/-- A service whose body port hydrates every original as the document. -/
def hydratingInflation : Inflation :=
  ⟨3, 1000, twoUnitName, id, fun _ _ => true, fun _ _ => .ok ⟨some "a".toList, none, some 0⟩⟩

/-- The hit of the block of granularity 1. -/
def focusHit : ResultWork :=
  ⟨⟨2, 1, 10, 1, 1, 1, .original, 1, 1⟩, 1, .notRequested, none, none, none⟩

theorem isPublished_twoUnitServing : ∃ structure_ projection document dual records,
    adoptLayeredJson plainPlatform "a".toList twoBlocks twoBlockArguments = .ok (structure_, projection) ∧
    construct plainPlatform.toJsonCodec structure_ projection "a".toList (fun _ => some "s".toList) plainConstruction =
      .ok (document, dual) ∧
    vectorizedRecords plainPlatform.toJsonCodec (fun _ => true) document dual [] 8 oneLayerA lengthProfile
      (fun _ => 1) = .ok records ∧
    IsPublished twoUnitName 1 records twoUnitServing ∧
    (twoUnitServing.fetchCandidateRows sampleSearch).map (fun rows => rows.contains focusHit.candidate) = .ok true := by
  refine ⟨_, _, _, _, _, rfl, rfl, rfl, ?_, rfl⟩
  intro r hr _
  rcases List.mem_cons.1 hr with rfl | hr
  · exact ⟨_, List.mem_cons_self, rfl, rfl⟩
  · rcases List.mem_cons.1 hr with rfl | hr
    · exact ⟨_, List.mem_cons_of_mem _ List.mem_cons_self, rfl, rfl⟩
    · obtain rfl := List.mem_singleton.1 hr
      exact ⟨_, List.mem_cons_of_mem _ (List.mem_cons_of_mem _ List.mem_cons_self), rfl, rfl⟩

/-- The hit is missing its root. -/
theorem inflation_missing_twoBlocks :
    ∃ work', hydratingInflation.inflateDocuments twoUnitServing sampleSearch [focusHit] = .ok work' ∧
      ∀ item ∈ work', item.candidate.generationArtifact = 1 → item.granularity ≠ 0 →
        item.inflationStatus = .missing := by
  obtain ⟨structure_, projection, document, dual, records, hadopt, hconstruct, hrecords, hpublished, -⟩ :=
    isPublished_twoUnitServing
  exact ⟨_, rfl, inflation_missing plainPlatform (fun _ => true) "a".toList "a".toList twoBlocks twoBlockArguments
    structure_ projection _ plainConstruction document dual [] 8 oneLayerA lengthProfile (fun _ => 1) records
    hydratingInflation twoUnitServing sampleSearch 1 [focusHit] _ hadopt hconstruct hrecords hpublished (by decide) rfl⟩

/-- A published generation whose document every body port call hydrates, and a hit of it without its root. -/
theorem inflation_unreachable : ∃ structure_ projection document dual records item,
    adoptLayeredJson plainPlatform "a".toList twoBlocks twoBlockArguments = .ok (structure_, projection) ∧
    construct plainPlatform.toJsonCodec structure_ projection "a".toList (fun _ => some "s".toList) plainConstruction =
      .ok (document, dual) ∧
    vectorizedRecords plainPlatform.toJsonCodec (fun _ => true) document dual [] 8 oneLayerA lengthProfile
      (fun _ => 1) = .ok records ∧
    IsPublished twoUnitName 1 records twoUnitServing ∧ 1 ≤ hydratingInflation.maxRoots ∧
    hydratingInflation.inflateDocuments twoUnitServing sampleSearch [focusHit] = .ok [item] ∧
    item.candidate.generationArtifact = 1 ∧ item.granularity ≠ 0 ∧ item.inflationStatus = .missing := by
  obtain ⟨structure_, projection, document, dual, records, hadopt, hconstruct, hrecords, hpublished, -⟩ :=
    isPublished_twoUnitServing
  exact ⟨structure_, projection, document, dual, records, { focusHit with inflationStatus := .missing }, hadopt,
    hconstruct, hrecords, hpublished, by decide, rfl, rfl, by decide, rfl⟩

end KnowledgeBase
