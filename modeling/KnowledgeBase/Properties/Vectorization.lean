import KnowledgeBase.Lsrag.Vectorize
import KnowledgeBase.Properties.Handoff

/-!
# Vectorization covers the package

`vectorization_exact`: an accepted vectorization of a package that `construct` returned writes one record for each
channel of a unit that is not blank, the g0 originals apart, with the embedding answered for its own text; the live
batches are within the budget, and the order of the units has no effect on the plan. An adapter that answers every
request lets the live vectorization through, whatever the batches.
-/

namespace KnowledgeBase

open Checked Relational

variable {β F : Type} {J : JsonCodec β} {headers : Headers} {recipeVersion : Text} {maxBytes : Nat}

/-! ### the required units -/

/-- What a channel of a unit requires: a vector, unless it is blank or a g0 original. -/
def ConstructionUnit.requiredChannel (unit : ConstructionUnit) (channel : ChannelRecord) : Option VectorizationUnit :=
  if unit.granularity == 0 && channel.channel == .original then none
  else if channel.contentFull.isBlank then none
  else some ⟨unit.unitId, unit.granularity, channel.channel, unit.coordinate, channel.contentFull,
    channel.contentFullDigest⟩

def ConstructionUnit.requiredUnits (unit : ConstructionUnit) : List VectorizationUnit :=
  [unit.original, unit.summary].filterMap unit.requiredChannel

theorem vector?_of_planChannel {unit : ConstructionUnit} {channel : ChannelRecord} {p : PlannedChannel}
    (h : planChannel J recipeVersion headers maxBytes unit channel = .ok p) :
    p.vector? = unit.requiredChannel channel := by
  unfold planChannel at h
  obtain ⟨recomputed, -, h⟩ := bind_ok_iff.1 h
  obtain ⟨_, hsame, h⟩ := bind_ok_iff.1 h
  rw [failIf_ok_iff, Bool.or_eq_false_iff, bne_eq_false_iff_eq, bne_eq_false_iff_eq] at hsame
  obtain ⟨hdigest, rfl⟩ := hsame
  unfold ConstructionUnit.requiredChannel
  split at h
  · rename_i hg0
    obtain rfl := pure_ok_iff.1 h
    rw [if_pos hg0]
    rfl
  · rename_i hg0
    rw [if_neg hg0]
    split at h
    · rename_i hblank
      obtain rfl := pure_ok_iff.1 h
      rw [if_pos hblank]
      rfl
    · rename_i hblank
      obtain ⟨_, -, h⟩ := bind_ok_iff.1 h
      obtain rfl := pure_ok_iff.1 h
      rw [if_neg hblank, hdigest]
      rfl

theorem vectors_of_planUnit {unit : ConstructionUnit} {channels : List PlannedChannel}
    (h : planUnit J recipeVersion headers maxBytes unit = .ok channels) :
    channels.filterMap PlannedChannel.vector? = unit.requiredUnits := by
  unfold planUnit at h
  obtain ⟨original, horiginal, h⟩ := bind_ok_iff.1 h
  obtain ⟨summary, hsummary, h⟩ := bind_ok_iff.1 h
  obtain rfl := pure_ok_iff.1 h
  unfold ConstructionUnit.requiredUnits
  simp only [List.filterMap_cons, List.filterMap_nil, vector?_of_planChannel horiginal, vector?_of_planChannel hsummary]

/-- The required units of a package, in the order of its units. -/
def requiredUnits (units : List ConstructionUnit) : List VectorizationUnit :=
  units.flatMap ConstructionUnit.requiredUnits

theorem vectors_of_planUnits {units : List ConstructionUnit} {channels : List (List PlannedChannel)}
    (h : mapEach units (planUnit J recipeVersion headers maxBytes) = .ok channels) :
    channels.flatten.filterMap PlannedChannel.vector? = requiredUnits units := by
  have hall := mapEach_ok_iff.1 h
  clear h
  induction hall with
  | nil => rfl
  | cons hunit _ ih =>
    unfold requiredUnits at ih ⊢
    rw [List.flatten_cons, List.filterMap_append, List.flatMap_cons, vectors_of_planUnit hunit, ih]

theorem vectorizationPlan_eq_ok {document : ConstructionDocument} {dual : DualChannelProjection}
    {plan : VectorizationPlan} (h : vectorizationPlan J document dual headers maxBytes = .ok plan) :
    validateConstruction J document dual headers = .ok () ∧
    plan.required = (requiredUnits dual.units).insertionSort (fun a b => a.precedes b = true) ∧
    plan.requiredDigest = J.stableDigest (.arr (plan.required.map fun unit => .str unit.contentFullDigest)) := by
  unfold vectorizationPlan at h
  obtain ⟨_, hvalid, h⟩ := bind_ok_iff.1 h
  obtain ⟨_, -, h⟩ := bind_ok_iff.1 h
  obtain ⟨channels, hchannels, h⟩ := bind_ok_iff.1 h
  obtain ⟨_, -, h⟩ := bind_ok_iff.1 h
  obtain ⟨_, -, h⟩ := bind_ok_iff.1 h
  obtain rfl := pure_ok_iff.1 h
  refine ⟨hvalid, ?_, rfl⟩
  rw [vectors_of_planUnits hchannels]

/-! ### distinct coordinates -/

def VectorizationUnit.key (unit : VectorizationUnit) : Text × Channel := (unit.unitId, unit.channel)

/-- The channels of the unit are what they are called. -/
def ConstructionUnit.Channeled (unit : ConstructionUnit) : Prop :=
  unit.original.channel = .original ∧ unit.summary.channel = .summary

theorem channeled_of_validateConstruction {document : ConstructionDocument} {dual : DualChannelProjection}
    (h : validateConstruction J document dual headers = .ok ()) : ∀ unit ∈ dual.units, unit.Channeled := by
  unfold validateConstruction at h
  obtain ⟨_, -, h⟩ := bind_ok_iff.1 h
  obtain ⟨_, -, h⟩ := bind_ok_iff.1 h
  obtain ⟨_, hunits, -⟩ := bind_ok_iff.1 h
  intro unit hunit
  have hvalid := checkEach_ok_iff.1 hunits unit hunit
  unfold validateUnit at hvalid
  obtain ⟨_, hchannels, -⟩ := bind_ok_iff.1 hvalid
  rw [failIf_ok_iff, Bool.or_eq_false_iff, Bool.or_eq_false_iff, bne_eq_false_iff_eq, bne_eq_false_iff_eq] at hchannels
  exact hchannels.1

theorem map_filterMap_sublist {α γ κ : Type} {f : α → Option γ} {g : γ → κ} {h : α → κ}
    (hf : ∀ a b, f a = some b → g b = h a) (l : List α) : ((l.filterMap f).map g).Sublist (l.map h) := by
  induction l with
  | nil => exact List.Sublist.slnil
  | cons a l ih =>
    rw [List.filterMap_cons, List.map_cons]
    split
    · exact ih.cons (h a)
    · rename_i b hb
      rw [List.map_cons, hf a b hb]
      exact ih.cons_cons (h a)

theorem key_of_requiredChannel {unit : ConstructionUnit} {channel : ChannelRecord} {item : VectorizationUnit}
    (h : unit.requiredChannel channel = some item) : item.key = (unit.unitId, channel.channel) := by
  unfold ConstructionUnit.requiredChannel at h
  split at h
  · cases h
  · split at h
    · cases h
    · obtain rfl := Option.some.inj h
      rfl

theorem keys_requiredUnits {units : List ConstructionUnit} (h : ∀ unit ∈ units, unit.Channeled) :
    ((requiredUnits units).map VectorizationUnit.key).Sublist
      ((units.map ConstructionUnit.unitId).product [.original, .summary]) := by
  induction units with
  | nil => exact List.Sublist.slnil
  | cons unit units ih =>
    obtain ⟨horiginal, hsummary⟩ := h unit List.mem_cons_self
    have hkey : ∀ channel item, unit.requiredChannel channel = some item → item.key = (unit.unitId, channel.channel) :=
      fun _ _ => key_of_requiredChannel
    have hunit := map_filterMap_sublist hkey [unit.original, unit.summary]
    rw [List.map_cons, List.map_cons, List.map_nil, horiginal, hsummary] at hunit
    unfold requiredUnits
    rw [List.flatMap_cons, List.map_append, List.map_cons]
    show List.Sublist _ ([(unit.unitId, Channel.original), (unit.unitId, Channel.summary)] ++
      (units.map ConstructionUnit.unitId).product [.original, .summary])
    exact hunit.append (ih fun u hu => h u (List.mem_cons_of_mem unit hu))

theorem nodup_requiredUnits {units : List ConstructionUnit} (h : ∀ unit ∈ units, unit.Channeled)
    (hids : (units.map ConstructionUnit.unitId).Nodup) : ((requiredUnits units).map VectorizationUnit.key).Nodup :=
  (keys_requiredUnits h).nodup (hids.product (by decide))

theorem mem_requiredUnits_iff {units : List ConstructionUnit} {item : VectorizationUnit} : item ∈ requiredUnits units ↔
    ∃ unit ∈ units, ∃ channel ∈ [unit.original, unit.summary], unit.requiredChannel channel = some item := by
  unfold requiredUnits ConstructionUnit.requiredUnits
  rw [List.mem_flatMap]
  simp only [List.mem_filterMap]

/-! ### the units of a construction -/

theorem nodup_blockIds {nodeIds : List Text} {cleanText : Text} {taken taken' : List Text} {blocks : List RetrievalBlock}
    (htaken : taken.Nodup) (h : foldEach (validateProjectionBlock J nodeIds cleanText) taken blocks = .ok taken') :
    (taken ++ blocks.map RetrievalBlock.blockId).Nodup := by
  induction blocks generalizing taken with
  | nil => simpa using htaken
  | cons block blocks ih =>
    obtain ⟨next, hblock, hrest⟩ := bind_ok_iff.1 h
    unfold validateProjectionBlock at hblock
    simp only [bind_ok_iff, pure_ok_iff, failIf_ok_iff, Bool.or_eq_false_iff] at hblock
    obtain ⟨_, ⟨⟨⟨hnew, -⟩, -⟩, -⟩, _, -, _, -, _, -, rfl⟩ := hblock
    have hnext : (taken ++ [block.blockId]).Nodup := by
      rw [List.contains_eq_mem, decide_eq_false_iff_not] at hnew
      exact List.nodup_append.2 ⟨htaken, List.nodup_singleton _, by
        intro a ha b hb
        rw [List.mem_singleton.1 hb]
        rintro rfl
        exact hnew ha⟩
    have hall := ih hnext hrest
    rwa [List.append_assoc] at hall

theorem units_of_construct {structure_ : StructureDocument} {projection : RetrievalBlockProjection} {cleanText : Text}
    {summaries : Text → Option Text} {c : ConstructArguments} {document : ConstructionDocument}
    {dual : DualChannelProjection} (h : construct J structure_ projection cleanText summaries c = .ok (document, dual)) :
    dual.units = document.units ∧ (dual.units.map ConstructionUnit.unitId).Nodup := by
  unfold construct at h
  simp only [bind_ok_iff, pure_ok_iff] at h
  obtain ⟨_, hstructure, _, -, _, -, units, hunits, _, -, hend⟩ := h
  obtain ⟨rfl, rfl⟩ := Prod.mk.inj hend
  refine ⟨rfl, ?_⟩
  have hids : units.map ConstructionUnit.unitId = projection.blocks.map RetrievalBlock.blockId := by
    refine forall₂_map_eq (fun block unit hunit => ?_) (mapEach_ok_iff.1 hunits)
    unfold constructUnit at hunit
    simp only [bind_ok_iff, pure_ok_iff] at hunit
    obtain ⟨_, -, _, -, _, -, _, -, rfl⟩ := hunit
    rfl
  show (units.map ConstructionUnit.unitId).Nodup
  rw [hids]
  unfold validateStructure validateAnchors at hstructure
  simp only [bind_ok_iff] at hstructure
  obtain ⟨_, ⟨_, -, _, -, _, -, _, -, _, -, _, hblocks, -⟩, -⟩ := hstructure
  exact nodup_blockIds List.nodup_nil hblocks

/-! ### the order of the units -/

theorem VectorizationUnit.precedes_iff {a b : VectorizationUnit} : a.precedes b = true ↔
    a.granularity < b.granularity ∨ a.granularity = b.granularity ∧
      (a.unitId = b.unitId ∧ a.channel.name.precedes b.channel.name = true ∨
        a.unitId ≠ b.unitId ∧ a.unitId.precedes b.unitId = true) := by
  unfold VectorizationUnit.precedes
  rw [Bool.or_eq_true, Bool.and_eq_true, decide_eq_true_eq, beq_iff_eq]
  by_cases hid : a.unitId = b.unitId
  · simp [hid]
  · simp [hid]

instance : Std.Total fun a b : VectorizationUnit => a.precedes b = true where
  total a b := by
    rw [VectorizationUnit.precedes_iff, VectorizationUnit.precedes_iff]
    rcases Int.lt_trichotomy a.granularity b.granularity with hlt | heq | hgt
    · exact Or.inl (Or.inl hlt)
    · by_cases hid : a.unitId = b.unitId
      · rcases Text.precedes_total a.channel.name b.channel.name with h | h
        · exact Or.inl (Or.inr ⟨heq, Or.inl ⟨hid, h⟩⟩)
        · exact Or.inr (Or.inr ⟨heq.symm, Or.inl ⟨hid.symm, h⟩⟩)
      · rcases Text.precedes_total a.unitId b.unitId with h | h
        · exact Or.inl (Or.inr ⟨heq, Or.inr ⟨hid, h⟩⟩)
        · exact Or.inr (Or.inr ⟨heq.symm, Or.inr ⟨Ne.symm hid, h⟩⟩)
    · exact Or.inr (Or.inl hgt)

instance : IsTrans VectorizationUnit fun a b => a.precedes b = true where
  trans a b c := by
    rw [VectorizationUnit.precedes_iff, VectorizationUnit.precedes_iff, VectorizationUnit.precedes_iff]
    rintro (hab | ⟨hab, hin⟩) (hbc | ⟨hbc, hin'⟩)
    · exact Or.inl (hab.trans hbc)
    · exact Or.inl (hbc ▸ hab)
    · exact Or.inl (hab ▸ hbc)
    · refine Or.inr ⟨hab.trans hbc, ?_⟩
      rcases hin with ⟨hid, hname⟩ | ⟨hid, hname⟩
      · rcases hin' with ⟨hid', hname'⟩ | ⟨hid', hname'⟩
        · exact Or.inl ⟨hid.trans hid', Text.precedes_trans hname hname'⟩
        · exact Or.inr ⟨hid ▸ hid', hid ▸ hname'⟩
      · rcases hin' with ⟨hid', hname'⟩ | ⟨hid', hname'⟩
        · exact Or.inr ⟨hid' ▸ hid, hid' ▸ hname⟩
        · refine Or.inr ⟨fun hac => hid ?_, Text.precedes_trans hname hname'⟩
          exact Text.precedes_antisymm hname (hac ▸ hname')

theorem VectorizationUnit.key_eq_of_precedes {a b : VectorizationUnit} (hab : a.precedes b = true)
    (hba : b.precedes a = true) : a.key = b.key := by
  rw [VectorizationUnit.precedes_iff] at hab hba
  have hname {c d : Channel} (hcd : c.name.precedes d.name = true) (hdc : d.name.precedes c.name = true) : c = d := by
    revert hcd hdc
    cases c <;> cases d <;> decide
  unfold VectorizationUnit.key
  rcases hab with hlt | ⟨hg, ⟨hid, hab⟩ | ⟨hid, hab⟩⟩
  · rcases hba with hgt | ⟨hg, -⟩
    · omega
    · omega
  · rcases hba with hgt | ⟨-, ⟨-, hba⟩ | ⟨hne, -⟩⟩
    · omega
    · rw [hid, hname hab hba]
    · exact absurd hid.symm hne
  · rcases hba with hgt | ⟨-, ⟨heq, -⟩ | ⟨-, hba⟩⟩
    · omega
    · exact absurd heq.symm hid
    · exact absurd (Text.precedes_antisymm hab hba) hid

theorem sorted_requiredUnits {units units' : List ConstructionUnit} (hperm : units'.Perm units)
    (hunits : ∀ unit ∈ units, unit.Channeled) (hids : (units.map ConstructionUnit.unitId).Nodup) :
    (requiredUnits units').insertionSort (fun a b => a.precedes b = true) =
      (requiredUnits units).insertionSort fun a b => a.precedes b = true := by
  have hrequired : (requiredUnits units').Perm (requiredUnits units) := hperm.flatMap_right _
  refine List.Perm.eq_of_pairwise ?_ (List.pairwise_insertionSort _ _) (List.pairwise_insertionSort _ _)
    ((List.perm_insertionSort _ _).trans (hrequired.trans (List.perm_insertionSort _ _).symm))
  intro a b ha hb hab hba
  have hmem := hrequired.mem_iff.1 ((List.mem_insertionSort _).1 ha)
  exact List.inj_on_of_nodup_map (nodup_requiredUnits hunits hids) hmem ((List.mem_insertionSort _).1 hb)
    (VectorizationUnit.key_eq_of_precedes hab hba)

/-- The package with its units in another order, the dual projection bound to it. -/
def reordered (J : JsonCodec β) (document : ConstructionDocument) (dual : DualChannelProjection)
    (units : List ConstructionUnit) : ConstructionDocument × DualChannelProjection :=
  ({ document with units := units },
    { dual with
      units := units
      constructionDocumentDigest := constructionDocumentDigest J { document with units := units } })

theorem validateConstruction_reordered {document : ConstructionDocument} {dual : DualChannelProjection}
    {units : List ConstructionUnit} (h : validateConstruction J document dual headers = .ok ())
    (hperm : units.Perm dual.units) :
    validateConstruction J (reordered J document dual units).1 (reordered J document dual units).2 headers = .ok () := by
  unfold validateConstruction at h ⊢
  simp only [bind_ok_iff, failIf_ok_iff, checkEach_ok_iff, Bool.or_eq_false_iff, Bool.not_eq_false',
    List.any_eq_true] at h ⊢
  obtain ⟨_, ⟨hartifacts, -⟩, _, ⟨hempty, hids⟩, _, hunits, unit, hunit, hg0⟩ := h
  refine ⟨(), ⟨hartifacts, bne_self_eq_false _⟩, (), ⟨?_, bne_self_eq_false _⟩, (), ?_, unit, hperm.mem_iff.2 hunit, hg0⟩
  · show units.isEmpty = false
    rw [List.isEmpty_eq_false_iff] at hempty ⊢
    rintro rfl
    rw [hperm.symm.eq_nil, bne_eq_false_iff_eq, List.map_nil, List.map_eq_nil_iff] at hids
    exact hempty hids
  · exact fun u hu => hunits u (hperm.mem_iff.1 hu)

theorem vectorizationPlan_reordered {document : ConstructionDocument} {dual : DualChannelProjection}
    {plan : VectorizationPlan} {units : List ConstructionUnit}
    (h : vectorizationPlan J document dual headers maxBytes = .ok plan) (hperm : units.Perm dual.units)
    (hids : (dual.units.map ConstructionUnit.unitId).Nodup) :
    ∃ plan', vectorizationPlan J (reordered J document dual units).1 (reordered J document dual units).2 headers
      maxBytes = .ok plan' ∧ plan'.required = plan.required ∧ plan'.requiredDigest = plan.requiredDigest := by
  have hchanneled := channeled_of_validateConstruction (vectorizationPlan_eq_ok h).1
  have hsorted := sorted_requiredUnits hperm hchanneled hids
  unfold vectorizationPlan at h ⊢
  simp only [bind_ok_iff, failIf_ok_iff, pure_ok_iff] at h ⊢
  obtain ⟨_, hvalid, _, hbudget, channels, hchannels, _, hready, _, hsummary, rfl⟩ := h
  obtain ⟨channels', hchannels', hpermChannels⟩ := mapEach_perm hperm.symm hchannels
  rw [vectors_of_planUnits hchannels] at hsummary
  refine ⟨_, ⟨(), validateConstruction_reordered hvalid hperm, (), hbudget, channels', hchannels', (), ?_, (), ?_, rfl⟩,
    ?_, ?_⟩
  · rw [Bool.not_eq_false', List.contains_iff_mem] at hready ⊢
    exact hpermChannels.flatten.mem_iff.1 hready
  · rw [vectors_of_planUnits hchannels', hsorted]
    exact hsummary
  · show List.insertionSort _ _ = List.insertionSort _ _
    rw [vectors_of_planUnits hchannels', vectors_of_planUnits hchannels, hsorted]
  · show J.stableDigest _ = J.stableDigest _
    rw [vectors_of_planUnits hchannels', vectors_of_planUnits hchannels, hsorted]

/-! ### the embeddings -/

theorem length_embedBody_le (headers : Headers) (content : Text) : (embedBody headers content).length ≤ content.length := by
  unfold embedBody
  split
  · exact Nat.le_refl _
  · split
    · rw [List.length_drop]
      omega
    · exact Nat.le_refl _

/-- The texts were sent in batches within the budget, each call answered with one vector for each text, and every text
has the vector at its place in the answer to its batch. -/
structure EmbeddedInBatches (adapter : EmbeddingAdapter F) (texts : List Text) (vectors : List (List F)) : Prop where
  batched : ∃ (batches : List (List Text)) (responses : List (EmbeddingResponse F)), batches.flatten = texts ∧
    (∀ batch ∈ batches, batch ≠ [] ∧ Packing.total List.length batch ≤ liveEmbedCharBudget) ∧
    List.Forall₂ (fun batch response => adapter batch.2 batch.1 = .ok response ∧
      response.vectors.length = batch.1.length) batches.zipIdx responses ∧
    vectors = (responses.map EmbeddingResponse.vectors).flatten ∧
    texts.zip vectors = (List.zipWith List.zip batches (responses.map EmbeddingResponse.vectors)).flatten
  covered : vectors.length = texts.length

theorem liveEmbeddings_eq_ok {isFinite : F → Bool} {layerA : EmbeddingModelRef} {adapter : EmbeddingAdapter F}
    {texts : List Text} {vectors : List (List F)} (htexts : ∀ text ∈ texts, text.length ≤ liveEmbedCharBudget)
    (h : liveEmbeddings isFinite layerA adapter texts = .ok vectors) : EmbeddedInBatches adapter texts vectors := by
  unfold liveEmbeddings at h
  obtain ⟨responses, hresponses, h⟩ := bind_ok_iff.1 h
  obtain ⟨_, -, h⟩ := bind_ok_iff.1 h
  obtain ⟨_, hlength, h⟩ := bind_ok_iff.1 h
  obtain ⟨_, -, h⟩ := bind_ok_iff.1 h
  obtain rfl := pure_ok_iff.1 h
  rw [failIf_ok_iff, Bool.or_eq_false_iff, bne_eq_false_iff_eq] at hlength
  have hanswers := mapEach_ok_iff.1 (mapError_ok_iff.1 hresponses)
  have hall : List.Forall₂ (fun batch response => adapter batch.2 batch.1 = .ok response ∧
      response.vectors.length = batch.1.length) (Packing.packs List.length liveEmbedCharBudget texts).zipIdx
      responses := by
    refine hanswers.imp fun batch response hresponse => ?_
    unfold embedBatch at hresponse
    obtain ⟨_, -, hresponse⟩ := bind_ok_iff.1 hresponse
    obtain ⟨raw, hraw, hresponse⟩ := bind_ok_iff.1 hresponse
    obtain ⟨_, hvalid, hresponse⟩ := bind_ok_iff.1 hresponse
    obtain rfl := pure_ok_iff.1 hresponse
    unfold validateEmbedding at hvalid
    simp only [bind_ok_iff, failIf_ok_iff, Bool.or_eq_false_iff, bne_eq_false_iff_eq] at hvalid
    obtain ⟨_, ⟨⟨-, hcount⟩, -⟩, -⟩ := hvalid
    exact ⟨hraw, hcount⟩
  have hlengths : List.Forall₂ (fun (batch : List Text) (answer : List (List F)) => answer.length = batch.length)
      (Packing.packs List.length liveEmbedCharBudget texts) (responses.map EmbeddingResponse.vectors) := by
    rw [List.forall₂_map_right_iff]
    exact forall₂_of_zipIdx (hall.imp fun _ _ h => h.2)
  refine ⟨⟨_, responses, Packing.flatten_packs texts, fun batch hbatch => ?_, hall, rfl, ?_⟩, hlength.2⟩
  · exact ⟨Packing.ne_nil_of_mem_packs hbatch, Packing.total_pack_le htexts hbatch⟩
  · have hzip := Packing.zip_flatten hlengths
    rwa [Packing.flatten_packs] at hzip

theorem EmbeddedInBatches.own {adapter : EmbeddingAdapter F} {texts : List Text} {vectors : List (List F)}
    (h : EmbeddedInBatches adapter texts vectors) {f : Text → List F}
    (hf : ∀ n batch response, adapter n batch = .ok response → response.vectors = batch.map f) :
    vectors = texts.map f := by
  obtain ⟨batches, responses, hflatten, -, hall, hvectors, -⟩ := h.batched
  have hanswers : List.Forall₂ (fun (batch : List Text) (response : EmbeddingResponse F) =>
      response.vectors = batch.map f) batches responses :=
    forall₂_of_zipIdx (hall.imp fun batch response hresponse => hf _ _ _ hresponse.1)
  rw [hvectors, forall₂_map_eq (fun _ _ h => h) hanswers, ← hflatten, List.map_flatten]

/-- The adapter answers every request within the bounds, with vectors that pass the check of the answer. -/
def AnswersRequests (isFinite : F → Bool) (layerA : EmbeddingModelRef) (adapter : EmbeddingAdapter F) : Prop :=
  ∀ n batch, embeddingRequestValid batch = true →
    ∃ response, adapter n batch = .ok response ∧ validateEmbedding isFinite layerA batch response = .ok ()

/-- The texts are within the budget and their batches within the bounds of a request. -/
structure Sendable (headers : Headers) (items : List VectorizationUnit) : Prop where
  within : ∀ item ∈ items, item.contentFull.length ≤ liveEmbedCharBudget
  requests : ∀ batch ∈ Packing.packs List.length liveEmbedCharBudget
    (items.map fun item => embedBody headers item.contentFull), embeddingRequestValid batch = true

theorem validateEmbedding_eq_ok {isFinite : F → Bool} {layerA : EmbeddingModelRef} {texts : List Text}
    {raw : EmbeddingResponse F} (h : validateEmbedding isFinite layerA texts raw = .ok ()) :
    raw.modelKey = layerA.modelKey ∧ raw.modelVersion = layerA.modelVersion ∧ raw.vectors.length = texts.length ∧
      ∀ vector ∈ raw.vectors, vectorValid isFinite layerA.dimension vector = true := by
  unfold validateEmbedding at h
  simp only [bind_ok_iff, failIf_ok_iff, Bool.or_eq_false_iff, bne_eq_false_iff_eq, Bool.not_eq_false',
    List.all_eq_true] at h
  obtain ⟨_, ⟨⟨⟨⟨hkey, hversion⟩, -⟩, hcount⟩, hdimension⟩, hvalid⟩ := h
  exact ⟨hkey, hversion, hcount, hdimension ▸ hvalid⟩

theorem liveEmbeddings_isOk {isFinite : F → Bool} {layerA : EmbeddingModelRef} {adapter : EmbeddingAdapter F}
    (hadapter : AnswersRequests isFinite layerA adapter) {texts : List Text} (hne : texts ≠ [])
    (hrequests : ∀ batch ∈ Packing.packs List.length liveEmbedCharBudget texts, embeddingRequestValid batch = true) :
    ∃ vectors, liveEmbeddings isFinite layerA adapter texts = .ok vectors ∧ vectors.length = texts.length := by
  obtain ⟨responses, hall⟩ : ∃ responses, List.Forall₂ (fun batch response =>
      embedBatch isFinite layerA adapter batch = .ok response ∧
        validateEmbedding isFinite layerA batch.1 response = .ok ())
      (Packing.packs List.length liveEmbedCharBudget texts).zipIdx responses := by
    refine exists_forall₂ fun batch hbatch => ?_
    have hrequest := hrequests batch.1 (List.fst_mem_of_mem_zipIdx hbatch)
    obtain ⟨response, hanswer, hvalid⟩ := hadapter batch.2 batch.1 hrequest
    refine ⟨response, bind_ok_iff.2 ⟨(), ?_, bind_ok_iff.2 ⟨response, hanswer, bind_ok_iff.2 ⟨(), hvalid, rfl⟩⟩⟩,
      hvalid⟩
    rw [failIf_ok_iff, hrequest]
    rfl
  have hvalid : List.Forall₂ (fun batch response => validateEmbedding isFinite layerA batch response = .ok ())
      (Packing.packs List.length liveEmbedCharBudget texts) responses :=
    forall₂_of_zipIdx (hall.imp fun _ _ h => h.2)
  have hfacts (response : EmbeddingResponse F) (hresponse : response ∈ responses) :
      ∃ batch, validateEmbedding isFinite layerA batch response = .ok () := by
    obtain ⟨batch, -, hbatch⟩ := forall₂_exists_of_mem_right hvalid hresponse
    exact ⟨batch, hbatch⟩
  have hlengths : (responses.map EmbeddingResponse.vectors).map List.length =
      (Packing.packs List.length liveEmbedCharBudget texts).map List.length := by
    have hcounts : List.Forall₂ (fun (batch : List Text) (response : EmbeddingResponse F) =>
        response.vectors.length = batch.length) (Packing.packs List.length liveEmbedCharBudget texts) responses :=
      hvalid.imp fun _ _ h => (validateEmbedding_eq_ok h).2.2.1
    rw [List.map_map]
    exact forall₂_map_eq (fun _ _ h => h) hcounts
  have hlength : (responses.map EmbeddingResponse.vectors).flatten.length = texts.length := by
    rw [List.length_flatten, hlengths, ← List.length_flatten, Packing.flatten_packs]
  have hresponses : responses ≠ [] := by
    rintro rfl
    exact hne (List.length_eq_zero_iff.1 hlength.symm)
  obtain ⟨_, hlast⟩ := hfacts _ (List.getLast_mem hresponses)
  refine ⟨(responses.map EmbeddingResponse.vectors).flatten, ?_, hlength⟩
  unfold liveEmbeddings
  refine bind_ok_iff.2 ⟨responses, mapError_ok_iff.2 (mapEach_ok_iff.2 (hall.imp fun _ _ h => h.1)), ?_⟩
  refine bind_ok_iff.2 ⟨_, required_ok_iff.2 (List.getLast?_eq_some_getLast hresponses), ?_⟩
  refine bind_ok_iff.2 ⟨(), ?_, bind_ok_iff.2 ⟨(), ?_, pure_ok_iff.2 rfl⟩⟩
  · rw [failIf_ok_iff, (validateEmbedding_eq_ok hlast).1, (validateEmbedding_eq_ok hlast).2.1, hlength]
    simp
  · rw [failIf_ok_iff, Bool.not_eq_false', List.all_eq_true]
    intro vector hvector
    obtain ⟨_, hmem, hvector⟩ := List.mem_flatten.1 hvector
    obtain ⟨response, hresponse, rfl⟩ := List.mem_map.1 hmem
    obtain ⟨_, hbatch⟩ := hfacts response hresponse
    exact (validateEmbedding_eq_ok hbatch).2.2.2 vector hvector

/-! ### the table -/

/-- The keys of the table: the record, and at most one live row at a coordinate. -/
structure UniqueRows (rows : List (EmbeddedRow F)) : Prop where
  records : (rows.map EmbeddedRow.record).Nodup
  coordinates : ∀ scope unitId channel, (rows.filter (EmbeddedRow.isAt scope unitId channel)).length ≤ 1

theorem EmbeddedRow.isAt_iff {r : EmbeddedRow F} {scope : VectorScope} {unitId : Text} {channel : Channel} :
    r.isAt scope unitId channel = true ↔
      r.scope = scope ∧ r.unitId = unitId ∧ r.channel = channel ∧ r.deletedAt = none := by
  unfold EmbeddedRow.isAt
  simp only [Bool.and_eq_true, beq_iff_eq, Option.isNone_iff_eq_none, and_assoc]

variable {scope : VectorScope} {rows rows' : List (EmbeddedRow F)} {record : VectorizedRecord F}

/-- The table with the record written: its row is the only live one at its coordinate, and no other coordinate is
touched. -/
structure Written (scope : VectorScope) (record : VectorizedRecord F) (rows rows' : List (EmbeddedRow F)) : Prop where
  unique : UniqueRows rows'
  own : rows'.filter (EmbeddedRow.isAt scope record.unitId record.channel) = [record.row scope]
  others : ∀ scope' unitId channel, (scope', unitId, channel) ≠ (scope, record.unitId, record.channel) →
    rows'.filter (EmbeddedRow.isAt scope' unitId channel) = rows.filter (EmbeddedRow.isAt scope' unitId channel)

theorem written_of_existing (hu : UniqueRows rows) {existing : EmbeddedRow F} (hmem : existing ∈ rows)
    (hat : existing.isAt scope record.unitId record.channel = true) (hrecord : existing.record = record.record) :
    Written scope record rows (updateWhere (fun r => r.record == existing.record && r.deletedAt.isNone)
      (EmbeddedRow.refresh record) rows) := by
  obtain ⟨hscope, hunit, hchannel, hlive⟩ := EmbeddedRow.isAt_iff.1 hat
  have hsame : ∀ r ∈ rows, (r.record == existing.record && r.deletedAt.isNone) = true → r = existing := by
    intro r hr hc
    rw [Bool.and_eq_true, beq_iff_eq] at hc
    exact eq_of_key hu.records hr hmem hc.1
  have hfilter (scope' : VectorScope) (unitId : Text) (channel : Channel) := filter_updateWhere_of_eq
    (c := fun r : EmbeddedRow F => r.record == existing.record && r.deletedAt.isNone)
    (p := EmbeddedRow.isAt scope' unitId channel) (f := EmbeddedRow.refresh record) (fun _ => rfl) rows
  have hown : rows.filter (EmbeddedRow.isAt scope record.unitId record.channel) = [existing] := by
    have hlength := hu.coordinates scope record.unitId record.channel
    have hfound : existing ∈ rows.filter (EmbeddedRow.isAt scope record.unitId record.channel) :=
      List.mem_filter.2 ⟨hmem, hat⟩
    match hrows : rows.filter (EmbeddedRow.isAt scope record.unitId record.channel), hlength with
    | [], _ =>
      rw [hrows] at hfound
      cases hfound
    | [r], _ =>
      rw [hrows] at hfound
      rw [List.mem_singleton.1 hfound]
    | _ :: _ :: _, hlength => exact absurd hlength (by simp)
  refine ⟨⟨nodup_keys_updateWhere (fun _ => rfl) hu.records, fun scope' unitId channel => ?_⟩, ?_, ?_⟩
  · rw [hfilter]
    unfold updateWhere
    rw [List.length_map]
    exact hu.coordinates scope' unitId channel
  · rw [hfilter, hown]
    have hc : (existing.record == existing.record && existing.deletedAt.isNone) = true := by
      rw [beq_self_eq_true, hlive]
      rfl
    show [if (existing.record == existing.record && existing.deletedAt.isNone) = true then
      EmbeddedRow.refresh record existing else existing] = _
    rw [if_pos hc]
    unfold EmbeddedRow.refresh VectorizedRecord.row
    rw [← hscope, ← hunit, ← hchannel, ← hrecord, hlive]
  · intro scope' unitId channel hne
    rw [hfilter]
    refine updateWhere_of_forall fun r hr => ?_
    obtain ⟨hr, hat'⟩ := List.mem_filter.1 hr
    rw [Bool.eq_false_iff]
    intro hc
    obtain rfl := hsame r hr hc
    obtain ⟨hscope', hunit', hchannel', -⟩ := EmbeddedRow.isAt_iff.1 hat'
    exact hne (by rw [← hscope, ← hunit, ← hchannel, hscope', hunit', hchannel'])

theorem written_of_insert (hu : UniqueRows rows) (hnew : ∀ r ∈ rows, r.record ≠ record.record ∧
    r.isAt scope record.unitId record.channel = false) : Written scope record rows (rows ++ [record.row scope]) := by
  have hat : (record.row scope).isAt scope record.unitId record.channel = true :=
    EmbeddedRow.isAt_iff.2 ⟨rfl, rfl, rfl, rfl⟩
  have hnone : rows.filter (EmbeddedRow.isAt scope record.unitId record.channel) = [] := by
    rw [List.filter_eq_nil_iff]
    intro r hr
    rw [(hnew r hr).2]
    exact Bool.false_ne_true
  have hothers : ∀ scope' unitId channel, (scope', unitId, channel) ≠ (scope, record.unitId, record.channel) →
      (rows ++ [record.row scope]).filter (EmbeddedRow.isAt scope' unitId channel) =
        rows.filter (EmbeddedRow.isAt scope' unitId channel) := by
    intro scope' unitId channel hne
    rw [List.filter_append, List.filter_cons_of_neg, List.filter_nil, List.append_nil]
    intro hat'
    obtain ⟨rfl, rfl, rfl, -⟩ := EmbeddedRow.isAt_iff.1 hat'
    exact hne rfl
  have hown : (rows ++ [record.row scope]).filter (EmbeddedRow.isAt scope record.unitId record.channel) =
      [record.row scope] := by
    rw [List.filter_append, hnone, List.filter_cons_of_pos hat, List.filter_nil, List.nil_append]
  refine ⟨⟨nodup_keys_append hu.records fun q hq => (hnew q hq).1, fun scope' unitId channel => ?_⟩, hown, hothers⟩
  by_cases heq : (scope', unitId, channel) = (scope, record.unitId, record.channel)
  · obtain ⟨rfl, hrest⟩ := Prod.mk.inj heq
    obtain ⟨rfl, rfl⟩ := Prod.mk.inj hrest
    rw [hown]
    exact Nat.le_refl 1
  · rw [hothers scope' unitId channel heq]
    exact hu.coordinates scope' unitId channel

theorem upsertVectorRecord_eq_ok (hu : UniqueRows rows) (h : upsertVectorRecord J scope rows record = .ok rows') :
    Written scope record rows rows' := by
  unfold upsertVectorRecord at h
  obtain ⟨_, -, h⟩ := bind_ok_iff.1 h
  obtain ⟨_, -, h⟩ := bind_ok_iff.1 h
  split at h
  · rename_i existing hfind
    obtain ⟨_, hfence, h⟩ := bind_ok_iff.1 h
    obtain rfl := pure_ok_iff.1 h
    rw [failIf_ok_iff, bne_eq_false_iff_eq] at hfence
    have hfound := List.find?_some hfind
    simp only [Bool.and_eq_true] at hfound
    exact written_of_existing hu (List.mem_of_find?_eq_some hfind) hfound.1 hfence
  · obtain ⟨_, hnew, h⟩ := bind_ok_iff.1 h
    obtain rfl := pure_ok_iff.1 h
    rw [failIf_ok_iff, List.any_eq_false] at hnew
    refine written_of_insert hu fun r hr => ?_
    have hno := hnew r hr
    rw [Bool.not_eq_true, Bool.or_eq_false_iff, beq_eq_false_iff_ne] at hno
    exact hno

/-- The table with all records written. -/
structure AllWritten (scope : VectorScope) (records : List (VectorizedRecord F)) (rows rows' : List (EmbeddedRow F)) :
    Prop where
  unique : UniqueRows rows'
  own : ∀ r ∈ records, rows'.filter (EmbeddedRow.isAt scope r.unitId r.channel) = [r.row scope]
  others : ∀ scope' unitId channel, (∀ r ∈ records, (scope', unitId, channel) ≠ (scope, r.unitId, r.channel)) →
    rows'.filter (EmbeddedRow.isAt scope' unitId channel) = rows.filter (EmbeddedRow.isAt scope' unitId channel)

def VectorizedRecord.key (r : VectorizedRecord F) : Text × Channel := (r.unitId, r.channel)

theorem allWritten_of_foldEach {records : List (VectorizedRecord F)} (hu : UniqueRows rows)
    (hkeys : (records.map VectorizedRecord.key).Nodup)
    (h : foldEach (upsertVectorRecord J scope) rows records = .ok rows') : AllWritten scope records rows rows' := by
  induction records generalizing rows with
  | nil =>
    obtain rfl := Except.ok.inj h
    exact ⟨hu, fun _ hr => absurd hr List.not_mem_nil, fun _ _ _ _ => rfl⟩
  | cons record records ih =>
    obtain ⟨next, hnext, hrest⟩ := bind_ok_iff.1 h
    rw [List.map_cons, List.nodup_cons] at hkeys
    have hw := upsertVectorRecord_eq_ok hu hnext
    have hall := ih hw.unique hkeys.2 hrest
    refine ⟨hall.unique, fun r hr => ?_, fun scope' unitId channel hne => ?_⟩
    · rcases List.mem_cons.1 hr with rfl | hr
      · rw [hall.others scope r.unitId r.channel fun q hq heq => ?_, hw.own]
        obtain ⟨-, hkey⟩ := Prod.mk.inj heq
        exact hkeys.1 (List.mem_map.2 ⟨q, hq, hkey.symm⟩)
      · exact hall.own r hr
    · rw [hall.others scope' unitId channel fun r hr => hne r (List.mem_cons_of_mem record hr)]
      exact hw.others scope' unitId channel (hne record List.mem_cons_self)

/-! ### what the writes ask of the records -/

def VectorizedRecord.bare (r : VectorizedRecord F) : VectorizedRecord F := { r with embedding := [] }

def EmbeddedRow.bare (r : EmbeddedRow F) : EmbeddedRow F := { r with embedding := [] }

theorem upsertVectorRecord_bare (rows : List (EmbeddedRow F)) (record : VectorizedRecord F) :
    upsertVectorRecord J scope (rows.map EmbeddedRow.bare) record.bare =
      (upsertVectorRecord J scope rows record).map (List.map EmbeddedRow.bare) := by
  have hupdate (k : VectorRecordId) :
      updateWhere (fun r => r.record == k && r.deletedAt.isNone) (EmbeddedRow.refresh record.bare)
          (rows.map EmbeddedRow.bare) =
        (updateWhere (fun r => r.record == k && r.deletedAt.isNone) (EmbeddedRow.refresh record) rows).map
          EmbeddedRow.bare := by
    unfold updateWhere
    rw [List.map_map, List.map_map]
    refine List.map_congr_left fun r _ => ?_
    show ite _ _ _ = EmbeddedRow.bare (ite _ _ _)
    rw [apply_ite EmbeddedRow.bare]
    rfl
  have hfind : (rows.map EmbeddedRow.bare).find?
      (fun r => r.isAt scope record.bare.unitId record.bare.channel && r.publicationState == .withdrawn) =
        (rows.find? fun r => r.isAt scope record.unitId record.channel && r.publicationState == .withdrawn).map
          EmbeddedRow.bare := List.find?_map ..
  have hany : (rows.map EmbeddedRow.bare).any
      (fun r => r.record == record.bare.record || r.isAt scope record.bare.unitId record.bare.channel) =
        rows.any fun r => r.record == record.record || r.isAt scope record.unitId record.channel := List.any_map
  unfold upsertVectorRecord
  refine bind_map fun _ => bind_map fun _ => ?_
  rw [hfind]
  cases rows.find? fun r => r.isAt scope record.unitId record.channel && r.publicationState == .withdrawn with
  | some existing => exact bind_map fun _ => congrArg Except.ok (hupdate existing.record)
  | none =>
    show (failIf ((rows.map EmbeddedRow.bare).any _) _ >>= _) = _
    rw [hany]
    refine bind_map fun _ => congrArg Except.ok ?_
    rw [List.map_append]
    rfl

/-! ### the records -/

/-- The channel needs a vector: it is not blank, and not a g0 original. -/
def ConstructionUnit.Requires (unit : ConstructionUnit) (channel : ChannelRecord) : Prop :=
  channel.contentFull.isBlank = false ∧ ¬ (unit.granularity = 0 ∧ channel.channel = .original)

def ConstructionUnit.channels (unit : ConstructionUnit) : List ChannelRecord := [unit.original, unit.summary]

/-- The record carries the coordinate and the content of the channel. -/
structure VectorizedRecord.IsOf (r : VectorizedRecord F) (unit : ConstructionUnit) (channel : ChannelRecord) : Prop where
  unitId : r.unitId = unit.unitId
  granularity : r.granularity = unit.granularity
  coordinate : r.coordinate = unit.coordinate
  content : r.content = channel.contentFull
  contentDigest : r.contentDigest = channel.contentFullDigest
  channel : r.channel = channel.channel

/-- One record for each channel that needs a vector, and no other. -/
structure CoversExactly (units : List ConstructionUnit) (records : List (VectorizedRecord F)) : Prop where
  sound : ∀ r ∈ records, ∃ unit ∈ units, ∃ channel ∈ unit.channels, unit.Requires channel ∧ r.IsOf unit channel
  complete : ∀ unit ∈ units, ∀ channel ∈ unit.channels, unit.Requires channel → ∃ r ∈ records, r.IsOf unit channel
  once : (records.map VectorizedRecord.key).Nodup

theorem requiredChannel_eq_some_iff {unit : ConstructionUnit} {channel : ChannelRecord} {item : VectorizationUnit} :
    unit.requiredChannel channel = some item ↔ unit.Requires channel ∧ item = ⟨unit.unitId, unit.granularity,
      channel.channel, unit.coordinate, channel.contentFull, channel.contentFullDigest⟩ := by
  unfold ConstructionUnit.requiredChannel ConstructionUnit.Requires
  rw [← Bool.not_eq_true]
  split
  · rename_i hg0
    rw [Bool.and_eq_true, beq_iff_eq, beq_iff_eq] at hg0
    simp [hg0]
  · rename_i hg0
    rw [Bool.and_eq_true, beq_iff_eq, beq_iff_eq] at hg0
    split
    · rename_i hblank
      simp [hblank]
    · rename_i hblank
      rw [Option.some.injEq]
      exact ⟨fun h => ⟨⟨hblank, hg0⟩, h.symm⟩, fun h => h.2.symm⟩

/-- The text that is embedded for the record. -/
def VectorizedRecord.text (headers : Headers) (r : VectorizedRecord F) : Text := embedBody headers r.content

/-- The embedding of every record is that of its own text. -/
def EmbedsOwnText (headers : Headers) (records : List (VectorizedRecord F)) : EmbeddingProfile F → Prop
  | .live none => False
  | .live (some adapter) =>
    EmbeddedInBatches adapter (records.map (VectorizedRecord.text headers)) (records.map VectorizedRecord.embedding) ∧
    ∀ f, (∀ n batch response, adapter n batch = .ok response → response.vectors = batch.map f) →
      ∀ r ∈ records, r.embedding = f (r.text headers)
  | .deterministic embedding => ∀ r ∈ records, r.embedding = embedding (r.text headers)

theorem vectorizedRecords_eq_ok {isFinite : F → Bool} {document : ConstructionDocument} {dual : DualChannelProjection}
    {layerA : EmbeddingModelRef} {profile : EmbeddingProfile F} {identity : VectorizationUnit → VectorRecordId}
    {records : List (VectorizedRecord F)} (h : vectorizedRecords J isFinite document dual headers maxBytes layerA profile
      identity = .ok records) :
    ∃ plan vectors, vectorizationPlan J document dual headers maxBytes = .ok plan ∧ plan.required ≠ [] ∧
      embedRequired isFinite layerA headers plan.required profile = .ok vectors ∧
      plan.required.length = vectors.length ∧
      records = List.zipWith (vectorizedRecord identity) plan.required vectors := by
  unfold vectorizedRecords at h
  obtain ⟨plan, hplan, h⟩ := bind_ok_iff.1 h
  obtain ⟨_, hrequired, h⟩ := bind_ok_iff.1 h
  obtain ⟨vectors, hvectors, h⟩ := bind_ok_iff.1 h
  obtain ⟨_, hlength, h⟩ := bind_ok_iff.1 h
  rw [failIf_ok_iff, List.isEmpty_eq_false_iff] at hrequired
  rw [failIf_ok_iff, bne_eq_false_iff_eq] at hlength
  exact ⟨plan, vectors, hplan, hrequired, hvectors, hlength.symm, (pure_ok_iff.1 h).symm⟩

section Records

variable {required : List VectorizationUnit} {vectors : List (List F)} {identity : VectorizationUnit → VectorRecordId}
  {units : List ConstructionUnit}

theorem coversExactly_of_required (hrequired : required.Perm (requiredUnits units))
    (hlength : required.length = vectors.length) (hchanneled : ∀ unit ∈ units, unit.Channeled)
    (hids : (units.map ConstructionUnit.unitId).Nodup) :
    CoversExactly units (List.zipWith (vectorizedRecord identity) required vectors) := by
  have hall := forall₂_zipWith (vectorizedRecord (F := F) identity) hlength
  refine ⟨fun r hr => ?_, fun unit hunit channel hchannel hneeds => ?_, ?_⟩
  · obtain ⟨item, hitem, vector, rfl⟩ := forall₂_exists_of_mem_right hall hr
    obtain ⟨unit, hunit, channel, hchannel, hsome⟩ := mem_requiredUnits_iff.1 (hrequired.mem_iff.1 hitem)
    obtain ⟨hneeds, rfl⟩ := requiredChannel_eq_some_iff.1 hsome
    exact ⟨unit, hunit, channel, hchannel, hneeds, ⟨rfl, rfl, rfl, rfl, rfl, rfl⟩⟩
  · have hsome := requiredChannel_eq_some_iff.2 ⟨hneeds, rfl⟩
    have hitem := hrequired.mem_iff.2 (mem_requiredUnits_iff.2 ⟨unit, hunit, channel, hchannel, hsome⟩)
    obtain ⟨r, hr, vector, rfl⟩ := forall₂_exists_of_mem_right hall.flip hitem
    exact ⟨_, hr, ⟨rfl, rfl, rfl, rfl, rfl, rfl⟩⟩
  · have hkeys : (List.zipWith (vectorizedRecord identity) required vectors).map VectorizedRecord.key =
        required.map VectorizationUnit.key := by
      refine forall₂_map_eq (fun item r hr => ?_) hall
      obtain ⟨vector, rfl⟩ := hr
      rfl
    rw [hkeys]
    exact (hrequired.map VectorizationUnit.key).nodup_iff.2 (nodup_requiredUnits hchanneled hids)

theorem embedsOwnText_of_required {isFinite : F → Bool} {layerA : EmbeddingModelRef} {profile : EmbeddingProfile F}
    (hlength : required.length = vectors.length)
    (h : embedRequired isFinite layerA headers required profile = .ok vectors) :
    EmbedsOwnText headers (List.zipWith (vectorizedRecord identity) required vectors) profile := by
  have htexts : (List.zipWith (vectorizedRecord identity) required vectors).map (VectorizedRecord.text headers) =
      required.map fun item => embedBody headers item.contentFull := by
    refine forall₂_map_eq (fun item r hr => ?_) (forall₂_zipWith _ hlength)
    obtain ⟨vector, rfl⟩ := hr
    rfl
  have hembeddings : (List.zipWith (vectorizedRecord identity) required vectors).map VectorizedRecord.embedding =
      vectors := map_zipWith_right (fun _ _ => rfl) hlength
  have hpointwise {f : Text → List F} (hf : vectors = (required.map fun item => embedBody headers item.contentFull).map f) :
      ∀ r ∈ List.zipWith (vectorizedRecord identity) required vectors, r.embedding = f (r.text headers) := by
    refine List.map_inj_left.1 ?_
    calc (List.zipWith (vectorizedRecord identity) required vectors).map VectorizedRecord.embedding = vectors :=
          hembeddings
      _ = (required.map fun item => embedBody headers item.contentFull).map f := hf
      _ = ((List.zipWith (vectorizedRecord identity) required vectors).map (VectorizedRecord.text headers)).map f := by
          rw [htexts]
      _ = (List.zipWith (vectorizedRecord identity) required vectors).map fun r => f (r.text headers) := List.map_map
  cases profile with
  | deterministic embedding =>
    refine hpointwise ?_
    rw [← pure_ok_iff.1 h, List.map_map]
    rfl
  | live adapter =>
    obtain ⟨_, hbudget, h⟩ := bind_ok_iff.1 h
    obtain ⟨adapter, hadapter, h⟩ := bind_ok_iff.1 h
    rw [required_ok_iff] at hadapter
    rw [failIf_ok_iff, List.any_eq_false] at hbudget
    subst hadapter
    have hembedded : EmbeddedInBatches adapter (required.map fun item => embedBody headers item.contentFull) vectors := by
      refine liveEmbeddings_eq_ok (fun text htext => ?_) h
      obtain ⟨item, hitem, rfl⟩ := List.mem_map.1 htext
      have hle := hbudget item hitem
      rw [decide_eq_true_eq, Nat.not_lt] at hle
      exact (length_embedBody_le headers item.contentFull).trans hle
    refine ⟨?_, fun f hf => hpointwise (hembedded.own hf)⟩
    rw [htexts, hembeddings]
    exact hembedded

theorem map_bare_vectorizedRecord (hlength : required.length = vectors.length) :
    (List.zipWith (vectorizedRecord identity) required vectors).map VectorizedRecord.bare =
      required.map fun item => vectorizedRecord identity item [] := by
  refine forall₂_map_eq (fun item r hr => ?_) (forall₂_zipWith _ hlength)
  obtain ⟨vector, rfl⟩ := hr
  rfl

end Records

/-- Where one profile vectorizes a package, an answering adapter does, if the texts can be sent. -/
theorem vectorizeFromConstruct_isOk {isFinite : F → Bool} {document : ConstructionDocument}
    {dual : DualChannelProjection} {profile : EmbeddingProfile F} {identity : VectorizationUnit → VectorRecordId}
    {records : List (VectorizedRecord F)} (h : vectorizeFromConstruct J isFinite document dual headers maxBytes scope
      profile identity rows = .ok (records, rows')) {plan : VectorizationPlan}
    (hplan : vectorizationPlan J document dual headers maxBytes = .ok plan) {adapter : EmbeddingAdapter F}
    (hadapter : AnswersRequests isFinite scope.layerA adapter) (hsendable : Sendable headers plan.required) :
    ∃ records' rows'', vectorizeFromConstruct J isFinite document dual headers maxBytes scope (.live (some adapter))
      identity rows = .ok (records', rows'') := by
  obtain ⟨_, hrecords, h⟩ := bind_ok_iff.1 h
  obtain ⟨_, hwrite, -⟩ := bind_ok_iff.1 h
  obtain ⟨plan', vectors, hplan', hrequired, -, hlength, rfl⟩ := vectorizedRecords_eq_ok hrecords
  obtain rfl := Except.ok.inj (hplan.symm.trans hplan')
  obtain ⟨answers, hanswers, hcount⟩ := liveEmbeddings_isOk hadapter
    (mt List.map_eq_nil_iff.1 hrequired) hsendable.requests
  rw [List.length_map] at hcount
  have hlive : embedRequired isFinite scope.layerA headers plan.required (.live (some adapter)) = .ok answers := by
    refine bind_ok_iff.2 ⟨(), ?_, hanswers⟩
    rw [failIf_ok_iff, List.any_eq_false]
    intro item hitem
    rw [decide_eq_true_eq, Nat.not_lt]
    exact hsendable.within item hitem
  have hnew : vectorizedRecords J isFinite document dual headers maxBytes scope.layerA (.live (some adapter)) identity =
      .ok (List.zipWith (vectorizedRecord identity) plan.required answers) := by
    refine bind_ok_iff.2 ⟨plan, hplan, bind_ok_iff.2 ⟨(), ?_, bind_ok_iff.2 ⟨answers, hlive,
      bind_ok_iff.2 ⟨(), ?_, pure_ok_iff.2 rfl⟩⟩⟩⟩
    · rw [failIf_ok_iff, List.isEmpty_eq_false_iff]
      exact hrequired
    · rw [failIf_ok_iff, bne_eq_false_iff_eq]
      exact hcount
  -- the writes succeed on the records of the other profile, and no write reads an embedding
  have hwrites (l : List (VectorizedRecord F)) : foldEach (upsertVectorRecord J scope) (rows.map EmbeddedRow.bare)
      (l.map VectorizedRecord.bare) = (foldEach (upsertVectorRecord J scope) rows l).map (List.map EmbeddedRow.bare) :=
    foldEach_map upsertVectorRecord_bare rows l
  have hold := hwrites (List.zipWith (vectorizedRecord identity) plan.required vectors)
  have hbare := hwrites (List.zipWith (vectorizedRecord identity) plan.required answers)
  rw [map_bare_vectorizedRecord hcount.symm, ← map_bare_vectorizedRecord hlength, hold, hwrite] at hbare
  obtain ⟨rows'', hrows'', -⟩ := map_eq_ok hbare.symm
  exact ⟨_, rows'', bind_ok_iff.2 ⟨_, hnew, bind_ok_iff.2 ⟨rows'', hrows'', rfl⟩⟩⟩

/-- An accepted vectorization of a constructed package covers it exactly. -/
theorem vectorization_exact (J : JsonCodec β) (isFinite : F → Bool) (structure_ : StructureDocument)
    (projection : RetrievalBlockProjection) (cleanText : Text) (summaries : Text → Option Text) (c : ConstructArguments)
    (document : ConstructionDocument) (dual : DualChannelProjection) (headers : Headers) (maxBytes : Nat)
    (scope : VectorScope) (profile : EmbeddingProfile F) (identity : VectorizationUnit → VectorRecordId)
    (rows rows' : List (EmbeddedRow F)) (records : List (VectorizedRecord F))
    (hconstruct : construct J structure_ projection cleanText summaries c = .ok (document, dual))
    (hvectorize : vectorizeFromConstruct J isFinite document dual headers maxBytes scope profile identity rows =
      .ok (records, rows'))
    (hrows : UniqueRows rows) :
    CoversExactly dual.units records ∧ AllWritten scope records rows rows' ∧ EmbedsOwnText headers records profile ∧
      (∀ plan units, vectorizationPlan J document dual headers maxBytes = .ok plan → units.Perm dual.units →
        ∃ plan', vectorizationPlan J (reordered J document dual units).1 (reordered J document dual units).2 headers
          maxBytes = .ok plan' ∧ plan'.required = plan.required ∧ plan'.requiredDigest = plan.requiredDigest) ∧
      ∀ plan adapter, vectorizationPlan J document dual headers maxBytes = .ok plan →
        AnswersRequests isFinite scope.layerA adapter → Sendable headers plan.required →
        ∃ records' rows'', vectorizeFromConstruct J isFinite document dual headers maxBytes scope
          (.live (some adapter)) identity rows = .ok (records', rows'') := by
  obtain ⟨-, hids⟩ := units_of_construct hconstruct
  have haccepted := hvectorize
  unfold vectorizeFromConstruct at hvectorize
  obtain ⟨_, hrecords, hvectorize⟩ := bind_ok_iff.1 hvectorize
  obtain ⟨_, hwrite, hend⟩ := bind_ok_iff.1 hvectorize
  obtain ⟨rfl, rfl⟩ := Prod.mk.inj (pure_ok_iff.1 hend)
  obtain ⟨plan, vectors, hplan, -, hvectors, hlength, rfl⟩ := vectorizedRecords_eq_ok hrecords
  obtain ⟨hvalid, hrequired, -⟩ := vectorizationPlan_eq_ok hplan
  have hperm : plan.required.Perm (requiredUnits dual.units) := hrequired ▸ List.perm_insertionSort _ _
  have hcovers : CoversExactly dual.units (List.zipWith (vectorizedRecord identity) plan.required vectors) :=
    coversExactly_of_required hperm hlength (channeled_of_validateConstruction hvalid) hids
  exact ⟨hcovers, allWritten_of_foldEach hrows hcovers.once hwrite, embedsOwnText_of_required hlength hvectors,
    fun plan' units hplan' hunits => vectorizationPlan_reordered hplan' hunits hids,
    fun plan' adapter hplan' hadapter hsendable => vectorizeFromConstruct_isOk haccepted hplan' hadapter hsendable⟩

/-! ### two blocks in two batches -/

def oneScope : VectorScope := ⟨1, 1, 1, ⟨1, 1, 1, 1⟩, 1⟩

/-- The registered local profile: the length of the text. -/
def lengthProfile : EmbeddingProfile Nat := .deterministic fun text => [text.length]

/-- A live adapter of the same embedding. -/
def lengthAdapter : EmbeddingAdapter Nat :=
  fun _ texts => .ok ⟨none, 1, 1, 1, texts.map fun text => [text.length]⟩

theorem answersRequests_lengthAdapter : AnswersRequests (fun _ => true) oneScope.layerA lengthAdapter := by
  intro n batch _
  refine ⟨_, rfl, ?_⟩
  simp [validateEmbedding, oneScope, vectorValid, failIf, bind, Except.bind]

def twoBlocks : LayeredContent :=
  { tunnelCandidate with
    blocks := [⟨0, 0, ⟨none, none⟩, ⟨none, none⟩⟩, ⟨1, 1, ⟨none, some "a".toList⟩, ⟨none, none⟩⟩] }

def twoBlockArguments : AdoptArguments :=
  ⟨"structure".toList, none, "clean".toList, some "a".toList, some [0, 1]⟩

/-- Summaries of 9000 characters each: two of them exceed the budget of a batch. -/
def longSummaries : Text → Option Text := fun _ => some (List.replicate 9000 's')

def threeRecords (item : VectorizationUnit) : VectorRecordId :=
  if item.granularity == 0 then 1 else if item.channel == .original then 2 else 3

/-- The root summary and both channels of the other unit go out in two batches, and every record has the length of its
own text. -/
theorem vectorization_twoBatches : ∃ structure_ projection document dual records rows',
    adoptLayeredJson plainPlatform "a".toList twoBlocks twoBlockArguments = .ok (structure_, projection) ∧
    construct plainPlatform.toJsonCodec structure_ projection "a".toList longSummaries plainConstruction =
      .ok (document, dual) ∧
    vectorizeFromConstruct plainPlatform.toJsonCodec (fun _ => true) document dual [] 100000 oneScope
      (.live (some lengthAdapter)) threeRecords [] = .ok (records, rows') ∧
    (records.map fun r => (r.record, r.embedding)) = [(1, [9000]), (2, [1]), (3, [9000])] ∧
    (Packing.packs List.length liveEmbedCharBudget (records.map (VectorizedRecord.text []))).map List.length = [2, 1] ∧
    CoversExactly dual.units records ∧ AllWritten oneScope records [] rows' ∧
    EmbedsOwnText [] records (.live (some lengthAdapter)) ∧
    AnswersRequests (fun _ => true) oneScope.layerA lengthAdapter := by
  have hrun : (show Except MkbError (List (VectorRecordId × List Nat) × List Nat) from do
      let (structure_, projection) ← adoptLayeredJson plainPlatform "a".toList twoBlocks twoBlockArguments
      let (document, dual) ← construct plainPlatform.toJsonCodec structure_ projection "a".toList longSummaries
        plainConstruction
      let (records, _) ← vectorizeFromConstruct plainPlatform.toJsonCodec (fun _ => true) document dual [] 100000
        oneScope (.live (some lengthAdapter)) threeRecords []
      return (records.map fun r => (r.record, r.embedding),
        (Packing.packs List.length liveEmbedCharBudget (records.map (VectorizedRecord.text []))).map List.length)).toOption =
      some ([(1, [9000]), (2, [1]), (3, [9000])], [2, 1]) := by decide +kernel
  obtain ⟨⟨structure_, projection⟩, hadopt, hrun⟩ := bind_ok_iff.1 (eq_ok_of_toOption hrun)
  obtain ⟨⟨document, dual⟩, hconstruct, hrun⟩ := bind_ok_iff.1 hrun
  obtain ⟨⟨records, rows'⟩, hvectorize, hend⟩ := bind_ok_iff.1 hrun
  obtain ⟨hrecords, hbatches⟩ := Prod.mk.inj (pure_ok_iff.1 hend)
  have hrows : UniqueRows ([] : List (EmbeddedRow Nat)) := ⟨List.nodup_nil, fun _ _ _ => Nat.zero_le 1⟩
  obtain ⟨hcovers, hwritten, hembeds, -⟩ := vectorization_exact plainPlatform.toJsonCodec (fun _ => true) structure_
    projection "a".toList longSummaries plainConstruction document dual [] 100000 oneScope (.live (some lengthAdapter))
    threeRecords [] rows' records hconstruct hvectorize hrows
  exact ⟨structure_, projection, document, dual, records, rows', hadopt, hconstruct, hvectorize, hrecords, hbatches,
    hcovers, hwritten, hembeds, answersRequests_lengthAdapter⟩

end KnowledgeBase
