import KnowledgeBase.Serving.Fact
import KnowledgeBase.Serving.Ownership

/-!
# What an active pointer stands on

A publication and a rebuild write a proof with the records it counts and move the pointer to it. Whatever the other
writers do later, the pointer keeps its last proof, the proof keeps its artifact and its namespace, and the records of
the artifact keep their place and their content; only their visibility changes. An Item that serves has an active
pointer.
-/

namespace KnowledgeBase

open Checked Relational

/-- A projection of the Revision that a stage may be given. -/
def ArtifactRow.IsProjectionOf (a : ArtifactRow) (team : TeamId) (item : ItemId) (revision : RevisionId) : Prop :=
  a.team = team ∧ a.item = item ∧ a.revision = revision ∧ a.fullValid = true

/-- A record without its visibility. -/
def VectorRecordRow.imprint (r : VectorRecordRow) : (VectorRecordId × Digest) × Slot × RevisionId × EmbeddingModelRef :=
  (r.member, r.slot, r.revision, r.layerA)

/-- The records of an artifact, without their visibility. -/
def imprints (l : List VectorRecordRow) (artifact : ArtifactId) :
    Set ((VectorRecordId × Digest) × Slot × RevisionId × EmbeddingModelRef) :=
  {x | ∃ r ∈ l, r.generationArtifact = artifact ∧ r.imprint = x}

namespace Serving

variable {s s' : Serving}

/-! ### the invariant -/

def HasProjection (s : Serving) (artifact : ArtifactId) (team : TeamId) (item : ItemId) (revision : RevisionId) : Prop :=
  ∃ a ∈ s.artifacts, a.artifact = artifact ∧ a.IsProjectionOf team item revision

def HasLayer (s : Serving) (nspace : NamespaceId) (team : TeamId) (layerA : EmbeddingModelRef) : Prop :=
  ∃ n ∈ s.namespaces, n.nspace = nspace ∧ n.binding = (team, layerA)

/-- What a handoff was written with. -/
structure Placed (s : Serving) (k : VectorizeHandoff) : Prop where
  projection : s.HasProjection k.generationArtifact k.team k.item k.revision
  layer : s.HasLayer k.nspace k.team k.layerA
  rows : ∀ x ∈ imprints s.records k.generationArtifact, x.2 = (k.slot, k.revision, k.layerA)

/-- What a proof was written with. -/
structure Proved (s : Serving) (p : ProofRow) : Prop where
  used : s.IsUsed p.generationArtifact
  projection : s.HasProjection p.generationArtifact p.team p.item p.revision
  layer : s.HasLayer p.nspace p.team p.layerA
  counts : ProofCounts p p.requiredSet.length
  required : p.requiredSet ≠ []
  nodup : p.requiredSet.Nodup
  actual : p.actualSet.Perm p.requiredSet
  members : ∀ v, v ∈ p.requiredSet ↔ ∃ x ∈ imprints s.records p.generationArtifact, x.1 = v
  rows : ∀ x ∈ imprints s.records p.generationArtifact, x.2 = (p.slot, p.revision, p.layerA)

structure Sourced (s : Serving) : Prop where
  handoffs : ∀ k ∈ s.handoffs, s.Placed k
  proofs : ∀ p ∈ s.proofs, s.Proved p
  pointers : ∀ q ∈ s.pointers, ∃ p ∈ s.proofs,
    p.slot = q.slot ∧ q.publication = (p.indexGeneration, p.proof, p.generationArtifact)
  serving : ∀ i ∈ s.items, i.servingRevision.isSome = true →
    ∃ q ∈ s.pointers, q.owner = i.key ∧ q.lifecycleState = .active
  live : ∀ i ∈ s.items, i.lifecycleState ≠ .deleted → i.deletedAt = none

theorem sourced_empty : Serving.empty.Sourced := by
  constructor <;> exact fun _ h => absurd h List.not_mem_nil

theorem HasProjection.mono (ha : s.artifacts ⊆ s'.artifacts) {artifact : ArtifactId} {team : TeamId} {item : ItemId}
    {revision : RevisionId} (h : s.HasProjection artifact team item revision) :
    s'.HasProjection artifact team item revision := by
  obtain ⟨a, hmem, hartifact, hof⟩ := h
  exact ⟨a, ha hmem, hartifact, hof⟩

theorem HasLayer.rise (hn : NamespacesRise s.namespaces s'.namespaces) {nspace : NamespaceId} {team : TeamId}
    {layerA : EmbeddingModelRef} (h : s.HasLayer nspace team layerA) : s'.HasLayer nspace team layerA := by
  obtain ⟨n, hmem, hnspace, hbinding⟩ := h
  obtain ⟨m, hm, hmn, hmb, -⟩ := hn n hmem
  exact ⟨m, hm, hmn.trans hnspace, hmb.trans hbinding⟩

/-- A handoff stays as it was written while the records of its artifact stay in place. -/
theorem Placed.mono {k : VectorizeHandoff} (ha : s.artifacts ⊆ s'.artifacts)
    (hn : NamespacesRise s.namespaces s'.namespaces)
    (hr : imprints s'.records k.generationArtifact = imprints s.records k.generationArtifact) (h : s.Placed k) :
    s'.Placed k := by
  refine ⟨h.projection.mono ha, h.layer.rise hn, ?_⟩
  rw [hr]
  exact h.rows

/-- A proof stays as it was written while the records of its artifact stay in place. -/
theorem Proved.mono {p : ProofRow} (hh : s.handoffs ⊆ s'.handoffs) (ha : s.artifacts ⊆ s'.artifacts)
    (hn : NamespacesRise s.namespaces s'.namespaces)
    (hr : imprints s'.records p.generationArtifact = imprints s.records p.generationArtifact) (h : s.Proved p) :
    s'.Proved p := by
  refine ⟨h.used.mono hh ha, h.projection.mono ha, h.layer.rise hn, h.counts, h.required, h.nodup, h.actual, ?_, ?_⟩
  · rw [hr]
    exact h.members
  · rw [hr]
    exact h.rows

/-! ### imprints -/

theorem imprints_map {f : VectorRecordRow → VectorRecordRow} (hf : KeepsPlace f) (l : List VectorRecordRow)
    (artifact : ArtifactId) : imprints (l.map f) artifact = imprints l artifact := by
  have hsame (r : VectorRecordRow) : (f r).imprint = r.imprint := by
    unfold VectorRecordRow.imprint
    rw [hf.member, hf.slot, (hf.source r).1, (hf.source r).2]
  ext x
  constructor
  · rintro ⟨r, hr, hartifact, rfl⟩
    obtain ⟨q, hq, rfl⟩ := List.mem_map.1 hr
    exact ⟨q, hq, (hf.artifact q).symm.trans hartifact, (hsame q).symm⟩
  · rintro ⟨r, hr, hartifact, rfl⟩
    exact ⟨f r, List.mem_map.2 ⟨r, hr, rfl⟩, (hf.artifact r).trans hartifact, hsame r⟩

theorem imprints_append {l l' : List VectorRecordRow} {artifact : ArtifactId}
    (h : ∀ r ∈ l', r.generationArtifact ≠ artifact) : imprints (l ++ l') artifact = imprints l artifact := by
  ext x
  constructor
  · rintro ⟨r, hr, hartifact, rfl⟩
    rcases List.mem_append.1 hr with hr | hr
    · exact ⟨r, hr, hartifact, rfl⟩
    · exact absurd hartifact (h r hr)
  · rintro ⟨r, hr, hartifact, rfl⟩
    exact ⟨r, List.mem_append_left _ hr, hartifact, rfl⟩

theorem imprints_writes {c : Vectorize} {old l : List VectorRecordRow} (h : Writes c old l) {artifact : ArtifactId}
    (hne : c.generationArtifact ≠ artifact) : imprints l artifact = imprints old artifact := by
  ext x
  constructor
  · rintro ⟨r, hr, hartifact, rfl⟩
    rcases h.rows r hr with hr | hw
    · exact ⟨r, hr, hartifact, rfl⟩
    · exact absurd (hw.artifact.symm.trans hartifact) hne
  · rintro ⟨r, hr, hartifact, rfl⟩
    exact ⟨r, h.old hr, hartifact, rfl⟩

/-! ### writers of no generation -/

/-- What a writer of no generation leaves of artifacts and of serving Items. -/
structure Holds (s s' : Serving) : Prop where
  artifacts : s.artifacts ⊆ s'.artifacts
  serving : ∀ i ∈ s'.items, i.servingRevision.isSome = true → ∃ j ∈ s.items, j.key = i.key ∧
    j.servingRevision.isSome = true ∧ ∀ q ∈ s.pointers, q.owner = i.key → q ∈ s'.pointers

theorem Holds.refl (s : Serving) : s.Holds s :=
  ⟨List.Subset.refl _, fun i hi hserving => ⟨i, hi, rfl, hserving, fun _ hq _ => hq⟩⟩

theorem Holds.trans {s'' : Serving} (h : s.Holds s') (h' : s'.Holds s'') : s.Holds s'' := by
  refine ⟨fun a ha => h'.artifacts (h.artifacts ha), fun i hi hserving => ?_⟩
  obtain ⟨j, hj, hkey, hjs, hpointers'⟩ := h'.serving i hi hserving
  obtain ⟨k, hk, hkj, hks, hpointers⟩ := h.serving j hj hjs
  refine ⟨k, hk, hkj.trans hkey, hks, fun q hq hqi => ?_⟩
  exact hpointers' q (hpointers q hq (hqi.trans hkey.symm)) hqi

theorem holds_updateItems {c : ItemRow → Bool} {f : ItemRow → ItemRow} {l : List ItemRow}
    (hf : ∀ i, (f i).key = i.key ∧ ((f i).servingRevision.isSome = true → i.servingRevision.isSome = true))
    {i : ItemRow} (hi : i ∈ updateWhere c f l) (hserving : i.servingRevision.isSome = true) :
    ∃ j ∈ l, j.key = i.key ∧ j.servingRevision.isSome = true := by
  rcases mem_updateWhere_cases hi with ⟨hi, -⟩ | ⟨j, hj, -, rfl⟩
  · exact ⟨i, hi, rfl, hserving⟩
  · exact ⟨j, hj, (hf j).1.symm, (hf j).2 hserving⟩

theorem Holds.of_items (ha : s'.artifacts = s.artifacts) (hp : s'.pointers = s.pointers)
    (hi : ∀ i ∈ s'.items, i.servingRevision.isSome = true → ∃ j ∈ s.items, j.key = i.key ∧ j.servingRevision.isSome = true) :
    s.Holds s' := by
  refine ⟨?_, fun i hmem hserving => ?_⟩
  · rw [ha]
    exact List.Subset.refl _
  · obtain ⟨j, hj, hkey, hjs⟩ := hi i hmem hserving
    refine ⟨j, hj, hkey, hjs, fun q hq _ => ?_⟩
    rw [hp]
    exact hq

theorem holds_itemsOffered {c : AcceptSnapshot} {i : ItemRow} (hi : i ∈ c.itemsOffered s)
    (hserving : i.servingRevision.isSome = true) : i ∈ s.items := by
  rcases mem_insertOrIgnore hi with hi | ⟨rfl, -⟩
  · exact hi
  · cases hserving

theorem holds_applied (hs : s.Keyed) {c : LifecycleCommand} {i : ItemRow} {target : IntakeLifecycle} (hi : i ∈ s.items)
    (hkey : i.key = (c.team, c.item)) : s.Holds (c.applied i target s) := by
  have hitem (j : ItemRow) (hj : j ∈ updateWhere (isAt i) (ItemRow.transition target c.now) s.items)
      (hserving : j.servingRevision.isSome = true) : j ∈ s.items ∧ j.key ≠ (c.team, c.item) := by
    rcases mem_updateWhere_cases hj with ⟨hj, hne⟩ | ⟨k, -, -, rfl⟩
    · refine ⟨hj, fun hjk => ?_⟩
      obtain rfl := hs.eq_item hj hi (hjk.trans hkey.symm)
      simp [isAt] at hne
    · cases hserving
  have hpointer (q : PointerRow) (hq : q ∈ s.pointers) (hne : q.owner ≠ (c.team, c.item)) :
      q ∈ withdrawPointers c.team c.item c.now s.pointers := by
    refine mem_updateWhere.2 ⟨q, hq, if_neg fun hc => hne ?_⟩
    simp only [Bool.and_eq_true, beq_iff_eq] at hc
    simp only [PointerRow.owner, hc.1.1, hc.1.2]
  unfold LifecycleCommand.applied
  split
  · refine ⟨List.Subset.refl _, fun j hj hserving => ?_⟩
    obtain ⟨hmem, hne⟩ := hitem j hj hserving
    exact ⟨j, hmem, rfl, hserving, fun q hq hqj => hpointer q hq (hqj ▸ hne)⟩
  · refine ⟨List.Subset.refl _, fun j hj hserving => ?_⟩
    obtain ⟨hmem, hne⟩ := hitem j hj hserving
    exact ⟨j, hmem, rfl, hserving, fun q hq hqj => hpointer q hq (hqj ▸ hne)⟩

theorem holds_transact (hs : s.Keyed) {grace : Nat} {t : ServingStep} (ht : t.isIndexing = false)
    (h : t.transact grace s = .ok s') : s.Holds s' := by
  have hsame (i : ItemRow) (hi : i ∈ s.items) (hserving : i.servingRevision.isSome = true) :
      ∃ j ∈ s.items, j.key = i.key ∧ j.servingRevision.isSome = true := ⟨i, hi, rfl, hserving⟩
  cases t with
  | vectorize c => cases ht
  | publish c => cases ht
  | indexRebuild c => cases ht
  | acceptSnapshot c =>
    obtain ⟨before, -, -, ⟨-, rfl⟩ | ⟨-, -, rfl⟩⟩ := acceptSnapshot_ok h
    · exact .of_items rfl rfl fun i hi hserving => ⟨i, holds_itemsOffered hi hserving, rfl, hserving⟩
    · refine .of_items rfl rfl fun i hi hserving => ?_
      obtain ⟨j, hj, hkey, hjs⟩ := holds_updateItems (f := ItemRow.accept c.revision) (fun _ => ⟨rfl, id⟩) hi hserving
      exact ⟨j, holds_itemsOffered hj hjs, hkey, hjs⟩
  | acceptCollection c =>
    refine foldEach_preserves (P := s.Holds) (fun d d' m _ hd hm => hd.trans ?_) (.refl s) h
    obtain ⟨-, rfl⟩ := insertMember_ok hm
    refine .of_items rfl rfl fun i hi hserving => ?_
    rcases List.mem_append.1 hi with hi | hi
    · exact ⟨i, hi, rfl, hserving⟩
    · rw [List.mem_singleton.1 hi] at hserving
      cases hserving
  | acceptRebuild t producer =>
    obtain ⟨i, -, -, -, rfl⟩ := acceptRebuild_ok h
    exact .of_items rfl rfl hsame
  | acceptMetadataUpdate t metadataRevision producer =>
    obtain ⟨i, -, -, -, rfl | ⟨revision, rfl⟩⟩ := acceptMetadataUpdate_ok h
    · exact .of_items rfl rfl hsame
    · exact .of_items rfl rfl fun i hi hserving =>
        holds_updateItems (f := ItemRow.accept revision) (fun _ => ⟨rfl, id⟩) hi hserving
  | lifecycle c =>
    obtain rfl | ⟨i, hi, hkey, target, -, rfl⟩ := applyLifecycle_ok h
    · exact .refl s'
    · exact holds_applied hs hi hkey
  | humanReview team snapshot decision =>
    obtain rfl := Except.ok.inj h
    cases decision with
    | approve =>
      exact .of_items rfl rfl fun i hi hserving => holds_updateItems (f := ItemRow.approve) (fun _ => ⟨rfl, id⟩) hi hserving
    | reject =>
      refine .of_items rfl rfl fun i hi hserving => ?_
      exact holds_updateItems (f := ItemRow.reject) (fun _ => ⟨rfl, fun he => by cases he⟩) hi hserving
  | acceptConstruct a =>
    obtain ⟨-, -, rfl⟩ := acceptConstruct_ok h
    exact ⟨List.subset_append_left _ _, fun i hi hserving => ⟨i, hi, rfl, hserving, fun _ hq _ => hq⟩⟩
  | discoverRetirement team item nspace retired =>
    obtain ⟨p, -, -, -, i, -, rfl⟩ := discoverRetirement_ok h
    exact .of_items rfl rfl hsame
  | softPurge i now =>
    obtain ⟨-, rfl⟩ := softPurge_ok h
    exact .of_items rfl rfl hsame
  | purgeGeneration c =>
    obtain rfl := purgeGeneration_ok h
    exact .of_items rfl rfl hsame
  | cleanupVectors team item now =>
    obtain ⟨-, rfl⟩ := cleanupVectors_ok h
    exact .of_items rfl rfl hsame

theorem publication_of_slots (ha : s.Advances s')
    (hslots : s'.pointers.map PointerRow.slot = s.pointers.map PointerRow.slot) {q : PointerRow} (hq : q ∈ s'.pointers) :
    ∃ p ∈ s.pointers, p.slot = q.slot ∧ p.publication = q.publication := by
  obtain ⟨p, hp, hslot⟩ := exists_slot_of_map_eq hslots.symm hq
  obtain ⟨q', hq', hkey, hpublication⟩ := ha.pointers p hp
  have hkeys : q'.key = q.key := by
    simp only [PointerRow.slot, Prod.mk.injEq] at hslot
    rw [hkey]
    simp only [PointerRow.key, hslot]
  obtain rfl := eq_of_key ha.keyed.pointers hq' hq hkeys
  refine ⟨p, hp, hslot, ?_⟩
  rcases hpublication with he | hlt
  · exact he.symm
  · simp only [PointerRow.slot, Prod.mk.injEq] at hslot
    omega

theorem Sourced.quiet (h : s.Sourced) (ha : s.Advances s') (hq : s.Quiet s') (hh : s.Holds s') :
    s'.Sourced := by
  obtain ⟨f, hf, -, hrecords⟩ := hq.records
  have hrise : NamespacesRise s.namespaces s'.namespaces := by
    rw [hq.ledgers.namespaces]
    exact .refl _
  have himprints (artifact : ArtifactId) : imprints s'.records artifact = imprints s.records artifact := by
    rw [hrecords]
    exact imprints_map hf _ _
  constructor
  · intro k hk
    rw [hq.ledgers.handoffs] at hk
    exact (h.handoffs k hk).mono hh.artifacts hrise (himprints _)
  · intro p hp
    rw [hq.ledgers.proofs] at hp
    refine (h.proofs p hp).mono ?_ hh.artifacts hrise (himprints _)
    rw [hq.ledgers.handoffs]
    exact List.Subset.refl _
  · intro q hmem
    obtain ⟨p, hp, hslot, hpublication⟩ := publication_of_slots ha hq.pointers hmem
    obtain ⟨r, hr, hrs, hrp⟩ := h.pointers p hp
    rw [hq.ledgers.proofs]
    exact ⟨r, hr, hrs.trans hslot, hpublication.symm.trans hrp⟩
  · intro i hi hserving
    obtain ⟨j, hj, hkey, hjs, hpointers⟩ := hh.serving i hi hserving
    obtain ⟨q, hmem, howner, hactive⟩ := h.serving j hj hjs
    exact ⟨q, hpointers q hmem (howner.trans hkey), howner.trans hkey, hactive⟩
  · exact hq.live h.live

/-! ### vectorize -/

theorem projection_of_vectorize {c : Vectorize} (h : s.vectorize c = .ok s') :
    s.HasProjection c.generationArtifact c.team c.item c.revision := by
  unfold vectorize at h
  obtain ⟨_, hgate, -⟩ := bind_ok_iff.1 h
  unfold constructGate at hgate
  obtain ⟨a, ha, hgate⟩ := bind_ok_iff.1 hgate
  obtain ⟨_, hf, -⟩ := bind_ok_iff.1 hgate
  obtain ⟨hmem, hteam, hartifact⟩ := artifact?_eq_some (required_ok_iff.1 ha)
  rw [failIf_ok_iff] at hf
  simp only [Bool.or_eq_false_iff, bne_eq_false_iff_eq, Bool.not_eq_false'] at hf
  exact ⟨a, hmem, hartifact, hteam, hf.1.2, hf.2, hf.1.1.1⟩

theorem hasLayer_vectorize {c : Vectorize} (h : s.vectorize c = .ok s') :
    NamespacesRise s.namespaces s'.namespaces ∧ s'.HasLayer c.nspace c.team c.layerA := by
  obtain ⟨l, hl, -, hnamespaces⟩ := vectorize_claims h
  have hrise : NamespacesRise l s'.namespaces := by
    rw [hnamespaces]
    exact namespacesRise_raise _ _ _
  refine ⟨hl.rise.trans hrise, ?_⟩
  obtain ⟨n, hn, hnspace, hbinding⟩ : ∃ n ∈ l, n.nspace = c.nspace ∧ n.binding = (c.team, c.layerA) := by
    rcases hl with ⟨⟨n, hn, hbinding, hnspace⟩, rfl⟩ | ⟨-, -, rfl⟩
    · simp only [isBinding, Bool.and_eq_true, beq_iff_eq] at hbinding
      refine ⟨n, hn, hnspace, ?_⟩
      rw [NamespaceRow.binding, hbinding.1, hbinding.2]
    · exact ⟨c.namespaceRow, List.mem_append_right _ List.mem_cons_self, rfl, rfl⟩
  obtain ⟨m, hm, hmn, hmb, -⟩ := hrise n hn
  exact ⟨m, hm, hmn.trans hnspace, hmb.trans hbinding⟩

theorem planned_foldEach {c : Vectorize} {old l : List VectorRecordRow}
    (hfresh : ∀ r ∈ old, r.generationArtifact ≠ c.generationArtifact)
    (h : foldEach (upsertVectorRecord c) old c.records = .ok l) :
    ∀ r ∈ l, r.generationArtifact = c.generationArtifact → r.revision = c.revision ∧ r.layerA = c.layerA := by
  refine foldEach_preserves (P := fun l => ∀ r ∈ l, r.generationArtifact = c.generationArtifact →
    r.revision = c.revision ∧ r.layerA = c.layerA) (fun d d' u _ hd hu r hr hartifact => ?_)
    (fun r hr hartifact => absurd hartifact (hfresh r hr)) h
  obtain ⟨-, -, -, -, rfl⟩ | ⟨-, rfl⟩ := upsertVectorRecord_ok hu
  · rcases mem_updateWhere_cases hr with ⟨hr, -⟩ | ⟨q, -, -, rfl⟩
    · exact hd r hr hartifact
    · exact ⟨rfl, rfl⟩
  · rcases List.mem_append.1 hr with hr | hr
    · exact hd r hr hartifact
    · rw [List.mem_singleton.1 hr]
      exact ⟨rfl, rfl⟩

theorem sourced_vectorize (hs : s.Keyed) (hp : s.Provenance) (h : s.Sourced) {c : Vectorize}
    (hc : s.vectorize c = .ok s') : s'.Sourced := by
  have hprojection := projection_of_vectorize hc
  obtain ⟨hrise, hlayer⟩ := hasLayer_vectorize hc
  obtain ⟨⟨a, ha, hgate⟩, -, hfresh, namespaces, records, hrecords, rfl⟩ := vectorize_ok hc
  have hunused := hp.not_isUsed hs ha hgate hfresh
  have hold (r : VectorRecordRow) (hr : r ∈ s.records) : r.generationArtifact ≠ c.generationArtifact :=
    fun he => hunused (he ▸ hp.recordUsed r hr)
  have hwrites := writes_foldEach hs.records hold hrecords
  have hplanned := planned_foldEach hold hrecords
  constructor
  · intro k hk
    rcases List.mem_append.1 hk with hk | hk
    · refine (h.handoffs k hk).mono (List.Subset.refl s.artifacts) hrise (imprints_writes hwrites fun he => ?_)
      exact hunused (.inl ⟨k, hk, he.symm⟩)
    · rw [List.mem_singleton.1 hk]
      refine ⟨hprojection, hlayer, ?_⟩
      rintro x ⟨r, hr, hartifact, rfl⟩
      have hwritten : IsWrittenFor c.handoff r := by
        rcases hwrites.rows r hr with hr | hw
        · exact absurd hartifact (hold r hr)
        · exact hw.written
      obtain ⟨hrevision, hlayerA⟩ := hplanned r hr hartifact
      show (r.slot, r.revision, r.layerA) = _
      rw [hrevision, hlayerA]
      unfold VectorRecordRow.slot VectorizeHandoff.slot
      rw [hwritten.team, hwritten.item, hwritten.nspace, hwritten.indexGeneration]
      rfl
  · intro p hmem
    have hproved := h.proofs p hmem
    refine hproved.mono (List.subset_append_left _ _) (List.Subset.refl s.artifacts) hrise
      (imprints_writes hwrites fun he => ?_)
    exact hunused (he ▸ hproved.used)
  · exact h.pointers
  · exact h.serving
  · exact h.live

/-! ### publication -/

theorem StandsAt.slot {p : ProofRow} {q : PointerRow} (h : StandsAt p q) : q.slot = p.slot := by
  have hkey := h.key
  have hgeneration : q.activeIndexGeneration = p.indexGeneration := congrArg Prod.fst h.publication
  simp only [PointerRow.key, Prod.mk.injEq] at hkey
  simp only [PointerRow.slot, ProofRow.slot, hkey, hgeneration]

theorem StandsAt.owner {p : ProofRow} {q : PointerRow} (h : StandsAt p q) : q.owner = (p.team, p.item) :=
  congrArg (fun x => (x.1, x.2.1)) h.key

/-- The pointers, of which the one of the proof has moved to it. -/
structure MovesTo (p : ProofRow) (l l' : List PointerRow) : Prop where
  cases : ∀ q ∈ l', q ∈ l ∨ StandsAt p q
  reached : ∃ q ∈ l', StandsAt p q
  active : ∀ q ∈ l, q.lifecycleState = .active → ∃ q' ∈ l', q'.owner = q.owner ∧ q'.lifecycleState = .active

theorem movesTo_updateWhere {c : PointerRow → Bool} {p : ProofRow} {now : Time} {l : List PointerRow}
    (hc : ∀ q, c q = true → q.key = (p.team, p.item, p.nspace)) {r : PointerRow} (hr : r ∈ l) (hcr : c r = true) :
    MovesTo p l (updateWhere c (PointerRow.promote p now) l) := by
  have hstands (q : PointerRow) (hq : c q = true) : StandsAt p (PointerRow.promote p now q) := ⟨hc q hq, rfl, rfl⟩
  refine ⟨fun q hq => ?_, ⟨PointerRow.promote p now r, mem_updateWhere.2 ⟨r, hr, if_pos hcr⟩, hstands r hcr⟩,
    fun q hq hactive => ⟨_, mem_updateWhere_of_mem hq, ?_⟩⟩
  · rcases mem_updateWhere_cases hq with ⟨hq, -⟩ | ⟨x, -, hx, rfl⟩
    · exact .inl hq
    · exact .inr (hstands x hx)
  · split
    · exact ⟨rfl, rfl⟩
    · exact ⟨rfl, hactive⟩

theorem Promoted.movesTo {p : ProofRow} {now : Time} {l l' : List PointerRow} (h : Promoted p now l l') :
    MovesTo p l l' := by
  rcases h with ⟨-, rfl⟩ | ⟨q, -, hkey, ⟨r, hr, hsup⟩, rfl⟩
  · have hstands : StandsAt p (p.firstPointer now) := ⟨rfl, rfl, rfl⟩
    refine ⟨fun q hq => ?_, ⟨_, List.mem_append_right _ List.mem_cons_self, hstands⟩,
      fun q hq hactive => ⟨q, List.mem_append_left _ hq, rfl, hactive⟩⟩
    rcases List.mem_append.1 hq with hq | hq
    · exact .inl hq
    · rw [List.mem_singleton.1 hq]
      exact .inr hstands
  · refine movesTo_updateWhere (fun x hx => ?_) hr hsup
    simp only [isSuperseded, Bool.and_eq_true, beq_iff_eq] at hx
    exact hx.1.1.trans hkey

theorem Sourced.moved (h : s.Sourced) {p : ProofRow} (hproofs : s'.proofs = s.proofs ++ [p])
    (hm : MovesTo p s.pointers s'.pointers) : ∀ q ∈ s'.pointers, ∃ p ∈ s'.proofs,
      p.slot = q.slot ∧ q.publication = (p.indexGeneration, p.proof, p.generationArtifact) := by
  intro q hq
  rw [hproofs]
  rcases hm.cases q hq with hq | hstands
  · obtain ⟨r, hr, hrq⟩ := h.pointers q hq
    exact ⟨r, List.mem_append_left _ hr, hrq⟩
  · exact ⟨p, List.mem_append_right _ List.mem_cons_self, hstands.slot.symm, hstands.publication⟩

theorem Sourced.serving_moved (h : s.Sourced) {p : ProofRow} (hm : MovesTo p s.pointers s'.pointers)
    (hi : ∀ i ∈ s'.items, i ∈ s.items ∨ i.key = (p.team, p.item)) : ∀ i ∈ s'.items, i.servingRevision.isSome = true →
      ∃ q ∈ s'.pointers, q.owner = i.key ∧ q.lifecycleState = .active := by
  intro i hmem hserving
  rcases hi i hmem with hold | hkey
  · obtain ⟨q, hq, howner, hactive⟩ := h.serving i hold hserving
    obtain ⟨q', hq', howner', hactive'⟩ := hm.active q hq hactive
    exact ⟨q', hq', howner'.trans howner, hactive'⟩
  · obtain ⟨q, hq, hstands⟩ := hm.reached
    exact ⟨q, hq, hstands.owner.trans hkey.symm, hstands.active⟩

theorem publish_reads (hs : s.Keyed) {grace : Nat} {c : Publish} {k : VectorizeHandoff} (hw : Published c k s s')
    (h : s.publish grace c = .ok s') :
    k.vectorRecords ≠ [] ∧ ((s.records.filter (isOfHandoff c.team k)).map VectorRecordRow.member).Perm k.vectorRecords ∧
      s'.artifacts = s.artifacts ∧ ∀ i ∈ s'.items, i ∈ s.items ∨ i.key = (c.team, k.item) := by
  have hne : k.vectorRecords ≠ [] := by
    have hfound := h
    unfold publish at hfound
    obtain ⟨j, hj, hfound⟩ := bind_ok_iff.1 hfound
    obtain ⟨_, hempty, -⟩ := bind_ok_iff.1 hfound
    rw [required_ok_iff] at hj
    have hof := List.find?_some hj
    simp only [Bool.and_eq_true, beq_iff_eq] at hof
    obtain rfl := eq_of_key hs.handoffs (List.mem_of_find?_eq_some hj) hw.handoff (hof.1.trans hw.execution.symm)
    rw [failIf_ok_iff, List.isEmpty_eq_false_iff] at hempty
    exact hempty
  obtain ⟨j, hj, hexecution, -, fetched, hfetched, -, -, itemEpoch, s₁, s₂, before, h₁, h₂, h₃⟩ := publish_ok h
  obtain rfl := eq_of_key hs.handoffs hj hw.handoff (hexecution.trans hw.execution.symm)
  obtain ⟨rfl, -, -, hperm⟩ := publishableRecords_ok hfetched
  have hs₁ : s₁.artifacts = s.artifacts ∧ s₁.items = s.items := by
    obtain ⟨-, rfl⟩ | ⟨q, -, -, -, rfl⟩ := promotePointer_ok h₁
    · exact ⟨rfl, rfl⟩
    · exact ⟨rfl, rfl⟩
  have hs₂ : s₂.artifacts = s.artifacts ∧ ∀ i ∈ s₂.items, i ∈ s.items ∨ i.key = (c.team, j.item) := by
    obtain ⟨-, -, -, -, rfl⟩ | ⟨i, -, hkey, -, rfl⟩ := publishRevision_ok h₂
    · refine ⟨hs₁.1, fun x hx => .inl ?_⟩
      rw [← hs₁.2]
      exact hx
    · refine ⟨hs₁.1, fun x hx => ?_⟩
      rcases mem_updateWhere_cases hx with ⟨hx, -⟩ | ⟨y, -, hy, rfl⟩
      · refine .inl ?_
        rw [← hs₁.2]
        exact hx
      · simp only [servesNext, Bool.and_eq_true, beq_iff_eq] at hy
        exact .inr (hy.1.1.1.trans hkey)
  refine ⟨hne, hperm, ?_⟩
  obtain rfl | ⟨q, -, i, -, -, rfl⟩ := retireSuperseded_ok h₃
  · exact hs₂
  · exact hs₂

theorem nodup_members (hs : s.Keyed) (c : VectorRecordRow → Bool) :
    ((s.records.filter c).map VectorRecordRow.member).Nodup := by
  have hrecords : ((s.records.filter c).map VectorRecordRow.record).Nodup :=
    hs.records.sublist (List.filter_sublist.map _)
  refine List.Nodup.of_map Prod.fst ?_
  rw [List.map_map]
  exact hrecords

theorem Placed.proved (hs : s.Keyed) (hp : s.Provenance) {c : Publish} {k : VectorizeHandoff} (hk : k ∈ s.handoffs)
    (hteam : k.team = c.team) (hne : k.vectorRecords ≠ [])
    (hperm : ((s.records.filter (isOfHandoff c.team k)).map VectorRecordRow.member).Perm k.vectorRecords)
    (h : s.Placed k) : s.Proved (c.provedRow k s) := by
  constructor
  · exact .inl ⟨k, hk, rfl⟩
  · show s.HasProjection k.generationArtifact c.team k.item k.revision
    rw [← hteam]
    exact h.projection
  · show s.HasLayer k.nspace c.team k.layerA
    rw [← hteam]
    exact h.layer
  · exact ⟨rfl, rfl, rfl⟩
  · exact hne
  · exact hperm.nodup_iff.1 (nodup_members hs _)
  · exact hperm
  · intro v
    show v ∈ k.vectorRecords ↔ _
    rw [← hperm.mem_iff, List.mem_map]
    constructor
    · rintro ⟨r, hr, rfl⟩
      obtain ⟨hr, hof⟩ := List.mem_filter.1 hr
      rw [← hteam] at hof
      exact ⟨r.imprint, ⟨r, hr, (mem_fetched_iff hp hk hr).1 hof, rfl⟩, rfl⟩
    · rintro ⟨x, ⟨r, hr, hartifact, rfl⟩, rfl⟩
      refine ⟨r, List.mem_filter.2 ⟨hr, ?_⟩, rfl⟩
      rw [← hteam]
      exact (mem_fetched_iff hp hk hr).2 hartifact
  · intro x hx
    rw [h.rows x hx, provedRow_slot hteam]
    rfl

theorem sourced_publish (hs : s.RunFacts) (h : s.Sourced) {grace : Nat} {c : Publish} (hc : s.publish grace c = .ok s') :
    s'.Sourced := by
  have hnamespaces := namespaces_publish hs.counted hc
  obtain ⟨k, hw⟩ := publish_writes hc
  obtain ⟨hne, hperm, hartifacts, hitems⟩ := publish_reads hs.keyed hw hc
  have hplaced := h.handoffs k hw.handoff
  have hproved := hplaced.proved hs.keyed hs.provenance hw.handoff hw.team hne hperm
  have hmoves := hw.pointers.movesTo
  have hrise : NamespacesRise s.namespaces s'.namespaces := by
    rw [hnamespaces]
    exact .refl _
  have hsub : s.artifacts ⊆ s'.artifacts := by
    rw [hartifacts]
    exact List.Subset.refl _
  have hhandoffs : s.handoffs ⊆ s'.handoffs := by
    rw [hw.handoffs]
    exact List.Subset.refl _
  have himprints (artifact : ArtifactId) : imprints s'.records artifact = imprints s.records artifact := by
    rw [hw.records]
    exact imprints_map (keepsPlace_ite keepsPlace_index (isOfHandoff c.team k)) _ _
  constructor
  · intro j hj
    rw [hw.handoffs] at hj
    exact (h.handoffs j hj).mono hsub hrise (himprints _)
  · intro p hp
    rw [hw.proofs] at hp
    rcases List.mem_append.1 hp with hp | hp
    · exact (h.proofs p hp).mono hhandoffs hsub hrise (himprints _)
    · rw [List.mem_singleton.1 hp]
      exact hproved.mono hhandoffs hsub hrise (himprints _)
  · exact h.moved hw.proofs hmoves
  · exact h.serving_moved hmoves hitems
  · exact live_published hw h.live

/-! ### index rebuild -/

theorem validateSourceRecords_ok {p : IndexRebuildPlan} {proof : ProofRow} {records : List VectorRecordRow} {u : Unit}
    (h : validateSourceRecords p proof records = .ok u) :
    records ≠ [] ∧ (∀ r ∈ records, r.layerA = p.layerA) ∧ ProofCounts proof records.length ∧
      proof.requiredSet.Perm (records.map VectorRecordRow.member) ∧
      proof.actualSet.Perm (records.map VectorRecordRow.member) := by
  unfold validateSourceRecords at h
  obtain ⟨_, h₁, h⟩ := bind_ok_iff.1 h
  obtain ⟨_, h₂, h₃⟩ := bind_ok_iff.1 h
  rw [failIf_ok_iff, List.isEmpty_eq_false_iff] at h₁
  rw [failIf_ok_iff, List.any_eq_false] at h₂
  rw [failIf_ok_iff] at h₃
  simp only [Bool.or_eq_false_iff, bne_eq_false_iff_eq, Bool.not_eq_false', List.isPerm_iff] at h₃
  refine ⟨h₁, fun r hr => ?_, ⟨h₃.1.1.1.1, h₃.1.1.1.2, h₃.1.1.2⟩, h₃.1.2, h₃.2⟩
  have hr := h₂ r hr
  simpa using hr

theorem validateSourceRecords_of {p : IndexRebuildPlan} {proof : ProofRow} {records : List VectorRecordRow}
    (hne : records ≠ []) (hlayer : ∀ r ∈ records, r.layerA = p.layerA) (hcounts : ProofCounts proof records.length)
    (hrequired : proof.requiredSet.Perm (records.map VectorRecordRow.member))
    (hactual : proof.actualSet.Perm (records.map VectorRecordRow.member)) :
    validateSourceRecords p proof records = .ok () := by
  unfold validateSourceRecords
  refine bind_ok_iff.2 ⟨(), ?_, bind_ok_iff.2 ⟨(), ?_, ?_⟩⟩
  · rw [failIf_ok_iff, List.isEmpty_eq_false_iff]
    exact hne
  · rw [failIf_ok_iff, List.any_eq_false]
    intro r hr
    rw [hlayer r hr, bne_self_eq_false]
    exact Bool.false_ne_true
  · rw [failIf_ok_iff]
    simp only [Bool.or_eq_false_iff, bne_eq_false_iff_eq, Bool.not_eq_false', List.isPerm_iff]
    exact ⟨⟨⟨⟨hcounts.1, hcounts.2.1⟩, hcounts.2.2⟩, hrequired⟩, hactual⟩

theorem commitPlan_sources {grace : Nat} {c : IndexRebuild} {p : IndexRebuildPlan} (h : s.commitPlan grace c p = .ok s') :
    s.records.filter (p.isSource c.team) ≠ [] ∧ (∀ r ∈ s.records.filter (p.isSource c.team), r.layerA = p.layerA) ∧
      s'.artifacts = s.artifacts ++ [p.artifactRow c.team c.producer] := by
  obtain ⟨hne, hlayer⟩ : s.records.filter (p.isSource c.team) ≠ [] ∧
      ∀ r ∈ s.records.filter (p.isSource c.team), r.layerA = p.layerA := by
    unfold commitPlan at h
    obtain ⟨⟨i, sources⟩, hplan, -⟩ := bind_ok_iff.1 h
    unfold revalidatePlan at hplan
    obtain ⟨j, -, hplan⟩ := bind_ok_iff.1 hplan
    obtain ⟨_, -, hplan⟩ := bind_ok_iff.1 hplan
    obtain ⟨q, -, hplan⟩ := bind_ok_iff.1 hplan
    obtain ⟨_, -, hplan⟩ := bind_ok_iff.1 hplan
    obtain ⟨proof, -, hplan⟩ := bind_ok_iff.1 hplan
    obtain ⟨a, -, hplan⟩ := bind_ok_iff.1 hplan
    obtain ⟨_, -, hplan⟩ := bind_ok_iff.1 hplan
    obtain ⟨_, hvalid, -⟩ := bind_ok_iff.1 hplan
    obtain ⟨hne, hlayer, -⟩ := validateSourceRecords_ok hvalid
    exact ⟨hne, hlayer⟩
  obtain ⟨i, -, -, sources, records, namespaces, rfl, -, -, -, -, s₁, h₁, rfl⟩ := commitPlan_ok h
  obtain ⟨q, -, -, -, j, -, rfl⟩ := scheduleRetirement_ok h₁
  exact ⟨hne, hlayer, rfl⟩

theorem rises_commitPlan {grace : Nat} {c : IndexRebuild} {p : IndexRebuildPlan} (hc : s.commitPlan grace c p = .ok s') :
    NamespacesRise s.namespaces s'.namespaces := by
  obtain ⟨-, hnamespaces⟩ := commitPlan_raises hc
  rw [hnamespaces]
  exact namespacesRise_raise _ _ _

theorem proved_commitPlan (hs : s.RunFacts) {grace : Nat} {c : IndexRebuild} {p : IndexRebuildPlan}
    (hc : s.commitPlan grace c p = .ok s') :
    s'.Proved (p.proofRow c.team c.producer (s.records.filter (p.isSource c.team))) := by
  obtain ⟨⟨n, hn, hnamespace⟩, -⟩ := commitPlan_raises hc
  obtain ⟨hne, hlayer, hartifacts⟩ := commitPlan_sources hc
  have hw := commitPlan_writes hc
  have hkeyed := (advances_commitPlan hs.keyed hc).keyed
  have hrise := rises_commitPlan hc
  have hclone (r : VectorRecordRow) (hr : r ∈ s'.records) (he : r.generationArtifact = p.generationArtifact) :
      ∃ x ∈ s.records.filter (p.isSource c.team), p.clone c.team x = r := by
    rw [hw.records] at hr
    rcases List.mem_append.1 hr with hr | hr
    · obtain ⟨a, ha, haa⟩ := hs.provenance.mem_of_isUsed (hs.provenance.recordUsed r hr)
      exact absurd (haa.trans he) (hw.artifact a ha)
    · exact List.mem_map.1 hr
  have hin : p.artifactRow c.team c.producer ∈ s'.artifacts := by
    rw [hartifacts]
    exact List.mem_append_right _ List.mem_cons_self
  constructor
  · exact .inr ⟨_, hin, rfl, rfl⟩
  · exact ⟨_, hin, rfl, rfl, rfl, rfl, rfl⟩
  · obtain ⟨m, hm, hmn, hmb, -⟩ := hrise n hn
    simp only [IndexRebuildPlan.isNamespace, Bool.and_eq_true, beq_iff_eq] at hnamespace
    refine ⟨m, hm, hmn.trans hnamespace.1.1.2, hmb.trans ?_⟩
    rw [NamespaceRow.binding, hnamespace.1.1.1, hnamespace.2]
    rfl
  · simp only [ProofCounts, IndexRebuildPlan.proofRow, List.length_map, and_self]
  · simp only [IndexRebuildPlan.proofRow, ne_eq, List.map_eq_nil_iff]
    exact hne
  · have hnodup := nodup_members hkeyed fun _ => true
    rw [List.filter_true, hw.records, List.map_append] at hnodup
    exact (List.nodup_append.1 hnodup).2.1
  · exact .refl _
  · intro v
    constructor
    · intro hv
      obtain ⟨y, hy, rfl⟩ := List.mem_map.1 hv
      obtain ⟨x, hx, rfl⟩ := List.mem_map.1 hy
      refine ⟨(p.clone c.team x).imprint, ⟨p.clone c.team x, ?_, rfl, rfl⟩, rfl⟩
      rw [hw.records]
      exact List.mem_append_right _ (List.mem_map.2 ⟨x, hx, rfl⟩)
    · rintro ⟨_, ⟨r, hr, he, rfl⟩, rfl⟩
      obtain ⟨x, hx, rfl⟩ := hclone r hr he
      exact List.mem_map.2 ⟨_, List.mem_map.2 ⟨x, hx, rfl⟩, rfl⟩
  · rintro _ ⟨r, hr, he, rfl⟩
    obtain ⟨x, hx, rfl⟩ := hclone r hr he
    show ((p.clone c.team x).slot, p.revision, x.layerA) = _
    rw [hlayer x hx]
    rfl

theorem sourced_commitPlan (hs : s.RunFacts) (h : s.Sourced) {grace : Nat} {c : IndexRebuild} {p : IndexRebuildPlan}
    (hc : s.commitPlan grace c p = .ok s') : s'.Sourced := by
  obtain ⟨-, -, hartifacts⟩ := commitPlan_sources hc
  have hw := commitPlan_writes hc
  obtain ⟨q, hq, hfrozen⟩ := hw.pointer
  have hmoves : MovesTo (p.proofRow c.team c.producer (s.records.filter (p.isSource c.team))) s.pointers s'.pointers := by
    rw [hw.pointers]
    refine movesTo_updateWhere (fun x hx => ?_) hq hfrozen
    simp only [IndexRebuildPlan.isFrozen, Bool.and_eq_true, beq_iff_eq] at hx
    exact hx.1.1.1.1.1
  have hrise := rises_commitPlan hc
  have hsub : s.artifacts ⊆ s'.artifacts := by
    rw [hartifacts]
    exact List.subset_append_left _ _
  have hhandoffs : s.handoffs ⊆ s'.handoffs := by
    rw [hw.handoffs]
    exact List.Subset.refl _
  have hkept {artifact : ArtifactId} (hin : ∃ a ∈ s.artifacts, a.artifact = artifact) :
      imprints s'.records artifact = imprints s.records artifact := by
    rw [hw.records]
    refine imprints_append fun r hr he => ?_
    obtain ⟨a, ha, haa⟩ := hin
    obtain ⟨x, -, rfl⟩ := List.mem_map.1 hr
    exact hw.artifact a ha (haa.trans he.symm)
  have hproved := proved_commitPlan hs hc
  constructor
  · intro k hk
    rw [hw.handoffs] at hk
    have hplaced := h.handoffs k hk
    obtain ⟨a, ha, haa, -⟩ := hplaced.projection
    exact hplaced.mono hsub hrise (hkept ⟨a, ha, haa⟩)
  · intro r hr
    rw [hw.proofs] at hr
    rcases List.mem_append.1 hr with hr | hr
    · obtain ⟨a, ha, haa, -⟩ := (h.proofs r hr).projection
      exact (h.proofs r hr).mono hhandoffs hsub hrise (hkept ⟨a, ha, haa⟩)
    · rw [List.mem_singleton.1 hr]
      exact hproved
  · exact h.moved hw.proofs hmoves
  · refine h.serving_moved hmoves fun i hi => .inl ?_
    rw [← hw.items]
    exact hi
  · rw [hw.items]
    exact h.live

/-! ### every writer -/

/-- What every run keeps, with what its pointers stand on. -/
structure RunSources (s : Serving) : Prop where
  facts : s.RunFacts
  sourced : s.Sourced

theorem runSources_empty : Serving.empty.RunSources := ⟨runFacts_empty, sourced_empty⟩

theorem runSources_commitPlan (h : s.RunSources) {grace : Nat} {c : IndexRebuild} {p : IndexRebuildPlan}
    (hc : s.commitPlan grace c p = .ok s') : s'.RunSources :=
  ⟨⟨(advances_commitPlan h.facts.keyed hc).keyed, provenance_commitPlan h.facts.provenance hc,
    counted_commitPlan h.facts.counted hc⟩, sourced_commitPlan h.facts h.sourced hc⟩

theorem sourced_transact (h : s.RunSources) {grace : Nat} {t : ServingStep} (ht : t.transact grace s = .ok s') :
    s'.Sourced := by
  by_cases hi : t.isIndexing = true
  · cases t with
    | vectorize c => exact sourced_vectorize h.facts.keyed h.facts.provenance h.sourced ht
    | publish c => exact sourced_publish h.facts h.sourced ht
    | indexRebuild c =>
      have hkept : s'.RunSources := foldEach_preserves (P := RunSources)
        (fun _ _ _ _ hd hp => runSources_commitPlan hd hp) h ht
      exact hkept.sourced
    | _ => cases hi
  · have hquiet : t.isIndexing = false := Bool.eq_false_iff.2 hi
    exact h.sourced.quiet (advances_transact h.facts.keyed ht) (quiet_transact hquiet ht)
      (holds_transact h.facts.keyed hquiet ht)

theorem runSources_step (h : s.RunSources) (grace : Nat) (t : ServingStep) : (servingStep grace s t).RunSources := by
  refine ⟨runFacts_step h.facts grace t, ?_⟩
  obtain he | he := servingStep_cases grace (s := s) (t := t)
  · rw [he]
    exact h.sourced
  · exact sourced_transact h he

theorem runSources_run (h : s.RunSources) (grace : Nat) (l : List ServingStep) :
    (runFrom (servingStep grace) s l).RunSources :=
  runFrom_invariant (I := RunSources) (C := fun _ _ => True) (fun _ t hs _ => runSources_step hs grace t) h
    (stepsMeet_true s l)

end Serving

end KnowledgeBase
