import KnowledgeBase.Serving.Sourced

/-!
# Planning an index rebuild

A command freezes its targets, the active Items with their latest Revisions. Execution plans one successor for each
active pointer of each target that serves its Revision: it reads the last proof of the pointer, the projection and the
records the proof counts. A plan that was drawn is the one revalidation finds, as long as nothing has moved.
-/

namespace KnowledgeBase

open Checked Relational

namespace Serving

/-! ### the frozen scope -/

inductive RebuildScope
  | intakeItem (item : ItemId)
  | team
deriving DecidableEq

/-- An Item with the Revision a rebuild is bound to. -/
abbrev RebuildTarget := ItemId × RevisionId

def rebuildTarget? (team : TeamId) (i : ItemRow) : Option RebuildTarget :=
  if i.team == team && i.lifecycleState == .active then i.latestRevision.map fun revision => (i.item, revision) else none

/-- `resolve_index_rebuild`. -/
def resolveIndexRebuild (team : TeamId) (scope : RebuildScope) (s : Serving) : Except MkbError (List RebuildTarget) :=
  match scope with
  | .intakeItem item => do
    let i ← required (s.item? team item) (notFoundError "intake-item-not-found" "Intake item was not found")
    failIf (i.lifecycleState == .deleted)
      (conflictError "intake-item-deleted" "Deleted Intake items cannot be rebuilt or updated")
    let revision ← required i.latestRevision
      (conflictError "intake-revision-unavailable" "Intake item has no accepted revision")
    failIf (i.lifecycleState != .active)
      (conflictError "index-rebuild-item-not-active" "Index rebuild cannot make an inactive Intake item servable")
    return [(item, revision)]
  | .team => .ok ((s.items.filterMap (rebuildTarget? team)).insertionSort fun x y => x.1 ≤ y.1)

/-! ### the plan -/

/-- The identities a rebuild draws, with the digest of what it will promote. -/
structure PlanDraw where
  generationArtifact : ItemId → NamespaceId → ArtifactId
  publicationProof : ItemId → NamespaceId → ProofId
  newRecord : ItemId → NamespaceId → VectorRecordId → VectorRecordId
  rebuiltContentDigest : ItemId → NamespaceId → Digest

/-- The active pointer with its active namespace. -/
def rebuildPointer? (team : TeamId) (item : ItemId) (s : Serving) (q : PointerRow) : Option (PointerRow × NamespaceRow) :=
  if q.team == team && q.item == item && q.lifecycleState == .active then
    ((s.namespace? team q.nspace).filter (·.isActive)).map fun n => (q, n)
  else none

def rebuildPointers (team : TeamId) (item : ItemId) (s : Serving) : List (PointerRow × NamespaceRow) :=
  (s.pointers.filterMap (s.rebuildPointer? team item)).insertionSort fun x y => x.1.nspace ≤ y.1.nspace

/-- The plan of one pointer. -/
def PlanDraw.plan (d : PlanDraw) (i : ItemRow) (revision : RevisionId) (q : PointerRow) (n : NamespaceRow)
    (a : ArtifactRow) (records : List VectorRecordRow) : IndexRebuildPlan where
  item := i.item
  revision := revision
  itemRowRevision := i.rowRevision
  nspace := q.nspace
  oldIndexGeneration := q.activeIndexGeneration
  pointerRowRevision := q.pointerRowRevision
  sourceProof := q.lastProof
  sourceGenerationArtifact := q.generationArtifact
  sourceContentDigest := a.contentDigest
  sourceRecords := records.map VectorRecordRow.member
  layerA := n.layerA
  generationArtifact := d.generationArtifact i.item q.nspace
  rebuiltContentDigest := d.rebuiltContentDigest i.item q.nspace
  publicationProof := d.publicationProof i.item q.nspace
  newRecord := d.newRecord i.item q.nspace

/-- `_index_rebuild_records_tx`, for the generation of the pointer. -/
def rebuildRecords (team : TeamId) (item : ItemId) (revision : RevisionId) (q : PointerRow) (s : Serving) :
    List VectorRecordRow :=
  s.records.filter fun r => r.team == team && r.item == item && r.revision == revision && r.nspace == q.nspace &&
    r.generationArtifact == q.generationArtifact && r.indexGeneration == q.activeIndexGeneration && r.isIndexed

def isSourceProof (team : TeamId) (item : ItemId) (revision : RevisionId) (q : PointerRow) (r : ProofRow) : Bool :=
  r.proof == q.lastProof && r.team == team && r.item == item && r.revision == revision

/-- `_index_rebuild_source_plan_tx`. -/
def sourcePlan (team : TeamId) (d : PlanDraw) (i : ItemRow) (revision : RevisionId) (s : Serving)
    (x : PointerRow × NamespaceRow) : Except MkbError IndexRebuildPlan := do
  let proof ← required (s.proofs.find? (isSourceProof team i.item revision x.1))
    (conflictError "INDEX_REBUILD_SOURCE_PROOF_MISSING" "Active index pointer has no matching publication proof")
  failIf (proof.generationArtifact != x.1.generationArtifact || proof.indexGeneration != x.1.activeIndexGeneration ||
      proof.layerA != x.2.layerA)
    (conflictError "INDEX_REBUILD_SOURCE_PROOF_INVALID" "Active publication proof does not match its pointer")
  let a ← required ((s.artifact? team x.1.generationArtifact).filter (·.fullValid))
    (conflictError "INDEX_REBUILD_SOURCE_ARTIFACT_INVALID" "Active projection artifact is unavailable")
  failIf (a.item != i.item || a.revision != revision)
    (conflictError "INDEX_REBUILD_SOURCE_ARTIFACT_INVALID" "Active projection artifact is unavailable")
  let records := s.rebuildRecords team i.item revision x.1
  let p := d.plan i revision x.1 x.2 a records
  validateSourceRecords p proof records
  return p

/-- One target of `_plan_index_rebuild`: an active Item that does not serve its latest Revision has no plan. -/
def planTarget (team : TeamId) (d : PlanDraw) (s : Serving) (t : RebuildTarget) :
    Except MkbError (List IndexRebuildPlan) := do
  let stale := conflictError "INDEX_REBUILD_TARGET_STALE" "A frozen index rebuild target changed before execution"
  let i ← required (s.item? team t.1) stale
  failIf (i.lifecycleState != .active || i.latestRevision != some t.2) stale
  if i.servingRevision.isNone || i.servingRevision != i.latestRevision then return []
  else
    failIf (s.rebuildPointers team t.1).isEmpty
      (conflictError "INDEX_REBUILD_POINTER_MISSING" "Serving Intake item has no active index pointer")
    mapEach (s.rebuildPointers team t.1) (s.sourcePlan team d i t.2)

/-- `_plan_index_rebuild`. -/
def planIndexRebuild (team : TeamId) (d : PlanDraw) (targets : List RebuildTarget) (s : Serving) :
    Except MkbError (List IndexRebuildPlan) := do
  let plans ← mapEach targets (s.planTarget team d)
  return plans.flatten

/-- The plan and its commit, with no other writer between. -/
def rebuildIndex (grace : Nat) (team : TeamId) (d : PlanDraw) (producer : ProcessFence) (now : Time)
    (targets : List RebuildTarget) (s : Serving) : Except MkbError Serving := do
  let plans ← s.planIndexRebuild team d targets
  s.indexRebuild grace ⟨team, producer, plans, now⟩

variable {s s' : Serving}

/-! ### frozen targets -/

/-- The targets of a scope are distinct Items of the Team at their latest Revisions. -/
theorem resolveIndexRebuild_ok (hs : s.Keyed) {team : TeamId} {scope : RebuildScope} {targets : List RebuildTarget}
    (h : s.resolveIndexRebuild team scope = .ok targets) :
    targets.Pairwise (fun t u => t.1 ≠ u.1) ∧ ∀ t ∈ targets, ∃ i, s.item? team t.1 = some i ∧ i.latestRevision = some t.2 := by
  unfold resolveIndexRebuild at h
  cases scope with
  | intakeItem item =>
    obtain ⟨i, hi, h⟩ := bind_ok_iff.1 h
    obtain ⟨_, -, h⟩ := bind_ok_iff.1 h
    obtain ⟨revision, hrevision, h⟩ := bind_ok_iff.1 h
    obtain ⟨_, -, h⟩ := bind_ok_iff.1 h
    obtain rfl := pure_ok_iff.1 h
    rw [required_ok_iff] at hi hrevision
    refine ⟨List.pairwise_singleton _ _, fun t ht => ?_⟩
    rw [List.mem_singleton.1 ht]
    exact ⟨i, hi, hrevision⟩
  | team =>
    obtain rfl := Except.ok.inj h
    have hof (i : ItemRow) (t : RebuildTarget) (ht : rebuildTarget? team i = some t) :
        i.key = (team, t.1) ∧ i.latestRevision = some t.2 := by
      unfold rebuildTarget? at ht
      split at ht
      · rename_i hc
        simp only [Bool.and_eq_true, beq_iff_eq] at hc
        obtain ⟨revision, hrevision, rfl⟩ := Option.map_eq_some_iff.1 ht
        refine ⟨?_, hrevision⟩
        rw [ItemRow.key, hc.1]
      · cases ht
    have hitems : s.items.Pairwise fun i j => i.key ≠ j.key := List.pairwise_map.1 hs.items
    refine ⟨?_, fun t ht => ?_⟩
    · refine (List.perm_insertionSort _ _).symm.pairwise ?_ fun {t u} hne => hne.symm
      rw [List.pairwise_filterMap]
      refine hitems.imp fun {i j} hne t ht u hu he => hne ?_
      rw [(hof i t ht).1, (hof j u hu).1, he]
    · obtain ⟨i, hi, hit⟩ := List.mem_filterMap.1 ((List.mem_insertionSort _).1 ht)
      obtain ⟨hkey, hlatest⟩ := hof i t hit
      refine ⟨i, ?_, hlatest⟩
      have hfind := find?_of_key hs.items hi
      rw [hkey] at hfind
      exact hfind

/-! ### the pointers of a target -/

theorem mem_rebuildPointers {team : TeamId} {item : ItemId} {x : PointerRow × NamespaceRow} :
    x ∈ s.rebuildPointers team item ↔ x.1 ∈ s.pointers ∧ x.1.owner = (team, item) ∧ x.1.lifecycleState = .active ∧
      s.namespace? team x.1.nspace = some x.2 ∧ x.2.isActive = true := by
  unfold rebuildPointers
  rw [List.mem_insertionSort, List.mem_filterMap]
  constructor
  · rintro ⟨q, hq, hx⟩
    unfold rebuildPointer? at hx
    split at hx
    · rename_i hc
      simp only [Bool.and_eq_true, beq_iff_eq] at hc
      obtain ⟨n, hn, rfl⟩ := Option.map_eq_some_iff.1 hx
      obtain ⟨hn, hactive⟩ := Option.filter_eq_some_iff.1 hn
      refine ⟨hq, ?_, hc.2, hn, hactive⟩
      rw [PointerRow.owner, hc.1.1, hc.1.2]
    · cases hx
  · rintro ⟨hq, howner, hlifecycle, hn, hactive⟩
    refine ⟨x.1, hq, ?_⟩
    simp only [PointerRow.owner, Prod.mk.injEq] at howner
    unfold rebuildPointer?
    rw [howner.1, howner.2, hlifecycle, hn, Option.filter_some, if_pos hactive]
    simp only [beq_self_eq_true, Bool.and_self, ↓reduceIte]
    rfl

theorem pairwise_rebuildPointers (hs : s.Keyed) (team : TeamId) (item : ItemId) :
    (s.rebuildPointers team item).Pairwise fun x y => x.1.nspace ≠ y.1.nspace := by
  have hpointers : s.pointers.Pairwise fun p q => p.key ≠ q.key := List.pairwise_map.1 hs.pointers
  have hof (q : PointerRow) (x : PointerRow × NamespaceRow) (hx : s.rebuildPointer? team item q = some x) :
      x.1 = q ∧ q.owner = (team, item) := by
    unfold rebuildPointer? at hx
    split at hx
    · rename_i hc
      simp only [Bool.and_eq_true, beq_iff_eq] at hc
      obtain ⟨n, -, rfl⟩ := Option.map_eq_some_iff.1 hx
      refine ⟨rfl, ?_⟩
      rw [PointerRow.owner, hc.1.1, hc.1.2]
    · cases hx
  refine (List.perm_insertionSort _ _).symm.pairwise ?_ fun {x y} hne => hne.symm
  rw [List.pairwise_filterMap]
  refine hpointers.imp fun {p q} hne x hx y hy he => hne ?_
  obtain ⟨rfl, hpo⟩ := hof p x hx
  obtain ⟨rfl, hqo⟩ := hof q y hy
  have howner := hpo.trans hqo.symm
  simp only [PointerRow.owner, Prod.mk.injEq] at howner
  simp only [PointerRow.key, Prod.mk.injEq]
  exact ⟨howner.1, howner.2, he⟩

/-! ### one plan -/

/-- What the plan of a pointer has read. -/
structure HasSource (s : Serving) (team : TeamId) (d : PlanDraw) (i : ItemRow) (revision : RevisionId)
    (x : PointerRow × NamespaceRow) (p : IndexRebuildPlan) (proof : ProofRow) (a : ArtifactRow) : Prop where
  recorded : proof ∈ s.proofs
  last : isSourceProof team i.item revision x.1 proof = true
  published : proof.generationArtifact = x.1.generationArtifact ∧ proof.indexGeneration = x.1.activeIndexGeneration
  layerA : proof.layerA = x.2.layerA
  artifact : s.artifact? team x.1.generationArtifact = some a
  projection : a.fullValid = true ∧ a.item = i.item ∧ a.revision = revision
  plan : p = d.plan i revision x.1 x.2 a (s.rebuildRecords team i.item revision x.1)
  records : validateSourceRecords p proof (s.rebuildRecords team i.item revision x.1) = .ok ()

theorem sourcePlan_ok {team : TeamId} {d : PlanDraw} {i : ItemRow} {revision : RevisionId}
    {x : PointerRow × NamespaceRow} {p : IndexRebuildPlan} (h : s.sourcePlan team d i revision x = .ok p) :
    ∃ proof a, s.HasSource team d i revision x p proof a := by
  unfold sourcePlan at h
  obtain ⟨proof, hproof, h⟩ := bind_ok_iff.1 h
  obtain ⟨_, hpublished, h⟩ := bind_ok_iff.1 h
  obtain ⟨a, ha, h⟩ := bind_ok_iff.1 h
  obtain ⟨_, hof, h⟩ := bind_ok_iff.1 h
  obtain ⟨_, hrecords, h⟩ := bind_ok_iff.1 h
  obtain rfl := pure_ok_iff.1 h
  rw [required_ok_iff] at hproof ha
  obtain ⟨ha, hvalid⟩ := Option.filter_eq_some_iff.1 ha
  rw [failIf_ok_iff] at hpublished hof
  simp only [Bool.or_eq_false_iff, bne_eq_false_iff_eq] at hpublished hof
  exact ⟨proof, a, List.mem_of_find?_eq_some hproof, List.find?_some hproof, hpublished.1, hpublished.2, ha,
    ⟨hvalid, hof.1, hof.2⟩, rfl, hrecords⟩

theorem HasSource.sourcePlan (hs : s.Keyed) {team : TeamId} {d : PlanDraw} {i : ItemRow} {revision : RevisionId}
    {x : PointerRow × NamespaceRow} {p : IndexRebuildPlan} {proof : ProofRow} {a : ArtifactRow}
    (h : s.HasSource team d i revision x p proof a) : s.sourcePlan team d i revision x = .ok p := by
  have hlast := h.last
  simp only [isSourceProof, Bool.and_eq_true, beq_iff_eq] at hlast
  have hproof : s.proofs.find? (isSourceProof team i.item revision x.1) = some proof := by
    refine find?_of_unique hs.proofs h.recorded h.last fun r _ hr => ?_
    simp only [isSourceProof, Bool.and_eq_true, beq_iff_eq] at hr
    exact hr.1.1.1.trans hlast.1.1.1.symm
  obtain ⟨hvalid, hitem, hrevision⟩ := h.projection
  have hplan := h.plan
  have hrecords := h.records
  subst hplan
  unfold Serving.sourcePlan
  refine bind_ok_iff.2 ⟨proof, required_ok_iff.2 hproof, bind_ok_iff.2 ⟨(), ?_, ?_⟩⟩
  · rw [failIf_ok_iff, h.published.1, h.published.2, h.layerA]
    simp only [bne_self_eq_false, Bool.or_self]
  refine bind_ok_iff.2 ⟨a, ?_, bind_ok_iff.2 ⟨(), ?_, bind_ok_iff.2 ⟨(), hrecords, rfl⟩⟩⟩
  · rw [h.artifact, required_ok_iff, Option.filter_some, if_pos hvalid]
  · rw [failIf_ok_iff, hitem, hrevision]
    simp only [bne_self_eq_false, Bool.or_self]

/-! ### revalidation -/

/-- The Item of a plan, as planning has found it. -/
structure IsServingTarget (s : Serving) (team : TeamId) (t : RebuildTarget) (i : ItemRow) : Prop where
  found : s.item? team t.1 = some i
  active : i.lifecycleState = .active
  latest : i.latestRevision = some t.2
  serving : i.servingRevision = some t.2

theorem IsServingTarget.item {team : TeamId} {t : RebuildTarget} {i : ItemRow} (h : s.IsServingTarget team t i) :
    i.item = t.1 := (Prod.mk.inj (item?_eq_some h.found).2).2

theorem revalidatePlan_of_hasSource (hs : s.RunSources) {team : TeamId} {d : PlanDraw} {t : RebuildTarget} {i : ItemRow}
    {x : PointerRow × NamespaceRow} {p : IndexRebuildPlan} {proof : ProofRow} {a : ArtifactRow}
    (hi : s.IsServingTarget team t i) (hx : x ∈ s.rebuildPointers team t.1)
    (h : s.HasSource team d i t.2 x p proof a) :
    s.revalidatePlan team p = .ok (i, s.rebuildRecords team i.item t.2 x.1) := by
  obtain ⟨hq, howner, hlifecycle, hn, hactive⟩ := mem_rebuildPointers.1 hx
  have hitem := hi.item
  have hkey : x.1.key = (team, i.item, x.1.nspace) := by
    simp only [PointerRow.owner, Prod.mk.injEq] at howner
    rw [PointerRow.key, howner.1, howner.2, hitem]
  have hpointer : s.pointer? team i.item x.1.nspace = some x.1 := by
    have hfind := find?_of_key hs.facts.keyed.pointers hq
    rw [hkey] at hfind
    exact hfind
  have hlast := h.last
  simp only [isSourceProof, Bool.and_eq_true, beq_iff_eq] at hlast
  have hproof : (s.proofs.find? fun r => r.proof == x.1.lastProof && r.team == team && r.item == i.item &&
      r.revision == t.2 && r.nspace == x.1.nspace && r.indexGeneration == x.1.activeIndexGeneration &&
      r.generationArtifact == x.1.generationArtifact) = some proof := by
    refine find?_of_unique hs.facts.keyed.proofs h.recorded ?_ fun r _ hr => ?_
    · obtain ⟨r, hr, hslot, hpublication⟩ := hs.sourced.pointers x.1 hq
      have hsame : r.proof = proof.proof :=
        (congrArg (fun y => y.2.1) hpublication).symm.trans hlast.1.1.1.symm
      obtain rfl := eq_of_key hs.facts.keyed.proofs hr h.recorded hsame
      simp only [ProofRow.slot, PointerRow.slot, Prod.mk.injEq] at hslot
      simp only [Bool.and_eq_true, beq_iff_eq]
      exact ⟨⟨⟨hlast, hslot.2.2.1⟩, h.published.2⟩, h.published.1⟩
    · simp only [Bool.and_eq_true, beq_iff_eq] at hr
      exact hr.1.1.1.1.1.1.trans hlast.1.1.1.symm
  obtain ⟨hvalid, haitem, harevision⟩ := h.projection
  have hplan := h.plan
  have hrecords := h.records
  subst hplan
  unfold revalidatePlan
  refine bind_ok_iff.2 ⟨i, ?_, bind_ok_iff.2 ⟨(), ?_, bind_ok_iff.2 ⟨x.1, ?_, bind_ok_iff.2 ⟨(), ?_, ?_⟩⟩⟩⟩
  · show required (s.item? team i.item) _ = _
    rw [hitem, hi.found]
    rfl
  · rw [failIf_ok_iff, hi.active, hi.latest, hi.serving]
    simp only [PlanDraw.plan, bne_self_eq_false, Bool.or_self]
  · show required (s.pointer? team i.item x.1.nspace) _ = _
    rw [hpointer]
    rfl
  · have hfrozen : (d.plan i t.2 x.1 x.2 a (s.rebuildRecords team i.item t.2 x.1)).isFrozen team x.1 = true := by
      simp only [IndexRebuildPlan.isFrozen, PlanDraw.plan, hkey, hlifecycle, beq_self_eq_true, Bool.and_self]
    rw [failIf_ok_iff, hfrozen]
    show (!true || !(s.namespace? team x.1.nspace).any fun n => n.isActive && n.layerA == x.2.layerA) = false
    rw [hn]
    simp only [Option.any_some, hactive, beq_self_eq_true, Bool.and_self, Bool.not_true, Bool.or_self]
  refine bind_ok_iff.2 ⟨proof, required_ok_iff.2 hproof, bind_ok_iff.2 ⟨a, ?_, bind_ok_iff.2 ⟨(), ?_, ?_⟩⟩⟩
  · exact required_ok_iff.2 h.artifact
  · rw [failIf_ok_iff, hvalid, haitem, harevision]
    simp only [PlanDraw.plan, bne_self_eq_false, Bool.not_true, Bool.or_self]
  refine bind_ok_iff.2 ⟨(), hrecords, bind_ok_iff.2 ⟨(), ?_, rfl⟩⟩
  rw [failIf_ok_iff, Bool.not_eq_false', List.isPerm_iff]
  exact List.Perm.refl _

/-! ### intact pointers -/

/-- The pointer was last published for the Revision, and every record of its generation is still searched. -/
def IsIntact (s : Serving) (q : PointerRow) (revision : RevisionId) : Prop :=
  (∃ p ∈ s.proofs, p.proof = q.lastProof ∧ p.revision = revision) ∧
    ∀ r ∈ s.records, r.generationArtifact = q.generationArtifact → r.isIndexed = true

/-- A pointer with a plan is intact: the records the plan counts are all its proof was written for. -/
theorem HasSource.isIntact (hs : s.RunSources) {team : TeamId} {d : PlanDraw} {i : ItemRow} {revision : RevisionId}
    {x : PointerRow × NamespaceRow} {p : IndexRebuildPlan} {proof : ProofRow} {a : ArtifactRow}
    (h : s.HasSource team d i revision x p proof a) : s.IsIntact x.1 revision := by
  have hlast := h.last
  simp only [isSourceProof, Bool.and_eq_true, beq_iff_eq] at hlast
  refine ⟨⟨proof, h.recorded, hlast.1.1.1, hlast.2⟩, fun r hr hartifact => ?_⟩
  obtain ⟨-, -, -, hrequired, -⟩ := validateSourceRecords_ok h.records
  have hproved := hs.sourced.proofs proof h.recorded
  have hmember : r.member ∈ proof.requiredSet :=
    (hproved.members r.member).2 ⟨r.imprint, ⟨r, hr, hartifact.trans h.published.1.symm, rfl⟩, rfl⟩
  obtain ⟨q, hq, hqr⟩ := List.mem_map.1 (hrequired.mem_iff.1 hmember)
  obtain ⟨hqmem, hqsource⟩ := List.mem_filter.1 hq
  obtain rfl := eq_of_key hs.facts.keyed.records hqmem hr (congrArg Prod.fst hqr)
  rw [Bool.and_eq_true] at hqsource
  exact hqsource.2

theorem perm_rebuildRecords (hs : s.RunSources) {q : PointerRow} {r : ProofRow} {revision : RevisionId} (hr : r ∈ s.proofs)
    (hslot : r.slot = q.slot) (hartifact : r.generationArtifact = q.generationArtifact) (hrevision : r.revision = revision)
    (hindexed : ∀ r ∈ s.records, r.generationArtifact = q.generationArtifact → r.isIndexed = true) :
    ((s.rebuildRecords q.team q.item revision q).map VectorRecordRow.member).Perm r.requiredSet := by
  have hproved := hs.sourced.proofs r hr
  refine (List.perm_ext_iff_of_nodup (nodup_members hs.facts.keyed _) hproved.nodup).2 fun v => ?_
  rw [hproved.members v]
  constructor
  · intro hv
    obtain ⟨u, hu, rfl⟩ := List.mem_map.1 hv
    obtain ⟨hmem, hsource⟩ := List.mem_filter.1 hu
    simp only [Bool.and_eq_true, beq_iff_eq] at hsource
    exact ⟨u.imprint, ⟨u, hmem, hsource.1.1.2.trans hartifact.symm, rfl⟩, rfl⟩
  · rintro ⟨_, ⟨u, hu, hua, rfl⟩, rfl⟩
    refine List.mem_map.2 ⟨u, List.mem_filter.2 ⟨hu, ?_⟩, rfl⟩
    have hrow := hproved.rows u.imprint ⟨u, hu, hua, rfl⟩
    have hplace : u.slot = q.slot := (congrArg Prod.fst hrow).trans hslot
    have hurevision : u.revision = revision := (congrArg (fun y => y.2.1) hrow).trans hrevision
    simp only [VectorRecordRow.slot, PointerRow.slot, Prod.mk.injEq] at hplace
    have huartifact := hua.trans hartifact
    simp only [hplace, hurevision, huartifact, hindexed u hu huartifact, beq_self_eq_true, Bool.and_self]

theorem hasSource_of_isIntact (hs : s.RunSources) {team : TeamId} (d : PlanDraw) {t : RebuildTarget} {i : ItemRow}
    {x : PointerRow × NamespaceRow} (hi : i.item = t.1) (hx : x ∈ s.rebuildPointers team t.1) (h : s.IsIntact x.1 t.2) :
    ∃ p proof a, s.HasSource team d i t.2 x p proof a := by
  obtain ⟨hq, howner, -, hn, -⟩ := mem_rebuildPointers.1 hx
  obtain ⟨⟨r₀, hr₀, hlast, hrevision⟩, hindexed⟩ := h
  obtain ⟨r, hr, hslot, hpublication⟩ := hs.sourced.pointers x.1 hq
  obtain rfl := eq_of_key hs.facts.keyed.proofs hr₀ hr (hlast.trans (congrArg (fun y => y.2.1) hpublication))
  have hgeneration : r₀.indexGeneration = x.1.activeIndexGeneration := (congrArg Prod.fst hpublication).symm
  have hartifact : r₀.generationArtifact = x.1.generationArtifact := (congrArg (fun y => y.2.2) hpublication).symm
  have hproved := hs.sourced.proofs r₀ hr
  have hperm := perm_rebuildRecords hs hr hslot hartifact hrevision hindexed
  simp only [PointerRow.owner, Prod.mk.injEq] at howner
  have hplace := hslot
  simp only [ProofRow.slot, PointerRow.slot, Prod.mk.injEq] at hplace
  have hteam : r₀.team = team := hplace.1.trans howner.1
  have hitem : r₀.item = i.item := (hplace.2.1.trans howner.2).trans hi.symm
  rw [howner.1, howner.2, ← hi] at hperm
  -- the namespace of the proof is the namespace of the pointer
  have hlayer : r₀.layerA = x.2.layerA := by
    obtain ⟨n, hmem, hnspace, hbinding⟩ := hproved.layer
    have hfound := List.find?_some hn
    simp only [Bool.and_eq_true, beq_iff_eq] at hfound
    obtain rfl := eq_of_key hs.facts.counted.keyed.nspaces hmem (List.mem_of_find?_eq_some hn)
      (hnspace.trans (hplace.2.2.1.trans hfound.1.symm))
    exact (congrArg Prod.snd hbinding).symm
  obtain ⟨a, ha, haa, hateam, haitem, harevision, hvalid⟩ := hproved.projection
  have hfind : s.artifact? team x.1.generationArtifact = some a := by
    refine find?_of_unique hs.facts.keyed.artifacts ha ?_ fun b _ hb => ?_
    · rw [hateam, hteam, haa, hartifact, beq_self_eq_true, beq_self_eq_true]
      rfl
    · simp only [Bool.and_eq_true, beq_iff_eq] at hb
      exact hb.2.trans (haa.trans hartifact).symm
  have hlength : r₀.requiredSet.length = (s.rebuildRecords team i.item t.2 x.1).length := by
    rw [← hperm.length_eq, List.length_map]
  refine ⟨_, r₀, a, hr, ?_, ⟨hartifact, hgeneration⟩, hlayer, hfind, ⟨hvalid, haitem.trans hitem, harevision.trans hrevision⟩,
    rfl, validateSourceRecords_of ?_ (fun u hu => ?_) ?_ hperm.symm (hproved.actual.trans hperm.symm)⟩
  · simp only [isSourceProof, hlast, hteam, hitem, hrevision, beq_self_eq_true, Bool.and_self]
  · intro hnil
    rw [hnil] at hlength
    exact hproved.required (List.length_eq_zero_iff.1 hlength)
  · obtain ⟨hmem, hsource⟩ := List.mem_filter.1 hu
    simp only [Bool.and_eq_true, beq_iff_eq] at hsource
    have hrow := hproved.rows u.imprint ⟨u, hmem, hsource.1.1.2.trans hartifact.symm, rfl⟩
    exact (congrArg (fun y => y.2.2) hrow).trans hlayer
  · rw [← hlength]
    exact hproved.counts

end Serving

end KnowledgeBase
