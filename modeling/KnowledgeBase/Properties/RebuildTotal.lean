import Mathlib.Data.Nat.Pairing
import KnowledgeBase.Serving.RebuildPlan
import KnowledgeBase.Properties.GenerationOwner

/-!
# A rebuild of unchanged targets

Every plan that can be made can be committed: a commit moves one pointer and leaves the sources of every other plan in
place. What decides is planning, and planning fails on a target that is no longer active, and on a serving target with
an active pointer that was last published for an earlier Revision or whose records are no longer searched. The first
publication of a Revision in another namespace leaves such a pointer behind, so that one Item stops the whole scope.
-/

namespace KnowledgeBase

open Checked Relational

namespace Serving

variable {s s' : Serving} {grace : Nat}

/-! ### plans that do not meet -/

/-- The plans write under other identities and for another pointer. -/
structure Apart (p p' : IndexRebuildPlan) : Prop where
  place : (p.item, p.nspace) ≠ (p'.item, p'.nspace)
  artifact : p.generationArtifact ≠ p'.generationArtifact
  proof : p.publicationProof ≠ p'.publicationProof
  record : ∀ x y, p.newRecord x ≠ p'.newRecord y

/-- The plan passes revalidation, under identities nothing has. -/
structure Ready (s : Serving) (team : TeamId) (p : IndexRebuildPlan) : Prop where
  checked : ∃ i sources, s.revalidatePlan team p = .ok (i, sources)
  artifact : ∀ a ∈ s.artifacts, a.artifact ≠ p.generationArtifact
  proof : ∀ q ∈ s.proofs, q.proof ≠ p.publicationProof
  record : ∀ x, ∀ r ∈ s.records, r.record ≠ p.newRecord x
  injective : Function.Injective p.newRecord

theorem revalidatePlan_pointer {team : TeamId} {p : IndexRebuildPlan} {i : ItemRow} {sources : List VectorRecordRow}
    (h : s.revalidatePlan team p = .ok (i, sources)) :
    s.item? team p.item = some i ∧ ∃ q n, s.pointer? team p.item p.nspace = some q ∧ p.isFrozen team q = true ∧
      s.namespace? team p.nspace = some n ∧ n.isActive = true ∧ n.layerA = p.layerA := by
  unfold revalidatePlan at h
  obtain ⟨j, hj, h⟩ := bind_ok_iff.1 h
  obtain ⟨_, -, h⟩ := bind_ok_iff.1 h
  obtain ⟨q, hq, h⟩ := bind_ok_iff.1 h
  obtain ⟨_, hf, h⟩ := bind_ok_iff.1 h
  obtain ⟨_, -, h⟩ := bind_ok_iff.1 h
  obtain ⟨_, -, h⟩ := bind_ok_iff.1 h
  obtain ⟨_, -, h⟩ := bind_ok_iff.1 h
  obtain ⟨_, -, h⟩ := bind_ok_iff.1 h
  obtain ⟨_, -, h⟩ := bind_ok_iff.1 h
  obtain ⟨rfl, -⟩ := Prod.mk.inj (pure_ok_iff.1 h)
  rw [required_ok_iff] at hj hq
  rw [failIf_ok_iff, Bool.or_eq_false_iff, Bool.not_eq_false', Bool.not_eq_false', Option.any_eq_true] at hf
  obtain ⟨n, hn, hof⟩ := hf.2
  rw [Bool.and_eq_true, beq_iff_eq] at hof
  exact ⟨hj, q, n, hq, hf.1, hn, hof.1, hof.2⟩

theorem namespace?_raised (hs : NamespacesKeyed s.namespaces) {c : NamespaceRow → Bool} {generation : Nat}
    (hl : s'.namespaces = updateWhere c (NamespaceRow.raise generation) s.namespaces) {team : TeamId}
    {nspace : NamespaceId} {n : NamespaceRow} (h : s.namespace? team nspace = some n) :
    ∃ m, s'.namespace? team nspace = some m ∧ m.isActive = n.isActive ∧ m.layerA = n.layerA := by
  have hfound := List.find?_some h
  simp only [Bool.and_eq_true, beq_iff_eq] at hfound
  have hmem := mem_updateWhere_of_mem (c := c) (f := NamespaceRow.raise generation) (List.mem_of_find?_eq_some h)
  have hsame : ∀ m, (if c n then NamespaceRow.raise generation n else n) = m →
      m.nspace = nspace ∧ m.team = team ∧ m.isActive = n.isActive ∧ m.layerA = n.layerA := by
    intro m hm
    subst hm
    split
    · exact ⟨hfound.1, hfound.2, rfl, rfl⟩
    · exact ⟨hfound.1, hfound.2, rfl, rfl⟩
  obtain ⟨hnspace, hteam, hactive, hlayer⟩ := hsame _ rfl
  refine ⟨_, ?_, hactive, hlayer⟩
  unfold namespace?
  rw [hl]
  refine find?_of_unique (hs.raise c generation).nspaces hmem ?_ fun p _ hp => ?_
  · rw [hnspace, hteam, beq_self_eq_true, beq_self_eq_true]
    rfl
  · simp only [Bool.and_eq_true, beq_iff_eq] at hp
    exact hp.1.trans hnspace.symm

/-! ### a plan that is ready is committed -/

theorem cloneRecords_isOk {team : TeamId} {p : IndexRebuildPlan} (hp : Function.Injective p.newRecord)
    {sources l : List VectorRecordRow} (hsources : (sources.map VectorRecordRow.record).Nodup)
    (hfresh : ∀ r ∈ sources, ∀ q ∈ l, q.record ≠ p.newRecord r.record) :
    ∃ l', cloneRecords team p sources l = .ok l' := by
  unfold cloneRecords
  induction sources generalizing l with
  | nil => exact ⟨l, rfl⟩
  | cons r sources ih =>
    rw [List.map_cons, List.nodup_cons] at hsources
    obtain ⟨l', hl'⟩ := ih (l := l ++ [p.clone team r]) hsources.2 fun q hq x hx => by
      rcases List.mem_append.1 hx with hx | hx
      · exact hfresh q (List.mem_cons_of_mem r hq) x hx
      · rw [List.mem_singleton.1 hx]
        intro he
        have hrq : r.record = q.record := hp he
        exact hsources.1 (List.mem_map.2 ⟨q, hq, hrq.symm⟩)
    unfold foldEach
    exact ⟨l', bind_ok_iff.2 ⟨_, insertUnique_eq_ok_iff.2 ⟨hfresh r List.mem_cons_self, rfl⟩, hl'⟩⟩

theorem commitPlan_of_ready (hs : s.RunSources) {c : IndexRebuild} {p : IndexRebuildPlan} (h : s.Ready c.team p) :
    ∃ s', s.commitPlan grace c p = .ok s' := by
  obtain ⟨i, sources, hplan⟩ := h.checked
  obtain ⟨hitem, q, n, hq, hfrozen, hn, hactive, hlayer⟩ := revalidatePlan_pointer hplan
  obtain ⟨hi, htarget, rfl⟩ := revalidatePlan_ok hplan
  obtain ⟨hqmem, hqkey⟩ := pointer?_eq_some hq
  have hsources : ((s.records.filter (p.isSource c.team)).map VectorRecordRow.record).Nodup :=
    hs.facts.keyed.records.sublist (List.filter_sublist.map _)
  obtain ⟨records, hrecords⟩ : ∃ l, cloneRecords c.team p (s.records.filter (p.isSource c.team)) s.records = .ok l :=
    cloneRecords_isOk h.injective hsources fun r _ x hx => h.record r.record x hx
  have hisFrozen (x : PointerRow) (hx : p.isFrozen c.team x = true) : x.key = (c.team, p.item, p.nspace) := by
    simp only [IndexRebuildPlan.isFrozen, Bool.and_eq_true, beq_iff_eq] at hx
    exact hx.1.1.1.1.1
  have hcount : s.pointers.countP (p.isFrozen c.team) = 1 :=
    countP_eq_one hs.facts.keyed.pointers hqmem hfrozen fun x _ hx => (hisFrozen x hx).trans hqkey.symm
  have hnfound := List.find?_some hn
  simp only [Bool.and_eq_true, beq_iff_eq] at hnfound
  have hncount : s.namespaces.countP (p.isNamespace c.team) = 1 := by
    refine countP_eq_one hs.facts.counted.keyed.nspaces (List.mem_of_find?_eq_some hn) ?_ fun m _ hm => ?_
    · simp only [IndexRebuildPlan.isNamespace, hnfound.1, hnfound.2, hactive, hlayer, beq_self_eq_true, Bool.and_self]
    · simp only [IndexRebuildPlan.isNamespace, Bool.and_eq_true, beq_iff_eq] at hm
      exact hm.1.1.2.trans hnfound.1.symm
  -- the intent is recorded against the pointer that has just moved
  let proof := p.proofRow c.team c.producer (s.records.filter (p.isSource c.team))
  let s₁ := c.cutOver p (s.records.filter (p.isSource c.team)) records
    (updateWhere (p.isNamespace c.team) (NamespaceRow.raise p.nextIndexGeneration) s.namespaces) s
  have hpointer : s₁.pointer? c.team p.item p.nspace = some (PointerRow.promote proof c.now q) := by
    have hmem : PointerRow.promote proof c.now q ∈ s₁.pointers := mem_updateWhere.2 ⟨q, hqmem, if_pos hfrozen⟩
    have hnodup : (s₁.pointers.map PointerRow.key).Nodup :=
      nodup_keys_updateWhere (PointerRow.key_promote proof c.now) hs.facts.keyed.pointers
    have hfind := find?_of_key hnodup hmem
    rw [PointerRow.key_promote, hqkey] at hfind
    exact hfind
  have hepoch : (PointerRow.promote proof c.now q).pointerRowRevision = p.pointerRowRevision + 1 := by
    simp only [IndexRebuildPlan.isFrozen, Bool.and_eq_true, beq_iff_eq] at hfrozen
    show q.pointerRowRevision + 1 = _
    rw [hfrozen.1.1.2]
  have hnamespace : (s₁.namespace? c.team p.nspace).any (·.isActive) = true := by
    obtain ⟨m, hm, hmactive, -⟩ : ∃ m, s₁.namespace? c.team p.nspace = some m ∧ m.isActive = n.isActive ∧
        m.layerA = n.layerA := namespace?_raised hs.facts.counted.keyed rfl hn
    rw [hm, Option.any_some, hmactive]
    exact hactive
  have hserves : (s₁.item? c.team p.item).any
      (fun i => i.lifecycleState == .active && i.deletedAt.isNone && i.servingRevision.isSome) = true := by
    have hstate : i.lifecycleState = .active := congrArg ItemFacts.lifecycleState htarget.2
    have hserving : i.servingRevision = some p.revision := congrArg ItemFacts.servingRevision htarget.2
    have hlive : i.deletedAt = none := by
      refine hs.sourced.live i hi fun he => ?_
      rw [hstate] at he
      exact IntakeLifecycle.noConfusion he
    show (s.item? c.team p.item).any _ = true
    rw [hitem, Option.any_some, hstate, hserving, hlive]
    rfl
  obtain ⟨s₂, hs₂⟩ : ∃ s', s₁.scheduleRetirement grace c.team p.item p.nspace p.oldIndexGeneration p.nextIndexGeneration
      (p.pointerRowRevision + 1) = .ok s' :=
    scheduleRetirement_of_moved (p := proof) hpointer rfl rfl hepoch (Nat.lt_succ_self _) hnamespace hserves
  have hfacts : i.facts = ⟨.active, some p.revision, i.servingRevision, i.rowRevision⟩ := by
    have hserving : i.servingRevision = some p.revision := congrArg ItemFacts.servingRevision htarget.2
    rw [htarget.2, hserving]
  refine ⟨s₂.record (c.transition p i), ?_⟩
  unfold IndexRebuild.transition
  rw [hfacts]
  refine bind_ok_iff.2 ⟨(i, s.records.filter (p.isSource c.team)), hplan, ?_⟩
  refine bind_ok_iff.2 ⟨_, insertUnique_eq_ok_iff.2 ⟨h.artifact, rfl⟩, bind_ok_iff.2 ⟨records, hrecords, ?_⟩⟩
  refine bind_ok_iff.2 ⟨_, insertUnique_eq_ok_iff.2 ⟨h.proof, rfl⟩, ?_⟩
  refine bind_ok_iff.2 ⟨_, casWhere_eq_ok_iff.2 ⟨hcount, rfl⟩, ?_⟩
  exact bind_ok_iff.2 ⟨_, casWhere_eq_ok_iff.2 ⟨hncount, rfl⟩, bind_ok_iff.2 ⟨s₂, hs₂, rfl⟩⟩

/-! ### a commit leaves the other plans as they were -/

theorem revalidatePlan_commit (hs : s.RunSources) {c : IndexRebuild} {p p' : IndexRebuildPlan}
    (hc : s.commitPlan grace c p = .ok s') (hplace : (p.item, p.nspace) ≠ (p'.item, p'.nspace)) {i : ItemRow}
    {sources : List VectorRecordRow} (h : s.revalidatePlan c.team p' = .ok (i, sources)) :
    s'.revalidatePlan c.team p' = .ok (i, sources) := by
  have hw := commitPlan_writes hc
  obtain ⟨-, hnamespaces⟩ := commitPlan_raises hc
  obtain ⟨-, -, hartifacts⟩ := commitPlan_sources hc
  have hkeyed := (advances_commitPlan hs.facts.keyed hc).keyed
  unfold revalidatePlan at h
  obtain ⟨j, hj, h⟩ := bind_ok_iff.1 h
  obtain ⟨_, htarget, h⟩ := bind_ok_iff.1 h
  obtain ⟨q, hq, h⟩ := bind_ok_iff.1 h
  obtain ⟨_, hfrozen, h⟩ := bind_ok_iff.1 h
  obtain ⟨proof, hproof, h⟩ := bind_ok_iff.1 h
  obtain ⟨a, ha, h⟩ := bind_ok_iff.1 h
  obtain ⟨_, hprojection, h⟩ := bind_ok_iff.1 h
  obtain ⟨_, hrecords, h⟩ := bind_ok_iff.1 h
  obtain ⟨_, hchanged, h⟩ := bind_ok_iff.1 h
  rw [required_ok_iff] at hj hq hproof ha
  have hitem : s'.item? c.team p'.item = some j := by
    unfold item?
    rw [hw.items]
    exact hj
  have hpointer : s'.pointer? c.team p'.item p'.nspace = some q := by
    obtain ⟨hmem, hkey⟩ := pointer?_eq_some hq
    have hmem' : q ∈ s'.pointers := by
      rw [hw.pointers]
      refine mem_updateWhere.2 ⟨q, hmem, if_neg fun hof => hplace ?_⟩
      simp only [IndexRebuildPlan.isFrozen, Bool.and_eq_true, beq_iff_eq] at hof
      have hsame := hof.1.1.1.1.1.symm.trans hkey
      simp only [Prod.mk.injEq, true_and] at hsame
      rw [hsame.1, hsame.2]
    have hfind := find?_of_key hkeyed.pointers hmem'
    rw [hkey] at hfind
    exact hfind
  rw [failIf_ok_iff, Bool.or_eq_false_iff, Bool.not_eq_false', Bool.not_eq_false'] at hfrozen
  have hnamespace : ((s'.namespace? c.team p'.nspace).any fun n => n.isActive && n.layerA == p'.layerA) = true := by
    obtain ⟨n, hn, hof⟩ := (Option.any_eq_true _ _).1 hfrozen.2
    obtain ⟨m, hm, hactive, hlayer⟩ := namespace?_raised hs.facts.counted.keyed hnamespaces hn
    rw [hm, Option.any_some, hactive, hlayer]
    exact hof
  have hartifact : s'.artifact? c.team p'.sourceGenerationArtifact = some a := by
    unfold artifact? at ha ⊢
    rw [hartifacts, List.find?_append, ha, Option.some_or]
  have hfilter : s'.records.filter (p'.isSource c.team) = s.records.filter (p'.isSource c.team) := by
    obtain ⟨hamem, -, haa⟩ := artifact?_eq_some ha
    have hnone : ((s.records.filter (p.isSource c.team)).map (p.clone c.team)).filter (p'.isSource c.team) = [] := by
      refine List.filter_eq_nil_iff.2 fun r hr hof => ?_
      obtain ⟨x, -, rfl⟩ := List.mem_map.1 hr
      simp only [IndexRebuildPlan.isSource, Bool.and_eq_true, beq_iff_eq] at hof
      exact hw.artifact a hamem (haa.trans hof.1.1.2.symm)
    rw [hw.records, List.filter_append, hnone, List.append_nil]
  unfold revalidatePlan
  refine bind_ok_iff.2 ⟨j, required_ok_iff.2 hitem, bind_ok_iff.2 ⟨(), htarget, ?_⟩⟩
  refine bind_ok_iff.2 ⟨q, required_ok_iff.2 hpointer, bind_ok_iff.2 ⟨(), ?_, ?_⟩⟩
  · rw [failIf_ok_iff, hfrozen.1, hnamespace]
    rfl
  refine bind_ok_iff.2 ⟨proof, ?_, bind_ok_iff.2 ⟨a, required_ok_iff.2 hartifact, ?_⟩⟩
  · rw [required_ok_iff, hw.proofs, List.find?_append, hproof, Option.some_or]
  rw [hfilter]
  exact bind_ok_iff.2 ⟨(), hprojection, bind_ok_iff.2 ⟨(), hrecords, bind_ok_iff.2 ⟨(), hchanged, h⟩⟩⟩

theorem Ready.commit (hs : s.RunSources) {c : IndexRebuild} {p p' : IndexRebuildPlan} (h : s.Ready c.team p')
    (hapart : Apart p p') (hc : s.commitPlan grace c p = .ok s') : s'.Ready c.team p' := by
  have hw := commitPlan_writes hc
  obtain ⟨-, -, hartifacts⟩ := commitPlan_sources hc
  obtain ⟨i, sources, hplan⟩ := h.checked
  refine ⟨⟨i, sources, revalidatePlan_commit hs hc hapart.place hplan⟩, fun a ha => ?_, fun q hq => ?_, fun x r hr => ?_,
    h.injective⟩
  · rw [hartifacts] at ha
    rcases List.mem_append.1 ha with ha | ha
    · exact h.artifact a ha
    · rw [List.mem_singleton.1 ha]
      exact hapart.artifact
  · rw [hw.proofs] at hq
    rcases List.mem_append.1 hq with hq | hq
    · exact h.proof q hq
    · rw [List.mem_singleton.1 hq]
      exact hapart.proof
  · rw [hw.records] at hr
    rcases List.mem_append.1 hr with hr | hr
    · exact h.record x r hr
    · obtain ⟨y, -, rfl⟩ := List.mem_map.1 hr
      exact hapart.record y.record x

theorem indexRebuild_of_ready (hs : s.RunSources) {c : IndexRebuild} {plans : List IndexRebuildPlan}
    (hready : ∀ p ∈ plans, s.Ready c.team p) (hapart : plans.Pairwise Apart) :
    ∃ s', foldEach (commitPlan grace c) s plans = .ok s' := by
  induction plans generalizing s with
  | nil => exact ⟨s, rfl⟩
  | cons p plans ih =>
    rw [List.pairwise_cons] at hapart
    obtain ⟨s₁, h₁⟩ : ∃ s₁, s.commitPlan grace c p = .ok s₁ := commitPlan_of_ready hs (hready p List.mem_cons_self)
    obtain ⟨s₂, h₂⟩ := ih (runSources_commitPlan hs h₁)
      (fun p' hp' => (hready p' (List.mem_cons_of_mem p hp')).commit hs (hapart.1 p' hp') h₁) hapart.2
    unfold foldEach
    exact ⟨s₂, bind_ok_iff.2 ⟨s₁, h₁, h₂⟩⟩

/-! ### what is planned -/

/-- The drawn identities are new, and no two of them are the same. -/
structure PlanDraw.IsFresh (d : PlanDraw) (s : Serving) : Prop where
  artifact : ∀ item nspace, ∀ a ∈ s.artifacts, a.artifact ≠ d.generationArtifact item nspace
  proof : ∀ item nspace, ∀ p ∈ s.proofs, p.proof ≠ d.publicationProof item nspace
  record : ∀ item nspace x, ∀ r ∈ s.records, r.record ≠ d.newRecord item nspace x
  artifacts : ∀ i n i' n', d.generationArtifact i n = d.generationArtifact i' n' → i = i' ∧ n = n'
  proofs : ∀ i n i' n', d.publicationProof i n = d.publicationProof i' n' → i = i' ∧ n = n'
  records : ∀ i n x i' n' x', d.newRecord i n x = d.newRecord i' n' x' → i = i' ∧ n = n' ∧ x = x'

theorem HasSource.apart {d : PlanDraw} (hd : d.IsFresh s) {team : TeamId} {i i' : ItemRow} {revision revision' : RevisionId}
    {x x' : PointerRow × NamespaceRow} {p p' : IndexRebuildPlan} {proof proof' : ProofRow} {a a' : ArtifactRow}
    (h : s.HasSource team d i revision x p proof a) (h' : s.HasSource team d i' revision' x' p' proof' a')
    (hne : ¬ (i.item = i'.item ∧ x.1.nspace = x'.1.nspace)) : Apart p p' := by
  rw [h.plan, h'.plan]
  refine ⟨fun he => hne (Prod.mk.inj he), fun he => hne (hd.artifacts _ _ _ _ he), fun he => hne (hd.proofs _ _ _ _ he),
    fun y y' he => ?_⟩
  obtain ⟨hitem, hnspace, -⟩ := hd.records _ _ _ _ _ _ he
  exact hne ⟨hitem, hnspace⟩

theorem HasSource.ready (hs : s.RunSources) {d : PlanDraw} (hd : d.IsFresh s) {team : TeamId} {t : RebuildTarget}
    {i : ItemRow} {x : PointerRow × NamespaceRow} {p : IndexRebuildPlan} {proof : ProofRow} {a : ArtifactRow}
    (hi : s.IsServingTarget team t i) (hx : x ∈ s.rebuildPointers team t.1) (h : s.HasSource team d i t.2 x p proof a) :
    s.Ready team p := by
  have hplan := revalidatePlan_of_hasSource hs hi hx h
  refine ⟨⟨i, _, hplan⟩, ?_, ?_, ?_, ?_⟩
  · rw [h.plan]
    exact hd.artifact _ _
  · rw [h.plan]
    exact hd.proof _ _
  · rw [h.plan]
    exact hd.record _ _
  · rw [h.plan]
    exact fun y y' he => (hd.records _ _ _ _ _ _ he).2.2

/-- The plan belongs to a pointer of the target. -/
def IsPlanOf (s : Serving) (team : TeamId) (d : PlanDraw) (t : RebuildTarget) (p : IndexRebuildPlan) : Prop :=
  ∃ i x proof a, s.IsServingTarget team t i ∧ x ∈ s.rebuildPointers team t.1 ∧ s.HasSource team d i t.2 x p proof a

theorem planTarget_ok {team : TeamId} {d : PlanDraw} {t : RebuildTarget} {plans : List IndexRebuildPlan}
    (h : s.planTarget team d t = .ok plans) :
    ∃ i, s.item? team t.1 = some i ∧ i.lifecycleState = .active ∧ (i.servingRevision ≠ some t.2 ∧ plans = [] ∨
      s.IsServingTarget team t i ∧ mapEach (s.rebuildPointers team t.1) (s.sourcePlan team d i t.2) = .ok plans) := by
  unfold planTarget at h
  obtain ⟨i, hi, h⟩ := bind_ok_iff.1 h
  obtain ⟨_, hf, h⟩ := bind_ok_iff.1 h
  rw [required_ok_iff] at hi
  rw [failIf_ok_iff, Bool.or_eq_false_iff, bne_eq_false_iff_eq, bne_eq_false_iff_eq] at hf
  refine ⟨i, hi, hf.1, ?_⟩
  split at h
  · rename_i hc
    refine .inl ⟨fun hserving => ?_, (pure_ok_iff.1 h).symm⟩
    rw [hserving, hf.2] at hc
    simp at hc
  · rename_i hc
    obtain ⟨_, -, h⟩ := bind_ok_iff.1 h
    simp only [Bool.or_eq_true, bne_iff_ne, ne_eq, not_or, not_not] at hc
    exact .inr ⟨⟨hi, hf.1, hf.2, hc.2.trans hf.2⟩, h⟩

theorem planTarget_isOk {team : TeamId} {d : PlanDraw} {t : RebuildTarget} {i : ItemRow}
    (hi : s.item? team t.1 = some i) (hactive : i.lifecycleState = .active) (hlatest : i.latestRevision = some t.2)
    (hserving : i.servingRevision = some t.2 → s.rebuildPointers team t.1 ≠ [] ∧
      ∀ x ∈ s.rebuildPointers team t.1, ∃ p, s.sourcePlan team d i t.2 x = .ok p) :
    ∃ plans, s.planTarget team d t = .ok plans := by
  have hf : (i.lifecycleState != .active || i.latestRevision != some t.2) = false := by
    rw [hactive, hlatest, bne_self_eq_false, bne_self_eq_false]
    rfl
  unfold planTarget
  by_cases hc : (i.servingRevision.isNone || i.servingRevision != i.latestRevision) = true
  · refine ⟨[], bind_ok_iff.2 ⟨i, required_ok_iff.2 hi, bind_ok_iff.2 ⟨(), failIf_ok_iff.2 hf, ?_⟩⟩⟩
    rw [if_pos hc]
    rfl
  · have hsame : i.servingRevision = some t.2 := by
      simp only [Bool.or_eq_true, bne_iff_ne, ne_eq, not_or, not_not] at hc
      exact hc.2.trans hlatest
    obtain ⟨hne, hplans⟩ := hserving hsame
    obtain ⟨plans, hok⟩ := mapEach_isOk hplans
    refine ⟨plans, bind_ok_iff.2 ⟨i, required_ok_iff.2 hi, bind_ok_iff.2 ⟨(), failIf_ok_iff.2 hf, ?_⟩⟩⟩
    rw [if_neg hc]
    refine bind_ok_iff.2 ⟨(), ?_, hok⟩
    rw [failIf_ok_iff, List.isEmpty_eq_false_iff]
    exact hne

theorem isPlanOf_of_mem {team : TeamId} {d : PlanDraw} {t : RebuildTarget} {plans : List IndexRebuildPlan}
    (h : s.planTarget team d t = .ok plans) : ∀ p ∈ plans, s.IsPlanOf team d t p := by
  obtain ⟨i, -, -, ⟨-, rfl⟩ | ⟨hi, hplans⟩⟩ := planTarget_ok h
  · exact fun p hp => absurd hp List.not_mem_nil
  · intro p hp
    obtain ⟨x, hx, hok⟩ := mapEach_exists hplans p hp
    obtain ⟨proof, a, hsource⟩ := sourcePlan_ok hok
    exact ⟨i, x, proof, a, hi, hx, hsource⟩

theorem pairwise_planTarget (hs : s.Keyed) {d : PlanDraw} (hd : d.IsFresh s) {team : TeamId} {t : RebuildTarget}
    {plans : List IndexRebuildPlan} (h : s.planTarget team d t = .ok plans) : plans.Pairwise Apart := by
  obtain ⟨i, -, -, ⟨-, rfl⟩ | ⟨-, hplans⟩⟩ := planTarget_ok h
  · exact List.Pairwise.nil
  · refine mapEach_pairwise (pairwise_rebuildPointers hs team t.1) (fun x y p p' hne hp hp' => ?_) hplans
    obtain ⟨proof, a, hsource⟩ := sourcePlan_ok hp
    obtain ⟨proof', a', hsource'⟩ := sourcePlan_ok hp'
    exact hsource.apart hd hsource' fun he => hne he.2

theorem ready_of_plan (hs : s.RunSources) {d : PlanDraw} (hd : d.IsFresh s) {team : TeamId} {targets : List RebuildTarget}
    (htargets : targets.Pairwise fun t u => t.1 ≠ u.1) {plans : List IndexRebuildPlan}
    (h : s.planIndexRebuild team d targets = .ok plans) : (∀ p ∈ plans, s.Ready team p) ∧ plans.Pairwise Apart := by
  unfold planIndexRebuild at h
  obtain ⟨ls, hls, h⟩ := bind_ok_iff.1 h
  obtain rfl := pure_ok_iff.1 h
  refine ⟨fun p hp => ?_, List.pairwise_flatten.2 ⟨fun l hl => ?_, ?_⟩⟩
  · obtain ⟨l, hl, hp⟩ := List.mem_flatten.1 hp
    obtain ⟨t, -, ht⟩ := mapEach_exists hls l hl
    obtain ⟨i, x, proof, a, hi, hx, hsource⟩ := isPlanOf_of_mem ht p hp
    exact hsource.ready hs hd hi hx
  · obtain ⟨t, -, ht⟩ := mapEach_exists hls l hl
    exact pairwise_planTarget hs.facts.keyed hd ht
  · refine mapEach_pairwise htargets (fun t u l l' hne ht hu p hp p' hp' => ?_) hls
    obtain ⟨i, x, proof, a, hi, -, hsource⟩ := isPlanOf_of_mem ht p hp
    obtain ⟨i', x', proof', a', hi', -, hsource'⟩ := isPlanOf_of_mem hu p' hp'
    refine hsource.apart hd hsource' fun he => hne ?_
    rw [← hi.item, ← hi'.item]
    exact he.1

/-! ### totality -/

theorem pointerNamespace (hs : s.RunSources) {q : PointerRow} (hq : q ∈ s.pointers) :
    ∃ n, s.namespace? q.team q.nspace = some n ∧ n.isActive = true := by
  obtain ⟨r, hr, hslot, -⟩ := hs.sourced.pointers q hq
  obtain ⟨n, hn, hnspace, hbinding⟩ := (hs.sourced.proofs r hr).layer
  simp only [ProofRow.slot, PointerRow.slot, Prod.mk.injEq] at hslot
  have hteam : n.team = q.team := (congrArg Prod.fst hbinding).trans hslot.1
  have hplace : n.nspace = q.nspace := hnspace.trans hslot.2.2.1
  refine ⟨n, find?_of_unique hs.facts.counted.keyed.nspaces hn ?_ fun m _ hm => ?_, hs.facts.counted.keyed.active n hn⟩
  · rw [hteam, hplace, beq_self_eq_true, beq_self_eq_true]
    rfl
  · simp only [Bool.and_eq_true, beq_iff_eq] at hm
    exact hm.1.trans hplace.symm

/-- The target is active, and if it serves its Revision each of its active pointers is intact. -/
structure IsRebuildable (s : Serving) (team : TeamId) (t : RebuildTarget) : Prop where
  active : ∀ i, s.item? team t.1 = some i → i.lifecycleState = .active
  intact : ∀ i, s.item? team t.1 = some i → i.servingRevision = some t.2 →
    ∀ q ∈ s.pointers, q.owner = (team, t.1) → q.lifecycleState = .active → s.IsIntact q t.2

theorem isRebuildable_of_planTarget (hs : s.RunSources) {team : TeamId} {d : PlanDraw} {t : RebuildTarget}
    {plans : List IndexRebuildPlan} (h : s.planTarget team d t = .ok plans) : s.IsRebuildable team t := by
  obtain ⟨i, hi, hactive, hplans⟩ := planTarget_ok h
  refine ⟨fun j hj => ?_, fun j hj hserving q hq howner hlifecycle => ?_⟩
  · obtain rfl := Option.some.inj (hi.symm.trans hj)
    exact hactive
  · obtain rfl := Option.some.inj (hi.symm.trans hj)
    rcases hplans with ⟨hne, -⟩ | ⟨-, hplans⟩
    · exact absurd hserving hne
    obtain ⟨n, hn, hnactive⟩ := pointerNamespace hs hq
    have hteam : q.team = team := congrArg Prod.fst howner
    rw [hteam] at hn
    have hx : (q, n) ∈ s.rebuildPointers team t.1 := mem_rebuildPointers.2 ⟨hq, howner, hlifecycle, hn, hnactive⟩
    obtain ⟨p, -, hok⟩ := mapEach_forall hplans (q, n) hx
    obtain ⟨proof, a, hsource⟩ := sourcePlan_ok hok
    exact hsource.isIntact hs

theorem planTarget_of_isRebuildable (hs : s.RunSources) {team : TeamId} (d : PlanDraw) {t : RebuildTarget} {i : ItemRow}
    (hi : s.item? team t.1 = some i) (hlatest : i.latestRevision = some t.2) (h : s.IsRebuildable team t) :
    ∃ plans, s.planTarget team d t = .ok plans := by
  obtain ⟨hmem, hkey⟩ := item?_eq_some hi
  have hitem : i.item = t.1 := (Prod.mk.inj hkey).2
  refine planTarget_isOk hi (h.active i hi) hlatest fun hserving => ⟨?_, fun x hx => ?_⟩
  · obtain ⟨q, hq, howner, hlifecycle⟩ := hs.sourced.serving i hmem (by rw [hserving]; rfl)
    obtain ⟨n, hn, hnactive⟩ := pointerNamespace hs hq
    rw [hkey] at howner
    have hteam : q.team = team := congrArg Prod.fst howner
    rw [hteam] at hn
    exact List.ne_nil_of_mem (mem_rebuildPointers.2 ⟨hq, howner, hlifecycle, hn, hnactive⟩ : (q, n) ∈ _)
  · obtain ⟨hq, howner, hlifecycle, -⟩ := mem_rebuildPointers.1 hx
    obtain ⟨p, proof, a, hsource⟩ :=
      hasSource_of_isIntact hs d hitem hx (h.intact i hi hserving x.1 hq howner hlifecycle)
    exact ⟨p, hsource.sourcePlan hs.facts.keyed⟩

/-- The Item has the latest and the serving Revision it had. -/
def IsUnchanged (s s' : Serving) (team : TeamId) (item : ItemId) : Prop :=
  (s'.item? team item).map (fun i => (i.latestRevision, i.servingRevision)) =
    (s.item? team item).map fun i => (i.latestRevision, i.servingRevision)

end Serving

open Serving

/-- A rebuild of a scope whose targets have not changed since it was frozen succeeds exactly if every target is active
and every active pointer of a serving target is intact. -/
theorem rebuildTotal (grace : Nat) (frozen l : List ServingStep) {team : TeamId} (scope : RebuildScope)
    {targets : List RebuildTarget} (d : PlanDraw) (producer : ProcessFence) (now : Time)
    (hf : (runFrom (servingStep grace) .empty frozen).resolveIndexRebuild team scope = .ok targets)
    (hu : ∀ t ∈ targets, IsUnchanged (runFrom (servingStep grace) .empty frozen)
      (runFrom (servingStep grace) (runFrom (servingStep grace) .empty frozen) l) team t.1)
    (hd : d.IsFresh (runFrom (servingStep grace) (runFrom (servingStep grace) .empty frozen) l)) :
    (∃ s', (runFrom (servingStep grace) (runFrom (servingStep grace) .empty frozen) l).rebuildIndex grace team d producer
        now targets = .ok s') ↔
      ∀ t ∈ targets, (runFrom (servingStep grace) (runFrom (servingStep grace) .empty frozen) l).IsRebuildable team t := by
  have hs₀ : (runFrom (servingStep grace) .empty frozen).RunSources := runSources_run runSources_empty grace frozen
  have hs := runSources_run hs₀ grace l
  obtain ⟨htargets, hlatest⟩ := resolveIndexRebuild_ok hs₀.facts.keyed hf
  constructor
  · rintro ⟨s', h⟩ t ht
    unfold rebuildIndex planIndexRebuild at h
    obtain ⟨plans, hplans, -⟩ := bind_ok_iff.1 h
    obtain ⟨ls, hls, -⟩ := bind_ok_iff.1 hplans
    obtain ⟨l', -, hl'⟩ := mapEach_forall hls t ht
    exact isRebuildable_of_planTarget hs hl'
  · intro h
    have heach (t : RebuildTarget) (ht : t ∈ targets) : ∃ plans, planTarget team d
        (runFrom (servingStep grace) (runFrom (servingStep grace) .empty frozen) l) t = .ok plans := by
      obtain ⟨i, hi, hil⟩ := hlatest t ht
      have hsame := hu t ht
      unfold IsUnchanged at hsame
      rw [hi, Option.map_some, Option.map_eq_some_iff] at hsame
      obtain ⟨j, hj, hji⟩ := hsame
      exact planTarget_of_isRebuildable hs d hj ((congrArg Prod.fst hji).trans hil) (h t ht)
    obtain ⟨ls, hls⟩ := mapEach_isOk heach
    have hplans : planIndexRebuild team d targets
        (runFrom (servingStep grace) (runFrom (servingStep grace) .empty frozen) l) = .ok ls.flatten :=
      bind_ok_iff.2 ⟨ls, hls, rfl⟩
    obtain ⟨hready, hapart⟩ := ready_of_plan hs hd htargets hplans
    obtain ⟨s', hs'⟩ : ∃ s', indexRebuild grace ⟨team, producer, ls.flatten, now⟩
        (runFrom (servingStep grace) (runFrom (servingStep grace) .empty frozen) l) = .ok s' :=
      indexRebuild_of_ready (c := ⟨team, producer, ls.flatten, now⟩) hs hready hapart
    exact ⟨s', bind_ok_iff.2 ⟨ls.flatten, hplans, hs'⟩⟩

def sampleDraw : PlanDraw where
  generationArtifact := fun item nspace => 101 + Nat.pair item nspace
  publicationProof := fun item nspace => 1001 + Nat.pair item nspace
  newRecord := fun item nspace x => 8 + Nat.pair (Nat.pair item nspace) x
  rebuiltContentDigest := fun _ _ => 9

theorem isFresh_sampleDraw : sampleDraw.IsFresh (runFrom (servingStep 0) .empty samplePublication) := by
  have hpair {a i n i' n' : Nat} (he : a + Nat.pair i n = a + Nat.pair i' n') : i = i' ∧ n = n' :=
    Nat.pair_eq_pair.1 (Nat.add_left_cancel he)
  refine ⟨fun item nspace a ha => ?_, fun item nspace p hp => ?_, fun item nspace x r hr => ?_, fun i n i' n' => hpair,
    fun i n i' n' => hpair, fun i n x i' n' x' he => ?_⟩
  · obtain rfl := List.mem_singleton.1 (show a ∈ [_] from ha)
    show 100 ≠ 101 + Nat.pair item nspace
    omega
  · obtain rfl := List.mem_singleton.1 (show p ∈ [_] from hp)
    show 1000 ≠ 1001 + Nat.pair item nspace
    omega
  · obtain rfl := List.mem_singleton.1 (show r ∈ [_] from hr)
    show 7 ≠ 8 + Nat.pair (Nat.pair item nspace) x
    omega
  · obtain ⟨hplace, hx⟩ := hpair he
    obtain ⟨hi, hn⟩ := Nat.pair_eq_pair.1 hplace
    exact ⟨hi, hn, hx⟩

/-- The Item of one publication, frozen and rebuilt. -/
theorem rebuildTotal_published :
    let s := runFrom (servingStep 0) .empty samplePublication
    s.resolveIndexRebuild 1 .team = .ok [(1, 10)] ∧ ∀ t ∈ [(1, 10)], s.IsRebuildable 1 t := by
  have hfrozen : (runFrom (servingStep 0) .empty samplePublication).resolveIndexRebuild 1 .team = .ok [(1, 10)] := rfl
  exact ⟨hfrozen, (rebuildTotal 0 samplePublication [] .team sampleDraw ⟨9, 9, 1⟩ 5 hfrozen (fun _ _ => rfl)
    isFresh_sampleDraw).1 ⟨_, rfl⟩⟩

/-- The Item of one publication, with a second Revision published under another Layer A. -/
def sampleTwoNamespaces : List ServingStep := samplePublication ++
  [.acceptSnapshot { sampleAccept false with
      revision := 11
      snapshot := 2 },
    .acceptConstruct ⟨1, 101, 3, 1, 11, 6, true, true⟩,
    .vectorize { sampleVectorize with
      execution := 3
      revision := 11
      generationArtifact := 101
      nspace := 2
      publicationProof := 1001
      layerA := ⟨2, 1, 1, 8⟩
      records := [⟨8, 1, .original, 88⟩] },
    .publish ⟨1, ⟨3, 4, 1⟩, 1⟩]

/-- A scope that is frozen and rebuilt in one state fails on the pointer of the earlier Revision. -/
theorem rebuildTotal_twoNamespaces :
    let s := runFrom (servingStep 0) .empty sampleTwoNamespaces
    s.resolveIndexRebuild 1 .team = .ok [(1, 11)] ∧ ∀ d producer now, s.rebuildIndex 0 1 d producer now [(1, 11)] =
      .error (conflictError "INDEX_REBUILD_SOURCE_PROOF_MISSING"
        "Active index pointer has no matching publication proof") := ⟨rfl, fun _ _ _ => rfl⟩

end KnowledgeBase
