import KnowledgeBase.Serving.Provenance

/-!
# The serving fact

What the tables say together of one Item: without the active lifecycle it has no active pointer and no indexed
record; with a serving Revision it has an active pointer whose proof is of that Revision and counts the live indexed
records. A writer of one Item leaves the fact of every other Item as it is (`FactInvariant.beside`).
-/

namespace KnowledgeBase

open Checked Relational

def PointerRow.owner (p : PointerRow) : TeamId × ItemId := (p.team, p.item)
def VectorRecordRow.owner (r : VectorRecordRow) : TeamId × ItemId := (r.team, r.item)

/-- A live indexed record of the Item, the artifact and the generation of the pointer. -/
def PointerRow.counts (p : PointerRow) (r : VectorRecordRow) : Bool :=
  r.owner == p.owner && r.generationArtifact == p.generationArtifact && r.indexGeneration == p.activeIndexGeneration &&
    r.isIndexed

theorem PointerRow.owner_withdraw (now : Time) (p : PointerRow) : (PointerRow.withdraw now p).owner = p.owner := rfl
theorem PointerRow.owner_promote (p : ProofRow) (now : Time) (q : PointerRow) :
    (PointerRow.promote p now q).owner = q.owner := rfl

theorem PointerRow.counts_iff {p : PointerRow} {r : VectorRecordRow} : p.counts r = true ↔
    r.owner = p.owner ∧ r.generationArtifact = p.generationArtifact ∧ r.indexGeneration = p.activeIndexGeneration ∧
      r.isIndexed = true := by
  simp only [PointerRow.counts, Bool.and_eq_true, beq_iff_eq, and_assoc]

namespace Serving

/-- The Item has no active pointer and no indexed record. -/
structure Bare (s : Serving) (k : TeamId × ItemId) : Prop where
  pointers : ∀ p ∈ s.pointers, p.owner = k → p.lifecycleState ≠ .active
  records : ∀ r ∈ s.records, r.owner = k → r.isIndexed = false

theorem bare_iff {s : Serving} {k : TeamId × ItemId} : s.Bare k ↔
    (∀ p ∈ s.pointers, p.owner = k → p.lifecycleState ≠ .active) ∧
      ∀ r ∈ s.records, r.owner = k → r.isIndexed = false :=
  ⟨fun h => ⟨h.pointers, h.records⟩, fun h => ⟨h.1, h.2⟩⟩

instance (s : Serving) (k : TeamId × ItemId) : Decidable (s.Bare k) := decidable_of_iff' _ bare_iff

/-- The proof is of the Item and the Revision, for the generation and the artifact of the pointer. -/
def IsProofOf (proof : ProofRow) (p : PointerRow) (revision : RevisionId) : Prop :=
  proof.team = p.team ∧ proof.item = p.item ∧ proof.revision = revision ∧
    proof.indexGeneration = p.activeIndexGeneration ∧ proof.generationArtifact = p.generationArtifact

def ProofCounts (proof : ProofRow) (n : Nat) : Prop :=
  proof.expectedCount = n ∧ proof.actualCount = n ∧ proof.matchedCount = n

/-- The pointer and its last proof by which the Item serves the Revision. -/
structure Supports (s : Serving) (k : TeamId × ItemId) (revision : RevisionId) (p : PointerRow) (proof : ProofRow) :
    Prop where
  pointer : p ∈ s.pointers
  owner : p.owner = k
  active : p.lifecycleState = .active
  recorded : proof ∈ s.proofs
  last : p.lastProof = proof.proof
  target : IsProofOf proof p revision
  counts : ProofCounts proof (s.records.countP p.counts)

structure FactOf (s : Serving) (i : ItemRow) : Prop where
  withdrawn : i.lifecycleState ≠ .active → s.Bare i.key
  supported : ∀ revision, i.servingRevision = some revision → ∃ p proof, s.Supports i.key revision p proof

/-- Serving state is one fact, of every Item. -/
def OneFact (s : Serving) : Prop := ∀ i ∈ s.items, s.FactOf i

/-- The fact of one Item, with what its writers rely on. -/
structure FactAt (s : Serving) (k : TeamId × ItemId) : Prop where
  fact : ∀ i ∈ s.items, i.key = k → s.FactOf i
  serving : ∀ i ∈ s.items, i.key = k → i.servingRevision.isSome = true → i.lifecycleState = .active
  cleaned : k ∈ s.deleteCleanups → ∀ i ∈ s.items, i.key = k → i.lifecycleState = .deleted

/-- Pointers, records and cleanups are of Items. -/
structure Owned (s : Serving) : Prop where
  pointers : ∀ p ∈ s.pointers, ∃ i ∈ s.items, i.key = p.owner
  records : ∀ r ∈ s.records, ∃ i ∈ s.items, i.key = r.owner
  cleanups : ∀ k ∈ s.deleteCleanups, ∃ i ∈ s.items, i.key = k

structure FactInvariant (s : Serving) : Prop where
  factAt : ∀ k, s.FactAt k
  owned : s.Owned

variable {s s' : Serving}

theorem FactInvariant.oneFact (h : s.FactInvariant) : s.OneFact := fun i hi => (h.factAt i.key).fact i hi rfl

theorem factInvariant_empty : Serving.empty.FactInvariant := by
  have hitems {P : ItemRow → Prop} : ∀ i ∈ Serving.empty.items, P i := fun _ hi => absurd hi List.not_mem_nil
  exact ⟨fun k => ⟨hitems, hitems, fun _ => hitems⟩, ⟨fun _ hp => absurd hp List.not_mem_nil,
    fun _ hr => absurd hr List.not_mem_nil, fun _ hk => absurd hk List.not_mem_nil⟩⟩

/-! ### frames -/

/-- An indexed record of another Item. -/
def isIndexedBeside (k : TeamId × ItemId) (r : VectorRecordRow) : Bool := r.owner != k && r.isIndexed

/-- The next state has the rows of every other Item as the last. -/
structure Beside (k : TeamId × ItemId) (s s' : Serving) : Prop where
  items : ∀ i, i.key ≠ k → (i ∈ s'.items ↔ i ∈ s.items)
  item : ∃ i ∈ s'.items, i.key = k
  pointers : ∀ p, p.owner ≠ k → (p ∈ s'.pointers ↔ p ∈ s.pointers)
  proofs : s.proofs ⊆ s'.proofs
  records : s'.records.filter (isIndexedBeside k) = s.records.filter (isIndexedBeside k)
  owners : ∀ r ∈ s'.records, r.owner ≠ k → ∃ q ∈ s.records, q.owner = r.owner
  cleanups : ∀ q, q ≠ k → (q ∈ s'.deleteCleanups ↔ q ∈ s.deleteCleanups)

theorem countP_of_filter {k : TeamId × ItemId} {l l' : List VectorRecordRow}
    (h : l'.filter (isIndexedBeside k) = l.filter (isIndexedBeside k)) {c : VectorRecordRow → Bool}
    (hc : ∀ r, c r = true → isIndexedBeside k r = true) : l'.countP c = l.countP c := by
  have hcount (l : List VectorRecordRow) : l.countP c = (l.filter (isIndexedBeside k)).countP c := by
    rw [List.countP_filter]
    refine List.countP_congr fun r _ => ?_
    rw [Bool.and_eq_true]
    exact ⟨fun hr => ⟨hr, hc r hr⟩, And.left⟩
  rw [hcount l', hcount l, h]

theorem FactOf.beside {k : TeamId × ItemId} (hb : Beside k s s') {i : ItemRow} (hi : i.key ≠ k) (h : s.FactOf i) :
    s'.FactOf i := by
  refine ⟨fun hlife => ⟨fun p hp howner => ?_, fun r hr howner => ?_⟩, fun revision hserving => ?_⟩
  · exact (h.withdrawn hlife).pointers p ((hb.pointers p (howner ▸ hi)).1 hp) howner
  · cases hindexed : r.isIndexed with
    | false => rfl
    | true =>
      have hmem : r ∈ s'.records.filter (isIndexedBeside k) := by
        refine List.mem_filter.2 ⟨hr, ?_⟩
        rw [isIndexedBeside, hindexed, Bool.and_true, bne_iff_ne, howner]
        exact hi
      rw [hb.records] at hmem
      have hbare := (h.withdrawn hlife).records r (List.mem_filter.1 hmem).1 howner
      rw [hindexed] at hbare
      cases hbare
  · obtain ⟨p, proof, hs⟩ := h.supported revision hserving
    have howner : p.owner ≠ k := hs.owner ▸ hi
    refine ⟨p, proof, (hb.pointers p howner).2 hs.pointer, hs.owner, hs.active, hb.proofs hs.recorded, hs.last, hs.target, ?_⟩
    rw [countP_of_filter hb.records fun r hr => ?_]
    · exact hs.counts
    · obtain ⟨hr, -, -, hindexed⟩ := PointerRow.counts_iff.1 hr
      rw [isIndexedBeside, hindexed, Bool.and_true, bne_iff_ne, hr]
      exact howner

theorem FactInvariant.beside (h : s.FactInvariant) {k : TeamId × ItemId} (hb : Beside k s s') (hk : s'.FactAt k) :
    s'.FactInvariant := by
  have hat (q : TeamId × ItemId) (hq : q ≠ k) : s'.FactAt q := by
    refine ⟨fun i hi hkey => ?_, fun i hi hkey => ?_, fun hclean i hi hkey => ?_⟩
    · have hne : i.key ≠ k := hkey ▸ hq
      exact ((h.factAt q).fact i ((hb.items i hne).1 hi) hkey).beside hb hne
    · exact (h.factAt q).serving i ((hb.items i (hkey ▸ hq)).1 hi) hkey
    · exact (h.factAt q).cleaned ((hb.cleanups q hq).1 hclean) i ((hb.items i (hkey ▸ hq)).1 hi) hkey
  have hitem {q : TeamId × ItemId} (hq : q ≠ k → ∃ i ∈ s.items, i.key = q) : ∃ i ∈ s'.items, i.key = q := by
    by_cases he : q = k
    · rw [he]
      exact hb.item
    · obtain ⟨i, hi, hkey⟩ := hq he
      exact ⟨i, (hb.items i (hkey ▸ he)).2 hi, hkey⟩
  refine ⟨fun q => ?_, ⟨fun p hp => hitem fun hne => ?_, fun r hr => hitem fun hne => ?_, fun q hq => hitem fun hne => ?_⟩⟩
  · by_cases he : q = k
    · rw [he]
      exact hk
    · exact hat q he
  · exact h.owned.pointers p ((hb.pointers p hne).1 hp)
  · obtain ⟨q, hq, howner⟩ := hb.owners r hr hne
    rw [← howner]
    exact h.owned.records q hq
  · exact h.owned.cleanups q ((hb.cleanups q hne).1 hq)

/-- A writer that changes no Item, pointer, proof or cleanup and no indexed record. -/
theorem FactInvariant.congr (h : s.FactInvariant) (hi : s'.items = s.items) (hp : s'.pointers = s.pointers)
    (hq : s'.proofs = s.proofs) (hr : s'.records.filter VectorRecordRow.isIndexed = s.records.filter VectorRecordRow.isIndexed)
    (howner : ∀ r ∈ s'.records, ∃ i ∈ s.items, i.key = r.owner) (hc : s'.deleteCleanups = s.deleteCleanups) :
    s'.FactInvariant := by
  have hcount (p : PointerRow) : s'.records.countP p.counts = s.records.countP p.counts := by
    have hfilter (l : List VectorRecordRow) : l.countP p.counts = (l.filter VectorRecordRow.isIndexed).countP p.counts := by
      rw [List.countP_filter]
      refine List.countP_congr fun r _ => ?_
      rw [Bool.and_eq_true]
      exact ⟨fun hr => ⟨hr, (PointerRow.counts_iff.1 hr).2.2.2⟩, And.left⟩
    rw [hfilter, hfilter s.records, hr]
  have hfact {i : ItemRow} (hf : s.FactOf i) : s'.FactOf i := by
    refine ⟨fun hlife => ⟨fun p hmem => ?_, fun r hmem ho => ?_⟩, fun revision hserving => ?_⟩
    · exact (hf.withdrawn hlife).pointers p (hp ▸ hmem)
    · cases hindexed : r.isIndexed with
      | false => rfl
      | true =>
        have hold : r ∈ s.records.filter VectorRecordRow.isIndexed := hr ▸ List.mem_filter.2 ⟨hmem, hindexed⟩
        have hbare := (hf.withdrawn hlife).records r (List.mem_filter.1 hold).1 ho
        rw [hindexed] at hbare
        cases hbare
    · obtain ⟨p, proof, hs⟩ := hf.supported revision hserving
      refine ⟨p, proof, hp ▸ hs.pointer, hs.owner, hs.active, hq ▸ hs.recorded, hs.last, hs.target, ?_⟩
      rw [hcount]
      exact hs.counts
  refine ⟨fun k => ⟨fun i hmem hkey => ?_, fun i hmem => ?_, fun hclean i hmem => ?_⟩, ⟨fun p hmem => ?_, fun r hmem => ?_,
    fun k hmem => ?_⟩⟩
  · exact hfact ((h.factAt k).fact i (hi ▸ hmem) hkey)
  · exact (h.factAt k).serving i (hi ▸ hmem)
  · exact (h.factAt k).cleaned (hc ▸ hclean) i (hi ▸ hmem)
  · rw [hi]
    exact h.owned.pointers p (hp ▸ hmem)
  · rw [hi]
    exact howner r hmem
  · rw [hi]
    exact h.owned.cleanups k (hc ▸ hmem)

/-! ### writers of Items -/

theorem FactInvariant.insertItem (h : s.FactInvariant) {i : ItemRow} (hfresh : ∀ j ∈ s.items, j.key ≠ i.key)
    (hserving : i.servingRevision = none) : ({ s with items := s.items ++ [i] } : Serving).FactInvariant := by
  have hmem {j : ItemRow} (hj : j ∈ s.items ++ [i]) (hkey : j.key = i.key) : j = i := by
    rcases List.mem_append.1 hj with hj | hj
    · exact absurd hkey (hfresh j hj)
    · exact List.mem_singleton.1 hj
  refine h.beside (k := i.key) ⟨fun j hj => ?_, ⟨i, List.mem_append_right _ List.mem_cons_self, rfl⟩, fun p _ => .rfl,
    List.Subset.refl _, rfl, fun r hr _ => ⟨r, hr, rfl⟩, fun q _ => .rfl⟩ ⟨fun j hj hkey => ?_, fun j hj hkey hs => ?_,
    fun hclean => ?_⟩
  · rw [List.mem_append, List.mem_singleton]
    exact ⟨fun hor => hor.resolve_right fun he => hj (he ▸ rfl), .inl⟩
  · obtain rfl := hmem hj hkey
    refine ⟨fun _ => ⟨fun p hp howner => ?_, fun r hr howner => ?_⟩, fun revision hs => ?_⟩
    · obtain ⟨q, hq, hqk⟩ := h.owned.pointers p hp
      exact absurd (hqk.trans howner) (hfresh q hq)
    · obtain ⟨q, hq, hqk⟩ := h.owned.records r hr
      exact absurd (hqk.trans howner) (hfresh q hq)
    · rw [hserving] at hs
      cases hs
  · obtain rfl := hmem hj hkey
    rw [hserving] at hs
    cases hs
  · obtain ⟨q, hq, hqk⟩ := h.owned.cleanups _ hclean
    exact absurd hqk (hfresh q hq)

theorem FactInvariant.updateItems (h : s.FactInvariant) {c : ItemRow → Bool} {f : ItemRow → ItemRow}
    (hkey : ∀ i, (f i).key = i.key)
    (hf : ∀ i ∈ s.items, c i = true → s.FactOf (f i) ∧
      ((f i).servingRevision.isSome = true → (f i).lifecycleState = .active) ∧
      (i.lifecycleState = .deleted → (f i).lifecycleState = .deleted)) :
    ({ s with items := updateWhere c f s.items } : Serving).FactInvariant := by
  have hkept {k : TeamId × ItemId} (hi : ∃ i ∈ s.items, i.key = k) : ∃ i ∈ updateWhere c f s.items, i.key = k := by
    obtain ⟨i, hi, rfl⟩ := hi
    refine ⟨_, mem_updateWhere_of_mem hi, ?_⟩
    split
    · exact hkey i
    · rfl
  have hfact {i : ItemRow} (hfi : s.FactOf i) : ({ s with items := updateWhere c f s.items } : Serving).FactOf i :=
    ⟨fun hlife => ⟨(hfi.withdrawn hlife).pointers, (hfi.withdrawn hlife).records⟩, fun revision hserving => by
      obtain ⟨p, proof, hs⟩ := hfi.supported revision hserving
      exact ⟨p, proof, hs.pointer, hs.owner, hs.active, hs.recorded, hs.last, hs.target, hs.counts⟩⟩
  refine ⟨fun k => ⟨fun j hj hk => ?_, fun j hj hk => ?_, fun hclean j hj hk => ?_⟩, ⟨fun p hp => hkept (h.owned.pointers p hp),
    fun r hr => hkept (h.owned.records r hr), fun q hq => hkept (h.owned.cleanups q hq)⟩⟩
  · rcases mem_updateWhere_cases hj with ⟨hj, -⟩ | ⟨i, hi, hc, rfl⟩
    · exact hfact ((h.factAt k).fact j hj hk)
    · exact hfact (hf i hi hc).1
  · rcases mem_updateWhere_cases hj with ⟨hj, -⟩ | ⟨i, hi, hc, rfl⟩
    · exact (h.factAt k).serving j hj hk
    · exact (hf i hi hc).2.1
  · rcases mem_updateWhere_cases hj with ⟨hj, -⟩ | ⟨i, hi, hc, rfl⟩
    · exact (h.factAt k).cleaned hclean j hj hk
    · exact (hf i hi hc).2.2 ((h.factAt k).cleaned hclean i hi ((hkey i).symm.trans hk))

theorem FactOf.of_eq {i j : ItemRow} (h : s.FactOf i) (hkey : j.key = i.key) (hlife : j.lifecycleState = i.lifecycleState)
    (hserving : j.servingRevision = i.servingRevision) : s.FactOf j := by
  refine ⟨fun hne => ?_, fun revision hs => ?_⟩
  · rw [hkey]
    exact h.withdrawn (hlife ▸ hne)
  · rw [hkey]
    exact h.supported revision (hserving ▸ hs)

theorem FactInvariant.acceptItems (h : s.FactInvariant) (c : ItemRow → Bool) (revision : RevisionId) :
    ({ s with items := updateWhere c (ItemRow.accept revision) s.items } : Serving).FactInvariant :=
  h.updateItems (ItemRow.key_accept revision) fun i hi _ =>
    ⟨((h.factAt i.key).fact i hi rfl).of_eq rfl rfl rfl, (h.factAt i.key).serving i hi rfl, id⟩

/-- Ledger rows, memberships, manifests, namespaces, artifacts, handoffs and intents are no part of the fact. -/
theorem FactInvariant.of_tables (h : s.FactInvariant) (hi : s'.items = s.items) (hp : s'.pointers = s.pointers)
    (hq : s'.proofs = s.proofs) (hr : s'.records = s.records) (hc : s'.deleteCleanups = s.deleteCleanups) :
    s'.FactInvariant :=
  h.congr hi hp hq (by rw [hr]) (fun r hmem => h.owned.records r (hr ▸ hmem)) hc

theorem fact_acceptSnapshot (h : s.FactInvariant) {c : AcceptSnapshot} (hc : s.acceptSnapshot c = .ok s') :
    s'.FactInvariant := by
  have hoffered : ({ s with items := c.itemsOffered s } : Serving).FactInvariant := by
    unfold AcceptSnapshot.itemsOffered insertOrIgnore
    split
    · exact h
    · rename_i hclash
      rw [Bool.not_eq_true, List.any_eq_false] at hclash
      refine h.insertItem (fun j hj he => hclash j hj ?_) rfl
      simp [itemClash, he]
  obtain ⟨before, -, -, ⟨-, rfl⟩ | ⟨-, -, rfl⟩⟩ := acceptSnapshot_ok hc
  · exact hoffered.of_tables rfl rfl rfl rfl rfl
  · exact (hoffered.acceptItems (c.advances before.rowRevision) c.revision).of_tables rfl rfl rfl rfl rfl

theorem fact_acceptCollection (h : s.FactInvariant) {c : AcceptCollection} (hc : s.acceptCollection c = .ok s') :
    s'.FactInvariant := by
  refine foldEach_preserves (P := FactInvariant) (fun d d' m _ hd hm => ?_) h hc
  obtain ⟨hclash, rfl⟩ := insertMember_ok hm
  refine (hd.insertItem (i := c.newItem m) (fun j hj he => ?_) rfl).of_tables rfl rfl rfl rfl rfl
  have hj := hclash j hj
  simp [itemClash, he] at hj

theorem fact_acceptMetadataUpdate (h : s.FactInvariant) {t : FrozenTarget} {metadataRevision : Option RevisionId}
    {producer : ProcessFence} (ht : s.acceptMetadataUpdate t metadataRevision producer = .ok s') :
    s'.FactInvariant := by
  obtain ⟨i, -, -, -, rfl | ⟨revision, rfl⟩⟩ := acceptMetadataUpdate_ok ht
  · exact h.of_tables rfl rfl rfl rfl rfl
  · exact (h.acceptItems (t.isFrozen i.rowRevision) revision).of_tables rfl rfl rfl rfl rfl

/-! ### lifecycle commands -/

theorem targetState_ok {action : ItemAction} {state target : IntakeLifecycle}
    (h : targetState action state = .ok (some target)) :
    state ≠ .deleted ∧ (action = .delete → target = .deleted) := by
  cases action <;> cases state <;> grind [targetState]

theorem bare_withdrawn (s : Serving) (team : TeamId) (item : ItemId) (now : Time) :
    ({ s with
      pointers := withdrawPointers team item now s.pointers
      records := withdrawRecords team item s.records } : Serving).Bare (team, item) := by
  constructor
  · intro p hp howner
    rcases mem_updateWhere_cases hp with ⟨-, hc⟩ | ⟨q, -, -, rfl⟩
    · simp only [PointerRow.owner, Prod.mk.injEq] at howner
      simp only [howner, beq_self_eq_true, Bool.true_and, bne_eq_false_iff_eq] at hc
      rw [hc]
      exact PointerLifecycle.noConfusion
    · exact PointerLifecycle.noConfusion
  · intro r hr howner
    rcases mem_updateWhere_cases hr with ⟨-, hc⟩ | ⟨q, -, -, rfl⟩
    · simp only [VectorRecordRow.owner, Prod.mk.injEq] at howner
      simpa only [howner, beq_self_eq_true, Bool.true_and] using hc
    · simp [VectorRecordRow.isIndexed, VectorRecordRow.withdraw]

theorem fact_applied (hs : s.Keyed) (h : s.FactInvariant) {c : LifecycleCommand} {i : ItemRow} (hi : i ∈ s.items)
    (hkey : i.key = (c.team, c.item)) {target : IntakeLifecycle}
    (htarget : targetState c.action i.lifecycleState = .ok (some target)) : (c.applied i target s).FactInvariant := by
  obtain ⟨hlive, hdelete⟩ := targetState_ok htarget
  have hwithdrawn (cleanups : List (TeamId × ItemId)) (hclean : (c.team, c.item) ∈ cleanups → target = .deleted)
      (hother : ∀ q, q ≠ (c.team, c.item) → (q ∈ cleanups ↔ q ∈ s.deleteCleanups)) :
      ({ s with
        items := updateWhere (isAt i) (ItemRow.transition target c.now) s.items
        pointers := withdrawPointers c.team c.item c.now s.pointers
        records := withdrawRecords c.team c.item s.records
        deleteCleanups := cleanups } : Serving).FactInvariant := by
    have hat (j : ItemRow) (hj : isAt i j = true) : j.key = (c.team, c.item) := by
      simp only [isAt, Bool.and_eq_true, beq_iff_eq] at hj
      exact hj.1.1.trans hkey
    have hself : isAt i i = true := by simp [isAt]
    have hitem (j : ItemRow) (hj : j ∈ updateWhere (isAt i) (ItemRow.transition target c.now) s.items)
        (hjk : j.key = (c.team, c.item)) : j = ItemRow.transition target c.now i := by
      rcases mem_updateWhere_key hs.items hi (fun p hp => (hat p hp).trans hkey.symm) hself hj with ⟨-, hne⟩ | hj
      · exact absurd (hjk.trans hkey.symm) hne
      · exact hj
    refine h.beside (k := (c.team, c.item)) ⟨fun j hj => ?_, ?_, fun p hp => ?_, List.Subset.refl _, ?_, fun r hr _ => ?_,
      hother⟩ ⟨fun j hj hjk => ?_, fun j hj hjk hserving => ?_, fun hmem j hj hjk => ?_⟩
    · exact mem_updateWhere_of_ne (ItemRow.key_transition target c.now) hat hj
    · refine ⟨ItemRow.transition target c.now i, ?_, hkey⟩
      have hmem := mem_updateWhere_of_mem (c := isAt i) (f := ItemRow.transition target c.now) hi
      rwa [if_pos hself] at hmem
    · refine mem_updateWhere_of_ne (PointerRow.owner_withdraw c.now) (fun q hq => ?_) hp
      simp only [Bool.and_eq_true, beq_iff_eq] at hq
      exact Prod.ext hq.1.1 hq.1.2
    · have hreached (r : VectorRecordRow) (hr : (r.team == c.team && r.item == c.item && r.isIndexed) = true) :
          r.owner = (c.team, c.item) := by
        simp only [Bool.and_eq_true, beq_iff_eq] at hr
        exact Prod.ext hr.1.1 hr.1.2
      refine filter_updateWhere (fun r _ hr => ?_) (fun r _ hr => ?_)
      · rw [isIndexedBeside, hreached r hr, bne_self_eq_false, Bool.false_and]
      · have howner : r.withdraw.owner = (c.team, c.item) := hreached r hr
        rw [isIndexedBeside, howner, bne_self_eq_false, Bool.false_and]
    · rcases mem_updateWhere_cases hr with ⟨hr, -⟩ | ⟨q, hq, -, rfl⟩
      · exact ⟨r, hr, rfl⟩
      · exact ⟨q, hq, rfl⟩
    · have hbare := bare_withdrawn s c.team c.item c.now
      refine ⟨fun _ => ?_, fun revision hserving => ?_⟩
      · rw [hjk]
        exact ⟨hbare.pointers, hbare.records⟩
      · rw [hitem j hj hjk] at hserving
        cases hserving
    · rw [hitem j hj hjk] at hserving
      cases hserving
    · rw [hitem j hj hjk]
      exact hclean hmem
  have hnot : (c.team, c.item) ∉ s.deleteCleanups := fun hmem => hlive ((h.factAt _).cleaned hmem i hi hkey)
  unfold LifecycleCommand.applied
  split
  · rename_i haction
    refine (hwithdrawn (insertOrIgnore (fun q => q == (c.team, c.item)) (c.team, c.item) s.deleteCleanups)
      (fun _ => hdelete (beq_iff_eq.1 haction)) fun q hq => ⟨fun hmem => ?_, fun hmem => subset_insertOrIgnore hmem⟩).of_tables
      rfl rfl rfl rfl rfl
    rcases mem_insertOrIgnore hmem with hmem | ⟨he, -⟩
    · exact hmem
    · exact absurd he hq
  · exact (hwithdrawn s.deleteCleanups (fun hmem => absurd hmem hnot) fun _ _ => .rfl).of_tables rfl rfl rfl rfl rfl

/-! ### vectorize -/

theorem filter_upsert {c : Vectorize} {u : PlannedRecord} {l l' : List VectorRecordRow}
    (hl : (l.map VectorRecordRow.record).Nodup) (h : upsertVectorRecord c l u = .ok l') :
    l'.filter VectorRecordRow.isIndexed = l.filter VectorRecordRow.isIndexed := by
  obtain ⟨r, hr, hat, hrecord, rfl⟩ | ⟨-, rfl⟩ := upsertVectorRecord_ok h
  · refine filter_updateWhere (fun q hq hc => ?_) (fun q hq hc => ?_)
    · simp only [isPlanned, Bool.and_eq_true, beq_iff_eq] at hc
      obtain rfl := eq_of_key hl hq hr (hc.1.2.trans hrecord.symm)
      simp only [isAtCoordinate, Bool.and_eq_true, beq_iff_eq] at hat
      rw [VectorRecordRow.isIndexed, hat.1.2]
      exact Bool.and_false _
    · exact Bool.and_false _
  · rw [List.filter_append, List.filter_cons_of_neg (by simp [VectorRecordRow.isIndexed, Vectorize.recordRow]),
      List.filter_nil, List.append_nil]

theorem fact_vectorize (hs : s.Keyed) (hprov : s.Provenance) (h : s.FactInvariant) {c : Vectorize}
    (hc : s.vectorize c = .ok s') : s'.FactInvariant := by
  obtain ⟨⟨a, ha, hgate⟩, ⟨i, hi, hkey⟩, hfresh, namespaces, records, hrecords, rfl⟩ := vectorize_ok hc
  have hunused := hprov.not_isUsed hs ha hgate hfresh
  have hold (r : VectorRecordRow) (hr : r ∈ s.records) : r.generationArtifact ≠ c.generationArtifact :=
    fun he => hunused (he ▸ hprov.recordUsed r hr)
  have hwrites := writes_foldEach hs.records hold hrecords
  have hfilter : records.filter VectorRecordRow.isIndexed = s.records.filter VectorRecordRow.isIndexed := by
    refine (foldEach_preserves (P := fun l => (l.map VectorRecordRow.record).Nodup ∧
      l.filter VectorRecordRow.isIndexed = s.records.filter VectorRecordRow.isIndexed)
      (fun l l' u _ hl hu => ⟨(recordsKept_upsert hl.1 hu).1, (filter_upsert hl.1 hu).trans hl.2⟩) ⟨hs.records, rfl⟩
      hrecords).2
  refine h.congr rfl rfl rfl hfilter (fun r hr => ?_) rfl
  rcases hwrites.rows r hr with hr | hw
  · exact h.owned.records r hr
  · exact ⟨i, hi, hkey.trans (Prod.ext hw.written.team.symm hw.written.item.symm)⟩

/-! ### records out of the index -/

/-- An update that takes records out of the index, none of which an active pointer counts. -/
theorem FactInvariant.dropRecords (h : s.FactInvariant) {c : VectorRecordRow → Bool} {f : VectorRecordRow → VectorRecordRow}
    (howner : ∀ r, (f r).owner = r.owner) (hdrop : ∀ r, (f r).isIndexed = false)
    (hc : ∀ p ∈ s.pointers, p.lifecycleState = .active → ∀ r ∈ s.records, c r = true → p.counts r = false) :
    ({ s with records := updateWhere c f s.records } : Serving).FactInvariant := by
  have hfact {i : ItemRow} (hf : s.FactOf i) : ({ s with records := updateWhere c f s.records } : Serving).FactOf i := by
    refine ⟨fun hlife => ⟨(hf.withdrawn hlife).pointers, fun r hr ho => ?_⟩, fun revision hserving => ?_⟩
    · rcases mem_updateWhere_cases hr with ⟨hr, -⟩ | ⟨q, -, -, rfl⟩
      · exact (hf.withdrawn hlife).records r hr ho
      · exact hdrop q
    · obtain ⟨p, proof, hs⟩ := hf.supported revision hserving
      refine ⟨p, proof, hs.pointer, hs.owner, hs.active, hs.recorded, hs.last, hs.target, ?_⟩
      have hcount : (updateWhere c f s.records).countP p.counts = s.records.countP p.counts := by
        refine countP_updateWhere fun r hr hcr => ?_
        rw [hc p hs.pointer hs.active r hr hcr, PointerRow.counts, hdrop r, Bool.and_false]
      show ProofCounts proof ((updateWhere c f s.records).countP p.counts)
      rw [hcount]
      exact hs.counts
  refine ⟨fun k => ⟨fun i hi hkey => hfact ((h.factAt k).fact i hi hkey), (h.factAt k).serving, (h.factAt k).cleaned⟩,
    ⟨h.owned.pointers, fun r hr => ?_, h.owned.cleanups⟩⟩
  rcases mem_updateWhere_cases hr with ⟨hr, -⟩ | ⟨q, hq, -, rfl⟩
  · exact h.owned.records r hr
  · rw [howner]
    exact h.owned.records q hq

/-- The records of a retired generation are below every active pointer of their namespace. -/
theorem fact_softPurge (hs : s.Keyed) (hprov : s.Provenance) (h : s.FactInvariant) {i : RetirementIntent} {now : Time}
    (hp : s.softPurge i now = .ok s') : s'.FactInvariant := by
  obtain ⟨hi, rfl⟩ := softPurge_ok hp
  obtain ⟨q, hq, hqkey, hlt⟩ := hprov.retired i hi
  have hbelow (p : PointerRow) (hp : p ∈ s.pointers) (r : VectorRecordRow) (hr : r ∈ s.records)
      (hc : isOfGeneration i.team i.item i.nspace i.retiredIndexGeneration r = true) : p.counts r = false := by
    simp only [isOfGeneration, Bool.and_eq_true, beq_iff_eq] at hc
    obtain ⟨⟨⟨⟨hteam, hitem⟩, hnspace⟩, hgen⟩, -⟩ := hc
    rw [Bool.eq_false_iff]
    intro hcounts
    obtain ⟨howner, hartifact, hindex, -⟩ := PointerRow.counts_iff.1 hcounts
    have hpn : r.nspace = p.nspace := hprov.pointerPlace p hp r hr hartifact
    have hpkey : p.key = q.key := by
      rw [hqkey, ← hteam, ← hitem, ← hnspace, hpn]
      simp only [VectorRecordRow.owner, PointerRow.owner, Prod.mk.injEq] at howner
      simp only [PointerRow.key, howner]
    obtain rfl := eq_of_key hs.pointers hp hq hpkey
    omega
  have hdropped := h.dropRecords (f := VectorRecordRow.softDelete now) (fun _ => rfl) (fun _ => rfl)
    fun p hp _ r hr hc => hbelow p hp r hr hc
  exact hdropped.of_tables rfl rfl rfl rfl rfl

theorem fact_cleanupVectors (h : s.FactInvariant) {team : TeamId} {item : ItemId} {now : Time}
    (hc : s.cleanupVectors team item now = .ok s') : s'.FactInvariant := by
  obtain ⟨hclean, rfl⟩ := cleanupVectors_ok hc
  refine h.dropRecords (fun _ => rfl) (fun _ => rfl) fun p hp hactive r hr hof => ?_
  simp only [isOfItem, Bool.and_eq_true, beq_iff_eq] at hof
  rw [Bool.eq_false_iff]
  intro hcounts
  have howner : p.owner = (team, item) := (PointerRow.counts_iff.1 hcounts).1.symm.trans (Prod.ext hof.1 hof.2)
  obtain ⟨i, hi, hkey⟩ := h.owned.cleanups _ hclean
  have hdeleted := (h.factAt _).cleaned hclean i hi hkey
  have hbare := ((h.factAt _).fact i hi hkey).withdrawn (by rw [hdeleted]; exact IntakeLifecycle.noConfusion)
  exact hbare.pointers p hp (howner.trans hkey.symm) hactive

/-! ### publication -/

theorem factAt_of_supports {k : TeamId × ItemId} {revision : RevisionId} {p : PointerRow} {proof : ProofRow}
    (hitems : ∀ i ∈ s.items, i.key = k → i.lifecycleState = .active ∧ i.servingRevision = some revision)
    (hs : s.Supports k revision p proof) (hclean : k ∉ s.deleteCleanups) : s.FactAt k := by
  refine ⟨fun i hi hkey => ⟨fun hlife => absurd (hitems i hi hkey).1 hlife, fun r hserving => ?_⟩,
    fun i hi hkey _ => (hitems i hi hkey).1, fun hmem => absurd hmem hclean⟩
  obtain rfl : revision = r := Option.some.inj ((hitems i hi hkey).2.symm.trans hserving)
  rw [hkey]
  exact ⟨p, proof, hs⟩

theorem FactInvariant.not_cleaned (h : s.FactInvariant) {i : ItemRow} (hi : i ∈ s.items) (hlive : i.lifecycleState ≠ .deleted) :
    i.key ∉ s.deleteCleanups := fun hmem => hlive ((h.factAt i.key).cleaned hmem i hi rfl)

/-- The pointer stands where the proof says. -/
structure StandsAt (p : ProofRow) (q : PointerRow) : Prop where
  key : q.key = (p.team, p.item, p.nspace)
  active : q.lifecycleState = .active
  publication : q.publication = (p.indexGeneration, p.proof, p.generationArtifact)

theorem standsAt_promotePointer {p : ProofRow} {now : Time} (h : s.promotePointer p now = .ok s') :
    (∃ q ∈ s'.pointers, StandsAt p q) ∧
      (∀ q, q.owner ≠ (p.team, p.item) → (q ∈ s'.pointers ↔ q ∈ s.pointers)) ∧ s' = { s with pointers := s'.pointers } := by
  obtain ⟨-, rfl⟩ | ⟨q, hq, hkey, ⟨r, hr, hreached⟩, rfl⟩ := promotePointer_ok h
  · refine ⟨⟨p.firstPointer now, List.mem_append_right _ List.mem_cons_self, rfl, rfl, rfl⟩, fun q hq => ?_, rfl⟩
    rw [List.mem_append, List.mem_singleton]
    exact ⟨fun hor => hor.resolve_right fun he => hq (he ▸ rfl), .inl⟩
  · refine ⟨⟨PointerRow.promote p now r, ?_, ?_, rfl, rfl⟩, fun t ht => ?_, rfl⟩
    · have hmem := mem_updateWhere_of_mem (c := isSuperseded p q) (f := PointerRow.promote p now) hr
      rwa [if_pos hreached] at hmem
    · simp only [isSuperseded, Bool.and_eq_true, beq_iff_eq] at hreached
      exact hreached.1.1.trans hkey
    · refine mem_updateWhere_of_ne (PointerRow.owner_promote p now) (fun t htc => ?_) ht
      simp only [isSuperseded, Bool.and_eq_true, beq_iff_eq] at htc
      have htk := htc.1.1.trans hkey
      exact congrArg (fun x => (x.1, x.2.1)) htk

theorem items_publishRevision (hs : s.Keyed) {item : ItemId} {revision : RevisionId} {proof : ProofId}
    {nspace : NamespaceId} {generation : Nat} {c : Publish}
    (hserving : ∀ i ∈ s.items, i.servingRevision.isSome = true → i.lifecycleState = .active)
    (h : s.publishRevision item revision proof nspace generation c = .ok s') :
    (∃ i ∈ s.items, i.key = (c.team, item) ∧ i.lifecycleState = .active) ∧
      (∀ i, i.key ≠ (c.team, item) → (i ∈ s'.items ↔ i ∈ s.items)) ∧
      (∀ i ∈ s'.items, i.key = (c.team, item) → i.lifecycleState = .active ∧ i.servingRevision = some revision) ∧
      (∃ i ∈ s'.items, i.key = (c.team, item)) ∧
      ∃ transitions, s' = { s with items := s'.items, transitions := transitions } := by
  obtain ⟨i, hi, hkey, hserved, rfl⟩ | ⟨i, hi, hkey, hserves, rfl⟩ := publishRevision_ok h
  · have hactive := hserving i hi (by rw [hserved]; rfl)
    refine ⟨⟨i, hi, hkey, hactive⟩, fun _ _ => .rfl, fun j hj hjk => ?_, ⟨i, hi, hkey⟩, s'.transitions, rfl⟩
    rw [hs.eq_item hj hi (hjk.trans hkey.symm)]
    exact ⟨hactive, hserved⟩
  · have hreached (j : ItemRow) (hj : servesNext i revision j = true) : j.key = (c.team, item) := by
      simp only [servesNext, Bool.and_eq_true, beq_iff_eq] at hj
      exact hj.1.1.1.trans hkey
    have hactive : i.lifecycleState = .active := by
      simp only [servesNext, Bool.and_eq_true, beq_iff_eq] at hserves
      exact hserves.1.1.2
    refine ⟨⟨i, hi, hkey, hactive⟩, fun j hj => ?_, fun j hj hjk => ?_, ⟨ItemRow.serve revision i, ?_, hkey⟩, _, rfl⟩
    · exact mem_updateWhere_of_ne (ItemRow.key_serve revision) hreached hj
    · rcases mem_updateWhere_key hs.items hi (fun t ht => (hreached t ht).trans hkey.symm) hserves hj with ⟨-, hne⟩ | rfl
      · exact absurd (hjk.trans hkey.symm) hne
      · exact ⟨hactive, rfl⟩
    · have hmem := mem_updateWhere_of_mem (c := servesNext i revision) (f := ItemRow.serve revision) hi
      rwa [if_pos hserves] at hmem

/-- The index of a publication holds each of its records, if none of them was taken out before. -/
theorem countP_published (hprov : s.Provenance) {c : Publish} {k : VectorizeHandoff} (hk : k ∈ s.handoffs)
    (hteam : k.team = c.team) (hlive : ∀ r ∈ s.records, isOfHandoff c.team k r = true → r.deletedAt = none)
    {q : PointerRow} (hq : StandsAt (c.proofRow k (s.records.filter (isOfHandoff c.team k))) q) :
    (updateWhere (isOfHandoff c.team k) VectorRecordRow.index s.records).countP q.counts =
      (s.records.filter (isOfHandoff c.team k)).length := by
  obtain ⟨hkey, -, hpub⟩ := hq
  obtain ⟨hqteam, hqitem, -⟩ : q.team = c.team ∧ q.item = k.item ∧ q.nspace = k.nspace := by
    simpa only [PointerRow.key, Publish.proofRow, Prod.mk.injEq] using hkey
  obtain ⟨hqgen, -, hqartifact⟩ :
      q.activeIndexGeneration = k.indexGeneration ∧ q.lastProof = k.publicationProof ∧
        q.generationArtifact = k.generationArtifact := by
    simpa only [PointerRow.publication, Publish.proofRow, Prod.mk.injEq] using hpub
  unfold updateWhere
  rw [List.countP_map, ← List.countP_eq_length_filter]
  refine List.countP_congr fun r hr => ?_
  show q.counts (if isOfHandoff c.team k r then r.index else r) = true ↔ isOfHandoff c.team k r = true
  have hfetched := mem_fetched_iff hprov hk hr
  rw [hteam] at hfetched
  by_cases hof : isOfHandoff c.team k r = true
  · rw [if_pos hof, PointerRow.counts_iff]
    have hartifact := hfetched.1 hof
    have hw := hprov.writtenFor k hk r hr hartifact
    refine ⟨fun _ => hof, fun _ => ⟨?_, hartifact.trans hqartifact.symm, hw.indexGeneration.trans hqgen.symm, ?_⟩⟩
    · exact Prod.ext (hw.team.trans (hteam.trans hqteam.symm)) (hw.item.trans hqitem.symm)
    · have hdeleted : r.index.deletedAt = none := hlive r hr hof
      rw [VectorRecordRow.isIndexed, hdeleted]
      rfl
  · rw [if_neg hof]
    refine ⟨fun hcounts => ?_, fun ht => absurd ht hof⟩
    exact absurd (hfetched.2 ((PointerRow.counts_iff.1 hcounts).2.1.trans hqartifact)) hof

theorem fact_publish (hs : s.Keyed) (hprov : s.Provenance) (h : s.FactInvariant) {grace : Nat} {c : Publish}
    (hlive : ∀ k ∈ s.handoffs, k.execution = c.producer.execution → k.team = c.team →
      ∀ r ∈ s.records, isOfHandoff c.team k r = true → r.deletedAt = none)
    (hp : s.publish grace c = .ok s') : s'.FactInvariant := by
  obtain ⟨k, hk, hexecution, hteam, fetched, hfetched, hproof, -, itemEpoch, s₁, s₂, before, h₁, h₂, h₃⟩ := publish_ok hp
  obtain ⟨rfl, hlength, -, -⟩ := publishableRecords_ok hfetched
  have hkeyed := (advances_promotePointer (advances_inserted hs c itemEpoch hproof).keyed h₁).keyed
  obtain ⟨⟨q, hq, hstands⟩, hpointers, hs₁⟩ := standsAt_promotePointer h₁
  have hitems₁ : s₁.items = s.items := by rw [hs₁]; rfl
  have hkeyed₁ : ({ s₁ with
      namespaces := raiseNamespace c.team k.nspace k.indexGeneration s₁.namespaces } : Serving).Keyed := { hkeyed with }
  have hserving : ∀ i ∈ s₁.items, i.servingRevision.isSome = true → i.lifecycleState = .active :=
    fun i hi => (h.factAt i.key).serving i (hitems₁ ▸ hi) rfl
  obtain ⟨⟨i, hi, hkey, hactive⟩, hitems, hserved, hitem, transitions, hs₂⟩ := items_publishRevision hkeyed₁ hserving h₂
  replace hi : i ∈ s.items := hitems₁ ▸ hi
  have hpub : s₂.FactInvariant := by
    have hpointers₂ : s₂.pointers = s₁.pointers := by rw [hs₂]
    have hproofs₂ : s₂.proofs = s.proofs ++ [c.proofRow k (s.records.filter (isOfHandoff c.team k))] := by
      rw [hs₂, hs₁]; rfl
    have hrecords₂ : s₂.records = updateWhere (isOfHandoff c.team k) VectorRecordRow.index s.records := by
      rw [hs₂, hs₁]; rfl
    have hclean₂ : s₂.deleteCleanups = s.deleteCleanups := by rw [hs₂, hs₁]; rfl
    have hreached (r : VectorRecordRow) (hr : r ∈ s.records) (hc : isOfHandoff c.team k r = true) :
        r.owner = (c.team, k.item) := by
      have hartifact := (mem_fetched_iff hprov hk hr).1 (by rw [hteam]; exact hc)
      have hw := hprov.writtenFor k hk r hr hartifact
      exact Prod.ext (hw.team.trans hteam) hw.item
    have hqk : q.owner = (c.team, k.item) := congrArg (fun x => (x.1, x.2.1)) hstands.key
    refine h.beside (k := (c.team, k.item)) ⟨fun j hj => ?_, hitem, fun p hne => ?_, ?_, ?_, fun r hr hne => ?_,
      fun _ _ => by rw [hclean₂]⟩ (factAt_of_supports (p := q) hserved ⟨hpointers₂ ▸ hq, hqk, hstands.active,
        hproofs₂ ▸ List.mem_append_right _ List.mem_cons_self, ?_, ?_, ?_⟩ ?_)
    · rw [hitems j hj]
      show j ∈ s₁.items ↔ j ∈ s.items
      rw [hitems₁]
    · rw [hpointers₂]
      exact hpointers p hne
    · rw [hproofs₂]
      exact List.subset_append_left _ _
    · rw [hrecords₂]
      refine filter_updateWhere (fun r hr hc => ?_) (fun r hr hc => ?_)
      · rw [isIndexedBeside, hreached r hr hc, bne_self_eq_false, Bool.false_and]
      · have howner : r.index.owner = (c.team, k.item) := hreached r hr hc
        rw [isIndexedBeside, howner, bne_self_eq_false, Bool.false_and]
    · rw [hrecords₂] at hr
      rcases mem_updateWhere_cases hr with ⟨hr, -⟩ | ⟨t, ht, -, rfl⟩
      · exact ⟨r, hr, rfl⟩
      · exact ⟨t, ht, rfl⟩
    · exact congrArg (fun x => x.2.1) hstands.publication
    · have hkeys := hstands.key
      have hpubs := hstands.publication
      simp only [PointerRow.key, PointerRow.publication, Prod.mk.injEq] at hkeys hpubs
      exact ⟨hkeys.1.symm, hkeys.2.1.symm, rfl, hpubs.1.symm, hpubs.2.2.symm⟩
    · rw [hrecords₂, countP_published hprov hk hteam (hlive k hk hexecution hteam) hstands, hlength]
      exact ⟨rfl, rfl, rfl⟩
    · rw [hclean₂, ← hkey]
      exact h.not_cleaned hi (by rw [hactive]; exact IntakeLifecycle.noConfusion)
  obtain rfl | ⟨q, -, j, -, -, rfl⟩ := retireSuperseded_ok h₃
  · exact hpub
  · exact hpub.of_tables rfl rfl rfl rfl rfl

/-! ### index rebuild -/

theorem countP_cloned {team : TeamId} {p : IndexRebuildPlan} {sources l : List VectorRecordRow} {q : PointerRow}
    (hfresh : ∀ r ∈ l, r.generationArtifact ≠ p.generationArtifact) (howner : q.owner = (team, p.item))
    (hartifact : q.generationArtifact = p.generationArtifact) (hgen : q.activeIndexGeneration = p.nextIndexGeneration) :
    (l ++ sources.map (p.clone team)).countP q.counts = sources.length := by
  have hold : l.countP q.counts = 0 := by
    rw [List.countP_eq_zero]
    exact fun r hr hcounts => hfresh r hr ((PointerRow.counts_iff.1 hcounts).2.1.trans hartifact)
  have hnew : (sources.map (p.clone team)).countP q.counts = sources.length := by
    rw [List.countP_map, List.countP_eq_length]
    exact fun r _ => PointerRow.counts_iff.2 ⟨howner.symm, hartifact.symm, hgen.symm, rfl⟩
  rw [List.countP_append, hold, hnew, Nat.zero_add]

theorem fact_cutOver (hs : s.Keyed) (hprov : s.Provenance) (h : s.FactInvariant) {c : IndexRebuild} {p : IndexRebuildPlan}
    {i : ItemRow} (hi : i ∈ s.items) (htarget : p.IsTarget c.team i) {sources records : List VectorRecordRow}
    {namespaces : List NamespaceRow} (hclone : cloneRecords c.team p sources s.records = .ok records)
    (hartifact : ∀ a ∈ s.artifacts, a.artifact ≠ p.generationArtifact)
    (hpointer : ∃ q ∈ s.pointers, p.isFrozen c.team q = true) :
    (c.cutOver p sources records namespaces s).FactInvariant := by
  obtain ⟨rfl, -⟩ := cloneRecords_ok hclone
  obtain ⟨q, hq, hfrozen⟩ := hpointer
  obtain ⟨hkey, hfacts⟩ := htarget
  have hactive : i.lifecycleState = .active := congrArg ItemFacts.lifecycleState hfacts
  have hserving : i.servingRevision = some p.revision := congrArg ItemFacts.servingRevision hfacts
  have howner (t : PointerRow) (ht : p.isFrozen c.team t = true) : t.owner = (c.team, p.item) := by
    simp only [IndexRebuildPlan.isFrozen, Bool.and_eq_true, beq_iff_eq] at ht
    have htk := ht.1.1.1.1.1
    exact congrArg (fun x => (x.1, x.2.1)) htk
  have hqk := howner q hfrozen
  have hfresh (r : VectorRecordRow) (hr : r ∈ s.records) : r.generationArtifact ≠ p.generationArtifact := by
    obtain ⟨a, ha, hra⟩ := hprov.mem_of_isUsed (hprov.recordUsed r hr)
    rw [← hra]
    exact hartifact a ha
  have hmoved := mem_updateWhere_of_mem (c := p.isFrozen c.team)
    (f := PointerRow.promote (p.proofRow c.team c.producer sources) c.now) hq
  rw [if_pos hfrozen] at hmoved
  refine h.beside (k := (c.team, p.item)) ⟨fun _ _ => .rfl, ⟨i, hi, hkey⟩, fun t ht => ?_, List.subset_append_left _ _, ?_,
    fun r hr hne => ?_, fun _ _ => .rfl⟩ (@factAt_of_supports _ _ p.revision _ _ (fun j hj hjk => ?_)
      ⟨hmoved, hqk, rfl, List.mem_append_right _ List.mem_cons_self, rfl, ?_, ?_⟩ ?_)
  · exact mem_updateWhere_of_ne (PointerRow.owner_promote _ _) howner ht
  · show (s.records ++ sources.map (p.clone c.team)).filter _ = s.records.filter _
    have hclones : (sources.map (p.clone c.team)).filter (isIndexedBeside (c.team, p.item)) = [] := by
      rw [List.filter_eq_nil_iff]
      intro r hr
      obtain ⟨t, -, rfl⟩ := List.mem_map.1 hr
      have hro : (p.clone c.team t).owner = (c.team, p.item) := rfl
      simp [isIndexedBeside, hro]
    rw [List.filter_append, hclones, List.append_nil]
  · rcases List.mem_append.1 hr with hr | hr
    · exact ⟨r, hr, rfl⟩
    · obtain ⟨t, -, rfl⟩ := List.mem_map.1 hr
      exact absurd rfl hne
  · obtain rfl := hs.eq_item hj hi (hjk.trans hkey.symm)
    exact ⟨hactive, hserving⟩
  · have hteam : q.team = c.team := congrArg Prod.fst hqk
    have hitem : q.item = p.item := congrArg Prod.snd hqk
    exact ⟨hteam.symm, hitem.symm, rfl, rfl, rfl⟩
  · have hcount : (s.records ++ sources.map (p.clone c.team)).countP
        (PointerRow.promote (p.proofRow c.team c.producer sources) c.now q).counts = sources.length :=
      countP_cloned hfresh hqk rfl rfl
    show ProofCounts _ ((s.records ++ sources.map (p.clone c.team)).countP _)
    rw [hcount]
    exact ⟨rfl, rfl, rfl⟩
  · rw [← hkey]
    exact h.not_cleaned hi (by rw [hactive]; exact IntakeLifecycle.noConfusion)

theorem fact_commitPlan (hs : s.Keyed) (hprov : s.Provenance) (h : s.FactInvariant) {grace : Nat} {c : IndexRebuild}
    {p : IndexRebuildPlan} (hp : s.commitPlan grace c p = .ok s') : s'.FactInvariant := by
  obtain ⟨i, hi, htarget, sources, records, namespaces, -, hclone, hartifact, -, hpointer, s₁, h₁, rfl⟩ := commitPlan_ok hp
  obtain ⟨q, -, -, -, j, -, rfl⟩ := scheduleRetirement_ok h₁
  have hcut : (c.cutOver p sources records namespaces s).FactInvariant :=
    fact_cutOver hs hprov h hi htarget hclone hartifact hpointer
  exact hcut.of_tables rfl rfl rfl rfl rfl

theorem fact_indexRebuild (hs : s.Keyed) (hprov : s.Provenance) (h : s.FactInvariant) {grace : Nat} {c : IndexRebuild}
    (hc : s.indexRebuild grace c = .ok s') : s'.FactInvariant := by
  refine (foldEach_preserves (P := fun d => d.Keyed ∧ d.Provenance ∧ d.FactInvariant) (fun d d' p _ hd hp => ?_)
    ⟨hs, hprov, h⟩ hc).2.2
  exact ⟨(advances_commitPlan hd.1 hp).keyed, provenance_commitPlan hd.2.1 hp, fact_commitPlan hd.1 hd.2.1 hd.2.2 hp⟩

/-! ### the human-review decision -/

theorem fact_approve (h : s.FactInvariant) (team : TeamId) (snapshot : SnapshotId) :
    (s.applyHumanReview team snapshot .approve).FactInvariant := by
  refine h.updateItems ItemRow.key_approve fun i hi hc => ?_
  simp only [Bool.and_eq_true, beq_iff_eq] at hc
  have hnone : i.servingRevision.isSome = true → False := fun hserving => by
    rw [(h.factAt i.key).serving i hi rfl hserving] at hc
    exact IntakeLifecycle.noConfusion hc.1
  refine ⟨⟨fun hlife => absurd rfl hlife, fun revision hserving => (hnone ?_).elim⟩, fun _ => rfl, fun hdeleted => ?_⟩
  · rw [show i.servingRevision = some revision from hserving]
    rfl
  · rw [hdeleted] at hc
    exact IntakeLifecycle.noConfusion hc.1

theorem fact_reject (h : s.FactInvariant) {team : TeamId} {snapshot : SnapshotId}
    (hbare : ∀ i ∈ s.items, i.lifecycleState = .active → s.isMember team snapshot i = true → s.Bare i.key) :
    (s.applyHumanReview team snapshot .reject).FactInvariant := by
  refine h.updateItems ItemRow.key_reject fun i hi hc => ?_
  simp only [Bool.and_eq_true, beq_iff_eq] at hc
  refine ⟨⟨fun _ => hbare i hi hc.1 hc.2, fun revision hserving => ?_⟩, fun hserving => ?_, fun hdeleted => ?_⟩
  · cases hserving
  · cases hserving
  · rw [hdeleted] at hc
    exact IntakeLifecycle.noConfusion hc.1

end Serving

end KnowledgeBase
