import KnowledgeBase.Serving.Namespaces

/-!
# Ownership of index generations

Which artifact the records and the proofs of an (Item, namespace, generation) belong to. Vectorize claims a number
through the counter of the namespace and publishes it later; a rebuild takes the number after the pointer's. As long as
no rebuild takes a number that a handoff has claimed, each number has one owner, and a handoff that waits for its
publication keeps the records it was accepted with.
-/

namespace KnowledgeBase

open Checked Relational

abbrev Slot := TeamId × ItemId × NamespaceId × Nat

def VectorRecordRow.slot (r : VectorRecordRow) : Slot := (r.team, r.item, r.nspace, r.indexGeneration)
def ProofRow.slot (p : ProofRow) : Slot := (p.team, p.item, p.nspace, p.indexGeneration)
def VectorizeHandoff.slot (h : VectorizeHandoff) : Slot := (h.team, h.item, h.nspace, h.indexGeneration)
def PointerRow.slot (q : PointerRow) : Slot := (q.team, q.item, q.nspace, q.activeIndexGeneration)

namespace Serving

/-- Every record and every proof of one slot is of one generation artifact. -/
structure OneArtifact (s : Serving) : Prop where
  records : ∀ r ∈ s.records, ∀ q ∈ s.records, r.slot = q.slot → r.generationArtifact = q.generationArtifact
  proofs : ∀ p ∈ s.proofs, ∀ q ∈ s.proofs, p.slot = q.slot → p.generationArtifact = q.generationArtifact
  proved : ∀ r ∈ s.records, ∀ p ∈ s.proofs, r.slot = p.slot → r.generationArtifact = p.generationArtifact

/-- No proof names the publication of the handoff. -/
def Unpublished (s : Serving) (h : VectorizeHandoff) : Prop := ∀ p ∈ s.proofs, p.proof ≠ h.publicationProof

/-- The records of an artifact, in the order they were written. -/
def ofArtifact (s : Serving) (artifact : ArtifactId) : List VectorRecordRow :=
  s.records.filter fun r => r.generationArtifact == artifact

/-! ### the invariant -/

/-- Who owns a slot. -/
structure SlotOwners (s : Serving) : Prop where
  records : ∀ r ∈ s.records, (∃ h ∈ s.handoffs, h.slot = r.slot ∧ h.generationArtifact = r.generationArtifact) ∨
    ∃ p ∈ s.proofs, p.slot = r.slot ∧ p.generationArtifact = r.generationArtifact
  handoffs : (s.handoffs.map VectorizeHandoff.slot).Nodup
  proofs : (s.proofs.map ProofRow.slot).Nodup
  agree : ∀ h ∈ s.handoffs, ∀ p ∈ s.proofs, h.slot = p.slot →
    p.generationArtifact = h.generationArtifact ∧ p.proof = h.publicationProof
  published : ∀ p ∈ s.proofs, ∃ q ∈ s.pointers, q.key = (p.team, p.item, p.nspace) ∧ p.indexGeneration ≤ q.activeIndexGeneration
  pointed : ∀ q ∈ s.pointers, ∃ p ∈ s.proofs, p.slot = q.slot

/-- What a waiting handoff needs to be published. -/
structure Waiting (s : Serving) : Prop where
  withdrawn : ∀ h ∈ s.handoffs, s.Unpublished h → ∀ r ∈ s.ofArtifact h.generationArtifact, r.publicationState = .withdrawn
  held : ∀ h ∈ s.handoffs, (s.ofArtifact h.generationArtifact).map VectorRecordRow.member = h.vectorRecords
  required : ∀ h ∈ s.handoffs, h.vectorRecords ≠ []
  manifests : ∀ m ∈ s.manifests, ∃ p ∈ s.proofs, p.proof = m.proof ∧ p.slot = m.key
  transitions : ∀ t ∈ s.transitions, ∀ item revision proof producer, t.fence = .publication item revision proof producer →
    ∃ p ∈ s.proofs, p.proof = proof
  live : ∀ i ∈ s.items, i.lifecycleState ≠ .deleted → i.deletedAt = none

variable {s s' : Serving}

theorem SlotOwners.oneArtifact (h : s.SlotOwners) : s.OneArtifact := by
  have hproved (r : VectorRecordRow) (hr : r ∈ s.records) (p : ProofRow) (hp : p ∈ s.proofs) (hslot : r.slot = p.slot) :
      r.generationArtifact = p.generationArtifact := by
    rcases h.records r hr with ⟨k, hk, hks, hka⟩ | ⟨q, hq, hqs, hqa⟩
    · rw [← hka, (h.agree k hk p hp (hks.trans hslot)).1]
    · rw [← hqa, eq_of_key h.proofs hq hp (hqs.trans hslot)]
  refine ⟨fun r hr q hq hslot => ?_, fun p hp q hq hslot => ?_, hproved⟩
  · rcases h.records q hq with ⟨k, hk, hks, hka⟩ | ⟨p, hp, hps, hpa⟩
    · rcases h.records r hr with ⟨j, hj, hjs, hja⟩ | ⟨p, hp, hps, hpa⟩
      · rw [← hja, ← hka, eq_of_key h.handoffs hj hk (hjs.trans (hslot.trans hks.symm))]
      · rw [← hpa, ← hka]
        exact (h.agree k hk p hp (hks.trans (hslot.symm.trans hps.symm))).1
    · rw [hproved r hr p hp (hslot.trans hps.symm), hpa]
  · rw [eq_of_key h.proofs hp hq hslot]

theorem slotOwners_empty : Serving.empty.SlotOwners :=
  ⟨fun _ hr => absurd hr List.not_mem_nil, List.nodup_nil, List.nodup_nil, fun _ hh => absurd hh List.not_mem_nil,
    fun _ hp => absurd hp List.not_mem_nil, fun _ hq => absurd hq List.not_mem_nil⟩

theorem waiting_empty : Serving.empty.Waiting :=
  ⟨fun _ hh => absurd hh List.not_mem_nil, fun _ hh => absurd hh List.not_mem_nil, fun _ hh => absurd hh List.not_mem_nil,
    fun _ hm => absurd hm List.not_mem_nil, fun _ ht => absurd ht List.not_mem_nil, fun _ hi => absurd hi List.not_mem_nil⟩

/-! ### writers of no generation -/

/-- An update that moves no record and changes no content. -/
structure KeepsPlace (f : VectorRecordRow → VectorRecordRow) : Prop where
  slot : ∀ r, (f r).slot = r.slot
  artifact : ∀ r, (f r).generationArtifact = r.generationArtifact
  member : ∀ r, (f r).member = r.member
  source : ∀ r, (f r).revision = r.revision ∧ (f r).layerA = r.layerA

/-- What a writer of no generation does. -/
structure Quiet (s s' : Serving) : Prop where
  ledgers : s.SameLedgers s'
  records : ∃ f, KeepsPlace f ∧ (∀ r, r.publicationState = .withdrawn → (f r).publicationState = .withdrawn) ∧
    s'.records = s.records.map f
  pointers : s'.pointers.map PointerRow.slot = s.pointers.map PointerRow.slot
  transitions : ∀ t ∈ s'.transitions, t ∈ s.transitions ∨
    ∀ item revision proof producer, t.fence ≠ .publication item revision proof producer
  live : (∀ i ∈ s.items, i.lifecycleState ≠ .deleted → i.deletedAt = none) →
    ∀ i ∈ s'.items, i.lifecycleState ≠ .deleted → i.deletedAt = none

theorem keepsPlace_id : KeepsPlace id := ⟨fun _ => rfl, fun _ => rfl, fun _ => rfl, fun _ => ⟨rfl, rfl⟩⟩

theorem Quiet.refl (s : Serving) : s.Quiet s :=
  ⟨.refl s, ⟨id, keepsPlace_id, fun _ h => h, (List.map_id _).symm⟩, rfl, fun _ ht => .inl ht, id⟩

theorem Quiet.trans {s'' : Serving} (h : s.Quiet s') (h' : s'.Quiet s'') : s.Quiet s'' := by
  obtain ⟨f, hf, hfw, hrecords⟩ := h.records
  obtain ⟨g, hg, hgw, hrecords'⟩ := h'.records
  refine ⟨h.ledgers.trans h'.ledgers, ⟨g ∘ f, ?_, fun r hr => hgw _ (hfw r hr), ?_⟩, h'.pointers.trans h.pointers,
    fun t ht => ?_, fun hi => h'.live (h.live hi)⟩
  · exact ⟨fun r => (hg.slot _).trans (hf.slot r), fun r => (hg.artifact _).trans (hf.artifact r),
      fun r => (hg.member _).trans (hf.member r),
      fun r => ⟨(hg.source _).1.trans (hf.source r).1, (hg.source _).2.trans (hf.source r).2⟩⟩
  · rw [hrecords', hrecords, List.map_map]
  · rcases h'.transitions t ht with ht | hne
    · exact h.transitions t ht
    · exact .inr hne

theorem keepsPlace_ite {f : VectorRecordRow → VectorRecordRow} (hf : KeepsPlace f) (c : VectorRecordRow → Bool) :
    KeepsPlace fun r => if c r then f r else r := by
  refine ⟨fun r => ?_, fun r => ?_, fun r => ?_, fun r => ?_⟩
  · show (if c r then f r else r).slot = r.slot
    split
    · exact hf.slot r
    · rfl
  · show (if c r then f r else r).generationArtifact = r.generationArtifact
    split
    · exact hf.artifact r
    · rfl
  · show (if c r then f r else r).member = r.member
    split
    · exact hf.member r
    · rfl
  · show (if c r then f r else r).revision = r.revision ∧ (if c r then f r else r).layerA = r.layerA
    split
    · exact hf.source r
    · exact ⟨rfl, rfl⟩

theorem quietRecords {f : VectorRecordRow → VectorRecordRow} (hf : KeepsPlace f)
    (hw : ∀ r, r.publicationState = .withdrawn → (f r).publicationState = .withdrawn) (c : VectorRecordRow → Bool)
    (l : List VectorRecordRow) :
    ∃ g, KeepsPlace g ∧ (∀ r, r.publicationState = .withdrawn → (g r).publicationState = .withdrawn) ∧
      updateWhere c f l = l.map g := by
  refine ⟨_, keepsPlace_ite hf c, fun r hr => ?_, rfl⟩
  show (if c r then f r else r).publicationState = _
  split
  · exact hw r hr
  · exact hr

theorem sameRecords (l : List VectorRecordRow) :
    ∃ g, KeepsPlace g ∧ (∀ r, r.publicationState = .withdrawn → (g r).publicationState = .withdrawn) ∧ l = l.map g :=
  ⟨id, keepsPlace_id, fun _ h => h, (List.map_id _).symm⟩

theorem keepsPlace_withdraw : KeepsPlace VectorRecordRow.withdraw :=
  ⟨fun _ => rfl, fun _ => rfl, fun _ => rfl, fun _ => ⟨rfl, rfl⟩⟩
theorem keepsPlace_softDelete (now : Time) : KeepsPlace (VectorRecordRow.softDelete now) :=
  ⟨fun _ => rfl, fun _ => rfl, fun _ => rfl, fun _ => ⟨rfl, rfl⟩⟩
theorem keepsPlace_erase (now : Time) : KeepsPlace (VectorRecordRow.erase now) :=
  ⟨fun _ => rfl, fun _ => rfl, fun _ => rfl, fun _ => ⟨rfl, rfl⟩⟩

theorem transitions_append {l : List TransitionRow} {t : TransitionRow}
    (h : ∀ item revision proof producer, t.fence ≠ .publication item revision proof producer) :
    ∀ q ∈ l ++ [t], q ∈ l ∨ ∀ item revision proof producer, q.fence ≠ .publication item revision proof producer := by
  intro q hq
  rcases List.mem_append.1 hq with hq | hq
  · exact .inl hq
  · rw [List.mem_singleton.1 hq]
    exact .inr h

theorem live_updateWhere {c : ItemRow → Bool} {f : ItemRow → ItemRow} {l : List ItemRow}
    (hf : ∀ i, c i = true → i.lifecycleState ≠ .deleted → (f i).lifecycleState ≠ .deleted → (f i).deletedAt = i.deletedAt)
    (hc : ∀ i, c i = true → (f i).lifecycleState ≠ .deleted → i.lifecycleState ≠ .deleted)
    (h : ∀ i ∈ l, i.lifecycleState ≠ .deleted → i.deletedAt = none) :
    ∀ i ∈ updateWhere c f l, i.lifecycleState ≠ .deleted → i.deletedAt = none := by
  intro i hi hlive
  rcases mem_updateWhere_cases hi with ⟨hi, -⟩ | ⟨j, hj, hcj, rfl⟩
  · exact h i hi hlive
  · have hlive' := hc j hcj hlive
    rw [hf j hcj hlive' hlive]
    exact h j hj hlive'

theorem live_append {l : List ItemRow} {i : ItemRow} (hi : i.deletedAt = none)
    (h : ∀ j ∈ l, j.lifecycleState ≠ .deleted → j.deletedAt = none) :
    ∀ j ∈ l ++ [i], j.lifecycleState ≠ .deleted → j.deletedAt = none := by
  intro j hj
  rcases List.mem_append.1 hj with hj | hj
  · exact h j hj
  · rw [List.mem_singleton.1 hj]
    exact fun _ => hi

theorem live_itemsOffered (c : AcceptSnapshot) (h : ∀ i ∈ s.items, i.lifecycleState ≠ .deleted → i.deletedAt = none) :
    ∀ i ∈ c.itemsOffered s, i.lifecycleState ≠ .deleted → i.deletedAt = none := by
  intro i hi
  rcases mem_insertOrIgnore hi with hi | ⟨rfl, -⟩
  · exact h i hi
  · exact fun _ => rfl

theorem slots_withdrawPointers (team : TeamId) (item : ItemId) (now : Time) (l : List PointerRow) :
    (withdrawPointers team item now l).map PointerRow.slot = l.map PointerRow.slot :=
  keys_updateWhere (f := PointerRow.withdraw now) (fun _ => rfl) l

theorem quiet_applied {c : LifecycleCommand} {i : ItemRow} {target : IntakeLifecycle}
    (ht : targetState c.action i.lifecycleState = .ok (some target)) : s.Quiet (c.applied i target s) := by
  have hnot : i.lifecycleState ≠ .deleted := by
    intro hd
    rw [hd] at ht
    cases hc : c.action <;> rw [hc] at ht <;> cases ht
  have hlive (h : ∀ j ∈ s.items, j.lifecycleState ≠ .deleted → j.deletedAt = none) :
      ∀ j ∈ updateWhere (isAt i) (ItemRow.transition target c.now) s.items,
        j.lifecycleState ≠ .deleted → j.deletedAt = none := by
    refine live_updateWhere (fun j _ _ hj => ?_) (fun j hj _ => ?_) h
    · have hne : (target == IntakeLifecycle.deleted) = false := beq_eq_false_iff_ne.2 hj
      show (if target == IntakeLifecycle.deleted then some c.now else j.deletedAt) = _
      rw [hne]
      rfl
    · simp only [isAt, Bool.and_eq_true, beq_iff_eq] at hj
      rw [hj.2]
      exact hnot
  unfold LifecycleCommand.applied
  by_cases hd : (c.action == .delete) = true
  · simp only [hd, ↓reduceIte]
    exact ⟨⟨rfl, rfl, rfl, rfl⟩, quietRecords keepsPlace_withdraw (fun _ _ => rfl) _ _, slots_withdrawPointers _ _ _ _,
      transitions_append fun _ _ _ _ he => TransitionFence.noConfusion he, hlive⟩
  · simp only [hd]
    exact ⟨⟨rfl, rfl, rfl, rfl⟩, quietRecords keepsPlace_withdraw (fun _ _ => rfl) _ _, slots_withdrawPointers _ _ _ _,
      transitions_append fun _ _ _ _ he => TransitionFence.noConfusion he, hlive⟩

theorem live_accept {c : ItemRow → Bool} (revision : RevisionId) {l : List ItemRow}
    (h : ∀ i ∈ l, i.lifecycleState ≠ .deleted → i.deletedAt = none) :
    ∀ i ∈ updateWhere c (ItemRow.accept revision) l, i.lifecycleState ≠ .deleted → i.deletedAt = none :=
  live_updateWhere (fun _ _ _ _ => rfl) (fun _ _ hi => hi) h

theorem quiet_transact {grace : Nat} {t : ServingStep} (ht : t.isIndexing = false) (h : t.transact grace s = .ok s') :
    s.Quiet s' := by
  have hsame := sameLedgers_transact ht h
  cases t with
  | vectorize c => cases ht
  | publish c => cases ht
  | indexRebuild c => cases ht
  | acceptSnapshot c =>
    obtain ⟨before, -, -, ⟨-, rfl⟩ | ⟨-, -, rfl⟩⟩ := acceptSnapshot_ok h
    · exact ⟨hsame, sameRecords _, rfl, fun _ ht => .inl ht, live_itemsOffered c⟩
    · exact ⟨hsame, sameRecords _, rfl, transitions_append fun _ _ _ _ he => TransitionFence.noConfusion he,
        fun hi => live_accept c.revision (live_itemsOffered c hi)⟩
  | acceptCollection c =>
    refine foldEach_preserves (P := s.Quiet) (fun d d' m _ hd hm => hd.trans ?_) (.refl s) h
    obtain ⟨-, rfl⟩ := insertMember_ok hm
    exact ⟨⟨rfl, rfl, rfl, rfl⟩, sameRecords _, rfl, transitions_append fun _ _ _ _ he => TransitionFence.noConfusion he,
      live_append rfl⟩
  | acceptRebuild t producer =>
    obtain ⟨i, -, -, -, rfl⟩ := acceptRebuild_ok h
    exact ⟨hsame, sameRecords _, rfl, transitions_append fun _ _ _ _ he => TransitionFence.noConfusion he, id⟩
  | acceptMetadataUpdate t metadataRevision producer =>
    obtain ⟨i, -, -, -, rfl | ⟨revision, rfl⟩⟩ := acceptMetadataUpdate_ok h
    · exact ⟨hsame, sameRecords _, rfl, transitions_append fun _ _ _ _ he => TransitionFence.noConfusion he, id⟩
    · exact ⟨hsame, sameRecords _, rfl, transitions_append fun _ _ _ _ he => TransitionFence.noConfusion he,
        live_accept revision⟩
  | lifecycle c =>
    obtain rfl | ⟨i, -, -, target, htarget, rfl⟩ := applyLifecycle_ok h
    · exact .refl s'
    · exact quiet_applied htarget
  | humanReview team snapshot decision =>
    obtain rfl := Except.ok.inj h
    cases decision with
    | approve =>
      refine ⟨hsame, sameRecords _, rfl, fun _ ht => .inl ht, live_updateWhere (fun _ _ _ _ => rfl) fun i hi _ => ?_⟩
      simp only [Bool.and_eq_true, beq_iff_eq] at hi
      rw [hi.1]
      exact fun he => IntakeLifecycle.noConfusion he
    | reject =>
      refine ⟨hsame, sameRecords _, rfl, fun _ ht => .inl ht, live_updateWhere (fun _ _ _ _ => rfl) fun i hi _ => ?_⟩
      simp only [Bool.and_eq_true, beq_iff_eq] at hi
      rw [hi.1]
      exact fun he => IntakeLifecycle.noConfusion he
  | acceptConstruct a =>
    obtain ⟨-, -, rfl⟩ := acceptConstruct_ok h
    exact ⟨hsame, sameRecords _, rfl, fun _ ht => .inl ht, id⟩
  | discoverRetirement team item nspace retired =>
    obtain ⟨p, -, -, -, i, -, rfl⟩ := discoverRetirement_ok h
    exact ⟨hsame, sameRecords _, rfl, fun _ ht => .inl ht, id⟩
  | softPurge i now =>
    obtain ⟨-, rfl⟩ := softPurge_ok h
    exact ⟨hsame, quietRecords (keepsPlace_softDelete now) (fun _ hr => hr) _ _, rfl, fun _ ht => .inl ht, id⟩
  | purgeGeneration c =>
    obtain rfl := purgeGeneration_ok h
    exact ⟨hsame, quietRecords (keepsPlace_softDelete c.now) (fun _ hr => hr) _ _, rfl, fun _ ht => .inl ht, id⟩
  | cleanupVectors team item now =>
    obtain ⟨-, rfl⟩ := cleanupVectors_ok h
    exact ⟨hsame, quietRecords (keepsPlace_erase now) (fun _ _ => rfl) _ _, rfl, fun _ ht => .inl ht, id⟩

theorem exists_slot_of_map_eq {l l' : List PointerRow} (h : l'.map PointerRow.slot = l.map PointerRow.slot) {q : PointerRow}
    (hq : q ∈ l) : ∃ p ∈ l', p.slot = q.slot := by
  have hmem : q.slot ∈ l'.map PointerRow.slot := by
    rw [h]
    exact List.mem_map.2 ⟨q, hq, rfl⟩
  exact List.mem_map.1 hmem

theorem SlotOwners.quiet (h : s.SlotOwners) (hq : s.Quiet s') : s'.SlotOwners := by
  obtain ⟨f, hf, -, hrecords⟩ := hq.records
  constructor
  · intro r hr
    rw [hrecords] at hr
    obtain ⟨q, hmem, rfl⟩ := List.mem_map.1 hr
    rw [hf.slot, hf.artifact, hq.ledgers.handoffs, hq.ledgers.proofs]
    exact h.records q hmem
  · rw [hq.ledgers.handoffs]
    exact h.handoffs
  · rw [hq.ledgers.proofs]
    exact h.proofs
  · rw [hq.ledgers.handoffs, hq.ledgers.proofs]
    exact h.agree
  · rw [hq.ledgers.proofs]
    intro p hp
    obtain ⟨q, hmem, hkey, hle⟩ := h.published p hp
    obtain ⟨q', hmem', hslot⟩ := exists_slot_of_map_eq hq.pointers hmem
    simp only [PointerRow.slot, Prod.mk.injEq] at hslot
    refine ⟨q', hmem', ?_, by omega⟩
    simp only [PointerRow.key, Prod.mk.injEq] at hkey ⊢
    exact ⟨hslot.1.trans hkey.1, hslot.2.1.trans hkey.2.1, hslot.2.2.1.trans hkey.2.2⟩
  · intro q hmem
    obtain ⟨q', hmem', hslot⟩ := exists_slot_of_map_eq hq.pointers.symm hmem
    obtain ⟨p, hp, hps⟩ := h.pointed q' hmem'
    rw [hq.ledgers.proofs]
    exact ⟨p, hp, hps.trans hslot⟩

theorem ofArtifact_map {f : VectorRecordRow → VectorRecordRow} (hf : KeepsPlace f) (hr : s'.records = s.records.map f)
    (artifact : ArtifactId) : s'.ofArtifact artifact = (s.ofArtifact artifact).map f := by
  unfold ofArtifact
  rw [hr, List.filter_map]
  congr 1
  refine List.filter_congr fun r _ => ?_
  show ((f r).generationArtifact == artifact) = _
  rw [hf.artifact]

theorem Waiting.quiet (h : s.Waiting) (hq : s.Quiet s') : s'.Waiting := by
  obtain ⟨f, hf, hw, hrecords⟩ := hq.records
  constructor
  · rw [hq.ledgers.handoffs]
    intro k hk hu r hr
    rw [ofArtifact_map hf hrecords] at hr
    obtain ⟨q, hmem, rfl⟩ := List.mem_map.1 hr
    refine hw q (h.withdrawn k hk (fun p hp => hu p ?_) q hmem)
    rw [hq.ledgers.proofs]
    exact hp
  · rw [hq.ledgers.handoffs]
    intro k hk
    rw [ofArtifact_map hf hrecords, List.map_map, ← h.held k hk]
    exact List.map_congr_left fun r _ => hf.member r
  · rw [hq.ledgers.handoffs]
    exact h.required
  · rw [hq.ledgers.manifests, hq.ledgers.proofs]
    exact h.manifests
  · intro t ht item revision proof producer hfence
    rw [hq.ledgers.proofs]
    rcases hq.transitions t ht with ht | hne
    · exact h.transitions t ht item revision proof producer hfence
    · exact absurd hfence (hne item revision proof producer)
  · exact hq.live h.live

/-! ### vectorize -/

/-- A stage has drawn distinct ids for its required units, and has one. -/
def Vectorize.IsDrawn (c : Vectorize) : Prop := c.records ≠ [] ∧ (c.records.map PlannedRecord.record).Nodup

theorem foldEach_drawn {c : Vectorize} {old l : List VectorRecordRow} (hnodup : (c.records.map PlannedRecord.record).Nodup)
    (hold : ∀ r ∈ old, r.generationArtifact ≠ c.generationArtifact)
    (h : foldEach (upsertVectorRecord c) old c.records = .ok l) : l = old ++ c.records.map c.recordRow := by
  have hfold (us written : List PlannedRecord) (hsplit : written ++ us = c.records) (l : List VectorRecordRow)
      (hl : foldEach (upsertVectorRecord c) (old ++ written.map c.recordRow) us = .ok l) :
      l = old ++ c.records.map c.recordRow := by
    induction us generalizing written with
    | nil =>
      rw [List.append_nil] at hsplit
      rw [← hsplit]
      exact (Except.ok.inj hl).symm
    | cons u us ih =>
      unfold foldEach at hl
      obtain ⟨d, hd, hl⟩ := bind_ok_iff.1 hl
      obtain ⟨r, hr, hat, hrecord, -⟩ | ⟨-, rfl⟩ := upsertVectorRecord_ok hd
      · rcases List.mem_append.1 hr with hr | hr
        · simp only [isAtCoordinate, Bool.and_eq_true, beq_iff_eq] at hat
          exact absurd hat.1.1.1.1.1.1.2 (hold r hr)
        · obtain ⟨v, hv, rfl⟩ := List.mem_map.1 hr
          rw [← hsplit, List.map_append, List.nodup_append] at hnodup
          exact absurd hrecord (hnodup.2.2 _ (List.mem_map.2 ⟨v, hv, rfl⟩) _ List.mem_cons_self)
      · refine ih (written ++ [u]) ?_ ?_
        · rw [List.append_assoc]
          exact hsplit
        · rw [List.map_append, ← List.append_assoc]
          exact hl
  exact hfold c.records [] rfl l (by rw [List.map_nil, List.append_nil]; exact h)

theorem vectorize_appends (hs : s.Keyed) (hp : s.Provenance) {c : Vectorize} (hc : c.IsDrawn) (h : s.vectorize c = .ok s') :
    (∀ r ∈ s.records, r.generationArtifact ≠ c.generationArtifact) ∧
      (∀ k ∈ s.handoffs, k.generationArtifact ≠ c.generationArtifact) ∧
      s'.records = s.records ++ c.records.map c.recordRow ∧ s'.handoffs = s.handoffs ++ [c.handoff] ∧
      s'.proofs = s.proofs ∧ s'.manifests = s.manifests ∧ s'.pointers = s.pointers ∧ s'.transitions = s.transitions ∧
      s'.items = s.items := by
  obtain ⟨⟨a, ha, hgate⟩, -, hfresh, namespaces, records, hrecords, rfl⟩ := vectorize_ok h
  have hunused := hp.not_isUsed hs ha hgate hfresh
  have hold (r : VectorRecordRow) (hr : r ∈ s.records) : r.generationArtifact ≠ c.generationArtifact := by
    intro he
    have hused := hp.recordUsed r hr
    rw [he] at hused
    exact hunused hused
  exact ⟨hold, fun k hk he => hunused (.inl ⟨k, hk, he⟩), foldEach_drawn hc.2 hold hrecords, rfl, rfl, rfl, rfl, rfl, rfl⟩

theorem Counted.not_claimed (hs : s.Counted) {c : Vectorize} (h : s.vectorize c = .ok s') {generation : Nat}
    (hcovers : Covers s.namespaces c.team c.nspace generation) : generation < c.indexGeneration := by
  obtain ⟨l, hl, ⟨n, hn, hclaim⟩, -⟩ := vectorize_claims h
  obtain ⟨m, hm, hnspace, -, hle⟩ := hcovers
  simp only [isClaimable, Bool.and_eq_true, beq_iff_eq] at hclaim
  have hmem : m ∈ l := by
    rcases hl with ⟨-, rfl⟩ | ⟨-, -, rfl⟩
    · exact hm
    · exact List.mem_append_left _ hm
  obtain rfl := eq_of_key (hl.keyed hs.keyed).nspaces hmem hn (hnspace.trans hclaim.1.1.1.symm)
  omega

theorem slotOwners_vectorize (hs : s.Keyed) (hp : s.Provenance) (hn : s.Counted) (h : s.SlotOwners) {c : Vectorize}
    (hc : c.IsDrawn) (ht : s.vectorize c = .ok s') : s'.SlotOwners := by
  obtain ⟨-, -, hrecords, hhandoffs, hproofs, -, hpointers, -, -⟩ := vectorize_appends hs hp hc ht
  have hfresh (slot : Slot) (hslot : slot = c.handoff.slot)
      (hcovers : Covers s.namespaces slot.1 slot.2.2.1 slot.2.2.2) : False := by
    subst hslot
    exact Nat.lt_irrefl _ (hn.not_claimed ht hcovers)
  constructor
  · rw [hrecords, hhandoffs, hproofs]
    intro r hr
    rcases List.mem_append.1 hr with hr | hr
    · rcases h.records r hr with ⟨k, hk, hks⟩ | hproved
      · exact .inl ⟨k, List.mem_append_left _ hk, hks⟩
      · exact .inr hproved
    · obtain ⟨u, -, rfl⟩ := List.mem_map.1 hr
      exact .inl ⟨c.handoff, List.mem_append_right _ List.mem_cons_self, rfl, rfl⟩
  · rw [hhandoffs]
    exact nodup_keys_append h.handoffs fun k hk he => hfresh k.slot he (hn.handoffs k hk)
  · rw [hproofs]
    exact h.proofs
  · rw [hhandoffs, hproofs]
    intro k hk p hp hslot
    rcases List.mem_append.1 hk with hk | hk
    · exact h.agree k hk p hp hslot
    · rw [List.mem_singleton.1 hk] at hslot
      exact (hfresh p.slot hslot.symm (hn.proofs p hp)).elim
  · rw [hproofs, hpointers]
    exact h.published
  · rw [hproofs, hpointers]
    exact h.pointed

theorem ofArtifact_append {l : List VectorRecordRow} (hr : s'.records = s.records ++ l) (artifact : ArtifactId) :
    s'.ofArtifact artifact = s.ofArtifact artifact ++ l.filter fun r => r.generationArtifact == artifact := by
  unfold ofArtifact
  rw [hr, List.filter_append]

theorem waiting_vectorize (hs : s.Keyed) (hp : s.Provenance) (h : s.Waiting) {c : Vectorize}
    (hc : c.IsDrawn) (ht : s.vectorize c = .ok s') : s'.Waiting := by
  obtain ⟨hold, hother, hrecords, hhandoffs, hproofs, hmanifests, -, htransitions, hitems⟩ := vectorize_appends hs hp hc ht
  have hkept (k : VectorizeHandoff) (hk : k ∈ s.handoffs) :
      s'.ofArtifact k.generationArtifact = s.ofArtifact k.generationArtifact := by
    rw [ofArtifact_append hrecords, List.filter_eq_nil_iff.2 ?_, List.append_nil]
    intro r hr he
    obtain ⟨u, -, rfl⟩ := List.mem_map.1 hr
    exact hother k hk (beq_iff_eq.1 he).symm
  have hnew : s'.ofArtifact c.generationArtifact = c.records.map c.recordRow := by
    have hnone : s.ofArtifact c.generationArtifact = [] :=
      List.filter_eq_nil_iff.2 fun r hr he => hold r hr (beq_iff_eq.1 he)
    rw [ofArtifact_append hrecords, hnone, List.nil_append]
    refine List.filter_eq_self.2 fun r hr => ?_
    obtain ⟨u, -, rfl⟩ := List.mem_map.1 hr
    exact beq_self_eq_true _
  have hcase (k : VectorizeHandoff) (hk : k ∈ s.handoffs ++ [c.handoff]) : k ∈ s.handoffs ∨ k = c.handoff :=
    (List.mem_append.1 hk).imp_right List.mem_singleton.1
  constructor
  · rw [hhandoffs]
    intro k hk hu r hr
    rcases hcase k hk with hk | rfl
    · rw [hkept k hk] at hr
      refine h.withdrawn k hk (fun p hp => hu p ?_) r hr
      rw [hproofs]
      exact hp
    · replace hr : r ∈ s'.ofArtifact c.generationArtifact := hr
      rw [hnew] at hr
      obtain ⟨u, -, rfl⟩ := List.mem_map.1 hr
      rfl
  · rw [hhandoffs]
    intro k hk
    rcases hcase k hk with hk | rfl
    · rw [hkept k hk]
      exact h.held k hk
    · show (s'.ofArtifact c.generationArtifact).map VectorRecordRow.member = _
      rw [hnew, List.map_map]
      rfl
  · rw [hhandoffs]
    intro k hk
    rcases hcase k hk with hk | rfl
    · exact h.required k hk
    · exact fun he => hc.1 (List.map_eq_nil_iff.1 he)
  · rw [hmanifests, hproofs]
    exact h.manifests
  · rw [htransitions, hproofs]
    exact h.transitions
  · rw [hitems]
    exact h.live

/-! ### publication -/

/-- The pointer of a proof is the only one that changes, and moves up to the slot of the proof. -/
structure Moved (p : ProofRow) (l l' : List PointerRow) : Prop where
  below : ∀ q ∈ l, q.key = (p.team, p.item, p.nspace) → q.activeIndexGeneration < p.indexGeneration
  reached : ∃ q ∈ l', q.slot = p.slot
  cases : ∀ q ∈ l', q.slot = p.slot ∨ q ∈ l
  kept : ∀ q ∈ l, q.key ≠ (p.team, p.item, p.nspace) → q ∈ l'

theorem moved_updateWhere {c : PointerRow → Bool} {p : ProofRow} {now : Time} {l : List PointerRow}
    (hl : (l.map PointerRow.key).Nodup)
    (hc : ∀ q, c q = true → q.key = (p.team, p.item, p.nspace) ∧ q.activeIndexGeneration < p.indexGeneration)
    {r : PointerRow} (hr : r ∈ l) (hcr : c r = true) : Moved p l (updateWhere c (PointerRow.promote p now) l) := by
  have hslot (x : PointerRow) (hx : c x = true) : (PointerRow.promote p now x).slot = p.slot := by
    have hxk := (hc x hx).1
    simp only [PointerRow.key, Prod.mk.injEq] at hxk
    simp only [PointerRow.slot, ProofRow.slot, PointerRow.promote, hxk]
  refine ⟨fun x hx he => ?_, ⟨PointerRow.promote p now r, mem_updateWhere.2 ⟨r, hr, if_pos hcr⟩, hslot r hcr⟩,
    fun x hx => ?_, fun x hx hne => mem_updateWhere.2 ⟨x, hx, if_neg fun h => hne (hc x h).1⟩⟩
  · obtain rfl := eq_of_key hl hx hr (he.trans (hc r hcr).1.symm)
    exact (hc x hcr).2
  · rcases mem_updateWhere_cases hx with ⟨hx, -⟩ | ⟨y, hy, h, rfl⟩
    · exact .inr hx
    · exact .inl (hslot y h)

theorem Promoted.moved {p : ProofRow} {now : Time} {l l' : List PointerRow} (h : Promoted p now l l')
    (hl : (l.map PointerRow.key).Nodup) : Moved p l l' := by
  rcases h with ⟨hnone, rfl⟩ | ⟨q, hq, hkey, ⟨r, hr, hsup⟩, rfl⟩
  · refine ⟨fun q hq he => absurd he (hnone q hq), ⟨p.firstPointer now, List.mem_append_right _ List.mem_cons_self, rfl⟩,
      fun q hq => ?_, fun q hq _ => List.mem_append_left _ hq⟩
    rcases List.mem_append.1 hq with hq | hq
    · exact .inr hq
    · rw [List.mem_singleton.1 hq]
      exact .inl rfl
  · refine moved_updateWhere hl (fun x hx => ?_) hr hsup
    simp only [isSuperseded, Bool.and_eq_true, beq_iff_eq, decide_eq_true_eq] at hx
    exact ⟨hx.1.1.trans hkey, hx.2⟩

/-- Proofs with the pointers that name them, when one more proof is written and the pointer moves to it. -/
theorem SlotOwners.moved (h : s.SlotOwners) {p : ProofRow} (hproofs : s'.proofs = s.proofs ++ [p])
    (hp : Moved p s.pointers s'.pointers) :
    (s'.proofs.map ProofRow.slot).Nodup ∧
      (∀ p ∈ s'.proofs, ∃ q ∈ s'.pointers, q.key = (p.team, p.item, p.nspace) ∧ p.indexGeneration ≤ q.activeIndexGeneration) ∧
      ∀ q ∈ s'.pointers, ∃ p ∈ s'.proofs, p.slot = q.slot := by
  obtain ⟨q₀, hq₀, hslot₀⟩ := hp.reached
  have hkey₀ : q₀.key = (p.team, p.item, p.nspace) ∧ q₀.activeIndexGeneration = p.indexGeneration := by
    simp only [PointerRow.slot, ProofRow.slot, Prod.mk.injEq] at hslot₀
    simp only [PointerRow.key, Prod.mk.injEq]
    exact ⟨⟨hslot₀.1, hslot₀.2.1, hslot₀.2.2.1⟩, hslot₀.2.2.2⟩
  refine ⟨?_, fun r hr => ?_, fun q hq => ?_⟩
  · rw [hproofs]
    refine nodup_keys_append h.proofs fun r hr he => ?_
    obtain ⟨q, hq, hkey, hle⟩ := h.published r hr
    simp only [ProofRow.slot, Prod.mk.injEq] at he
    rw [he.1, he.2.1, he.2.2.1] at hkey
    have hlt := hp.below q hq hkey
    omega
  · rw [hproofs] at hr
    rcases List.mem_append.1 hr with hr | hr
    · obtain ⟨q, hq, hkey, hle⟩ := h.published r hr
      by_cases hsame : q.key = (p.team, p.item, p.nspace)
      · have hlt := hp.below q hq hsame
        refine ⟨q₀, hq₀, ?_, ?_⟩
        · rw [hkey₀.1, ← hsame, hkey]
        · rw [hkey₀.2]
          omega
      · exact ⟨q, hp.kept q hq hsame, hkey, hle⟩
    · rw [List.mem_singleton.1 hr]
      exact ⟨q₀, hq₀, hkey₀.1, hkey₀.2.ge⟩
  · rw [hproofs]
    rcases hp.cases q hq with hslot | hq
    · exact ⟨p, List.mem_append_right _ List.mem_cons_self, hslot.symm⟩
    · obtain ⟨r, hr, hrs⟩ := h.pointed q hq
      exact ⟨r, List.mem_append_left _ hr, hrs⟩

theorem provedRow_slot {c : Publish} {k : VectorizeHandoff} (hteam : k.team = c.team) : (c.provedRow k s).slot = k.slot := by
  show (c.team, k.item, k.nspace, k.indexGeneration) = (k.team, k.item, k.nspace, k.indexGeneration)
  rw [hteam]

theorem slotOwners_publish (hs : s.Keyed) (h : s.SlotOwners) {grace : Nat} {c : Publish}
    (ht : s.publish grace c = .ok s') : s'.SlotOwners := by
  obtain ⟨k, hw⟩ := publish_writes ht
  obtain ⟨hnodup, hpublished, hpointed⟩ := h.moved hw.proofs (hw.pointers.moved hs.pointers)
  have hslot := provedRow_slot (s := s) hw.team
  refine ⟨fun r hr => ?_, ?_, hnodup, fun j hj p hp he => ?_, hpublished, hpointed⟩
  · rw [hw.records] at hr
    rw [hw.handoffs, hw.proofs]
    obtain ⟨q, hq, hqr⟩ : ∃ q ∈ s.records, q.slot = r.slot ∧ q.generationArtifact = r.generationArtifact := by
      rcases mem_updateWhere_cases hr with ⟨hr, -⟩ | ⟨q, hq, -, rfl⟩
      · exact ⟨r, hr, rfl, rfl⟩
      · exact ⟨q, hq, rfl, rfl⟩
    rw [← hqr.1, ← hqr.2]
    rcases h.records q hq with hheld | ⟨p, hp, hps⟩
    · exact .inl hheld
    · exact .inr ⟨p, List.mem_append_left _ hp, hps⟩
  · rw [hw.handoffs]
    exact h.handoffs
  · rw [hw.handoffs] at hj
    rw [hw.proofs] at hp
    rcases List.mem_append.1 hp with hp | hp
    · exact h.agree j hj p hp he
    · rw [List.mem_singleton.1 hp] at he ⊢
      obtain rfl := eq_of_key h.handoffs hj hw.handoff (he.trans hslot)
      exact ⟨rfl, rfl⟩

theorem handoff_of_artifact (hs : s.Keyed) (hp : s.Provenance) {j k : VectorizeHandoff} (hj : j ∈ s.handoffs)
    (hk : k ∈ s.handoffs) (he : j.generationArtifact = k.generationArtifact) : j = k := by
  obtain ⟨a, ha, haj, hexecution, -⟩ := hp.handoffArtifact j hj
  obtain ⟨b, hb, hbk, hexecution', -⟩ := hp.handoffArtifact k hk
  obtain rfl := eq_of_key hs.artifacts ha hb (haj.trans (he.trans hbk.symm))
  exact eq_of_key hs.handoffs hj hk (hexecution.symm.trans hexecution')

theorem keepsPlace_index : KeepsPlace VectorRecordRow.index :=
  ⟨fun _ => rfl, fun _ => rfl, fun _ => rfl, fun _ => ⟨rfl, rfl⟩⟩

theorem live_published {c : Publish} {k : VectorizeHandoff} (hw : Published c k s s')
    (h : ∀ i ∈ s.items, i.lifecycleState ≠ .deleted → i.deletedAt = none) :
    ∀ i ∈ s'.items, i.lifecycleState ≠ .deleted → i.deletedAt = none := by
  rcases hw.items with he | ⟨p, revision, he⟩
  · rw [he]
    exact h
  · rw [he]
    exact live_updateWhere (fun _ _ _ _ => rfl) (fun _ _ hi => hi) h

theorem waiting_publish (hs : s.Keyed) (hp : s.Provenance) (h : s.Waiting) {grace : Nat} {c : Publish}
    (ht : s.publish grace c = .ok s') : s'.Waiting := by
  obtain ⟨k, hw⟩ := publish_writes ht
  have hplace := keepsPlace_ite keepsPlace_index (isOfHandoff c.team k)
  have hrecords : s'.records = s.records.map fun r => if isOfHandoff c.team k r then r.index else r := hw.records
  have hproved : c.provedRow k s ∈ s'.proofs := by
    rw [hw.proofs]
    exact List.mem_append_right _ List.mem_cons_self
  have hold (p : ProofRow) (hmem : p ∈ s.proofs) : p ∈ s'.proofs := by
    rw [hw.proofs]
    exact List.mem_append_left _ hmem
  constructor
  · rw [hw.handoffs]
    intro j hj hu r hr
    rw [ofArtifact_map hplace hrecords] at hr
    obtain ⟨q, hq, rfl⟩ := List.mem_map.1 hr
    have hne : isOfHandoff c.team k q = false := by
      refine Bool.eq_false_iff.2 fun hof => ?_
      rw [← hw.team, mem_fetched_iff hp hw.handoff (List.mem_filter.1 hq).1] at hof
      obtain rfl := handoff_of_artifact hs hp hj hw.handoff ((beq_iff_eq.1 (List.mem_filter.1 hq).2).symm.trans hof)
      exact hu _ hproved rfl
    show (if isOfHandoff c.team k q then q.index else q).publicationState = _
    rw [hne]
    exact h.withdrawn j hj (fun p hmem => hu p (hold p hmem)) q hq
  · rw [hw.handoffs]
    intro j hj
    rw [ofArtifact_map hplace hrecords, List.map_map, ← h.held j hj]
    exact List.map_congr_left fun r _ => hplace.member r
  · rw [hw.handoffs]
    exact h.required
  · obtain ⟨itemEpoch, hmanifests⟩ := hw.manifests
    rw [hmanifests]
    intro m hm
    rcases List.mem_append.1 hm with hm | hm
    · obtain ⟨p, hmem, hpm⟩ := h.manifests m hm
      exact ⟨p, hold p hmem, hpm⟩
    · rw [List.mem_singleton.1 hm]
      exact ⟨_, hproved, rfl, rfl⟩
  · intro t htr item revision proof producer hfence
    rcases hw.transitions with he | ⟨q, hq, he⟩
    · rw [he] at htr
      obtain ⟨p, hmem, hpp⟩ := h.transitions t htr item revision proof producer hfence
      exact ⟨p, hold p hmem, hpp⟩
    · rw [he] at htr
      rcases List.mem_append.1 htr with htr | htr
      · obtain ⟨p, hmem, hpp⟩ := h.transitions t htr item revision proof producer hfence
        exact ⟨p, hold p hmem, hpp⟩
      · rw [List.mem_singleton.1 htr, hq] at hfence
        exact ⟨_, hproved, (TransitionFence.publication.inj hfence).2.2.1⟩
  · exact live_published hw h.live

/-! ### index rebuild -/

/-- The number a plan takes is claimed by no handoff. -/
def IndexRebuildPlan.isUnclaimed (team : TeamId) (s : Serving) (p : IndexRebuildPlan) : Bool :=
  s.handoffs.all fun h => h.slot != (team, p.item, p.nspace, p.nextIndexGeneration)

/-- The index tables before and after one plan of a rebuild. -/
structure Rebuilt (c : IndexRebuild) (p : IndexRebuildPlan) (s s' : Serving) : Prop where
  artifact : ∀ a ∈ s.artifacts, a.artifact ≠ p.generationArtifact
  records : s'.records = s.records ++ (s.records.filter (p.isSource c.team)).map (p.clone c.team)
  proofs : s'.proofs = s.proofs ++ [p.proofRow c.team c.producer (s.records.filter (p.isSource c.team))]
  pointer : ∃ q ∈ s.pointers, p.isFrozen c.team q = true
  pointers : s'.pointers = updateWhere (p.isFrozen c.team)
    (PointerRow.promote (p.proofRow c.team c.producer (s.records.filter (p.isSource c.team))) c.now) s.pointers
  handoffs : s'.handoffs = s.handoffs
  manifests : s'.manifests = s.manifests
  transitions : ∃ t : TransitionRow, t.fence = .indexRebuild c.producer p.oldIndexGeneration p.nextIndexGeneration ∧
    s'.transitions = s.transitions ++ [t]
  items : s'.items = s.items

theorem commitPlan_writes {grace : Nat} {c : IndexRebuild} {p : IndexRebuildPlan} (h : s.commitPlan grace c p = .ok s') :
    Rebuilt c p s s' := by
  obtain ⟨i, -, -, sources, records, namespaces, rfl, hclone, hartifact, -, hpointer, s₁, h₁, rfl⟩ := commitPlan_ok h
  obtain ⟨q, -, -, -, j, -, rfl⟩ := scheduleRetirement_ok h₁
  exact ⟨hartifact, (cloneRecords_ok hclone).1, rfl, hpointer, rfl, rfl, rfl, ⟨_, rfl, rfl⟩, rfl⟩

theorem slotOwners_commitPlan (hs : s.Keyed) (h : s.SlotOwners) {grace : Nat} {c : IndexRebuild} {p : IndexRebuildPlan}
    (hc : p.isUnclaimed c.team s = true) (ht : s.commitPlan grace c p = .ok s') : s'.SlotOwners := by
  have hw := commitPlan_writes ht
  obtain ⟨q, hq, hfrozen⟩ := hw.pointer
  have hfrozenOf (x : PointerRow) (hx : p.isFrozen c.team x = true) :
      x.key = (c.team, p.item, p.nspace) ∧ x.activeIndexGeneration < p.nextIndexGeneration := by
    simp only [IndexRebuildPlan.isFrozen, Bool.and_eq_true, beq_iff_eq] at hx
    refine ⟨hx.1.1.1.1.1, ?_⟩
    rw [hx.1.1.1.2]
    exact Nat.lt_succ_self _
  have hmoved : Moved (p.proofRow c.team c.producer (s.records.filter (p.isSource c.team))) s.pointers s'.pointers := by
    rw [hw.pointers]
    exact moved_updateWhere hs.pointers hfrozenOf hq hfrozen
  obtain ⟨hnodup, hpublished, hpointed⟩ := h.moved hw.proofs hmoved
  refine ⟨fun r hr => ?_, ?_, hnodup, fun k hk r hr he => ?_, hpublished, hpointed⟩
  · rw [hw.records] at hr
    rw [hw.handoffs, hw.proofs]
    rcases List.mem_append.1 hr with hr | hr
    · rcases h.records r hr with hheld | ⟨x, hx, hxs⟩
      · exact .inl hheld
      · exact .inr ⟨x, List.mem_append_left _ hx, hxs⟩
    · obtain ⟨x, -, rfl⟩ := List.mem_map.1 hr
      exact .inr ⟨_, List.mem_append_right _ List.mem_cons_self, rfl, rfl⟩
  · rw [hw.handoffs]
    exact h.handoffs
  · rw [hw.handoffs] at hk
    rw [hw.proofs] at hr
    rcases List.mem_append.1 hr with hr | hr
    · exact h.agree k hk r hr he
    · rw [List.mem_singleton.1 hr] at he
      have hne := List.all_eq_true.1 hc k hk
      rw [bne_iff_ne] at hne
      exact absurd he hne

theorem waiting_commitPlan (hp : s.Provenance) (h : s.Waiting) {grace : Nat} {c : IndexRebuild} {p : IndexRebuildPlan}
    (ht : s.commitPlan grace c p = .ok s') : s'.Waiting := by
  have hw := commitPlan_writes ht
  have hkept (k : VectorizeHandoff) (hk : k ∈ s.handoffs) :
      s'.ofArtifact k.generationArtifact = s.ofArtifact k.generationArtifact := by
    rw [ofArtifact_append hw.records, List.filter_eq_nil_iff.2 ?_, List.append_nil]
    intro r hr he
    obtain ⟨x, -, rfl⟩ := List.mem_map.1 hr
    obtain ⟨a, ha, hak, -⟩ := hp.handoffArtifact k hk
    exact hw.artifact a ha (hak.trans (beq_iff_eq.1 he).symm)
  have hold (x : ProofRow) (hx : x ∈ s.proofs) : x ∈ s'.proofs := by
    rw [hw.proofs]
    exact List.mem_append_left _ hx
  constructor
  · rw [hw.handoffs]
    intro k hk hu r hr
    rw [hkept k hk] at hr
    exact h.withdrawn k hk (fun x hx => hu x (hold x hx)) r hr
  · rw [hw.handoffs]
    intro k hk
    rw [hkept k hk]
    exact h.held k hk
  · rw [hw.handoffs]
    exact h.required
  · rw [hw.manifests]
    intro m hm
    obtain ⟨x, hx, hxm⟩ := h.manifests m hm
    exact ⟨x, hold x hx, hxm⟩
  · obtain ⟨q, hq, he⟩ := hw.transitions
    rw [he]
    intro t htr item revision proof producer hfence
    rcases List.mem_append.1 htr with htr | htr
    · obtain ⟨x, hx, hxp⟩ := h.transitions t htr item revision proof producer hfence
      exact ⟨x, hold x hx, hxp⟩
    · rw [List.mem_singleton.1 htr, hq] at hfence
      cases hfence
  · rw [hw.items]
    exact h.live

end Serving

end KnowledgeBase
