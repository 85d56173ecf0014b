import KnowledgeBase.Serving.Effects

/-!
# Keys and places

Every writer keeps the tables keyed, keeps each vector record in its place (namespace, artifact and generation) and
moves each active pointer only to a greater generation: with the same generation a pointer names the same proof and
the same artifact. The relation is reflexive and transitive, so it holds between any two states of a run.
-/

namespace KnowledgeBase

open Checked Relational

/-! ### keys of updated rows -/

@[simp] theorem ItemRow.key_accept (revision : RevisionId) (i : ItemRow) : (ItemRow.accept revision i).key = i.key := rfl
@[simp] theorem ItemRow.key_transition (target : IntakeLifecycle) (now : Time) (i : ItemRow) :
    (ItemRow.transition target now i).key = i.key := rfl
@[simp] theorem ItemRow.key_approve (i : ItemRow) : i.approve.key = i.key := rfl
@[simp] theorem ItemRow.key_reject (i : ItemRow) : i.reject.key = i.key := rfl
@[simp] theorem ItemRow.key_serve (revision : RevisionId) (i : ItemRow) : (ItemRow.serve revision i).key = i.key := rfl
@[simp] theorem PointerRow.key_withdraw (now : Time) (p : PointerRow) : (PointerRow.withdraw now p).key = p.key := rfl
@[simp] theorem PointerRow.key_promote (p : ProofRow) (now : Time) (q : PointerRow) :
    (PointerRow.promote p now q).key = q.key := rfl

/-- What no writer changes of a record: where it is stored. -/
def VectorRecordRow.place (r : VectorRecordRow) : VectorRecordId × TeamId × NamespaceId × ArtifactId × Nat :=
  (r.record, r.team, r.nspace, r.generationArtifact, r.indexGeneration)

@[simp] theorem VectorRecordRow.place_softDelete (now : Time) (r : VectorRecordRow) :
    (VectorRecordRow.softDelete now r).place = r.place := rfl
@[simp] theorem VectorRecordRow.place_erase (now : Time) (r : VectorRecordRow) :
    (VectorRecordRow.erase now r).place = r.place := rfl

/-- The publication a pointer names. -/
def PointerRow.publication (p : PointerRow) : Nat × ProofId × ArtifactId :=
  (p.activeIndexGeneration, p.lastProof, p.generationArtifact)

/-! ### tables -/

def RecordsKept (l l' : List VectorRecordRow) : Prop := ∀ r ∈ l, ∃ q ∈ l', q.place = r.place

/-- A pointer stays, with its publication or with a greater generation. -/
def PointersAdvance (l l' : List PointerRow) : Prop :=
  ∀ p ∈ l, ∃ q ∈ l', q.key = p.key ∧
    (q.publication = p.publication ∨ p.activeIndexGeneration < q.activeIndexGeneration)

theorem RecordsKept.refl (l : List VectorRecordRow) : RecordsKept l l := fun r hr => ⟨r, hr, rfl⟩

theorem RecordsKept.trans {l l' l'' : List VectorRecordRow} (h : RecordsKept l l') (h' : RecordsKept l' l'') :
    RecordsKept l l'' := by
  intro r hr
  obtain ⟨q, hq, hplace⟩ := h r hr
  obtain ⟨p, hp, hplace'⟩ := h' q hq
  exact ⟨p, hp, hplace'.trans hplace⟩

theorem recordsKept_append (l : List VectorRecordRow) (r : VectorRecordRow) : RecordsKept l (l ++ [r]) :=
  fun q hq => ⟨q, List.mem_append_left _ hq, rfl⟩

theorem recordsKept_updateWhere {c : VectorRecordRow → Bool} {f : VectorRecordRow → VectorRecordRow}
    {l : List VectorRecordRow} (hf : ∀ r ∈ l, c r = true → (f r).place = r.place) :
    RecordsKept l (updateWhere c f l) := by
  intro r hr
  refine ⟨_, mem_updateWhere_of_mem hr, ?_⟩
  split
  · rename_i hc
    exact hf r hr hc
  · rfl

theorem PointersAdvance.refl (l : List PointerRow) : PointersAdvance l l := fun p hp => ⟨p, hp, rfl, .inl rfl⟩

theorem PointersAdvance.trans {l l' l'' : List PointerRow} (h : PointersAdvance l l') (h' : PointersAdvance l' l'') :
    PointersAdvance l l'' := by
  intro p hp
  obtain ⟨q, hq, hkey, hpub⟩ := h p hp
  obtain ⟨r, hr, hkey', hpub'⟩ := h' q hq
  refine ⟨r, hr, hkey'.trans hkey, ?_⟩
  have gen (a b : PointerRow) (hab : a.publication = b.publication) :
      a.activeIndexGeneration = b.activeIndexGeneration := congrArg Prod.fst hab
  rcases hpub with hpub | hpub
  · rcases hpub' with hpub' | hpub'
    · exact .inl (hpub'.trans hpub)
    · exact .inr (by rw [← gen q p hpub]; exact hpub')
  · rcases hpub' with hpub' | hpub'
    · exact .inr (by rw [gen r q hpub']; exact hpub)
    · exact .inr (hpub.trans hpub')

theorem pointersAdvance_append (l : List PointerRow) (p : PointerRow) : PointersAdvance l (l ++ [p]) :=
  fun q hq => ⟨q, List.mem_append_left _ hq, rfl, .inl rfl⟩

theorem pointersAdvance_withdraw (team : TeamId) (item : ItemId) (now : Time) (l : List PointerRow) :
    PointersAdvance l (Serving.withdrawPointers team item now l) := by
  intro p hp
  refine ⟨_, mem_updateWhere_of_mem hp, ?_⟩
  split
  · exact ⟨rfl, .inl rfl⟩
  · exact ⟨rfl, .inl rfl⟩

theorem pointersAdvance_promote {c : PointerRow → Bool} {p : ProofRow} {now : Time} {l : List PointerRow}
    (hc : ∀ q, c q = true → q.activeIndexGeneration < p.indexGeneration) :
    PointersAdvance l (updateWhere c (PointerRow.promote p now) l) := by
  intro q hq
  refine ⟨_, mem_updateWhere_of_mem hq, ?_⟩
  split
  · rename_i hcq
    exact ⟨rfl, .inr (hc q hcq)⟩
  · exact ⟨rfl, .inl rfl⟩

/-! ### states -/

namespace Serving

structure Keyed (s : Serving) : Prop where
  items : (s.items.map ItemRow.key).Nodup
  pointers : (s.pointers.map PointerRow.key).Nodup
  proofs : (s.proofs.map ProofRow.proof).Nodup
  records : (s.records.map VectorRecordRow.record).Nodup
  artifacts : (s.artifacts.map ArtifactRow.artifact).Nodup
  handoffs : (s.handoffs.map VectorizeHandoff.execution).Nodup

/-- What every writer does to keys, records and pointers. -/
structure Advances (s s' : Serving) : Prop where
  keyed : s'.Keyed
  records : RecordsKept s.records s'.records
  pointers : PointersAdvance s.pointers s'.pointers

theorem keyed_empty : Serving.empty.Keyed :=
  ⟨List.nodup_nil, List.nodup_nil, List.nodup_nil, List.nodup_nil, List.nodup_nil, List.nodup_nil⟩

variable {s s' s'' : Serving}

theorem Keyed.advances (hs : s.Keyed) : s.Advances s := ⟨hs, .refl _, .refl _⟩

theorem Advances.trans (h : s.Advances s') (h' : s'.Advances s'') : s.Advances s'' :=
  ⟨h'.keyed, h.records.trans h'.records, h.pointers.trans h'.pointers⟩

theorem Keyed.eq_item (hs : s.Keyed) {i j : ItemRow} (hi : i ∈ s.items) (hj : j ∈ s.items) (h : i.key = j.key) : i = j :=
  eq_of_key hs.items hi hj h

/-! ### Items -/

theorem Keyed.updateItems (hs : s.Keyed) {c : ItemRow → Bool} {f : ItemRow → ItemRow} (hf : ∀ i, (f i).key = i.key) :
    (({ s with items := updateWhere c f s.items } : Serving)).Keyed :=
  { hs with items := nodup_keys_updateWhere hf hs.items }

theorem nodup_itemsOffered (hs : s.Keyed) (c : AcceptSnapshot) : ((c.itemsOffered s).map ItemRow.key).Nodup := by
  unfold AcceptSnapshot.itemsOffered insertOrIgnore
  split
  · exact hs.items
  · rename_i hc
    rw [Bool.not_eq_true, List.any_eq_false] at hc
    refine nodup_keys_append hs.items fun q hq he => hc q hq ?_
    simp [itemClash, he]

theorem advances_acceptSnapshot (hs : s.Keyed) {c : AcceptSnapshot} (h : s.acceptSnapshot c = .ok s') :
    s.Advances s' := by
  have hoffered : ({ s with items := c.itemsOffered s } : Serving).Keyed :=
    { hs with items := nodup_itemsOffered hs c }
  obtain ⟨before, -, -, ⟨-, rfl⟩ | ⟨-, -, rfl⟩⟩ := acceptSnapshot_ok h
  · exact ⟨{ hoffered with }, .refl _, .refl _⟩
  · have hadvanced := hoffered.updateItems (c := c.advances before.rowRevision) (ItemRow.key_accept c.revision)
    exact ⟨{ hadvanced with }, .refl _, .refl _⟩

theorem advances_insertMember (hs : s.Keyed) {c : AcceptCollection} {m : CollectionMember}
    (h : s.insertMember c m = .ok s') : s.Advances s' := by
  obtain ⟨hclash, rfl⟩ := insertMember_ok h
  refine ⟨{ hs with items := nodup_keys_append hs.items fun q hq he => ?_ }, .refl _, .refl _⟩
  have hq := hclash q hq
  simp [itemClash, he] at hq

theorem advances_acceptCollection (hs : s.Keyed) {c : AcceptCollection} (h : s.acceptCollection c = .ok s') :
    s.Advances s' :=
  foldEach_preserves (fun _ _ _ _ hd hm => hd.trans (advances_insertMember hd.keyed hm)) hs.advances h

theorem advances_acceptRebuild (hs : s.Keyed) {t : FrozenTarget} {producer : ProcessFence}
    (h : s.acceptRebuild t producer = .ok s') : s.Advances s' := by
  obtain ⟨i, -, -, -, rfl⟩ := acceptRebuild_ok h
  exact ⟨{ hs with }, .refl _, .refl _⟩

theorem advances_acceptMetadataUpdate (hs : s.Keyed) {t : FrozenTarget} {metadataRevision : Option RevisionId}
    {producer : ProcessFence} (h : s.acceptMetadataUpdate t metadataRevision producer = .ok s') : s.Advances s' := by
  obtain ⟨i, -, -, -, rfl | ⟨revision, rfl⟩⟩ := acceptMetadataUpdate_ok h
  · exact ⟨{ hs with }, .refl _, .refl _⟩
  · have happended := hs.updateItems (c := t.isFrozen i.rowRevision) (ItemRow.key_accept revision)
    exact ⟨{ happended with }, .refl _, .refl _⟩

theorem recordsKept_withdraw (team : TeamId) (item : ItemId) (l : List VectorRecordRow) :
    RecordsKept l (withdrawRecords team item l) := recordsKept_updateWhere fun _ _ _ => rfl

theorem advances_applied (hs : s.Keyed) (c : LifecycleCommand) (i : ItemRow) (target : IntakeLifecycle) :
    s.Advances (c.applied i target s) := by
  have hitems : ((updateWhere (isAt i) (ItemRow.transition target c.now) s.items).map ItemRow.key).Nodup :=
    nodup_keys_updateWhere (ItemRow.key_transition target c.now) hs.items
  have hpointers : ((withdrawPointers c.team c.item c.now s.pointers).map PointerRow.key).Nodup :=
    nodup_keys_updateWhere (PointerRow.key_withdraw c.now) hs.pointers
  have hrecords : ((withdrawRecords c.team c.item s.records).map VectorRecordRow.record).Nodup :=
    nodup_keys_updateWhere (fun _ => rfl) hs.records
  unfold LifecycleCommand.applied
  split
  · exact ⟨{ hs with items := hitems, pointers := hpointers, records := hrecords }, recordsKept_withdraw _ _ _,
      pointersAdvance_withdraw _ _ _ _⟩
  · exact ⟨{ hs with items := hitems, pointers := hpointers, records := hrecords }, recordsKept_withdraw _ _ _,
      pointersAdvance_withdraw _ _ _ _⟩

theorem advances_applyLifecycle (hs : s.Keyed) {c : LifecycleCommand} (h : s.applyLifecycle c = .ok s') :
    s.Advances s' := by
  obtain rfl | ⟨i, -, -, target, -, rfl⟩ := applyLifecycle_ok h
  · exact hs.advances
  · exact advances_applied hs c i target

theorem advances_applyHumanReview (hs : s.Keyed) (team : TeamId) (snapshot : SnapshotId) (decision : ReviewDecision) :
    s.Advances (s.applyHumanReview team snapshot decision) := by
  cases decision with
  | approve => exact ⟨hs.updateItems ItemRow.key_approve, .refl _, .refl _⟩
  | reject => exact ⟨hs.updateItems ItemRow.key_reject, .refl _, .refl _⟩

/-! ### vectorize -/

theorem advances_acceptConstruct (hs : s.Keyed) {a : ArtifactRow} (h : s.acceptConstruct a = .ok s') :
    s.Advances s' := by
  obtain ⟨-, hfresh, rfl⟩ := acceptConstruct_ok h
  exact ⟨{ hs with artifacts := nodup_keys_append hs.artifacts hfresh }, .refl _, .refl _⟩

theorem recordsKept_upsert {c : Vectorize} {u : PlannedRecord} {l l' : List VectorRecordRow}
    (hl : (l.map VectorRecordRow.record).Nodup) (h : upsertVectorRecord c l u = .ok l') :
    (l'.map VectorRecordRow.record).Nodup ∧ RecordsKept l l' := by
  obtain ⟨r, hr, hat, hrecord, rfl⟩ | ⟨hfresh, rfl⟩ := upsertVectorRecord_ok h
  · refine ⟨nodup_keys_updateWhere (fun _ => rfl) hl, recordsKept_updateWhere fun q hq hc => ?_⟩
    simp only [isPlanned, Bool.and_eq_true, beq_iff_eq] at hc
    obtain rfl := eq_of_key hl hq hr (hc.1.2.trans hrecord.symm)
    simp only [isAtCoordinate, Bool.and_eq_true, beq_iff_eq] at hat
    simp only [VectorRecordRow.place, Vectorize.overwrite, hat.1.1.2]
  · exact ⟨nodup_keys_append hl hfresh, recordsKept_append l _⟩

theorem advances_vectorize (hs : s.Keyed) {c : Vectorize} (h : s.vectorize c = .ok s') : s.Advances s' := by
  obtain ⟨-, -, hfresh, namespaces, records, hrecords, rfl⟩ := vectorize_ok h
  have hkept : (records.map VectorRecordRow.record).Nodup ∧ RecordsKept s.records records := by
    refine foldEach_preserves (P := fun l => (l.map VectorRecordRow.record).Nodup ∧ RecordsKept s.records l)
      (fun l l' u _ hl hu => ?_) ⟨hs.records, .refl _⟩ hrecords
    obtain ⟨hnodup, hstep⟩ := recordsKept_upsert hl.1 hu
    exact ⟨hnodup, hl.2.trans hstep⟩
  exact ⟨{ hs with records := hkept.1, handoffs := nodup_keys_append hs.handoffs hfresh }, hkept.2, .refl _⟩

/-! ### publication -/

theorem advances_inserted (hs : s.Keyed) (c : Publish) {h : VectorizeHandoff} (itemEpoch : Nat)
    (hproof : ∀ q ∈ s.proofs, q.proof ≠ h.publicationProof) : s.Advances (c.inserted h itemEpoch s) := by
  have hrecords : ((updateWhere (isOfHandoff c.team h) VectorRecordRow.index s.records).map VectorRecordRow.record).Nodup :=
    nodup_keys_updateWhere (fun _ => rfl) hs.records
  exact ⟨{ hs with records := hrecords, proofs := nodup_keys_append hs.proofs hproof },
    recordsKept_updateWhere fun _ _ _ => rfl, .refl _⟩

theorem advances_promotePointer (hs : s.Keyed) {p : ProofRow} {now : Time} (h : s.promotePointer p now = .ok s') :
    s.Advances s' := by
  obtain ⟨hfresh, rfl⟩ | ⟨q, -, -, -, rfl⟩ := promotePointer_ok h
  · exact ⟨{ hs with pointers := nodup_keys_append hs.pointers hfresh }, .refl _, pointersAdvance_append _ _⟩
  · have hpointers : ((updateWhere (isSuperseded p q) (PointerRow.promote p now) s.pointers).map PointerRow.key).Nodup :=
      nodup_keys_updateWhere (PointerRow.key_promote p now) hs.pointers
    refine ⟨{ hs with pointers := hpointers }, .refl _, pointersAdvance_promote fun r hr => ?_⟩
    simp only [isSuperseded, Bool.and_eq_true, decide_eq_true_eq] at hr
    exact hr.2

theorem advances_publishRevision (hs : s.Keyed) {item : ItemId} {revision : RevisionId} {proof : ProofId}
    {nspace : NamespaceId} {generation : Nat} {c : Publish}
    (h : s.publishRevision item revision proof nspace generation c = .ok s') : s.Advances s' := by
  obtain ⟨i, -, -, -, rfl⟩ | ⟨i, -, -, -, rfl⟩ := publishRevision_ok h
  · exact hs.advances
  · have hserved := hs.updateItems (c := servesNext i revision) (ItemRow.key_serve revision)
    exact ⟨{ hserved with }, .refl _, .refl _⟩

theorem advances_retireSuperseded (hs : s.Keyed) {grace : Nat} {p : ProofRow} {before : Option PointerRow}
    (h : s.retireSuperseded grace p before = .ok s') : s.Advances s' := by
  obtain rfl | ⟨q, -, i, -, -, rfl⟩ := retireSuperseded_ok h
  · exact hs.advances
  · exact ⟨{ hs with }, .refl _, .refl _⟩

theorem advances_publish (hs : s.Keyed) {grace : Nat} {c : Publish} (h : s.publish grace c = .ok s') :
    s.Advances s' := by
  obtain ⟨h₀, -, -, -, fetched, -, hproof, -, itemEpoch, s₁, s₂, before, h₁, h₂, h₃⟩ := publish_ok h
  have hinserted := advances_inserted hs c itemEpoch hproof
  have hpromoted := advances_promotePointer hinserted.keyed h₁
  have hraised : s₁.Advances { s₁ with namespaces := raiseNamespace c.team h₀.nspace h₀.indexGeneration s₁.namespaces } :=
    ⟨{ hpromoted.keyed with }, .refl _, .refl _⟩
  have hserved := advances_publishRevision hraised.keyed h₂
  have hretired := advances_retireSuperseded hserved.keyed h₃
  exact (((hinserted.trans hpromoted).trans hraised).trans hserved).trans hretired

/-! ### index rebuild -/

theorem recordsKept_clone {team : TeamId} {p : IndexRebuildPlan} {sources l l' : List VectorRecordRow}
    (hl : (l.map VectorRecordRow.record).Nodup) (h : cloneRecords team p sources l = .ok l') :
    (l'.map VectorRecordRow.record).Nodup ∧ RecordsKept l l' := by
  refine foldEach_preserves (P := fun k => (k.map VectorRecordRow.record).Nodup ∧ RecordsKept l k)
    (fun k k' r _ hk hr => ?_) ⟨hl, .refl _⟩ h
  obtain ⟨hfresh, rfl⟩ := insertUnique_eq_ok_iff.1 hr
  exact ⟨nodup_keys_append hk.1 hfresh, hk.2.trans (recordsKept_append k _)⟩

theorem advances_commitPlan (hs : s.Keyed) {grace : Nat} {c : IndexRebuild} {p : IndexRebuildPlan}
    (h : s.commitPlan grace c p = .ok s') : s.Advances s' := by
  obtain ⟨i, -, -, sources, records, namespaces, -, hclone, hartifact, hproof, -, s₁, h₁, rfl⟩ := commitPlan_ok h
  obtain ⟨q, -, -, -, j, -, rfl⟩ := scheduleRetirement_ok h₁
  have hkept := recordsKept_clone hs.records hclone
  have hpointers : ((updateWhere (p.isFrozen c.team) (PointerRow.promote (p.proofRow c.team c.producer sources) c.now)
      s.pointers).map PointerRow.key).Nodup := nodup_keys_updateWhere (PointerRow.key_promote _ _) hs.pointers
  have hkeyed : (c.cutOver p sources records namespaces s).Keyed :=
    { hs with
      artifacts := nodup_keys_append hs.artifacts hartifact
      proofs := nodup_keys_append hs.proofs hproof
      records := hkept.1
      pointers := hpointers }
  refine ⟨{ hkeyed with }, hkept.2, pointersAdvance_promote fun q hq => ?_⟩
  simp only [IndexRebuildPlan.isFrozen, Bool.and_eq_true, beq_iff_eq] at hq
  show q.activeIndexGeneration < p.oldIndexGeneration + 1
  omega

theorem advances_indexRebuild (hs : s.Keyed) {grace : Nat} {c : IndexRebuild} (h : s.indexRebuild grace c = .ok s') :
    s.Advances s' :=
  foldEach_preserves (fun _ _ _ _ hd hp => hd.trans (advances_commitPlan hd.keyed hp)) hs.advances h

/-! ### every writer -/

theorem Keyed.updateRecords (hs : s.Keyed) {c : VectorRecordRow → Bool} {f : VectorRecordRow → VectorRecordRow}
    (hf : ∀ r, (f r).place = r.place) : s.Advances { s with records := updateWhere c f s.records } := by
  have hrecords : ((updateWhere c f s.records).map VectorRecordRow.record).Nodup :=
    nodup_keys_updateWhere (fun r => congrArg Prod.fst (hf r)) hs.records
  exact ⟨{ hs with records := hrecords }, recordsKept_updateWhere fun r _ _ => hf r, .refl _⟩

theorem advances_transact (hs : s.Keyed) {grace : Nat} {t : ServingStep} (h : t.transact grace s = .ok s') :
    s.Advances s' := by
  cases t with
  | acceptSnapshot c => exact advances_acceptSnapshot hs h
  | acceptCollection c => exact advances_acceptCollection hs h
  | acceptRebuild t producer => exact advances_acceptRebuild hs h
  | acceptMetadataUpdate t metadataRevision producer => exact advances_acceptMetadataUpdate hs h
  | lifecycle c => exact advances_applyLifecycle hs h
  | humanReview team snapshot decision =>
    obtain rfl := Except.ok.inj h
    exact advances_applyHumanReview hs team snapshot decision
  | acceptConstruct a => exact advances_acceptConstruct hs h
  | vectorize c => exact advances_vectorize hs h
  | publish c => exact advances_publish hs h
  | indexRebuild c => exact advances_indexRebuild hs h
  | discoverRetirement team item nspace retired =>
    obtain ⟨p, -, -, -, i, -, rfl⟩ := discoverRetirement_ok h
    exact ⟨{ hs with }, .refl _, .refl _⟩
  | softPurge i now =>
    obtain ⟨-, rfl⟩ := softPurge_ok h
    have hrecords := hs.updateRecords (c := isOfGeneration i.team i.item i.nspace i.retiredIndexGeneration)
      (VectorRecordRow.place_softDelete now)
    exact ⟨{ hrecords.keyed with }, hrecords.records, .refl _⟩
  | purgeGeneration c =>
    obtain rfl := purgeGeneration_ok h
    exact hs.updateRecords (VectorRecordRow.place_softDelete c.now)
  | cleanupVectors team item now =>
    obtain ⟨-, rfl⟩ := cleanupVectors_ok h
    exact hs.updateRecords (VectorRecordRow.place_erase now)

theorem advances_step (hs : s.Keyed) (grace : Nat) (t : ServingStep) : s.Advances (servingStep grace s t) := by
  obtain h | h := servingStep_cases grace (s := s) (t := t)
  · rw [h]
    exact hs.advances
  · exact advances_transact hs h

theorem advances_run (hs : s.Keyed) (grace : Nat) (l : List ServingStep) :
    s.Advances (runFrom (servingStep grace) s l) := by
  induction l generalizing s with
  | nil => exact hs.advances
  | cons t l ih =>
    have hstep := advances_step hs grace t
    exact hstep.trans (ih hstep.keyed)

theorem keyed_run (grace : Nat) (l : List ServingStep) : (runFrom (servingStep grace) .empty l).Keyed :=
  (advances_run keyed_empty grace l).keyed

end Serving

end KnowledgeBase
