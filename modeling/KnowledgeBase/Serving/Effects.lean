import KnowledgeBase.Serving.System

/-!
# Effects

What a committed transaction has found and what it has written, one statement for each writer. Every invariant of
the serving tables is derived from these and unfolds no writer again.
-/

namespace KnowledgeBase

open Checked Relational

namespace Serving

variable {s s' : Serving}

/-! ### lookups -/

theorem item?_eq_some {team : TeamId} {item : ItemId} {i : ItemRow} (h : s.item? team item = some i) :
    i ∈ s.items ∧ i.key = (team, item) := by
  have hp := List.find?_some h
  exact ⟨List.mem_of_find?_eq_some h, by simpa using hp⟩

theorem pointer?_eq_some {team : TeamId} {item : ItemId} {nspace : NamespaceId} {p : PointerRow}
    (h : s.pointer? team item nspace = some p) : p ∈ s.pointers ∧ p.key = (team, item, nspace) := by
  have hp := List.find?_some h
  exact ⟨List.mem_of_find?_eq_some h, by simpa using hp⟩

theorem pointer?_eq_none {team : TeamId} {item : ItemId} {nspace : NamespaceId}
    (h : s.pointer? team item nspace = none) : ∀ p ∈ s.pointers, p.key ≠ (team, item, nspace) := by
  intro p hp
  have hne := List.find?_eq_none.1 h p hp
  simpa using hne

/-! ### acceptance -/

def AcceptSnapshot.itemsOffered (c : AcceptSnapshot) (s : Serving) : List ItemRow :=
  insertOrIgnore (itemClash c.newItem) c.newItem s.items

def AcceptSnapshot.transition (c : AcceptSnapshot) (before : ItemRow) : TransitionRow where
  team := c.team
  item := c.item
  before := before.facts
  after := { before.facts with latestRevision := some c.revision, rowRevision := before.rowRevision + 1 }
  fence := .acceptRevision c.producer

def AcceptSnapshot.membership (c : AcceptSnapshot) : SnapshotMembership :=
  ⟨c.team, c.snapshot, 0, c.externalKey, c.item⟩

/-- The state once the `changed` branch has advanced the Item. -/
def AcceptSnapshot.advanced (c : AcceptSnapshot) (before : ItemRow) (s : Serving) : Serving :=
  let items := updateWhere (c.advances before.rowRevision) (ItemRow.accept c.revision) (c.itemsOffered s)
  { s with items := items }.record (c.transition before)

theorem acceptSnapshot_ok {c : AcceptSnapshot} (h : s.acceptSnapshot c = .ok s') :
    ∃ before ∈ c.itemsOffered s, before.key = (c.team, c.item) ∧
      (before.latestRevision = some c.revision ∧
          s' = { s with items := c.itemsOffered s }.addMembership c.membership ∨
        before.latestRevision ≠ some c.revision ∧
          (∃ q ∈ c.itemsOffered s, c.advances before.rowRevision q = true) ∧
          s' = (c.advanced before s).addMembership c.membership) := by
  unfold acceptSnapshot at h
  obtain ⟨before, hb, h⟩ := bind_ok_iff.1 h
  obtain ⟨_, hi, h⟩ := bind_ok_iff.1 h
  obtain ⟨_, hepoch, h⟩ := bind_ok_iff.1 h
  obtain ⟨s₁, h₁, h⟩ := bind_ok_iff.1 h
  obtain rfl := pure_ok_iff.1 h
  rw [required_ok_iff] at hb
  rw [failIf_ok_iff, bne_eq_false_iff_eq] at hi
  have hmem : before ∈ c.itemsOffered s := List.mem_of_find?_eq_some hb
  have hkey : before.key = (c.team, c.item) := by
    have hof := List.find?_some hb
    simp only [AcceptSnapshot.isOfKey, Bool.and_eq_true, beq_iff_eq] at hof
    simp only [ItemRow.key, hof.1.1, hi]
  refine ⟨before, hmem, hkey, ?_⟩
  unfold acceptDisposition at h₁
  split at h₁
  · rename_i hl
    obtain rfl := Except.ok.inj h₁
    exact .inl ⟨beq_iff_eq.1 hl, rfl⟩
  · rename_i hl
    unfold acceptChanged at h₁
    obtain ⟨items, hitems, h₁⟩ := bind_ok_iff.1 h₁
    obtain rfl := pure_ok_iff.1 h₁
    have hq := exists_of_casWhere hitems
    obtain ⟨-, rfl⟩ := casWhere_eq_ok_iff.1 hitems
    exact .inr ⟨fun he => hl (beq_iff_eq.2 he), hq, rfl⟩

def AcceptCollection.membership (c : AcceptCollection) (m : CollectionMember) :
    SnapshotMembership := ⟨c.team, c.snapshot, m.memberOrdinal, m.externalKey, m.item⟩

def AcceptCollection.transition (c : AcceptCollection) (m : CollectionMember) :
    TransitionRow where
  team := c.team
  item := m.item
  before := ⟨.active, none, none, 0⟩
  after := ⟨.active, some m.revision, none, 0⟩
  fence := .acceptMember c.producer m.memberOrdinal

theorem insertMember_ok {c : AcceptCollection} {m : CollectionMember}
    (h : s.insertMember c m = .ok s') :
    (∀ q ∈ s.items, itemClash (c.newItem m) q = false) ∧
      s' = { s with
        items := s.items ++ [c.newItem m]
        memberships := s.memberships ++ [c.membership m] }.record (c.transition m) := by
  unfold insertMember at h
  obtain ⟨_, hc, h⟩ := bind_ok_iff.1 h
  obtain rfl := pure_ok_iff.1 h
  rw [failIf_ok_iff, Bool.or_eq_false_iff, List.any_eq_false] at hc
  exact ⟨fun q hq => by simpa using hc.1 q hq, rfl⟩

/-! ### rebuild and metadata update -/

theorem frozenItem_ok {t : FrozenTarget} {stale : MkbError} {i : ItemRow} (h : s.frozenItem t stale = .ok i) :
    i ∈ s.items ∧ i.key = (t.team, t.item) ∧ i.facts = ⟨.active, some t.revision, i.servingRevision, i.rowRevision⟩ := by
  unfold frozenItem at h
  obtain ⟨j, hj, h⟩ := bind_ok_iff.1 h
  obtain ⟨_, hf, h⟩ := bind_ok_iff.1 h
  obtain rfl := pure_ok_iff.1 h
  obtain ⟨hmem, hkey⟩ := item?_eq_some (required_ok_iff.1 hj)
  rw [failIf_ok_iff] at hf
  simp only [Bool.or_eq_false_iff, bne_eq_false_iff_eq] at hf
  refine ⟨hmem, hkey, ?_⟩
  unfold ItemRow.facts
  rw [hf.1.2, hf.2]

theorem acceptRebuild_ok {t : FrozenTarget} {producer : ProcessFence} (h : s.acceptRebuild t producer = .ok s') :
    ∃ i ∈ s.items, i.key = (t.team, t.item) ∧
      i.facts = ⟨.active, some t.revision, i.servingRevision, i.rowRevision⟩ ∧
      s' = s.record (unchangedTransition t i (.rebuild producer)) := by
  unfold acceptRebuild at h
  obtain ⟨i, hi, h⟩ := bind_ok_iff.1 h
  obtain rfl := pure_ok_iff.1 h
  obtain ⟨hmem, hkey, hfacts⟩ := frozenItem_ok hi
  exact ⟨i, hmem, hkey, hfacts, rfl⟩

def FrozenTarget.transition (t : FrozenTarget) (i : ItemRow) (revision : RevisionId) (producer : ProcessFence) :
    TransitionRow where
  team := t.team
  item := t.item
  before := ⟨.active, some t.revision, i.servingRevision, i.rowRevision⟩
  after := ⟨.active, some revision, i.servingRevision, i.rowRevision + 1⟩
  fence := .updateMetadata producer

def FrozenTarget.appended (t : FrozenTarget) (i : ItemRow) (revision : RevisionId) (producer : ProcessFence)
    (s : Serving) : Serving :=
  let items := updateWhere (t.isFrozen i.rowRevision) (ItemRow.accept revision) s.items
  { s with items := items }.record (t.transition i revision producer)

theorem acceptMetadataUpdate_ok {t : FrozenTarget} {metadataRevision : Option RevisionId} {producer : ProcessFence}
    (h : s.acceptMetadataUpdate t metadataRevision producer = .ok s') :
    ∃ i ∈ s.items, i.key = (t.team, t.item) ∧
      i.facts = ⟨.active, some t.revision, i.servingRevision, i.rowRevision⟩ ∧
      (s' = s.record (unchangedTransition t i (.metadataNoChange producer)) ∨
        ∃ revision, s' = t.appended i revision producer s) := by
  unfold acceptMetadataUpdate at h
  obtain ⟨i, hi, h⟩ := bind_ok_iff.1 h
  obtain ⟨hmem, hkey, hfacts⟩ := frozenItem_ok hi
  refine ⟨i, hmem, hkey, hfacts, ?_⟩
  cases metadataRevision with
  | none => exact .inl (pure_ok_iff.1 h).symm
  | some revision =>
    obtain ⟨items, hitems, h⟩ := bind_ok_iff.1 h
    obtain rfl := pure_ok_iff.1 h
    obtain ⟨-, rfl⟩ := casWhere_eq_ok_iff.1 hitems
    exact .inr ⟨revision, rfl⟩

/-! ### lifecycle commands -/

def LifecycleCommand.transition (c : LifecycleCommand) (i : ItemRow) (target : IntakeLifecycle) : TransitionRow where
  team := c.team
  item := c.item
  before := i.facts
  after := ⟨target, i.latestRevision, none, i.rowRevision + 1⟩
  fence := .lifecycle c.item c.action c.idempotencyKey

/-- The state an applied lifecycle command commits. -/
def LifecycleCommand.applied (c : LifecycleCommand) (i : ItemRow) (target : IntakeLifecycle) (s : Serving) : Serving :=
  let s := { s with
    items := updateWhere (isAt i) (ItemRow.transition target c.now) s.items
    pointers := withdrawPointers c.team c.item c.now s.pointers
    records := withdrawRecords c.team c.item s.records }
  (if c.action == .delete then s.ensureDeleteCleanup c.team c.item else s).record (c.transition i target)

theorem applyTransition_ok {c : LifecycleCommand} {i : ItemRow} {target : IntakeLifecycle}
    (h : s.applyTransition c i target = .ok s') : s' = c.applied i target s := by
  unfold applyTransition at h
  obtain ⟨items, hitems, h⟩ := bind_ok_iff.1 h
  obtain ⟨-, rfl⟩ := casWhere_eq_ok_iff.1 hitems
  exact (pure_ok_iff.1 h).symm

theorem applyLifecycle_ok {c : LifecycleCommand} (h : s.applyLifecycle c = .ok s') :
    s' = s ∨ ∃ i ∈ s.items, i.key = (c.team, c.item) ∧ ∃ target,
      targetState c.action i.lifecycleState = .ok (some target) ∧ s' = c.applied i target s := by
  unfold applyLifecycle at h
  obtain ⟨i, hi, h⟩ := bind_ok_iff.1 h
  obtain ⟨hmem, hkey⟩ := item?_eq_some (required_ok_iff.1 hi)
  split at h
  · exact .inl (pure_ok_iff.1 h).symm
  · obtain ⟨_, -, h⟩ := bind_ok_iff.1 h
    obtain ⟨target, htarget, h⟩ := bind_ok_iff.1 h
    cases target with
    | none => exact .inl (pure_ok_iff.1 h).symm
    | some target =>
      exact .inr ⟨i, hmem, hkey, target, htarget, applyTransition_ok h⟩

/-! ### vectorize -/

theorem acceptConstruct_ok {a : ArtifactRow} (h : s.acceptConstruct a = .ok s') :
    (∃ i ∈ s.items, i.key = (a.team, a.item)) ∧ (∀ b ∈ s.artifacts, b.artifact ≠ a.artifact) ∧
      s' = { s with artifacts := s.artifacts ++ [a] } := by
  unfold acceptConstruct at h
  obtain ⟨_, hi, h⟩ := bind_ok_iff.1 h
  obtain ⟨artifacts, ha, h⟩ := bind_ok_iff.1 h
  obtain rfl := pure_ok_iff.1 h
  obtain ⟨hfresh, rfl⟩ := insertUnique_eq_ok_iff.1 ha
  rw [failIf_ok_iff, Option.isNone_eq_false_iff, Option.isSome_iff_exists] at hi
  obtain ⟨i, hi⟩ := hi
  exact ⟨⟨i, item?_eq_some hi⟩, hfresh, rfl⟩

/-- The artifact a vectorize stage has passed its gate with. -/
def Vectorize.IsGated (c : Vectorize) (a : ArtifactRow) : Prop :=
  a.team = c.team ∧ a.artifact = c.generationArtifact ∧ a.execution = c.execution ∧ a.item = c.item ∧
    a.revision = c.revision ∧ a.current = true

theorem artifact?_eq_some {team : TeamId} {artifact : ArtifactId} {a : ArtifactRow}
    (h : s.artifact? team artifact = some a) : a ∈ s.artifacts ∧ a.team = team ∧ a.artifact = artifact := by
  have hp := List.find?_some h
  simp only [Bool.and_eq_true, beq_iff_eq] at hp
  exact ⟨List.mem_of_find?_eq_some h, hp⟩

theorem constructGate_ok {c : Vectorize} {u : Unit} (h : s.constructGate c = .ok u) :
    ∃ a ∈ s.artifacts, c.IsGated a := by
  unfold constructGate at h
  obtain ⟨a, ha, h⟩ := bind_ok_iff.1 h
  obtain ⟨_, hf, h⟩ := bind_ok_iff.1 h
  obtain ⟨hmem, hteam, hartifact⟩ := artifact?_eq_some (required_ok_iff.1 ha)
  rw [failIf_ok_iff] at hf h
  simp only [Bool.or_eq_false_iff, bne_eq_false_iff_eq, Bool.not_eq_false'] at hf h
  exact ⟨a, hmem, hteam, hartifact, hf.1.1.2, hf.1.2, hf.2, h⟩

theorem ensureNamespace_ok {c : Vectorize} (h : s.ensureNamespace c = .ok s') :
    ∃ namespaces, s' = { s with namespaces := namespaces } := by
  unfold ensureNamespace at h
  split at h
  · obtain ⟨_, -, h⟩ := bind_ok_iff.1 h
    exact ⟨s.namespaces, (pure_ok_iff.1 h).symm⟩
  · obtain ⟨namespaces, -, h⟩ := bind_ok_iff.1 h
    exact ⟨namespaces, (pure_ok_iff.1 h).symm⟩

/-- The row the update of an existing coordinate reaches. -/
def isPlanned (c : Vectorize) (u : PlannedRecord) (r : VectorRecordRow) : Bool :=
  r.team == c.team && r.record == u.record && r.deletedAt.isNone

theorem upsertVectorRecord_ok {c : Vectorize} {u : PlannedRecord} {records records' : List VectorRecordRow}
    (h : upsertVectorRecord c records u = .ok records') :
    (∃ r ∈ records, isAtCoordinate c u r = true ∧ r.record = u.record ∧
        records' = updateWhere (isPlanned c u) (c.overwrite u) records) ∨
      (∀ q ∈ records, q.record ≠ u.record) ∧ records' = records ++ [c.recordRow u] := by
  unfold upsertVectorRecord at h
  split at h
  · rename_i r hr
    obtain ⟨_, hf, h⟩ := bind_ok_iff.1 h
    rw [failIf_ok_iff, bne_eq_false_iff_eq] at hf
    obtain ⟨-, rfl⟩ := casWhere_eq_ok_iff.1 h
    exact .inl ⟨r, List.mem_of_find?_eq_some hr, List.find?_some hr, hf, rfl⟩
  · exact .inr (insertUnique_eq_ok_iff.1 h)

theorem vectorize_ok {c : Vectorize} (h : s.vectorize c = .ok s') :
    (∃ a ∈ s.artifacts, c.IsGated a) ∧ (∃ i ∈ s.items, i.key = (c.team, c.item)) ∧
      (∀ q ∈ s.handoffs, q.execution ≠ c.execution) ∧
      ∃ namespaces records, foldEach (upsertVectorRecord c) s.records c.records = .ok records ∧
        s' = { s with namespaces := namespaces, records := records, handoffs := s.handoffs ++ [c.handoff] } := by
  unfold vectorize at h
  obtain ⟨_, hgate, h⟩ := bind_ok_iff.1 h
  obtain ⟨_, hi, h⟩ := bind_ok_iff.1 h
  obtain ⟨s₁, h₁, h⟩ := bind_ok_iff.1 h
  obtain ⟨raised, -, h⟩ := bind_ok_iff.1 h
  obtain ⟨records, hrecords, h⟩ := bind_ok_iff.1 h
  obtain ⟨handoffs, hhandoffs, h⟩ := bind_ok_iff.1 h
  obtain rfl := pure_ok_iff.1 h
  obtain ⟨namespaces, rfl⟩ := ensureNamespace_ok h₁
  obtain ⟨hfresh, rfl⟩ := insertUnique_eq_ok_iff.1 hhandoffs
  rw [failIf_ok_iff, Option.isNone_eq_false_iff, Option.isSome_iff_exists] at hi
  obtain ⟨i, hi⟩ := hi
  exact ⟨constructGate_ok hgate, ⟨i, item?_eq_some hi⟩, hfresh, raised, records, hrecords, rfl⟩

/-! ### retirement intents -/

theorem scheduleRetirement_ok {grace : Nat} {team : TeamId} {item : ItemId} {nspace : NamespaceId}
    {retired successor pointerRowRevision : Nat}
    (h : s.scheduleRetirement grace team item nspace retired successor pointerRowRevision = .ok s') :
    ∃ p ∈ s.pointers, p.key = (team, item, nspace) ∧ retired < p.activeIndexGeneration ∧
      ∃ i, i.key = (team, item, nspace, retired) ∧
        s' = { s with retirements := insertOrIgnore (fun q => q.key == RetirementIntent.key i) i s.retirements } := by
  unfold scheduleRetirement at h
  obtain ⟨p, hp, h⟩ := bind_ok_iff.1 h
  obtain ⟨_, hf, h⟩ := bind_ok_iff.1 h
  obtain rfl := pure_ok_iff.1 h
  obtain ⟨hmem, hkey⟩ := pointer?_eq_some (required_ok_iff.1 hp)
  rw [failIf_ok_iff] at hf
  simp only [Bool.or_eq_false_iff, bne_eq_false_iff_eq, decide_eq_false_iff_not] at hf
  exact ⟨p, hmem, hkey, by omega, ⟨team, item, nspace, retired, p.updatedAt + grace⟩, rfl, rfl⟩

theorem retireSuperseded_ok {grace : Nat} {p : ProofRow} {before : Option PointerRow}
    (h : s.retireSuperseded grace p before = .ok s') :
    s' = s ∨ ∃ q ∈ s.pointers, ∃ i : RetirementIntent, i.key = (q.team, q.item, q.nspace, i.retiredIndexGeneration) ∧
      i.retiredIndexGeneration < q.activeIndexGeneration ∧
      s' = { s with retirements := insertOrIgnore (fun q => q.key == RetirementIntent.key i) i s.retirements } := by
  unfold retireSuperseded at h
  split at h
  · exact .inl (Except.ok.inj h).symm
  · split at h
    · obtain ⟨q, hq, hkey, hlt, i, hi, rfl⟩ := scheduleRetirement_ok h
      simp only [PointerRow.key, Prod.mk.injEq] at hkey
      simp only [RetirementIntent.key, Prod.mk.injEq] at hi
      refine .inr ⟨q, hq, i, ?_, by omega, rfl⟩
      simp only [RetirementIntent.key, hkey, hi]
    · exact .inl (Except.ok.inj h).symm

/-! ### publication -/

theorem publishableRecords_ok {c : Publish} {h : VectorizeHandoff} {fetched : List VectorRecordRow}
    (hf : s.publishableRecords c h = .ok fetched) :
    fetched = s.records.filter (isOfHandoff c.team h) ∧ fetched.length = h.vectorRecords.length ∧
      (∀ r ∈ fetched, r.publicationState = .withdrawn ∧ r.indexGeneration = h.indexGeneration) ∧
      (fetched.map VectorRecordRow.member).Perm h.vectorRecords := by
  unfold publishableRecords at hf
  obtain ⟨_, h₁, hf⟩ := bind_ok_iff.1 hf
  obtain ⟨_, h₂, hf⟩ := bind_ok_iff.1 hf
  obtain rfl := pure_ok_iff.1 hf
  rw [failIf_ok_iff, Bool.or_eq_false_iff, bne_eq_false_iff_eq, List.any_eq_false] at h₁
  rw [failIf_ok_iff, Bool.not_eq_false', List.isPerm_iff] at h₂
  refine ⟨rfl, h₁.1, fun r hr => ?_, h₂⟩
  have hr := h₁.2 r hr
  simpa using hr

theorem insertPublication_ok {p : ProofRow} {fetched : List VectorRecordRow} (h : s.insertPublication p fetched = .ok s') :
    (∀ q ∈ s.proofs, q.proof ≠ p.proof) ∧ (∀ m ∈ s.manifests, m.proof ≠ p.proof) ∧ ∃ itemEpoch,
      s' = { s with proofs := s.proofs ++ [p], manifests := s.manifests ++ [p.manifest itemEpoch fetched] } := by
  unfold insertPublication at h
  obtain ⟨proofs, hp, h⟩ := bind_ok_iff.1 h
  obtain ⟨i, -, h⟩ := bind_ok_iff.1 h
  obtain ⟨_, hm, h⟩ := bind_ok_iff.1 h
  obtain ⟨manifests, hmanifests, h⟩ := bind_ok_iff.1 h
  obtain rfl := pure_ok_iff.1 h
  obtain ⟨hfresh, rfl⟩ := insertUnique_eq_ok_iff.1 hp
  obtain ⟨-, rfl⟩ := insertUnique_eq_ok_iff.1 hmanifests
  rw [failIf_ok_iff, List.any_eq_false] at hm
  exact ⟨hfresh, fun m hmem => by simpa using hm m hmem, i.rowRevision, rfl⟩

/-- The pointer a publication moves. -/
def isSuperseded (p : ProofRow) (q r : PointerRow) : Bool :=
  r.key == q.key && r.pointerRowRevision == q.pointerRowRevision && decide (r.activeIndexGeneration < p.indexGeneration)

theorem promotePointer_ok {p : ProofRow} {now : Time} (h : s.promotePointer p now = .ok s') :
    (∀ q ∈ s.pointers, q.key ≠ (p.team, p.item, p.nspace)) ∧
        s' = { s with pointers := s.pointers ++ [p.firstPointer now] } ∨
      ∃ q ∈ s.pointers, q.key = (p.team, p.item, p.nspace) ∧ (∃ r ∈ s.pointers, isSuperseded p q r = true) ∧
        s' = { s with pointers := updateWhere (isSuperseded p q) (PointerRow.promote p now) s.pointers } := by
  unfold promotePointer at h
  split at h
  · rename_i hq
    exact .inl ⟨pointer?_eq_none hq, (Except.ok.inj h).symm⟩
  · rename_i q hq
    obtain ⟨hmem, hkey⟩ := pointer?_eq_some hq
    obtain ⟨pointers, hpointers, h⟩ := bind_ok_iff.1 h
    obtain rfl := pure_ok_iff.1 h
    have hr := exists_of_casWhere hpointers
    obtain ⟨-, rfl⟩ := casWhere_eq_ok_iff.1 hpointers
    exact .inr ⟨q, hmem, hkey, hr, rfl⟩

def Publish.transition (c : Publish) (i : ItemRow) (revision : RevisionId) (proof : ProofId) : TransitionRow where
  team := c.team
  item := i.item
  before := ⟨.active, i.latestRevision, i.servingRevision, i.rowRevision⟩
  after := ⟨.active, i.latestRevision, some revision, i.rowRevision + 1⟩
  fence := .publication i.item revision proof c.producer

/-- The state once the serving Revision has advanced. -/
def Publish.served (c : Publish) (i : ItemRow) (revision : RevisionId) (proof : ProofId) (s : Serving) : Serving :=
  { s with items := updateWhere (servesNext i revision) (ItemRow.serve revision) s.items }.record
    (c.transition i revision proof)

theorem publishRevision_ok {item : ItemId} {revision : RevisionId} {proof : ProofId} {nspace : NamespaceId}
    {generation : Nat} {c : Publish} (h : s.publishRevision item revision proof nspace generation c = .ok s') :
    (∃ i ∈ s.items, i.key = (c.team, item) ∧ i.servingRevision = some revision ∧ s' = s) ∨
      ∃ i ∈ s.items, i.key = (c.team, item) ∧ servesNext i revision i = true ∧ s' = c.served i revision proof s := by
  unfold publishRevision at h
  obtain ⟨i, hi, h⟩ := bind_ok_iff.1 h
  obtain ⟨hmem, hkey⟩ := item?_eq_some (required_ok_iff.1 hi)
  split at h
  · obtain ⟨_, hs, h⟩ := bind_ok_iff.1 h
    rw [failIf_ok_iff, bne_eq_false_iff_eq] at hs
    exact .inl ⟨i, hmem, hkey, hs, (pure_ok_iff.1 h).symm⟩
  · obtain ⟨_, hactive, h⟩ := bind_ok_iff.1 h
    obtain ⟨_, hlatest, h⟩ := bind_ok_iff.1 h
    obtain ⟨p, -, h⟩ := bind_ok_iff.1 h
    obtain ⟨_, -, h⟩ := bind_ok_iff.1 h
    obtain ⟨q, -, h⟩ := bind_ok_iff.1 h
    obtain ⟨_, -, h⟩ := bind_ok_iff.1 h
    obtain ⟨items, hitems, h⟩ := bind_ok_iff.1 h
    obtain rfl := pure_ok_iff.1 h
    obtain ⟨-, rfl⟩ := casWhere_eq_ok_iff.1 hitems
    rw [failIf_ok_iff, bne_eq_false_iff_eq] at hactive hlatest
    obtain rfl : i.item = item := (Prod.mk.inj hkey).2
    exact .inr ⟨i, hmem, hkey, by simp [servesNext, hactive, hlatest], rfl⟩

/-- The rows of a publication before its pointer moves. -/
def Publish.inserted (c : Publish) (h : VectorizeHandoff) (itemEpoch : Nat) (s : Serving) : Serving :=
  let fetched := s.records.filter (isOfHandoff c.team h)
  let p := c.proofRow h fetched
  { s with
    records := updateWhere (isOfHandoff c.team h) VectorRecordRow.index s.records
    proofs := s.proofs ++ [p]
    manifests := s.manifests ++ [p.manifest itemEpoch fetched] }

theorem publish_ok {grace : Nat} {c : Publish} (h : s.publish grace c = .ok s') :
    ∃ h ∈ s.handoffs, h.execution = c.producer.execution ∧ h.team = c.team ∧ ∃ fetched,
      s.publishableRecords c h = .ok fetched ∧
      (∀ q ∈ s.proofs, q.proof ≠ h.publicationProof) ∧ (∀ m ∈ s.manifests, m.proof ≠ h.publicationProof) ∧
      ∃ itemEpoch s₁ s₂ before, promotePointer (c.proofRow h fetched) c.now (c.inserted h itemEpoch s) = .ok s₁ ∧
        publishRevision h.item h.revision h.publicationProof h.nspace h.indexGeneration c
          { s₁ with namespaces := raiseNamespace c.team h.nspace h.indexGeneration s₁.namespaces } = .ok s₂ ∧
        s₂.retireSuperseded grace (c.proofRow h fetched) before = .ok s' := by
  unfold publish at h
  obtain ⟨h₀, hh, h⟩ := bind_ok_iff.1 h
  obtain ⟨_, -, h⟩ := bind_ok_iff.1 h
  obtain ⟨fetched, hfetched, h⟩ := bind_ok_iff.1 h
  obtain ⟨s₀, hs₀, h⟩ := bind_ok_iff.1 h
  obtain ⟨s₁, hs₁, h⟩ := bind_ok_iff.1 h
  obtain ⟨s₂, hs₂, h⟩ := bind_ok_iff.1 h
  rw [required_ok_iff] at hh
  have hof := List.find?_some hh
  simp only [Bool.and_eq_true, beq_iff_eq] at hof
  obtain ⟨hproof, hmanifest, itemEpoch, rfl⟩ := insertPublication_ok hs₀
  obtain ⟨rfl, -⟩ := publishableRecords_ok hfetched
  exact ⟨h₀, List.mem_of_find?_eq_some hh, hof.1, hof.2, _, hfetched, hproof, hmanifest, itemEpoch, s₁, s₂, _, hs₁, hs₂,
    h⟩

/-! ### index rebuild -/

/-- What `_revalidate_index_rebuild_plan_tx` has found of the Item. -/
def IndexRebuildPlan.IsTarget (team : TeamId) (p : IndexRebuildPlan) (i : ItemRow) : Prop :=
  i.key = (team, p.item) ∧ i.facts = ⟨.active, some p.revision, some p.revision, i.rowRevision⟩

theorem revalidatePlan_ok {team : TeamId} {p : IndexRebuildPlan} {i : ItemRow} {sources : List VectorRecordRow}
    (h : s.revalidatePlan team p = .ok (i, sources)) :
    i ∈ s.items ∧ p.IsTarget team i ∧ sources = s.records.filter (p.isSource team) := by
  unfold revalidatePlan at h
  obtain ⟨j, hj, h⟩ := bind_ok_iff.1 h
  obtain ⟨_, hf, h⟩ := bind_ok_iff.1 h
  obtain ⟨q, -, h⟩ := bind_ok_iff.1 h
  obtain ⟨_, -, h⟩ := bind_ok_iff.1 h
  obtain ⟨proof, -, h⟩ := bind_ok_iff.1 h
  obtain ⟨a, -, h⟩ := bind_ok_iff.1 h
  obtain ⟨_, -, h⟩ := bind_ok_iff.1 h
  obtain ⟨_, -, h⟩ := bind_ok_iff.1 h
  obtain ⟨_, -, h⟩ := bind_ok_iff.1 h
  obtain ⟨rfl, rfl⟩ := Prod.mk.inj (pure_ok_iff.1 h)
  obtain ⟨hmem, hkey⟩ := item?_eq_some (required_ok_iff.1 hj)
  rw [failIf_ok_iff] at hf
  simp only [Bool.or_eq_false_iff, bne_eq_false_iff_eq] at hf
  refine ⟨hmem, ⟨hkey, ?_⟩, rfl⟩
  unfold ItemRow.facts
  rw [hf.1.1.2, hf.1.2, hf.2]

/-- The state one plan of a rebuild commits before its retirement intent. -/
def IndexRebuild.cutOver (c : IndexRebuild) (p : IndexRebuildPlan) (sources records : List VectorRecordRow)
    (namespaces : List NamespaceRow) (s : Serving) : Serving :=
  { s with
    artifacts := s.artifacts ++ [p.artifactRow c.team c.producer]
    records := records
    proofs := s.proofs ++ [p.proofRow c.team c.producer sources]
    pointers := updateWhere (p.isFrozen c.team) (PointerRow.promote (p.proofRow c.team c.producer sources) c.now) s.pointers
    namespaces := namespaces }

theorem cloneRecords_ok {team : TeamId} {p : IndexRebuildPlan} {sources l l' : List VectorRecordRow}
    (h : cloneRecords team p sources l = .ok l') :
    l' = l ++ sources.map (p.clone team) ∧ ∀ r ∈ sources, ∀ q ∈ l, q.record ≠ p.newRecord r.record := by
  unfold cloneRecords at h
  induction sources generalizing l with
  | nil =>
    obtain rfl := Except.ok.inj h
    exact ⟨(List.append_nil l).symm, fun _ hr => absurd hr List.not_mem_nil⟩
  | cons r sources ih =>
    unfold foldEach at h
    obtain ⟨d, hd, hrest⟩ := bind_ok_iff.1 h
    obtain ⟨hfresh, rfl⟩ := insertUnique_eq_ok_iff.1 hd
    obtain ⟨rfl, hlater⟩ := ih hrest
    refine ⟨by rw [List.map_cons, List.append_assoc, List.singleton_append], fun q hq k hk => ?_⟩
    rcases List.mem_cons.1 hq with rfl | hq
    · exact hfresh k hk
    · exact hlater q hq k (List.mem_append_left _ hk)

def IndexRebuild.transition (c : IndexRebuild) (p : IndexRebuildPlan) (i : ItemRow) : TransitionRow where
  team := c.team
  item := p.item
  before := i.facts
  after := i.facts
  fence := .indexRebuild c.producer p.oldIndexGeneration p.nextIndexGeneration

theorem commitPlan_ok {grace : Nat} {c : IndexRebuild} {p : IndexRebuildPlan} (h : s.commitPlan grace c p = .ok s') :
    ∃ i ∈ s.items, p.IsTarget c.team i ∧ ∃ sources records namespaces,
      sources = s.records.filter (p.isSource c.team) ∧ cloneRecords c.team p sources s.records = .ok records ∧
      (∀ a ∈ s.artifacts, a.artifact ≠ p.generationArtifact) ∧ (∀ q ∈ s.proofs, q.proof ≠ p.publicationProof) ∧
      (∃ q ∈ s.pointers, p.isFrozen c.team q = true) ∧ ∃ s₁,
        scheduleRetirement grace c.team p.item p.nspace p.oldIndexGeneration p.nextIndexGeneration
          (p.pointerRowRevision + 1) (c.cutOver p sources records namespaces s) = .ok s₁ ∧
        s' = s₁.record (c.transition p i) := by
  unfold commitPlan at h
  obtain ⟨⟨i, sources⟩, hplan, h⟩ := bind_ok_iff.1 h
  obtain ⟨artifacts, ha, h⟩ := bind_ok_iff.1 h
  obtain ⟨records, hr, h⟩ := bind_ok_iff.1 h
  obtain ⟨proofs, hp, h⟩ := bind_ok_iff.1 h
  obtain ⟨pointers, hq, h⟩ := bind_ok_iff.1 h
  obtain ⟨namespaces, hn, h⟩ := bind_ok_iff.1 h
  obtain ⟨s₁, hs₁, h⟩ := bind_ok_iff.1 h
  have hs' := pure_ok_iff.1 h
  obtain ⟨hmem, htarget, hsources⟩ := revalidatePlan_ok hplan
  obtain ⟨hartifact, rfl⟩ := insertUnique_eq_ok_iff.1 ha
  obtain ⟨hproof, rfl⟩ := insertUnique_eq_ok_iff.1 hp
  have hpointer := exists_of_casWhere hq
  obtain ⟨-, rfl⟩ := casWhere_eq_ok_iff.1 hq
  refine ⟨i, hmem, htarget, sources, records, namespaces, hsources, hr, hartifact, hproof, hpointer, s₁, hs₁, ?_⟩
  have hserving : i.servingRevision = some p.revision := congrArg ItemFacts.servingRevision htarget.2
  rw [← hs', IndexRebuild.transition, htarget.2, hserving]

/-! ### retirement, purge and cleanup -/

theorem discoverRetirement_ok {grace : Nat} {team : TeamId} {item : ItemId} {nspace : NamespaceId} {retired : Nat}
    (h : s.discoverRetirement grace team item nspace retired = .ok s') :
    ∃ p ∈ s.pointers, p.key = (team, item, nspace) ∧ retired < p.activeIndexGeneration ∧
      ∃ i, i.key = (team, item, nspace, retired) ∧
        s' = { s with retirements := insertOrIgnore (fun q => q.key == RetirementIntent.key i) i s.retirements } := by
  unfold discoverRetirement at h
  obtain ⟨_, -, h⟩ := bind_ok_iff.1 h
  obtain ⟨_, -, h⟩ := bind_ok_iff.1 h
  exact scheduleRetirement_ok h

theorem softPurge_ok {i : RetirementIntent} {now : Time} (h : s.softPurge i now = .ok s') :
    i ∈ s.retirements ∧ s' = s.retireGeneration i now := by
  unfold softPurge at h
  obtain ⟨_, hf, h⟩ := bind_ok_iff.1 h
  rw [failIf_ok_iff, Bool.or_eq_false_iff, Bool.not_eq_false', List.contains_iff_mem] at hf
  refine ⟨hf.1, ?_⟩
  split at h
  · exact (pure_ok_iff.1 h).symm
  · obtain ⟨_, -, h⟩ := bind_ok_iff.1 h
    exact (pure_ok_iff.1 h).symm

theorem purgeGeneration_ok {c : PurgeGeneration} (h : s.purgeGeneration c = .ok s') :
    s' = { s with records := updateWhere c.isTarget (VectorRecordRow.softDelete c.now) s.records } := by
  unfold purgeGeneration at h
  obtain ⟨_, -, h⟩ := bind_ok_iff.1 h
  obtain ⟨_, -, h⟩ := bind_ok_iff.1 h
  exact (pure_ok_iff.1 h).symm

def isOfItem (team : TeamId) (item : ItemId) (r : VectorRecordRow) : Bool := r.team == team && r.item == item

theorem cleanupVectors_ok {team : TeamId} {item : ItemId} {now : Time} (h : s.cleanupVectors team item now = .ok s') :
    (team, item) ∈ s.deleteCleanups ∧
      s' = { s with records := updateWhere (isOfItem team item) (VectorRecordRow.erase now) s.records } := by
  unfold cleanupVectors at h
  obtain ⟨_, hf, h⟩ := bind_ok_iff.1 h
  rw [failIf_ok_iff, Bool.not_eq_false', List.contains_iff_mem] at hf
  exact ⟨hf, (pure_ok_iff.1 h).symm⟩

end Serving

end KnowledgeBase
