import KnowledgeBase.Serving.Keys

/-!
# The Item ledger

The transition rows of an Item replay to its current columns from an Item without Revisions at revision 0, as long
as no human-review decision finds an Item to change: that writer alone moves the lifecycle, the serving Revision and
the row revision without a ledger row.
-/

namespace KnowledgeBase

open Checked Relational

/-- Where the transitions lead from the facts, if each starts where the one before has ended. -/
def replay : ItemFacts → List TransitionRow → Option ItemFacts
  | f, [] => some f
  | f, t :: l => if t.before = f then replay t.after l else none

theorem replay_append {f g : ItemFacts} {l : List TransitionRow} {t : TransitionRow} (h : replay f l = some g)
    (ht : t.before = g) : replay f (l ++ [t]) = some t.after := by
  induction l generalizing f with
  | nil =>
    obtain rfl := Option.some.inj h
    simp only [List.nil_append, replay, if_pos ht]
  | cons u l ih =>
    unfold replay at h
    split at h
    · rename_i hu
      simp only [List.cons_append, replay, if_pos hu]
      exact ih h
    · cases h

namespace Serving

/-- The transition rows of an Item, in commit order. -/
def ledger (s : Serving) (key : TeamId × ItemId) : List TransitionRow := s.transitions.filter fun t => t.key == key

/-- The rows of the Item replay from an Item without Revisions at revision 0 to its current columns. -/
def LedgerComplete (s : Serving) : Prop :=
  ∀ i ∈ s.items, s.ledger i.key ≠ [] ∧ ∃ lifecycle, replay ⟨lifecycle, none, none, 0⟩ (s.ledger i.key) = some i.facts

/-- What the writers keep while they work: the chains, of which a new Item may have none yet. -/
structure LedgerChained (s : Serving) : Prop where
  chain : ∀ i ∈ s.items, ∃ lifecycle, replay ⟨lifecycle, none, none, 0⟩ (s.ledger i.key) = some i.facts
  owned : ∀ t ∈ s.transitions, ∃ i ∈ s.items, i.key = t.key

variable {s s' : Serving}

theorem ledger_append_self (s : Serving) {t : TransitionRow} {k : TeamId × ItemId} (h : t.key = k) :
    (s.record t).ledger k = s.ledger k ++ [t] := by
  unfold ledger record
  rw [List.filter_append, List.filter_singleton, h]
  simp

theorem ledger_append_of_ne (s : Serving) {t : TransitionRow} {k : TeamId × ItemId} (h : t.key ≠ k) :
    (s.record t).ledger k = s.ledger k := by
  unfold ledger record
  rw [List.filter_append, List.filter_singleton, beq_false_of_ne h]
  simp

theorem LedgerChained.ledger_eq_nil (h : s.LedgerChained) {k : TeamId × ItemId} (hk : ∀ i ∈ s.items, i.key ≠ k) :
    s.ledger k = [] := by
  unfold ledger
  rw [List.filter_eq_nil_iff]
  intro t ht hkey
  obtain ⟨i, hi, hit⟩ := h.owned t ht
  exact hk i hi (hit.trans (beq_iff_eq.1 hkey))

/-! ### one recorded change -/

/-- The items of the next state are those of the last, the one of the row at the row's after values. -/
structure Changes (items items' : List ItemRow) (t : TransitionRow) : Prop where
  keys : ∀ i ∈ items, ∃ j ∈ items', j.key = i.key
  rows : ∀ j ∈ items', j ∈ items ∧ j.key ≠ t.key ∨ j.key = t.key ∧ j.facts = t.after

theorem changes_updateWhere (hs : (s.items.map ItemRow.key).Nodup) {i : ItemRow} (hi : i ∈ s.items) {c : ItemRow → Bool}
    {f : ItemRow → ItemRow} {t : TransitionRow} (hf : ∀ j, (f j).key = j.key) (hc : ∀ j, c j = true → j.key = i.key)
    (hci : c i = true) (ht : t.key = i.key) (hafter : t.after = (f i).facts) :
    Changes s.items (updateWhere c f s.items) t := by
  constructor
  · intro j hj
    refine ⟨_, mem_updateWhere_of_mem hj, ?_⟩
    split
    · exact hf j
    · rfl
  · intro j hj
    rcases mem_updateWhere_key hs hi hc hci hj with ⟨hmem, hne⟩ | rfl
    · exact .inl ⟨hmem, by rw [ht]; exact hne⟩
    · exact .inr ⟨by rw [hf, ht], hafter.symm⟩

theorem changes_refl (hs : (s.items.map ItemRow.key).Nodup) {i : ItemRow} (hi : i ∈ s.items) {t : TransitionRow}
    (ht : t.key = i.key) (hafter : t.after = i.facts) : Changes s.items s.items t := by
  constructor
  · exact fun j hj => ⟨j, hj, rfl⟩
  · intro j hj
    by_cases hkey : j.key = i.key
    · obtain rfl := eq_of_key hs hj hi hkey
      exact .inr ⟨ht.symm, hafter.symm⟩
    · exact .inl ⟨hj, by rw [ht]; exact hkey⟩

theorem LedgerChained.recorded (h : s.LedgerChained) {i : ItemRow} (hi : i ∈ s.items) {t : TransitionRow}
    (ht : t.key = i.key) (hbefore : t.before = i.facts) {items : List ItemRow} (hc : Changes s.items items t) :
    ({ s with items := items }.record t).LedgerChained := by
  constructor
  · intro j hj
    rcases hc.rows j hj with ⟨hmem, hne⟩ | ⟨hkey, hfacts⟩
    · obtain ⟨lifecycle, hchain⟩ := h.chain j hmem
      refine ⟨lifecycle, ?_⟩
      rw [ledger_append_of_ne _ hne.symm]
      exact hchain
    · obtain ⟨lifecycle, hchain⟩ := h.chain i hi
      refine ⟨lifecycle, ?_⟩
      rw [ledger_append_self _ hkey.symm, hfacts, hkey, ht]
      exact replay_append hchain hbefore
  · intro u hu
    rcases List.mem_append.1 hu with hu | hu
    · obtain ⟨j, hj, hkey⟩ := h.owned u hu
      obtain ⟨k, hk, hkj⟩ := hc.keys j hj
      exact ⟨k, hk, hkj.trans hkey⟩
    · obtain rfl := List.mem_singleton.1 hu
      obtain ⟨k, hk, hki⟩ := hc.keys i hi
      exact ⟨k, hk, hki.trans ht.symm⟩

theorem ledger_ne_nil_recorded {t : TransitionRow} {items : List ItemRow} (hc : Changes s.items items t)
    (h : ∀ j ∈ s.items, j.key ≠ t.key → s.ledger j.key ≠ []) :
    ∀ j ∈ items, ({ s with items := items }.record t).ledger j.key ≠ [] := by
  intro j hj
  rcases hc.rows j hj with ⟨hmem, hne⟩ | ⟨hkey, -⟩
  · rw [ledger_append_of_ne _ hne.symm]
    exact h j hmem hne
  · rw [ledger_append_self _ hkey.symm]
    simp

/-- The invariant of the ledger: the chains, and no Item without a row. -/
structure LedgerInvariant (s : Serving) : Prop where
  chained : s.LedgerChained
  recorded : ∀ i ∈ s.items, s.ledger i.key ≠ []

theorem LedgerInvariant.complete (h : s.LedgerInvariant) : s.LedgerComplete :=
  fun i hi => ⟨h.recorded i hi, h.chained.chain i hi⟩

theorem LedgerInvariant.congr (h : s.LedgerInvariant) (hitems : s'.items = s.items)
    (htransitions : s'.transitions = s.transitions) : s'.LedgerInvariant := by
  have hledger (k : TeamId × ItemId) : s'.ledger k = s.ledger k := congrArg (List.filter _) htransitions
  refine ⟨⟨fun i hi => ?_, fun t ht => ?_⟩, fun i hi => ?_⟩
  · rw [hledger]
    exact h.chained.chain i (hitems ▸ hi)
  · rw [hitems]
    exact h.chained.owned t (htransitions ▸ ht)
  · rw [hledger]
    exact h.recorded i (hitems ▸ hi)

theorem LedgerInvariant.record (h : s.LedgerInvariant) {i : ItemRow} (hi : i ∈ s.items) {t : TransitionRow}
    (ht : t.key = i.key) (hbefore : t.before = i.facts) {items : List ItemRow} (hc : Changes s.items items t) :
    ({ s with items := items }.record t).LedgerInvariant :=
  ⟨h.chained.recorded hi ht hbefore hc, ledger_ne_nil_recorded hc fun j hj _ => h.recorded j hj⟩

theorem ledgerInvariant_empty : Serving.empty.LedgerInvariant :=
  ⟨⟨fun _ h => absurd h List.not_mem_nil, fun _ h => absurd h List.not_mem_nil⟩, fun _ h => absurd h List.not_mem_nil⟩

/-! ### acceptance -/

theorem chained_itemsOffered (h : s.LedgerChained) (c : AcceptSnapshot) :
    ({ s with items := c.itemsOffered s } : Serving).LedgerChained := by
  constructor
  · intro i hi
    rcases mem_insertOrIgnore hi with hi | ⟨rfl, hclash⟩
    · exact h.chain i hi
    · refine ⟨c.newItem.lifecycleState, ?_⟩
      have hnil : s.ledger c.newItem.key = [] := h.ledger_eq_nil fun j hj hkey => by
        have hj := hclash j hj
        simp [itemClash, hkey] at hj
      show replay _ (s.ledger c.newItem.key) = _
      rw [hnil]
      rfl
  · intro t ht
    obtain ⟨i, hi, hkey⟩ := h.owned t ht
    exact ⟨i, subset_insertOrIgnore hi, hkey⟩

theorem ledger_acceptSnapshot (hs : s.Keyed) (h : s.LedgerInvariant) {c : AcceptSnapshot}
    (hc : s.acceptSnapshot c = .ok s') : s'.LedgerInvariant := by
  have hnodup := nodup_itemsOffered hs c
  have hchained := chained_itemsOffered h.chained c
  obtain ⟨before, hmem, hkey, ⟨hlatest, rfl⟩ | ⟨-, ⟨q, hq, hadv⟩, rfl⟩⟩ := acceptSnapshot_ok hc
  · -- an Item with a latest Revision is not the one offered now, so it has its rows
    have hoffered : ({ s with items := c.itemsOffered s } : Serving).LedgerInvariant := by
      refine ⟨hchained, fun i hi => ?_⟩
      rcases mem_insertOrIgnore hi with hi | ⟨rfl, -⟩
      · exact h.recorded i hi
      · have hnew : before = c.newItem := eq_of_key hnodup hmem hi hkey
        rw [hnew] at hlatest
        cases hlatest
    exact hoffered.congr rfl rfl
  · have hq' := hadv
    simp only [AcceptSnapshot.advances, Bool.and_eq_true, beq_iff_eq] at hq'
    obtain rfl := eq_of_key hnodup hq hmem (hq'.1.1.trans hkey.symm)
    have hchanges : Changes (c.itemsOffered s)
        (updateWhere (c.advances q.rowRevision) (ItemRow.accept c.revision) (c.itemsOffered s)) (c.transition q) := by
      refine changes_updateWhere (s := { s with items := c.itemsOffered s }) hnodup hmem (ItemRow.key_accept c.revision)
        (fun j hj => ?_) hadv hkey.symm rfl
      simp only [AcceptSnapshot.advances, Bool.and_eq_true, beq_iff_eq] at hj
      exact hj.1.1.trans hkey.symm
    have hadvanced : (c.advanced q s).LedgerInvariant := by
      refine ⟨hchained.recorded (t := c.transition q) hmem hkey.symm rfl hchanges,
        ledger_ne_nil_recorded (s := { s with items := c.itemsOffered s }) hchanges fun j hj hne => ?_⟩
      rcases mem_insertOrIgnore hj with hj | ⟨rfl, -⟩
      · exact h.recorded j hj
      · exact absurd rfl hne
    exact hadvanced.congr rfl rfl

theorem ledger_insertMember (h : s.LedgerInvariant) {c : AcceptCollection} {m : CollectionMember}
    (hm : s.insertMember c m = .ok s') : s'.LedgerInvariant := by
  obtain ⟨hclash, rfl⟩ := insertMember_ok hm
  have hfresh (j : ItemRow) (hj : j ∈ s.items) : (c.transition m).key ≠ j.key := fun he => by
    have hj := hclash j hj
    have hkey : j.key = (c.newItem m).key := he.symm
    simp [itemClash, hkey] at hj
  have hnil : s.ledger (c.transition m).key = [] := h.chained.ledger_eq_nil fun j hj he => hfresh j hj he.symm
  have hkey : (c.transition m).key = (c.newItem m).key := rfl
  have hrow (i : ItemRow) (hi : i ∈ s.items ++ [c.newItem m]) : i ∈ s.items ∨ i = c.newItem m :=
    (List.mem_append.1 hi).imp_right List.mem_singleton.1
  refine ⟨⟨fun i hi => ?_, fun t ht => ?_⟩, fun i hi => ?_⟩
  · rcases hrow i hi with hi | rfl
    · rw [ledger_append_of_ne _ (hfresh i hi)]
      exact h.chained.chain i hi
    · refine ⟨.active, ?_⟩
      rw [ledger_append_self _ hkey]
      show replay _ (s.ledger (c.transition m).key ++ [c.transition m]) = _
      rw [hnil]
      rfl
  · rcases List.mem_append.1 ht with ht | ht
    · obtain ⟨i, hi, hkey⟩ := h.chained.owned t ht
      exact ⟨i, List.mem_append_left _ hi, hkey⟩
    · obtain rfl := List.mem_singleton.1 ht
      exact ⟨c.newItem m, List.mem_append_right _ List.mem_cons_self, rfl⟩
  · rcases hrow i hi with hi | rfl
    · rw [ledger_append_of_ne _ (hfresh i hi)]
      exact h.recorded i hi
    · rw [ledger_append_self _ hkey]
      simp

theorem ledger_acceptCollection (h : s.LedgerInvariant) {c : AcceptCollection}
    (hc : s.acceptCollection c = .ok s') : s'.LedgerInvariant :=
  foldEach_preserves (fun _ _ _ _ hd hm => ledger_insertMember hd hm) h hc

/-! ### rebuild, metadata update and lifecycle commands -/

theorem ledger_acceptRebuild (hs : s.Keyed) (h : s.LedgerInvariant) {t : FrozenTarget} {producer : ProcessFence}
    (ht : s.acceptRebuild t producer = .ok s') : s'.LedgerInvariant := by
  obtain ⟨i, hi, hkey, hfacts, rfl⟩ := acceptRebuild_ok ht
  exact h.record (t := unchangedTransition t i (.rebuild producer)) hi hkey.symm hfacts.symm
    (changes_refl hs.items hi hkey.symm hfacts.symm)

theorem ledger_acceptMetadataUpdate (hs : s.Keyed) (h : s.LedgerInvariant) {t : FrozenTarget}
    {metadataRevision : Option RevisionId} {producer : ProcessFence}
    (ht : s.acceptMetadataUpdate t metadataRevision producer = .ok s') : s'.LedgerInvariant := by
  obtain ⟨i, hi, hkey, hfacts, rfl | ⟨revision, rfl⟩⟩ := acceptMetadataUpdate_ok ht
  · exact h.record (t := unchangedTransition t i (.metadataNoChange producer)) hi hkey.symm hfacts.symm
      (changes_refl hs.items hi hkey.symm hfacts.symm)
  · have hlatest : i.latestRevision = some t.revision := congrArg ItemFacts.latestRevision hfacts
    have hactive : i.lifecycleState = .active := congrArg ItemFacts.lifecycleState hfacts
    refine h.record (t := t.transition i revision producer) hi hkey.symm hfacts.symm
      (changes_updateWhere hs.items hi (ItemRow.key_accept revision) (fun j hj => ?_) ?_ hkey.symm ?_)
    · simp only [FrozenTarget.isFrozen, Bool.and_eq_true, beq_iff_eq] at hj
      exact hj.1.1.trans hkey.symm
    · simp [FrozenTarget.isFrozen, hkey, hlatest]
    · simp [ItemRow.facts, ItemRow.accept, FrozenTarget.transition, hactive]

theorem ledger_applied (hs : s.Keyed) (h : s.LedgerInvariant) (c : LifecycleCommand) {i : ItemRow} (hi : i ∈ s.items)
    (hkey : i.key = (c.team, c.item)) (target : IntakeLifecycle) : (c.applied i target s).LedgerInvariant := by
  have hchanges : Changes s.items (updateWhere (isAt i) (ItemRow.transition target c.now) s.items)
      (c.transition i target) := by
    refine changes_updateWhere hs.items hi (ItemRow.key_transition target c.now) (fun j hj => ?_) ?_ hkey.symm rfl
    · simp only [isAt, Bool.and_eq_true, beq_iff_eq] at hj
      exact hj.1.1
    · simp [isAt]
  refine (h.record (t := c.transition i target) hi hkey.symm rfl hchanges).congr ?_ ?_
  · unfold LifecycleCommand.applied
    split <;> rfl
  · unfold LifecycleCommand.applied
    split <;> rfl

theorem ledger_applyLifecycle (hs : s.Keyed) (h : s.LedgerInvariant) {c : LifecycleCommand}
    (hc : s.applyLifecycle c = .ok s') : s'.LedgerInvariant := by
  obtain rfl | ⟨i, hi, hkey, target, -, rfl⟩ := applyLifecycle_ok hc
  · exact h
  · exact ledger_applied hs h c hi hkey target

/-! ### publication and rebuild of the index -/

theorem ledger_publishRevision (hs : s.Keyed) (h : s.LedgerInvariant) {item : ItemId} {revision : RevisionId}
    {proof : ProofId} {nspace : NamespaceId} {generation : Nat} {c : Publish}
    (hp : s.publishRevision item revision proof nspace generation c = .ok s') : s'.LedgerInvariant := by
  obtain ⟨i, -, -, -, rfl⟩ | ⟨i, hi, hkey, hserves, rfl⟩ := publishRevision_ok hp
  · exact h
  · have hfields := hserves
    simp only [servesNext, Bool.and_eq_true, beq_iff_eq] at hfields
    have hteam : i.team = c.team := (Prod.mk.inj hkey).1
    have htkey : (c.transition i revision proof).key = i.key := Prod.ext hteam.symm rfl
    refine h.record (t := c.transition i revision proof) hi htkey ?_
      (changes_updateWhere hs.items hi (ItemRow.key_serve revision) (fun j hj => ?_) hserves htkey ?_)
    · simp [ItemRow.facts, Publish.transition, hfields.1.1.2]
    · simp only [servesNext, Bool.and_eq_true, beq_iff_eq] at hj
      exact hj.1.1.1
    · simp [ItemRow.facts, ItemRow.serve, Publish.transition, hfields.1.1.2]

theorem items_promotePointer {p : ProofRow} {now : Time} (h : s.promotePointer p now = .ok s') :
    s'.items = s.items ∧ s'.transitions = s.transitions := by
  obtain ⟨-, rfl⟩ | ⟨q, -, -, -, rfl⟩ := promotePointer_ok h
  · exact ⟨rfl, rfl⟩
  · exact ⟨rfl, rfl⟩

theorem ledger_publish (hs : s.Keyed) (h : s.LedgerInvariant) {grace : Nat} {c : Publish}
    (hp : s.publish grace c = .ok s') : s'.LedgerInvariant := by
  obtain ⟨h₀, -, -, -, fetched, -, hproof, -, itemEpoch, s₁, s₂, before, h₁, h₂, h₃⟩ := publish_ok hp
  have hinserted := (advances_inserted hs c itemEpoch hproof).keyed
  have hpromoted := (advances_promotePointer hinserted h₁).keyed
  obtain ⟨hitems, htransitions⟩ := items_promotePointer h₁
  have hraised : ({ s₁ with
      namespaces := raiseNamespace c.team h₀.nspace h₀.indexGeneration s₁.namespaces } : Serving).Keyed := { hpromoted with }
  have hserved := ledger_publishRevision hraised (h.congr hitems htransitions) h₂
  obtain rfl | ⟨q, -, j, -, -, rfl⟩ := retireSuperseded_ok h₃
  · exact hserved
  · exact hserved.congr rfl rfl

theorem ledger_commitPlan (hs : s.Keyed) (h : s.LedgerInvariant) {grace : Nat} {c : IndexRebuild} {p : IndexRebuildPlan}
    (hp : s.commitPlan grace c p = .ok s') : s'.LedgerInvariant := by
  obtain ⟨i, hi, ⟨hkey, -⟩, sources, records, namespaces, -, -, -, -, -, s₁, h₁, rfl⟩ := commitPlan_ok hp
  obtain ⟨q, -, -, -, j, -, rfl⟩ := scheduleRetirement_ok h₁
  have hchanges : Changes s.items s.items (c.transition p i) := changes_refl hs.items hi hkey.symm rfl
  exact (h.record (t := c.transition p i) hi hkey.symm rfl hchanges).congr rfl rfl

theorem ledger_indexRebuild (hs : s.Keyed) (h : s.LedgerInvariant) {grace : Nat} {c : IndexRebuild}
    (hc : s.indexRebuild grace c = .ok s') : s'.LedgerInvariant := by
  refine (foldEach_preserves (P := fun d => d.Keyed ∧ d.LedgerInvariant) (fun d d' p _ hd hp => ?_) ⟨hs, h⟩ hc).2
  exact ⟨(advances_commitPlan hd.1 hp).keyed, ledger_commitPlan hd.1 hd.2 hp⟩

end Serving

/-! ### runs -/

open Serving

/-- A human-review decision that finds no Item to change: no member to approve is deactivated, none to reject is
active. -/
def ReviewsNoItem (s : Serving) : ServingStep → Prop
  | .humanReview team snapshot .approve => ∀ i ∈ s.items, s.isMember team snapshot i = true → i.lifecycleState ≠ .deactivated
  | .humanReview team snapshot .reject => ∀ i ∈ s.items, s.isMember team snapshot i = true → i.lifecycleState ≠ .active
  | _ => True

theorem applyHumanReview_of_reviewsNoItem {s : Serving} {team : TeamId} {snapshot : SnapshotId} {decision : ReviewDecision}
    (h : ReviewsNoItem s (.humanReview team snapshot decision)) : s.applyHumanReview team snapshot decision = s := by
  cases decision with
  | approve =>
    have hitems : updateWhere (fun i => i.lifecycleState == .deactivated && s.isMember team snapshot i) ItemRow.approve
        s.items = s.items := by
      refine updateWhere_of_forall fun i hi => ?_
      cases hm : s.isMember team snapshot i with
      | false => simp
      | true => simp [h i hi hm]
    simp only [applyHumanReview, hitems]
  | reject =>
    have hitems : updateWhere (fun i => i.lifecycleState == .active && s.isMember team snapshot i) ItemRow.reject
        s.items = s.items := by
      refine updateWhere_of_forall fun i hi => ?_
      cases hm : s.isMember team snapshot i with
      | false => simp
      | true => simp [h i hi hm]
    simp only [applyHumanReview, hitems]

theorem ledger_transact {s s' : Serving} (hs : s.Keyed) (h : s.LedgerInvariant) {grace : Nat} {t : ServingStep}
    (hc : ReviewsNoItem s t) (ht : t.transact grace s = .ok s') : s'.LedgerInvariant := by
  cases t with
  | acceptSnapshot c => exact ledger_acceptSnapshot hs h ht
  | acceptCollection c => exact ledger_acceptCollection h ht
  | acceptRebuild t producer => exact ledger_acceptRebuild hs h ht
  | acceptMetadataUpdate t metadataRevision producer => exact ledger_acceptMetadataUpdate hs h ht
  | lifecycle c => exact ledger_applyLifecycle hs h ht
  | humanReview team snapshot decision =>
    obtain rfl := Except.ok.inj ht
    rw [applyHumanReview_of_reviewsNoItem hc]
    exact h
  | acceptConstruct a =>
    obtain ⟨-, -, rfl⟩ := acceptConstruct_ok ht
    exact h.congr rfl rfl
  | vectorize c =>
    obtain ⟨-, -, -, namespaces, records, -, rfl⟩ := vectorize_ok ht
    exact h.congr rfl rfl
  | publish c => exact ledger_publish hs h ht
  | indexRebuild c => exact ledger_indexRebuild hs h ht
  | discoverRetirement team item nspace retired =>
    obtain ⟨p, -, -, -, i, -, rfl⟩ := discoverRetirement_ok ht
    exact h.congr rfl rfl
  | softPurge i now =>
    obtain ⟨-, rfl⟩ := softPurge_ok ht
    exact h.congr rfl rfl
  | purgeGeneration c =>
    obtain rfl := purgeGeneration_ok ht
    exact h.congr rfl rfl
  | cleanupVectors team item now =>
    obtain ⟨-, rfl⟩ := cleanupVectors_ok ht
    exact h.congr rfl rfl

variable (grace : Nat)

/-- The ledger is complete in every state of a run whose human-review decisions find no Item to change. -/
theorem itemLedger (l : List ServingStep) (hl : StepsMeet (servingStep grace) ReviewsNoItem .empty l) :
    (runFrom (servingStep grace) .empty l).LedgerComplete := by
  have hstep (s : Serving) (t : ServingStep) (hs : s.Keyed ∧ s.LedgerInvariant) (hc : ReviewsNoItem s t) :
      (servingStep grace s t).Keyed ∧ (servingStep grace s t).LedgerInvariant := by
    refine ⟨(advances_step hs.1 grace t).keyed, ?_⟩
    obtain h | h := servingStep_cases grace (s := s) (t := t)
    · rw [h]
      exact hs.2
    · exact ledger_transact hs.1 hs.2 hc h
  exact (runFrom_invariant hstep ⟨keyed_empty, ledgerInvariant_empty⟩ hl).2.complete

/-- A publication, and a review of its Snapshot that finds the Item active already. -/
theorem itemLedger_published :
    (runFrom (servingStep 3600) .empty (samplePublication ++ [.humanReview 1 1 .approve])).LedgerComplete :=
  itemLedger 3600 _ ⟨trivial, trivial, trivial, trivial, by simp only [ReviewsNoItem]; decide, trivial⟩

/-- An Item accepted for review and approved: its row revision is 2, its only row ends at 1. -/
theorem itemLedger_approved : ¬ ∀ grace l, (runFrom (servingStep grace) .empty l).LedgerComplete := by
  intro h
  obtain ⟨-, lifecycle, hreplay⟩ := h 3600 [.acceptSnapshot (sampleAccept true), .humanReview 1 1 .approve]
    ⟨1, 1, 1, 1, .active, some 10, none, 2, none⟩ List.mem_cons_self
  cases lifecycle with
  | active => exact absurd hreplay (by decide)
  | deactivated => exact absurd hreplay (by decide)
  | deleted => exact absurd hreplay (by decide)

end KnowledgeBase
