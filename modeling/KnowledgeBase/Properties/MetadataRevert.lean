import KnowledgeBase.Properties.MetadataDisposition
import KnowledgeBase.Serving.Keys
import KnowledgeBase.Serving.Revisions

/-!
# Reverted metadata

A metadata update appends a Revision under a unique fingerprint. `metadataRevert_exact` says which sequences of
updates, each frozen against the current Revision, are all accepted and leave the merge as the current semantics:
those that never come back to the semantics of an older Revision.
-/

namespace KnowledgeBase

open Checked Relational Serving

namespace IntakeStore

variable {casefold : Text → Text} {s s' : IntakeStore} {team : TeamId} {item : ItemId}

/-! ### one Item -/

/-- The latest Revision of the Item. -/
def current? (s : IntakeStore) (team : TeamId) (item : ItemId) : Option RevisionRow :=
  (s.serving.item? team item).bind fun i => i.latestRevision.bind (s.revision? team item)

/-- An active Item with its latest Revision, in a store of unique Items that keeps the fingerprints of its
semantics. -/
structure HasActive (s : IntakeStore) (team : TeamId) (item : ItemId) : Prop where
  keyed : (s.serving.items.map ItemRow.key).Nodup
  active : ∀ i, s.serving.item? team item = some i → i.lifecycleState = .active
  current : (s.current? team item).isSome = true
  fingerprints : ∀ r ∈ s.ofItem team item, r.revisionFingerprint = r.semantics.fingerprint

theorem mem_ofItem {r : RevisionRow} : r ∈ s.ofItem team item ↔ r ∈ s.revisions ∧ r.team = team ∧ r.item = item := by
  unfold ofItem
  rw [List.mem_filter, Bool.and_eq_true, beq_iff_eq, beq_iff_eq]

theorem current?_eq_some {row : RevisionRow} (h : s.current? team item = some row) :
    ∃ i, s.serving.item? team item = some i ∧ i.latestRevision = some row.revision ∧
      s.revision? team item row.revision = some row ∧ row ∈ s.ofItem team item := by
  unfold current? at h
  obtain ⟨i, hi, h⟩ := Option.bind_eq_some_iff.1 h
  obtain ⟨revision, hlatest, h⟩ := Option.bind_eq_some_iff.1 h
  have hrow : row.revision = revision := by simpa using List.find?_some h
  obtain rfl := hrow
  exact ⟨i, hi, hlatest, h, List.mem_of_find?_eq_some h⟩

theorem le_highestOrdinal {r : RevisionRow} (h : r ∈ s.ofItem team item) :
    r.revisionOrdinal ≤ s.highestOrdinal team item := by
  unfold highestOrdinal
  revert h
  induction s.ofItem team item with
  | nil => exact fun h => absurd h List.not_mem_nil
  | cons q l ih =>
    intro h
    rw [List.map_cons, List.foldr_cons]
    rcases List.mem_cons.1 h with rfl | h
    · exact Nat.le_max_left _ _
    · exact Nat.le_trans (ih h) (Nat.le_max_right _ _)

/-! ### one update -/

/-- A submission with the identity of the Revision it may append and the Process that accepts it. -/
structure MetadataUpdate where
  semantics : MetadataSubmission
  fresh : RevisionId
  producer : ProcessFence

/-- An update frozen against the current Revision and accepted with no other writer in between. -/
def updateMetadata (casefold : Text → Text) (team : TeamId) (item : ItemId) (s : IntakeStore) (u : MetadataUpdate) :
    Except MkbError IntakeStore := do
  let frozen ← s.resolveMetadataUpdate team item u.semantics
  s.acceptMetadataUpdate casefold frozen u.fresh u.producer

/-- The current semantics of the second store are the merge of those of the first with the submission. -/
def MakesMerge (casefold : Text → Text) (team : TeamId) (item : ItemId) (s : IntakeStore) (u : MetadataUpdate)
    (s' : IntakeStore) : Prop :=
  ∃ row row', s.current? team item = some row ∧ s'.current? team item = some row' ∧
    mergedMetadataSemantics casefold row.semantics u.semantics = .ok row'.semantics

/-- The merge is defined, and unless it changes nothing no Revision of the Item has its fingerprint. -/
def FindsNoOlder (casefold : Text → Text) (team : TeamId) (item : ItemId) (s : IntakeStore) (u : MetadataUpdate) :
    Prop :=
  ∃ row merged, s.current? team item = some row ∧
    mergedMetadataSemantics casefold row.semantics u.semantics = .ok merged ∧
    (merged.fingerprint = row.revisionFingerprint ∨
      ∀ r ∈ s.ofItem team item, r.revisionFingerprint ≠ merged.fingerprint)

def frozenUpdate (team : TeamId) (item : ItemId) (i : ItemRow) (row : RevisionRow) (u : MetadataUpdate) :
    FrozenMetadataUpdate :=
  ⟨⟨team, item, i.rowRevision, row.revision⟩, row.revisionFingerprint, row.semantics, u.semantics⟩

/-- The Revision that an update appends. -/
def appendedRow (team : TeamId) (item : ItemId) (s : IntakeStore) (row : RevisionRow) (u : MetadataUpdate)
    (merged : RevisionSemantics) : RevisionRow where
  team := team
  revision := u.fresh
  item := item
  revisionOrdinal := s.highestOrdinal team item + 1
  predecessor := some row.revision
  revisionFingerprint := merged.fingerprint
  semantics := merged

/-- The ledger row of an update without change. -/
def noChangeRow (team : TeamId) (item : ItemId) (i : ItemRow) (row : RevisionRow) (u : MetadataUpdate) : TransitionRow :=
  unchangedTransition ⟨team, item, i.rowRevision, row.revision⟩ i (.metadataNoChange u.producer)

/-- The store with the Revision appended and the Item advanced to it. -/
def appended (team : TeamId) (item : ItemId) (s : IntakeStore) (i : ItemRow) (row : RevisionRow) (u : MetadataUpdate)
    (merged : RevisionSemantics) : IntakeStore :=
  { s with
    serving := FrozenTarget.appended ⟨team, item, i.rowRevision, row.revision⟩ i u.fresh u.producer s.serving
    revisions := s.revisions ++ [appendedRow team item s row u merged] }

theorem resolveMetadataUpdate_eq (h : s.HasActive team item) {i : ItemRow} {row : RevisionRow} {u : MetadataUpdate}
    (hu : u.semantics.values ≠ []) (hi : s.serving.item? team item = some i)
    (hlatest : i.latestRevision = some row.revision) (hrow : s.revision? team item row.revision = some row) :
    s.resolveMetadataUpdate team item u.semantics = .ok (frozenUpdate team item i row u) := by
  have hactive := h.active i hi
  unfold resolveMetadataUpdate
  simp only [bind_ok_iff, required_ok_iff, failIf_ok_iff, pure_ok_iff]
  refine ⟨(), by simpa using hu, i, hi, (), by rw [hactive]; rfl, (), by rw [hactive]; rfl, _, hlatest, row, hrow, rfl⟩

theorem frozenItem_of_item {i : ItemRow} {stale : MkbError} (h : s.HasActive team item)
    (hi : s.serving.item? team item = some i) {revision : RevisionId} (hlatest : i.latestRevision = some revision) :
    s.serving.frozenItem ⟨team, item, i.rowRevision, revision⟩ stale = .ok i := by
  unfold frozenItem
  simp only [bind_ok_iff, required_ok_iff, failIf_ok_iff, pure_ok_iff]
  refine ⟨i, hi, (), ?_, rfl⟩
  rw [h.active i hi, hlatest]
  simp

theorem acceptMetadataUpdate_some (h : s.HasActive team item) {i : ItemRow}
    (hi : s.serving.item? team item = some i) {row : RevisionRow} (hlatest : i.latestRevision = some row.revision)
    (fresh : RevisionId) (producer : ProcessFence) :
    s.serving.acceptMetadataUpdate ⟨team, item, i.rowRevision, row.revision⟩ (some fresh) producer =
      .ok (FrozenTarget.appended ⟨team, item, i.rowRevision, row.revision⟩ i fresh producer s.serving) := by
  obtain ⟨hmem, hkey⟩ := item?_eq_some hi
  unfold Serving.acceptMetadataUpdate
  refine bind_ok_iff.2 ⟨i, frozenItem_of_item h hi hlatest, ?_⟩
  refine bind_ok_iff.2 ⟨_, casWhere_eq_ok_iff.2 ⟨countP_eq_one h.keyed hmem ?_ ?_, rfl⟩, rfl⟩
  · unfold FrozenTarget.isFrozen
    simp [hkey, hlatest]
  · intro q _ hq
    unfold FrozenTarget.isFrozen at hq
    simp only [Bool.and_eq_true, beq_iff_eq] at hq
    rw [hq.1.1, hkey]

theorem any_revisionClash {row : RevisionRow} {u : MetadataUpdate} (hfresh : ∀ r ∈ s.revisions, r.revision ≠ u.fresh)
    (merged : RevisionSemantics) : s.revisions.any (revisionClash (appendedRow team item s row u merged)) =
      (s.ofItem team item).any fun r => r.revisionFingerprint == merged.fingerprint := by
  rw [Bool.eq_iff_iff, List.any_eq_true, List.any_eq_true]
  constructor
  · rintro ⟨r, hr, hclash⟩
    unfold revisionClash at hclash
    simp only [Bool.and_eq_true, Bool.or_eq_true, beq_iff_eq] at hclash
    obtain ⟨hteam, hsame | ⟨hitem, hordinal | hfingerprint⟩⟩ := hclash
    · exact absurd hsame (hfresh r hr)
    · have hle : r.revisionOrdinal ≤ s.highestOrdinal team item :=
        le_highestOrdinal (mem_ofItem.2 ⟨hr, hteam, hitem⟩)
      have heq : r.revisionOrdinal = s.highestOrdinal team item + 1 := hordinal
      omega
    · exact ⟨r, mem_ofItem.2 ⟨hr, hteam, hitem⟩, beq_iff_eq.2 hfingerprint⟩
  · rintro ⟨r, hr, hfingerprint⟩
    obtain ⟨hr, hteam, hitem⟩ := mem_ofItem.1 hr
    refine ⟨r, hr, ?_⟩
    unfold revisionClash
    simp only [Bool.and_eq_true, Bool.or_eq_true, beq_iff_eq]
    exact ⟨hteam, Or.inr ⟨hitem, Or.inr (beq_iff_eq.1 hfingerprint)⟩⟩

theorem insertRevision_appendedRow {row : RevisionRow} {u : MetadataUpdate}
    (hfresh : ∀ r ∈ s.revisions, r.revision ≠ u.fresh) (merged : RevisionSemantics) :
    s.insertRevision (appendedRow team item s row u merged) = (do
      failIf ((s.ofItem team item).any fun r => r.revisionFingerprint == merged.fingerprint) constraintViolation
      return { s with revisions := s.revisions ++ [appendedRow team item s row u merged] }) := by
  unfold insertRevision
  rw [any_revisionClash hfresh]

theorem updateMetadata_eq (h : s.HasActive team item) {i : ItemRow} {row : RevisionRow} {u : MetadataUpdate}
    (hu : u.semantics.values ≠ []) (hfresh : ∀ r ∈ s.revisions, r.revision ≠ u.fresh)
    (hi : s.serving.item? team item = some i) (hlatest : i.latestRevision = some row.revision)
    (hrow : s.revision? team item row.revision = some row) :
    updateMetadata casefold team item s u = (do
      let merged ← mergedMetadataSemantics casefold row.semantics u.semantics
      if merged.fingerprint = row.revisionFingerprint then
        return { s with serving := s.serving.record (noChangeRow team item i row u) }
      else do
        failIf ((s.ofItem team item).any fun r => r.revisionFingerprint == merged.fingerprint) constraintViolation
        return appended team item s i row u merged) := by
  unfold updateMetadata
  rw [resolveMetadataUpdate_eq h hu hi hlatest hrow]
  show s.acceptMetadataUpdate casefold (frozenUpdate team item i row u) u.fresh u.producer = _
  unfold acceptMetadataUpdate frozenUpdate
  simp only
  cases mergedMetadataSemantics casefold row.semantics u.semantics with
  | error e => rfl
  | ok merged =>
    show (if merged.fingerprint = row.revisionFingerprint then _ else _) =
      if merged.fingerprint = row.revisionFingerprint then _ else _
    split
    · have hno : s.serving.acceptMetadataUpdate ⟨team, item, i.rowRevision, row.revision⟩ none u.producer =
          .ok (s.serving.record (noChangeRow team item i row u)) :=
        bind_ok_iff.2 ⟨i, frozenItem_of_item h hi hlatest, rfl⟩
      rw [hno]
      rfl
    · rw [frozenItem_of_item h hi hlatest]
      show (s.insertRevision (appendedRow team item s row u merged) >>= fun s => _) = _
      rw [insertRevision_appendedRow hfresh]
      cases failIf ((s.ofItem team item).any fun r => r.revisionFingerprint == merged.fingerprint)
          constraintViolation with
      | error e => rfl
      | ok _ =>
        show (s.serving.acceptMetadataUpdate ⟨team, item, i.rowRevision, row.revision⟩ (some u.fresh) u.producer >>=
          fun serving => _) = _
        rw [acceptMetadataUpdate_some h hi hlatest]
        rfl

/-! ### the store after an update -/

theorem item?_appended (h : s.HasActive team item) {i : ItemRow} (hi : s.serving.item? team item = some i)
    {row : RevisionRow} (hlatest : i.latestRevision = some row.revision) (u : MetadataUpdate)
    (merged : RevisionSemantics) :
    (appended team item s i row u merged).serving.item? team item = some (ItemRow.accept u.fresh i) := by
  obtain ⟨hmem, hkey⟩ := item?_eq_some hi
  have hnodup := nodup_keys_updateWhere (c := FrozenTarget.isFrozen ⟨team, item, i.rowRevision, row.revision⟩ i.rowRevision)
    (ItemRow.key_accept u.fresh) h.keyed
  have hin := mem_updateWhere_of_mem (c := FrozenTarget.isFrozen ⟨team, item, i.rowRevision, row.revision⟩ i.rowRevision)
    (f := ItemRow.accept u.fresh) hmem
  rw [if_pos (by unfold FrozenTarget.isFrozen; simp [hkey, hlatest])] at hin
  have hfind := find?_of_key hnodup hin
  rw [ItemRow.key_accept, hkey] at hfind
  exact hfind

theorem ofItem_appended (i : ItemRow) (row : RevisionRow) (u : MetadataUpdate) (merged : RevisionSemantics) :
    (appended team item s i row u merged).ofItem team item =
      s.ofItem team item ++ [appendedRow team item s row u merged] := by
  unfold ofItem appended
  rw [List.filter_append]
  have hrow : [appendedRow team item s row u merged].filter (fun r => r.team == team && r.item == item) =
      [appendedRow team item s row u merged] := by
    rw [List.filter_eq_self]
    intro r hr
    rw [List.mem_singleton.1 hr]
    simp [appendedRow]
  rw [hrow]

theorem current?_appended (h : s.HasActive team item) {i : ItemRow} (hi : s.serving.item? team item = some i)
    {row : RevisionRow} (hlatest : i.latestRevision = some row.revision) {u : MetadataUpdate}
    (hfresh : ∀ r ∈ s.revisions, r.revision ≠ u.fresh) (merged : RevisionSemantics) :
    (appended team item s i row u merged).current? team item = some (appendedRow team item s row u merged) := by
  unfold current?
  rw [item?_appended h hi hlatest]
  show (appended team item s i row u merged).revision? team item u.fresh = _
  unfold revision?
  rw [ofItem_appended, List.find?_append, List.find?_eq_none.2 fun r hr => ?_]
  · simp [appendedRow]
  · simpa using hfresh r (mem_ofItem.1 hr).1

theorem hasActive_appended (h : s.HasActive team item) {i : ItemRow} (hi : s.serving.item? team item = some i)
    {row : RevisionRow} (hlatest : i.latestRevision = some row.revision) {u : MetadataUpdate}
    (hfresh : ∀ r ∈ s.revisions, r.revision ≠ u.fresh) (merged : RevisionSemantics) :
    (appended team item s i row u merged).HasActive team item where
  keyed := nodup_keys_updateWhere (ItemRow.key_accept u.fresh) h.keyed
  active j hj := by
    rw [item?_appended h hi hlatest] at hj
    obtain rfl := Option.some.inj hj
    exact h.active i hi
  current := by
    rw [current?_appended h hi hlatest hfresh]
    rfl
  fingerprints r hr := by
    rw [ofItem_appended, List.mem_append, List.mem_singleton] at hr
    rcases hr with hr | rfl
    · exact h.fingerprints r hr
    · rfl

/-- The update succeeds and makes the merge current exactly if it finds no older Revision; what it leaves is an
active Item again, and no other Revision than its own is new. -/
theorem updateMetadata_iff (h : s.HasActive team item) {u : MetadataUpdate} (hu : u.semantics.values ≠ [])
    (hfresh : ∀ r ∈ s.revisions, r.revision ≠ u.fresh) :
    ((∃ s', updateMetadata casefold team item s u = .ok s' ∧ MakesMerge casefold team item s u s') ↔
      FindsNoOlder casefold team item s u) ∧
    ∀ s', updateMetadata casefold team item s u = .ok s' →
      s'.HasActive team item ∧ ∀ r ∈ s'.revisions, r ∈ s.revisions ∨ r.revision = u.fresh := by
  obtain ⟨row, hcurrent⟩ := Option.isSome_iff_exists.1 h.current
  obtain ⟨i, hi, hlatest, hrow, hmem⟩ := current?_eq_some hcurrent
  have hupdate : updateMetadata casefold team item s u = _ := updateMetadata_eq h hu hfresh hi hlatest hrow
  have hcases {s' : IntakeStore} (hok : updateMetadata casefold team item s u = .ok s') :
      ∃ merged, mergedMetadataSemantics casefold row.semantics u.semantics = .ok merged ∧
        (merged.fingerprint = row.revisionFingerprint ∧
            s' = { s with serving := s.serving.record (noChangeRow team item i row u) } ∨
          (∀ r ∈ s.ofItem team item, r.revisionFingerprint ≠ merged.fingerprint) ∧
            s' = appended team item s i row u merged) := by
    rw [hupdate] at hok
    obtain ⟨merged, hmerged, hok⟩ := bind_ok_iff.1 hok
    refine ⟨merged, hmerged, ?_⟩
    split at hok
    · rename_i hsame
      exact Or.inl ⟨hsame, (pure_ok_iff.1 hok).symm⟩
    · obtain ⟨_, hno, hok⟩ := bind_ok_iff.1 hok
      rw [failIf_ok_iff, List.any_eq_false] at hno
      exact Or.inr ⟨fun r hr heq => hno r hr (beq_iff_eq.2 heq), (pure_ok_iff.1 hok).symm⟩
  refine ⟨⟨?_, ?_⟩, ?_⟩
  · rintro ⟨s', hok, -⟩
    obtain ⟨merged, hmerged, hwhy⟩ := hcases hok
    refine ⟨row, merged, hcurrent, hmerged, ?_⟩
    rcases hwhy with ⟨hsame, -⟩ | ⟨hno, -⟩
    · exact Or.inl hsame
    · exact Or.inr hno
  · rintro ⟨row', merged, hcurrent', hmerged, hwhy⟩
    obtain rfl := Option.some.inj (hcurrent.symm.trans hcurrent')
    by_cases hsame : merged.fingerprint = row.revisionFingerprint
    · have hok : updateMetadata casefold team item s u =
          .ok { s with serving := s.serving.record (noChangeRow team item i row u) } := by
        rw [hupdate, hmerged]
        exact if_pos hsame
      refine ⟨_, hok, row, row, hcurrent, hcurrent, ?_⟩
      rw [h.fingerprints row hmem] at hsame
      rw [hmerged, RevisionSemantics.fingerprint_injective hsame]
    · have hno : ∀ r ∈ s.ofItem team item, r.revisionFingerprint ≠ merged.fingerprint := by
        rcases hwhy with hyes | hno
        · exact absurd hyes hsame
        · exact hno
      have hok : updateMetadata casefold team item s u = .ok (appended team item s i row u merged) := by
        rw [hupdate, hmerged]
        refine (if_neg hsame).trans (bind_ok_iff.2 ⟨(), ?_, rfl⟩)
        rw [failIf_ok_iff, List.any_eq_false]
        exact fun r hr heq => hno r hr (beq_iff_eq.1 heq)
      exact ⟨_, hok, row, _, hcurrent, current?_appended h hi hlatest hfresh merged, hmerged⟩
  · intro s' hok
    obtain ⟨merged, -, ⟨-, rfl⟩ | ⟨-, rfl⟩⟩ := hcases hok
    · exact ⟨⟨h.keyed, h.active, h.current, h.fingerprints⟩, fun r hr => Or.inl hr⟩
    · refine ⟨hasActive_appended h hi hlatest hfresh merged, fun r hr => ?_⟩
      rcases List.mem_append.1 hr with hr | hr
      · exact Or.inl hr
      · rw [List.mem_singleton.1 hr]
        exact Or.inr rfl

/-! ### a sequence of updates -/

/-- Every update is accepted and makes its merge current. -/
def UpdatesSucceed (casefold : Text → Text) (team : TeamId) (item : ItemId) : IntakeStore → List MetadataUpdate → Prop
  | _, [] => True
  | s, u :: updates => ∃ s', updateMetadata casefold team item s u = .ok s' ∧ MakesMerge casefold team item s u s' ∧
      UpdatesSucceed casefold team item s' updates

/-- No update of the sequence comes back to an older Revision. -/
def NeverReverts (casefold : Text → Text) (team : TeamId) (item : ItemId) : IntakeStore → List MetadataUpdate → Prop
  | _, [] => True
  | s, u :: updates => FindsNoOlder casefold team item s u ∧
      ∀ s', updateMetadata casefold team item s u = .ok s' → NeverReverts casefold team item s' updates

/-- Submissions that are not empty, under new and distinct identities. -/
structure WellFormedUpdates (s : IntakeStore) (updates : List MetadataUpdate) : Prop where
  nonempty : ∀ u ∈ updates, u.semantics.values ≠ []
  fresh : ∀ u ∈ updates, ∀ r ∈ s.revisions, r.revision ≠ u.fresh
  nodup : (updates.map MetadataUpdate.fresh).Nodup

/-- A sequence of updates of an active Item is accepted with the merges as current semantics exactly if none of them
comes back to an older Revision. -/
theorem metadataRevert_exact (casefold : Text → Text) (team : TeamId) (item : ItemId) (s : IntakeStore)
    (updates : List MetadataUpdate) (h : s.HasActive team item) (hupdates : s.WellFormedUpdates updates) :
    UpdatesSucceed casefold team item s updates ↔ NeverReverts casefold team item s updates := by
  induction updates generalizing s with
  | nil => exact Iff.rfl
  | cons u updates ih =>
    have hu := hupdates.nonempty u List.mem_cons_self
    have hfresh := hupdates.fresh u List.mem_cons_self
    obtain ⟨hiff, hafter⟩ := @updateMetadata_iff casefold _ _ _ h u hu hfresh
    have hnodup := List.nodup_cons.1 hupdates.nodup
    have hrest {s' : IntakeStore} (hok : updateMetadata casefold team item s u = .ok s') :
        UpdatesSucceed casefold team item s' updates ↔ NeverReverts casefold team item s' updates := by
      obtain ⟨hactive, hrevisions⟩ := hafter s' hok
      refine ih s' hactive ⟨fun v hv => hupdates.nonempty v (List.mem_cons_of_mem u hv), fun v hv r hr => ?_, hnodup.2⟩
      rcases hrevisions r hr with hold | hnew
      · exact hupdates.fresh v (List.mem_cons_of_mem u hv) r hold
      · rw [hnew]
        intro heq
        exact hnodup.1 (List.mem_map.2 ⟨v, hv, heq.symm⟩)
    constructor
    · rintro ⟨s', hok, hmerge, hsucceed⟩
      refine ⟨hiff.1 ⟨s', hok, hmerge⟩, fun t ht => ?_⟩
      obtain rfl := Except.ok.inj (hok.symm.trans ht)
      exact (hrest hok).1 hsucceed
    · rintro ⟨hfinds, hnever⟩
      obtain ⟨s', hok, hmerge⟩ := hiff.2 hfinds
      exact ⟨s', hok, hmerge, (hrest hok).2 (hnever s' hok)⟩

/-! ### a realm changed and changed back -/

/-- One active Item at its first Revision. -/
def oneRevision : IntakeStore where
  serving := { Serving.empty with items := [⟨1, 1, 1, 1, .active, some 10, none, 0, none⟩] }
  snapshots := []
  revisions := [⟨1, 10, 1, 1, none, (taggedSemantics []).fingerprint, taggedSemantics []⟩]

def realmUpdate (realm : String) (fresh : RevisionId) : MetadataUpdate :=
  ⟨⟨none, none, some realm.toList, none, none⟩, fresh, ⟨1, 1, 1⟩⟩

theorem hasActive_oneRevision : oneRevision.HasActive 1 1 where
  keyed := by decide
  active i hi := by
    obtain rfl := Option.some.inj hi
    rfl
  current := by decide
  fingerprints r hr := by
    obtain rfl := List.mem_singleton.1 (mem_ofItem.1 hr).1
    rfl

theorem wellFormed_realmUpdates {realm realm' : String} : oneRevision.WellFormedUpdates
    [realmUpdate realm 11, realmUpdate realm' 12] where
  nonempty u hu := by
    rcases List.mem_cons.1 hu with rfl | hu
    · exact List.cons_ne_nil _ _
    · rw [List.mem_singleton.1 hu]
      exact List.cons_ne_nil _ _
  fresh u hu r hr := by
    obtain rfl := List.mem_singleton.1 hr
    rcases List.mem_cons.1 hu with rfl | hu
    · exact (by decide : (10 : Nat) ≠ 11)
    · rw [List.mem_singleton.1 hu]
      exact (by decide : (10 : Nat) ≠ 12)
  nodup := (by decide : [11, 12].Nodup)

/-- Two updates to different realms are accepted. -/
theorem metadataRevert_twoRealms :
    UpdatesSucceed id 1 1 oneRevision [realmUpdate "x" 11, realmUpdate "y" 12] := by
  refine (metadataRevert_exact id 1 1 oneRevision _ hasActive_oneRevision wellFormed_realmUpdates).2 ?_
  refine ⟨⟨_, _, rfl, rfl, Or.inr (by decide)⟩, fun s' hs' => ?_⟩
  obtain rfl := Except.ok.inj hs'
  exact ⟨⟨_, _, rfl, rfl, Or.inr (by decide)⟩, fun _ _ => trivial⟩

/-- The realm changed and changed back: the second update finds its fingerprint taken by the first Revision. -/
theorem metadataRevert_refused : oneRevision.HasActive 1 1 ∧
    oneRevision.WellFormedUpdates [realmUpdate "x" 11, realmUpdate "r" 12] ∧
    ¬ UpdatesSucceed id 1 1 oneRevision [realmUpdate "x" 11, realmUpdate "r" 12] := by
  refine ⟨hasActive_oneRevision, wellFormed_realmUpdates, ?_⟩
  rintro ⟨s', hok, -, s'', hok', -⟩
  obtain rfl := Except.ok.inj hok
  cases hok'

end IntakeStore

end KnowledgeBase
