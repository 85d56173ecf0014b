import KnowledgeBase.Properties.MetadataDisposition
import KnowledgeBase.Serving.Revisions

/-!
# Collections observed again

The members of a collection get new Item identities before its acceptance, which inserts them under the unique keys
of their source. `collectionsAgain_exact`: a later collection is accepted, with the Items of the known keys reused and
one created for every new key, exactly if it has no known key.
-/

namespace KnowledgeBase

open Checked Relational Serving

variable {s s' : IntakeStore} {c : ScatterCollection} {m m' : CollectionRow}

/-! ### what a collection is called with -/

/-- The Item is the one of the member's key under the source. -/
def ScatterCollection.IsOfKey (c : ScatterCollection) (m : CollectionRow) (i : ItemRow) : Prop :=
  i.team = c.team ∧ i.source = c.source ∧ i.externalKey = m.member.externalKey

/-- Members in order under distinct keys, a new observation key, and identities not used before. -/
structure ScatterCollection.IsLater (c : ScatterCollection) (s : IntakeStore) : Prop where
  ordinals : c.members.map (fun m => m.member.memberOrdinal) = List.range c.members.length
  keys : (c.members.map fun m => m.member.externalKey).Nodup
  observation : ∀ q ∈ s.snapshots, q.team = c.team →
    q.snapshot ≠ c.snapshot ∧ ¬ (q.source = c.source ∧ q.observationKey = c.observationKey)
  memberships : ∀ q ∈ s.serving.memberships, q.snapshot ≠ c.snapshot
  items : ∀ m ∈ c.members, ∀ i ∈ s.serving.items, i.item ≠ m.member.item
  revisions : ∀ m ∈ c.members, ∀ r ∈ s.revisions, r.revision ≠ m.member.revision ∧ r.item ≠ m.member.item
  distinctItems : (c.members.map fun m => m.member.item).Nodup
  distinctRevisions : (c.members.map fun m => m.member.revision).Nodup

/-- Every known key keeps its Item, now at the observed semantics; every new key has an Item created for it, and
nothing else is created. -/
structure ScatterCollection.Observed (c : ScatterCollection) (s s' : IntakeStore) : Prop where
  reused : ∀ m ∈ c.members, ∀ i ∈ s.serving.items, c.IsOfKey m i → ∃ i' ∈ s'.serving.items, i'.key = i.key ∧
    c.IsOfKey m i' ∧ ∃ r ∈ s'.ofItem c.team i.item, i'.latestRevision = some r.revision ∧ r.semantics = m.semantics
  created : ∀ m ∈ c.members, (∀ i ∈ s.serving.items, ¬ c.IsOfKey m i) → ∃ i' ∈ s'.serving.items, c.IsOfKey m i' ∧
    i'.key ∉ s.serving.items.map ItemRow.key ∧
    ∃ r ∈ s'.ofItem c.team i'.item, i'.latestRevision = some r.revision ∧ r.semantics = m.semantics
  only : ∀ i' ∈ s'.serving.items, i'.key ∈ s.serving.items.map ItemRow.key ∨
    ∃ m ∈ c.members, c.IsOfKey m i' ∧ ∀ i ∈ s.serving.items, ¬ c.IsOfKey m i

namespace IntakeStore

/-! ### one member -/

/-- No row of the store shares a key with those of the member. -/
structure Admits (c : ScatterCollection) (s : IntakeStore) (m : CollectionRow) : Prop where
  items : ∀ q ∈ s.serving.items, itemClash (c.serving.newItem m.member) q = false
  memberships : ∀ q ∈ s.serving.memberships, membershipClash (c.serving.membership m.member) q = false
  revisions : ∀ q ∈ s.revisions, revisionClash (c.firstRevision m) q = false

/-- The members share no key. -/
def Apart (m m' : CollectionRow) : Prop :=
  m.member.item ≠ m'.member.item ∧ m.member.externalKey ≠ m'.member.externalKey ∧
    m.member.memberOrdinal ≠ m'.member.memberOrdinal ∧ m.member.revision ≠ m'.member.revision

/-- The store with the rows of the member. -/
def withMember (c : ScatterCollection) (s : IntakeStore) (m : CollectionRow) : IntakeStore :=
  { s with
    serving := { s.serving with
      items := s.serving.items ++ [c.serving.newItem m.member]
      memberships := s.serving.memberships ++ [c.serving.membership m.member] }.record (c.serving.transition m.member)
    revisions := s.revisions ++ [c.firstRevision m] }

theorem insertMember_eq (h : Admits c s m) : insertMember c s m = .ok (withMember c s m) := by
  have hserving : s.serving.insertMember c.serving m.member = .ok ({ s.serving with
      items := s.serving.items ++ [c.serving.newItem m.member]
      memberships := s.serving.memberships ++ [c.serving.membership m.member] }.record
        (c.serving.transition m.member)) := by
    refine bind_ok_iff.2 ⟨(), failIf_ok_iff.2 ?_, rfl⟩
    rw [Bool.or_eq_false_iff, List.any_eq_false, List.any_eq_false]
    exact ⟨fun q hq => Bool.eq_false_iff.1 (h.items q hq), fun q hq => Bool.eq_false_iff.1 (h.memberships q hq)⟩
  refine bind_ok_iff.2 ⟨_, hserving, bind_ok_iff.2 ⟨(), failIf_ok_iff.2 ?_, rfl⟩⟩
  rw [List.any_eq_false]
  exact fun q hq => Bool.eq_false_iff.1 (h.revisions q hq)

theorem admits_withMember (h : Admits c s m') (hapart : Apart m m') : Admits c (withMember c s m) m' := by
  obtain ⟨hitem, hkey, hordinal, hrevision⟩ := hapart
  constructor
  · intro q hq
    rcases List.mem_append.1 hq with hq | hq
    · exact h.items q hq
    · rw [List.mem_singleton.1 hq]
      simp [itemClash, AcceptCollection.newItem, ItemRow.key, hitem, hkey]
  · intro q hq
    rcases List.mem_append.1 hq with hq | hq
    · exact h.memberships q hq
    · rw [List.mem_singleton.1 hq]
      simp [membershipClash, AcceptCollection.membership, hkey, hordinal]
  · intro q hq
    rcases List.mem_append.1 hq with hq | hq
    · exact h.revisions q hq
    · rw [List.mem_singleton.1 hq]
      simp [revisionClash, ScatterCollection.firstRevision, hitem, hrevision]

/-! ### the members in order -/

theorem insertMembers_eq {members : List CollectionRow} (h : ∀ m ∈ members, Admits c s m)
    (hapart : members.Pairwise Apart) :
    foldEach (insertMember c) s members = .ok (members.foldl (withMember c) s) := by
  induction members generalizing s with
  | nil => rfl
  | cons m members ih =>
    rw [List.pairwise_cons] at hapart
    refine bind_ok_iff.2 ⟨_, insertMember_eq (h m List.mem_cons_self), ?_⟩
    exact ih (fun m' hm' => admits_withMember (h m' (List.mem_cons_of_mem m hm')) (hapart.1 m' hm')) hapart.2

theorem items_withMembers (c : ScatterCollection) (s : IntakeStore) (members : List CollectionRow) :
    (members.foldl (withMember c) s).serving.items =
      s.serving.items ++ members.map fun m => c.serving.newItem m.member := by
  induction members generalizing s with
  | nil => simp
  | cons m members ih =>
    rw [List.foldl_cons, ih, List.map_cons]
    simp [withMember, Serving.record]

theorem revisions_withMembers (c : ScatterCollection) (s : IntakeStore) (members : List CollectionRow) :
    (members.foldl (withMember c) s).revisions = s.revisions ++ members.map c.firstRevision := by
  induction members generalizing s with
  | nil => simp
  | cons m members ih =>
    rw [List.foldl_cons, ih, List.map_cons]
    simp [withMember]

theorem not_isOfKey_of_insertMembers {members : List CollectionRow}
    (h : foldEach (insertMember c) s members = .ok s') (hm : m ∈ members) :
    ∀ i ∈ s.serving.items, ¬ c.IsOfKey m i := by
  induction members generalizing s with
  | nil => cases hm
  | cons m' members ih =>
    obtain ⟨s₁, hinsert, hrest⟩ := bind_ok_iff.1 h
    obtain ⟨serving, hserving, hrevision⟩ := bind_ok_iff.1 hinsert
    obtain ⟨hclash, rfl⟩ := insertMember_ok hserving
    rcases List.mem_cons.1 hm with rfl | hm
    · rintro i hi ⟨hteam, hsource, hkey⟩
      have hno := hclash i hi
      unfold itemClash at hno
      rw [Bool.or_eq_false_iff] at hno
      simp [AcceptCollection.newItem, ScatterCollection.serving, hteam, hsource, hkey] at hno
    · intro i hi
      obtain ⟨_, -, hend⟩ := bind_ok_iff.1 hrevision
      obtain rfl := pure_ok_iff.1 hend
      exact ih hrest hm i (List.mem_append_left _ hi)

/-! ### the collection -/

theorem checkObservation_eq (h : c.IsLater s) : s.checkObservation c = .ok () := by
  unfold checkObservation
  rw [List.find?_eq_none.2 fun q hq => ?_]
  simp only [Bool.and_eq_true, beq_iff_eq, not_and]
  rintro ⟨hteam, hsource⟩ hkey
  exact (h.observation q hq hteam).2 ⟨hsource, hkey⟩

theorem commitCollection_eq (h : c.IsLater s) : s.commitCollection c =
    foldEach (insertMember c) { s with snapshots := s.snapshots ++ [c.snapshotRow] } c.members := by
  have hordinals : failIf (c.members.map (fun m => m.member.memberOrdinal) != List.range c.members.length)
      (⟨"SCATTER_MEMBER_ORDER_INVALID", "Collection member ordinals must be stable and contiguous", 422⟩ : MkbError) =
        .ok () := by
    rw [failIf_ok_iff, bne_eq_false_iff_eq]
    exact h.ordinals
  have hkeys : failIf (!decide (c.members.map fun m => m.member.externalKey).Nodup)
      (⟨"SCATTER_MEMBER_KEY_DUPLICATE", "Collection member external keys are not unique", 422⟩ : MkbError) = .ok () := by
    rw [failIf_ok_iff, decide_eq_true h.keys]
    rfl
  have hsnapshot : failIf (s.snapshots.any (snapshotClash c.snapshotRow)) constraintViolation = .ok () := by
    rw [failIf_ok_iff, List.any_eq_false]
    intro q hq hclash
    unfold snapshotClash ScatterCollection.snapshotRow at hclash
    simp only [Bool.and_eq_true, Bool.or_eq_true, beq_iff_eq] at hclash
    obtain ⟨hteam, hsame | hobserved⟩ := hclash
    · exact (h.observation q hq hteam).1 hsame
    · exact (h.observation q hq hteam).2 hobserved
  unfold commitCollection
  rw [hordinals, hkeys, checkObservation_eq h, hsnapshot]
  rfl

theorem apart_of_isLater (h : c.IsLater s) : c.members.Pairwise Apart := by
  have hordinals : (c.members.map fun m => m.member.memberOrdinal).Nodup := h.ordinals ▸ List.nodup_range
  have hitems := List.pairwise_map.1 h.distinctItems
  have hrevisions := List.pairwise_map.1 h.distinctRevisions
  exact ((hitems.and (List.pairwise_map.1 h.keys)).and
    ((List.pairwise_map.1 hordinals).and hrevisions)).imp fun ⟨⟨hi, hk⟩, ho, hr⟩ => ⟨hi, hk, ho, hr⟩

theorem admits_of_isLater (h : c.IsLater s) (hm : m ∈ c.members) (hnew : ∀ i ∈ s.serving.items, ¬ c.IsOfKey m i) :
    Admits c { s with snapshots := s.snapshots ++ [c.snapshotRow] } m := by
  constructor
  · intro q hq
    rw [Bool.eq_false_iff]
    intro hclash
    unfold itemClash at hclash
    simp only [Bool.or_eq_true, Bool.and_eq_true, beq_iff_eq] at hclash
    rcases hclash with hkey | ⟨⟨hteam, hsource⟩, hkey⟩
    · exact h.items m hm q hq (congrArg Prod.snd hkey)
    · exact hnew q hq ⟨hteam, hsource, hkey⟩
  · intro q hq
    simp [membershipClash, AcceptCollection.membership, ScatterCollection.serving, h.memberships q hq]
  · intro q hq
    obtain ⟨hrevision, hitem⟩ := h.revisions m hm q hq
    simp [revisionClash, ScatterCollection.firstRevision, hrevision, hitem]

theorem firstRevision_mem (c : ScatterCollection) (s : IntakeStore) (hm : m ∈ c.members) :
    ∃ r ∈ (c.members.foldl (withMember c) s).ofItem c.team m.member.item,
      (c.serving.newItem m.member).latestRevision = some r.revision ∧ r.semantics = m.semantics := by
  refine ⟨c.firstRevision m, ?_, rfl, rfl⟩
  unfold ofItem
  rw [revisions_withMembers, List.mem_filter]
  refine ⟨List.mem_append_right _ (List.mem_map_of_mem hm), ?_⟩
  simp [ScatterCollection.firstRevision]

/-- A later collection is accepted with the known keys reused exactly if it has none. -/
theorem collectionsAgain_exact (s : IntakeStore) (c : ScatterCollection) (h : c.IsLater s) :
    (∃ s', s.commitCollection c = .ok s' ∧ c.Observed s s') ↔
      ∀ m ∈ c.members, ∀ i ∈ s.serving.items, ¬ c.IsOfKey m i := by
  rw [commitCollection_eq h]
  constructor
  · rintro ⟨s', hcommit, -⟩ m hm
    exact not_isOfKey_of_insertMembers (s := { s with snapshots := s.snapshots ++ [c.snapshotRow] }) hcommit hm
  · intro hnew
    have hadmits : ∀ m ∈ c.members, Admits c { s with snapshots := s.snapshots ++ [c.snapshotRow] } m :=
      fun m hm => admits_of_isLater h hm (hnew m hm)
    refine ⟨_, insertMembers_eq hadmits (apart_of_isLater h), ?_, ?_, ?_⟩
    · exact fun m hm i hi hkey => absurd hkey (hnew m hm i hi)
    · intro m hm _
      refine ⟨c.serving.newItem m.member, ?_, ⟨rfl, rfl, rfl⟩, ?_, firstRevision_mem c _ hm⟩
      · rw [items_withMembers]
        exact List.mem_append_right _ (List.mem_map.2 ⟨m, hm, rfl⟩)
      · intro hmem
        obtain ⟨i, hi, hkey⟩ := List.mem_map.1 hmem
        exact h.items m hm i hi (congrArg Prod.snd hkey)
    · intro i' hi'
      rw [items_withMembers, List.mem_append] at hi'
      rcases hi' with hold | hadded
      · exact Or.inl (List.mem_map_of_mem hold)
      · obtain ⟨m, hm, rfl⟩ := List.mem_map.1 hadded
        exact Or.inr ⟨m, hm, ⟨rfl, rfl, rfl⟩, hnew m hm⟩

/-! ### a collection of one key, after one of key 1 -/

/-- A collection of source 1. -/
def oneKeyCollection (key : Nat) : ScatterCollection :=
  ⟨1, 1, 5, 2, 7, [⟨⟨0, key, 2, 20⟩, taggedSemantics []⟩], ⟨1, 1, 1⟩⟩

/-- The Item of key 1 with its first Revision. -/
def observedOnce : IntakeStore where
  serving := { Serving.empty with
    items := [⟨1, 1, 1, 1, .active, some 10, none, 0, none⟩], memberships := [⟨1, 4, 0, 1, 1⟩] }
  snapshots := [⟨1, 4, 1, 1, 6⟩]
  revisions := [⟨1, 10, 1, 1, none, (taggedSemantics []).fingerprint, taggedSemantics []⟩]

theorem isLater_oneKeyCollection (key : Nat) : (oneKeyCollection key).IsLater observedOnce where
  ordinals := rfl
  keys := List.nodup_singleton _
  observation q hq _ := by
    obtain rfl := List.mem_singleton.1 hq
    exact ⟨(by decide : (4 : Nat) ≠ 5), fun h => absurd h.2 (by decide : (1 : Nat) ≠ 2)⟩
  memberships q hq := by
    obtain rfl := List.mem_singleton.1 hq
    exact (by decide : (4 : Nat) ≠ 5)
  items m hm i hi := by
    obtain rfl := List.mem_singleton.1 hm
    obtain rfl := List.mem_singleton.1 hi
    exact (by decide : (1 : Nat) ≠ 2)
  revisions m hm r hr := by
    obtain rfl := List.mem_singleton.1 hm
    obtain rfl := List.mem_singleton.1 hr
    exact ⟨(by decide : (10 : Nat) ≠ 20), (by decide : (1 : Nat) ≠ 2)⟩
  distinctItems := List.nodup_singleton _
  distinctRevisions := List.nodup_singleton _

/-- A collection of a new key only is accepted. -/
theorem collectionsAgain_newKey :
    ∃ s', observedOnce.commitCollection (oneKeyCollection 2) = .ok s' ∧ (oneKeyCollection 2).Observed observedOnce s' := by
  refine (collectionsAgain_exact observedOnce (oneKeyCollection 2) (isLater_oneKeyCollection 2)).2 ?_
  rintro m hm i hi ⟨-, -, hkey⟩
  obtain rfl := List.mem_singleton.1 hm
  obtain rfl := List.mem_singleton.1 hi
  cases hkey

/-- The known key observed again: the INSERT of its Item breaks the key of the table. -/
theorem collectionsAgain_refused : (oneKeyCollection 1).IsLater observedOnce ∧
    ¬ ∃ s', observedOnce.commitCollection (oneKeyCollection 1) = .ok s' ∧
      (oneKeyCollection 1).Observed observedOnce s' := by
  refine ⟨isLater_oneKeyCollection 1, ?_⟩
  rintro ⟨s', hcommit, -⟩
  cases hcommit

end IntakeStore

end KnowledgeBase
