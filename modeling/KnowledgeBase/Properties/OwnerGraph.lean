import KnowledgeBase.Storage.CleanupRuns

/-!
# The owner graph of a deleted Item

When a run of a cleanup job releases the references of its Item and of nothing another Item still uses, and leaves none
of them when it completes: the exact conditions on the state before the run.
-/

namespace KnowledgeBase

open Checked Relational Serving Substrates

namespace Substrates

variable {s s' : Substrates} {j : CleanupJobRow} {now : Time}

/-! ### the graph -/

/-- The Item is not deleted. -/
def isKept (s : Substrates) (team : TeamId) (item : ItemId) : Bool :=
  (s.serving.item? team item).any fun i => i.lifecycleState != .deleted

def isRevisionOf (s : Substrates) (team : TeamId) (item : ItemId) (r : ReferenceRow) : Bool :=
  s.revisions.any fun v => v.team == team && v.item == item && r.owner == .revision v.revision

/-- The owner is a Snapshot, a Revision or a generation artifact of the Item. -/
def isPartOf (s : Substrates) (team : TeamId) (item : ItemId) (r : ReferenceRow) : Bool :=
  isSnapshotOf s.serving team item r || s.isRevisionOf team item r || s.isArtifactOf team item r

/-- The owner is a part of another Item, which is not deleted. -/
def IsUsedBeside (s : Substrates) (team : TeamId) (item : ItemId) (r : ReferenceRow) : Prop :=
  ∃ other, other ≠ item ∧ s.isKept team other = true ∧ s.isPartOf team other r = true

/-- The owner is a Snapshot of the Item all of whose members are deleted. -/
def IsAbandoned (s : Substrates) (team : TeamId) (item : ItemId) (r : ReferenceRow) : Prop :=
  isSnapshotOf s.serving team item r = true ∧ ∀ other, isSnapshotOf s.serving team other r = true → s.isKept team other = false

/-- The reference is of the graph of the Item. -/
def IsOfGraph (s : Substrates) (team : TeamId) (item : ItemId) (r : ReferenceRow) : Prop :=
  r.team = team ∧ (r.owner = .item item ∨ s.isRevisionOf team item r = true ∨ s.isArtifactOf team item r = true ∨
    s.IsAbandoned team item r)

/-- A run releases nothing another Item uses, and one that completes leaves no live reference of the graph but holds. -/
structure ReleasesOwnGraph (s s' : Substrates) (j : CleanupJobRow) : Prop where
  spared : ∀ r ∈ s.references, r.isLive = true → r.team = j.team → s.IsUsedBeside j.team j.item r → r ∈ s'.references
  released : ∀ q ∈ s'.jobs, q.job = j.job → q.state = .completed →
    ∀ r ∈ s'.references, r.isLive = true → r.purpose.isHold = false → ¬ s'.IsOfGraph j.team j.item r

/-- No live reference of a shared Snapshot while the step of the Snapshots is open; and, when no hold of the Item blocks
the run, none of its Revisions, none of its artifacts that the step of the artifacts does not reach, and none of its
abandoned Snapshots once the step of the Snapshots is completed. -/
structure OwnsAlone (s : Substrates) (j : CleanupJobRow) : Prop where
  spared : isOpen j .intakeArtifact = true → ∀ r ∈ s.references, r.isLive = true → r.team = j.team →
    isSnapshotOf s.serving j.team j.item r = true → ¬ s.IsUsedBeside j.team j.item r
  revisions : s.hasItemHold j.team j.item = false → ∀ r ∈ s.references, r.isLive = true → r.purpose.isHold = false →
    r.team = j.team → s.isRevisionOf j.team j.item r = false
  artifacts : s.hasItemHold j.team j.item = false → ∀ r ∈ s.references, r.isLive = true → r.purpose.isHold = false →
    r.team = j.team → s.isArtifactOf j.team j.item r = true →
      r.ownerKind = .generationArtifact ∧ isOpen j .derivedGeneration = true
  abandoned : s.hasItemHold j.team j.item = false → ∀ r ∈ s.references, r.isLive = true → r.purpose.isHold = false →
    r.team = j.team → s.IsAbandoned j.team j.item r → isOpen j .intakeArtifact = true

/-! ### owners -/

theorem snapshot_of_isSnapshotOf {t : Serving} {team : TeamId} {item : ItemId} {r : ReferenceRow}
    (h : isSnapshotOf t team item r = true) : ∃ n, r.owner = .snapshot n := by
  obtain ⟨m, -, hm⟩ := List.any_eq_true.1 h
  simp only [Bool.and_eq_true, beq_iff_eq] at hm
  exact ⟨m.snapshot, hm.2⟩

theorem artifact_of_isArtifactOf {team : TeamId} {item : ItemId} {r : ReferenceRow} (h : s.isArtifactOf team item r = true) :
    ∃ a ∈ s.artifacts, a.team = team ∧ a.item = item ∧ r.owner = .generationArtifact a.artifact := by
  obtain ⟨a, ha, hm⟩ := List.any_eq_true.1 h
  simp only [Bool.and_eq_true, beq_iff_eq] at hm
  exact ⟨a, ha, hm.1.1, hm.1.2, hm.2⟩

theorem revision_of_isRevisionOf {team : TeamId} {item : ItemId} {r : ReferenceRow} (h : s.isRevisionOf team item r = true) :
    ∃ v, r.owner = .revision v := by
  obtain ⟨v, -, hm⟩ := List.any_eq_true.1 h
  simp only [Bool.and_eq_true, beq_iff_eq] at hm
  exact ⟨v.revision, hm.2⟩

theorem releases_eq_false {k : CleanupSubstrate} {r : ReferenceRow}
    (hsnapshot : k = .intakeArtifact → ∀ n, r.owner ≠ .snapshot n)
    (hartifact : k = .derivedGeneration → r.ownerKind = .generationArtifact → ∀ a, r.owner ≠ .generationArtifact a)
    (hitem : k = .objectReference → r.owner ≠ .item j.item) : s.releases j k r = false := by
  rw [Bool.eq_false_iff]
  intro hreleases
  cases k with
  | intakeArtifact =>
    obtain ⟨-, h⟩ := Bool.and_eq_true_iff.1 hreleases
    obtain ⟨n, hn⟩ := snapshot_of_isSnapshotOf h
    exact hsnapshot rfl n hn
  | derivedGeneration =>
    obtain ⟨hkind, h⟩ := Bool.and_eq_true_iff.1 hreleases
    obtain ⟨-, hkind⟩ := Bool.and_eq_true_iff.1 hkind
    obtain ⟨a, -, -, -, ha⟩ := artifact_of_isArtifactOf h
    exact hartifact rfl (beq_iff_eq.1 hkind) a.artifact ha
  | objectReference =>
    obtain ⟨howned, -⟩ := Bool.and_eq_true_iff.1 hreleases
    unfold isOwnedBy at howned
    simp only [Bool.and_eq_true, beq_iff_eq] at howned
    exact hitem rfl howned.2
  | vectorProjection => exact Bool.false_ne_true hreleases
  | objectGc => exact Bool.false_ne_true hreleases

theorem not_usedBeside_artifact (hs : s.JobsInOrder) {team : TeamId} {item : ItemId} {r : ReferenceRow}
    (h : s.isArtifactOf team item r = true) : ¬ s.IsUsedBeside team item r := by
  rintro ⟨other, hne, -, hpart⟩
  obtain ⟨a, ha, -, hitem, howner⟩ := artifact_of_isArtifactOf h
  unfold isPartOf at hpart
  simp only [Bool.or_eq_true] at hpart
  rcases hpart with (hpart | hpart) | hpart
  · obtain ⟨n, hn⟩ := snapshot_of_isSnapshotOf hpart
    rw [howner] at hn
    cases hn
  · obtain ⟨v, hv⟩ := revision_of_isRevisionOf hpart
    rw [howner] at hv
    cases hv
  · obtain ⟨b, hb, -, hother, hbowner⟩ := artifact_of_isArtifactOf hpart
    have hsame : b.artifact = a.artifact := OwnerId.generationArtifact.inj (hbowner.symm.trans howner)
    rw [eq_of_key hs.artifacts hb ha hsame] at hother
    exact hne (hother.symm.trans hitem)

theorem not_usedBeside_item {team : TeamId} {item : ItemId} {r : ReferenceRow} (h : r.owner = .item item) :
    ¬ s.IsUsedBeside team item r := by
  rintro ⟨other, -, -, hpart⟩
  unfold isPartOf at hpart
  simp only [Bool.or_eq_true] at hpart
  rcases hpart with (hpart | hpart) | hpart
  · obtain ⟨n, hn⟩ := snapshot_of_isSnapshotOf hpart
    rw [h] at hn
    cases hn
  · obtain ⟨v, hv⟩ := revision_of_isRevisionOf hpart
    rw [h] at hv
    cases hv
  · obtain ⟨b, -, -, -, hb⟩ := artifact_of_isArtifactOf hpart
    rw [h] at hb
    cases hb

/-! ### the graph after a run -/

theorem SameOwners.isOfGraph (h : SameOwners s s') (team : TeamId) (item : ItemId) (r : ReferenceRow) :
    s'.IsOfGraph team item r ↔ s.IsOfGraph team item r := by
  unfold IsOfGraph IsAbandoned isRevisionOf isArtifactOf isSnapshotOf isKept Serving.item?
  rw [h.memberships, h.items, h.artifacts, h.revisions]

namespace JobRun

variable {job : CleanupJobId}

theorem isOfGraph (h : JobRun job now s s' j) (team : TeamId) (item : ItemId) (r : ReferenceRow) :
    s'.IsOfGraph team item r ↔ s.IsOfGraph team item r := by
  rw [h.state]
  exact (runSteps_spec j now j.steps s).owners.isOfGraph team item r

theorem mem_iff (hs : s.JobsInOrder) (h : JobRun job now s s' j) {r : ReferenceRow} (hr : r.isLive = true) :
    r ∈ s'.references ↔ r ∈ s.references ∧ (isOpen j .intakeArtifact = true → s.releases j .intakeArtifact r = false) ∧
      (isOpen j .derivedGeneration = true → s.releases j .derivedGeneration r = false) ∧
      (s.hasItemHold j.team j.item = false → s.releases j .objectReference r = false) := by
  obtain ⟨hintake, hderived, hobject⟩ := mem_executed_iff hs h.mem
  have hopen := isOpen_objectReference hs h.mem h.runnable
  rw [h.references hr]
  refine and_congr_right fun _ => ⟨fun hall => ⟨fun ho => ?_, fun ho => ?_, fun hfree => ?_⟩, fun hall k hk => ?_⟩
  · exact hall _ (hintake.2 ho)
  · exact hall _ (hderived.2 ho)
  · exact hall _ (hobject.2 ⟨hopen, hfree⟩)
  · cases k with
    | intakeArtifact => exact hall.1 (hintake.1 hk)
    | derivedGeneration => exact hall.2.1 (hderived.1 hk)
    | objectReference => exact hall.2.2 (hobject.1 hk).2
    | vectorProjection => rfl
    | objectGc => rfl

/-- The run spares what other Items use exactly when no open step reaches a shared Snapshot. -/
theorem spared_iff (hs : s.JobsInOrder) (h : JobRun job now s s' j) :
    (∀ r ∈ s.references, r.isLive = true → r.team = j.team → s.IsUsedBeside j.team j.item r → r ∈ s'.references) ↔
      (isOpen j .intakeArtifact = true → ∀ r ∈ s.references, r.isLive = true → r.team = j.team →
        isSnapshotOf s.serving j.team j.item r = true → ¬ s.IsUsedBeside j.team j.item r) := by
  constructor
  · intro hspared ho r hr hlive hteam hsnapshot hused
    have hkept := ((h.mem_iff hs hlive).1 (hspared r hr hlive hteam hused)).2.1 ho
    unfold releases at hkept
    rw [hteam, hsnapshot] at hkept
    simp at hkept
  · intro hnone r hr hlive hteam hused
    refine (h.mem_iff hs hlive).2 ⟨hr, fun ho => ?_, fun _ => ?_, fun _ => ?_⟩
    · show (r.team == j.team && isSnapshotOf s.serving j.team j.item r) = false
      cases hsnapshot : isSnapshotOf s.serving j.team j.item r with
      | false => exact Bool.and_false _
      | true => exact absurd hused (hnone ho r hr hlive hteam hsnapshot)
    · show (r.team == j.team && r.ownerKind == .generationArtifact && s.isArtifactOf j.team j.item r) = false
      cases hartifact : s.isArtifactOf j.team j.item r with
      | false => exact Bool.and_false _
      | true => exact absurd hused (not_usedBeside_artifact hs hartifact)
    · show (isOwnedBy j.team (.item j.item) r && !r.purpose.isHold) = false
      cases howned : isOwnedBy j.team (.item j.item) r with
      | false => rfl
      | true =>
        unfold isOwnedBy at howned
        simp only [Bool.and_eq_true, beq_iff_eq] at howned
        exact absurd hused (not_usedBeside_item howned.2)

theorem remains_iff (hs : s.JobsInOrder) (h : JobRun job now s s' j) (hfree : s.hasItemHold j.team j.item = false)
    {r : ReferenceRow} (hlive : r.isLive = true) (hhold : r.purpose.isHold = false) :
    r ∈ s'.references ∧ s'.IsOfGraph j.team j.item r ↔ r ∈ s.references ∧ r.team = j.team ∧
      (s.isRevisionOf j.team j.item r = true ∨
        s.isArtifactOf j.team j.item r = true ∧ ¬ (r.ownerKind = .generationArtifact ∧ isOpen j .derivedGeneration = true) ∨
        s.IsAbandoned j.team j.item r ∧ isOpen j .intakeArtifact = false) := by
  rw [h.isOfGraph, h.mem_iff hs hlive]
  constructor
  · rintro ⟨⟨hr, hintake, hderived, hobject⟩, hteam, howner⟩
    refine ⟨hr, hteam, ?_⟩
    rcases howner with howner | hrevision | hartifact | habandoned
    · have hnot := hobject hfree
      unfold releases isOwnedBy at hnot
      rw [hteam, howner, hhold] at hnot
      simp at hnot
    · exact .inl hrevision
    · refine .inr (.inl ⟨hartifact, fun ⟨hkind, ho⟩ => ?_⟩)
      have hnot := hderived ho
      unfold releases at hnot
      rw [hteam, hkind, hartifact] at hnot
      simp at hnot
    · refine .inr (.inr ⟨habandoned, ?_⟩)
      cases ho : isOpen j .intakeArtifact with
      | false => rfl
      | true =>
        have hnot := hintake ho
        unfold releases at hnot
        rw [hteam, habandoned.1] at hnot
        simp at hnot
  · rintro ⟨hr, hteam, howner⟩
    rcases howner with hrevision | ⟨hartifact, hmissed⟩ | ⟨habandoned, hclosed⟩
    · obtain ⟨v, hv⟩ := revision_of_isRevisionOf hrevision
      have spared (k : CleanupSubstrate) : s.releases j k r = false :=
        releases_eq_false (fun _ n hn => by simp [hv] at hn) (fun _ _ a ha => by simp [hv] at ha)
          fun _ hi => by simp [hv] at hi
      exact ⟨⟨hr, fun _ => spared _, fun _ => spared _, fun _ => spared _⟩, hteam, .inr (.inl hrevision)⟩
    · obtain ⟨a, -, -, -, ha⟩ := artifact_of_isArtifactOf hartifact
      have spared (k : CleanupSubstrate) (hk : k = .derivedGeneration → r.ownerKind ≠ .generationArtifact) :
          s.releases j k r = false :=
        releases_eq_false (fun _ n hn => by simp [ha] at hn) (fun hd hkind => absurd hkind (hk hd))
          fun _ hi => by simp [ha] at hi
      refine ⟨⟨hr, fun _ => ?_, fun ho => ?_, fun _ => ?_⟩, hteam, .inr (.inr (.inl hartifact))⟩
      · exact spared _ fun hd => CleanupSubstrate.noConfusion hd
      · exact spared _ fun _ hkind => hmissed ⟨hkind, ho⟩
      · exact spared _ fun hd => CleanupSubstrate.noConfusion hd
    · obtain ⟨n, hn⟩ := snapshot_of_isSnapshotOf habandoned.1
      have spared (k : CleanupSubstrate) (hk : k ≠ .intakeArtifact) : s.releases j k r = false :=
        releases_eq_false (fun hi => absurd hi hk) (fun _ _ a ha => by simp [hn] at ha) fun _ hi => by simp [hn] at hi
      refine ⟨⟨hr, fun ho => ?_, fun _ => ?_, fun _ => ?_⟩, hteam, .inr (.inr (.inr habandoned))⟩
      · exact absurd (hclosed.symm.trans ho) Bool.false_ne_true
      · exact spared _ CleanupSubstrate.noConfusion
      · exact spared _ CleanupSubstrate.noConfusion

theorem completes_iff (hs : s.JobsInOrder) (h : JobRun job now s s' j) :
    (∃ q ∈ s'.jobs, q.job = j.job ∧ q.state = .completed) ↔ s.hasItemHold j.team j.item = false := by
  have hstate := JobRun.state_settle now s j
  rw [isBlocked_eq hs h.mem h.runnable] at hstate
  constructor
  · rintro ⟨q, hq, hkey, hcompleted⟩
    rcases h.mem_jobs hs hq with ⟨-, hne⟩ | rfl
    · exact absurd (hkey.trans h.key) hne
    · cases hheld : s.hasItemHold j.team j.item with
      | false => rfl
      | true =>
        rw [hcompleted, hheld] at hstate
        cases hstate
  · intro hfree
    rw [hfree] at hstate
    refine ⟨CleanupJobRow.settle (runSteps j now j.steps s).2.1 (runSteps j now j.steps s).2.2 j, ?_, rfl, hstate⟩
    rw [h.jobs]
    have hmem := mem_updateWhere_of_mem (c := fun q => q.job == job)
      (f := CleanupJobRow.settle (runSteps j now j.steps s).2.1 (runSteps j now j.steps s).2.2) h.mem
    rwa [if_pos (beq_iff_eq.2 h.key)] at hmem

/-- A completing run leaves nothing of the graph exactly when the graph has no owner that its steps do not reach. -/
theorem released_iff (hs : s.JobsInOrder) (h : JobRun job now s s' j) (hfree : s.hasItemHold j.team j.item = false) :
    (∀ r ∈ s'.references, r.isLive = true → r.purpose.isHold = false → ¬ s'.IsOfGraph j.team j.item r) ↔
      ∀ r ∈ s.references, r.isLive = true → r.purpose.isHold = false → r.team = j.team →
        s.isRevisionOf j.team j.item r = false ∧
        (s.isArtifactOf j.team j.item r = true → r.ownerKind = .generationArtifact ∧ isOpen j .derivedGeneration = true) ∧
        (s.IsAbandoned j.team j.item r → isOpen j .intakeArtifact = true) := by
  constructor
  · intro hnone r hr hlive hhold hteam
    have hremains (howner) : False :=
      have h' := (h.remains_iff hs hfree hlive hhold).2 ⟨hr, hteam, howner⟩
      hnone r h'.1 hlive hhold h'.2
    refine ⟨Bool.eq_false_iff.2 fun hrevision => hremains (.inl hrevision), fun hartifact => ?_, fun habandoned => ?_⟩
    · by_contra hmissed
      exact hremains (.inr (.inl ⟨hartifact, hmissed⟩))
    · by_contra hclosed
      exact hremains (.inr (.inr ⟨habandoned, Bool.eq_false_iff.2 hclosed⟩))
  · intro hnone r hr hlive hhold hgraph
    obtain ⟨hmem, hteam, howner⟩ := (h.remains_iff hs hfree hlive hhold).1 ⟨hr, hgraph⟩
    obtain ⟨hrevision, hartifacts, habandoned⟩ := hnone r hmem hlive hhold hteam
    rcases howner with hr' | ⟨ha, hmissed⟩ | ⟨hs', hclosed⟩
    · exact Bool.false_ne_true (hrevision.symm.trans hr')
    · exact hmissed (hartifacts ha)
    · exact Bool.false_ne_true (hclosed.symm.trans (habandoned hs'))

theorem releasesOwnGraph_iff (hs : s.JobsInOrder) (h : JobRun job now s s' j) : s.ReleasesOwnGraph s' j ↔ s.OwnsAlone j := by
  constructor
  · rintro ⟨hspared, hreleased⟩
    have hall (hfree : s.hasItemHold j.team j.item = false) := (h.released_iff hs hfree).1
      (let ⟨q, hq, hkey, hcompleted⟩ := (h.completes_iff hs).2 hfree
       hreleased q hq hkey hcompleted)
    refine ⟨(h.spared_iff hs).1 hspared, fun hfree r hr hlive hhold hteam => ?_, fun hfree r hr hlive hhold hteam => ?_,
      fun hfree r hr hlive hhold hteam => ?_⟩
    · exact (hall hfree r hr hlive hhold hteam).1
    · exact (hall hfree r hr hlive hhold hteam).2.1
    · exact (hall hfree r hr hlive hhold hteam).2.2
  · intro hcond
    refine ⟨(h.spared_iff hs).2 hcond.spared, fun q hq hkey hcompleted => ?_⟩
    have hfree := (h.completes_iff hs).1 ⟨q, hq, hkey, hcompleted⟩
    refine (h.released_iff hs hfree).2 fun r hr hlive hhold hteam => ⟨?_, ?_, ?_⟩
    · exact hcond.revisions hfree r hr hlive hhold hteam
    · exact hcond.artifacts hfree r hr hlive hhold hteam
    · exact hcond.abandoned hfree r hr hlive hhold hteam

end JobRun

end Substrates

/-- **The owner graph of a deleted Item.** In every reachable state a due cleanup job runs; it releases the references of
the graph of its Item and of nothing another Item uses exactly when the Item owns its graph alone, of the owner kinds
and in the steps that the job visits. -/
theorem ownerGraph (grace : Nat) (l : List CleanupStep) (job : CleanupJobId) (now : Time) (j : CleanupJobRow)
    (hj : IsDue (runFrom (cleanupStep grace) .empty l) job now j) :
    let s := runFrom (cleanupStep grace) .empty l
    ∃ s', s.runJob job now = .ok s' ∧ (s.ReleasesOwnGraph s' j ↔ s.OwnsAlone j) := by
  have hs := (orderly_run grace l).jobs
  obtain ⟨s', hok, hrun⟩ := hj.run hs
  exact ⟨s', hok, hrun.releasesOwnGraph_iff hs⟩

/-! ### a collection, one of whose Items is deleted -/

/-- A collection Snapshot of the Items with a reference of the Snapshot; the first Item is deleted, and has a cleanup
job. -/
def sampleCollection (members : List CollectionMember) (references : List ReferenceRow) : List CleanupStep :=
  [.write (.acceptCollection ⟨1, 1, 1, members, ⟨1, 1, 1⟩⟩), .revision ⟨1, 10, 1⟩] ++ references.map .reference ++
    [.write (.lifecycle ⟨1, 1, .delete, 1, none, 5⟩), .ensureForItem 1 1 1 5]

def sampleJob : CleanupJobRow :=
  ⟨1, 1, 1, 5, .pending, none, 0, cleanupSubstrates.map fun k => ⟨k, .pending, none⟩⟩

def sampleSnapshotReference : ReferenceRow :=
  ⟨1, 1, 1, .intakeSnapshotArtifact, .intakeSnapshot, .snapshot 1, 0, none, none⟩

def sampleRevisionReference : ReferenceRow :=
  ⟨2, 1, 2, .intakeRevisionArtifact, .intakeRevision, .revision 10, 0, none, none⟩

/-- The collection of one Item, and another Item of the Team with references of its own. -/
def sampleNeighbours : List CleanupStep :=
  [.write (.acceptCollection ⟨1, 2, 2, [⟨0, 2, 2, 20⟩], ⟨2, 2, 2⟩⟩), .revision ⟨2, 20, 1⟩,
    .reference { sampleSnapshotReference with reference := 3, owner := .snapshot 2 },
    .reference { sampleRevisionReference with reference := 4, owner := .revision 20 }] ++
  sampleCollection [⟨0, 1, 1, 10⟩] [sampleSnapshotReference]

/-- The only Item of a Snapshot owns it alone, and what its neighbour refers to stays. -/
theorem ownerGraph_alone :
    let s := runFrom (cleanupStep 0) .empty sampleNeighbours
    ∃ s', s.runJob 1 6 = .ok s' ∧ s.ReleasesOwnGraph s' sampleJob ∧
      (s'.references.filter ReferenceRow.isLive).map ReferenceRow.reference = [3, 4] := by
  obtain ⟨s', hrun, hiff⟩ := ownerGraph 0 sampleNeighbours 1 6 sampleJob ⟨List.mem_cons_self, rfl, rfl, by decide⟩
  refine ⟨s', hrun, hiff.2 ⟨fun _ r hr _ _ howner => ?_, fun _ r hr _ _ _ => ?_, fun _ r hr _ _ _ h => ?_,
    fun _ _ _ _ _ _ _ => rfl⟩, ?_⟩
  · rintro ⟨other, hne, -, hpart⟩
    have hsnapshot : r.owner = .snapshot 1 := by
      clear hpart
      revert r
      decide
    rcases Bool.or_eq_true_iff.1 hpart with hpart | hpart
    · rcases Bool.or_eq_true_iff.1 hpart with hpart | hpart
      · obtain ⟨m, hm, h⟩ := List.any_eq_true.1 hpart
        simp only [Bool.and_eq_true, beq_iff_eq, hsnapshot] at h
        have hitem : ∀ m ∈ (runFrom (cleanupStep 0) .empty sampleNeighbours).serving.memberships,
            OwnerId.snapshot 1 = .snapshot m.snapshot → m.item = sampleJob.item := by decide
        exact hne (h.1.2.symm.trans (hitem m hm h.2))
      · obtain ⟨v, h⟩ := revision_of_isRevisionOf hpart
        rw [hsnapshot] at h
        cases h
    · obtain ⟨a, -, -, -, h⟩ := artifact_of_isArtifactOf hpart
      rw [hsnapshot] at h
      cases h
  · revert r
    decide
  · revert r
    decide
  · have hlive : ((runFrom (cleanupStep 0) .empty sampleNeighbours).runJob 1 6).map (fun s' =>
        (s'.references.filter ReferenceRow.isLive).map ReferenceRow.reference) = .ok [3, 4] := rfl
    rw [hrun] at hlive
    exact Except.ok.inj hlive

/-- The run releases the Snapshot that the second Item is of, and leaves the reference of the Revision of the first. -/
theorem ownerGraph_collection :
    let s := runFrom (cleanupStep 0) .empty (sampleCollection [⟨0, 1, 1, 10⟩, ⟨1, 2, 2, 20⟩]
      [sampleSnapshotReference, sampleRevisionReference])
    ∃ s', s.runJob 1 6 = .ok s' ∧ ¬ s.ReleasesOwnGraph s' sampleJob ∧ sampleRevisionReference ∈ s'.references ∧
      s'.jobs.map CleanupJobRow.state = [.completed] := by
  refine ⟨_, rfl, fun h => ?_, List.mem_cons_of_mem _ List.mem_cons_self, rfl⟩
  have hspared := h.spared sampleSnapshotReference List.mem_cons_self rfl rfl ⟨2, by decide, rfl, rfl⟩
  exact absurd hspared (by decide)

end KnowledgeBase
