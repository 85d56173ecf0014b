import KnowledgeBase.Storage.Cleanup

/-!
# What a cleanup run releases

The references a run of a job leaves are those that no substrate it executes selects. The substrates before the hold
check always run; the check itself sees the holds of the Item as they were before the run.
-/

namespace KnowledgeBase

open Checked Relational Serving

namespace Substrates

variable {s s' : Substrates} {j : CleanupJobRow} {now : Time}

/-! ### one step -/

/-- What the steps of a job leave of what they select by. -/
structure SameOwners (s s' : Substrates) : Prop where
  memberships : s'.serving.memberships = s.serving.memberships
  items : s'.serving.items = s.serving.items
  artifacts : s'.artifacts = s.artifacts
  revisions : s'.revisions = s.revisions
  jobs : s'.jobs = s.jobs

theorem SameOwners.refl (s : Substrates) : SameOwners s s := ⟨rfl, rfl, rfl, rfl, rfl⟩

theorem SameOwners.trans {s'' : Substrates} (h : SameOwners s s') (h' : SameOwners s' s'') : SameOwners s s'' :=
  ⟨h'.memberships.trans h.memberships, h'.items.trans h.items, h'.artifacts.trans h.artifacts,
    h'.revisions.trans h.revisions, h'.jobs.trans h.jobs⟩

theorem SameOwners.releases (h : SameOwners s s') (j : CleanupJobRow) (k : CleanupSubstrate) (r : ReferenceRow) :
    s'.releases j k r = s.releases j k r := by
  unfold Substrates.releases isArtifactOf isSnapshotOf
  rw [h.memberships, h.artifacts]

theorem sameOwners_runStep (j : CleanupJobRow) (now : Time) (s : Substrates) (k : CleanupStepRow) :
    SameOwners s (runStep j now s k).1 := by
  unfold runStep
  split
  · exact .refl s
  · split
    · exact ⟨rfl, rfl, rfl, rfl, rfl⟩
    · exact ⟨rfl, rfl, rfl, rfl, rfl⟩

/-- The step that a hold of the Item blocks. -/
def blocks (s : Substrates) (j : CleanupJobRow) (k : CleanupStepRow) : Bool :=
  k.substrate == .objectReference && s.hasItemHold j.team j.item

theorem runStep_of_blocks {k : CleanupStepRow} (h : s.blocks j k = true) :
    runStep j now s k = (s, { k with state := .blocked, blockedReason := some "cleanup_hold_active" }) := by
  unfold runStep
  exact if_pos h

theorem state_runStep (now : Time) {k : CleanupStepRow} (h : s.blocks j k = false) : (runStep j now s k).2.state = .completed := by
  unfold blocks at h
  unfold runStep
  rw [if_neg (Bool.eq_false_iff.1 h)]

theorem references_runStep {k : CleanupStepRow} (h : s.blocks j k = false) :
    (runStep j now s k).1.references = releaseWhere (s.releases j k.substrate) now s.references := by
  unfold blocks at h
  unfold runStep
  rw [if_neg (Bool.eq_false_iff.1 h)]

theorem releases_itemHold (s : Substrates) (j : CleanupJobRow) (k : CleanupSubstrate) {r : ReferenceRow}
    (ho : r.owner = .item j.item) (hh : r.purpose.isHold = true) : s.releases j k r = false := by
  cases k with
  | objectReference =>
    show (isOwnedBy j.team (.item j.item) r && !r.purpose.isHold) = false
    rw [hh]
    exact Bool.and_false _
  | intakeArtifact =>
    have hnone : isSnapshotOf s.serving j.team j.item r = false := by
      refine List.any_eq_false.2 fun m _ hm => ?_
      rw [ho] at hm
      simp only [Bool.and_eq_true, beq_iff_eq] at hm
      cases hm.2
    show (r.team == j.team && isSnapshotOf s.serving j.team j.item r) = false
    rw [hnone]
    exact Bool.and_false _
  | derivedGeneration =>
    have hnone : s.isArtifactOf j.team j.item r = false := by
      refine List.any_eq_false.2 fun a _ ha => ?_
      rw [ho] at ha
      simp only [Bool.and_eq_true, beq_iff_eq] at ha
      cases ha.2
    show (r.team == j.team && r.ownerKind == .generationArtifact && s.isArtifactOf j.team j.item r) = false
    rw [hnone]
    exact Bool.and_false _
  | vectorProjection => rfl
  | objectGc => rfl

theorem hasItemHold_runStep (j : CleanupJobRow) (now : Time) (s : Substrates) (k : CleanupStepRow) :
    (runStep j now s k).1.hasItemHold j.team j.item = s.hasItemHold j.team j.item := by
  cases h : s.blocks j k with
  | true => rw [runStep_of_blocks h]
  | false =>
    unfold hasItemHold
    rw [references_runStep h]
    refine Bool.eq_iff_iff.2 ?_
    rw [List.any_eq_true, List.any_eq_true]
    constructor
    · rintro ⟨r, hr, hc⟩
      have hlive : r.isLive = true := by
        simp only [ReferenceRow.isLiveHold, Bool.and_eq_true] at hc
        exact hc.2.1
      exact ⟨r, isLive_of_releaseWhere hr hlive, hc⟩
    · rintro ⟨r, hr, hc⟩
      have hc' := hc
      simp only [isOwnedBy, ReferenceRow.isLiveHold, Bool.and_eq_true, beq_iff_eq] at hc'
      exact ⟨r, (mem_releaseWhere_iff hc'.2.1).2 ⟨hr, s.releases_itemHold j k.substrate hc'.1.2 hc'.2.2⟩, hc⟩

/-! ### a run of the steps -/

/-- The substrates a run executes: those not completed, up to one that blocks. -/
def executed (s : Substrates) (j : CleanupJobRow) : List CleanupStepRow → List CleanupSubstrate
  | [] => []
  | k :: ks =>
    if k.state == .completed then executed s j ks
    else if s.blocks j k then []
    else k.substrate :: executed s j ks

/-- Some step of the run blocks. -/
def isBlocked (s : Substrates) (j : CleanupJobRow) (ks : List CleanupStepRow) : Bool :=
  ks.any fun k => k.state != .completed && s.blocks j k

theorem blocks_congr (h : s'.hasItemHold j.team j.item = s.hasItemHold j.team j.item) (k : CleanupStepRow) :
    s'.blocks j k = s.blocks j k := by
  unfold blocks
  rw [h]

theorem executed_congr (h : s'.hasItemHold j.team j.item = s.hasItemHold j.team j.item) (ks : List CleanupStepRow) :
    s'.executed j ks = s.executed j ks := by
  induction ks with
  | nil => rfl
  | cons k ks ih =>
    unfold executed
    rw [blocks_congr h, ih]

theorem isBlocked_congr (h : s'.hasItemHold j.team j.item = s.hasItemHold j.team j.item) (ks : List CleanupStepRow) :
    s'.isBlocked j ks = s.isBlocked j ks := by
  unfold isBlocked
  congr 1
  funext k
  rw [blocks_congr h]

/-- What a run of the steps does to the references and to the steps. -/
structure StepsRun (s : Substrates) (j : CleanupJobRow) (ks : List CleanupStepRow)
    (x : Substrates × List CleanupStepRow × Bool) : Prop where
  owners : SameOwners s x.1
  references : ∀ r : ReferenceRow, r.isLive = true →
    (r ∈ x.1.references ↔ r ∈ s.references ∧ ∀ k ∈ s.executed j ks, s.releases j k r = false)
  substrates : x.2.1.map CleanupStepRow.substrate = ks.map CleanupStepRow.substrate
  blocked : x.2.2 = s.isBlocked j ks
  completed : x.2.2 = false → ∀ k ∈ x.2.1, k.state = .completed
  kept : x.2.2 = true → ∀ k ∈ x.2.1, k.substrate = .objectReference → k.state ≠ .completed ∨
    ∃ q ∈ ks, q.substrate = .objectReference ∧ q.state = .completed

theorem stepsRun_of_completed {k : CleanupStepRow} {ks : List CleanupStepRow} (hk : (k.state == .completed) = true)
    (hrest : StepsRun s j ks (runSteps j now ks s)) : StepsRun s j (k :: ks) (runSteps j now (k :: ks) s) := by
  unfold runSteps
  have hexecuted : s.executed j (k :: ks) = s.executed j ks := by
    rw [executed, if_pos hk]
  have hblocked : s.isBlocked j (k :: ks) = s.isBlocked j ks := by
    unfold isBlocked
    rw [List.any_cons, bne, hk]
    rfl
  rw [if_pos hk]
  refine ⟨hrest.owners, ?_, ?_, ?_, fun h q hq => ?_, fun h q hq hs => ?_⟩
  · rw [hexecuted]
    exact hrest.references
  · show k.substrate :: _ = k.substrate :: _
    exact congrArg _ hrest.substrates
  · rw [hblocked]
    exact hrest.blocked
  · rcases List.mem_cons.1 hq with rfl | hq
    · exact beq_iff_eq.1 hk
    · exact hrest.completed h q hq
  · rcases List.mem_cons.1 hq with rfl | hq
    · exact .inr ⟨q, List.mem_cons_self, hs, beq_iff_eq.1 hk⟩
    · rcases hrest.kept h q hq hs with hne | ⟨p, hp, hps⟩
      · exact .inl hne
      · exact .inr ⟨p, List.mem_cons_of_mem _ hp, hps⟩

theorem stepsRun_of_blocks {k : CleanupStepRow} (ks : List CleanupStepRow) (now : Time)
    (hk : ¬ (k.state == .completed) = true) (hb : s.blocks j k = true) :
    StepsRun s j (k :: ks) (runSteps j now (k :: ks) s) := by
  unfold runSteps
  rw [if_neg hk]
  have hopen : (k.state != .completed) = true := by
    rw [bne, Bool.eq_false_iff.2 hk]
    rfl
  have hexecuted : s.executed j (k :: ks) = [] := by
    rw [executed, if_neg hk, if_pos hb]
  have hblocked : s.isBlocked j (k :: ks) = true := by
    unfold isBlocked
    rw [List.any_cons, hopen, hb]
    rfl
  rw [runStep_of_blocks hb]
  refine ⟨.refl s, fun r _ => ?_, rfl, ?_, fun h => absurd h.symm Bool.false_ne_true, fun _ q hq hs => ?_⟩
  · rw [hexecuted]
    exact ⟨fun h => ⟨h, fun k hk => absurd hk List.not_mem_nil⟩, fun h => h.1⟩
  · rw [hblocked]
    rfl
  · rcases List.mem_cons.1 hq with rfl | hq
    · exact .inl fun he => CleanupStepState.noConfusion he
    · by_cases hc : q.state = .completed
      · exact .inr ⟨q, List.mem_cons_of_mem _ hq, hs, hc⟩
      · exact .inl hc

theorem stepsRun_of_runs {k : CleanupStepRow} {ks : List CleanupStepRow} (hk : ¬ (k.state == .completed) = true)
    (hb : s.blocks j k = false)
    (hrest : StepsRun (runStep j now s k).1 j ks (runSteps j now ks (runStep j now s k).1)) :
    StepsRun s j (k :: ks) (runSteps j now (k :: ks) s) := by
  unfold runSteps
  rw [if_neg hk]
  have hopen : (k.state != .completed) = true := by
    rw [bne, Bool.eq_false_iff.2 hk]
    rfl
  have howners := sameOwners_runStep j now s k
  have hhold := hasItemHold_runStep j now s k
  have hstate := state_runStep now hb
  have hsubstrate : (runStep j now s k).2.substrate = k.substrate := by
    unfold runStep
    split
    · rfl
    · rfl
  have hexecuted : s.executed j (k :: ks) = k.substrate :: s.executed j ks := by
    rw [executed, if_neg hk, if_neg (Bool.eq_false_iff.1 hb)]
  have hblocked : s.isBlocked j (k :: ks) = s.isBlocked j ks := by
    unfold isBlocked
    rw [List.any_cons, hopen, hb]
    rfl
  have hnot : ((runStep j now s k).2.state == .blocked) = false := by
    rw [hstate]
    rfl
  simp only [hnot]
  refine ⟨howners.trans hrest.owners, fun r hr => ?_, ?_, ?_, fun h q hq => ?_, fun h q hq hs => ?_⟩
  · show r ∈ (runSteps j now ks (runStep j now s k).1).1.references ↔ _
    rw [hrest.references r hr, references_runStep hb, mem_releaseWhere_iff hr, executed_congr hhold, hexecuted,
      List.forall_mem_cons, and_assoc]
    refine and_congr_right fun _ => and_congr_right fun _ => forall₂_congr fun q _ => ?_
    rw [howners.releases]
  · show (runStep j now s k).2.substrate :: _ = _
    rw [hsubstrate]
    exact congrArg _ hrest.substrates
  · rw [hblocked, ← isBlocked_congr hhold]
    exact hrest.blocked
  · rcases List.mem_cons.1 hq with rfl | hq
    · exact hstate
    · exact hrest.completed h q hq
  · rcases List.mem_cons.1 hq with rfl | hq
    · -- the check has passed, so no later step blocks
      exfalso
      have hfree : s.hasItemHold j.team j.item = false := by
        rw [hsubstrate] at hs
        unfold blocks at hb
        rw [hs] at hb
        simpa using hb
      have hlater : s.isBlocked j ks = false := by
        refine List.any_eq_false.2 fun p _ hp => ?_
        unfold blocks at hp
        rw [hfree] at hp
        simp at hp
      have hbl := hrest.blocked
      rw [isBlocked_congr hhold, hlater] at hbl
      exact Bool.false_ne_true (hbl.symm.trans h)
    · rcases hrest.kept h q hq hs with hne | ⟨p, hp, hps⟩
      · exact .inl hne
      · exact .inr ⟨p, List.mem_cons_of_mem _ hp, hps⟩

theorem runSteps_spec (j : CleanupJobRow) (now : Time) (ks : List CleanupStepRow) (s : Substrates) :
    StepsRun s j ks (runSteps j now ks s) := by
  induction ks generalizing s with
  | nil =>
    refine ⟨.refl s, fun r _ => ?_, rfl, rfl, fun _ k hk => absurd hk List.not_mem_nil, fun h => absurd h Bool.false_ne_true⟩
    exact ⟨fun h => ⟨h, fun k hk => absurd hk List.not_mem_nil⟩, fun h => h.1⟩
  | cons k ks ih =>
    by_cases hk : (k.state == .completed) = true
    · exact stepsRun_of_completed hk (ih s)
    · cases hb : s.blocks j k with
      | true => exact stepsRun_of_blocks ks now hk hb
      | false => exact stepsRun_of_runs hk hb (ih (runStep j now s k).1)

end Substrates

end KnowledgeBase
