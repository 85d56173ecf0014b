import KnowledgeBase.Storage.CleanupRuns

/-!
# Holds on a deleted Item

Deletion and cleanup leave every operator and backup hold in place exactly when no fresh delete meets a hold on its
Item, and no due job one on the Snapshots or the generation artifacts its open steps release.
-/

namespace KnowledgeBase

open Checked Relational Serving Substrates

namespace Substrates

variable {s s' : Substrates} {j : CleanupJobRow} {now : Time} {grace : Nat}

/-! ### holds -/

/-- The transaction keeps every live hold, and completes no job of an Item under one. -/
structure KeepsHolds (s s' : Substrates) : Prop where
  holds : ∀ r ∈ s.references, r.isLiveHold = true → r ∈ s'.references
  jobs : ∀ j ∈ s.jobs, j.state ≠ .completed → s.hasItemHold j.team j.item = true →
    ∀ q ∈ s'.jobs, q.job = j.job → q.state ≠ .completed

/-- A delete of an Item that is not deleted, at its revision and under a key not used before. -/
def isFreshDelete (s : Substrates) (c : LifecycleCommand) : Bool :=
  c.action == .delete && (s.serving.item? c.team c.item).any fun i =>
    !s.serving.hasTransition c.team c.item (.lifecycle c.item c.action c.idempotencyKey) &&
      c.expectedItemRevision.getD i.rowRevision == i.rowRevision && i.lifecycleState != .deleted

/-- The step meets no hold: a fresh delete none on its Item, and a due job none on the Snapshots or the generation
artifacts of its Item while the steps that release theirs are open. -/
def MeetsNoHold (s : Substrates) : CleanupStep → Prop
  | .write (.lifecycle c) => s.isFreshDelete c = true → ∀ r ∈ s.references, r.isLiveHold = true →
    isOwnedBy c.team (.item c.item) r = false
  | .runJob job now => ∀ j, IsDue s job now j → ∀ r ∈ s.references, r.isLiveHold = true →
    (isOpen j .intakeArtifact = true → s.releases j .intakeArtifact r = false) ∧
      (isOpen j .derivedGeneration = true → s.releases j .derivedGeneration r = false)
  | _ => True

/-! ### the delete -/

theorem references_of_not_fresh {c : LifecycleCommand} (hc : s.isFreshDelete c = false) (h : s.applyLifecycle c = .ok s') :
    s'.references = s.references := by
  obtain rfl | ⟨i, target, serving, hi, hfresh, hrevision, htarget, rfl⟩ := applyLifecycle_cases h
  · rfl
  · show releaseForLifecycle c s.references = s.references
    unfold releaseForLifecycle
    split
    · rename_i hdelete
      exfalso
      have hlive : i.lifecycleState ≠ .deleted := by
        intro he
        rw [beq_iff_eq.1 hdelete, he] at htarget
        cases htarget
      unfold isFreshDelete at hc
      rw [hdelete, hi, Option.any_some, hfresh, hrevision] at hc
      simp [hlive] at hc
    · rfl

theorem applyLifecycle_of_fresh {c : LifecycleCommand} (hs : s.serving.Keyed) (hc : s.isFreshDelete c = true) :
    ∃ s', s.applyLifecycle c = .ok s' ∧
      s'.references = releaseWhere (isOwnedBy c.team (.item c.item)) c.now s.references ∧ s'.jobs = s.jobs := by
  unfold isFreshDelete at hc
  rw [Bool.and_eq_true, Option.any_eq_true] at hc
  obtain ⟨hdelete, i, hi, hc⟩ := hc
  simp only [Bool.and_eq_true, Bool.not_eq_true', beq_iff_eq, bne_iff_ne] at hc
  obtain ⟨⟨hfresh, hrevision⟩, hlive⟩ := hc
  have hkey := List.find?_some hi
  have htarget : targetState c.action i.lifecycleState = .ok (some .deleted) := by
    rw [beq_iff_eq.1 hdelete]
    cases hstate : i.lifecycleState with
    | deleted => exact absurd hstate hlive
    | active => rfl
    | deactivated => rfl
  have hcas : casWhere (isAt i) (ItemRow.transition .deleted c.now)
      (conflictError "intake-item-revision-conflict" "Intake item changed concurrently") s.serving.items =
        .ok (updateWhere (isAt i) (ItemRow.transition .deleted c.now) s.serving.items) := by
    refine casWhere_eq_ok_iff.2 ⟨countP_eq_one hs.items (List.mem_of_find?_eq_some hi) ?_ ?_, rfl⟩
    · unfold isAt
      simp
    · intro q _ hq
      unfold isAt at hq
      simp only [Bool.and_eq_true, beq_iff_eq] at hq
      exact hq.1.1
  obtain ⟨serving, hserving⟩ : ∃ serving, s.serving.applyTransition c i .deleted = .ok serving :=
    ⟨_, bind_ok_iff.2 ⟨_, hcas, rfl⟩⟩
  refine ⟨{ s with serving := serving, references := releaseForLifecycle c s.references }, ?_, ?_, rfl⟩
  · refine bind_ok_iff.2 ⟨i, required_ok_iff.2 hi, ?_⟩
    rw [if_neg (Bool.eq_false_iff.1 hfresh)]
    refine bind_ok_iff.2 ⟨(), ?_, bind_ok_iff.2 ⟨_, htarget, bind_ok_iff.2 ⟨_, hserving, rfl⟩⟩⟩
    rw [failIf_ok_iff, bne_eq_false_iff_eq]
    exact hrevision
  · show releaseForLifecycle c s.references = _
    unfold releaseForLifecycle
    rw [if_pos hdelete]

theorem holds_applyLifecycle_iff (grace : Nat) (hs : s.serving.Keyed) (c : LifecycleCommand) :
    (∀ r ∈ s.references, r.isLiveHold = true → r ∈ (cleanupStep grace s (.write (.lifecycle c))).references) ↔
      s.MeetsNoHold (.write (.lifecycle c)) := by
  cases hc : s.isFreshDelete c with
  | false =>
    have hsame : (cleanupStep grace s (.write (.lifecycle c))).references = s.references := by
      obtain h | h := cleanupStep_cases grace (s := s) (t := .write (.lifecycle c))
      · rw [h]
      · exact references_of_not_fresh hc h
    rw [hsame]
    exact ⟨fun _ hfresh => absurd (hc.symm.trans hfresh) Bool.false_ne_true, fun _ r hr _ => hr⟩
  | true =>
    obtain ⟨s', h, hreferences, -⟩ := applyLifecycle_of_fresh hs hc
    have hstep : cleanupStep grace s (.write (.lifecycle c)) = s' := cleanupStep_of_ok grace h
    rw [hstep, hreferences]
    refine ⟨fun hkept _ r hr hhold => ?_, fun hnone r hr hhold => ?_⟩
    · have hlive := (Bool.and_eq_true _ _ ▸ hhold : r.isLive = true ∧ r.purpose.isHold = true).1
      exact ((mem_releaseWhere_iff hlive).1 (hkept r hr hhold)).2
    · have hlive := (Bool.and_eq_true _ _ ▸ hhold : r.isLive = true ∧ r.purpose.isHold = true).1
      exact (mem_releaseWhere_iff hlive).2 ⟨hr, hnone hc r hr hhold⟩

/-! ### the run of a job -/

theorem JobRun.hold_mem_iff (hs : s.JobsInOrder) {job : CleanupJobId} (h : JobRun job now s s' j) {r : ReferenceRow}
    (hr : r ∈ s.references) (hhold : r.isLiveHold = true) :
    r ∈ s'.references ↔ (isOpen j .intakeArtifact = true → s.releases j .intakeArtifact r = false) ∧
      (isOpen j .derivedGeneration = true → s.releases j .derivedGeneration r = false) := by
  have hparts : r.isLive = true ∧ r.purpose.isHold = true := Bool.and_eq_true _ _ ▸ hhold
  obtain ⟨hintake, hderived, -⟩ := mem_executed_iff hs h.mem
  rw [h.references hparts.1]
  refine ⟨fun hkept => ⟨fun ho => hkept.2 _ (hintake.2 ho), fun ho => hkept.2 _ (hderived.2 ho)⟩, fun hnone => ⟨hr, ?_⟩⟩
  intro k hk
  cases k with
  | intakeArtifact => exact hnone.1 (hintake.1 hk)
  | derivedGeneration => exact hnone.2 (hderived.1 hk)
  | objectReference =>
    show (isOwnedBy j.team (.item j.item) r && !r.purpose.isHold) = false
    rw [hparts.2]
    exact Bool.and_false _
  | vectorProjection => rfl
  | objectGc => rfl

theorem JobRun.jobs_keep (hs : s.JobsInOrder) {job : CleanupJobId} (h : JobRun job now s s' j) {q : CleanupJobRow}
    (hq : q ∈ s.jobs) (hne : q.state ≠ .completed) (hhold : s.hasItemHold q.team q.item = true) {p : CleanupJobRow}
    (hp : p ∈ s'.jobs) (hkey : p.job = q.job) : p.state ≠ .completed := by
  rcases h.mem_jobs hs hp with ⟨hp, -⟩ | rfl
  · rw [eq_of_key hs.keys hp hq hkey]
    exact hne
  · rw [JobRun.state_settle, isBlocked_eq hs h.mem h.runnable, eq_of_key hs.keys h.mem hq hkey, hhold]
    exact fun he => CleanupJobState.noConfusion he

theorem keepsHolds_runJob_iff (hs : s.JobsInOrder) (job : CleanupJobId) (now : Time) :
    s.KeepsHolds (cleanupStep grace s (.runJob job now)) ↔ s.MeetsNoHold (.runJob job now) := by
  obtain h | h := cleanupStep_cases grace (s := s) (t := .runJob job now)
  · rw [h]
    refine ⟨fun _ q hq => ?_, fun _ => ⟨fun r hr _ => hr, fun q hq hne _ p hp hkey => ?_⟩⟩
    · -- a due job runs, and its revision advances
      obtain ⟨s', hok, hrun⟩ := hq.run hs
      have hstep : cleanupStep grace s (.runJob job now) = s' := cleanupStep_of_ok grace hok
      rw [hstep] at h
      subst h
      intro r hr hhold
      exact (hrun.hold_mem_iff hs hr hhold).1 hr
    · rw [eq_of_key hs.keys hp hq hkey]
      exact hne
  · obtain ⟨j, hrun⟩ := runJob_ok h
    refine ⟨fun hkept q hq r hr hhold => ?_, fun hnone => ⟨fun r hr hhold => ?_, fun q hq hne hheld p hp hkey => ?_⟩⟩
    · rw [eq_of_key hs.keys hq.mem hrun.mem (hq.key.trans hrun.key.symm)]
      exact (hrun.hold_mem_iff hs hr hhold).1 (hkept.holds r hr hhold)
    · exact (hrun.hold_mem_iff hs hr hhold).2 (hnone j hrun.toIsDue r hr hhold)
    · exact hrun.jobs_keep hs hq hne hheld hp hkey

/-! ### the other steps -/

theorem keepsHolds_of_jobs (hs : s.JobsInOrder) (hreferences : ∀ r ∈ s.references, r.isLiveHold = true → r ∈ s'.references)
    (hjobs : ∀ q ∈ s'.jobs, q.state ≠ .completed ∨ q ∈ s.jobs) : s.KeepsHolds s' := by
  refine ⟨hreferences, fun j hj hne _ q hq hkey => ?_⟩
  rcases hjobs q hq with h | h
  · exact h
  · rw [eq_of_key hs.keys h hj hkey]
    exact hne

theorem jobs_applyLifecycle {c : LifecycleCommand} (h : s.applyLifecycle c = .ok s') : s'.jobs = s.jobs := by
  obtain rfl | ⟨i, target, serving, -, -, -, -, rfl⟩ := applyLifecycle_cases h
  · rfl
  · rfl

theorem keepsHolds_of_eq (hs : s.Orderly) {s' : Substrates} (h : s' = s) : s.KeepsHolds s' := by
  rw [h]
  exact keepsHolds_of_jobs hs.jobs (fun r hr _ => hr) fun q hq => .inr hq

theorem keepsHolds_write_iff (hs : s.Orderly) (t : ServingStep) :
    s.KeepsHolds (cleanupStep grace s (.write t)) ↔ s.MeetsNoHold (.write t) := by
  by_cases hlife : ∃ c, t = .lifecycle c
  · obtain ⟨c, rfl⟩ := hlife
    have hjobs : (cleanupStep grace s (.write (.lifecycle c))).jobs = s.jobs := by
      obtain h | h := cleanupStep_cases grace (s := s) (t := .write (.lifecycle c))
      · rw [h]
      · exact jobs_applyLifecycle h
    rw [← holds_applyLifecycle_iff grace hs.serving c]
    refine ⟨KeepsHolds.holds, fun h => keepsHolds_of_jobs hs.jobs h fun q hq => .inr ?_⟩
    rwa [hjobs] at hq
  · have htrue : s.MeetsNoHold (.write t) := by
      cases t with
      | lifecycle c => exact absurd ⟨c, rfl⟩ hlife
      | _ => trivial
    refine iff_of_true ?_ htrue
    obtain h | h := cleanupStep_cases grace (s := s) (t := .write t)
    · exact keepsHolds_of_eq hs h
    · obtain ⟨serving, -, hs'⟩ := write_ok (not_exists.1 hlife) h
      rw [hs']
      exact keepsHolds_of_jobs hs.jobs (fun r hr _ => hr) fun q hq => .inr hq

theorem keepsHolds_ensureForItem (hs : s.Orderly) (job : CleanupJobId) (team : TeamId) (item : ItemId)
    (retentionUntil : Time) : s.KeepsHolds (cleanupStep grace s (.ensureForItem job team item retentionUntil)) := by
  obtain h | h := cleanupStep_cases grace (s := s) (t := .ensureForItem job team item retentionUntil)
  · exact keepsHolds_of_eq hs h
  · generalize cleanupStep grace s (.ensureForItem job team item retentionUntil) = s' at h
    obtain rfl | ⟨-, rfl⟩ := ensureForItem_ok (show s.ensureForItem job team item retentionUntil = .ok s' from h)
    · exact keepsHolds_of_eq hs rfl
    · refine keepsHolds_of_jobs hs.jobs (fun r hr _ => hr) fun q hq => ?_
      rcases List.mem_append.1 hq with hq | hq
      · exact .inr hq
      · rw [List.mem_singleton.1 hq]
        exact .inl fun he => CleanupJobState.noConfusion he

theorem keepsHolds_resumeCleanup (hs : s.Orderly) (team : TeamId) (job : CleanupJobId) (expectedRevision : Nat) :
    s.KeepsHolds (cleanupStep grace s (.resumeCleanup team job expectedRevision)) := by
  obtain h | h := cleanupStep_cases grace (s := s) (t := .resumeCleanup team job expectedRevision)
  · exact keepsHolds_of_eq hs h
  · generalize cleanupStep grace s (.resumeCleanup team job expectedRevision) = s' at h
    obtain ⟨c, -, rfl⟩ := resumeCleanup_ok (show s.resumeCleanup team job expectedRevision = .ok s' from h)
    refine keepsHolds_of_jobs hs.jobs (fun r hr _ => hr) fun q hq => ?_
    rcases mem_updateWhere_cases hq with ⟨hq, -⟩ | ⟨p, -, -, rfl⟩
    · exact .inr hq
    · exact .inl fun he => CleanupJobState.noConfusion he

theorem keepsHolds_iff (hs : s.Orderly) (t : CleanupStep) : s.KeepsHolds (cleanupStep grace s t) ↔ s.MeetsNoHold t := by
  cases t with
  | write t => exact keepsHolds_write_iff hs t
  | artifact a =>
    refine iff_of_true ?_ trivial
    obtain h | h := cleanupStep_cases grace (s := s) (t := .artifact a)
    · exact keepsHolds_of_eq hs h
    · obtain ⟨artifacts, -, hs'⟩ := map_eq_ok h
      rw [← hs']
      exact keepsHolds_of_jobs hs.jobs (fun r hr _ => hr) fun q hq => .inr hq
  | revision r =>
    refine iff_of_true ?_ trivial
    obtain h | h := cleanupStep_cases grace (s := s) (t := .revision r)
    · exact keepsHolds_of_eq hs h
    · obtain ⟨revisions, -, hs'⟩ := map_eq_ok h
      rw [← hs']
      exact keepsHolds_of_jobs hs.jobs (fun r hr _ => hr) fun q hq => .inr hq
  | reference r =>
    refine iff_of_true ?_ trivial
    exact keepsHolds_of_jobs hs.jobs (fun r hr _ => List.mem_append_left _ hr) fun q hq => .inr hq
  | ensureForItem job team item retentionUntil =>
    exact iff_of_true (keepsHolds_ensureForItem hs job team item retentionUntil) trivial
  | runJob job now => exact keepsHolds_runJob_iff hs.jobs job now
  | resumeCleanup team job expectedRevision =>
    exact iff_of_true (keepsHolds_resumeCleanup hs team job expectedRevision) trivial

/-! ### every run -/

theorem holds_run {l : List CleanupStep} (h : StepsMeet (cleanupStep grace) (fun s t => s.KeepsHolds (cleanupStep grace s t)) s l)
    {r : ReferenceRow} (hr : r ∈ s.references) (hhold : r.isLiveHold = true) :
    r ∈ (runFrom (cleanupStep grace) s l).references := by
  refine runFrom_invariant (I := fun s => r ∈ s.references) (fun s t hmem hkeeps => ?_) hr h
  exact hkeeps.holds r hmem hhold

theorem keepsHolds_run_iff (hs : s.Orderly) (l : List CleanupStep) :
    StepsMeet (cleanupStep grace) (fun s t => s.KeepsHolds (cleanupStep grace s t)) s l ↔
      StepsMeet (cleanupStep grace) MeetsNoHold s l := by
  induction l generalizing s with
  | nil => exact Iff.rfl
  | cons t l ih => exact and_congr (keepsHolds_iff hs t) (ih (orderly_step hs grace t))

end Substrates

/-- **Holds on a deleted Item.** In a run from the empty state no lifecycle command and no cleanup job releases a live
hold, and none completes the job of an Item under one, exactly when no step meets a hold it releases; over such a run
every live hold of any state on the way is there at its end. -/
theorem holdsKept (grace : Nat) (l : List CleanupStep) :
    (StepsMeet (cleanupStep grace) (fun s t => s.KeepsHolds (cleanupStep grace s t)) .empty l ↔
        StepsMeet (cleanupStep grace) MeetsNoHold .empty l) ∧
      ∀ l₁ l₂, l = l₁ ++ l₂ → StepsMeet (cleanupStep grace) MeetsNoHold .empty l →
        ∀ r ∈ (runFrom (cleanupStep grace) .empty l₁).references, r.isLiveHold = true →
          r ∈ (runFrom (cleanupStep grace) .empty l).references := by
  have horderly := orderly_run grace []
  refine ⟨keepsHolds_run_iff horderly l, fun l₁ l₂ hl hmeets r hr hhold => ?_⟩
  subst hl
  rw [runFrom_append]
  have hsuffix := (stepsMeet_append.1 ((keepsHolds_run_iff horderly _).2 hmeets)).2
  exact holds_run hsuffix hr hhold

/-! ### a hold on the Item -/

def sampleHold : ReferenceRow := ⟨1, 1, 1, .operatorHold, .other 0, .item 1, 0, none, none⟩

/-- An accepted Item with an operator hold, and a lifecycle command on it. -/
def sampleHeld (action : ItemAction) : List CleanupStep :=
  [.write (.acceptSnapshot (sampleAccept false)), .reference sampleHold, .write (.lifecycle ⟨1, 1, action, 1, none, 5⟩)]

/-- Two Items; the first has a hold and is deactivated, the second is deleted and cleaned up. -/
def sampleHeldBeside : List CleanupStep :=
  [.write (.acceptCollection ⟨1, 1, 1, [⟨0, 1, 1, 10⟩, ⟨1, 2, 2, 20⟩], ⟨1, 1, 1⟩⟩), .reference sampleHold,
    .write (.lifecycle ⟨1, 1, .deactivate, 1, none, 5⟩), .write (.lifecycle ⟨1, 2, .delete, 2, none, 5⟩),
    .ensureForItem 1 1 2 5, .runJob 1 6]

theorem holdsKept_beside :
    let s := runFrom (cleanupStep 0) .empty sampleHeldBeside
    sampleHold ∈ s.references ∧ s.jobs.map CleanupJobRow.state = [.completed] := by
  refine ⟨(holdsKept 0 sampleHeldBeside).2 (sampleHeldBeside.take 2) _ rfl ⟨trivial, trivial, ?_, ?_, trivial, ?_, trivial⟩
    sampleHold List.mem_cons_self rfl, rfl⟩
  · show (false = true → _)
    exact nofun
  · show (true = true → ∀ r ∈ [sampleHold], _)
    decide
  · rintro j ⟨hj, -⟩ r hr -
    obtain rfl := List.mem_singleton.1 hj
    obtain rfl := List.mem_singleton.1 hr
    decide

/-- Deletion releases the hold, and the cleanup job of the Item then completes. -/
theorem holdsKept_deleted :
    ¬ StepsMeet (cleanupStep 0) (fun s t => s.KeepsHolds (cleanupStep 0 s t)) .empty (sampleHeld .delete) ∧
      (runFrom (cleanupStep 0) .empty (sampleHeld .delete ++ [.ensureForItem 1 1 1 5, .runJob 1 6])).jobs.map
        CleanupJobRow.state = [.completed] := by
  refine ⟨fun h => ?_, rfl⟩
  obtain ⟨-, -, hdelete, -⟩ := h
  exact absurd (hdelete.holds sampleHold List.mem_cons_self rfl) (by decide)

end KnowledgeBase
