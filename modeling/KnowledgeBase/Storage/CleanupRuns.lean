import KnowledgeBase.Serving.Keys
import KnowledgeBase.Storage.CleanupEffects

/-!
# Reachable cleanup states

Jobs carry the steps of the service in their order, and one that is not completed has not passed its hold check, so a
run is blocked by a hold of its Item and by nothing else.
-/

namespace KnowledgeBase

open Checked Relational Serving Substrates

/-! ### jobs in order -/

namespace Substrates

variable {s s' : Substrates} {j : CleanupJobRow} {now : Time} {grace : Nat}

/-- Jobs have the steps of the service, and a job that is not completed has not passed its hold check. -/
structure JobsInOrder (s : Substrates) : Prop where
  keys : (s.jobs.map CleanupJobRow.job).Nodup
  steps : ∀ j ∈ s.jobs, j.steps.map CleanupStepRow.substrate = cleanupSubstrates
  checked : ∀ j ∈ s.jobs, j.state ≠ .completed → ∀ k ∈ j.steps, k.substrate = .objectReference → k.state ≠ .completed
  artifacts : (s.artifacts.map GenerationArtifactOwner.artifact).Nodup

theorem jobsInOrder_empty : Substrates.empty.JobsInOrder :=
  ⟨List.nodup_nil, fun _ hj => absurd hj List.not_mem_nil, fun _ hj => absurd hj List.not_mem_nil, List.nodup_nil⟩

theorem not_completed_of_isRunnable (h : j.isRunnable = true) : j.state ≠ .completed := by
  intro he
  unfold CleanupJobRow.isRunnable at h
  rw [he] at h
  cases h

/-- The job is found and due. -/
structure IsDue (s : Substrates) (job : CleanupJobId) (now : Time) (j : CleanupJobRow) : Prop where
  mem : j ∈ s.jobs
  key : j.job = job
  runnable : j.isRunnable = true
  due : j.retentionUntil ≤ now

/-- A committed run of a job. -/
structure JobRun (job : CleanupJobId) (now : Time) (s s' : Substrates) (j : CleanupJobRow) : Prop extends
    IsDue s job now j where
  state : s' = { (runSteps j now j.steps s).1 with
    jobs := updateWhere (fun q => q.job == job)
      (CleanupJobRow.settle (runSteps j now j.steps s).2.1 (runSteps j now j.steps s).2.2) (runSteps j now j.steps s).1.jobs }

theorem runJob_ok {job : CleanupJobId} (h : s.runJob job now = .ok s') : ∃ j, JobRun job now s s' j := by
  unfold runJob at h
  obtain ⟨j, hj, h⟩ := bind_ok_iff.1 h
  obtain ⟨_, hdue, h⟩ := bind_ok_iff.1 h
  rw [required_ok_iff] at hj
  rw [failIf_ok_iff, decide_eq_false_iff_not, Nat.not_lt] at hdue
  have hfound := List.find?_some hj
  simp only [Bool.and_eq_true, beq_iff_eq] at hfound
  exact ⟨j, ⟨List.mem_of_find?_eq_some hj, hfound.1, hfound.2, hdue⟩, (pure_ok_iff.1 h).symm⟩

/-- A job as it is scheduled. -/
def scheduled (job : CleanupJobId) (team : TeamId) (item : ItemId) (retentionUntil : Time) : CleanupJobRow :=
  ⟨job, team, item, retentionUntil, .pending, none, 0, cleanupSubstrates.map fun k => ⟨k, .pending, none⟩⟩

theorem ensureForItem_ok {job : CleanupJobId} {team : TeamId} {item : ItemId} {retentionUntil : Time}
    (h : s.ensureForItem job team item retentionUntil = .ok s') : s' = s ∨ (∀ q ∈ s.jobs, q.job ≠ job) ∧
      s' = { s with jobs := s.jobs ++ [scheduled job team item retentionUntil] } := by
  unfold ensureForItem at h
  obtain ⟨_, -, h⟩ := bind_ok_iff.1 h
  split at h
  · exact .inl (pure_ok_iff.1 h).symm
  · obtain ⟨jobs, hjobs, h⟩ := bind_ok_iff.1 h
    obtain ⟨hfresh, rfl⟩ := insertUnique_eq_ok_iff.1 hjobs
    exact .inr ⟨hfresh, (pure_ok_iff.1 h).symm⟩

/-- A job that is resumed. -/
def reopened (q : CleanupJobRow) : CleanupJobRow :=
  { q with state := .pending, blockedReason := none, rowRevision := q.rowRevision + 1 }

theorem resumeCleanup_ok {team : TeamId} {job : CleanupJobId} {expectedRevision : Nat}
    (h : s.resumeCleanup team job expectedRevision = .ok s') : ∃ c : CleanupJobRow → Bool,
      (∀ q, c q = true → q.state ≠ .completed) ∧ s' = { s with jobs := updateWhere c reopened s.jobs } := by
  unfold resumeCleanup at h
  obtain ⟨j, -, h⟩ := bind_ok_iff.1 h
  obtain ⟨_, -, h⟩ := bind_ok_iff.1 h
  obtain ⟨jobs, hjobs, h⟩ := bind_ok_iff.1 h
  obtain ⟨-, rfl⟩ := casWhere_eq_ok_iff.1 hjobs
  refine ⟨_, fun q hq he => ?_, (pure_ok_iff.1 h).symm⟩
  rw [he] at hq
  simp at hq

theorem write_ok {t : ServingStep} (hlife : ∀ c, t ≠ .lifecycle c) (h : CleanupStep.transact grace s (.write t) = .ok s') :
    ∃ serving, t.transact grace s.serving = .ok serving ∧ s' = { s with serving := serving } := by
  have hwrite : (t.transact grace s.serving).map (fun serving => { s with serving := serving }) = .ok s' := by
    cases t with
    | lifecycle c => exact absurd rfl (hlife c)
    | _ => exact h
  obtain ⟨serving, hserving, hs'⟩ := map_eq_ok hwrite
  exact ⟨serving, hserving, hs'.symm⟩

theorem IsDue.run {job : CleanupJobId} (hs : s.JobsInOrder) (h : IsDue s job now j) :
    ∃ s', s.runJob job now = .ok s' ∧ JobRun job now s s' j := by
  have hfind : s.jobs.find? (fun q => q.job == job && q.isRunnable) = some j := by
    refine find?_of_unique hs.keys h.mem (by simp [h.key, h.runnable]) fun q _ hq => ?_
    simp only [Bool.and_eq_true, beq_iff_eq] at hq
    exact hq.1.trans h.key.symm
  refine ⟨_, bind_ok_iff.2 ⟨j, required_ok_iff.2 hfind, bind_ok_iff.2 ⟨(), ?_, rfl⟩⟩, h, rfl⟩
  rw [failIf_ok_iff, decide_eq_false_iff_not, Nat.not_lt]
  exact h.due

namespace JobRun

variable {job : CleanupJobId}

theorem jobs (h : JobRun job now s s' j) : s'.jobs = updateWhere (fun q => q.job == job)
    (CleanupJobRow.settle (runSteps j now j.steps s).2.1 (runSteps j now j.steps s).2.2) s.jobs := by
  rw [h.state]
  show updateWhere _ _ (runSteps j now j.steps s).1.jobs = _
  rw [(runSteps_spec j now j.steps s).owners.jobs]

theorem mem_jobs (h : JobRun job now s s' j) (hs : s.JobsInOrder) {q : CleanupJobRow} (hq : q ∈ s'.jobs) :
    q ∈ s.jobs ∧ q.job ≠ job ∨
      q = CleanupJobRow.settle (runSteps j now j.steps s).2.1 (runSteps j now j.steps s).2.2 j := by
  rw [h.jobs] at hq
  rcases mem_updateWhere_cases hq with ⟨hq, hne⟩ | ⟨p, hp, hc, rfl⟩
  · exact .inl ⟨hq, fun he => Bool.false_ne_true (hne.symm.trans (beq_iff_eq.2 he))⟩
  · rw [eq_of_key hs.keys hp h.mem ((beq_iff_eq.1 hc).trans h.key.symm)]
    exact .inr rfl

theorem state_settle (now : Time) (s : Substrates) (j : CleanupJobRow) :
    (CleanupJobRow.settle (runSteps j now j.steps s).2.1 (runSteps j now j.steps s).2.2 j).state =
      if s.isBlocked j j.steps then .blocked else .completed := by
  have hspec := runSteps_spec j now j.steps s
  unfold CleanupJobRow.settle
  rw [← hspec.blocked]
  cases hb : (runSteps j now j.steps s).2.2 with
  | true => rfl
  | false =>
    have hall : (runSteps j now j.steps s).2.1.all (·.state == .completed) = true :=
      List.all_eq_true.2 fun k hk => beq_iff_eq.2 (hspec.completed hb k hk)
    show (if (runSteps j now j.steps s).2.1.all (·.state == .completed) then _ else _) = _
    rw [hall]
    rfl

theorem references (h : JobRun job now s s' j) {r : ReferenceRow} (hr : r.isLive = true) :
    r ∈ s'.references ↔ r ∈ s.references ∧ ∀ k ∈ s.executed j j.steps, s.releases j k r = false := by
  rw [h.state]
  exact (runSteps_spec j now j.steps s).references r hr

theorem inOrder (h : JobRun job now s s' j) (hs : s.JobsInOrder) : s'.JobsInOrder := by
  have hspec := runSteps_spec j now j.steps s
  refine ⟨?_, fun q hq => ?_, fun q hq hne k hk hks => ?_, ?_⟩
  · rw [h.jobs]
    exact nodup_keys_updateWhere (fun _ => rfl) hs.keys
  · rcases h.mem_jobs hs hq with ⟨hq, -⟩ | rfl
    · exact hs.steps q hq
    · exact hspec.substrates.trans (hs.steps j h.mem)
  · rcases h.mem_jobs hs hq with ⟨hq, -⟩ | rfl
    · exact hs.checked q hq hne k hk hks
    · rw [state_settle] at hne
      cases hb : s.isBlocked j j.steps with
      | false =>
        rw [hb] at hne
        exact absurd rfl hne
      | true =>
        rcases hspec.kept (hspec.blocked.trans hb) k hk hks with hopen | ⟨p, hp, hps, hpc⟩
        · exact hopen
        · exact absurd hpc (hs.checked j h.mem (not_completed_of_isRunnable h.runnable) p hp hps)
  · rw [h.state]
    show (((runSteps j now j.steps s).1.artifacts).map _).Nodup
    rw [hspec.owners.artifacts]
    exact hs.artifacts

end JobRun

/-! ### every transaction -/

theorem applyLifecycle_cases {c : LifecycleCommand} (h : s.applyLifecycle c = .ok s') :
    s' = s ∨ ∃ i target serving, s.serving.item? c.team c.item = some i ∧
      s.serving.hasTransition c.team c.item (.lifecycle c.item c.action c.idempotencyKey) = false ∧
      c.expectedItemRevision.getD i.rowRevision = i.rowRevision ∧ targetState c.action i.lifecycleState = .ok (some target) ∧
      s' = { s with serving := serving, references := releaseForLifecycle c s.references } := by
  unfold applyLifecycle at h
  obtain ⟨i, hi, h⟩ := bind_ok_iff.1 h
  rw [required_ok_iff] at hi
  split at h
  · exact .inl (pure_ok_iff.1 h).symm
  · rename_i hfresh
    obtain ⟨_, hrevision, h⟩ := bind_ok_iff.1 h
    obtain ⟨target, htarget, h⟩ := bind_ok_iff.1 h
    rw [failIf_ok_iff, bne_eq_false_iff_eq] at hrevision
    cases target with
    | none => exact .inl (pure_ok_iff.1 h).symm
    | some target =>
      obtain ⟨serving, -, h⟩ := bind_ok_iff.1 h
      exact .inr ⟨i, target, serving, hi, Bool.eq_false_iff.2 hfresh, hrevision, htarget, (pure_ok_iff.1 h).symm⟩

theorem jobsInOrder_transact (hs : s.JobsInOrder) {t : CleanupStep} (h : t.transact grace s = .ok s') : s'.JobsInOrder := by
  have hsame {x : Substrates} (hj : x.jobs = s.jobs) (ha : x.artifacts = s.artifacts) : x.JobsInOrder := by
    refine ⟨?_, ?_, ?_, ?_⟩
    · rw [hj]
      exact hs.keys
    · rw [hj]
      exact hs.steps
    · rw [hj]
      exact hs.checked
    · rw [ha]
      exact hs.artifacts
  cases t with
  | write t =>
    by_cases hlife : ∃ c, t = .lifecycle c
    · obtain ⟨c, rfl⟩ := hlife
      obtain rfl | ⟨i, target, serving, -, -, -, -, rfl⟩ := applyLifecycle_cases h
      · exact hs
      · exact hsame rfl rfl
    · obtain ⟨serving, -, rfl⟩ := write_ok (not_exists.1 hlife) h
      exact hsame rfl rfl
  | artifact a =>
    obtain ⟨artifacts, ha, rfl⟩ := map_eq_ok h
    obtain ⟨hfresh, rfl⟩ := insertUnique_eq_ok_iff.1 ha
    exact ⟨hs.keys, hs.steps, hs.checked, nodup_keys_append hs.artifacts hfresh⟩
  | revision r =>
    obtain ⟨revisions, -, rfl⟩ := map_eq_ok h
    exact hsame rfl rfl
  | reference r =>
    obtain rfl := Except.ok.inj h
    exact hsame rfl rfl
  | ensureForItem job team item retentionUntil =>
    obtain rfl | ⟨hfresh, rfl⟩ := ensureForItem_ok (show s.ensureForItem job team item retentionUntil = .ok s' from h)
    · exact hs
    · refine ⟨nodup_keys_append hs.keys hfresh, fun q hq => ?_, fun q hq hne k hk hks => ?_, hs.artifacts⟩
      · rcases List.mem_append.1 hq with hq | hq
        · exact hs.steps q hq
        · rw [List.mem_singleton.1 hq]
          rfl
      · rcases List.mem_append.1 hq with hq | hq
        · exact hs.checked q hq hne k hk hks
        · rw [List.mem_singleton.1 hq] at hk
          obtain ⟨x, -, rfl⟩ := List.mem_map.1 hk
          exact fun he => CleanupStepState.noConfusion he
  | runJob job now =>
    obtain ⟨j, hrun⟩ := runJob_ok h
    exact hrun.inOrder hs
  | resumeCleanup team job expectedRevision =>
    obtain ⟨c, hc, rfl⟩ := resumeCleanup_ok (show s.resumeCleanup team job expectedRevision = .ok s' from h)
    refine ⟨nodup_keys_updateWhere (fun _ => rfl) hs.keys, fun q hq => ?_, fun q hq hne k hk hks => ?_, hs.artifacts⟩
    · rcases mem_updateWhere_cases hq with ⟨hq, -⟩ | ⟨p, hp, -, rfl⟩
      · exact hs.steps q hq
      · exact hs.steps p hp
    · rcases mem_updateWhere_cases hq with ⟨hq, -⟩ | ⟨p, hp, hcp, rfl⟩
      · exact hs.checked q hq hne k hk hks
      · exact hs.checked p hp (hc p hcp) k hk hks

theorem jobsInOrder_step (hs : s.JobsInOrder) (grace : Nat) (t : CleanupStep) : (cleanupStep grace s t).JobsInOrder := by
  obtain h | h := cleanupStep_cases grace (s := s) (t := t)
  · rw [h]
    exact hs
  · exact jobsInOrder_transact hs h

/-! ### the substrates before the hold check -/

/-- The step of the substrate is not completed. -/
def isOpen (j : CleanupJobRow) (k : CleanupSubstrate) : Bool :=
  j.steps.any fun q => q.substrate == k && q.state != .completed

theorem five_steps {ks : List CleanupStepRow} (h : ks.map CleanupStepRow.substrate = cleanupSubstrates) :
    ∃ a b c d e, ks = [a, b, c, d, e] ∧ a.substrate = .intakeArtifact ∧ b.substrate = .derivedGeneration ∧
      c.substrate = .vectorProjection ∧ d.substrate = .objectReference ∧ e.substrate = .objectGc := by
  obtain ⟨a, ks, rfl, ha, h⟩ := List.map_eq_cons_iff.1 h
  obtain ⟨b, ks, rfl, hb, h⟩ := List.map_eq_cons_iff.1 h
  obtain ⟨c, ks, rfl, hc, h⟩ := List.map_eq_cons_iff.1 h
  obtain ⟨d, ks, rfl, hd, h⟩ := List.map_eq_cons_iff.1 h
  obtain ⟨e, ks, rfl, he, h⟩ := List.map_eq_cons_iff.1 h
  obtain rfl := List.map_eq_nil_iff.1 h
  exact ⟨a, b, c, d, e, rfl, ha, hb, hc, hd, he⟩

theorem mem_executed_iff (hs : s.JobsInOrder) (hj : j ∈ s.jobs) :
    (.intakeArtifact ∈ s.executed j j.steps ↔ isOpen j .intakeArtifact = true) ∧
      (.derivedGeneration ∈ s.executed j j.steps ↔ isOpen j .derivedGeneration = true) ∧
      (.objectReference ∈ s.executed j j.steps ↔ isOpen j .objectReference = true ∧ s.hasItemHold j.team j.item = false) := by
  obtain ⟨a, b, c, d, e, hsteps, ha, hb, hc, hd, he⟩ := five_steps (hs.steps j hj)
  unfold isOpen
  rw [hsteps]
  simp only [executed, blocks, ha, hb, hc, hd, he]
  cases s.hasItemHold j.team j.item <;> by_cases h₁ : a.state = .completed <;> by_cases h₂ : b.state = .completed <;>
    by_cases h₃ : c.state = .completed <;> by_cases h₄ : d.state = .completed <;> by_cases h₅ : e.state = .completed <;>
    simp [bne, ha, hb, hc, hd, he, h₁, h₂, h₃, h₄, h₅]

theorem exists_hold_check (hs : s.JobsInOrder) (hj : j ∈ s.jobs) (hrun : j.isRunnable = true) :
    ∃ k ∈ j.steps, k.substrate = .objectReference ∧ k.state ≠ .completed := by
  obtain ⟨a, b, c, d, e, hsteps, -, -, -, hd, -⟩ := five_steps (hs.steps j hj)
  have hmem : d ∈ j.steps := by
    rw [hsteps]
    simp
  exact ⟨d, hmem, hd, hs.checked j hj (not_completed_of_isRunnable hrun) d hmem hd⟩

theorem isBlocked_eq (hs : s.JobsInOrder) (hj : j ∈ s.jobs) (hrun : j.isRunnable = true) :
    s.isBlocked j j.steps = s.hasItemHold j.team j.item := by
  obtain ⟨d, hmem, hd, hopen⟩ := exists_hold_check hs hj hrun
  refine Bool.eq_iff_iff.2 ⟨fun h => ?_, fun h => ?_⟩
  · obtain ⟨k, -, hk⟩ := List.any_eq_true.1 h
    simp only [blocks, Bool.and_eq_true] at hk
    exact hk.2.2
  · refine List.any_eq_true.2 ⟨d, hmem, ?_⟩
    rw [blocks, h, hd, Bool.and_eq_true, bne_iff_ne]
    exact ⟨hopen, rfl⟩

theorem isOpen_objectReference (hs : s.JobsInOrder) (hj : j ∈ s.jobs) (hrun : j.isRunnable = true) :
    isOpen j .objectReference = true := by
  obtain ⟨d, hmem, hd, hopen⟩ := exists_hold_check hs hj hrun
  refine List.any_eq_true.2 ⟨d, hmem, ?_⟩
  rw [hd, Bool.and_eq_true, bne_iff_ne]
  exact ⟨rfl, hopen⟩

/-! ### the serving tables -/

theorem keyed_runStep (h : s.serving.Keyed) (k : CleanupStepRow) : (runStep j now s k).1.serving.Keyed := by
  unfold runStep
  split
  · exact h
  · show (if _ then _ else _ : Serving).Keyed
    split
    · exact (h.updateRecords (VectorRecordRow.place_erase now)).keyed
    · exact h

theorem keyed_runSteps (ks : List CleanupStepRow) (h : s.serving.Keyed) : (runSteps j now ks s).1.serving.Keyed := by
  induction ks generalizing s with
  | nil => exact h
  | cons k ks ih =>
    unfold runSteps
    split
    · exact ih h
    · simp only
      split
      · exact keyed_runStep h k
      · exact ih (keyed_runStep h k)

theorem serving_applyLifecycle {c : LifecycleCommand} (h : s.applyLifecycle c = .ok s') :
    s.serving.applyLifecycle c = .ok s'.serving := by
  unfold applyLifecycle at h
  unfold Serving.applyLifecycle
  obtain ⟨i, hi, h⟩ := bind_ok_iff.1 h
  refine bind_ok_iff.2 ⟨i, hi, ?_⟩
  split at h
  · rename_i hreplayed
    rw [if_pos hreplayed, ← pure_ok_iff.1 h]
    rfl
  · rename_i hfresh
    rw [if_neg hfresh]
    obtain ⟨_, hrevision, h⟩ := bind_ok_iff.1 h
    obtain ⟨target, htarget, h⟩ := bind_ok_iff.1 h
    refine bind_ok_iff.2 ⟨_, hrevision, bind_ok_iff.2 ⟨target, htarget, ?_⟩⟩
    cases target with
    | none =>
      rw [← pure_ok_iff.1 h]
      rfl
    | some target =>
      obtain ⟨serving, hserving, h⟩ := bind_ok_iff.1 h
      rw [← pure_ok_iff.1 h]
      exact hserving

theorem keyed_transact (hs : s.serving.Keyed) {t : CleanupStep} (h : t.transact grace s = .ok s') : s'.serving.Keyed := by
  cases t with
  | write t =>
    by_cases hlife : ∃ c, t = .lifecycle c
    · obtain ⟨c, rfl⟩ := hlife
      exact (advances_applyLifecycle hs (serving_applyLifecycle h)).keyed
    · obtain ⟨serving, hserving, rfl⟩ := write_ok (not_exists.1 hlife) h
      exact (advances_transact hs hserving).keyed
  | artifact a =>
    obtain ⟨artifacts, -, rfl⟩ := map_eq_ok h
    exact hs
  | revision r =>
    obtain ⟨revisions, -, rfl⟩ := map_eq_ok h
    exact hs
  | reference r =>
    obtain rfl := Except.ok.inj h
    exact hs
  | ensureForItem job team item retentionUntil =>
    obtain rfl | ⟨-, rfl⟩ := ensureForItem_ok (show s.ensureForItem job team item retentionUntil = .ok s' from h)
    · exact hs
    · exact hs
  | runJob job now =>
    obtain ⟨j, hrun⟩ := runJob_ok h
    rw [hrun.state]
    exact keyed_runSteps j.steps hs
  | resumeCleanup team job expectedRevision =>
    obtain ⟨c, -, rfl⟩ := resumeCleanup_ok (show s.resumeCleanup team job expectedRevision = .ok s' from h)
    exact hs

/-- What holds in every reachable state. -/
structure Orderly (s : Substrates) : Prop where
  jobs : s.JobsInOrder
  serving : s.serving.Keyed

theorem orderly_step (hs : s.Orderly) (grace : Nat) (t : CleanupStep) : (cleanupStep grace s t).Orderly := by
  refine ⟨jobsInOrder_step hs.jobs grace t, ?_⟩
  obtain h | h := cleanupStep_cases grace (s := s) (t := t)
  · rw [h]
    exact hs.serving
  · exact keyed_transact hs.serving h

theorem orderly_run (grace : Nat) (l : List CleanupStep) : (runFrom (cleanupStep grace) .empty l).Orderly :=
  runFrom_invariant (I := Orderly) (C := fun _ _ => True) (fun _ t hs _ => orderly_step hs grace t)
    ⟨jobsInOrder_empty, keyed_empty⟩ (stepsMeet_true _ l)

end Substrates

end KnowledgeBase
