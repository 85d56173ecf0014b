import KnowledgeBase.Observation.Effects

/-!
# Observation identities never get stuck

An Observation whose owner Task ended is accepted or failed, and some command moves it on, in every state of a run
that ends no Task with an open Observation, deletes no Task whose accepted Observation is still to be served and
leaves no failed Observation under an inactive Item.
-/

namespace KnowledgeBase

open Checked

/-! ### open and closed Observations -/

def ObservationRow.isClosed (o : ObservationRow) : Bool := o.state == .accepted || o.state == .failed

/-- The command that moves an Observation on: nothing, once its Task succeeded; the replay of its live Task; the full
retry of its Task; or a new Task that retries it. -/
inductive Reservations.Progress (d : ObservationDeployment) (s : Reservations) (k : ObservationKey)
    (o : ObservationRow) (row : AdmittedTask) : Prop
  | done (h : o.state = .accepted) (hs : row.status = .succeeded)
  | replay (h : row.status.isTerminal = false) (hr : ∀ request : IngestRequest,
      (request.team, request.task) = o.ownerTask → request.fingerprint = row.fingerprint →
        createTx d request s = .ok ((o.ownerTask, true), s))
  | fullRetry (h : o.state = .accepted) (ht : row.status.isTerminal = true) (hr : ∀ reason, ∃ s' row',
      retryTx o.ownerTask row.rowRevision reason s = .ok s' ∧ s'.tasks o.ownerTask = some row' ∧ row'.status = .queued)
  | typedRetry (h : o.state = .failed) (hr : ∀ task, d.isExternalUuid task = true →
      s.tasks (k.source.team, task) = none → ∃ request s' o',
        request.task = task ∧ (request.coordinates d).key = k ∧
        createTx d request s = .ok (((k.source.team, task), false), s') ∧
        s'.observations k = some o' ∧ o'.state = .reserved ∧ o'.ownerTask = (k.source.team, task))

/-- Every Observation is closed if its owner Task ended, and can be moved on. -/
def Reservations.Unstuck (d : ObservationDeployment) (s : Reservations) : Prop :=
  ∀ k o, s.observations k = some o → ∃ row, s.tasks o.ownerTask = some row ∧
    (row.status.isTerminal = true → o.isClosed = true) ∧ s.Progress d k o row

/-! ### what the steps keep -/

/-- The owner of an Observation is a Task whose current root Execution carries it. -/
def Reservations.Owned (s : Reservations) (k : ObservationKey) (o : ObservationRow) (row : AdmittedTask) : Prop :=
  s.tasks o.ownerTask = some row ∧ ∃ e, s.executions row.currentRoot = some e ∧ e.observation = some k

/-- The condition on an Observation and its owner; `unlocked` says that no inactive Item is in the way. -/
structure ObservationRow.Moving (o : ObservationRow) (row : AdmittedTask) (unlocked : Prop) : Prop where
  known : o.state = .reserved ∨ o.state = .acquired ∨ (o.state = .accepted ∧ o.acceptedSnapshot.isSome) ∨
    o.state = .failed
  closed : row.status.isTerminal = true → o.isClosed = true
  kept : o.state = .accepted → row.deleted = true → row.status = .succeeded
  unlocked : o.state = .failed → unlocked

structure Reservations.Sound (d : ObservationDeployment) (s : Reservations) : Prop where
  observations : ∀ k o, s.observations k = some o → ∃ row, s.Owned k o row ∧ o.Moving row (s.isOpen k.source)
  executions : ∀ e row, s.executions e = some row → e < s.next
  attempts : ∀ k g a, s.attempts (k, g) = some a → ∃ o, s.observations k = some o ∧ g ≤ o.generation
  restarts : ∀ r ∈ s.restarts, ∃ row, s.tasks r.task = some row ∧ r.expectedRevision < row.rowRevision
  deleted : ∀ t row, s.tasks t = some row → row.deleted = true → row.status.isTerminal = true
  requested : ∀ k o, s.observations k = some o → ∃ request : IngestRequest,
    d.isExternalUuid request.task = true ∧ d.activeSourceKinds.contains request.sourceKind = true ∧
    (request.coordinates d).key = k ∧ (request.coordinates d).fingerprint = o.fingerprint

theorem sound_reservations_empty (d : ObservationDeployment) : Reservations.Sound d {} where
  observations k o h := by cases h
  executions e row h := by cases h
  attempts k g a h := by cases h
  restarts r h := by cases h
  deleted t row h := by cases h
  requested k o h := by cases h

/-- The conditions under which a step ends or locks no Observation that could not be moved on. -/
def LeavesMoving (s : Reservations) : ReservationEvent → Prop
  | .project t status => status.isTerminal = true → ∀ k o, s.observations k = some o → o.ownerTask = t → o.isClosed = true
  | .softDelete t _ => ∀ k o row, s.observations k = some o → o.ownerTask = t → s.tasks t = some row →
    o.state = .accepted → row.status = .succeeded
  | .markFailed e _ => ∀ k o, s.identity? e = some (k, o) → s.isOpen k.source
  | .writeItem k item => item.lifecycle ≠ .active → ∀ k' o, s.observations k' = some o → k'.source = k → o.state ≠ .failed
  | _ => True

variable {d : ObservationDeployment} {s s' : Reservations}

/-! ### Observations and attempts -/

namespace Reservations

theorem Sound.putObservation (h : s.Sound d) {k : ObservationKey} {o : ObservationRow} {row : AdmittedTask}
    (howned : s.Owned k o row) (hmoving : o.Moving row (s.isOpen k.source))
    (hgen : ∀ o', s.observations k = some o' → o'.generation ≤ o.generation)
    (hrequested : ∃ request : IngestRequest, d.isExternalUuid request.task = true ∧
      d.activeSourceKinds.contains request.sourceKind = true ∧ (request.coordinates d).key = k ∧
      (request.coordinates d).fingerprint = o.fingerprint) : (s.putObservation k o).Sound d where
  observations k₁ o₁ h₁ := by
    obtain ⟨rfl, rfl⟩ | ⟨-, h₁⟩ := putObservation_observations h₁
    · exact ⟨row, howned, hmoving⟩
    · exact h.observations k₁ o₁ h₁
  executions := h.executions
  attempts k₁ g a ha := by
    obtain ⟨o₁, h₁, hle⟩ := h.attempts k₁ g a ha
    by_cases hk : k₁ = k
    · subst hk
      exact ⟨o, Function.update_self .., Nat.le_trans hle (hgen o₁ h₁)⟩
    · exact ⟨o₁, (Function.update_of_ne hk ..).trans h₁, hle⟩
  restarts := h.restarts
  deleted := h.deleted
  requested k₁ o₁ h₁ := by
    obtain ⟨rfl, rfl⟩ | ⟨-, h₁⟩ := putObservation_observations h₁
    · exact hrequested
    · exact h.requested k₁ o₁ h₁

theorem Sound.moveObservation (h : s.Sound d) {k : ObservationKey} {o o' : ObservationRow}
    (ho : s.observations k = some o) (hsame : (o'.ownerTask, o'.generation, o'.fingerprint) =
      (o.ownerTask, o.generation, o.fingerprint))
    (hmoving : ∀ row, s.Owned k o row → o.Moving row (s.isOpen k.source) → o'.Moving row (s.isOpen k.source)) :
    (s.putObservation k o').Sound d := by
  simp only [Prod.mk.injEq] at hsame
  obtain ⟨htask, hgen, hfp⟩ := hsame
  obtain ⟨row, howned, hm⟩ := h.observations k o ho
  have howned' : s.Owned k o' row := ⟨by rw [htask]; exact howned.1, howned.2⟩
  refine h.putObservation howned' (hmoving row howned hm) (fun o₁ h₁ => ?_) ?_
  · obtain rfl := Option.some.inj (ho.symm.trans h₁)
    exact Nat.le_of_eq hgen.symm
  · rw [hfp]
    exact h.requested k o ho

theorem Sound.putAttempt (h : s.Sound d) {k : ObservationKey} {o : ObservationRow} {g : Nat} {a : AttemptRow}
    (ho : s.observations k = some o) (hg : g ≤ o.generation) : (s.putAttempt (k, g) a).Sound d where
  observations := h.observations
  executions := h.executions
  attempts k₁ g₁ a₁ ha := by
    by_cases hk : (k₁, g₁) = (k, g)
    · obtain ⟨rfl, rfl⟩ := Prod.mk.inj hk
      exact ⟨o, ho, hg⟩
    · exact h.attempts k₁ g₁ a₁ ((Function.update_of_ne hk ..).symm.trans ha)
  restarts := h.restarts
  deleted := h.deleted
  requested := h.requested

/-! ### Tasks -/

theorem putTask_tasks {t t' : TaskKey} {row row' : AdmittedTask} (h : (s.putTask t row).tasks t' = some row') :
    (t' = t ∧ row' = row) ∨ (t' ≠ t ∧ s.tasks t' = some row') := by
  by_cases ht : t' = t
  · subst ht
    simp only [putTask, Function.update_self, Option.some.injEq] at h
    exact Or.inl ⟨rfl, h.symm⟩
  · simp only [putTask, Function.update_of_ne ht] at h
    exact Or.inr ⟨ht, h⟩

/-- A Task that exists moves: its root carries the same Observation, its revision does not fall. -/
theorem Sound.putTask (h : s.Sound d) {t : TaskKey} {row q : AdmittedTask} (ht : s.tasks t = some row)
    (hrevision : row.rowRevision ≤ q.rowRevision) (hdeleted : q.deleted = true → q.status.isTerminal = true)
    (hroot : ∀ k o, s.observations k = some o → s.Owned k o row → o.Moving row (s.isOpen k.source) → o.ownerTask = t →
      (∃ e, s.executions q.currentRoot = some e ∧ e.observation = some k) ∧ o.Moving q (s.isOpen k.source)) :
    (s.putTask t q).Sound d where
  observations k o ho := by
    obtain ⟨row₁, howned, hm⟩ := h.observations k o ho
    by_cases howner : o.ownerTask = t
    · have hrow : row₁ = row := Option.some.inj (howned.1.symm.trans (howner ▸ ht))
      subst hrow
      obtain ⟨he, hm'⟩ := hroot k o ho howned hm howner
      refine ⟨q, ⟨?_, he⟩, hm'⟩
      rw [howner]
      exact Function.update_self ..
    · exact ⟨row₁, ⟨(Function.update_of_ne howner ..).trans howned.1, howned.2⟩, hm⟩
  executions := h.executions
  attempts := h.attempts
  restarts r hr := by
    obtain ⟨row₁, h₁, hlt⟩ := h.restarts r hr
    by_cases hrt : r.task = t
    · have hrow : row₁ = row := Option.some.inj (h₁.symm.trans (hrt ▸ ht))
      subst hrow
      refine ⟨q, ?_, Nat.lt_of_lt_of_le hlt hrevision⟩
      rw [hrt]
      exact Function.update_self ..
    · exact ⟨row₁, (Function.update_of_ne hrt ..).trans h₁, hlt⟩
  deleted t₁ row₁ h₁ hd := by
    obtain ⟨rfl, rfl⟩ | ⟨-, h₁⟩ := putTask_tasks h₁
    · exact hdeleted hd
    · exact h.deleted t₁ row₁ h₁ hd
  requested := h.requested

theorem Sound.newTask (h : s.Sound d) {t : TaskKey} (ht : s.tasks t = none) {row : AdmittedTask}
    (hdeleted : row.deleted = false) : (s.putTask t row).Sound d where
  observations k o ho := by
    obtain ⟨row₁, ⟨htask, he⟩, hm⟩ := h.observations k o ho
    have hne : o.ownerTask ≠ t := by
      rintro rfl
      rw [ht] at htask
      cases htask
    exact ⟨row₁, ⟨(Function.update_of_ne hne ..).trans htask, he⟩, hm⟩
  executions := h.executions
  attempts := h.attempts
  restarts r hr := by
    obtain ⟨row₁, h₁, hlt⟩ := h.restarts r hr
    have hne : r.task ≠ t := by
      rintro rfl
      rw [ht] at h₁
      cases h₁
    exact ⟨row₁, (Function.update_of_ne hne ..).trans h₁, hlt⟩
  deleted t₁ row₁ h₁ hd := by
    obtain ⟨rfl, rfl⟩ | ⟨-, h₁⟩ := putTask_tasks h₁
    · rw [hdeleted] at hd
      cases hd
    · exact h.deleted t₁ row₁ h₁ hd
  requested := h.requested

theorem Sound.addExecution (h : s.Sound d) (row : AdmittedExecution) : (s.addExecution row).Sound d where
  observations k o ho := by
    obtain ⟨row₁, ⟨htask, e, he, hk⟩, hm⟩ := h.observations k o ho
    have hne : row₁.currentRoot ≠ s.next := Nat.ne_of_lt (h.executions _ _ he)
    exact ⟨row₁, ⟨htask, e, (Function.update_of_ne hne ..).trans he, hk⟩, hm⟩
  executions e row₁ he := by
    by_cases hnext : e = s.next
    · subst hnext
      exact Nat.lt_succ_self _
    · exact Nat.lt_succ_of_lt (h.executions e row₁ ((Function.update_of_ne hnext ..).symm.trans he))
  attempts := h.attempts
  restarts := h.restarts
  deleted := h.deleted
  requested := h.requested

end Reservations

/-! ### admission -/

theorem createTx_of_reserveTx {request : IngestRequest} {admission : ObservationAdmission}
    (htask : s.tasks (request.team, request.task) = none) (hresolve : resolveTx d request s = .ok admission)
    (hreplay : admission.replayTask = none)
    (hreserve : reserveTx (request.coordinates d) admission (request.team, request.task) s.next
      (s.admitted (request.team, request.task) request.fingerprint (request.coordinates d).key admission) = .ok s') :
    createTx d request s = .ok (((request.team, request.task), false), s') := by
  unfold Reservations.admitted at hreserve
  unfold createTx
  simp only [htask, hresolve, bind, Except.bind, hreplay, hreserve, pure, Except.pure]

theorem sound_create (h : s.Sound d) {request : IngestRequest} (huuid : d.isExternalUuid request.task = true)
    {r : TaskKey × Bool} (hc : createTx d request s = .ok (r, s')) : s'.Sound d := by
  obtain rfl | ⟨admission, htask, hresolve, hreplay, hreserve⟩ := createTx_ok hc
  · exact h
  obtain ⟨hkind, hopen, hadmits⟩ := resolveTx_ok hresolve hreplay
  have hadmitted : (s.admitted (request.team, request.task) request.fingerprint (request.coordinates d).key
      admission).Sound d := (h.newTask htask rfl).addExecution _
  simp only [reserveTx, bind_ok_iff, pure_ok_iff] at hreserve
  obtain ⟨-, -, -, -, rfl⟩ := hreserve
  set c := request.coordinates d
  set t : TaskKey := (request.team, request.task)
  set s₁ := s.admitted t request.fingerprint c.key admission
  have hsame : s₁.observations c.key = s.observations c.key := rfl
  unfold Reservations.reserved
  rw [hsame]
  have howned {o : ObservationRow} (ho : o.ownerTask = t) :
      s₁.Owned c.key o { fingerprint := request.fingerprint, currentRoot := s.next } := by
    refine ⟨?_, _, Function.update_self .., rfl⟩
    rw [ho]
    exact Function.update_self ..
  have hmoving {o : ObservationRow} (ho : o.state = .reserved) :
      o.Moving { fingerprint := request.fingerprint, currentRoot := s.next } (s₁.isOpen c.key.source) := by
    refine ⟨Or.inl ho, ?_, ?_, ?_⟩
    · intro hterminal
      cases hterminal
    · intro haccepted
      rw [ho] at haccepted
      cases haccepted
    · intro hfailed
      rw [ho] at hfailed
      cases hfailed
  have hrequest {o : ObservationRow} (ho : c.fingerprint = o.fingerprint) : ∃ request : IngestRequest,
      d.isExternalUuid request.task = true ∧ d.activeSourceKinds.contains request.sourceKind = true ∧
      (request.coordinates d).key = c.key ∧ (request.coordinates d).fingerprint = o.fingerprint :=
    ⟨request, huuid, hkind, rfl, ho⟩
  obtain ⟨hnone, -, -⟩ | ⟨o, ho, -, hfp, hgen, -⟩ := hadmits
  · rw [hnone]
    have hput := hadmitted.putObservation (o := reservedObservation c admission t s.next none) (howned rfl) (hmoving rfl)
      (fun o' ho' => by rw [hsame, hnone] at ho'; cases ho') (hrequest rfl)
    exact hput.putAttempt (Function.update_self ..) (Nat.le_refl _)
  · rw [ho]
    have hput := hadmitted.putObservation (o := reservedObservation c admission t s.next (some o)) (howned rfl)
      (hmoving rfl) (fun o' ho' => ?_) (hrequest hfp.symm)
    · exact hput.putAttempt (Function.update_self ..) (Nat.le_refl _)
    · rw [hsame, ho] at ho'
      obtain rfl := Option.some.inj ho'
      show o.generation ≤ admission.generation
      omega

/-! ### the pipeline -/

theorem sound_markAcquired (h : s.Sound d) {e : ExecutionId} (hc : markAcquiredTx e s = .ok s') : s'.Sound d := by
  unfold markAcquiredTx at hc
  split at hc
  · obtain rfl := Except.ok.inj hc
    exact h
  rename_i k o hid
  have ho := identity_observation hid
  split at hc
  · obtain rfl := Except.ok.inj hc
    exact h
  rename_i a ha
  split at hc
  · obtain rfl := Except.ok.inj hc
    exact h
  simp only [bind_ok_iff, pure_ok_iff] at hc
  obtain ⟨-, -, rfl⟩ := hc
  have hattempt := h.putAttempt (a := { a with state := .acquired, rowRevision := a.rowRevision + 1 }) ho (Nat.le_refl _)
  split
  · rename_i hreserved
    refine hattempt.moveObservation ho rfl fun row _ hm => ?_
    have hopen : o.isClosed = false := by
      rw [beq_iff_eq] at hreserved
      rw [ObservationRow.isClosed, hreserved]
      rfl
    refine ⟨Or.inr (Or.inl rfl), fun ht => ?_, ?_, ?_⟩
    · rw [hm.closed ht] at hopen
      cases hopen
    · intro haccepted
      cases haccepted
    · intro hfailed
      cases hfailed
  · exact hattempt

theorem sound_markAccepted (h : s.Sound d) {e : ExecutionId} {snapshot : SnapshotId}
    (hc : markAcceptedTx e snapshot s = .ok s') : s'.Sound d := by
  unfold markAcceptedTx at hc
  split at hc
  · obtain rfl := Except.ok.inj hc
    exact h
  rename_i k o hid
  have ho := identity_observation hid
  simp only [bind_ok_iff, pure_ok_iff, failIf_ok_iff, bne_eq_false_iff_eq] at hc
  obtain ⟨a, -, -, hacquired, rfl⟩ := hc
  have hmove {s₁ : Reservations} (h₁ : s₁.Sound d) (ho₁ : s₁.observations k = some o) : (s₁.putObservation k { o with
      state := .accepted
      acceptedSnapshot := some snapshot
      rowRevision := o.rowRevision + 1 }).Sound d := by
    refine h₁.moveObservation ho₁ rfl fun row howned hm => ?_
    refine ⟨Or.inr (Or.inr (Or.inl ⟨rfl, rfl⟩)), fun _ => rfl, fun _ hd => ?_, ?_⟩
    · have hclosed := hm.closed (h₁.deleted _ _ howned.1 hd)
      rw [ObservationRow.isClosed, hacquired] at hclosed
      cases hclosed
    · intro hfailed
      cases hfailed
  split
  · exact hmove (h.putAttempt ho (Nat.le_refl _)) ho
  · exact hmove h ho

theorem sound_markFailed (h : s.Sound d) {e : ExecutionId} {errorCode : String}
    (hleaves : LeavesMoving s (.markFailed e errorCode)) : (markFailedTx e errorCode s).Sound d := by
  unfold markFailedTx
  split
  · exact h
  rename_i k o hid
  have ho := identity_observation hid
  split
  · exact h
  rename_i a ha
  split
  · exact h
  have hattempt := h.putAttempt (a := { a with
    state := .failed
    errorCode := some errorCode
    rowRevision := a.rowRevision + 1 }) ho (Nat.le_refl _)
  dsimp only
  split
  · refine hattempt.moveObservation ho rfl fun row _ _ => ?_
    refine ⟨Or.inr (Or.inr (Or.inr rfl)), fun _ => rfl, ?_, fun _ => hleaves k o hid⟩
    intro haccepted
    cases haccepted
  · exact hattempt

/-! ### Tasks and Items -/

theorem sound_project (h : s.Sound d) {t : TaskKey} {status : TaskStatus}
    (hleaves : LeavesMoving s (.project t status)) : (projectTask t status s).Sound d := by
  unfold projectTask
  split
  · exact h
  rename_i row hrow
  simp only [Option.filter_eq_some_iff, Bool.not_eq_true'] at hrow
  obtain ⟨hrow, hlive⟩ := hrow
  have hkept : row.deleted = false := by
    by_contra hd
    have hterminal := h.deleted t row hrow (by simpa using hd)
    rw [hlive] at hterminal
    cases hterminal
  refine h.putTask hrow (Nat.le_succ _) (fun hd => ?_) fun k o ho howned hm howner => ⟨howned.2, hm.known, ?_, ?_, hm.unlocked⟩
  · rw [hkept] at hd
    cases hd
  · intro hterminal
    exact hleaves hterminal k o ho howner
  · intro _ hd
    rw [hkept] at hd
    cases hd

theorem sound_retry (h : s.Sound d) {t : TaskKey} {expectedRevision : Nat} {reason : Digest}
    (hc : retryTx t expectedRevision reason s = .ok s') : s'.Sound d := by
  unfold retryTx at hc
  simp only [bind_ok_iff, required_ok_iff, Option.filter_eq_some_iff, Bool.not_eq_true'] at hc
  obtain ⟨row, ⟨hrow, hkept⟩, hc⟩ := hc
  split at hc
  · obtain rfl := Except.ok.inj hc
    exact h
  simp only [bind_ok_iff, required_ok_iff, failIf_ok_iff, bne_eq_false_iff_eq, pure_ok_iff] at hc
  obtain ⟨-, hrevision, -, -, -, -, previous, hprevious, -, -, rfl⟩ := hc
  have hexecution := h.addExecution { previous with
    task := t
    generation := row.generation + 1
    retryOf := some row.currentRoot
    fullRetry := true }
  have htask := hexecution.putTask (q := { row with
    status := .queued
    generation := row.generation + 1
    currentRoot := s.next
    rowRevision := row.rowRevision + 1 }) hrow (Nat.le_succ _) ?_ ?_
  · refine ⟨htask.observations, htask.executions, htask.attempts, fun r hr => ?_, htask.deleted, htask.requested⟩
    obtain hr | hr := List.mem_append.1 hr
    · exact htask.restarts r hr
    · obtain rfl := List.mem_singleton.1 hr
      refine ⟨_, Function.update_self .., ?_⟩
      show expectedRevision < row.rowRevision + 1
      omega
  · intro hd
    rw [show row.deleted = true from hd] at hkept
    cases hkept
  · intro k o ho howned hm howner
    obtain ⟨row₁, ⟨htask₁, e, he, hk⟩, -⟩ := h.observations k o ho
    obtain rfl := Option.some.inj (htask₁.symm.trans (howner ▸ hrow))
    obtain rfl := Option.some.inj (he.symm.trans hprevious)
    refine ⟨⟨_, Function.update_self .., hk⟩, hm.known, ?_, ?_, hm.unlocked⟩
    · intro hterminal
      cases hterminal
    · intro _ hd
      rw [show row₁.deleted = true from hd] at hkept
      cases hkept

theorem sound_softDelete (h : s.Sound d) {t : TaskKey} {expectedRevision : Nat}
    (hleaves : LeavesMoving s (.softDelete t expectedRevision)) (hc : softDeleteTx t expectedRevision s = .ok s') :
    s'.Sound d := by
  unfold softDeleteTx at hc
  simp only [bind_ok_iff, required_ok_iff, failIf_ok_iff, Bool.not_eq_false', pure_ok_iff] at hc
  obtain ⟨row, hrow, -, -, -, hterminal, rfl⟩ := hc
  split
  · exact h
  refine h.putTask hrow (Nat.le_succ _) (fun _ => hterminal) fun k o ho howned hm howner =>
    ⟨howned.2, hm.known, hm.closed, fun haccepted _ => ?_, hm.unlocked⟩
  exact hleaves k o row ho howner hrow haccepted

theorem sound_writeItem (h : s.Sound d) {k : SourceKey} {item : SourceItem}
    (hleaves : LeavesMoving s (.writeItem k item)) :
    Reservations.Sound d { s with items := Function.update s.items k (some item) } where
  observations k₁ o₁ h₁ := by
    obtain ⟨row, howned, hm⟩ := h.observations k₁ o₁ h₁
    refine ⟨row, howned, hm.known, hm.closed, hm.kept, fun hfailed item' hitem' => ?_⟩
    by_cases hk : k₁.source = k
    · subst hk
      simp only [Function.update_self, Option.some.injEq] at hitem'
      subst hitem'
      by_contra hinactive
      exact hleaves hinactive k₁ o₁ h₁ rfl hfailed
    · simp only [Function.update_of_ne hk] at hitem'
      exact hm.unlocked hfailed item' hitem'
  executions := h.executions
  attempts := h.attempts
  restarts := h.restarts
  deleted := h.deleted
  requested := h.requested

theorem sound_step (h : s.Sound d) (event : ReservationEvent) (hleaves : LeavesMoving s event) :
    (reservationStep d s event).Sound d := by
  unfold reservationStep
  cases hc : reservationResult d s event with
  | error e => exact h
  | ok s' =>
    cases event with
    | create request =>
      simp only [reservationResult, bind_ok_iff, failIf_ok_iff, Bool.not_eq_false', pure_ok_iff] at hc
      obtain ⟨-, huuid, ⟨r, s₁⟩, hcreate, rfl⟩ := hc
      exact sound_create h huuid hcreate
    | markAcquired e => exact sound_markAcquired h hc
    | markAccepted e snapshot => exact sound_markAccepted h hc
    | markFailed e errorCode =>
      obtain rfl := Except.ok.inj hc
      exact sound_markFailed h hleaves
    | project t status =>
      obtain rfl := Except.ok.inj hc
      exact sound_project h hleaves
    | retry t expectedRevision reason => exact sound_retry h hc
    | softDelete t expectedRevision => exact sound_softDelete h hleaves hc
    | writeItem k item =>
      obtain rfl := Except.ok.inj hc
      exact sound_writeItem h hleaves

/-! ### the command that moves an Observation on -/

theorem Reservations.replay {t : TaskKey} {row : AdmittedTask} (ht : s.tasks t = some row)
    {request : IngestRequest} (hname : (request.team, request.task) = t) (hfp : request.fingerprint = row.fingerprint) :
    createTx d request s = .ok ((t, true), s) := by
  subst hname
  unfold createTx
  simp [ht, hfp, failIf, bind, Except.bind, pure, Except.pure]

theorem Reservations.Sound.fullRetry (h : s.Sound d) {k : ObservationKey} {o : ObservationRow} {row : AdmittedTask}
    (ho : s.observations k = some o) (howned : s.Owned k o row) (haccepted : o.state = .accepted)
    (hm : o.Moving row (s.isOpen k.source)) (hterminal : row.status.isTerminal = true)
    (hfailed : row.status ≠ .succeeded) (reason : Digest) : ∃ s' row',
      retryTx o.ownerTask row.rowRevision reason s = .ok s' ∧ s'.tasks o.ownerTask = some row' ∧
      row'.status = .queued := by
  obtain ⟨htask, e, he, hk⟩ := howned
  have hkept : row.deleted = false := by
    by_contra hd
    exact hfailed (hm.kept haccepted (by simpa using hd))
  have hfresh : ⟨o.ownerTask, row.rowRevision, reason⟩ ∉ s.restarts := by
    intro hmem
    obtain ⟨row₁, h₁, hlt⟩ := h.restarts _ hmem
    obtain rfl := Option.some.inj (htask.symm.trans h₁)
    exact Nat.lt_irrefl _ hlt
  have hsnapshot : o.acceptedSnapshot.isSome = true := by
    obtain hs | hs | ⟨-, hs⟩ | hs := hm.known
    · rw [haccepted] at hs
      cases hs
    · rw [haccepted] at hs
      cases hs
    · exact hs
    · rw [haccepted] at hs
      cases hs
  have hinput : ((e.observation.bind s.observations).any fun o => o.state == .accepted && o.acceptedSnapshot.isSome) =
      true := by
    rw [hk, Option.bind_some, ho]
    simp [haccepted, hsnapshot]
  refine ⟨s.retried o.ownerTask row e ⟨o.ownerTask, row.rowRevision, reason⟩, _, ?_, Function.update_self .., rfl⟩
  unfold retryTx
  simp [htask, hkept, hfresh, hterminal, hfailed, he, hinput, required, failIf, bind, Except.bind, pure, Except.pure,
    Option.filter]

theorem exists_retryRequest (request : IngestRequest) (huuid : d.isExternalUuid request.task = true) (task : String)
    (generation : Nat) : ∃ retry : IngestRequest, (retry.team, retry.task, retry.sourceKind, retry.retryFailedObservation,
        retry.expectedAttempt) = (request.team, task, request.sourceKind, true, some generation) ∧
      (retry.coordinates d).key = (request.coordinates d).key ∧
      (retry.coordinates d).fingerprint = (request.coordinates d).fingerprint := by
  have hderived : (d.strip request.task != "") = true := by
    obtain ⟨hstrip, hne⟩ := d.strip_uuid request.task huuid
    rw [hstrip]
    exact bne_iff_ne.2 hne
  cases hkey : (request.observationKey.map d.strip).filter (· != "") with
  | some key =>
    refine ⟨{ request with task := task, retryFailedObservation := true, expectedAttempt := some generation }, rfl, ?_⟩
    simp only [IngestRequest.coordinates, hkey, and_self]
  | none =>
    cases hregistered : request.sourceKind == "registered_api" with
    | true =>
      refine ⟨{ request with task := task, retryFailedObservation := true, expectedAttempt := some generation }, rfl, ?_⟩
      simp only [IngestRequest.coordinates, hkey, hregistered, if_true, and_self]
    | false =>
      refine ⟨{ request with
        task := task
        observationKey := some request.task
        retryFailedObservation := true
        expectedAttempt := some generation }, rfl, ?_⟩
      have hexplicit : ((some request.task).map d.strip).filter (· != "") = some request.task := by
        rw [Option.map_some, Option.filter, if_pos hderived, (d.strip_uuid request.task huuid).1]
      simp only [IngestRequest.coordinates, hkey, hexplicit, hregistered]
      exact ⟨rfl, rfl⟩

theorem Reservations.Sound.typedRetry (h : s.Sound d) {k : ObservationKey} {o : ObservationRow}
    (ho : s.observations k = some o) (hfailed : o.state = .failed) (hopen : s.isOpen k.source) {task : String}
    (hunused : s.tasks (k.source.team, task) = none) : ∃ request s' o',
      request.task = task ∧ (request.coordinates d).key = k ∧
      createTx d request s = .ok (((k.source.team, task), false), s') ∧
      s'.observations k = some o' ∧ o'.state = .reserved ∧ o'.ownerTask = (k.source.team, task) := by
  obtain ⟨original, huuid, hkind, hkey, hfp⟩ := h.requested k o ho
  obtain ⟨request, hrequest, hkey', hfp'⟩ := exists_retryRequest original huuid task o.generation
  simp only [Prod.mk.injEq] at hrequest
  obtain ⟨hteam, htask, hsource, hretry, hattempt⟩ := hrequest
  have hk : (request.coordinates d).key = k := hkey'.trans hkey
  have hteam' : request.team = k.source.team := by
    rw [hteam, ← hkey]
    unfold IngestRequest.coordinates
    dsimp only
    split
    · rfl
    · split
      · rfl
      · rfl
  have hitem : ((s.items k.source).filter fun i => i.lifecycle != .active) = none := by
    cases hi : s.items k.source with
    | none => rfl
    | some item => simp [Option.filter, hopen item hi]
  let admission : ObservationAdmission :=
    ⟨o.generation + 1, (s.items k.source).map (·.rowRevision), o.compatibilityMode, true, none⟩
  have hresolve : resolveTx d request s = .ok admission := by
    have hfp₁ : (o.fingerprint != (request.coordinates d).fingerprint) = false := by
      rw [hfp', hfp]
      exact bne_self_eq_false _
    have hkind' : (!d.activeSourceKinds.contains request.sourceKind) = false := by rw [hsource, hkind]; rfl
    unfold resolveTx
    simp only [hk, hitem, ho, hkind', admitExisting, hfp₁, hfailed, hretry, hattempt, beq_self_eq_true, if_true,
      bne_self_eq_false]
    rfl
  have hattempts : s.attempts (k, o.generation + 1) = none := by
    cases ha : s.attempts (k, o.generation + 1) with
    | none => rfl
    | some a =>
      obtain ⟨o₁, h₁, hle⟩ := h.attempts _ _ _ ha
      obtain rfl := Option.some.inj (ho.symm.trans h₁)
      omega
  set t : TaskKey := (k.source.team, task)
  have ht : (request.team, request.task) = t := Prod.ext hteam' htask
  set s₁ := s.admitted t request.fingerprint k admission
  have hsame : s₁.observations k = some o := ho
  have hfree : s₁.attempts (k, o.generation + 1) = none := hattempts
  have hreserve : reserveTx (request.coordinates d) admission t s.next s₁ =
      .ok (s₁.reserved (request.coordinates d) admission t s.next) := by
    unfold reserveTx reservable
    simp only [hk, hsame, admission, hfree, if_true, Option.any_some, hfailed, beq_self_eq_true, Bool.and_self,
      Bool.not_true, Option.isSome_none]
    rfl
  have hcreate := createTx_of_reserveTx (by rw [ht]; exact hunused) hresolve rfl (by rw [ht, hk]; exact hreserve)
  rw [ht] at hcreate
  have hreserved : (s₁.reserved (request.coordinates d) admission t s.next).observations k =
      some (reservedObservation (request.coordinates d) admission t s.next (some o)) := by
    unfold Reservations.reserved
    rw [hk, hsame]
    exact Function.update_self ..
  exact ⟨request, _, _, htask, hk, hcreate, hreserved, rfl, rfl⟩

/-! ### runs -/

theorem Reservations.Sound.unstuck (h : s.Sound d) : s.Unstuck d := by
  intro k o ho
  obtain ⟨row, howned, hm⟩ := h.observations k o ho
  refine ⟨row, howned.1, hm.closed, ?_⟩
  by_cases hfailed : o.state = .failed
  · exact .typedRetry hfailed fun task _ hunused => h.typedRetry ho hfailed (hm.unlocked hfailed) hunused
  cases hterminal : row.status.isTerminal with
  | false => exact .replay hterminal fun request hname hfp => Reservations.replay howned.1 hname hfp
  | true =>
    have haccepted : o.state = .accepted := by
      have hclosed := hm.closed hterminal
      simp only [ObservationRow.isClosed, Bool.or_eq_true, beq_iff_eq] at hclosed
      exact hclosed.resolve_right hfailed
    by_cases hsucceeded : row.status = .succeeded
    · exact .done haccepted hsucceeded
    · exact .fullRetry haccepted hterminal fun reason =>
        h.fullRetry ho howned haccepted hm hterminal hsucceeded reason

/-- Observation identities never get stuck in a run whose steps, where they change anything, end and lock none that could
not be moved on. -/
theorem observationsUnstuck (d : ObservationDeployment) (l : List ReservationEvent)
    (hl : StepsMeet (reservationStep d) (fun s event => reservationStep d s event ≠ s → LeavesMoving s event) {} l) :
    (runFrom (reservationStep d) {} l).Unstuck d := by
  have hstep (s : Reservations) (event : ReservationEvent) (h : s.Sound d)
      (hleaves : reservationStep d s event ≠ s → LeavesMoving s event) : (reservationStep d s event).Sound d := by
    by_cases hsame : reservationStep d s event = s
    · rw [hsame]
      exact h
    · exact sound_step h event (hleaves hsame)
  exact (runFrom_invariant hstep (sound_reservations_empty d) hl).unstuck

/-- An acquisition that fails, and a Task that fails after it. -/
theorem observationsUnstuck_failed : (runFrom (reservationStep sampleObservations) {}
    [.create (sampleIngest "t"), .markFailed 0 "ACQUISITION_FAILED", .project (1, "t") .failed]).Unstuck
      sampleObservations := by
  refine observationsUnstuck sampleObservations _ ⟨fun _ => trivial, ?_, ?_, trivial⟩
  · intro _ k o _ item hitem
    cases hitem
  · intro _ _ k o ho _
    obtain ⟨-, rfl⟩ | ⟨hk, ho⟩ := Reservations.putObservation_observations (k := ⟨⟨1, "inline_payload", "a"⟩, "t"⟩) ho
    · rfl
    · obtain ⟨rfl, -⟩ | ⟨-, ho⟩ := Reservations.putObservation_observations (k := ⟨⟨1, "inline_payload", "a"⟩, "t"⟩) ho
      · exact absurd rfl hk
      · cases ho

/-- A Task cancelled before its source is acquired: the Observation stays reserved, and nothing moves it on. -/
theorem observationsUnstuck_cancelled : ¬ ∀ d l, (runFrom (reservationStep d) {} l).Unstuck d := by
  intro h
  obtain ⟨row, hrow, hclosed, -⟩ := h sampleObservations [.create (sampleIngest "t"), .project (1, "t") .cancelled]
    ⟨⟨1, "inline_payload", "a"⟩, "t"⟩ _ rfl
  obtain rfl := Option.some.inj hrow
  exact absurd (hclosed rfl) (by decide)

end KnowledgeBase
