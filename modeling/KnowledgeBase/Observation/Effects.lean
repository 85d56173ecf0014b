import KnowledgeBase.Observation.Reservations

/-!
# Effects of the reservations

What each operation on Observations and attempts has done when it does not raise.
-/

namespace KnowledgeBase

open Checked

variable {d : ObservationDeployment} {s s' : Reservations}

namespace Reservations

theorem putObservation_observations {k k' : ObservationKey} {o o' : ObservationRow}
    (h : (s.putObservation k o).observations k' = some o') : (k' = k ∧ o' = o) ∨ (k' ≠ k ∧ s.observations k' = some o') := by
  by_cases hk : k' = k
  · subst hk
    simp only [putObservation, Function.update_self, Option.some.injEq] at h
    exact Or.inl ⟨rfl, h.symm⟩
  · simp only [putObservation, Function.update_of_ne hk] at h
    exact Or.inr ⟨hk, h⟩

end Reservations

/-! ### admission -/

/-- The source has no Item that a lifecycle command withdrew. -/
def Reservations.isOpen (s : Reservations) (k : SourceKey) : Prop :=
  ∀ item, s.items k = some item → item.lifecycle = .active

theorem isOpen_of_filter {k : SourceKey} (h : (s.items k).filter (fun i => i.lifecycle != .active) = none) :
    s.isOpen k := by
  intro item hitem
  rw [hitem] at h
  by_contra hne
  simp [Option.filter, hne] at h

/-- What is admitted without a replay: an Observation that is new, or one that failed. -/
def Admits (d : ObservationDeployment) (request : IngestRequest) (s : Reservations) (admission : ObservationAdmission) :
    Prop :=
  (s.observations (request.coordinates d).key = none ∧ admission.generation = 1 ∧ admission.retryExisting = false) ∨
  ∃ o, s.observations (request.coordinates d).key = some o ∧ o.state = .failed ∧
    o.fingerprint = (request.coordinates d).fingerprint ∧ admission.generation = o.generation + 1 ∧
    admission.retryExisting = true

theorem resolveTx_ok {request : IngestRequest} {admission : ObservationAdmission}
    (h : resolveTx d request s = .ok admission) (hnew : admission.replayTask = none) :
    d.activeSourceKinds.contains request.sourceKind = true ∧ s.isOpen (request.coordinates d).key.source ∧
      Admits d request s admission := by
  unfold resolveTx at h
  simp only [bind_ok_iff, failIf_ok_iff, Bool.not_eq_false'] at h
  obtain ⟨-, hkind, h⟩ := h
  refine ⟨hkind, ?_⟩
  split at h
  · cases h
  · rename_i hitem
    refine ⟨isOpen_of_filter hitem, ?_⟩
    split at h
    · rename_i hnone
      simp only [bind_ok_iff, pure_ok_iff] at h
      obtain ⟨-, -, rfl⟩ := h
      exact Or.inl ⟨hnone, rfl, rfl⟩
    · rename_i existing hsome
      simp only [admitExisting, bind_ok_iff, failIf_ok_iff] at h
      obtain ⟨-, hfp, h⟩ := h
      split at h
      · rename_i hfailed
        simp only [bind_ok_iff, pure_ok_iff] at h
        obtain ⟨-, -, -, -, rfl⟩ := h
        refine Or.inr ⟨existing, hsome, ?_, ?_, rfl, rfl⟩
        · simpa using hfailed
        · simpa using hfp
      · simp only [bind_ok_iff, pure_ok_iff] at h
        obtain ⟨-, -, -, -, rfl⟩ := h
        cases hnew

/-- The state before the reservation: the new Task and its Execution. -/
def Reservations.admitted (s : Reservations) (t : TaskKey) (fingerprint : Digest) (k : ObservationKey)
    (admission : ObservationAdmission) : Reservations :=
  (s.putTask t { fingerprint := fingerprint, currentRoot := s.next }).addExecution {
    task := t
    observation := some k
    attemptGeneration := some admission.generation
    expectedItemEpoch := admission.expectedItemEpoch }

theorem createTx_ok {request : IngestRequest} {r : TaskKey × Bool} (h : createTx d request s = .ok (r, s')) :
    s' = s ∨ ∃ admission, s.tasks (request.team, request.task) = none ∧ resolveTx d request s = .ok admission ∧
      admission.replayTask = none ∧ reserveTx (request.coordinates d) admission (request.team, request.task) s.next
        (s.admitted (request.team, request.task) request.fingerprint (request.coordinates d).key admission) = .ok s' := by
  unfold createTx at h
  dsimp only at h
  split at h
  · simp only [bind_ok_iff, pure_ok_iff, Prod.mk.injEq] at h
    obtain ⟨-, -, -, rfl⟩ := h
    exact Or.inl rfl
  · rename_i hnone
    simp only [bind_ok_iff] at h
    obtain ⟨admission, hresolve, h⟩ := h
    split at h
    · simp only [bind_ok_iff, pure_ok_iff, Prod.mk.injEq] at h
      obtain ⟨-, -, -, rfl⟩ := h
      exact Or.inl rfl
    · rename_i hreplay
      simp only [bind_ok_iff, pure_ok_iff, Prod.mk.injEq] at h
      obtain ⟨s₁, hreserve, -, rfl⟩ := h
      exact Or.inr ⟨admission, hnone, hresolve, hreplay, hreserve⟩

/-! ### the pipeline -/

theorem identity_observation {e : ExecutionId} {k : ObservationKey} {o : ObservationRow}
    (h : s.identity? e = some (k, o)) : s.observations k = some o := by
  simp only [Reservations.identity?, Option.bind_eq_bind, Option.bind_eq_some_iff, Option.some.injEq,
    Prod.mk.injEq] at h
  obtain ⟨_, -, _, -, _, ho, rfl, rfl⟩ := h
  exact ho

/-! ### one source -/

/-- A deployment whose texts have no blanks. -/
def sampleObservations : ObservationDeployment where
  strip := id
  casefold := id
  isExternalUuid x := x != ""
  strip_uuid _ h := ⟨rfl, bne_iff_ne.1 h⟩
  activeSourceKinds := ["inline_payload"]

def sampleIngest (task : String) : IngestRequest :=
  { team := 1, task := task, fingerprint := 7, sourceKind := "inline_payload", externalKey := "a", source := 3 }

end KnowledgeBase
