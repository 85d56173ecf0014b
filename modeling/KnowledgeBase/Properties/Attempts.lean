import KnowledgeBase.Observation.Effects

/-!
# Observation attempts are fenced by their own generation

A call for an Execution changes the attempt of its own generation only, in every run whose late calls, of Executions
of an attempt that is no longer current, find nothing to change. The state of an Observation is that of its current
attempt, and a closed attempt or an accepted Observation never changes again, in every run.
-/

namespace KnowledgeBase

open Checked

/-! ### the fence -/

/-- The Execution a call is made for. -/
def ReservationEvent.execution? (s : Reservations) : ReservationEvent → Option ExecutionId
  | .create _ => some s.next
  | .markAcquired e | .markAccepted e _ | .markFailed e _ => some e
  | _ => none

/-- A step changes the attempts of the Execution it is made for only; closed attempts and accepted Observations stay
as they are, and an Observation is in the state of its current attempt. -/
structure AttemptFence (s s' : Reservations) (event : ReservationEvent) : Prop where
  own : ∀ k g, s'.attempts (k, g) ≠ s.attempts (k, g) → ∃ e row, event.execution? s = some e ∧
    s'.executions e = some row ∧ row.observation = some k ∧ row.attemptGeneration = some g
  closed : ∀ k g a, s.attempts (k, g) = some a → a.state = .accepted ∨ a.state = .failed → s'.attempts (k, g) = some a
  current : ∀ k o, s'.observations k = some o → ∃ a, s'.attempts (k, o.generation) = some a ∧ a.state = o.state
  accepted : ∀ k o, s.observations k = some o → o.state = .accepted → s'.observations k = some o

/-- The Execution is of the current attempt. -/
def Reservations.Timely (s : Reservations) (e : ExecutionId) (o : ObservationRow) : Prop :=
  ∀ row, s.executions e = some row → row.attemptGeneration = some o.generation

/-- A call for an Execution of an earlier attempt finds nothing to change. -/
def TimelyCall (s : Reservations) : ReservationEvent → Prop
  | .markAcquired e => ∀ k o, s.identity? e = some (k, o) → s.Timely e o ∨ o.state ≠ .reserved
  | .markAccepted e _ => ∀ k o, s.identity? e = some (k, o) → s.Timely e o ∨ o.state ≠ .acquired
  | .markFailed e _ => ∀ k o, s.identity? e = some (k, o) → s.Timely e o ∨ o.state = .accepted ∨ o.state = .failed
  | _ => True

variable {d : ObservationDeployment} {s s' : Reservations}

/-! ### what a call does -/

/-- An Observation is in the state of its current attempt, which is open or closed. -/
structure Reservations.Agrees (s : Reservations) : Prop where
  current : ∀ k o, s.observations k = some o → ∃ a, s.attempts (k, o.generation) = some a ∧ a.state = o.state
  known : ∀ k o, s.observations k = some o →
    o.state = .reserved ∨ o.state = .acquired ∨ o.state = .accepted ∨ o.state = .failed

/-- The Observation of an Execution and its current attempt move together. -/
structure Moved (s s' : Reservations) (e : ExecutionId) (k : ObservationKey) (o o' : ObservationRow)
    (a' : AttemptRow) : Prop where
  identity : s.identity? e = some (k, o)
  isOpen : o.state = .reserved ∨ o.state = .acquired
  result : s' = (s.putAttempt (k, o.generation) a').putObservation k o'
  generation : o'.generation = o.generation
  state : a'.state = o'.state
  known : o'.state = .acquired ∨ o'.state = .accepted ∨ o'.state = .failed

theorem markAcquired_moved (h : s.Agrees) {e : ExecutionId} (hc : markAcquiredTx e s = .ok s') :
    s' = s ∨ ∃ k o o' a', Moved s s' e k o o' a' ∧ o.state = .reserved := by
  unfold markAcquiredTx at hc
  split at hc
  · exact Or.inl (Except.ok.inj hc).symm
  rename_i k o hid
  obtain ⟨a, ha, hstate⟩ := h.current k o (identity_observation hid)
  simp only [ha] at hc
  split at hc
  · exact Or.inl (Except.ok.inj hc).symm
  rename_i hacquired
  simp only [bind_ok_iff, pure_ok_iff, failIf_ok_iff] at hc
  obtain ⟨-, hreservable, rfl⟩ := hc
  have hreserved : o.state = .reserved := by
    obtain ho | ho | ho | ho := h.known k o (identity_observation hid)
    · exact ho
    · exact absurd (beq_iff_eq.2 (hstate.trans ho)) hacquired
    · rw [hstate, ho] at hreservable
      cases hreservable
    · rw [hstate, ho] at hreservable
      cases hreservable
  rw [if_pos (beq_iff_eq.2 hreserved)]
  exact Or.inr ⟨k, o, _, _, ⟨hid, Or.inl hreserved, rfl, rfl, rfl, Or.inl rfl⟩, hreserved⟩

theorem markAccepted_moved (h : s.Agrees) {e : ExecutionId} {snapshot : SnapshotId}
    (hc : markAcceptedTx e snapshot s = .ok s') :
    s' = s ∨ ∃ k o o' a', Moved s s' e k o o' a' ∧ o.state = .acquired := by
  unfold markAcceptedTx at hc
  split at hc
  · exact Or.inl (Except.ok.inj hc).symm
  rename_i k o hid
  obtain ⟨a, ha, hstate⟩ := h.current k o (identity_observation hid)
  simp only [bind_ok_iff, pure_ok_iff, failIf_ok_iff, bne_eq_false_iff_eq, required_ok_iff] at hc
  obtain ⟨a₁, ha₁, -, hacquired, rfl⟩ := hc
  obtain rfl := Option.some.inj (ha.symm.trans ha₁)
  rw [if_pos (beq_iff_eq.2 (hstate.trans hacquired))]
  exact Or.inr ⟨k, o, _, _, ⟨hid, Or.inr hacquired, rfl, rfl, rfl, Or.inr (Or.inl rfl)⟩, hacquired⟩

theorem markFailed_moved (h : s.Agrees) (e : ExecutionId) (errorCode : String) :
    markFailedTx e errorCode s = s ∨ ∃ k o o' a', Moved s (markFailedTx e errorCode s) e k o o' a' := by
  unfold markFailedTx
  split
  · exact Or.inl rfl
  rename_i k o hid
  obtain ⟨a, ha, hstate⟩ := h.current k o (identity_observation hid)
  simp only [ha]
  split
  · exact Or.inl rfl
  rename_i hclosed
  have hopen : o.state = .reserved ∨ o.state = .acquired := by
    simp only [hstate, Bool.or_eq_true, beq_iff_eq, not_or] at hclosed
    obtain ho | ho | ho | ho := h.known k o (identity_observation hid)
    · exact Or.inl ho
    · exact Or.inr ho
    · exact absurd ho hclosed.1.1
    · exact absurd ho hclosed.1.2
  have hopen' : (o.state == .reserved || o.state == .acquired) = true := by
    simpa only [Bool.or_eq_true, beq_iff_eq] using hopen
  rw [if_pos hopen']
  exact Or.inr ⟨k, o, _, _, hid, hopen, rfl, rfl, rfl, Or.inr (Or.inr rfl)⟩

theorem identity_execution {e : ExecutionId} {k : ObservationKey} {o : ObservationRow}
    (h : s.identity? e = some (k, o)) : ∃ row, s.executions e = some row ∧ row.observation = some k := by
  simp only [Reservations.identity?, Option.bind_eq_bind, Option.bind_eq_some_iff, Option.some.injEq,
    Prod.mk.injEq] at h
  obtain ⟨row, hrow, k', hk', _, _, rfl, rfl⟩ := h
  exact ⟨row, hrow, hk'⟩

/-! ### the steps -/

theorem Moved.fence (h : s.Agrees) {e : ExecutionId} {k : ObservationKey} {o o' : ObservationRow} {a' : AttemptRow}
    (hm : Moved s s' e k o o' a') {event : ReservationEvent} (he : event.execution? s = some e) :
    s'.Agrees ∧ (s.Timely e o → AttemptFence s s' event) := by
  obtain ⟨hid, hopen, rfl, hgen, hstate, hknown⟩ := hm
  have ho := identity_observation hid
  obtain ⟨a, ha, hastate⟩ := h.current k o ho
  have hcurrent (k₁ : ObservationKey) (o₁ : ObservationRow)
      (h₁ : ((s.putAttempt (k, o.generation) a').putObservation k o').observations k₁ = some o₁) :
      ∃ a₁, ((s.putAttempt (k, o.generation) a').putObservation k o').attempts (k₁, o₁.generation) = some a₁ ∧
        a₁.state = o₁.state := by
    obtain ⟨rfl, rfl⟩ | ⟨hne, h₁⟩ := Reservations.putObservation_observations h₁
    · rw [hgen]
      exact ⟨a', Function.update_self .., hstate⟩
    · obtain ⟨a₁, ha₁, hs₁⟩ := h.current k₁ o₁ h₁
      have hkey : (k₁, o₁.generation) ≠ (k, o.generation) := fun hk => hne (Prod.mk.inj hk).1
      exact ⟨a₁, (Function.update_of_ne hkey ..).trans ha₁, hs₁⟩
  refine ⟨⟨hcurrent, fun k₁ o₁ h₁ => ?_⟩, fun htimely => ⟨fun k₁ g hne => ?_, fun k₁ g a₁ ha₁ hclosed => ?_, hcurrent,
    fun k₁ o₁ h₁ haccepted => ?_⟩⟩
  · obtain ⟨rfl, rfl⟩ | ⟨-, h₁⟩ := Reservations.putObservation_observations h₁
    · exact Or.inr hknown
    · exact h.known k₁ o₁ h₁
  · obtain ⟨row, hrow, hobservation⟩ := identity_execution hid
    by_cases hkey : (k₁, g) = (k, o.generation)
    · obtain ⟨rfl, rfl⟩ := Prod.mk.inj hkey
      exact ⟨e, row, he, hrow, hobservation, htimely row hrow⟩
    · exact absurd (Function.update_of_ne hkey ..) hne
  · have hkey : (k₁, g) ≠ (k, o.generation) := by
      intro hk
      rw [hk, ha] at ha₁
      obtain rfl := Option.some.inj ha₁
      rw [hastate] at hclosed
      obtain ho' | ho' := hopen
      · rw [ho'] at hclosed
        obtain hc | hc := hclosed
        · cases hc
        · cases hc
      · rw [ho'] at hclosed
        obtain hc | hc := hclosed
        · cases hc
        · cases hc
    exact (Function.update_of_ne hkey ..).trans ha₁
  · have hne : k₁ ≠ k := by
      rintro rfl
      obtain rfl := Option.some.inj (ho.symm.trans h₁)
      rw [haccepted] at hopen
      obtain hc | hc := hopen
      · cases hc
      · cases hc
    exact (Function.update_of_ne hne ..).trans h₁

theorem Reservations.Agrees.same (h : s.Agrees) (ha : s'.attempts = s.attempts) (ho : s'.observations = s.observations)
    (event : ReservationEvent) : s'.Agrees ∧ AttemptFence s s' event := by
  have hcurrent (k : ObservationKey) (o : ObservationRow) (hk : s'.observations k = some o) :
      ∃ a, s'.attempts (k, o.generation) = some a ∧ a.state = o.state := by
    rw [ho] at hk
    rw [ha]
    exact h.current k o hk
  refine ⟨⟨hcurrent, fun k o hk => h.known k o (ho ▸ hk)⟩, ⟨fun k g hne => ?_, fun k g a hk _ => ?_, hcurrent,
    fun k o hk _ => ?_⟩⟩
  · rw [ha] at hne
    exact absurd rfl hne
  · rw [ha]
    exact hk
  · rw [ho]
    exact hk

/-- A reservation writes the attempt of its own Execution, under a generation that had none. -/
theorem fence_create (h : s.Agrees) {request : IngestRequest} {r : TaskKey × Bool}
    (hc : createTx d request s = .ok (r, s')) : s'.Agrees ∧ AttemptFence s s' (.create request) := by
  obtain rfl | ⟨admission, -, hresolve, hreplay, hreserve⟩ := createTx_ok hc
  · exact h.same rfl rfl _
  obtain ⟨-, -, hadmits⟩ := resolveTx_ok hresolve hreplay
  simp only [reserveTx, bind_ok_iff, pure_ok_iff, failIf_ok_iff, Option.isSome_eq_false_iff,
    Option.isNone_iff_eq_none] at hreserve
  obtain ⟨-, -, -, hfree, rfl⟩ := hreserve
  set c := request.coordinates d
  set t : TaskKey := (request.team, request.task)
  set s₁ := s.admitted t request.fingerprint c.key admission
  replace hfree : s.attempts (c.key, admission.generation) = none := hfree
  have hobservation : (reservedObservation c admission t s.next (s₁.observations c.key)).generation =
      admission.generation ∧ (reservedObservation c admission t s.next (s₁.observations c.key)).state = .reserved := by
    cases s₁.observations c.key with
    | none => exact ⟨rfl, rfl⟩
    | some o => exact ⟨rfl, rfl⟩
  have hcurrent (k : ObservationKey) (o : ObservationRow) (hk : (s₁.reserved c admission t s.next).observations k = some o) :
      ∃ a, (s₁.reserved c admission t s.next).attempts (k, o.generation) = some a ∧ a.state = o.state := by
    obtain ⟨rfl, rfl⟩ | ⟨hne, hk⟩ := Reservations.putObservation_observations hk
    · rw [hobservation.1, hobservation.2]
      exact ⟨_, Function.update_self .., rfl⟩
    · obtain ⟨a, ha, hs⟩ := h.current k o hk
      have hkey : (k, o.generation) ≠ (c.key, admission.generation) := fun hk => hne (Prod.mk.inj hk).1
      exact ⟨a, (Function.update_of_ne hkey ..).trans ha, hs⟩
  refine ⟨⟨hcurrent, fun k o hk => ?_⟩, ⟨fun k g hne => ?_, fun k g a ha _ => ?_, hcurrent, fun k o hk haccepted => ?_⟩⟩
  · obtain ⟨rfl, rfl⟩ | ⟨-, hk⟩ := Reservations.putObservation_observations hk
    · exact Or.inl hobservation.2
    · exact h.known k o hk
  · by_cases hkey : (k, g) = (c.key, admission.generation)
    · obtain ⟨rfl, rfl⟩ := Prod.mk.inj hkey
      exact ⟨s.next, _, rfl, Function.update_self .., rfl, rfl⟩
    · exact absurd (Function.update_of_ne hkey ..) hne
  · have hkey : (k, g) ≠ (c.key, admission.generation) := by
      intro hk
      rw [hk, hfree] at ha
      cases ha
    exact (Function.update_of_ne hkey ..).trans ha
  · have hne : k ≠ c.key := by
      rintro rfl
      obtain ⟨hnone, -⟩ | ⟨o', ho', hfailed, -⟩ := hadmits
      · rw [hnone] at hk
        cases hk
      · obtain rfl := Option.some.inj (ho'.symm.trans hk)
        rw [haccepted] at hfailed
        cases hfailed
    exact (Function.update_of_ne hne ..).trans hk

theorem fence_step (h : s.Agrees) (event : ReservationEvent) : (reservationStep d s event).Agrees ∧
    (TimelyCall s event → AttemptFence s (reservationStep d s event) event) := by
  have hsame {s₁ : Reservations} (hs : s₁.Agrees ∧ AttemptFence s s₁ event) :
      s₁.Agrees ∧ (TimelyCall s event → AttemptFence s s₁ event) := ⟨hs.1, fun _ => hs.2⟩
  have hmoved {e : ExecutionId} {k : ObservationKey} {o o' : ObservationRow} {a' : AttemptRow} {s₁ : Reservations}
      (hm : Moved s s₁ e k o o' a') (he : event.execution? s = some e) (ht : TimelyCall s event → s.Timely e o) :
      s₁.Agrees ∧ (TimelyCall s event → AttemptFence s s₁ event) := by
    obtain ⟨hagrees, hfence⟩ := hm.fence h he
    exact ⟨hagrees, fun hc => hfence (ht hc)⟩
  unfold reservationStep
  cases hc : reservationResult d s event with
  | error e => exact hsame (h.same rfl rfl event)
  | ok s' =>
    cases event with
    | create request =>
      simp only [reservationResult, bind_ok_iff, failIf_ok_iff, pure_ok_iff] at hc
      obtain ⟨-, -, ⟨r, s₁⟩, hcreate, rfl⟩ := hc
      exact hsame (fence_create h hcreate)
    | markAcquired e =>
      obtain rfl | ⟨k, o, o', a', hm, hreserved⟩ := markAcquired_moved h hc
      · exact hsame (h.same rfl rfl _)
      · exact hmoved hm rfl fun ht => (ht k o hm.identity).resolve_right fun hne => hne hreserved
    | markAccepted e snapshot =>
      obtain rfl | ⟨k, o, o', a', hm, hacquired⟩ := markAccepted_moved h hc
      · exact hsame (h.same rfl rfl _)
      · exact hmoved hm rfl fun ht => (ht k o hm.identity).resolve_right fun hne => hne hacquired
    | markFailed e errorCode =>
      obtain rfl := Except.ok.inj hc
      obtain hs | ⟨k, o, o', a', hm⟩ := markFailed_moved h e errorCode
      · exact hsame (h.same (by rw [hs]) (by rw [hs]) _)
      · refine hmoved hm rfl fun ht => (ht k o hm.identity).resolve_right fun hclosed => ?_
        have hopen := hm.isOpen
        obtain ho | ho := hclosed
        · rw [ho] at hopen
          obtain hc | hc := hopen
          · cases hc
          · cases hc
        · rw [ho] at hopen
          obtain hc | hc := hopen
          · cases hc
          · cases hc
    | project t status =>
      obtain rfl := Except.ok.inj hc
      have hkeeps : (projectTask t status s).attempts = s.attempts ∧
          (projectTask t status s).observations = s.observations := by
        unfold projectTask
        split
        · exact ⟨rfl, rfl⟩
        · exact ⟨rfl, rfl⟩
      exact hsame (h.same hkeeps.1 hkeeps.2 _)
    | retry t expectedRevision reason =>
      have hkeeps : s'.attempts = s.attempts ∧ s'.observations = s.observations := by
        simp only [reservationResult, retryTx, bind_ok_iff] at hc
        obtain ⟨row, -, hc⟩ := hc
        split at hc
        · obtain rfl := Except.ok.inj hc
          exact ⟨rfl, rfl⟩
        · simp only [bind_ok_iff, pure_ok_iff] at hc
          obtain ⟨-, -, -, -, -, -, previous, -, -, -, rfl⟩ := hc
          exact ⟨rfl, rfl⟩
      exact hsame (h.same hkeeps.1 hkeeps.2 _)
    | softDelete t expectedRevision =>
      have hkeeps : s'.attempts = s.attempts ∧ s'.observations = s.observations := by
        simp only [reservationResult, softDeleteTx, bind_ok_iff, pure_ok_iff] at hc
        obtain ⟨row, -, -, -, -, -, rfl⟩ := hc
        split
        · exact ⟨rfl, rfl⟩
        · exact ⟨rfl, rfl⟩
      exact hsame (h.same hkeeps.1 hkeeps.2 _)
    | writeItem k item =>
      have hkeeps : s'.attempts = s.attempts ∧ s'.observations = s.observations := by
        obtain rfl := Except.ok.inj hc
        exact ⟨rfl, rfl⟩
      exact hsame (h.same hkeeps.1 hkeeps.2 _)

/-! ### runs -/

theorem agrees_empty : Reservations.Agrees {} where
  current k o h := by cases h
  known k o h := by cases h

theorem agrees_run (d : ObservationDeployment) (l : List ReservationEvent) :
    (runFrom (reservationStep d) {} l).Agrees := by
  have hstep (s : Reservations) (event : ReservationEvent) (h : s.Agrees) (_ : True) :
      (reservationStep d s event).Agrees := (fence_step h event).1
  exact runFrom_invariant hstep agrees_empty (stepsMeet_true _ l)

/-- Every step of a run whose late calls find nothing to change keeps the fence of the attempts. -/
theorem attemptFence (d : ObservationDeployment) (l : List ReservationEvent) (event : ReservationEvent)
    (hl : StepsMeet (reservationStep d) TimelyCall {} (l ++ [event])) :
    AttemptFence (runFrom (reservationStep d) {} l) (runFrom (reservationStep d) {} (l ++ [event])) event := by
  rw [runFrom_append]
  obtain ⟨-, ht, -⟩ := stepsMeet_append.1 hl
  exact (fence_step (agrees_run d l) event).2 ht

/-- The first attempt fails, and a second Task takes the Observation over. -/
def sampleTakeover : List ReservationEvent :=
  [.create (sampleIngest "t"), .markFailed 0 "ACQUISITION_FAILED",
    .create { sampleIngest "u" with observationKey := some "t", retryFailedObservation := true, expectedAttempt := some 1 }]

/-- The Execution of the second attempt reports its acquisition. -/
theorem attemptFence_second : AttemptFence (runFrom (reservationStep sampleObservations) {} sampleTakeover)
    (runFrom (reservationStep sampleObservations) {} (sampleTakeover ++ [.markAcquired 1])) (.markAcquired 1) := by
  refine attemptFence sampleObservations sampleTakeover (.markAcquired 1) ⟨trivial, ?_, trivial, ?_, trivial⟩
  · intro k o hid
    refine Or.inl fun row hrow => ?_
    obtain rfl := (Prod.mk.inj (Option.some.inj hid)).2
    obtain rfl := Option.some.inj hrow
    rfl
  · intro k o hid
    refine Or.inl fun row hrow => ?_
    obtain rfl := (Prod.mk.inj (Option.some.inj hid)).2
    obtain rfl := Option.some.inj hrow
    rfl

/-- The Execution of the first attempt acquires its source after all, and its late report closes in on the second
attempt. -/
theorem attemptFence_late : ¬ ∀ d l event, AttemptFence (runFrom (reservationStep d) {} l)
    (runFrom (reservationStep d) {} (l ++ [event])) event := by
  intro h
  have hfence := h sampleObservations sampleTakeover (.markAcquired 0)
  have hchanged : (runFrom (reservationStep sampleObservations) {} (sampleTakeover ++ [.markAcquired 0])).attempts
      (⟨⟨1, "inline_payload", "a"⟩, "t"⟩, 2) ≠ (runFrom (reservationStep sampleObservations) {} sampleTakeover).attempts
      (⟨⟨1, "inline_payload", "a"⟩, "t"⟩, 2) := by
    intro heq
    exact absurd (congrArg (Option.map AttemptRow.state) heq) (by decide)
  obtain ⟨e, row, he, hrow, -, hgeneration⟩ := hfence.own _ _ hchanged
  obtain rfl := Option.some.inj he
  obtain rfl := Option.some.inj hrow
  exact absurd hgeneration (by decide)

end KnowledgeBase
