import KnowledgeBase.Observation.Acquisition
import KnowledgeBase.Observation.Effects

/-!
# Retries of an acquisition

The stage closes the attempt of its Observation as soon as the read of the source raises, while the engine goes on to
retry the Process. A later delivery that acquires the content then finds the attempt closed: its outcome is accepted
exactly when no earlier delivery was refused by its read, `acquisitionRetry_exact`.
-/

namespace KnowledgeBase

open Checked

/-! ### runs that are retried -/

namespace AcquireRun

/-- Why the delivery is refused, on its own. -/
def refusal? (r : AcquireRun) : Option Refusal :=
  ((r.before.or (r.read.or r.after)).map StageError.refusal).or (r.commit.map StageError.commitRefusal)

/-- The worker submits a retryable failure. -/
def Retryable (r : AcquireRun) : Prop := ∃ errorCode, r.refusal? = some (.retryable errorCode)

/-- The content is acquired and nothing raises. -/
def acquires : AcquireRun := {}

/-- The read of the source raises. -/
def failsRead (r : AcquireRun) : Bool := r.before.isNone && r.read.isSome

end AcquireRun

section delivery

variable {registeredApi : Bool} {e : ExecutionId} {r : AcquireRun} {s : Reservations} {p : IngestProcess}

/-! ### deliveries that leave the attempt alone -/

theorem acquire_of_not_failsRead (h : registeredApi = true ∨ r.failsRead = false) :
    acquire registeredApi e r s = (r.before.or (r.read.or r.after), s) := by
  unfold acquire
  cases hbefore : r.before with
  | some error => rfl
  | none =>
    cases hread : r.read with
    | none => rfl
    | some error =>
      have hapi : registeredApi = true := h.resolve_right (by simp [AcquireRun.failsRead, hbefore, hread])
      simp [hapi]

theorem deliver_refused (hready : p.status = .ready) (hread : registeredApi = true ∨ r.failsRead = false)
    {errorCode : String} (hr : r.refusal? = some (.retryable errorCode)) :
    deliver registeredApi e p r = p.refuse (.retryable errorCode) := by
  unfold deliver
  rw [if_neg (by simp [hready]), acquire_of_not_failsRead hread]
  unfold AcquireRun.refusal? at hr
  cases hraised : r.before.or (r.read.or r.after) with
  | some error =>
    rw [hraised] at hr
    have href : error.refusal = .retryable errorCode := Option.some.inj hr
    simp only [href]
  | none =>
    rw [hraised] at hr
    cases hcommit : r.commit with
    | some error =>
      rw [hcommit] at hr
      have href : error.commitRefusal = .retryable errorCode := Option.some.inj hr
      simp only [href]
    | none =>
      rw [hcommit] at hr
      cases hr

theorem deliver_retried (hready : p.status = .ready) (hleft : p.retryCount < p.maxRetries)
    (hread : registeredApi = true ∨ r.failsRead = false) (hr : r.Retryable) :
    ∃ errorCode, deliver registeredApi e p r = { p with retryCount := p.retryCount + 1, errorCode := errorCode } := by
  obtain ⟨errorCode, hr⟩ := hr
  exact ⟨some errorCode, (deliver_refused hready hread hr).trans (if_pos hleft)⟩

theorem runFrom_refused {earlier : List AcquireRun} (hready : p.status = .ready)
    (hleft : p.retryCount + earlier.length ≤ p.maxRetries) (hretry : ∀ r ∈ earlier, r.Retryable)
    (hread : registeredApi = true ∨ ∀ r ∈ earlier, r.failsRead = false) :
    ∃ retryCount errorCode, runFrom (deliver registeredApi e) p earlier =
      { p with retryCount := retryCount, errorCode := errorCode } := by
  induction earlier generalizing p with
  | nil => exact ⟨p.retryCount, p.errorCode, rfl⟩
  | cons r earlier ih =>
    rw [List.length_cons] at hleft
    obtain ⟨errorCode, hone⟩ := deliver_retried (e := e) hready (by omega)
      (hread.imp_right fun h => h r List.mem_cons_self) (hretry r List.mem_cons_self)
    rw [runFrom_cons, hone]
    obtain ⟨retryCount, code, hrest⟩ := ih
      (p := { p with retryCount := p.retryCount + 1, errorCode := errorCode }) hready
      (by show p.retryCount + 1 + earlier.length ≤ p.maxRetries; omega)
      (fun r hr => hretry r (List.mem_cons_of_mem _ hr))
      (hread.imp_right fun h r hr => h r (List.mem_cons_of_mem _ hr))
    exact ⟨retryCount, code, hrest⟩

/-! ### a closed attempt -/

/-- The current attempt of the Observation of an Execution that is no full retry. -/
structure Reservations.Attempting (s : Reservations) (e : ExecutionId) (k : ObservationKey) (o : ObservationRow)
    (a : AttemptRow) : Prop where
  identity : s.identity? e = some (k, o)
  acquires : s.isFullRetry e = false
  attempt : s.attempts (k, o.generation) = some a

variable {k : ObservationKey} {o o' : ObservationRow} {a a' : AttemptRow}

theorem Reservations.Attempting.of_eq {s' : Reservations} (h : s.Attempting e k o a)
    (he : s'.executions = s.executions) (ho : s'.observations k = some o') (hg : o'.generation = o.generation)
    (ha : s'.attempts (k, o.generation) = some a') : s'.Attempting e k o' a' := by
  have hid := h.identity
  simp only [Reservations.identity?, Option.bind_eq_bind, Option.bind_eq_some_iff, Option.some.injEq,
    Prod.mk.injEq] at hid
  obtain ⟨row, hrow, k', hk', o₁, ho₁, rfl, rfl⟩ := hid
  have hid' : s'.identity? e = some (k', o') := by
    simp [Reservations.identity?, he, hrow, hk', ho]
  refine ⟨hid', ?_, hg ▸ ha⟩
  have hfull := h.acquires
  unfold Reservations.isFullRetry at hfull ⊢
  rw [h.identity] at hfull
  rw [hid', he]
  exact hfull

/-- The attempt of the Execution is closed as failed. -/
def Reservations.AttemptFailed (s : Reservations) (e : ExecutionId) : Prop :=
  ∃ k o a, s.Attempting e k o a ∧ a.state = .failed

theorem markFailedTx_closes (h : s.Attempting e k o a) (errorCode : String)
    (hopen : a.state = .reserved ∨ a.state = .acquiring) : (markFailedTx e errorCode s).AttemptFailed e := by
  have hlive : (a.state == .accepted || a.state == .failed || a.state == .abandoned) = false := by
    rcases hopen with hs | hs <;> rw [hs] <;> rfl
  unfold markFailedTx
  simp only [h.identity, h.attempt, hlive, Bool.false_eq_true, if_false]
  split
  · exact ⟨k, _, _, h.of_eq rfl (Function.update_self ..) rfl (Function.update_self ..), rfl⟩
  · exact ⟨k, o, _, h.of_eq rfl (identity_observation h.identity) rfl (Function.update_self ..), rfl⟩

theorem markFailedTx_failed (h : s.AttemptFailed e) (errorCode : String) : markFailedTx e errorCode s = s := by
  obtain ⟨k, o, a, h, hfailed⟩ := h
  simp [markFailedTx, h.identity, h.attempt, hfailed]

theorem acquireCallback_failed (h : s.AttemptFailed e) : acquireCallback e s =
    .error (conflictError "OBSERVATION_ATTEMPT_CONFLICT" "Observation acquire attempt changed") := by
  obtain ⟨k, o, a, h, hfailed⟩ := h
  unfold acquireCallback
  rw [h.acquires]
  simp [markAcquiredTx, h.identity, h.attempt, hfailed, failIf]

theorem acquire_failed (h : s.AttemptFailed e) : (acquire registeredApi e r s).2 = s := by
  unfold acquire
  split
  · rfl
  · split
    · split
      · rfl
      · exact markFailedTx_failed h _
    · rfl

theorem IngestProcess.refuse_reservations (p : IngestProcess) (refusal : Refusal) :
    (p.refuse refusal).reservations = p.reservations := by
  cases refusal with
  | retryable errorCode =>
    simp only [refuse]
    split <;> rfl
  | failed errorCode => rfl
  | fenced => rfl

theorem IngestProcess.refuse_status (h : p.status ≠ .succeeded) (refusal : Refusal) :
    (p.refuse refusal).status ≠ .succeeded := by
  cases refusal with
  | retryable errorCode =>
    simp only [refuse]
    split
    · exact h
    · exact fun hs => by cases hs
  | failed errorCode => exact fun hs => by cases hs
  | fenced => exact h

/-- The attempt is closed and the Process has not succeeded. -/
def IngestProcess.Stuck (e : ExecutionId) (p : IngestProcess) : Prop :=
  p.reservations.AttemptFailed e ∧ p.status ≠ .succeeded

theorem IngestProcess.Stuck.refuse (h : p.Stuck e) (refusal : Refusal) : (p.refuse refusal).Stuck e :=
  ⟨by rw [refuse_reservations]; exact h.1, refuse_status h.2 refusal⟩

variable (registeredApi) in
theorem IngestProcess.Stuck.deliver (h : p.Stuck e) (r : AcquireRun) : (deliver registeredApi e p r).Stuck e := by
  have hkept : (acquire registeredApi e r p.reservations).2 = p.reservations := acquire_failed h.1
  unfold KnowledgeBase.deliver
  split
  · exact h
  cases hacquire : acquire registeredApi e r p.reservations with
  | mk raised s' =>
    rw [hacquire] at hkept
    obtain rfl : s' = p.reservations := hkept
    cases raised with
    | some error => exact h.refuse _
    | none =>
      cases r.commit with
      | some error => exact h.refuse _
      | none =>
        simp only [acquireCallback_failed h.1]
        exact h.refuse _

theorem stuck_of_failsRead (hready : p.status = .ready) (h : p.reservations.Attempting e k o a)
    (hopen : a.state = .reserved ∨ a.state = .acquiring) (hread : r.failsRead = true) :
    (deliver false e p r).Stuck e := by
  unfold AcquireRun.failsRead at hread
  simp only [Bool.and_eq_true, Option.isNone_iff_eq_none, Option.isSome_iff_exists] at hread
  obtain ⟨hbefore, error, hread⟩ := hread
  have hacquire : acquire false e r p.reservations =
      (some error, markFailedTx e error.attemptCode p.reservations) := by
    unfold acquire
    simp only [hbefore, hread, h.acquires, Bool.or_false, Bool.false_eq_true, if_false]
  unfold deliver
  rw [if_neg (by simp [hready]), hacquire]
  have hstuck : IngestProcess.Stuck e { p with reservations := markFailedTx e error.attemptCode p.reservations } :=
    ⟨markFailedTx_closes h _ hopen, by simp [hready]⟩
  exact hstuck.refuse _

theorem stuck_of_exists_failsRead {runs : List AcquireRun} (hready : p.status = .ready)
    (hleft : p.retryCount + runs.length ≤ p.maxRetries) (h : p.reservations.Attempting e k o a)
    (hopen : a.state = .reserved ∨ a.state = .acquiring) (hretry : ∀ r ∈ runs, r.Retryable)
    (hread : ∃ r ∈ runs, r.failsRead = true) : (runFrom (deliver false e) p runs).Stuck e := by
  induction runs generalizing p with
  | nil =>
    obtain ⟨r, hr, -⟩ := hread
    cases hr
  | cons r runs ih =>
    rw [runFrom_cons]
    cases hone : r.failsRead with
    | true =>
      exact runFrom_invariant (C := fun _ _ => True) (fun p r hp _ => hp.deliver false r)
        (stuck_of_failsRead hready h hopen hone) (stepsMeet_true _ _)
    | false =>
      rw [List.length_cons] at hleft
      obtain ⟨errorCode, hretried⟩ := deliver_retried (e := e) hready (by omega) (.inr hone)
        (hretry r List.mem_cons_self)
      rw [hretried]
      refine ih hready (by show p.retryCount + 1 + runs.length ≤ p.maxRetries; omega) h
        (fun q hq => hretry q (List.mem_cons_of_mem r hq)) ?_
      obtain ⟨q, hq, hqread⟩ := hread
      rcases List.mem_cons.1 hq with rfl | hq
      · rw [hone] at hqread
        cases hqread
      · exact ⟨q, hq, hqread⟩

theorem acquireCallback_open (h : s.Attempting e k o a) (hopen : a.state = .reserved ∨ a.state = .acquiring) :
    ∃ s', acquireCallback e s = .ok s' ∧ ∃ a', s'.attempts (k, o.generation) = some a' ∧ a'.state = .acquired := by
  have hlive : (a.state == .acquired) = false ∧ (a.state != .reserved && a.state != .acquiring) = false := by
    rcases hopen with hs | hs <;> rw [hs] <;> exact ⟨rfl, rfl⟩
  let acquired : Reservations :=
    s.putAttempt (k, o.generation) { a with state := .acquired, rowRevision := a.rowRevision + 1 }
  have hcallback : acquireCallback e s = .ok (if o.state == .reserved then
      acquired.putObservation k { o with state := .acquired, rowRevision := o.rowRevision + 1 } else acquired) := by
    unfold acquireCallback
    rw [h.acquires]
    simp only [Bool.false_eq_true, if_false, markAcquiredTx, h.identity, h.attempt, hlive.1, hlive.2, failIf]
    rfl
  refine ⟨_, hcallback, { a with state := .acquired, rowRevision := a.rowRevision + 1 }, ?_, rfl⟩
  split
  · exact Function.update_self ..
  · exact Function.update_self ..

variable (registeredApi) in
theorem deliver_acquires (hready : p.status = .ready) {s' : Reservations}
    (hs' : acquireCallback e p.reservations = .ok s') : deliver registeredApi e p .acquires =
      { p with reservations := s', status := .succeeded, errorCode := none } := by
  unfold deliver
  rw [if_neg (by simp [hready])]
  have hacquire : acquire registeredApi e .acquires p.reservations = (none, p.reservations) := rfl
  rw [hacquire]
  simp only [AcquireRun.acquires, hs']

end delivery

/-! ### the law -/

/-- The last delivery succeeds as it would have without those before it, and its attempt ends acquired. -/
structure AcquiredAsFirst (registeredApi : Bool) (e : ExecutionId) (k : ObservationKey) (generation : Nat)
    (p : IngestProcess) (earlier : List AcquireRun) : Prop where
  succeeded : (runFrom (deliver registeredApi e) p (earlier ++ [.acquires])).status = .succeeded
  reservations : (runFrom (deliver registeredApi e) p (earlier ++ [.acquires])).reservations =
    (deliver registeredApi e p .acquires).reservations
  acquired : ∃ a, (runFrom (deliver registeredApi e) p (earlier ++ [.acquires])).reservations.attempts (k, generation) =
    some a ∧ a.state = .acquired

/-- After deliveries that the worker had retried, as many as the Process may have, the delivery that acquires the
content is accepted as if it were the first exactly if the source is a registered API or no earlier delivery failed
in the read of the source. -/
theorem acquisitionRetry_exact (registeredApi : Bool) {e : ExecutionId} {s : Reservations} {k : ObservationKey}
    {o : ObservationRow} {a : AttemptRow} (h : s.Attempting e k o a)
    (hopen : a.state = .reserved ∨ a.state = .acquiring) {maxRetries : Nat} {earlier : List AcquireRun}
    (hretry : ∀ r ∈ earlier, r.Retryable) (hleft : earlier.length ≤ maxRetries) :
    AcquiredAsFirst registeredApi e k o.generation { reservations := s, maxRetries := maxRetries } earlier ↔
      registeredApi = true ∨ ∀ r ∈ earlier, r.failsRead = false := by
  constructor
  · intro hacquired
    by_contra hno
    rw [not_or] at hno
    obtain rfl : registeredApi = false := by simpa using hno.1
    have hread : ∃ r ∈ earlier, r.failsRead = true := by simpa using hno.2
    have hstuck := stuck_of_exists_failsRead (e := e) (p := { reservations := s, maxRetries := maxRetries }) rfl
      (by simpa using hleft) h hopen hretry hread
    have hlast := hstuck.deliver false .acquires
    have hsucceeded := hacquired.succeeded
    rw [runFrom_append, runFrom_cons, runFrom_nil] at hsucceeded
    exact hlast.2 hsucceeded
  · intro hread
    obtain ⟨retryCount, errorCode, hrun⟩ := runFrom_refused (e := e)
      (p := { reservations := s, maxRetries := maxRetries }) rfl (by simpa using hleft) hretry hread
    obtain ⟨s', hs', hacquired⟩ := acquireCallback_open h hopen
    have hlast : runFrom (deliver registeredApi e) { reservations := s, maxRetries := maxRetries }
        (earlier ++ [.acquires]) =
          { reservations := s', status := .succeeded, maxRetries := maxRetries, retryCount := retryCount } := by
      rw [runFrom_append, hrun]
      exact deliver_acquires registeredApi (p := ⟨s, .ready, retryCount, maxRetries, errorCode⟩) rfl hs'
    have hfirst : deliver registeredApi e { reservations := s, maxRetries := maxRetries } .acquires =
        { reservations := s', status := .succeeded, maxRetries := maxRetries } :=
      deliver_acquires registeredApi (p := { reservations := s, maxRetries := maxRetries }) rfl hs'
    exact ⟨by rw [hlast], by rw [hlast, hfirst], by rw [hlast]; exact hacquired⟩

/-- The reservations after the admission of one ingest. -/
def sampleAdmitted : Reservations := runFrom (reservationStep sampleObservations) {} [.create (sampleIngest "t")]

theorem sampleAdmitted_attempting : ∃ o a, sampleAdmitted.Attempting 0 ⟨⟨1, "inline_payload", "a"⟩, "t"⟩ o a ∧
    a.state = .reserved :=
  ⟨_, _, ⟨rfl, rfl, rfl⟩, rfl⟩

/-- A delivery whose state could not be loaded, and one that acquires. -/
theorem acquisitionRetry_exact_load : ∃ generation, AcquiredAsFirst false 0 ⟨⟨1, "inline_payload", "a"⟩, "t"⟩ generation
    { reservations := sampleAdmitted, maxRetries := 3 } [{ before := some .unexpected }] := by
  obtain ⟨o, a, h, hreserved⟩ := sampleAdmitted_attempting
  have hretry : ∀ r ∈ [({ before := some .unexpected } : AcquireRun)], r.Retryable := by
    intro r hr
    rw [List.mem_singleton.1 hr]
    exact ⟨"stage-handler-exception", rfl⟩
  refine ⟨o.generation, (acquisitionRetry_exact false h (.inl hreserved) hretry (by decide)).2 (.inr fun r hr => ?_)⟩
  rw [List.mem_singleton.1 hr]
  rfl

/-- A read that a dropped connection interrupts, and one that acquires the content. -/
theorem acquisitionRetry_not_read : ¬ ∀ (registeredApi : Bool) (e : ExecutionId) (s : Reservations) (k : ObservationKey)
    (o : ObservationRow) (a : AttemptRow) (maxRetries : Nat) (earlier : List AcquireRun), s.Attempting e k o a →
    a.state = .reserved ∨ a.state = .acquiring → (∀ r ∈ earlier, r.Retryable) → earlier.length ≤ maxRetries →
    AcquiredAsFirst registeredApi e k o.generation { reservations := s, maxRetries := maxRetries } earlier := by
  intro hall
  obtain ⟨o, a, h, hreserved⟩ := sampleAdmitted_attempting
  have hacquired := hall false 0 sampleAdmitted _ o a 3 [{ read := some .unexpected }] h (.inl hreserved)
    (fun r hr => by rw [List.mem_singleton.1 hr]; exact ⟨"stage-handler-exception", rfl⟩) (by decide)
  have hended : (runFrom (deliver false 0) { reservations := sampleAdmitted, maxRetries := 3 }
      ([{ read := some .unexpected }] ++ [.acquires])).status = .failed := by decide +kernel
  have hsucceeded := hacquired.succeeded
  rw [hended] at hsucceeded
  cases hsucceeded

end KnowledgeBase
