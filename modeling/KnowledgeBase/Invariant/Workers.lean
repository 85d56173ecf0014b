import KnowledgeBase.Invariant.Engine

/-!
# Worker operations

Every engine invariant is kept by what a worker and the scheduler do to a Process: claims, starts, heartbeats,
accepted outcomes, due retries and expired leases.
-/

namespace KnowledgeBase

open Transaction Database

/-! ### frames -/

theorem keeps_processWithExecution {γ : Type} {f : Database → γ} (p : ProcessId) : Keeps f (processWithExecution p) := by
  refine Keeps.get.bind fun db => ?_
  split
  · exact Keeps.throw _
  · split
    · exact Keeps.pure _
    · exact Keeps.throw _

theorem Triple.admitWaitingProcessesTx {P : Database → Prop} {d : Deployment} {now : Time}
    (gated : ∀ s, P s → P (releaseGatedReservations s))
    (one : ∀ p pool, Triple P (admitOneTx now p pool) fun _ => P) :
    Triple P (admitWaitingProcessesTx d now) fun _ => P := by
  have embeds (l : List ProcessRecord) : ∀ queued, Triple P (admitEmbedsTx d now l queued) fun _ => P := by
    induction l with
    | nil => exact fun _ => Triple.keep
    | cons r rs ih => exact fun _ => Triple.ite (fun _ => Triple.keep) fun _ => (one _ _).bind fun _ => ih _
  have generates (l : List ProcessRecord) : ∀ a b, Triple P (admitGeneratesTx d now l a b) fun _ => P := by
    induction l with
    | nil => exact fun _ _ => Triple.keep
    | cons r rs ih =>
      intro a b
      unfold admitGeneratesTx
      refine Triple.get_frame.bind fun db => ?_
      split
      · exact ih _ _
      refine Triple.ite (fun _ => ih _ _) fun _ => ?_
      split
      · exact Triple.ite (fun _ => (one _ _).bind fun _ => ih _ _) fun _ => ih _ _
      · exact Triple.ite (fun _ => (one _ _).bind fun _ => ih _ _) fun _ => ih _ _
      · exact ih _ _
  exact Triple.ite_bind (Triple.modify gated) <| Triple.get_frame.bind fun db =>
    (Triple.forEach fun r _ => (one _ _).bind fun _ => Triple.keep).bind fun _ =>
      (embeds _ _).bind fun _ => generates _ _ _

namespace ProcessFrame

variable {γ : Type} {f : Database → γ} (hf : ProcessFrame f)

include hf

theorem admitWaitingProcessesTx (d : Deployment) (now : Time) : Keeps f (admitWaitingProcessesTx d now) :=
  fun s a t h => Triple.admitWaitingProcessesTx (P := fun u => f u = f s)
    (fun u hu => (hf.process u _ _ fun _ => by rfl).trans hu)
    (fun p pool u b v hu hv => (hf.casProcess (fun _ => by rfl) p _ u b v hv).trans hu) s a t rfl h

theorem failProcessTx (now : Time) (p : ProcessRecord) (errorCode failureDisposition : String)
    (acceptedOutcome : Option OutcomeContent) :
    Keeps f (failProcessTx now p errorCode failureDisposition acceptedOutcome) := by
  refine (hf.casProcess (fun _ => by rfl) _ _).bind fun updated => Keeps.ite (Keeps.pure _) (Keeps.get.bind fun db => ?_)
  split
  · exact Keeps.pure _
  · exact Keeps.raiseIf _ _

theorem claimCandidateTx (now : Time) (request : ClaimRequest) (c : ProcessRecord) :
    Keeps f (claimCandidateTx now request c) :=
  (hf.casProcess (fun _ => by rfl) _ _).bind fun _ => Keeps.ite ((keeps_processWithExecution _).bind fun _ =>
    (Keeps.ofExcept _).bind fun _ => Keeps.pure _) (Keeps.pure _)

theorem markRunningTx (now : Time) (p : ProcessId) (fence : Nat) : Keeps f (markRunningTx now p fence) := by
  refine (keeps_processWithExecution _).bind fun r => Keeps.ite (Keeps.pure _) ?_
  refine (hf.casProcess (fun _ => by rfl) _ _).bind fun _ => Keeps.guard <| (keeps_execution _).bind
    fun row => (hf.casExecution (fun _ => by rfl) _ _).bind fun _ => ?_
  split
  · exact (hf.projectTaskStatusTx _ _ _).bind fun _ => Keeps.pure _
  · exact Keeps.pure _

theorem heartbeatTx (now : Time) (p : ProcessId) (fence leaseSeconds : Nat) :
    Keeps f (heartbeatTx now p fence leaseSeconds) :=
  Keeps.guard <| hf.casProcess (fun _ => by rfl) _ _

theorem promoteRetryTx (now : Time) (p : ProcessRecord) : Keeps f (promoteRetryTx now p) :=
  (hf.casProcess (fun _ => by rfl) _ _).bind fun _ => Keeps.ite ((hf.casExecution (fun _ => by rfl) _ _).bind
    fun _ => (hf.of_core (keeps_core_enqueueTx _ _ _ _)).bind fun _ => Keeps.pure _) (Keeps.pure _)

theorem succeedProcessTx (now : Time) (p : ProcessId) (outcome : ProcessOutcome) :
    Keeps f (succeedProcessTx now p outcome) :=
  (hf.casProcess (fun _ => by rfl) _ _).bind fun _ => Keeps.raiseIf _ _

theorem awaitRetryTx (p : ProcessId) (outcome : ProcessOutcome) (due : Time) : Keeps f (awaitRetryTx p outcome due) :=
  (hf.casProcess (fun _ => by rfl) _ _).bind fun _ => Keeps.raiseIf _ _

theorem cancelExpiredTx (now : Time) (p : ProcessRecord) : Keeps f (cancelExpiredTx now p) :=
  hf.casProcess (fun _ => by rfl) _ _

theorem replayExpiredTx (now : Time) (p : ProcessRecord) : Keeps f (replayExpiredTx now p) :=
  hf.casProcess (fun _ => by rfl) _ _

theorem markCleanupEligibleTx (now : Time) (p : ProcessRecord) : Keeps f (markCleanupEligibleTx now p) :=
  (hf.casProcess (fun _ => by rfl) _ _).bind fun _ => Keeps.pure _

theorem fenceRestartTx (p : ProcessId) (fence : Nat) : Keeps f (fenceRestartTx p fence) :=
  hf.casProcess (fun _ => by rfl) _ _

end ProcessFrame

namespace ExecutionFrame

variable {γ : Type} {f : Database → γ} (hf : ExecutionFrame f)

include hf

theorem acceptSnapshotTx (e : ExecutionId) (t : TaskId) (snapshot : SnapshotId) (changeSet : ChangeSetId) :
    Keeps f (acceptSnapshotTx e t snapshot changeSet) :=
  (hf.casExecution (fun _ => by rfl) _ _).bind fun _ => Keeps.guard <|
    (hf.casTask (fun _ => by rfl) _ _).bind fun _ => Keeps.raiseIf _ _

theorem bindCollectionTx (e : ExecutionId) (t : TaskId) (acceptance : ScatterCollectionAcceptance) :
    Keeps f (bindCollectionTx e t acceptance) :=
  (hf.casExecution (fun _ => by rfl) _ _).bind fun _ => Keeps.guard <|
    (hf.casTask (fun _ => by rfl) _ _).bind fun _ => Keeps.raiseIf _ _

theorem awaitRetryDueTx (e : ExecutionId) (p : ProcessId) (due : Time) : Keeps f (awaitRetryDueTx e p due) :=
  (hf.casExecution (fun _ => by rfl) _ _).bind fun _ => Keeps.pure _

end ExecutionFrame

/-! ### sound databases -/

namespace EngineInvariant

variable {d : Deployment} (I : EngineInvariant d)

/-- A well-formed database on which the invariant holds while the rows of the list are pending. -/
def Sound (l : List Pending) (s : Database) : Prop := s.Shaped none ∧ (I.during l).Holds none s

variable {I} {l : List Pending} {α : Type} {x : Tx α}

theorem sound_write {l' : List Pending} {G : Database → Prop} (hx : Keeps shape x)
    (h : Triple (fun s => (s.Shaped none ∧ (I.during l).Holds none s) ∧ G s) x fun _ => (I.during l').Holds none) :
    Triple (fun s => I.Sound l s ∧ G s) x fun _ => I.Sound l' :=
  fun s a t hs ht => ⟨hs.1.1.of_shape (hx s a t ht), h s a t hs ht⟩

theorem sound_write' {l' : List Pending} (hx : Keeps shape x)
    (h : Triple (fun s => s.Shaped none ∧ (I.during l).Holds none s) x fun _ => (I.during l').Holds none) :
    Triple (I.Sound l) x fun _ => I.Sound l' :=
  fun s a t hs ht => ⟨hs.1.of_shape (hx s a t ht), h s a t hs ht⟩

theorem sound_core (hx : Keeps Database.core x) : Triple (I.Sound l) x fun _ => I.Sound l :=
  sound_write' (ExecutionFrame.shape.of_core hx) fun s a t hs ht => (I.during l).core (hx s a t ht) hs.2

theorem sound_of_on (h : ∀ σ, Triple ((I.during l).On none σ) x fun _ => (I.during l).On none σ) :
    Triple (I.Sound l) x fun _ => I.Sound l :=
  fun s a t hs ht => (h s.shape s a t ⟨rfl, hs.1, hs.2⟩ ht).2

theorem sound_refresh (e : ExecutionId) : Triple (I.Sound l) (refreshExecutionCountsTx e) fun _ => I.Sound l :=
  sound_of_on fun _ => (I.during l).on_refresh none e

theorem Sound.pend {s : Database} (h : I.Sound [] s) {p : ProcessRecord} (hp : s.processes.get? p.1 = some p.2)
    (ha : p.2.status.isActive = true) : I.Sound [.lease p] s :=
  ⟨h.1, I.pendLeases (l := [p]) h.1 h.2 (by simp) (by simpa using ⟨hp, ha⟩)⟩

end EngineInvariant

open EngineInvariant

section workers

variable {d : Deployment} (I : EngineInvariant d) (now : Time) {l : List Pending}

/-! ### routing on -/

/-- The transits a Process that has ended can be routed on in. -/
def EntersAfter (l : List Pending) (e : ExecutionId) (row : ExecutionRow) (p : ProcessRecord)
    (selector : WorkflowOutcomeSelector) (extra : OutcomeExtra) (s : Database) : Prop :=
  s.Shaped none ∧ s.identityOf e = some row.identity ∧ s.Recalls e row ∧ ∀ plan context, row.identity.Pins d plan →
    context.operationMode = extra.operationMode →
    (I.during l).Holds (some ⟨e, row.identity, .route plan p.2.stepKey selector (some p) context true⟩) s

theorem sound_routeAfterTerminalProcessTx (e : ExecutionId) (row : ExecutionRow) (process : ProcessRecord)
    (selector : WorkflowOutcomeSelector) (extra : OutcomeExtra) (terminalError : Option String) :
    Triple (EntersAfter I l e row process selector extra)
      (routeAfterTerminalProcessTx d now e row process selector extra terminalError) fun _ => I.Sound l := by
  refine Triple.start fun s₀ h₀ => (on_routeAfterTerminalProcessTx (I.during l) now (σ := s₀.shape) process selector extra
    terminalError (G := fun s => s = s₀) (fun s hs => hs ▸ h₀.2.2.1) fun s plan context hs hplan hmode => ?_).post
      fun _ s h => ⟨h.2.1, h.2.2⟩
  subst hs
  exact ⟨rfl, Shaped.some h₀.1.1 h₀.2.1, h₀.2.2.2 plan context ⟨row, rfl, hplan⟩ hmode⟩

theorem enters_failProcessTx {p : ProcessRecord} {row : ExecutionRow} {extra : OutcomeExtra}
    (hextra : extra.operationMode = none ∨ p.2.status = .running) (errorCode failureDisposition : String)
    (acceptedOutcome : Option OutcomeContent) :
    Triple (fun s => I.Sound (.lease p :: l) s ∧ s.executions.get? p.2.execution = some row ∧ row.status ≠ .cancelling)
      (failProcessTx now p errorCode failureDisposition acceptedOutcome)
      fun _ => EntersAfter I l p.2.execution row p .failed extra := by
  rintro s a t ⟨hs, hrow, hc⟩ ht
  have keep := ProcessFrame.shape.failProcessTx now p errorCode failureDisposition acceptedOutcome s a t ht
  have hi : t.identityOf p.2.execution = some row.identity := by
    rw [identityOf_eq keep]
    exact identityOf_of_get? hrow
  have hrecall : t.Recalls p.2.execution row := by
    refine (Recalls.of_get? hrow).follows (.of_bonds ?_)
    exact ProcessFrame.bonds.failProcessTx now p errorCode failureDisposition acceptedOutcome s a t ht
  refine ⟨hs.1.of_shape keep, hi, hrecall, fun plan context hplan hmode => ?_⟩
  refine I.failEnter now l p errorCode failureDisposition acceptedOutcome s a t ⟨hs, row, hrow, hc⟩ ht _ plan context hi
    hplan ?_
  rw [hmode]
  exact hextra

theorem sound_failAndRouteTx {e : ExecutionId} {row : ExecutionRow} {p : ProcessRecord} {extra : OutcomeExtra}
    (he : e = p.2.execution) (hc : row.status ≠ .cancelling)
    (hextra : extra.operationMode = none ∨ p.2.status = .running) (errorCode failureDisposition : String)
    (acceptedOutcome : Option OutcomeContent) :
    Triple (fun s => I.Sound (.lease p :: l) s ∧ s.executions.get? e = some row)
      (failAndRouteTx d now e row p errorCode failureDisposition acceptedOutcome extra) fun _ => I.Sound l := by
  subst he
  refine ((enters_failProcessTx I now hextra errorCode failureDisposition acceptedOutcome).pre
    fun s h => ⟨h.1, h.2, hc⟩).bind fun _ => ?_
  exact sound_routeAfterTerminalProcessTx I now _ row p .failed extra _

/-! ### claims -/

theorem sound_failExpiredReadyTx (p : ProcessRecord) :
    Triple (fun s => I.Sound [] s ∧ s.processes.get? p.1 = some p.2 ∧ p.2.status.isActive = true ∧
        ∀ row, s.executions.get? p.2.execution = some row → row.status ≠ .cancelling)
      (failExpiredReadyTx d now p) fun _ => I.Sound [] := by
  refine (Triple.execution (Q := fun row s => I.Sound [.lease p] s ∧ s.executions.get? p.2.execution = some row ∧
    row.status ≠ .cancelling) fun s row h hrow => ⟨h.1.pend h.2.1 h.2.2.1, hrow, h.2.2.2 row hrow⟩).bind fun row => ?_
  refine Triple.ofExcept_frame.bind fun _ => (enters_failProcessTx I now (Or.inl (rfl :
    ({} : OutcomeExtra).operationMode = none)) _ _ _).bind fun _ => ?_
  refine (Triple.execution (Q := fun row' s => EntersAfter I [] p.2.execution row' p .failed {} s)
    fun s row' h hrow' => ?_).bind fun row' => ?_
  · have hid := Option.some.inj ((identityOf_of_get? hrow').symm.trans h.2.1)
    refine ⟨h.1, identityOf_of_get? hrow', .of_get? hrow', ?_⟩
    rw [hid]
    exact h.2.2.2
  · exact (sound_routeAfterTerminalProcessTx I now _ row' p .failed {} _).bind fun _ => sound_refresh _

theorem dispatchable_not_cancelling {s : Database} {p : ProcessRow} (h : s.dispatchable p = true) {row : ExecutionRow}
    (hrow : s.executions.get? p.execution = some row) : row.status ≠ .cancelling := by
  simp only [dispatchable, hrow, Option.any_some, Bool.and_eq_true, Bool.or_eq_true, beq_iff_eq] at h
  rintro hc
  simp [hc] at h

theorem mem_sortRecords {key : ProcessRecord → List Nat} {l : List ProcessRecord} {r : ProcessRecord} :
    r ∈ sortRecords key l ↔ r ∈ l := List.mem_insertionSort _

theorem expiredReady_spec {s : Database} {p : ProcessRecord} (h : s.expiredReady d now = some p) :
    s.processes.get? p.1 = some p.2 ∧ p.2.status = .ready ∧ s.dispatchable p.2 = true := by
  obtain ⟨hrow, hc⟩ := Table.mem_select.1 (List.mem_of_head? h)
  simp only [Bool.and_eq_true, beq_iff_eq] at hc
  exact ⟨hrow, hc.1.1.1, hc.1.2⟩

theorem claimCandidate_cases {s : Database} {p : ProcessRecord} (h : s.claimCandidate d now = some p) :
    s.embedCandidate d now = some p ∨ s.otherCandidate d now = some p := by
  unfold Database.claimCandidate at h
  split at h
  · next he ho =>
    split at h
    · obtain rfl := Option.some.inj h
      exact Or.inl he
    · obtain rfl := Option.some.inj h
      exact Or.inr ho
  · next he _ =>
    obtain rfl := Option.some.inj h
    exact Or.inl he
  · next he _ => exact Or.inr h

theorem claimCandidate_spec {s : Database} {p : ProcessRecord} (h : s.claimCandidate d now = some p) :
    s.processes.get? p.1 = some p.2 ∧ p.2.status = .ready ∧ s.dispatchable p.2 = true := by
  have embed (h : s.embedCandidate d now = some p) :
      s.processes.get? p.1 = some p.2 ∧ p.2.status = .ready ∧ s.dispatchable p.2 = true := by
    unfold embedCandidate at h
    split at h
    · obtain ⟨hrow, hc⟩ := Table.mem_select.1 (mem_sortRecords.1 (List.mem_of_head? h))
      simp only [Bool.and_eq_true, beq_iff_eq] at hc
      exact ⟨hrow, hc.1.1.1.1.1, hc.1.2⟩
    · cases h
  have other (h : s.otherCandidate d now = some p) :
      s.processes.get? p.1 = some p.2 ∧ p.2.status = .ready ∧ s.dispatchable p.2 = true := by
    obtain ⟨hrow, hc⟩ := Table.mem_select.1 (mem_sortRecords.1 (List.mem_of_head? h))
    simp only [Bool.and_eq_true, beq_iff_eq] at hc
    exact ⟨hrow, hc.1.1.1.1.1, hc.1.2⟩
  rcases claimCandidate_cases now h with he | ho
  · exact embed he
  · exact other ho

theorem sound_claimLoopTx {request : ClaimRequest} {Q : ClaimedProcess → Database → Prop}
    (hQ : ∀ c, Triple (fun s => I.Sound [] s ∧ s.claimCandidate d now = some c) (claimCandidateTx now request c)
      fun r s => ∀ claimed, r = some claimed → Q claimed s) (rounds : Nat) :
    Triple (I.Sound []) (claimLoopTx d now request rounds)
      fun r s => I.Sound [] s ∧ ∀ claimed, r = some claimed → Q claimed s := by
  induction rounds with
  | zero => exact Triple.pure fun _ h => ⟨h, by simp⟩
  | succ rounds ih =>
    refine Triple.get.bind fun db => ?_
    split
    · next p hp =>
      refine ((sound_failExpiredReadyTx I now p).pre fun s h => ?_).bind fun _ => ih
      obtain ⟨rfl, h⟩ := h
      obtain ⟨hrow, hready, hd⟩ := expiredReady_spec now hp
      exact ⟨h, hrow, by rw [hready]; rfl, fun row => dispatchable_not_cancelling hd⟩
    · refine Triple.bind (Triple.pre (sound_write' (ProcessFrame.shape.admitWaitingProcessesTx d now) (I.admitWaiting now))
        fun s h => h.2) fun _ => Triple.get.bind fun db => ?_
      split
      · exact Triple.pure fun _ h => ⟨h.2, by simp⟩
      · next c hc =>
        refine (Triple.execution (P := fun s => db = s ∧ I.Sound [] s)
          (Q := fun _ s => I.Sound [] s ∧ s.claimCandidate d now = some c)
          fun s row h _ => ⟨h.2, h.1 ▸ hc⟩).bind fun row => ?_
        refine Triple.ofExcept_frame.bind fun plan => Triple.ofExcept_frame.bind fun _ => Triple.ite (fun _ => ?_)
          fun _ => ?_
        · refine ((sound_failExpiredReadyTx I now c).pre fun s h => ?_).bind fun _ => ih
          obtain ⟨hrow, hready, hd⟩ := claimCandidate_spec now h.2
          exact ⟨h.1, hrow, by rw [hready]; rfl, fun row => dispatchable_not_cancelling hd⟩
        · refine Triple.bind (Triple.pre (Triple.and (sound_write (ProcessFrame.shape.claimCandidateTx now request c)
            (I.claimCandidate now request c)) (hQ c)) fun s h => ⟨h, h⟩) fun claimed => ?_
          split
          · exact Triple.pure fun _ h => h
          · exact ih.pre fun s h => h.1

theorem sound_claimNextTx_result {request : ClaimRequest} {Q : ClaimedProcess → Database → Prop}
    (hQ : ∀ c, Triple (fun s => I.Sound [] s ∧ s.claimCandidate d now = some c) (claimCandidateTx now request c)
      fun r s => ∀ claimed, r = some claimed → Q claimed s) :
    Triple (I.Sound []) (claimNextTx d now request) fun r s => I.Sound [] s ∧ ∀ claimed, r = some claimed → Q claimed s :=
  Triple.guard <| Triple.guard <|
    Triple.ite (fun _ => Triple.pure fun _ h => ⟨h, by simp⟩) fun _ => sound_claimLoopTx I now hQ 64

theorem sound_claimNextTx (request : ClaimRequest) : Triple (I.Sound []) (claimNextTx d now request) fun _ => I.Sound [] :=
  (sound_claimNextTx_result I now (Q := fun _ _ => True) fun _ _ _ _ _ _ _ _ => trivial).post fun _ _ h => h.1

theorem sound_promoteDueRetriesTx (limit : Nat) :
    Triple (I.Sound []) (promoteDueRetriesTx now limit) fun _ => I.Sound [] :=
  Triple.get_frame.bind fun _ => Triple.sumEach fun p _ =>
    sound_write' (ProcessFrame.shape.promoteRetryTx now p) (I.promoteRetry now p)

/-! ### accepted outcomes -/

theorem wellFormed_insertChild {s : Database} {e : ExecutionId} {i : ExecutionIdentity} {child : ExecutionRow}
    (hs : s.WellFormed) (hi : s.identityOf e = some i) (hroot : i.root = e) (hc : child.identity.root = e)
    (hp : child.identity.parent = some e) (ht : child.identity.task = i.task)
    (hg : child.identity.generation = i.generation) :
    WellFormed { s with executions := s.executions.insert child } := by
  have old {k : ExecutionId} {j : ExecutionIdentity} (h : s.identityOf k = some j) :
      identityOf { s with executions := s.executions.insert child } k = some j := by
    obtain ⟨row, hrow, hid⟩ := identityOf_eq_some.1 h
    exact identityOf_eq_some.2 ⟨row, by simp [Table.get?_insert_of_lt (Table.lt_next hrow), hrow], hid⟩
  constructor
  · intro k j hj
    obtain ⟨row, hrow, rfl⟩ := identityOf_eq_some.1 hj
    rcases Table.get?_insert_eq_some hrow with ⟨rfl, rfl⟩ | hrow
    · obtain ⟨he, -, -⟩ := identityOf_eq_some.1 hi
      refine ⟨Or.inr ⟨?_, by rw [hp, hc], i, ?_, hroot.trans hc.symm, ht.symm, hg.symm⟩, ?_⟩
      · rw [hc]
        rintro rfl
        simp [identityOf] at hi
      · rw [hc]
        exact old hi
      · rw [ht]
        exact (hs.placed e i hi).2
    · obtain ⟨hplaced, htask⟩ := hs.placed k row.identity (identityOf_of_get? hrow)
      refine ⟨?_, htask⟩
      rcases hplaced with h | ⟨hr, hp, r, hr', h⟩
      · exact Or.inl h
      · exact Or.inr ⟨hr, hp, r, old hr', h⟩
  · intro k h hk
    obtain ⟨j, hj, hrest⟩ := hs.current k h hk
    exact ⟨j, old hj, hrest⟩

theorem OpenAs.identity {s : Database} {e : ExecutionId} {i : ExecutionIdentity} (h : s.OpenAs e i) :
    s.identityOf e = some i := by
  obtain ⟨current, hcur, hid, -⟩ := h
  rw [identityOf_of_get? hcur, hid]

section open_

variable {e k : ExecutionId} {i : ExecutionIdentity}

theorem openAs_updateExecution {s : Database} {f : ExecutionRow → ExecutionRow}
    (hi : ∀ row, (f row).identity = row.identity) (hf : ∀ row, (f row).status = row.status) (h : s.OpenAs e i) :
    (s.updateExecution k f).OpenAs e i := by
  obtain ⟨row, hrow, hid, ht, hc⟩ := h
  refine ⟨if e = k then f row else row, by simp [updateExecution, Table.get?_modify, hrow], ?_⟩
  split
  · rw [hi, hf]
    exact ⟨hid, ht, hc⟩
  · exact ⟨hid, ht, hc⟩

theorem triple_openAs_casExecution {c : ExecutionRow → Bool} {f : ExecutionRow → ExecutionRow}
    (hi : ∀ row, (f row).identity = row.identity) (hf : ∀ row, (f row).status = row.status) :
    Triple (fun s => s.OpenAs e i) (casExecution k c f) fun _ s => s.OpenAs e i :=
  Triple.casExecution (fun _ h _ => h) fun _ _ h _ _ => openAs_updateExecution hi hf h

theorem triple_openAs_of_executions {β : Type} {y : Tx β} (hy : Keeps Database.executions y) :
    Triple (fun s => s.OpenAs e i) y fun _ s => s.OpenAs e i := by
  intro s a t hs ht
  unfold OpenAs at *
  rwa [hy s a t ht]

end open_

theorem triple_openAs_acceptSnapshotTx {k : ExecutionId} {i : ExecutionIdentity} (e : ExecutionId) (t : TaskId)
    (snapshot : SnapshotId) (changeSet : ChangeSetId) :
    Triple (fun s => s.OpenAs k i) (acceptSnapshotTx e t snapshot changeSet) fun _ s => s.OpenAs k i :=
  (triple_openAs_casExecution (by intro _; rfl) (by intro _; rfl)).bind fun _ => Triple.guard <|
    (triple_openAs_of_executions (keeps_executions_casTask _ _ _)).bind fun _ => Triple.raiseIf_frame

theorem triple_openAs_bindCollectionTx {k : ExecutionId} {i : ExecutionIdentity} (e : ExecutionId) (t : TaskId)
    (acceptance : ScatterCollectionAcceptance) :
    Triple (fun s => s.OpenAs k i) (bindCollectionTx e t acceptance) fun _ s => s.OpenAs k i :=
  (triple_openAs_casExecution (by intro _; rfl) (by intro _; rfl)).bind fun _ => Triple.guard <|
    (triple_openAs_of_executions (keeps_executions_casTask _ _ _)).bind fun _ => Triple.raiseIf_frame

theorem current_bindCollectionTx (e : ExecutionId) (t : TaskId) (acceptance : ScatterCollectionAcceptance) :
    Triple (fun _ => True) (bindCollectionTx e t acceptance) fun _ s => ∃ h, s.headOf t = some h ∧ h.currentRoot = e := by
  refine (Triple.casExecution (Q := fun _ _ => True) (fun _ _ _ => trivial) fun _ _ _ _ _ => trivial).bind fun _ =>
    Triple.guard <| (Triple.casTask (Q := fun updated s => updated = true →
      ∃ h, s.headOf t = some h ∧ h.currentRoot = e) (fun s _ _ => by simp) fun s row _ hrow hc _ => ?_).bind
        fun updated => Triple.raiseIf fun s h hu => h (by simpa using hu)
  simp only [Bool.and_eq_true, beq_iff_eq] at hc
  exact ⟨_, headOf_of_get? (get?_updateTask_self hrow), hc.1.1⟩

/-- What a commit of an outcome keeps. -/
def Committing (p : ProcessId) (e : ExecutionId) (row : ExecutionRow) (s : Database) : Prop :=
  I.Sound [] s ∧ s.Accepting p e row ∧ s.Recalls e row

section committing

variable {p : ProcessId} {e : ExecutionId} {row : ExecutionRow}

theorem committing_write {β : Type} {y : Tx β} (hshape : Keeps shape y) (hprocesses : Keeps Database.processes y)
    (hbonds : Keeps bondOf y) (hopen : Triple (fun s => s.OpenAs e row.identity) y fun _ s => s.OpenAs e row.identity)
    (h : Triple (fun s => (s.Shaped none ∧ (I.during []).Holds none s) ∧ s.Accepting p e row) y
      fun _ => (I.during []).Holds none) :
    Triple (Committing I p e row) y fun _ => Committing I p e row := by
  intro s a t hs ht
  refine ⟨sound_write hshape h s a t ⟨hs.1, hs.2.1⟩ ht, ⟨?_, hopen s a t hs.2.1.2 ht⟩,
    hs.2.2.follows (.of_bonds (hbonds s a t ht))⟩
  rw [hprocesses s a t ht]
  exact hs.2.1.1

theorem committing_core {β : Type} {y : Tx β} (hy : Keeps Database.core y) :
    Triple (Committing I p e row) y fun _ => Committing I p e row :=
  committing_write I (ExecutionFrame.shape.of_core hy) (ExecutionFrame.processes.of_core hy)
    (ExecutionFrame.bonds.of_core hy) (triple_openAs_of_executions fun s a t ht => (core_eq_iff.1 (hy s a t ht)).2.1)
    fun s a t hs ht => (I.during []).core (hy s a t ht) hs.1.2

theorem committing_insertChildExecutionTx {root : ExecutionRow} (hid : root.identity = row.identity)
    (hroot : root.root = e) (acceptance : ScatterCollectionAcceptance) (member : ScatterMember) :
    Triple (fun s => Committing I p e row s ∧ s.Recalls e root) (insertChildExecutionTx now e root acceptance member)
      fun _ s => Committing I p e row s ∧ s.Recalls e root := by
  rintro s a t ⟨hs, hrecalls⟩ ht
  have holds := I.insertChild now p e row root acceptance member hid hroot s a t ⟨hs.1, hs.2.1, hrecalls⟩ ht
  have hi := OpenAs.identity hs.2.1.2
  have hrr : row.identity.root = e := by rw [← hid]; exact hroot
  have wf : WellFormed { s with executions := s.executions.insert (newScatterChild e root acceptance member) } :=
    wellFormed_insertChild hs.1.1.1 hi hrr rfl rfl (show root.identity.task = _ by rw [hid])
      (show root.identity.generation = _ by rw [hid])
  have core : t.core = ({ s with executions := s.executions.insert (newScatterChild e root acceptance member) } :
      Database).core := by
    obtain ⟨db, s', hget, ht⟩ := run_bind_ok.1 ht
    obtain ⟨rfl, rfl⟩ := run_get_ok.1 hget
    obtain ⟨_, s', hmodify, ht⟩ := run_bind_ok.1 ht
    obtain rfl := run_modify_ok.1 hmodify
    split at ht
    · exact keeps_core_enqueueTx _ _ _ _ _ _ _ ht
    · rw [(run_pure_ok.1 ht).2]
  obtain ⟨-, hexec, hproc, -⟩ := core_eq_iff.1 core
  obtain ⟨current, hcur, hrest⟩ := hs.2.1.2
  have old : t.executions.get? e = some current := by
    rw [hexec]
    simp [Table.get?_insert_of_lt (Table.lt_next hcur), hcur]
  have bond : t.bondOf e = s.bondOf e := by rw [bondOf_of_get? old, bondOf_of_get? hcur]
  refine ⟨⟨⟨⟨wf.of_shape (shape_of_core core), by simp⟩, holds⟩, ⟨by rw [hproc]; exact hs.2.1.1, current, old, hrest⟩,
    ?_⟩, ?_⟩ <;> unfold Recalls <;> rw [bond]
  · exact hs.2.2
  · exact hrecalls

theorem committing_acceptCollectionTx (acceptance : ScatterCollectionAcceptance) :
    Triple (Committing I p e row) (acceptCollectionTx d now e row.task acceptance)
      fun _ => Committing I p e row := by
  refine Triple.get_frame.bind fun _ => Triple.orRaise_frame.bind fun _ => Triple.guard <|
    Triple.guard <| Triple.guard <| Triple.ofExcept_frame.bind fun _ =>
      Triple.guard <| ?_
  have bound : Triple (fun s => Committing I p e row s ∧ True) (bindCollectionTx e row.task acceptance)
      fun _ s => Committing I p e row s ∧ ∃ h, s.headOf row.task = some h ∧ h.currentRoot = e :=
    (committing_write I (ExecutionFrame.shape.bindCollectionTx e row.task acceptance)
    (ExecutionFrame.processes.bindCollectionTx e row.task acceptance)
    (ExecutionFrame.bonds.bindCollectionTx e row.task acceptance)
    (triple_openAs_bindCollectionTx e row.task acceptance) (I.bindCollection p e row acceptance)).and
      (current_bindCollectionTx e row.task acceptance)
  refine Triple.bind (Triple.pre bound fun s h => ⟨h, trivial⟩) fun _ => Triple.get.bind fun db => ?_
  refine (Triple.orRaise (Q := fun root s => (root.identity = row.identity ∧ root.root = e) ∧
    Committing I p e row s ∧ s.Recalls e root) fun s root h hroot => ?_).bind fun root => Triple.intro fun hroot =>
      (Triple.forEach fun member _ => committing_insertChildExecutionTx I now hroot.1 hroot.2 acceptance member).post
        fun _ _ h => h.1
  obtain ⟨rfl, hcommit, head, hhead, hcurrent⟩ := h
  have hi := OpenAs.identity hcommit.2.1.2
  rw [identityOf_of_get? hroot] at hi
  obtain ⟨j, hj, hjr, -⟩ := hcommit.1.1.1.current _ head hhead
  rw [hcurrent, identityOf_of_get? hroot] at hj
  refine ⟨⟨Option.some.inj hi, ?_⟩, hcommit, .of_get? hroot⟩
  obtain rfl := Option.some.inj hj
  exact hjr.trans hcurrent

theorem committing_validateAndCommitTx (commit : OutcomeCommit) :
    Triple (Committing I p e row) (validateAndCommitTx d now e row commit) fun _ => Committing I p e row := by
  have wakes : Triple (Committing I p e row) (do
      forEach commit.constructions fun construction => enqueueTx now row.team
        (.vectorizeConstruct e row.task construction) (.vectorizeConstruct e row.task construction)
      forEach commit.lifecycleWakes (enqueueExecutionWakeTx now row.team)) fun _ => Committing I p e row :=
    (Triple.forEach fun _ _ => committing_core I (keeps_core_enqueueTx _ _ _ _)).bind fun _ =>
      Triple.forEach fun _ _ => committing_core I (keeps_core_enqueueTx _ _ _ _)
  refine (committing_core I (keeps_core_writeFactsTx _)).bind fun _ => ?_
  split
  · exact wakes
  · next snapshot changeSet _ =>
    exact (committing_write I (ExecutionFrame.shape.acceptSnapshotTx e row.task snapshot changeSet)
      (ExecutionFrame.processes.acceptSnapshotTx e row.task snapshot changeSet)
      (ExecutionFrame.bonds.acceptSnapshotTx e row.task snapshot changeSet)
      (triple_openAs_acceptSnapshotTx e row.task snapshot changeSet)
      (I.acceptSnapshot p e row snapshot changeSet)).bind fun _ => wakes
  · exact (committing_acceptCollectionTx I now _).bind fun _ => wakes

end committing

/-! ### the branches of an outcome -/

section outcome

variable {p : ProcessRecord} {e : ExecutionId} {row : ExecutionRow} (he : p.2.execution = e)
  (hrunning : p.2.status = .running) (ht : row.status.isTerminal = false) (hc : row.status ≠ .cancelling)

include he hrunning ht hc

/-- An outcome is accepted for a running Process of an open Execution, both read as they are. -/
def AcceptingAs (p : ProcessRecord) (e : ExecutionId) (row : ExecutionRow) (s : Database) : Prop :=
  I.Sound [] s ∧ s.processes.get? p.1 = some p.2 ∧ s.executions.get? e = some row

theorem AcceptingAs.committing {s : Database} (h : AcceptingAs I p e row s) : Committing I p.1 e row s :=
  ⟨h.1, ⟨⟨p.2, h.2.1, hrunning, he⟩, row, h.2.2, rfl, ht, hc⟩, .of_get? h.2.2⟩

omit ht in
theorem sound_failAndRoute_accepting {extra : OutcomeExtra} (errorCode failureDisposition : String)
    (acceptedOutcome : Option OutcomeContent) :
    Triple (AcceptingAs I p e row) (failAndRouteTx d now e row p errorCode failureDisposition acceptedOutcome extra)
      fun _ => I.Sound [] :=
  (sound_failAndRouteTx I now he.symm hc (Or.inr hrunning) _ _ _).pre fun s h =>
    ⟨h.1.pend h.2.1 (by rw [hrunning]; rfl), h.2.2⟩

theorem sound_acceptSuccessTx (outcome : ProcessOutcome) (task : TaskRow) (commit : Option OutcomeCommit) :
    Triple (AcceptingAs I p e row) (acceptSuccessTx d now e row p outcome task commit) fun _ => I.Sound [] := by
  refine Triple.ite (fun _ => sound_failAndRoute_accepting I now he hrunning hc _ _ _) fun hproof => ?_
  simp only [Bool.or_eq_true, Option.isNone_iff_eq_none, not_or, ← Option.isSome_iff_ne_none] at hproof
  have finish : Triple (Committing I p.1 e row) (succeedAndRouteTx d now e row p outcome) fun _ => I.Sound [] := by
    refine Triple.bind (Q := fun _ s => I.Sound [] s ∧ (s.identityOf e = some row.identity ∧ s.Recalls e row) ∧
      ∀ accepted plan context, s.processes.get? p.1 = some accepted → row.identity.Pins d plan →
        (I.during []).Holds (some ⟨e, row.identity, .route plan accepted.stepKey .succeeded (some (p.1, accepted))
          context true⟩) s) ?_ fun _ => ?_
    · intro s a t hs hx
      have keep := ProcessFrame.shape.succeedProcessTx now p.1 outcome s a t hx
      obtain ⟨hnone, henter⟩ := I.succeed now p.1 e row outcome hproof.1 hproof.2 s a t ⟨hs.1, hs.2.1⟩ hx
      refine ⟨⟨hs.1.1.of_shape keep, hnone⟩, ⟨?_, ?_⟩, henter⟩
      · rw [identityOf_eq keep]
        exact OpenAs.identity hs.2.1.2
      · exact hs.2.2.follows (.of_bonds (ProcessFrame.bonds.succeedProcessTx now p.1 outcome s a t hx))
    · refine (Triple.processWithExecution (Q := fun r s => EntersAfter I [] e row (p.1, r.1) .succeeded
        outcome.extra s) fun s process _ _ h hp _ _ => ?_).bind fun r => sound_routeAfterTerminalProcessTx I now _ _ _ _ _ _
      exact ⟨h.1.1, h.2.1.1, h.2.1.2, fun plan context hplan _ => h.2.2 process plan context hp hplan⟩
  refine Triple.pre (P := Committing I p.1 e row) ?_ fun s h => AcceptingAs.committing I he hrunning ht hc h
  split
  · exact finish
  · exact Triple.ofExcept_frame.bind fun _ => (committing_validateAndCommitTx I now _).bind fun _ => finish

theorem sound_acceptRetryableTx (outcome : ProcessOutcome) (jitter : Nat) :
    Triple (AcceptingAs I p e row) (acceptRetryableTx d now e row p outcome jitter) fun _ => I.Sound [] := by
  refine Triple.guard <| Triple.ite (fun hretry => ?_) fun _ =>
    sound_failAndRoute_accepting I now he hrunning hc _ _ _
  have written (due : Time) : Triple (AcceptingAs I p e row) (awaitRetryTx p.1 outcome due) fun _ s =>
      ∃ process, s.processes.get? p.1 = some process ∧ process.status = .retryWait ∧ process.execution = e := by
    refine (Triple.casProcess (Q := fun updated s => updated = true → ∃ process, s.processes.get? p.1 = some process ∧
      process.status = .retryWait ∧ process.execution = e) (fun s _ _ => by simp) fun s q h hq _ _ => ?_).bind fun u =>
        Triple.raiseIf fun s h hu => h (by simpa using hu)
    rw [h.2.1] at hq
    obtain rfl := Option.some.inj hq
    exact ⟨_, get?_updateProcess_self h.2.1, rfl, he⟩
  have awaited (due : Time) : Triple (AcceptingAs I p e row) (awaitRetryTx p.1 outcome due) fun _ s => I.Sound [] s ∧
      ∃ process, s.processes.get? p.1 = some process ∧ process.status = .retryWait ∧ process.execution = e :=
    ((sound_write (ProcessFrame.shape.awaitRetryTx p.1 outcome due) (I.awaitRetry p.1 e row outcome due)).and
      (written due)).pre fun s h => ⟨⟨h.1, (AcceptingAs.committing I he hrunning ht hc h).2.1, p.2, h.2.1, hretry⟩, h⟩
  exact (awaited _).bind fun _ => (sound_write (ExecutionFrame.shape.awaitRetryDueTx _ _ _) (I.awaitRetryDue p.1 e _)).bind
    fun _ => sound_core (keeps_core_enqueueTx _ _ _ _)

omit ht in
theorem sound_acceptFailureTx (outcome : ProcessOutcome) :
    Triple (AcceptingAs I p e row) (acceptFailureTx d now e row p outcome) fun _ => I.Sound [] :=
  Triple.guard <| sound_failAndRoute_accepting I now he hrunning hc _ _ _

end outcome

theorem sound_acceptOutcomeTx (outcome : ProcessOutcome) (commit : Option OutcomeCommit) (jitter : Nat) :
    Triple (I.Sound []) (acceptOutcomeTx d now outcome commit jitter) fun _ => I.Sound [] := by
  refine Triple.guard <| ?_
  refine (Triple.processWithExecution (Q := fun r s =>
    AcceptingAs I (outcome.process, r.1) r.1.execution r.2.1 s) fun s process row task h hp he _ =>
      ⟨h, hp, he⟩).bind fun r => Triple.ofExcept_frame.bind fun _ => ?_
  obtain ⟨process, row, task⟩ := r
  refine Triple.ite (fun _ => Triple.guard <| Triple.pure fun s h => h.1) fun _ => ?_
  refine (Triple.raiseIf (Q := fun _ s => process.status = .running ∧
    AcceptingAs I (outcome.process, process) process.execution row s) fun s h hc => ⟨by simpa using hc, h⟩).bind
      fun _ => Triple.intro fun hrunning => ?_
  refine (Triple.raiseIf (Q := fun _ s => row.status.isTerminal = false ∧
    AcceptingAs I (outcome.process, process) process.execution row s) fun s h hc => ⟨hc, h⟩).bind
      fun _ => Triple.intro fun ht => ?_
  refine (Triple.raiseIf (Q := fun _ s => row.status ≠ .cancelling ∧
    AcceptingAs I (outcome.process, process) process.execution row s) fun s h hc => ⟨by simpa using hc, h⟩).bind
      fun _ => Triple.intro fun hc => ?_
  have refresh : Triple (I.Sound []) (do refreshExecutionCountsTx process.execution; pure true) fun _ => I.Sound [] :=
    (sound_refresh _).bind fun _ => Triple.keep
  split
  · exact (sound_acceptSuccessTx I now rfl hrunning ht hc _ _ _).bind fun _ => refresh
  · exact (sound_acceptRetryableTx I now rfl hrunning ht hc _ _).bind fun _ => refresh
  · exact (sound_acceptFailureTx I now rfl hrunning hc _).bind fun _ => refresh
  · exact Triple.throw.bind fun _ => refresh

end workers

end KnowledgeBase
