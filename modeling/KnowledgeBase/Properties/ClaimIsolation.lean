import KnowledgeBase.Library.Commits
import KnowledgeBase.Invariant.Workers

/-!
# Claim isolation

A round of `claim_next` takes up one Process: the first ready one past its deadline, which it fails, or else the first
candidate, which it claims. An error of the claim is that of the Process a round takes up, whatever the plans of the
Executions of the others: `claimIsolation`.
-/

namespace KnowledgeBase

open Transaction Database

/-! ### the rounds of a claim -/

section rounds

variable (d : Deployment) (now : Time)

/-- A round takes the candidate up, with the waiting Processes admitted. -/
structure Considers (s t : Database) (p : ProcessRecord) (row : ExecutionRow) : Prop where
  unexpired : s.expiredReady d now = none
  admitted : (admitWaitingProcessesTx d now).run s = .ok ((), t)
  candidate : t.claimCandidate d now = some p
  execution : t.executions.get? p.2.execution = some row

/-- The candidate may be claimed under the plan of its Execution. -/
def Interprets (p : ProcessRecord) (row : ExecutionRow) : Prop :=
  ∃ plan, assertExecutionBinding d row = .ok plan ∧ assertProcessDeclared plan p.2 = .ok ()

/-- A round that fails a Process past its deadline. -/
inductive Expires : Database → Database → Prop
  | ready {s u : Database} {p : ProcessRecord} : s.expiredReady d now = some p →
      (failExpiredReadyTx d now p).run s = .ok ((), u) → Expires s u
  | candidate {s t u : Database} {p : ProcessRecord} {row : ExecutionRow} : Considers d now s t p row →
      Interprets d p row → p.2.deadlineAt.any (· < now) = true → (failExpiredReadyTx d now p).run t = .ok ((), u) → Expires s u

/-- So many rounds that fail Processes past their deadlines. -/
inductive Rounds : Nat → Database → Database → Prop
  | refl {s : Database} : Rounds 0 s s
  | next {n : Nat} {s t u : Database} : Rounds n s t → Expires d now t u → Rounds (n + 1) s u

/-- The Process a round takes up is at fault. -/
inductive Faulty (e : MkbError) (s : Database) : Prop
  | expired {p : ProcessRecord} {row : ExecutionRow} : s.expiredReady d now = some p →
      s.executions.get? p.2.execution = some row →
      (assertExecutionBinding d row = .error e ∨
        (∃ plan, assertExecutionBinding d row = .ok plan) ∧ (failExpiredReadyTx d now p).run s = .error e) → Faulty e s
  | unbound {t : Database} {p : ProcessRecord} {row : ExecutionRow} : Considers d now s t p row →
      assertExecutionBinding d row = .error e → Faulty e s
  | undeclared {t : Database} {p : ProcessRecord} {row : ExecutionRow} {plan : WorkflowDefinition} :
      Considers d now s t p row → assertExecutionBinding d row = .ok plan → assertProcessDeclared plan p.2 = .error e →
      Faulty e s
  | late {t : Database} {p : ProcessRecord} {row : ExecutionRow} : Considers d now s t p row → Interprets d p row →
      p.2.deadlineAt.any (· < now) = true → (failExpiredReadyTx d now p).run t = .error e → Faulty e s
  | incomplete {t : Database} {p : ProcessRecord} {row : ExecutionRow} {task : TaskRow} : Considers d now s t p row →
      Interprets d p row → p.2.deadlineAt.any (· < now) = false → t.tasks.get? p.2.task = some task →
      commandFromProcess p row task 0 0 = .error e → Faulty e s

/-- Every pool the Process could run in is closed to it. -/
def Database.NoRoom (s : Database) (p : ProcessRow) : Prop :=
  p.dispatchAdmitted = false ∨ ∃ pool, p.dispatchPool = some pool ∧ d.dispatchCaps.running pool ≤ s.poolRunning pool

/-- With the waiting Processes admitted, none that is due and may run has room in a pool. -/
def Idle (s : Database) : Prop :=
  s.expiredReady d now = none ∧ ∃ t, (admitWaitingProcessesTx d now).run s = .ok ((), t) ∧
    ∀ p r, t.processes.get? p = some r → r.status = .ready → r.availableAt ≤ now → t.dispatchable r = true →
      d.claimable r = true → t.NoRoom d r

end rounds

/-! ### admission raises nothing -/

section admission

variable (d : Deployment) (now : Time)

theorem commits_casProcess (p : ProcessId) (c : ProcessRow → Bool) (f : ProcessRow → ProcessRow) :
    Commits (casProcess p c f) := by
  refine Commits.get.bind fun db => ?_
  split
  · exact Commits.pure _
  · exact Commits.ite ((Commits.set _).bind fun _ => Commits.pure _) (Commits.pure _)

theorem commits_admitEmbedsTx (l : List ProcessRecord) : ∀ queued, Commits (admitEmbedsTx d now l queued) := by
  induction l with
  | nil => exact fun _ => Commits.pure _
  | cons r rs ih => exact fun _ => Commits.ite (Commits.pure _) ((commits_casProcess _ _ _).bind fun _ => ih _)

theorem commits_admitGeneratesTx (l : List ProcessRecord) : ∀ a b, Commits (admitGeneratesTx d now l a b) := by
  induction l with
  | nil => exact fun _ _ => Commits.pure _
  | cons r rs ih =>
    intro a b
    unfold admitGeneratesTx
    refine Commits.get.bind fun db => ?_
    split
    · exact ih _ _
    refine Commits.ite (ih _ _) ?_
    split
    · exact Commits.ite ((commits_casProcess _ _ _).bind fun _ => ih _ _) (ih _ _)
    · exact Commits.ite ((commits_casProcess _ _ _).bind fun _ => ih _ _) (ih _ _)
    · exact ih _ _

theorem commits_admitWaitingProcessesTx : Commits (admitWaitingProcessesTx d now) := by
  refine Commits.ite_bind (Commits.modify _) <| Commits.get.bind fun db => (Commits.forEach fun r => ?_).bind fun _ =>
    (commits_admitEmbedsTx d now _ _).bind fun _ => commits_admitGeneratesTx d now _ _ _
  exact (commits_casProcess _ _ _).bind fun _ => Commits.pure _

end admission

/-! ### reads that find their row -/

theorem run_execution {s : Database} {e : ExecutionId} {row : ExecutionRow} (h : s.executions.get? e = some row) :
    (execution e).run s = .ok (row, s) := by
  refine (run_bind_of_ok (x := get) rfl).trans ?_
  rw [h]
  rfl

theorem run_processWithExecution {s : Database} {p : ProcessId} {process : ProcessRow} {row : ExecutionRow}
    {task : TaskRow} (hp : s.processes.get? p = some process) (he : s.executions.get? process.execution = some row)
    (ht : s.tasks.get? process.task = some task) : (processWithExecution p).run s = .ok ((process, row, task), s) := by
  refine (run_bind_of_ok (x := get) rfl).trans ?_
  simp only [hp, he, ht]
  rfl

theorem exists_of_dispatchable {s : Database} {p : ProcessRow} (h : s.dispatchable p = true) :
    (∃ row, s.executions.get? p.execution = some row) ∧ ∃ task, s.tasks.get? p.task = some task := by
  simp only [dispatchable, Bool.and_eq_true, Option.any_eq_true] at h
  obtain ⟨⟨row, hrow, -⟩, task, htask, -⟩ := h
  exact ⟨⟨row, hrow⟩, task, htask⟩

/-! ### the claim of a candidate -/

section candidate

variable {d : Deployment} {now : Time} {s t : Database} {p : ProcessRecord} {row : ExecutionRow} {e : MkbError}

theorem commandFromProcess_error_iff {q : ProcessRecord} (h : q.2.processKey = p.2.processKey) {task : TaskRow}
    {token expires : Nat} :
    commandFromProcess q row task token expires = .error e ↔ commandFromProcess p row task 0 0 = .error e := by
  unfold commandFromProcess
  rw [h]
  dsimp only
  split
  · rfl
  split
  · rfl
  · simp

theorem due_of_claimCandidate (h : t.claimCandidate d now = some p) : p.2.availableAt ≤ now ∧ d.claimable p.2 = true := by
  have embed (h : t.embedCandidate d now = some p) : p.2.availableAt ≤ now ∧ d.claimable p.2 = true := by
    unfold embedCandidate at h
    split at h
    · obtain ⟨-, hc⟩ := Table.mem_select.1 (mem_sortRecords.1 (List.mem_of_head? h))
      simp only [Bool.and_eq_true, decide_eq_true_eq] at hc
      exact ⟨hc.1.1.1.1.2, hc.2⟩
    · cases h
  have other (h : t.otherCandidate d now = some p) : p.2.availableAt ≤ now ∧ d.claimable p.2 = true := by
    obtain ⟨-, hc⟩ := Table.mem_select.1 (mem_sortRecords.1 (List.mem_of_head? h))
    simp only [Bool.and_eq_true, decide_eq_true_eq] at hc
    exact ⟨hc.1.1.1.1.2, hc.2⟩
  rcases claimCandidate_cases now h with he | ho
  · exact embed he
  · exact other ho

theorem run_casProcess {k : ProcessId} {c : ProcessRow → Bool} {f : ProcessRow → ProcessRow} {process : ProcessRow}
    (hrow : s.processes.get? k = some process) (hc : c process = true) :
    (casProcess k c f).run s = .ok (true, s.updateProcess k f) := by
  unfold casProcess compareAndSet
  refine (run_bind_of_ok (x := get) rfl).trans ?_
  simp only [hrow, hc, if_true]
  rfl

theorem run_claimCandidateTx (h : Considers d now s t p row) {task : TaskRow} (htask : t.tasks.get? p.2.task = some task)
    (request : ClaimRequest) : ∃ process u, process.processKey = p.2.processKey ∧
      (claimCandidateTx now request p).run t = (ofExcept (commandFromProcess (p.1, process) row task request.token
        (now + request.leaseSeconds * 1000000)) >>= fun claimed => (pure (some claimed) : Tx _)).run u := by
  obtain ⟨hrow, hready, -⟩ := claimCandidate_spec now h.candidate
  obtain ⟨hdue, -⟩ := due_of_claimCandidate h.candidate
  let f : ProcessRow → ProcessRow := fun r => { r with
    status := .claimed
    claimToken := some request.token
    leaseOwner := some request.leaseOwner
    leaseExpiresAt := some (now + request.leaseSeconds * 1000000)
    fencingGeneration := r.fencingGeneration + 1
    deliveryCount := r.deliveryCount + 1
    rowRevision := r.rowRevision + 1 }
  have hcas : (casProcess p.1 (fun r => r.status == .ready && r.rowRevision == p.2.rowRevision && r.availableAt ≤ now)
      f).run t = .ok (true, t.updateProcess p.1 f) :=
    run_casProcess hrow (by simp [hready, hdue])
  have hread : (processWithExecution p.1).run (t.updateProcess p.1 f) = .ok ((f p.2, row, task), t.updateProcess p.1 f) :=
    run_processWithExecution (get?_updateProcess_self hrow) h.execution htask
  refine ⟨f p.2, t.updateProcess p.1 f, rfl, ?_⟩
  unfold claimCandidateTx
  refine (run_bind_of_ok hcas).trans ?_
  rw [if_pos rfl]
  exact run_bind_of_ok hread

end candidate

/-! ### one round -/

section round

variable {d : Deployment} {now : Time} {request : ClaimRequest} {s t u : Database} {p : ProcessRecord} {row : ExecutionRow}
  {e : MkbError} {n : Nat}

theorem run_claimLoopTx_of_expired (h : s.expiredReady d now = some p) :
    (claimLoopTx d now request (n + 1)).run s =
      (failExpiredReadyTx d now p >>= fun _ => claimLoopTx d now request n).run s := by
  rw [claimLoopTx]
  refine (run_bind_of_ok (x := get) rfl).trans ?_
  rw [h]

/-- What a round does with its candidate. -/
def considerTx (d : Deployment) (now : Time) (request : ClaimRequest) (n : Nat) (p : ProcessRecord) (row : ExecutionRow) :
    Tx (Option ClaimedProcess) := do
  let plan ← ofExcept (assertExecutionBinding d row)
  ofExcept (assertProcessDeclared plan p.2)
  if p.2.deadlineAt.any (· < now) then do
    failExpiredReadyTx d now p
    claimLoopTx d now request n
  else do
    match ← claimCandidateTx now request p with
    | some claimed => pure (some claimed)
    | none => claimLoopTx d now request n

theorem run_claimLoopTx_of_considers (h : Considers d now s t p row) :
    (claimLoopTx d now request (n + 1)).run s = (considerTx d now request n p row).run t := by
  rw [claimLoopTx]
  refine (run_bind_of_ok (x := get) rfl).trans ?_
  rw [h.unexpired]
  refine (run_bind_of_ok h.admitted).trans ((run_bind_of_ok (x := get) rfl).trans ?_)
  rw [h.candidate]
  exact run_bind_of_ok (run_execution h.execution)

theorem run_claimLoopTx_of_idle (hnone : s.expiredReady d now = none)
    (hadmitted : (admitWaitingProcessesTx d now).run s = .ok ((), t)) (hidle : t.claimCandidate d now = none) :
    (claimLoopTx d now request (n + 1)).run s = .ok (none, t) := by
  rw [claimLoopTx]
  refine (run_bind_of_ok (x := get) rfl).trans ?_
  rw [hnone]
  refine (run_bind_of_ok hadmitted).trans ((run_bind_of_ok (x := get) rfl).trans ?_)
  rw [hidle]
  rfl

/-- A candidate whose plan interprets it is failed if it is past its deadline, and claimed otherwise. -/
theorem run_considerTx_of_interprets (h : Interprets d p row) :
    (considerTx d now request n p row).run t = (if p.2.deadlineAt.any (· < now) then do
        failExpiredReadyTx d now p
        claimLoopTx d now request n
      else do
        match ← claimCandidateTx now request p with
        | some claimed => pure (some claimed)
        | none => claimLoopTx d now request n : Tx (Option ClaimedProcess)).run t := by
  obtain ⟨plan, hplan, hdeclared⟩ := h
  unfold considerTx
  exact (run_bind_of_ok (run_ofExcept_of_ok hplan)).trans (run_bind_of_ok (run_ofExcept_of_ok hdeclared))

theorem run_failExpiredReadyTx_of_unbound (hrow : s.executions.get? p.2.execution = some row)
    (h : assertExecutionBinding d row = .error e) : (failExpiredReadyTx d now p).run s = .error e :=
  (run_bind_of_ok (run_execution hrow)).trans (run_bind_of_error (run_ofExcept_of_error h))

theorem run_claimLoopTx_of_expires (h : Expires d now s t) :
    (claimLoopTx d now request (n + 1)).run s = (claimLoopTx d now request n).run t := by
  cases h with
  | ready hexpired hfail => exact (run_claimLoopTx_of_expired hexpired).trans (run_bind_of_ok hfail)
  | candidate hconsiders hinterprets hlate hfail =>
    rw [run_claimLoopTx_of_considers hconsiders, run_considerTx_of_interprets hinterprets, if_pos hlate]
    exact run_bind_of_ok hfail

theorem run_claimLoopTx_of_faulty (h : Faulty d now e s) : (claimLoopTx d now request (n + 1)).run s = .error e := by
  cases h with
  | expired hexpired hrow hfault =>
    rw [run_claimLoopTx_of_expired hexpired]
    refine run_bind_of_error ?_
    rcases hfault with hunbound | ⟨-, hfail⟩
    · exact run_failExpiredReadyTx_of_unbound hrow hunbound
    · exact hfail
  | unbound hconsiders hunbound =>
    rw [run_claimLoopTx_of_considers hconsiders]
    exact run_bind_of_error (run_ofExcept_of_error hunbound)
  | undeclared hconsiders hplan hundeclared =>
    rw [run_claimLoopTx_of_considers hconsiders]
    exact (run_bind_of_ok (run_ofExcept_of_ok hplan)).trans (run_bind_of_error (run_ofExcept_of_error hundeclared))
  | late hconsiders hinterprets hlate hfail =>
    rw [run_claimLoopTx_of_considers hconsiders, run_considerTx_of_interprets hinterprets, if_pos hlate]
    exact run_bind_of_error hfail
  | incomplete hconsiders hinterprets hlate htask hincomplete =>
    rw [run_claimLoopTx_of_considers hconsiders, run_considerTx_of_interprets hinterprets, if_neg (by simp [hlate])]
    obtain ⟨process, u, hkey, hrun⟩ := run_claimCandidateTx hconsiders htask request
    refine run_bind_of_error (hrun.trans (run_bind_of_error (run_ofExcept_of_error ?_)))
    exact (commandFromProcess_error_iff hkey).2 hincomplete

theorem noRoom_of_claimCandidate (h : t.claimCandidate d now = none) {k : ProcessId} {r : ProcessRow}
    (hrow : t.processes.get? k = some r) (hready : r.status = .ready) (hdue : r.availableAt ≤ now)
    (hdispatch : t.dispatchable r = true) (hclaimable : d.claimable r = true) : t.NoRoom d r := by
  have hnone : t.embedCandidate d now = none ∧ t.otherCandidate d now = none := by
    unfold Database.claimCandidate at h
    split at h
    · split at h <;> cases h
    · cases h
    · next he => exact ⟨he, h⟩
  obtain ⟨hembed, hother⟩ := hnone
  by_contra hroom
  unfold NoRoom at hroom
  push Not at hroom
  obtain ⟨hadmitted, hopen⟩ := hroom
  have hadmitted : r.dispatchAdmitted = true := by simpa using hadmitted
  have hnot {l : List ProcessRecord} {key : ProcessRecord → List Nat} (hl : (sortRecords key l).head? = none) :
      (k, r) ∉ l := by
    rw [List.head?_eq_none_iff] at hl
    intro hmem
    have hsorted : (k, r) ∈ sortRecords key l := mem_sortRecords.2 hmem
    rw [hl] at hsorted
    cases hsorted
  by_cases hpool : r.dispatchPool = some .embed
  · -- an embedding runs while its pool does
    have hcap : t.poolRunning .embed < d.dispatchCaps.embedRunning := hopen _ hpool
    unfold embedCandidate at hembed
    rw [if_pos hcap] at hembed
    refine hnot hembed (Table.mem_select.2 ⟨hrow, ?_⟩)
    simp [hready, hdue, hadmitted, hpool, hdispatch, hclaimable]
  · refine hnot hother (Table.mem_select.2 ⟨hrow, ?_⟩)
    cases hp : r.dispatchPool with
    | none => simp [hready, hdue, hadmitted, hdispatch, hclaimable]
    | some pool =>
      have hcap := hopen pool hp
      cases pool with
      | embed => exact absurd hp hpool
      | localInference =>
        simp only [DispatchCaps.running] at hcap
        simp [hready, hdue, hadmitted, hdispatch, hclaimable, hcap]
      | nonInteractive =>
        simp only [DispatchCaps.running] at hcap
        simp [hready, hdue, hadmitted, hdispatch, hclaimable, hcap]

/-- A round fails a Process past its deadline, raises the error of the Process it takes up, finds nothing to claim, or
claims its candidate. -/
theorem claimLoopTx_cases (d : Deployment) (now : Time) (request : ClaimRequest) (n : Nat) (s : Database) :
    (∃ t, Expires d now s t) ∨ (∃ e, Faulty d now e s) ∨
      (Idle d now s ∧ ∃ t, (claimLoopTx d now request (n + 1)).run s = .ok (none, t)) ∨
      ∃ claimed t, (claimLoopTx d now request (n + 1)).run s = .ok (some claimed, t) := by
  cases hexpired : s.expiredReady d now with
  | some p =>
    obtain ⟨-, -, hdispatch⟩ := expiredReady_spec now hexpired
    obtain ⟨⟨row, hrow⟩, -⟩ := exists_of_dispatchable hdispatch
    cases hbinding : assertExecutionBinding d row with
    | error e => exact .inr (.inl ⟨e, .expired hexpired hrow (.inl hbinding)⟩)
    | ok plan =>
      cases hfail : (failExpiredReadyTx d now p).run s with
      | ok r => exact .inl ⟨r.2, .ready hexpired hfail⟩
      | error e => exact .inr (.inl ⟨e, .expired hexpired hrow (.inr ⟨⟨plan, hbinding⟩, hfail⟩)⟩)
  | none =>
    obtain ⟨⟨⟩, t, hadmitted⟩ := commits_admitWaitingProcessesTx d now s
    cases hcandidate : t.claimCandidate d now with
    | none =>
      exact .inr (.inr (.inl ⟨⟨hexpired, t, hadmitted, fun _ _ => noRoom_of_claimCandidate hcandidate⟩, t,
        run_claimLoopTx_of_idle hexpired hadmitted hcandidate⟩))
    | some p =>
      obtain ⟨-, -, hdispatch⟩ := claimCandidate_spec now hcandidate
      obtain ⟨⟨row, hrow⟩, task, htask⟩ := exists_of_dispatchable hdispatch
      have hconsiders : Considers d now s t p row := ⟨hexpired, hadmitted, hcandidate, hrow⟩
      cases hbinding : assertExecutionBinding d row with
      | error e => exact .inr (.inl ⟨e, .unbound hconsiders hbinding⟩)
      | ok plan =>
      cases hdeclared : assertProcessDeclared plan p.2 with
      | error e => exact .inr (.inl ⟨e, .undeclared hconsiders hbinding hdeclared⟩)
      | ok _ =>
      have hinterprets : Interprets d p row := ⟨plan, hbinding, hdeclared⟩
      by_cases hlate : p.2.deadlineAt.any (· < now) = true
      · cases hfail : (failExpiredReadyTx d now p).run t with
        | ok r => exact .inl ⟨r.2, .candidate hconsiders hinterprets hlate hfail⟩
        | error e => exact .inr (.inl ⟨e, .late hconsiders hinterprets hlate hfail⟩)
      · obtain ⟨process, u, hkey, hrun⟩ := run_claimCandidateTx hconsiders htask request
        cases hcommand : commandFromProcess (p.1, process) row task request.token
          (now + request.leaseSeconds * 1000000) with
        | error e =>
          exact .inr (.inl ⟨e, .incomplete hconsiders hinterprets (by simpa using hlate) htask
            ((commandFromProcess_error_iff hkey).1 hcommand)⟩)
        | ok claimed =>
          refine .inr (.inr (.inr ⟨claimed, u, ?_⟩))
          rw [run_claimLoopTx_of_considers hconsiders, run_considerTx_of_interprets hinterprets, if_neg hlate]
          exact run_bind_of_ok (hrun.trans (run_bind_of_ok (run_ofExcept_of_ok hcommand)))

end round

/-! ### all rounds -/

section loop

variable {d : Deployment} {now : Time} {request : ClaimRequest} {s t : Database} {e : MkbError} {k n : Nat}

theorem run_claimLoopTx_of_rounds (h : Rounds d now k s t) (m : Nat) :
    (claimLoopTx d now request (k + m)).run s = (claimLoopTx d now request m).run t := by
  induction h generalizing m with
  | refl => rw [Nat.zero_add]
  | next hrounds hexpires ih =>
    rw [Nat.add_right_comm]
    exact (ih (m + 1)).trans (run_claimLoopTx_of_expires hexpires)

/-- The end of a claim within so many rounds. -/
inductive ClaimEnd (d : Deployment) (now : Time) (t : Database) :
    Except MkbError (Option ClaimedProcess × Database) → Prop
  | fault {e : MkbError} : Faulty d now e t → ClaimEnd d now t (.error e)
  | idle {u : Database} : Idle d now t → ClaimEnd d now t (.ok (none, u))
  | claim {claimed : ClaimedProcess} {u : Database} : ClaimEnd d now t (.ok (some claimed, u))

theorem claimLoopTx_ends (d : Deployment) (now : Time) (request : ClaimRequest) (n : Nat) (s : Database) :
    (∃ k < n, ∃ t, Rounds d now k s t ∧ ClaimEnd d now t ((claimLoopTx d now request n).run s)) ∨
      ∃ t, Rounds d now n s t ∧ (claimLoopTx d now request n).run s = .ok (none, t) := by
  have upto : ∀ j ≤ n, (∃ k < n, ∃ t, Rounds d now k s t ∧ ClaimEnd d now t ((claimLoopTx d now request n).run s)) ∨
      ∃ t, Rounds d now j s t := by
    intro j
    induction j with
    | zero => exact fun _ => .inr ⟨s, .refl⟩
    | succ j ih =>
      intro hj
      rcases ih (by omega) with hended | ⟨t, ht⟩
      · exact .inl hended
      obtain ⟨m, rfl⟩ : ∃ m, n = j + (m + 1) := ⟨n - (j + 1), by omega⟩
      have hrun : (claimLoopTx d now request (j + (m + 1))).run s = _ := run_claimLoopTx_of_rounds ht (m + 1)
      rcases claimLoopTx_cases d now request m t with ⟨u, hu⟩ | ⟨e, he⟩ | ⟨hidle, u, hu⟩ | ⟨claimed, u, hu⟩
      · exact .inr ⟨u, ht.next hu⟩
      · refine .inl ⟨j, by omega, t, ht, ?_⟩
        rw [hrun, run_claimLoopTx_of_faulty he]
        exact .fault he
      · refine .inl ⟨j, by omega, t, ht, ?_⟩
        rw [hrun, hu]
        exact .idle hidle
      · refine .inl ⟨j, by omega, t, ht, ?_⟩
        rw [hrun, hu]
        exact .claim
  rcases upto n le_rfl with hended | ⟨t, ht⟩
  · exact .inl hended
  · exact .inr ⟨t, ht, run_claimLoopTx_of_rounds ht 0⟩

theorem run_claimLoopTx_error_iff :
    (claimLoopTx d now request n).run s = .error e ↔ ∃ k < n, ∃ t, Rounds d now k s t ∧ Faulty d now e t := by
  constructor
  · intro h
    rcases claimLoopTx_ends d now request n s with ⟨k, hk, t, ht, hend⟩ | ⟨t, -, hrun⟩
    · rw [h] at hend
      cases hend with
      | fault hfault => exact ⟨k, hk, t, ht, hfault⟩
    · rw [h] at hrun
      cases hrun
  · rintro ⟨k, hk, t, ht, hfault⟩
    obtain ⟨m, rfl⟩ : ∃ m, n = k + (m + 1) := ⟨n - (k + 1), by omega⟩
    exact (run_claimLoopTx_of_rounds ht (m + 1)).trans (run_claimLoopTx_of_faulty hfault)

end loop

/-! ### `claim_next` -/

/-- The bounds on a claim request. -/
structure ClaimRequest.Valid (request : ClaimRequest) : Prop where
  named : request.leaseOwner.isEmpty = false
  bounded : request.leaseOwner.length ≤ 256
  lease : 1 ≤ request.leaseSeconds ∧ request.leaseSeconds ≤ 3600

section claim

variable {d : Deployment} {now : Time} {request : ClaimRequest} {s t : Database} {e : MkbError}

theorem run_claimNextTx (hrequest : request.Valid) : (claimNextTx d now request).run s =
    (if d.claimableProcessKeys == some [] then pure none else claimLoopTx d now request 64 : Tx _).run s := by
  obtain ⟨hnamed, hbounded, hlease⟩ := hrequest
  unfold claimNextTx
  rw [show (request.leaseOwner.isEmpty || decide (256 < request.leaseOwner.length)) = false by
    rw [hnamed, Bool.false_or, decide_eq_false_iff_not]
    omega]
  rw [show (decide (request.leaseSeconds < 1) || decide (3600 < request.leaseSeconds)) = false by
    rw [Bool.or_eq_false_iff, decide_eq_false_iff_not, decide_eq_false_iff_not]
    omega]
  rfl

theorem not_considers (hkeys : d.claimableProcessKeys = some []) : s.expiredReady d now = none ∧
    t.claimCandidate d now = none := by
  have hclaimable (r : ProcessRow) : d.claimable r ≠ true := by simp [Deployment.claimable, hkeys]
  constructor
  · refine Option.eq_none_iff_forall_ne_some.2 fun p hp => ?_
    obtain ⟨-, hc⟩ := Table.mem_select.1 (List.mem_of_head? hp)
    rw [Bool.and_eq_true] at hc
    exact hclaimable p.2 hc.2
  · exact Option.eq_none_iff_forall_ne_some.2 fun p hp => hclaimable p.2 (due_of_claimCandidate hp).2

theorem not_faulty (hkeys : d.claimableProcessKeys = some []) : ¬ Faulty d now e s := by
  intro h
  cases h with
  | expired hexpired => exact Option.some_ne_none _ (hexpired.symm.trans (not_considers (t := s) hkeys).1)
  | unbound hconsiders | undeclared hconsiders | late hconsiders | incomplete hconsiders =>
    exact Option.some_ne_none _ (hconsiders.candidate.symm.trans (not_considers (s := s) hkeys).2)

end claim

/-- A claim raises an error if and only if it is that of the Process one of its rounds takes up, and it returns nothing
only if no Process that is due and may run has room in a pool, or if its rounds are spent on Processes past their
deadlines. -/
theorem claimIsolation (d : Deployment) (now : Time) (request : ClaimRequest) (s : Database) (hrequest : request.Valid) :
    (∀ e, (claimNextTx d now request).run s = .error e ↔ ∃ k < 64, ∃ t, Rounds d now k s t ∧ Faulty d now e t) ∧
      ∀ t, (claimNextTx d now request).run s = .ok (none, t) →
        (∃ k < 64, ∃ u, Rounds d now k s u ∧ Idle d now u) ∨ ∃ u, Rounds d now 64 s u := by
  rw [run_claimNextTx hrequest]
  by_cases hkeys : d.claimableProcessKeys = some []
  · rw [if_pos (by rw [hkeys]; rfl)]
    have hexpired : s.expiredReady d now = none := (not_considers (t := s) hkeys).1
    obtain ⟨⟨⟩, u, hadmitted⟩ := commits_admitWaitingProcessesTx d now s
    refine ⟨fun e => ⟨fun h => ?_, ?_⟩, fun t _ => .inl ⟨0, by omega, s, .refl, hexpired, u, hadmitted, fun _ _ =>
      noRoom_of_claimCandidate (not_considers (s := s) hkeys).2⟩⟩
    · cases h
    · rintro ⟨-, -, t, -, hfault⟩
      exact (not_faulty hkeys hfault).elim
  · rw [if_neg (by simpa using hkeys)]
    refine ⟨fun e => run_claimLoopTx_error_iff, fun t h => ?_⟩
    rcases claimLoopTx_ends d now request 64 s with ⟨k, hk, u, hu, hend⟩ | ⟨u, hu, -⟩
    · rw [h] at hend
      cases hend with
      | idle hidle => exact .inl ⟨k, hk, u, hu, hidle⟩
    · exact .inr ⟨u, hu⟩

/-! ### a plan that is gone -/

/-- Two revisions of the workflow. -/
def twoRevisions : Deployment where
  plans := [(7, ⟨indexRebuildWorkflow, validateDefinition_indexRebuild⟩),
    (8, ⟨indexRebuildWorkflow, validateDefinition_indexRebuild⟩)]
  activeWorkflowKeys := ["index.rebuild"]
  revisions := [(1, ⟨7, "index.rebuild", .root, ["start", "rebuild", "done", "failed"]⟩),
    (2, ⟨8, "index.rebuild", .root, ["start", "rebuild", "done", "failed"]⟩)]

/-- The deployment after the second revision has lost its interpreter. -/
def oneRevision : Deployment :=
  { twoRevisions with plans := [(7, ⟨indexRebuildWorkflow, validateDefinition_indexRebuild⟩)] }

/-- A Task of the second revision, and one of the first, each with its Process ready. -/
def sampleTwoReady : Database := runFrom (systemStep twoRevisions) Database.empty
  [⟨1, .createTask { team := 0, requestIntent := .indexRebuild, workflowRevision := 2, compiledDigest := 8 }⟩,
    ⟨2, .createTask { team := 0, requestIntent := .indexRebuild, workflowRevision := 1, compiledDigest := 7 }⟩,
    ⟨3, .materializeRoot 0⟩, ⟨4, .materializeRoot 1⟩]

def sampleClaimRequest : ClaimRequest := { leaseOwner := "worker", token := 9 }

theorem valid_sampleClaimRequest : sampleClaimRequest.Valid := ⟨by decide, by decide, by decide⟩

/-- The error of an Execution whose plan is not loaded. -/
def planUnavailable : MkbError := ⟨"workflow-compiled-plan-unavailable",
  "No reviewed runtime plan is available for the execution's immutable workflow revision", 503⟩

theorem sampleTwoReady_raises : (claimNextTx oneRevision 5 sampleClaimRequest).run sampleTwoReady = .error planUnavailable := by
  have hraises : (match (claimNextTx oneRevision 5 sampleClaimRequest).run sampleTwoReady with
      | .error e => e == planUnavailable
      | .ok _ => false) = true := by decide +kernel
  split at hraises
  · next e he =>
    rw [he, beq_iff_eq.1 hraises]
  · cases hraises

/-- A round takes up a Process whose plan is gone. -/
theorem claimIsolation_planUnavailable :
    ∃ k < 64, ∃ t, Rounds oneRevision 5 k sampleTwoReady t ∧ Faulty oneRevision 5 planUnavailable t :=
  ((claimIsolation oneRevision 5 sampleClaimRequest sampleTwoReady valid_sampleClaimRequest).1 planUnavailable).1
    sampleTwoReady_raises

/-- The Process of the first revision is due, may run and is complete, and the claim raises the error of the other one. -/
theorem claimIsolation_blocked : ¬ ∀ (d : Deployment) (now : Time) (request : ClaimRequest) (s : Database)
    (p q : ProcessRecord) (row other : ExecutionRow) (task : TaskRow) (plan : WorkflowDefinition)
    (claimed : ClaimedProcess) (e : MkbError), request.Valid →
    s.processes.get? p.1 = some p.2 → p.2.status = .ready → p.2.availableAt ≤ now → p.2.deadlineAt = none →
    s.dispatchable p.2 = true → d.claimable p.2 = true → s.executions.get? p.2.execution = some row →
    assertExecutionBinding d row = .ok plan → assertProcessDeclared plan p.2 = .ok () →
    s.tasks.get? p.2.task = some task → commandFromProcess p row task 0 0 = .ok claimed →
    s.processes.get? q.1 = some q.2 → q.1 ≠ p.1 → s.executions.get? q.2.execution = some other →
    assertExecutionBinding d other = .error e → (claimNextTx d now request).run s ≠ .error e := by
  intro claim
  have ready : (sampleTwoReady.processes.get? 1).any (fun p => p.status == .ready && p.availableAt ≤ 5 &&
      p.deadlineAt == none && sampleTwoReady.dispatchable p && oneRevision.claimable p &&
      (sampleTwoReady.executions.get? p.execution).any fun row => (sampleTwoReady.tasks.get? p.task).any fun task =>
        (assertExecutionBinding oneRevision row).toOption.any (fun plan => (assertProcessDeclared plan p).isOk) &&
          (commandFromProcess (1, p) row task 0 0).isOk) = true := by decide +kernel
  have blocked : (sampleTwoReady.processes.get? 0).any (fun q => (sampleTwoReady.executions.get? q.execution).any
      fun row => match assertExecutionBinding oneRevision row with
        | .error e => e == planUnavailable
        | .ok _ => false) = true := by decide +kernel
  obtain ⟨p, hp, hready⟩ := (Option.any_eq_true _ _).1 ready
  obtain ⟨q, hq, hblocked⟩ := (Option.any_eq_true _ _).1 blocked
  obtain ⟨other, hother, hunbound⟩ := (Option.any_eq_true _ _).1 hblocked
  simp only [Bool.and_eq_true, beq_iff_eq, decide_eq_true_eq, Option.any_eq_true] at hready
  obtain ⟨⟨⟨⟨⟨hstatus, hdue⟩, hdeadline⟩, hdispatch⟩, hclaimable⟩, row, hrow, task, htask, ⟨plan, hplan, hdeclared⟩,
    hcommand⟩ := hready
  have hbinding : assertExecutionBinding oneRevision row = .ok plan := by
    cases h : assertExecutionBinding oneRevision row with
    | error e => simp [h, Except.toOption] at hplan
    | ok plan' =>
      rw [h] at hplan
      exact congrArg _ (Option.some.inj hplan)
  have hdeclared : assertProcessDeclared plan p = .ok () := by
    cases h : assertProcessDeclared plan p with
    | error e => simp [h, Except.isOk, Except.toBool] at hdeclared
    | ok _ => rfl
  obtain ⟨claimed, hclaimed⟩ : ∃ claimed, commandFromProcess (1, p) row task 0 0 = .ok claimed := by
    cases h : commandFromProcess (1, p) row task 0 0 with
    | error e => simp [h, Except.isOk, Except.toBool] at hcommand
    | ok claimed => exact ⟨claimed, rfl⟩
  have herror : assertExecutionBinding oneRevision other = .error planUnavailable := by
    split at hunbound
    · next e he => rw [he, beq_iff_eq.1 hunbound]
    · cases hunbound
  exact claim oneRevision 5 sampleClaimRequest sampleTwoReady (1, p) (0, q) row other task plan claimed planUnavailable
    valid_sampleClaimRequest hp hstatus hdue hdeadline hdispatch hclaimable hrow hbinding hdeclared htask hclaimed hq
    Nat.zero_ne_one hother herror sampleTwoReady_raises

end KnowledgeBase
