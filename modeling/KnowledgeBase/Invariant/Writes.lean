import KnowledgeBase.Engine.System

/-!
# Writes

What the elementary transactions do to the tables: the conditional writes, the reads, the outbox insert and the
Task projection, each as a rule for triples. The proofs about operations use these rules and never unfold them.
-/

namespace KnowledgeBase

open Transaction

/-! ### updated rows -/

namespace Database

section updates

variable {s : Database} {k j : Nat}

theorem get?_updateTask_self {f : TaskRow → TaskRow} {row : TaskRow} (h : s.tasks.get? k = some row) :
    (s.updateTask k f).tasks.get? k = some (f row) := by
  simp [updateTask, h]

theorem get?_updateTask {f : TaskRow → TaskRow} {row : TaskRow} (h : (s.updateTask k f).tasks.get? j = some row) :
    ∃ q, s.tasks.get? j = some q ∧ row = if j = k then f q else q := by
  obtain ⟨q, hq, hr⟩ := Table.get?_update_eq_some h
  exact ⟨q, hq, by simpa using hr⟩

theorem get?_updateExecution_self {f : ExecutionRow → ExecutionRow} {row : ExecutionRow}
    (h : s.executions.get? k = some row) : (s.updateExecution k f).executions.get? k = some (f row) := by
  simp [updateExecution, h]

theorem get?_updateProcess_self {f : ProcessRow → ProcessRow} {row : ProcessRow}
    (h : s.processes.get? k = some row) : (s.updateProcess k f).processes.get? k = some (f row) := by
  simp [updateProcess, h]

theorem get?_updateProcess {f : ProcessRow → ProcessRow} {row : ProcessRow}
    (h : (s.updateProcess k f).processes.get? j = some row) :
    ∃ q, s.processes.get? j = some q ∧ row = if j = k then f q else q := by
  obtain ⟨q, hq, hr⟩ := Table.get?_update_eq_some h
  exact ⟨q, hq, by simpa using hr⟩

end updates

end Database

/-! ### conditional writes -/

theorem compareAndSet_ok {ρ : Type} {table : Database → Table ρ} {put : Table ρ → Database → Database} {k : Nat}
    {c : ρ → Bool} {f : ρ → ρ} {s t : Database} {b : Bool}
    (h : (compareAndSet table put k c f).run s = .ok (b, t)) :
    (b = false ∧ t = s ∧ ∀ row, (table s).get? k = some row → c row = false) ∨
      (b = true ∧ t = put ((table s).modify k f) s ∧ ∃ row, (table s).get? k = some row ∧ c row = true) := by
  unfold compareAndSet at h
  obtain ⟨db, s', hget, h⟩ := run_bind_ok.1 h
  obtain ⟨rfl, rfl⟩ := run_get_ok.1 hget
  cases hk : (table s).get? k with
  | none =>
    simp only [hk] at h
    obtain ⟨rfl, rfl⟩ := run_pure_ok.1 h
    exact Or.inl ⟨rfl, rfl, by simp⟩
  | some row =>
    simp only [hk] at h
    by_cases hc : c row = true
    · rw [if_pos hc] at h
      obtain ⟨_, s', hset, h⟩ := run_bind_ok.1 h
      obtain rfl := run_set_ok.1 hset
      obtain ⟨rfl, rfl⟩ := run_pure_ok.1 h
      exact Or.inr ⟨rfl, rfl, row, rfl, hc⟩
    · rw [if_neg hc] at h
      obtain ⟨rfl, rfl⟩ := run_pure_ok.1 h
      refine Or.inl ⟨rfl, rfl, fun q hq => ?_⟩
      obtain rfl := Option.some.inj hq
      simpa using hc

theorem keeps_compareAndSet {ρ γ : Type} {table : Database → Table ρ} {put : Table ρ → Database → Database} {k : Nat}
    {c : ρ → Bool} {f : ρ → ρ} {g : Database → γ} (h : ∀ s, g (put ((table s).modify k f) s) = g s) :
    Keeps g (compareAndSet table put k c f) := by
  intro s b t hx
  rcases compareAndSet_ok hx with ⟨-, rfl, -⟩ | ⟨-, rfl, -⟩
  · rfl
  · exact h s

section cas

variable {P : Database → Prop} {Q : Bool → Database → Prop}

theorem Triple.casTask {k : TaskId} {c : TaskRow → Bool} {f : TaskRow → TaskRow}
    (miss : ∀ s, P s → (∀ row, s.tasks.get? k = some row → c row = false) → Q false s)
    (write : ∀ s row, P s → s.tasks.get? k = some row → c row = true → Q true (s.updateTask k f)) :
    Triple P (casTask k c f) Q := by
  intro s b t hs h
  rcases compareAndSet_ok h with ⟨rfl, rfl, hc⟩ | ⟨rfl, rfl, row, hrow, hc⟩
  · exact miss t hs hc
  · exact write s row hs hrow hc

theorem Triple.casExecution {k : ExecutionId} {c : ExecutionRow → Bool} {f : ExecutionRow → ExecutionRow}
    (miss : ∀ s, P s → (∀ row, s.executions.get? k = some row → c row = false) → Q false s)
    (write : ∀ s row, P s → s.executions.get? k = some row → c row = true → Q true (s.updateExecution k f)) :
    Triple P (casExecution k c f) Q := by
  intro s b t hs h
  rcases compareAndSet_ok h with ⟨rfl, rfl, hc⟩ | ⟨rfl, rfl, row, hrow, hc⟩
  · exact miss t hs hc
  · exact write s row hs hrow hc

theorem Triple.casProcess {k : ProcessId} {c : ProcessRow → Bool} {f : ProcessRow → ProcessRow}
    (miss : ∀ s, P s → (∀ row, s.processes.get? k = some row → c row = false) → Q false s)
    (write : ∀ s row, P s → s.processes.get? k = some row → c row = true → Q true (s.updateProcess k f)) :
    Triple P (casProcess k c f) Q := by
  intro s b t hs h
  rcases compareAndSet_ok h with ⟨rfl, rfl, hc⟩ | ⟨rfl, rfl, row, hrow, hc⟩
  · exact miss t hs hc
  · exact write s row hs hrow hc

end cas

/-! ### reads -/

section reads

variable {P : Database → Prop}

theorem Triple.execution {e : ExecutionId} {Q : ExecutionRow → Database → Prop}
    (h : ∀ s row, P s → s.executions.get? e = some row → Q row s) : Triple P (execution e) Q := by
  refine Triple.start fun s hs => Triple.bind Triple.get fun db => ?_
  rintro s' row t ⟨rfl, rfl⟩ hx
  obtain ⟨hrow, rfl⟩ := run_orRaise_ok.1 hx
  exact h _ row hs hrow

theorem Triple.processWithExecution {p : ProcessId} {Q : ProcessRow × ExecutionRow × TaskRow → Database → Prop}
    (h : ∀ s process row task, P s → s.processes.get? p = some process →
      s.executions.get? process.execution = some row → s.tasks.get? process.task = some task →
      Q (process, row, task) s) :
    Triple P (processWithExecution p) Q := by
  refine Triple.start fun s hs => Triple.bind Triple.get fun db => ?_
  rintro s' r t ⟨rfl, rfl⟩ hx
  cases hp : db.processes.get? p with
  | none => simp only [hp] at hx; exact (run_throw_ok.1 hx).elim
  | some process =>
    simp only [hp] at hx
    split at hx
    · next row task hrow htask =>
      obtain ⟨rfl, rfl⟩ := run_pure_ok.1 hx
      exact h _ process row task hs hp hrow htask
    · exact (run_throw_ok.1 hx).elim

end reads

/-! ### the tables invariants are about -/

/-- The tables the invariants of the engine are about. -/
def Database.core (s : Database) : Table TaskRow × Table ExecutionRow × Table ProcessRow × Table GateRow :=
  (s.tasks, s.executions, s.processes, s.gates)

theorem Database.core_eq_iff {s t : Database} : s.core = t.core ↔
    s.tasks = t.tasks ∧ s.executions = t.executions ∧ s.processes = t.processes ∧ s.gates = t.gates := by
  simp [Database.core]

theorem keeps_core_enqueueTx (now : Time) (team : TeamId) (payload : OutboxPayload) (key : DedupeKey) :
    Keeps Database.core (enqueueTx now team payload key) :=
  Keeps.modify fun s => by split <;> rfl

theorem keeps_writeFactsTx_of_frame {γ : Type} {f : Database → γ} (hf : ∀ s facts, f { s with facts := facts } = f s)
    (write : IntakeFacts → Except MkbError IntakeFacts) : Keeps f (writeFactsTx write) := by
  intro s a t h
  obtain ⟨db, s', hget, h⟩ := run_bind_ok.1 h
  obtain ⟨rfl, rfl⟩ := run_get_ok.1 hget
  obtain ⟨facts, s', hfacts, h⟩ := run_bind_ok.1 h
  obtain ⟨-, rfl⟩ := run_ofExcept_ok.1 hfacts
  rw [← run_set_ok.1 h]
  exact hf _ facts

theorem keeps_core_writeFactsTx (write : IntakeFacts → Except MkbError IntakeFacts) :
    Keeps Database.core (writeFactsTx write) :=
  keeps_writeFactsTx_of_frame (fun _ _ => rfl) write

theorem keeps_core_casOutbox (k : OutboxId) (c : OutboxRow → Bool) (f : OutboxRow → OutboxRow) :
    Keeps Database.core (casOutbox k c f) :=
  keeps_compareAndSet fun _ => rfl

theorem keeps_core_recordSelectedOutputTx (selection : SelectedOutputRow) :
    Keeps Database.core (recordSelectedOutputTx selection) :=
  Keeps.modify fun s => by split <;> rfl

/-! ### the Task projection -/

/-- The projection applies to the row: its generation and its root are the current ones. -/
def TaskProjection.appliesTo (p : TaskProjection) (row : TaskRow) : Bool :=
  p.expectedGeneration.all (· == row.currentGeneration) && p.currentRoot.all (· == row.currentRoot)

/-- A projection writes its Task if it applies and its target may be reached, and otherwise changes nothing. -/
theorem projectTaskStatusTx_ok {now : Time} {k : TaskId} {p : TaskProjection} {s t : Database} {b : Bool}
    (h : (projectTaskStatusTx now k p).run s = .ok (b, t)) :
    (t = s ∧ b = false ∧ ∀ row, s.tasks.get? k = some row → p.appliesTo row = true →
        row.status.mayBecome p.target = false) ∨
      (t = s.updateTask k (TaskRow.project now p) ∧ b = true ∧ ∃ row, s.tasks.get? k = some row ∧
        p.appliesTo row = true ∧ row.status.mayBecome p.target = true) := by
  unfold projectTaskStatusTx at h
  obtain ⟨db, s', hget, h⟩ := run_bind_ok.1 h
  obtain ⟨rfl, rfl⟩ := run_get_ok.1 hget
  cases hk : s.tasks.get? k with
  | none =>
    simp only [hk] at h
    obtain ⟨rfl, rfl⟩ := run_pure_ok.1 h
    exact Or.inl ⟨rfl, rfl, by simp⟩
  | some row =>
    simp only [hk] at h
    have unchanged : (p.appliesTo row = true → row.status.mayBecome p.target = false) → b = false → t = s →
        t = s ∧ b = false ∧ ∀ r, some row = some r → p.appliesTo r = true → r.status.mayBecome p.target = false := by
      rintro hm rfl rfl
      refine ⟨rfl, rfl, fun r hr => ?_⟩
      obtain rfl := Option.some.inj hr
      exact hm
    split at h
    · next hg =>
      obtain ⟨rfl, rfl⟩ := run_pure_ok.1 h
      refine Or.inl (unchanged (fun ha => ?_) rfl rfl)
      obtain ⟨g, hg, hne⟩ := Option.any_eq_true _ _ |>.1 hg
      simp [TaskProjection.appliesTo, hg] at ha
      simp [ha.1] at hne
    · split at h
      · next hr =>
        obtain ⟨rfl, rfl⟩ := run_pure_ok.1 h
        refine Or.inl (unchanged (fun ha => ?_) rfl rfl)
        obtain ⟨r, hr, hne⟩ := Option.any_eq_true _ _ |>.1 hr
        simp [TaskProjection.appliesTo, hr] at ha
        simp [ha.2] at hne
      · next hg hr =>
        obtain ⟨_, s', hraise, h⟩ := run_bind_ok.1 h
        obtain ⟨-, rfl⟩ := run_raiseIf_ok.1 hraise
        split at h
        · next hm =>
          rcases compareAndSet_ok h with ⟨-, -, hc⟩ | ⟨rfl, rfl, row', hrow', -⟩
          · exact absurd (hc row hk) (by simp)
          · refine Or.inr ⟨rfl, rfl, row, rfl, ?_, hm⟩
            simp only [TaskProjection.appliesTo, Bool.and_eq_true, Option.all_eq_true, beq_iff_eq]
            simp only [Option.any_eq_true, bne_iff_ne, ne_eq, not_exists, not_and, not_not] at hg hr
            exact ⟨hg, hr⟩
        · next hm =>
          obtain ⟨rfl, rfl⟩ := run_pure_ok.1 h
          exact Or.inl (unchanged (fun _ => by simpa using hm) rfl rfl)

/-! ### the progress counters -/

/-- A write of the counters of an Execution. -/
def RecountsExecution (f : ExecutionRow → ExecutionRow) : Prop :=
  ∀ row, ∃ p c, f row = { row with processCounters := p, childCounters := c }

/-- A write of the counters of a Task. -/
def RecountsTask (f : TaskRow → TaskRow) : Prop :=
  ∀ row, ∃ c, f row = { row with counters := c, rowRevision := row.rowRevision + 1 }

theorem Triple.refreshExecutionCountsTx {P : Database → Prop} {e : ExecutionId}
    (hexec : ∀ s k f, RecountsExecution f → P s → P (s.updateExecution k f))
    (htask : ∀ s k f, RecountsTask f → P s → P (s.updateTask k f)) :
    Triple P (KnowledgeBase.refreshExecutionCountsTx e) fun _ => P := by
  have task (k : TaskId) (c : TaskRow → Bool) (f : TaskRow → TaskRow) (hf : RecountsTask f) :
      Triple P (do let _ ← KnowledgeBase.casTask k c f; pure ()) fun _ => P :=
    (Triple.casTask (Q := fun _ => P) (fun _ h _ => h) fun s _ h _ _ => htask s k f hf h).bind fun _ =>
      Triple.keep
  refine (Triple.modify (Q := fun _ => P) fun s h => hexec s e _ (fun row => ⟨_, row.childCounters, rfl⟩) h).bind
    fun _ => Triple.get_frame.bind fun db => Triple.orRaise_frame.bind fun row => ?_
  split
  · refine Triple.get_frame.bind fun _ => (Triple.modify (Q := fun _ => P)
      fun s h => hexec s row.root _ (fun r => ⟨r.processCounters, _, rfl⟩) h).bind fun _ => ?_
    exact task _ _ _ fun _ => ⟨_, rfl⟩
  · exact task _ _ _ fun _ => ⟨_, rfl⟩

end KnowledgeBase
