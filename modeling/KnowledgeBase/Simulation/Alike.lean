import KnowledgeBase.Engine.Gates
import KnowledgeBase.Library.Coupled
import KnowledgeBase.Library.RelatedTables

/-!
# Stores that differ in a resumption

Two runs that end the same wait of an Execution leave stores that differ in the texts of failures, in revisions,
in the outbox and in the decisions, and, until the Execution is moved, in whether it still waits for its review or
has been resumed from it. `Database.Alike` is that relation of stores: with `lag` naming the Execution that may lag
behind, and without a lag once its status is the same on both sides. Below are the writes it is kept by.
-/

namespace KnowledgeBase

open Transaction

/-! ### rows -/

/-- A Task without the texts of its failure. -/
def TaskRow.shared (row : TaskRow) : TaskRow := { row with errorCode := none, errorMessage := none }

theorem TaskRow.reads {γ : Type} {r r' : TaskRow} (h : r.shared = r'.shared) (f : TaskRow → γ)
    (hf : ∀ r : TaskRow, f r = f r.shared) : f r = f r' := by
  rw [hf r, hf r', h]

theorem TaskRow.shared_count {r r' : TaskRow} (h : r.shared = r'.shared) (c : TaskCounters) :
    { r with counters := c, rowRevision := r.rowRevision + 1 }.shared =
      { r' with counters := c, rowRevision := r'.rowRevision + 1 }.shared :=
  congrArg (fun x : TaskRow => { x with counters := c, rowRevision := x.rowRevision + 1 }) h

/-- An Execution without its status, its wait, its revision and the texts of its failure. -/
def ExecutionRow.shared (row : ExecutionRow) : ExecutionRow :=
  { row with
    status := .ready
    rowRevision := 0
    waitingReason := none
    waitingRef := none
    nextWakeAt := none
    finalErrorCode := none
    finalErrorMessage := none
    terminalSummary := none }

/-- The left row still waits for the review from which the right one has been resumed. -/
def ExecutionRow.Lags (r r' : ExecutionRow) : Prop :=
  r.status = .waiting ∧ r.waitingReason = some .humanReview ∧ r'.status = .ready

/-- The same wait, if there is one. -/
def ExecutionRow.SameWait (r r' : ExecutionRow) : Prop :=
  r.status = r'.status ∧ (r.status = .waiting → r.waitingReason = r'.waitingReason ∧ r.waitingRef = r'.waitingRef)

/-- Two rows of one Execution, the left one possibly lagging. -/
structure ExecutionRow.Alike (lag : Prop) (r r' : ExecutionRow) : Prop where
  shared : r.shared = r'.shared
  status : r.SameWait r' ∨ (lag ∧ r.Lags r')

namespace ExecutionRow.Alike

variable {lag lag' : Prop} {r r' : ExecutionRow}

theorem refl (r : ExecutionRow) : r.Alike lag r := ⟨rfl, Or.inl ⟨rfl, fun _ => ⟨rfl, rfl⟩⟩⟩

theorem imp (h : r.Alike lag r') (hlag : lag → lag') : r.Alike lag' r' :=
  ⟨h.shared, h.status.imp id fun hl => ⟨hlag hl.1, hl.2⟩⟩

theorem reads {γ : Type} (h : r.Alike lag r') (f : ExecutionRow → γ) (hf : ∀ r, f r = f r.shared) : f r = f r' := by
  rw [hf r, hf r', h.shared]

theorem withProcessCounters (h : r.Alike lag r') (c : ProcessCounters) :
    { r with processCounters := c }.Alike lag { r' with processCounters := c } :=
  ⟨congrArg (fun x : ExecutionRow => { x with processCounters := c }) h.shared, h.status⟩

theorem withChildCounters (h : r.Alike lag r') (c : ProcessCounters) :
    { r with childCounters := c }.Alike lag { r' with childCounters := c } :=
  ⟨congrArg (fun x : ExecutionRow => { x with childCounters := c }) h.shared, h.status⟩

theorem statusOf {γ : Type} (h : r.Alike lag r') {f : ExecutionStatus → γ} (hf : f .waiting = f .ready) :
    f r.status = f r'.status := by
  rcases h.status with ⟨hs, -⟩ | ⟨-, hw, -, hr⟩
  · rw [hs]
  · rw [hw, hr, hf]

theorem isTerminal (h : r.Alike lag r') : r.status.isTerminal = r'.status.isTerminal := h.statusOf rfl

theorem isCancelling (h : r.Alike lag r') : (r.status == .cancelling) = (r'.status == .cancelling) :=
  h.statusOf (f := fun st => st == .cancelling) rfl

theorem isOpen (h : r.Alike lag r') :
    (!r.status.isTerminal && r.status != .cancelling) = (!r'.status.isTerminal && r'.status != .cancelling) :=
  h.statusOf (f := fun st => !st.isTerminal && st != .cancelling) rfl

theorem settled (h : r.Alike lag r') (hw : r.status ≠ .waiting) : r.Alike lag' r' :=
  ⟨h.shared, Or.inl (h.status.resolve_right fun hl => hw hl.2.1)⟩

theorem waits (h : r.Alike lag r') (reason : WaitingReason) (hreason : reason ≠ .humanReview)
    (ref : Option WaitingRef → Bool) :
    (r.status == .waiting && r.waitingReason == some reason && ref r.waitingRef) =
      (r'.status == .waiting && r'.waitingReason == some reason && ref r'.waitingRef) := by
  rcases h.status with ⟨hs, hw⟩ | ⟨-, hw, hr, hs⟩
  · by_cases hwait : r.status = .waiting
    · obtain ⟨h1, h2⟩ := hw hwait
      rw [hs, h1, h2]
    · have hwait' : r'.status ≠ .waiting := fun h' => hwait (hs.trans h')
      rw [beq_eq_false_iff_ne.2 hwait, beq_eq_false_iff_ne.2 hwait']
      rfl
  · have hne : (some WaitingReason.humanReview == some reason) = false :=
      beq_eq_false_iff_ne.2 fun h' => hreason (Option.some.inj h').symm
    have hne' : (ExecutionStatus.ready == .waiting) = false := rfl
    rw [hr, hs, hne, hne', Bool.and_false]
    rfl

theorem write {q q' : ExecutionRow} (h : r.Alike lag r') (g : ExecutionRow → ExecutionRow)
    (hq : q.shared = g r.shared) (hq' : q'.shared = g r'.shared) (hs : q.status = q'.status)
    (hw : q.status ≠ .waiting) : q.Alike lag' q' :=
  ⟨by rw [hq, hq', h.shared], Or.inl ⟨hs, fun hwait => absurd hwait hw⟩⟩

end ExecutionRow.Alike

/-! ### stores -/

namespace Database

/-- The second store with the tables of the first in which the two may differ. -/
def overlay (s t : Database) : Database :=
  { t with tasks := s.tasks, executions := s.executions, outbox := s.outbox, decisions := s.decisions }

/-- Two stores alike but for the lag of one Execution, if one is given. -/
structure Alike (lag : Option ExecutionId) (s t : Database) : Prop where
  tasks : s.tasks.Related (fun _ r r' => r.shared = r'.shared) t.tasks
  executions : s.executions.Related (fun k r r' => r.Alike (lag = some k) r') t.executions
  rest : s.overlay t = s

variable {lag : Option ExecutionId} {s t : Database}

theorem Alike.processes (h : s.Alike lag t) : s.processes = t.processes := (congrArg Database.processes h.rest).symm

theorem Alike.gates (h : s.Alike lag t) : s.gates = t.gates := (congrArg Database.gates h.rest).symm

theorem Alike.selectedOutputs (h : s.Alike lag t) : s.selectedOutputs = t.selectedOutputs :=
  (congrArg Database.selectedOutputs h.rest).symm

theorem Alike.facts (h : s.Alike lag t) : s.facts = t.facts := (congrArg Database.facts h.rest).symm

theorem Alike.task (h : s.Alike lag t) (k : TaskId) :
    Option.Rel (fun r r' => r.shared = r'.shared) (s.tasks.get? k) (t.tasks.get? k) := h.tasks.get? k

theorem Alike.execution (h : s.Alike lag t) (e : ExecutionId) :
    Option.Rel (fun r r' => r.Alike (lag = some e) r') (s.executions.get? e) (t.executions.get? e) :=
  h.executions.get? e

theorem Alike.settle {e : ExecutionId} (h : s.Alike (some e) t)
    (he : ∀ r, s.executions.get? e = some r → r.status ≠ .waiting) : s.Alike none t := by
  refine ⟨h.tasks, h.executions.impOn fun k r r' hk hr => ?_, h.rest⟩
  by_cases hek : e = k
  · exact hr.settled (he r (hek ▸ hk))
  · exact hr.imp fun h' => absurd (Option.some.inj h') hek

theorem Alike.modify (h : s.Alike lag t) (f : Database → Database) (htasks : ∀ s, (f s).tasks = s.tasks)
    (hexecutions : ∀ s, (f s).executions = s.executions) (hf : ∀ s t, (f s).overlay (f t) = f (s.overlay t)) :
    (f s).Alike lag (f t) := by
  refine ⟨?_, ?_, ?_⟩
  · rw [htasks, htasks]
    exact h.tasks
  · rw [hexecutions, hexecutions]
    exact h.executions
  · rw [hf, h.rest]

theorem Alike.outbox (h : s.Alike lag t) (rows rows' : Table OutboxRow) :
    { s with outbox := rows }.Alike lag { t with outbox := rows' } :=
  ⟨h.tasks, h.executions, congrArg (fun db : Database => { db with outbox := rows }) h.rest⟩

end Database

/-- Two runs of one operation that return the same result and keep the stores alike. -/
abbrev Paired {α : Type} (lag : Option ExecutionId) (x y : Tx α) : Prop :=
  Coupled (Database.Alike lag) x y (Same (Database.Alike lag))

/-! ### conditional writes -/

section writes

variable {lag : Option ExecutionId}

theorem coupled_execution {P : Database → Database → Prop} (hP : ∀ s t, P s t → s.Alike lag t) (e : ExecutionId) :
    Coupled P (execution e) (execution e)
      fun r r' s t => r.Alike (lag = some e) r' ∧ s.executions.get? e = some r ∧ P s t := by
  refine Coupled.getBind fun a b hab => ?_
  have hrow := (hP a b hab).execution e
  generalize ha : a.executions.get? e = o at hrow
  generalize b.executions.get? e = o' at hrow
  cases hrow with
  | none => exact fun _ _ _ => trivial
  | some hr =>
    rintro s t ⟨hst, rfl, rfl⟩
    exact ⟨hr, ha, hst⟩

theorem coupled_executionSame (e : ExecutionId) :
    Coupled (Database.Alike lag) (execution e) (execution e)
      fun r r' s t => r.Alike (lag = some e) r' ∧ s.Alike lag t :=
  (coupled_execution (fun _ _ h => h) e).post fun _ _ _ _ h => ⟨h.1, h.2.2⟩

theorem coupled_casExecution {e : ExecutionId} {c c' : ExecutionRow → Bool} {f f' : ExecutionRow → ExecutionRow}
    (hc : ∀ r r', r.Alike (lag = some e) r' → c r = c' r')
    (hf : ∀ r r', r.Alike (lag = some e) r' → (f r).Alike (lag = some e) (f' r')) :
    Coupled (Database.Alike lag) (casExecution e c f) (casExecution e c' f') (Same (Database.Alike lag)) := by
  refine Coupled.getBind fun a b hab => ?_
  have hrow := hab.execution e
  generalize a.executions.get? e = o at hrow
  generalize b.executions.get? e = o' at hrow
  cases hrow with
  | none => exact fun s t hst => ⟨rfl, hst.1⟩
  | @some r r' hr =>
    refine Coupled.ite (by rw [hc r r' hr]) (fun _ => ?_) fun _ => fun s t hst => ⟨rfl, hst.1⟩
    rintro s t ⟨-, -, -⟩
    refine ⟨rfl, hab.tasks, hab.executions.modify e hf fun _ _ _ _ h => h, ?_⟩
    exact congrArg (fun db : Database => { db with executions := a.executions.modify e f }) hab.rest

/-- What is left of a lag once an Execution is moved. -/
def Settles (e : ExecutionId) (lag lag' : Option ExecutionId) : Prop := lag' = lag ∨ (lag = some e ∧ lag' = none)

theorem Settles.alike {e : ExecutionId} {lag lag' : Option ExecutionId} (h : Settles e lag lag') {s t : Database}
    (hst : s.Alike lag t) (he : ∀ r, s.executions.get? e = some r → r.status ≠ .waiting) : s.Alike lag' t := by
  rcases h with rfl | ⟨rfl, rfl⟩
  · exact hst
  · exact hst.settle he

theorem coupled_unlessClosed {e : ExecutionId} {lag' : Option ExecutionId} (hl : Settles e lag lag')
    {P : Database → Database → Prop} (hP : ∀ s t, P s t → s.Alike lag t) {r r' : ExecutionRow}
    (hr : r.Alike (lag = some e) r') {x y : Tx Bool} (h : Coupled P x y (Same (Database.Alike lag'))) :
    Coupled (fun s t => s.executions.get? e = some r ∧ P s t)
      (if r.status.isTerminal || r.status == .cancelling then pure false else x)
      (if r'.status.isTerminal || r'.status == .cancelling then pure false else y)
      (Same (Database.Alike lag')) := by
  refine Coupled.ite (by rw [hr.isTerminal, hr.isCancelling]) (fun hclosed => ?_) fun _ => h.pre fun _ _ hst => hst.2
  refine Coupled.pure fun s t hst => ⟨rfl, hl.alike (hP s t hst.2) fun q hq hwait => ?_⟩
  obtain rfl := Option.some.inj (hst.1.symm.trans hq)
  rw [hwait] at hclosed
  exact absurd hclosed (by decide)

theorem coupled_casExecution_move {e : ExecutionId} {lag' : Option ExecutionId} (hl : Settles e lag lag')
    {c c' : ExecutionRow → Bool} {f f' : ExecutionRow → ExecutionRow} (hc : ∀ r r', r.Alike True r' → c r = c' r')
    (hw : ∀ r : ExecutionRow, r.status = .waiting → c r = true)
    (hf : ∀ r r', r.Alike True r' → (f r).Alike False (f' r')) :
    Coupled (Database.Alike lag) (casExecution e c f) (casExecution e c' f') (Same (Database.Alike lag')) := by
  refine Coupled.getBind fun a b hab => ?_
  have hrow := hab.execution e
  generalize ha : a.executions.get? e = o at hrow
  generalize b.executions.get? e = o' at hrow
  cases hrow with
  | none =>
    rintro s t ⟨hst, rfl, rfl⟩
    exact ⟨rfl, hl.alike hst fun r hr => by simp [ha] at hr⟩
  | @some r r' hr =>
    refine Coupled.ite (by rw [hc r r' (hr.imp fun _ => trivial)]) (fun _ => ?_) fun hn => ?_
    · rintro s t ⟨-, -, -⟩
      refine ⟨rfl, hab.tasks, hab.executions.modify e (fun q q' hq => ?_) fun k q q' hk hq => ?_, ?_⟩
      · exact (hf q q' (hq.imp fun _ => trivial)).imp False.elim
      · rcases hl with rfl | ⟨rfl, rfl⟩
        · exact hq
        · exact hq.imp fun h => absurd (Option.some.inj h).symm hk
      · exact congrArg (fun db : Database => { db with executions := a.executions.modify e f }) hab.rest
    · rintro s t ⟨hst, rfl, rfl⟩
      refine ⟨rfl, hl.alike hst fun q hq hwait => ?_⟩
      rw [ha] at hq
      obtain rfl := Option.some.inj hq
      exact hn (hw _ hwait)

theorem coupled_casTask {k : TaskId} {c c' : TaskRow → Bool} {f f' : TaskRow → TaskRow}
    (hc : ∀ r r' : TaskRow, r.shared = r'.shared → c r = c' r')
    (hf : ∀ r r' : TaskRow, r.shared = r'.shared → (f r).shared = (f' r').shared) :
    Coupled (Database.Alike lag) (casTask k c f) (casTask k c' f') (Same (Database.Alike lag)) := by
  refine Coupled.getBind fun a b hab => ?_
  have hrow := hab.task k
  generalize a.tasks.get? k = o at hrow
  generalize b.tasks.get? k = o' at hrow
  cases hrow with
  | none => exact fun s t hst => ⟨rfl, hst.1⟩
  | @some r r' hr =>
    refine Coupled.ite (by rw [hc r r' hr]) (fun _ => ?_) fun _ => fun s t hst => ⟨rfl, hst.1⟩
    rintro s t ⟨-, -, -⟩
    refine ⟨rfl, hab.tasks.modify k hf fun _ _ _ _ h => h, hab.executions, ?_⟩
    exact congrArg (fun db : Database => { db with tasks := a.tasks.modify k f }) hab.rest

theorem coupled_updateExecution {e : ExecutionId} {f f' : Database → ExecutionRow → ExecutionRow}
    (hf : ∀ s t : Database, s.Alike lag t → ∀ r r', r.Alike (lag = some e) r' →
      (f s r).Alike (lag = some e) (f' t r')) :
    Coupled (Database.Alike lag) (modify fun db => db.updateExecution e (f db) : Tx PUnit)
      (modify fun db => db.updateExecution e (f' db) : Tx PUnit) (Same (Database.Alike lag)) := by
  refine Coupled.modify fun s t hst => ⟨hst.tasks, hst.executions.modify e (hf s t hst) fun _ _ _ _ h => h, ?_⟩
  exact congrArg (fun db : Database => { db with executions := s.executions.modify e (f s) }) hst.rest

theorem coupled_enqueueTx (now now' : Time) (team team' : TeamId) (payload payload' : OutboxPayload)
    (key key' : DedupeKey) :
    Coupled (Database.Alike lag) (enqueueTx now team payload key) (enqueueTx now' team' payload' key')
      (Same (Database.Alike lag)) := by
  refine Coupled.modify fun s t hst => ?_
  split
  · split
    · exact hst
    · exact hst.outbox s.outbox _
  · split
    · exact hst.outbox _ t.outbox
    · exact hst.outbox _ _

end writes

end KnowledgeBase
