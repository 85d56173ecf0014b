import KnowledgeBase.Invariant.Shape

/-!
# Invariants of the terminal transitions

An invariant is given with what it says of the Execution a transaction is in the middle of moving: a `Transit`.
`TerminalInvariant` lists what has to be shown of each write that closes or cancels an Execution; the theorems of
the next module carry it through cancellation trees, integrity failures, terminal routes and the collect-all join,
with all the notifications nested in them.
-/

namespace KnowledgeBase

open Transaction

/-! ### transits -/

/-- What an Execution is being moved for. -/
inductive TransitPhase
  /-- Routed from a step of its plan under a selector; `ended` tells whether a Process has ended for it. -/
  | route (plan : WorkflowDefinition) (step : String) (selector : WorkflowOutcomeSelector)
      (source : Option ProcessRecord) (context : RouteContext) (ended : Bool)
  /-- Closed by its collect-all join. -/
  | join
  /-- Failed for an integrity error. -/
  | broken

/-- An Execution a transaction is moving. -/
structure Transit where
  execution : ExecutionId
  identity : ExecutionIdentity
  phase : TransitPhase

/-- A route of the plan leads from the step to the target under the selector. -/
def WorkflowDefinition.Leads (plan : WorkflowDefinition) (step : String) (selector : WorkflowOutcomeSelector)
    (target : WorkflowStepDefinition) : Prop :=
  target ∈ plan.steps ∧ ∃ route ∈ plan.routes, route.fromStepKey = step ∧ route.outcomeSelector = selector ∧
    route.toStepKey = target.stepKey

/-- The terminal routes a transit may end in. -/
def Transit.Allows (tr : Transit) (r : TerminalRoute) : Prop :=
  match tr.phase with
  | .route plan step selector source context _ =>
    r.source = source ∧ (r.disposition.isSome → context.operationMode = some .indexRebuildNoop) ∧
      ∃ target, plan.Leads step selector target ∧ target.stepKind = .terminal ∧ target.terminalKind = some r.kind
  | .join => r.kind = .success ∨ r.kind = .failure
  | .broken => False

namespace Database

/-- An Execution whose status satisfies a predicate. -/
def HasStatus (s : Database) (P : ExecutionStatus → Prop) (e : ExecutionId) : Prop :=
  ∃ row, s.executions.get? e = some row ∧ P row.status

/-- An Execution in a terminal status. -/
def Closed (s : Database) (e : ExecutionId) : Prop := s.HasStatus (·.isTerminal = true) e

/-- An Execution in a terminal status or on its way to one by cancellation. -/
def Halted (s : Database) (e : ExecutionId) : Prop := s.HasStatus (fun st => st.isTerminal = true ∨ st = .cancelling) e

/-- A well-formed database that knows the Execution in transit by its coordinates. -/
def Shaped (o : Option Transit) (s : Database) : Prop :=
  s.WellFormed ∧ ∀ tr ∈ o, s.identityOf tr.execution = some tr.identity

theorem Shaped.of_shape {o : Option Transit} {s t : Database} (h : t.shape = s.shape) (hs : s.Shaped o) :
    t.Shaped o :=
  ⟨hs.1.of_shape h, fun tr htr => (identityOf_eq h _).trans (hs.2 tr htr)⟩

theorem Shaped.none {o : Option Transit} {s : Database} (hs : s.Shaped o) : s.Shaped none := ⟨hs.1, by simp⟩

theorem Shaped.some {s : Database} {tr : Transit} (h : s.WellFormed)
    (hi : s.identityOf tr.execution = some tr.identity) : s.Shaped (some tr) :=
  ⟨h, by simpa using hi⟩

end Database

open Database

/-! ### the interface -/

/-- An invariant of the writes that cancel and close Executions. -/
structure TerminalInvariant where
  /-- The invariant, while an Execution may be in transit. -/
  Holds : Option Transit → Database → Prop
  /-- What licenses the cancellation of a tree with its root. -/
  Stop : ExecutionId → Database → Prop
  leave : ∀ {o s}, Holds o s → Holds none s
  closed : ∀ {tr s}, s.Shaped (some tr) → Holds none s → s.Closed tr.execution → Holds (some tr) s
  enterJoin : ∀ {s e row}, s.Shaped none → Holds none s → s.executions.get? e = some row →
    row.role = .scatterRoot → row.status = .waiting → row.waitingReason = some .scatterChildren →
    Holds (some ⟨e, row.identity, .join⟩) s
  refresh : ∀ o e, Triple (fun s => s.Shaped o ∧ Holds o s) (refreshExecutionCountsTx e) fun _ => Holds o
  cancelChild : ∀ now o e i, i.root ≠ e → (∀ tr ∈ o, tr.execution = i.root) →
    Triple (fun s => (s.Shaped o ∧ Holds o s) ∧ s.identityOf e = some i) (requestCancelling now e) fun _ => Holds o
  cancelMember : ∀ now root e i, i.root = root →
    Triple (fun s => (s.Shaped none ∧ Holds none s) ∧ s.identityOf e = some i ∧ Stop root s)
      (requestCancelling now e) fun _ s => Holds none s ∧ Stop root s
  closeCancelled : ∀ now o e current, current.status = .cancelling →
    Triple (fun s => (s.Shaped o ∧ Holds o s) ∧ s.executions.get? e = some current ∧
        s.hasActiveProcess e = false ∧ (current.root = e → s.hasOpenDescendant e = false))
      (closeCancelledTx now e current) fun _ => Holds o
  closeIntegrity : ∀ now tr current errorCode message, current.identity = tr.identity →
    Triple (fun s => s.Shaped (some tr) ∧ Holds (some tr) s)
      (closeIntegrityTx now tr.execution current errorCode message) fun _ => Holds none
  closeRoute : ∀ now tr current r, current.identity = tr.identity → tr.Allows r → r.refusal? = none →
    Triple (fun s => s.Shaped (some tr) ∧ Holds (some tr) s) (closeRouteTx now tr.execution current r)
      fun _ => Holds none

/-- The invariant on a well-formed database of a given shape. -/
def TerminalInvariant.On (I : TerminalInvariant) (o : Option Transit)
    (σ : Shape) (s : Database) : Prop :=
  s.shape = σ ∧ s.Shaped o ∧ I.Holds o s

section on

variable {I : TerminalInvariant} {o : Option Transit} {σ : Shape} {s : Database}

theorem TerminalInvariant.On.leave (h : I.On o σ s) : I.On none σ s := ⟨h.1, h.2.1.none, I.leave h.2.2⟩

theorem TerminalInvariant.On.closed {tr : Transit} (h : I.On none σ s) (hi : s.identityOf tr.execution = some tr.identity)
    (hc : s.Closed tr.execution) : I.On (some tr) σ s :=
  ⟨h.1, Shaped.some h.2.1.1 hi, I.closed (Shaped.some h.2.1.1 hi) h.2.2 hc⟩

theorem TerminalInvariant.on_of_keeps {α : Type} {x : Tx α} {G : Database → Prop} {R : α → Database → Prop}
    {q : Option Transit} (hx : Keeps Database.shape x) (ho : ∀ tr ∈ q, tr ∈ o)
    (h : Triple (fun s => (s.Shaped o ∧ I.Holds o s) ∧ G s) x fun a s => I.Holds q s ∧ R a s) :
    Triple (fun s => I.On o σ s ∧ G s) x fun a s => I.On q σ s ∧ R a s := by
  rintro s a t ⟨⟨hsh, hs, hI⟩, hG⟩ ht
  obtain ⟨hI', hR⟩ := h s a t ⟨⟨hs, hI⟩, hG⟩ ht
  have keep := hx s a t ht
  have hs' := hs.of_shape keep
  exact ⟨⟨keep.trans hsh, ⟨hs'.1, fun tr htr => hs'.2 tr (ho tr htr)⟩, hI'⟩, hR⟩

theorem TerminalInvariant.on_write {α : Type} {x : Tx α} (hx : Keeps Database.shape x)
    (h : Triple (fun s => s.Shaped o ∧ I.Holds o s) x fun _ => I.Holds o) :
    Triple (I.On o σ) x fun _ => I.On o σ :=
  fun s a t hs ht => ⟨(hx s a t ht).trans hs.1, hs.2.1.of_shape (hx s a t ht), h s a t hs.2 ht⟩

theorem TerminalInvariant.on_refresh (I : TerminalInvariant) (o : Option Transit) (e : ExecutionId) :
    Triple (I.On o σ) (refreshExecutionCountsTx e) fun _ => I.On o σ :=
  on_write (ExecutionFrame.shape.refreshExecutionCountsTx e) (I.refresh o e)

end on

/-! ### statuses that last -/

/-- A property of statuses that the writes which cancel and close Executions keep. -/
structure Lasting (P : ExecutionStatus → Prop) : Prop where
  cancel : ∀ {st}, P st → st.isTerminal = false → P .cancelling
  close : ∀ {st st'}, P st → st.isTerminal = false → st'.isTerminal = true → P st'

theorem Lasting.closed : Lasting (·.isTerminal = true) where
  cancel h h' := by simp [h] at h'
  close h h' := by simp [h] at h'

theorem Lasting.halted : Lasting fun st => st.isTerminal = true ∨ st = .cancelling where
  cancel _ _ := Or.inr rfl
  close _ _ h := Or.inl h

theorem hasStatus_of_executions {s t : Database} {P : ExecutionStatus → Prop} {e : ExecutionId}
    (h : t.executions = s.executions) (hs : s.HasStatus P e) : t.HasStatus P e := by
  unfold HasStatus at *
  rwa [h]

theorem keeps_executions_casTask (k : TaskId) (c : TaskRow → Bool) (f : TaskRow → TaskRow) :
    Keeps Database.executions (casTask k c f) :=
  keeps_compareAndSet fun _ => rfl

theorem keeps_executions_projectTaskStatusTx (now : Time) (k : TaskId) (p : TaskProjection) :
    Keeps Database.executions (projectTaskStatusTx now k p) := by
  intro s b t h
  rcases projectTaskStatusTx_ok h with ⟨rfl, -⟩ | ⟨rfl, -⟩ <;> rfl

theorem keeps_executions_projectRootTaskTx (now : Time) (e : ExecutionId) (row : ExecutionRow) (status : TaskStatus)
    (source : Option ProcessRecord) (errorCode errorMessage : Option String)
    (disposition : Option ResultDisposition) :
    Keeps Database.executions (projectRootTaskTx now e row status source errorCode errorMessage disposition) :=
  Keeps.ite (Keeps.pure _) ((keeps_executions_projectTaskStatusTx now _ _).bind fun _ => Keeps.pure _)

section lasting

variable {P : ExecutionStatus → Prop} {e k : ExecutionId}

theorem Keeps.hasStatus {α : Type} {x : Tx α} (hx : Keeps Database.executions x) (P : ExecutionStatus → Prop)
    (e : ExecutionId) : Triple (fun s => s.HasStatus P e) x fun _ s => s.HasStatus P e :=
  fun s a t hs ht => hasStatus_of_executions (hx s a t ht) hs

theorem triple_hasStatus_casExecution {c : ExecutionRow → Bool} {f : ExecutionRow → ExecutionRow}
    (hf : ∀ row, P row.status → c row = true → P (f row).status) :
    Triple (fun s => s.HasStatus P e) (casExecution k c f) fun _ s => s.HasStatus P e := by
  refine Triple.casExecution (fun s h _ => h) fun s row h hrow hc => ?_
  obtain ⟨q, hq, ht⟩ := h
  refine ⟨if e = k then f q else q, by simp [updateExecution, Table.get?_modify, hq], ?_⟩
  split
  · next hek =>
    subst hek
    obtain rfl := Option.some.inj (hrow.symm.trans hq)
    exact hf _ ht hc
  · exact ht

theorem hasStatus_refreshExecutionCountsTx (e k : ExecutionId) :
    Triple (fun s => s.HasStatus P e) (refreshExecutionCountsTx k) fun _ s => s.HasStatus P e := by
  refine Triple.refreshExecutionCountsTx (fun s j f hf hs => ?_) fun _ _ _ _ hs => hasStatus_of_executions rfl hs
  obtain ⟨row, hrow, ht⟩ := hs
  refine ⟨if e = j then f row else row, by simp [updateExecution, Table.get?_modify, hrow], ?_⟩
  split
  · obtain ⟨p, c, h⟩ := hf row
    rw [h]
    exact ht
  · exact ht

variable (hP : Lasting P) (now : Time)

include hP

theorem hasStatus_requestCancelling (e k : ExecutionId) :
    Triple (fun s => s.HasStatus P e) (requestCancelling now k) fun _ s => s.HasStatus P e := by
  refine (triple_hasStatus_casExecution fun row h hc => ?_).bind fun updated => ?_
  · simp only [Bool.and_eq_true, Bool.not_eq_true'] at hc
    exact hP.cancel h hc.1
  · refine (Triple.modify (Q := fun _ s => s.HasStatus P e) fun s hs => hasStatus_of_executions rfl hs).bind fun _ => ?_
    exact Triple.keep

omit hP in
theorem hasStatus_projected {current : ExecutionRow} {status : TaskStatus} {source : Option ProcessRecord}
    {errorCode errorMessage : Option String} {disposition : Option ResultDisposition} (updated : Bool) :
    Triple (fun s => s.HasStatus P e) (do
      if updated then projectRootTaskTx now k current status source errorCode errorMessage disposition
      pure updated) fun _ s => s.HasStatus P e := by
  have ret : Triple (fun s => s.HasStatus P e) (pure updated : Tx Bool) fun _ s => s.HasStatus P e :=
    Triple.keep
  cases updated with
  | false => exact (Triple.pure (a := ()) fun _ h => h).bind fun _ => ret
  | true => exact (Keeps.hasStatus (keeps_executions_projectRootTaskTx _ _ _ _ _ _ _ _) P e).bind fun _ => ret

theorem hasStatus_closeCancelledTx (e k : ExecutionId) (current : ExecutionRow) :
    Triple (fun s => s.HasStatus P e) (closeCancelledTx now k current) fun _ s => s.HasStatus P e := by
  refine (triple_hasStatus_casExecution fun row h hc => hP.close h ?_ rfl).bind fun updated => ?_
  · rw [beq_iff_eq.1 hc]
    rfl
  have project : Triple (fun s => s.HasStatus P e)
      (do projectRootTaskTx now k current .cancelled none none none none; pure updated) fun _ s => s.HasStatus P e :=
    (Keeps.hasStatus (keeps_executions_projectRootTaskTx _ _ _ _ _ _ _ _) P e).bind fun _ => Triple.keep
  split
  · split
    · exact (hasStatus_refreshExecutionCountsTx e k).bind fun _ => project
    · exact project
  · exact Triple.keep

theorem hasStatus_closeIntegrityTx (e k : ExecutionId) (current : ExecutionRow) (errorCode message : String) :
    Triple (fun s => s.HasStatus P e) (closeIntegrityTx now k current errorCode message)
      fun _ s => s.HasStatus P e := by
  refine (triple_hasStatus_casExecution fun row h hc => hP.close h ?_ rfl).bind fun updated =>
    hasStatus_projected now updated
  simpa using hc

theorem hasStatus_closeRouteTx (e k : ExecutionId) (current : ExecutionRow) (r : TerminalRoute) :
    Triple (fun s => s.HasStatus P e) (closeRouteTx now k current r) fun _ s => s.HasStatus P e := by
  refine (Triple.execution (Q := fun _ s => s.HasStatus P e) fun s row hs _ => hs).bind fun row => ?_
  refine (triple_hasStatus_casExecution fun row h hc => hP.close h ?_ ?_).bind fun updated =>
    hasStatus_projected now updated
  · simpa using hc
  · cases r.kind <;> rfl

/-- A lasting status property of one Execution. -/
def statusInvariant (e : ExecutionId) : TerminalInvariant where
  Holds _ s := s.HasStatus P e
  Stop _ _ := True
  leave h := h
  closed _ h _ := h
  enterJoin _ h _ _ _ _ := h
  refresh _ k := (hasStatus_refreshExecutionCountsTx e k).pre fun _ h => h.2
  cancelChild now _ k _ _ _ := (hasStatus_requestCancelling hP now e k).pre fun _ h => h.1.2
  cancelMember now _ k _ _ :=
    ((hasStatus_requestCancelling hP now e k).pre fun _ h => h.1.2).post fun _ _ h => ⟨h, trivial⟩
  closeCancelled now _ k current _ := (hasStatus_closeCancelledTx hP now e k current).pre fun _ h => h.1.2
  closeIntegrity now tr current errorCode message _ :=
    (hasStatus_closeIntegrityTx hP now e tr.execution current errorCode message).pre fun _ h => h.2
  closeRoute now tr current r _ _ _ := (hasStatus_closeRouteTx hP now e tr.execution current r).pre fun _ h => h.2

end lasting

/-! ### closing writes close -/

theorem closes_casExecution {e : ExecutionId} {f : ExecutionRow → ExecutionRow}
    (hf : ∀ row, (f row).status.isTerminal = true) :
    Triple (fun s => (s.identityOf e).isSome) (casExecution e (!·.status.isTerminal) f) fun _ s => s.Closed e := by
  refine Triple.casExecution (fun s hs miss => ?_) fun s row _ hrow _ => ⟨_, get?_updateExecution_self hrow, hf row⟩
  obtain ⟨i, hi⟩ := Option.isSome_iff_exists.1 hs
  obtain ⟨row, hrow, -⟩ := identityOf_eq_some.1 hi
  exact ⟨row, hrow, by simpa using miss row hrow⟩

theorem closes_closeIntegrityTx (now : Time) (e : ExecutionId) (current : ExecutionRow) (errorCode message : String) :
    Triple (fun s => (s.identityOf e).isSome) (closeIntegrityTx now e current errorCode message)
      fun _ s => s.Closed e :=
  (closes_casExecution fun _ => rfl).bind fun updated => hasStatus_projected now updated

theorem closes_closeRouteTx (now : Time) (e : ExecutionId) (current : ExecutionRow) (r : TerminalRoute) :
    Triple (fun s => (s.identityOf e).isSome) (closeRouteTx now e current r) fun _ s => s.Closed e := by
  refine (Triple.execution (Q := fun _ s => (s.identityOf e).isSome) fun s row hs _ => hs).bind fun row => ?_
  refine (closes_casExecution fun _ => ?_).bind fun updated => hasStatus_projected now updated
  cases r.kind <;> rfl

end KnowledgeBase
