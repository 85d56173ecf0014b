import KnowledgeBase.Invariant.Workers

/-!
# Deliveries and repair

Every engine invariant is kept by the recovery of expired leases, the cancellation of a tree, the deliveries of the
outbox, and the repair pass, as long as its license holds of those of them that need one.
-/

namespace KnowledgeBase

open Transaction Database EngineInvariant

section deliveries

variable {d : Deployment} (I : EngineInvariant d) (now : Time) {l : List Pending}

/-! ### expired leases -/

theorem sound_sumEach_pending {α : Type} (mk : α → Pending) {f : α → Tx Nat}
    (h : ∀ a l, Triple (I.Sound (mk a :: l)) (f a) fun _ => I.Sound l) (xs : List α) :
    Triple (I.Sound (xs.map mk)) (sumEach xs f) fun _ => I.Sound [] := by
  induction xs with
  | nil => exact Triple.keep
  | cons a xs ih => exact (h a _).bind fun _ => ih.bind fun _ => Triple.keep

theorem sound_recoverLeaseTx (p : ProcessRecord) :
    Triple (I.Sound (.lease p :: l)) (recoverLeaseTx d now p) fun _ => I.Sound l := by
  refine (Triple.execution (Q := fun row s => I.Sound (.lease p :: l) s ∧ s.executions.get? p.2.execution = some row)
    fun s row h hrow => ⟨h, hrow⟩).bind fun row => ?_
  refine Triple.ite (fun _ => ?_) fun hc => ?_
  · refine Triple.bind (Triple.pre (sound_write' (ProcessFrame.shape.casProcess (fun _ => by rfl) _ _) (I.cancelExpired now l p))
      fun s h => h.1) fun cancelled => ?_
    exact (sound_of_on fun σ => on_convergeCancellationTx (I.during l).toTerminalInvariant now p.2.execution).bind
      fun _ => Triple.keep
  · simp only [Bool.or_eq_true, beq_iff_eq, not_or] at hc
    refine Triple.ite (fun _ => ?_) fun _ => Triple.ite (fun _ => ?_) fun hrecovery => ?_
    · exact (sound_failAndRouteTx I now rfl hc.2 (Or.inl rfl) _ _ _).bind fun _ => Triple.keep
    · exact (sound_failAndRouteTx I now rfl hc.2 (Or.inl rfl) _ _ _).bind fun _ => Triple.keep
    · refine Triple.bind (Triple.pre (sound_write' (ProcessFrame.shape.casProcess (fun _ => by rfl) _ _)
        (I.replayExpired now l p (Nat.lt_of_not_le hrecovery))) fun s h => h.1) fun replayed =>
          Triple.ite (fun _ => ?_) fun _ => Triple.keep
      exact (sound_core (keeps_core_enqueueTx _ _ _ _)).bind fun _ => Triple.keep

theorem nodup_select {ρ : Type} (t : Table ρ) (c : Nat → ρ → Bool) : ((t.select c).map Prod.fst).Nodup :=
  t.nodup.sublist (List.filter_sublist.map _)

theorem nodup_sortRecords {key : ProcessRecord → List Nat} {l : List ProcessRecord} (h : (l.map Prod.fst).Nodup) :
    ((sortRecords key l).map Prod.fst).Nodup :=
  (((List.perm_insertionSort _ l).map Prod.fst).nodup_iff).2 h

theorem expiredLeases_spec {s : Database} {limit : Nat} :
    ((s.expiredLeases now limit).map Prod.fst).Nodup ∧
      ∀ p ∈ s.expiredLeases now limit, s.processes.get? p.1 = some p.2 ∧ p.2.status.isActive = true := by
  constructor
  · exact (nodup_sortRecords (nodup_select _ _)).sublist ((List.take_sublist _ _).map _)
  · intro p hp
    obtain ⟨hrow, hc⟩ := Table.mem_select.1 (mem_sortRecords.1 (List.mem_of_mem_take hp))
    simp only [Bool.and_eq_true, Bool.or_eq_true, beq_iff_eq] at hc
    refine ⟨hrow, ?_⟩
    rcases hc.1 with (h | h) | h <;> rw [h] <;> rfl

theorem sound_recoverExpiredLeasesTx (limit : Nat) :
    Triple (I.Sound []) (recoverExpiredLeasesTx d now limit) fun _ => I.Sound [] := by
  refine Triple.get.bind fun db => ?_
  refine Triple.pre (P := I.Sound ((db.expiredLeases now limit).map .lease)) ?_ ?_
  · exact (sound_sumEach_pending I .lease (fun p l => sound_recoverLeaseTx I now p) _).bind fun recovered =>
      (Triple.forEach fun e _ => sound_refresh e).bind fun _ => Triple.keep
  · rintro s ⟨rfl, h⟩
    exact ⟨h.1, I.pendLeases h.1 h.2 (expiredLeases_spec now).1 (expiredLeases_spec now).2⟩

/-! ### cancellation of a tree -/

theorem sound_cancelExecutionTreeTx_root (root : ExecutionId) :
    Triple (fun s => I.Sound [] s ∧ (I.during []).Stop root s) (cancelExecutionTreeTx now root true)
      fun _ => I.Sound [] :=
  fun s a t hs ht => (on_cancelExecutionTreeTx_root (I.during []).toTerminalInvariant now (σ := s.shape) root s a t
    ⟨⟨rfl, hs.1.1, hs.1.2⟩, hs.2⟩ ht).2

/-- The license of a command that cancels the tree of an Execution. -/
def Licensed (e : ExecutionId) (s : Database) : Prop :=
  ∀ row, s.executions.get? e = some row → row.status.isTerminal = false → (I.during []).Stop row.root s

theorem sound_requestCancellationTx (e : ExecutionId) :
    Triple (fun s => I.Sound [] s ∧ Licensed I e s) (requestCancellationTx now e) fun _ => I.Sound [] := by
  refine (Triple.execution (Q := fun row s => I.Sound [] s ∧ (row.status.isTerminal = false →
    (I.during []).Stop row.root s)) fun s row h hrow => ⟨h.1, h.2 row hrow⟩).bind fun row => ?_
  refine Triple.ite (fun _ => Triple.pure fun s h => h.1) fun ht => ?_
  refine (Triple.execution (Q := fun _ s => I.Sound [] s ∧ (I.during []).Stop row.root s) fun s _ h _ =>
    ⟨h.1, h.2 (by simpa using ht)⟩).bind fun _ => ?_
  exact (sound_cancelExecutionTreeTx_root I now row.root).bind fun _ => (sound_refresh _).bind fun _ =>
    Triple.keep

/-! ### settled decisions -/

section settled

variable {s : Database} {plan : WorkflowDefinition} {e : ExecutionId} {decision : RouteDecision}

theorem materializeProcessTx_of_materialized {row : ExecutionRow} {target : WorkflowStepDefinition}
    {key : RouteDecisionPayload} (h : s.materialized e target.stepKey key = true) :
    Triple (fun t => t = s) (materializeProcessTx d now plan e row target key) fun _ t => t = s := by
  refine Triple.get.bind fun db => Triple.guard <| Triple.orRaise_frame.bind fun task =>
    Triple.ofExcept_frame.bind fun _ => Triple.ofExcept_frame.bind fun input => Triple.ite
      (fun _ => Triple.pure fun t ht => ht.2) fun hne => ?_
  rintro t a u ⟨rfl, rfl⟩ -
  exact absurd h hne

theorem applyRoutesTx_of_settled (h : s.Settled plan e decision) (row : ExecutionRow) (source : Option ProcessRecord)
    (context : RouteContext) (error : Option String) :
    Triple (fun t => t = s) (applyRoutesTx d now plan e row decision source context error) fun _ t => t = s := by
  have one (apply : ApplyRoutes) : Triple (fun t => t = s)
      (applyRoutesWith d now plan apply e row decision source context error) fun _ t => t = s := by
    unfold applyRoutesWith
    refine Triple.ite (fun hempty => absurd (by simpa using hempty) h.1) fun _ => Triple.anyEach fun route hr => ?_
    obtain ⟨target, htarget, hkind, hm⟩ := h.2 route hr
    unfold applyRouteWith
    simp only [htarget, hkind]
    exact materializeProcessTx_of_materialized now hm
  unfold applyRoutesTx
  cases plan.steps.length with
  | zero => exact one _
  | succ n => exact one _

end settled

theorem sound_applyRoutesTx {s₀ : Database} {plan : WorkflowDefinition} {e : ExecutionId} {row : ExecutionRow}
    {decision : RouteDecision} {step : String} {selector : WorkflowOutcomeSelector} {source : Option ProcessRecord}
    {context : RouteContext} (ended : Bool) {typed : RouteContext} {error : Option String}
    (hs : I.Sound l s₀) (hi : s₀.identityOf e = some row.identity) (hrow : s₀.Recalls e row)
    (hd : routeDecision plan e row step selector typed = .ok decision)
    (h : s₀.Settled plan e decision ∨
      (I.during l).Holds (some ⟨e, row.identity, .route plan step selector source context ended⟩) s₀) :
    Triple (fun s => s = s₀) (applyRoutesTx d now plan e row decision source context error) fun _ => I.Sound l := by
  rcases h with h | h
  · exact (applyRoutesTx_of_settled now h row source context error).post fun _ s hs' => hs' ▸ hs
  · let tr : Transit := ⟨e, row.identity, .route plan step selector source context ended⟩
    have applied : Triple (((I.during l).since s₀).On (some tr) s₀.shape)
        (applyRoutesTx d now plan e row decision source context error)
        fun _ => ((I.during l).since s₀).On tr.rest s₀.shape :=
      applies_applyRoutesTx now ((I.during l).since s₀) tr step selector source context ended row decision error rfl rfl
        (fun _ _ h => hrow.follows h.2) ⟨_, _, hd⟩
    refine (applied.pre fun s hs' => ?_).post fun _ s hs' => ?_
    · subst hs'
      exact On.since ⟨rfl, Shaped.some hs.1.1 hi, h⟩
    · replace hs' := On.of_since hs'
      rcases tr.rest_cases with hr | hr <;> rw [hr] at hs'
      · exact hs'.2
      · exact hs'.leave.2

theorem sound_failExecutionIntegrityTx (tr : Transit) (errorCode message : String) :
    Triple (fun s => I.Sound l s ∧ s.identityOf tr.execution = some tr.identity ∧ (I.during l).Holds (some tr) s)
      (failExecutionIntegrityTx now tr.execution errorCode message) fun _ => I.Sound l :=
  fun s a t hs ht => (on_failExecutionIntegrityTx (I.during l).toTerminalInvariant now tr errorCode message
    (σ := s.shape) s a t ⟨rfl, Shaped.some hs.1.1.1 hs.2.1, hs.2.2⟩ ht).1.2

/-! ### wakes -/

theorem sound_convergeCancellationTx (e : ExecutionId) :
    Triple (I.Sound l) (convergeCancellationTx now e) fun _ => I.Sound l :=
  sound_of_on fun _ => on_convergeCancellationTx (I.during l).toTerminalInvariant now e

theorem sound_maybeConvergeScatterRootTx (e : ExecutionId) :
    Triple (I.Sound l) (maybeConvergeScatterRootTx now e) fun _ => I.Sound l :=
  sound_of_on fun _ => on_maybeConvergeScatterRootTx (I.during l).toTerminalInvariant now e

theorem sound_materializeRootTx (e : ExecutionId) :
    Triple (fun s => I.Sound [] s ∧ I.Wake e s) (materializeRootTx d now e) fun _ => I.Sound [] := by
  refine (Triple.execution (Q := fun row s => s.executions.get? e = some row ∧ I.Sound [] s ∧ I.Wake e s)
    fun s row h hrow => ⟨hrow, h⟩).bind fun row => ?_
  refine Triple.ite (fun _ => Triple.pure fun s h => h.2.1) fun ht => ?_
  refine Triple.ite (fun _ => ?_) fun hc => ?_
  · exact Triple.bind (Triple.pre (sound_convergeCancellationTx I now e) fun s h => h.2.1) fun _ =>
      Triple.keep
  refine Triple.ite (fun _ => Triple.ite (fun _ => ?_) fun _ => Triple.pure fun s h => h.2.1) fun hw => ?_
  · exact Triple.bind (Triple.pre (sound_maybeConvergeScatterRootTx I now e) fun s h => h.2.1) fun _ =>
      (sound_refresh e).bind fun _ => Triple.keep
  refine Triple.get.bind fun db => ?_
  refine Triple.start fun s₀ h₀ => ?_
  obtain ⟨rfl, hrow, hs, hwake⟩ := h₀
  refine (Triple.ofExcept (Q := fun r s => wakeRoute d db e row = .ok r ∧ s = db) fun s r h hr => ⟨hr, h⟩).bind
    fun r => Triple.intro fun hr => ?_
  obtain ⟨plan, typed⟩ := r
  cases hplan : assertExecutionBinding d row with
  | error err => simp [wakeRoute, hplan, bind, Except.bind] at hr
  | ok plan' =>
  simp only [wakeRoute, hplan, bind, Except.bind, Except.ok.injEq, Prod.mk.injEq] at hr
  obtain ⟨rfl, rfl⟩ := hr
  refine Triple.ite (fun hintent => ?_) fun _ => ?_
  · exfalso
    have htask := (hs.1.1.placed e _ (identityOf_of_get? hrow)).2
    simp only [typedRouteContext, Option.isNone_map] at hintent
    simp only [headOf, Option.isSome_map] at htask
    change (db.tasks.get? row.task).isSome = true at htask
    rw [Option.isNone_iff_eq_none.1 hintent] at htask
    cases htask
  refine (Triple.ofExcept (Q := fun decision s => startDecision plan' e row (typedRouteContext d db e row) =
    .ok decision ∧ s = db) fun s r h hr => ⟨hr, h⟩).bind fun decision => Triple.intro fun hd => ?_
  cases hstart : plan'.startStep? with
  | none => simp [startDecision, hstart] at hd
  | some start =>
  simp only [startDecision, hstart] at hd
  have enter := I.wake hs.1 hs.2 hwake hrow (by simpa using ht) (by simpa using hc) (by simpa using hw) hplan hstart hd
  refine Triple.ite (fun hempty => ?_) fun _ => ?_
  · rcases enter with h | h
    · exact absurd (by simpa using hempty) h.1
    · let tr : Transit := ⟨e, row.identity, .route plan' start.stepKey .always none (typedRouteContext d db e row) false⟩
      refine Triple.bind (Triple.pre (sound_failExecutionIntegrityTx I now tr _ _) fun s hs' => ?_) fun _ =>
        Triple.keep
      subst hs'
      exact ⟨hs, identityOf_of_get? hrow, h⟩
  · exact (sound_applyRoutesTx I now _ hs (identityOf_of_get? hrow) (.of_get? hrow) hd enter).bind fun _ => (sound_refresh e).bind
      fun _ => Triple.keep

/-! ### gate decisions -/

theorem ExecutionFrame.resumeFromGateTx {γ : Type} {f : Database → γ} (hf : ExecutionFrame f) (e : ExecutionId)
    (g : GateId) (row : ExecutionRow) : Keeps f (resumeFromGateTx e g row) :=
  Keeps.ite (Keeps.pure _) ((hf.casExecution (fun _ => by rfl) _ _).bind fun _ =>
    Keeps.guard <| keeps_execution _)

theorem resumeFromGateTx_row {e : ExecutionId} {g : GateId} {row : ExecutionRow} :
    Triple (fun s => s.executions.get? e = some row) (resumeFromGateTx e g row)
      fun current s => s.executions.get? e = some current := by
  refine Triple.ite (fun _ => Triple.pure fun _ h => h) fun _ => ?_
  refine (Triple.casExecution (Q := fun _ _ => True) (fun _ _ _ => trivial) fun _ _ _ _ _ => trivial).bind fun _ =>
    Triple.guard <| Triple.execution fun s row _ h => h

theorem gateRoute_ok {s : Database} {e : ExecutionId} {row : ExecutionRow} {gateKind : String} {action : GateAction}
    {plan : WorkflowDefinition} {decision : RouteDecision} {context : RouteContext} {error : Option String}
    (h : gateRoute d s e row gateKind action = .ok (plan, decision, context, error)) :
    ∃ control selector, assertExecutionBinding d row = .ok plan ∧ controlStep plan gateKind = .ok control ∧
      gateSelector action = .ok (selector, error) ∧
      context = { typedRouteContext d s e row with gateAction := some action } ∧
      routeDecision plan e row control.stepKey selector context = .ok decision := by
  unfold gateRoute at h
  cases hplan : assertExecutionBinding d row with
  | error err => simp [hplan, bind, Except.bind] at h
  | ok plan' =>
  cases hcontrol : controlStep plan' gateKind with
  | error err => simp [hplan, hcontrol, bind, Except.bind] at h
  | ok control =>
  cases hselector : gateSelector action with
  | error err => simp [hplan, hcontrol, hselector, bind, Except.bind] at h
  | ok r =>
  obtain ⟨selector, err⟩ := r
  simp only [hplan, hcontrol, hselector, bind, Except.bind] at h
  split at h
  · cases h
  · cases hd : routeDecision plan' e row control.stepKey selector
      { typedRouteContext d s e row with gateAction := some action } with
    | error err => simp [hd] at h
    | ok decision' =>
      simp only [hd, Except.ok.injEq, Prod.mk.injEq] at h
      obtain ⟨rfl, rfl, rfl, rfl⟩ := h
      exact ⟨control, selector, rfl, hcontrol, rfl, rfl, hd⟩

theorem core_applyHumanReviewItemLifecycle (action : GateAction) (row : ExecutionRow) (s : Database) :
    (applyHumanReviewItemLifecycle now action row s).core = s.core := by
  unfold applyHumanReviewItemLifecycle
  split <;> rfl

theorem settled_of_core {s t : Database} {plan : WorkflowDefinition} {e : ExecutionId} {decision : RouteDecision}
    (h : t.core = s.core) (hs : s.Settled plan e decision) : t.Settled plan e decision := by
  refine ⟨hs.1, fun route hr => ?_⟩
  obtain ⟨target, htarget, hkind, hm⟩ := hs.2 route hr
  exact ⟨target, htarget, hkind, by unfold materialized at *; rwa [(core_eq_iff.1 h).2.2.1]⟩

theorem sound_consumeGateDecisionTx (decision : DecisionId) :
    Triple (fun s => I.Sound [] s ∧ I.Consume decision s) (consumeGateDecisionTx d now decision) fun _ => I.Sound [] := by
  refine Triple.get.bind fun db => ?_
  refine (Triple.orRaise (Q := fun r s => (I.Sound [] s ∧ I.Consume decision s) ∧
    s.decisions.get? decision = some r.1 ∧ s.gates.get? r.1.gate = some r.2) fun s r h hr => ?_).bind fun r => ?_
  · obtain ⟨rfl, h⟩ := h
    simp only [Option.bind_eq_some_iff, Option.map_eq_some_iff] at hr
    obtain ⟨record, hrecord, gate, hgate, rfl⟩ := hr
    exact ⟨h, hrecord, hgate⟩
  obtain ⟨record, gate⟩ := r
  dsimp only
  refine Triple.guard <| ?_
  refine (Triple.raiseIf (Q := fun _ s => record.target = gate.target ∧ (I.Sound [] s ∧ I.Consume decision s) ∧
    s.decisions.get? decision = some record ∧ s.gates.get? record.gate = some gate)
      fun s h hc => ⟨by simpa using hc, h⟩).bind fun _ => Triple.intro fun htarget => ?_
  refine (Triple.raiseIf (Q := fun _ s => gate.status = record.action.gateStatus ∧ (I.Sound [] s ∧ I.Consume decision s) ∧
    s.decisions.get? decision = some record ∧ s.gates.get? record.gate = some gate)
      fun s h hc => ⟨by simpa using hc, h⟩).bind fun _ => Triple.intro fun hstatus => ?_
  refine (Triple.execution (Q := fun row s => ((I.Sound [] s ∧ I.Consume decision s) ∧
    s.decisions.get? decision = some record ∧ s.gates.get? record.gate = some gate) ∧
      s.executions.get? gate.execution = some row) fun s row h hrow => ⟨h, hrow⟩).bind fun row => ?_
  refine Triple.ite (fun _ => Triple.pure fun s h => h.1.1.1) fun hc => ?_
  refine Triple.ite (fun _ => Triple.pure fun s h => h.1.1.1) fun ht => ?_
  simp only [Bool.or_eq_true, beq_iff_eq, not_or] at hc
  refine Triple.start fun s₀ h₀ => ?_
  have resumed := I.resume decision record record.gate gate row
  refine Triple.bind (Q := fun current s => I.Sound [] s ∧ s.executions.get? gate.execution = some current ∧
    current.identity = row.identity ∧ ∀ plan control selector error context decision,
        assertExecutionBinding d current = .ok plan → controlStep plan gate.gateKind = .ok control →
        gateSelector record.action = .ok (selector, error) →
        context = { typedRouteContext d s gate.execution current with gateAction := some record.action } →
        routeDecision plan gate.execution current control.stepKey selector context = .ok decision →
        s.Settled plan gate.execution decision ∨ (I.during []).Holds (some ⟨gate.execution, row.identity,
          .route plan control.stepKey selector none context false⟩) s) ?_ fun current => ?_
  · rintro s a t rfl hx
    have keep := ExecutionFrame.shape.resumeFromGateTx gate.execution record.gate row s a t hx
    obtain ⟨hnone, henter⟩ := resumed s a t ⟨h₀.1.1.1, h₀.1.1.2, h₀.1.2.1, rfl, h₀.1.2.2, htarget, hstatus, h₀.2,
      by simpa using ht, hc.1⟩ hx
    have hi : t.identityOf gate.execution = some row.identity := by
      rw [identityOf_eq keep]
      exact identityOf_of_get? h₀.2
    have hrow := resumeFromGateTx_row s a t h₀.2 hx
    exact ⟨⟨h₀.1.1.1.1.of_shape keep, hnone⟩, hrow, Option.some.inj ((identityOf_of_get? hrow).symm.trans hi), henter⟩
  · refine Triple.get.bind fun db' => Triple.start fun s₁ h₁ => ?_
    obtain ⟨rfl, hs, hcurrent, hid, henter⟩ := h₁
    refine (Triple.ofExcept (Q := fun r s => gateRoute d db' gate.execution current gate.gateKind record.action = .ok r ∧
      s = db') fun s r h hr => ⟨hr, h⟩).bind fun r => Triple.intro fun hr => ?_
    obtain ⟨plan, decision, context, error⟩ := r
    obtain ⟨control, selector, hplan, hcontrol, hselector, hcontext, hd⟩ := gateRoute_ok hr
    have enter := henter plan control selector error context decision hplan hcontrol hselector hcontext hd
    have core := core_applyHumanReviewItemLifecycle now record.action current db'
    refine (Triple.modify (Q := fun _ s => s = applyHumanReviewItemLifecycle now record.action current db')
      fun s hs => by rw [hs]).bind fun _ => ?_
    have hs' : I.Sound [] (applyHumanReviewItemLifecycle now record.action current db') :=
      ⟨hs.1.of_shape (shape_of_core core), (I.during []).core core hs.2⟩
    have hcurrent' : (applyHumanReviewItemLifecycle now record.action current db').executions.get? gate.execution =
        some current := by rw [(core_eq_iff.1 core).2.1, hcurrent]
    refine (sound_applyRoutesTx I now false hs' (identityOf_of_get? hcurrent') (.of_get? hcurrent') hd ?_).bind
      fun _ => (sound_refresh _).bind fun _ => Triple.keep
    rcases enter with h | h
    · exact Or.inl (settled_of_core core h)
    · rw [hid]
      exact Or.inr ((I.during []).core core h)

/-! ### dead deliveries -/

/-- Releasing the row kills the delivery an open Execution owns. -/
def Database.Kills (s : Database) (o : OutboxId) (token : Nat) (e : ExecutionId) : Prop :=
  ∃ row exec, s.outbox.get? o = some row ∧ row.attemptBudget ≤ row.attempts ∧ row.status = .inFlight ∧
    row.leaseOwner = some token ∧ s.deadOwner? row = some (e, exec)

theorem deadOwner?_spec {s : Database} {row : OutboxRow} {e : ExecutionId} {exec : ExecutionRow}
    (h : s.deadOwner? row = some (e, exec)) : s.executions.get? e = some exec ∧ exec.status.isTerminal = false := by
  unfold deadOwner? at h
  split at h
  · simp only [Option.map_eq_some_iff, Prod.mk.injEq] at h
    obtain ⟨r, hr, rfl, rfl⟩ := h
    obtain ⟨hget, hc⟩ := Option.filter_eq_some_iff.1 hr
    simp only [Bool.and_eq_true, Bool.not_eq_true'] at hc
    exact ⟨hget, hc.1⟩
  · cases h

theorem ExecutionFrame.closeDeadTx {γ : Type} {f : Database → γ} (hf : ExecutionFrame f) (e : ExecutionId)
    (row : ExecutionRow) (errorCode error : String) : Keeps f (closeDeadTx now e row errorCode error) :=
  (hf.casExecution (fun _ => by rfl) _ _).bind fun _ => hf.projectRootTaskTx now _ _ _ _ _ _ _

theorem sound_releaseOutboxTx (o : OutboxId) (token : Nat) (error : String) :
    Triple (fun s => I.Sound [] s ∧ ∀ e, s.Kills o token e → I.Dead e s) (releaseOutboxTx now o token error)
      fun _ => I.Sound [] := by
  refine Triple.get.bind fun db => ?_
  split
  · exact Triple.pure fun s h => h.2.1
  next row hrow =>
  dsimp only
  refine Triple.bind (Q := fun released s => I.Sound [] s ∧ (row.attemptBudget ≤ row.attempts → released = true →
    ∀ e exec, s.deadOwner? row = some (e, exec) → I.Dead e s)) ?_ fun released => ?_
  · rintro s released t ⟨rfl, hs, hkill⟩ hx
    have core := keeps_core_casOutbox o _ _ _ _ _ hx
    refine ⟨sound_core (keeps_core_casOutbox o _ _) _ _ _ hs hx, fun hb hr e exec hdead => ?_⟩
    refine I.dead_core core (hkill e ⟨row, exec, hrow, hb, ?_⟩)
    have howner : db.deadOwner? row = some (e, exec) := by
      unfold deadOwner? at hdead ⊢
      rwa [(core_eq_iff.1 core).2.1] at hdead
    rcases compareAndSet_ok hx with ⟨hf, -⟩ | ⟨-, -, q, hq, hc⟩
    · rw [hf] at hr
      cases hr
    · rw [hrow] at hq
      obtain rfl := Option.some.inj hq
      simp only [Bool.and_eq_true, beq_iff_eq] at hc
      exact ⟨hc.1, hc.2, howner⟩
  · refine Triple.ite (fun hdead => ?_) fun _ => Triple.pure fun s h => h.1
    simp only [Bool.and_eq_true, decide_eq_true_eq] at hdead
    refine Triple.get.bind fun db' => ?_
    split
    · exact Triple.pure fun s h => h.2.1
    · next e exec howner =>
      refine (sound_write (ExecutionFrame.shape.closeDeadTx now e exec _ _) (I.closeDead now e exec _ _)).pre fun s h => ?_
      obtain ⟨rfl, hs, hd⟩ := h
      exact ⟨hs, hd hdead.1 hdead.2 e exec howner, deadOwner?_spec howner⟩

/-! ### the repair pass -/

theorem sound_cancelRoots (roots : List ExecutionId) :
    Triple (fun s => I.Sound [] s ∧ ∀ e ∈ roots, s.Halted e ∧ ∃ i, s.identityOf e = some i ∧ i.root = e)
      (sumEach roots fun root => cancelExecutionTreeTx now root true)
      fun _ => I.Sound [] := by
  refine (Triple.sumEach fun root hroot => ?_).post fun _ _ h => h.1
  rintro s a t ⟨hs, hroots⟩ ht
  obtain ⟨hhalted, i, hi, hir⟩ := hroots root hroot
  obtain ⟨row, hrow, rfl⟩ := identityOf_eq_some.1 hi
  have stop := I.stopHalted hs.1 hs.2 hhalted hrow hir
  refine ⟨sound_cancelExecutionTreeTx_root I now root s a t ⟨hs, stop⟩ ht, fun e he => ?_⟩
  obtain ⟨hh, i, hi, hir⟩ := hroots e he
  have kept := on_cancelExecutionTreeTx_root (statusInvariant Lasting.halted e) now (σ := s.shape) root s a t
    ⟨⟨rfl, hs.1, hh⟩, trivial⟩ ht
  exact ⟨kept.2.2, i, by rw [identityOf_eq kept.1]; exact hi, hir⟩

section pass

variable {σ : Shape}

theorem on_drop {x : Pending} {s : Database} (h : (I.during (x :: l)).On none σ s) : (I.during l).On none σ s :=
  ⟨h.1, h.2.1, I.drop h.2.2⟩

theorem on_repairTerminalProcessTransitionTx {db : Database} {e : ExecutionId} {row : ExecutionRow} {p : ProcessId}
    (hrow : db.executions.get? e = some row) (hi : σ.1 e = some row.identity) :
    Triple (((I.during (.stalled e row p :: l)).since db).On none σ) (repairTerminalProcessTransitionTx d now e row p)
      fun _ => ((I.during l).since db).On none σ := by
  refine (Triple.processWithExecution (Q := fun r s => ((I.during (.stalled e row p :: l)).since db).On none σ s ∧
    s.processes.get? p = some r.1) fun s process _ _ h hp _ _ => ⟨h, hp⟩).bind fun r => ?_
  obtain ⟨process, row', task⟩ := r
  refine (Triple.ofExcept (Q := fun plan s => ((I.during l).since db).On (some ⟨e, row.identity,
    .route plan process.stepKey process.status.selector (some (p, process)) {} true⟩) σ s)
      fun s plan h hplan => ?_).bind fun plan => ?_
  · obtain ⟨⟨hsh, hs, hI⟩, hp⟩ := h
    obtain rfl := hsh
    exact ⟨rfl, Shaped.some hs.1 hi, I.stalled hs hI.1 hp hplan, hI.2⟩
  let tr : Transit :=
    ⟨e, row.identity, .route plan process.stepKey process.status.selector (some (p, process)) {} true⟩
  refine Triple.ite (fun _ => ?_) fun _ => ?_
  · exact (on_failExecutionIntegrityTx ((I.during l).since db).toTerminalInvariant now tr _ _).bind fun _ =>
      Triple.pure fun _ h => h.1
  · refine (Triple.ofExcept (Q := fun decision s => routeDecision plan e row process.stepKey process.status.selector {} =
      .ok decision ∧ ((I.during l).since db).On (some tr) σ s) fun s decision h hd => ⟨hd, h⟩).bind fun decision =>
        Triple.intro fun hd => ?_
    refine (applies_applyRoutesTx now ((I.during l).since db) tr _ _ _ _ _ row decision _ rfl rfl
      (fun _ _ h => h.2 e row hrow) ⟨_, _, hd⟩).bind fun _ => Triple.pure fun s h => ?_
    rcases tr.rest_cases with hr | hr <;> rw [hr] at h
    · exact h
    · exact h.leave

theorem on_repairWaitTx {e : ExecutionId} {row : ExecutionRow} (hi : σ.1 e = some row.identity) :
    Triple ((I.during (.wait e row :: l)).On none σ) (repairWaitTx now e row) fun _ => (I.during l).On none σ := by
  have fail (G : Database → Prop) (hG : ∀ s, G s → (I.during (.wait e row :: l)).On none σ s ∧ s.WaitInvalid e row)
      (errorCode message : String) : Triple G (do
        failExecutionIntegrityTx now e errorCode message
        pure 1) fun _ => (I.during l).On none σ := by
    refine Triple.bind (Triple.pre (on_failExecutionIntegrityTx (I.during l).toTerminalInvariant now
      ⟨e, row.identity, .broken⟩ errorCode message (σ := σ)) fun s h => ?_) fun _ => Triple.pure fun _ h => h.1
    obtain ⟨⟨hsh, hs, hI⟩, hinvalid⟩ := hG s h
    obtain rfl := hsh
    exact ⟨rfl, Shaped.some hs.1 hi, I.breakWait hs hI hinvalid⟩
  have skip : Triple ((I.during (.wait e row :: l)).On none σ) (pure 0 : Tx Nat) fun _ => (I.during l).On none σ :=
    Triple.pure fun _ h => on_drop I h
  unfold repairWaitTx
  cases hreason : row.waitingReason with
  | none => exact fail _ (fun s h => ⟨h, by simp [WaitInvalid, hreason]⟩) _ _
  | some reason =>
    cases reason with
    | scatterChildren =>
      refine Triple.bind (Triple.pre (on_maybeConvergeScatterRootTx (I.during l).toTerminalInvariant now e)
        fun s h => on_drop I h) fun changed => Triple.keep
    | durablePrerequisite =>
      have rest (parent : Option ExecutionRow) : Triple ((I.during (.wait e row :: l)).On none σ)
          (repairPrerequisiteTx now e row parent) fun _ => (I.during l).On none σ := by
        refine Triple.ite (fun _ => ?_) fun _ => fail _ (fun s h => ⟨h, by simp [WaitInvalid, hreason]⟩) _ _
        split
        · refine Triple.ite (fun _ => ?_) fun _ => skip
          exact Triple.bind (Triple.pre (on_cancelExecutionTreeTx (I.during l).toTerminalInvariant now _)
            fun s h => on_drop I h) fun _ => Triple.keep
        · exact skip
      dsimp only
      cases hparent : row.parent with
      | none => simpa only [hparent, pure_bind] using rest none
      | some id =>
        refine Triple.bind (Triple.execution fun _ _ h _ => h) fun parent => ?_
        simpa only [hparent, pure_bind] using rest (some parent)
    | humanReview =>
      refine Triple.get.bind fun db => Triple.ite (fun _ => skip.pre fun s h => h.2) fun hv => ?_
      exact fail _ (fun s h => ⟨h.2, by simpa [WaitInvalid, hreason, ← h.1] using hv⟩) _ _
    | retryDue =>
      refine Triple.get.bind fun db => Triple.ite (fun _ => skip.pre fun s h => h.2) fun hv => ?_
      exact fail _ (fun s h => ⟨h.2, by simpa [WaitInvalid, hreason, ← h.1] using hv⟩) _ _

theorem on_sumEach_pending {J : List Pending → RouteInvariant d} {α : Type} (mk : α → Pending) {f : α → Tx Nat}
    (xs : List α) (h : ∀ a ∈ xs, ∀ l, Triple ((J (mk a :: l)).On none σ) (f a) fun _ => (J l).On none σ) :
    Triple ((J (xs.map mk)).On none σ) (sumEach xs f) fun _ => (J []).On none σ := by
  induction xs with
  | nil => exact Triple.keep
  | cons a xs ih =>
    exact (h a (by simp) _).bind fun _ => (ih fun b hb => h b (by simp [hb])).bind fun _ => Triple.keep

end pass

theorem sound_repairStalled (db : Database) :
    Triple (fun s => db = s ∧ I.Sound [] s)
      (sumEach db.stalled fun r => repairTerminalProcessTransitionTx d now r.1 r.2.1 r.2.2) fun _ => I.Sound [] := by
  rintro s a t ⟨rfl, hs⟩ ht
  refine (On.of_since (on_sumEach_pending (J := fun l => (I.during l).since db) (σ := db.shape)
    (fun r => .stalled r.1 r.2.1 r.2.2) _ (fun r hr l => ?_) db a t
      (On.since ⟨rfl, hs.1, I.pendStalled hs.1 hs.2⟩) ht)).2
  obtain ⟨q, hq, hr⟩ := List.mem_filterMap.1 hr
  obtain ⟨p, -, rfl⟩ := Option.map_eq_some_iff.1 hr
  have hrow := Table.get?_eq_some_iff.2 hq
  exact on_repairTerminalProcessTransitionTx I now hrow (identityOf_of_get? hrow)

theorem sound_repairWaits (db : Database) :
    Triple (fun s => db = s ∧ I.Sound [] s)
      (sumEach (db.executions.select fun _ row => row.status == .waiting) fun r => repairWaitTx now r.1 r.2)
      fun _ => I.Sound [] := by
  rintro s a t ⟨rfl, hs⟩ ht
  refine (on_sumEach_pending (J := I.during) (σ := db.shape) (fun r => .wait r.1 r.2) _ (fun r hr l => ?_) db a t
    ⟨rfl, hs.1, I.pendWaits hs.1 hs.2⟩ ht).2
  exact on_repairWaitTx I now (identityOf_of_get? (Table.mem_select.1 hr).1)

/-! ### terminal projections -/

theorem ended_updateExecution {s : Database} {e k : ExecutionId} {row : ExecutionRow} {f : ExecutionRow → ExecutionRow}
    (hi : ∀ r, (f r).identity = r.identity) (hf : ∀ r, (f r).status = r.status) (h : s.Ended e row) :
    (s.updateExecution k f).Ended e row := by
  obtain ⟨ht, hr, current, hcur, hs, hid⟩ := h
  refine ⟨ht, hr, if e = k then f current else current, by simp [updateExecution, Table.get?_modify, hcur], ?_⟩
  split
  · exact ⟨(hf _).trans hs, (hi _).trans hid⟩
  · exact ⟨hs, hid⟩

theorem sound_repairTerminalProjectionTx (root : ExecutionId × ExecutionRow) (roots : List (ExecutionId × ExecutionRow))
    (hmem : root ∈ roots) :
    Triple (fun s => I.Sound [] s ∧ ∀ r ∈ roots, s.Ended r.1 r.2) (repairTerminalProjectionTx now root)
      fun _ s => I.Sound [] s ∧ ∀ r ∈ roots, s.Ended r.1 r.2 := by
  have recounted : Triple (fun s => ∀ r ∈ roots, s.Ended r.1 r.2) (refreshExecutionCountsTx root.1)
      fun _ s => ∀ r ∈ roots, s.Ended r.1 r.2 :=
    Triple.refreshExecutionCountsTx (fun s k f hf h r hr => ended_updateExecution
      (fun q => by obtain ⟨_, _, hq⟩ := hf q; rw [hq]; rfl) (fun q => by obtain ⟨_, _, hq⟩ := hf q; rw [hq]) (h r hr))
      fun s k f _ h => h
  refine ((sound_refresh _).and recounted).bind fun _ => ?_
  have cleared : Triple (fun s => ∀ r ∈ roots, s.Ended r.1 r.2) (casExecution root.1 (·.currentProcess.isSome) fun r =>
      { r with currentProcess := none, rowRevision := r.rowRevision + 1 }) fun _ s => ∀ r ∈ roots, s.Ended r.1 r.2 :=
    Triple.casExecution (fun _ h _ => h) fun s _ h _ _ r hr =>
      ended_updateExecution (by intro _; rfl) (by intro _; rfl) (h r hr)
  refine Triple.bind (Triple.pre (Triple.and (sound_write (ExecutionFrame.shape.casExecution (fun _ => by rfl) _ _)
    (I.clearCurrent root.1 root.2)) cleared) fun s h => ⟨⟨h.1, h.2 root hmem⟩, h.2⟩) fun updated => ?_
  have projected : Triple (fun s => ∀ r ∈ roots, s.Ended r.1 r.2)
      (projectTaskStatusTx now root.2.task (root.2.terminalProjection root.1)) fun _ s => ∀ r ∈ roots, s.Ended r.1 r.2 := by
    intro s b t hs ht
    unfold Ended at *
    rwa [keeps_executions_projectTaskStatusTx _ _ _ s b t ht]
  exact Triple.bind (Triple.pre (Triple.and (sound_write (ExecutionFrame.shape.projectTaskStatusTx _ _ _)
    (I.projectTerminal now root.1 root.2)) projected) fun s h => ⟨⟨h.1, h.2 root hmem⟩, h.2⟩) fun _ =>
      Triple.keep

theorem sound_repairTerminalProjectionsTx :
    Triple (I.Sound []) (repairTerminalProjectionsTx now) fun _ => I.Sound [] := by
  refine Triple.get.bind fun db => ?_
  refine Triple.pre (P := fun s => I.Sound [] s ∧ ∀ r ∈ db.terminalRoots, s.Ended r.1 r.2) ?_ ?_
  · exact (Triple.sumEach fun r hr => sound_repairTerminalProjectionTx I now r _ hr).post fun _ _ h => h.1
  · rintro s ⟨rfl, h⟩
    refine ⟨h, fun r hr => ?_⟩
    obtain ⟨hrow, hc⟩ := Table.mem_select.1 hr
    simp only [Bool.and_eq_true, beq_iff_eq] at hc
    exact ⟨hc.2, hc.1, r.2, hrow, rfl, rfl⟩

theorem sound_evaluateCleanupEligibilityTx (limit : Nat) :
    Triple (I.Sound []) (evaluateCleanupEligibilityTx d now limit) fun _ => I.Sound [] := by
  refine Triple.get_frame.bind fun db => Triple.sumEach fun p _ => ?_
  exact sound_write' ((ProcessFrame.shape.casProcess (fun _ => by rfl) _ _).bind fun _ => Keeps.pure _) (I.markCleanup now p)

theorem sound_repairScanTx : Triple (I.Sound []) (repairScanTx d now) fun _ => I.Sound [] := by
  have missing (team : TeamId) (payload : OutboxPayload) (key : DedupeKey) :
      Keeps Database.core (enqueueMissingTx now team payload key) :=
    Keeps.get.bind fun _ => Keeps.ite (Keeps.pure _) ((keeps_core_enqueueTx _ _ _ _).bind fun _ => Keeps.pure _)
  refine Triple.get_frame.bind fun db => ?_
  refine (Triple.sumEach fun r _ => sound_core (Keeps.get.bind fun _ => Keeps.ite (Keeps.pure _)
    ((keeps_core_enqueueTx _ _ _ _).bind fun _ => Keeps.pure _))).bind fun decisions => Triple.get.bind fun db => ?_
  refine Triple.bind (Triple.pre (sound_cancelRoots I now db.cancellingRoots) fun s h => ?_) fun cancelled => ?_
  · obtain ⟨rfl, h⟩ := h
    refine ⟨h, fun e he => ?_⟩
    simp only [cancellingRoots, List.mem_map, Prod.exists, exists_and_right, exists_eq_right, Table.mem_select,
      Bool.and_eq_true, beq_iff_eq] at he
    obtain ⟨row, hrow, hroot, hstatus⟩ := he
    exact ⟨⟨row, hrow, Or.inr hstatus⟩, row.identity, identityOf_of_get? hrow, hroot⟩
  refine Triple.get_frame.bind fun db => (Triple.sumEach fun p _ => sound_core (missing _ _ _)).bind fun processes => ?_
  refine Triple.get_frame.bind fun db => (Triple.sumEach fun p _ => sound_core (missing _ _ _)).bind fun executions => ?_
  refine Triple.get.bind fun db => (sound_repairStalled I now db).bind fun stalled => ?_
  refine Triple.get.bind fun db => (sound_repairWaits I now db).bind fun waited => ?_
  exact (sound_repairTerminalProjectionsTx I now).bind fun projected =>
    (sound_evaluateCleanupEligibilityTx I now 256).bind fun marked => Triple.keep

end deliveries

end KnowledgeBase
