import KnowledgeBase.Properties.ClaimIsolation
import KnowledgeBase.Properties.CriticalDelivery
import KnowledgeBase.Simulation.Routes
import KnowledgeBase.Simulation.Selection

/-!
# The two ways out of a gate

`resolve_gate` decides a gate and routes on in one transaction; the Task surface decides it and the consumer of the
decision routes on. The resolver routes in a context without facts, so the two agree when the facts of the Execution
are silent on the routes out of the gate and the Task surface admits the decision.
-/

namespace KnowledgeBase

open Transaction

/-! ### writes that find their row -/

theorem run_casExecution {e : ExecutionId} {c : ExecutionRow → Bool} {f : ExecutionRow → ExecutionRow} {db : Database}
    {row : ExecutionRow} (hrow : db.executions.get? e = some row) (hc : c row = true) :
    (casExecution e c f).run db = .ok (true, { db with executions := db.executions.modify e f }) := by
  unfold casExecution compareAndSet
  rw [run_bind_of_ok (run_get_ok.2 ⟨rfl, rfl⟩)]
  simp only [hrow, hc, if_true]
  rfl

theorem run_casGate {g : GateId} {c : GateRow → Bool} {f : GateRow → GateRow} {db : Database} {gate : GateRow}
    (hgate : db.gates.get? g = some gate) (hc : c gate = true) :
    (casGate g c f).run db = .ok (true, { db with gates := db.gates.modify g f }) := by
  unfold casGate compareAndSet
  rw [run_bind_of_ok (run_get_ok.2 ⟨rfl, rfl⟩)]
  simp only [hgate, hc, if_true]
  rfl

/-! ### the gate and its Execution -/

/-- The gate is open, and its Execution waits for the review. -/
structure Database.AwaitsReview (db : Database) (g : GateId) (gate : GateRow) (row : ExecutionRow) : Prop where
  stored : db.gates.get? g = some gate
  opened : gate.status = .opened
  waits : db.executions.get? gate.execution = some row
  waiting : row.status = .waiting
  reason : row.waitingReason = some .humanReview
  ref : row.waitingRef = some (.gate g)

/-- The same decision as a command of the Task surface. -/
def GateResolution.command (r : GateResolution) (gate : GateRow) : GateDecisionRequest where
  task := gate.task
  gate := r.gate
  expectedGateRevision := r.expectedGateRevision
  target := gate.target
  action := r.action
  idempotencyKey := r.idempotencyKey
  actorFingerprint := r.actorFingerprint

/-- The row of a decided gate. -/
def GateRow.decide (gate : GateRow) (action : GateAction) : GateRow :=
  { gate with status := action.gateStatus, gateRevision := gate.gateRevision + 1 }

/-- The key of the resolution was not used for its gate. -/
def GateResolution.Fresh (r : GateResolution) (db : Database) : Prop :=
  db.decisions.any (fun _ q => q.gate == r.gate && q.idempotencyKey == r.idempotencyKey) = false

/-- The row an action is routed on. -/
def GateResolution.routedRow (r : GateResolution) (row : ExecutionRow) : ExecutionRow :=
  if r.action == .approve then row.resume else row

/-- The store `resolve_gate` routes from. -/
def GateResolution.resolved (r : GateResolution) (now : Time) (gate : GateRow) (row : ExecutionRow) (db : Database) :
    Database :=
  let db := { db with
    decisions := db.decisions.insert (r.row gate)
    gates := db.gates.modify r.gate (·.decide r.action) }
  let db := applyHumanReviewItemLifecycle now r.action row db
  if r.action == .approve then { db with executions := db.executions.modify gate.execution ExecutionRow.resume } else db

theorem applyHumanReviewItemLifecycle_executions (now : Time) (action : GateAction) (row : ExecutionRow)
    (db : Database) : (applyHumanReviewItemLifecycle now action row db).executions = db.executions := by
  unfold applyHumanReviewItemLifecycle
  split <;> rfl

variable {d : Deployment} {now : Time} {db : Database} {r : GateResolution} {gate : GateRow} {row : ExecutionRow}

theorem run_resolvedRowTx {s : Database} (hrow : s.executions.get? gate.execution = some row)
    (hwaiting : row.status = .waiting) (href : row.waitingRef = some (.gate r.gate)) :
    (resolvedRowTx gate.execution r.gate r.action row).run s = .ok (r.routedRow row,
      if r.action == .approve then { s with executions := s.executions.modify gate.execution ExecutionRow.resume }
      else s) := by
  unfold resolvedRowTx GateResolution.routedRow
  split
  · rw [run_bind_of_ok (run_casExecution hrow (by simp [hwaiting, href]))]
    refine run_execution ?_
    rw [Table.get?_modify_self, hrow]
    rfl
  · rfl

theorem run_decide {s : Database} (hopen : gate.status = .opened) (hrevision : gate.gateRevision = r.expectedGateRevision)
    (hgate : s.gates.get? r.gate = some gate) :
    (casGate r.gate (fun g => g.status == .opened && g.gateRevision == r.expectedGateRevision) fun g =>
      { g with status := r.action.gateStatus, gateRevision := g.gateRevision + 1 }).run s =
      .ok (true, { s with gates := s.gates.modify r.gate (·.decide r.action) }) :=
  run_casGate hgate (by simp [hopen, hrevision])

theorem run_resolvedRoutingTx (d : Deployment) (now : Time) (h : db.AwaitsReview r.gate gate row) (hfresh : r.Fresh db)
    {p : Option GateRouting × Database} : (resolvedRoutingTx d now r).run db = .ok p ↔
      gate.gateRevision = r.expectedGateRevision ∧ gate.target.allowedActions.contains r.action = true ∧
      ∃ plan, assertExecutionBinding d row = .ok plan ∧ ∃ control, controlStep plan gate.gateKind = .ok control ∧
      ∃ selected, resolveSelector r.action = .ok selected ∧
      ∃ decision, routeDecision plan gate.execution (r.routedRow row) control.stepKey selected.1 r.action.context =
        .ok decision ∧
      (some ⟨plan, gate.execution, r.routedRow row, decision, r.action.context, selected.2⟩,
        r.resolved now gate row db) = p := by
  unfold resolvedRoutingTx
  have hopen : (gate.status != .opened || gate.gateRevision != r.expectedGateRevision) = false ↔
      gate.gateRevision = r.expectedGateRevision := by simp [h.opened]
  rw [run_bind_of_ok (x := get) rfl, run_bind_of_ok (run_orRaise_ok.2 ⟨h.stored, rfl⟩), if_neg (by rw [hfresh]; simp),
    run_raiseIf_bind, hopen]
  refine and_congr_right fun hrevision => ?_
  rw [run_raiseIf_bind]
  refine and_congr (by simp) ?_
  rw [run_bind_of_ok (run_execution h.waits), run_ofExcept_bind]
  refine exists_congr fun plan => and_congr_right fun _ => ?_
  have hstored : { db with decisions := db.decisions.insert (r.row gate) }.gates.get? r.gate = some gate := h.stored
  rw [run_raiseIf_bind, and_iff_right (by simp [h.waiting, h.ref]), run_bind_of_ok (x := modify _) rfl,
    run_bind_of_ok (run_decide h.opened hrevision hstored), run_raiseIf_bind,
    and_iff_right (show (!true) = false from rfl), run_ofExcept_bind]
  refine exists_congr fun control => and_congr_right fun _ => ?_
  rw [run_ofExcept_bind]
  refine exists_congr fun selected => and_congr_right fun _ => ?_
  obtain ⟨selector, terminalError⟩ := selected
  simp only
  rw [run_bind_of_ok (x := modify _) rfl]
  have hrow : (applyHumanReviewItemLifecycle now r.action row { db with
      decisions := db.decisions.insert (r.row gate)
      gates := db.gates.modify r.gate (·.decide r.action) }).executions.get? gate.execution = some row := by
    rw [applyHumanReviewItemLifecycle_executions]
    exact h.waits
  rw [run_bind_of_ok (run_resolvedRowTx hrow h.waiting h.ref), run_ofExcept_bind]
  refine exists_congr fun decision => and_congr_right fun _ => ?_
  exact Eq.to_iff (Except.ok.injEq _ _)

/-! ### the decision and its consumer -/

/-- The capacity check of the Task surface: it is not made of a rejection. -/
def GateResolution.WithinCapacity (r : GateResolution) (d : Deployment) (task : TaskRow) : Prop :=
  r.action ≠ .reject → assertModelCapacityAllowed d task.priority task.requestIntent = .ok ()

/-- The store the consumer finds. -/
def GateResolution.decided (r : GateResolution) (gate : GateRow) (task : TaskRow) (rows : Table OutboxRow)
    (db : Database) : Database :=
  { db with
    decisions := db.decisions.insert ((r.command gate).row task.team)
    gates := db.gates.modify r.gate (·.decide r.action)
    outbox := rows }

/-- The store the consumer routes from. -/
def GateResolution.consumed (r : GateResolution) (now : Time) (gate : GateRow) (row : ExecutionRow) (db : Database) :
    Database :=
  applyHumanReviewItemLifecycle now r.action row.resume
    { db with executions := db.executions.modify gate.execution ExecutionRow.resume }

theorem run_enqueueTx (now : Time) (team : TeamId) (payload : OutboxPayload) (key : DedupeKey) (s : Database) :
    ∃ rows : Table OutboxRow, (enqueueTx now team payload key).run s = .ok (⟨⟩, { s with outbox := rows }) := by
  by_cases hkey : s.hasOutboxKey team key
  · refine ⟨s.outbox, congrArg (fun t => Except.ok (PUnit.unit, t)) ?_⟩
    exact if_pos hkey
  · exact ⟨_, congrArg (fun t => Except.ok (PUnit.unit, t)) (if_neg hkey)⟩

variable {task : TaskRow}

theorem head_select_of_fresh (h : r.Fresh db) :
    (db.decisions.select fun _ q => q.gate == r.gate && q.idempotencyKey == r.idempotencyKey).head? = none := by
  rw [List.head?_eq_none_iff]
  refine List.filter_eq_nil_iff.2 fun q hq => ?_
  exact Bool.not_eq_true _ ▸ List.any_eq_false.1 h q hq

theorem run_decideGateTx (d : Deployment) (now : Time) (h : db.AwaitsReview r.gate gate row) (hfresh : r.Fresh db)
    (htask : ((db.tasks.get? gate.task).filter fun task => !task.deleted) = some task) : ∃ rows, ∀ p,
      (decideGateTx d now (r.command gate)).run db = .ok p ↔ r.WithinCapacity d task ∧
        gate.gateRevision = r.expectedGateRevision ∧ gate.target.allowedActions.contains r.action = true ∧
        gate.controls r.gate row = true ∧ ((db.decisions.next, false), r.decided gate task rows db) = p := by
  obtain ⟨rows, hrows⟩ := run_enqueueTx now task.team
    (.gateDecision db.decisions.next (some gate.task) (some gate.generation)) (.gateDecision db.decisions.next)
    { db with
      decisions := db.decisions.insert ((r.command gate).row task.team)
      gates := db.gates.modify r.gate (·.decide r.action) }
  refine ⟨rows, fun p => ?_⟩
  have hgate : ((db.gates.get? (r.command gate).gate).filter fun q => q.task == (r.command gate).task) = some gate := by
    have hget : db.gates.get? (r.command gate).gate = some gate := h.stored
    rw [hget]
    simp [GateResolution.command]
  have hselect : (db.decisions.select fun _ q => q.gate == (r.command gate).gate &&
      q.idempotencyKey == (r.command gate).idempotencyKey).head? = none := head_select_of_fresh hfresh
  have hcontrols : (!(db.executions.get? gate.execution).any (gate.controls r.gate)) = false ↔
      gate.controls r.gate row = true := by
    rw [h.waits]
    simp
  have hcapacity : ((r.action == .approve || r.action == .reclean) = true →
      assertModelCapacityAllowed d task.priority task.requestIntent = .ok ()) ↔ r.WithinCapacity d task := by
    unfold GateResolution.WithinCapacity
    cases r.action <;> simp
  unfold decideGateTx
  rw [run_bind_of_ok (x := get) rfl]
  refine (Eq.to_iff (congrArg (· = _) (run_bind_of_ok (run_orRaise_ok.2 ⟨htask, rfl⟩)))).trans ?_
  rw [run_bind_of_ok (run_orRaise_ok.2 ⟨hgate, rfl⟩), hselect]
  refine run_ofExcept_when.trans (and_congr hcapacity ?_)
  rw [run_raiseIf_bind, and_iff_right (by simp [h.opened]), run_raiseIf_bind]
  have hrev : (gate.gateRevision != (r.command gate).expectedGateRevision) = false ↔
      gate.gateRevision = r.expectedGateRevision := by simp [GateResolution.command]
  rw [hrev]
  refine and_congr_right fun hrevision => ?_
  have hstored : { db with decisions := db.decisions.insert ((r.command gate).row task.team) }.gates.get? r.gate =
      some gate := h.stored
  rw [run_raiseIf_bind, and_iff_right (by simp [GateResolution.command]), run_raiseIf_bind]
  refine and_congr (by simp [GateResolution.command]) ?_
  rw [run_raiseIf_bind]
  refine and_congr hcontrols ?_
  rw [run_bind_of_ok (x := modify _) rfl]
  refine (Eq.to_iff (congrArg (· = _) (run_bind_of_ok (run_decide h.opened hrevision hstored)))).trans ?_
  rw [run_raiseIf_bind, and_iff_right (show (!true) = false from rfl)]
  refine (Eq.to_iff (congrArg (· = _) (run_bind_of_ok hrows))).trans ?_
  exact Eq.to_iff (Except.ok.injEq _ _)

/-- The decision and what the consumer has in hand when it takes its route. -/
def decidedRoutingTx (d : Deployment) (now : Time) (request : GateDecisionRequest) : Tx (Bool ⊕ GateRouting) := do
  let (decision, _) ← decideGateTx d now request
  consumedRoutingTx d now decision

theorem run_consumedRoutingTx (h : db.AwaitsReview r.gate gate row) (rows : Table OutboxRow)
    {p : (Bool ⊕ GateRouting) × Database} :
    (consumedRoutingTx d now db.decisions.next).run (r.decided gate task rows db) = .ok p ↔
      gate.target.allowedActions.contains r.action = true ∧
      ∃ q, gateRoute d (r.decided gate task rows db) gate.execution row.resume gate.gateKind r.action = .ok q ∧
      (.inr ⟨q.1, gate.execution, row.resume, q.2.1, q.2.2.1, q.2.2.2⟩,
        r.consumed now gate row (r.decided gate task rows db)) = p := by
  have hfound : (((r.decided gate task rows db).decisions.get? db.decisions.next).bind fun q =>
      ((r.decided gate task rows db).gates.get? q.gate).map fun g => (q, g)) =
        some ((r.command gate).row task.team, gate.decide r.action) := by
    have hdecision : (r.decided gate task rows db).decisions.get? db.decisions.next =
        some ((r.command gate).row task.team) := Table.get?_insert_self _ _
    have hgate : (r.decided gate task rows db).gates.get? ((r.command gate).row task.team).gate =
        some (gate.decide r.action) := by
      have hself : (r.decided gate task rows db).gates.get? r.gate = some (gate.decide r.action) := by
        show (db.gates.modify r.gate _).get? r.gate = _
        rw [Table.get?_modify_self, h.stored]
        rfl
      exact hself
    rw [hdecision, Option.bind_some, hgate]
    rfl
  have hwaits : (r.decided gate task rows db).executions.get? gate.execution = some row := h.waits
  have hresume : (resumeFromGateTx gate.execution r.gate row).run (r.decided gate task rows db) =
      .ok (row.resume, { r.decided gate task rows db with
        executions := (r.decided gate task rows db).executions.modify gate.execution ExecutionRow.resume }) := by
    unfold resumeFromGateTx
    rw [if_neg (by simp [h.waiting])]
    refine (run_bind_of_ok (run_casExecution hwaits (by simp [h.waiting, h.ref]))).trans ?_
    refine (run_bind_of_ok (x := raiseIf _ _) rfl).trans (run_execution ?_)
    rw [Table.get?_modify_self, hwaits]
    rfl
  unfold consumedRoutingTx
  rw [run_bind_of_ok (x := get) rfl, run_bind_of_ok (run_orRaise_ok.2 ⟨hfound, rfl⟩)]
  simp only
  rw [run_raiseIf_bind]
  refine and_congr (by simp [GateRow.decide, GateDecisionRequest.row, GateResolution.command]) ?_
  rw [run_raiseIf_bind, and_iff_right (by simp [GateRow.decide, GateDecisionRequest.row, GateResolution.command]),
    run_raiseIf_bind, and_iff_right (by simp [GateRow.decide, GateDecisionRequest.row, GateResolution.command])]
  refine (Eq.to_iff (congrArg (· = _) (run_bind_of_ok (run_execution hwaits)))).trans ?_
  rw [if_neg (by simp [h.waiting]), if_neg (by rw [h.waiting]; simp [ExecutionStatus.isTerminal])]
  refine (Eq.to_iff (congrArg (· = _) (run_bind_of_ok hresume))).trans ?_
  rw [run_bind_of_ok (x := get) rfl, run_ofExcept_bind]
  refine exists_congr fun q => and_congr_right fun _ => ?_
  obtain ⟨plan, decision, typed, terminalError⟩ := q
  exact Eq.to_iff (Except.ok.injEq _ _)

/-- The facts the consumer routes an action with. -/
def gateContext (d : Deployment) (db : Database) (e : ExecutionId) (row : ExecutionRow) (action : GateAction) :
    RouteContext :=
  { typedRouteContext d db e row with gateAction := some action }

theorem gateRoute_eq_ok_iff {s : Database} {e : ExecutionId} {kind : String} {action : GateAction}
    (hready : row.status = .ready) {q : WorkflowDefinition × RouteDecision × RouteContext × Option String} :
    gateRoute d s e row kind action = .ok q ↔ ∃ plan, assertExecutionBinding d row = .ok plan ∧
      ∃ control, controlStep plan kind = .ok control ∧ ∃ selected, gateSelector action = .ok selected ∧
      ∃ decision, routeDecision plan e row control.stepKey selected.1 (gateContext d s e row action) = .ok decision ∧
      (plan, decision, gateContext d s e row action, selected.2) = q := by
  unfold gateRoute
  rw [Checked.bind_ok_iff]
  refine exists_congr fun plan => and_congr_right fun _ => ?_
  rw [Checked.bind_ok_iff]
  refine exists_congr fun control => and_congr_right fun _ => ?_
  rw [Checked.bind_ok_iff]
  refine exists_congr fun selected => and_congr_right fun _ => ?_
  obtain ⟨selector, terminalError⟩ := selected
  simp only
  rw [if_neg (by simp [hready]), Checked.bind_ok_iff]
  exact exists_congr fun decision => and_congr_right fun _ => Eq.to_iff (Except.ok.injEq _ _)

theorem run_decidedRoutingTx (d : Deployment) (now : Time) (h : db.AwaitsReview r.gate gate row) (hfresh : r.Fresh db)
    (htask : ((db.tasks.get? gate.task).filter fun task => !task.deleted) = some task) : ∃ rows, ∀ p,
      (decidedRoutingTx d now (r.command gate)).run db = .ok p ↔ r.WithinCapacity d task ∧
        gate.gateRevision = r.expectedGateRevision ∧ gate.target.allowedActions.contains r.action = true ∧
        gate.controls r.gate row = true ∧
        ∃ plan, assertExecutionBinding d row = .ok plan ∧ ∃ control, controlStep plan gate.gateKind = .ok control ∧
        ∃ selected, gateSelector r.action = .ok selected ∧
        ∃ decision, routeDecision plan gate.execution row.resume control.stepKey selected.1
          (gateContext d db gate.execution row r.action) = .ok decision ∧
        (.inr ⟨plan, gate.execution, row.resume, decision, gateContext d db gate.execution row r.action, selected.2⟩,
          r.consumed now gate row (r.decided gate task rows db)) = p := by
  obtain ⟨rows, hrows⟩ := run_decideGateTx d now h hfresh htask
  refine ⟨rows, fun p => ?_⟩
  have hroute : ∀ q, gateRoute d (r.decided gate task rows db) gate.execution row.resume gate.gateKind r.action = .ok q ↔ _ :=
    fun q => gateRoute_eq_ok_iff (by rfl)
  unfold decidedRoutingTx
  obtain ⟨y, t⟩ := p
  rw [run_bind_ok]
  constructor
  · rintro ⟨⟨decision, replayed⟩, s, hdecide, hconsume⟩
    obtain ⟨hcapacity, hrevision, hallowed, hcontrols, heq⟩ := (hrows _).1 hdecide
    cases heq
    obtain ⟨-, q, hq, hp⟩ := (run_consumedRoutingTx h rows).1 hconsume
    obtain ⟨plan, hplan, control, hcontrol, selected, hselected, decision, hdecision, rfl⟩ := (hroute q).1 hq
    exact ⟨hcapacity, hrevision, hallowed, hcontrols, plan, hplan, control, hcontrol, selected, hselected, decision,
      hdecision, hp⟩
  · rintro ⟨hcapacity, hrevision, hallowed, hcontrols, plan, hplan, control, hcontrol, selected, hselected, decision,
      hdecision, hp⟩
    refine ⟨_, _, (hrows _).2 ⟨hcapacity, hrevision, hallowed, hcontrols, rfl⟩, ?_⟩
    exact (run_consumedRoutingTx h rows).2 ⟨hallowed, _, (hroute _).2 ⟨plan, hplan, control, hcontrol, selected, hselected,
      decision, hdecision, rfl⟩, hp⟩

/-! ### agreement -/

theorem decideThenConsumeTx_eq (d : Deployment) (now : Time) (request : GateDecisionRequest) :
    decideThenConsumeTx d now request = (do
      match ← decidedRoutingTx d now request with
      | .inl settled => pure settled
      | .inr routing => routing.takeTx d now) := by
  unfold decideThenConsumeTx decidedRoutingTx
  rw [bind_assoc]
  refine bind_congr fun p => ?_
  exact consumeGateDecisionTx_eq d now p.1

/-- The routes `resolve_gate` selects. -/
def resolvedRoutesTx (d : Deployment) (now : Time) (r : GateResolution) : Tx (List WorkflowRouteDefinition) := do
  match ← resolvedRoutingTx d now r with
  | none => pure []
  | some routing => pure routing.decision.routes

/-- The routes the consumer of a decision selects. -/
def decidedRoutesTx (d : Deployment) (now : Time) (request : GateDecisionRequest) :
    Tx (List WorkflowRouteDefinition) := do
  match ← decidedRoutingTx d now request with
  | .inl _ => pure []
  | .inr routing => pure routing.decision.routes

/-- Both resolvers refuse, or both commit to the same Item rows and the same status of the Execution, having
selected the same routes. -/
def ResolversAgree (d : Deployment) (now : Time) (db : Database) (r : GateResolution) (gate : GateRow) : Prop :=
  BothEnd (fun _ _ s t => s.facts.items = t.facts.items ∧
      (s.executions.get? gate.execution).map (·.status) = (t.executions.get? gate.execution).map (·.status) ∧
      (resolvedRoutesTx d now r).result? db = (decidedRoutesTx d now (r.command gate)).result? db)
    ((resolveGateTx d now r).run db) ((decideThenConsumeTx d now (r.command gate)).run db)

/-- The Task surface admits the decision, and the facts of the Execution are silent on the routes out of its gate. -/
structure ResolversConcur (d : Deployment) (db : Database) (r : GateResolution) (gate : GateRow) (row : ExecutionRow) :
    Prop where
  fresh : r.Fresh db
  task : ∃ task, ((db.tasks.get? gate.task).filter fun task => !task.deleted) = some task ∧ r.WithinCapacity d task
  controls : gate.controls r.gate row = true
  facts : ∀ plan control selected, assertExecutionBinding d row = .ok plan →
    controlStep plan gate.gateKind = .ok control → gateSelector r.action = .ok selected →
    FactsSilent plan control.stepKey selected.1 (gateContext d db gate.execution row r.action)

/-- A rejection has not been routed before: no Process of the Execution came from the gate's control step, or from a
selected-output control behind it, and no other review gate of the Execution is open. -/
def GateResolution.RejectsFirst (r : GateResolution) (d : Deployment) (db : Database) (gate : GateRow)
    (row : ExecutionRow) : Prop :=
  r.action = .reject → ∀ plan control, assertExecutionBinding d row = .ok plan →
    controlStep plan gate.gateKind = .ok control →
    (∀ id p, db.processes.get? id = some p → p.execution = gate.execution →
      ¬ plan.Follows control.stepKey p.materializationKey.sourceStepKey) ∧
    ∀ g other, db.gates.get? g = some other → g ≠ r.gate → other.execution = gate.execution → other.status = .opened →
      other.gateKind ≠ "human_review_gate"

/-- The action is refused by a check that both make: the revision, the frozen target, the Execution's Workflow and the
control of its gate, and the actions that have a route. -/
def GateResolution.RefusedAlike (r : GateResolution) (d : Deployment) (gate : GateRow) (row : ExecutionRow) : Prop :=
  gate.gateRevision ≠ r.expectedGateRevision ∨ gate.target.allowedActions.contains r.action = false ∨
  (∀ plan, assertExecutionBinding d row = .ok plan → ∀ control, controlStep plan gate.gateKind ≠ .ok control) ∨
  r.action = .reclean

/-! ### the stores the two route from -/

theorem resolved_rest (r : GateResolution) (now : Time) (gate : GateRow) (row : ExecutionRow) (db : Database) :
    (r.resolved now gate row db).processes = db.processes ∧
      (r.resolved now gate row db).gates = db.gates.modify r.gate (·.decide r.action) := by
  unfold GateResolution.resolved applyHumanReviewItemLifecycle
  dsimp only
  split <;> split <;> exact ⟨rfl, rfl⟩

theorem overlay_resolved (r : GateResolution) (now : Time) (gate : GateRow) (row : ExecutionRow) (task : TaskRow)
    (rows : Table OutboxRow) (db : Database) :
    (r.resolved now gate row db).overlay (r.consumed now gate row (r.decided gate task rows db)) =
      r.resolved now gate row db := by
  unfold GateResolution.resolved GateResolution.consumed applyHumanReviewItemLifecycle
  dsimp only [ExecutionRow.resume]
  cases row.intakeSnapshot with
  | none => split <;> rfl
  | some snapshot => split <;> rfl

theorem consumed_tables (r : GateResolution) (now : Time) (gate : GateRow) (row : ExecutionRow) (task : TaskRow)
    (rows : Table OutboxRow) (db : Database) :
    (r.consumed now gate row (r.decided gate task rows db)).tasks = db.tasks ∧
      (r.consumed now gate row (r.decided gate task rows db)).executions =
        db.executions.modify gate.execution ExecutionRow.resume := by
  unfold GateResolution.consumed applyHumanReviewItemLifecycle
  split <;> exact ⟨rfl, rfl⟩

theorem resolved_tables (r : GateResolution) (now : Time) (gate : GateRow) (row : ExecutionRow) (db : Database) :
    (r.resolved now gate row db).tasks = db.tasks ∧
      (r.resolved now gate row db).executions =
        if r.action == .approve then db.executions.modify gate.execution ExecutionRow.resume else db.executions := by
  unfold GateResolution.resolved applyHumanReviewItemLifecycle
  dsimp only
  split <;> split <;> exact ⟨rfl, rfl⟩

theorem alike_resume (h : db.AwaitsReview r.gate gate row) : row.Alike True row.resume :=
  ⟨rfl, Or.inr ⟨trivial, h.waiting, h.reason, rfl⟩⟩

/-- What a rejection leaves lagging. -/
def GateResolution.lag (r : GateResolution) (gate : GateRow) : Option ExecutionId :=
  if r.action == .approve then none else some gate.execution

theorem alike_resolved (h : db.AwaitsReview r.gate gate row) (now : Time) (task : TaskRow) (rows : Table OutboxRow) :
    (r.resolved now gate row db).Alike (r.lag gate) (r.consumed now gate row (r.decided gate task rows db)) := by
  obtain ⟨htasks, hexecutions⟩ := resolved_tables r now gate row db
  obtain ⟨htasks', hexecutions'⟩ := consumed_tables r now gate row task rows db
  refine ⟨?_, ?_, overlay_resolved r now gate row task rows db⟩
  · rw [htasks, htasks']
    exact Table.Related.refl (V := fun _ (q q' : TaskRow) => q.shared = q'.shared) (fun _ _ => rfl) _
  · rw [hexecutions, hexecutions']
    unfold GateResolution.lag
    split
    · exact Table.Related.refl (fun _ q => ExecutionRow.Alike.refl q) _
    · refine Table.related_modify (fun q hq => ?_) fun _ q => ExecutionRow.Alike.refl q
      obtain rfl := Option.some.inj (h.waits.symm.trans hq)
      exact (alike_resume h).imp fun _ => rfl

theorem moves_resolved (h : db.AwaitsReview r.gate gate row) (now : Time) (task : TaskRow) (rows : Table OutboxRow)
    {plan : WorkflowDefinition} {control : WorkflowStepDefinition} (hplan : assertExecutionBinding d row = .ok plan)
    (hcontrol : controlStep plan gate.gateKind = .ok control) (haction : r.action ≠ .reclean)
    (hfirst : r.RejectsFirst d db gate row) :
    Moves (r.lag gate) none plan gate.execution control.stepKey (r.resolved now gate row db)
      (r.consumed now gate row (r.decided gate task rows db)) := by
  refine ⟨alike_resolved h now task rows, ?_⟩
  unfold GateResolution.lag
  cases hr : r.action with
  | approve => exact Or.inl rfl
  | reclean => exact absurd hr haction
  | reject =>
    obtain ⟨hprocesses, hgates⟩ := resolved_rest r now gate row db
    obtain ⟨huntaken, hclosed⟩ := hfirst hr plan control hplan hcontrol
    refine Or.inr ⟨fun id p hp he => huntaken id p (hprocesses ▸ hp) he, fun g other hg he hopen => ?_⟩
    rw [hgates, Table.get?_modify] at hg
    obtain ⟨old, hold, rfl⟩ := Option.map_eq_some_iff.1 hg
    by_cases hgr : g = r.gate
    · rw [if_pos hgr] at hopen
      rw [hr] at hopen
      exact absurd hopen (by simp [GateRow.decide, GateAction.gateStatus])
    · rw [if_neg hgr] at he hopen ⊢
      exact hclosed g old hold hgr he hopen

theorem selectors_eq {action : GateAction} {selected : WorkflowOutcomeSelector × Option String} :
    (resolveSelector action = .ok selected → action ≠ .reclean ∧
      ∃ selected', gateSelector action = .ok selected' ∧ selected'.1 = selected.1) ∧
    (gateSelector action = .ok selected → action ≠ .reclean ∧
      ∃ selected', resolveSelector action = .ok selected' ∧ selected'.1 = selected.1) := by
  cases action with
  | approve => exact ⟨fun h => ⟨by simp, _, rfl, by cases h; rfl⟩, fun h => ⟨by simp, _, rfl, by cases h; rfl⟩⟩
  | reject => exact ⟨fun h => ⟨by simp, _, rfl, by cases h; rfl⟩, fun h => ⟨by simp, _, rfl, by cases h; rfl⟩⟩
  | reclean => exact ⟨fun h => (by cases h), fun h => (by cases h)⟩

/-- Two routings of one decision, from alike stores. -/
structure SameRouting (gate : GateRow) (a b : GateRouting) (s t : Database) : Prop where
  plan : a.plan = b.plan
  executions : a.execution = gate.execution ∧ b.execution = gate.execution
  decision : a.decision = b.decision
  rows : a.row.Alike True b.row
  mode : a.context.operationMode = b.context.operationMode
  moves : ∃ lag key, Settles gate.execution lag none ∧ a.decision.LeavesFrom a.plan key ∧
    Moves lag none a.plan gate.execution key s t

theorem sameRouting (h : db.AwaitsReview r.gate gate row) (hfirst : r.RejectsFirst d db gate row) (rows : Table OutboxRow)
    {plan : WorkflowDefinition} {control : WorkflowStepDefinition} (hplan : assertExecutionBinding d row = .ok plan)
    (hcontrol : controlStep plan gate.gateKind = .ok control) (haction : r.action ≠ .reclean)
    {selector : WorkflowOutcomeSelector} {context context' : RouteContext} {error error' : Option String}
    {decision : RouteDecision}
    (hdecision : routeDecision plan gate.execution (r.routedRow row) control.stepKey selector context = .ok decision)
    (hmode : context.operationMode = context'.operationMode) :
    SameRouting gate ⟨plan, gate.execution, r.routedRow row, decision, context, error⟩
      ⟨plan, gate.execution, row.resume, decision, context', error'⟩ (r.resolved now gate row db)
      (r.consumed now gate row (r.decided gate task rows db)) where
  plan := rfl
  executions := ⟨rfl, rfl⟩
  decision := rfl
  rows := by
    unfold GateResolution.routedRow
    split
    · exact ExecutionRow.Alike.refl _
    · exact alike_resume h
  mode := hmode
  moves := by
    refine ⟨r.lag gate, control.stepKey, ?_, leavesFrom_of_routeDecision hdecision,
      moves_resolved h now task rows hplan hcontrol haction hfirst⟩
    unfold GateResolution.lag
    split
    · exact Or.inl rfl
    · exact Or.inr ⟨rfl, rfl⟩

theorem routeDecision_routedRow {plan : WorkflowDefinition} {key : String} {selector : WorkflowOutcomeSelector}
    {e : ExecutionId} {context : RouteContext} (h : FactsSilent plan key selector context) :
    routeDecision plan e (r.routedRow row) key selector r.action.context =
      routeDecision plan e row.resume key selector context := by
  refine routeDecision_silent h ?_ r.action
  unfold GateResolution.routedRow
  split <;> rfl

theorem bothEnd_routing (now : Time) (h : db.AwaitsReview r.gate gate row) (hc : ResolversConcur d db r gate row)
    (hfirst : r.RejectsFirst d db gate row) :
    BothEnd (fun x y s t => ∃ a b, x = some a ∧ y = .inr b ∧ SameRouting gate a b s t)
      ((resolvedRoutingTx d now r).run db) ((decidedRoutingTx d now (r.command gate)).run db) := by
  obtain ⟨task, htask, hcapacity⟩ := hc.task
  obtain ⟨rows, hrun⟩ := run_decidedRoutingTx d now h hc.fresh htask
  cases hx : (resolvedRoutingTx d now r).run db with
  | ok p =>
    obtain ⟨hrevision, hallowed, plan, hplan, control, hcontrol, selected, hselected, decision, hdecision, rfl⟩ :=
      (run_resolvedRoutingTx d now h hc.fresh).1 hx
    obtain ⟨haction, selected', hselected', hsame⟩ := selectors_eq.1 hselected
    have hsilent := hc.facts plan control selected' hplan hcontrol hselected'
    rw [hsame] at hsilent
    have hdecision' : routeDecision plan gate.execution row.resume control.stepKey selected'.1
        (gateContext d db gate.execution row r.action) = .ok decision := by
      rw [hsame, ← routeDecision_routedRow hsilent, hdecision]
    rw [(hrun _).2 ⟨hcapacity, hrevision, hallowed, hc.controls, plan, hplan, control, hcontrol, selected', hselected',
      decision, hdecision', rfl⟩]
    exact ⟨_, _, rfl, rfl, sameRouting h hfirst rows hplan hcontrol haction hdecision rfl⟩
  | error _ =>
    cases hy : (decidedRoutingTx d now (r.command gate)).run db with
    | error _ => trivial
    | ok p =>
      obtain ⟨-, hrevision, hallowed, -, plan, hplan, control, hcontrol, selected, hselected, decision, hdecision, -⟩ :=
        (hrun p).1 hy
      obtain ⟨-, selected', hselected', hsame⟩ := selectors_eq.2 hselected
      have hsilent := hc.facts plan control selected hplan hcontrol hselected
      have hdecision' : routeDecision plan gate.execution (r.routedRow row) control.stepKey selected'.1 r.action.context =
          .ok decision := by
        rw [hsame, routeDecision_routedRow hsilent, hdecision]
      have hok := (run_resolvedRoutingTx d now h hc.fresh).2 ⟨hrevision, hallowed, plan, hplan, control, hcontrol,
        selected', hselected', decision, hdecision', rfl⟩
      rw [hx] at hok
      cases hok

theorem coupled_takeTx (a b : GateRouting) : Coupled (SameRouting gate a b) (a.takeTx d now) (b.takeTx d now)
    (Same (Database.Alike none)) := by
  rintro s t hab
  obtain ⟨lag, key, hl, hfrom, hmoves⟩ := hab.moves
  obtain ⟨plan, e, row, decision, context, error⟩ := a
  obtain ⟨plan', e', row', decision', context', error'⟩ := b
  obtain ⟨rfl, ⟨rfl, rfl⟩, rfl, hrows, hmode, -⟩ := hab
  refine Coupled.bindSame (R := Database.Alike none) (routesAlike_applyRoutesTx d now lag none gate.execution True row row'
    decision none context context' error error' key hl hrows hmode (Or.inl rfl) (Or.inl rfl) hfrom) (fun changed => ?_) s t
    hmoves
  exact (paired_refreshExecutionCountsTx gate.execution).bindSame fun _ => Coupled.done

/-- Where the two concur, they commit to alike stores or both refuse. -/
theorem bothEnd_resolvers (h : db.AwaitsReview r.gate gate row) (hc : ResolversConcur d db r gate row)
    (hfirst : r.RejectsFirst d db gate row) : BothEnd (fun _ _ s t => s.Alike none t)
      ((resolveGateTx d now r).run db) ((decideThenConsumeTx d now (r.command gate)).run db) := by
  rw [decideThenConsumeTx_eq]
  have hselect : Coupled (fun s t => s = db ∧ t = db) (resolvedRoutingTx d now r) (decidedRoutingTx d now (r.command gate))
      (fun x y s t => ∃ a b, x = some a ∧ y = .inr b ∧ SameRouting gate a b s t) := by
    rintro s t ⟨rfl, rfl⟩
    exact bothEnd_routing now h hc hfirst
  refine (hselect.bind fun x y => ?_) db db ⟨rfl, rfl⟩
  rintro s t ⟨a, b, rfl, rfl, hab⟩
  have htake : Coupled (SameRouting gate a b) (do let _ ← a.takeTx d now; pure true) (b.takeTx d now)
      fun _ _ s t => s.Alike none t := by
    rw [← bind_pure (b.takeTx d now)]
    exact (coupled_takeTx a b).bindSame fun _ => Coupled.pure fun _ _ hst => hst
  exact htake s t hab

theorem result_resolvedRoutesTx {routing : GateRouting} {s : Database}
    (hrun : (resolvedRoutingTx d now r).run db = .ok (some routing, s)) :
    (resolvedRoutesTx d now r).result? db = some routing.decision.routes := by
  unfold Transaction.result? resolvedRoutesTx
  rw [run_bind_of_ok hrun]
  rfl

theorem result_decidedRoutesTx {request : GateDecisionRequest} {routing : GateRouting} {s : Database}
    (hrun : (decidedRoutingTx d now request).run db = .ok (.inr routing, s)) :
    (decidedRoutesTx d now request).result? db = some routing.decision.routes := by
  unfold Transaction.result? decidedRoutesTx
  rw [run_bind_of_ok hrun]
  rfl

theorem result_resolvedRoutesTx_error {error : MkbError} (hrun : (resolvedRoutingTx d now r).run db = .error error) :
    (resolvedRoutesTx d now r).result? db = none := by
  unfold Transaction.result? resolvedRoutesTx
  rw [run_bind_of_error hrun]

theorem result_decidedRoutesTx_error {request : GateDecisionRequest} {error : MkbError}
    (hrun : (decidedRoutingTx d now request).run db = .error error) :
    (decidedRoutesTx d now request).result? db = none := by
  unfold Transaction.result? decidedRoutesTx
  rw [run_bind_of_error hrun]

theorem routes_eq_of_concur (h : db.AwaitsReview r.gate gate row) (hc : ResolversConcur d db r gate row)
    (hfirst : r.RejectsFirst d db gate row) :
    (resolvedRoutesTx d now r).result? db = (decidedRoutesTx d now (r.command gate)).result? db := by
  have hboth := bothEnd_routing now h hc hfirst
  cases hx : (resolvedRoutingTx d now r).run db with
  | ok p =>
    cases hy : (decidedRoutingTx d now (r.command gate)).run db with
    | ok q =>
      rw [hx, hy] at hboth
      obtain ⟨x, s⟩ := p
      obtain ⟨y, t⟩ := q
      obtain ⟨a, b, rfl, rfl, hab⟩ := hboth
      rw [result_resolvedRoutesTx hx, result_decidedRoutesTx hy, hab.decision]
    | error _ =>
      rw [hx, hy] at hboth
      exact hboth.elim
  | error _ =>
    cases hy : (decidedRoutingTx d now (r.command gate)).run db with
    | ok q =>
      rw [hx, hy] at hboth
      exact hboth.elim
    | error _ => rw [result_resolvedRoutesTx_error hx, result_decidedRoutesTx_error hy]

theorem agree_of_concur (h : db.AwaitsReview r.gate gate row) (hc : ResolversConcur d db r gate row)
    (hfirst : r.RejectsFirst d db gate row) : ResolversAgree d now db r gate := by
  refine (bothEnd_resolvers h hc hfirst).imp fun _ _ s t hst => ⟨?_, ?_, routes_eq_of_concur h hc hfirst⟩
  · rw [hst.facts]
  · have hrow := hst.execution gate.execution
    generalize s.executions.get? gate.execution = o at hrow
    generalize t.executions.get? gate.execution = o' at hrow
    cases hrow with
    | none => rfl
    | some hq => exact congrArg some (hq.status.resolve_right fun hl => by simp at hl).1

/-! ### what agreement takes -/

theorem not_run_consumedRoutingTx (h : db.AwaitsReview r.gate gate row) {id : DecisionId} {record : DecisionRow}
    (hrecord : db.decisions.get? id = some record) (hgate : record.gate = r.gate)
    {p : (Bool ⊕ GateRouting) × Database} : (consumedRoutingTx d now id).run db ≠ .ok p := by
  intro hrun
  unfold consumedRoutingTx at hrun
  rw [run_bind_of_ok (x := get) rfl, run_orRaise_bind] at hrun
  obtain ⟨⟨found, g⟩, hfound, hrun⟩ := hrun
  obtain ⟨record', hrecord', hg⟩ := Option.bind_eq_some_iff.1 hfound
  obtain rfl := Option.some.inj (hrecord.symm.trans hrecord')
  obtain ⟨g', hg', heq⟩ := Option.map_eq_some_iff.1 hg
  obtain ⟨rfl, rfl⟩ := Prod.mk.inj heq
  rw [hgate] at hg'
  obtain rfl := Option.some.inj (h.stored.symm.trans hg')
  obtain ⟨-, hrun⟩ := run_raiseIf_bind.1 hrun
  obtain ⟨-, hrun⟩ := run_raiseIf_bind.1 hrun
  obtain ⟨hstatus, -⟩ := run_raiseIf_bind.1 hrun
  rw [h.opened] at hstatus
  cases haction : record.action <;> simp [haction, GateAction.gateStatus] at hstatus

/-- A decision under a key that was used before is a replay, which an open gate refuses. -/
theorem fresh_of_run (h : db.AwaitsReview r.gate gate row) {p : (Bool ⊕ GateRouting) × Database}
    (hrun : (decidedRoutingTx d now (r.command gate)).run db = .ok p) : r.Fresh db := by
  unfold decidedRoutingTx at hrun
  obtain ⟨⟨id, replayed⟩, s, hdecide, hconsume⟩ := run_bind_ok.1 hrun
  unfold decideGateTx at hdecide
  rw [run_bind_of_ok (x := get) rfl] at hdecide
  obtain ⟨task, -, hdecide⟩ := run_orRaise_bind.1 hdecide
  obtain ⟨gate', -, hdecide⟩ := run_orRaise_bind.1 hdecide
  cases hhead : (db.decisions.select fun _ q => q.gate == (r.command gate).gate &&
      q.idempotencyKey == (r.command gate).idempotencyKey).head? with
  | none =>
    unfold GateResolution.Fresh Table.any
    rw [List.any_eq_false]
    exact fun q hq => List.filter_eq_nil_iff.1 (List.head?_eq_none_iff.1 hhead) q hq
  | some found =>
    obtain ⟨id', record⟩ := found
    rw [hhead] at hdecide
    obtain ⟨-, hdecide⟩ := run_raiseIf_bind.1 hdecide
    obtain ⟨heq, rfl⟩ := run_pure_ok.1 hdecide
    obtain ⟨rfl, -⟩ := Prod.mk.inj heq
    obtain ⟨hrecord, hkey⟩ := Table.mem_select.1 (List.mem_of_head? hhead)
    simp only [Bool.and_eq_true, beq_iff_eq] at hkey
    exact absurd hconsume (not_run_consumedRoutingTx h hrecord hkey.1)

theorem task_of_run {p : (Bool ⊕ GateRouting) × Database}
    (hrun : (decidedRoutingTx d now (r.command gate)).run db = .ok p) :
    ∃ task, ((db.tasks.get? gate.task).filter fun task => !task.deleted) = some task := by
  unfold decidedRoutingTx at hrun
  obtain ⟨x, s, hdecide, -⟩ := run_bind_ok.1 hrun
  unfold decideGateTx at hdecide
  rw [run_bind_of_ok (x := get) rfl] at hdecide
  obtain ⟨task, htask, -⟩ := run_orRaise_bind.1 hdecide
  exact ⟨task, htask⟩

theorem validateDefinition_of_binding {plan : WorkflowDefinition} (h : assertExecutionBinding d row = .ok plan) :
    plan.validateDefinition = .ok () := by
  unfold assertExecutionBinding at h
  split at h
  · cases h
  · split at h
    · cases h
    · split at h
      · cases h
      · split at h
        · cases h
        · split at h
          · rename_i bound _ _ _
            cases h
            exact bound.2
          · cases h

theorem concur_of_agree (h : db.AwaitsReview r.gate gate row) (hcommits : (resolveGateTx d now r).result? db ≠ none)
    (hagree : ResolversAgree d now db r gate) : ResolversConcur d db r gate row := by
  unfold ResolversAgree at hagree
  obtain ⟨x, s, hx⟩ : ∃ x s, (resolveGateTx d now r).run db = .ok (x, s) := by
    unfold Transaction.result? at hcommits
    cases hx : (resolveGateTx d now r).run db with
    | ok p => exact ⟨p.1, p.2, rfl⟩
    | error _ => simp [hx] at hcommits
  cases hy : (decideThenConsumeTx d now (r.command gate)).run db with
  | error _ =>
    rw [hx, hy] at hagree
    exact hagree.elim
  | ok q =>
    rw [hx, hy] at hagree
    obtain ⟨-, -, hroutes⟩ := hagree
    rw [decideThenConsumeTx_eq] at hy
    obtain ⟨y, t, hdecided, -⟩ := run_bind_ok.1 hy
    obtain ⟨w, u, hresolved, -⟩ := run_bind_ok.1 hx
    have hfresh := fresh_of_run h hdecided
    obtain ⟨task, htask⟩ := task_of_run hdecided
    obtain ⟨rows, hrun⟩ := run_decidedRoutingTx d now h hfresh htask
    obtain ⟨hcapacity, -, -, hcontrols, plan, hplan, control, hcontrol, selected, hselected, decision, hdecision, hyt⟩ :=
      (hrun _).1 hdecided
    obtain ⟨-, -, plan', hplan', control', hcontrol', selected', hselected', decision', hdecision', hwu⟩ :=
      (run_resolvedRoutingTx d now h hfresh).1 hresolved
    obtain rfl := Except.ok.inj (hplan.symm.trans hplan')
    obtain rfl := Except.ok.inj (hcontrol.symm.trans hcontrol')
    obtain ⟨-, selected'', hselected'', hsame⟩ := selectors_eq.1 hselected'
    obtain rfl := Except.ok.inj (hselected.symm.trans hselected'')
    rw [← hwu] at hresolved
    rw [← hyt] at hdecided
    rw [result_resolvedRoutesTx hresolved, result_decidedRoutesTx hdecided] at hroutes
    refine ⟨hfresh, ⟨task, htask, hcapacity⟩, hcontrols, fun p c sel hp hc hs => ?_⟩
    obtain rfl := Except.ok.inj (hplan.symm.trans hp)
    obtain rfl := Except.ok.inj (hcontrol.symm.trans hc)
    obtain rfl := Except.ok.inj (hselected.symm.trans hs)
    rw [← hsame] at hdecision'
    exact factsSilent_of_routes_eq (validateDefinition_of_binding hplan) hdecision' hdecision (Option.some.inj hroutes)

/-- Under a key that was not used before, a check that both make refuses the action on both sides. -/
theorem agree_of_refusedAlike (h : db.AwaitsReview r.gate gate row) (hfresh : r.Fresh db)
    (hrefused : r.RefusedAlike d gate row) : ResolversAgree d now db r gate := by
  have hadmitted : ∀ plan control, gate.gateRevision = r.expectedGateRevision →
      gate.target.allowedActions.contains r.action = true → assertExecutionBinding d row = .ok plan →
      controlStep plan gate.gateKind = .ok control → r.action = .reclean := by
    intro plan control hrevision hallowed hplan hcontrol
    rcases hrefused with hstale | hbarred | hnone | hreclean
    · exact absurd hrevision hstale
    · exact absurd (hbarred.symm.trans hallowed) Bool.false_ne_true
    · exact absurd hcontrol (hnone plan hplan control)
    · exact hreclean
  have hresolved : ∀ p, (resolvedRoutingTx d now r).run db ≠ .ok p := by
    intro p hp
    obtain ⟨hrevision, hallowed, plan, hplan, control, hcontrol, selected, hselected, -⟩ :=
      (run_resolvedRoutingTx d now h hfresh).1 hp
    exact (selectors_eq.1 hselected).1 (hadmitted plan control hrevision hallowed hplan hcontrol)
  have hdecided : ∀ p, (decidedRoutingTx d now (r.command gate)).run db ≠ .ok p := by
    intro p hp
    obtain ⟨task, htask⟩ := task_of_run hp
    obtain ⟨rows, hrun⟩ := run_decidedRoutingTx d now h hfresh htask
    obtain ⟨-, hrevision, hallowed, -, plan, hplan, control, hcontrol, selected, hselected, -⟩ := (hrun p).1 hp
    exact (selectors_eq.2 hselected).1 (hadmitted plan control hrevision hallowed hplan hcontrol)
  unfold ResolversAgree resolveGateTx
  rw [decideThenConsumeTx_eq]
  cases hx : (resolvedRoutingTx d now r).run db with
  | ok p => exact absurd hx (hresolved p)
  | error _ =>
    cases hy : (decidedRoutingTx d now (r.command gate)).run db with
    | ok p => exact absurd hy (hdecided p)
    | error _ =>
      rw [run_bind_of_error hx, run_bind_of_error hy]
      trivial

/-- The two resolvers agree where a check that both make refuses the action under a fresh key, and where the Task
surface admits the decision, the facts of the Execution are silent on the routes out of its gate and a rejection has
not been routed before; wherever `resolve_gate` commits, admission and silence are also needed. -/
theorem gateResolvers_exact (d : Deployment) (now : Time) (db : Database) (r : GateResolution) (gate : GateRow)
    (row : ExecutionRow) (h : db.AwaitsReview r.gate gate row) :
    (r.Fresh db ∧ r.RefusedAlike d gate row ∨ ResolversConcur d db r gate row ∧ r.RejectsFirst d db gate row →
        ResolversAgree d now db r gate) ∧
      ((resolveGateTx d now r).result? db ≠ none → ResolversAgree d now db r gate → ResolversConcur d db r gate row) := by
  refine ⟨fun hcond => ?_, concur_of_agree h⟩
  rcases hcond with ⟨hfresh, hrefused⟩ | ⟨hconcur, hfirst⟩
  · exact agree_of_refusedAlike h hfresh hrefused
  · exact agree_of_concur h hconcur hfirst

/-! ### a rejection on which the two agree -/

theorem follows_eq {plan : WorkflowDefinition} (hplain : ∀ step ∈ plan.steps, step.controlKey ≠ some "selected_output")
    {key key' : String} (h : plan.Follows key key') : key = key' := by
  cases h with
  | refl => rfl
  | step route target _ _ htarget hcontrol _ =>
    exact absurd hcontrol (hplain target (WorkflowDefinition.step?_eq_some htarget).1)

/-- The store in which a human reviews the accepted Snapshot. -/
def sampleReviewed : Database := runFrom (systemStep reviewDeployment) Database.empty sampleReview

theorem binding_review {row : ExecutionRow} (hrevision : row.workflowRevision = 1) (hdigest : row.compiledDigest = 7) :
    assertExecutionBinding reviewDeployment row = .ok reviewWorkflow := by
  unfold assertExecutionBinding
  rw [hrevision, hdigest]
  rfl

theorem factsSilent_review {context : RouteContext} :
    FactsSilent reviewWorkflow "review" .failed context where
  guards := by
    have hnone : ∀ route ∈ examined (routeCandidates reviewWorkflow "review" .failed), route.guardKey = none := by
      decide +kernel
    intro route hroute key hkey
    rw [hnone route hroute] at hkey
    cases hkey
  strategy := by
    have hbound : boundStrategy reviewWorkflow "review" .failed = none := by decide +kernel
    intro declared _ bound hb
    rw [hbound] at hb
    cases hb
  reacquire := rfl

theorem gateResolvers_exact_review : ∃ gate, sampleReviewed.gates.get? 0 = some gate ∧
    ResolversAgree reviewDeployment 20 sampleReviewed ⟨0, 0, .reject, 1, 1⟩ gate := by
  obtain ⟨db, hdb⟩ : ∃ db, sampleReviewed = db := ⟨_, rfl⟩
  have hwaits : ((db.gates.get? 0).bind fun gate => (db.executions.get? gate.execution).map fun row => (gate, row)).any
      (fun q => q.1.status == .opened && q.2.status == .waiting && q.2.waitingReason == some .humanReview &&
        q.2.waitingRef == some (.gate 0) && q.1.controls 0 q.2 && q.1.gateKind == "human_review_gate" &&
        ((db.tasks.get? q.1.task).filter fun task => !task.deleted).isSome && q.2.workflowRevision == 1 &&
        q.2.compiledDigest == 7) = true := by
    rw [← hdb]
    decide +kernel
  have hfresh : db.decisions.any (fun _ q => q.gate == 0 && q.idempotencyKey == 1) = false := by
    rw [← hdb]
    decide +kernel
  have hprocesses : db.processes.any (fun _ p => p.materializationKey.sourceStepKey == "review") = false := by
    rw [← hdb]
    decide +kernel
  have hgates : db.gates.any (fun g _ => g != 0) = false := by
    rw [← hdb]
    decide +kernel
  rw [hdb]
  obtain ⟨⟨gate, row⟩, hfound, hstate⟩ := (Option.any_eq_true _ _).1 hwaits
  simp only [Bool.and_eq_true, beq_iff_eq] at hstate
  obtain ⟨⟨⟨⟨⟨⟨⟨⟨hopen, hwaiting⟩, hreason⟩, href⟩, hcontrols⟩, hkind⟩, htask⟩, hrevision⟩, hdigest⟩ := hstate
  obtain ⟨gate', hgate, hrow⟩ := Option.bind_eq_some_iff.1 hfound
  obtain ⟨row', hwait, heq⟩ := Option.map_eq_some_iff.1 hrow
  obtain ⟨rfl, rfl⟩ := Prod.mk.inj heq
  obtain ⟨task, htask⟩ := Option.isSome_iff_exists.1 htask
  have hbinding : ∀ plan, assertExecutionBinding reviewDeployment row' = .ok plan → plan = reviewWorkflow :=
    fun plan h => (Except.ok.inj ((binding_review hrevision hdigest).symm.trans h)).symm
  have hcontrol : ∀ control, controlStep reviewWorkflow gate'.gateKind = .ok control → control.stepKey = "review" := by
    rw [hkind]
    exact fun control h => by cases h; rfl
  refine ⟨gate', hgate, (gateResolvers_exact reviewDeployment 20 db ⟨0, 0, .reject, 1, 1⟩ gate' row'
    ⟨hgate, hopen, hwait, hwaiting, hreason, href⟩).1 (Or.inr
    ⟨⟨hfresh, ⟨task, htask, fun h => absurd rfl h⟩, hcontrols, fun plan control selected hplan hc hs => ?_⟩,
    fun _ plan control hplan hc => ⟨fun id p hp _ hfollows => ?_, fun g other hg hne => ?_⟩⟩)⟩
  · obtain rfl := hbinding plan hplan
    rw [hcontrol control hc]
    cases hs
    exact factsSilent_review
  · obtain rfl := hbinding plan hplan
    have hplain : ∀ step ∈ reviewWorkflow.steps, step.controlKey ≠ some "selected_output" := by decide +kernel
    have hkey := follows_eq hplain hfollows
    rw [hcontrol control hc] at hkey
    rw [Bool.eq_false_iff, Ne, Table.any_eq_true_iff] at hprocesses
    exact hprocesses ⟨id, p, hp, by simp [← hkey]⟩
  · rw [Bool.eq_false_iff, Ne, Table.any_eq_true_iff] at hgates
    exact absurd ⟨g, other, hg, by simpa using hne⟩ hgates

/-! ### an approval on which they part -/

/-- The review of an intake whose Markdown is transcribed first where a prompt for it was selected. -/
def markdownWorkflow : WorkflowDefinition where
  workflowKey := "intake.markdown"
  requiredProcessKeys := reviewWorkflow.requiredProcessKeys ++ ["lsrag.transcribe_markdown", "lsrag.structurize"]
  steps := reviewWorkflow.steps ++ [sampleProcessStep "transcribe_markdown" "lsrag.transcribe_markdown",
    sampleProcessStep "structurize" "lsrag.structurize"]
  routes := sampleRoute "begin" "start" "capture" .normal .always :: sampleProcessRoutes "capture" "clean" ++
    sampleProcessRoutes "clean" "preflight_validate" ++ sampleProcessRoutes "preflight_validate" "accept_snapshot" ++
    sampleProcessRoutes "accept_snapshot" "review" ++ sampleProcessRoutes "transcribe_markdown" "structurize" ++
    [{ sampleRoute "review_markdown" "review" "transcribe_markdown" .normal .succeeded with
        guardKey := some "prompt_markdown_present" },
      { sampleRoute "review_approved" "review" "structurize" .normal .succeeded with
        priority := 1 },
      sampleRoute "review_rejected" "review" "failed" .terminal .failed,
      sampleRoute "review_cancelled" "review" "failed" .terminal .cancelled,
      sampleRoute "structurize_succeeded" "structurize" "done" .terminal .succeeded,
      sampleRoute "structurize_failed" "structurize" "failed" .terminal .failed,
      sampleRoute "structurize_cancelled" "structurize" "failed" .terminal .cancelled]
  guards := [⟨"prompt_markdown_present", .registeredMarkdownSelection⟩]

theorem validateDefinition_markdown : markdownWorkflow.validateDefinition = .ok () := by decide +kernel

def markdownDeployment : Deployment where
  plans := [(7, ⟨markdownWorkflow, validateDefinition_markdown⟩)]
  activeWorkflowKeys := ["intake.markdown"]
  revisions := [(1, ⟨7, "intake.markdown", .root, ["start", "capture", "clean", "preflight_validate", "accept_snapshot",
    "review", "done", "failed", "transcribe_markdown", "structurize"]⟩)]

/-- The events up to the review, for a Task with a Markdown prompt. -/
def markdownReview : List Event :=
  ⟨1, .createTask {
    team := 0
    requestIntent := .intakeIngest
    workflowRevision := 1
    compiledDigest := 7
    audit := { markdownPrompt := true } }⟩ :: sampleReview.tail

/-- An approval with a Markdown prompt selected: the resolver passes the transcription over, the consumer takes it. -/
theorem gateResolvers_part : ¬ ∀ (d : Deployment) (now : Time) (db : Database) (r : GateResolution) (gate : GateRow)
    (row : ExecutionRow), Reachable d db → db.AwaitsReview r.gate gate row → ResolversAgree d now db r gate := by
  intro claim
  obtain ⟨db, hdb⟩ : ∃ db, runFrom (systemStep markdownDeployment) Database.empty markdownReview = db := ⟨_, rfl⟩
  have hwaits : ((db.gates.get? 0).bind fun gate => (db.executions.get? gate.execution).map fun row => (gate, row)).any
      (fun q => q.1.status == .opened && q.2.status == .waiting && q.2.waitingReason == some .humanReview &&
        q.2.waitingRef == some (.gate 0) && (resolveGateTx markdownDeployment 20 ⟨0, 0, .approve, 1, 1⟩).result? db == some true &&
        (resolvedRoutesTx markdownDeployment 20 ⟨0, 0, .approve, 1, 1⟩).result? db !=
          (decidedRoutesTx markdownDeployment 20 (GateResolution.command ⟨0, 0, .approve, 1, 1⟩ q.1)).result? db) = true := by
    rw [← hdb]
    decide +kernel
  obtain ⟨⟨gate, row⟩, hfound, hstate⟩ := (Option.any_eq_true _ _).1 hwaits
  simp only [Bool.and_eq_true, beq_iff_eq, bne_iff_ne] at hstate
  obtain ⟨⟨⟨⟨⟨hopen, hwaiting⟩, hreason⟩, href⟩, hcommits⟩, hroutes⟩ := hstate
  obtain ⟨gate', hgate, hrow⟩ := Option.bind_eq_some_iff.1 hfound
  obtain ⟨row', hwait, heq⟩ := Option.map_eq_some_iff.1 hrow
  obtain ⟨rfl, rfl⟩ := Prod.mk.inj heq
  have hagree := claim markdownDeployment 20 db ⟨0, 0, .approve, 1, 1⟩ gate' row' ⟨_, hdb⟩
    ⟨hgate, hopen, hwait, hwaiting, hreason, href⟩
  unfold ResolversAgree at hagree
  rw [run_of_result? hcommits] at hagree
  cases hdecided : (decideThenConsumeTx markdownDeployment 20
      (GateResolution.command ⟨0, 0, .approve, 1, 1⟩ gate')).run db with
  | error _ =>
    rw [hdecided] at hagree
    exact hagree
  | ok q =>
    rw [hdecided] at hagree
    exact hroutes hagree.2.2

end KnowledgeBase
