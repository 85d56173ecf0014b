import KnowledgeBase.Invariant.Closing

/-!
# Invariants of the routes

`RouteInvariant` adds to a terminal invariant what has to be shown of the writes at the end of a route: the Process
that is materialized, the gate that is opened, the children that are released and the wait on them, and the
selected output a route is followed through. `on_applyRoutesTx` and `on_routeAfterTerminalProcessTx` carry it
through every route of a decision.
-/

namespace KnowledgeBase

open Transaction Database

/-! ### decisions -/

section decisions

variable {plan : WorkflowDefinition} {context : RouteContext}

theorem mem_of_selectRoutes {candidates selected : List WorkflowRouteDefinition} {results results' : List (String × Bool)}
    (h : selectRoutes plan context candidates results = .ok (selected, results')) {route : WorkflowRouteDefinition}
    (hr : route ∈ selected) : route ∈ candidates := by
  induction candidates generalizing results selected results' with
  | nil =>
    simp only [selectRoutes, Except.ok.injEq, Prod.mk.injEq] at h
    simp [← h.1] at hr
  | cons c cs ih =>
    rw [selectRoutes] at h
    cases hm : guardMatches plan context c results with
    | error e => simp [hm, bind, Except.bind] at h
    | ok p =>
      obtain ⟨matched, results₁⟩ := p
      simp only [hm, bind, Except.bind] at h
      split at h
      · exact List.mem_cons_of_mem _ (ih h hr)
      split at h
      · simp only [Except.ok.injEq, Prod.mk.injEq] at h
        simp only [← h.1, List.mem_singleton] at hr
        simp [hr]
      · cases hs : selectRoutes plan context cs results₁ with
        | error e => simp [hs] at h
        | ok q =>
          simp only [hs, Except.ok.injEq, Prod.mk.injEq] at h
          rw [← h.1, List.mem_cons] at hr
          rcases hr with rfl | hr
          · simp
          · exact List.mem_cons_of_mem _ (ih hs hr)

theorem length_selectRoutes_le {candidates selected : List WorkflowRouteDefinition}
    {results results' : List (String × Bool)} (hc : ∀ route ∈ candidates, route.routeKind ≠ .fanOut)
    (h : selectRoutes plan context candidates results = .ok (selected, results')) : selected.length ≤ 1 := by
  induction candidates generalizing results selected results' with
  | nil =>
    simp only [selectRoutes, Except.ok.injEq, Prod.mk.injEq] at h
    simp [← h.1]
  | cons c cs ih =>
    rw [selectRoutes] at h
    cases hm : guardMatches plan context c results with
    | error e => simp [hm, bind, Except.bind] at h
    | ok p =>
      obtain ⟨matched, results₁⟩ := p
      have hne := hc c (by simp)
      simp only [hm, bind, Except.bind, bne_iff_ne, ne_eq, hne, not_false_iff, if_true] at h
      split at h
      · exact ih (fun route hr => hc route (by simp [hr])) h
      · simp only [Except.ok.injEq, Prod.mk.injEq] at h
        simp [← h.1]

theorem mem_routeCandidates {step : String} {selector : WorkflowOutcomeSelector} {route : WorkflowRouteDefinition}
    (h : route ∈ routeCandidates plan step selector) :
    route ∈ plan.routes ∧ route.fromStepKey = step ∧ route.outcomeSelector = selector := by
  simpa [routeCandidates, List.mem_insertionSort] using h

variable {e : ExecutionId} {row : ExecutionRow} {step : String} {selector : WorkflowOutcomeSelector}
  {decision : RouteDecision}

theorem routeDecision_ok (h : routeDecision plan e row step selector context = .ok decision) :
    ∃ results, selectRoutes plan context (routeCandidates plan step selector) [] = .ok (decision.routes, results) := by
  unfold routeDecision at h
  split at h
  · cases h
  · cases hs : selectRoutes plan context (routeCandidates plan step selector) [] with
    | error e => simp [hs, bind, Except.bind] at h
    | ok q =>
      simp only [hs, bind, Except.bind] at h
      split at h
      · cases h
      · cases h
        exact ⟨_, rfl⟩

theorem mem_routes_of_routeDecision (h : routeDecision plan e row step selector context = .ok decision)
    {route : WorkflowRouteDefinition} (hr : route ∈ decision.routes) :
    route ∈ plan.routes ∧ route.fromStepKey = step ∧ route.outcomeSelector = selector := by
  obtain ⟨results, hs⟩ := routeDecision_ok h
  exact mem_routeCandidates (mem_of_selectRoutes hs hr)

theorem length_routes_le (hfan : ¬ plan.HasFanOut)
    (h : routeDecision plan e row step selector context = .ok decision) : decision.routes.length ≤ 1 := by
  obtain ⟨results, hs⟩ := routeDecision_ok h
  exact length_selectRoutes_le (fun route hr hk => hfan ⟨route, (mem_routeCandidates hr).1, hk⟩) hs

theorem leads_of_route {route : WorkflowRouteDefinition} {target : WorkflowStepDefinition}
    (hr : route ∈ plan.routes ∧ route.fromStepKey = step ∧ route.outcomeSelector = selector)
    (ht : plan.step? route.toStepKey = some target) : plan.Leads step selector target := by
  obtain ⟨hmem, hkey⟩ := WorkflowDefinition.step?_eq_some ht
  exact ⟨hmem, route, hr.1, hr.2.1, hr.2.2, hkey.symm⟩

end decisions

/-! ### the interface -/

/-- What is left of a transit after one of its routes: only a fan-out takes another. -/
def Transit.rest (tr : Transit) : Option Transit :=
  match tr.phase with
  | .route plan _ _ _ _ _ => if plan.HasFanOut then some tr else none
  | _ => none

theorem Transit.rest_cases (tr : Transit) : tr.rest = none ∨ tr.rest = some tr := by
  unfold Transit.rest
  split
  · split <;> simp
  · simp

/-- The transit past a selected-output control. -/
def Transit.follow (tr : Transit) (plan : WorkflowDefinition) (step : String) (source : Option ProcessRecord)
    (ended : Bool) : Transit :=
  { tr with phase := .route plan step .succeeded source {} ended }

/-- An invariant of the writes at the end of a route. -/
structure RouteInvariant (d : Deployment) extends TerminalInvariant where
  core : ∀ {o s t}, t.core = s.core → Holds o s → Holds o t
  insertProcess : ∀ now tr plan step selector source context ended target row task input key,
    tr.phase = .route plan step selector source context ended → plan.Leads step selector target →
    target.stepKind = .process → row.identity = tr.identity →
    actualBindingError row task.requestIntent (target.processKey.getD "") = none →
    Triple (fun s => (s.Shaped (some tr) ∧ Holds (some tr) s) ∧ s.tasks.get? row.task = some task ∧
        s.Recalls tr.execution row ∧ s.materialized tr.execution target.stepKey key = false)
      (insertProcessTx now tr.execution (newProcess d now tr.execution row task target key input))
      fun _ => Holds tr.rest
  openGate : ∀ tr plan step selector source context ended target current key evidence,
    tr.phase = .route plan step selector source context ended → plan.Leads step selector target →
    target.stepKind = .control → target.controlKey = some "human_review_gate" →
    Triple (fun s => (s.Shaped (some tr) ∧ Holds (some tr) s) ∧ s.executions.get? tr.execution = some current)
      (openGateTx tr.execution current "human_review_gate" key evidence) fun _ => Holds tr.rest
  releaseChild : ∀ now tr row changeSet child, child.2.parent = some tr.execution →
    Triple (fun s => (s.Shaped (some tr) ∧ Holds (some tr) s) ∧ s.identityOf child.1 = some child.2.identity)
      (releaseScatterChildTx now row changeSet child) fun _ => Holds (some tr)
  joinWait : ∀ tr plan step selector source context ended changeSet,
    tr.phase = .route plan step selector source context ended →
    Triple (fun s => (s.Shaped (some tr) ∧ Holds (some tr) s) ∧ (s.acceptance? tr.identity.task tr.execution).isSome)
      (joinWaitTx tr.execution changeSet) fun _ => Holds tr.rest
  zeroJoin : ∀ {tr s plan step selector source context ended},
    tr.phase = .route plan step selector source context ended → s.Shaped (some tr) → Holds (some tr) s →
    (s.acceptance? tr.identity.task tr.execution).isSome → Holds (some { tr with phase := .join }) s
  follow : ∀ {tr s plan step selector source context ended target selected},
    tr.phase = .route plan step selector source context ended → plan.Leads step selector target →
    target.stepKind = .control → target.controlKey = some "selected_output" →
    selected.bind (·.2.proof) = (none : Option Ref) → s.Shaped (some tr) → Holds (some tr) s →
    Holds (some (tr.follow plan target.stepKey selected ended)) s
  unfollow : ∀ {tr s₀ s plan step selector source context ended key selected},
    tr.phase = .route plan step selector source context ended → plan.HasFanOut → Holds (some tr) s₀ →
    Holds (some (tr.follow plan key selected ended)) s → Holds (some tr) s
  sealBinding : ∀ tr key cleanStepKey cleanProcessKey strategy,
    Triple (fun s => s.Shaped (some tr) ∧ Holds (some tr) s)
      (sealActualBindingTx tr.execution key cleanStepKey cleanProcessKey strategy) fun _ => Holds (some tr)

/-- Two invariants of the routes together. -/
def RouteInvariant.and {d : Deployment} (I J : RouteInvariant d) : RouteInvariant d where
  Holds o s := I.Holds o s ∧ J.Holds o s
  Stop e s := I.Stop e s ∧ J.Stop e s
  leave h := ⟨I.leave h.1, J.leave h.2⟩
  closed hs h hc := ⟨I.closed hs h.1 hc, J.closed hs h.2 hc⟩
  enterJoin hs h he hr hw hj := ⟨I.enterJoin hs h.1 he hr hw hj, J.enterJoin hs h.2 he hr hw hj⟩
  refresh o e := ((I.refresh o e).and (J.refresh o e)).pre fun _ h => ⟨⟨h.1, h.2.1⟩, h.1, h.2.2⟩
  cancelChild now o e i hi ho := ((I.cancelChild now o e i hi ho).and (J.cancelChild now o e i hi ho)).pre
    fun _ h => ⟨⟨⟨h.1.1, h.1.2.1⟩, h.2⟩, ⟨h.1.1, h.1.2.2⟩, h.2⟩
  cancelMember now root e i hi := (((I.cancelMember now root e i hi).and (J.cancelMember now root e i hi)).pre
    fun _ h => ⟨⟨⟨h.1.1, h.1.2.1⟩, h.2.1, h.2.2.1⟩, ⟨h.1.1, h.1.2.2⟩, h.2.1, h.2.2.2⟩).post
      fun _ _ h => ⟨⟨h.1.1, h.2.1⟩, h.1.2, h.2.2⟩
  closeCancelled now o e current hc := ((I.closeCancelled now o e current hc).and (J.closeCancelled now o e current hc)).pre
    fun _ h => ⟨⟨⟨h.1.1, h.1.2.1⟩, h.2⟩, ⟨h.1.1, h.1.2.2⟩, h.2⟩
  closeIntegrity now tr current errorCode message hid :=
    ((I.closeIntegrity now tr current errorCode message hid).and
      (J.closeIntegrity now tr current errorCode message hid)).pre fun _ h => ⟨⟨h.1, h.2.1⟩, h.1, h.2.2⟩
  closeRoute now tr current r hid ha hr := ((I.closeRoute now tr current r hid ha hr).and
    (J.closeRoute now tr current r hid ha hr)).pre fun _ h => ⟨⟨h.1, h.2.1⟩, h.1, h.2.2⟩
  core hc h := ⟨I.core hc h.1, J.core hc h.2⟩
  insertProcess now tr plan step selector source context ended target row task input key hp hl hk hid hb :=
    ((I.insertProcess now tr plan step selector source context ended target row task input key hp hl hk hid hb).and
      (J.insertProcess now tr plan step selector source context ended target row task input key hp hl hk hid hb)).pre
        fun _ h => ⟨⟨⟨h.1.1, h.1.2.1⟩, h.2⟩, ⟨h.1.1, h.1.2.2⟩, h.2⟩
  openGate tr plan step selector source context ended target current key evidence hp hl hk hc :=
    ((I.openGate tr plan step selector source context ended target current key evidence hp hl hk hc).and
      (J.openGate tr plan step selector source context ended target current key evidence hp hl hk hc)).pre
        fun _ h => ⟨⟨⟨h.1.1, h.1.2.1⟩, h.2⟩, ⟨h.1.1, h.1.2.2⟩, h.2⟩
  releaseChild now tr row changeSet child hp := ((I.releaseChild now tr row changeSet child hp).and
    (J.releaseChild now tr row changeSet child hp)).pre fun _ h => ⟨⟨⟨h.1.1, h.1.2.1⟩, h.2⟩, ⟨h.1.1, h.1.2.2⟩, h.2⟩
  joinWait tr plan step selector source context ended changeSet hp :=
    ((I.joinWait tr plan step selector source context ended changeSet hp).and
      (J.joinWait tr plan step selector source context ended changeSet hp)).pre
        fun _ h => ⟨⟨⟨h.1.1, h.1.2.1⟩, h.2⟩, ⟨h.1.1, h.1.2.2⟩, h.2⟩
  zeroJoin hp hs h ha := ⟨I.zeroJoin hp hs h.1 ha, J.zeroJoin hp hs h.2 ha⟩
  follow hp hl hk hc hn hs h := ⟨I.follow hp hl hk hc hn hs h.1, J.follow hp hl hk hc hn hs h.2⟩
  unfollow hp hf h h' := ⟨I.unfollow hp hf h.1 h'.1, J.unfollow hp hf h.2 h'.2⟩
  sealBinding tr key cleanStepKey cleanProcessKey strategy :=
    ((I.sealBinding tr key cleanStepKey cleanProcessKey strategy).and
      (J.sealBinding tr key cleanStepKey cleanProcessKey strategy)).pre fun _ h => ⟨⟨h.1, h.2.1⟩, h.1, h.2.2⟩

/-! ### rows read earlier -/

theorem triple_follows {α : Type} {s₀ : Database} {x : Tx α} (hx : Keeps Database.bondOf x) :
    Triple (fun s => s₀.Follows s) x fun _ s => s₀.Follows s :=
  fun s a t hs ht => hs.trans (.of_bonds (hx s a t ht))

theorem follows_sealActualBindingTx {s₀ : Database} (e : ExecutionId) (key : RouteDecisionPayload)
    (cleanStepKey cleanProcessKey : String) (strategy : CleanStrategy) :
    Triple (fun s => s₀.Follows s) (sealActualBindingTx e key cleanStepKey cleanProcessKey strategy)
      fun _ s => s₀.Follows s := by
  refine Triple.get_frame.bind fun _ => Triple.orRaise_frame.bind fun representation => ?_
  refine (Triple.casExecution (Q := fun _ s => s₀.Follows s) (fun _ h _ => h) fun s row h hrow hc => ?_).bind
    fun _ => Triple.raiseIf_frame
  refine h.trans fun k q hq => ?_
  simp only [Bool.and_eq_true, beq_iff_eq, Option.isNone_iff_eq_none] at hc
  have hbond : row.bond = (.unsealed, none) := Prod.ext hc.1 hc.2
  by_cases hk : k = e
  · subst hk
    rw [hrow] at hq
    obtain rfl := Option.some.inj hq
    exact ⟨_, bondOf_of_get? (get?_updateExecution_self hrow), Or.inr ⟨hbond, _, rfl⟩⟩
  · have hsame {t : Database} (ht : t.executions.get? k = some q) : t.bondOf k = some q.bond := bondOf_of_get? ht
    refine ⟨q.bond, hsame ?_, .refl _⟩
    simp [updateExecution, Table.get?_modify, hq, hk]

theorem keeps_bonds_requestCancelling (now : Time) (e : ExecutionId) :
    Keeps Database.bondOf (requestCancelling now e) :=
  (ExecutionFrame.bonds.casExecution (fun _ => by rfl) _ _).bind fun _ =>
    (Keeps.modify fun _ => by rfl).bind fun _ => Keeps.pure _

/-- Whatever the engine routes, the bonds of a database it started from are written at most once. -/
def following (d : Deployment) (s₀ : Database) : RouteInvariant d where
  Holds _ s := s₀.Follows s
  Stop _ _ := True
  leave h := h
  closed _ h _ := h
  enterJoin _ h _ _ _ _ := h
  refresh _ e := (triple_follows (ExecutionFrame.bonds.refreshExecutionCountsTx e)).pre fun _ h => h.2
  cancelChild now _ e _ _ _ := (triple_follows (keeps_bonds_requestCancelling now e)).pre fun _ h => h.1.2
  cancelMember now _ e _ _ := ((triple_follows (keeps_bonds_requestCancelling now e)).pre fun _ h => h.1.2).post
    fun _ _ h => ⟨h, trivial⟩
  closeCancelled now _ e current _ :=
    (triple_follows (ExecutionFrame.bonds.closeCancelledTx now e current)).pre fun _ h => h.1.2
  closeIntegrity now tr current errorCode message _ :=
    (triple_follows (ExecutionFrame.bonds.closeIntegrityTx now tr.execution current errorCode message)).pre
      fun _ h => h.2
  closeRoute now tr current r _ _ _ :=
    (triple_follows (ExecutionFrame.bonds.closeRouteTx now tr.execution current r)).pre fun _ h => h.2
  core {_ s t} hc h := Follows.trans h (.of_bonds (ExecutionFrame.bonds.core t s hc))
  insertProcess now tr _ _ _ _ _ _ _ _ _ _ _ _ _ _ _ _ := (triple_follows <| Keeps.get.bind fun _ =>
    (Keeps.modify fun _ => by rfl).bind fun _ => (ExecutionFrame.bonds.casExecution (fun _ => by rfl) _ _).bind
      fun _ => Keeps.guard <|
        ExecutionFrame.bonds.of_core (keeps_core_enqueueTx _ _ _ _)).pre fun _ h => h.1.2
  openGate tr _ _ _ _ _ _ _ _ _ _ _ _ _ _ := (triple_follows <| Keeps.get.bind fun _ =>
    (Keeps.modify fun _ => by rfl).bind fun _ => (ExecutionFrame.bonds.casExecution (fun _ => by rfl) _ _).bind
      fun _ => Keeps.raiseIf _ _).pre fun _ h => h.1.2
  releaseChild now tr row changeSet child _ := (triple_follows <|
    (ExecutionFrame.bonds.casExecution (fun _ => by rfl) _ _).bind fun _ =>
      Keeps.ite (ExecutionFrame.bonds.of_core (keeps_core_enqueueTx _ _ _ _)) (Keeps.pure _)).pre fun _ h => h.1.2
  joinWait tr _ _ _ _ _ _ changeSet _ :=
    (triple_follows (ExecutionFrame.bonds.casExecution (fun _ => by rfl) _ _)).pre fun _ h => h.1.2
  zeroJoin _ _ h _ := h
  follow _ _ _ _ _ _ h := h
  unfollow _ _ _ h := h
  sealBinding tr key cleanStepKey cleanProcessKey strategy :=
    (follows_sealActualBindingTx tr.execution key cleanStepKey cleanProcessKey strategy).pre fun _ h => h.2

/-- An invariant together with the rows as they were read in a database it passed through. -/
def RouteInvariant.since {d : Deployment} (I : RouteInvariant d) (s₀ : Database) : RouteInvariant d :=
  I.and (following d s₀)

theorem On.since {d : Deployment} {I : RouteInvariant d} {o : Option Transit} {σ : Shape} {s : Database}
    (h : I.On o σ s) : (I.since s).On o σ s := ⟨h.1, h.2.1, h.2.2, .refl s⟩

theorem On.of_since {d : Deployment} {I : RouteInvariant d} {o : Option Transit} {σ : Shape} {s₀ s : Database}
    (h : (I.since s₀).On o σ s) : I.On o σ s := ⟨h.1, h.2.1, h.2.2.1⟩

theorem acceptance?_congr {s t : Database} (h : s.tasks = t.tasks) (k : TaskId) (e : ExecutionId) :
    s.acceptance? k e = t.acceptance? k e := by
  unfold acceptance?
  rw [h]

/-! ### the writes keep the shape -/

theorem keeps_shape_enqueueTx (now : Time) (team : TeamId) (payload : OutboxPayload) (key : DedupeKey) :
    Keeps shape (enqueueTx now team payload key) :=
  ExecutionFrame.shape.of_core (keeps_core_enqueueTx now team payload key)

theorem keeps_shape_insertProcessTx (now : Time) (e : ExecutionId) (process : ProcessRow) :
    Keeps shape (insertProcessTx now e process) :=
  Keeps.get.bind fun _ => (Keeps.modify fun s => by exact shape_of_tables rfl rfl).bind fun _ =>
    (ExecutionFrame.shape.casExecution (fun _ => by rfl) _ _).bind fun _ => Keeps.guard <|
      keeps_shape_enqueueTx _ _ _ _

theorem keeps_shape_openGateTx (e : ExecutionId) (current : ExecutionRow) (gateKind : String)
    (key : RouteDecisionPayload) (evidence : ReviewEvidence) : Keeps shape (openGateTx e current gateKind key evidence) :=
  Keeps.get.bind fun _ => (Keeps.modify fun s => by exact shape_of_tables rfl rfl).bind fun _ =>
    (ExecutionFrame.shape.casExecution (fun _ => by rfl) _ _).bind fun _ => Keeps.raiseIf _ _

theorem keeps_shape_releaseScatterChildTx (now : Time) (row : ExecutionRow) (changeSet : ChangeSetId)
    (child : ExecutionId × ExecutionRow) : Keeps shape (releaseScatterChildTx now row changeSet child) :=
  (ExecutionFrame.shape.casExecution (fun _ => by rfl) _ _).bind fun _ =>
    Keeps.ite (keeps_shape_enqueueTx _ _ _ _) (Keeps.pure _)

theorem keeps_shape_joinWaitTx (e : ExecutionId) (changeSet : ChangeSetId) : Keeps shape (joinWaitTx e changeSet) :=
  ExecutionFrame.shape.casExecution (fun _ => by rfl) _ _

theorem keeps_shape_sealActualBindingTx (e : ExecutionId) (key : RouteDecisionPayload)
    (cleanStepKey cleanProcessKey : String) (strategy : CleanStrategy) :
    Keeps shape (sealActualBindingTx e key cleanStepKey cleanProcessKey strategy) :=
  Keeps.get.bind fun _ => (Keeps.orRaise _ _).bind fun _ =>
    (keeps_shape_casExecution (fun _ => by rfl) _ _).bind fun _ => Keeps.raiseIf _ _

/-! ### the end of a route -/

section routes

variable {d : Deployment} (I : RouteInvariant d) (now : Time) {σ : Shape} {tr : Transit}

theorem On.rest {s : Database} (h : I.On (some tr) σ s) : I.On tr.rest σ s := by
  rcases tr.rest_cases with hr | hr <;> rw [hr]
  · exact h.leave
  · exact h

theorem On.rest_of_closed {s : Database} (hi : σ.1 tr.execution = some tr.identity) (h : I.On none σ s)
    (hc : s.Closed tr.execution) : I.On tr.rest σ s := by
  refine On.rest I (h.closed ?_ hc)
  obtain rfl := h.1
  exact hi

theorem on_endWrite {α : Type} {x : Tx α} {G : Database → Prop} (hx : Keeps shape x)
    (h : Triple (fun s => (s.Shaped (some tr) ∧ I.Holds (some tr) s) ∧ G s) x fun _ => I.Holds tr.rest) :
    Triple (fun s => I.On (some tr) σ s ∧ G s) x fun _ => I.On tr.rest σ := by
  refine (TerminalInvariant.on_of_keeps (R := fun _ _ => True) hx ?_ (h.post fun _ _ h => ⟨h, trivial⟩)).post
    fun _ _ h => h.1
  intro tr' htr'
  rcases tr.rest_cases with hr | hr <;> rw [hr] at htr'
  · cases htr'
  · exact htr'

theorem on_core {α : Type} {o : Option Transit} {x : Tx α} (hx : Keeps Database.core x) :
    Triple (I.On o σ) x fun _ => I.On o σ :=
  TerminalInvariant.on_write (ExecutionFrame.shape.of_core hx) fun s a t hs ht => I.core (hx s a t ht) hs.2

theorem on_failRoute {β : Type} (errorCode message : String) (b : β) :
    Triple (I.On (some tr) σ) (do
      failExecutionIntegrityTx now tr.execution errorCode message
      pure b) fun _ => I.On tr.rest σ := by
  intro s
  refine Triple.pre (P := fun t => σ.1 tr.execution = some tr.identity ∧ I.On (some tr) σ t)
    (Triple.intro fun hi => ?_) (fun t h => ?_) s
  · exact (on_failExecutionIntegrityTx I.toTerminalInvariant now tr errorCode message).bind fun _ =>
      Triple.pure fun _ h => On.rest_of_closed I hi h.1 h.2
  · obtain rfl := h.1
    exact ⟨h.2.1.2 tr rfl, h⟩

theorem on_releaseScatterChildrenTx (row : ExecutionRow) (changeSet : ChangeSetId) (tasks : Table TaskRow) :
    Triple (fun s => I.On (some tr) σ s ∧ s.tasks = tasks)
      (releaseScatterChildrenTx now tr.execution row changeSet)
      fun _ s => I.On (some tr) σ s ∧ s.tasks = tasks := by
  refine Triple.get.bind fun db => ?_
  refine Triple.pre (P := fun s => (∀ child ∈ db.executions.select fun _ c => c.parent == some tr.execution &&
      c.root == tr.execution && c.role == .scatterChild && c.awaitsRelease changeSet,
        σ.1 child.1 = some child.2.identity ∧ child.2.parent = some tr.execution) ∧
      I.On (some tr) σ s ∧ s.tasks = tasks) (Triple.intro fun hchildren => Triple.forEach fun child hc => ?_) ?_
  · obtain ⟨hi, hp⟩ := hchildren child hc
    have release := TerminalInvariant.on_of_keeps (o := some tr) (q := some tr) (σ := σ) (R := fun _ _ => True)
      (keeps_shape_releaseScatterChildTx now row changeSet child) (fun _ h => h)
      ((I.releaseChild now tr row changeSet child hp).post fun _ _ h => ⟨h, trivial⟩)
    have tasks : Keeps Database.tasks (releaseScatterChildTx now row changeSet child) :=
      Keeps.bind (keeps_compareAndSet fun _ => rfl) fun _ =>
        Keeps.ite (Keeps.modify fun s => by split <;> rfl) (Keeps.pure _)
    refine Triple.pre (Triple.post (release.and (tasks.triple (· = _))) fun _ _ h => ⟨h.1.1, h.2⟩)
      fun s h => ⟨⟨h.1, ?_⟩, h.2⟩
    obtain rfl := h.1.1
    exact hi
  · rintro s ⟨rfl, h⟩
    refine ⟨fun child hc => ?_, h⟩
    obtain ⟨hrow, hcond⟩ := Table.mem_select.1 hc
    simp only [Bool.and_eq_true, beq_iff_eq] at hcond
    obtain rfl := h.1.1
    exact ⟨identityOf_of_get? hrow, hcond.1.1.1⟩

section target

variable {plan : WorkflowDefinition} {step : String} {selector : WorkflowOutcomeSelector}
  {source : Option ProcessRecord} {context : RouteContext} {ended : Bool} {target : WorkflowStepDefinition}
  (hphase : tr.phase = .route plan step selector source context ended) (hleads : plan.Leads step selector target)

include hphase hleads

theorem on_materializeProcessTx (hkind : target.stepKind = .process) {row : ExecutionRow}
    (hid : row.identity = tr.identity) (hrow : ∀ o s, I.Holds o s → s.Recalls tr.execution row)
    (key : RouteDecisionPayload) :
    Triple (I.On (some tr) σ) (materializeProcessTx d now plan tr.execution row target key)
      fun _ => I.On tr.rest σ := by
  refine Triple.get.bind fun db => Triple.guard <|
    (Triple.orRaise (Q := fun task s => s.tasks.get? row.task = some task ∧ db = s ∧ I.On (some tr) σ s)
      fun s task h htask => ⟨?_, h⟩).bind fun task => ?_
  · rw [← h.1]; exact htask
  refine (Triple.ofExcept (Q := fun _ s => actualBindingError row task.requestIntent (target.processKey.getD "") = none ∧
    s.tasks.get? row.task = some task ∧ db = s ∧ I.On (some tr) σ s) fun s _ h he => ⟨?_, h⟩).bind fun _ =>
      Triple.intro fun hbond => Triple.ofExcept_frame.bind fun input => ?_
  · split at he
    · cases he
    · assumption
  refine Triple.ite (fun _ => Triple.pure fun s h => On.rest I h.2.2) fun hnew => ?_
  refine (on_endWrite I (keeps_shape_insertProcessTx now tr.execution _) (I.insertProcess now tr plan step selector
    source context ended target row task input key hphase hleads hkind hid hbond)).pre (fun s h => ?_) |>.bind fun _ =>
      Triple.keep
  obtain ⟨htask, rfl, hI⟩ := h
  exact ⟨hI, htask, hrow _ _ hI.2.2, by simpa using hnew⟩

theorem on_enterHumanReviewGateTx (hkind : target.stepKind = .control)
    (hcontrol : target.controlKey = some "human_review_gate") (key : RouteDecisionPayload)
    (from? : Option ProcessId) :
    Triple (I.On (some tr) σ) (enterHumanReviewGateTx now tr.execution target key from? context)
      fun _ => I.On tr.rest σ := by
  have hkey : target.controlKey.getD "" = "human_review_gate" := by rw [hcontrol]; rfl
  unfold enterHumanReviewGateTx
  simp only [hkey]
  refine Triple.get_frame.bind fun db => Triple.ite
    (fun _ => Triple.pure fun s h => On.rest I h) fun _ => ?_
  refine (Triple.execution (Q := fun current s => I.On (some tr) σ s ∧ s.executions.get? tr.execution = some current)
    fun s row h hrow => ⟨h, hrow⟩).bind fun current => ?_
  refine Triple.ite (fun _ => Triple.pure fun s h => On.rest I h.1) fun _ => ?_
  split
  · exact (on_failRoute I now _ _ _).pre fun s h => h.1
  split
  · exact (on_failRoute I now _ _ _).pre fun s h => h.1
  · exact (on_endWrite I (keeps_shape_openGateTx _ _ _ _ _) (I.openGate tr plan step selector source context ended
      target current key _ hphase hleads hkind hcontrol)).bind fun _ => Triple.keep

omit hleads in
theorem on_enterScatterChildrenJoinTx (key : RouteDecisionPayload) (from? : Option ProcessId) :
    Triple (I.On (some tr) σ) (enterScatterChildrenJoinTx now tr.execution key from?)
      fun _ => I.On tr.rest σ := by
  refine (Triple.execution (Q := fun current s => (current.identity = tr.identity ∧
    σ.1 tr.execution = some tr.identity) ∧ I.On (some tr) σ s) fun s row h hrow => ?_).bind fun current =>
      Triple.intro fun hid => Triple.get.bind fun db => ?_
  · have hi := h.2.1.2 tr rfl
    refine ⟨⟨Option.some.inj ((identityOf_of_get? hrow).symm.trans hi), ?_⟩, h⟩
    obtain rfl := h.1
    exact hi
  have htask : current.task = tr.identity.task := congrArg ExecutionIdentity.task hid.1
  have fail (code message : String) : Triple (fun s => db = s ∧ I.On (some tr) σ s) (do
      failExecutionIntegrityTx now tr.execution code message
      pure false) fun _ => I.On tr.rest σ := (on_failRoute I now code message false).pre fun _ h => h.2
  refine Triple.ite (fun _ => Triple.pure fun s h => On.rest I h.2) fun _ => ?_
  split
  · exact fail _ _
  next snapshot changeSet hacc =>
  replace hacc : (db.acceptance? tr.identity.task tr.execution).isSome := by
    rw [← htask]
    exact (Option.eq_some_of_filter_eq_some hacc) ▸ rfl
  split
  · exact fail _ _
  · split
    · exact fail _ _
    · refine ((on_terminalizeExecutionTx I.toTerminalInvariant now { tr with phase := .join }
        fun k hk => Or.inl (Option.some.inj hk).symm).pre fun s h => ?_).bind fun _ => Triple.pure fun _ h =>
          On.rest_of_closed I hid.2 h.1 h.2
      obtain ⟨rfl, hsh, hs, hI⟩ := h
      exact ⟨hsh, Shaped.some hs.1 (hs.2 tr rfl), I.zeroJoin hphase hs hI hacc⟩
  · refine ((on_releaseScatterChildrenTx I now current changeSet db.tasks).pre fun s h =>
      ⟨h.2, by rw [h.1]⟩).bind fun _ => ?_
    refine ((on_endWrite I (keeps_shape_joinWaitTx _ _) (I.joinWait tr plan step selector source context ended
      changeSet hphase)).pre fun s h => ⟨h.1, by rw [acceptance?_congr h.2]; exact hacc⟩).bind fun updated => ?_
    exact (I.on_refresh _ _).bind fun _ => Triple.keep

end target

/-! ### the routes of a decision -/

/-- A way of taking the routes of a decision that keeps every invariant. -/
def Applies (d : Deployment) (σ : Shape) (plan : WorkflowDefinition) (apply : ApplyRoutes) : Prop :=
  ∀ (I : RouteInvariant d) (tr : Transit) (step : String) (selector : WorkflowOutcomeSelector) (source : Option ProcessRecord)
    (context : RouteContext) (ended : Bool) (row : ExecutionRow) (decision : RouteDecision) (error : Option String),
    tr.phase = .route plan step selector source context ended → row.identity = tr.identity →
    (∀ o s, I.Holds o s → s.Recalls tr.execution row) →
    (∃ row typed, routeDecision plan tr.execution row step selector typed = .ok decision) →
    Triple (I.On (some tr) σ) (apply tr.execution row decision source context error) fun _ => I.On tr.rest σ

section apply

variable {plan : WorkflowDefinition} {step : String} {selector : WorkflowOutcomeSelector}
  {source : Option ProcessRecord} {context : RouteContext} {ended : Bool} {target : WorkflowStepDefinition}
  {apply : ApplyRoutes}

theorem on_enterSelectedOutputWith (happly : Applies d σ plan apply)
    (hphase : tr.phase = .route plan step selector source context ended) (hleads : plan.Leads step selector target)
    (hkind : target.stepKind = .control) (hcontrol : target.controlKey = some "selected_output")
    (key : RouteDecisionPayload) :
    Triple (I.On (some tr) σ) (enterSelectedOutputWith now plan apply tr.execution target key)
      fun _ => I.On tr.rest σ := by
  refine (Triple.execution (Q := fun current s => current.identity = tr.identity ∧
    s.executions.get? tr.execution = some current ∧ I.On (some tr) σ s) fun s row h hrow => ⟨?_, hrow, h⟩).bind
      fun current => Triple.intro fun hid => Triple.get_frame.bind fun db => ?_
  · exact Option.some.inj ((identityOf_of_get? hrow).symm.trans (h.2.1.2 tr rfl))
  refine Triple.ite (fun _ => Triple.pure fun s h => On.rest I h.2) fun _ => ?_
  split
  · exact (on_failRoute I now _ _ _).pre fun _ h => h.2
  split
  · exact (on_failRoute I now _ _ _).pre fun _ h => h.2
  · next selected _ =>
    have recorded (selection : SelectedOutputRow) : Triple (fun s => s.executions.get? tr.execution = some current)
        (recordSelectedOutputTx selection) fun _ s => s.executions.get? tr.execution = some current := by
      intro s _ t h ht
      rw [(core_eq_iff.1 (keeps_core_recordSelectedOutputTx _ s _ t ht)).2.1]
      exact h
    refine ((recorded _).and (on_core I (keeps_core_recordSelectedOutputTx _))).bind fun _ => Triple.get_frame.bind
      fun db' => Triple.ite (fun _ => ?_) fun _ => (on_failRoute I now _ _ _).pre fun _ h => h.2
    refine (Triple.ofExcept (Q := fun decision s => routeDecision plan tr.execution current target.stepKey .succeeded {}
      = .ok decision ∧ s.executions.get? tr.execution = some current ∧ I.On (some tr) σ s)
        fun s decision h hd => ⟨hd, h⟩).bind fun decision => Triple.intro fun hd => ?_
    have proofless : selected.sourceRecord.bind (·.2.proof) = none := by
      unfold OutputCandidate.sourceRecord
      cases selected.source <;> rfl
    let tr' := tr.follow plan target.stepKey selected.sourceRecord ended
    have back {s₀ : Database} (hrow₀ : s₀.executions.get? tr.execution = some current) (h₀ : I.On (some tr) σ s₀) :
        Triple ((I.since s₀).On (some tr') σ) (apply tr.execution current decision selected.sourceRecord {} none)
          fun _ => I.On tr.rest σ := by
      refine (happly (I.since s₀) tr' _ _ _ _ ended current decision none rfl hid (fun _ _ h => h.2 _ _ hrow₀)
        ⟨_, _, hd⟩).post fun _ s h => ?_
      replace h := On.of_since h
      by_cases hfan : plan.HasFanOut
      · have hr' : tr'.rest = some tr' := by simp [Transit.rest, tr', Transit.follow, hfan]
        rw [hr'] at h
        exact On.rest I ⟨h.1, Shaped.some h.2.1.1 (h.2.1.2 tr' rfl), I.unfollow hphase hfan h₀.2.2 h.2.2⟩
      · have hr' : tr'.rest = none := by simp [Transit.rest, tr', Transit.follow, hfan]
        have hr : tr.rest = none := by simp [Transit.rest, hphase, hfan]
        rw [hr'] at h
        rw [hr]
        exact h
    refine Triple.start fun s₀ h₀ => (back h₀.1 h₀.2).pre fun s hs => ?_
    subst hs
    replace h₀ := h₀.2
    exact On.since ⟨h₀.1, Shaped.some h₀.2.1.1 (h₀.2.1.2 tr rfl),
      I.follow hphase hleads hkind hcontrol proofless h₀.2.1 h₀.2.2⟩
  · exact (on_failRoute I now _ _ _).pre fun _ h => h.2

theorem on_applyRouteWith (happly : Applies d σ plan apply)
    (hphase : tr.phase = .route plan step selector source context ended) {row : ExecutionRow}
    (hid : row.identity = tr.identity) (hrow : ∀ o s, I.Holds o s → s.Recalls tr.execution row)
    (key : RouteDecisionPayload) (error : Option String) {route : WorkflowRouteDefinition}
    (hroute : route ∈ plan.routes ∧ route.fromStepKey = step ∧ route.outcomeSelector = selector) :
    Triple (I.On (some tr) σ) (applyRouteWith d now plan apply tr.execution row key source context error route)
      fun _ => I.On tr.rest σ := by
  unfold applyRouteWith
  split
  · exact on_failRoute I now _ _ _
  next target htarget =>
  have hleads := leads_of_route hroute htarget
  split
  · next hkind =>
    refine Triple.pre (P := fun s => σ.1 tr.execution = some tr.identity ∧ I.On (some tr) σ s)
      (Triple.intro fun hi => ?_) fun s h => ⟨?_, h⟩
    · refine (on_terminalizeExecutionTx I.toTerminalInvariant now tr fun k hk => ?_).bind fun _ =>
        Triple.pure fun _ h => On.rest_of_closed I hi h.1 h.2
      unfold Transit.Allows
      rw [hphase]
      refine ⟨rfl, fun h => ?_, target, hleads, hkind, hk⟩
      by_contra hne
      simp [hne] at h
    · obtain rfl := h.1
      exact h.2.1.2 tr rfl
  · next hkind => exact on_materializeProcessTx I now hphase hleads hkind hid hrow key
  · next hkind =>
    unfold enterControlWith
    refine Triple.ite (fun _ => on_enterScatterChildrenJoinTx I now hphase key _) fun _ =>
      Triple.ite (fun hc => on_enterSelectedOutputWith I now happly hphase hleads hkind (by simpa using hc) key)
        fun _ => Triple.ite (fun hc => on_enterHumanReviewGateTx I now hphase hleads hkind (by simpa using hc) key _)
          fun _ => Triple.throw
  · exact on_failRoute I now _ _ _

omit I in
theorem applies_applyRoutesWith (happly : Applies d σ plan apply) :
    Applies d σ plan (applyRoutesWith d now plan apply) := by
  intro I tr step selector source context ended row decision error hphase hid hrow hd
  obtain ⟨row₀, typed, hd⟩ := hd
  unfold applyRoutesWith
  refine Triple.ite (fun _ => on_failRoute I now _ _ _) fun hne => ?_
  have one (route : WorkflowRouteDefinition) (hr : route ∈ decision.routes) :=
    on_applyRouteWith I now happly hphase hid hrow decision.payload error (mem_routes_of_routeDecision hd hr)
  by_cases hfan : plan.HasFanOut
  · have hrest : tr.rest = some tr := by simp [Transit.rest, hphase, hfan]
    rw [hrest] at one ⊢
    exact Triple.anyEach one
  · have hlen := length_routes_le hfan hd
    match hroutes : decision.routes with
    | [] => simp [hroutes] at hne
    | [route] =>
      have none : Triple (I.On tr.rest σ) (anyEach [] (applyRouteWith d now plan apply tr.execution row
          decision.payload source context error)) fun _ => I.On tr.rest σ := Triple.keep
      exact (one route (by simp [hroutes])).bind fun b => none.bind fun c => Triple.keep
    | _ :: _ :: _ => simp [hroutes] at hlen

omit I in
theorem applies_applyRoutesTx : Applies d σ plan (applyRoutesTx d now plan) := by
  have depth (n : Nat) : Applies d σ plan (applyRoutesDepth d now plan n) := by
    induction n with
    | zero => exact applies_applyRoutesWith now fun _ _ _ _ _ _ _ _ _ _ _ _ _ _ => Triple.throw
    | succ n ih => exact applies_applyRoutesWith now ih
  exact depth _

end apply

/-! ### routing after a terminal Process -/

theorem on_sealCleanRouteTx {row : ExecutionRow} (hid : row.identity = tr.identity) (plan : WorkflowDefinition)
    (decision : RouteDecision) (intent : Option RequestIntent) :
    Triple (fun s => s.Recalls tr.execution row ∧ I.On (some tr) σ s) (sealCleanRouteTx tr.execution row plan decision intent)
      fun row s => row.identity = tr.identity ∧ s.Recalls tr.execution row ∧ I.On (some tr) σ s := by
  unfold sealCleanRouteTx
  split
  · exact Triple.pure fun _ h => ⟨hid, h⟩
  · next stepKey processKey others _ =>
    refine Triple.ite (fun _ => Triple.pure fun _ h => ⟨hid, h⟩) fun _ => ?_
    refine Triple.guard <| Triple.ofExcept_frame.bind fun strategy => ?_
    have again : Triple (I.On (some tr) σ) (execution tr.execution)
        fun row s => row.identity = tr.identity ∧ s.Recalls tr.execution row ∧ I.On (some tr) σ s :=
      Triple.execution fun s row h hrow =>
        ⟨Option.some.inj ((identityOf_of_get? hrow).symm.trans (h.2.1.2 tr rfl)), .of_get? hrow, h⟩
    split
    · exact Triple.guard <| again.pre fun _ h => h.2
    · exact Triple.bind (Triple.pre (TerminalInvariant.on_write (keeps_shape_sealActualBindingTx _ _ _ _ _)
        (I.sealBinding tr decision.payload stepKey processKey strategy)) fun _ h => h.2) fun _ => again

theorem on_routeAfterTerminalProcessTx {e : ExecutionId} {row : ExecutionRow} (process : ProcessRecord)
    (selector : WorkflowOutcomeSelector) (extra : OutcomeExtra) (terminalError : Option String) {G : Database → Prop}
    (hrow : ∀ s, G s → s.Recalls e row)
    (enter : ∀ s plan context, G s → assertExecutionBinding d row = .ok plan →
      context.operationMode = extra.operationMode → I.On (some ⟨e, row.identity,
        .route plan process.2.stepKey selector (some process) context true⟩) σ s) :
    Triple G (routeAfterTerminalProcessTx d now e row process selector extra terminalError)
      fun _ => I.On none σ := by
  refine (Triple.ofExcept (Q := fun plan s => assertExecutionBinding d row = .ok plan ∧ G s)
    fun s plan h hp => ⟨hp, h⟩).bind fun plan => Triple.intro fun hplan => Triple.get.bind fun db => ?_
  dsimp only
  refine (Triple.ofExcept (Q := fun decision s => routeDecision plan e row process.2.stepKey selector
    { typedRouteContext d db e row with operationMode := extra.operationMode, gateAction := extra.gateAction } =
      .ok decision ∧ db = s ∧ G s) fun s decision h hd => ⟨hd, h⟩).bind fun decision => Triple.intro fun hd => ?_
  let context : RouteContext :=
    { typedRouteContext d db e row with operationMode := extra.operationMode, gateAction := extra.gateAction }
  let tr : Transit := ⟨e, row.identity, .route plan process.2.stepKey selector (some process) context true⟩
  have sealing : Triple (fun s => s.Recalls e row ∧ I.On (some tr) σ s)
      (sealCleanRouteTx e row plan decision context.requestIntent)
      fun row' s => row'.identity = tr.identity ∧ s.Recalls e row' ∧ I.On (some tr) σ s :=
    @on_sealCleanRouteTx d I σ tr row rfl plan decision context.requestIntent
  refine (sealing.pre fun s h => ⟨hrow s h.2, enter s plan context h.2 hplan rfl⟩).bind fun row' =>
    Triple.intro fun hid => Triple.start fun s₁ h₁ => ?_
  have applied : Triple ((I.since s₁).On (some tr) σ)
      (applyRoutesTx d now plan e row' decision (some process) context terminalError)
      fun _ => (I.since s₁).On tr.rest σ :=
    applies_applyRoutesTx now (I.since s₁) tr process.2.stepKey selector (some process) context true row' decision
      terminalError rfl hid (fun _ _ h => h₁.1.follows h.2) ⟨_, _, hd⟩
  refine (applied.pre fun s hs => ?_).bind fun _ => Triple.pure fun s h => ?_
  · subst hs
    exact On.since h₁.2
  · replace h := On.of_since h
    rcases tr.rest_cases with hr | hr <;> rw [hr] at h
    · exact h
    · exact h.leave

end routes

end KnowledgeBase
