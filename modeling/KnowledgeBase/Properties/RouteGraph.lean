import KnowledgeBase.Library.Relation
import KnowledgeBase.Workflow.Search

/-!
# The route graphs a workflow definition may have

`_validate_routes` and `_validate_graph` accept exactly the definitions whose route records are in order and whose
route graph has no cycle, is reached from the start step, reaches a terminal from every step and covers the outcomes
of every process and control step; a run along the routes of such a definition repeats no step: `routeGraph_exact`.
-/

namespace KnowledgeBase

namespace WorkflowDefinition

open Relation Checked

theorem refuseIf_eq_ok_iff {c : Bool} {message : String} {u : Unit} : refuseIf c message = .ok u ↔ c = false := by
  cases c <;> simp [refuseIf]

/-! ### what is accepted -/

/-- Two routes of one step and outcome have one priority. -/
def SamePriority (a b : WorkflowRouteDefinition) : Prop :=
  a.fromStepKey = b.fromStepKey ∧ a.outcomeSelector = b.outcomeSelector ∧ a.priority = b.priority

/-- The key names a step of the kind. -/
def HasKind (plan : WorkflowDefinition) (key : String) (kind : WorkflowStepKind) : Prop :=
  ∃ step ∈ plan.steps, step.stepKey = key ∧ step.stepKind = kind

/-- The routes join steps of the definition. -/
def RoutesOverSteps (plan : WorkflowDefinition) : Prop :=
  ∀ route ∈ plan.routes, ∃ source ∈ plan.steps, ∃ target ∈ plan.steps, source.stepKey = route.fromStepKey ∧
    target.stepKey = route.toStepKey

/-- What the validators ask of the route records besides the graph they make: distinct keys, the terminal kind for
the routes to terminals and no other, guards on an unconditional selector at the start step only, and every guard
registered and used. -/
structure RouteRecords (plan : WorkflowDefinition) (startKey : String) : Prop where
  keys : (plan.routes.map (·.routeKey)).Nodup
  kind : ∀ route ∈ plan.routes, route.routeKind = .terminal ↔ plan.HasKind route.toStepKey .terminal
  guarded : ∀ route ∈ plan.routes, route.outcomeSelector = .always → route.guardKey ≠ none → route.fromStepKey = startKey
  guards : ∀ key, (∃ guard ∈ plan.guards, guard.guardKey = key) ↔ ∃ route ∈ plan.routes, route.guardKey = some key

/-- The route graph leads from the start step through every step to a terminal, without cycles, and says at each step
what follows. -/
structure LegalGraph (plan : WorkflowDefinition) (startKey : String) : Prop where
  acyclic : Graph.Acyclic plan.Edge
  reachable : ∀ step ∈ plan.steps, ReflTransGen plan.Edge startKey step.stepKey
  terminates : ∀ step ∈ plan.steps, ∃ terminal ∈ plan.steps, terminal.stepKind = .terminal ∧
    ReflTransGen plan.Edge step.stepKey terminal.stepKey
  closed : ∀ route ∈ plan.routes, ¬ plan.HasKind route.fromStepKey .terminal
  priorities : plan.routes.Pairwise fun a b => ¬ SamePriority a b
  covered : ∀ step ∈ plan.steps, step.stepKind = .process ∨ step.stepKind = .control →
    ∀ selector ∈ [WorkflowOutcomeSelector.succeeded, .failed, .cancelled], ∃ route ∈ plan.routes,
      route.fromStepKey = step.stepKey ∧ route.outcomeSelector = selector

/-- `_validate_routes` and `_validate_graph` let the definition pass. -/
def AcceptsRoutes (plan : WorkflowDefinition) (startKey : String) : Prop :=
  plan.validateRoutes startKey = .ok () ∧ plan.validateGraph startKey = .ok ()

/-! ### steps by key -/

theorem uniqueSteps_eq_ok_iff {plan : WorkflowDefinition} {u : Unit} :
    plan.uniqueSteps = .ok u ↔ (plan.steps.map (·.stepKey)).Nodup ∧
      (plan.steps.filter fun step => step.stepKind == .start).length = 1 ∧
      ∃ terminal ∈ plan.steps, terminal.stepKind = .terminal := by
  unfold uniqueSteps
  simp [bind_ok_iff, refuseIf_eq_ok_iff]

theorem step?_isSome_iff {plan : WorkflowDefinition} {key : String} :
    (plan.step? key).isSome = true ↔ ∃ step ∈ plan.steps, step.stepKey = key := by
  unfold step?
  rw [List.find?_isSome]
  simp

theorem kindOf?_eq_some_iff {plan : WorkflowDefinition} (hnodup : (plan.steps.map (·.stepKey)).Nodup) {key : String}
    {kind : WorkflowStepKind} : plan.kindOf? key = some kind ↔ plan.HasKind key kind := by
  unfold kindOf?
  rw [Option.map_eq_some_iff]
  constructor
  · rintro ⟨step, hstep, rfl⟩
    obtain ⟨hmem, hkey⟩ := step?_eq_some hstep
    exact ⟨step, hmem, hkey, rfl⟩
  · rintro ⟨step, hmem, rfl, rfl⟩
    obtain ⟨found, hfound⟩ := Option.isSome_iff_exists.1 (step?_isSome_iff.2 ⟨step, hmem, rfl⟩)
    obtain ⟨hfoundMem, hkey⟩ := step?_eq_some hfound
    obtain rfl := List.inj_on_of_nodup_map hnodup hfoundMem hmem hkey
    exact ⟨found, hfound, rfl⟩

/-! ### edges -/

theorem listed_adjacency {plan : WorkflowDefinition} {a b : String} : Listed plan.adjacency a b ↔ plan.Edge a b := by
  unfold Listed adjacency Edge
  rw [List.mem_map]
  simp only [List.mem_filter, beq_iff_eq, and_assoc]

theorem listed_reverseAdjacency {plan : WorkflowDefinition} {a b : String} :
    Listed plan.reverseAdjacency b a ↔ plan.Edge a b := by
  unfold Listed reverseAdjacency Edge
  rw [List.mem_map]
  simp only [List.mem_filter, beq_iff_eq, and_assoc]
  exact exists_congr fun route => and_congr_right fun _ => and_comm

theorem listed_adjacency_eq (plan : WorkflowDefinition) : Listed plan.adjacency = plan.Edge := by
  funext a b
  exact propext listed_adjacency

theorem listed_reverseAdjacency_eq (plan : WorkflowDefinition) :
    Listed plan.reverseAdjacency = Function.swap plan.Edge := by
  funext b a
  exact propext listed_reverseAdjacency

/-! ### the routes -/

/-- What one route has to meet whatever the routes before it. -/
structure RouteChecks (plan : WorkflowDefinition) (startKey : String) (route : WorkflowRouteDefinition) : Prop where
  source : ∃ step ∈ plan.steps, step.stepKey = route.fromStepKey
  target : ∃ step ∈ plan.steps, step.stepKey = route.toStepKey
  irreflexive : route.fromStepKey ≠ route.toStepKey
  closed : ¬ plan.HasKind route.fromStepKey .terminal
  kind : route.routeKind = .terminal ↔ plan.HasKind route.toStepKey .terminal
  guarded : route.outcomeSelector = .always → route.guardKey ≠ none → route.fromStepKey = startKey
  registered : ∀ key, route.guardKey = some key → ∃ guard ∈ plan.guards, guard.guardKey = key

theorem validateRoute_eq_ok_iff {plan : WorkflowDefinition} (hnodup : (plan.steps.map (·.stepKey)).Nodup)
    {startKey : String} {before : List WorkflowRouteDefinition} {route : WorkflowRouteDefinition} {u : Unit} :
    plan.validateRoute startKey before route = .ok u ↔
      plan.RouteChecks startKey route ∧ ∀ other ∈ before, ¬ SamePriority other route := by
  have hknown : ((plan.step? route.fromStepKey).isNone || (plan.step? route.toStepKey).isNone) = false ↔
      (∃ step ∈ plan.steps, step.stepKey = route.fromStepKey) ∧ ∃ step ∈ plan.steps, step.stepKey = route.toStepKey := by
    rw [Bool.or_eq_false_iff, Option.isNone_eq_false_iff, Option.isNone_eq_false_iff, step?_isSome_iff, step?_isSome_iff]
  have hclosed : (plan.kindOf? route.fromStepKey == some .terminal) = false ↔
      ¬ plan.HasKind route.fromStepKey .terminal := by
    rw [beq_eq_false_iff_ne, ne_eq, kindOf?_eq_some_iff hnodup]
  have hbefore : (before.any fun other => other.fromStepKey == route.fromStepKey &&
      other.outcomeSelector == route.outcomeSelector && other.priority == route.priority) = false ↔
        ∀ other ∈ before, ¬ SamePriority other route := by
    rw [List.any_eq_false]
    simp only [SamePriority, Bool.and_eq_true, beq_iff_eq, and_assoc]
  have hkind : ((route.routeKind == .terminal) != (plan.kindOf? route.toStepKey == some .terminal)) = false ↔
      (route.routeKind = .terminal ↔ plan.HasKind route.toStepKey .terminal) := by
    rw [bne_eq_false_iff_eq, Bool.eq_iff_iff, beq_iff_eq, beq_iff_eq, kindOf?_eq_some_iff hnodup]
  have hguarded : (route.outcomeSelector == .always && route.guardKey.isSome && route.fromStepKey != startKey) = false ↔
      (route.outcomeSelector = .always → route.guardKey ≠ none → route.fromStepKey = startKey) := by
    rw [← Bool.not_eq_true, Bool.and_eq_true, Bool.and_eq_true, beq_iff_eq, Option.isSome_iff_ne_none, bne_iff_ne]
    tauto
  have hregistered : (route.guardKey.any fun key => (plan.guard? key).isNone) = false ↔
      ∀ key, route.guardKey = some key → ∃ guard ∈ plan.guards, guard.guardKey = key := by
    unfold guard?
    cases route.guardKey with
    | none => simp
    | some key => simp
  unfold validateRoute
  simp only [bind_ok_iff, refuseIf_eq_ok_iff, hknown, hclosed, hbefore, hkind, hguarded, hregistered,
    beq_eq_false_iff_ne]
  constructor
  · rintro ⟨_, ⟨hsource, htarget⟩, _, hne, _, hclosed, _, hbefore, _, hkind, _, hguarded, hregistered⟩
    exact ⟨⟨hsource, htarget, hne, hclosed, hkind, hguarded, hregistered⟩, hbefore⟩
  · rintro ⟨h, hbefore⟩
    exact ⟨(), ⟨h.source, h.target⟩, (), h.irreflexive, (), h.closed, (), hbefore, (), h.kind, (), h.guarded,
      h.registered⟩

theorem validateRoutesFrom_eq_ok_iff {plan : WorkflowDefinition} (hnodup : (plan.steps.map (·.stepKey)).Nodup)
    {startKey : String} {before routes : List WorkflowRouteDefinition} {u : Unit} :
    plan.validateRoutesFrom startKey before routes = .ok u ↔
      (∀ route ∈ routes, plan.RouteChecks startKey route) ∧
        (∀ other ∈ before, ∀ route ∈ routes, ¬ SamePriority other route) ∧
        routes.Pairwise fun a b => ¬ SamePriority a b := by
  induction routes generalizing before with
  | nil => simp [validateRoutesFrom]
  | cons route routes ih =>
    unfold validateRoutesFrom
    rw [bind_ok_iff]
    simp only [validateRoute_eq_ok_iff hnodup, ih, List.mem_append, List.mem_cons, List.not_mem_nil, or_false,
      forall_eq_or_imp, List.pairwise_cons]
    constructor
    · rintro ⟨_, ⟨hroute, hbefore⟩, hrest, happart, hpairwise⟩
      refine ⟨⟨hroute, hrest⟩, ?_, ?_, hpairwise⟩
      · exact fun other hother => ⟨hbefore other hother, happart other (.inl hother)⟩
      · exact happart route (.inr rfl)
    · rintro ⟨⟨hroute, hrest⟩, hbefore, hfirst, hpairwise⟩
      refine ⟨(), ⟨hroute, fun other hother => (hbefore other hother).1⟩, hrest, ?_, hpairwise⟩
      rintro other (hother | rfl)
      · exact (hbefore other hother).2
      · exact hfirst

theorem validateRoutes_eq_ok_iff {plan : WorkflowDefinition} (hnodup : (plan.steps.map (·.stepKey)).Nodup)
    {startKey : String} {u : Unit} :
    plan.validateRoutes startKey = .ok u ↔
      plan.RouteRecords startKey ∧ plan.RoutesOverSteps ∧ (∀ route ∈ plan.routes, route.fromStepKey ≠ route.toStepKey) ∧
        (∀ route ∈ plan.routes, ¬ plan.HasKind route.fromStepKey .terminal) ∧
        plan.routes.Pairwise fun a b => ¬ SamePriority a b := by
  have hused : (!plan.guards.all fun guard => plan.routes.any fun route => route.guardKey == some guard.guardKey) = false ↔
      ∀ guard ∈ plan.guards, ∃ route ∈ plan.routes, route.guardKey = some guard.guardKey := by
    simp
  unfold validateRoutes
  simp only [bind_ok_iff, refuseIf_eq_ok_iff, validateRoutesFrom_eq_ok_iff hnodup, hused, Bool.not_eq_false',
    decide_eq_true_eq]
  constructor
  · rintro ⟨_, hkeys, _, ⟨hchecks, -, hpairwise⟩, hused⟩
    refine ⟨⟨hkeys, fun r hr => (hchecks r hr).kind, fun r hr => (hchecks r hr).guarded, ?_⟩, ?_,
      fun r hr => (hchecks r hr).irreflexive, fun r hr => (hchecks r hr).closed, hpairwise⟩
    · intro key
      constructor
      · rintro ⟨guard, hguard, rfl⟩
        exact hused guard hguard
      · rintro ⟨route, hroute, hkey⟩
        exact (hchecks route hroute).registered key hkey
    · intro route hroute
      obtain ⟨source, hsource, hsourceKey⟩ := (hchecks route hroute).source
      obtain ⟨target, htarget, htargetKey⟩ := (hchecks route hroute).target
      exact ⟨source, hsource, target, htarget, hsourceKey, htargetKey⟩
  · rintro ⟨hrecords, hover, hne, hclosed, hpairwise⟩
    refine ⟨(), hrecords.keys, (), ⟨fun route hroute => ?_, by simp, hpairwise⟩, ?_⟩
    · obtain ⟨source, hsource, target, htarget, hsourceKey, htargetKey⟩ := hover route hroute
      exact ⟨⟨source, hsource, hsourceKey⟩, ⟨target, htarget, htargetKey⟩, hne route hroute, hclosed route hroute,
        hrecords.kind route hroute, hrecords.guarded route hroute,
        fun key hkey => (hrecords.guards key).2 ⟨route, hroute, hkey⟩⟩
    · exact fun guard hguard => (hrecords.guards guard.guardKey).1 ⟨guard, hguard, rfl⟩

/-! ### the graph -/

/-- A step has a path to a terminal. -/
def ReachesTerminal (plan : WorkflowDefinition) (key : String) : Prop :=
  ∃ terminal ∈ plan.steps, terminal.stepKind = .terminal ∧ ReflTransGen plan.Edge key terminal.stepKey

/-- The keys of the steps. -/
def stepKeys (plan : WorkflowDefinition) : List String := plan.steps.map (·.stepKey)

theorem RoutesOverSteps.source {plan : WorkflowDefinition} (h : plan.RoutesOverSteps) {a b : String}
    (hab : plan.Edge a b) : a ∈ plan.stepKeys := by
  obtain ⟨route, hroute, rfl, -⟩ := hab
  obtain ⟨source, hsource, -, -, hkey, -⟩ := h route hroute
  exact List.mem_map.2 ⟨source, hsource, hkey⟩

theorem RoutesOverSteps.target {plan : WorkflowDefinition} (h : plan.RoutesOverSteps) {a b : String}
    (hab : plan.Edge a b) : b ∈ plan.stepKeys := by
  obtain ⟨route, hroute, -, rfl⟩ := hab
  obtain ⟨-, -, target, htarget, -, hkey⟩ := h route hroute
  exact List.mem_map.2 ⟨target, htarget, hkey⟩

theorem mem_collect_terminals {plan : WorkflowDefinition} (hnodup : plan.stepKeys.Nodup) (hover : plan.RoutesOverSteps)
    (key : String) :
    key ∈ collect plan.reverseAdjacency (plan.steps.length + 1)
        ((plan.steps.filter fun step => step.stepKind == .terminal).map (·.stepKey))
        ((plan.steps.filter fun step => step.stepKind == .terminal).map (·.stepKey)) ↔ plan.ReachesTerminal key := by
  have hsub := (List.filter_sublist (p := fun step : WorkflowStepDefinition => step.stepKind == .terminal)
    (l := plan.steps)).map (·.stepKey)
  have hclosed : ∀ a ∈ plan.stepKeys, ∀ b ∈ plan.reverseAdjacency a, b ∈ plan.stepKeys :=
    fun a _ b hb => hover.source (listed_reverseAdjacency.1 hb)
  rw [mem_collect hclosed (hsub.nodup hnodup) (fun x hx => hsub.subset hx) (fun _ hx => hx) (fun x hx => .inl hx)
    (by simp only [stepKeys, List.length_map]; omega), listed_reverseAdjacency_eq]
  unfold ReachesTerminal
  simp only [reflTransGen_swap, List.mem_map, List.mem_filter, beq_iff_eq]
  constructor
  · rintro ⟨_, ⟨terminal, ⟨hmem, hkind⟩, rfl⟩, hpath⟩
    exact ⟨terminal, hmem, hkind, hpath⟩
  · rintro ⟨terminal, hmem, hkind, hpath⟩
    exact ⟨_, ⟨terminal, ⟨hmem, hkind⟩, rfl⟩, hpath⟩

theorem coversOutcomes_eq_true_iff {plan : WorkflowDefinition} {key : String} :
    plan.coversOutcomes key = true ↔
      ∀ selector ∈ [WorkflowOutcomeSelector.succeeded, .failed, .cancelled], ∃ route ∈ plan.routes,
        route.fromStepKey = key ∧ route.outcomeSelector = selector := by
  unfold coversOutcomes
  simp only [List.all_eq_true, List.any_eq_true, Bool.and_eq_true, beq_iff_eq]

/-- The search accepts exactly the graphs without cycles all of whose steps it meets. -/
theorem visit_covers_iff {plan : WorkflowDefinition} (hover : plan.RoutesOverSteps) {startKey : String}
    (hstart : startKey ∈ plan.stepKeys) :
    (∃ state, visit plan.adjacency (plan.steps.length + 1) ⟨[], []⟩ startKey = .ok state ∧
        ∀ step ∈ plan.steps, step.stepKey ∈ state.visited) ↔
      Graph.Acyclic plan.Edge ∧ ∀ step ∈ plan.steps, ReflTransGen plan.Edge startKey step.stepKey := by
  constructor
  · rintro ⟨state, hvisit, hall⟩
    obtain ⟨hsettled, hmem⟩ := visit_eq_ok hvisit
    rw [listed_adjacency_eq] at hsettled hmem
    refine ⟨fun a hcycle => ?_, fun step hstep => (hmem _).1 (hall step hstep)⟩
    obtain ⟨b, hab, -⟩ := TransGen.head'_iff.1 hcycle
    obtain ⟨step, hstep, rfl⟩ := List.mem_map.1 (hover.source hab)
    exact hsettled.not_transGen (hall step hstep) hcycle
  · rintro ⟨hacyclic, hreachable⟩
    have hclosed : ∀ a ∈ plan.stepKeys, ∀ b ∈ plan.adjacency a, b ∈ plan.stepKeys :=
      fun a _ b hb => hover.target (listed_adjacency.1 hb)
    rw [← listed_adjacency_eq] at hacyclic
    have hfuel : plan.stepKeys.length < plan.steps.length + 1 := by
      rw [stepKeys, List.length_map]
      omega
    obtain ⟨state, hvisit⟩ : ∃ state, visit plan.adjacency (plan.steps.length + 1) ⟨[], []⟩ startKey = .ok state :=
      visit_isOk hacyclic hclosed hstart .nil (fun v hv => absurd hv List.not_mem_nil) hfuel
    refine ⟨state, hvisit, fun step hstep => ?_⟩
    rw [(visit_eq_ok hvisit).2, listed_adjacency_eq]
    exact hreachable step hstep

theorem validateGraph_eq_ok_iff {plan : WorkflowDefinition} (hnodup : plan.stepKeys.Nodup) (hover : plan.RoutesOverSteps)
    {startKey : String} (hstart : startKey ∈ plan.stepKeys) {u : Unit} :
    plan.validateGraph startKey = .ok u ↔
      (∃ route ∈ plan.routes, route.fromStepKey = startKey) ∧
        (Graph.Acyclic plan.Edge ∧ ∀ step ∈ plan.steps, ReflTransGen plan.Edge startKey step.stepKey) ∧
        (∀ step ∈ plan.steps, plan.ReachesTerminal step.stepKey) ∧
        ∀ step ∈ plan.steps, step.stepKind = .process ∨ step.stepKind = .control →
          plan.coversOutcomes step.stepKey = true := by
  have hkind : ∀ step : WorkflowStepDefinition, (step.stepKind = .process ∨ step.stepKind = .control →
      plan.coversOutcomes step.stepKey = true) ↔
        ((step.stepKind != .process && step.stepKind != .control) || plan.coversOutcomes step.stepKey) = true := by
    intro step
    rw [Bool.or_eq_true, Bool.and_eq_true, bne_iff_ne, bne_iff_ne]
    tauto
  unfold validateGraph
  simp only [bind_ok_iff, refuseIf_eq_ok_iff, Bool.not_eq_false', List.any_eq_true, beq_iff_eq, List.all_eq_true,
    List.contains_iff_mem, mem_collect_terminals hnodup hover, ← hkind, ← visit_covers_iff hover hstart]
  constructor
  · rintro ⟨_, hout, state, hvisit, _, hvisited, _, hreaching, hcovers⟩
    exact ⟨hout, ⟨state, hvisit, hvisited⟩, hreaching, hcovers⟩
  · rintro ⟨hout, ⟨state, hvisit, hvisited⟩, hreaching, hcovers⟩
    exact ⟨(), hout, state, hvisit, (), hvisited, (), hreaching, hcovers⟩

/-! ### both -/

theorem acceptsRoutes_iff {plan : WorkflowDefinition} (hsteps : plan.uniqueSteps = .ok ()) {start : WorkflowStepDefinition}
    (hstart : plan.startStep? = some start) :
    plan.AcceptsRoutes start.stepKey ↔
      plan.RouteRecords start.stepKey ∧ plan.RoutesOverSteps ∧ plan.LegalGraph start.stepKey := by
  obtain ⟨hnodup, -, terminal, hterminal, hterminalKind⟩ := uniqueSteps_eq_ok_iff.1 hsteps
  have hstartMem : start ∈ plan.steps := List.mem_of_find?_eq_some hstart
  have hstartKind : start.stepKind = .start := by simpa using List.find?_some hstart
  have hstartKey : start.stepKey ∈ plan.stepKeys := List.mem_map.2 ⟨start, hstartMem, rfl⟩
  unfold AcceptsRoutes
  rw [validateRoutes_eq_ok_iff hnodup]
  constructor
  · rintro ⟨⟨hrecords, hover, -, hclosed, hpairwise⟩, hgraph⟩
    obtain ⟨-, ⟨hacyclic, hreachable⟩, hterminates, hcovers⟩ := (validateGraph_eq_ok_iff hnodup hover hstartKey).1 hgraph
    exact ⟨hrecords, hover, hacyclic, hreachable, hterminates, hclosed, hpairwise,
      fun step hstep hkind => coversOutcomes_eq_true_iff.1 (hcovers step hstep hkind)⟩
  · rintro ⟨hrecords, hover, hlegal⟩
    refine ⟨⟨hrecords, hover, ?_, hlegal.closed, hlegal.priorities⟩, (validateGraph_eq_ok_iff hnodup hover hstartKey).2
      ⟨?_, ⟨hlegal.acyclic, hlegal.reachable⟩, hlegal.terminates,
        fun step hstep hkind => coversOutcomes_eq_true_iff.2 (hlegal.covered step hstep hkind)⟩⟩
    · -- a self-edge is a cycle
      intro route hroute heq
      exact hlegal.acyclic route.fromStepKey (.single ⟨route, hroute, rfl, heq.symm⟩)
    · -- the path from the start step to a terminal leaves the start step
      rcases ReflTransGen.cases_head (hlegal.reachable terminal hterminal) with heq | ⟨next, ⟨route, hroute, hfrom, -⟩, -⟩
      · obtain rfl := List.inj_on_of_nodup_map hnodup hstartMem hterminal heq
        rw [hstartKind] at hterminalKind
        cases hterminalKind
      · exact ⟨route, hroute, hfrom⟩

/-- A run along the routes: the keys of steps, each joined to the next by a route. -/
structure FollowsRoutes (plan : WorkflowDefinition) (run : List String) : Prop where
  steps : ∀ key ∈ run, ∃ step ∈ plan.steps, step.stepKey = key
  routes : run.IsChain plan.Edge

/-- The validators accept exactly the legal graphs over records in order, and no run along the routes of an accepted
definition repeats a step. -/
theorem routeGraph_exact (plan : WorkflowDefinition) (start : WorkflowStepDefinition)
    (hsteps : plan.uniqueSteps = .ok ()) (hstart : plan.startStep? = some start) (hover : plan.RoutesOverSteps) :
    (plan.AcceptsRoutes start.stepKey ↔ plan.LegalGraph start.stepKey ∧ plan.RouteRecords start.stepKey) ∧
      (plan.AcceptsRoutes start.stepKey → ∀ run, plan.FollowsRoutes run → run.Nodup ∧ run.length ≤ plan.steps.length) := by
  refine ⟨?_, fun haccepts run hrun => ?_⟩
  · rw [acceptsRoutes_iff hsteps hstart]
    constructor
    · rintro ⟨hrecords, -, hlegal⟩
      exact ⟨hlegal, hrecords⟩
    · rintro ⟨hlegal, hrecords⟩
      exact ⟨hrecords, hover, hlegal⟩
  · obtain ⟨-, -, hlegal⟩ := (acceptsRoutes_iff hsteps hstart).1 haccepts
    have hkeys : ∀ key ∈ run, key ∈ plan.stepKeys := fun key hkey => List.mem_map.2 (hrun.steps key hkey)
    have hle := Graph.length_le_of_chain hlegal.acyclic hrun.routes hkeys
    refine ⟨Graph.nodup_of_chain hlegal.acyclic hrun.routes, ?_⟩
    rwa [stepKeys, List.length_map] at hle

/-! ### two endings -/

/-- A start step with a route to each of two terminals, the second of the given kind. -/
def twoEndings (kind : WorkflowRouteKind) : WorkflowDefinition where
  workflowKey := "two_endings"
  requiredProcessKeys := []
  steps := [{ stepKey := "start", stepKind := .start, hasPhase := false },
    { stepKey := "done", stepKind := .terminal, hasPhase := false, terminalKind := some .success },
    { stepKey := "failed", stepKind := .terminal, hasPhase := false, terminalKind := some .failure }]
  routes := [
    { routeKey := "finish", fromStepKey := "start", toStepKey := "done", routeKind := .terminal,
      outcomeSelector := .always, priority := 0 },
    { routeKey := "fail", fromStepKey := "start", toStepKey := "failed", routeKind := kind,
      outcomeSelector := .always, priority := 1 }]

theorem twoEndings_steps (kind : WorkflowRouteKind) : (twoEndings kind).uniqueSteps = .ok () := by
  cases kind <;> decide +kernel

theorem twoEndings_over (kind : WorkflowRouteKind) : (twoEndings kind).RoutesOverSteps := by
  intro route hroute
  simp only [twoEndings, List.mem_cons, List.not_mem_nil, or_false] at hroute
  rcases hroute with rfl | rfl
  · exact ⟨_, List.mem_cons_self, _, List.mem_cons_of_mem _ List.mem_cons_self, rfl, rfl⟩
  · exact ⟨_, List.mem_cons_self, _, List.mem_cons_of_mem _ (List.mem_cons_of_mem _ List.mem_cons_self), rfl, rfl⟩

theorem twoEndings_edge {kind : WorkflowRouteKind} {a b : String} :
    (twoEndings kind).Edge a b ↔ a = "start" ∧ (b = "done" ∨ b = "failed") := by
  unfold Edge twoEndings
  simp only [List.mem_cons, List.not_mem_nil, or_false, exists_eq_or_imp, exists_eq_left]
  constructor
  · rintro (⟨rfl, rfl⟩ | ⟨rfl, rfl⟩)
    · exact ⟨rfl, .inl rfl⟩
    · exact ⟨rfl, .inr rfl⟩
  · rintro ⟨rfl, rfl | rfl⟩
    · exact .inl ⟨rfl, rfl⟩
    · exact .inr ⟨rfl, rfl⟩

theorem twoEndings_legal (kind : WorkflowRouteKind) : (twoEndings kind).LegalGraph "start" := by
  have hdone : (twoEndings kind).Edge "start" "done" := twoEndings_edge.2 ⟨rfl, .inl rfl⟩
  have hfailed : (twoEndings kind).Edge "start" "failed" := twoEndings_edge.2 ⟨rfl, .inr rfl⟩
  refine ⟨?_, ?_, ?_, ?_, ?_, ?_⟩
  · refine Graph.acyclic_of_rank (fun key => if key = "start" then 1 else 0) fun a b hab => ?_
    obtain ⟨rfl, rfl | rfl⟩ := twoEndings_edge.1 hab
    · decide
    · decide
  · intro step hstep
    simp only [twoEndings, List.mem_cons, List.not_mem_nil, or_false] at hstep
    rcases hstep with rfl | rfl | rfl
    · exact .refl
    · exact .single hdone
    · exact .single hfailed
  · intro step hstep
    have hmem : _ ∈ (twoEndings kind).steps := List.mem_cons_of_mem _ List.mem_cons_self
    simp only [twoEndings, List.mem_cons, List.not_mem_nil, or_false] at hstep
    rcases hstep with rfl | rfl | rfl
    · exact ⟨_, hmem, rfl, .single hdone⟩
    · exact ⟨_, hmem, rfl, .refl⟩
    · exact ⟨_, List.mem_cons_of_mem _ (List.mem_cons_of_mem _ List.mem_cons_self), rfl, .refl⟩
  · rintro route hroute ⟨step, hstep, hkey, hkind⟩
    have hfrom : route.fromStepKey = "start" := (twoEndings_edge.1 ⟨route, hroute, rfl, rfl⟩).1
    rw [hfrom] at hkey
    simp only [twoEndings, List.mem_cons, List.not_mem_nil, or_false] at hstep
    rcases hstep with rfl | rfl | rfl
    · cases hkind
    · exact absurd hkey (by decide)
    · exact absurd hkey (by decide)
  · unfold twoEndings SamePriority
    simp
  · intro step hstep hkind
    simp only [twoEndings, List.mem_cons, List.not_mem_nil, or_false] at hstep
    rcases hstep with rfl | rfl | rfl
    · rcases hkind with h | h <;> cases h
    · rcases hkind with h | h <;> cases h
    · rcases hkind with h | h <;> cases h

/-- Two terminal routes are accepted. -/
theorem routeGraph_exact_twoEndings : (twoEndings .terminal).AcceptsRoutes "start" ∧
    ∀ run, (twoEndings .terminal).FollowsRoutes run → run.Nodup ∧ run.length ≤ 3 := by
  have haccepts : (twoEndings .terminal).AcceptsRoutes "start" := ⟨by decide +kernel, by decide +kernel⟩
  exact ⟨haccepts, (routeGraph_exact (twoEndings .terminal) { stepKey := "start", stepKind := .start, hasPhase := false }
    (twoEndings_steps .terminal) (by decide +kernel) (twoEndings_over .terminal)).2 haccepts⟩

/-- A route to a terminal that does not call itself terminal is refused on a legal graph. -/
theorem routeGraph_not_graph_alone : ¬ ∀ (plan : WorkflowDefinition) (start : WorkflowStepDefinition),
    plan.uniqueSteps = .ok () → plan.startStep? = some start → plan.RoutesOverSteps →
      (plan.AcceptsRoutes start.stepKey ↔ plan.LegalGraph start.stepKey) := by
  intro h
  have hrefused : (twoEndings .normal).validateRoutes "start" ≠ .ok () := by decide +kernel
  have hiff := h (twoEndings .normal) { stepKey := "start", stepKind := .start, hasPhase := false }
    (twoEndings_steps .normal) (by decide +kernel) (twoEndings_over .normal)
  exact hrefused (hiff.2 (twoEndings_legal .normal)).1

end WorkflowDefinition

end KnowledgeBase
