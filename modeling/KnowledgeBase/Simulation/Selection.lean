import KnowledgeBase.Engine.Resolve
import KnowledgeBase.Invariant.Route
import KnowledgeBase.Properties.RouteGraph

/-!
# Selections in two contexts

A route decision depends on its context through the guards of the candidates it comes to, and through the declared
clean strategy. A context without facts lets no guard hold: it decides as a full one exactly if the facts of the
latter are silent on the routes out of the step.
-/

namespace KnowledgeBase

/-- The candidates a selection comes to when no guard holds: those up to the first exclusive one without a guard. -/
def examined : List WorkflowRouteDefinition → List WorkflowRouteDefinition
  | [] => []
  | route :: routes =>
    if route.guardKey.isNone && route.routeKind != .fanOut then [route] else route :: examined routes

/-- The guard of the route, if it has one, does not hold. -/
def WorkflowRouteDefinition.Silent (plan : WorkflowDefinition) (context : RouteContext)
    (route : WorkflowRouteDefinition) : Prop :=
  ∀ key ∈ route.guardKey, ∀ guard ∈ plan.guard? key, guard.predicate.holds context = false

/-- The clean strategy the first candidate without a guard stands for. -/
def boundStrategy (plan : WorkflowDefinition) (key : String) (selector : WorkflowOutcomeSelector) :
    Option CleanStrategy :=
  ((routeCandidates plan key selector).find? (·.guardKey.isNone)).bind fun route =>
    cleanStepStrategies.lookup route.toStepKey

/-- The facts of a context have no say in the routes out of a step. -/
structure FactsSilent (plan : WorkflowDefinition) (key : String) (selector : WorkflowOutcomeSelector)
    (context : RouteContext) : Prop where
  guards : ∀ route ∈ examined (routeCandidates plan key selector), route.Silent plan context
  strategy : ∀ declared ∈ context.selectedCleanStrategy, ∀ bound ∈ boundStrategy plan key selector, bound = declared
  reacquire : lacksReacquireEdge plan key selector context = false

section selection

variable {plan : WorkflowDefinition} {context context' : RouteContext}

theorem guardMatches_silent {route : WorkflowRouteDefinition} (h : route.Silent plan context)
    (h' : route.Silent plan context') (results : List (String × Bool)) :
    guardMatches plan context route results = guardMatches plan context' route results := by
  unfold guardMatches
  cases hkey : route.guardKey with
  | none => rfl
  | some key =>
    simp only
    cases hguard : plan.guard? key with
    | none => rfl
    | some guard =>
      simp only
      rw [h key hkey guard hguard, h' key hkey guard hguard]

theorem selectRoutes_silent {candidates : List WorkflowRouteDefinition}
    (h : ∀ route ∈ examined candidates, route.Silent plan context ∧ route.Silent plan context')
    (results : List (String × Bool)) :
    selectRoutes plan context candidates results = selectRoutes plan context' candidates results := by
  induction candidates generalizing results with
  | nil => rfl
  | cons route routes ih =>
    unfold examined at h
    by_cases hlast : (route.guardKey.isNone && route.routeKind != .fanOut) = true
    · rw [if_pos hlast] at h
      obtain ⟨hnone, hkind⟩ := Bool.and_eq_true_iff.1 hlast
      have hmatch : ∀ c, guardMatches plan c route results = .ok (true, results) := fun c => by
        unfold guardMatches
        rw [Option.isNone_iff_eq_none.1 hnone]
      unfold selectRoutes
      simp only [hmatch, bind, Except.bind, Bool.not_true, Bool.false_eq_true, if_false, hkind, if_true]
    · rw [if_neg hlast] at h
      obtain ⟨hs, hs'⟩ := h route List.mem_cons_self
      have hrest := ih fun other hother => h other (List.mem_cons_of_mem route hother)
      unfold selectRoutes
      rw [guardMatches_silent hs hs' results]
      cases guardMatches plan context' route results with
      | error _ => rfl
      | ok q =>
        obtain ⟨matched, results'⟩ := q
        simp only [bind, Except.bind, hrest]

theorem head_selectRoutes {candidates selected : List WorkflowRouteDefinition} {results results' : List (String × Bool)}
    (hblank : ∀ route ∈ candidates, route.Silent plan context)
    (h : selectRoutes plan context candidates results = .ok (selected, results')) :
    selected.head? = candidates.find? (·.guardKey.isNone) := by
  induction candidates generalizing results selected results' with
  | nil =>
    simp only [selectRoutes, Except.ok.injEq, Prod.mk.injEq] at h
    rw [← h.1]
    rfl
  | cons route routes ih =>
    have hrest := fun other hother => hblank other (List.mem_cons_of_mem route hother)
    unfold selectRoutes guardMatches at h
    cases hkey : route.guardKey with
    | none =>
      rw [List.find?_cons_of_pos (by simp [hkey])]
      simp only [hkey, bind, Except.bind, Bool.not_true, Bool.false_eq_true, if_false] at h
      split at h
      · simp only [Except.ok.injEq, Prod.mk.injEq] at h
        rw [← h.1]
        rfl
      · cases hs : selectRoutes plan context routes results with
        | error _ => simp [hs] at h
        | ok q =>
          simp only [hs, Except.ok.injEq, Prod.mk.injEq] at h
          rw [← h.1]
          rfl
    | some key =>
      rw [List.find?_cons_of_neg (by simp [hkey])]
      simp only [hkey] at h
      cases hguard : plan.guard? key with
      | none => simp [hguard, bind, Except.bind] at h
      | some guard =>
        simp only [hguard, hblank route List.mem_cons_self key hkey guard hguard, bind, Except.bind, Bool.not_false,
          if_true] at h
        exact ih hrest h

theorem silent_of_selectRoutes_eq {candidates selected : List WorkflowRouteDefinition}
    {results results' final final' : List (String × Bool)} (hnodup : candidates.Nodup)
    (hblank : ∀ route ∈ candidates, route.Silent plan context)
    (h : selectRoutes plan context candidates results = .ok (selected, final))
    (h' : selectRoutes plan context' candidates results' = .ok (selected, final')) :
    ∀ route ∈ examined candidates, route.Silent plan context' := by
  induction candidates generalizing results results' selected final final' with
  | nil => exact fun route hroute => absurd hroute List.not_mem_nil
  | cons route routes ih =>
    obtain ⟨hfresh, hnodup⟩ := List.nodup_cons.1 hnodup
    have hrest := fun other hother => hblank other (List.mem_cons_of_mem route hother)
    unfold selectRoutes guardMatches at h h'
    unfold examined
    cases hkey : route.guardKey with
    | none =>
      have hroute : route.Silent plan context' := fun key hk => by simp [hkey] at hk
      simp only [hkey, bind, Except.bind, Bool.not_true, Bool.false_eq_true, if_false] at h h'
      by_cases hkind : (route.routeKind != .fanOut) = true
      · simp only [Option.isNone_none, Bool.true_and, hkind, if_true, List.mem_singleton]
        rintro other rfl
        exact hroute
      · simp only [hkind] at h h'
        simp only [Option.isNone_none, Bool.true_and, hkind]
        cases hs : selectRoutes plan context routes results with
        | error _ => simp [hs] at h
        | ok q =>
          cases hs' : selectRoutes plan context' routes results' with
          | error _ => simp [hs'] at h'
          | ok q' =>
            simp only [hs, hs', Bool.false_eq_true, if_false, Except.ok.injEq, Prod.mk.injEq] at h h'
            have htails : q.1 = q'.1 := (List.cons.inj (h.1.trans h'.1.symm)).2
            have hs'' : selectRoutes plan context' routes results' = .ok (q.1, q'.2) := by rw [hs', htails]
            have hsilent := ih hnodup hrest (hs : _ = Except.ok (q.1, q.2)) hs''
            intro other hother
            rcases List.mem_cons.1 (by simpa using hother) with rfl | hother
            · exact hroute
            · exact hsilent other hother
    | some key =>
      simp only [Option.isNone_some, Bool.false_and, Bool.false_eq_true, if_false]
      simp only [hkey] at h h'
      cases hguard : plan.guard? key with
      | none => simp [hguard, bind, Except.bind] at h
      | some guard =>
        simp only [hguard, hblank route List.mem_cons_self key hkey guard hguard, bind, Except.bind, Bool.not_false,
          if_true] at h
        simp only [hguard, bind, Except.bind] at h'
        have hnot : route ∉ selected := fun hmem => hfresh (mem_of_selectRoutes h hmem)
        cases hholds : guard.predicate.holds context' with
        | false =>
          simp only [hholds, Bool.not_false, if_true] at h'
          have hroute : route.Silent plan context' := fun k hk g hg => by
            obtain rfl := Option.some.inj (hkey.symm.trans hk)
            obtain rfl := Option.some.inj (hguard.symm.trans hg)
            exact hholds
          intro other hother
          rcases List.mem_cons.1 hother with rfl | hother
          · exact hroute
          · exact ih hnodup hrest h h' other hother
        | true =>
          -- a guard that holds selects its route, which the other context has passed over
          exfalso
          simp only [hholds, Bool.not_true, Bool.false_eq_true, if_false] at h'
          split at h'
          · simp only [Except.ok.injEq, Prod.mk.injEq] at h'
            exact hnot (by simp [← h'.1])
          · cases hs' : selectRoutes plan context' routes (recordGuard key true results') with
            | error _ => simp [hs'] at h'
            | ok q' =>
              simp only [hs', Except.ok.injEq, Prod.mk.injEq] at h'
              exact hnot (by simp [← h'.1])

end selection

/-! ### decisions -/

theorem silent_context (plan : WorkflowDefinition) (action : GateAction) (route : WorkflowRouteDefinition) :
    route.Silent plan action.context := by
  intro key _ guard _
  cases guard.predicate <;> rfl

theorem nodup_routeCandidates {plan : WorkflowDefinition} (hplan : plan.validateDefinition = .ok ()) (key : String)
    (selector : WorkflowOutcomeSelector) : (routeCandidates plan key selector).Nodup := by
  unfold WorkflowDefinition.validateDefinition at hplan
  simp only [Checked.bind_ok_iff] at hplan
  obtain ⟨_, _, _, _, _, _, _, _, _, _, hplan⟩ := hplan
  cases hstart : plan.startStep? with
  | none => simp [hstart] at hplan
  | some start =>
    simp only [hstart, WorkflowDefinition.validateRoutes, Checked.bind_ok_iff,
      WorkflowDefinition.refuseIf_eq_ok_iff] at hplan
    obtain ⟨_, ⟨_, hkeys, _⟩, _⟩ := hplan
    have hroutes : plan.routes.Nodup := List.Nodup.of_map _ (by simpa using hkeys)
    exact (List.perm_insertionSort _ _).nodup_iff.2 (hroutes.filter _)

variable {plan : WorkflowDefinition} {e : ExecutionId} {row row' : ExecutionRow} {key : String}
  {selector : WorkflowOutcomeSelector}

theorem routeDecision_eq_ok {context : RouteContext} {decision : RouteDecision}
    (h : routeDecision plan e row key selector context = .ok decision) :
    lacksReacquireEdge plan key selector context = false ∧ (∃ results,
      selectRoutes plan context (routeCandidates plan key selector) [] = .ok (decision.routes, results)) ∧
      (context.selectedCleanStrategy.any fun declared =>
        (decision.routes.head?.bind fun route => cleanStepStrategies.lookup route.toStepKey).any (· != declared)) =
          false := by
  unfold routeDecision at h
  split at h
  · cases h
  · rename_i hlacks
    cases hs : selectRoutes plan context (routeCandidates plan key selector) [] with
    | error _ => simp [hs, bind, Except.bind] at h
    | ok q =>
      simp only [hs, bind, Except.bind] at h
      split at h
      · cases h
      · rename_i hstrategy
        cases h
        exact ⟨by simpa using hlacks, ⟨_, rfl⟩, by simpa using hstrategy⟩

theorem routeDecision_silent {context : RouteContext} (h : FactsSilent plan key selector context)
    (hrevision : row.workflowRevision = row'.workflowRevision) (action : GateAction) :
    routeDecision plan e row key selector action.context = routeDecision plan e row' key selector context := by
  have hblank : lacksReacquireEdge plan key selector action.context = false := by
    simp [lacksReacquireEdge, GateAction.context]
  have hselect : selectRoutes plan action.context (routeCandidates plan key selector) [] =
      selectRoutes plan context (routeCandidates plan key selector) [] := selectRoutes_silent
    (fun route hroute => ⟨silent_context plan action route, h.guards route hroute⟩) []
  unfold routeDecision
  rw [hblank, h.reacquire, hselect, hrevision]
  cases hs : selectRoutes plan context (routeCandidates plan key selector) [] with
  | error _ => rfl
  | ok q =>
    have hhead : q.1.head? = (routeCandidates plan key selector).find? (·.guardKey.isNone) :=
      head_selectRoutes (fun route _ => silent_context plan action route) (hselect.trans hs)
    have hstrategy : (context.selectedCleanStrategy.any fun declared =>
        (q.1.head?.bind fun route => cleanStepStrategies.lookup route.toStepKey).any (· != declared)) = false := by
      rw [hhead]
      cases hdeclared : context.selectedCleanStrategy with
      | none => rfl
      | some declared =>
        have hbound := h.strategy declared hdeclared
        unfold boundStrategy at hbound
        cases hb : ((routeCandidates plan key selector).find? (·.guardKey.isNone)).bind fun route =>
            cleanStepStrategies.lookup route.toStepKey with
        | none => rfl
        | some bound => simp [hbound bound hb]
    simp only [bind, Except.bind, Bool.false_eq_true, if_false, hstrategy]
    rfl

theorem factsSilent_of_routes_eq (hplan : plan.validateDefinition = .ok ()) {context : RouteContext}
    {action : GateAction} {decision decision' : RouteDecision}
    (h : routeDecision plan e row key selector action.context = .ok decision)
    (h' : routeDecision plan e row' key selector context = .ok decision') (hroutes : decision.routes = decision'.routes) :
    FactsSilent plan key selector context := by
  obtain ⟨-, ⟨results, hs⟩, -⟩ := routeDecision_eq_ok h
  obtain ⟨hlacks, ⟨results', hs'⟩, hstrategy⟩ := routeDecision_eq_ok h'
  rw [← hroutes] at hs' hstrategy
  have hblank := fun route (_ : route ∈ routeCandidates plan key selector) => silent_context plan action route
  refine ⟨silent_of_selectRoutes_eq (nodup_routeCandidates hplan key selector) hblank hs hs', ?_, hlacks⟩
  intro declared hdeclared bound hbound
  rw [head_selectRoutes hblank hs] at hstrategy
  unfold boundStrategy at hbound
  rw [Option.mem_def] at hdeclared hbound
  rw [hdeclared, hbound] at hstrategy
  simpa using hstrategy

end KnowledgeBase
