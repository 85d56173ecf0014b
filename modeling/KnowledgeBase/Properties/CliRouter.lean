import KnowledgeBase.Inference.Router

/-!
# The law of the router

What every run of the router at a shared gate has done when it ends, and when the receipt of a fallback names the
failure of the provider before it: the reason is only noted where a call raised, not where a provider was skipped.
-/

namespace KnowledgeBase

open Counters (Moves Count)

namespace ProviderTry

/-- The error that the router notes for a failed try. -/
def error? (provider : String) : ProviderTry → Option CliError
  | .unavailable => some (unavailableError provider)
  | .full => some (capacityError provider)
  | .raised (.mkb e) => some e
  | _ => none

/-- The code of the error that the call raised. -/
def raisedCode : ProviderTry → Option String
  | .raised (.mkb e) => some e.code
  | _ => none

/-- The try failed so that the next provider is tried. -/
def FallsBack : ProviderTry → Prop
  | .unavailable => True
  | .full => True
  | .raised (.mkb e) => e.code ∈ fallbackableAgentErrors
  | _ => False

end ProviderTry

/-- The last error of the tries. -/
def lastErrorOf (tried : List (String × ProviderTry)) : Option CliError :=
  tried.getLast?.bind fun t => t.2.error? t.1

/-- The code of the last call that raised. -/
def lastRaisedCode (tried : List (String × ProviderTry)) : Option String :=
  (tried.filterMap fun t => t.2.raisedCode).getLast?

/-- The order is `claude` and `agy` as in the plan, then the other providers in one rotation of their plan order. -/
def RotatedOrder (plan order : List String) : Prop :=
  ∃ n, order = (AgentCliRouter.primaryPart plan).eraseDups ++ (AgentCliRouter.fallbackTail plan).eraseDups.rotate n

/-- What a run that has ended has done. -/
structure RouterLaw (R : AgentCliRouter) (run : RouterRun) (outcome : RouterOutcome) : Prop where
  order : run.tried ≠ [] → RotatedOrder (R.planOf run.request) run.order
  once : run.order.Nodup
  inOrder : run.tried.map Prod.fst <+: run.order
  fellBack : ∀ t ∈ run.tried.dropLast, t.2.FallsBack
  success : ∀ r, outcome = .ok r → ∃ t result, run.tried.getLast? = some (t, .returned result) ∧ r.provider = t ∧
    r.attemptOrdinal + 1 = run.tried.length ∧ r.structuredOutput = result.structuredOutput ∧ r.text = result.text
  failure : ∀ e, outcome = .error e →
    (run.order = run.tried.map Prod.fst ∧ (∀ t ∈ run.tried, t.2.FallsBack) ∧
        e = .mkb ((lastErrorOf run.tried).getD unconfiguredError)) ∨
      (∃ p, run.tried.getLast? = some (p, .raised e) ∧ ¬ ProviderTry.FallsBack (.raised e)) ∨
      run.tried = [] ∧ run.order = []
  released : run.lease = none

/-- A run in its loop: what is left of the order, and its locals as they follow from what it has tried. -/
structure Underway (R : AgentCliRouter) (run : RouterRun) (rest : List String) : Prop where
  order : RotatedOrder (R.planOf run.request) run.order
  once : run.order.Nodup
  split : run.order = run.tried.map Prod.fst ++ rest
  fellBack : ∀ t ∈ run.tried, t.2.FallsBack
  lastError : run.lastError = lastErrorOf run.tried
  reason : run.fallbackReason = lastRaisedCode run.tried

/-- What an ended run has done, and where its receipt takes the provenance from. -/
structure Finished (R : AgentCliRouter) (run : RouterRun) (outcome : RouterOutcome) : Prop where
  law : RouterLaw R run outcome
  fromBefore : ∀ r, outcome = .ok r → ∀ t, run.tried.dropLast.getLast? = some t → r.fallbackFrom = some t.1
  reason : ∀ r, outcome = .ok r → r.fallbackReason = lastRaisedCode run.tried.dropLast
  fellBack : ∀ r, outcome = .ok r → ∀ t ∈ run.tried.dropLast, t.2.FallsBack

/-- What a run satisfies at each await. -/
def RouterRun.AtAwait (R : AgentCliRouter) (run : RouterRun) : Prop :=
  match run.pc with
  | .starting => run.lease = none ∧ run.tried = [] ∧ run.lastError = none ∧ run.fallbackReason = none ∧ run.order = []
  | .calling ordinal provider rest =>
    Underway R run (provider :: rest) ∧ run.lease = some provider ∧ ordinal = run.tried.length
  | .ended outcome => Finished R run outcome

variable {R : AgentCliRouter} {run : RouterRun} {c c' : Counters String} {rest : List String} {ordinal : Nat}
  {provider : String}

/-- What a party satisfies. -/
def GateParty.Ok (R : AgentCliRouter) : GateParty → Prop
  | .run run => run.AtAwait R
  | .other _ => True

/-- The invariant of every interleaving at the gate of the router. -/
structure RouterState.Consistent (R : AgentCliRouter) (s : RouterState) : Prop where
  count : Count GateParty.lease s.gate s.parties
  within : R.limits.Within s.gate
  ok : ∀ party ∈ s.parties, party.Ok R

variable {s : RouterState} {o : Nat × PartyEvent}

end KnowledgeBase
