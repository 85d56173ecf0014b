import KnowledgeBase.Inference.AgentCli
import KnowledgeBase.Inference.Gate
import KnowledgeBase.Library.Run

/-!
# The router of agent command lines

`AgentCliRouter.run` as a coroutine at a shared gate. A step runs from the end of one await to the next call of a
transport or to the end; which providers are configured, how each call ends and what the other parties of the gate do
is the environment.
-/

namespace KnowledgeBase

def agentProviders : List String := ["claude", "agy", "cursor-agent", "grok"]

def primaryAgentProvider : String := "claude"

def fallbackAgentProviders : List String := ["cursor-agent", "grok"]

def fallbackableAgentErrors : List String :=
  ["INFERENCE_BACKPRESSURE", "INFERENCE_TRANSPORT_RETRYABLE", "INFERENCE_TRANSPORT_EXHAUSTED", "CLAUDE_CLI_TIMEOUT",
    "CLAUDE_CLI_TRANSPORT_FAILED"]

/-- A router as its constructor admits it: the configured providers, the normalized plan, the limits of its gate, and
whether a cursor is injected. -/
structure AgentCliRouter where
  configured : String → Bool
  primaryModel : String
  providerPlan : List String
  limits : GateLimits String
  hasCursor : Bool
  providerPlan_known : ∀ p ∈ providerPlan, p ∈ agentProviders
  providerPlan_nodup : providerPlan.Nodup
  providerPlan_primary : primaryAgentProvider ∈ providerPlan

namespace AgentCliRouter

variable (R : AgentCliRouter)

def fallbackTail (plan : List String) : List String := plan.filter fun p => fallbackAgentProviders.contains p

/-- `_next_fallback_order`: the fallback providers of the plan from the rotation's start on, and the index after it. -/
def nextFallbackOrder (cursor : Int) (index : Nat) (plan : List String) : List String × Nat :=
  let tail := fallbackTail plan
  if tail.length ≤ 1 then (tail, index)
  else if R.hasCursor then
    let start := (cursor % tail.length).toNat
    (tail.drop start ++ tail.take start, index)
  else
    let start := index % tail.length
    (tail.drop start ++ tail.take start, index + 1)

/-- `request.provider_plan or self.provider_plan`. -/
def planOf (request : ClaudeCliRequest) : List String :=
  match request.providerPlan with
  | some (p :: plan) => p :: plan
  | _ => R.providerPlan

def primaryPart (plan : List String) : List String := plan.filter fun p => p == "claude" || p == "agy"

/-- `_attempt_order`, with the index after it. -/
def attemptOrder (cursor : Int) (index : Nat) (request : ClaudeCliRequest) : List String × Nat :=
  let plan := R.planOf request
  let fallback := R.nextFallbackOrder cursor index plan
  ((primaryPart plan ++ fallback.1).eraseDups, fallback.2)

/-- The model of the request as it is given to the provider. -/
def effectiveModel (request : ClaudeCliRequest) (provider : String) : Option String :=
  if provider == "claude" && lacksModel request.model then some R.primaryModel
  else if provider != "claude" && !lacksModel request.model then none
  else request.model

end AgentCliRouter

/-- What came of a provider of the order. -/
inductive ProviderTry
  | unavailable
  | full
  | raised (e : CliRaised)
  | returned (result : ClaudeCliResult)

abbrev RouterOutcome := Except CliRaised ClaudeCliResult

/-- Where a run of the router is: at its start, at the call of a transport, or ended. -/
inductive RouterPc
  | starting
  | calling (ordinal : Nat) (provider : String) (rest : List String)
  | ended (outcome : RouterOutcome)

/-- A run of the router: its locals, the lease it holds, and what came of the providers it has tried. -/
structure RouterRun where
  request : ClaudeCliRequest
  pc : RouterPc := .starting
  order : List String := []
  lease : Option String := none
  lastError : Option CliError := none
  fallbackReason : Option String := none
  tried : List (String × ProviderTry) := []

def providerDetails (provider : String) : Option Json.Dict := some [("provider", .str provider.toList)]

def unavailableError (provider : String) : CliError :=
  .of "CLAUDE_CLI_TRANSPORT_FAILED" "Configured CLI provider is unavailable" 503 (providerDetails provider)

def capacityError (provider : String) : CliError :=
  .of "INFERENCE_BACKPRESSURE" "CLI provider capacity is full" 503 (providerDetails provider)

def unconfiguredError : CliError := .of "CLAUDE_CLI_TRANSPORT_FAILED" "No CLI provider is configured" 503

namespace RouterRun

variable (R : AgentCliRouter)

/-- A provider that is passed over without a call. -/
def skipped (run : RouterRun) (provider : String) (what : ProviderTry) (e : CliError) : RouterRun :=
  { run with lastError := some e, tried := run.tried ++ [(provider, what)] }

/-- The lease is held and the transport called. -/
def called (run : RouterRun) (ordinal : Nat) (provider : String) (rest : List String) : RouterRun :=
  { run with lease := some provider, pc := .calling ordinal provider rest }

/-- The loop over the providers that are left, up to the next call of a transport. -/
def advance (run : RouterRun) (ordinal : Nat) (rest : List String) (c : Counters String) :
    RouterRun × Counters String :=
  match rest with
  | [] => ({ run with pc := .ended (.error (.mkb (run.lastError.getD unconfiguredError))) }, c)
  | provider :: rest =>
    if R.configured provider = false then
      advance (run.skipped provider .unavailable (unavailableError provider)) (ordinal + 1) rest c
    else
      match R.limits.tryAcquire c provider with
      | none => advance (run.skipped provider .full (capacityError provider)) (ordinal + 1) rest c
      | some c' => (run.called ordinal provider rest, c')

/-- The result with the identity and the provenance that the router gives it. -/
def receipt (run : RouterRun) (ordinal : Nat) (provider : String) (result : ClaudeCliResult) : ClaudeCliResult :=
  { result with
    provider := provider
    model := if lacksModel result.model then R.effectiveModel run.request provider else result.model
    attemptOrdinal := ordinal
    fallbackFrom := if ordinal = 0 then none else run.order[ordinal - 1]?
    fallbackReason := run.fallbackReason }

/-- The `finally` of a call: the lease is given back, then the run goes on as it would. -/
def giveBack (run : RouterRun) (provider : String) (c : Counters String)
    (next : RouterRun → Counters String → RouterRun × Counters String) : RouterRun × Counters String :=
  match GateLimits.release c provider with
  | some c' => next { run with lease := none } c'
  | none => ({ run with pc := .ended (.error .exception) }, c)

def endWith (outcome : RouterOutcome) (run : RouterRun) (c : Counters String) : RouterRun × Counters String :=
  ({ run with pc := .ended outcome }, c)

/-- What came of the call is noted. -/
def noted (run : RouterRun) (provider : String) (what : ProviderTry) : RouterRun :=
  { run with tried := run.tried ++ [(provider, what)] }

/-- The call of a transport has ended. -/
def answered (run : RouterRun) (ordinal : Nat) (provider : String) (rest : List String) (answer : RouterOutcome)
    (c : Counters String) : RouterRun × Counters String :=
  match answer with
  | .ok result =>
    (run.noted provider (.returned result)).giveBack provider c
      (endWith (.ok (run.receipt R ordinal provider result)))
  | .error (.mkb e) =>
    let failed := { run.noted provider (.raised (.mkb e)) with lastError := some e }
    if fallbackableAgentErrors.contains e.code then
      { failed with fallbackReason := some e.code }.giveBack provider c
        (fun run c => run.advance R (ordinal + 1) rest c)
    else failed.giveBack provider c (endWith (.error (.mkb e)))
  | .error raised => (run.noted provider (.raised raised)).giveBack provider c (endWith (.error raised))

end RouterRun

/-- A party at the gate: a run of the router, or another client that holds at most one slot. -/
inductive GateParty
  | run (run : RouterRun)
  | other (lease : Option String)

/-- What a party does next: a run begins (with the value of the cursor) or its await ends, another client takes a slot
or gives its slot back. -/
inductive PartyEvent
  | begin (cursor : Int)
  | answer (answer : RouterOutcome)
  | take (key : String)
  | giveBack

namespace GateParty

def lease : GateParty → Option String
  | .run r => r.lease
  | .other lease => lease

end GateParty

/-- The gate of a router, its rotation index and the parties. -/
structure RouterState where
  gate : Counters String
  fallbackIndex : Nat
  parties : List GateParty

namespace RouterState

variable (R : AgentCliRouter)

/-- A run begins: its order is fixed and the loop entered. -/
def beginRun (run : RouterRun) (cursor : Int) (index : Nat) (c : Counters String) : RouterRun × Counters String :=
  let order := (R.attemptOrder cursor index run.request).1
  { run with order := order }.advance R 0 order c

/-- What one party makes of itself, the gate and the index. -/
def partyStep (party : GateParty) (event : PartyEvent) (c : Counters String) (index : Nat) :
    GateParty × Counters String × Nat :=
  match party, event with
  | .run run, .begin cursor =>
    match run.pc with
    | .starting =>
      let r := beginRun R run cursor index c
      (.run r.1, r.2, (R.attemptOrder cursor index run.request).2)
    | _ => (party, c, index)
  | .run run, .answer answer =>
    match run.pc, answer with
    | .calling ordinal provider rest, _ =>
      let r := run.answered R ordinal provider rest answer c
      (.run r.1, r.2, index)
    | .starting, .error raised => (.run { run with pc := .ended (.error raised) }, c, index)
    | _, _ => (party, c, index)
  | .other none, .take key =>
    match R.limits.tryAcquire c key with
    | some c' => (.other (some key), c', index)
    | none => (party, c, index)
  | .other (some key), .giveBack =>
    match GateLimits.release c key with
    | some c' => (.other none, c', index)
    | none => (party, c, index)
  | _, _ => (party, c, index)

def step (s : RouterState) (o : Nat × PartyEvent) : RouterState :=
  match s.parties[o.1]? with
  | none => s
  | some party =>
    { gate := (partyStep R party o.2 s.gate s.fallbackIndex).2.1
      fallbackIndex := (partyStep R party o.2 s.gate s.fallbackIndex).2.2
      parties := s.parties.set o.1 (partyStep R party o.2 s.gate s.fallbackIndex).1 }

/-- Runs that have not begun and other clients that hold nothing, at any index. -/
def initial (index : Nat) (requests : List ClaudeCliRequest) (others : Nat) : RouterState :=
  ⟨Counters.empty, index, requests.map (fun request => .run { request }) ++ List.replicate others (.other none)⟩

end RouterState

end KnowledgeBase
