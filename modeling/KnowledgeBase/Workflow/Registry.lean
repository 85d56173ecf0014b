import KnowledgeBase.Engine.Routing

/-!
# The workflow registry

A declaration is registered under its key and its revision number. The first registration writes the row of the
workflow and the rows of the revision; a later one adds a revision or finds its own again and makes it the active one.
An Execution freezes the coordinates a registration or a resolution returns, and the runtime reads them back against
the plans it was started with.
-/

namespace KnowledgeBase

/-! ### declarations -/

/-- The graph of a reviewed declaration, and the fields of the declaration that the graph leaves out. -/
structure WorkflowDeclaration extends WorkflowDefinition where
  schemaVersion : String := "mkb.workflow-definition.v1"
  revisionNumber : Nat
  domainKey : String := "ls_rag"
  purposeKey : String
  executionRole : ExecutionRole
  displayName : String
  description : String
  phaseKeys : List (Option String) := []
  deriving DecidableEq

/-- `stable_digest` of the two manifests of a declaration: its canonical one and the one of the compiler. -/
structure WorkflowDigests where
  registrationFingerprint : WorkflowDeclaration → Digest
  compiled : WorkflowDeclaration → Digest

namespace WorkflowDefinition

/-- The tables of the graph take its rows: their unique indexes and their checks. -/
def rowsFit (plan : WorkflowDefinition) : Bool :=
  decide (plan.steps.map (·.stepKey)).Nodup &&
  plan.steps.all (fun step => (step.stepKind == .process) == step.processKey.isSome &&
    (step.stepKind == .process) == step.contractVersion.isSome &&
    (step.stepKind == .terminal) == step.terminalKind.isSome &&
    decide (step.inputPorts.map (·.slotName)).Nodup && decide (step.outputPorts.map (·.slotName)).Nodup) &&
  decide (plan.routes.map (·.routeKey)).Nodup &&
  decide (plan.routes.map fun route => (route.fromStepKey, route.outcomeSelector, route.priority)).Nodup &&
  plan.routes.all (fun route => route.fromStepKey != route.toStepKey &&
    (route.routeKind == .join || route.joinMode == .none)) &&
  decide (plan.contextSlots.map (·.slotName)).Nodup &&
  decide (plan.guards.map (·.guardKey)).Nodup

end WorkflowDefinition

/-! ### rows -/

abbrev WorkflowId := Nat

inductive RegistryStatus
  | enabled | disabled | deprecated
  deriving DecidableEq

/-- A row of `mkb_workflow_registry`. -/
structure WorkflowRegistryRow where
  workflowKey : String
  domainKey : String
  purposeKey : String
  executionRole : ExecutionRole
  registryStatus : RegistryStatus := .enabled
  activeRevision : Option WorkflowRevisionId := none
  displayName : String
  description : String
  deriving DecidableEq

/-- A row of `mkb_workflow_revisions`, with the keys of its rows in `mkb_workflow_steps`. -/
structure RegisteredRevisionRow where
  workflow : WorkflowId
  revisionNumber : Nat
  registrationFingerprint : Digest
  canonicalDefinitionDigest : Digest
  compiledDigest : Digest
  stepKeys : List String
  deriving DecidableEq

structure WorkflowRegistry where
  workflows : Table WorkflowRegistryRow
  revisions : Table RegisteredRevisionRow

/-- The only workflow coordinates that an Execution may freeze. -/
structure WorkflowIdentity where
  workflowKey : String
  workflow : WorkflowId
  workflowRevision : WorkflowRevisionId
  compiledDigest : Digest
  registrationFingerprint : Digest
  executionRole : ExecutionRole
  deriving DecidableEq

/-- A registration that fails: refused by the service, or by a constraint of the database, which rolls it back. -/
inductive RegistrationFailure
  | refused (error : MkbError)
  | constraint
  deriving DecidableEq

def digestMismatch (message : String) : RegistrationFailure := .refused ⟨"REGISTRY_DIGEST_MISMATCH", message, 503⟩

namespace WorkflowRegistry

def empty : WorkflowRegistry := ⟨.empty, .empty⟩

variable (D : WorkflowDigests)

def identityOf (decl : WorkflowDeclaration) (workflow : WorkflowId) (revision : WorkflowRevisionId) :
    WorkflowIdentity where
  workflowKey := decl.workflowKey
  workflow := workflow
  workflowRevision := revision
  compiledDigest := D.compiled decl
  registrationFingerprint := D.registrationFingerprint decl
  executionRole := decl.executionRole

/-! ### registration -/

/-- `ProcessCapabilityRegistry.validate_workflow`: every required Process is in the closed set, under contract v2. -/
def validateWorkflow (capabilities : Option (List (String × String))) (decl : WorkflowDeclaration) :
    Except RegistrationFailure Unit :=
  match capabilities with
  | none => .ok ()
  | some manifests =>
    if decl.requiredProcessKeys.all fun key => manifests.lookup key == some "v2" then .ok ()
    else .error (.refused ⟨"CAPABILITY_UNKNOWN", "Process capability is not registered", 503⟩)

/-- `_assert_registry_shape`. -/
def assertRegistryShape (existing : WorkflowRegistryRow) (decl : WorkflowDeclaration) :
    Except RegistrationFailure Unit :=
  if (existing.domainKey, existing.purposeKey, existing.executionRole) =
      (decl.domainKey, decl.purposeKey, decl.executionRole) then .ok ()
  else .error (digestMismatch "Workflow identity coordinates conflict")

def rowOf (decl : WorkflowDeclaration) : WorkflowRegistryRow where
  workflowKey := decl.workflowKey
  domainKey := decl.domainKey
  purposeKey := decl.purposeKey
  executionRole := decl.executionRole
  displayName := decl.displayName
  description := decl.description

def revisionOf (decl : WorkflowDeclaration) (workflow : WorkflowId) : RegisteredRevisionRow where
  workflow := workflow
  revisionNumber := decl.revisionNumber
  registrationFingerprint := D.registrationFingerprint decl
  canonicalDefinitionDigest := D.registrationFingerprint decl
  compiledDigest := D.compiled decl
  stepKeys := decl.steps.map (·.stepKey)

def activate (revision : WorkflowRevisionId) (row : WorkflowRegistryRow) : WorkflowRegistryRow :=
  { row with activeRevision := some revision }

/-- `_insert_definition`. The indexes are that of the fingerprint within the workflow and those of the graph. -/
def insertDefinition (decl : WorkflowDeclaration) (existing : Option WorkflowId) (s : WorkflowRegistry) :
    Except RegistrationFailure (WorkflowIdentity × WorkflowRegistry) :=
  let workflow := existing.getD s.workflows.next
  let revision := s.revisions.next
  let workflows := match existing with
    | some _ => s.workflows
    | none => s.workflows.insert (rowOf decl)
  if s.revisions.any (fun _ row => row.workflow == workflow &&
      row.registrationFingerprint == D.registrationFingerprint decl) || !decl.rowsFit then .error .constraint
  else .ok (identityOf D decl workflow revision,
    ⟨workflows.modify workflow (activate revision), s.revisions.insert (revisionOf D decl workflow)⟩)

/-- A revision that is there is verified against the digests of the declaration, and made the active one. -/
def verifyRevision (decl : WorkflowDeclaration) (workflow : WorkflowId) (existing : WorkflowRegistryRow)
    (revision : WorkflowRevisionId) (row : RegisteredRevisionRow) (s : WorkflowRegistry) :
    Except RegistrationFailure (WorkflowIdentity × WorkflowRegistry) :=
  if row.registrationFingerprint ≠ D.registrationFingerprint decl ∨
      row.canonicalDefinitionDigest ≠ D.registrationFingerprint decl ∨ row.compiledDigest ≠ D.compiled decl then
    .error (digestMismatch "Workflow revision digest conflicts")
  else .ok (identityOf D decl workflow revision,
    if existing.activeRevision ≠ some revision then
      { s with workflows := s.workflows.modify workflow (activate revision) }
    else s)

/-- A declaration of a workflow that is there. -/
def registerExisting (decl : WorkflowDeclaration) (workflow : WorkflowId) (existing : WorkflowRegistryRow)
    (s : WorkflowRegistry) : Except RegistrationFailure (WorkflowIdentity × WorkflowRegistry) := do
  assertRegistryShape existing decl
  match s.revisions.rows.find? fun r => r.2.workflow == workflow && r.2.revisionNumber == decl.revisionNumber with
  | none => insertDefinition D decl (some workflow) s
  | some (revision, row) => verifyRevision D decl workflow existing revision row s

/-- `register`. -/
def register (capabilities : Option (List (String × String))) (decl : WorkflowDeclaration) (s : WorkflowRegistry) :
    Except RegistrationFailure (WorkflowIdentity × WorkflowRegistry) := do
  validateWorkflow capabilities decl
  match s.workflows.rows.find? fun r => r.2.workflowKey == decl.workflowKey with
  | none => insertDefinition D decl none s
  | some (workflow, existing) => registerExisting D decl workflow existing s

/-- A call of `register` by a service with its capability registry; one that fails leaves the tables as they were. -/
structure Registration where
  capabilities : Option (List (String × String)) := none
  declaration : WorkflowDeclaration

def registryStep (s : WorkflowRegistry) (r : Registration) : WorkflowRegistry :=
  match register D r.capabilities r.declaration s with
  | .ok (_, t) => t
  | .error _ => s

/-- `bootstrap`: the built-in declarations in order, up to the first that fails. -/
def bootstrap (capabilities : Option (List (String × String))) :
    List WorkflowDeclaration → WorkflowRegistry → WorkflowRegistry × Bool
  | [], s => (s, true)
  | decl :: builtin, s =>
    match register D capabilities decl s with
    | .ok (_, t) => bootstrap capabilities builtin t
    | .error _ => (s, false)

/-! ### resolution -/

/-- The enabled workflows with the property, each joined with its active revision. -/
def activeBindings (c : WorkflowRegistryRow → Bool) (s : WorkflowRegistry) : List WorkflowIdentity :=
  s.workflows.rows.filterMap fun r =>
    if c r.2 && r.2.registryStatus == .enabled then
      r.2.activeRevision.bind fun revision => (s.revisions.get? revision).map fun row =>
        ⟨r.2.workflowKey, r.1, revision, row.compiledDigest, row.registrationFingerprint, r.2.executionRole⟩
    else none

def exactly (bindings : List WorkflowIdentity) : Except MkbError WorkflowIdentity :=
  match bindings with
  | [identity] => .ok identity
  | _ => .error ⟨"REGISTRY_NOT_FOUND", "An exact active workflow binding is required", 503⟩

/-- `resolve`. -/
def resolve (purposeKey : String) (s : WorkflowRegistry) : Except MkbError WorkflowIdentity :=
  exactly (s.activeBindings fun row => row.purposeKey == purposeKey)

/-- `resolve_by_key`. -/
def resolveByKey (workflowKey : String) (s : WorkflowRegistry) : Except MkbError WorkflowIdentity :=
  exactly (s.activeBindings fun row => row.workflowKey == workflowKey)

/-- `readiness`. -/
def readiness (builtin : List WorkflowDeclaration) (s : WorkflowRegistry) : Bool :=
  builtin.all fun decl => match s.resolveByKey decl.workflowKey with
    | .ok identity => identity.workflowKey == decl.workflowKey
    | .error _ => false

/-! ### the runtime -/

/-- A revision joined with its workflow. -/
def joined (s : WorkflowRegistry) (q : RegisteredRevisionRow) : Option WorkflowRevisionRow :=
  (s.workflows.get? q.workflow).map fun row => ⟨q.compiledDigest, row.workflowKey, row.executionRole, q.stepKeys⟩

/-- The revisions as the runtime reads them. -/
def revisionRows (s : WorkflowRegistry) : List (WorkflowRevisionId × WorkflowRevisionRow) :=
  s.revisions.rows.filterMap fun r => (s.joined r.2).map (r.1, ·)

end WorkflowRegistry

/-- A declaration that its model accepts. -/
abbrev ValidDeclaration := { decl : WorkflowDeclaration // decl.validateDefinition = .ok () }

/-- The plans by their compiled digest, as the runtime collects them when it is built. -/
def collectPlans (D : WorkflowDigests) (activeKeys : List String) :
    List ValidDeclaration → List (Digest × ValidDeclaration) → Except String (List (Digest × ValidDeclaration))
  | [], plans => .ok plans
  | candidate :: rest, plans =>
    if !activeKeys.contains candidate.1.workflowKey then
      .error "compatibility definition must belong to an active workflow key"
    else match plans.lookup (D.compiled candidate.1) with
      | some existing =>
        if existing ≠ candidate then .error "different compatibility definitions share a compiled digest"
        else collectPlans D activeKeys rest plans
      | none => collectPlans D activeKeys rest (plans ++ [(D.compiled candidate.1, candidate)])

/-- The runtime over a registry, with the declarations it interprets. -/
def runtimeOver (D : WorkflowDigests) (settings : Deployment) (compatibility active : List ValidDeclaration)
    (s : WorkflowRegistry) : Except String Deployment := do
  let keys := active.map (·.1.workflowKey)
  if ¬ keys.Nodup then throw "active workflow definitions must have distinct workflow_key values"
  let plans ← collectPlans D keys (compatibility ++ active) []
  pure { settings with
    plans := plans.map fun p => (p.1, ⟨p.2.1.toWorkflowDefinition, p.2.2⟩)
    activeWorkflowKeys := keys
    revisions := s.revisionRows }

end KnowledgeBase
