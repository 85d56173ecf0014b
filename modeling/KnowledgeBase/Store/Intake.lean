import Mathlib.Data.List.Sort
import KnowledgeBase.Store.Rows

/-!
# Intake facts

The intake tables the engine reads: candidate sets, representation history, Snapshot memberships, ChangeSets,
publication proofs and the evidence a human-review target is built from. They belong to other services; the engine
itself writes only an Item's lifecycle, when a review decision is consumed, and a candidate set it abandons.
-/

namespace KnowledgeBase

structure IntakeItemRow where
  team : TeamId
  lifecycleState : IntakeLifecycle
  latestRevision : Option RevisionId := none
  servingRevision : Option RevisionId := none
  rowRevision : Nat := 0
  deactivatedAt : Option Time := none
  deriving DecidableEq

structure CandidateSetRow where
  producerExecution : ExecutionId
  admissionResult : Option AdmissionResult := none
  stagingState : CandidateSetState := .opened
  rowRevision : Nat := 0
  deriving DecidableEq

inductive TextLayerObservation
  | present | absent | encrypted | corrupt | notApplicable | unknown
  deriving DecidableEq

inductive RepresentationKind
  | printPdf | rendered | other
  deriving DecidableEq

/-- One entry of the ordered representation history of an Execution with the fact it points at. -/
structure RepresentationRow where
  execution : ExecutionId
  pathDigest : Digest
  factDigest : Digest
  mainTextPresence : MainTextPresence
  mediaFamily : MediaFamily
  textLayer : TextLayerObservation := .notApplicable
  representationKind : RepresentationKind := .other
  deriving DecidableEq

structure MembershipRow where
  snapshot : SnapshotId
  memberOrdinal : Nat
  item : Option ItemId
  observedRevision : Option RevisionId
  accepted : Bool := true
  required : Bool := true
  deriving DecidableEq

structure ChangeSetRow where
  snapshot : SnapshotId
  deriving DecidableEq

/-- A ChangeSet fact of kind `accept_revision`. -/
structure ChangeSetFactRow where
  changeSet : ChangeSetId
  factOrdinal : Nat
  item : Option ItemId
  revision : Option RevisionId
  deriving DecidableEq

structure PublicationProofRow where
  item : ItemId
  revision : RevisionId
  execution : ExecutionId
  process : Option ProcessId
  deriving DecidableEq

/-- One row of the evidence query of a review target: the accepted Snapshot of an Execution under one preflight
output, with an artifact whose object and whose preflight object are catalogued and live. -/
structure ReviewEvidenceRow where
  execution : ExecutionId
  preflightOutput : Ref
  snapshot : SnapshotId
  artifact : Ref
  deriving DecidableEq

structure IntakeFacts where
  items : Table IntakeItemRow
  candidateSets : List CandidateSetRow
  noChangeTransitions : List ExecutionId
  representations : List RepresentationRow
  memberships : List MembershipRow
  changeSets : List (ChangeSetId × ChangeSetRow)
  changeSetFacts : List ChangeSetFactRow
  publicationProofs : List PublicationProofRow
  reviewEvidence : List ReviewEvidenceRow
  acceptedObservations : List ExecutionId

namespace IntakeFacts

def empty : IntakeFacts where
  items := .empty
  candidateSets := []
  noChangeTransitions := []
  representations := []
  memberships := []
  changeSets := []
  changeSetFacts := []
  publicationProofs := []
  reviewEvidence := []
  acceptedObservations := []

/-- `derive_selected_clean_strategy` on the facts of one representation. -/
def deriveSelectedCleanStrategy (row : RepresentationRow) : Option CleanStrategy :=
  if row.representationKind = .printPdf then some .webBrowserPrintPdf
  else match row.mediaFamily with
    | .pdf =>
      match row.textLayer with
      | .absent | .encrypted => some .pdfOcr
      | _ => some .pdfTextLayer
    | .image => some .docOcr
    | _ => if row.representationKind = .rendered then some .webDeterministic else none

/-- The latest entry of the representation history, the last one appended. -/
def latestRepresentation (facts : IntakeFacts) (e : ExecutionId) : Option RepresentationRow :=
  facts.representations.reverse.find? fun row => row.execution == e

def candidateSet? (facts : IntakeFacts) (e : ExecutionId) : Option CandidateSetRow :=
  facts.candidateSets.find? fun row => row.producerExecution == e

/-- The Items of a Snapshot. -/
def snapshotItems (facts : IntakeFacts) (snapshot : SnapshotId) : List ItemId :=
  (facts.memberships.filter fun m => m.snapshot == snapshot).filterMap (·.item)

/-- A required member of an accepted Snapshot. -/
structure ExpectedMember where
  memberOrdinal : Nat
  item : ItemId
  revision : RevisionId
  deriving DecidableEq

/-- A required membership as a member, if it is an accepted one with an Item and a revision. -/
def expectedMember? (m : MembershipRow) : Option ExpectedMember :=
  match m.accepted, m.item, m.observedRevision with
  | true, some item, some revision => some ⟨m.memberOrdinal, item, revision⟩
  | _, _, _ => none

def factMember? (fact : ChangeSetFactRow) : Option ExpectedMember :=
  match fact.item, fact.revision with
  | some item, some revision => some ⟨fact.factOrdinal, item, revision⟩
  | _, _ => none

/-- `_scatter_expected_members_tx`: the required denominator of a fan-in, or `none` if Snapshot and ChangeSet do
not describe the same set. -/
def scatterExpectedMembers (facts : IntakeFacts) (snapshot : SnapshotId) (changeSet : ChangeSetId) :
    Option (List ExpectedMember) :=
  if facts.changeSets.any fun c => c.1 == changeSet && c.2.snapshot == snapshot then
    let memberships := List.insertionSort (fun a b => a.memberOrdinal ≤ b.memberOrdinal)
      (facts.memberships.filter fun m => m.snapshot == snapshot)
    match (memberships.filter (·.required)).mapM expectedMember? with
    | none => none
    | some expected =>
      let recorded := facts.changeSetFacts.filter fun fact => fact.changeSet == changeSet
      let actual := (recorded.filterMap factMember?).dedup
      if actual.length == recorded.length && actual.all expected.contains && expected.all actual.contains then
        some expected
      else none
  else none

end IntakeFacts

end KnowledgeBase
