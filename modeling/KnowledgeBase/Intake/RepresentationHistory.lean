import KnowledgeBase.Engine.Routing

/-!
# The representation history

Each acquisition or decoding step of an Execution appends one typed fact and one entry of the ordered history, whose
digest is that of the whole path so far. The engine routes on the last entry: the list of representations it reads is
what these tables stand for.
-/

namespace KnowledgeBase

inductive RepresentationFactKind
  | acquire | decode | print
  deriving DecidableEq

structure RepresentationObservation where
  team : TeamId
  execution : ExecutionId
  process : ProcessId
  stepKey : String
  factKind : RepresentationFactKind
  capability : String
  representationKind : String
  declaredMediaType : Option String := none
  detectedMediaType : Option String := none
  verifiedMediaType : String
  rawByteDigest : Digest
  rawByteSize : Nat
  textLayer : TextLayerObservation := .notApplicable
  mainTextPresence : MainTextPresence := .unknown
  canonicalizerKey : String
  canonicalizerVersion : String
  observerKey : String
  observerVersion : String
  profileIdentity : Option String := none
  deriving DecidableEq

/-- An element of the path that is hashed: neither row identities nor times. -/
structure PathEntry where
  stepKey : String
  capability : String
  rawByteDigest : Digest
  representationKind : String
  observerVersion : String
  mainTextPresence : MainTextPresence

/-- A row of `mkb_representation_facts`. -/
structure RepresentationFactRow where
  observation : RepresentationObservation
  mediaFamily : MediaFamily
  factDigest : Digest

/-- A row of `mkb_acquire_decode_history`. -/
structure AcquireDecodeRow where
  team : TeamId
  execution : ExecutionId
  process : ProcessId
  stepKey : String
  ordinal : Nat
  capability : String
  fact : Nat
  factDigest : Digest
  rawByteDigest : Digest
  representationKind : String
  observerVersion : String
  pathDigest : Digest

structure RepresentationHistory where
  facts : Table RepresentationFactRow
  history : Table AcquireDecodeRow

/-- SHA-256 of an observation and of a path, and the media type without its parameters, stripped and case-folded. -/
structure RepresentationPlatform where
  factDigest : RepresentationObservation → Digest
  pathDigest : List PathEntry → Digest
  normalized : String → String

structure RepresentationRouteFacts where
  mainTextPresence : MainTextPresence
  mediaFamily : MediaFamily
  observerKey : String
  observerVersion : String
  factDigest : Digest
  selectedCleanStrategy : Option CleanStrategy

def RepresentationObservation.entry (o : RepresentationObservation) : PathEntry :=
  ⟨o.stepKey, o.capability, o.rawByteDigest, o.representationKind, o.observerVersion, o.mainTextPresence⟩

/-- What the engine reads of a fact. -/
def RepresentationFactRow.engineRow (pathDigest : Digest) (f : RepresentationFactRow) : RepresentationRow where
  execution := f.observation.execution
  pathDigest := pathDigest
  factDigest := f.factDigest
  mainTextPresence := f.observation.mainTextPresence
  mediaFamily := f.mediaFamily
  textLayer := f.observation.textLayer
  representationKind :=
    if f.observation.representationKind = "print_pdf" then .printPdf
    else if f.observation.representationKind = "rendered" then .rendered
    else .other

namespace RepresentationPlatform

variable (D : RepresentationPlatform)

/-- `media_family`. -/
def mediaFamily (mediaType : String) : MediaFamily :=
  let normalized := D.normalized mediaType
  if normalized = "application/pdf" then .pdf
  else if hasPrefix "image/" normalized then .image
  else if hasPrefix "text/" normalized ∨ normalized = "application/json" then .text
  else .opaqueMedia

def factRow (o : RepresentationObservation) : RepresentationFactRow :=
  ⟨o, D.mediaFamily o.verifiedMediaType, D.factDigest o⟩

/-- The entry of the history behind a path that ends in the observation. -/
def historyRow (path : List PathEntry) (fact : Nat) (o : RepresentationObservation) : AcquireDecodeRow where
  team := o.team
  execution := o.execution
  process := o.process
  stepKey := o.stepKey
  ordinal := path.length
  capability := o.capability
  fact := fact
  factDigest := D.factDigest o
  rawByteDigest := o.rawByteDigest
  representationKind := o.representationKind
  observerVersion := o.observerVersion
  pathDigest := D.pathDigest path

def routeFacts (o : RepresentationObservation) : RepresentationRouteFacts where
  mainTextPresence := o.mainTextPresence
  mediaFamily := D.mediaFamily o.verifiedMediaType
  observerKey := o.observerKey
  observerVersion := o.observerVersion
  factDigest := D.factDigest o
  selectedCleanStrategy := IntakeFacts.deriveSelectedCleanStrategy ((D.factRow o).engineRow 0)

end RepresentationPlatform

namespace RepresentationHistory

variable (D : RepresentationPlatform)

def empty : RepresentationHistory := ⟨.empty, .empty⟩

/-- The rows with the property, by their ordinals, each with its fact. -/
def joined (s : RepresentationHistory) (c : AcquireDecodeRow → Bool) :
    List (AcquireDecodeRow × RepresentationFactRow) :=
  (((s.history.select fun _ row => c row).map Prod.snd).mergeSort fun a b => decide (a.ordinal ≤ b.ordinal)).filterMap
    fun row => (s.facts.get? row.fact).map fun fact => (row, fact)

def path (s : RepresentationHistory) (e : ExecutionId) : List PathEntry :=
  (s.joined fun row => row.execution == e).map fun r => ⟨r.1.stepKey, r.1.capability, r.1.rawByteDigest,
    r.1.representationKind, r.1.observerVersion, r.2.observation.mainTextPresence⟩

/-- `append_representation_tx`. -/
def append (o : RepresentationObservation) (s : RepresentationHistory) :
    Except MkbError (Digest × RepresentationHistory) :=
  if s.facts.any fun _ row => row.observation.execution == o.execution && row.observation.stepKey == o.stepKey then
    .error (conflictError "representation-step-conflict"
      "A representation step already has a successful durable fact")
  else
    let path := s.path o.execution ++ [o.entry]
    .ok (D.pathDigest path, ⟨s.facts.insert (D.factRow o), s.history.insert (D.historyRow path s.facts.next o)⟩)

/-- `read_route_facts`. -/
def readRouteFacts (s : RepresentationHistory) (team : TeamId) (e : ExecutionId) : Option RepresentationRouteFacts :=
  ((s.joined fun row => row.team == team && row.execution == e).getLast?).map fun r =>
    ⟨r.2.observation.mainTextPresence, r.2.mediaFamily, r.2.observation.observerKey, r.2.observation.observerVersion,
      r.2.factDigest, IntakeFacts.deriveSelectedCleanStrategy (r.2.engineRow r.1.pathDigest)⟩

/-- An append that fails leaves the tables as they were. -/
def appendStep (s : RepresentationHistory) (o : RepresentationObservation) : RepresentationHistory :=
  match append D o s with
  | .ok (_, t) => t
  | .error _ => s

end RepresentationHistory

end KnowledgeBase
