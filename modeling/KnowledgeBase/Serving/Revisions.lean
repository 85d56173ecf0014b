import KnowledgeBase.Serving.Effects
import KnowledgeBase.Serving.Semantics

/-!
# Revisions

The Revisions of the Items with their semantics and the unique keys of their table, what admission freezes of them for
a metadata update, and the acceptance of the update; the acceptance of a collection with the first Revision of every
member.
-/

namespace KnowledgeBase

open Checked Relational Serving

abbrev SemanticFingerprint := List (SemanticKey × Nat × SemanticValue)

/-- A row of `mkb_intake_revisions` with its semantics. -/
structure RevisionRow where
  team : TeamId
  revision : RevisionId
  item : ItemId
  revisionOrdinal : Nat
  predecessor : Option RevisionId
  revisionFingerprint : SemanticFingerprint
  semantics : RevisionSemantics
deriving DecidableEq

/-- A row of `mkb_intake_snapshots`. -/
structure SnapshotRow where
  team : TeamId
  snapshot : SnapshotId
  source : SourceId
  observationKey : Nat
  observationFingerprint : Digest
deriving DecidableEq

/-- The serving tables with the Snapshots and the Revisions. -/
structure IntakeStore where
  serving : Serving
  snapshots : List SnapshotRow
  revisions : List RevisionRow

/-- Two rows of one key: the primary key, or the ordinal or the fingerprint under the Item. -/
def revisionClash (r q : RevisionRow) : Bool :=
  q.team == r.team && (q.revision == r.revision ||
    (q.item == r.item && (q.revisionOrdinal == r.revisionOrdinal || q.revisionFingerprint == r.revisionFingerprint)))

namespace IntakeStore

/-- `INSERT INTO mkb_intake_revisions`. -/
def insertRevision (r : RevisionRow) (s : IntakeStore) : Except MkbError IntakeStore := do
  failIf (s.revisions.any (revisionClash r)) constraintViolation
  return { s with revisions := s.revisions ++ [r] }

def ofItem (s : IntakeStore) (team : TeamId) (item : ItemId) : List RevisionRow :=
  s.revisions.filter fun r => r.team == team && r.item == item

def revision? (s : IntakeStore) (team : TeamId) (item : ItemId) (revision : RevisionId) : Option RevisionRow :=
  (s.ofItem team item).find? fun r => r.revision == revision

/-- `MAX(revision_ordinal)`, and 0 without Revisions. -/
def highestOrdinal (s : IntakeStore) (team : TeamId) (item : ItemId) : Nat :=
  ((s.ofItem team item).map RevisionRow.revisionOrdinal).foldr max 0

/-! ### the metadata update -/

/-- The frozen input of a metadata update. -/
structure FrozenMetadataUpdate where
  target : FrozenTarget
  targetFingerprint : SemanticFingerprint
  baseSemantics : RevisionSemantics
  semantics : MetadataSubmission

/-- `resolve_metadata_update` at the current Revision of the Item. -/
def resolveMetadataUpdate (team : TeamId) (item : ItemId) (semantics : MetadataSubmission) (s : IntakeStore) :
    Except MkbError FrozenMetadataUpdate := do
  failIf semantics.values.isEmpty
    ⟨"METADATA_SEMANTICS_EMPTY", "Metadata update requires at least one semantic value", 422⟩
  let i ← required (s.serving.item? team item) (notFoundError "intake-item-not-found" "Intake item was not found")
  failIf (i.lifecycleState == .deleted)
    (conflictError "intake-item-deleted" "Deleted Intake items cannot be rebuilt or updated")
  failIf (i.lifecycleState != .active)
    (conflictError "METADATA_TARGET_STALE" "Metadata update requires an active Intake item")
  let revision ← required i.latestRevision
    (conflictError "intake-revision-unavailable" "Intake item has no accepted revision")
  let row ← required (s.revision? team item revision)
    (conflictError "intake-revision-mismatch" "Requested Intake revision does not belong to the Intake item")
  return ⟨⟨team, item, i.rowRevision, revision⟩, row.revisionFingerprint, row.semantics, semantics⟩

/-- `_accept_metadata_update`, with the identity of the Revision it may append; a merge of the same fingerprint
appends none. -/
def acceptMetadataUpdate (casefold : Text → Text) (u : FrozenMetadataUpdate) (fresh : RevisionId)
    (producer : ProcessFence) (s : IntakeStore) : Except MkbError IntakeStore := do
  let merged ← mergedMetadataSemantics casefold u.baseSemantics u.semantics
  if merged.fingerprint = u.targetFingerprint then do
    let serving ← s.serving.acceptMetadataUpdate u.target none producer
    return { s with serving := serving }
  else do
    let _ ← s.serving.frozenItem u.target metadataTargetStale
    let s ← s.insertRevision
      { team := u.target.team, revision := fresh, item := u.target.item
        revisionOrdinal := s.highestOrdinal u.target.team u.target.item + 1, predecessor := some u.target.revision
        revisionFingerprint := merged.fingerprint, semantics := merged }
    let serving ← s.serving.acceptMetadataUpdate u.target (some fresh) producer
    return { s with serving := serving }

end IntakeStore

/-! ### the collection -/

/-- A `ScatterCollectionMember` with the semantics of its first Revision. -/
structure CollectionRow where
  member : CollectionMember
  semantics : RevisionSemantics
deriving DecidableEq

/-- A sealed collection of a source. -/
structure ScatterCollection where
  team : TeamId
  source : SourceId
  snapshot : SnapshotId
  observationKey : Nat
  observationFingerprint : Digest
  members : List CollectionRow
  producer : ProcessFence
deriving DecidableEq

namespace ScatterCollection

/-- What the collection writes to the serving tables. -/
def serving (c : ScatterCollection) : AcceptCollection :=
  ⟨c.team, c.source, c.snapshot, c.members.map CollectionRow.member, c.producer⟩

def snapshotRow (c : ScatterCollection) : SnapshotRow :=
  ⟨c.team, c.snapshot, c.source, c.observationKey, c.observationFingerprint⟩

/-- The first Revision of a member. -/
def firstRevision (c : ScatterCollection) (m : CollectionRow) : RevisionRow where
  team := c.team
  revision := m.member.revision
  item := m.member.item
  revisionOrdinal := 1
  predecessor := none
  revisionFingerprint := m.semantics.fingerprint
  semantics := m.semantics

end ScatterCollection

/-- Two Snapshots of one key: the primary key, or the observation key of the source. -/
def snapshotClash (r q : SnapshotRow) : Bool :=
  q.team == r.team && (q.snapshot == r.snapshot || (q.source == r.source && q.observationKey == r.observationKey))

namespace IntakeStore

/-- `_insert_member`: the Item, its membership and ledger row, and its first Revision. -/
def insertMember (c : ScatterCollection) (s : IntakeStore) (m : CollectionRow) : Except MkbError IntakeStore := do
  let serving ← s.serving.insertMember c.serving m.member
  { s with serving := serving }.insertRevision (c.firstRevision m)

/-- The observation key of the source has no Snapshot yet. -/
def checkObservation (c : ScatterCollection) (s : IntakeStore) : Except MkbError Unit :=
  match s.snapshots.find? fun q =>
      q.team == c.team && q.source == c.source && q.observationKey == c.observationKey with
  | none => .ok ()
  | some q =>
    if q.observationFingerprint != c.observationFingerprint then
      .error ⟨"INTAKE_OBSERVATION_CONFLICT", "Registered API observation already exists with a different digest", 409⟩
    else
      .error ⟨"INTAKE_OBSERVATION_REPLAY",
        "Registered API observation already exists; reuse the original coordinates", 409⟩

/-- `ScatterAcceptanceWriter.commit` on the Snapshot and the members. -/
def commitCollection (c : ScatterCollection) (s : IntakeStore) : Except MkbError IntakeStore := do
  failIf (c.members.map (fun m => m.member.memberOrdinal) != List.range c.members.length)
    ⟨"SCATTER_MEMBER_ORDER_INVALID", "Collection member ordinals must be stable and contiguous", 422⟩
  failIf (!decide (c.members.map fun m => m.member.externalKey).Nodup)
    ⟨"SCATTER_MEMBER_KEY_DUPLICATE", "Collection member external keys are not unique", 422⟩
  s.checkObservation c
  failIf (s.snapshots.any (snapshotClash c.snapshotRow)) constraintViolation
  foldEach (insertMember c) { s with snapshots := s.snapshots ++ [c.snapshotRow] } c.members

end IntakeStore

end KnowledgeBase
