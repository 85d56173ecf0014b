import KnowledgeBase.Serving.Rows

/-!
# Item writers

The transactions that write an Intake Item: acceptance of a Snapshot or a collection, admission of a rebuild or a
metadata update, the lifecycle commands and the human-review decision. Each is the whole transaction: it fails
without effect or returns the next state.
-/

namespace KnowledgeBase

open Checked Relational

/-- A unique or foreign key the store refuses. -/
def constraintViolation : MkbError := ⟨"PERSISTENCE_CONSTRAINT", "The store refused the row", 500⟩

/-! ### row updates -/

def ItemRow.accept (revision : RevisionId) (i : ItemRow) : ItemRow :=
  { i with latestRevision := some revision, rowRevision := i.rowRevision + 1 }

def PointerRow.withdraw (now : Time) (p : PointerRow) : PointerRow :=
  { p with lifecycleState := .withdrawn, pointerRowRevision := p.pointerRowRevision + 1, updatedAt := now }

def VectorRecordRow.withdraw (r : VectorRecordRow) : VectorRecordRow := { r with publicationState := .withdrawn }

def ItemRow.transition (target : IntakeLifecycle) (now : Time) (i : ItemRow) : ItemRow :=
  { i with
    lifecycleState := target
    servingRevision := none
    rowRevision := i.rowRevision + 1
    deletedAt := if target == .deleted then some now else i.deletedAt }

def ItemRow.approve (i : ItemRow) : ItemRow :=
  { i with lifecycleState := .active, rowRevision := i.rowRevision + 1 }

def ItemRow.reject (i : ItemRow) : ItemRow :=
  { i with lifecycleState := .deactivated, servingRevision := none, rowRevision := i.rowRevision + 1 }

namespace Serving

/-! ### acceptance of a Snapshot -/

/-- What `_accept_snapshot` commits: the stage state and its Process. -/
structure AcceptSnapshot where
  team : TeamId
  source : SourceId
  item : ItemId
  externalKey : Nat
  revision : RevisionId
  snapshot : SnapshotId
  requireHumanReview : Bool
  expectedItemEpoch : Option Nat
  producer : ProcessFence
deriving DecidableEq

def itemClash (i q : ItemRow) : Bool :=
  q.key == i.key || (q.team == i.team && q.source == i.source && q.externalKey == i.externalKey)

/-- The row `INSERT OR IGNORE INTO mkb_intake_items` offers. -/
def AcceptSnapshot.newItem (c : AcceptSnapshot) : ItemRow where
  team := c.team
  item := c.item
  source := c.source
  externalKey := c.externalKey
  lifecycleState := if c.requireHumanReview then .deactivated else .active
  latestRevision := none
  servingRevision := none
  rowRevision := 0
  deletedAt := none

def AcceptSnapshot.isOfKey (c : AcceptSnapshot) (i : ItemRow) : Bool :=
  i.team == c.team && i.source == c.source && i.externalKey == c.externalKey

/-- The update of `latest_revision_uuid`, conditional on the epoch and on the lifecycle. -/
def AcceptSnapshot.advances (c : AcceptSnapshot) (epoch : Nat) (i : ItemRow) : Bool :=
  i.key == (c.team, c.item) && i.rowRevision == epoch &&
    (i.lifecycleState == .active || i.lifecycleState == .deactivated)

def membershipClash (m q : SnapshotMembership) : Bool :=
  q.team == m.team && q.snapshot == m.snapshot && (q.memberOrdinal == m.memberOrdinal || q.externalKey == m.externalKey)

def addMembership (s : Serving) (m : SnapshotMembership) : Serving :=
  { s with memberships := insertOrIgnore (membershipClash m) m s.memberships }

/-- The `changed` branch: the update and its ledger row. -/
def acceptChanged (c : AcceptSnapshot) (before : ItemRow) (s : Serving) : Except MkbError Serving := do
  let items ← casWhere (c.advances before.rowRevision) (ItemRow.accept c.revision)
    (conflictError "ITEM_EPOCH_CONFLICT" "Intake item latest revision changed concurrently") s.items
  return { s with items := items }.record
    { team := c.team, item := c.item, before := before.facts
      after := { before.facts with latestRevision := some c.revision, rowRevision := before.rowRevision + 1 }
      fence := .acceptRevision c.producer }

/-- `no_change` when the Item has the Revision as its latest already, else `changed`. -/
def acceptDisposition (c : AcceptSnapshot) (before : ItemRow) (s : Serving) : Except MkbError Serving :=
  if before.latestRevision == some c.revision then .ok s else s.acceptChanged c before

/-- `accept_snapshot`, the outcome transaction. -/
def acceptSnapshot (c : AcceptSnapshot) (s : Serving) : Except MkbError Serving := do
  let s := { s with items := insertOrIgnore (itemClash c.newItem) c.newItem s.items }
  let before ← required (s.items.find? c.isOfKey)
    (conflictError "ITEM_EPOCH_CONFLICT" "Intake item identity was adopted by another observation")
  failIf (before.item != c.item)
    (conflictError "ITEM_EPOCH_CONFLICT" "Intake item identity was adopted by another observation")
  failIf (before.rowRevision != c.expectedItemEpoch.getD before.rowRevision)
    (conflictError "ITEM_EPOCH_CONFLICT" "Intake item changed before acceptance")
  let s ← s.acceptDisposition c before
  return s.addMembership ⟨c.team, c.snapshot, 0, c.externalKey, c.item⟩

/-! ### acceptance of a collection -/

structure CollectionMember where
  memberOrdinal : Nat
  externalKey : Nat
  item : ItemId
  revision : RevisionId
deriving DecidableEq

structure AcceptCollection where
  team : TeamId
  source : SourceId
  snapshot : SnapshotId
  members : List CollectionMember
  producer : ProcessFence
deriving DecidableEq

def AcceptCollection.newItem (c : AcceptCollection) (m : CollectionMember) : ItemRow where
  team := c.team
  item := m.item
  source := c.source
  externalKey := m.externalKey
  lifecycleState := .active
  latestRevision := some m.revision
  servingRevision := none
  rowRevision := 0
  deletedAt := none

/-- `_insert_member`. -/
def insertMember (c : AcceptCollection) (s : Serving) (m : CollectionMember) :
    Except MkbError Serving := do
  let membership := ⟨c.team, c.snapshot, m.memberOrdinal, m.externalKey, m.item⟩
  failIf (s.items.any (itemClash (c.newItem m)) || s.memberships.any (membershipClash membership)) constraintViolation
  let s := { s with items := s.items ++ [c.newItem m], memberships := s.memberships ++ [membership] }
  return s.record
    { team := c.team, item := m.item, before := ⟨.active, none, none, 0⟩, after := ⟨.active, some m.revision, none, 0⟩
      fence := .acceptMember c.producer m.memberOrdinal }

def acceptCollection (c : AcceptCollection) (s : Serving) : Except MkbError Serving :=
  foldEach (insertMember c) s c.members

/-! ### rebuild and metadata update -/

/-- The frozen target of a rebuild or a metadata update. -/
structure FrozenTarget where
  team : TeamId
  item : ItemId
  itemRevision : Nat
  revision : RevisionId
deriving DecidableEq

/-- The Item, still as the target was frozen. -/
def frozenItem (t : FrozenTarget) (stale : MkbError) (s : Serving) : Except MkbError ItemRow := do
  let i ← required (s.item? t.team t.item) stale
  failIf (i.rowRevision != t.itemRevision || i.lifecycleState != .active || i.latestRevision != some t.revision) stale
  return i

/-- A ledger row of a writer that leaves the Item as it is. -/
def unchangedTransition (t : FrozenTarget) (i : ItemRow) (fence : TransitionFence) : TransitionRow where
  team := t.team
  item := t.item
  before := ⟨.active, some t.revision, i.servingRevision, i.rowRevision⟩
  after := ⟨.active, some t.revision, i.servingRevision, i.rowRevision⟩
  fence := fence

/-- `_accept_rebuild`. -/
def acceptRebuild (t : FrozenTarget) (producer : ProcessFence) (s : Serving) : Except MkbError Serving := do
  let i ← s.frozenItem t ⟨"REBUILD_TARGET_STALE", "Frozen Intake rebuild target changed before admission", 409⟩
  return s.record (unchangedTransition t i (.rebuild producer))

def metadataTargetStale : MkbError :=
  ⟨"METADATA_TARGET_STALE", "Frozen metadata target changed before admission", 409⟩

def FrozenTarget.isFrozen (t : FrozenTarget) (epoch : Nat) (i : ItemRow) : Bool :=
  i.key == (t.team, t.item) && i.rowRevision == epoch && i.latestRevision == some t.revision

/-- `_accept_metadata_update` with the Revision it appends, none when the semantics do not change; the same row is
written by the acquisition stage of a command without change. -/
def acceptMetadataUpdate (t : FrozenTarget) (metadataRevision : Option RevisionId) (producer : ProcessFence)
    (s : Serving) : Except MkbError Serving := do
  let i ← s.frozenItem t metadataTargetStale
  match metadataRevision with
  | none => return s.record (unchangedTransition t i (.metadataNoChange producer))
  | some revision =>
    let items ← casWhere (t.isFrozen i.rowRevision) (ItemRow.accept revision) metadataTargetStale s.items
    return { s with items := items }.record
      { team := t.team, item := t.item, before := ⟨.active, some t.revision, i.servingRevision, i.rowRevision⟩
        after := ⟨.active, some revision, i.servingRevision, i.rowRevision + 1⟩, fence := .updateMetadata producer }

/-! ### lifecycle commands -/

structure LifecycleCommand where
  team : TeamId
  item : ItemId
  action : ItemAction
  idempotencyKey : Nat
  expectedItemRevision : Option Nat
  now : Time
deriving DecidableEq

/-- `_target_state`: none when the Item is there already. -/
def targetState : ItemAction → IntakeLifecycle → Except MkbError (Option IntakeLifecycle)
  | .deactivate, .active => .ok (some .deactivated)
  | .deactivate, .deactivated => .ok none
  | .deactivate, .deleted =>
    .error (conflictError "intake-item-deleted" "Deleted Intake items cannot be deactivated")
  | .reactivate, .deactivated => .ok (some .active)
  | .reactivate, .active => .ok none
  | .reactivate, .deleted =>
    .error (conflictError "intake-item-deleted" "Deleted Intake items cannot be reactivated")
  | .delete, .deleted => .ok none
  | .delete, _ => .ok (some .deleted)

def withdrawPointers (team : TeamId) (item : ItemId) (now : Time) (l : List PointerRow) : List PointerRow :=
  updateWhere (fun p => p.team == team && p.item == item && p.lifecycleState != .withdrawn) (PointerRow.withdraw now) l

def withdrawRecords (team : TeamId) (item : ItemId) (l : List VectorRecordRow) : List VectorRecordRow :=
  updateWhere (fun r => r.team == team && r.item == item && r.isIndexed) VectorRecordRow.withdraw l

def isAt (before i : ItemRow) : Bool :=
  i.key == before.key && i.rowRevision == before.rowRevision && i.lifecycleState == before.lifecycleState

/-- `_ensure_delete_cleanup_tx`. -/
def ensureDeleteCleanup (team : TeamId) (item : ItemId) (s : Serving) : Serving :=
  { s with deleteCleanups := insertOrIgnore (fun q => q == (team, item)) (team, item) s.deleteCleanups }

/-- The effects of an applied lifecycle command. -/
def applyTransition (c : LifecycleCommand) (i : ItemRow) (target : IntakeLifecycle) (s : Serving) :
    Except MkbError Serving := do
  let items ← casWhere (isAt i) (ItemRow.transition target c.now)
    (conflictError "intake-item-revision-conflict" "Intake item changed concurrently") s.items
  let s := { s with
    items := items
    pointers := withdrawPointers c.team c.item c.now s.pointers
    records := withdrawRecords c.team c.item s.records }
  let s := if c.action == .delete then s.ensureDeleteCleanup c.team c.item else s
  return s.record
    { team := c.team, item := c.item, before := i.facts
      after := ⟨target, i.latestRevision, none, i.rowRevision + 1⟩
      fence := .lifecycle c.item c.action c.idempotencyKey }

/-- `apply_tx`: a replayed command and one whose target is reached change nothing. -/
def applyLifecycle (c : LifecycleCommand) (s : Serving) : Except MkbError Serving := do
  let i ← required (s.item? c.team c.item) (notFoundError "intake-item-not-found" "Intake item was not found")
  if s.hasTransition c.team c.item (.lifecycle c.item c.action c.idempotencyKey) then return s
  else
    failIf (c.expectedItemRevision.getD i.rowRevision != i.rowRevision)
      (conflictError "intake-item-revision-conflict" "Intake item revision is stale")
    match ← targetState c.action i.lifecycleState with
    | none => return s
    | some target => s.applyTransition c i target

/-! ### the human-review decision -/

def isMember (s : Serving) (team : TeamId) (snapshot : SnapshotId) (i : ItemRow) : Bool :=
  i.team == team && s.memberships.any fun m => m.team == team && m.snapshot == snapshot && m.item == i.item

inductive ReviewDecision
  | approve | reject
deriving DecidableEq

/-- `_apply_human_review_item_lifecycle_tx`, for the Snapshot of the gated Execution. -/
def applyHumanReview (team : TeamId) (snapshot : SnapshotId) (decision : ReviewDecision) (s : Serving) : Serving :=
  match decision with
  | .approve => { s with
      items := updateWhere (fun i => i.lifecycleState == .deactivated && s.isMember team snapshot i) ItemRow.approve s.items }
  | .reject => { s with
      items := updateWhere (fun i => i.lifecycleState == .active && s.isMember team snapshot i) ItemRow.reject s.items }

end Serving

end KnowledgeBase
