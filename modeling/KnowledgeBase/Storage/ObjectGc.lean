import KnowledgeBase.Library.Run
import KnowledgeBase.Library.Table
import KnowledgeBase.Storage.ObjectStore
import Mathlib.Logic.Function.Basic

/-!
# Object collection

The catalogue of stored objects with its reference ledger, next to the files it describes. Writers promote bytes
and catalogue them later in one outcome transaction; a collector runs `delete_candidate` in four steps; a
reconciler walks the quarantine. `objectStep` interleaves any number of each, and stops any of them between steps.
-/

namespace KnowledgeBase

/-- A row of `mkb_stored_objects` (sha256, local_fs). -/
structure StoredObject where
  key : CasKey
  createdAt : Nat
  tombstonedAt : Option Nat
deriving DecidableEq

/-- A row of `mkb_object_references`; `hold` stands for the purposes operator_hold and backup_hold. -/
structure ObjectReference where
  storedObject : Nat
  hold : Bool
  releasedAt : Option Nat
deriving DecidableEq

/-- A row of `mkb_intake_cleanup_intents`: what its frozen fields mention, and whether they decode to a list. -/
structure CleanupFence where
  team : Nat
  isOpen : Bool
  decodes : Bool
  objects : List Nat
  digests : List Nat
deriving DecidableEq

/-- A row of `mkb_object_delete_proofs`. -/
structure ObjectDeleteProof where
  storedObject : Nat
  key : CasKey
  unlinkedAt : Nat
deriving DecidableEq

inductive ObjectGcDisposition
  | deleted | stale | liveReference | hold | cleanupFence | duplicateCatalog | missingBytes
deriving DecidableEq

/-- A candidate snapshot, rechecked before unlink. -/
structure ObjectGcCandidate where
  storedObject : Nat
  key : CasKey
  createdAt : Nat
  unownedAt : Nat
deriving DecidableEq

/-- Where a run of `delete_candidate` stands. -/
inductive Collector
  | idle
  | checked (candidate : ObjectGcCandidate)
  | quarantined (candidate : ObjectGcCandidate)
  | restoring (candidate : ObjectGcCandidate)
  | destroying (candidate : ObjectGcCandidate)
deriving DecidableEq

/-- Where a run of `reconcile_quarantine` stands, with the entries still to visit. -/
inductive Reconciler
  | idle
  | listed (todo : List CasKey)
  | uncatalogued (key : CasKey) (todo : List CasKey)
  | restoring (key : CasKey) (todo : List CasKey)
  | destroying (key : CasKey) (todo : List CasKey)
deriving DecidableEq

/-- The two stores, and what every writer has promoted and not yet committed. -/
structure ObjectState where
  objects : Table StoredObject
  references : Table ObjectReference
  cleanupFences : Table CleanupFence
  deleteProofs : Table ObjectDeleteProof
  files : ObjectFiles
  writers : Nat → List CasKey
  collectors : Nat → Collector
  reconcilers : Nat → Reconciler

def ObjectState.empty : ObjectState where
  objects := .empty
  references := .empty
  cleanupFences := .empty
  deleteProofs := .empty
  files := .empty
  writers := fun _ => []
  collectors := fun _ => .idle
  reconcilers := fun _ => .idle

def StoredObject.isLiveAt (key : CasKey) (row : StoredObject) : Bool := row.key == key && row.tombstonedAt.isNone

namespace ObjectState

/-! ### the outcome transaction of a writer -/

/-- `live_stored_object_uuid`. -/
def liveStoredObject? (s : ObjectState) (key : CasKey) : Option Nat :=
  ((s.objects.select fun _ row => row.isLiveAt key).head?).map Prod.fst

/-- `_catalog_cas_object_tx` and `_catalog_stat`: the live row of the digest, or a new one. -/
def catalogStat (s : ObjectState) (key : CasKey) (now : Nat) : Nat × ObjectState :=
  match s.liveStoredObject? key with
  | some o => (o, s)
  | none => (s.objects.next, { s with objects := s.objects.insert ⟨key, now, none⟩ })

/-- `_reference_object`. -/
def referenceObject (s : ObjectState) (o : Nat) (hold : Bool) : ObjectState :=
  { s with references := s.references.insert ⟨o, hold, none⟩ }

def catalogAndReference (hold : Bool) (now : Nat) (s : ObjectState) (key : CasKey) : ObjectState :=
  (s.catalogStat key now).2.referenceObject (s.catalogStat key now).1 hold

/-! ### the fences of `delete_candidate` -/

/-- The latest release of a reference to the row, else its creation. -/
def unownedAt (s : ObjectState) (o : Nat) (row : StoredObject) : Nat :=
  ((s.references.select fun _ r => r.storedObject == o).filterMap fun r => r.2.releasedAt).max?.getD row.createdAt

/-- `_same_catalogue_row`. -/
def sameCatalogueRow (s : ObjectState) (candidate : ObjectGcCandidate) : Bool :=
  match s.objects.get? candidate.storedObject with
  | none => false
  | some row =>
    row.tombstonedAt.isNone && row.key == candidate.key && row.createdAt == candidate.createdAt &&
      s.unownedAt candidate.storedObject row == candidate.unownedAt

/-- `_has_cleanup_fence_tx`: a field that does not decode is an unknown fence. -/
def hasCleanupFence (s : ObjectState) (candidate : ObjectGcCandidate) : Bool :=
  s.cleanupFences.any fun _ f => f.isOpen && f.team == candidate.key.team &&
    (!f.decodes || f.objects.contains candidate.storedObject || f.digests.contains candidate.key.digest)

/-- `_delete_blocker_tx`. -/
def deleteBlocker (s : ObjectState) (candidate : ObjectGcCandidate) : Option ObjectGcDisposition :=
  if s.objects.count (fun _ row => row.isLiveAt candidate.key) != 1 then some .duplicateCatalog
  else match (s.references.select fun _ r => r.storedObject == candidate.storedObject && r.releasedAt.isNone).head? with
    | some r => some (if r.2.hold then .hold else .liveReference)
    | none => if s.hasCleanupFence candidate then some .cleanupFence else none

/-- The delete proof and the tombstone of the second transaction. -/
def tombstone (s : ObjectState) (candidate : ObjectGcCandidate) (now : Nat) : ObjectState :=
  { s with
    deleteProofs := s.deleteProofs.insert ⟨candidate.storedObject, candidate.key, now⟩
    objects := s.objects.modify candidate.storedObject fun row => { row with tombstonedAt := some now } }

/-! ### reconciliation -/

/-- The newest row of the digest, of any state. -/
def newestRow? (s : ObjectState) (key : CasKey) : Option StoredObject :=
  ((s.objects.select fun _ row => row.key == key).map Prod.snd).foldl (fun best row =>
    match best with
    | none => some row
    | some b => if b.createdAt < row.createdAt then some row else some b) none

/-- `_persistence_row_tombstoned`. -/
def rowTombstoned (s : ObjectState) (key : CasKey) : Bool :=
  match s.newestRow? key with
  | none => false
  | some row => row.tombstonedAt.isSome

/-- One entry of `reconcile_quarantine`, undisturbed. -/
def reconcileEntry (s : ObjectState) (key : CasKey) : ObjectState :=
  if (s.liveStoredObject? key).isSome then { s with files := s.files.restoreQuarantined key }
  else if s.rowTombstoned key then { s with files := s.files.destroyQuarantined key }
  else s

/-- `reconcile_quarantine`, undisturbed. -/
def reconcileQuarantine (s : ObjectState) : ObjectState := s.files.quarantine.foldl reconcileEntry s

end ObjectState

/-! ### the interleaving -/

/-- One step of a writer, of the reference ledger, of a collector or of a reconciler. -/
inductive ObjectStep
  | promote (w : Nat) (key : CasKey)
  | commitOutcome (w : Nat) (hold : Bool) (now : Nat)
  | abandon (w : Nat)
  | reference (o : Nat) (hold : Bool)
  | release (r : Nat) (now : Nat)
  | openFence (f : CleanupFence)
  | closeFence (i : Nat)
  | deleteCandidate (c : Nat) (candidate : ObjectGcCandidate) (now : Nat)
  | quarantine (c : Nat)
  | recheck (c : Nat) (now : Nat)
  | settle (c : Nat)
  | stopCollector (c : Nat)
  | listQuarantined (q : Nat)
  | checkCatalogue (q : Nat)
  | checkTombstone (q : Nat)
  | settleEntry (q : Nat)
  | stopReconciler (q : Nat)
deriving DecidableEq

namespace ObjectState

def setWriter (s : ObjectState) (w : Nat) (pending : List CasKey) : ObjectState :=
  { s with writers := Function.update s.writers w pending }

def setCollector (s : ObjectState) (c : Nat) (p : Collector) : ObjectState :=
  { s with collectors := Function.update s.collectors c p }

def setReconciler (s : ObjectState) (q : Nat) (p : Reconciler) : ObjectState :=
  { s with reconcilers := Function.update s.reconcilers q p }

/-- The transaction that rechecks the fences, then proves and tombstones. -/
def recheckCandidate (s : ObjectState) (c : Nat) (candidate : ObjectGcCandidate) (now : Nat) : ObjectState :=
  if s.sameCatalogueRow candidate && (s.deleteBlocker candidate).isNone then
    (s.tombstone candidate now).setCollector c (.destroying candidate)
  else s.setCollector c (.restoring candidate)

def quarantineCandidate (s : ObjectState) (c : Nat) (candidate : ObjectGcCandidate) : ObjectState :=
  match s.files.quarantineObject candidate.key with
  | (true, files) => { s with files := files }.setCollector c (.quarantined candidate)
  | (false, _) => s.setCollector c .idle

end ObjectState

open ObjectState in
/-- A step that its actor is not ready for changes nothing. -/
def objectStep (grace : Nat) (s : ObjectState) : ObjectStep → ObjectState
  | .promote w key => { s with files := s.files.promoteStaging key }.setWriter w (key :: s.writers w)
  | .commitOutcome w hold now => ((s.writers w).foldl (catalogAndReference hold now) s).setWriter w []
  | .abandon w => s.setWriter w []
  | .reference o hold =>
    match s.objects.get? o with
    | some row => if row.tombstonedAt.isNone then s.referenceObject o hold else s
    | none => s
  | .release r now => { s with
      references := s.references.modify r fun ref => { ref with releasedAt := some (ref.releasedAt.getD now) } }
  | .openFence f => { s with cleanupFences := s.cleanupFences.insert f }
  | .closeFence i => { s with cleanupFences := s.cleanupFences.modify i fun f => { f with isOpen := false } }
  | .deleteCandidate c candidate now =>
    match s.collectors c with
    | .idle =>
      if s.sameCatalogueRow candidate && decide (candidate.unownedAt + grace ≤ now) &&
          (s.deleteBlocker candidate).isNone then s.setCollector c (.checked candidate) else s
    | _ => s
  | .quarantine c =>
    match s.collectors c with
    | .checked candidate => s.quarantineCandidate c candidate
    | _ => s
  | .recheck c now =>
    match s.collectors c with
    | .quarantined candidate => s.recheckCandidate c candidate now
    | _ => s
  | .settle c =>
    match s.collectors c with
    | .restoring candidate => { s with files := s.files.restoreQuarantined candidate.key }.setCollector c .idle
    | .destroying candidate => { s with files := s.files.destroyQuarantined candidate.key }.setCollector c .idle
    | _ => s
  | .stopCollector c => s.setCollector c .idle
  | .listQuarantined q =>
    match s.reconcilers q with
    | .idle => s.setReconciler q (.listed s.files.quarantine)
    | _ => s
  | .checkCatalogue q =>
    match s.reconcilers q with
    | .listed (key :: todo) =>
      if (s.liveStoredObject? key).isSome then s.setReconciler q (.restoring key todo)
      else s.setReconciler q (.uncatalogued key todo)
    | .listed [] => s.setReconciler q .idle
    | _ => s
  | .checkTombstone q =>
    match s.reconcilers q with
    | .uncatalogued key todo =>
      if s.rowTombstoned key then s.setReconciler q (.destroying key todo) else s.setReconciler q (.listed todo)
    | _ => s
  | .settleEntry q =>
    match s.reconcilers q with
    | .restoring key todo => { s with files := s.files.restoreQuarantined key }.setReconciler q (.listed todo)
    | .destroying key todo => { s with files := s.files.destroyQuarantined key }.setReconciler q (.listed todo)
    | _ => s
  | .stopReconciler q => s.setReconciler q .idle

end KnowledgeBase
