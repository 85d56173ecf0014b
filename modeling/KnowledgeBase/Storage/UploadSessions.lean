import KnowledgeBase.Serving.System
import KnowledgeBase.Storage.References

/-!
# Upload sessions

An upload commits its catalog row, a session and a pending reference in one transaction; the session is reserved by a
Task and consumed, cancelled or expired, while two older operations select pending references by the object alone.
-/

namespace KnowledgeBase

open Checked Relational Serving

/-! ### rows -/

/-- The texts of `idempotency_key`. A caller may send any of them; the service writes the two legacy ones itself. -/
inductive IdempotencyKey
  | blank
  | text (key : Nat)
  | legacy (digest : Digest) (size : Nat)
  | legacyFresh (digest : Digest) (size : Nat) (uuid : Nat)
deriving DecidableEq

inductive UploadState
  | receiving | prepared | promoted | committed | reserved | consumed | cancelled | expired | failed
deriving DecidableEq

/-- `state IN ('receiving','prepared','promoted','committed')`. -/
def UploadState.isOpen : UploadState → Bool
  | .receiving | .prepared | .promoted | .committed => true
  | _ => false

def UploadState.isTerminal : UploadState → Bool
  | .consumed | .cancelled | .expired | .failed => true
  | _ => false

/-- Committed or reserved. -/
def UploadState.isHeld : UploadState → Bool
  | .committed | .reserved => true
  | _ => false

/-- A row of `mkb_object_upload_sessions`. -/
structure UploadSessionRow where
  session : UploadSessionId
  team : TeamId
  idempotencyKey : IdempotencyKey
  state : UploadState
  storedObject : StoredObjectId
  digest : Digest
  size : Nat
  pendingReference : Option ReferenceId
  reservedTask : Option (TaskId × Nat)
  rowRevision : Nat
  terminalAt : Option Time
deriving DecidableEq

/-- `_session_token`; the digest of its parts is taken to be the parts. -/
structure SessionToken where
  team : TeamId
  idempotencyKey : IdempotencyKey
  session : UploadSessionId
deriving DecidableEq

def UploadSessionRow.token (q : UploadSessionRow) : SessionToken := ⟨q.team, q.idempotencyKey, q.session⟩

def UploadSessionRow.commit (pending : ReferenceId) (q : UploadSessionRow) : UploadSessionRow :=
  { q with state := .committed, pendingReference := some pending, rowRevision := q.rowRevision + 1 }

def UploadSessionRow.reserve (task : TaskId) (generation : Nat) (q : UploadSessionRow) : UploadSessionRow :=
  { q with state := .reserved, reservedTask := some (task, generation), rowRevision := q.rowRevision + 1 }

/-- A terminal state. -/
def UploadSessionRow.finish (state : UploadState) (now : Time) (q : UploadSessionRow) : UploadSessionRow :=
  { q with state := state, terminalAt := some now, rowRevision := q.rowRevision + 1 }

/-- A row of `mkb_stored_objects`. -/
structure CatalogRow where
  storedObject : StoredObjectId
  team : TeamId
  digest : Digest
  size : Nat
  tombstonedAt : Option Time
deriving DecidableEq

structure UploadStore where
  stored : List CatalogRow
  sessions : List UploadSessionRow
  references : List ReferenceRow

def UploadStore.empty : UploadStore := ⟨[], [], []⟩

/-- The uploaded bytes with the caller's key, and the ids the transaction draws. -/
structure UploadCommand where
  team : TeamId
  digest : Digest
  size : Nat
  idempotencyKey : Option IdempotencyKey
  session : UploadSessionId
  reference : ReferenceId
  storedObject : StoredObjectId
  owner : Nat
  uuid : Nat
  now : Time

structure ObjectUploadRecord where
  storedObject : StoredObjectId
  replay : Bool
  sessionToken : Option SessionToken
deriving DecidableEq

def UploadCommand.effectiveKey (c : UploadCommand) : IdempotencyKey := c.idempotencyKey.getD (.legacy c.digest c.size)

namespace UploadStore

/-! ### upload -/

def storedRow? (s : UploadStore) (team : TeamId) (o : StoredObjectId) : Option CatalogRow :=
  s.stored.find? fun q => q.team == team && q.storedObject == o

/-- `live_stored_object_uuid`. -/
def liveStoredObject? (l : List CatalogRow) (team : TeamId) (digest : Digest) (size : Nat) : Option StoredObjectId :=
  (l.find? fun q => q.team == team && q.digest == digest && q.size == size && q.tombstonedAt.isNone).map (·.storedObject)

/-- The hold a key-less upload of known bytes adds, which belongs to no session. -/
def extraHold (c : UploadCommand) (o : StoredObjectId) : ReferenceRow :=
  ⟨c.reference, c.team, o, .uploadPending, .publicUpload, .other c.owner, c.now, none, none⟩

/-- The pending reference of a new session. -/
def pendingHold (c : UploadCommand) (o : StoredObjectId) : ReferenceRow where
  reference := c.reference
  team := c.team
  storedObject := o
  purpose := .uploadPending
  ownerKind := if c.idempotencyKey.isSome then .uploadSession else .publicUpload
  owner := if c.idempotencyKey.isSome then .uploadSession c.session else .other c.owner
  createdAt := c.now
  releasedAt := none
  uploadSession := some c.session

/-- The primary key and the two unique indexes over live pending references. -/
def referenceClash (r q : ReferenceRow) : Bool :=
  q.reference == r.reference ||
    (r.purpose == .uploadPending && q.purpose == .uploadPending && q.isLive && q.team == r.team &&
      (q.storedObject == r.storedObject && q.ownerKind == r.ownerKind && q.owner == r.owner ||
        q.uploadSession.isSome && q.uploadSession == r.uploadSession))

def isPendingOf (team : TeamId) (o : StoredObjectId) (owner : OwnerId) (r : ReferenceRow) : Bool :=
  r.team == team && r.storedObject == o && r.purpose == .uploadPending && r.owner == owner && r.isLive

def sessionClash (e q : UploadSessionRow) : Bool :=
  q.session == e.session || (q.team == e.team && q.idempotencyKey == e.idempotencyKey)

def promotedSession (c : UploadCommand) (key : IdempotencyKey) (o : StoredObjectId) : UploadSessionRow :=
  ⟨c.session, c.team, key, .promoted, o, c.digest, c.size, none, none, 0, none⟩

/-- The catalog row of the bytes, inserted when none is live. -/
def catalogObject (c : UploadCommand) (l : List CatalogRow) : List CatalogRow :=
  if (liveStoredObject? l c.team c.digest c.size).isSome then l
  else insertOrIgnore (fun q => q.storedObject == c.storedObject) ⟨c.storedObject, c.team, c.digest, c.size, none⟩ l

/-- The branch of `upload` that opens a session under the key. -/
def openSession (c : UploadCommand) (key : IdempotencyKey) (s : UploadStore) : Except MkbError (ObjectUploadRecord × UploadStore) := do
  let known := liveStoredObject? s.stored c.team c.digest c.size
  let stored := catalogObject c s.stored
  let o ← required (liveStoredObject? stored c.team c.digest c.size)
    ⟨"OBJECT_CATALOG_COMMIT_FAILED", "Object catalog did not accept upload", 503⟩
  let e := promotedSession c key o
  failIf (s.sessions.any (sessionClash e)) constraintViolation
  let references := insertOrIgnore (referenceClash (pendingHold c o)) (pendingHold c o) s.references
  let pending ← required (references.find? (isPendingOf c.team o (pendingHold c o).owner))
    ⟨"OBJECT_PENDING_COMMIT_FAILED", "Object pending hold did not commit", 503⟩
  return (⟨o, known.isNone && o != c.storedObject, if c.idempotencyKey.isSome then some e.token else none⟩,
    { stored := stored
      sessions := updateWhere (fun q => q.session == c.session && q.state == .promoted)
        (UploadSessionRow.commit pending.reference) (s.sessions ++ [e])
      references := references })

/-- The branch of `upload` that finds the key with the same bytes. -/
def replaySession (c : UploadCommand) (e : UploadSessionRow) (o : CatalogRow) (s : UploadStore) :
    Except MkbError (ObjectUploadRecord × UploadStore) :=
  if c.idempotencyKey.isSome then .ok (⟨o.storedObject, true, some e.token⟩, s)
  else do
    failIf (s.references.any (referenceClash (extraHold c o.storedObject))) constraintViolation
    return (⟨o.storedObject, true, none⟩, { s with references := s.references ++ [extraHold c o.storedObject] })

def upload (c : UploadCommand) (s : UploadStore) : Except MkbError (ObjectUploadRecord × UploadStore) := do
  failIf (c.idempotencyKey == some .blank) ⟨"OBJECT_IDEMPOTENCY_INVALID", "Object idempotency key is empty", 422⟩
  match s.sessions.find? (fun q => q.team == c.team && q.idempotencyKey == c.effectiveKey) with
  | none => s.openSession c c.effectiveKey
  | some e =>
    failIf (e.digest != c.digest || e.size != c.size)
      ⟨"OBJECT_SESSION_CONFLICT", "Idempotent upload key has different bytes", 409⟩
    match (s.storedRow? c.team e.storedObject).filter (·.tombstonedAt.isNone) with
    | some o => s.replaySession c e o
    | none =>
      if c.idempotencyKey.isSome then .error ⟨"OBJECT_SESSION_CONFLICT", "Upload session catalog is unavailable", 503⟩
      else s.openSession c (.legacyFresh c.digest c.size c.uuid)

/-! ### one session -/

/-- `_session_tx`. -/
def session? (s : UploadStore) (team : TeamId) (token : SessionToken) : Option UploadSessionRow :=
  (s.sessions.find? fun q => q.team == team && q.session == token.session).filter (·.token == token)

def sessionNotFound : MkbError := notFoundError "OBJECT_SESSION_NOT_FOUND" "Upload session token is invalid"

/-- `upload_session_uuid=? AND purpose='upload_pending'`. -/
def isSessionHold (session : UploadSessionId) (r : ReferenceRow) : Bool :=
  r.uploadSession == some session && r.purpose == .uploadPending

def reserveSession (team : TeamId) (token : SessionToken) (task : TaskId) (generation : Nat) (s : UploadStore) :
    Except MkbError (Bool × UploadStore) := do
  failIf (generation < 1) ⟨"OBJECT_SESSION_COMMAND_INVALID", "Task generation is invalid", 422⟩
  let e ← required (s.session? team token) sessionNotFound
  return (s.sessions.countP (fun q => q.session == e.session && q.state == .committed) == 1,
    { s with
      sessions := updateWhere (fun q => q.session == e.session && q.state == .committed)
        (UploadSessionRow.reserve task generation) s.sessions })

def consumeSession (team : TeamId) (token : SessionToken) (now : Time) (s : UploadStore) :
    Except MkbError (Bool × UploadStore) := do
  let e ← required (s.session? team token) sessionNotFound
  if s.sessions.countP (fun q => q.session == e.session && q.state == .reserved) != 1 then return (false, s)
  else
    return (true, { s with
      sessions := updateWhere (fun q => q.session == e.session && q.state == .reserved)
        (UploadSessionRow.finish .consumed now) s.sessions
      references := releaseWhere (isSessionHold e.session) now s.references })

/-- The references are released whatever the update of the session did. -/
def cancelSession (team : TeamId) (token : SessionToken) (now : Time) (s : UploadStore) :
    Except MkbError (Bool × UploadStore) := do
  let e ← required (s.session? team token) sessionNotFound
  return (decide (0 < s.sessions.countP fun q => q.session == e.session && q.state.isOpen),
    { s with
      sessions := updateWhere (fun q => q.session == e.session && q.state.isOpen)
        (UploadSessionRow.finish .cancelled now) s.sessions
      references := releaseWhere (isSessionHold e.session) now s.references })

/-! ### the operations that select by the object -/

/-- A live pending reference of kind `public_upload` of the object. -/
def isPublicHold (team : TeamId) (o : StoredObjectId) (r : ReferenceRow) : Bool :=
  r.team == team && r.storedObject == o && r.purpose == .uploadPending && r.ownerKind == .publicUpload && r.isLive

/-- `ORDER BY created_at DESC, reference_uuid DESC LIMIT 1`. -/
def newest? : List ReferenceRow → Option ReferenceRow
  | [] => none
  | r :: l =>
    match newest? l with
    | none => some r
    | some q =>
      if q.createdAt < r.createdAt || (q.createdAt == r.createdAt && q.reference ≤ r.reference) then some r else some q

def newestPublicHold? (s : UploadStore) (team : TeamId) (o : StoredObjectId) : Option ReferenceRow :=
  newest? (s.references.filter (isPublicHold team o))

def liveObject? (s : UploadStore) (team : TeamId) (digest : Digest) : Option CatalogRow :=
  s.stored.find? fun q => q.team == team && q.digest == digest && q.tombstonedAt.isNone

/-- `cancel`, by the digest of the handle. -/
def cancel (team : TeamId) (digest : Digest) (now : Time) (s : UploadStore) : Except MkbError (Bool × UploadStore) := do
  let o ← required (s.liveObject? team digest) (notFoundError "OBJECT_NOT_FOUND" "Object was not found")
  match s.newestPublicHold? team o.storedObject with
  | none => return (false, s)
  | some r => return (true, { s with references := releaseWhere (fun q => q.reference == r.reference) now s.references })

def sourceReference (team : TeamId) (snapshot : SnapshotId) (o : StoredObjectId) (reference : ReferenceId) (now : Time) :
    ReferenceRow :=
  ⟨reference, team, o, .intakeSnapshotArtifact, .intakeSnapshotSourceObject, .snapshot snapshot, now, none, none⟩

def isSourceReferenceOf (team : TeamId) (snapshot : SnapshotId) (o : StoredObjectId) (r : ReferenceRow) : Bool :=
  r.team == team && r.storedObject == o && r.purpose == .intakeSnapshotArtifact &&
    r.ownerKind == .intakeSnapshotSourceObject && r.owner == .snapshot snapshot && r.isLive

/-- `_reference_object`, of the source object. -/
def referenceSource (team : TeamId) (snapshot : SnapshotId) (o : StoredObjectId) (reference : ReferenceId) (now : Time)
    (l : List ReferenceRow) : Except MkbError (List ReferenceRow) :=
  if l.any (isSourceReferenceOf team snapshot o) then .ok l
  else insertUnique ReferenceRow.reference constraintViolation (sourceReference team snapshot o reference now) l

/-- The `local_object` branch of `accept_snapshot`. -/
def acceptSource (team : TeamId) (snapshot : SnapshotId) (o : StoredObjectId) (reference : ReferenceId) (now : Time)
    (s : UploadStore) : Except MkbError UploadStore := do
  let references ← referenceSource team snapshot o reference now s.references
  return { s with references := releaseWhere (isPublicHold team o) now references }

/-! ### expiry -/

/-- `s.upload_session_uuid IS NULL OR s.state NOT IN ('reserved','consumed')`, of the joined session. -/
def isAbandonable (s : UploadStore) (r : ReferenceRow) : Bool :=
  match r.uploadSession with
  | none => true
  | some session =>
    s.sessions.all fun q => q.session != session || (q.state != .reserved && q.state != .consumed)

def isExpired (cutoff : Time) (s : UploadStore) (r : ReferenceRow) : Bool :=
  r.purpose == .uploadPending && r.isLive && decide (r.createdAt ≤ cutoff) && s.isAbandonable r

def createdBefore (r q : ReferenceRow) : Bool :=
  decide (r.createdAt < q.createdAt) || (r.createdAt == q.createdAt && decide (r.reference ≤ q.reference))

/-- The rows `scan_once` reads. -/
def expiredHolds (limit : Nat) (cutoff : Time) (s : UploadStore) : List ReferenceRow :=
  ((s.references.filter (s.isExpired cutoff)).mergeSort createdBefore).take limit

/-- The body of the loop of `scan_once`. -/
def expireHold (now : Time) (s : UploadStore) (r : ReferenceRow) : UploadStore where
  stored := s.stored
  sessions := match r.uploadSession with
    | none => s.sessions
    | some session => updateWhere (fun q => q.session == session && q.state.isOpen) (UploadSessionRow.finish .expired now) s.sessions
  references := releaseWhere (fun q => q.reference == r.reference) now s.references

def scanOnce (limit : Nat) (cutoff now : Time) (s : UploadStore) : UploadStore :=
  (s.expiredHolds limit cutoff).foldl (expireHold now) s

/-- The tombstone the collector writes on an object without a live reference. -/
def tombstone (team : TeamId) (o : StoredObjectId) (now : Time) (s : UploadStore) : Except MkbError UploadStore := do
  failIf (s.references.any fun r => r.team == team && r.storedObject == o && r.isLive) noAction
  return { s with
    stored := updateWhere (fun q => q.team == team && q.storedObject == o && q.tombstonedAt.isNone)
      (fun q => { q with tombstonedAt := some now }) s.stored }

end UploadStore

/-! ### the interleaving -/

inductive UploadStep
  | upload (c : UploadCommand)
  | reserveSession (team : TeamId) (token : SessionToken) (task : TaskId) (generation : Nat)
  | consumeSession (team : TeamId) (token : SessionToken) (now : Time)
  | cancelSession (team : TeamId) (token : SessionToken) (now : Time)
  | cancel (team : TeamId) (digest : Digest) (now : Time)
  | scanOnce (limit : Nat) (cutoff now : Time)
  | acceptSource (team : TeamId) (snapshot : SnapshotId) (o : StoredObjectId) (reference : ReferenceId) (now : Time)
  | tombstone (team : TeamId) (o : StoredObjectId) (now : Time)

def UploadStep.transact (s : UploadStore) : UploadStep → Except MkbError UploadStore
  | .upload c => (s.upload c).map Prod.snd
  | .reserveSession team token task generation => (s.reserveSession team token task generation).map Prod.snd
  | .consumeSession team token now => (s.consumeSession team token now).map Prod.snd
  | .cancelSession team token now => (s.cancelSession team token now).map Prod.snd
  | .cancel team digest now => (s.cancel team digest now).map Prod.snd
  | .scanOnce limit cutoff now => .ok (s.scanOnce limit cutoff now)
  | .acceptSource team snapshot o reference now => s.acceptSource team snapshot o reference now
  | .tombstone team o now => s.tombstone team o now

/-- A transaction that fails changes nothing. -/
def uploadStep (s : UploadStore) (t : UploadStep) : UploadStore :=
  match t.transact s with
  | .ok s' => s'
  | .error _ => s

theorem uploadStep_cases {s : UploadStore} {t : UploadStep} :
    uploadStep s t = s ∨ t.transact s = .ok (uploadStep s t) := by
  unfold uploadStep
  cases h : t.transact s with
  | ok s' => exact .inr rfl
  | error e => exact .inl rfl

theorem uploadStep_of_ok {s s' : UploadStore} {t : UploadStep} (h : t.transact s = .ok s') : uploadStep s t = s' := by
  unfold uploadStep
  rw [h]

theorem uploadStep_of_error {s : UploadStore} {t : UploadStep} {e : MkbError} (h : t.transact s = .error e) :
    uploadStep s t = s := by
  unfold uploadStep
  rw [h]

end KnowledgeBase
