import KnowledgeBase.Serving.Rows

/-!
# Object references

The reference ledger as its releasing services see it: which purpose holds an object for which owner, and whether the
hold has been released. Writers choose the keys, so the ledger is the list of its rows.
-/

namespace KnowledgeBase

open Relational

abbrev ReferenceId := Nat
abbrev StoredObjectId := Nat
abbrev UploadSessionId := Nat

inductive ReferencePurpose
  | intakeSnapshotArtifact | intakeRevisionArtifact | cleanCandidate | gateEvidence | generationArtifact | processIo
  | uploadPending | operatorHold | backupHold
deriving DecidableEq

inductive OwnerKind
  | intakeItem | intakeSnapshot | intakeSnapshotSourceObject | intakeRevision | generationArtifact
  | executionConfigSnapshot | executionInputManifest | publicUpload | uploadSession | other (kind : Nat)
deriving DecidableEq

/-- `owner_uuid`; the uuids of different kinds of rows never agree. -/
inductive OwnerId
  | item (item : ItemId)
  | snapshot (snapshot : SnapshotId)
  | revision (revision : RevisionId)
  | generationArtifact (artifact : ArtifactId)
  | uploadSession (session : UploadSessionId)
  | other (owner : Nat)
deriving DecidableEq

/-- A row of `mkb_object_references`. -/
structure ReferenceRow where
  reference : ReferenceId
  team : TeamId
  storedObject : StoredObjectId
  purpose : ReferencePurpose
  ownerKind : OwnerKind
  owner : OwnerId
  createdAt : Time
  releasedAt : Option Time
  uploadSession : Option UploadSessionId
deriving DecidableEq

/-- `purpose IN ('operator_hold','backup_hold')`. -/
def ReferencePurpose.isHold : ReferencePurpose → Bool
  | .operatorHold | .backupHold => true
  | _ => false

def ReferenceRow.isLive (r : ReferenceRow) : Bool := r.releasedAt.isNone
def ReferenceRow.isLiveHold (r : ReferenceRow) : Bool := r.isLive && r.purpose.isHold
def ReferenceRow.release (now : Time) (r : ReferenceRow) : ReferenceRow := { r with releasedAt := some now }

/-- `UPDATE mkb_object_references SET released_at=? WHERE … AND released_at IS NULL`. -/
def releaseWhere (c : ReferenceRow → Bool) (now : Time) (l : List ReferenceRow) : List ReferenceRow :=
  updateWhere (fun r => c r && r.isLive) (ReferenceRow.release now) l

theorem ReferenceRow.isLive_release (now : Time) (r : ReferenceRow) : (ReferenceRow.release now r).isLive = false := rfl

theorem mem_releaseWhere_iff {c : ReferenceRow → Bool} {now : Time} {l : List ReferenceRow} {r : ReferenceRow}
    (hr : r.isLive = true) : r ∈ releaseWhere c now l ↔ r ∈ l ∧ c r = false := by
  unfold releaseWhere
  rw [mem_updateWhere]
  constructor
  · rintro ⟨q, hq, h⟩
    split at h
    · subst h
      rw [ReferenceRow.isLive_release] at hr
      cases hr
    · rename_i hc
      subst h
      refine ⟨hq, Bool.eq_false_iff.2 fun hcq => hc ?_⟩
      rw [hcq, hr]
      rfl
  · rintro ⟨hmem, hc⟩
    refine ⟨r, hmem, if_neg ?_⟩
    rw [hc]
    exact Bool.false_ne_true

theorem isLive_of_releaseWhere {c : ReferenceRow → Bool} {now : Time} {l : List ReferenceRow} {r : ReferenceRow}
    (h : r ∈ releaseWhere c now l) (hr : r.isLive = true) : r ∈ l := ((mem_releaseWhere_iff hr).1 h).1

end KnowledgeBase
