import KnowledgeBase.Library.Run
import KnowledgeBase.Store.Database
import Mathlib.Logic.Function.Basic

/-!
# The writer cutover

The service that moves the writer of a store from its legacy form to the second version, and the shadow mismatches
that are to hold it back. A command reads the state of the cutover, what it depends on, and writes, each in a
transaction of its own, so that any number of callers interleave between them. What else is counted before a
retirement is written by the rest of the system, at any time.
-/

namespace KnowledgeBase

/-! ### rows -/

inductive WriterMode
  | legacy | dual | v2Only
  deriving DecidableEq

inductive ReaderMode
  | legacy | shadow | v2
  deriving DecidableEq

/-- A row of `mkb_nhx1_cutover_state`; `retirements` counts the digests written to its `payload_extra`. -/
structure WriterCutoverRow where
  writerMode : WriterMode := .legacy
  readerMode : ReaderMode := .legacy
  admissionEnabled : Bool := true
  rowRevision : Nat := 0
  retirements : Nat := 0
  deriving DecidableEq

structure ShadowMismatchRow where
  migrationKey : String
  aggregateKind : String
  oldDigest : Digest
  newDigest : Digest
  mismatchKind : String
  resolution : Option String := none

structure ShadowMigrationRow where
  mismatchCount : Nat := 0
  blocked : Bool := false
  rowRevision : Nat := 0

/-- What `inventory` counts outside the shadow mismatches. -/
structure LegacyInventory where
  rev1Pins : Nat := 0
  pendingOutbox : Nat := 0
  openRestarts : Nat := 0
  liveObjectRefs : Nat := 0
  openCleanupJobs : Nat := 0
  legacyEvidence : Nat := 0

/-! ### callers -/

/-- The transaction a caller is to run next, with what its command has read. -/
inductive CutoverPhase
  | beginShadow (key : String) (revision : Nat)
  | cutoverCheck (key : String) (state : WriterCutoverRow)
  | cutoverCommit (key : String) (expectedRevision : Nat)
  | stopAdmission (key : String) (expectedRevision : Nat)
  | retireInventory (key : String) (expectedRevision : Nat)
  | retireCommit (key : String) (expectedRevision : Nat)
  deriving DecidableEq

inductive CutoverCall
  | idle
  | at (phase : CutoverPhase)
  | returned (state : WriterCutoverRow)
  | raised (e : MkbError)
  deriving DecidableEq

structure CutoverSystem where
  rows : String → Option WriterCutoverRow := fun _ => none
  mismatches : Table ShadowMismatchRow := .empty
  migrations : String → Option ShadowMigrationRow := fun _ => none
  inventory : LegacyInventory := {}
  callers : Nat → CutoverCall := fun _ => .idle

namespace CutoverSystem

def putRow (key : String) (row : WriterCutoverRow) (s : CutoverSystem) : CutoverSystem :=
  { s with rows := Function.update s.rows key (some row) }

def setCaller (c : Nat) (call : CutoverCall) (s : CutoverSystem) : CutoverSystem :=
  { s with callers := Function.update s.callers c call }

/-- The shadow mismatches that are not resolved. -/
def unresolved (s : CutoverSystem) : Nat := s.mismatches.count fun _ m => m.resolution.isNone

/-- A count of `inventory` other than `legacy_evidence` is not zero. -/
def blocked (s : CutoverSystem) : Bool :=
  s.inventory.rev1Pins != 0 || s.inventory.pendingOutbox != 0 || s.inventory.openRestarts != 0 ||
    s.inventory.liveObjectRefs != 0 || s.inventory.openCleanupJobs != 0 || s.unresolved != 0

end CutoverSystem

/-! ### errors -/

def cutoverFenceError (message : String) : MkbError := conflictError "NHX1_CUTOVER_FENCE_CONFLICT" message

def shadowMismatchError : MkbError := ⟨"NHX1_SHADOW_MISMATCH", "Shadow mismatch blocks v2 cutover", 503⟩

def notCutoverError : MkbError := ⟨"NHX1_RETIREMENT_NOT_CUTOVER", "Legacy retirement requires v2 cutover", 409⟩

def retirementBlockedError : MkbError :=
  ⟨"NHX1_RETIREMENT_BLOCKED", "Legacy retirement inventory is not empty", 409⟩

/-! ### the first transaction of a command -/

inductive CutoverCommand
  | ensureState
  | beginShadow
  | cutover (expectedRevision : Nat)
  | stopAdmission (expectedRevision : Nat)
  | retireLegacy (expectedRevision : Nat)

/-- `ensure_state`. -/
def ensureState (key : String) (s : CutoverSystem) : WriterCutoverRow × CutoverSystem :=
  match s.rows key with
  | some row => (row, s)
  | none => ({}, s.putRow key {})

/-- What a caller does once it has read the state of the cutover. -/
def CutoverCommand.start (key : String) (state : WriterCutoverRow) : CutoverCommand → CutoverCall
  | ensureState => .returned state
  | beginShadow => .at (.beginShadow key state.rowRevision)
  | cutover expectedRevision =>
    if state.rowRevision != expectedRevision then .raised (cutoverFenceError "Cutover state revision is stale")
    else .at (.cutoverCheck key state)
  | stopAdmission expectedRevision =>
    if state.rowRevision != expectedRevision then .raised (cutoverFenceError "Cutover state revision is stale")
    else .at (.stopAdmission key expectedRevision)
  | retireLegacy expectedRevision =>
    if state.rowRevision != expectedRevision then .raised (cutoverFenceError "Cutover state revision is stale")
    else if state.writerMode != .v2Only || state.readerMode != .v2 then .raised notCutoverError
    else .at (.retireInventory key expectedRevision)

/-- A caller that is in no command issues one. -/
def issue (c : Nat) (key : String) (command : CutoverCommand) (s : CutoverSystem) : CutoverSystem :=
  match s.callers c with
  | .at _ => s
  | _ =>
    let (state, s) := ensureState key s
    s.setCaller c (command.start key state)

/-! ### the later transactions -/

/-- A conditional write of the state of a cutover; the caller returns the new state or raises. -/
def casCutover (c : Nat) (key : String) (condition : WriterCutoverRow → Bool)
    (write : WriterCutoverRow → WriterCutoverRow) (message : String) (s : CutoverSystem) : CutoverSystem :=
  match (s.rows key).filter condition with
  | some row => (s.putRow key (write row)).setCaller c (.returned (write row))
  | none => s.setCaller c (.raised (cutoverFenceError message))

/-- The next transaction of a caller. -/
def advance (c : Nat) (s : CutoverSystem) : CutoverSystem :=
  match s.callers c with
  | .at (.beginShadow key revision) =>
    casCutover c key (fun row => row.rowRevision == revision && row.writerMode == .legacy)
      (fun row => { row with writerMode := .dual, readerMode := .shadow, rowRevision := row.rowRevision + 1 })
      "Cutover state changed before shadow start" s
  | .at (.cutoverCheck key state) =>
    if s.unresolved != 0 then s.setCaller c (.raised shadowMismatchError)
    else if state.writerMode == .v2Only then s.setCaller c (.returned state)
    else s.setCaller c (.at (.cutoverCommit key state.rowRevision))
  | .at (.cutoverCommit key expectedRevision) =>
    casCutover c key (fun row => row.rowRevision == expectedRevision && row.admissionEnabled)
      (fun row => { row with writerMode := .v2Only, readerMode := .v2, rowRevision := row.rowRevision + 1 })
      "Cutover changed before v2 activation" s
  | .at (.stopAdmission key expectedRevision) =>
    casCutover c key (fun row => row.rowRevision == expectedRevision && row.admissionEnabled)
      (fun row => { row with admissionEnabled := false, rowRevision := row.rowRevision + 1 })
      "Admission state changed before stop" s
  | .at (.retireInventory key expectedRevision) =>
    if s.blocked then s.setCaller c (.raised retirementBlockedError)
    else s.setCaller c (.at (.retireCommit key expectedRevision))
  | .at (.retireCommit key expectedRevision) =>
    casCutover c key (fun row => row.rowRevision == expectedRevision && row.writerMode == .v2Only)
      (fun row => { row with rowRevision := row.rowRevision + 1, retirements := row.retirements + 1 })
      "Legacy retirement changed before commit" s
  | _ => s

/-! ### shadow mismatches -/

/-- `start_or_resume`. -/
def startMigration (migrationKey : String) (s : CutoverSystem) : CutoverSystem :=
  match s.migrations migrationKey with
  | some _ => s
  | none => { s with migrations := Function.update s.migrations migrationKey (some {}) }

/-- `record_shadow_mismatch`. -/
def recordShadowMismatch (mismatch : ShadowMismatchRow) (s : CutoverSystem) : CutoverSystem :=
  if mismatch.oldDigest == mismatch.newDigest then s
  else
    match s.migrations mismatch.migrationKey with
    | none => s
    | some migration =>
      { s with
        mismatches := s.mismatches.insert { mismatch with resolution := none }
        migrations := Function.update s.migrations mismatch.migrationKey (some { migration with
          mismatchCount := migration.mismatchCount + 1
          blocked := true
          rowRevision := migration.rowRevision + 1 }) }

/-- `resolve_shadow_mismatch`. -/
def resolveShadowMismatch (mismatch : Nat) (resolutionCode : String) (s : CutoverSystem) : CutoverSystem :=
  if resolutionCode.isEmpty || 128 < resolutionCode.length then s
  else { s with mismatches := s.mismatches.update (fun k m => k == mismatch && m.resolution.isNone) fun _ m =>
    { m with resolution := some resolutionCode } }

/-! ### the writers -/

/-- `assert_writer_allowed`. -/
def assertWriterAllowed (state : WriterCutoverRow) (writer : String) : Except MkbError Unit :=
  if writer == "v2" && state.writerMode == .v2Only then .ok ()
  else if writer == "legacy" && state.writerMode == .legacy then .ok ()
  else .error ⟨"NHX1_LEGACY_WRITER_DISABLED", "The requested writer is disabled by cutover", 409⟩

/-! ### the system -/

inductive CutoverEvent
  | issue (c : Nat) (key : String) (command : CutoverCommand)
  | advance (c : Nat)
  | startMigration (migrationKey : String)
  | recordMismatch (mismatch : ShadowMismatchRow)
  | resolveMismatch (mismatch : Nat) (resolutionCode : String)
  /-- The rest of the system writes what the inventory counts. -/
  | writeInventory (inventory : LegacyInventory)

/-- One transaction. -/
def cutoverSystemStep (s : CutoverSystem) : CutoverEvent → CutoverSystem
  | .issue c key command => issue c key command s
  | .advance c => advance c s
  | .startMigration migrationKey => startMigration migrationKey s
  | .recordMismatch mismatch => recordShadowMismatch mismatch s
  | .resolveMismatch mismatch resolutionCode => resolveShadowMismatch mismatch resolutionCode s
  | .writeInventory inventory => { s with inventory := inventory }

end KnowledgeBase
