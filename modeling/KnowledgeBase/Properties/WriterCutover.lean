import KnowledgeBase.Operations.WriterCutover

/-!
# The writer cutover goes one way

The mode of the writer never goes back. A cutover is committed without an unresolved mismatch and a retirement with an
empty inventory as long as nothing they depend on is written between the check of a caller and its commit, and a
writer is allowed while admission is enabled as long as no shadow is begun meanwhile: `oneWayCutover`.
-/

namespace KnowledgeBase

/-! ### what a step writes -/

/-- The write of the state of a cutover in a phase. -/
inductive CutoverWrite : CutoverPhase → String → WriterCutoverRow → WriterCutoverRow → Prop
  | shadow (key : String) (row : WriterCutoverRow) : row.writerMode = .legacy →
      CutoverWrite (.beginShadow key row.rowRevision) key row
        { row with writerMode := .dual, readerMode := .shadow, rowRevision := row.rowRevision + 1 }
  | cutover (key : String) (row : WriterCutoverRow) : row.admissionEnabled = true →
      CutoverWrite (.cutoverCommit key row.rowRevision) key row
        { row with writerMode := .v2Only, readerMode := .v2, rowRevision := row.rowRevision + 1 }
  | stop (key : String) (row : WriterCutoverRow) : row.admissionEnabled = true →
      CutoverWrite (.stopAdmission key row.rowRevision) key row
        { row with admissionEnabled := false, rowRevision := row.rowRevision + 1 }
  | retire (key : String) (row : WriterCutoverRow) : row.writerMode = .v2Only →
      CutoverWrite (.retireCommit key row.rowRevision) key row
        { row with rowRevision := row.rowRevision + 1, retirements := row.retirements + 1 }

variable {s s' : CutoverSystem} {c : Nat} {key : String} {event : CutoverEvent}

theorem casCutover_cases {condition : WriterCutoverRow → Bool} {write : WriterCutoverRow → WriterCutoverRow}
    {message : String} (hcas : casCutover c key condition write message s = s') :
    (∃ row, s.rows key = some row ∧ condition row = true ∧
      s' = (s.putRow key (write row)).setCaller c (.returned (write row))) ∨
    s' = s.setCaller c (.raised (cutoverFenceError message)) := by
  subst hcas
  unfold casCutover
  cases h : (s.rows key).filter condition with
  | none => exact .inr rfl
  | some row =>
    obtain ⟨hrow, hc⟩ := Option.filter_eq_some_iff.1 h
    exact .inl ⟨row, hrow, hc, rfl⟩

/-- What the next transaction of a caller does: it writes the state of a cutover and ends the command, goes on with it
after a check, or ends it. -/
inductive Advanced (s : CutoverSystem) (c : Nat) : CutoverSystem → Prop
  | write {phase : CutoverPhase} {key : String} {row row' : WriterCutoverRow} (state : WriterCutoverRow) :
      s.callers c = .at phase → s.rows key = some row → CutoverWrite phase key row row' →
      Advanced s c ((s.putRow key row').setCaller c (.returned state))
  | cutover {key : String} {state : WriterCutoverRow} : s.callers c = .at (.cutoverCheck key state) →
      s.unresolved = 0 → Advanced s c (s.setCaller c (.at (.cutoverCommit key state.rowRevision)))
  | retire {key : String} {expectedRevision : Nat} : s.callers c = .at (.retireInventory key expectedRevision) →
      s.blocked = false → Advanced s c (s.setCaller c (.at (.retireCommit key expectedRevision)))
  | stop (call : CutoverCall) : (∀ phase, call ≠ .at phase) → Advanced s c (s.setCaller c call)
  | idle : Advanced s c s

theorem advance_cases (s : CutoverSystem) (c : Nat) : Advanced s c (advance c s) := by
  unfold advance
  split
  · next key revision hcall =>
    generalize hcas : casCutover _ _ _ _ _ _ = s'
    obtain ⟨row, hrow, hc, rfl⟩ | rfl := casCutover_cases hcas
    · simp only [Bool.and_eq_true, beq_iff_eq] at hc
      obtain ⟨rfl, hlegacy⟩ := hc
      exact .write _ hcall hrow (.shadow key row hlegacy)
    · exact .stop _ fun _ h => by cases h
  · next key state hcall =>
    split
    · exact .stop _ fun _ h => by cases h
    · next hclear =>
      split
      · exact .stop _ fun _ h => by cases h
      · exact .cutover hcall (by simpa using hclear)
  · next key expectedRevision hcall =>
    generalize hcas : casCutover _ _ _ _ _ _ = s'
    obtain ⟨row, hrow, hc, rfl⟩ | rfl := casCutover_cases hcas
    · simp only [Bool.and_eq_true, beq_iff_eq] at hc
      obtain ⟨rfl, hadmission⟩ := hc
      exact .write _ hcall hrow (.cutover key row hadmission)
    · exact .stop _ fun _ h => by cases h
  · next key expectedRevision hcall =>
    generalize hcas : casCutover _ _ _ _ _ _ = s'
    obtain ⟨row, hrow, hc, rfl⟩ | rfl := casCutover_cases hcas
    · simp only [Bool.and_eq_true, beq_iff_eq] at hc
      obtain ⟨rfl, hadmission⟩ := hc
      exact .write _ hcall hrow (.stop key row hadmission)
    · exact .stop _ fun _ h => by cases h
  · next key expectedRevision hcall =>
    split
    · exact .stop _ fun _ h => by cases h
    · next hclear => exact .retire hcall (by simpa using hclear)
  · next key expectedRevision hcall =>
    generalize hcas : casCutover _ _ _ _ _ _ = s'
    obtain ⟨row, hrow, hc, rfl⟩ | rfl := casCutover_cases hcas
    · simp only [Bool.and_eq_true, beq_iff_eq] at hc
      obtain ⟨rfl, hv2⟩ := hc
      exact .write _ hcall hrow (.retire key row hv2)
    · exact .stop _ fun _ h => by cases h
  · exact .idle

/-! ### checks that hold until the commit -/

namespace CutoverPhase

/-- The key and the revision a phase will write under. -/
def fence? : CutoverPhase → Option (String × Nat)
  | beginShadow key revision | cutoverCommit key revision | stopAdmission key revision
  | retireInventory key revision | retireCommit key revision => some (key, revision)
  | cutoverCheck key state => some (key, state.rowRevision)

/-- A commit that its fence lets pass. -/
def live (s : CutoverSystem) : CutoverPhase → Bool
  | cutoverCommit key revision => (s.rows key).any fun row => row.rowRevision == revision && row.admissionEnabled
  | retireCommit key revision => (s.rows key).any fun row => row.rowRevision == revision && row.writerMode == .v2Only
  | _ => false

/-- What the phase before a commit has checked. -/
def Clear (s : CutoverSystem) : CutoverPhase → Prop
  | cutoverCommit _ _ => s.unresolved = 0
  | retireCommit _ _ => s.blocked = false
  | _ => True

end CutoverPhase

theorem CutoverPhase.Clear.mono (hfewer : s'.unresolved ≤ s.unresolved) (hinventory : s'.inventory = s.inventory)
    {phase : CutoverPhase} (h : phase.Clear s) : phase.Clear s' := by
  cases phase with
  | cutoverCommit key revision =>
    have hzero : s.unresolved = 0 := h
    show s'.unresolved = 0
    omega
  | retireCommit key revision =>
    have hempty : s.blocked = false := h
    show s'.blocked = false
    unfold CutoverSystem.blocked at hempty ⊢
    simp only [Bool.or_eq_false_iff, bne_eq_false_iff_eq] at hempty ⊢
    rw [hinventory]
    exact ⟨hempty.1, by omega⟩
  | _ => trivial

/-- What a step must not do: write what a commit that can still pass depends on, or begin the shadow of a legacy writer
while admission is enabled. A mismatch of equal digests or of no migration is not written. -/
def CutoverCovered (s : CutoverSystem) : CutoverEvent → Prop
  | .advance c => ∀ key revision row, s.callers c = .at (.beginShadow key revision) → s.rows key = some row →
    row.rowRevision = revision → row.writerMode = .legacy → row.admissionEnabled = false
  | .recordMismatch mismatch => mismatch.oldDigest ≠ mismatch.newDigest →
    (s.migrations mismatch.migrationKey).isSome = true → ∀ c phase, s.callers c = .at phase → phase.live s = false
  | .writeInventory inventory => ∀ c key revision, s.callers c = .at (.retireCommit key revision) →
    (CutoverPhase.retireCommit key revision).live s = true → { s with inventory := inventory }.blocked = false
  | _ => True

/-- Each caller knows a revision the state has reached, what it has checked still holds if its commit can pass, and no
shadow runs while admission is enabled. -/
structure CutoverFenced (s : CutoverSystem) : Prop where
  known : ∀ c phase key revision, s.callers c = .at phase → phase.fence? = some (key, revision) →
    ∃ row, s.rows key = some row ∧ revision ≤ row.rowRevision
  clear : ∀ c phase, s.callers c = .at phase → phase.live s = true → phase.Clear s
  writers : ∀ key row, s.rows key = some row → row.admissionEnabled = true → row.writerMode ≠ .dual

/-- Every state of a cutover stays as it is or is written under a higher revision. -/
def RowsMove (s s' : CutoverSystem) : Prop :=
  ∀ key row, s.rows key = some row → ∃ row', s'.rows key = some row' ∧
    (row' = row ∨ row.rowRevision < row'.rowRevision)

theorem RowsMove.live (h : RowsMove s s') {phase : CutoverPhase} (hknown : ∀ key revision,
    phase.fence? = some (key, revision) → ∃ row, s.rows key = some row ∧ revision ≤ row.rowRevision)
    (hlive : phase.live s' = true) : phase.live s = true := by
  have hsame {key : String} {revision : Nat} (hfence : phase.fence? = some (key, revision)) {row' : WriterCutoverRow}
      (hrow' : s'.rows key = some row') (hrevision : row'.rowRevision = revision) : s.rows key = some row' := by
    obtain ⟨row, hrow, hle⟩ := hknown key revision hfence
    obtain ⟨q, hq, hmove⟩ := h key row hrow
    obtain rfl := Option.some.inj (hq.symm.trans hrow')
    rcases hmove with rfl | hlt
    · exact hrow
    · omega
  cases phase with
  | cutoverCommit key revision =>
    obtain ⟨row', hrow', hc⟩ := (Option.any_eq_true _ _).1 hlive
    simp only [Bool.and_eq_true, beq_iff_eq] at hc
    exact (Option.any_eq_true _ _).2 ⟨row', hsame rfl hrow' hc.1, by simpa using hc⟩
  | retireCommit key revision =>
    obtain ⟨row', hrow', hc⟩ := (Option.any_eq_true _ _).1 hlive
    simp only [Bool.and_eq_true, beq_iff_eq] at hc
    exact (Option.any_eq_true _ _).2 ⟨row', hsame rfl hrow' hc.1, by simpa using hc⟩
  | _ => cases hlive

/-- A step keeps the fence if it moves the rows, keeps what the commits depend on, and leaves every caller where it
was or in a phase whose check holds. -/
theorem CutoverFenced.move (h : CutoverFenced s) (hrows : RowsMove s s')
    (hcallers : ∀ c phase, s'.callers c = .at phase → s.callers c = .at phase ∨ phase.Clear s' ∧
      ∀ key revision, phase.fence? = some (key, revision) → ∃ row, s'.rows key = some row ∧ revision ≤ row.rowRevision)
    (hclear : ∀ c phase, s.callers c = .at phase → phase.live s = true → phase.Clear s → phase.Clear s')
    (hwriters : ∀ key row, s'.rows key = some row → row.admissionEnabled = true → row.writerMode ≠ .dual) :
    CutoverFenced s' := by
  refine ⟨fun c phase key revision hcall hfence => ?_, fun c phase hcall hlive => ?_, hwriters⟩
  · rcases hcallers c phase hcall with hold | ⟨-, hknown⟩
    · obtain ⟨row, hrow, hle⟩ := h.known c phase key revision hold hfence
      obtain ⟨row', hrow', rfl | hlt⟩ := hrows key row hrow
      · exact ⟨row', hrow', hle⟩
      · exact ⟨row', hrow', by omega⟩
    · exact hknown key revision hfence
  · rcases hcallers c phase hcall with hold | ⟨hphase, -⟩
    · have hlive' := hrows.live (fun key revision => h.known c phase key revision hold) hlive
      exact hclear c phase hold hlive' (h.clear c phase hold hlive')
    · exact hphase

/-! ### the steps -/

theorem ensureState_cases (key : String) (s : CutoverSystem) :
    (∃ row, s.rows key = some row ∧ ensureState key s = (row, s)) ∨
      s.rows key = none ∧ ensureState key s = ({}, s.putRow key {}) := by
  unfold ensureState
  cases h : s.rows key with
  | none => exact .inr ⟨rfl, rfl⟩
  | some row => exact .inl ⟨row, rfl, rfl⟩

theorem CutoverCommand.start_at {state : WriterCutoverRow} {command : CutoverCommand} {phase : CutoverPhase}
    (h : command.start key state = .at phase) :
    phase.fence? = some (key, state.rowRevision) ∧ ∀ s, phase.Clear s := by
  cases command with
  | ensureState => cases h
  | beginShadow =>
    obtain rfl := CutoverCall.at.inj h
    exact ⟨rfl, fun _ => trivial⟩
  | cutover expectedRevision =>
    simp only [start] at h
    split at h
    · cases h
    · obtain rfl := CutoverCall.at.inj h
      exact ⟨rfl, fun _ => trivial⟩
  | stopAdmission expectedRevision =>
    simp only [start] at h
    split at h
    · cases h
    · next hrevision =>
      obtain rfl := CutoverCall.at.inj h
      obtain rfl : state.rowRevision = expectedRevision := by simpa using hrevision
      exact ⟨rfl, fun _ => trivial⟩
  | retireLegacy expectedRevision =>
    simp only [start] at h
    split at h
    · cases h
    · next hrevision =>
      split at h
      · cases h
      · obtain rfl := CutoverCall.at.inj h
        obtain rfl : state.rowRevision = expectedRevision := by simpa using hrevision
        exact ⟨rfl, fun _ => trivial⟩

theorem CutoverSystem.callers_setCaller {call : CutoverCall} {c' : Nat} {phase : CutoverPhase}
    (h : (s.setCaller c call).callers c' = .at phase) : (c' = c ∧ call = .at phase) ∨ s.callers c' = .at phase := by
  by_cases hc : c' = c
  · subst hc
    exact .inl ⟨rfl, (Function.update_self ..).symm.trans h⟩
  · exact .inr ((Function.update_of_ne hc ..).symm.trans h)

theorem CutoverSystem.rows_putRow {row row' : WriterCutoverRow} {key' : String}
    (h : (s.putRow key row).rows key' = some row') : (key' = key ∧ row' = row) ∨ s.rows key' = some row' := by
  by_cases hkey : key' = key
  · subst hkey
    have hself : Function.update s.rows key' (some row) key' = some row' := h
    rw [Function.update_self] at hself
    exact .inl ⟨rfl, (Option.some.inj hself).symm⟩
  · exact .inr ((Function.update_of_ne hkey ..).symm.trans h)

theorem RowsMove.refl (s : CutoverSystem) : RowsMove s s := fun _ row hrow => ⟨row, hrow, .inl rfl⟩

theorem RowsMove.putRow {row' : WriterCutoverRow}
    (h : ∀ row, s.rows key = some row → row.rowRevision < row'.rowRevision) : RowsMove s (s.putRow key row') := by
  intro key' row hrow
  by_cases hkey : key' = key
  · subst hkey
    exact ⟨row', Function.update_self .., .inr (h row hrow)⟩
  · exact ⟨row, (Function.update_of_ne hkey ..).trans hrow, .inl rfl⟩

theorem CutoverWrite.revision {phase : CutoverPhase} {row row' : WriterCutoverRow}
    (h : CutoverWrite phase key row row') : row'.rowRevision = row.rowRevision + 1 := by
  cases h <;> rfl

theorem CutoverWrite.live {phase : CutoverPhase} {row row' : WriterCutoverRow} (h : CutoverWrite phase key row row')
    (hrow : s.rows key = some row) (hphase : row'.writerMode = .v2Only ∧ row.writerMode ≠ .v2Only ∨
      row'.retirements ≠ row.retirements) : phase.live s = true := by
  cases h with
  | shadow key row hlegacy =>
    rcases hphase with ⟨hmode, -⟩ | hne
    · cases hmode
    · exact absurd rfl hne
  | cutover key row hadmission => exact (Option.any_eq_true _ _).2 ⟨row, hrow, by simpa using hadmission⟩
  | stop key row hadmission =>
    rcases hphase with ⟨hmode, hne⟩ | hne
    · exact absurd hmode hne
    · exact absurd rfl hne
  | retire key row hv2 => exact (Option.any_eq_true _ _).2 ⟨row, hrow, by simpa using hv2⟩

theorem CutoverFenced.issue (h : CutoverFenced s) (c : Nat) (key : String) (command : CutoverCommand) :
    CutoverFenced (issue c key command s) := by
  unfold KnowledgeBase.issue
  split
  · exact h
  obtain ⟨row, hrow, hensure⟩ | ⟨hnone, hensure⟩ := ensureState_cases key s
  · rw [hensure]
    refine h.move (.refl s) (fun c' phase hcall => ?_) (fun _ phase _ _ hc => by cases phase <;> exact hc) h.writers
    obtain ⟨rfl, hstart⟩ | hold := CutoverSystem.callers_setCaller hcall
    · obtain ⟨hfence, hclear⟩ := CutoverCommand.start_at hstart
      refine .inr ⟨hclear _, fun key' revision hfence' => ?_⟩
      obtain ⟨rfl, rfl⟩ := Prod.mk.inj (Option.some.inj (hfence.symm.trans hfence'))
      exact ⟨row, hrow, Nat.le_refl _⟩
    · exact .inl hold
  · rw [hensure]
    refine h.move (RowsMove.putRow fun row hrow => ?_) (fun c' phase hcall => ?_)
      (fun _ phase _ _ hc => by cases phase <;> exact hc) fun key' row' hrow' hadmission => ?_
    · rw [hnone] at hrow
      cases hrow
    · obtain ⟨rfl, hstart⟩ | hold := CutoverSystem.callers_setCaller hcall
      · obtain ⟨hfence, hclear⟩ := CutoverCommand.start_at hstart
        refine .inr ⟨hclear _, fun key' revision hfence' => ?_⟩
        obtain ⟨rfl, rfl⟩ := Prod.mk.inj (Option.some.inj (hfence.symm.trans hfence'))
        exact ⟨{}, Function.update_self .., Nat.le_refl _⟩
      · exact .inl hold
    · obtain ⟨rfl, rfl⟩ | hold := CutoverSystem.rows_putRow hrow'
      · decide
      · exact h.writers key' row' hold hadmission

theorem CutoverFenced.advance (h : CutoverFenced s) (c : Nat) (hcovered : CutoverCovered s (.advance c)) :
    CutoverFenced (advance c s) := by
  have hstart := advance_cases s c
  generalize KnowledgeBase.advance c s = s' at hstart
  cases hstart with
  | @write phase key row row' state hcall hrow hwrite =>
    refine h.move (RowsMove.putRow fun q hq => ?_) (fun c' phase' hcall' => ?_)
      (fun _ phase _ _ hc => by cases phase <;> exact hc) fun key' q hq hadmission => ?_
    · obtain rfl := Option.some.inj (hq.symm.trans hrow)
      rw [hwrite.revision]
      exact Nat.lt_succ_self _
    · obtain ⟨-, hreturned⟩ | hold := CutoverSystem.callers_setCaller hcall'
      · cases hreturned
      · exact .inl hold
    · obtain ⟨rfl, rfl⟩ | hold := CutoverSystem.rows_putRow hq
      · cases hwrite with
        | shadow key row hlegacy =>
          have hstopped : row.admissionEnabled = false := hcovered key' row.rowRevision row hcall hrow rfl hlegacy
          rw [show row.admissionEnabled = true from hadmission] at hstopped
          cases hstopped
        | cutover key row _ => exact fun hmode => by cases hmode
        | stop key row _ => cases hadmission
        | retire key row hv2 => exact fun hmode => by cases hv2.symm.trans hmode
      · exact h.writers key' q hold hadmission
  | @cutover key state hcall hclear =>
    refine h.move (.refl s) (fun c' phase hcall' => ?_) (fun _ phase _ _ hc => by cases phase <;> exact hc) h.writers
    obtain ⟨rfl, hphase⟩ | hold := CutoverSystem.callers_setCaller hcall'
    · obtain rfl := CutoverCall.at.inj hphase
      exact .inr ⟨hclear, fun key' revision hfence => h.known c' _ key' revision hcall hfence⟩
    · exact .inl hold
  | @retire key expectedRevision hcall hclear =>
    refine h.move (.refl s) (fun c' phase hcall' => ?_) (fun _ phase _ _ hc => by cases phase <;> exact hc) h.writers
    obtain ⟨rfl, hphase⟩ | hold := CutoverSystem.callers_setCaller hcall'
    · obtain rfl := CutoverCall.at.inj hphase
      exact .inr ⟨hclear, fun key' revision hfence => h.known c' _ key' revision hcall hfence⟩
    · exact .inl hold
  | stop call hcall =>
    refine h.move (.refl s) (fun c' phase hcall' => ?_) (fun _ phase _ _ hc => by cases phase <;> exact hc) h.writers
    obtain ⟨-, hphase⟩ | hold := CutoverSystem.callers_setCaller hcall'
    · exact absurd hphase (hcall phase)
    · exact .inl hold
  | idle => exact h

theorem CutoverFenced.step (h : CutoverFenced s) (hcovered : CutoverCovered s event) :
    CutoverFenced (cutoverSystemStep s event) := by
  cases event with
  | issue c key command => exact h.issue c key command
  | advance c => exact h.advance c hcovered
  | startMigration migrationKey =>
    show CutoverFenced (startMigration migrationKey s)
    unfold startMigration
    split
    · exact h
    · exact h.move (.refl s) (fun _ _ hcall => .inl hcall) (fun _ phase _ _ hc => by cases phase <;> exact hc) h.writers
  | recordMismatch mismatch =>
    show CutoverFenced (recordShadowMismatch mismatch s)
    unfold recordShadowMismatch
    split
    · exact h
    · next hdigests =>
      split
      · exact h
      · next hmigration =>
        refine h.move (.refl s) (fun _ _ hcall => .inl hcall) (fun c phase hcall hlive _ => ?_) h.writers
        rw [hcovered (by simpa using hdigests) (by rw [hmigration]; rfl) c phase hcall] at hlive
        cases hlive
  | resolveMismatch mismatch resolutionCode =>
    show CutoverFenced (resolveShadowMismatch mismatch resolutionCode s)
    unfold resolveShadowMismatch
    split
    · exact h
    · refine h.move (.refl s) (fun _ _ hcall => .inl hcall) (fun c phase hcall hlive hc => ?_) h.writers
      generalize hs' : ({ s with mismatches := _ } : CutoverSystem) = s'
      have hfewer : s'.unresolved ≤ s.unresolved := by
        subst hs'
        show (Table.update s.mismatches _ _).count (fun _ m => m.resolution.isNone) ≤ _
        refine Table.count_update_le fun k m _ _ hm => ?_
        cases hm
      have hinventory : s'.inventory = s.inventory := by rw [← hs']
      exact CutoverPhase.Clear.mono hfewer hinventory hc
  | writeInventory inventory =>
    refine h.move (.refl s) (fun _ _ hcall => .inl hcall) (fun c phase hcall hlive hc => ?_) h.writers
    cases phase with
    | retireCommit key revision => exact hcovered c key revision hcall hlive
    | _ => exact hc

/-! ### the law -/

def WriterMode.rank : WriterMode → Nat
  | .legacy => 0
  | .dual => 1
  | .v2Only => 2

/-- What one step of the cutover is held to. -/
structure OneWayCutover (s s' : CutoverSystem) : Prop where
  forward : ∀ key row, s.rows key = some row → ∃ row', s'.rows key = some row' ∧
    row.writerMode.rank ≤ row'.writerMode.rank
  cutover : ∀ key row', s'.rows key = some row' → row'.writerMode = .v2Only →
    (∀ row, s.rows key = some row → row.writerMode ≠ .v2Only) → s.unresolved = 0
  retirement : ∀ key row', s'.rows key = some row' → row'.retirements ≠ 0 →
    (∀ row, s.rows key = some row → row'.retirements ≠ row.retirements) → s.blocked = false
  writer : ∀ key row', s'.rows key = some row' → row'.admissionEnabled = true →
    ∃ writer, assertWriterAllowed row' writer = .ok ()

theorem rows_step {row' : WriterCutoverRow} (h : (cutoverSystemStep s event).rows key = some row') :
    s.rows key = some row' ∨ s.rows key = none ∧ row' = {} ∨ ∃ c phase row, s.callers c = .at phase ∧
      s.rows key = some row ∧ CutoverWrite phase key row row' := by
  cases event with
  | issue c key' command =>
    replace h : (issue c key' command s).rows key = some row' := h
    unfold issue at h
    split at h
    · exact .inl h
    obtain ⟨row, hrow, hensure⟩ | ⟨hnone, hensure⟩ := ensureState_cases key' s
    · rw [hensure] at h
      exact .inl h
    · rw [hensure] at h
      obtain ⟨rfl, rfl⟩ | hold := CutoverSystem.rows_putRow h
      · exact .inr (.inl ⟨hnone, rfl⟩)
      · exact .inl hold
  | advance c =>
    replace h : (advance c s).rows key = some row' := h
    have hstart := advance_cases s c
    generalize advance c s = s' at hstart h
    cases hstart with
    | @write phase key' row q state hcall hrow hwrite =>
      obtain ⟨rfl, rfl⟩ | hold := CutoverSystem.rows_putRow h
      · exact .inr (.inr ⟨c, phase, row, hcall, hrow, hwrite⟩)
      · exact .inl hold
    | _ => exact .inl h
  | startMigration migrationKey =>
    replace h : (startMigration migrationKey s).rows key = some row' := h
    unfold startMigration at h
    split at h <;> exact .inl h
  | recordMismatch mismatch =>
    replace h : (recordShadowMismatch mismatch s).rows key = some row' := h
    unfold recordShadowMismatch at h
    split at h
    · exact .inl h
    · split at h <;> exact .inl h
  | resolveMismatch mismatch resolutionCode =>
    replace h : (resolveShadowMismatch mismatch resolutionCode s).rows key = some row' := h
    unfold resolveShadowMismatch at h
    split at h <;> exact .inl h
  | writeInventory inventory => exact .inl h

theorem rows_putRow_kept {row : WriterCutoverRow} (h : s.rows key = some row) (key' : String) (r : WriterCutoverRow) :
    ∃ row', (s.putRow key' r).rows key = some row' := by
  by_cases hkey : key = key'
  · subst hkey
    exact ⟨r, Function.update_self ..⟩
  · exact ⟨row, (Function.update_of_ne hkey ..).trans h⟩

theorem rows_kept {row : WriterCutoverRow} (h : s.rows key = some row) (event : CutoverEvent) :
    ∃ row', (cutoverSystemStep s event).rows key = some row' := by
  cases event with
  | issue c key' command =>
    show ∃ row', (issue c key' command s).rows key = some row'
    unfold issue
    split
    · exact ⟨row, h⟩
    obtain ⟨q, -, hensure⟩ | ⟨-, hensure⟩ := ensureState_cases key' s
    · rw [hensure]
      exact ⟨row, h⟩
    · rw [hensure]
      exact rows_putRow_kept h _ _
  | advance c =>
    show ∃ row', (advance c s).rows key = some row'
    have hstart := advance_cases s c
    generalize advance c s = s' at hstart
    cases hstart with
    | write => exact rows_putRow_kept h _ _
    | _ => exact ⟨row, h⟩
  | startMigration migrationKey =>
    show ∃ row', (startMigration migrationKey s).rows key = some row'
    unfold startMigration
    split <;> exact ⟨row, h⟩
  | recordMismatch mismatch =>
    show ∃ row', (recordShadowMismatch mismatch s).rows key = some row'
    unfold recordShadowMismatch
    split
    · exact ⟨row, h⟩
    · split <;> exact ⟨row, h⟩
  | resolveMismatch mismatch resolutionCode =>
    show ∃ row', (resolveShadowMismatch mismatch resolutionCode s).rows key = some row'
    unfold resolveShadowMismatch
    split <;> exact ⟨row, h⟩
  | writeInventory inventory => exact ⟨row, h⟩

theorem CutoverWrite.forward {phase : CutoverPhase} {row row' : WriterCutoverRow}
    (h : CutoverWrite phase key row row') : row.writerMode.rank ≤ row'.writerMode.rank := by
  cases h with
  | shadow key row hlegacy =>
    rw [hlegacy]
    exact Nat.zero_le _
  | cutover key row _ =>
    show row.writerMode.rank ≤ 2
    cases row.writerMode <;> decide
  | stop key row _ => exact Nat.le_refl _
  | retire key row _ => exact Nat.le_refl _

theorem assertWriterAllowed_of_ne_dual {row : WriterCutoverRow} (h : row.writerMode ≠ .dual) :
    ∃ writer, assertWriterAllowed row writer = .ok () := by
  cases hmode : row.writerMode with
  | legacy => exact ⟨"legacy", by simp [assertWriterAllowed, hmode]⟩
  | dual => exact absurd hmode h
  | v2Only => exact ⟨"v2", by simp [assertWriterAllowed, hmode]⟩

theorem oneWayCutover_step (h : CutoverFenced s) (hcovered : CutoverCovered s event) :
    OneWayCutover s (cutoverSystemStep s event) := by
  refine ⟨fun key row hrow => ?_, fun key row' hrow' hmode hbefore => ?_, fun key row' hrow' hne hbefore => ?_,
    fun key row' hrow' hadmission => ?_⟩
  · obtain ⟨row', hrow'⟩ := rows_kept hrow event
    refine ⟨row', hrow', ?_⟩
    obtain hold | ⟨hnone, -⟩ | ⟨c, phase, q, -, hq, hwrite⟩ := rows_step hrow'
    · rw [Option.some.inj (hrow.symm.trans hold)]
    · cases hnone.symm.trans hrow
    · obtain rfl := Option.some.inj (hq.symm.trans hrow)
      exact hwrite.forward
  · obtain hold | ⟨-, rfl⟩ | ⟨c, phase, row, hcall, hrow, hwrite⟩ := rows_step hrow'
    · exact absurd hmode (hbefore row' hold)
    · cases hmode
    · have hlive := hwrite.live hrow (.inl ⟨hmode, hbefore row hrow⟩)
      have hclear := h.clear c phase hcall hlive
      cases hwrite with
      | shadow key row hlegacy => cases hmode
      | cutover key row _ => exact hclear
      | stop key row _ => exact absurd hmode (hbefore row hrow)
      | retire key row _ => exact absurd hmode (hbefore row hrow)
  · obtain hold | ⟨-, rfl⟩ | ⟨c, phase, row, hcall, hrow, hwrite⟩ := rows_step hrow'
    · exact absurd rfl (hbefore row' hold)
    · exact absurd rfl hne
    · have hlive := hwrite.live hrow (.inr (hbefore row hrow))
      have hclear := h.clear c phase hcall hlive
      cases hwrite with
      | shadow key row hlegacy => exact absurd rfl (hbefore row hrow)
      | cutover key row _ => exact absurd rfl (hbefore row hrow)
      | stop key row _ => exact absurd rfl (hbefore row hrow)
      | retire key row _ => exact hclear
  · exact assertWriterAllowed_of_ne_dual ((h.step hcovered).writers key row' hrow' hadmission)

theorem cutoverFenced_empty : CutoverFenced {} where
  known c phase key revision h := by cases h
  clear c phase h := by cases h
  writers key row h := by cases h

/-- Every step of a run goes one way, if no step writes what a commit depends on while it can pass or begins a shadow
while admission is enabled. -/
theorem oneWayCutover (events : List CutoverEvent) (event : CutoverEvent)
    (hcovered : StepsMeet cutoverSystemStep CutoverCovered {} (events ++ [event])) :
    OneWayCutover (runFrom cutoverSystemStep {} events) (runFrom cutoverSystemStep {} (events ++ [event])) := by
  rw [runFrom_append]
  obtain ⟨hbefore, hlast, -⟩ := stepsMeet_append.1 hcovered
  exact oneWayCutover_step (runFrom_invariant (fun _ _ h hc => h.step hc) cutoverFenced_empty hbefore) hlast

/-- A cutover is checked and committed, and the legacy writer retired. -/
def sampleCutover : List CutoverEvent :=
  [.issue 0 "nhx1" (.cutover 0), .advance 0, .advance 0, .issue 0 "nhx1" (.retireLegacy 1), .advance 0]

/-- The retirement commits with nothing left. -/
theorem oneWayCutover_retire : OneWayCutover (runFrom cutoverSystemStep {} sampleCutover)
    (runFrom cutoverSystemStep {} (sampleCutover ++ [.advance 0])) := by
  refine oneWayCutover sampleCutover (.advance 0) ⟨trivial, ?_, ?_, trivial, ?_, ?_, trivial⟩
  all_goals
    intro key revision row hcall
    cases hcall

def sampleMismatch : ShadowMismatchRow := ⟨"cutover-check", "task", 1, 2, "projection_drift", none⟩

/-- A mismatch is recorded between the check of a cutover and its commit. -/
theorem oneWayCutover_not_fenced : ¬ ∀ (events : List CutoverEvent) (event : CutoverEvent),
    OneWayCutover (runFrom cutoverSystemStep {} events) (runFrom cutoverSystemStep {} (events ++ [event])) := by
  intro h
  have hstep := h [.startMigration "cutover-check", .issue 0 "nhx1" (.cutover 0), .advance 0,
    .recordMismatch sampleMismatch] (.advance 0)
  have hmode : ∃ row', (runFrom cutoverSystemStep {} ([.startMigration "cutover-check", .issue 0 "nhx1" (.cutover 0),
      .advance 0, .recordMismatch sampleMismatch] ++ [.advance 0])).rows "nhx1" = some row' ∧
      row'.writerMode = .v2Only := ⟨_, rfl, rfl⟩
  obtain ⟨row', hrow', hv2⟩ := hmode
  have hzero := hstep.cutover "nhx1" row' hrow' hv2 fun row hrow => by
    obtain rfl := Option.some.inj hrow
    decide
  exact absurd hzero (by decide)

end KnowledgeBase
