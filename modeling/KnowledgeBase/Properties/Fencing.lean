import KnowledgeBase.Invariant.Processes

/-!
# Fencing

Every write of a Process row moves it forward in a preorder: its fence never falls, under one fence it is leased no
more once it is not, and once it has ended its status and its evidence are frozen. The engine therefore hands out
every fence of a Process at most once and accepts at most one outcome under it: `fencing`.
-/

namespace KnowledgeBase

open Transaction Database EngineInvariant

/-! ### the preorder of Process rows -/

/-- A worker holds the Process. -/
def ProcessStatus.isLeased : ProcessStatus → Bool
  | .claimed | .running => true
  | _ => false

/-- What a later row of a Process has in common with an earlier one. -/
structure ProcessRow.Evolves (row row' : ProcessRow) : Prop where
  fence : row.fencingGeneration ≤ row'.fencingGeneration
  leased : row'.status.isLeased = true → row.fencingGeneration = row'.fencingGeneration → row.status.isLeased = true
  ended : row.status.isTerminal = true → row'.status = row.status ∧
    row'.acceptedOutcomeDigest = row.acceptedOutcomeDigest ∧ row'.outputManifest = row.outputManifest ∧
    row'.proof = row.proof

namespace ProcessRow

theorem Evolves.refl (row : ProcessRow) : row.Evolves row :=
  ⟨Nat.le_refl _, fun h _ => h, fun _ => ⟨rfl, rfl, rfl, rfl⟩⟩

theorem Evolves.trans {row row' row'' : ProcessRow} (h : row.Evolves row') (h' : row'.Evolves row'') :
    row.Evolves row'' where
  fence := Nat.le_trans h.fence h'.fence
  leased hl heq := by
    have heq' : row'.fencingGeneration = row''.fencingGeneration :=
      Nat.le_antisymm h'.fence (heq ▸ h.fence)
    exact h.leased (h'.leased hl heq') (heq.trans heq'.symm)
  ended ht := by
    obtain ⟨hs, hd, ho, hp⟩ := h.ended ht
    obtain ⟨hs', hd', ho', hp'⟩ := h'.ended (by rw [hs]; exact ht)
    exact ⟨hs'.trans hs, hd'.trans hd, ho'.trans ho, hp'.trans hp⟩

theorem Evolves.of_eq {row row' : ProcessRow} (hs : row'.status = row.status)
    (hf : row'.fencingGeneration = row.fencingGeneration)
    (hd : row'.acceptedOutcomeDigest = row.acceptedOutcomeDigest) (ho : row'.outputManifest = row.outputManifest)
    (hp : row'.proof = row.proof) : row.Evolves row' :=
  ⟨Nat.le_of_eq hf.symm, fun h _ => hs ▸ h, fun _ => ⟨hs, hd, ho, hp⟩⟩

theorem Evolves.of_fence {row row' : ProcessRow} (ht : row.status.isTerminal = false)
    (hf : row'.fencingGeneration = row.fencingGeneration + 1) : row.Evolves row' :=
  ⟨by omega, fun _ h => by omega, fun h => by simp [ht] at h⟩

theorem Evolves.of_live {row row' : ProcessRow} (ht : row.status.isTerminal = false)
    (hf : row'.fencingGeneration = row.fencingGeneration)
    (hl : row'.status.isLeased = true → row.status.isLeased = true) : row.Evolves row' :=
  ⟨Nat.le_of_eq hf.symm, fun h _ => hl h, fun h => by simp [ht] at h⟩

end ProcessRow

theorem ProcessWrite.evolves {row row' : ProcessRow} (h : ProcessWrite row row') : row.Evolves row' := by
  cases h with
  | fence ha _ => exact .of_fence (by simpa [ProcessStatus.isActive_eq_not_isTerminal] using ha) rfl
  | cancel now h => exact .of_live (by rw [h]; rfl) rfl (by simp [ProcessStatus.isLeased])
  | fail now _ _ _ h => exact .of_live h rfl (by simp [ProcessStatus.isLeased])
  | start now h => exact .of_live (by rw [h]; rfl) rfl fun _ => by rw [h]; rfl
  | beat now _ h => exact .of_live (by rw [h]; rfl) rfl id
  | succeed now _ _ _ h => exact .of_live (by rw [h]; rfl) rfl fun _ => by rw [h]; rfl
  | await due _ _ h => exact .of_live (by rw [h]; rfl) rfl fun _ => by rw [h]; rfl
  | promote now h => exact .of_live (by rw [h]; rfl) rfl (by simp [ProcessStatus.isLeased])
  | replay now h => exact .of_fence (by rcases h with h | h <;> rw [h] <;> rfl) rfl
  | cleanup now h => exact .of_eq rfl rfl rfl rfl rfl

/-! ### the preorder of tables -/

/-- Every row of the first table has a later row in the second. -/
def Evolution (t t' : Table ProcessRow) : Prop :=
  ∀ p row, t.get? p = some row → ∃ row', t'.get? p = some row' ∧ row.Evolves row'

theorem Evolution.refl (t : Table ProcessRow) : Evolution t t := fun _ row h => ⟨row, h, .refl row⟩

theorem Evolution.update {t t' : Table ProcessRow} {c : ProcessId → ProcessRow → Bool}
    {f : ProcessId → ProcessRow → ProcessRow} (h : Evolution t t')
    (hf : ∀ p row, t'.get? p = some row → c p row = true → row.Evolves (f p row)) :
    Evolution t (t'.update c f) := by
  intro p row hrow
  obtain ⟨row', hrow', he⟩ := h p row hrow
  refine ⟨if c p row' then f p row' else row', by simp [Table.get?_update, hrow'], ?_⟩
  split
  · next hc => exact he.trans (hf p row' hrow' hc)
  · exact he

theorem Evolution.insert {t t' : Table ProcessRow} (h : Evolution t t') (r : ProcessRow) : Evolution t (t'.insert r) := by
  intro p row hrow
  obtain ⟨row', hrow', he⟩ := h p row hrow
  exact ⟨row', by rw [Table.get?_insert_of_lt (Table.lt_next hrow')]; exact hrow', he⟩

/-- A conditional write of one row moves the table forward if it moves the row forward. -/
theorem Evolution.casProcess {t : Table ProcessRow} {p : ProcessId} {c : ProcessRow → Bool}
    {f : ProcessRow → ProcessRow} (hf : ∀ row, c row = true → row.Evolves (f row)) :
    Triple (fun s => Evolution t s.processes) (casProcess p c f) fun _ s => Evolution t s.processes := by
  refine Triple.casProcess (fun _ h _ => h) fun s row h hrow hc => Evolution.update h fun q r hr hq => ?_
  obtain rfl : q = p := by simpa using hq
  rw [hrow] at hr
  obtain rfl := Option.some.inj hr
  exact hf row hc

/-- The tables a table can become. -/
def evolution (d : Deployment) (t : Table ProcessRow) : ProcessInvariant d where
  Holds := Evolution t
  Restart _ _ := True
  insert h _ := h.insert _
  update h hw := h.update fun p row hrow hc => (hw p row hrow hc).evolves
  admitWaiting now := by
    refine Triple.admitWaitingProcessesTx (fun s h => h.update fun p row _ _ => ?_) fun p pool =>
      Evolution.casProcess fun row _ => .of_eq rfl rfl rfl rfl rfl
    exact .of_eq rfl rfl rfl rfl rfl
  claimCandidate now request c := by
    refine Triple.bind (Triple.pre (Evolution.casProcess fun row hc => .of_fence ?_ rfl) fun s h => h.1) fun updated =>
      Triple.ite (fun _ => ?_) fun _ => Triple.keep
    · simp only [Bool.and_eq_true, beq_iff_eq] at hc
      rw [hc.1.1]
      rfl
    · exact ((keeps_processWithExecution _).triple (Evolution t)).bind fun _ => Triple.ofExcept_frame.bind fun _ =>
        Triple.keep
  restart p fence := by
    refine (Evolution.casProcess fun row hc => .of_fence ?_ rfl).pre fun s h => h.1
    simp only [Bool.and_eq_true, Bool.or_eq_true, beq_iff_eq] at hc
    rcases hc.2 with (h | h) | h <;> rw [h] <;> rfl

/-! ### runs -/

section runs

variable {d : Deployment}

theorem ProcessInvariant.admits (I : ProcessInvariant d) (hrestart : ∀ p s, I.Restart p s) (s : Database)
    (operation : Operation) : I.toEngine.Admits s operation where
  wake _ _ := trivial
  consume _ _ := trivial
  stop _ _ _ _ _ := trivial
  dead _ _ := trivial
  restart p _ := hrestart p s

theorem evolution_systemStep {s : Database} (hs : s.Shaped none) (event : Event) :
    (systemStep d s event).Shaped none ∧ Evolution s.processes (systemStep d s event).processes :=
  sound_systemStep (I := (evolution d s.processes).toEngine) ⟨hs, .refl _⟩
    ((evolution d s.processes).admits (fun _ _ => trivial) _ _)

theorem shaped_run {s : Database} (hs : s.Shaped none) (events : List Event) :
    (runFrom (systemStep d) s events).Shaped none :=
  runFrom_invariant (I := fun s => s.Shaped none) (C := fun _ _ => True)
    (fun _ event hs _ => (evolution_systemStep hs event).1) hs (stepsMeet_true s events)

theorem evolution_run {s : Database} (hs : s.Shaped none) (events : List Event) :
    Evolution s.processes (runFrom (systemStep d) s events).processes :=
  (sound_run (I := (evolution d s.processes).toEngine) ⟨hs, .refl _⟩ ((stepsMeet_true s events).mono fun _ _ _ =>
    (evolution d s.processes).admits (fun _ _ => trivial) _ _)).2

/-! ### claims -/

/-- A fence of a Process has been reached. -/
def Reached (p : ProcessId) (fence : Nat) (s : Database) : Prop :=
  ∃ row, s.processes.get? p = some row ∧ fence ≤ row.fencingGeneration

theorem Reached.evolve {p : ProcessId} {fence : Nat} {s t : Database} (h : Reached p fence s)
    (he : Evolution s.processes t.processes) : Reached p fence t := by
  obtain ⟨row, hrow, hf⟩ := h
  obtain ⟨row', hrow', hev⟩ := he p row hrow
  exact ⟨row', hrow', Nat.le_trans hf hev.fence⟩

theorem commandFromProcess_ok {p : ProcessRecord} {row : ExecutionRow} {task : TaskRow} {token : Nat}
    {expires : Time} {claimed : ClaimedProcess} (h : commandFromProcess p row task token expires = .ok claimed) :
    claimed.process = p.1 ∧ claimed.fencingGeneration = p.2.fencingGeneration := by
  unfold commandFromProcess at h
  dsimp only at h
  split at h
  · cases h
  split at h
  · cases h
  · cases h
    exact ⟨rfl, rfl⟩

/-- What a claim returns carries the fence of its Process, which no earlier row has reached. -/
theorem claimCandidateTx_fresh {t : Table ProcessRow} (now : Time) (request : ClaimRequest) (c : ProcessRecord) :
    Triple (fun s => Evolution t s.processes) (claimCandidateTx now request c) fun r s => ∀ claimed, r = some claimed →
      Reached claimed.process claimed.fencingGeneration s ∧
        ∀ row, t.get? claimed.process = some row → row.fencingGeneration < claimed.fencingGeneration := by
  refine (Triple.casProcess (Q := fun updated s => updated = true → ∀ row, s.processes.get? c.1 = some row →
    ∀ old, t.get? c.1 = some old → old.fencingGeneration < row.fencingGeneration) (fun s _ _ => by simp)
    fun s row h hrow _ _ row' hrow' old hold => ?_).bind fun updated => ?_
  · rw [get?_updateProcess_self hrow] at hrow'
    obtain rfl := Option.some.inj hrow'
    obtain ⟨q, hq, hev⟩ := h c.1 old hold
    rw [hrow] at hq
    obtain rfl := Option.some.inj hq
    exact Nat.lt_succ_of_le hev.fence
  · refine Triple.ite (fun hu => ?_) fun _ => Triple.pure fun _ _ => by simp
    refine (Triple.processWithExecution (Q := fun r s => s.processes.get? c.1 = some r.1 ∧ ∀ old, t.get? c.1 = some old →
      old.fencingGeneration < r.1.fencingGeneration) fun s process row task h hp _ _ =>
        ⟨hp, h hu process hp⟩).bind fun r => ?_
    refine (Triple.ofExcept (Q := fun claimed s => (claimed.process = c.1 ∧ claimed.fencingGeneration =
      r.1.fencingGeneration) ∧ s.processes.get? c.1 = some r.1 ∧ ∀ old, t.get? c.1 = some old →
        old.fencingGeneration < r.1.fencingGeneration) fun s claimed h hc => ⟨commandFromProcess_ok hc, h⟩).bind
          fun claimed => Triple.pure fun s h claimed' hclaimed => ?_
    obtain rfl := Option.some.inj hclaimed
    obtain ⟨⟨hp, hf⟩, hrow, hold⟩ := h
    rw [hp, hf]
    exact ⟨⟨r.1, hrow, Nat.le_refl _⟩, hold⟩

/-- The Process and the fence of the claim an event returns. -/
def Event.claim? (d : Deployment) (s : Database) (event : Event) : Option (ProcessId × Nat) :=
  match event.operation with
  | .claimNext request => (claimNextResult d event.now request s).map fun c => (c.process, c.fencingGeneration)
  | _ => none

theorem claim?_fresh {s : Database} (hs : s.Shaped none) {event : Event} {p : ProcessId} {fence : Nat}
    (h : event.claim? d s = some (p, fence)) : ¬ Reached p fence s ∧ Reached p fence (systemStep d s event) := by
  obtain ⟨now, operation⟩ := event
  cases operation with
  | claimNext request =>
    obtain ⟨claimed, hclaimed, hp⟩ := Option.map_eq_some_iff.1 h
    obtain ⟨rfl, rfl⟩ := Prod.mk.inj hp
    let I := (evolution d s.processes).toEngine
    have h₁ : I.Sound [] ((promoteDueRetriesTx now 64).commit s) :=
      (sound_promoteDueRetriesTx I now 64).commit ⟨hs, .refl _⟩
    obtain ⟨r, hr, rfl⟩ := Option.bind_eq_some_iff.1 hclaimed
    obtain ⟨hreached, hfresh⟩ := (sound_claimNextTx_result I now fun c =>
      (claimCandidateTx_fresh (t := s.processes) now request c).pre fun s h => h.1.2) _ _ _ h₁
        (run_of_result? hr) |>.2 claimed rfl
    refine ⟨fun ⟨row, hrow, hle⟩ => ?_, hreached⟩
    exact absurd (hfresh row hrow) (by omega)
  | _ => simp [Event.claim?] at h

/-! ### accepted outcomes -/

/-- A fence of a Process has been reached, and no worker holds the Process under it. -/
def Released (p : ProcessId) (fence : Nat) (s : Database) : Prop :=
  ∃ row, s.processes.get? p = some row ∧ fence ≤ row.fencingGeneration ∧
    (row.fencingGeneration = fence → row.status.isLeased = false)

theorem Released.evolve {p : ProcessId} {fence : Nat} {s t : Database} (h : Released p fence s)
    (he : Evolution s.processes t.processes) : Released p fence t := by
  obtain ⟨row, hrow, hf, hl⟩ := h
  obtain ⟨row', hrow', hev⟩ := he p row hrow
  refine ⟨row', hrow', Nat.le_trans hf hev.fence, fun heq => ?_⟩
  have hsame : row.fencingGeneration = fence := Nat.le_antisymm (heq ▸ hev.fence) hf
  by_contra hleased
  have := hev.leased (by simpa using hleased) (hsame.trans heq.symm)
  rw [hl hsame] at this
  cases this

theorem Released.of_write {p : ProcessId} {fence : Nat} {s : Database} {row : ProcessRow}
    {f : ProcessRow → ProcessRow} (hrow : s.processes.get? p = some row) (hfence : row.fencingGeneration = fence)
    (hf : (f row).fencingGeneration = row.fencingGeneration) (hs : (f row).status.isLeased = false) :
    Released p fence (s.updateProcess p f) :=
  ⟨f row, get?_updateProcess_self hrow, by rw [hf, hfence], fun _ => hs⟩

section accept

variable (I : EngineInvariant d) (now : Time) {e : ExecutionId} {row : ExecutionRow} {p : ProcessRecord}

theorem released_routeAfterTerminalProcessTx {fence : Nat} {q : ProcessId} (selector : WorkflowOutcomeSelector)
    (extra : OutcomeExtra) (terminalError : Option String) :
    Triple (fun s => s.Shaped none ∧ (s.identityOf e = some row.identity ∧ s.Recalls e row) ∧ Released q fence s)
      (routeAfterTerminalProcessTx d now e row p selector extra terminalError) fun _ s => Released q fence s := by
  refine Triple.start fun s₀ h₀ => ?_
  refine ((sound_routeAfterTerminalProcessTx (evolution d s₀.processes).toEngine now (l := []) e row p selector extra
    terminalError).pre fun s h => ?_).post fun _ s h => h₀.2.2.evolve h.2
  subst h
  exact ⟨h₀.1, h₀.2.1.1, h₀.2.1.2, fun _ _ _ _ => .refl _⟩

theorem released_failAndRouteTx (hrunning : p.2.status = .running) (errorCode failureDisposition : String)
    (acceptedOutcome : Option OutcomeContent) (extra : OutcomeExtra) :
    Triple (AcceptingAs I p e row) (failAndRouteTx d now e row p errorCode failureDisposition acceptedOutcome extra)
      fun _ s => Released p.1 p.2.fencingGeneration s := by
  refine Triple.bind (Q := fun _ s => s.Shaped none ∧ (s.identityOf e = some row.identity ∧ s.Recalls e row) ∧
    Released p.1 p.2.fencingGeneration s) ?_ fun _ => released_routeAfterTerminalProcessTx now _ _ _
  intro s a t h ht
  have keep := ProcessFrame.shape.failProcessTx now p errorCode failureDisposition acceptedOutcome s a t ht
  have bonds := ProcessFrame.bonds.failProcessTx now p errorCode failureDisposition acceptedOutcome s a t ht
  refine ⟨h.1.1.of_shape keep, ⟨by rw [identityOf_eq keep]; exact identityOf_of_get? h.2.2,
    (Recalls.of_get? h.2.2).follows (.of_bonds bonds)⟩, ?_⟩
  have write : Triple (fun s => s.processes.get? p.1 = some p.2)
      (failProcessTx now p errorCode failureDisposition acceptedOutcome)
      fun _ s => Released p.1 p.2.fencingGeneration s := by
    refine (Triple.casProcess (Q := fun updated s => updated = true ∧ Released p.1 p.2.fencingGeneration s)
      (fun s hp miss => ?_) fun s q hp hq _ => ?_).bind fun updated => Triple.intro fun hu => ?_
    · have := miss p.2 hp
      simp [hrunning, ProcessStatus.isTerminal] at this
    · rw [hp] at hq
      obtain rfl := Option.some.inj hq
      exact ⟨rfl, .of_write hp rfl rfl rfl⟩
    · subst hu
      exact Triple.keep
  exact write s a t h.2.1 ht

theorem released_acceptSuccessTx (he : p.2.execution = e) (hrunning : p.2.status = .running)
    (ht : row.status.isTerminal = false) (hc : row.status ≠ .cancelling) (outcome : ProcessOutcome) (task : TaskRow)
    (commit : Option OutcomeCommit) (hfence : p.2.fencingGeneration = outcome.fencingGeneration) :
    Triple (AcceptingAs I p e row) (acceptSuccessTx d now e row p outcome task commit)
      fun _ s => Released p.1 outcome.fencingGeneration s := by
  refine Triple.ite (fun _ => hfence ▸ released_failAndRouteTx I now hrunning _ _ _ _) fun _ => ?_
  have finish : Triple (Committing I p.1 e row) (succeedAndRouteTx d now e row p outcome)
      fun _ s => Released p.1 outcome.fencingGeneration s := by
    refine Triple.bind (Q := fun _ s => s.Shaped none ∧ (s.identityOf e = some row.identity ∧ s.Recalls e row) ∧
      Released p.1 outcome.fencingGeneration s) ?_ fun _ =>
        (Triple.processWithExecution fun s _ _ _ h _ _ _ => h).bind fun r => released_routeAfterTerminalProcessTx now _ _ _
    intro s a t h hx
    have keep := ProcessFrame.shape.succeedProcessTx now p.1 outcome s a t hx
    refine ⟨h.1.1.of_shape keep, ⟨by rw [identityOf_eq keep]; exact OpenAs.identity h.2.1.2,
      h.2.2.follows (.of_bonds (ProcessFrame.bonds.succeedProcessTx now p.1 outcome s a t hx))⟩, ?_⟩
    have write : Triple (fun _ => True) (succeedProcessTx now p.1 outcome)
        fun _ s => Released p.1 outcome.fencingGeneration s := by
      refine (Triple.casProcess (Q := fun updated s => updated = true → Released p.1 outcome.fencingGeneration s)
        (fun _ _ _ => by simp) fun s q _ hq hc _ => ?_).bind fun updated =>
          Triple.raiseIf fun s h hu => h (by simpa using hu)
      exact .of_write hq (isRunningAt_iff.1 hc).2 rfl rfl
    exact write s a t trivial hx
  refine Triple.pre (P := Committing I p.1 e row) ?_ fun s h => AcceptingAs.committing I he hrunning ht hc h
  split
  · exact finish
  · exact Triple.ofExcept_frame.bind fun _ => (committing_validateAndCommitTx I now _).bind fun _ => finish

theorem released_acceptRetryableTx (hrunning : p.2.status = .running) (outcome : ProcessOutcome) (jitter : Nat)
    (hfence : p.2.fencingGeneration = outcome.fencingGeneration) :
    Triple (AcceptingAs I p e row) (acceptRetryableTx d now e row p outcome jitter)
      fun _ s => Released p.1 outcome.fencingGeneration s := by
  refine Triple.guard <| Triple.ite (fun _ => ?_) fun _ =>
    hfence ▸ released_failAndRouteTx I now hrunning _ _ _ _
  have keep {α : Type} {x : Tx α} (hx : Keeps Database.processes x) :
      Triple (Released p.1 outcome.fencingGeneration) x fun _ => Released p.1 outcome.fencingGeneration :=
    fun s a t h ht => h.evolve (hx s a t ht ▸ .refl _)
  refine Triple.bind (Q := fun _ => Released p.1 outcome.fencingGeneration) ?_ fun _ =>
    (keep ((ExecutionFrame.processes.casExecution (fun _ => by rfl) _ _).bind fun _ => Keeps.pure _)).bind fun _ =>
      keep (ExecutionFrame.processes.of_core (keeps_core_enqueueTx _ _ _ _))
  refine (Triple.casProcess (Q := fun updated s => updated = true → Released p.1 outcome.fencingGeneration s)
    (fun _ _ _ => by simp) fun s q _ hq hc _ => ?_).bind fun updated => Triple.raiseIf fun s h hu => h (by simpa using hu)
  exact .of_write hq (isRunningAt_iff.1 hc).2 rfl rfl

end accept

theorem acceptOutcomeTx_releases (now : Time) (outcome : ProcessOutcome) (commit : Option OutcomeCommit)
    (jitter : Nat) {s₀ : Database} (hs : s₀.Shaped none) :
    Triple (fun s => s = s₀) (acceptOutcomeTx d now outcome commit jitter) fun accepted s => accepted = true →
      (∃ row, s₀.processes.get? outcome.process = some row ∧ row.status.isLeased = true ∧
        row.fencingGeneration = outcome.fencingGeneration) ∧ Released outcome.process outcome.fencingGeneration s := by
  let I := (evolution d s₀.processes).toEngine
  refine Triple.guard <| ?_
  refine (Triple.processWithExecution (Q := fun r s => s₀.processes.get? outcome.process = some r.1 ∧
    AcceptingAs I (outcome.process, r.1) r.1.execution r.2.1 s) fun s process row task h hp he _ => ?_).bind fun r => ?_
  · subst h
    exact ⟨hp, ⟨hs, .refl _⟩, hp, he⟩
  obtain ⟨process, row, task⟩ := r
  refine Triple.intro fun hp => ?_
  refine (Triple.ofExcept (Q := fun _ s => process.fencingGeneration = outcome.fencingGeneration ∧
    AcceptingAs I (outcome.process, process) process.execution row s) fun s _ h hid => ⟨?_, h⟩).bind fun _ =>
      Triple.intro fun hfence => ?_
  · unfold assertOutcomeIdentity at hid
    split at hid
    · cases hid
    split at hid
    · cases hid
    · next hne => simpa using hne
  refine Triple.ite (fun _ => Triple.guard <| Triple.pure fun s _ => by simp) fun _ => ?_
  refine (Triple.raiseIf (Q := fun _ s => process.status = .running ∧
    AcceptingAs I (outcome.process, process) process.execution row s) fun s h hc => ⟨by simpa using hc, h⟩).bind
      fun _ => Triple.intro fun hrunning => ?_
  refine (Triple.raiseIf (Q := fun _ s => row.status.isTerminal = false ∧
    AcceptingAs I (outcome.process, process) process.execution row s) fun s h hc => ⟨hc, h⟩).bind
      fun _ => Triple.intro fun ht => ?_
  refine (Triple.raiseIf (Q := fun _ s => row.status ≠ .cancelling ∧
    AcceptingAs I (outcome.process, process) process.execution row s) fun s h hc => ⟨by simpa using hc, h⟩).bind
      fun _ => Triple.intro fun hc => ?_
  have refresh : Triple (Released outcome.process outcome.fencingGeneration)
      (do refreshExecutionCountsTx process.execution; pure true) fun accepted s => accepted = true →
        (∃ row, s₀.processes.get? outcome.process = some row ∧ row.status.isLeased = true ∧
          row.fencingGeneration = outcome.fencingGeneration) ∧
            Released outcome.process outcome.fencingGeneration s := by
    refine Triple.bind (Q := fun _ => Released outcome.process outcome.fencingGeneration) (fun s a t h ht => ?_)
      fun _ => Triple.pure fun s h _ => ⟨⟨process, hp, by rw [hrunning]; rfl, hfence⟩, h⟩
    exact h.evolve (ExecutionFrame.processes.refreshExecutionCountsTx _ s a t ht ▸ .refl _)
  split
  · exact (released_acceptSuccessTx I now rfl hrunning ht hc outcome task commit hfence).bind fun _ => refresh
  · exact (released_acceptRetryableTx I now hrunning outcome jitter hfence).bind fun _ => refresh
  · refine Triple.bind (Triple.guard <| ?_) fun _ => refresh
    exact hfence ▸ released_failAndRouteTx I now hrunning _ _ _ _
  · exact Triple.throw.bind fun _ => refresh

/-- The Process and the fence of the outcome an event accepts. -/
def Event.accept? (d : Deployment) (s : Database) (event : Event) : Option (ProcessId × Nat) :=
  match event.operation with
  | .acceptOutcome outcome commit jitter =>
    if (acceptOutcomeTx d event.now outcome commit jitter).result? s = some true then
      some (outcome.process, outcome.fencingGeneration)
    else none
  | _ => none

theorem accept?_releases {s : Database} (hs : s.Shaped none) {event : Event} {p : ProcessId} {fence : Nat}
    (h : event.accept? d s = some (p, fence)) : ¬ Released p fence s ∧ Released p fence (systemStep d s event) := by
  obtain ⟨now, operation⟩ := event
  cases operation with
  | acceptOutcome outcome commit jitter =>
    unfold Event.accept? at h
    dsimp only at h
    split at h
    · next hr =>
      obtain ⟨rfl, rfl⟩ := Prod.mk.inj (Option.some.inj h)
      obtain ⟨⟨row, hrow, hleased, hfence⟩, hreleased⟩ :=
        acceptOutcomeTx_releases now outcome commit jitter hs s true _ rfl (run_of_result? hr) rfl
      refine ⟨fun ⟨q, hq, _, hl⟩ => ?_, hreleased⟩
      rw [hrow] at hq
      obtain rfl := Option.some.inj hq
      rw [hl hfence] at hleased
      cases hleased
    · cases h
  | _ => simp [Event.accept?] at h

/-! ### ended Processes -/

theorem acceptOutcome_of_ended {s : Database} {row : ProcessRow} (now : Time) {outcome : ProcessOutcome}
    (commit : Option OutcomeCommit) (jitter : Nat) (hrow : s.processes.get? outcome.process = some row)
    (ht : row.status.isTerminal = true) : systemStep d s ⟨now, .acceptOutcome outcome commit jitter⟩ = s := by
  refine Triple.commit (P := fun t => t = s) (Triple.guard <| ?_) rfl
  refine (Triple.processWithExecution (Q := fun r t => r.1 = row ∧ t = s) fun t process _ _ h hp _ _ => ?_).bind
    fun r => Triple.intro fun hr => ?_
  · subst h
    exact ⟨Option.some.inj (hp.symm.trans hrow), rfl⟩
  refine Triple.ofExcept_frame.bind fun _ => Triple.ite (fun _ => Triple.guard <|
    Triple.keep) fun hne => ?_
  rw [hr] at hne
  exact absurd ht hne

end runs

/-! ### the law -/

/-- No fence of a Process is claimed twice, no fence of a Process accepts two outcomes, and a Process that has ended
stays as it ended, whatever outcomes are submitted for it. -/
theorem fencing (d : Deployment) (events : List Event) :
    (observed (systemStep d) (Event.claim? d) .empty events).Nodup ∧
    (observed (systemStep d) (Event.accept? d) .empty events).Nodup ∧
    ∀ before after, before ++ after = events → ∀ p row,
      (runFrom (systemStep d) .empty before).processes.get? p = some row → row.status.isTerminal = true →
      (∃ row', (runFrom (systemStep d) .empty events).processes.get? p = some row' ∧ row'.status = row.status ∧
        row'.acceptedOutcomeDigest = row.acceptedOutcomeDigest ∧ row'.outputManifest = row.outputManifest ∧
        row'.proof = row.proof) ∧
      ∀ now (outcome : ProcessOutcome) commit jitter, outcome.process = p →
        systemStep d (runFrom (systemStep d) .empty events) ⟨now, .acceptOutcome outcome commit jitter⟩ =
          runFrom (systemStep d) .empty events := by
  have hempty : (Database.empty).Shaped none := ⟨.empty, by simp⟩
  refine ⟨?_, ?_, ?_⟩
  · refine nodup_observed (I := fun s => s.Shaped none) (S := fun a s => Reached a.1 a.2 s) ?_ ?_ ?_ hempty events
    · exact fun s o hs => (evolution_systemStep hs o).1
    · exact fun a s o hs h => h.evolve (evolution_systemStep hs o).2
    · exact fun a s o hs h => claim?_fresh hs h
  · refine nodup_observed (I := fun s => s.Shaped none) (S := fun a s => Released a.1 a.2 s) ?_ ?_ ?_ hempty events
    · exact fun s o hs => (evolution_systemStep hs o).1
    · exact fun a s o hs h => h.evolve (evolution_systemStep hs o).2
    · exact fun a s o hs h => accept?_releases hs h
  · rintro before after rfl p row hrow ht
    have hbefore : (runFrom (systemStep d) .empty before).Shaped none := shaped_run hempty before
    rw [runFrom_append]
    obtain ⟨row', hrow', hev⟩ := evolution_run (d := d) hbefore after p row hrow
    obtain ⟨hs, hd, ho, hp⟩ := hev.ended ht
    refine ⟨⟨row', hrow', hs, hd, ho, hp⟩, fun now outcome commit jitter hout => ?_⟩
    subst hout
    exact acceptOutcome_of_ended now commit jitter hrow' (by rw [hs]; exact ht)

end KnowledgeBase
