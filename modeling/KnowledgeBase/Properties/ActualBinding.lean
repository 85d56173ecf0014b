import KnowledgeBase.Invariant.Bindings

/-!
# Sealed once, and before clean work

`actualBinding`: along every run of the engine an actual binding is written at most once, from unsealed to sealed; a
Process behind the clean boundary exists only under a sealed Execution, unless the intent of its Task skips the seal;
and it is claimed with exactly the seal of its Execution.
-/

namespace KnowledgeBase

open Transaction Database EngineInvariant

section runs

variable {d : Deployment}

/-! ### runs -/

theorem admits_bindings (s₀ s : Database) (operation : Operation) : (bindings d s₀).Admits s operation where
  wake _ _ := trivial
  consume _ _ := trivial
  stop _ _ _ _ _ := trivial
  dead _ _ := trivial
  restart _ _ := trivial

theorem sound_bindings_empty : (bindings d .empty).Sound [] .empty :=
  ⟨⟨.empty, by simp⟩, .refl _, fun e b h => by simp [bondOf, Database.empty] at h,
    fun p place h => by simp [placeOf, Database.empty] at h⟩

theorem sound_bindings_run {s₀ s : Database} (hs : (bindings d s₀).Sound [] s) (events : List Event) :
    (bindings d s₀).Sound [] (runFrom (systemStep d) s events) :=
  sound_run hs ((stepsMeet_true s events).mono fun s event _ => admits_bindings s₀ s event.operation)

theorem Sound.restart {s₀ s : Database} (hs : (bindings d s₀).Sound [] s) : (bindings d s).Sound [] s :=
  ⟨hs.1, .refl s, hs.2.intact, hs.2.covered⟩

/-! ### rows -/

theorem ActualBond.Advances.rows {row row' : ExecutionRow} (h : row.bond.Advances row'.bond) :
    (row'.bindingState = row.bindingState ∧ row'.binding = row.binding) ∨
      (row.bindingState = .unsealed ∧ row.binding = none ∧ row'.bindingState = .sealed ∧ row'.binding.isSome = true) := by
  rcases h with h | ⟨hu, binding, hs⟩
  · exact Or.inl (Prod.mk.inj h)
  · obtain ⟨hstate, hnone⟩ := Prod.mk.inj hu
    obtain ⟨hstate', hsome⟩ := Prod.mk.inj hs
    exact Or.inr ⟨hstate, hnone, hstate', by rw [hsome]; rfl⟩

theorem Covered.rows {s₀ s : Database} (hs : s₀.BindingsSince s) {p : ProcessId} {process : ProcessRow}
    (hp : s.processes.get? p = some process) (hreq : requiresActualBinding process.processKey = true) :
    ∃ row task, s.executions.get? process.execution = some row ∧ s.tasks.get? row.task = some task ∧
      (task.requestIntent.skipsActualBinding = false → row.bindingState = .sealed ∧ row.binding.isSome = true) := by
  obtain ⟨i, h, b, hi, hh, hb, hc⟩ := hs.covered p process.place (by simp [placeOf, hp]) hreq
  obtain ⟨row, hrow, rfl⟩ := identityOf_eq_some.1 hi
  obtain ⟨task, htask, rfl⟩ := Option.map_eq_some_iff.1 hh
  refine ⟨row, task, hrow, htask, fun hskip => ?_⟩
  have hbond : s.bondOf process.execution = some row.bond := bondOf_of_get? hrow
  rw [show process.place.1 = process.execution from rfl, hbond] at hb
  obtain rfl := Option.some.inj hb
  have hsealed : row.bindingState = .sealed := by
    rcases hc with h | h
    · rw [show task.head.requestIntent = task.requestIntent from rfl, hskip] at h
      cases h
    · exact h
  rcases hs.intact _ _ hbond with h | ⟨binding, h⟩
  · rw [(Prod.mk.inj h).1] at hsealed
    cases hsealed
  · exact ⟨hsealed, by rw [(Prod.mk.inj h).2]; rfl⟩

/-! ### claims -/

/-- A claim of a Process behind the clean boundary carries the seal of its Execution. -/
def ClaimedUnderSeal (claimed : ClaimedProcess) (s : Database) : Prop :=
  ∃ process row task, s.processes.get? claimed.process = some process ∧ process.processKey = claimed.processKey ∧
    process.execution = claimed.execution ∧ s.executions.get? claimed.execution = some row ∧
    s.tasks.get? row.task = some task ∧ (task.requestIntent.skipsActualBinding = false →
      row.bindingState = .sealed ∧ row.binding.isSome = true ∧ claimed.bindingState = .sealed ∧
        claimed.binding = row.binding)

theorem commandFromProcess_seal {p : ProcessRecord} {row : ExecutionRow} {task : TaskRow} {token : Nat}
    {expires : Time} {claimed : ClaimedProcess} (h : commandFromProcess p row task token expires = .ok claimed) :
    claimed.process = p.1 ∧ claimed.execution = p.2.execution ∧ claimed.processKey = p.2.processKey ∧
      claimed.bindingState = row.bindingState ∧ (row.bindingState = .sealed → claimed.binding = row.binding) := by
  unfold commandFromProcess at h
  dsimp only at h
  split at h
  · cases h
  split at h
  · cases h
  · cases h
    exact ⟨rfl, rfl, rfl, rfl, fun hs => by simp [ExecutionRow.projectedActualDigest, hs]⟩

theorem claimCandidateTx_underSeal {s₀ : Database} (now : Time) (request : ClaimRequest) (c : ProcessRecord) :
    Triple (fun s => s₀.BindingsSince s) (claimCandidateTx now request c) fun r s => ∀ claimed, r = some claimed →
      requiresActualBinding claimed.processKey = true → ClaimedUnderSeal claimed s := by
  refine Triple.bind (bindings_of_keeps (ProcessFrame.contract.casProcess (fun _ => by rfl) _ _)) fun updated => ?_
  refine Triple.ite (fun _ => ?_) fun _ => Triple.pure fun _ _ => by simp
  refine (Triple.processWithExecution (Q := fun r s => s₀.BindingsSince s ∧ s.processes.get? c.1 = some r.1 ∧
    s.executions.get? r.1.execution = some r.2.1) fun s process row task h hp he _ => ⟨h, hp, he⟩).bind fun r => ?_
  obtain ⟨process, row, task⟩ := r
  refine (Triple.ofExcept (Q := fun claimed s => commandFromProcess (c.1, process) row task request.token
    (now + request.leaseSeconds * 1000000) = .ok claimed ∧ s₀.BindingsSince s ∧ s.processes.get? c.1 = some process ∧
      s.executions.get? process.execution = some row) fun s claimed h hc => ⟨hc, h⟩).bind fun claimed =>
        Triple.pure fun s h claimed' hclaimed hreq => ?_
  obtain rfl := Option.some.inj hclaimed
  obtain ⟨hcommand, hs, hp, he⟩ := h
  obtain ⟨hprocess, hexecution, hkey, hstate, hbinding⟩ := commandFromProcess_seal hcommand
  rw [hkey] at hreq
  obtain ⟨row', task', hrow', htask', hsealed⟩ := Covered.rows hs hp hreq
  rw [he] at hrow'
  obtain rfl := Option.some.inj hrow'
  refine ⟨process, row, task', by rw [hprocess]; exact hp, hkey.symm, hexecution.symm, by rw [hexecution]; exact he,
    htask', fun hskip => ?_⟩
  obtain ⟨hs, hsome⟩ := hsealed hskip
  exact ⟨hs, hsome, by rw [hstate, hs], hbinding hs⟩

theorem claimNext_underSeal {s₀ s : Database} (hs : (bindings d s₀).Sound [] s) (now : Time) (request : ClaimRequest)
    {claimed : ClaimedProcess} (h : claimNextResult d now request s = some claimed)
    (hreq : requiresActualBinding claimed.processKey = true) :
    ClaimedUnderSeal claimed (systemStep d s ⟨now, .claimNext request⟩) := by
  obtain ⟨r, hr, rfl⟩ := Option.bind_eq_some_iff.1 h
  have h₁ : (bindings d s₀).Sound [] ((promoteDueRetriesTx now 64).commit s) :=
    (sound_promoteDueRetriesTx (bindings d s₀) now 64).commit hs
  exact (sound_claimNextTx_result (bindings d s₀) now fun c =>
    (claimCandidateTx_underSeal now request c).pre fun s h => h.1.2) _ _ _ h₁ (run_of_result? hr) |>.2 claimed rfl hreq

end runs

/-! ### the law -/

/-- The actual binding of an Execution goes from unsealed to sealed at most once and never changes again; a Process
behind the clean boundary stands under a sealed Execution, and is claimed with its seal. -/
theorem actualBinding (d : Deployment) (events : List Event) :
    (∀ before after, before ++ after = events → ∀ e row,
      (runFrom (systemStep d) .empty before).executions.get? e = some row →
      ∃ row', (runFrom (systemStep d) .empty events).executions.get? e = some row' ∧
        ((row'.bindingState = row.bindingState ∧ row'.binding = row.binding) ∨
          (row.bindingState = .unsealed ∧ row.binding = none ∧ row'.bindingState = .sealed ∧
            row'.binding.isSome = true))) ∧
    (∀ p process, (runFrom (systemStep d) .empty events).processes.get? p = some process →
      requiresActualBinding process.processKey = true →
      ∃ row task, (runFrom (systemStep d) .empty events).executions.get? process.execution = some row ∧
        (runFrom (systemStep d) .empty events).tasks.get? row.task = some task ∧
        (task.requestIntent.skipsActualBinding = false → row.bindingState = .sealed ∧ row.binding.isSome = true)) ∧
    ∀ now request claimed, claimNextResult d now request (runFrom (systemStep d) .empty events) = some claimed →
      requiresActualBinding claimed.processKey = true →
      ClaimedUnderSeal claimed (systemStep d (runFrom (systemStep d) .empty events) ⟨now, .claimNext request⟩) := by
  have sound := sound_bindings_run (d := d) sound_bindings_empty events
  refine ⟨?_, fun p process hp hreq => Covered.rows sound.2 hp hreq, fun now request claimed h hreq =>
    claimNext_underSeal sound now request h hreq⟩
  rintro before after rfl e row hrow
  have before_sound := Sound.restart (sound_bindings_run (d := d) sound_bindings_empty before)
  have follows := (sound_bindings_run before_sound after).2.follows e row hrow
  rw [runFrom_append]
  obtain ⟨b, hb, ha⟩ := follows
  obtain ⟨row', hrow', rfl⟩ := Option.map_eq_some_iff.1 hb
  exact ⟨row', hrow', ha.rows⟩

end KnowledgeBase
