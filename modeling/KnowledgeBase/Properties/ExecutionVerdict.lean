import KnowledgeBase.Invariant.Executions
import KnowledgeBase.Properties.Fencing

/-!
# The verdict of an Execution

The engine closes an Execution in five places, each guarded by a condition on the row it has just read. Between any two
moments of any run the row has therefore kept its identity, a verdict and all that was written with it has stayed what
it was, and from a requested cancellation there has been no way back to work.
-/

namespace KnowledgeBase

/-! ### the preorder of Execution rows -/

/-- What a later row of an Execution has in common with an earlier one. -/
structure ExecutionRow.Evolves (row row' : ExecutionRow) : Prop where
  identity : row'.identity = row.identity
  ended : row.status.isTerminal = true → row'.status = row.status ∧ row'.result = row.result
  cancelled : row.status = .cancelling → row'.status = .cancelling ∨ row'.status.isTerminal = true
  undecided : row'.status.isTerminal = false → row'.result = row.result

namespace ExecutionRow

theorem Evolves.refl (row : ExecutionRow) : row.Evolves row :=
  ⟨rfl, fun _ => ⟨rfl, rfl⟩, Or.inl, fun _ => rfl⟩

theorem Evolves.trans {row row' row'' : ExecutionRow} (h : row.Evolves row') (h' : row'.Evolves row'') :
    row.Evolves row'' where
  identity := h'.identity.trans h.identity
  ended ht := by
    obtain ⟨hs, hr⟩ := h.ended ht
    obtain ⟨hs', hr'⟩ := h'.ended (by rw [hs]; exact ht)
    exact ⟨hs'.trans hs, hr'.trans hr⟩
  cancelled hc := by
    rcases h.cancelled hc with hs | ht
    · exact h'.cancelled hs
    · right
      rw [(h'.ended ht).1]
      exact ht
  undecided ht := by
    have ht' : row'.status.isTerminal = false := by
      by_contra hne
      rw [Bool.not_eq_false] at hne
      rw [(h'.ended hne).1, hne] at ht
      cases ht
    exact (h'.undecided ht).trans (h.undecided ht')

end ExecutionRow

theorem ExecutionWrite.evolves {row row' : ExecutionRow} (h : ExecutionWrite row row') : row.Evolves row' := by
  cases h with
  | keep identity result status =>
    refine ⟨identity, fun _ => ⟨status, result⟩, fun hc => ?_, fun _ => result⟩
    left
    rw [status, hc]
  | move identity result was status =>
    refine ⟨identity, fun ht => ?_, fun hc => absurd hc was.2, fun _ => result⟩
    rw [was.1] at ht
    cases ht
  | cancel identity result was status =>
    refine ⟨identity, fun ht => ?_, fun _ => Or.inl status, fun _ => result⟩
    rw [was] at ht
    cases ht
  | close identity was status =>
    refine ⟨identity, fun ht => ?_, fun _ => Or.inr status, fun ht => ?_⟩
    · rw [was] at ht
      cases ht
    · rw [status] at ht
      cases ht

/-! ### over a run -/

variable {d : Deployment}

theorem executionRow_run {s : Database} (hshaped : s.Shaped none) (events : List Event) {e : ExecutionId}
    {row : ExecutionRow} (hrow : s.executions.get? e = some row) :
    (runFrom (systemStep d) s events).HasRow row.Evolves e :=
  hasRow_run (P := row.Evolves) (fun _ _ h write => h.trans write.evolves) hshaped ⟨row, hrow, .refl row⟩ events

/-- A verdict is final: at any two moments of any run an Execution that is there at the first is there at the second
under the same identity, with the same status and the same result if it had ended, still cancelling or ended if it was
cancelling, and with nothing new written of its result unless it has ended. -/
theorem execution_verdict (d : Deployment) (before after : List Event) (e : ExecutionId) (row : ExecutionRow)
    (hrow : (runFrom (systemStep d) .empty before).executions.get? e = some row) :
    ∃ row', (runFrom (systemStep d) .empty (before ++ after)).executions.get? e = some row' ∧
      row'.identity = row.identity ∧
      (row.status.isTerminal = true → row'.status = row.status ∧ row'.result = row.result) ∧
      (row.status = .cancelling → row'.status = .cancelling ∨ row'.status.isTerminal = true) ∧
      (row'.status.isTerminal = false → row'.result = row.result) := by
  have hempty : (Database.empty).Shaped none := ⟨.empty, by simp⟩
  have hshaped : (runFrom (systemStep d) .empty before).Shaped none := shaped_run hempty before
  obtain ⟨row', hrow', h⟩ := executionRow_run hshaped after hrow
  rw [← runFrom_append] at hrow'
  exact ⟨row', hrow', h.identity, h.ended, h.cancelled, h.undecided⟩

/-- A Task created, cancelled and its root converged. -/
def sampleCancellation : List Event :=
  [⟨1, .createTask { team := 0, requestIntent := .indexRebuild, workflowRevision := 1, compiledDigest := 7 }⟩,
    ⟨2, .cancelTask 0 0⟩, ⟨3, .leaseOutbox 1 30⟩, ⟨4, .dispatchDelivery 0 true⟩]

theorem status_sampleCancellation :
    ((runFrom (systemStep sampleDeployment) .empty sampleCancellation).executions.get? 0).map (·.status)
      = some .cancelled := by decide +kernel

/-- No later wake, claim or repair revives the cancelled root. -/
theorem execution_verdict_cancellation :
    ∃ row', (runFrom (systemStep sampleDeployment) .empty (sampleCancellation ++ [⟨5, .materializeRoot 0⟩,
        ⟨6, .claimNext { leaseOwner := "worker", token := 9 }⟩, ⟨7, .repairOnce⟩])).executions.get? 0 = some row' ∧
      row'.status = .cancelled := by
  obtain ⟨row, hrow, hstatus⟩ := Option.map_eq_some_iff.1 status_sampleCancellation
  obtain ⟨row', hrow', -, ended, -, -⟩ := execution_verdict sampleDeployment sampleCancellation
    [⟨5, .materializeRoot 0⟩, ⟨6, .claimNext { leaseOwner := "worker", token := 9 }⟩, ⟨7, .repairOnce⟩] 0 row hrow
  exact ⟨row', hrow', (ended (by rw [hstatus]; rfl)).1.trans hstatus⟩

end KnowledgeBase
