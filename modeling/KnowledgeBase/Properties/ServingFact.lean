import KnowledgeBase.Serving.Fact

/-!
# Serving state is one fact

The fact holds in every state of a run unless a review rejects an Item that is projected, a purge takes records that
an active pointer counts, or records of a handoff are purged before its publication.
-/

namespace KnowledgeBase

open Checked Relational Serving

/-- The step finds nothing that it would change on one side only: a rejected Item has no projection, a purged record
is counted by no active pointer, the records of a publication are all live. -/
def KeepsFact (s : Serving) : ServingStep → Prop
  | .humanReview team snapshot .reject =>
    ∀ i ∈ s.items, i.lifecycleState = .active → s.isMember team snapshot i = true → s.Bare i.key
  | .purgeGeneration c =>
    ∀ p ∈ s.pointers, p.lifecycleState = .active → ∀ r ∈ s.records, c.isTarget r = true → p.counts r = false
  | .publish c => ∀ h ∈ s.handoffs, h.execution = c.producer.execution → h.team = c.team →
    ∀ r ∈ s.records, isOfHandoff c.team h r = true → r.deletedAt = none
  | _ => True

theorem fact_transact {s s' : Serving} (hs : s.Keyed) (hprov : s.Provenance) (h : s.FactInvariant) {grace : Nat}
    {t : ServingStep} (hc : KeepsFact s t) (ht : t.transact grace s = .ok s') : s'.FactInvariant := by
  cases t with
  | acceptSnapshot c => exact fact_acceptSnapshot h ht
  | acceptCollection c => exact fact_acceptCollection h ht
  | acceptRebuild t producer =>
    obtain ⟨i, -, -, -, rfl⟩ := acceptRebuild_ok ht
    exact h.of_tables rfl rfl rfl rfl rfl
  | acceptMetadataUpdate t metadataRevision producer => exact fact_acceptMetadataUpdate h ht
  | lifecycle c =>
    obtain rfl | ⟨i, hi, hkey, target, htarget, rfl⟩ := applyLifecycle_ok ht
    · exact h
    · exact fact_applied hs h hi hkey htarget
  | humanReview team snapshot decision =>
    obtain rfl := Except.ok.inj ht
    cases decision with
    | approve => exact fact_approve h team snapshot
    | reject => exact fact_reject h hc
  | acceptConstruct a =>
    obtain ⟨-, -, rfl⟩ := acceptConstruct_ok ht
    exact h.of_tables rfl rfl rfl rfl rfl
  | vectorize c => exact fact_vectorize hs hprov h ht
  | publish c => exact fact_publish hs hprov h hc ht
  | indexRebuild c => exact fact_indexRebuild hs hprov h ht
  | discoverRetirement team item nspace retired =>
    obtain ⟨p, -, -, -, i, -, rfl⟩ := discoverRetirement_ok ht
    exact h.of_tables rfl rfl rfl rfl rfl
  | softPurge i now => exact fact_softPurge hs hprov h ht
  | purgeGeneration c =>
    obtain rfl := purgeGeneration_ok ht
    exact h.dropRecords (fun _ => rfl) (fun _ => rfl) hc
  | cleanupVectors team item now => exact fact_cleanupVectors h ht

variable (grace : Nat)

/-- Serving state is one fact in every state of a run whose steps keep it. -/
theorem servingFact (l : List ServingStep)
    (hl : StepsMeet (servingStep grace) (fun s t => ∀ s', t.transact grace s = .ok s' → KeepsFact s t) .empty l) :
    (runFrom (servingStep grace) .empty l).OneFact := by
  have hstep (s : Serving) (t : ServingStep) (hs : s.Keyed ∧ s.Provenance ∧ s.FactInvariant)
      (hc : ∀ s', t.transact grace s = .ok s' → KeepsFact s t) :
      (servingStep grace s t).Keyed ∧ (servingStep grace s t).Provenance ∧ (servingStep grace s t).FactInvariant := by
    refine ⟨(advances_step hs.1 grace t).keyed, ?_⟩
    obtain h | h := servingStep_cases grace (s := s) (t := t)
    · rw [h]
      exact hs.2
    · exact ⟨provenance_transact hs.1 hs.2.1 h, fact_transact hs.1 hs.2.1 hs.2.2 (hc _ h) h⟩
  exact (runFrom_invariant hstep ⟨keyed_empty, provenance_empty, factInvariant_empty⟩ hl).2.2.oneFact

/-- A publication, and a withdrawal of the Item before its review is rejected. -/
theorem servingFact_withdrawn : (runFrom (servingStep 3600) .empty (samplePublication ++
    [.lifecycle ⟨1, 1, .deactivate, 5, none, 9⟩, .humanReview 1 1 .reject])).OneFact :=
  servingFact 3600 _ ⟨fun _ _ => trivial, fun _ _ => trivial, fun _ _ => trivial,
    fun _ _ => by simp only [KeepsFact]; decide, fun _ _ => trivial, fun _ _ => by simp only [KeepsFact]; decide, trivial⟩

/-- A second Snapshot of the Item, accepted for review. -/
def sampleSecond : AcceptSnapshot :=
  { sampleAccept true with revision := 11, snapshot := 2, producer := ⟨2, 1, 1⟩ }

/-- A published Item whose second Snapshot is accepted for review and rejected: deactivated, with an active pointer. -/
theorem servingFact_rejected : ¬ ∀ grace l, (runFrom (servingStep grace) .empty l).OneFact := by
  intro h
  have hfact := h 3600 (samplePublication ++ [.acceptSnapshot sampleSecond, .humanReview 1 2 .reject])
    ⟨1, 1, 1, 1, .deactivated, some 11, none, 4, none⟩ List.mem_cons_self
  have hbare := hfact.withdrawn (by decide)
  exact hbare.pointers ⟨1, 1, 1, 1, 0, .active, 1000, 100, 0⟩ List.mem_cons_self rfl rfl

end KnowledgeBase
