import KnowledgeBase.Serving.Provenance

/-!
# Index cutover is monotone and retirement is safe

The generation of a pointer never falls, a retirement intent names a generation below it, and no retirement step
soft-deletes a record of the generation a pointer names or of a later one.
-/

namespace KnowledgeBase

open Checked Relational Serving

/-- A step of the retirement service. -/
def ServingStep.isRetirement : ServingStep → Bool
  | .discoverRetirement .. | .softPurge .. => true
  | _ => false

/-- A live record that is soft-deleted between two states. -/
def SoftDeleted (s s' : Serving) (r : VectorRecordRow) : Prop :=
  r ∈ s.records ∧ r.deletedAt = none ∧ r ∉ s'.records

/-- The generation of every pointer is at least what it was. -/
def GenerationsKept (s s' : Serving) : Prop :=
  ∀ p ∈ s.pointers, ∃ q ∈ s'.pointers, q.key = p.key ∧ p.activeIndexGeneration ≤ q.activeIndexGeneration

/-- What a step of an interleaving from a state keeps of cutover and retirement. -/
structure CutoverSafe (grace : Nat) (s : Serving) (t : ServingStep) : Prop where
  unique : (s.pointers.map PointerRow.key).Nodup
  monotone : GenerationsKept s (servingStep grace s t)
  below : ∀ i ∈ s.retirements, ∀ p ∈ s.pointers, p.key = (i.team, i.item, i.nspace) →
    i.retiredIndexGeneration < p.activeIndexGeneration
  targeted : ∀ i ∈ s.retirements, ∃ p ∈ s.pointers, p.key = (i.team, i.item, i.nspace)
  retires : t.isRetirement = true → ∀ r, SoftDeleted s (servingStep grace s t) r →
    ∀ p ∈ s.pointers, p.key = (r.team, r.item, r.nspace) → r.indexGeneration < p.activeIndexGeneration

variable {s s' : Serving}

theorem generationsKept_of_advance (h : PointersAdvance s.pointers s'.pointers) : GenerationsKept s s' := by
  intro p hp
  obtain ⟨q, hq, hkey, hsame | hlt⟩ := h p hp
  · exact ⟨q, hq, hkey, Nat.le_of_eq (Prod.mk.inj hsame).1.symm⟩
  · exact ⟨q, hq, hkey, Nat.le_of_lt hlt⟩

theorem Serving.Keyed.eq_pointer (hs : s.Keyed) {p q : PointerRow} (hp : p ∈ s.pointers) (hq : q ∈ s.pointers)
    (h : p.key = q.key) : p = q := eq_of_key hs.pointers hp hq h

theorem retired_lt (hs : s.Keyed) (h : s.Provenance) {i : RetirementIntent} (hi : i ∈ s.retirements) {p : PointerRow}
    (hp : p ∈ s.pointers) (hkey : p.key = (i.team, i.item, i.nspace)) :
    i.retiredIndexGeneration < p.activeIndexGeneration := by
  obtain ⟨q, hq, hqkey, hlt⟩ := h.retired i hi
  obtain rfl := hs.eq_pointer hp hq (hkey.trans hqkey.symm)
  exact hlt

theorem softDeleted_softPurge {i : RetirementIntent} {now : Time} (h : s.softPurge i now = .ok s') {r : VectorRecordRow}
    (hr : SoftDeleted s s' r) : i ∈ s.retirements ∧ (i.team, i.item, i.nspace) = (r.team, r.item, r.nspace) ∧
      r.indexGeneration = i.retiredIndexGeneration := by
  obtain ⟨hi, rfl⟩ := softPurge_ok h
  obtain ⟨hmem, -, hgone⟩ := hr
  refine ⟨hi, ?_⟩
  by_cases hof : isOfGeneration i.team i.item i.nspace i.retiredIndexGeneration r = true
  · simp only [isOfGeneration, Bool.and_eq_true, beq_iff_eq] at hof
    obtain ⟨⟨⟨⟨hteam, hitem⟩, hnspace⟩, hgeneration⟩, -⟩ := hof
    rw [hteam, hitem, hnspace]
    exact ⟨rfl, hgeneration⟩
  · refine absurd ?_ hgone
    exact mem_updateWhere.2 ⟨r, hmem, by rw [if_neg hof]⟩

theorem cutoverSafe (hs : s.Keyed) (h : s.Provenance) (grace : Nat) (t : ServingStep) : CutoverSafe grace s t where
  unique := hs.pointers
  monotone := generationsKept_of_advance (advances_step hs grace t).pointers
  below i hi p hp hkey := retired_lt hs h hi hp hkey
  targeted i hi := by
    obtain ⟨p, hp, hkey, -⟩ := h.retired i hi
    exact ⟨p, hp, hkey⟩
  retires ht r hr p hp hkey := by
    have hunchanged : servingStep grace s t ≠ s := by
      intro hstep
      rw [hstep] at hr
      exact hr.2.2 hr.1
    have hok := (servingStep_cases grace).resolve_left hunchanged
    cases t with
    | softPurge i now =>
      obtain ⟨hi, hplace, hgeneration⟩ := softDeleted_softPurge hok hr
      rw [hgeneration]
      exact retired_lt hs h hi hp (hkey.trans hplace.symm)
    | discoverRetirement team item nspace retired =>
      obtain ⟨-, -, -, -, i, -, hs'⟩ := discoverRetirement_ok hok
      rw [hs'] at hr
      exact absurd hr.1 hr.2.2
    | _ => cases ht

variable (grace : Nat)

/-- Cutover is monotone and retirement is safe after every run, whatever the next step is. -/
theorem indexCutover (l : List ServingStep) (t : ServingStep) :
    CutoverSafe grace (runFrom (servingStep grace) .empty l) t := by
  have hstep (s : Serving) (t : ServingStep) (hs : s.Keyed ∧ s.Provenance) (_ : True) :
      (servingStep grace s t).Keyed ∧ (servingStep grace s t).Provenance := by
    refine ⟨(advances_step hs.1 grace t).keyed, ?_⟩
    obtain h | h := servingStep_cases grace (s := s) (t := t)
    · rw [h]
      exact hs.2
    · exact provenance_transact hs.1 hs.2 h
  have hrun := runFrom_invariant hstep ⟨keyed_empty, provenance_empty⟩ (stepsMeet_true _ l)
  exact cutoverSafe hrun.1 hrun.2 grace t

end KnowledgeBase
