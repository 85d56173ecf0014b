import KnowledgeBase.Library.Slots

/-!
# The concurrency gate

`ConcurrencyGate` of the inference facade: an admission gate that does not wait. Nothing is awaited while its lock is
held, so that the lock is never contended and each of its operations is one atomic step of the event loop.
-/

namespace KnowledgeBase

variable {κ : Type} [DecidableEq κ]

/-- The limits that the constructor of the gate admits. -/
structure GateLimits (κ : Type) where
  globalMax : Nat
  capabilityLimits : κ → Option Nat
  globalMax_range : 1 ≤ globalMax ∧ globalMax ≤ 4096
  capabilityLimits_range : ∀ k m, capabilityLimits k = some m → 1 ≤ m ∧ m ≤ globalMax

namespace GateLimits

/-- The gate has no room for the key. -/
def full (L : GateLimits κ) (c : Counters κ) (k : κ) : Bool :=
  decide (L.globalMax ≤ c.total) || (L.capabilityLimits k).any fun m => decide (m ≤ c.of k)

/-- `try_acquire`: the counters with the slot taken, or none. -/
def tryAcquire (L : GateLimits κ) (c : Counters κ) (k : κ) : Option (Counters κ) :=
  if L.full c k then none else some (c.add k)

/-- `release`: none where it raises for an unbalanced gate. -/
def release (c : Counters κ) (k : κ) : Option (Counters κ) :=
  if c.total < 1 ∨ c.of k < 1 then none else some (c.remove k)

/-- No counter exceeds its limit. -/
structure Within (L : GateLimits κ) (c : Counters κ) : Prop where
  total : c.total ≤ L.globalMax
  of (k : κ) (m : Nat) : L.capabilityLimits k = some m → c.of k ≤ m

variable {L : GateLimits κ} {c c' : Counters κ} {k : κ}

theorem tryAcquire_eq_some (h : L.tryAcquire c k = some c') : L.full c k = false ∧ c' = c.add k := by
  unfold tryAcquire at h
  split at h
  · cases h
  · rename_i hfull
    cases h
    exact ⟨by simpa using hfull, rfl⟩

theorem release_eq_some (h : release c k = some c') : (1 ≤ c.total ∧ 1 ≤ c.of k) ∧ c' = c.remove k := by
  unfold release at h
  split at h
  · cases h
  · cases h
    exact ⟨by omega, rfl⟩

theorem moves_tryAcquire (h : L.tryAcquire c k = some c') : Counters.Moves c none (some k) c' := by
  obtain ⟨-, rfl⟩ := tryAcquire_eq_some h
  exact .takes c k

theorem moves_release (h : release c k = some c') : Counters.Moves c (some k) none c' := by
  obtain ⟨⟨ht, hk⟩, rfl⟩ := release_eq_some h
  exact .gives ht hk

theorem release_of_pos (ht : 1 ≤ c.total) (hk : 1 ≤ c.of k) : release c k = some (c.remove k) := by
  unfold release
  rw [if_neg]
  omega

omit [DecidableEq κ] in
theorem within_empty : L.Within Counters.empty := ⟨Nat.zero_le _, fun _ _ _ => Nat.zero_le _⟩

theorem within_tryAcquire (h : L.Within c) (ha : L.tryAcquire c k = some c') : L.Within c' := by
  obtain ⟨hfull, rfl⟩ := tryAcquire_eq_some ha
  unfold full at hfull
  rw [Bool.or_eq_false_iff] at hfull
  have hroom : ¬ L.globalMax ≤ c.total := of_decide_eq_false hfull.1
  refine ⟨?_, fun j m hm => ?_⟩
  · show c.total + 1 ≤ _
    omega
  · rw [Counters.of_add]
    have hj := h.of j m hm
    by_cases hk : k = j
    · subst hk
      rw [hm] at hfull
      have hroom : ¬ m ≤ c.of k := of_decide_eq_false hfull.2
      rw [if_pos rfl]
      omega
    · rw [if_neg hk]
      omega

theorem within_release (h : L.Within c) (hr : release c k = some c') : L.Within c' := by
  obtain ⟨-, rfl⟩ := release_eq_some hr
  refine ⟨?_, fun j m hm => ?_⟩
  · have ht := h.total
    show c.total - 1 ≤ _
    omega
  · have hj := h.of j m hm
    rw [Counters.of_remove]
    omega

end GateLimits

end KnowledgeBase
