import Mathlib.Data.List.Basic

/-!
# The local object store

Bytes are addressed by Team and digest, so a file of the CAS or of the quarantine is known by its key alone. Every
operation runs under the store's write lock and moves or unlinks one file.
-/

namespace KnowledgeBase

/-- The address of an object: the bytes are those with this digest. -/
structure CasKey where
  team : Nat
  digest : Nat
deriving DecidableEq

/-- The files under `objects` and under `quarantine`. -/
structure ObjectFiles where
  cas : List CasKey
  quarantine : List CasKey
deriving DecidableEq

namespace ObjectFiles

def empty : ObjectFiles := ⟨[], []⟩

def unlink (key : CasKey) (files : List CasKey) : List CasKey := files.filter fun k => k != key

/-- `_promote_staging_sync`: bytes that exist already are verified and nothing is written. -/
def promoteStaging (f : ObjectFiles) (key : CasKey) : ObjectFiles :=
  if key ∈ f.cas then f else { f with cas := key :: f.cas }

/-- `_quarantine_sync`: renames the bytes off the CAS path, replacing what the quarantine held. -/
def quarantineObject (f : ObjectFiles) (key : CasKey) : Bool × ObjectFiles :=
  if key ∈ f.cas then (true, ⟨unlink key f.cas, key :: unlink key f.quarantine⟩) else (false, f)

/-- `_restore_quarantine_sync`. -/
def restoreQuarantined (f : ObjectFiles) (key : CasKey) : ObjectFiles :=
  if key ∈ f.cas then { f with quarantine := unlink key f.quarantine }
  else if key ∈ f.quarantine then ⟨key :: f.cas, unlink key f.quarantine⟩
  else f

/-- `destroy_quarantined`. -/
def destroyQuarantined (f : ObjectFiles) (key : CasKey) : ObjectFiles :=
  { f with quarantine := unlink key f.quarantine }

/-- The bytes are in the CAS or in the quarantine. -/
def Has (f : ObjectFiles) (key : CasKey) : Prop := key ∈ f.cas ∨ key ∈ f.quarantine

instance (f : ObjectFiles) (key : CasKey) : Decidable (f.Has key) := inferInstanceAs (Decidable (_ ∨ _))

variable {f : ObjectFiles} {key k : CasKey}

@[simp] theorem mem_unlink {files : List CasKey} : k ∈ unlink key files ↔ k ∈ files ∧ k ≠ key := by
  simp [unlink]

/-! ### what an operation leaves -/

theorem has_promoteStaging_self : (f.promoteStaging key).Has key := by
  unfold promoteStaging
  split
  · exact Or.inl ‹_›
  · exact Or.inl List.mem_cons_self

theorem Has.promoteStaging (h : f.Has k) : (f.promoteStaging key).Has k := by
  unfold ObjectFiles.promoteStaging
  split
  · exact h
  · rcases h with h | h
    · exact Or.inl (List.mem_cons_of_mem _ h)
    · exact Or.inr h

theorem Has.quarantineObject (h : f.Has k) : (f.quarantineObject key).2.Has k := by
  unfold ObjectFiles.quarantineObject
  split
  · by_cases hk : k = key
    · subst hk
      exact Or.inr List.mem_cons_self
    · rcases h with h | h
      · exact Or.inl (mem_unlink.2 ⟨h, hk⟩)
      · exact Or.inr (List.mem_cons_of_mem _ (mem_unlink.2 ⟨h, hk⟩))
  · exact h

theorem mem_cas_restoreQuarantined (h : f.Has key) : key ∈ (f.restoreQuarantined key).cas := by
  unfold restoreQuarantined
  by_cases hc : key ∈ f.cas
  · rw [if_pos hc]
    exact hc
  · rw [if_neg hc, if_pos (h.resolve_left hc)]
    exact List.mem_cons_self

theorem mem_cas_restoreQuarantined_of_mem (h : k ∈ f.cas) : k ∈ (f.restoreQuarantined key).cas := by
  unfold restoreQuarantined
  split
  · exact h
  · split
    · exact List.mem_cons_of_mem _ h
    · exact h

theorem Has.restoreQuarantined (h : f.Has k) : (f.restoreQuarantined key).Has k := by
  by_cases hk : k = key
  · subst hk
    exact Or.inl (mem_cas_restoreQuarantined h)
  · rcases h with h | h
    · exact Or.inl (mem_cas_restoreQuarantined_of_mem h)
    · refine Or.inr ?_
      unfold ObjectFiles.restoreQuarantined
      split
      · exact mem_unlink.2 ⟨h, hk⟩
      · split
        · exact mem_unlink.2 ⟨h, hk⟩
        · exact h

theorem Has.destroyQuarantined (h : f.Has k) (hk : k = key → key ∈ f.cas) : (f.destroyQuarantined key).Has k := by
  rcases h with h | h
  · exact Or.inl h
  · by_cases he : k = key
    · subst he
      exact Or.inl (hk rfl)
    · exact Or.inr (mem_unlink.2 ⟨h, he⟩)

theorem not_has_destroyQuarantined (h : key ∉ f.cas) : ¬ (f.destroyQuarantined key).Has key := by
  rintro (hc | hq)
  · exact h hc
  · exact (mem_unlink.1 hq).2 rfl

end ObjectFiles

end KnowledgeBase
