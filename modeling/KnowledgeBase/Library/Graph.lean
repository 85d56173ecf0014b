import Mathlib.Logic.Relation
import Mathlib.Data.List.Nodup
import Mathlib.Data.List.Perm.Subperm

/-!
# Finite graphs

Relations on the elements of a list. A rank that falls along every edge rules out cycles, and if every element but
one has an edge to another, every element has a path to that one. A list each of whose elements leads only to later
ones is closed under the relation and meets no cycle. A chain of a relation without cycles repeats no element, so a
list that holds its elements bounds its length.
-/

namespace KnowledgeBase

namespace Graph

variable {α : Type} {R : α → α → Prop}

open Relation

/-- No element has a path to itself. -/
def Acyclic (R : α → α → Prop) : Prop := ∀ a, ¬ TransGen R a a

theorem transGen_rank {rank : α → Int} (hrank : ∀ a b, R a b → rank b < rank a) {a b : α} (h : TransGen R a b) :
    rank b < rank a := by
  induction h with
  | single h => exact hrank _ _ h
  | tail _ h ih =>
    have := hrank _ _ h
    omega

theorem acyclic_of_rank (rank : α → Int) (hrank : ∀ a b, R a b → rank b < rank a) : Acyclic R := by
  intro a h
  have hlt := transGen_rank hrank h
  omega

theorem exists_le_rank (rank : α → Int) (l : List α) : ∃ m, ∀ a ∈ l, m ≤ rank a := by
  induction l with
  | nil => exact ⟨0, fun a ha => absurd ha List.not_mem_nil⟩
  | cons b l ih =>
    obtain ⟨m, hm⟩ := ih
    refine ⟨min m (rank b), fun a ha => ?_⟩
    rcases List.mem_cons.1 ha with rfl | ha
    · omega
    · have := hm a ha
      omega

/-- If the rank falls from every element but one to some other element, every element has a path to that one. -/
theorem reaches_of_rank (rank : α → Int) {l : List α} {root : α}
    (hstep : ∀ a ∈ l, a ≠ root → ∃ b ∈ l, R a b ∧ rank b < rank a) : ∀ a ∈ l, ReflTransGen R a root := by
  obtain ⟨m, hm⟩ := exists_le_rank rank l
  -- the induction is on the distance from the least rank
  have hreach : ∀ n : Nat, ∀ a ∈ l, (rank a - m).toNat = n → ReflTransGen R a root := by
    intro n
    induction n using Nat.strongRecOn with
    | ind n ih =>
      intro a ha hn
      by_cases hroot : a = root
      · rw [hroot]
      · obtain ⟨b, hb, hab, hlt⟩ := hstep a ha hroot
        have hma := hm a ha
        have hmb := hm b hb
        exact .head hab (ih (rank b - m).toNat (by omega) b hb rfl)
  exact fun a ha => hreach _ a ha rfl

theorem not_transGen_of_acc {a : α} (h : Acc (fun b a => R a b) a) : ¬ TransGen R a a := by
  induction h with
  | intro a _ ih =>
    intro hcycle
    obtain ⟨b, hab, hba⟩ := TransGen.head'_iff.1 hcycle
    exact ih b hab (TransGen.tail' hba hab)

/-- Every element leads only to later ones. -/
def Settled (R : α → α → Prop) : List α → Prop
  | [] => True
  | a :: l => (∀ b, R a b → b ∈ l) ∧ Settled R l

theorem Settled.closed {l : List α} (h : Settled R l) {a b : α} (ha : a ∈ l) (hab : R a b) : b ∈ l := by
  induction l with
  | nil => cases ha
  | cons c l ih =>
    rcases List.mem_cons.1 ha with rfl | ha
    · exact List.mem_cons_of_mem _ (h.1 b hab)
    · exact List.mem_cons_of_mem _ (ih h.2 ha)

theorem Settled.reaches {l : List α} (h : Settled R l) {a b : α} (ha : a ∈ l) (hab : ReflTransGen R a b) : b ∈ l := by
  induction hab with
  | refl => exact ha
  | tail _ hbc ih => exact h.closed ih hbc

theorem Settled.acc {l : List α} (h : Settled R l) : ∀ a ∈ l, Acc (fun b a => R a b) a := by
  induction l with
  | nil => exact fun a ha => absurd ha List.not_mem_nil
  | cons c l ih =>
    intro a ha
    rcases List.mem_cons.1 ha with rfl | ha
    · exact .intro _ fun b hab => ih h.2 b (h.1 b hab)
    · exact ih h.2 a ha

theorem Settled.not_transGen {l : List α} (h : Settled R l) {a : α} (ha : a ∈ l) : ¬ TransGen R a a :=
  not_transGen_of_acc (h.acc a ha)

theorem nodup_of_chain (hR : Acyclic R) {l : List α} (h : l.IsChain R) : l.Nodup := by
  have hchain : l.IsChain (TransGen R) := h.imp fun _ _ hab => .single hab
  have hpair : l.Pairwise (TransGen R) := hchain.pairwise
  refine hpair.imp ?_
  rintro a b hab rfl
  exact hR a hab

theorem length_le_of_chain (hR : Acyclic R) {l keys : List α} (h : l.IsChain R) (hkeys : ∀ a ∈ l, a ∈ keys) :
    l.length ≤ keys.length :=
  ((nodup_of_chain hR h).subperm hkeys).length_le

end Graph

end KnowledgeBase
