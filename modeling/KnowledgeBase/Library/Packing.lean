import Mathlib.Data.List.Forall2

/-!
# Packing

A list of sized elements cut, in order, into packs: every pack takes one element whatever its size and then more as
long as it stays within the budget. `flatten_packs`: no element is lost, doubled or moved; `total_pack_le`: packs of
elements within the budget are within the budget.
-/

namespace KnowledgeBase

namespace Packing

variable {α : Type} (size : α → Nat) (budget : Nat)

/-- The longest prefix that keeps the used size within the budget, and the rest. -/
def takeWithin : Nat → List α → List α × List α
  | _, [] => ([], [])
  | used, a :: l =>
    if used + size a ≤ budget then (a :: (takeWithin (used + size a) l).1, (takeWithin (used + size a) l).2)
    else ([], a :: l)

/-- The size of a pack. -/
def total : List α → Nat
  | [] => 0
  | a :: l => size a + total l

variable {size budget}

theorem total_cons (a : α) (l : List α) : total size (a :: l) = size a + total size l := rfl

theorem takeWithin_append (used : Nat) (l : List α) :
    (takeWithin size budget used l).1 ++ (takeWithin size budget used l).2 = l := by
  induction l generalizing used with
  | nil => rfl
  | cons a l ih =>
    unfold takeWithin
    split
    · rw [List.cons_append, ih]
    · rfl

theorem length_rest_le (used : Nat) (l : List α) : (takeWithin size budget used l).2.length ≤ l.length := by
  have h := congrArg List.length (@takeWithin_append _ size budget used l)
  rw [List.length_append] at h
  omega

theorem total_takeWithin_le {used : Nat} (h : used ≤ budget) (l : List α) :
    used + total size (takeWithin size budget used l).1 ≤ budget := by
  induction l generalizing used with
  | nil => exact h
  | cons a l ih =>
    unfold takeWithin
    split
    · rename_i hfits
      have hrest := ih hfits
      rw [total_cons]
      omega
    · exact h

variable (size budget)

/-- The packs of a list. -/
def packs : List α → List (List α)
  | [] => []
  | a :: l => (a :: (takeWithin size budget (size a) l).1) :: packs (takeWithin size budget (size a) l).2
termination_by l => l.length
decreasing_by exact Nat.lt_succ_of_le (length_rest_le _ _)

variable {size budget}

theorem flatten_packs (l : List α) : (packs size budget l).flatten = l := by
  induction l using packs.induct size budget with
  | case1 => rw [packs, List.flatten_nil]
  | case2 a l ih => rw [packs, List.flatten_cons, ih, List.cons_append, takeWithin_append]

theorem ne_nil_of_mem_packs {l pack : List α} (h : pack ∈ packs size budget l) : pack ≠ [] := by
  induction l using packs.induct size budget with
  | case1 =>
    rw [packs] at h
    cases h
  | case2 a l ih =>
    rw [packs] at h
    rcases List.mem_cons.1 h with rfl | h
    · exact List.cons_ne_nil _ _
    · exact ih h

theorem total_pack_le {l pack : List α} (h : ∀ a ∈ l, size a ≤ budget) (hpack : pack ∈ packs size budget l) :
    total size pack ≤ budget := by
  induction l using packs.induct size budget with
  | case1 =>
    rw [packs] at hpack
    cases hpack
  | case2 a l ih =>
    rw [packs] at hpack
    rcases List.mem_cons.1 hpack with rfl | hpack
    · exact total_takeWithin_le (h a List.mem_cons_self) l
    · refine ih (fun b hb => h b (List.mem_cons_of_mem a ?_)) hpack
      rw [← @takeWithin_append _ size budget (size a) l]
      exact List.mem_append_right _ hb

/-! ### answers to packs -/

/-- Answers of the length of their packs line up with the list as each lines up with its pack. -/
theorem zip_flatten {β : Type} {packs : List (List α)} {answers : List (List β)}
    (h : List.Forall₂ (fun pack answer => answer.length = pack.length) packs answers) :
    packs.flatten.zip answers.flatten = (List.zipWith List.zip packs answers).flatten := by
  induction h with
  | nil => rfl
  | cons hlength _ ih => rw [List.flatten_cons, List.flatten_cons, List.zip_append hlength.symm, ih]; rfl

end Packing

end KnowledgeBase
