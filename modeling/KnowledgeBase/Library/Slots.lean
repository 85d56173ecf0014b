import Mathlib.Data.List.Basic
import Mathlib.Logic.Function.Basic

/-!
# Counted slots

Counters of the slots that are taken, in all and for each key, next to the clients that hold them: at most one slot
each. Where every step of a client takes a slot that it then holds, gives back the slot it held, or changes neither,
the counters stay the numbers of the clients that hold.
-/

namespace KnowledgeBase

/-- The slots taken in all and for each key. -/
structure Counters (κ : Type) where
  total : Nat
  of : κ → Nat

namespace Counters

variable {κ σ : Type} [DecidableEq κ]

def empty : Counters κ := ⟨0, fun _ => 0⟩

def add (c : Counters κ) (k : κ) : Counters κ := ⟨c.total + 1, Function.update c.of k (c.of k + 1)⟩

def remove (c : Counters κ) (k : κ) : Counters κ := ⟨c.total - 1, Function.update c.of k (c.of k - 1)⟩

/-- How the slot of one client and the counters change together: what is counted for the client moves with it. -/
structure Moves (c : Counters κ) (h h' : Option κ) (c' : Counters κ) : Prop where
  total : c'.total + (if h.isSome then 1 else 0) = c.total + if h'.isSome then 1 else 0
  of (k : κ) : c'.of k + (if h == some k then 1 else 0) = c.of k + if h' == some k then 1 else 0

/-- The clients that hold a slot. -/
def holders (held : σ → Option κ) (l : List σ) : Nat := l.countP fun s => (held s).isSome

/-- The clients that hold a slot of the key. -/
def holdersOf (held : σ → Option κ) (k : κ) (l : List σ) : Nat := l.countP fun s => held s == some k

/-- The counters are the numbers of the clients that hold. -/
structure Count (held : σ → Option κ) (c : Counters κ) (l : List σ) : Prop where
  total : c.total = holders held l
  of (k : κ) : c.of k = holdersOf held k l

variable {held : σ → Option κ} {c c' : Counters κ} {l : List σ} {s s' : σ} {i : Nat} {k : κ}

/-! ### one client changes -/

theorem countP_set_of_getElem? (s' : σ) (p : σ → Bool) (hi : l[i]? = some s) :
    (l.set i s').countP p + (if p s then 1 else 0) = l.countP p + (if p s' then 1 else 0) := by
  induction l generalizing i with
  | nil => cases hi
  | cons a l ih =>
    cases i with
    | zero =>
      cases hi
      simp only [List.set_cons_zero, List.countP_cons]
      omega
    | succ i =>
      have h := ih (by simpa using hi : l[i]? = some s)
      simp only [List.set_cons_succ, List.countP_cons]
      omega

theorem of_add (j : κ) : (c.add k).of j = c.of j + if k = j then 1 else 0 := by
  unfold add
  by_cases h : j = k
  · subst h
    simp
  · rw [if_neg (Ne.symm h)]
    exact Function.update_of_ne h _ _

theorem of_remove (j : κ) : (c.remove k).of j = c.of j - if k = j then 1 else 0 := by
  unfold remove
  by_cases h : j = k
  · subst h
    simp
  · rw [if_neg (Ne.symm h)]
    exact Function.update_of_ne h _ _

theorem Moves.refl (c : Counters κ) (h : Option κ) : Moves c h h c := ⟨rfl, fun _ => rfl⟩

theorem Moves.trans {h h' h'' : Option κ} {c'' : Counters κ} (m : Moves c h h' c') (m' : Moves c' h' h'' c'') :
    Moves c h h'' c'' := by
  refine ⟨?_, fun k => ?_⟩
  · have := m.total
    have := m'.total
    omega
  · have := m.of k
    have := m'.of k
    omega

theorem Moves.takes (c : Counters κ) (k : κ) : Moves c none (some k) (c.add k) := by
  refine ⟨rfl, fun j => ?_⟩
  rw [of_add]
  have hnone : (none == some j) = false := rfl
  simp only [hnone, Option.some_beq_some, beq_iff_eq, Bool.false_eq_true, if_false]
  omega

theorem Moves.gives (ht : 1 ≤ c.total) (hk : 1 ≤ c.of k) : Moves c (some k) none (c.remove k) := by
  refine ⟨?_, fun j => ?_⟩
  · show c.total - 1 + 1 = c.total + 0
    omega
  · rw [of_remove]
    have hnone : (none == some j) = false := rfl
    simp only [hnone, Option.some_beq_some, beq_iff_eq, Bool.false_eq_true, if_false]
    by_cases hj : k = j
    · subst hj
      rw [if_pos rfl]
      omega
    · rw [if_neg hj]
      omega

theorem Count.set (hc : Count held c l) (hi : l[i]? = some s) (hm : Moves c (held s) (held s') c') :
    Count held c' (l.set i s') := by
  refine ⟨?_, fun k => ?_⟩
  · have h := countP_set_of_getElem? s' (fun s => (held s).isSome) hi
    have hmove := hm.total
    have ht := hc.total
    unfold holders at ht ⊢
    omega
  · have h := countP_set_of_getElem? s' (fun s => held s == some k) hi
    have hmove := hm.of k
    have hk := hc.of k
    unfold holdersOf at hk ⊢
    omega

/-! ### what a count gives -/

theorem Count.pos (hc : Count held c l) (hs : s ∈ l) (hh : held s = some k) : 1 ≤ c.total ∧ 1 ≤ c.of k := by
  constructor
  · rw [hc.total]
    exact List.countP_pos_iff.2 ⟨s, hs, by simp [hh]⟩
  · rw [hc.of]
    exact List.countP_pos_iff.2 ⟨s, hs, by simp [hh]⟩

theorem Count.zero (hc : Count held c l) (h : ∀ s ∈ l, held s = none) : c.total = 0 ∧ ∀ k, c.of k = 0 := by
  constructor
  · rw [hc.total]
    exact List.countP_eq_zero.2 fun s hs => by simp [h s hs]
  · intro k
    rw [hc.of]
    exact List.countP_eq_zero.2 fun s hs => by simp [h s hs]

theorem count_empty (h : ∀ s ∈ l, held s = none) : Count held empty l := by
  constructor
  · exact (List.countP_eq_zero.2 fun s hs => by simp [h s hs]).symm
  · intro k
    exact (List.countP_eq_zero.2 fun s hs => by simp [h s hs]).symm

end Counters

end KnowledgeBase
