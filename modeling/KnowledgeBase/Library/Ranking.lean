import Mathlib.Data.List.Sort
import Mathlib.Order.Basic

/-!
# Ranking by keys

A list sorted by a key into a linear order, its cut after the first `k`, and the best element of each group. Where no
two elements have one key, none of them depends on the order of the list: the cut keeps the elements with fewer than
`k` smaller ones, and the fold that keeps the best of each group keeps the elements that no other of their group
precedes.
-/

namespace KnowledgeBase

namespace Ranking

variable {α κ υ : Type} [LinearOrder κ] [DecidableEq υ] (key : α → κ) (unit : α → υ)

/-- The list sorted by the key. -/
def ranked (l : List α) : List α := l.insertionSort fun a b => key a ≤ key b

/-- How many elements precede. -/
def rankOf (l : List α) (x : α) : Nat := l.countP fun y => decide (key y < key x)

/-- The element after those kept so far: the better one of its group stays. -/
def keepBest (selected : List α) (x : α) : List α :=
  match selected.find? fun y => decide (unit y = unit x) with
  | none => selected ++ [x]
  | some y => if key x < key y then selected.map fun z => if unit z = unit x then x else z else selected

/-- The best element of each group. -/
def bestOf (l : List α) : List α := l.foldl (keepBest key unit) []

/-- No other element of its group precedes it. -/
def isBest (l : List α) (x : α) : Bool := l.all fun y => decide (unit y = unit x → key x ≤ key y)

variable {key unit}

/-- No two elements have one key. -/
def Distinct (key : α → κ) (l : List α) : Prop := (l.map key).Nodup

omit [LinearOrder κ] in
theorem Distinct.perm {l l' : List α} (h : Distinct key l) (hp : l.Perm l') : Distinct key l' :=
  (hp.map key).nodup_iff.1 h

omit [LinearOrder κ] in
theorem Distinct.sublist {l l' : List α} (h : Distinct key l) (hs : l'.Sublist l) : Distinct key l' :=
  List.Nodup.sublist (hs.map key) h

omit [LinearOrder κ] in
theorem Distinct.nodup {l : List α} (h : Distinct key l) : l.Nodup := List.Nodup.of_map key h

omit [LinearOrder κ] in
theorem Distinct.eq {l : List α} (h : Distinct key l) {a b : α} (ha : a ∈ l) (hb : b ∈ l) (hab : key a = key b) :
    a = b := List.inj_on_of_nodup_map h ha hb hab

/-! ### sorting -/

theorem ranked_perm (l : List α) : (ranked key l).Perm l := List.perm_insertionSort _ l

theorem mem_ranked {l : List α} {x : α} : x ∈ ranked key l ↔ x ∈ l := List.mem_insertionSort _

theorem ranked_sorted (l : List α) : (ranked key l).Pairwise fun a b => key a ≤ key b := by
  have : Std.Total fun a b : α => key a ≤ key b := ⟨fun a b => le_total _ _⟩
  have : IsTrans α fun a b : α => key a ≤ key b := ⟨fun a b c hab hbc => le_trans hab hbc⟩
  exact List.pairwise_insertionSort _ l

theorem ranked_eq_of_perm {l l' : List α} (h : Distinct key l) (hp : l.Perm l') : ranked key l = ranked key l' := by
  have perm : (ranked key l).Perm (ranked key l') := (ranked_perm l).trans (hp.trans (ranked_perm l').symm)
  refine perm.eq_of_pairwise (fun a b ha hb hab hba => ?_) (ranked_sorted l) (ranked_sorted l')
  exact h.eq (mem_ranked.1 ha) (hp.symm.subset (mem_ranked.1 hb)) (le_antisymm hab hba)

theorem ranked_eq_self {l : List α} (h : l.Pairwise fun a b => key a ≤ key b) : ranked key l = l :=
  List.Pairwise.insertionSort_eq h

theorem filter_ranked {l : List α} (h : Distinct key l) (p : α → Bool) :
    (ranked key l).filter p = ranked key (l.filter p) := by
  rw [← ranked_eq_self ((ranked_sorted l).filter p)]
  refine ranked_eq_of_perm ?_ ((ranked_perm l).filter p)
  exact (h.perm (ranked_perm l).symm).sublist List.filter_sublist

theorem rankOf_perm {l l' : List α} (hp : l.Perm l') (x : α) : rankOf key l x = rankOf key l' x :=
  hp.countP_eq _

/-- The first `k` of a sorted list are those that fewer than `k` precede. -/
theorem take_of_sorted {l : List α} (hs : l.Pairwise fun a b => key a < key b) (k : Nat) :
    l.take k = l.filter fun x => decide (rankOf key l x < k) := by
  -- in a sorted list the head precedes everything, so each later rank is one more than in the tail
  induction l generalizing k with
  | nil => simp
  | cons a l ih =>
    rw [List.pairwise_cons] at hs
    have first : rankOf key (a :: l) a = 0 := by
      refine List.countP_eq_zero.2 fun y hy => ?_
      rw [decide_eq_true_iff]
      rcases List.mem_cons.1 hy with rfl | hy
      · exact lt_irrefl _
      · exact (hs.1 y hy).not_gt
    have rest : ∀ x ∈ l, rankOf key (a :: l) x = rankOf key l x + 1 := by
      intro x hx
      exact List.countP_cons_of_pos (decide_eq_true (hs.1 x hx))
    cases k with
    | zero => simp
    | succ k =>
      rw [List.take_succ_cons, List.filter_cons_of_pos (by rw [first]; exact decide_eq_true (Nat.succ_pos k)), ih hs.2 k]
      refine congrArg (List.cons a) (List.filter_congr fun x hx => ?_)
      rw [rest x hx]
      exact decide_eq_decide.2 Nat.succ_lt_succ_iff.symm

theorem take_ranked {l : List α} (h : Distinct key l) (k : Nat) :
    (ranked key l).take k = ranked key (l.filter fun x => decide (rankOf key l x < k)) := by
  have strict : (ranked key l).Pairwise fun a b => key a < key b := by
    have hne : (ranked key l).Pairwise fun a b => key a ≠ key b :=
      List.pairwise_map.1 (h.perm (ranked_perm l).symm)
    exact ((ranked_sorted l).and hne).imp fun hab => lt_of_le_of_ne hab.1 hab.2
  rw [take_of_sorted strict k, ← filter_ranked h]
  refine List.filter_congr fun x _ => ?_
  rw [rankOf_perm (ranked_perm l)]

/-! ### the best of each group -/

/-- What the fold has kept of the elements it has seen. -/
structure KeptBest (key : α → κ) (unit : α → υ) (seen selected : List α) : Prop where
  once : (selected.map unit).Nodup
  mem : ∀ x ∈ selected, x ∈ seen
  covers : ∀ y ∈ seen, ∃ x ∈ selected, unit x = unit y ∧ key x ≤ key y

theorem keptBest_keepBest {seen selected : List α} (h : KeptBest key unit seen selected) (x : α) :
    KeptBest key unit (seen ++ [x]) (keepBest key unit selected x) := by
  unfold keepBest
  split
  · rename_i hnone
    have fresh : ∀ y ∈ selected, unit y ≠ unit x := fun y hy hyx => by
      have hf := List.find?_eq_none.1 hnone y hy
      exact hf (decide_eq_true hyx)
    refine ⟨?_, fun y hy => ?_, fun y hy => ?_⟩
    · rw [List.map_append, List.nodup_append]
      refine ⟨h.once, List.nodup_singleton _, fun a ha b hb hab => ?_⟩
      obtain ⟨y, hy, rfl⟩ := List.mem_map.1 ha
      rw [List.map_singleton, List.mem_singleton] at hb
      exact fresh y hy (hab.trans hb)
    · rcases List.mem_append.1 hy with hy | hy
      · exact List.mem_append_left _ (h.mem y hy)
      · exact List.mem_append_right _ hy
    · rcases List.mem_append.1 hy with hy | hy
      · obtain ⟨z, hz, hzy⟩ := h.covers y hy
        exact ⟨z, List.mem_append_left _ hz, hzy⟩
      · rw [List.mem_singleton.1 hy]
        exact ⟨x, List.mem_append_right _ (List.mem_singleton.2 rfl), rfl, le_rfl⟩
  · rename_i y hsome
    have hy := List.mem_of_find?_eq_some hsome
    have hyx : unit y = unit x := by simpa using List.find?_some hsome
    split
    · rename_i hlt
      have hunits : (selected.map fun z => if unit z = unit x then x else z).map unit = selected.map unit := by
        rw [List.map_map]
        refine List.map_congr_left fun z _ => ?_
        show unit (if unit z = unit x then x else z) = unit z
        split
        · rename_i hzx
          exact hzx.symm
        · rfl
      have hx : x ∈ selected.map fun z => if unit z = unit x then x else z :=
        List.mem_map.2 ⟨y, hy, if_pos hyx⟩
      refine ⟨hunits ▸ h.once, fun z hz => ?_, fun z hz => ?_⟩
      · obtain ⟨w, hw, rfl⟩ := List.mem_map.1 hz
        split
        · exact List.mem_append_right _ (List.mem_singleton.2 rfl)
        · exact List.mem_append_left _ (h.mem w hw)
      · rcases List.mem_append.1 hz with hz | hz
        · obtain ⟨w, hw, hwz, hle⟩ := h.covers z hz
          by_cases hwx : unit w = unit x
          · have hwy : w = y := List.inj_on_of_nodup_map h.once hw hy (hwx.trans hyx.symm)
            exact ⟨x, hx, hwx.symm.trans hwz, hlt.le.trans (hwy ▸ hle)⟩
          · exact ⟨w, List.mem_map.2 ⟨w, hw, if_neg hwx⟩, hwz, hle⟩
        · rw [List.mem_singleton.1 hz]
          exact ⟨x, hx, rfl, le_rfl⟩
    · rename_i hge
      refine ⟨h.once, fun z hz => List.mem_append_left _ (h.mem z hz), fun z hz => ?_⟩
      rcases List.mem_append.1 hz with hz | hz
      · exact h.covers z hz
      · rw [List.mem_singleton.1 hz]
        exact ⟨y, hy, hyx, not_lt.1 hge⟩

theorem keptBest_foldl {seen selected : List α} (h : KeptBest key unit seen selected) (l : List α) :
    KeptBest key unit (seen ++ l) (l.foldl (keepBest key unit) selected) := by
  -- `seen` is what was folded already; what is kept is the best of it
  induction l generalizing seen selected with
  | nil =>
    rw [List.append_nil]
    exact h
  | cons x l ih =>
    have hx := ih (keptBest_keepBest h x)
    rw [List.append_assoc] at hx
    exact hx

omit [DecidableEq υ] in
theorem keptBest_nil : KeptBest key unit [] [] :=
  ⟨List.nodup_nil, fun _ h => (nomatch h), fun _ h => (nomatch h)⟩

theorem keptBest_bestOf (l : List α) : KeptBest key unit l (bestOf key unit l) :=
  keptBest_foldl keptBest_nil l

theorem bestOf_perm (unit : α → υ) {l : List α} (h : Distinct key l) : (bestOf key unit l).Perm (l.filter (isBest key unit l)) := by
  have hk := (keptBest_bestOf l : KeptBest key unit l _)
  refine (List.perm_ext_iff_of_nodup (List.Nodup.of_map unit hk.once) (h.nodup.filter _)).2 fun x => ?_
  rw [List.mem_filter]
  unfold isBest
  rw [List.all_eq_true]
  constructor
  · intro hx
    refine ⟨hk.mem x hx, fun y hy => decide_eq_true fun hyx => ?_⟩
    obtain ⟨z, hz, hzy, hle⟩ := hk.covers y hy
    obtain rfl : z = x := List.inj_on_of_nodup_map hk.once hz hx (hzy.trans hyx)
    exact hle
  · rintro ⟨hx, hbest⟩
    obtain ⟨z, hz, hzx, hle⟩ := hk.covers x hx
    have hxz := of_decide_eq_true (hbest z (hk.mem z hz)) hzx
    rw [h.eq hx (hk.mem z hz) (le_antisymm hxz hle)]
    exact hz

end Ranking

end KnowledgeBase
