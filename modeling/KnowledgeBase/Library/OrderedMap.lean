import Mathlib.Data.List.Basic
import Mathlib.Data.List.Nodup
import Mathlib.Data.List.Perm.Subperm

/-!
# Maps in insertion order

A map that keeps its keys in the order they were first put: a value that is put again stays in its place, and the
oldest key can be dropped. The number of the keys with a property changes with each operation by what is said here.
-/

namespace KnowledgeBase

/-- Entries with distinct keys, the oldest first. -/
structure OrderedMap (κ ν : Type) where
  entries : List (κ × ν)
  nodup : (entries.map Prod.fst).Nodup

namespace OrderedMap

variable {κ ν : Type} [DecidableEq κ]

def empty : OrderedMap κ ν := ⟨[], List.nodup_nil⟩

def size (m : OrderedMap κ ν) : Nat := m.entries.length

def get? (m : OrderedMap κ ν) (k : κ) : Option ν := (m.entries.find? fun e => e.1 = k).map Prod.snd

/-- The number of the keys with the property. -/
def count (m : OrderedMap κ ν) (p : κ → Bool) : Nat := m.entries.countP fun e => p e.1

/-- The entries with the value of the key replaced, or with the key at their end. -/
def putEntries (k : κ) (v : ν) : List (κ × ν) → List (κ × ν)
  | [] => [(k, v)]
  | e :: l => if e.1 = k then (k, v) :: l else e :: putEntries k v l

theorem mem_keys_putEntries {k j : κ} {v : ν} {l : List (κ × ν)} (h : j ∈ (putEntries k v l).map Prod.fst) :
    j = k ∨ j ∈ l.map Prod.fst := by
  induction l with
  | nil => exact .inl (List.mem_singleton.1 h)
  | cons e l ih =>
    unfold putEntries at h
    by_cases he : e.1 = k
    · rw [if_pos he] at h
      rcases List.mem_cons.1 h with h | h
      · exact .inl h
      · exact .inr (List.mem_cons_of_mem _ h)
    · rw [if_neg he] at h
      rcases List.mem_cons.1 h with h | h
      · exact .inr (h ▸ List.mem_cons_self)
      · exact (ih h).imp id (List.mem_cons_of_mem _)

theorem nodup_putEntries {k : κ} {v : ν} {l : List (κ × ν)} (h : (l.map Prod.fst).Nodup) :
    ((putEntries k v l).map Prod.fst).Nodup := by
  induction l with
  | nil => exact List.nodup_singleton _
  | cons e l ih =>
    rw [List.map_cons, List.nodup_cons] at h
    unfold putEntries
    by_cases he : e.1 = k
    · rw [if_pos he, List.map_cons, List.nodup_cons]
      exact ⟨he ▸ h.1, h.2⟩
    · rw [if_neg he, List.map_cons, List.nodup_cons]
      refine ⟨fun hmem => ?_, ih h.2⟩
      rcases mem_keys_putEntries hmem with heq | hmem
      · exact he heq
      · exact h.1 hmem

def put (m : OrderedMap κ ν) (k : κ) (v : ν) : OrderedMap κ ν := ⟨putEntries k v m.entries, nodup_putEntries m.nodup⟩

/-- The entries whose keys have the property. -/
def keep (m : OrderedMap κ ν) (p : κ → Bool) : OrderedMap κ ν where
  entries := m.entries.filter fun e => p e.1
  nodup := m.nodup.sublist ((List.filter_sublist).map _)

/-- The map without its oldest key. -/
def dropFirst (m : OrderedMap κ ν) : OrderedMap κ ν where
  entries := m.entries.tail
  nodup := m.nodup.sublist ((List.tail_sublist _).map _)

variable {m : OrderedMap κ ν} {k j : κ} {v : ν} {p q : κ → Bool}

/-! ### lookups -/

theorem find?_eq_none_of_not_mem {l : List (κ × ν)} (h : k ∉ l.map Prod.fst) : (l.find? fun e => e.1 = k) = none := by
  rw [List.find?_eq_none]
  intro e he heq
  exact h (List.mem_map.2 ⟨e, he, by simpa using heq⟩)

theorem get?_eq_none_iff : m.get? k = none ↔ k ∉ m.entries.map Prod.fst := by
  constructor
  · intro h hmem
    obtain ⟨e, he, heq⟩ := List.mem_map.1 hmem
    have hnone := List.find?_eq_none.1 (Option.map_eq_none_iff.1 h) e he
    simp [heq] at hnone
  · intro h
    unfold get?
    rw [find?_eq_none_of_not_mem h]
    rfl

theorem find?_putEntries (k j : κ) (v : ν) (l : List (κ × ν)) :
    ((putEntries k v l).find? fun e => e.1 = j) = if j = k then some (k, v) else l.find? fun e => e.1 = j := by
  induction l with
  | nil =>
    by_cases hj : j = k
    · simp [putEntries, hj]
    · simp [putEntries, hj, Ne.symm hj]
  | cons e l ih =>
    unfold putEntries
    by_cases he : e.1 = k
    · rw [if_pos he]
      by_cases hj : j = k
      · simp [hj]
      · have hne : ¬ e.1 = j := fun h => hj (h.symm.trans he)
        simp [hj, Ne.symm hj, hne]
    · rw [if_neg he]
      by_cases hej : e.1 = j
      · have hj : ¬ j = k := fun h => he (hej.trans h)
        simp [hej, hj]
      · rw [List.find?_cons_of_neg (by simpa using hej), ih, List.find?_cons_of_neg (by simpa using hej)]

theorem get?_put (m : OrderedMap κ ν) (k j : κ) (v : ν) : (m.put k v).get? j = if j = k then some v else m.get? j := by
  unfold get? put
  rw [find?_putEntries]
  split <;> rfl

@[simp] theorem get?_put_self (m : OrderedMap κ ν) (k : κ) (v : ν) : (m.put k v).get? k = some v := by
  rw [get?_put, if_pos rfl]

theorem get?_put_of_ne (h : j ≠ k) (m : OrderedMap κ ν) (v : ν) : (m.put k v).get? j = m.get? j := by
  rw [get?_put, if_neg h]

theorem get?_keep (m : OrderedMap κ ν) (p : κ → Bool) (k : κ) : (m.keep p).get? k = if p k then m.get? k else none := by
  unfold get? keep
  dsimp only
  rw [List.find?_filter]
  by_cases hp : p k = true
  · rw [if_pos hp]
    have hsame (e : κ × ν) : decide (p e.1 = true ∧ decide (e.1 = k) = true) = decide (e.1 = k) := by
      by_cases he : e.1 = k <;> simp [he, hp]
    simp only [hsame]
  · rw [if_neg hp, Option.map_eq_none_iff, List.find?_eq_none]
    intro e _ he
    simp only [decide_eq_true_eq] at he
    exact hp (he.2 ▸ he.1)

/-! ### numbers of keys -/

theorem count_putEntries (k : κ) (v : ν) (l : List (κ × ν)) : (putEntries k v l).countP (fun e => p e.1) =
    l.countP (fun e => p e.1) + if k ∉ l.map Prod.fst ∧ p k = true then 1 else 0 := by
  induction l with
  | nil => by_cases hp : p k = true <;> simp [putEntries, hp]
  | cons e l ih =>
    unfold putEntries
    by_cases he : e.1 = k
    · have hmem : k ∈ (e :: l).map Prod.fst := by simp [he]
      rw [if_pos he, if_neg fun h => h.1 hmem, List.countP_cons, List.countP_cons, he]
      rfl
    · have hmem : k ∉ (e :: l).map Prod.fst ↔ k ∉ l.map Prod.fst := by
        rw [List.map_cons, List.mem_cons, not_or]
        exact ⟨fun h => h.2, fun h => ⟨Ne.symm he, h⟩⟩
      rw [if_neg he, List.countP_cons, List.countP_cons, ih]
      simp only [hmem]
      omega

theorem count_put (m : OrderedMap κ ν) (k : κ) (v : ν) :
    (m.put k v).count p = m.count p + if m.get? k = none ∧ p k = true then 1 else 0 := by
  unfold count put
  rw [count_putEntries]
  simp only [get?_eq_none_iff]

omit [DecidableEq κ] in
theorem count_keep_le (m : OrderedMap κ ν) (q : κ → Bool) : (m.keep q).count p ≤ m.count p :=
  (List.filter_sublist).countP_le

omit [DecidableEq κ] in
theorem count_le_size (m : OrderedMap κ ν) : m.count p ≤ m.size := List.countP_le_length

omit [DecidableEq κ] in
theorem size_keep_le (m : OrderedMap κ ν) (p : κ → Bool) : (m.keep p).size ≤ m.size := List.length_filter_le _ _

/-- Keys with the property that are none but those of the list are no more than the list is long. -/
theorem count_le_length {keys : List κ} (h : ∀ k, p k = true → m.get? k ≠ none → k ∈ keys) : m.count p ≤ keys.length := by
  have hsub : ((m.entries.map Prod.fst).filter p) ⊆ keys := by
    intro k hk
    obtain ⟨hmem, hp⟩ := List.mem_filter.1 hk
    exact h k hp fun hnone => get?_eq_none_iff.1 hnone hmem
  have hlength := (List.subperm_of_subset (m.nodup.filter p) hsub).length_le
  rw [← List.countP_eq_length_filter, List.countP_map] at hlength
  exact hlength

end OrderedMap

end KnowledgeBase
