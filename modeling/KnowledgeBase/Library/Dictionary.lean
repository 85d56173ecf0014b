import KnowledgeBase.Library.Json
import Mathlib.Data.String.Basic

/-!
# Dictionaries

What is set in a dictionary, taken out of it and replaced in it, by key; a sorted dictionary stays sorted.
-/

namespace KnowledgeBase

namespace Json

/-- `d[k] = v`. -/
def put : Dict → String → Json → Dict
  | [], k, v => [(k, v)]
  | (k', v') :: d, k, v =>
    if k < k' then (k, v) :: (k', v') :: d else if k = k' then (k, v) :: d else (k', v') :: put d k v

/-- `d.pop(k, None)`. -/
def pop (d : Dict) (k : String) : Dict := d.filter fun m => m.1 != k

/-- The value under a key is replaced. -/
def replace (d : Dict) (k : String) (v : Json) : Dict := d.map fun m => if m.1 = k then (k, v) else m

/-- `d.update(fields)`. -/
def update (d : Dict) (fields : List (String × Json)) : Dict := fields.foldl (fun d m => put d m.1 m.2) d

theorem lookup_put (d : Dict) (k : String) (v : Json) (q : String) :
    (put d k v).lookup q = if q = k then some v else d.lookup q := by
  induction d with
  | nil =>
    by_cases hq : q = k
    · simp [put, hq]
    · simp [put, List.lookup_cons, hq, beq_false_of_ne hq]
  | cons m d ih =>
    obtain ⟨k', v'⟩ := m
    unfold put
    split
    · by_cases hq : q = k
      · simp [hq]
      · simp [List.lookup_cons, hq, beq_false_of_ne hq]
    · split
      · rename_i hk
        subst hk
        by_cases hq : q = k
        · simp [hq]
        · simp [List.lookup_cons, hq, beq_false_of_ne hq]
      · rename_i hne
        rw [List.lookup_cons, List.lookup_cons, ih]
        by_cases hqk : q = k
        · have hq : q ≠ k' := fun h => hne (hqk.symm.trans h)
          simp [hqk, beq_false_of_ne (hqk ▸ hq)]
        · simp only [if_neg hqk]

theorem lookup_pop (d : Dict) (k q : String) : (pop d k).lookup q = if q = k then none else d.lookup q := by
  unfold pop
  induction d with
  | nil => simp
  | cons m d ih =>
    obtain ⟨k', v'⟩ := m
    by_cases hk : k' = k
    · rw [List.filter_cons_of_neg (by simp [hk]), ih, List.lookup_cons]
      by_cases hq : q = k
      · simp [hq]
      · simp [hq, hk, beq_false_of_ne hq]
    · rw [List.filter_cons_of_pos (by simp [hk]), List.lookup_cons, List.lookup_cons, ih]
      by_cases hq : q = k'
      · simp [hq, hk]
      · simp [beq_false_of_ne hq]

theorem lookup_replace (d : Dict) (k : String) (v : Json) (q : String) :
    (replace d k v).lookup q = if q = k then (d.lookup k).map fun _ => v else d.lookup q := by
  unfold replace
  induction d with
  | nil => simp
  | cons m d ih =>
    obtain ⟨k', v'⟩ := m
    rw [List.map_cons]
    by_cases hk : k' = k
    · subst hk
      simp only [if_true, List.lookup_cons, ih]
      by_cases hq : q = k'
      · simp [hq]
      · simp [hq, beq_false_of_ne hq]
    · simp only [hk, if_false, List.lookup_cons, ih]
      by_cases hq : q = k'
      · simp [hq, hk]
      · by_cases hqk : q = k
        · subst hqk
          simp [beq_false_of_ne hq]
        · simp [beq_false_of_ne hq, hqk]

theorem mem_put {d : Dict} {k : String} {v : Json} {m : String × Json} (h : m ∈ put d k v) : m = (k, v) ∨ m ∈ d := by
  induction d with
  | nil => exact .inl (List.mem_singleton.1 h)
  | cons m' d ih =>
    obtain ⟨k', v'⟩ := m'
    unfold put at h
    split at h
    · exact List.mem_cons.1 h
    · split at h
      · rcases List.mem_cons.1 h with h | h
        · exact .inl h
        · exact .inr (List.mem_cons_of_mem _ h)
      · rcases List.mem_cons.1 h with h | h
        · exact .inr (h ▸ List.mem_cons_self)
        · rcases ih h with h | h
          · exact .inl h
          · exact .inr (List.mem_cons_of_mem _ h)

/-- The keys stand in order, each once. -/
def KeysSorted (d : Dict) : Prop := (d.map Prod.fst).Pairwise (· < ·)

theorem keysSorted_put {d : Dict} (h : KeysSorted d) (k : String) (v : Json) : KeysSorted (put d k v) := by
  unfold KeysSorted at *
  induction d with
  | nil => exact List.pairwise_singleton _ _
  | cons m d ih =>
    obtain ⟨k', v'⟩ := m
    rw [List.map_cons, List.pairwise_cons] at h
    unfold put
    split
    · rename_i hlt
      rw [List.map_cons, List.map_cons, List.pairwise_cons, List.pairwise_cons]
      refine ⟨fun q hq => ?_, h⟩
      rcases List.mem_cons.1 hq with rfl | hq
      · exact hlt
      · exact String.lt_trans hlt (h.1 q hq)
    · split
      · rename_i heq
        subst heq
        rw [List.map_cons, List.pairwise_cons]
        exact h
      · rename_i hnlt hne
        rw [List.map_cons, List.pairwise_cons]
        refine ⟨fun q hq => ?_, ih h.2⟩
        obtain ⟨m, hm, rfl⟩ := List.mem_map.1 hq
        rcases mem_put hm with rfl | hm
        · exact lt_of_le_of_ne (not_lt.1 hnlt) (Ne.symm hne)
        · exact h.1 m.1 (List.mem_map_of_mem hm)

theorem keysSorted_pop {d : Dict} (h : KeysSorted d) (k : String) : KeysSorted (pop d k) :=
  h.sublist (List.filter_sublist.map _)

theorem keys_replace (d : Dict) (k : String) (v : Json) : (replace d k v).map Prod.fst = d.map Prod.fst := by
  unfold replace
  rw [List.map_map]
  refine List.map_congr_left fun m _ => ?_
  by_cases hk : m.1 = k
  · simp [hk]
  · simp [hk]

theorem replace_replace (d : Dict) (k : String) (v w : Json) : replace (replace d k v) k w = replace d k w := by
  unfold replace
  rw [List.map_map]
  refine List.map_congr_left fun m _ => ?_
  by_cases hk : m.1 = k
  · simp [hk]
  · simp [hk]

theorem sorted_put {d : Dict} (h : (Json.obj d).Sorted) {v : Json} (hv : v.Sorted) (k : String) :
    (Json.obj (put d k v)).Sorted := by
  cases h with
  | obj hk hd =>
    refine .obj (keysSorted_put hk k v) fun m hm => ?_
    rcases mem_put hm with rfl | hm
    · exact hv
    · exact hd m hm

theorem sorted_pop {d : Dict} (h : (Json.obj d).Sorted) (k : String) : (Json.obj (pop d k)).Sorted := by
  cases h with
  | obj hk hd => exact .obj (keysSorted_pop hk k) fun m hm => hd m (List.mem_of_mem_filter hm)

theorem sorted_replace {d : Dict} (h : (Json.obj d).Sorted) {v : Json} (hv : v.Sorted) (k : String) :
    (Json.obj (replace d k v)).Sorted := by
  cases h with
  | obj hk hd =>
    refine .obj ((keys_replace d k v).symm ▸ hk) fun m hm => ?_
    obtain ⟨m', hm', rfl⟩ := List.mem_map.1 hm
    by_cases hk' : m'.1 = k
    · rw [if_pos hk']
      exact hv
    · rw [if_neg hk']
      exact hd m' hm'

theorem Sorted.lookup {d : Dict} (h : (Json.obj d).Sorted) {k : String} {v : Json} (hv : d.lookup k = some v) :
    v.Sorted := by
  cases h with
  | obj hk hd =>
    clear hk
    induction d with
    | nil => cases hv
    | cons m d ih =>
      obtain ⟨k', v'⟩ := m
      rw [List.lookup_cons] at hv
      split at hv
      · cases hv
        exact hd _ List.mem_cons_self
      · exact ih hv fun m hm => hd m (List.mem_cons_of_mem _ hm)

theorem lookup_update_ne {fields : List (String × Json)} {k : String} (h : ∀ m ∈ fields, m.1 ≠ k) (state : Dict) :
    (update state fields).lookup k = state.lookup k := by
  unfold update
  induction fields generalizing state with
  | nil => rfl
  | cons m fields ih =>
    rw [List.foldl_cons, ih fun m hm => h m (List.mem_cons_of_mem _ hm), lookup_put,
      if_neg fun heq => h m List.mem_cons_self heq.symm]

theorem sorted_update {fields : List (String × Json)} (h : ∀ m ∈ fields, m.2.Sorted) {state : Dict}
    (hstate : (Json.obj state).Sorted) : (Json.obj (update state fields)).Sorted := by
  unfold update
  induction fields generalizing state with
  | nil => exact hstate
  | cons m fields ih =>
    rw [List.foldl_cons]
    exact ih (fun m hm => h m (List.mem_cons_of_mem _ hm)) (sorted_put hstate (h m List.mem_cons_self) _)

end Json

end KnowledgeBase
