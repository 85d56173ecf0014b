import Mathlib.Data.List.Nodup

/-!
# Tables

A table is a finite list of rows under distinct numeric keys, with a counter for the next key. Rows are read by
key or selected by a predicate; they are written by `insert`, which takes a fresh key, and by `update`, which
rewrites the rows satisfying a condition. No operation removes a row, and every law below is read off `get?`.
-/

namespace KnowledgeBase

/-- Rows under distinct keys, all of them below the next free key. -/
structure Table (ρ : Type) where
  rows : List (Nat × ρ)
  next : Nat
  nodup : (rows.map Prod.fst).Nodup
  bound : ∀ k ∈ rows.map Prod.fst, k < next

namespace Table

variable {ρ : Type}

def empty : Table ρ := ⟨[], 0, List.nodup_nil, by simp⟩

def get? (t : Table ρ) (k : Nat) : Option ρ := t.rows.lookup k

/-- The row takes the next free key. -/
def insert (t : Table ρ) (r : ρ) : Table ρ where
  rows := t.rows ++ [(t.next, r)]
  next := t.next + 1
  nodup := by
    have h : t.next ∉ t.rows.map Prod.fst := fun hk => Nat.lt_irrefl _ (t.bound _ hk)
    simp only [List.map_append, List.map_cons, List.map_nil]
    exact List.nodup_append.2 ⟨t.nodup, List.nodup_singleton _, by
      intro a ha b hb hab
      simp only [List.mem_singleton] at hb
      subst hb hab
      exact h ha⟩
  bound := by
    intro k hk
    simp only [List.map_append, List.map_cons, List.map_nil, List.mem_append, List.mem_singleton] at hk
    rcases hk with hk | hk
    · exact Nat.lt_succ_of_lt (t.bound k hk)
    · omega

/-- Rewrites the rows on which the condition holds. -/
def update (t : Table ρ) (c : Nat → ρ → Bool) (f : Nat → ρ → ρ) : Table ρ where
  rows := t.rows.map fun r => (r.1, if c r.1 r.2 then f r.1 r.2 else r.2)
  next := t.next
  nodup := by simpa [List.map_map, Function.comp_def] using t.nodup
  bound := by simpa [List.map_map, Function.comp_def] using t.bound

/-- Rewrites the row under one key. -/
def modify (t : Table ρ) (k : Nat) (f : ρ → ρ) : Table ρ := t.update (fun j _ => j == k) fun _ => f

def select (t : Table ρ) (c : Nat → ρ → Bool) : List (Nat × ρ) := t.rows.filter fun r => c r.1 r.2

def count (t : Table ρ) (c : Nat → ρ → Bool) : Nat := (t.select c).length

def any (t : Table ρ) (c : Nat → ρ → Bool) : Bool := t.rows.any fun r => c r.1 r.2

/-! ### reading -/

private theorem lookup_eq_some_iff {l : List (Nat × ρ)} (hl : (l.map Prod.fst).Nodup) {k : Nat} {r : ρ} :
    l.lookup k = some r ↔ (k, r) ∈ l := by
  induction l with
  | nil => simp
  | cons p l ih =>
    obtain ⟨j, q⟩ := p
    simp only [List.map_cons, List.nodup_cons] at hl
    rw [List.lookup_cons]
    by_cases hj : k = j
    · subst hj
      simp only [beq_self_eq_true, Option.some.injEq, List.mem_cons, Prod.mk.injEq, true_and]
      refine ⟨fun h => Or.inl h.symm, fun h => ?_⟩
      rcases h with h | h
      · exact h.symm
      · exact absurd (List.mem_map_of_mem (f := Prod.fst) h) hl.1
    · have hb : (k == j) = false := beq_eq_false_iff_ne.2 hj
      simp [hb, hj, ih hl.2]

theorem get?_eq_some_iff {t : Table ρ} {k : Nat} {r : ρ} : t.get? k = some r ↔ (k, r) ∈ t.rows :=
  lookup_eq_some_iff t.nodup

theorem lt_next {t : Table ρ} {k : Nat} {r : ρ} (h : t.get? k = some r) : k < t.next :=
  t.bound k (List.mem_map_of_mem (f := Prod.fst) (get?_eq_some_iff.1 h))

@[simp] theorem get?_next (t : Table ρ) : t.get? t.next = none := by
  cases h : t.get? t.next with
  | none => rfl
  | some r => exact absurd (lt_next h) (Nat.lt_irrefl _)

@[simp] theorem get?_empty (k : Nat) : (empty : Table ρ).get? k = none := rfl

theorem mem_select {t : Table ρ} {c : Nat → ρ → Bool} {k : Nat} {r : ρ} :
    (k, r) ∈ t.select c ↔ t.get? k = some r ∧ c k r = true := by
  simp [select, List.mem_filter, get?_eq_some_iff]

theorem any_eq_true_iff {t : Table ρ} {c : Nat → ρ → Bool} :
    t.any c = true ↔ ∃ k r, t.get? k = some r ∧ c k r = true := by
  simp only [any, List.any_eq_true, get?_eq_some_iff, Prod.exists]

theorem count_eq_zero_iff {t : Table ρ} {c : Nat → ρ → Bool} :
    t.count c = 0 ↔ ∀ k r, t.get? k = some r → c k r = false := by
  simp only [count, select, List.length_eq_zero_iff, List.filter_eq_nil_iff, Bool.not_eq_true, Prod.forall,
    get?_eq_some_iff]

/-! ### writing -/

theorem get?_insert (t : Table ρ) (r : ρ) (k : Nat) :
    (t.insert r).get? k = if k = t.next then some r else t.get? k := by
  have happ : (t.rows ++ [(t.next, r)]).lookup k = (t.rows.lookup k).or ([(t.next, r)].lookup k) :=
    List.lookup_append
  unfold get? insert
  simp only
  rw [happ]
  by_cases hk : k = t.next
  · subst hk
    have h : t.rows.lookup t.next = none := get?_next t
    simp [h]
  · have hb : (k == t.next) = false := beq_eq_false_iff_ne.2 hk
    have h : [(t.next, r)].lookup k = none := by simp [List.lookup_cons, hb]
    simp [h, hk]

@[simp] theorem get?_insert_self (t : Table ρ) (r : ρ) : (t.insert r).get? t.next = some r := by
  simp [get?_insert]

theorem get?_insert_of_lt {t : Table ρ} {r : ρ} {k : Nat} (hk : k < t.next) :
    (t.insert r).get? k = t.get? k := by
  rw [get?_insert, if_neg (Nat.ne_of_lt hk)]

@[simp] theorem next_insert (t : Table ρ) (r : ρ) : (t.insert r).next = t.next + 1 := rfl

private theorem lookup_map (l : List (Nat × ρ)) (g : Nat → ρ → ρ) (k : Nat) :
    (l.map fun r => (r.1, g r.1 r.2)).lookup k = (l.lookup k).map (g k) := by
  induction l with
  | nil => rfl
  | cons p l ih =>
    obtain ⟨j, q⟩ := p
    simp only [List.map_cons, List.lookup_cons]
    by_cases hj : k = j
    · subst hj; simp
    · have hb : (k == j) = false := beq_eq_false_iff_ne.2 hj
      simp [hb, ih]

theorem get?_update (t : Table ρ) (c : Nat → ρ → Bool) (f : Nat → ρ → ρ) (k : Nat) :
    (t.update c f).get? k = (t.get? k).map fun r => if c k r then f k r else r :=
  lookup_map t.rows (fun j r => if c j r then f j r else r) k

theorem get?_modify (t : Table ρ) (k j : Nat) (f : ρ → ρ) :
    (t.modify k f).get? j = (t.get? j).map fun r => if j = k then f r else r := by
  simp [modify, get?_update]

@[simp] theorem get?_modify_self (t : Table ρ) (k : Nat) (f : ρ → ρ) :
    (t.modify k f).get? k = (t.get? k).map f := by
  simp [get?_modify]

theorem get?_modify_of_ne {t : Table ρ} {k j : Nat} (h : j ≠ k) (f : ρ → ρ) :
    (t.modify k f).get? j = t.get? j := by
  simp [get?_modify, h]

theorem get?_update_eq_some {t : Table ρ} {c : Nat → ρ → Bool} {f : Nat → ρ → ρ} {k : Nat} {r : ρ}
    (h : (t.update c f).get? k = some r) : ∃ q, t.get? k = some q ∧ r = if c k q then f k q else q := by
  rw [get?_update] at h
  cases hq : t.get? k with
  | none => simp [hq] at h
  | some q => exact ⟨q, rfl, by simpa [hq] using h.symm⟩

theorem get?_insert_eq_some {t : Table ρ} {r q : ρ} {k : Nat} (h : (t.insert r).get? k = some q) :
    (k = t.next ∧ q = r) ∨ t.get? k = some q := by
  rw [get?_insert] at h
  by_cases hk : k = t.next
  · rw [if_pos hk] at h
    exact Or.inl ⟨hk, (Option.some.inj h).symm⟩
  · rw [if_neg hk] at h
    exact Or.inr h

/-! ### counting -/

theorem count_insert (t : Table ρ) (r : ρ) (c : Nat → ρ → Bool) :
    (t.insert r).count c = t.count c + if c t.next r then 1 else 0 := by
  unfold count select insert
  simp only [List.filter_append, List.length_append]
  by_cases hc : c t.next r = true
  · simp [hc]
  · simp [hc]

theorem count_update_le_add (t : Table ρ) (c p : Nat → ρ → Bool) (f : Nat → ρ → ρ) :
    (t.update c f).count p ≤ t.count p + t.count fun k r => c k r && p k (f k r) := by
  unfold count select update
  simp only
  induction t.rows with
  | nil => exact Nat.le_refl _
  | cons q l ih =>
    obtain ⟨k, r⟩ := q
    simp only [List.map_cons, List.filter_cons]
    by_cases hc : c k r = true
    · by_cases hp : p k (f k r) = true
      · simp only [hc, hp, if_true, Bool.and_self, List.length_cons]
        split <;> grind
      · simp only [hc, hp, if_true, Bool.and_false]
        split <;> grind
    · simp only [hc, Bool.false_and]
      split <;> grind

theorem count_update_le {t : Table ρ} {c p : Nat → ρ → Bool} {f : Nat → ρ → ρ}
    (h : ∀ k r, t.get? k = some r → c k r = true → p k (f k r) = true → p k r = true) :
    (t.update c f).count p ≤ t.count p := by
  unfold count select update
  simp only
  have hrows : ∀ q ∈ t.rows, c q.1 q.2 = true → p q.1 (f q.1 q.2) = true → p q.1 q.2 = true :=
    fun q hq => h q.1 q.2 (get?_eq_some_iff.2 hq)
  generalize t.rows = rows at hrows ⊢
  induction rows with
  | nil => exact Nat.le_refl _
  | cons q l ih =>
    have hrest := ih fun r hr => hrows r (List.mem_cons_of_mem q hr)
    simp only [List.map_cons, List.filter_cons]
    by_cases hc : c q.1 q.2 = true
    · by_cases hp : p q.1 (f q.1 q.2) = true
      · have hq := hrows q List.mem_cons_self hc hp
        simp only [hc, hp, hq, if_true, List.length_cons]
        omega
      · simp only [hc, hp, if_true]
        split <;> grind
    · simp only [hc]
      split <;> grind

theorem count_key_le_one (t : Table ρ) (k : Nat) (c : Nat → ρ → Bool) : (t.count fun j r => j == k && c j r) ≤ 1 := by
  have hsingle : t.rows.countP (fun q => q.1 == k) ≤ 1 := by
    have hnodup := List.nodup_iff_count_le_one.1 t.nodup k
    rw [List.count, List.countP_map] at hnodup
    exact hnodup
  unfold count select
  rw [← List.countP_eq_length_filter]
  refine Nat.le_trans (List.countP_mono_left fun q _ hq => ?_) hsingle
  rw [Bool.and_eq_true] at hq
  exact hq.1

theorem count_modify_le {t : Table ρ} {k : Nat} {f : ρ → ρ} {p : Nat → ρ → Bool}
    (h : ∀ r, t.get? k = some r → p k (f r) = true → p k r = true) : (t.modify k f).count p ≤ t.count p := by
  refine count_update_le fun j r hr hj hp => ?_
  obtain rfl : j = k := by simpa using hj
  exact h r hr hp

theorem count_modify_le_succ (t : Table ρ) (k : Nat) (f : ρ → ρ) (p : Nat → ρ → Bool) :
    (t.modify k f).count p ≤ t.count p + 1 :=
  Nat.le_trans (count_update_le_add t _ p _) (Nat.add_le_add_left (count_key_le_one t k _) _)

end Table

end KnowledgeBase
