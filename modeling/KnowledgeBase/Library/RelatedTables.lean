import KnowledgeBase.Library.Table
import Mathlib.Data.List.Forall2
import Mathlib.Data.List.Sort

/-!
# Related tables

Two tables are related by a relation of rows if they have the same keys and, under each key, related rows. What a
query reads of two related tables is related as well, and so are the tables two writes leave.
-/

namespace KnowledgeBase

/-! ### related lists -/

section lists

variable {α β γ δ : Type} {V : α → β → Prop} {W : γ → δ → Prop} {l : List α} {l' : List β}

theorem forall₂_filter_of_rel (h : List.Forall₂ V l l') {p : α → Bool} {q : β → Bool} (hp : ∀ a b, V a b → p a = q b) :
    List.Forall₂ V (l.filter p) (l'.filter q) := by
  induction h with
  | nil => exact List.Forall₂.nil
  | @cons a b l l' hab _ ih =>
    rw [List.filter_cons, List.filter_cons, hp a b hab]
    split
    · exact List.Forall₂.cons hab ih
    · exact ih

theorem any_eq_of_rel (h : List.Forall₂ V l l') {p : α → Bool} {q : β → Bool} (hp : ∀ a b, V a b → p a = q b) :
    l.any p = l'.any q := by
  induction h with
  | nil => rfl
  | @cons a b l l' hab _ ih => rw [List.any_cons, List.any_cons, hp a b hab, ih]

theorem map_eq_of_rel (h : List.Forall₂ V l l') {f : α → γ} {g : β → γ} (hf : ∀ a b, V a b → f a = g b) :
    l.map f = l'.map g := by
  induction h with
  | nil => rfl
  | @cons a b l l' hab _ ih => rw [List.map_cons, List.map_cons, hf a b hab, ih]

theorem mapM_option_of_rel (l : List γ) {f : γ → Option α} {g : γ → Option β} (hf : ∀ c, Option.Rel V (f c) (g c)) :
    Option.Rel (List.Forall₂ V) (l.mapM f) (l.mapM g) := by
  induction l with
  | nil => exact Option.Rel.some List.Forall₂.nil
  | cons c l ih =>
    rw [List.mapM_cons, List.mapM_cons]
    have hc := hf c
    generalize f c = o, g c = o' at hc
    generalize l.mapM f = m, l.mapM g = m' at ih
    cases hc with
    | none => exact Option.Rel.none
    | some hab =>
      cases ih with
      | none => exact Option.Rel.none
      | some hl => exact Option.Rel.some (List.Forall₂.cons hab hl)

theorem mapM_except_of_rel {ε : Type} (h : List.Forall₂ V l l') {f : α → Except ε γ} {g : β → Except ε γ}
    (hf : ∀ a b, V a b → f a = g b) : l.mapM f = l'.mapM g := by
  induction h with
  | nil => rfl
  | @cons a b l l' hab _ ih => rw [List.mapM_cons, List.mapM_cons, hf a b hab, ih]

theorem orderedInsert_of_rel {r : α → α → Prop} {r' : β → β → Prop} [DecidableRel r] [DecidableRel r']
    (hr : ∀ a b c d, V a b → V c d → (r a c ↔ r' b d)) {a : α} {b : β} (hab : V a b) (h : List.Forall₂ V l l') :
    List.Forall₂ V (l.orderedInsert r a) (l'.orderedInsert r' b) := by
  induction h with
  | nil => exact List.Forall₂.cons hab List.Forall₂.nil
  | @cons c d l l' hcd hl ih =>
    rw [List.orderedInsert_cons, List.orderedInsert_cons]
    by_cases h : r a c
    · rw [if_pos h, if_pos ((hr a b c d hab hcd).1 h)]
      exact List.Forall₂.cons hab (List.Forall₂.cons hcd hl)
    · rw [if_neg h, if_neg fun h' => h ((hr a b c d hab hcd).2 h')]
      exact List.Forall₂.cons hcd ih

theorem insertionSort_of_rel {r : α → α → Prop} {r' : β → β → Prop} [DecidableRel r] [DecidableRel r']
    (hr : ∀ a b c d, V a b → V c d → (r a c ↔ r' b d)) (h : List.Forall₂ V l l') :
    List.Forall₂ V (l.insertionSort r) (l'.insertionSort r') := by
  induction h with
  | nil => exact List.Forall₂.nil
  | cons hab _ ih => exact orderedInsert_of_rel hr hab ih

theorem zip_of_rel (h : List.Forall₂ V l l') (m : List γ) :
    List.Forall₂ (fun p q => V p.1 q.1 ∧ p.2 = q.2) (l.zip m) (l'.zip m) := by
  induction h generalizing m with
  | nil => exact List.Forall₂.nil
  | cons hab _ ih =>
    cases m with
    | nil => exact List.Forall₂.nil
    | cons c m => exact List.Forall₂.cons ⟨hab, rfl⟩ (ih m)

theorem append_of_rel {m : List α} {m' : List β} (h : List.Forall₂ V l l') (hm : List.Forall₂ V m m') :
    List.Forall₂ V (l ++ m) (l' ++ m') := by
  induction h with
  | nil => exact hm
  | cons hab _ ih => exact List.Forall₂.cons hab ih

end lists

/-! ### related tables -/

namespace Table

variable {ρ : Type}

/-- Related rows under the same keys. -/
structure Related (V : Nat → ρ → ρ → Prop) (t t' : Table ρ) : Prop where
  rows : List.Forall₂ (fun q q' => q.1 = q'.1 ∧ V q.1 q.2 q'.2) t.rows t'.rows
  next : t.next = t'.next

variable {V V' : Nat → ρ → ρ → Prop} {t t' : Table ρ}

theorem Related.get? (h : Related V t t') (k : Nat) : Option.Rel (V k) (t.get? k) (t'.get? k) := by
  have hrows := h.rows
  unfold Table.get?
  generalize t.rows = l, t'.rows = l' at hrows
  induction hrows with
  | nil => exact Option.Rel.none
  | @cons q q' l l' hq _ ih =>
    obtain ⟨j, r⟩ := q
    obtain ⟨j', r'⟩ := q'
    obtain ⟨rfl, hV⟩ := hq
    rw [List.lookup_cons, List.lookup_cons]
    by_cases hk : k = j
    · subst hk
      rw [beq_self_eq_true]
      exact Option.Rel.some hV
    · rw [beq_eq_false_iff_ne.2 hk]
      exact ih

theorem Related.select (h : Related V t t') {c c' : Nat → ρ → Bool} (hc : ∀ k r r', V k r r' → c k r = c' k r') :
    List.Forall₂ (fun q q' => q.1 = q'.1 ∧ V q.1 q.2 q'.2) (t.select c) (t'.select c') := by
  refine forall₂_filter_of_rel h.rows fun q q' hq => ?_
  obtain ⟨hk, hV⟩ := hq
  rw [← hk]
  exact hc q.1 q.2 q'.2 hV

theorem Related.any (h : Related V t t') {c c' : Nat → ρ → Bool} (hc : ∀ k r r', V k r r' → c k r = c' k r') :
    t.any c = t'.any c' := by
  refine any_eq_of_rel h.rows fun q q' hq => ?_
  obtain ⟨hk, hV⟩ := hq
  rw [← hk]
  exact hc q.1 q.2 q'.2 hV

theorem Related.count (h : Related V t t') {c c' : Nat → ρ → Bool} (hc : ∀ k r r', V k r r' → c k r = c' k r') :
    t.count c = t'.count c' :=
  (h.select hc).length_eq

theorem Related.modify (h : Related V t t') (k : Nat) {f f' : ρ → ρ} (hf : ∀ r r', V k r r' → V' k (f r) (f' r'))
    (hrest : ∀ j r r', j ≠ k → V j r r' → V' j r r') : Related V' (t.modify k f) (t'.modify k f') := by
  refine ⟨?_, h.next⟩
  refine List.forall₂_map_left_iff.2 (List.forall₂_map_right_iff.2 (h.rows.imp fun q q' hq => ?_))
  obtain ⟨hk, hV⟩ := hq
  refine ⟨hk, ?_⟩
  rw [← hk]
  by_cases hj : q.1 = k
  · simpa [hj] using hf q.2 q'.2 (hj ▸ hV)
  · simpa [hj] using hrest q.1 q.2 q'.2 hj hV

theorem Related.refl (hV : ∀ k r, V k r r) (t : Table ρ) : Related V t t :=
  ⟨List.forall₂_same.2 fun q _ => ⟨rfl, hV q.1 q.2⟩, rfl⟩

theorem Related.impOn (h : Related V t t') (hV : ∀ k r r', t.get? k = some r → V k r r' → V' k r r') :
    Related V' t t' := by
  refine ⟨?_, h.next⟩
  have hmem : ∀ q ∈ t.rows, t.get? q.1 = some q.2 := fun q hq => get?_eq_some_iff.2 hq
  have hrows := h.rows
  generalize t.rows = l, t'.rows = l' at hrows hmem
  induction hrows with
  | nil => exact List.Forall₂.nil
  | @cons q q' l l' hq _ ih =>
    exact List.Forall₂.cons ⟨hq.1, hV q.1 q.2 q'.2 (hmem q List.mem_cons_self) hq.2⟩
      (ih fun r hr => hmem r (List.mem_cons_of_mem q hr))

theorem related_modify {k : Nat} {f : ρ → ρ} (hf : ∀ r, t.get? k = some r → V k r (f r)) (hrefl : ∀ j r, V j r r) :
    Related V t (t.modify k f) := by
  refine ⟨?_, rfl⟩
  refine List.forall₂_map_right_iff.2 (List.forall₂_same.2 fun q hq => ⟨rfl, ?_⟩)
  by_cases hk : q.1 = k
  · simpa [hk] using hf q.2 (get?_eq_some_iff.2 (hk ▸ hq))
  · simpa [hk] using hrefl q.1 q.2

end Table

end KnowledgeBase
