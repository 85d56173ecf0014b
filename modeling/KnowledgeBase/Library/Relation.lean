import KnowledgeBase.Library.Checked
import Mathlib.Data.List.Perm.Basic
import Mathlib.Data.List.Nodup

/-!
# Relations

A table whose keys its writers choose is the list of its rows, in the order of insertion. `updateWhere` is an
`UPDATE … WHERE`, `casWhere` one whose row count has to be one, `insertUnique` an `INSERT` under a unique key. What
each does to membership and to the keys is said once here.
-/

namespace KnowledgeBase

namespace Relational

open Checked

variable {ρ κ ε : Type}

def updateWhere (c : ρ → Bool) (f : ρ → ρ) (l : List ρ) : List ρ := l.map fun r => if c r then f r else r

/-- An update that has to change exactly one row. -/
def casWhere (c : ρ → Bool) (f : ρ → ρ) (e : ε) (l : List ρ) : Except ε (List ρ) := do
  failIf (l.countP c != 1) e
  pure (updateWhere c f l)

/-- An insertion that has to keep the key unique. -/
def insertUnique [BEq κ] (key : ρ → κ) (e : ε) (r : ρ) (l : List ρ) : Except ε (List ρ) := do
  failIf (l.any fun q => key q == key r) e
  pure (l ++ [r])

/-- `INSERT OR IGNORE`. -/
def insertOrIgnore (clash : ρ → Bool) (r : ρ) (l : List ρ) : List ρ := if l.any clash then l else l ++ [r]

/-! ### membership -/

theorem mem_updateWhere {c : ρ → Bool} {f : ρ → ρ} {l : List ρ} {r : ρ} :
    r ∈ updateWhere c f l ↔ ∃ q ∈ l, (if c q then f q else q) = r := List.mem_map

theorem mem_updateWhere_of_mem {c : ρ → Bool} {f : ρ → ρ} {l : List ρ} {q : ρ} (h : q ∈ l) :
    (if c q then f q else q) ∈ updateWhere c f l := mem_updateWhere.2 ⟨q, h, rfl⟩

theorem mem_updateWhere_of_ne {key : ρ → κ} {c : ρ → Bool} {f : ρ → ρ} {l : List ρ} {k : κ} (hf : ∀ r, key (f r) = key r)
    (hc : ∀ r, c r = true → key r = k) {r : ρ} (hr : key r ≠ k) : r ∈ updateWhere c f l ↔ r ∈ l := by
  rw [mem_updateWhere]
  constructor
  · rintro ⟨q, hq, rfl⟩
    by_cases hcq : c q = true
    · rw [if_pos hcq, hf] at hr
      exact absurd (hc q hcq) hr
    · rw [if_neg hcq]
      exact hq
  · exact fun hmem => ⟨r, hmem, if_neg fun hcr => hr (hc r hcr)⟩

theorem updateWhere_of_forall {c : ρ → Bool} {f : ρ → ρ} {l : List ρ} (h : ∀ r ∈ l, c r = false) :
    updateWhere c f l = l := by
  unfold updateWhere
  conv_rhs => rw [← List.map_id l]
  refine List.map_congr_left fun r hr => ?_
  rw [h r hr]
  rfl

/-- A row of the updated table is an old row that the update did not reach, or the image of one it did. -/
theorem mem_updateWhere_cases {c : ρ → Bool} {f : ρ → ρ} {l : List ρ} {r : ρ} (h : r ∈ updateWhere c f l) :
    r ∈ l ∧ c r = false ∨ ∃ q ∈ l, c q = true ∧ r = f q := by
  obtain ⟨q, hq, rfl⟩ := mem_updateWhere.1 h
  by_cases hc : c q = true
  · rw [if_pos hc]
    exact .inr ⟨q, hq, hc, rfl⟩
  · rw [if_neg hc]
    exact .inl ⟨hq, Bool.not_eq_true _ ▸ hc⟩

theorem filter_updateWhere {c p : ρ → Bool} {f : ρ → ρ} {l : List ρ} (hc : ∀ r ∈ l, c r = true → p r = false)
    (hf : ∀ r ∈ l, c r = true → p (f r) = false) : (updateWhere c f l).filter p = l.filter p := by
  induction l with
  | nil => rfl
  | cons r l ih =>
    have hstep : updateWhere c f (r :: l) = (if c r then f r else r) :: updateWhere c f l := rfl
    have hrest := ih (fun q hq => hc q (List.mem_cons_of_mem r hq)) (fun q hq => hf q (List.mem_cons_of_mem r hq))
    rw [hstep]
    by_cases hr : c r = true
    · rw [if_pos hr, List.filter_cons_of_neg (by simp [hf r List.mem_cons_self hr]),
        List.filter_cons_of_neg (by simp [hc r List.mem_cons_self hr]), hrest]
    · rw [if_neg hr, List.filter_cons, List.filter_cons, hrest]

theorem filter_updateWhere_of_eq {c p : ρ → Bool} {f : ρ → ρ} (h : ∀ r, p (f r) = p r) (l : List ρ) :
    (updateWhere c f l).filter p = updateWhere c f (l.filter p) := by
  unfold updateWhere
  rw [List.filter_map]
  congr 1
  refine List.filter_congr fun r _ => ?_
  simp only [Function.comp_apply]
  split
  · exact h r
  · rfl

theorem countP_updateWhere {c p : ρ → Bool} {f : ρ → ρ} {l : List ρ} (h : ∀ r ∈ l, c r = true → p (f r) = p r) :
    (updateWhere c f l).countP p = l.countP p := by
  unfold updateWhere
  rw [List.countP_map]
  refine List.countP_congr fun r hr => ?_
  show p (if c r then f r else r) = true ↔ p r = true
  by_cases hc : c r = true
  · rw [if_pos hc, h r hr hc]
  · rw [if_neg hc]

theorem casWhere_eq_ok_iff {c : ρ → Bool} {f : ρ → ρ} {e : ε} {l l' : List ρ} :
    casWhere c f e l = .ok l' ↔ l.countP c = 1 ∧ l' = updateWhere c f l := by
  unfold casWhere
  rw [bind_ok_iff]
  constructor
  · rintro ⟨_, hc, h⟩
    rw [failIf_ok_iff, bne_eq_false_iff_eq] at hc
    exact ⟨hc, (pure_ok_iff.1 h).symm⟩
  · rintro ⟨hc, rfl⟩
    exact ⟨(), failIf_ok_iff.2 (bne_eq_false_iff_eq.2 hc), rfl⟩

theorem exists_of_casWhere {c : ρ → Bool} {f : ρ → ρ} {e : ε} {l l' : List ρ} (h : casWhere c f e l = .ok l') :
    ∃ q ∈ l, c q = true := by
  have hc := (casWhere_eq_ok_iff.1 h).1
  exact List.countP_pos_iff.1 (by omega)

theorem insertUnique_eq_ok_iff [BEq κ] [LawfulBEq κ] {key : ρ → κ} {e : ε} {r : ρ} {l l' : List ρ} :
    insertUnique key e r l = .ok l' ↔ (∀ q ∈ l, key q ≠ key r) ∧ l' = l ++ [r] := by
  unfold insertUnique
  rw [bind_ok_iff]
  constructor
  · rintro ⟨_, hc, h⟩
    rw [failIf_ok_iff, List.any_eq_false] at hc
    refine ⟨fun q hq he => hc q hq (beq_iff_eq.2 he), (pure_ok_iff.1 h).symm⟩
  · rintro ⟨hc, rfl⟩
    refine ⟨(), failIf_ok_iff.2 (List.any_eq_false.2 fun q hq he => hc q hq (beq_iff_eq.1 he)), rfl⟩

theorem mem_insertOrIgnore {clash : ρ → Bool} {r q : ρ} {l : List ρ} (h : q ∈ insertOrIgnore clash r l) :
    q ∈ l ∨ (q = r ∧ ∀ p ∈ l, clash p = false) := by
  unfold insertOrIgnore at h
  split at h
  · exact .inl h
  · rename_i hc
    rcases List.mem_append.1 h with h | h
    · exact .inl h
    · refine .inr ⟨List.mem_singleton.1 h, fun p hp => ?_⟩
      by_contra hne
      exact hc (List.any_eq_true.2 ⟨p, hp, by simpa using hne⟩)

theorem subset_insertOrIgnore {clash : ρ → Bool} {r : ρ} {l : List ρ} : l ⊆ insertOrIgnore clash r l := by
  unfold insertOrIgnore
  split
  · exact List.Subset.refl l
  · exact List.subset_append_left l [r]

/-! ### keys -/

theorem keys_updateWhere {key : ρ → κ} {c : ρ → Bool} {f : ρ → ρ} (hf : ∀ r, key (f r) = key r) (l : List ρ) :
    (updateWhere c f l).map key = l.map key := by
  unfold updateWhere
  rw [List.map_map]
  refine List.map_congr_left fun r _ => ?_
  show key (if c r then f r else r) = key r
  split
  · exact hf r
  · rfl

theorem nodup_keys_updateWhere {key : ρ → κ} {c : ρ → Bool} {f : ρ → ρ} {l : List ρ} (hf : ∀ r, key (f r) = key r)
    (hl : (l.map key).Nodup) : ((updateWhere c f l).map key).Nodup := by
  rw [keys_updateWhere hf]
  exact hl

theorem nodup_keys_append {key : ρ → κ} {l : List ρ} {r : ρ} (hl : (l.map key).Nodup) (h : ∀ q ∈ l, key q ≠ key r) :
    ((l ++ [r]).map key).Nodup := by
  rw [List.map_append, List.map_singleton]
  refine List.nodup_append.2 ⟨hl, List.nodup_singleton _, ?_⟩
  intro a ha b hb
  obtain ⟨q, hq, rfl⟩ := List.mem_map.1 ha
  rw [List.mem_singleton.1 hb]
  exact h q hq

theorem eq_of_key {key : ρ → κ} {l : List ρ} (hl : (l.map key).Nodup) {r q : ρ} (hr : r ∈ l) (hq : q ∈ l)
    (h : key r = key q) : r = q := List.inj_on_of_nodup_map hl hr hq h

/-- Under a unique key, an update that reaches only the key of a row it reaches changes that row alone. -/
theorem mem_updateWhere_key {key : ρ → κ} {c : ρ → Bool} {f : ρ → ρ} {l : List ρ} (hl : (l.map key).Nodup) {q r : ρ}
    (hq : q ∈ l) (hkey : ∀ p, c p = true → key p = key q) (hcq : c q = true) (h : r ∈ updateWhere c f l) :
    r ∈ l ∧ key r ≠ key q ∨ r = f q := by
  obtain ⟨p, hp, rfl⟩ := mem_updateWhere.1 h
  by_cases hc : c p = true
  · obtain rfl := eq_of_key hl hp hq (hkey p hc)
    exact .inr (if_pos hcq)
  · rw [if_neg hc]
    refine .inl ⟨hp, fun he => hc ?_⟩
    obtain rfl := eq_of_key hl hp hq he
    exact hcq

theorem countP_eq_one {key : ρ → κ} {c : ρ → Bool} {l : List ρ} (hl : (l.map key).Nodup) {q : ρ} (hq : q ∈ l)
    (hcq : c q = true) (hkey : ∀ p ∈ l, c p = true → key p = key q) : l.countP c = 1 := by
  have honly (p : ρ) (hp : p ∈ l) (hc : c p = true) : p = q := eq_of_key hl hp hq (hkey p hp hc)
  have hnodup : (l.filter c).Nodup := (List.Nodup.of_map key hl).filter c
  have hmem : q ∈ l.filter c := List.mem_filter.2 ⟨hq, hcq⟩
  have hle : (l.filter c).length ≤ 1 := by
    by_contra hlong
    have hlt : 1 < (l.filter c).length := by omega
    have h0 := List.mem_filter.1 (List.getElem_mem (l := l.filter c) (n := 0) (by omega))
    have h1 := List.mem_filter.1 (List.getElem_mem (l := l.filter c) (n := 1) hlt)
    have he := (honly _ h0.1 h0.2).trans (honly _ h1.1 h1.2).symm
    exact absurd ((hnodup.getElem_inj_iff).1 he) (by omega)
  have hpos : 0 < (l.filter c).length := List.length_pos_of_mem hmem
  rw [List.countP_eq_length_filter]
  omega

theorem find?_of_key [BEq κ] [LawfulBEq κ] {key : ρ → κ} {l : List ρ} (hl : (l.map key).Nodup) {q : ρ} (hq : q ∈ l) :
    (l.find? fun r => key r == key q) = some q := by
  cases h : l.find? fun r => key r == key q with
  | none => exact absurd (beq_self_eq_true (key q)) (List.find?_eq_none.1 h q hq)
  | some r =>
    have hr := List.find?_some h
    rw [eq_of_key hl (List.mem_of_find?_eq_some h) hq (beq_iff_eq.1 hr)]

theorem find?_of_unique {key : ρ → κ} {c : ρ → Bool} {l : List ρ} (hl : (l.map key).Nodup) {q : ρ} (hq : q ∈ l)
    (hcq : c q = true) (hkey : ∀ p ∈ l, c p = true → key p = key q) : l.find? c = some q := by
  cases h : l.find? c with
  | none => exact absurd hcq (List.find?_eq_none.1 h q hq)
  | some r =>
    have hr := List.mem_of_find?_eq_some h
    rw [eq_of_key hl hr hq (hkey r hr (List.find?_some h))]

end Relational

end KnowledgeBase
