import KnowledgeBase.Library.Checked
import KnowledgeBase.Library.Graph
import KnowledgeBase.Workflow.Validation
import Mathlib.Data.List.Dedup

/-!
# The searches of the route graph

The depth-first search settles what it leaves: it ends with the keys reached from where it starts, each leading only
to keys left before it, and it ends without an error on every graph without cycles. The worklist collects exactly the
keys reached from the ones it starts with. Both have enough fuel as soon as it exceeds the number of keys.
-/

namespace KnowledgeBase

namespace WorkflowDefinition

open Relation Checked

/-- One key is listed for another. -/
def Listed (adj : String → List String) (a b : String) : Prop := b ∈ adj a

variable {adj : String → List String}

/-! ### the depth-first search -/

/-- What a search from the keys of the list has left. -/
structure Left (adj : String → List String) (keys : List String) (state state' : VisitState) : Prop where
  visiting : state'.visiting = state.visiting
  settled : Graph.Settled (Listed adj) state.visited → Graph.Settled (Listed adj) state'.visited
  subset : ∀ k ∈ state.visited, k ∈ state'.visited
  mem : ∀ k ∈ keys, k ∈ state'.visited
  reached : ∀ k ∈ state'.visited, k ∈ state.visited ∨ ∃ a ∈ keys, ReflTransGen (Listed adj) a k

theorem Left.nil (state : VisitState) : Left adj [] state state :=
  ⟨rfl, fun h => h, fun _ h => h, fun _ h => absurd h List.not_mem_nil, fun _ h => .inl h⟩

theorem Left.cons {key : String} {keys : List String} {s s' s'' : VisitState} (h : Left adj [key] s s')
    (h' : Left adj keys s' s'') : Left adj (key :: keys) s s'' := by
  refine ⟨h'.visiting.trans h.visiting, fun hs => h'.settled (h.settled hs), fun k hk => h'.subset k (h.subset k hk),
    ?_, ?_⟩
  · intro k hk
    rcases List.mem_cons.1 hk with rfl | hk
    · exact h'.subset k (h.mem k List.mem_cons_self)
    · exact h'.mem k hk
  · intro k hk
    rcases h'.reached k hk with hk | ⟨a, ha, hak⟩
    · rcases h.reached k hk with hk | ⟨a, ha, hak⟩
      · exact .inl hk
      · obtain rfl := List.mem_singleton.1 ha
        exact .inr ⟨a, List.mem_cons_self, hak⟩
    · exact .inr ⟨a, List.mem_cons_of_mem _ ha, hak⟩

theorem Left.enter {key : String} {s s' : VisitState}
    (h : Left adj (adj key) { s with visiting := key :: s.visiting } s') :
    Left adj [key] s { visiting := s.visiting, visited := key :: s'.visited } := by
  refine ⟨rfl, fun hs => ⟨fun b hb => h.mem b hb, h.settled hs⟩, fun k hk => List.mem_cons_of_mem _ (h.subset k hk),
    ?_, ?_⟩
  · intro k hk
    obtain rfl := List.mem_singleton.1 hk
    exact List.mem_cons_self
  · intro k hk
    rcases List.mem_cons.1 hk with rfl | hk
    · exact .inr ⟨k, List.mem_cons_self, .refl⟩
    · rcases h.reached k hk with hk | ⟨a, ha, hak⟩
      · exact .inl hk
      · exact .inr ⟨key, List.mem_cons_self, .head ha hak⟩

theorem left_of_foldlM {f : VisitState → String → Except String VisitState}
    (hf : ∀ s key s', f s key = .ok s' → Left adj [key] s s') {keys : List String} {s s' : VisitState}
    (h : keys.foldlM f s = .ok s') : Left adj keys s s' := by
  induction keys generalizing s with
  | nil =>
    obtain rfl := Except.ok.inj h
    exact .nil s
  | cons key keys ih =>
    rw [List.foldlM_cons] at h
    obtain ⟨next, hnext, hrest⟩ := bind_ok_iff.1 h
    exact (hf s key next hnext).cons (ih hrest)

theorem visit_left {fuel : Nat} {s s' : VisitState} {key : String} (h : visit adj fuel s key = .ok s') :
    Left adj [key] s s' := by
  induction fuel generalizing s s' key with
  | zero => cases h
  | succ fuel ih =>
    unfold visit at h
    split at h
    · cases h
    · split at h
      · rename_i hvisited
        obtain rfl := Except.ok.inj h
        refine ⟨rfl, fun hs => hs, fun _ hk => hk, fun k hk => ?_, fun _ hk => .inl hk⟩
        obtain rfl := List.mem_singleton.1 hk
        exact hvisited
      · obtain ⟨inner, hinner, heq⟩ := bind_ok_iff.1 h
        obtain rfl := Except.ok.inj heq
        exact (left_of_foldlM (fun s key s' hstep => ih hstep) hinner).enter

theorem foldlM_isOk {f : VisitState → String → Except String VisitState} {C : VisitState → Prop} {keys : List String}
    (hstep : ∀ s, C s → ∀ key ∈ keys, ∃ s', f s key = .ok s' ∧ C s') {s : VisitState} (hs : C s) :
    ∃ s', keys.foldlM f s = .ok s' := by
  induction keys generalizing s with
  | nil => exact ⟨s, rfl⟩
  | cons key keys ih =>
    obtain ⟨next, hnext, hC⟩ := hstep s hs key List.mem_cons_self
    obtain ⟨s', hs'⟩ := ih (fun s hs k hk => hstep s hs k (List.mem_cons_of_mem _ hk)) hC
    exact ⟨s', by rw [List.foldlM_cons, hnext]; exact hs'⟩

/-- On a graph without cycles the search meets no key it is still visiting: those are on the path to where it is, so
there are fewer of them than keys, and the fuel lasts. -/
theorem visit_isOk {keys : List String} (hacyclic : Graph.Acyclic (Listed adj))
    (hclosed : ∀ a ∈ keys, ∀ b ∈ adj a, b ∈ keys) {fuel : Nat} {s : VisitState} {key : String} (hkey : key ∈ keys)
    (hnodup : s.visiting.Nodup) (hpath : ∀ v ∈ s.visiting, v ∈ keys ∧ TransGen (Listed adj) v key)
    (hfuel : keys.length < fuel + s.visiting.length) : ∃ s', visit adj fuel s key = .ok s' := by
  induction fuel generalizing s key with
  | zero =>
    have hle := (hnodup.subperm fun v hv => (hpath v hv).1).length_le
    omega
  | succ fuel ih =>
    have hnot : key ∉ s.visiting := fun hmem => hacyclic key (hpath key hmem).2
    unfold visit
    rw [if_neg hnot]
    by_cases hvisited : key ∈ s.visited
    · rw [if_pos hvisited]
      exact ⟨s, rfl⟩
    · rw [if_neg hvisited]
      have hinner : ∃ inner, (adj key).foldlM (visit adj fuel) { s with visiting := key :: s.visiting } = .ok inner := by
        refine foldlM_isOk (C := fun t => t.visiting = key :: s.visiting) ?_ rfl
        intro t ht b hb
        have hpathb : ∀ v ∈ t.visiting, v ∈ keys ∧ TransGen (Listed adj) v b := by
          intro v hv
          rw [ht] at hv
          rcases List.mem_cons.1 hv with rfl | hv
          · exact ⟨hkey, .single hb⟩
          · exact ⟨(hpath v hv).1, .tail (hpath v hv).2 hb⟩
        obtain ⟨t', ht'⟩ := ih (hclosed key hkey b hb) (by rw [ht]; exact List.nodup_cons.2 ⟨hnot, hnodup⟩) hpathb
          (by rw [ht, List.length_cons]; omega)
        exact ⟨t', ht', (visit_left ht').visiting.trans ht⟩
      obtain ⟨inner, hinner⟩ := hinner
      exact ⟨_, bind_ok_iff.2 ⟨inner, hinner, rfl⟩⟩

/-- From a key, on an empty state, the search ends with exactly the keys reached, settled. -/
theorem visit_eq_ok {fuel : Nat} {key : String} {s : VisitState} (h : visit adj fuel ⟨[], []⟩ key = .ok s) :
    Graph.Settled (Listed adj) s.visited ∧ ∀ k, k ∈ s.visited ↔ ReflTransGen (Listed adj) key k := by
  have hleft := visit_left h
  have hsettled := hleft.settled trivial
  refine ⟨hsettled, fun k => ⟨fun hk => ?_, fun hk => ?_⟩⟩
  · rcases hleft.reached k hk with hk | ⟨a, ha, hak⟩
    · exact absurd hk List.not_mem_nil
    · obtain rfl := List.mem_singleton.1 ha
      exact hak
  · exact hsettled.reaches (hleft.mem key List.mem_cons_self) hk

/-! ### the worklist -/

theorem mem_iff_reached_of_closed {sources : String → List String} {seen : List String}
    (h : ∀ x ∈ seen, ∀ y ∈ sources x, y ∈ seen) (x : String) :
    x ∈ seen ↔ ∃ y ∈ seen, ReflTransGen (Listed sources) y x := by
  constructor
  · exact fun hx => ⟨x, hx, .refl⟩
  · rintro ⟨y, hy, hyx⟩
    induction hyx with
    | refl => exact hy
    | tail _ hlast ih => exact h _ ih _ hlast

/-- The worklist returns what is reached from the keys it has seen, if those whose sources it may not have seen are
pending and the fuel lasts for the pending and the unseen keys. -/
theorem mem_collect {sources : String → List String} {keys : List String}
    (hclosed : ∀ a ∈ keys, ∀ b ∈ sources a, b ∈ keys) {fuel : Nat} {pending seen : List String} (hnodup : seen.Nodup)
    (hseen : ∀ x ∈ seen, x ∈ keys) (hpending : ∀ x ∈ pending, x ∈ seen)
    (hdone : ∀ x ∈ seen, x ∈ pending ∨ ∀ y ∈ sources x, y ∈ seen)
    (hfuel : pending.length + keys.length ≤ fuel + seen.length) (x : String) :
    x ∈ collect sources fuel pending seen ↔ ∃ y ∈ seen, ReflTransGen (Listed sources) y x := by
  have hle := (hnodup.subperm hseen).length_le
  induction fuel generalizing pending seen with
  | zero =>
    obtain rfl : pending = [] := List.eq_nil_of_length_eq_zero (by omega)
    exact mem_iff_reached_of_closed (fun y hy => (hdone y hy).resolve_left List.not_mem_nil) x
  | succ fuel ih =>
    cases pending with
    | nil => exact mem_iff_reached_of_closed (fun y hy => (hdone y hy).resolve_left List.not_mem_nil) x
    | cons key pending =>
      unfold collect
      have hkey : key ∈ seen := hpending key List.mem_cons_self
      have hfound : ∀ y, y ∈ ((sources key).filter fun source => !seen.contains source).dedup ↔
          y ∈ sources key ∧ y ∉ seen := by
        intro y
        rw [List.mem_dedup, List.mem_filter]
        simp
      have hfoundNodup := ((sources key).filter fun source => !seen.contains source).nodup_dedup
      generalize ((sources key).filter fun source => !seen.contains source).dedup = found at hfound hfoundNodup ⊢
      have hnodup' : (seen ++ found).Nodup :=
        List.nodup_append'.2 ⟨hnodup, hfoundNodup, fun y hy hyfound => ((hfound y).1 hyfound).2 hy⟩
      have hseen' : ∀ y ∈ seen ++ found, y ∈ keys := by
        intro y hy
        rcases List.mem_append.1 hy with hy | hy
        · exact hseen y hy
        · exact hclosed key (hseen key hkey) y ((hfound y).1 hy).1
      have hpending' : ∀ y ∈ found ++ pending, y ∈ seen ++ found := by
        intro y hy
        rcases List.mem_append.1 hy with hy | hy
        · exact List.mem_append_right _ hy
        · exact List.mem_append_left _ (hpending y (List.mem_cons_of_mem _ hy))
      have hdone' : ∀ y ∈ seen ++ found, y ∈ found ++ pending ∨ ∀ z ∈ sources y, z ∈ seen ++ found := by
        intro y hy
        rcases List.mem_append.1 hy with hy | hy
        · rcases hdone y hy with hmem | hall
          · rcases List.mem_cons.1 hmem with rfl | hmem
            · refine .inr fun z hz => ?_
              by_cases hzseen : z ∈ seen
              · exact List.mem_append_left _ hzseen
              · exact List.mem_append_right _ ((hfound z).2 ⟨hz, hzseen⟩)
            · exact .inl (List.mem_append_right _ hmem)
          · exact .inr fun z hz => List.mem_append_left _ (hall z hz)
        · exact .inl (List.mem_append_left _ hy)
      have hfuel' : (found ++ pending).length + keys.length ≤ fuel + (seen ++ found).length := by
        rw [List.length_append, List.length_append]
        rw [List.length_cons] at hfuel
        omega
      refine (ih hnodup' hseen' hpending' hdone' hfuel' (hnodup'.subperm hseen').length_le).trans ?_
      constructor
      · rintro ⟨y, hy, hyx⟩
        rcases List.mem_append.1 hy with hy | hy
        · exact ⟨y, hy, hyx⟩
        · exact ⟨key, hkey, .head ((hfound y).1 hy).1 hyx⟩
      · rintro ⟨y, hy, hyx⟩
        exact ⟨y, List.mem_append_left _ hy, hyx⟩

end WorkflowDefinition

end KnowledgeBase
