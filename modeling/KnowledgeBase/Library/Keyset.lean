import KnowledgeBase.Library.Ranking
import Mathlib.Order.OrderDual

/-!
# Keyset pages

A listing in the descending order of a key, read page by page: each page has the first rows strictly below the cursor,
and the key of its last row is the next cursor while rows are left. Between two reads rows may be written.
-/

namespace KnowledgeBase

namespace Keyset

open Ranking

variable {ρ κ : Type} [LinearOrder κ] (key : ρ → κ)

/-- The key comes behind the cursor, if there is one. -/
def Below (cursor : Option κ) (k : κ) : Prop := ∀ c, cursor = some c → k < c

instance (cursor : Option κ) (k : κ) : Decidable (Below cursor k) :=
  match cursor with
  | none => .isTrue nofun
  | some c => decidable_of_iff (k < c) ⟨fun h _ hc => Option.some.inj hc ▸ h, fun h => h c rfl⟩

/-- The rows behind the cursor, from the greatest key on. -/
def behind (cursor : Option κ) (t : List ρ) : List ρ :=
  ranked (fun r => OrderDual.toDual (key r)) (t.filter fun r => decide (Below cursor (key r)))

/-- The page behind the cursor, and the next cursor if the `limit + 1` rows that are read do not fit it. -/
def page (limit : Nat) (cursor : Option κ) (t : List ρ) : List ρ × Option κ :=
  let rows := (behind key cursor t).take (limit + 1)
  (rows.take limit, if limit < rows.length then (rows.take limit).getLast?.map key else none)

variable {key} {limit : Nat} {cursor : Option κ} {t : List ρ} {r : ρ} {c : κ}

theorem page_fst : (page key limit cursor t).1 = (behind key cursor t).take limit := by
  show ((behind key cursor t).take (limit + 1)).take limit = _
  rw [List.take_take, min_eq_left (Nat.le_succ limit)]

theorem length_page_le : (page key limit cursor t).1.length ≤ limit := by
  rw [page_fst]
  exact List.length_take_le _ _

theorem mem_behind : r ∈ behind key cursor t ↔ r ∈ t ∧ Below cursor (key r) := by
  unfold behind
  rw [mem_ranked, List.mem_filter, decide_eq_true_iff]

theorem behind_sorted : (behind key cursor t).Pairwise fun a b => key b ≤ key a :=
  (ranked_sorted _).imp fun {a b} (h : OrderDual.toDual (key a) ≤ OrderDual.toDual (key b)) => h

theorem page_snd (h : (page key limit cursor t).2 = some c) :
    limit < (behind key cursor t).length ∧ ((behind key cursor t).take limit).getLast?.map key = some c := by
  unfold page at h
  simp only at h
  split at h
  · rename_i hlt
    rw [List.take_take, min_eq_left (Nat.le_succ limit)] at h
    rw [List.length_take] at hlt
    exact ⟨by omega, h⟩
  · cases h

theorem page_snd_of_lt (hpos : 0 < limit) (h : limit < (behind key cursor t).length) :
    ∃ c, (page key limit cursor t).2 = some c := by
  unfold page
  simp only
  rw [List.take_take, min_eq_left (Nat.le_succ limit), if_pos (by rw [List.length_take]; omega)]
  cases hlast : ((behind key cursor t).take limit).getLast? with
  | none =>
    have hnil := List.getLast?_eq_none_iff.1 hlast
    have hlen := congrArg List.length hnil
    rw [List.length_take, List.length_nil] at hlen
    omega
  | some r => exact ⟨key r, rfl⟩

theorem mem_page (h : r ∈ (page key limit cursor t).1) :
    r ∈ t ∧ Below cursor (key r) ∧ ∀ c, (page key limit cursor t).2 = some c → c ≤ key r := by
  rw [page_fst] at h
  obtain ⟨ht, hb⟩ := mem_behind.1 (List.mem_of_mem_take h)
  refine ⟨ht, hb, fun c hc => ?_⟩
  obtain ⟨-, hkey⟩ := page_snd hc
  obtain ⟨last, hlast, rfl⟩ := Option.map_eq_some_iff.1 hkey
  obtain ⟨front, hfront⟩ := List.getLast?_eq_some_iff.1 hlast
  have sorted : ((behind key cursor t).take limit).Pairwise fun a b => key b ≤ key a :=
    behind_sorted.sublist (List.take_sublist _ _)
  rw [hfront] at h sorted
  rcases List.mem_append.1 h with h | h
  · exact (List.pairwise_append.1 sorted).2.2 r h last (List.mem_singleton.2 rfl)
  · rw [List.mem_singleton.1 h]

theorem below_next (h : (page key limit cursor t).2 = some c) : Below cursor c := by
  obtain ⟨-, hkey⟩ := page_snd h
  obtain ⟨last, hlast, rfl⟩ := Option.map_eq_some_iff.1 hkey
  exact (mem_behind.1 (List.mem_of_mem_take (List.mem_of_getLast? hlast))).2

theorem page_or_next (hpos : 0 < limit) (hdistinct : Distinct key t) (ht : r ∈ t) (hb : Below cursor (key r)) :
    r ∈ (page key limit cursor t).1 ∨ ∃ c, (page key limit cursor t).2 = some c ∧ key r < c := by
  by_cases hpage : r ∈ (page key limit cursor t).1
  · exact .inl hpage
  · right
    rw [page_fst] at hpage
    have hmem := mem_behind.2 ⟨ht, hb⟩
    have hdrop : r ∈ (behind key cursor t).drop limit := by
      rw [← List.take_append_drop limit (behind key cursor t)] at hmem
      rcases List.mem_append.1 hmem with h | h
      · exact absurd h hpage
      · exact h
    have hlen : limit < (behind key cursor t).length := by
      have := List.length_pos_of_mem hdrop
      rw [List.length_drop] at this
      omega
    obtain ⟨c, hc⟩ := page_snd_of_lt hpos hlen
    refine ⟨c, hc, ?_⟩
    obtain ⟨-, hkey⟩ := page_snd hc
    obtain ⟨last, hlast, rfl⟩ := Option.map_eq_some_iff.1 hkey
    have hlastMem := List.mem_of_getLast? hlast
    have sorted : (behind key cursor t).Pairwise fun a b => key b ≤ key a := behind_sorted
    rw [← List.take_append_drop limit (behind key cursor t)] at sorted
    refine lt_of_le_of_ne ((List.pairwise_append.1 sorted).2.2 last hlastMem r hdrop) fun heq => ?_
    have heq := hdistinct.eq ht (mem_behind.1 (List.mem_of_mem_take hlastMem)).1 heq
    exact hpage (heq ▸ hlastMem)

theorem nodup_page (hdistinct : Distinct key t) : (page key limit cursor t).1.Nodup := by
  rw [page_fst]
  refine List.Nodup.sublist (List.take_sublist _ _) ?_
  exact (ranked_perm _).nodup_iff.2 (hdistinct.nodup.filter _)

/-- The rows behind a next cursor are those behind the cursor but the page. -/
theorem countP_next (hdistinct : Distinct key t) (h : (page key limit cursor t).2 = some c) :
    t.countP (fun r => decide (Below (some c) (key r))) + limit ≤ t.countP fun r => decide (Below cursor (key r)) := by
  obtain ⟨hlen, -⟩ := page_snd h
  have perm : (behind key cursor t).Perm (t.filter fun r => decide (Below cursor (key r))) := ranked_perm _
  have rest : t.countP (fun r => decide (Below (some c) (key r))) ≤ ((behind key cursor t).drop limit).length := by
    rw [List.countP_eq_length_filter]
    refine (List.subperm_of_subset (hdistinct.nodup.filter _) fun r hr => ?_).length_le
    obtain ⟨ht, hb⟩ := List.mem_filter.1 hr
    have hlt : key r < c := of_decide_eq_true hb c rfl
    have hmem : r ∈ behind key cursor t :=
      mem_behind.2 ⟨ht, fun c' hc' => hlt.trans (below_next h c' hc')⟩
    rw [← List.take_append_drop limit (behind key cursor t)] at hmem
    rcases List.mem_append.1 hmem with hpage | hdrop
    · rw [← page_fst] at hpage
      exact absurd hlt ((mem_page hpage).2.2 c h).not_gt
    · exact hdrop
  have total := perm.length_eq
  rw [List.length_drop] at rest
  rw [← List.countP_eq_length_filter] at total
  omega

/-! ### walks -/

variable (key) (limit) (T : Nat → List ρ)

/-- The cursor of the `n`-th read of a walk over the tables, or none when the walk has ended. -/
def cursorAt : Nat → Option (Option κ)
  | 0 => some none
  | n + 1 => (cursorAt n).bind fun cursor => (page key limit cursor (T n)).2.map some

/-- The page of the `n`-th read, empty when the walk has ended. -/
def pageAt (n : Nat) : List ρ :=
  match cursorAt key limit T n with
  | none => []
  | some cursor => (page key limit cursor (T n)).1

variable {key limit T} {n m : Nat}

theorem cursorAt_succ (h : cursorAt key limit T n = some cursor) :
    cursorAt key limit T (n + 1) = (page key limit cursor (T n)).2.map some := by
  show (cursorAt key limit T n).bind _ = _
  rw [h]
  rfl

theorem pageAt_of (h : cursorAt key limit T n = some cursor) :
    pageAt key limit T n = (page key limit cursor (T n)).1 := by
  unfold pageAt
  rw [h]

theorem cursorAt_below (h : cursorAt key limit T n = some cursor) {d : Nat} {c : κ}
    (hm : cursorAt key limit T (n + 1 + d) = some (some c)) :
    ∃ c', (page key limit cursor (T n)).2 = some c' ∧ c ≤ c' := by
  -- over the distance between the two cursors, each page ending behind its own cursor
  induction d generalizing c with
  | zero =>
    rw [Nat.add_zero, cursorAt_succ h] at hm
    obtain ⟨c', hc', heq⟩ := Option.map_eq_some_iff.1 hm
    exact ⟨c', hc', (Option.some.inj heq).ge⟩
  | succ d ih =>
    cases hd : cursorAt key limit T (n + 1 + d) with
    | none =>
      have hm : (cursorAt key limit T (n + 1 + d)).bind _ = some (some c) := hm
      rw [hd] at hm
      cases hm
    | some cursor' =>
      have hm : cursorAt key limit T (n + 1 + d + 1) = some (some c) := hm
      rw [cursorAt_succ hd] at hm
      obtain ⟨c₁, hc₁, heq⟩ := Option.map_eq_some_iff.1 hm
      obtain rfl := Option.some.inj heq
      cases cursor' with
      | none =>
        cases d with
        | zero =>
          rw [Nat.add_zero, cursorAt_succ h] at hd
          obtain ⟨c', -, heq⟩ := Option.map_eq_some_iff.1 hd
          cases heq
        | succ d =>
          have hd : (cursorAt key limit T (n + 1 + d)).bind _ = some none := hd
          obtain ⟨cursor'', -, hd⟩ := Option.bind_eq_some_iff.1 hd
          obtain ⟨c', -, heq⟩ := Option.map_eq_some_iff.1 hd
          cases heq
      | some c₂ =>
        obtain ⟨c', hc', hle⟩ := ih hd
        exact ⟨c', hc', (below_next hc₁ c₂ rfl).le.trans hle⟩

theorem pageAt_unique_lt (hlt : n < m) (hn : r ∈ pageAt key limit T n) : r ∉ pageAt key limit T m := by
  intro hm
  cases hcn : cursorAt key limit T n with
  | none =>
    unfold pageAt at hn
    rw [hcn] at hn
    cases hn
  | some cursor =>
    rw [pageAt_of hcn] at hn
    cases hcm : cursorAt key limit T m with
    | none =>
      unfold pageAt at hm
      rw [hcm] at hm
      cases hm
    | some cursor' =>
      rw [pageAt_of hcm] at hm
      obtain ⟨d, rfl⟩ := Nat.exists_eq_add_of_lt hlt
      rw [show n + d + 1 = n + 1 + d by omega] at hcm hm
      cases cursor' with
      | none =>
        cases d with
        | zero =>
          rw [Nat.add_zero, cursorAt_succ hcn] at hcm
          obtain ⟨c', -, heq⟩ := Option.map_eq_some_iff.1 hcm
          cases heq
        | succ d =>
          have hcm : (cursorAt key limit T (n + 1 + d)).bind _ = some none := hcm
          obtain ⟨cursor'', -, hcm⟩ := Option.bind_eq_some_iff.1 hcm
          obtain ⟨c', -, heq⟩ := Option.map_eq_some_iff.1 hcm
          cases heq
      | some c =>
        obtain ⟨c', hc', hle⟩ := cursorAt_below hcn hcm
        have hge := (mem_page hn).2.2 c' hc'
        have hlt := (mem_page hm).2.1 c rfl
        exact absurd (hlt.trans_le hle) hge.not_gt

theorem returned_or_below (hpos : 0 < limit) (hdistinct : ∀ n, Distinct key (T n))
    (hr : ∀ n, cursorAt key limit T n ≠ none → r ∈ T n)
    (h : cursorAt key limit T n = some cursor) : (∃ i, i < n ∧ r ∈ pageAt key limit T i) ∨ Below cursor (key r) := by
  -- the row is in every table read, so it leaves the rows behind the cursor only onto a page
  induction n generalizing cursor with
  | zero =>
    cases h
    exact .inr nofun
  | succ n ih =>
    cases hn : cursorAt key limit T n with
    | none =>
      have h : (cursorAt key limit T n).bind _ = some cursor := h
      rw [hn] at h
      cases h
    | some cursor' =>
      rw [cursorAt_succ hn] at h
      obtain ⟨c, hc, rfl⟩ := Option.map_eq_some_iff.1 h
      rcases ih hn with ⟨i, hi, hmem⟩ | hb
      · exact .inl ⟨i, by omega, hmem⟩
      · rcases page_or_next hpos (hdistinct n) (hr n (by rw [hn]; exact nofun)) hb with hmem | ⟨c', hc', hlt⟩
        · exact .inl ⟨n, by omega, by rw [pageAt_of hn]; exact hmem⟩
        · rw [hc] at hc'
          cases hc'
          exact .inr fun c' hc' => Option.some.inj hc' ▸ hlt

theorem returned_of_ended (hpos : 0 < limit) (hdistinct : ∀ n, Distinct key (T n))
    (hr : ∀ n, cursorAt key limit T n ≠ none → r ∈ T n)
    (hend : cursorAt key limit T n = none) : ∃ i, r ∈ pageAt key limit T i := by
  -- the last page has no next cursor, and no row is behind it
  induction n with
  | zero => cases hend
  | succ n ih =>
    cases hn : cursorAt key limit T n with
    | none => exact ih hn
    | some cursor =>
      rcases returned_or_below hpos hdistinct hr hn with ⟨i, -, hmem⟩ | hb
      · exact ⟨i, hmem⟩
      · rcases page_or_next hpos (hdistinct n) (hr n (by rw [hn]; exact nofun)) hb with hmem | ⟨c, hc, -⟩
        · exact ⟨n, by rw [pageAt_of hn]; exact hmem⟩
        · rw [cursorAt_succ hn, hc] at hend
          cases hend

/-- How many rows the tables gain behind the cursors of the walk. -/
def gained (g : Nat → Nat) : Nat → Nat
  | 0 => 0
  | n + 1 => gained g n + g n

/-- Every page with a next cursor uses up rows: of the first table, or gained behind a cursor. -/
theorem open_bound (hdistinct : ∀ n, Distinct key (T n)) {g : Nat → Nat}
    (hg : ∀ n cursor, cursorAt key limit T (n + 1) = some cursor →
      (T (n + 1)).countP (fun r => decide (Below cursor (key r))) ≤
        (T n).countP (fun r => decide (Below cursor (key r))) + g n)
    (h : cursorAt key limit T n = some cursor) :
    n * limit + (T n).countP (fun r => decide (Below cursor (key r))) ≤ (T 0).length + gained g n := by
  -- the rows behind the cursor fall by a page with each step, and rise by what the table gains there
  induction n generalizing cursor with
  | zero =>
    rw [Nat.zero_mul, Nat.zero_add]
    exact List.countP_le_length
  | succ n ih =>
    cases hn : cursorAt key limit T n with
    | none =>
      have h : (cursorAt key limit T n).bind _ = some cursor := h
      rw [hn] at h
      cases h
    | some cursor' =>
      have hprev := ih hn
      have hgain := hg n cursor h
      rw [cursorAt_succ hn] at h
      obtain ⟨c, hc, rfl⟩ := Option.map_eq_some_iff.1 h
      have hnext := countP_next (hdistinct n) hc
      rw [Nat.succ_mul]
      show _ ≤ (T 0).length + (gained g n + g n)
      omega

end Keyset

end KnowledgeBase
