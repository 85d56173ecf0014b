import KnowledgeBase.Catalog.Listing
import Mathlib.Logic.Equiv.List

/-!
# Keyset pagination

A walk that follows the next cursor of a listing while rows are inserted and updated, and what a listing makes of a
cursor that it has not issued itself.
-/

namespace KnowledgeBase

open Json (Dict)
open Ranking (Distinct)

/-- The members that some texts are decoded to. -/
def texts (m : List (String × Text)) : CursorMembers := m.map fun p => (p.1, .text p.2)

theorem lookup_texts (m : List (String × Text)) (name : String) :
    (texts m).lookup name = (m.lookup name).map CursorValue.text := by
  induction m with
  | nil => rfl
  | cons p m ih =>
    unfold texts at *
    rw [List.map_cons, List.lookup_cons, List.lookup_cons, ih]
    cases name == p.1 with
    | true => rfl
    | false => rfl

/-- The documented behaviour of the codec: its readers invert the text of a payload, which is never empty, and neither
is a digest. -/
structure CursorCodec.Lawful (C : CursorCodec) : Prop where
  loads (m : List (String × Text)) : (m.map Prod.fst).Pairwise (· < ·) → C.loads (C.encode m) = .object (texts m)
  loadsStrict (m : List (String × Text)) :
    (m.map Prod.fst).Pairwise (· < ·) → C.loadsStrict (C.encode m) = .object (texts m)
  encode_ne_nil (m : List (String × Text)) : C.encode m ≠ []
  digest_ne_nil (d : Dict) : C.stableDigest d ≠ []

namespace Listing

variable {ρ ι : Type} (C : CursorCodec) (L : Listing ρ ι)

/-! ### walks -/

section walk

variable [DecidableEq ι]

/-- A listing at one filter and limit, as a function of the cursor and the table. -/
abbrev Call (ρ : Type) := Option Text → List ρ → Except ListingError (List ρ × Option Text)

/-- The row is inserted, or takes the place of the row that it is a new version of. -/
def upsert (t : List ρ) (r : ρ) : List ρ := (t.filter fun a => decide (L.ident a ≠ L.ident r)) ++ [r]

/-- The table at each read: before the next read the rows of a batch are written. -/
def tableAt (t : List ρ) (writes : Nat → List ρ) : Nat → List ρ
  | 0 => t
  | n + 1 => (writes n).foldl L.upsert (tableAt t writes n)

/-- The next cursor of a result, which an error has not. -/
def nextOf : Except ListingError (List ρ × Option Text) → Option Text
  | .ok p => p.2
  | .error _ => none

/-- The rows of a result. -/
def rowsOf : Except ListingError (List ρ × Option Text) → List ρ
  | .ok p => p.1
  | .error _ => []

/-- The cursor of the `n`-th call, or none when the walk has ended: without a next cursor, or with an error. -/
def walkAt (call : Call ρ) (T : Nat → List ρ) : Nat → Option (Option Text)
  | 0 => some none
  | n + 1 => (walkAt call T n).bind fun cursor => (nextOf (call cursor (T n))).map some

/-- The rows of the `n`-th call. -/
def rowsAt (call : Call ρ) (T : Nat → List ρ) (n : Nat) : List ρ :=
  ((walkAt call T n).map fun cursor => rowsOf (call cursor (T n))).getD []

/-- The rows that the `n`-th batch writes behind the cursor of the walk. -/
def landed (limit : Nat) (T : Nat → List ρ) (writes : Nat → List ρ) (n : Nat) : Nat :=
  match Keyset.cursorAt L.key limit (fun n => (T n).filter L.isMatch) (n + 1) with
  | none => 0
  | some cursor => (writes n).countP fun r => L.isMatch r && decide (Keyset.Below cursor (L.key r))

/-- The columns of a row are as the writers fill them: not empty, and short enough for a cursor. -/
def Storable (r : ρ) : Prop :=
  L.stamp r ≠ [] ∧ L.uuid r ≠ [] ∧ (C.encode (L.payload (L.key r))).length ≤ 2048

/-- What following the next cursor gives, from any table on and over any writes between the reads. -/
structure WalkLaw (limit : Nat) (call : Call ρ) (t : List ρ) (writes : Nat → List ρ) : Prop where
  pages (n : Nat) (cursor : Option Text) : walkAt call (L.tableAt t writes) n = some cursor →
    ∃ rows next, call cursor (L.tableAt t writes n) = .ok (rows, next) ∧ rows.length ≤ limit ∧ rows.Nodup ∧
      ∀ r ∈ rows, r ∈ L.tableAt t writes n ∧ L.isMatch r = true
  bound (n : Nat) : walkAt call (L.tableAt t writes) n ≠ none →
    n * limit ≤ t.length + Keyset.gained (L.landed limit (L.tableAt t writes) writes) n
  terminates : (∃ m, ∀ n, m ≤ n → L.landed limit (L.tableAt t writes) writes n = 0) →
    ∃ n, walkAt call (L.tableAt t writes) n = none
  once (r : ρ) : (∃ n, walkAt call (L.tableAt t writes) n = none) → L.isMatch r = true →
    (∀ n, walkAt call (L.tableAt t writes) n ≠ none → r ∈ L.tableAt t writes n) →
    ∃ n, r ∈ rowsAt call (L.tableAt t writes) n ∧ ∀ m, r ∈ rowsAt call (L.tableAt t writes) m → m = n

end walk

/-! ### cursors -/

/-- The cursor decodes to the key: its time and its uuid, as the driver binds them. -/
def Encodes (loads : Text → Decoded) (cursor : Text) (k : RowKey) : Prop :=
  ∃ d stamp uuid stampText uuidText, loads cursor = .object d ∧ d.lookup L.stampField = some stamp ∧
    d.lookup L.uuidField = some uuid ∧ bindText C stamp = .ok stampText ∧ bindText C uuid = .ok uuidText ∧
    k = toLex (stampText.getD [], uuidText.getD [])

/-- A cursor is refused with the typed error, or the read resumes strictly after the key that it encodes; an empty one
is no cursor. -/
def CursorLaw (loads : Text → Decoded) (refusal : ListingError) (call : Call ρ) (cursor : Text) (t : List ρ) : Prop :=
  cursor = [] ∨ call (some cursor) t = .error refusal ∨
    ∃ k rows next, L.Encodes C loads cursor k ∧ call (some cursor) t = .ok (rows, next) ∧ ∀ r ∈ rows, L.key r < k

/-- The driver binds the value: it is neither an array nor an object, no string with a lone surrogate, and no integer
that the driver refuses. -/
def Binds : CursorValue → Prop
  | .surrogates => False
  | .composite => False
  | .int n => C.bindInt n ≠ none
  | _ => True

/-- A decoded cursor is not nested too deeply, and if it passes the checks, its time and its uuid are present and the
driver binds them. -/
def Resumable (passes : CursorMembers → Bool) (decoded : Decoded) : Prop :=
  decoded ≠ .tooDeep ∧ ∀ d, decoded = .object d → passes d = true →
    ∃ stamp uuid, d.lookup L.stampField = some stamp ∧ d.lookup L.uuidField = some uuid ∧ Binds C stamp ∧ Binds C uuid

/-- The condition on a cursor of the catalog. -/
def CatalogResumable (cursor : Text) : Prop := cursor = [] ∨ L.Resumable C L.isCatalogCursor (C.loads cursor)

/-- The condition on a cursor of the generation reads. -/
def GenerationResumable (cursor : Text) : Prop :=
  cursor = [] ∨ 2048 < cursor.length ∨ L.Resumable C L.isGenerationCursor (C.loadsStrict cursor)

variable {C L} {limit : Nat} {k : RowKey} {t : List ρ} {decode : Text → Except ListingError RowKey} {cursor : Text}

/-! ### the cursors of a listing are its own -/

theorem resumeKey_texts (k : RowKey) : L.resumeKey C (texts (L.payload k)) = .ok k := by
  unfold resumeKey
  rw [lookup_texts, lookup_texts, L.payload_stamp, L.payload_uuid]
  rfl

theorem decodeCatalog_encode (hC : C.Lawful) (k : RowKey) : L.decodeCatalog C (C.encode (L.payload k)) = .ok k := by
  have hpasses : L.isCatalogCursor (texts (L.payload k)) = true := by
    unfold isCatalogCursor
    rw [lookup_texts, lookup_texts, lookup_texts, L.payload_kind, L.payload_digest, L.payload_stamp]
    simp [isStr]
  unfold decodeCatalog afterChecks
  rw [hC.loads _ (L.payload_sorted k)]
  exact (if_pos hpasses).trans (resumeKey_texts k)

theorem decodeStrict_encode (hC : C.Lawful) (hdigest : L.filterDigest ≠ []) (hstamp : (ofLex k).1 ≠ [])
    (huuid : (ofLex k).2 ≠ []) (hlen : (C.encode (L.payload k)).length ≤ 2048) :
    L.decodeStrict C (C.encode (L.payload k)) = .ok k := by
  have hpasses : L.isGenerationCursor (texts (L.payload k)) = true := by
    have hlength : (texts (L.payload k)).length = 4 := (List.length_map _).trans (L.payload_length k)
    unfold isGenerationCursor
    simp only [lookup_texts, L.payload_kind, L.payload_digest, L.payload_stamp, L.payload_uuid, hlength, List.all_cons,
      List.all_nil]
    simp [isNonemptyStr, isStr, hdigest, hstamp, huuid]
  unfold decodeStrict afterChecks
  rw [if_neg (by omega), hC.loadsStrict _ (L.payload_sorted k)]
  exact (if_pos hpasses).trans (resumeKey_texts k)

/-! ### the tables -/

section tables

variable [DecidableEq ι]

theorem upsert_nodup (h : (t.map L.ident).Nodup) (r : ρ) : ((L.upsert t r).map L.ident).Nodup := by
  unfold upsert
  rw [List.map_append, List.nodup_append]
  refine ⟨List.Nodup.sublist (List.filter_sublist.map _) h, List.nodup_singleton _, fun a ha b hb hab => ?_⟩
  obtain ⟨x, hx, rfl⟩ := List.mem_map.1 ha
  rw [List.map_singleton, List.mem_singleton] at hb
  exact of_decide_eq_true (List.mem_filter.1 hx).2 (hab.trans hb)

theorem foldl_upsert_nodup (h : (t.map L.ident).Nodup) (l : List ρ) : ((l.foldl L.upsert t).map L.ident).Nodup := by
  induction l generalizing t with
  | nil => exact h
  | cons r l ih => exact ih (upsert_nodup h r)

theorem tableAt_nodup (h : (t.map L.ident).Nodup) (writes : Nat → List ρ) (n : Nat) :
    ((L.tableAt t writes n).map L.ident).Nodup := by
  induction n with
  | zero => exact h
  | succ n ih => exact foldl_upsert_nodup ih _

theorem mem_foldl_upsert {l : List ρ} {r : ρ} (h : r ∈ l.foldl L.upsert t) : r ∈ t ∨ r ∈ l := by
  induction l generalizing t with
  | nil => exact .inl h
  | cons a l ih =>
    rcases ih h with h | h
    · rcases List.mem_append.1 h with h | h
      · exact .inl (List.mem_of_mem_filter h)
      · rw [List.mem_singleton.1 h]
        exact .inr List.mem_cons_self
    · exact .inr (List.mem_cons_of_mem _ h)

theorem storable_tableAt {writes : Nat → List ρ} (ht : ∀ r ∈ t, L.Storable C r)
    (hw : ∀ n, ∀ r ∈ writes n, L.Storable C r) (n : Nat) : ∀ r ∈ L.tableAt t writes n, L.Storable C r := by
  induction n with
  | zero => exact ht
  | succ n ih =>
    intro r hr
    rcases mem_foldl_upsert hr with hr | hr
    · exact ih r hr
    · exact hw n r hr

theorem countP_foldl_upsert (L : Listing ρ ι) (p : ρ → Bool) (l t : List ρ) :
    (l.foldl L.upsert t).countP p ≤ t.countP p + l.countP p := by
  induction l generalizing t with
  | nil => exact Nat.le_refl _
  | cons r l ih =>
    have hone : (L.upsert t r).countP p ≤ t.countP p + if p r = true then 1 else 0 := by
      unfold upsert
      rw [List.countP_append, List.countP_singleton]
      have hsub : (t.filter fun a => decide (L.ident a ≠ L.ident r)).countP p ≤ t.countP p :=
        List.filter_sublist.countP_le
      omega
    have hrest := ih (L.upsert t r)
    rw [List.foldl_cons, List.countP_cons]
    omega

end tables

theorem distinct_matching (h : (t.map L.ident).Nodup) : Distinct L.key (t.filter L.isMatch) := by
  refine List.Nodup.map_on (fun a ha b hb hab => ?_) (List.Nodup.filter _ (List.Nodup.of_map _ h))
  obtain ⟨hat, ham⟩ := List.mem_filter.1 ha
  obtain ⟨hbt, hbm⟩ := List.mem_filter.1 hb
  have huuid : L.uuid a = L.uuid b := congrArg (fun k => (ofLex k).2) hab
  exact List.inj_on_of_nodup_map h hat hbt (L.ident_eq a b ham hbm huuid)

/-! ### a call behind an issued cursor -/

/-- The listing reads its own cursors back to the keys they were issued for. -/
def Reads (L : Listing ρ ι) (C : CursorCodec) (limit : Nat) (call : Call ρ) (T : Nat → List ρ) : Prop :=
  (∀ t, call none t = .ok (L.readBehind C limit none t)) ∧
    ∀ n, ∀ r ∈ T n, L.isMatch r = true → ∀ t,
      call (some (C.encode (L.payload (L.key r)))) t = .ok (L.readBehind C limit (some (L.key r)) t)

theorem walkAt_eq {call : Call ρ} {T : Nat → List ρ} (h : Reads L C limit call T) (n : Nat) :
    walkAt call T n =
        (Keyset.cursorAt L.key limit (fun n => (T n).filter L.isMatch) n).map
          (Option.map fun k => C.encode (L.payload k)) ∧
      ∀ cursor, Keyset.cursorAt L.key limit (fun n => (T n).filter L.isMatch) n = some cursor →
        call (cursor.map fun k => C.encode (L.payload k)) (T n) = .ok (L.readBehind C limit cursor (T n)) := by
  -- the cursor of each page is encoded, and the decoder of the listing reads its own cursors back
  induction n with
  | zero =>
    refine ⟨rfl, fun cursor hc => ?_⟩
    cases hc
    exact h.1 _
  | succ n ih =>
    obtain ⟨hwalk, hcall⟩ := ih
    cases hc : Keyset.cursorAt L.key limit (fun n => (T n).filter L.isMatch) n with
    | none =>
      rw [hc] at hwalk
      have hnext : Keyset.cursorAt L.key limit (fun n => (T n).filter L.isMatch) (n + 1) = none := by
        show (Keyset.cursorAt L.key limit (fun n => (T n).filter L.isMatch) n).bind _ = none
        rw [hc]
        rfl
      rw [hnext]
      refine ⟨?_, fun cursor hcursor => nomatch hcursor⟩
      show (walkAt call T n).bind _ = _
      rw [hwalk]
      rfl
    | some cursor =>
      rw [hc] at hwalk
      have hread := hcall cursor hc
      have hnext := Keyset.cursorAt_succ hc
      have hstep : walkAt call T (n + 1) = ((L.readBehind C limit cursor (T n)).2).map some := by
        show (walkAt call T n).bind _ = _
        rw [hwalk, Option.map_some, Option.bind_some, hread]
        rfl
      refine ⟨?_, fun cursor' hcursor' => ?_⟩
      · rw [hstep, hnext]
        show Option.map some (Option.map _ (Keyset.page L.key limit cursor ((T n).filter L.isMatch)).2) = _
        rw [Option.map_map, Option.map_map]
        rfl
      · rw [hnext] at hcursor'
        obtain ⟨k, hk, rfl⟩ := Option.map_eq_some_iff.1 hcursor'
        obtain ⟨-, hlast⟩ := Keyset.page_snd hk
        obtain ⟨r, hr, rfl⟩ := Option.map_eq_some_iff.1 hlast
        have hmem := (Keyset.mem_behind.1 (List.mem_of_mem_take (List.mem_of_getLast? hr))).1
        obtain ⟨hrt, hrm⟩ := List.mem_filter.1 hmem
        exact h.2 n r hrt hrm _

section run

variable {call : Call ρ} {T : Nat → List ρ} {n : Nat}

theorem walkAt_none_iff (h : Reads L C limit call T) :
    walkAt call T n = none ↔ Keyset.cursorAt L.key limit (fun n => (T n).filter L.isMatch) n = none := by
  rw [(walkAt_eq h n).1, Option.map_eq_none_iff]

theorem rowsAt_eq (h : Reads L C limit call T) :
    rowsAt call T n = Keyset.pageAt L.key limit (fun n => (T n).filter L.isMatch) n := by
  obtain ⟨hwalk, hcall⟩ := walkAt_eq h n
  unfold rowsAt
  rw [hwalk]
  cases hc : Keyset.cursorAt L.key limit (fun n => (T n).filter L.isMatch) n with
  | none =>
    unfold Keyset.pageAt
    rw [hc]
    rfl
  | some cursor =>
    rw [Keyset.pageAt_of hc, Option.map_some, Option.map_some, hcall cursor hc]
    rfl

theorem gained_of_zero {g : Nat → Nat} {m : Nat} (h : ∀ n, m ≤ n → g n = 0) (d : Nat) :
    Keyset.gained g (m + d) = Keyset.gained g m := by
  induction d with
  | zero => rfl
  | succ d ih =>
    show Keyset.gained g (m + d) + g (m + d) = _
    rw [ih, h (m + d) (by omega), Nat.add_zero]

variable [DecidableEq ι] {writes : Nat → List ρ}

theorem countP_tableAt_succ {cursor : Option RowKey}
    (hc : Keyset.cursorAt L.key limit (fun n => (L.tableAt t writes n).filter L.isMatch) (n + 1) = some cursor) :
    ((L.tableAt t writes (n + 1)).filter L.isMatch).countP (fun r => decide (Keyset.Below cursor (L.key r))) ≤
      ((L.tableAt t writes n).filter L.isMatch).countP (fun r => decide (Keyset.Below cursor (L.key r))) +
        L.landed limit (L.tableAt t writes) writes n := by
  have hlanded : L.landed limit (L.tableAt t writes) writes n =
      (writes n).countP fun r => L.isMatch r && decide (Keyset.Below cursor (L.key r)) := by
    unfold landed
    rw [hc]
  rw [hlanded, List.countP_filter, List.countP_filter]
  have hstep := L.countP_foldl_upsert
    (fun r => decide (Keyset.Below cursor (L.key r)) && L.isMatch r) (writes n) (L.tableAt t writes n)
  simp only [Bool.and_comm (L.isMatch _)]
  exact hstep

theorem bound_of_reads (hident : (t.map L.ident).Nodup) (h : Reads L C limit call (L.tableAt t writes))
    (hn : walkAt call (L.tableAt t writes) n ≠ none) :
    n * limit ≤ t.length + Keyset.gained (L.landed limit (L.tableAt t writes) writes) n := by
  cases hc : Keyset.cursorAt L.key limit (fun n => (L.tableAt t writes n).filter L.isMatch) n with
  | none => exact absurd ((walkAt_none_iff h).2 hc) hn
  | some cursor =>
    have hgain : ∀ n cursor, Keyset.cursorAt L.key limit (fun n => (L.tableAt t writes n).filter L.isMatch) (n + 1) =
          some cursor →
        ((L.tableAt t writes (n + 1)).filter L.isMatch).countP (fun r => decide (Keyset.Below cursor (L.key r))) ≤
          ((L.tableAt t writes n).filter L.isMatch).countP (fun r => decide (Keyset.Below cursor (L.key r))) +
            L.landed limit (L.tableAt t writes) writes n := fun n cursor hcursor => countP_tableAt_succ hcursor
    have hbound := Keyset.open_bound (fun n => distinct_matching (tableAt_nodup hident writes n)) hgain hc
    have hfirst : ((L.tableAt t writes 0).filter L.isMatch).length ≤ t.length := List.length_filter_le _ _
    exact (Nat.le_add_right _ _).trans (hbound.trans (Nat.add_le_add_right hfirst _))

theorem walkLaw_of_reads (hpos : 0 < limit) (hident : (t.map L.ident).Nodup)
    (h : Reads L C limit call (L.tableAt t writes)) : L.WalkLaw limit call t writes where
  pages n cursor hcursor := by
    obtain ⟨hwalk, hcall⟩ := walkAt_eq h n
    rw [hwalk] at hcursor
    obtain ⟨k, hk, rfl⟩ := Option.map_eq_some_iff.1 hcursor
    refine ⟨_, _, hcall k hk, Keyset.length_page_le,
      Keyset.nodup_page (distinct_matching (tableAt_nodup hident writes n)), fun r hr => ?_⟩
    exact List.mem_filter.1 (Keyset.mem_page hr).1
  bound n hn := bound_of_reads hident h hn
  terminates := by
    rintro ⟨m, hm⟩
    by_contra hopen
    have hwalk : ∀ n, walkAt call (L.tableAt t writes) n ≠ none := fun n hn => hopen ⟨n, hn⟩
    let d := t.length + Keyset.gained (L.landed limit (L.tableAt t writes) writes) m + 1
    have hbound := bound_of_reads hident h (hwalk (m + d))
    rw [gained_of_zero hm d] at hbound
    have hle : m + d ≤ (m + d) * limit := Nat.le_mul_of_pos_right _ hpos
    omega
  once r hend hmatch hstays := by
    obtain ⟨n, hn⟩ := hend
    have hstays' : ∀ n, Keyset.cursorAt L.key limit (fun n => (L.tableAt t writes n).filter L.isMatch) n ≠ none →
        r ∈ (L.tableAt t writes n).filter L.isMatch :=
      fun n hn => List.mem_filter.2 ⟨hstays n fun hnone => hn ((walkAt_none_iff h).1 hnone), hmatch⟩
    obtain ⟨i, hi⟩ := Keyset.returned_of_ended hpos (fun n => distinct_matching (tableAt_nodup hident writes n))
      hstays' ((walkAt_none_iff h).1 hn)
    refine ⟨i, by rw [rowsAt_eq h]; exact hi, fun m hm => ?_⟩
    rw [rowsAt_eq h] at hm
    rcases Nat.lt_trichotomy m i with hlt | heq | hlt
    · exact absurd hi (Keyset.pageAt_unique_lt hlt hm)
    · exact heq
    · exact absurd hm (Keyset.pageAt_unique_lt hlt hi)

end run

/-! ### reads and cursors of the catalog -/

theorem read_some (h : cursor ≠ []) :
    L.read C decode limit (some cursor) t = (decode cursor).map fun k => L.readBehind C limit (some k) t := by
  cases cursor with
  | nil => exact absurd rfl h
  | cons c cs => rfl

theorem lt_of_mem_page {r : ρ} (h : r ∈ (Keyset.page L.key limit (some k) (t.filter L.isMatch)).1) : L.key r < k :=
  (Keyset.mem_page h).2.1 k rfl

theorem reads_catalog (hC : C.Lawful) (T : Nat → List ρ) :
    Reads L C limit (L.read C (L.decodeCatalog C) limit) T := by
  refine ⟨fun t => rfl, fun n r _ _ t => ?_⟩
  rw [read_some (hC.encode_ne_nil _), decodeCatalog_encode hC]
  rfl

theorem reads_strict (hC : C.Lawful) (hdigest : L.filterDigest ≠ []) {T : Nat → List ρ}
    (hT : ∀ n, ∀ r ∈ T n, L.Storable C r) : Reads L C limit (L.read C (L.decodeStrict C) limit) T := by
  refine ⟨fun t => rfl, fun n r hr _ t => ?_⟩
  obtain ⟨hstamp, huuid, hlen⟩ := hT n r hr
  have hdecode : L.decodeStrict C (C.encode (L.payload (L.key r))) = .ok (L.key r) :=
    decodeStrict_encode hC hdigest hstamp huuid hlen
  rw [read_some (hC.encode_ne_nil _), hdecode]
  rfl

/-! ### cursors -/

theorem bindText_isOk {v : CursorValue} (h : Binds C v) : ∃ t, bindText C v = .ok t := by
  cases v with
  | int n =>
    obtain ⟨t, ht⟩ := Option.ne_none_iff_exists'.1 h
    exact ⟨some t, by rw [bindText, ht]; rfl⟩
  | surrogates => exact h.elim
  | composite => exact h.elim
  | _ => exact ⟨_, rfl⟩

theorem bindText_error {v : CursorValue} (h : ¬ Binds C v) : bindText C v = .error .unboundValue := by
  cases v with
  | int n => rw [bindText, not_not.1 h]; rfl
  | surrogates => rfl
  | composite => rfl
  | _ => exact (h trivial).elim

/-- The parameters of the query are built exactly if the time and the uuid are present and bound. -/
theorem resumeKey_cases (L : Listing ρ ι) (C : CursorCodec) (d : CursorMembers) :
    (∃ stamp uuid stampText uuidText, d.lookup L.stampField = some stamp ∧ d.lookup L.uuidField = some uuid ∧
        (Binds C stamp ∧ Binds C uuid) ∧ bindText C stamp = .ok stampText ∧ bindText C uuid = .ok uuidText ∧
        L.resumeKey C d = .ok (toLex (stampText.getD [], uuidText.getD []))) ∨
      (¬ ∃ stamp uuid, d.lookup L.stampField = some stamp ∧ d.lookup L.uuidField = some uuid ∧ Binds C stamp ∧
        Binds C uuid) ∧ ∃ e, (∀ e', e ≠ .mkb e') ∧ L.resumeKey C d = .error e := by
  unfold resumeKey
  cases hstamp : d.lookup L.stampField with
  | none => exact .inr ⟨(by rintro ⟨_, _, h, -⟩; cases h), .keyError, (fun _ h => by cases h), rfl⟩
  | some stamp =>
    cases huuid : d.lookup L.uuidField with
    | none => exact .inr ⟨(by rintro ⟨_, _, -, h, -⟩; cases h), .keyError, (fun _ h => by cases h), rfl⟩
    | some uuid =>
      by_cases hs : Binds C stamp
      · obtain ⟨stampText, hst⟩ := bindText_isOk hs
        by_cases hu : Binds C uuid
        · obtain ⟨uuidText, hut⟩ := bindText_isOk hu
          exact .inl ⟨stamp, uuid, stampText, uuidText, rfl, rfl, ⟨hs, hu⟩, hst, hut, by
            simp only [Checked.required, bind, Except.bind, hst, hut]; rfl⟩
        · refine .inr ⟨by rintro ⟨_, _, -, ⟨⟩, -, h⟩; exact hu h, .unboundValue, (fun _ h => by cases h), ?_⟩
          simp only [Checked.required, bind, Except.bind, hst, bindText_error hu]
      · refine .inr ⟨by rintro ⟨_, _, ⟨⟩, -, h, -⟩; exact hs h, .unboundValue, (fun _ h => by cases h), ?_⟩
        simp only [Checked.required, bind, Except.bind, bindText_error hs]

theorem cursorLaw_iff {loads : Text → Decoded} {passes : CursorMembers → Bool} {e : MkbError} (hne : cursor ≠ [])
    (hdecode : decode cursor = L.afterChecks C passes (.mkb e) (loads cursor)) (t : List ρ) :
    L.CursorLaw C loads (.mkb e) (L.read C decode limit) cursor t ↔ L.Resumable C passes (loads cursor) := by
  unfold CursorLaw Resumable
  rw [read_some hne, hdecode, or_iff_right hne]
  unfold afterChecks
  cases hloads : loads cursor with
  | failed => exact iff_of_true (.inl rfl) ⟨nofun, nofun⟩
  | other => exact iff_of_true (.inl rfl) ⟨nofun, nofun⟩
  | tooDeep =>
    refine iff_of_false ?_ fun h => h.1 rfl
    rintro (h | ⟨_, _, _, -, h, -⟩) <;> cases h
  | object d =>
    simp only
    split
    · rename_i hpasses
      rcases L.resumeKey_cases C d with ⟨stamp, uuid, stampText, uuidText, hs, hu, hbinds, hst, hut, hok⟩ |
        ⟨hno, e', he', herr⟩
      · refine iff_of_true (.inr ⟨_, _, _, ⟨d, stamp, uuid, stampText, uuidText, hloads, hs, hu, hst, hut, rfl⟩, by
          rw [hok]; rfl, fun r hr => lt_of_mem_page hr⟩) ⟨nofun, ?_⟩
        rintro _ ⟨⟩ -
        exact ⟨stamp, uuid, hs, hu, hbinds⟩
      · rw [herr]
        refine iff_of_false ?_ fun h => hno (h.2 d rfl hpasses)
        rintro (h | ⟨_, _, _, -, h, -⟩)
        · exact he' e (Except.error.inj h)
        · cases h
    · rename_i hpasses
      refine iff_of_true (.inl rfl) ⟨nofun, ?_⟩
      rintro _ ⟨⟩ h
      exact (hpasses h).elim

theorem cursorLaw_catalog_iff (t : List ρ) : L.CursorLaw C C.loads catalogRefusal (L.read C (L.decodeCatalog C) limit)
    cursor t ↔ L.CatalogResumable C cursor := by
  by_cases hnil : cursor = []
  · exact iff_of_true (.inl hnil) (.inl hnil)
  · unfold CatalogResumable
    rw [or_iff_right hnil]
    exact cursorLaw_iff hnil rfl t

theorem cursorLaw_strict_iff (t : List ρ) : L.CursorLaw C C.loadsStrict generationRefusal
    (L.read C (L.decodeStrict C) limit) cursor t ↔ L.GenerationResumable C cursor := by
  by_cases hnil : cursor = []
  · exact iff_of_true (.inl hnil) (.inl hnil)
  by_cases hlong : 2048 < cursor.length
  · refine iff_of_true (.inr (.inl ?_)) (.inr (.inl hlong))
    rw [read_some hnil, decodeStrict, if_pos hlong]
    rfl
  · unfold GenerationResumable
    rw [or_iff_right hnil, or_iff_right hlong]
    exact cursorLaw_iff hnil (if_neg hlong) t

end Listing

/-! ### the four listings -/

/-- The checks of `items` on its filter. -/
def ItemFilter.Admitted (f : ItemFilter) : Prop :=
  f.lifecycleState.all (["active".toList, "deactivated".toList, "deleted".toList].contains ·) = true ∧
    f.externalKey.any Text.isBlank = false

/-- The checks of `namespaces` on its filter. -/
def NamespaceFilter.Admitted (f : NamespaceFilter) : Prop :=
  f.status.all (["active".toList, "disabled".toList, "deleted".toList].contains ·) = true ∧
    f.namespaceKey.any Text.isBlank = false

/-- The checks of the generation reads on their filter. -/
def GenerationFilter.Admitted (f : GenerationFilter) : Prop :=
  f.artifactType.all artifactTypes.contains = true ∧
    f.validationDisposition.all validationDispositions.contains = true ∧ f.generation.any (· < 1) = false

namespace CursorCodec

variable {C : CursorCodec} {limit : Int}

theorem items_eq {f : ItemFilter} (hf : f.Admitted) (hlimit : 1 ≤ limit ∧ limit ≤ 100) :
    C.items f limit = (C.itemListing f).read C ((C.itemListing f).decodeCatalog C) limit.toNat := by
  funext cursor t
  unfold items
  rw [if_neg (not_not_intro hlimit), if_neg (not_not_intro hf.1), if_neg (by rw [hf.2]; exact Bool.false_ne_true)]

theorem namespaces_eq {f : NamespaceFilter} (hf : f.Admitted) (hlimit : 1 ≤ limit ∧ limit ≤ 100) :
    C.namespaces f limit = (C.namespaceListing f).read C ((C.namespaceListing f).decodeCatalog C) limit.toNat := by
  funext cursor t
  unfold namespaces
  rw [if_neg (not_not_intro hlimit), if_neg (not_not_intro hf.1), if_neg (by rw [hf.2]; exact Bool.false_ne_true)]

theorem listArtifacts_eq {f : GenerationFilter} (hf : f.Admitted) :
    C.listArtifacts f limit = (C.artifactListing f).read C ((C.artifactListing f).decodeStrict C) (clampLimit limit) := by
  funext cursor t
  unfold listArtifacts
  rw [if_neg (not_not_intro hf.1), if_neg (not_not_intro hf.2.1), if_neg (by rw [hf.2.2]; exact Bool.false_ne_true)]

theorem listPointers_eq {owner : Text → Text × Text} {f : GenerationFilter} (hf : f.Admitted) :
    C.listPointers owner f limit =
      (C.pointerListing owner f).read C ((C.pointerListing owner f).decodeStrict C) (clampLimit limit) := by
  funext cursor t
  unfold listPointers
  rw [if_neg (not_not_intro hf.1), if_neg (by rw [hf.2.2]; exact Bool.false_ne_true)]

theorem clampLimit_pos (limit : Int) : 0 < clampLimit limit := by
  unfold clampLimit
  omega

/-- Pagination is exact in the four listings, and a cursor is refused or resumed from exactly if one that passes the
checks of its listing has a time and a uuid that the driver binds. -/
theorem keysetListing_iff (C : CursorCodec) (hC : C.Lawful) (owner : Text → Text × Text) (limit : Int)
    (cursor : Text) :
    (∀ (f : ItemFilter) (t : List CatalogItem) (writes : Nat → List CatalogItem), f.Admitted → 1 ≤ limit → limit ≤ 100 →
      (t.map (C.itemListing f).ident).Nodup →
        ((C.itemListing f).WalkLaw limit.toNat (C.items f limit) t writes ∧
            (C.itemListing f).CursorLaw C C.loads catalogRefusal (C.items f limit) cursor t ↔
          (C.itemListing f).CatalogResumable C cursor)) ∧
      (∀ (f : NamespaceFilter) (t : List CatalogNamespace) (writes : Nat → List CatalogNamespace), f.Admitted →
        1 ≤ limit → limit ≤ 100 → (t.map (C.namespaceListing f).ident).Nodup →
          ((C.namespaceListing f).WalkLaw limit.toNat (C.namespaces f limit) t writes ∧
              (C.namespaceListing f).CursorLaw C C.loads catalogRefusal (C.namespaces f limit) cursor t ↔
            (C.namespaceListing f).CatalogResumable C cursor)) ∧
      (∀ (f : GenerationFilter) (t : List ListedArtifact) (writes : Nat → List ListedArtifact), f.Admitted →
        (t.map (C.artifactListing f).ident).Nodup → (∀ r ∈ t, (C.artifactListing f).Storable C r) →
        (∀ n, ∀ r ∈ writes n, (C.artifactListing f).Storable C r) →
          ((C.artifactListing f).WalkLaw (clampLimit limit) (C.listArtifacts f limit) t writes ∧
              (C.artifactListing f).CursorLaw C C.loadsStrict generationRefusal (C.listArtifacts f limit) cursor t ↔
            (C.artifactListing f).GenerationResumable C cursor)) ∧
      ∀ (f : GenerationFilter) (t : List (ListedPointer owner)) (writes : Nat → List (ListedPointer owner)), f.Admitted →
        (t.map (C.pointerListing owner f).ident).Nodup → (∀ r ∈ t, (C.pointerListing owner f).Storable C r) →
        (∀ n, ∀ r ∈ writes n, (C.pointerListing owner f).Storable C r) →
          ((C.pointerListing owner f).WalkLaw (clampLimit limit) (C.listPointers owner f limit) t writes ∧
              (C.pointerListing owner f).CursorLaw C C.loadsStrict generationRefusal (C.listPointers owner f limit)
                cursor t ↔
            (C.pointerListing owner f).GenerationResumable C cursor) := by
  refine ⟨fun f t writes hf h1 h100 hident => ?_, fun f t writes hf h1 h100 hident => ?_,
    fun f t writes hf hident ht hw => ?_, fun f t writes hf hident ht hw => ?_⟩
  · rw [items_eq hf ⟨h1, h100⟩, ← Listing.cursorLaw_catalog_iff t]
    exact and_iff_right (Listing.walkLaw_of_reads (by omega) hident (Listing.reads_catalog hC _))
  · rw [namespaces_eq hf ⟨h1, h100⟩, ← Listing.cursorLaw_catalog_iff t]
    exact and_iff_right (Listing.walkLaw_of_reads (by omega) hident (Listing.reads_catalog hC _))
  · rw [listArtifacts_eq hf, ← Listing.cursorLaw_strict_iff t]
    exact and_iff_right (Listing.walkLaw_of_reads (clampLimit_pos limit) hident
      (Listing.reads_strict hC (hC.digest_ne_nil _) (Listing.storable_tableAt ht hw)))
  · rw [listPointers_eq hf, ← Listing.cursorLaw_strict_iff t]
    exact and_iff_right (Listing.walkLaw_of_reads (clampLimit_pos limit) hident
      (Listing.reads_strict hC (hC.digest_ne_nil _) (Listing.storable_tableAt ht hw)))

/-! ### rows of one time, and a cursor without a uuid -/

/-- The reader of payloads in unary. -/
def loadsUnary (t : Text) : Decoded :=
  match (Encodable.decode (t.length - 1) : Option (List (List Nat × List Nat))) with
  | none => .failed
  | some m => .object (texts (m.map fun p => (String.ofList (p.1.map Char.ofNat), p.2.map Char.ofNat)))

/-- Payloads written in unary; the driver binds the integers of 64 bits. -/
def unaryCodec : CursorCodec where
  encode m := List.replicate (Encodable.encode (m.map fun p => (p.1.toList.map Char.toNat, p.2.map Char.toNat)) + 1) 'A'
  loads := loadsUnary
  loadsStrict := loadsUnary
  stableDigest _ := "digest".toList
  casefold := id
  bindInt n := if -9223372036854775808 ≤ n ∧ n < 9223372036854775808 then some (toString n).toList else none
  bindFloat l := some l

theorem loadsUnary_encode (m : List (String × Text)) : loadsUnary (unaryCodec.encode m) = .object (texts m) := by
  have hchars : ∀ t : Text, (t.map Char.toNat).map Char.ofNat = t := by
    intro t
    rw [List.map_map]
    exact (List.map_congr_left fun c _ => Char.ofNat_toNat c).trans (List.map_id t)
  have hmembers : (m.map fun p => (p.1.toList.map Char.toNat, p.2.map Char.toNat)).map
      (fun p => (String.ofList (p.1.map Char.ofNat), p.2.map Char.ofNat)) = m := by
    rw [List.map_map]
    refine (List.map_congr_left fun p _ => ?_).trans (List.map_id m)
    show (String.ofList ((p.1.toList.map Char.toNat).map Char.ofNat), (p.2.map Char.toNat).map Char.ofNat) = p
    rw [hchars, hchars, String.ofList_toList]
  unfold loadsUnary unaryCodec
  rw [List.length_replicate, Nat.add_sub_cancel, Encodable.encodek]
  simp only [hmembers]

theorem lawful_unaryCodec : unaryCodec.Lawful where
  loads m _ := loadsUnary_encode m
  loadsStrict m _ := loadsUnary_encode m
  encode_ne_nil _ := nofun
  digest_ne_nil _ := nofun

def anyItem : ItemFilter := ⟨"t".toList, none, none, none⟩

/-- Two items of one time. -/
def tiedItem (uuid : String) : CatalogItem :=
  ⟨"t".toList, uuid.toList, "k".toList, "web".toList, "active".toList, 1, none, none, "2026".toList, "2026".toList⟩

/-- The cursor that the first page of one row issues. -/
def tiedCursor : Text :=
  unaryCodec.encode ((unaryCodec.itemListing anyItem).payload (toLex ("2026".toList, "j".toList)))

theorem keysetListing_tied :
    unaryCodec.items anyItem 1 none [tiedItem "i", tiedItem "j"] = .ok ([tiedItem "j"], some tiedCursor) ∧
      unaryCodec.items anyItem 1 (some tiedCursor) [tiedItem "i", tiedItem "j"] = .ok ([tiedItem "i"], none) ∧
      (unaryCodec.itemListing anyItem).WalkLaw 1 (unaryCodec.items anyItem 1) [tiedItem "i", tiedItem "j"]
        (fun _ => []) ∧
      (unaryCodec.itemListing anyItem).CursorLaw unaryCodec unaryCodec.loads catalogRefusal
        (unaryCodec.items anyItem 1) tiedCursor [tiedItem "i", tiedItem "j"] := by
  have hcursor : tiedCursor ≠ [] := lawful_unaryCodec.encode_ne_nil _
  have hfirst : Keyset.page (unaryCodec.itemListing anyItem).key 1 none
      ([tiedItem "i", tiedItem "j"].filter (unaryCodec.itemListing anyItem).isMatch) =
        ([tiedItem "j"], some (toLex ("2026".toList, "j".toList))) := by decide
  have hsecond : Keyset.page (unaryCodec.itemListing anyItem).key 1 (some (toLex ("2026".toList, "j".toList)))
      ([tiedItem "i", tiedItem "j"].filter (unaryCodec.itemListing anyItem).isMatch) = ([tiedItem "i"], none) := by decide
  refine ⟨?_, ?_, ((keysetListing_iff unaryCodec lawful_unaryCodec (fun _ => ([], [])) 1 tiedCursor).1 anyItem
    [tiedItem "i", tiedItem "j"] (fun _ => []) ⟨rfl, rfl⟩ (by decide) (by decide) (by decide)).2 (.inr ⟨?_, ?_⟩)⟩
  · rw [items_eq ⟨rfl, rfl⟩ (by decide)]
    show Except.ok (Listing.readBehind unaryCodec _ 1 none _) = _
    unfold Listing.readBehind
    rw [hfirst]
    rfl
  · rw [items_eq ⟨rfl, rfl⟩ (by decide), Listing.read_some hcursor, tiedCursor,
      Listing.decodeCatalog_encode lawful_unaryCodec]
    show Except.ok (Listing.readBehind unaryCodec _ 1 _ _) = _
    unfold Listing.readBehind
    rw [hsecond]
    rfl
  · rw [tiedCursor, lawful_unaryCodec.loads _ (Listing.payload_sorted _ _)]
    exact nofun
  · intro d hd _
    rw [tiedCursor, lawful_unaryCodec.loads _ (Listing.payload_sorted _ _)] at hd
    cases hd
    exact ⟨.text "2026".toList, .text "j".toList, rfl, rfl, trivial, trivial⟩

/-- The kind and the filter of the listing with a time, and without a uuid. -/
def timeOnly : List (String × Text) :=
  [("filter_digest", "digest".toList), ("kind", "items".toList), ("updated_at", "2026".toList)]

theorem keysetListing_not_refused :
    ¬ ∀ (C : CursorCodec) (f : ItemFilter) (limit : Int) (cursor : Text) (t : List CatalogItem), C.Lawful → f.Admitted →
      1 ≤ limit → limit ≤ 100 → (t.map (C.itemListing f).ident).Nodup →
        (C.itemListing f).CursorLaw C C.loads catalogRefusal (C.items f limit) cursor t := by
  intro h
  have h := h unaryCodec anyItem 50 (unaryCodec.encode timeOnly) [] lawful_unaryCodec ⟨rfl, rfl⟩ (by decide) (by decide)
    List.nodup_nil
  rw [items_eq ⟨rfl, rfl⟩ (by decide)] at h
  rcases (Listing.cursorLaw_catalog_iff _).1 h with h | ⟨-, h⟩
  · exact lawful_unaryCodec.encode_ne_nil _ h
  · have hpasses : (unaryCodec.itemListing anyItem).isCatalogCursor (texts timeOnly) = true := by decide
    obtain ⟨_, _, -, huuid, -⟩ := h (texts timeOnly) (loadsUnary_encode timeOnly) hpasses
    cases huuid

end CursorCodec

end KnowledgeBase
