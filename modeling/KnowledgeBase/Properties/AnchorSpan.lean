import KnowledgeBase.Lsrag.Cuts
import Mathlib.Data.List.TakeWhile

/-!
# Spans of anchors

A span that the search returns holds the end anchor, but the search never asks that the end anchor ends where the
start anchor does or later. So it raises a declared error or returns a span of both anchors exactly when the end
anchor does not end inside the start anchor, `anchorSpan_exact`.
-/

namespace KnowledgeBase

open Checked

/-! ### what the search promises -/

/-- An error that the search declares. -/
def DeclaredCutsError (error : AnchorError) : Prop :=
  ∃ raised, error = .mkb raised ∧
    raised.code ∈ ["CUTS_ANCHOR_MISSING", "CUTS_ANCHOR_AMBIGUOUS", "CUTS_ORDER_INVALID"]

section search

variable (R : Printer) (clean startQuery endQuery : Text) (searchStart idx : Nat)

/-- The slice is in the text and holds both anchors, as they are if they were found as they are. -/
structure AnchorSpan (s e : Nat) : Prop where
  lt : s < e
  le : e ≤ clean.length
  starts : compactText startQuery <+: compactText (clean.slice s e)
  ends : ∃ marks : Text, (marks = [] ∨ ∃ c, isStop c = true ∧ marks = [c]) ∧
    compactText endQuery ++ marks <:+ compactText (clean.slice s e)
  exact : exactSpan R clean startQuery endQuery searchStart idx = .ok (some (s, e)) →
    startQuery <+: clean.slice s e ∧ endQuery <:+ clean.slice s e

/-- The outcome is a declared error or a span of both anchors. -/
def HoldsAnchors : Except AnchorError (Nat × Nat) → Prop
  | .ok (s, e) => AnchorSpan R clean startQuery endQuery searchStart idx s e
  | .error error => DeclaredCutsError error

/-- Both anchors occur as they are, the end anchor from the start anchor on. -/
def BothOccur : Prop :=
  ∃ i j, searchStart ≤ i ∧ i ≤ j ∧ clean.OccursAt startQuery i ∧ clean.OccursAt endQuery j

/-- Where the compacted start anchor is first found, it ends with a full stop that only closers separate from the
character before it, and the end anchor does not end before that character. -/
def StopFollows : Prop :=
  ∃ lead c gap after pre,
    clean.drop searchStart = lead ++ c :: (gap ++ '.' :: after) ∧ isKept c = true ∧ (∀ d ∈ gap, isCloser d = true) ∧
      compactText lead ++ [c] = pre ++ (compactText startQuery).dropLast ∧
        Text.findFrom (compactText (clean.drop searchStart)) (compactText startQuery) 0 = some pre.length ∧
          ¬ Text.EndsInside (compactText startQuery).dropLast (compactText endQuery)

/-- The end anchor does not end inside the start anchor: not as they are where the start anchor occurs so, and not
without the ignorable characters where they do not both occur as they are. -/
structure AnchorsApart : Prop where
  exact : ∀ i, searchStart ≤ i → clean.OccursAt startQuery i → ¬ Text.EndsInside startQuery endQuery
  resilient : ¬ BothOccur clean startQuery endQuery searchStart →
    (∃ i, Text.OccursAt (compactText (clean.drop searchStart)) (compactText startQuery) i) →
      compactText endQuery ≠ [] → Text.EndsInside (compactText startQuery) (compactText endQuery) →
        StopFollows clean startQuery endQuery searchStart

end search

/-! ### accepted anchors -/

theorem declaredCutsError {code detail : String}
    (h : code ∈ ["CUTS_ANCHOR_MISSING", "CUTS_ANCHOR_AMBIGUOUS", "CUTS_ORDER_INVALID"]) :
    DeclaredCutsError (.mkb (cutsError code detail)) := ⟨_, rfl, h⟩

theorem nonEmptyText_eq_ok {value : Option Json} {place : String} {t : Text} (h : nonEmptyText value place = .ok t) :
    t.isBlank = false := by
  unfold nonEmptyText at h
  split at h
  · simp only [bind_ok_iff, failIf_ok_iff, pure_ok_iff] at h
    obtain ⟨_, hblank, rfl⟩ := h
    exact hblank
  · cases h

theorem validateCut_anchors {R : Printer} {idx : Nat} {raw : Json} {cut : ValidatedCut}
    (h : validateCut R idx raw = .ok cut) : cut.startAnchor.isBlank = false ∧ cut.endAnchor.isBlank = false := by
  unfold validateCut at h
  split at h
  · simp only [bind_ok_iff, pure_ok_iff] at h
    obtain ⟨_, _, _, _, startAnchor, hstart, endAnchor, hend, title, -, rfl⟩ := h
    exact ⟨nonEmptyText_eq_ok hstart, nonEmptyText_eq_ok hend⟩
  · cases h

theorem validateCuts_anchors {R : Printer} {pack : Json} {validated : ValidatedCuts}
    (h : validateCuts R pack = .ok validated) :
    ∀ cut ∈ validated.cuts, cut.startAnchor.isBlank = false ∧ cut.endAnchor.isBlank = false := by
  unfold validateCuts at h
  split at h
  · simp only [bind_ok_iff, pure_ok_iff] at h
    obtain ⟨_, _, _, _, cuts, -, validatedCuts, hcuts, rfl⟩ := h
    intro cut hcut
    obtain ⟨p, -, hp⟩ := mapEach_exists hcuts cut hcut
    exact validateCut_anchors hp
  · cases h

/-! ### characters -/

theorem isKept_of_isIgnorable {c : Char} (h : isIgnorable c = true) : isKept c = false := by
  unfold isKept
  rw [h]
  rfl

theorem isIgnorable_of_isLineMark {c : Char} (h : isLineMark c = true) : isIgnorable c = true := by
  have hall : "#*_`~>|-+ \t".toList.all isIgnorable = true := by decide +kernel
  exact List.all_eq_true.1 hall c (List.contains_iff_mem.1 h)

theorem isIgnorable_of_isCloser {c : Char} (h : isCloser c = true) : isIgnorable c = true := by
  have hall : "`)]）】\"' \t".toList.all isIgnorable = true := by decide +kernel
  unfold isCloser at h
  rw [Bool.and_eq_true] at h
  exact List.all_eq_true.1 hall c (List.contains_iff_mem.1 h.1)

theorem isKept_iff_of_isStop {c : Char} (h : isStop c = true) : isKept c = true ↔ c = '.' := by
  have hall : "。，.!,;；：:".toList.all (fun d => isKept d == decide (d = '.')) = true := by decide +kernel
  have hc := beq_iff_eq.1 (List.all_eq_true.1 hall c (List.contains_iff_mem.1 h))
  rw [hc, decide_eq_true_eq]

theorem compactText_append (t u : Text) : compactText (t ++ u) = compactText t ++ compactText u := List.filter_append ..

theorem compactText_eq_nil {t : Text} (h : ∀ c ∈ t, isIgnorable c = true) : compactText t = [] :=
  List.filter_eq_nil_iff.2 fun c hc => by rw [isKept_of_isIgnorable (h c hc)]; decide

theorem isKept_of_mem_compactText {t : Text} {c : Char} (h : c ∈ compactText t) : isKept c = true :=
  (List.mem_filter.1 h).2

/-! ### what follows the end anchor -/

/-- A full stop follows, and nothing but closers before it. -/
def StopsNext (rest : Text) : Prop := ∃ gap after, rest = gap ++ '.' :: after ∧ ∀ c ∈ gap, isCloser c = true

theorem compactText_closers (rest : Text) : compactText (rest.takeWhile isCloser) = [] :=
  compactText_eq_nil fun c hc => isIgnorable_of_isCloser (List.all_eq_true.1 List.all_takeWhile c hc)

theorem closing_prefixes (rest : Text) : closing rest <+: rest := by
  have hsplit : rest.takeWhile isCloser ++ rest.dropWhile isCloser = rest := List.takeWhile_append_dropWhile
  unfold closing
  cases hnext : rest.dropWhile isCloser with
  | nil =>
    rw [List.head?_nil, Option.filter_none, Option.toList_none, List.append_nil]
    exact List.takeWhile_prefix _
  | cons c after =>
    rw [List.head?_cons, Option.filter_some]
    rw [hnext] at hsplit
    split
    · exact ⟨after, by rw [Option.toList_some, List.append_assoc]; exact hsplit⟩
    · rw [Option.toList_none, List.append_nil]
      exact List.takeWhile_prefix _

theorem compactText_closing (rest : Text) :
    ∃ marks : Text, (marks = [] ∨ ∃ c, isStop c = true ∧ marks = [c]) ∧ compactText (closing rest) = marks := by
  have hgap := compactText_closers rest
  refine ⟨compactText (closing rest), ?_, rfl⟩
  unfold closing
  rw [compactText_append, hgap, List.nil_append]
  cases hmark : (rest.dropWhile isCloser).head?.filter isStop with
  | none => exact .inl rfl
  | some c =>
    have hstop : isStop c = true := (Option.filter_eq_some_iff.1 hmark).2
    rw [Option.toList_some]
    by_cases hkept : isKept c = true
    · exact .inr ⟨c, hstop, List.filter_cons_of_pos hkept⟩
    · exact .inl (List.filter_cons_of_neg hkept)

theorem length_compactText_closing (rest : Text) : (compactText (closing rest)).length ≤ 1 := by
  obtain ⟨marks, hmarks, hclosing⟩ := compactText_closing rest
  rw [hclosing]
  rcases hmarks with rfl | ⟨c, -, rfl⟩
  · exact Nat.zero_le 1
  · exact le_rfl

theorem compactText_closing_ne_nil_iff (rest : Text) : compactText (closing rest) ≠ [] ↔ StopsNext rest := by
  have hgap := compactText_closers rest
  have hsplit : rest.takeWhile isCloser ++ rest.dropWhile isCloser = rest := List.takeWhile_append_dropWhile
  unfold closing
  rw [compactText_append, hgap, List.nil_append]
  constructor
  · intro hne
    cases hnext : rest.dropWhile isCloser with
    | nil => rw [hnext] at hne; exact absurd rfl hne
    | cons c after =>
      rw [hnext, List.head?_cons, Option.filter_some] at hne
      split at hne
      · rename_i hstop
        by_cases hkept : isKept c = true
        · obtain rfl := (isKept_iff_of_isStop hstop).1 hkept
          rw [hnext] at hsplit
          exact ⟨_, after, hsplit.symm, fun d hd => List.all_eq_true.1 List.all_takeWhile d hd⟩
        · exact absurd (List.filter_cons_of_neg hkept) hne
      · exact absurd rfl hne
  · rintro ⟨gap, after, rfl, hclosers⟩
    have hdrop : (gap ++ '.' :: after).dropWhile isCloser = '.' :: after := by
      rw [List.dropWhile_append_of_pos hclosers, List.dropWhile_cons_of_neg (by decide)]
    rw [hdrop, List.head?_cons]
    decide

/-! ### the exact tier -/

section exact

variable {R : Printer} {clean startQuery endQuery : Text} {searchStart idx : Nat}

theorem occursAt_le_length {t sub : Text} {i : Nat} (hne : sub ≠ []) (h : t.OccursAt sub i) : i ≤ t.length := by
  by_contra hlt
  have hnil : t.drop i = [] := List.drop_eq_nil_of_le (by omega)
  unfold Text.OccursAt at h
  rw [hnil, List.prefix_nil] at h
  exact hne h

theorem bothOccur_iff (hstart : startQuery ≠ []) (hend : endQuery ≠ []) :
    BothOccur clean startQuery endQuery searchStart ↔
      ∃ s e, clean.findFrom startQuery searchStart = some s ∧ clean.findFrom endQuery s = some e := by
  constructor
  · rintro ⟨i, j, hi, hij, hocci, hoccj⟩
    obtain ⟨s, hs⟩ := Text.findFrom_isSome hi (occursAt_le_length hstart hocci) hocci
    have hle := (Text.findFrom_eq_some_iff.1 hs).2 i hi hocci
    obtain ⟨e, he⟩ := Text.findFrom_isSome (hle.trans hij) (occursAt_le_length hend hoccj) hoccj
    exact ⟨s, e, hs, he⟩
  · rintro ⟨s, e, hs, he⟩
    obtain ⟨⟨hle, -, hoccs⟩, -⟩ := Text.findFrom_eq_some_iff.1 hs
    obtain ⟨⟨hse, -, hocce⟩, -⟩ := Text.findFrom_eq_some_iff.1 he
    exact ⟨s, e, hle, hse, hoccs, hocce⟩

theorem foundBetween_eq_true {t sub : Text} {s e : Nat} (h : foundBetween t sub s e = true) :
    ∃ second, s < second ∧ second < e ∧ t.OccursAt sub second := by
  obtain ⟨second, hsecond, hlt⟩ := (Option.any_eq_true _ _).1 h
  obtain ⟨⟨hle, -, hocc⟩, -⟩ := Text.findFrom_eq_some_iff.1 hsecond
  exact ⟨second, by omega, of_decide_eq_true hlt, hocc⟩

theorem exactSpan_of_not_bothOccur (hstart : startQuery ≠ []) (hend : endQuery ≠ [])
    (h : ¬ BothOccur clean startQuery endQuery searchStart) :
    exactSpan R clean startQuery endQuery searchStart idx = .ok none := by
  rw [bothOccur_iff hstart hend] at h
  unfold exactSpan
  split
  · rfl
  · rename_i s hs
    split
    · rfl
    · rename_i e he
      exact absurd ⟨s, e, hs, he⟩ h

theorem exactSpan_of_found (hend : endQuery ≠ []) {s e : Nat} (hs : clean.findFrom startQuery searchStart = some s)
    (he : clean.findFrom endQuery s = some e) :
    exactSpan R clean startQuery endQuery searchStart idx =
      if foundBetween clean startQuery s e then .error (anchorAmbiguous R startQuery idx)
      else .ok (some (s, e + endQuery.length)) := by
  have hpos := List.length_pos_iff.2 hend
  obtain ⟨⟨hse, -, -⟩, -⟩ := Text.findFrom_eq_some_iff.1 he
  have hlt : e + endQuery.length > s := by omega
  simp only [exactSpan, hs, he, if_pos hlt]
  cases foundBetween clean startQuery s e with
  | true => rfl
  | false => rfl

/-- The anchors found as they are lie in the span exactly if the end anchor does not end inside the start anchor. -/
theorem anchorSpan_of_found (hend : endQuery ≠ []) {s e : Nat} (hs : clean.findFrom startQuery searchStart = some s)
    (he : clean.findFrom endQuery s = some e) (hbetween : foundBetween clean startQuery s e = false) :
    AnchorSpan R clean startQuery endQuery searchStart idx s (e + endQuery.length) ↔
      ¬ Text.EndsInside startQuery endQuery := by
  have hpos := List.length_pos_iff.2 hend
  obtain ⟨⟨-, hlen, hoccs⟩, -⟩ := Text.findFrom_eq_some_iff.1 hs
  obtain ⟨⟨hse, hle, hocce⟩, -⟩ := Text.findFrom_eq_some_iff.1 he
  have hspan : exactSpan R clean startQuery endQuery searchStart idx = .ok (some (s, e + endQuery.length)) := by
    rw [exactSpan_of_found hend hs he, hbetween]
    rfl
  have hprefix := Text.prefix_slice_iff (j := e + endQuery.length) hoccs
  have hsuffix := Text.suffix_slice hse hocce
  rw [← Text.findFrom_ends_iff hend hoccs he]
  constructor
  · intro h hlt
    have hstarts := hprefix.1 (h.exact hspan).1
    omega
  · intro hnot
    have hstarts : startQuery <+: clean.slice s (e + endQuery.length) := hprefix.2 (by omega)
    refine ⟨by omega, hocce.le hle, hstarts.filter _, ⟨[], .inl rfl, ?_⟩, fun _ => ⟨hstarts, hsuffix⟩⟩
    rw [List.append_nil]
    exact hsuffix.filter _

end exact

/-! ### the compacted anchors -/

theorem mem_of_mem_stripText {t : Text} {c : Char} (h : c ∈ stripText t) : c ∈ t := by
  unfold stripText at h
  rw [List.mem_reverse] at h
  exact (List.dropWhile_sublist _).mem (List.mem_reverse.1 ((List.dropWhile_sublist _).mem h))

theorem stripText_ne_nil {t : Text} (h : t.isBlank = false) : stripText t ≠ [] := by
  intro hnil
  unfold stripText at hnil
  rw [List.reverse_eq_nil_iff, List.dropWhile_eq_nil_iff] at hnil
  have hall : t.isBlank = true := by
    unfold Text.isBlank
    rw [List.all_eq_true]
    intro c hc
    rw [← List.takeWhile_append_dropWhile (p := Text.isSpace) (l := t), List.mem_append] at hc
    rcases hc with hc | hc
    · exact List.all_eq_true.1 List.all_takeWhile c hc
    · exact hnil c (List.mem_reverse.2 hc)
  rw [h] at hall
  cases hall

theorem compactQuery_eq {query : Text} (h : compactText query ≠ []) : compactQuery query = compactText query :=
  if_neg fun hempty => h (List.isEmpty_iff.1 hempty)

theorem findFrom_compactQuery_eq_none {query t : Text} {start : Nat} (hblank : query.isBlank = false)
    (h : compactText query = []) : Text.findFrom (compactText t) (compactQuery query) start = none := by
  have hquery : compactQuery query = stripText query := if_pos (List.isEmpty_iff.2 h)
  rw [hquery]
  cases hfound : Text.findFrom (compactText t) (stripText query) start with
  | none => rfl
  | some i =>
    obtain ⟨⟨-, -, hocc⟩, -⟩ := Text.findFrom_eq_some_iff.1 hfound
    obtain ⟨c, hc⟩ := List.exists_mem_of_ne_nil _ (stripText_ne_nil hblank)
    have hkept : isKept c = true := isKept_of_mem_compactText (List.mem_of_mem_drop (hocc.subset hc))
    have hmem : c ∈ compactText query := List.mem_filter.2 ⟨mem_of_mem_stripText hc, hkept⟩
    rw [h] at hmem
    cases hmem

/-! ### the resilient tier -/

theorem pyGet?_natCast {α : Type} (l : List α) (n : Nat) : pyGet? l (n : Int) = l[n]? := by
  unfold pyGet?
  rw [if_pos (Int.natCast_nonneg n), Int.toNat_natCast]

theorem widenStart_spec (t : Text) (i : Nat) : widenStart t i ≤ i ∧ compactText (t.slice (widenStart t i) i) = [] := by
  unfold widenStart
  simp only
  split
  · rename_i hall
    rw [List.all_eq_true] at hall
    exact ⟨Nat.sub_le _ _, compactText_eq_nil fun c hc => isIgnorable_of_isLineMark (hall c hc)⟩
  · refine ⟨le_rfl, ?_⟩
    unfold Text.slice
    rw [Nat.sub_self, List.take_zero]
    rfl

section resilient

variable {R : Printer} {clean startQuery endQuery : Text} {searchStart idx : Nat}

/-- A kept character splits the text as its position among the kept ones splits the compacted text. -/
theorem kept_place {k i : Nat} {c : Char}
    (h : (keptFrom isKept searchStart (clean.drop searchStart))[k]? = some (c, i)) :
    i < clean.length ∧ compactText (clean.drop i) = (compactText (clean.drop searchStart)).drop k ∧
      compactText (clean.drop (i + 1)) = (compactText (clean.drop searchStart)).drop (k + 1) := by
  obtain ⟨hle, hget, -, htake⟩ := keptFrom_spec isKept h
  obtain ⟨hlen, -⟩ := List.getElem?_eq_some_iff.1 hget
  obtain ⟨hk, -⟩ := List.getElem?_eq_some_iff.1 h
  rw [length_keptFrom] at hk
  rw [List.length_drop] at hlen
  have hi : clean.drop i = (clean.drop searchStart).drop (i - searchStart) := by
    rw [List.drop_drop, Nat.add_sub_cancel' hle]
  have hnext : clean.drop (i + 1) = (clean.drop searchStart).drop (i - searchStart + 1) := by
    rw [List.drop_drop, ← Nat.add_assoc, Nat.add_sub_cancel' hle]
  rw [hi, hnext]
  exact ⟨by omega, filter_drop isKept htake hk.le, filter_drop isKept (filter_take_succ isKept h) hk⟩

theorem map_fst_kept : (keptFrom isKept searchStart (clean.drop searchStart)).map Prod.fst =
    compactText (clean.drop searchStart) :=
  map_fst_keptFrom ..

theorem resilientSpan_start_missing
    (h : Text.findFrom (compactText (clean.drop searchStart)) (compactQuery startQuery) 0 = none) :
    resilientSpan R clean startQuery endQuery searchStart idx = .error (startMissing R startQuery idx) := by
  simp only [resilientSpan, map_fst_kept, h]
  rfl

theorem resilientSpan_end_missing {cS : Nat}
    (hS : Text.findFrom (compactText (clean.drop searchStart)) (compactQuery startQuery) 0 = some cS)
    (hE : Text.findFrom (compactText (clean.drop searchStart)) (compactQuery endQuery) cS = none) :
    resilientSpan R clean startQuery endQuery searchStart idx = .error (endMissing R endQuery idx) := by
  simp only [resilientSpan, map_fst_kept, hS, required, bind, Except.bind, hE]

theorem resilientSpan_ambiguous {cS cE : Nat}
    (hS : Text.findFrom (compactText (clean.drop searchStart)) (compactQuery startQuery) 0 = some cS)
    (hE : Text.findFrom (compactText (clean.drop searchStart)) (compactQuery endQuery) cS = some cE)
    (hbetween : foundBetween (compactText (clean.drop searchStart)) (compactQuery startQuery) cS cE = true) :
    resilientSpan R clean startQuery endQuery searchStart idx = .error (anchorAmbiguous R startQuery idx) := by
  simp only [resilientSpan, map_fst_kept, hS, required, bind, Except.bind, hE, hbetween, failIf]
  rfl

/-- The places of the compacted anchors, the first and the last kept character of the span. -/
structure ResilientPlaces (clean startQuery endQuery : Text) (searchStart cS cE first last : Nat) : Prop where
  startFound : Text.findFrom (compactText (clean.drop searchStart)) (compactText startQuery) 0 = some cS
  endFound : Text.findFrom (compactText (clean.drop searchStart)) (compactText endQuery) cS = some cE
  first : ∃ c, (keptFrom isKept searchStart (clean.drop searchStart))[cS]? = some (c, first)
  last : ∃ c, (keptFrom isKept searchStart (clean.drop searchStart))[cE + (compactText endQuery).length - 1]? = some (c, last)

/-- The end of the span whose last kept character is at the position, closers and mark included. -/
def closedEnd (clean : Text) (last : Nat) : Nat := last + 1 + (closing (clean.drop (last + 1))).length

theorem exists_resilientPlaces {cS cE : Nat} (ha : compactText startQuery ≠ [])
    (hS : Text.findFrom (compactText (clean.drop searchStart)) (compactText startQuery) 0 = some cS)
    (hE : Text.findFrom (compactText (clean.drop searchStart)) (compactText endQuery) cS = some cE)
    (hb : compactText endQuery ≠ []) :
    ∃ first last, ResilientPlaces clean startQuery endQuery searchStart cS cE first last := by
  obtain ⟨⟨-, hlenS, hoccS⟩, -⟩ := Text.findFrom_eq_some_iff.1 hS
  obtain ⟨⟨-, hlenE, hoccE⟩, -⟩ := Text.findFrom_eq_some_iff.1 hE
  have hleS := hoccS.le hlenS
  have hleE := hoccE.le hlenE
  have hposa := List.length_pos_iff.2 ha
  have hposb := List.length_pos_iff.2 hb
  have hkept : (keptFrom isKept searchStart (clean.drop searchStart)).length = (compactText (clean.drop searchStart)).length :=
    length_keptFrom ..
  have hfirst := List.getElem?_eq_getElem (l := keptFrom isKept searchStart (clean.drop searchStart)) (i := cS) (by omega)
  have hlast := List.getElem?_eq_getElem (l := keptFrom isKept searchStart (clean.drop searchStart))
    (i := cE + (compactText endQuery).length - 1) (by omega)
  exact ⟨_, _, hS, hE, ⟨_, hfirst⟩, ⟨_, hlast⟩⟩

namespace ResilientPlaces

variable {cS cE first last : Nat}

theorem compactText_between (h : ResilientPlaces clean startQuery endQuery searchStart cS cE first last)
    (hb : compactText endQuery ≠ []) :
    first ≤ last ∧ last < clean.length ∧ compactText (clean.drop first) = (compactText (clean.drop searchStart)).drop cS ∧
      compactText (clean.slice first (last + 1)) =
        Text.slice (compactText (clean.drop searchStart)) cS (cE + (compactText endQuery).length) := by
  obtain ⟨c, hfirst⟩ := h.first
  obtain ⟨d, hlast⟩ := h.last
  obtain ⟨⟨hle, hlen, hocc⟩, -⟩ := Text.findFrom_eq_some_iff.1 h.endFound
  have hposb := List.length_pos_iff.2 hb
  have hbound := hocc.le hlen
  obtain ⟨-, hdropS, -⟩ := kept_place hfirst
  obtain ⟨hlt, -, hdropE⟩ := kept_place hlast
  rw [Nat.sub_add_cancel (by omega)] at hdropE
  have horder : first ≤ last := by
    by_contra hlast_lt
    have hsub : clean.drop first <:+ clean.drop (last + 1) := List.drop_suffix_drop_left clean (by omega)
    have hcount := (hsub.filter isKept).length_le
    change (compactText (clean.drop first)).length ≤ (compactText (clean.drop (last + 1))).length at hcount
    rw [hdropS, hdropE, List.length_drop, List.length_drop] at hcount
    omega
  refine ⟨horder, hlt, hdropS, ?_⟩
  have hsplit := congrArg compactText (Text.slice_append_drop (t := clean) (show first ≤ last + 1 by omega))
  rw [compactText_append, hdropS, hdropE] at hsplit
  have hslice := Text.slice_append_drop (t := compactText (clean.drop searchStart))
    (show cS ≤ cE + (compactText endQuery).length by omega)
  exact List.append_cancel_right (hsplit.trans hslice.symm)

theorem compactText_span (h : ResilientPlaces clean startQuery endQuery searchStart cS cE first last)
    (hb : compactText endQuery ≠ []) :
    compactText (clean.slice (widenStart clean first) (closedEnd clean last)) =
      Text.slice (compactText (clean.drop searchStart)) cS (cE + (compactText endQuery).length) ++
        compactText (closing (clean.drop (last + 1))) ∧
    compactText (clean.slice (widenStart clean first) (closedEnd clean last)) <+:
      (compactText (clean.drop searchStart)).drop cS := by
  obtain ⟨horder, hlt, hdrop, hbetween⟩ := h.compactText_between hb
  obtain ⟨hwiden, hnil⟩ := widenStart_spec clean first
  have hend : last + 1 ≤ closedEnd clean last := Nat.le_add_right _ _
  have hclosing : clean.slice (last + 1) (closedEnd clean last) = closing (clean.drop (last + 1)) :=
    Text.slice_of_prefix (closing_prefixes _)
  have hwhole : compactText (clean.slice (widenStart clean first) (closedEnd clean last)) =
      compactText (clean.slice first (closedEnd clean last)) := by
    rw [← Text.slice_append hwiden (show first ≤ closedEnd clean last by omega), compactText_append, hnil, List.nil_append]
  rw [hwhole]
  constructor
  · rw [← Text.slice_append (show first ≤ last + 1 by omega) hend, compactText_append, hbetween, hclosing]
  · rw [← hdrop]
    exact (Text.slice_prefix clean first (closedEnd clean last)).filter isKept

theorem resilientSpan_eq (h : ResilientPlaces clean startQuery endQuery searchStart cS cE first last)
    (ha : compactText startQuery ≠ []) (hb : compactText endQuery ≠ [])
    (hbetween : foundBetween (compactText (clean.drop searchStart)) (compactText startQuery) cS cE = false) :
    resilientSpan R clean startQuery endQuery searchStart idx = .ok (widenStart clean first, closedEnd clean last) := by
  obtain ⟨horder, -⟩ := h.compactText_between hb
  obtain ⟨hwiden, -⟩ := widenStart_spec clean first
  obtain ⟨c, hfirst⟩ := h.first
  obtain ⟨d, hlast⟩ := h.last
  have hposb := List.length_pos_iff.2 hb
  have hgetS : pyGet? ((keptFrom isKept searchStart (clean.drop searchStart)).map Prod.snd) (cS : Int) = some first := by
    rw [pyGet?_natCast, List.getElem?_map, hfirst]
    rfl
  have hcast : (cE : Int) + ((compactText endQuery).length : Int) - 1 = ((cE + (compactText endQuery).length - 1 : Nat) : Int) := by
    omega
  have hgetE : pyGet? ((keptFrom isKept searchStart (clean.drop searchStart)).map Prod.snd)
      ((cE : Int) + ((compactText endQuery).length : Int) - 1) = some last := by
    rw [hcast, pyGet?_natCast, List.getElem?_map, hlast]
    rfl
  have hend : decide (closedEnd clean last ≤ widenStart clean first) = false := by
    rw [decide_eq_false_iff_not]
    unfold closedEnd
    omega
  unfold resilientSpan
  simp only [map_fst_kept, compactQuery_eq ha, compactQuery_eq hb, bind_ok_iff, required_ok_iff,
    failIf_ok_iff, pure_ok_iff]
  exact ⟨cS, h.startFound, cE, h.endFound, (), hbetween, first, hgetS, last, hgetE, (), hend, rfl⟩

theorem anchorSpan_iff (h : ResilientPlaces clean startQuery endQuery searchStart cS cE first last)
    (hb : compactText endQuery ≠ []) (hnone : exactSpan R clean startQuery endQuery searchStart idx = .ok none) :
    AnchorSpan R clean startQuery endQuery searchStart idx (widenStart clean first) (closedEnd clean last) ↔
      cS + (compactText startQuery).length ≤
        cE + (compactText endQuery).length + (compactText (closing (clean.drop (last + 1)))).length := by
  obtain ⟨⟨-, -, hoccS⟩, -⟩ := Text.findFrom_eq_some_iff.1 h.startFound
  obtain ⟨⟨hle, hlen, hoccE⟩, -⟩ := Text.findFrom_eq_some_iff.1 h.endFound
  obtain ⟨horder, hlt, -, -⟩ := h.compactText_between hb
  obtain ⟨hspan, hprefix⟩ := h.compactText_span hb
  obtain ⟨hwiden, -⟩ := widenStart_spec clean first
  have hlength := congrArg List.length hspan
  rw [List.length_append, Text.length_slice (hoccE.le hlen)] at hlength
  constructor
  · intro hanchors
    have hstarts := hanchors.starts.length_le
    omega
  · intro hlong
    have hclosed : closedEnd clean last ≤ clean.length := by
      have hrest := (closing_prefixes (clean.drop (last + 1))).length_le
      rw [List.length_drop] at hrest
      unfold closedEnd
      omega
    refine ⟨?_, hclosed, List.prefix_of_prefix_length_le hoccS hprefix (by omega), ?_, fun hexact => ?_⟩
    · unfold closedEnd
      omega
    · obtain ⟨marks, hmarks, hclosing⟩ := compactText_closing (clean.drop (last + 1))
      refine ⟨marks, hmarks, ?_⟩
      rw [hspan, hclosing]
      obtain ⟨u, hu⟩ := Text.suffix_slice hle hoccE
      exact ⟨u, by rw [← hu, List.append_assoc]⟩
    · rw [hnone] at hexact
      cases hexact

/-- Where the end anchor ends inside the start anchor, the span is long enough exactly if the full stop that ends the
start anchor follows. -/
theorem stopFollows_iff (h : ResilientPlaces clean startQuery endQuery searchStart cS cE first last)
    (hb : compactText endQuery ≠ []) (hinside : Text.EndsInside (compactText startQuery) (compactText endQuery)) :
    cS + (compactText startQuery).length ≤
        cE + (compactText endQuery).length + (compactText (closing (clean.drop (last + 1)))).length ↔
      StopFollows clean startQuery endQuery searchStart := by
  obtain ⟨⟨-, -, hoccS⟩, -⟩ := Text.findFrom_eq_some_iff.1 h.startFound
  obtain ⟨⟨horder, -, -⟩, -⟩ := Text.findFrom_eq_some_iff.1 h.endFound
  obtain ⟨c, hlast⟩ := h.last
  obtain ⟨hle, hget, hkept, -⟩ := keptFrom_spec isKept hlast
  have hposb := List.length_pos_iff.2 hb
  have hshort := (Text.findFrom_ends_iff hb hoccS h.endFound).2 hinside
  have hmarks := length_compactText_closing (clean.drop (last + 1))
  have hoccInit : Text.OccursAt (compactText (clean.drop searchStart)) (compactText startQuery).dropLast cS :=
    (List.dropLast_prefix _).trans hoccS
  have hinit := Text.findFrom_ends_iff hb hoccInit h.endFound
  rw [List.length_dropLast] at hinit
  have hstops := compactText_closing_ne_nil_iff (clean.drop (last + 1))
  rw [← List.length_pos_iff] at hstops
  constructor
  · intro hlong
    obtain ⟨gap, after, hrest, hgap⟩ := hstops.1 (by omega)
    have htake : compactText ((clean.drop searchStart).take (last - searchStart + 1)) =
        (compactText (clean.drop searchStart)).take (cS + (compactText startQuery).dropLast.length) := by
      refine (filter_take_succ isKept hlast).trans ?_
      rw [List.length_dropLast]
      congr 1
      omega
    refine ⟨(clean.drop searchStart).take (last - searchStart), c, gap, after,
      (compactText (clean.drop searchStart)).take cS, ?_, hkept, hgap, ?_, ?_, fun hend => ?_⟩
    · obtain ⟨hlen, hc⟩ := List.getElem?_eq_some_iff.1 hget
      have hnext : clean.drop (last + 1) = (clean.drop searchStart).drop (last - searchStart + 1) := by
        rw [List.drop_drop, ← Nat.add_assoc, Nat.add_sub_cancel' hle]
      rw [← hrest, hnext, ← hc, List.cons_getElem_drop_succ, List.take_append_drop]
    · rw [List.take_add_one, hget, compactText_append] at htake
      have hsingle : compactText (some c).toList = [c] := List.filter_cons_of_pos hkept
      rw [hsingle] at htake
      rw [htake, List.take_add, hoccInit.take]
    · obtain ⟨⟨-, hlenS, -⟩, -⟩ := Text.findFrom_eq_some_iff.1 h.startFound
      rw [List.length_take, Nat.min_eq_left hlenS]
      exact h.startFound
    · have := hinit.2 hend
      omega
  · rintro ⟨lead, d, gap, after, pre, htext, hd, hgap, hlead, hfound, hnot⟩
    have hpre : pre.length = cS := Option.some.inj (hfound.symm.trans h.startFound)
    have hnotShort : ¬ cE + (compactText endQuery).length < cS + ((compactText startQuery).length - 1) :=
      fun hlt => hnot (hinit.1 hlt)
    have hcount := congrArg List.length hlead
    rw [List.length_append, List.length_append, List.length_dropLast, List.length_singleton, hpre] at hcount
    -- the character before the full stop is the last one of the end anchor
    have hplace := getElem?_keptFrom isKept searchStart lead (gap ++ '.' :: after) hd
    have hindex : (lead.filter isKept).length = cE + (compactText endQuery).length - 1 := by
      change (compactText lead).length = _
      omega
    rw [← htext, hindex, hlast] at hplace
    obtain ⟨-, hpos⟩ := Prod.mk.inj (Option.some.inj hplace)
    have hrest : clean.drop (last + 1) = gap ++ '.' :: after := by
      have hsplit : (clean.drop searchStart).drop (lead.length + 1) = gap ++ '.' :: after := by
        rw [htext, ← List.drop_drop, List.drop_left, List.drop_one, List.tail_cons]
      rw [List.drop_drop, ← Nat.add_assoc] at hsplit
      rw [hpos]
      exact hsplit
    have hmark := hstops.2 ⟨gap, after, hrest, hgap⟩
    omega

end ResilientPlaces

/-- The resilient tier raises a declared error or returns a span of both anchors exactly if the end anchor does not end
inside the start anchor, or a full stop follows. -/
theorem holdsAnchors_resilientSpan (hstart : startQuery.isBlank = false) (hend : endQuery.isBlank = false)
    (hnone : exactSpan R clean startQuery endQuery searchStart idx = .ok none) :
    HoldsAnchors R clean startQuery endQuery searchStart idx
        (resilientSpan R clean startQuery endQuery searchStart idx) ↔
      ((∃ i, Text.OccursAt (compactText (clean.drop searchStart)) (compactText startQuery) i) →
        compactText endQuery ≠ [] → Text.EndsInside (compactText startQuery) (compactText endQuery) →
          StopFollows clean startQuery endQuery searchStart) := by
  by_cases ha : compactText startQuery = []
  · rw [resilientSpan_start_missing (findFrom_compactQuery_eq_none hstart ha)]
    refine iff_of_true (declaredCutsError (by decide)) fun _ hb hinside => absurd ?_ hb
    rw [ha] at hinside
    exact List.infix_nil.1 hinside
  have haq := compactQuery_eq ha
  cases hS : Text.findFrom (compactText (clean.drop searchStart)) (compactText startQuery) 0 with
  | none =>
    rw [resilientSpan_start_missing (by rw [haq]; exact hS)]
    refine iff_of_true (declaredCutsError (by decide)) ?_
    rintro ⟨i, hocc⟩
    obtain ⟨j, hj⟩ := Text.findFrom_isSome (Nat.zero_le i) (occursAt_le_length ha hocc) hocc
    rw [hS] at hj
    cases hj
  | some cS =>
    obtain ⟨⟨-, -, hoccS⟩, -⟩ := Text.findFrom_eq_some_iff.1 hS
    have hSq : Text.findFrom (compactText (clean.drop searchStart)) (compactQuery startQuery) 0 = some cS := by
      rw [haq]
      exact hS
    by_cases hb : compactText endQuery = []
    · rw [resilientSpan_end_missing hSq (findFrom_compactQuery_eq_none hend hb)]
      exact iff_of_true (declaredCutsError (by decide)) fun _ hne => absurd hb hne
    have hbq := compactQuery_eq hb
    cases hE : Text.findFrom (compactText (clean.drop searchStart)) (compactText endQuery) cS with
    | none =>
      rw [resilientSpan_end_missing hSq (by rw [hbq]; exact hE)]
      refine iff_of_true (declaredCutsError (by decide)) fun _ _ hinside => ?_
      obtain ⟨j, hj⟩ := Text.findFrom_of_endsInside hb hoccS hinside
      rw [hE] at hj
      cases hj
    | some cE =>
      cases hbetween : foundBetween (compactText (clean.drop searchStart)) (compactText startQuery) cS cE with
      | true =>
        rw [resilientSpan_ambiguous hSq (by rw [hbq]; exact hE) (by rw [haq]; exact hbetween)]
        refine iff_of_true (declaredCutsError (by decide)) fun _ _ hinside => ?_
        obtain ⟨second, hafter, hbefore, hagain⟩ := foundBetween_eq_true hbetween
        have hshort := (Text.findFrom_ends_iff hb hoccS hE).2 hinside
        have hlate := Text.not_again_of_endsInside hoccS hE hshort hagain hafter
        omega
      | false =>
        obtain ⟨first, last, hplaces⟩ := exists_resilientPlaces ha hS hE hb
        rw [hplaces.resilientSpan_eq ha hb hbetween]
        refine (hplaces.anchorSpan_iff hb hnone).trans ?_
        constructor
        · exact fun hlong _ _ hinside => (hplaces.stopFollows_iff hb hinside).1 hlong
        · intro h
          by_cases hinside : Text.EndsInside (compactText startQuery) (compactText endQuery)
          · exact (hplaces.stopFollows_iff hb hinside).2 (h ⟨cS, hoccS⟩ hb hinside)
          · rw [← Text.findFrom_ends_iff hb hoccS hE] at hinside
            omega

end resilient

/-! ### the search -/

/-- For the anchors of an accepted pack the search raises a declared error or returns a span of both anchors exactly if
the end anchor does not end inside the start anchor. -/
theorem anchorSpan_exact {R : Printer} {pack : Json} {validated : ValidatedCuts} (h : validateCuts R pack = .ok validated)
    {cut : ValidatedCut} (hcut : cut ∈ validated.cuts) (clean : Text) (searchStart idx : Nat) :
    HoldsAnchors R clean cut.startAnchor cut.endAnchor searchStart idx
        (findAnchorSpan R clean cut.startAnchor cut.endAnchor searchStart idx) ↔
      AnchorsApart clean cut.startAnchor cut.endAnchor searchStart := by
  obtain ⟨hstart, hend⟩ := validateCuts_anchors h cut hcut
  have hstartNe := Text.ne_nil_of_not_blank hstart
  have hendNe := Text.ne_nil_of_not_blank hend
  unfold findAnchorSpan
  by_cases hboth : BothOccur clean cut.startAnchor cut.endAnchor searchStart
  · obtain ⟨s, e, hs, he⟩ := (bothOccur_iff hstartNe hendNe).1 hboth
    obtain ⟨⟨hle, -, hoccs⟩, -⟩ := Text.findFrom_eq_some_iff.1 hs
    have hapart : AnchorsApart clean cut.startAnchor cut.endAnchor searchStart ↔
        ¬ Text.EndsInside cut.startAnchor cut.endAnchor :=
      ⟨fun hap => hap.exact s hle hoccs, fun hnot => ⟨fun _ _ _ => hnot, fun hno => absurd hboth hno⟩⟩
    rw [hapart, exactSpan_of_found hendNe hs he]
    cases hbetween : foundBetween clean cut.startAnchor s e with
    | true =>
      refine iff_of_true (declaredCutsError (by decide)) fun hinside => ?_
      obtain ⟨second, hafter, hbefore, hagain⟩ := foundBetween_eq_true hbetween
      have hshort := (Text.findFrom_ends_iff hendNe hoccs he).2 hinside
      have hlate := Text.not_again_of_endsInside hoccs he hshort hagain hafter
      omega
    | false => exact anchorSpan_of_found hendNe hs he hbetween
  · have hnone : exactSpan R clean cut.startAnchor cut.endAnchor searchStart idx = .ok none :=
      exactSpan_of_not_bothOccur hstartNe hendNe hboth
    rw [hnone]
    refine (holdsAnchors_resilientSpan hstart hend hnone).trans ⟨fun hres => ⟨fun i hi hocc hinside => hboth ?_, fun _ => hres⟩,
      fun hap => hap.resilient hboth⟩
    obtain ⟨d, hd, hoccd⟩ := (Text.endsInside_iff hendNe).1 hinside
    exact ⟨i, i + d, hi, Nat.le_add_right i d, hocc, (hocc.inside (by omega)).2 hoccd⟩

/-- A runtime for text that is printable as it is. -/
def plainPrinter : Printer where
  isPrintable := fun _ => true
  strOf := fun _ => []

/-- A heading as start anchor, and the first word of it as end anchor. -/
def headingCut : ValidatedCut where
  title := none
  startAnchor := "# Closing report".toList
  endAnchor := "# Closing".toList

/-- Its first words as start anchor, and the words after them as end anchor. -/
def reportCut : ValidatedCut where
  title := none
  startAnchor := "# Closing".toList
  endAnchor := "report: done".toList

def packOf (cut : ValidatedCut) : Json :=
  .obj [("cuts", .arr [.obj [("end", .str cut.endAnchor), ("start", .str cut.startAnchor)]]),
    ("schema_version", .str "mkb.b-json-cuts.v1".toList)]

theorem anchorSpan_exact_report :
    HoldsAnchors plainPrinter "# Closing report: done.".toList reportCut.startAnchor reportCut.endAnchor 0 0
        (findAnchorSpan plainPrinter "# Closing report: done.".toList reportCut.startAnchor reportCut.endAnchor 0 0) ∧
      findAnchorSpan plainPrinter "# Closing report: done.".toList reportCut.startAnchor reportCut.endAnchor 0 0 =
        .ok (0, 22) := by
  have hboth : BothOccur "# Closing report: done.".toList reportCut.startAnchor reportCut.endAnchor 0 :=
    ⟨0, 10, by decide, by decide, ⟨" report: done.".toList, rfl⟩, ⟨".".toList, rfl⟩⟩
  refine ⟨(@anchorSpan_exact plainPrinter (packOf reportCut) ⟨[reportCut], none⟩ rfl _
    (List.mem_singleton.2 rfl) _ 0 0).2 ⟨fun _ _ _ => ?_, fun hno => absurd hboth hno⟩, rfl⟩
  unfold Text.EndsInside
  decide

/-- The span ends with the end anchor inside the start anchor, and the rest of the start anchor is cut off. -/
theorem anchorSpan_cuts_heading :
    ¬ ∀ (R : Printer) (pack : Json) (validated : ValidatedCuts), validateCuts R pack = .ok validated →
      ∀ cut ∈ validated.cuts, ∀ (clean : Text) (searchStart idx : Nat),
        HoldsAnchors R clean cut.startAnchor cut.endAnchor searchStart idx
          (findAnchorSpan R clean cut.startAnchor cut.endAnchor searchStart idx) := by
  intro h
  have hspan := h plainPrinter (packOf headingCut) ⟨[headingCut], none⟩ rfl headingCut (List.mem_singleton.2 rfl)
    "# Closing report: done.".toList 0 0
  have hfound : findAnchorSpan plainPrinter "# Closing report: done.".toList headingCut.startAnchor headingCut.endAnchor 0 0
      = .ok (0, 9) := by rfl
  have hexact : exactSpan plainPrinter "# Closing report: done.".toList headingCut.startAnchor headingCut.endAnchor 0 0
      = .ok (some (0, 9)) := by rfl
  rw [hfound] at hspan
  have hlen := (hspan.exact hexact).1.length_le
  revert hlen
  decide

end KnowledgeBase
