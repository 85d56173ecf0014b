import KnowledgeBase.Library.Slices

/-!
# Occurrences in a text and in what is kept of it

An occurrence of a text brings the occurrences of its pieces, so the first piece found from the start of a whole ends
before the whole does exactly if the piece lies in the whole short of its last character. A text is compacted by
keeping the characters that meet a condition, and the kept characters know their positions: the slice between two of
them compacts to the stretch between them.
-/

namespace KnowledgeBase

namespace Text

/-! ### slices -/

/-- `t[i:j]`. -/
def slice (t : Text) (i j : Nat) : Text := (t.drop i).take (j - i)

theorem slice_append {t : Text} {i j k : Nat} (hij : i ≤ j) (hjk : j ≤ k) : slice t i j ++ slice t j k = slice t i k := by
  unfold slice
  have hk : k - i = (j - i) + (k - j) := by omega
  have hj : t.drop j = (t.drop i).drop (j - i) := by
    rw [List.drop_drop, Nat.add_sub_cancel' hij]
  rw [hk, List.take_add, hj]

theorem slice_prefix (t : Text) (i j : Nat) : slice t i j <+: t.drop i := List.take_prefix _ _

theorem slice_append_drop {t : Text} {i j : Nat} (h : i ≤ j) : slice t i j ++ t.drop j = t.drop i := by
  unfold slice
  have hj : t.drop j = (t.drop i).drop (j - i) := by
    rw [List.drop_drop, Nat.add_sub_cancel' h]
  rw [hj, List.take_append_drop]

theorem length_slice {t : Text} {i j : Nat} (h : j ≤ t.length) : (slice t i j).length = j - i := by
  unfold slice
  rw [List.length_take, List.length_drop]
  omega

theorem slice_of_prefix {t u : Text} {i : Nat} (h : u <+: t.drop i) : slice t i (i + u.length) = u := by
  unfold slice
  rw [Nat.add_sub_cancel_left]
  exact (List.prefix_iff_eq_take.1 h).symm

/-- A piece at the start of the rest of the text is at the start of a slice of it if the slice is long enough. -/
theorem prefix_slice_iff {t sub : Text} {i j : Nat} (h : OccursAt t sub i) :
    sub <+: slice t i j ↔ sub.length ≤ j - i := by
  unfold slice
  rw [List.prefix_take_iff]
  exact ⟨fun hp => hp.2, fun hlen => ⟨h, hlen⟩⟩

theorem suffix_slice {t sub : Text} {i j : Nat} (hij : i ≤ j) (h : OccursAt t sub j) :
    sub <:+ slice t i (j + sub.length) := by
  have htail : slice t j (j + sub.length) = sub := by
    unfold slice
    rw [Nat.add_sub_cancel_left]
    exact h.take
  rw [← slice_append hij (Nat.le_add_right j sub.length), htail]
  exact List.suffix_append _ _

/-! ### occurrences inside occurrences -/

/-- The text lies in the whole and ends before it. -/
def EndsInside (whole piece : Text) : Prop := piece <:+: whole.dropLast

theorem OccursAt.inside {t whole piece : Text} {i d : Nat} (h : OccursAt t whole i)
    (hd : d + piece.length ≤ whole.length) : OccursAt t piece (i + d) ↔ OccursAt whole piece d := by
  obtain ⟨rest, hrest⟩ := h
  unfold OccursAt
  rw [← List.drop_drop, ← hrest, List.drop_append_of_le_length (by omega)]
  constructor
  · intro hp
    exact List.prefix_of_prefix_length_le hp (List.prefix_append _ _) (by rw [List.length_drop]; omega)
  · exact fun hp => hp.trans (List.prefix_append _ _)

/-- A piece that is not empty ends inside the whole if it occurs in it short of its last character. -/
theorem endsInside_iff {whole piece : Text} (hne : piece ≠ []) :
    EndsInside whole piece ↔ ∃ d, d + piece.length < whole.length ∧ OccursAt whole piece d := by
  have hpos := List.length_pos_iff.2 hne
  unfold EndsInside
  constructor
  · rintro ⟨u, v, huv⟩
    have hlen := congrArg List.length huv
    simp only [List.length_append, List.length_dropLast] at hlen
    refine ⟨u.length, by omega, ?_⟩
    have hprefix : whole.dropLast.drop u.length <+: whole.drop u.length := (List.dropLast_prefix whole).drop _
    rw [← huv, List.append_assoc, List.drop_left] at hprefix
    exact (List.prefix_append piece v).trans hprefix
  · rintro ⟨d, hd, hocc⟩
    have hdrop : whole.dropLast.drop d = (whole.drop d).take (whole.length - 1 - d) := by
      rw [List.dropLast_eq_take, List.drop_take]
    have hprefix : piece <+: whole.dropLast.drop d := by
      rw [hdrop, List.prefix_take_iff]
      exact ⟨hocc, by omega⟩
    exact hprefix.isInfix.trans (List.drop_suffix d _).isInfix

/-- The first piece found from the start of the whole ends before the whole does exactly if it ends inside it. -/
theorem findFrom_ends_iff {t whole piece : Text} {i j : Nat} (hne : piece ≠ []) (hi : OccursAt t whole i)
    (hj : findFrom t piece i = some j) : j + piece.length < i + whole.length ↔ EndsInside whole piece := by
  obtain ⟨⟨hle, -, hocc⟩, hfirst⟩ := findFrom_eq_some_iff.1 hj
  rw [endsInside_iff hne]
  constructor
  · intro hlt
    refine ⟨j - i, by omega, ?_⟩
    rw [← hi.inside (by omega), Nat.add_sub_cancel' hle]
    exact hocc
  · rintro ⟨d, hd, hoccd⟩
    have hat := hfirst (i + d) (Nat.le_add_right i d) ((hi.inside (by omega)).2 hoccd)
    omega

theorem findFrom_of_endsInside {t whole piece : Text} {i : Nat} (hne : piece ≠ []) (hi : OccursAt t whole i)
    (hend : EndsInside whole piece) : ∃ j, findFrom t piece i = some j := by
  obtain ⟨d, hd, hocc⟩ := (endsInside_iff hne).1 hend
  have hlen := hi.length_le
  rw [List.length_drop] at hlen
  exact findFrom_isSome (Nat.le_add_right i d) (by omega) ((hi.inside (by omega)).2 hocc)

/-- Where the first piece ends inside the whole, the whole does not occur again before that piece. -/
theorem not_again_of_endsInside {t whole piece : Text} {i i' j : Nat} (hi : OccursAt t whole i)
    (hj : findFrom t piece i = some j) (hlt : j + piece.length < i + whole.length) (hagain : OccursAt t whole i')
    (hii' : i < i') : j ≤ i' := by
  by_contra hbefore
  obtain ⟨⟨hle, -, hocc⟩, hfirst⟩ := findFrom_eq_some_iff.1 hj
  -- the piece lies in the second occurrence too, so it lies in the first one earlier than it is found
  have hsecond : OccursAt t piece (i' + (j - i')) := by
    rw [Nat.add_sub_cancel' (by omega)]
    exact hocc
  have hwhole := (hagain.inside (by omega)).1 hsecond
  have hearlier := hfirst _ (Nat.le_add_right _ _) ((hi.inside (by omega)).2 hwhole)
  omega

end Text

/-! ### kept characters -/

section Kept

variable {α : Type} (p : α → Bool)

/-- The elements that meet the condition, with their positions counted from the base. -/
def keptFrom (base : Nat) (l : List α) : List (α × Nat) := (l.zipIdx base).filter fun q => p q.1

theorem keptFrom_cons (base : Nat) (a : α) (l : List α) :
    keptFrom p base (a :: l) = if p a then (a, base) :: keptFrom p (base + 1) l else keptFrom p (base + 1) l := by
  unfold keptFrom
  rw [List.zipIdx_cons, List.filter_cons]

theorem map_fst_keptFrom (base : Nat) (l : List α) : (keptFrom p base l).map Prod.fst = l.filter p := by
  induction l generalizing base with
  | nil => rfl
  | cons a l ih =>
    rw [keptFrom_cons, List.filter_cons]
    split
    · rw [List.map_cons, ih]
    · exact ih (base + 1)

theorem length_keptFrom (base : Nat) (l : List α) : (keptFrom p base l).length = (l.filter p).length := by
  rw [← map_fst_keptFrom p base, List.length_map]

theorem keptFrom_append (base : Nat) (l l' : List α) :
    keptFrom p base (l ++ l') = keptFrom p base l ++ keptFrom p (base + l.length) l' := by
  unfold keptFrom
  rw [List.zipIdx_append, List.filter_append]

theorem getElem?_keptFrom (base : Nat) (l l' : List α) {a : α} (ha : p a = true) :
    (keptFrom p base (l ++ a :: l'))[(l.filter p).length]? = some (a, base + l.length) := by
  rw [keptFrom_append, keptFrom_cons, if_pos ha, ← length_keptFrom p base l, List.getElem?_append_right le_rfl,
    Nat.sub_self, List.getElem?_cons_zero]

/-- As many elements are kept before a kept element as it has before it in the list of the kept ones. -/
theorem keptFrom_spec {base k i : Nat} {l : List α} {a : α} (h : (keptFrom p base l)[k]? = some (a, i)) :
    base ≤ i ∧ l[i - base]? = some a ∧ p a = true ∧ (l.take (i - base)).filter p = (l.filter p).take k := by
  induction l generalizing base k with
  | nil => simp [keptFrom] at h
  | cons b l ih =>
    rw [keptFrom_cons] at h
    by_cases hb : p b = true
    · rw [if_pos hb] at h
      cases k with
      | zero =>
        obtain ⟨rfl, rfl⟩ := Prod.mk.inj (Option.some.inj h)
        rw [Nat.sub_self]
        exact ⟨le_rfl, rfl, hb, rfl⟩
      | succ k =>
        rw [List.getElem?_cons_succ] at h
        obtain ⟨hle, hget, ha, htake⟩ := ih h
        have hi : i - base = (i - (base + 1)) + 1 := by omega
        rw [hi, List.getElem?_cons_succ, List.take_succ_cons, List.filter_cons_of_pos hb, List.filter_cons_of_pos hb,
          List.take_succ_cons, htake]
        exact ⟨by omega, hget, ha, rfl⟩
    · rw [if_neg hb] at h
      obtain ⟨hle, hget, ha, htake⟩ := ih h
      have hi : i - base = (i - (base + 1)) + 1 := by omega
      rw [hi, List.getElem?_cons_succ, List.take_succ_cons, List.filter_cons_of_neg hb, List.filter_cons_of_neg hb, htake]
      exact ⟨by omega, hget, ha, rfl⟩

theorem filter_take_succ {base k i : Nat} {l : List α} {a : α} (h : (keptFrom p base l)[k]? = some (a, i)) :
    (l.take (i - base + 1)).filter p = (l.filter p).take (k + 1) := by
  obtain ⟨-, hget, ha, htake⟩ := keptFrom_spec p h
  have hkept : (l.filter p)[k]? = some a := by
    rw [← map_fst_keptFrom p base, List.getElem?_map, h]
    rfl
  rw [List.take_add_one, List.take_add_one, hget, hkept, List.filter_append, htake, Option.toList_some,
    List.filter_cons_of_pos ha, List.filter_nil]

/-- What is kept after a stretch of the list is what is left of the kept elements after those of the stretch. -/
theorem filter_drop {l : List α} {i k : Nat} (h : (l.take i).filter p = (l.filter p).take k) (hk : k ≤ (l.filter p).length) :
    (l.drop i).filter p = (l.filter p).drop k := by
  have hsplit : (l.take i).filter p ++ (l.drop i).filter p = l.filter p := by
    rw [← List.filter_append, List.take_append_drop]
  have hlen : ((l.take i).filter p).length = k := by
    rw [h, List.length_take]
    omega
  rw [← hsplit, ← hlen, List.drop_left]

end Kept

end KnowledgeBase
