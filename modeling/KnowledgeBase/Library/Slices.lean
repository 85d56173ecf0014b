import KnowledgeBase.Library.Text

/-!
# Slices of encoded text

Byte offsets of the UTF-8 encoding against positions in the text: an offset is aligned if it is the offset of a
position, positions in order have offsets in order, and `charIndex?` inverts `byteOffset`. The search finds the first
occurrence from where it starts, and searching for each text where the last one found ends finds a place for all of
them if there is one: `Placed.exchange`.
-/

namespace KnowledgeBase

namespace Text

/-! ### the length of the encoding -/

@[simp] theorem utf8Length_nil : utf8Length [] = 0 := rfl

@[simp] theorem utf8Length_cons (c : Char) (t : Text) : utf8Length (c :: t) = c.utf8Size + utf8Length t := rfl

@[simp] theorem utf8Length_append (t u : Text) : utf8Length (t ++ u) = utf8Length t + utf8Length u := by
  induction t with
  | nil => simp
  | cons c t ih =>
    rw [List.cons_append, utf8Length_cons, utf8Length_cons, ih]
    omega

theorem length_le_utf8Length (t : Text) : t.length ≤ utf8Length t := by
  induction t with
  | nil => rfl
  | cons c t ih =>
    have hc := c.utf8Size_pos
    rw [List.length_cons, utf8Length_cons]
    omega

theorem utf8Length_pos {t : Text} (h : t ≠ []) : 0 < utf8Length t := by
  have hlen := List.length_pos_iff.2 h
  have hle := length_le_utf8Length t
  omega

/-! ### byte offsets -/

@[simp] theorem byteOffset_zero (t : Text) : byteOffset t 0 = 0 := rfl

theorem byteOffset_length (t : Text) : byteOffset t t.length = utf8Length t := by
  unfold byteOffset
  rw [List.take_length]

@[simp] theorem byteOffset_cons_succ (c : Char) (t : Text) (i : Nat) :
    byteOffset (c :: t) (i + 1) = c.utf8Size + byteOffset t i := rfl

theorem byteOffset_add (t : Text) (i n : Nat) : byteOffset t (i + n) = byteOffset t i + utf8Length ((t.drop i).take n) := by
  unfold byteOffset
  rw [List.take_add, utf8Length_append]

theorem byteOffset_mono (t : Text) {i j : Nat} (h : i ≤ j) : byteOffset t i ≤ byteOffset t j := by
  obtain ⟨n, rfl⟩ := Nat.exists_eq_add_of_le h
  rw [byteOffset_add]
  omega

theorem byteOffset_strictMono {t : Text} {i j : Nat} (h : i < j) (hj : j ≤ t.length) : byteOffset t i < byteOffset t j := by
  obtain ⟨n, rfl⟩ := Nat.exists_eq_add_of_le h.le
  rw [byteOffset_add]
  have hne : (t.drop i).take n ≠ [] := by
    intro heq
    have hlen := congrArg List.length heq
    rw [List.length_take, List.length_drop, List.length_nil] at hlen
    omega
  have hpos := utf8Length_pos hne
  omega

theorem byteOffset_le_iff {t : Text} {i j : Nat} (hi : i ≤ t.length) : byteOffset t i ≤ byteOffset t j ↔ i ≤ j := by
  constructor
  · intro h
    by_contra hlt
    have hstrict := byteOffset_strictMono (Nat.lt_of_not_le hlt) hi
    omega
  · exact byteOffset_mono t

theorem byteOffset_injOn {t : Text} {i j : Nat} (hi : i ≤ t.length) (hj : j ≤ t.length)
    (h : byteOffset t i = byteOffset t j) : i = j := by
  have hij := (byteOffset_le_iff hi).1 h.le
  have hji := (byteOffset_le_iff hj).1 h.ge
  omega

theorem charIndex?_eq_some_iff {t : Text} {n i : Nat} : charIndex? t n = some i ↔ i ≤ t.length ∧ byteOffset t i = n := by
  induction t generalizing n i with
  | nil =>
    cases n with
    | zero =>
      cases i with
      | zero => simp [charIndex?]
      | succ i => simp [charIndex?]
    | succ n => simp [charIndex?, byteOffset]
  | cons c t ih =>
    have hc := c.utf8Size_pos
    cases n with
    | zero =>
      cases i with
      | zero => simp [charIndex?]
      | succ i =>
        rw [byteOffset_cons_succ]
        simp only [charIndex?, Option.some.injEq]
        omega
    | succ n =>
      cases i with
      | zero =>
        simp only [charIndex?, byteOffset_zero]
        split
        · simp
        · simp
      | succ i =>
        rw [byteOffset_cons_succ, List.length_cons]
        simp only [charIndex?]
        split
        · rename_i hle
          rw [Option.map_eq_some_iff]
          simp only [ih]
          constructor
          · rintro ⟨j, ⟨hj, hoff⟩, heq⟩
            obtain rfl : j = i := by omega
            omega
          · rintro ⟨hi, hoff⟩
            exact ⟨i, ⟨by omega, by omega⟩, rfl⟩
        · rename_i hle
          simp only [reduceCtorEq, false_iff]
          omega

/-! ### search -/

/-- The text has an occurrence at the position. -/
def OccursAt (t sub : Text) (i : Nat) : Prop := sub <+: t.drop i

theorem OccursAt.le {t sub : Text} {i : Nat} (h : OccursAt t sub i) (hi : i ≤ t.length) : i + sub.length ≤ t.length := by
  have hlen := h.length_le
  rw [List.length_drop] at hlen
  omega

theorem OccursAt.take {t sub : Text} {i : Nat} (h : OccursAt t sub i) : (t.drop i).take sub.length = sub :=
  (List.prefix_iff_eq_take.1 h).symm

theorem OccursAt.byteOffset_add {t sub : Text} {i : Nat} (h : OccursAt t sub i) :
    byteOffset t (i + sub.length) = byteOffset t i + utf8Length sub := by
  rw [Text.byteOffset_add, h.take]

theorem findFrom_eq_some_iff {t sub : Text} {start i : Nat} :
    findFrom t sub start = some i ↔
      (start ≤ i ∧ i ≤ t.length ∧ OccursAt t sub i) ∧ ∀ j, start ≤ j → OccursAt t sub j → i ≤ j := by
  unfold findFrom
  rw [List.find?_range_eq_some]
  simp only [Bool.and_eq_true, decide_eq_true_eq, List.isPrefixOf_iff_prefix, List.mem_range, Bool.not_eq_true',
    Bool.and_eq_false_iff, decide_eq_false_iff_not]
  constructor
  · rintro ⟨⟨hstart, hocc⟩, hi, hfirst⟩
    refine ⟨⟨hstart, by omega, hocc⟩, fun j hj hoccj => ?_⟩
    by_contra hlt
    rcases hfirst j (by omega) with h | h
    · exact h hj
    · exact absurd (List.isPrefixOf_iff_prefix.2 hoccj) (by rw [h]; decide)
  · rintro ⟨⟨hstart, hi, hocc⟩, hfirst⟩
    refine ⟨⟨hstart, hocc⟩, by omega, fun j hj => ?_⟩
    by_cases hle : start ≤ j
    · right
      rw [Bool.eq_false_iff]
      intro hoccj
      have := hfirst j hle (List.isPrefixOf_iff_prefix.1 hoccj)
      omega
    · exact .inl hle

theorem findFrom_isSome {t sub : Text} {start i : Nat} (hstart : start ≤ i) (hi : i ≤ t.length) (h : OccursAt t sub i) :
    ∃ j, findFrom t sub start = some j := by
  unfold findFrom
  rw [← Option.isSome_iff_exists, List.find?_isSome]
  refine ⟨i, List.mem_range.2 (by omega), ?_⟩
  rw [Bool.and_eq_true, decide_eq_true_eq, List.isPrefixOf_iff_prefix]
  exact ⟨hstart, h⟩

/-! ### placements -/

/-- Occurrences from a position on, each after the end of the one before. -/
def Placed (t : Text) : Nat → List (Text × Nat) → Prop
  | _, [] => True
  | start, p :: l => start ≤ p.2 ∧ OccursAt t p.1 p.2 ∧ Placed t (p.2 + p.1.length) l

theorem Placed.mono {t : Text} {start start' : Nat} {l : List (Text × Nat)} (h : Placed t start l) (hle : start' ≤ start) :
    Placed t start' l := by
  cases l with
  | nil => trivial
  | cons p l => exact ⟨hle.trans h.1, h.2⟩

theorem Placed.le_of_mem {t : Text} {start : Nat} {l : List (Text × Nat)} (h : Placed t start l) :
    ∀ p ∈ l, start ≤ p.2 ∧ OccursAt t p.1 p.2 := by
  induction l generalizing start with
  | nil => exact fun p hp => absurd hp List.not_mem_nil
  | cons q l ih =>
    intro p hp
    rcases List.mem_cons.1 hp with rfl | hp
    · exact ⟨h.1, h.2.1⟩
    · obtain ⟨hle, hocc⟩ := ih h.2.2 p hp
      have := h.1
      exact ⟨by omega, hocc⟩

theorem Placed.pairwise {t : Text} {start : Nat} {l : List (Text × Nat)} (h : Placed t start l) :
    l.Pairwise fun p q => p.2 + p.1.length ≤ q.2 := by
  induction l generalizing start with
  | nil => exact .nil
  | cons p l ih =>
    rw [List.pairwise_cons]
    exact ⟨fun q hq => (h.2.2.le_of_mem q hq).1, ih h.2.2⟩

theorem placed_of_pairwise {t : Text} {start : Nat} {l : List (Text × Nat)} (hstart : ∀ p ∈ l, start ≤ p.2)
    (hocc : ∀ p ∈ l, OccursAt t p.1 p.2) (hpair : l.Pairwise fun p q => p.2 + p.1.length ≤ q.2) : Placed t start l := by
  induction l generalizing start with
  | nil => trivial
  | cons p l ih =>
    rw [List.pairwise_cons] at hpair
    exact ⟨hstart p List.mem_cons_self, hocc p List.mem_cons_self,
      ih hpair.1 (fun q hq => hocc q (List.mem_cons_of_mem p hq)) hpair.2⟩

/-- The first occurrence leaves at least as much room as any other, so the rest still has its places. -/
theorem Placed.exchange {t sub : Text} {start i : Nat} {l : List (Text × Nat)} (hne : sub ≠ [])
    (h : Placed t start ((sub, i) :: l)) : ∃ j, findFrom t sub start = some j ∧ Placed t (j + sub.length) l := by
  obtain ⟨hstart, hocc, hrest⟩ := h
  have hi : i ≤ t.length := by
    by_contra hlt
    have hnil : t.drop i = [] := List.drop_eq_nil_of_le (by omega)
    unfold OccursAt at hocc
    rw [hnil, List.prefix_nil] at hocc
    exact hne hocc
  obtain ⟨j, hj⟩ := findFrom_isSome hstart hi hocc
  obtain ⟨-, hfirst⟩ := findFrom_eq_some_iff.1 hj
  have hle : j ≤ i := hfirst i hstart hocc
  exact ⟨j, hj, hrest.mono (Nat.add_le_add_right hle _)⟩

end Text

end KnowledgeBase
