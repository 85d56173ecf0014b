import KnowledgeBase.Library.JsonText

/-!
# Reading what is written

`scan` reads the text that `dumps` writes of a tree as that tree, and so two trees with one text are the same tree.
-/

namespace KnowledgeBase

/-- A property of the trees that holds of an array when it holds of its items, and of an object when it holds of its
members. -/
theorem JsonTree.induct {D : Type} {P : JsonTree D → Prop} (null : P .null) (bool : ∀ b, P (.bool b))
    (int : ∀ n, P (.int n)) (float : ∀ d, P (.float d)) (str : ∀ s, P (.str s))
    (arr : ∀ items, (∀ item ∈ items, P item) → P (.arr items))
    (obj : ∀ members, (∀ m ∈ members, P m.2) → P (.obj members)) (tree : JsonTree D) : P tree :=
  @JsonTree.rec D P (fun items => ∀ item ∈ items, P item) (fun members => ∀ m ∈ members, P m.2) (fun m => P m.2)
    null bool int float str arr obj
    (fun _ h => nomatch h)
    (fun _ _ hhead htail _ h => (List.mem_cons.1 h).elim (fun e => e ▸ hhead) (htail _))
    (fun _ h => nomatch h)
    (fun _ _ hhead htail _ h => (List.mem_cons.1 h).elim (fun e => e ▸ hhead) (htail _))
    (fun _ _ h => h) tree

namespace JsonText

/-! ### strings -/

theorem scanEscape_escapeChar {c : Nat} (h : c = 34 ∨ c = 92 ∨ c < 32) (r : CodePoints) :
    ∃ rest, escapeChar c = reverseSolidus :: rest ∧ scanEscape (rest ++ r) = some (c, r) := by
  rcases h with rfl | rfl | h
  · exact ⟨_, rfl, rfl⟩
  · exact ⟨_, rfl, rfl⟩
  · interval_cases c <;> exact ⟨_, rfl, rfl⟩

theorem escapeChar_of_not {c : Nat} (h : ¬ (c = 34 ∨ c = 92 ∨ c < 32)) : escapeChar c = [c] := by
  unfold escapeChar
  simp only [not_or] at h
  obtain ⟨h34, h92, h32⟩ := h
  simp [h34, h92, h32, show c ≠ 8 by omega, show c ≠ 12 by omega, show c ≠ 10 by omega, show c ≠ 13 by omega,
    show c ≠ 9 by omega]

theorem scanChars_stringText (s : CodePoints) :
    ∀ n r, (stringText s).length ≤ n → scanChars n (stringText s ++ r) = some (s, r) := by
  induction s with
  | nil =>
    intro n r hn
    obtain ⟨n, rfl⟩ : ∃ m, n = m + 1 := ⟨n - 1, by simp [stringText] at hn; omega⟩
    rfl
  | cons c s ih =>
    intro n r hn
    have htext : stringText (c :: s) = escapeChar c ++ stringText s := by simp [stringText]
    rw [htext] at hn ⊢
    rw [List.length_append] at hn
    by_cases hc : c = 34 ∨ c = 92 ∨ c < 32
    · obtain ⟨rest, hescape, hscan⟩ := scanEscape_escapeChar hc (stringText s ++ r)
      rw [hescape, List.length_cons] at hn
      obtain ⟨n, rfl⟩ : ∃ m, n = m + 1 := ⟨n - 1, by omega⟩
      rw [hescape, List.append_assoc, List.cons_append]
      have hne : ¬ reverseSolidus = quotationMark := by decide
      simp only [scanChars, if_neg hne, if_true, hscan, Option.bind_eq_bind, Option.bind_some, ih n r (by omega)]
    · have hchar := escapeChar_of_not hc
      rw [hchar, List.length_singleton] at hn
      obtain ⟨n, rfl⟩ : ∃ m, n = m + 1 := ⟨n - 1, by omega⟩
      simp only [not_or] at hc
      rw [hchar, List.append_assoc, List.singleton_append]
      simp only [scanChars, if_neg hc.1, if_neg hc.2.1, if_neg hc.2.2, Option.bind_eq_bind, Option.bind_some,
        ih n r (by omega)]

theorem scanString_stringText (s r : CodePoints) : scanString (stringText s ++ r) = some (s, r) :=
  scanChars_stringText s _ r (by rw [List.length_append]; omega)

section trees

variable {D : Type} {F : Doubles D}

/-! ### lists of trees -/

theorem mem_subtreesItems {items : List (JsonTree D)} {t : JsonTree D} :
    t ∈ subtreesItems items ↔ ∃ item ∈ items, t ∈ subtrees item := by
  induction items with
  | nil => simp [subtreesItems]
  | cons item items ih => simp [subtreesItems, ih]

theorem mem_subtreesMembers {members : List (CodePoints × JsonTree D)} {t : JsonTree D} :
    t ∈ subtreesMembers members ↔ ∃ m ∈ members, t ∈ subtrees m.2 := by
  induction members with
  | nil => simp [subtreesMembers]
  | cons m members ih =>
    obtain ⟨key, item⟩ := m
    simp [subtreesMembers, ih]

theorem self_mem_subtrees (tree : JsonTree D) : tree ∈ subtrees tree := by
  cases tree <;> simp [subtrees]

theorem subtrees_of_item {items : List (JsonTree D)} {item t : JsonTree D} (hitem : item ∈ items)
    (h : t ∈ subtrees item) : t ∈ subtrees (.arr items) := by
  simp only [subtrees, List.mem_cons]
  exact .inr (mem_subtreesItems.2 ⟨item, hitem, h⟩)

theorem subtrees_of_member {members : List (CodePoints × JsonTree D)} {m : CodePoints × JsonTree D} {t : JsonTree D}
    (hm : m ∈ members) (h : t ∈ subtrees m.2) : t ∈ subtrees (.obj members) := by
  simp only [subtrees, List.mem_cons]
  exact .inr (mem_subtreesMembers.2 ⟨m, hm, h⟩)

theorem valueItems_eq (items : List (JsonTree D)) : valueItems items = items.map value := by
  induction items with
  | nil => rfl
  | cons item items ih => rw [valueItems, ih, List.map_cons]

theorem valueMembers_eq (members : List (CodePoints × JsonTree D)) :
    valueMembers members = members.map fun m => (m.1, value m.2) := by
  induction members with
  | nil => rfl
  | cons m members ih => rw [valueMembers, ih, List.map_cons]

/-! ### numbers and names -/

theorem head_of_lexNumber {c : Nat} {rest : CodePoints} {x : CodePoints × CodePoints × CodePoints}
    (h : lexNumber (c :: rest) = some x) : c = 45 ∨ isDigit c = true := by
  by_cases hc : c = 45
  · exact .inl hc
  · right
    simp only [lexNumber, lexSign, if_neg hc] at h
    obtain ⟨d, hd, -⟩ := Option.map_eq_some_iff.1 h
    simp only [lexDigits] at hd
    split at hd
    next h48 => rw [h48]; rfl
    · split at hd
      · assumption
      · cases hd

/-- What a value does not start with. -/
def Starts (c : Nat) : Prop := isBlank c = false ∧ c ≠ rightBracket ∧ c ≠ rightBrace

theorem starts_of_number {c : Nat} (h : c = 45 ∨ isDigit c = true) :
    Starts c ∧ c ≠ quotationMark ∧ c ≠ leftBracket ∧ c ≠ leftBrace ∧ c ≠ 110 ∧ c ≠ 116 ∧ c ≠ 102 := by
  have hrange : c = 45 ∨ (48 ≤ c ∧ c ≤ 57) := by
    simpa [isDigit] using h
  have hblank : isBlank c = false := by
    simp only [isBlank, Bool.or_eq_false_iff, decide_eq_false_iff_not]
    omega
  have other (k : Nat) (hk : k ≠ 45 ∧ (k < 48 ∨ 57 < k)) : c ≠ k := by omega
  exact ⟨⟨hblank, other _ (by decide), other _ (by decide)⟩, other _ (by decide), other _ (by decide),
    other _ (by decide), other _ (by decide), other _ (by decide), other _ (by decide)⟩

theorem dropPrefix?_cons_of_ne {c d : Nat} (h : c ≠ d) (rest p : CodePoints) :
    (c :: rest).dropPrefix? (d :: p) = none := by
  rw [List.dropPrefix?]
  simp [h]

theorem scanValue_number {n : Nat} {text : CodePoints} {x : CodePoints × CodePoints × CodePoints}
    (h : lexNumber text = some x) : scanValue F (n + 1) text = scanNumber F text := by
  cases text with
  | nil => cases h
  | cons c rest =>
    obtain ⟨-, hquote, hbracket, hbrace, hnull, htrue, hfalse⟩ := starts_of_number (head_of_lexNumber h)
    simp only [scanValue, if_neg hquote, if_neg hbracket, if_neg hbrace, scanAtom, dropPrefix?_cons_of_ne hnull,
      dropPrefix?_cons_of_ne htrue, dropPrefix?_cons_of_ne hfalse]

theorem render_starts (hF : F.Lawful) (tree : JsonTree D) (h : ∀ t ∈ subtrees tree, writable F t = true) :
    ∃ c rest, render F tree = c :: rest ∧ Starts c := by
  have starts (c : Nat) (rest : CodePoints) (hc : Starts c) :
      ∃ c' rest', c :: rest = c' :: rest' ∧ Starts c' := ⟨c, rest, rfl, hc⟩
  have literal (c : Nat) (hc : isBlank c = false ∧ c ≠ rightBracket ∧ c ≠ rightBrace) : Starts c := hc
  cases tree with
  | null => exact starts _ _ (literal _ (by decide))
  | bool b => cases b <;> exact starts _ _ (literal _ (by decide))
  | int n =>
    have hlex := lexNumber_intText n
    cases htext : intText n with
    | nil =>
      rw [htext] at hlex
      cases hlex
    | cons c rest =>
      rw [htext] at hlex
      exact ⟨c, rest, htext, (starts_of_number (head_of_lexNumber hlex)).1⟩
  | float d =>
    obtain ⟨integer, tail, hlex, -⟩ := hF.number d (h _ (self_mem_subtrees _))
    cases htext : F.text d with
    | nil =>
      rw [htext] at hlex
      cases hlex
    | cons c rest =>
      rw [htext] at hlex
      exact ⟨c, rest, htext, (starts_of_number (head_of_lexNumber hlex)).1⟩
  | str s => exact starts _ _ (literal _ (by decide))
  | arr items => exact starts _ _ (literal _ (by decide))
  | obj members => exact starts _ _ (literal _ (by decide))

theorem skipBlanks_of_not {c : Nat} (h : isBlank c = false) (rest : CodePoints) :
    skipBlanks (c :: rest) = c :: rest := by
  simp [skipBlanks, h]

/-! ### values -/

/-- The text of the tree, and then any text after a delimiter, is read as the tree. -/
def Reads (F : Doubles D) (tree : JsonTree D) : Prop :=
  ∀ n r, Delimited r → (render F tree).length ≤ n → scanValue F n (render F tree ++ r) = some (tree, r)

theorem delimited_cons {c : Nat} (h : isDelimiter c = true) (r : CodePoints) : Delimited (c :: r) := by
  rintro d hd
  obtain rfl := Option.some.inj hd
  exact h

theorem moreItems_delimited (items : List (JsonTree D)) (r : CodePoints) :
    Delimited (renderMoreItems F items ++ r) := by
  cases items with
  | nil => exact delimited_cons (by decide) _
  | cons item items => exact delimited_cons (by decide) _

theorem moreMembers_delimited (members : List (CodePoints × JsonTree D)) (r : CodePoints) :
    Delimited (renderMoreMembers F members ++ r) := by
  cases members with
  | nil => exact delimited_cons (by decide) _
  | cons m members => exact delimited_cons (by decide) _

theorem reads_int {n : Int} (h : writable F (.int n) = true) : Reads F (.int n) := by
  intro fuel r hr hfuel
  have hlex : lexNumber (intText n ++ r) = some (intText n, [], r) := by
    rw [lexNumber_append hr, lexNumber_intText]
    rfl
  have hdigits : ¬ maxDigits < (lexSign (intText n)).2.length := by
    have hlength : (lexSign (intText n)).2 = natText n.natAbs := by
      unfold intText
      split
      · rfl
      · rw [natText_ne_minus]
    have hlimit : (natText n.natAbs).length ≤ maxDigits := by simpa [writable] using h
    rw [hlength]
    omega
  obtain ⟨fuel, rfl⟩ : ∃ m, fuel = m + 1 := by
    refine ⟨fuel - 1, ?_⟩
    have hne : (intText n).length ≠ 0 := by
      rw [Ne, List.length_eq_zero_iff]
      intro hnil
      have hwhole := lexNumber_intText n
      rw [hnil] at hwhole
      cases hwhole
    simp only [render] at hfuel
    omega
  rw [render, scanValue_number hlex, scanNumber, hlex]
  simp only [List.isEmpty_nil, if_true, if_neg hdigits, intOf_intText]

theorem reads_float (hF : F.Lawful) {d : D} (h : F.finite d = true) : Reads F (.float d) := by
  intro fuel r hr hfuel
  obtain ⟨integer, tail, hwhole, htail, htext⟩ := hF.number d h
  have hlex : lexNumber (F.text d ++ r) = some (integer, tail, r) := by
    rw [lexNumber_append hr, hwhole]
    rfl
  obtain ⟨fuel, rfl⟩ : ∃ m, fuel = m + 1 := by
    refine ⟨fuel - 1, ?_⟩
    have hne : (F.text d).length ≠ 0 := by
      rw [Ne, List.length_eq_zero_iff]
      intro hnil
      rw [hnil] at hwhole
      cases hwhole
    simp only [render] at hfuel
    omega
  rw [render, scanValue_number hlex, scanNumber, hlex]
  simp only [List.isEmpty_iff, if_neg htail, htext, hF.ofText_text d h]

theorem reads_str (s : CodePoints) : Reads F (.str s) := by
  intro fuel r _ hfuel
  obtain ⟨fuel, rfl⟩ : ∃ m, fuel = m + 1 := ⟨fuel - 1, by simp [render] at hfuel; omega⟩
  simp only [render, List.cons_append, scanValue, if_true, scanString_stringText, Option.map_some]

theorem scanItems_render (items : List (JsonTree D)) :
    ∀ item n r, Reads F item → (∀ t ∈ items, Reads F t ∧ ∃ c rest, render F t = c :: rest ∧ Starts c) →
      (render F item ++ renderMoreItems F items).length ≤ n →
      scanItems F n (render F item ++ renderMoreItems F items ++ r) = some (item :: items, r) := by
  induction items with
  | nil =>
    intro item n r hitem _ hn
    simp only [renderMoreItems, List.length_append, List.length_singleton] at hn
    obtain ⟨n, rfl⟩ : ∃ m, n = m + 1 := ⟨n - 1, by omega⟩
    have hread := hitem n (rightBracket :: r) (delimited_cons (by decide) _) (by omega)
    simp only [renderMoreItems, List.append_assoc, List.singleton_append, scanItems, hread]
    rfl
  | cons next items ih =>
    intro item n r hitem hitems hn
    obtain ⟨hnext, c, rest, hrender, hstarts⟩ := hitems next List.mem_cons_self
    simp only [renderMoreItems, List.length_append, List.length_cons] at hn
    obtain ⟨n, rfl⟩ : ∃ m, n = m + 1 := ⟨n - 1, by omega⟩
    have hread := hitem n (renderMoreItems F (next :: items) ++ r) (moreItems_delimited _ _) (by omega)
    have hrest := ih next n r hnext (fun t ht => hitems t (List.mem_cons_of_mem _ ht))
      (by rw [List.length_append]; omega)
    have hskip : skipBlanks (render F next ++ renderMoreItems F items ++ r) =
        render F next ++ renderMoreItems F items ++ r := by
      rw [hrender]
      exact skipBlanks_of_not hstarts.1 _
    rw [List.append_assoc]
    simp only [scanItems, hread]
    change (if comma = comma then (scanItems F n (skipBlanks _)).map _ else _) = _
    rw [if_pos rfl]
    change (scanItems F n (skipBlanks (render F next ++ renderMoreItems F items ++ r))).map _ = _
    rw [hskip, hrest]
    rfl

theorem scanMembers_cons {key text rest : CodePoints} {n c : Nat} {item : JsonTree D}
    (hread : scanValue F n (skipBlanks text) = some (item, c :: rest)) (hc : isBlank c = false) :
    scanMembers F (n + 1) (quotationMark :: (stringText key ++ colon :: text)) =
      if c = comma then (scanMembers F n (skipBlanks rest)).map fun x => ((key, item) :: x.1, x.2)
      else if c = rightBrace then some ([(key, item)], rest)
      else none := by
  have hcolon : skipBlanks (colon :: text) = colon :: text := skipBlanks_of_not (by decide) _
  simp only [scanMembers, scanString_stringText, hcolon, hread, skipBlanks_of_not hc, ne_eq, not_true_eq_false, if_false]

theorem scanMembers_render (members : List (CodePoints × JsonTree D)) :
    ∀ key item n r, (Reads F item ∧ ∃ c rest, render F item = c :: rest ∧ Starts c) →
      (∀ m ∈ members, Reads F m.2 ∧ ∃ c rest, render F m.2 = c :: rest ∧ Starts c) →
      (renderMembers F ((key, item) :: members)).length ≤ n →
      scanMembers F n (renderMembers F ((key, item) :: members) ++ r) = some ((key, item) :: members, r) := by
  induction members with
  | nil =>
    rintro key item n r ⟨hitem, c, rest, hrender, hstarts⟩ _ hn
    simp only [renderMembers, renderMoreMembers, List.length_append, List.length_cons] at hn
    obtain ⟨n, rfl⟩ : ∃ m, n = m + 1 := ⟨n - 1, by omega⟩
    have hread := hitem n (rightBrace :: r) (delimited_cons (by decide) _) (by omega)
    have hskip : skipBlanks (render F item ++ rightBrace :: r) = render F item ++ rightBrace :: r := by
      rw [hrender]
      exact skipBlanks_of_not hstarts.1 _
    have htext : renderMembers F [(key, item)] ++ r =
        quotationMark :: (stringText key ++ colon :: (render F item ++ rightBrace :: r)) := by
      simp [renderMembers, renderMoreMembers]
    rw [htext, scanMembers_cons (hskip ▸ hread) (by decide)]
    rfl
  | cons next members ih =>
    obtain ⟨nextKey, next⟩ := next
    rintro key item n r ⟨hitem, c, rest, hrender, hstarts⟩ hmembers hn
    simp only [renderMembers, renderMoreMembers, List.length_append, List.length_cons] at hn
    obtain ⟨n, rfl⟩ : ∃ m, n = m + 1 := ⟨n - 1, by omega⟩
    have hread := hitem n (renderMoreMembers F ((nextKey, next) :: members) ++ r) (moreMembers_delimited _ _)
      (by omega)
    have hskip : skipBlanks (render F item ++ (renderMoreMembers F ((nextKey, next) :: members) ++ r)) =
        render F item ++ (renderMoreMembers F ((nextKey, next) :: members) ++ r) := by
      rw [hrender]
      exact skipBlanks_of_not hstarts.1 _
    have hrest := ih nextKey next n r (hmembers _ List.mem_cons_self)
      (fun m hm => hmembers m (List.mem_cons_of_mem _ hm))
      (by simp only [renderMembers, List.length_append, List.length_cons]; omega)
    have htext : renderMembers F ((key, item) :: (nextKey, next) :: members) ++ r = quotationMark :: (stringText key ++
        colon :: (render F item ++ (renderMoreMembers F ((nextKey, next) :: members) ++ r))) := by
      simp [renderMembers]
    have hcomma : scanValue F n (skipBlanks (render F item ++ (renderMoreMembers F ((nextKey, next) :: members) ++ r))) =
        some (item, comma :: (renderMembers F ((nextKey, next) :: members) ++ r)) := by
      rw [hskip, hread]
      rfl
    rw [htext, scanMembers_cons hcomma (by decide), if_pos rfl]
    have hquote : skipBlanks (renderMembers F ((nextKey, next) :: members) ++ r) =
        renderMembers F ((nextKey, next) :: members) ++ r := rfl
    rw [hquote, hrest]
    rfl

theorem reads_of_writable (hF : F.Lawful) (tree : JsonTree D) :
    (∀ t ∈ subtrees tree, writable F t = true) → Reads F tree := by
  induction tree using JsonTree.induct with
  | null =>
    intro _ n r _ hn
    obtain ⟨n, rfl⟩ : ∃ m, n = m + 1 := ⟨n - 1, by simp [render] at hn; omega⟩
    simp [render, scanValue, scanAtom, List.dropPrefix?]
  | bool b =>
    intro _ n r _ hn
    obtain ⟨n, rfl⟩ : ∃ m, n = m + 1 := ⟨n - 1, by cases b <;> simp [render] at hn <;> omega⟩
    cases b <;> simp [render, scanValue, scanAtom, List.dropPrefix?]
  | int n => exact fun h => reads_int (h _ (self_mem_subtrees _))
  | float d => exact fun h => reads_float hF (h _ (self_mem_subtrees _))
  | str s => exact fun _ => reads_str s
  | arr items ih =>
    intro h n r _ hn
    have hitems : ∀ t ∈ items, Reads F t ∧ ∃ c rest, render F t = c :: rest ∧ Starts c := fun t ht =>
      ⟨ih t ht fun u hu => h u (subtrees_of_item ht hu), render_starts hF t fun u hu => h u (subtrees_of_item ht hu)⟩
    simp only [render, List.length_cons] at hn
    obtain ⟨n, rfl⟩ : ∃ m, n = m + 1 := ⟨n - 1, by omega⟩
    cases items with
    | nil => rfl
    | cons item items =>
      obtain ⟨hitem, c, rest, hrender, hstarts⟩ := hitems item List.mem_cons_self
      have hscan := scanItems_render items item n r hitem (fun t ht => hitems t (List.mem_cons_of_mem _ ht))
        (by simpa [renderItems] using hn)
      simp only [render, renderItems, List.cons_append, scanValue]
      rw [hrender] at hscan ⊢
      simp only [List.cons_append, List.append_assoc] at hscan ⊢
      rw [if_neg (by decide), if_pos trivial, skipBlanks_of_not hstarts.1]
      dsimp only
      rw [if_neg hstarts.2.1, hscan]
      rfl
  | obj members ih =>
    intro h n r _ hn
    have hmembers : ∀ m ∈ members, Reads F m.2 ∧ ∃ c rest, render F m.2 = c :: rest ∧ Starts c := fun m hm =>
      ⟨ih m hm fun u hu => h u (subtrees_of_member hm hu),
        render_starts hF m.2 fun u hu => h u (subtrees_of_member hm hu)⟩
    simp only [render, List.length_cons] at hn
    obtain ⟨n, rfl⟩ : ∃ m, n = m + 1 := ⟨n - 1, by omega⟩
    cases members with
    | nil => rfl
    | cons m members =>
      obtain ⟨key, item⟩ := m
      have hscan := scanMembers_render members key item n r (hmembers _ List.mem_cons_self)
        (fun m hm => hmembers m (List.mem_cons_of_mem _ hm)) (by omega)
      have hquote : skipBlanks (renderMembers F ((key, item) :: members) ++ r) =
          renderMembers F ((key, item) :: members) ++ r := rfl
      simp only [render, List.cons_append, scanValue]
      rw [if_neg (by decide), if_neg (by decide), if_pos trivial, hquote]
      change Option.map _ (scanMembers F n (renderMembers F ((key, item) :: members) ++ r)) = _
      rw [hscan]
      rfl

theorem scan_dumps (hF : F.Lawful) {tree : JsonTree D} {text : CodePoints} (h : dumps F tree = some text) :
    scan F text = some tree := by
  unfold dumps at h
  split at h
  next hwritable =>
    obtain rfl := Option.some.inj h
    have hall : ∀ t ∈ subtrees tree, writable F t = true := List.all_eq_true.1 hwritable
    obtain ⟨c, rest, hrender, hstarts⟩ := render_starts hF tree hall
    have hread := reads_of_writable hF tree hall ((render F tree).length + 1) [] (fun _ hc => nomatch hc) (by omega)
    rw [List.append_nil] at hread
    have hskip : skipBlanks (render F tree) = render F tree := by
      rw [hrender]
      exact skipBlanks_of_not hstarts.1 _
    unfold scan
    rw [hskip, hread]
    rfl
  · cases h

theorem dumps_inj (hF : F.Lawful) {tree tree' : JsonTree D} {text : CodePoints} (h : dumps F tree = some text)
    (h' : dumps F tree' = some text) : tree = tree' :=
  Option.some.inj ((scan_dumps hF h).symm.trans (scan_dumps hF h'))

end trees

end JsonText

end KnowledgeBase
