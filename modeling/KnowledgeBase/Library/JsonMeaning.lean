import KnowledgeBase.Library.JsonReading

/-!
# What a JSON text means

A tree is the function that takes a path to the node there, so that the order of the members of an object has no meaning.
The trees of I-JSON have every name of an object once, no surrogate and no noncharacter in a string or a name, and finite
numbers: they mean the same as their value, and the text of the value can be encoded.
-/

namespace KnowledgeBase

/-- A step into an array or an object. -/
inductive JsonStep
  | item (i : Nat)
  | member (name : CodePoints)

/-- What a tree is, without what is in it. -/
inductive JsonNode (D : Type)
  | null
  | bool (b : Bool)
  | int (n : Int)
  | float (d : D)
  | str (s : CodePoints)
  | arr (length : Nat)
  | obj
  deriving DecidableEq

namespace JsonText

/-- A Unicode scalar value: no surrogate. -/
def isScalar (c : Nat) : Bool := c < 0x110000 && !(0xD800 ≤ c && c ≤ 0xDFFF)

/-- A scalar value that is no noncharacter. -/
def isIJsonChar (c : Nat) : Bool := isScalar c && !(0xFDD0 ≤ c && c ≤ 0xFDEF) && c % 0x10000 < 0xFFFE

/-- The UTF-8 of a text that has no surrogates. -/
def encodeUtf8 (text : CodePoints) : Option ByteArray :=
  if text.all isScalar then some (String.ofList (text.map Char.ofNat)).toByteArray else none

section trees

variable {D : Type}

/-! ### meaning -/

def child? : JsonTree D → JsonStep → Option (JsonTree D)
  | .arr items, .item i => items[i]?
  | .obj members, .member name => members.lookup name
  | _, _ => none

def at? : JsonTree D → List JsonStep → Option (JsonTree D)
  | tree, [] => some tree
  | tree, step :: path => (child? tree step).bind fun tree => at? tree path

def node : JsonTree D → JsonNode D
  | .null => .null
  | .bool b => .bool b
  | .int n => .int n
  | .float d => .float d
  | .str s => .str s
  | .arr items => .arr items.length
  | .obj _ => .obj

/-- The node at every path. -/
def meaning (tree : JsonTree D) (path : List JsonStep) : Option (JsonNode D) := (at? tree path).map node

variable (F : Doubles D)

def isIJsonNode : JsonTree D → Bool
  | .str s => s.all isIJsonChar
  | .float d => F.finite d
  | .obj members => decide (members.map Prod.fst).Nodup && members.all fun m => m.1.all isIJsonChar
  | _ => true

/-- The tree is one of I-JSON. -/
def IJson (tree : JsonTree D) : Prop := ∀ t ∈ subtrees tree, isIJsonNode F t = true

instance (tree : JsonTree D) : Decidable (IJson F tree) :=
  inferInstanceAs (Decidable (∀ t ∈ subtrees tree, isIJsonNode F t = true))

end trees

/-! ### dictionaries -/

section dictionaries

variable {α : Type}

theorem lookup_putMember (d : List (CodePoints × α)) (k : CodePoints) (v : α) (q : CodePoints) :
    (putMember d k v).lookup q = if q = k then some v else d.lookup q := by
  induction d with
  | nil =>
    by_cases hq : q = k
    · simp [putMember, hq]
    · simp [putMember, hq, List.lookup_cons, beq_false_of_ne hq]
  | cons m d ih =>
    obtain ⟨k', v'⟩ := m
    unfold putMember
    split
    · by_cases hq : q = k
      · simp [hq]
      · simp [List.lookup_cons, hq, beq_false_of_ne hq]
    · split
      next hk =>
        subst hk
        by_cases hq : q = k
        · simp [hq]
        · simp [List.lookup_cons, hq, beq_false_of_ne hq]
      next hne =>
        rw [List.lookup_cons, List.lookup_cons, ih]
        by_cases hqk : q = k
        · have hq : q ≠ k' := fun h => hne (hqk.symm.trans h)
          simp [hqk, beq_false_of_ne (hqk ▸ hq)]
        · simp only [if_neg hqk]

theorem mem_putMember {d : List (CodePoints × α)} {k : CodePoints} {v : α} {m : CodePoints × α}
    (h : m ∈ putMember d k v) : m = (k, v) ∨ m ∈ d := by
  induction d with
  | nil => exact .inl (List.mem_singleton.1 h)
  | cons m' d ih =>
    obtain ⟨k', v'⟩ := m'
    unfold putMember at h
    split at h
    · exact List.mem_cons.1 h
    · split at h
      · exact (List.mem_cons.1 h).imp_right (List.mem_cons_of_mem _)
      · rcases List.mem_cons.1 h with h | h
        · exact .inr (h ▸ List.mem_cons_self)
        · exact (ih h).imp_right (List.mem_cons_of_mem _)

theorem putMember_sorted {d : List (CodePoints × α)} (hd : (d.map Prod.fst).Pairwise (· < ·)) (k : CodePoints) (v : α) :
    ((putMember d k v).map Prod.fst).Pairwise (· < ·) := by
  induction d with
  | nil => exact List.pairwise_singleton _ _
  | cons m d ih =>
    obtain ⟨k', v'⟩ := m
    rw [List.map_cons, List.pairwise_cons] at hd
    obtain ⟨hhead, htail⟩ := hd
    unfold putMember
    split
    next hlt =>
      rw [List.map_cons, List.pairwise_cons]
      refine ⟨fun q hq => ?_, List.pairwise_cons.2 ⟨hhead, htail⟩⟩
      rcases List.mem_cons.1 hq with rfl | hq
      · exact hlt
      · exact lt_trans hlt (hhead q hq)
    next hnlt =>
      split
      next heq =>
        rw [List.map_cons, List.pairwise_cons]
        exact ⟨fun q hq => heq ▸ hhead q hq, htail⟩
      next hne =>
        rw [List.map_cons, List.pairwise_cons]
        refine ⟨fun q hq => ?_, ih htail⟩
        obtain ⟨m, hm, rfl⟩ := List.mem_map.1 hq
        rcases mem_putMember hm with rfl | hm
        · exact lt_of_le_of_ne (not_lt.1 hnlt) (Ne.symm hne)
        · exact hhead _ (List.mem_map_of_mem hm)

theorem ofMembers_sorted (members : List (CodePoints × α)) : ((ofMembers members).map Prod.fst).Pairwise (· < ·) := by
  suffices keep : ∀ (members d : List (CodePoints × α)), (d.map Prod.fst).Pairwise (· < ·) →
      ((members.foldl (fun d m => putMember d m.1 m.2) d).map Prod.fst).Pairwise (· < ·) from
    keep members [] List.Pairwise.nil
  intro members
  induction members with
  | nil => exact fun d hd => hd
  | cons m members ih => exact fun d hd => ih _ (putMember_sorted hd _ _)

theorem mem_ofMembers {members : List (CodePoints × α)} {m : CodePoints × α} (h : m ∈ ofMembers members) :
    m ∈ members := by
  suffices keep : ∀ (members d : List (CodePoints × α)),
      m ∈ members.foldl (fun d m => putMember d m.1 m.2) d → m ∈ d ∨ m ∈ members from
    (keep members [] h).resolve_left (fun h => nomatch h)
  intro members
  induction members with
  | nil => exact fun d hm => .inl hm
  | cons m' members ih =>
    intro d hm
    rcases ih _ hm with hm | hm
    · rcases mem_putMember hm with rfl | hm
      · exact .inr List.mem_cons_self
      · exact .inl hm
    · exact .inr (List.mem_cons_of_mem _ hm)

theorem lookup_ofMembers {members : List (CodePoints × α)} (h : (members.map Prod.fst).Nodup) (q : CodePoints) :
    (ofMembers members).lookup q = members.lookup q := by
  suffices keep : ∀ (members d : List (CodePoints × α)), (members.map Prod.fst).Nodup →
      (members.foldl (fun d m => putMember d m.1 m.2) d).lookup q = (members.lookup q).or (d.lookup q) by
    rw [ofMembers, keep members [] h]
    simp
  intro members
  induction members with
  | nil => exact fun d _ => by simp
  | cons m members ih =>
    obtain ⟨k, v⟩ := m
    intro d hnodup
    rw [List.map_cons, List.nodup_cons] at hnodup
    rw [List.foldl_cons, ih _ hnodup.2, lookup_putMember, List.lookup_cons]
    by_cases hq : q = k
    · have hnone : members.lookup q = none := by
        rw [List.lookup_eq_none_iff]
        intro m hm
        have hne : m.1 ≠ k := fun e => hnodup.1 (List.mem_map.2 ⟨m, hm, e⟩)
        simpa [hq] using Ne.symm hne
      subst hq
      simp [hnone]
    · simp [hq, beq_false_of_ne hq]

theorem putMember_last {d : List (CodePoints × α)} {k : CodePoints} (v : α) (h : ∀ m ∈ d, m.1 < k) :
    putMember d k v = d ++ [(k, v)] := by
  induction d with
  | nil => rfl
  | cons m d ih =>
    obtain ⟨k', v'⟩ := m
    have hlt : k' < k := h _ List.mem_cons_self
    rw [putMember, if_neg (not_lt.2 (le_of_lt hlt)), if_neg (ne_of_gt hlt),
      ih fun m hm => h m (List.mem_cons_of_mem _ hm), List.cons_append]

theorem ofMembers_of_sorted {d : List (CodePoints × α)} (h : (d.map Prod.fst).Pairwise (· < ·)) : ofMembers d = d := by
  suffices keep : ∀ (members d : List (CodePoints × α)), ((d ++ members).map Prod.fst).Pairwise (· < ·) →
      members.foldl (fun d m => putMember d m.1 m.2) d = d ++ members from keep d [] h
  intro members
  induction members with
  | nil => exact fun d _ => (List.append_nil d).symm
  | cons m members ih =>
    obtain ⟨k, v⟩ := m
    intro d hsorted
    have hlast : ∀ m ∈ d, m.1 < k := by
      intro m hm
      rw [List.map_append, List.pairwise_append] at hsorted
      exact hsorted.2.2 _ (List.mem_map_of_mem hm) k (by simp)
    rw [List.foldl_cons, putMember_last v hlast, ih (d ++ [(k, v)]) (by simpa using hsorted)]
    simp

end dictionaries

section values

variable {D : Type} {F : Doubles D}

/-! ### values -/

theorem value_value (tree : JsonTree D) : value (value tree) = value tree := by
  induction tree using JsonTree.induct with
  | null => rfl
  | bool b => rfl
  | int n => rfl
  | float d => rfl
  | str s => rfl
  | arr items ih =>
    simp only [value, valueItems_eq, List.map_map]
    exact congrArg _ (List.map_congr_left ih)
  | obj members ih =>
    simp only [value, valueMembers_eq]
    have hsame : (ofMembers (members.map fun m => (m.1, value m.2))).map (fun m => (m.1, value m.2)) =
        ofMembers (members.map fun m => (m.1, value m.2)) := by
      refine (List.map_congr_left fun m hm => ?_).trans (List.map_id _)
      obtain ⟨m', hm', rfl⟩ := List.mem_map.1 (mem_ofMembers hm)
      exact Prod.ext rfl (ih m' hm')
    rw [hsame, ofMembers_of_sorted (ofMembers_sorted _)]

theorem IJson.child {tree child : JsonTree D} {step : JsonStep} (h : IJson F tree)
    (hchild : child? tree step = some child) : IJson F child := by
  unfold child? at hchild
  split at hchild
  · intro t ht
    exact h t (subtrees_of_item (List.mem_of_getElem? hchild) ht)
  next members name =>
    intro t ht
    obtain ⟨m, hm, hlookup⟩ : ∃ m ∈ members, m.2 = child := by
      obtain ⟨l, r, hl, -⟩ := List.lookup_eq_some_iff.1 hchild
      exact ⟨(name, child), by rw [hl]; simp, rfl⟩
    exact h t (subtrees_of_member hm (hlookup ▸ ht))
  · cases hchild

theorem lookup_map_value (members : List (CodePoints × JsonTree D)) (name : CodePoints) :
    (members.map fun m => (m.1, value m.2)).lookup name = (members.lookup name).map value := by
  induction members with
  | nil => rfl
  | cons m members ih =>
    obtain ⟨k, item⟩ := m
    rw [List.map_cons, List.lookup_cons, List.lookup_cons, ih]
    by_cases hname : name = k
    · simp [hname]
    · simp [beq_false_of_ne hname]

theorem child?_value {tree : JsonTree D} (h : IJson F tree) (step : JsonStep) :
    child? (value tree) step = (child? tree step).map value := by
  cases tree with
  | arr items =>
    cases step with
    | item i => simp [value, valueItems_eq, child?]
    | member name => rfl
  | obj members =>
    cases step with
    | item i => rfl
    | member name =>
      have hnode := h _ (self_mem_subtrees _)
      simp only [isIJsonNode, Bool.and_eq_true, decide_eq_true_eq] at hnode
      have hnodup : ((members.map fun m => (m.1, value m.2)).map Prod.fst).Nodup := by
        rw [List.map_map]
        exact hnode.1
      simp only [value, valueMembers_eq, child?, lookup_ofMembers hnodup, lookup_map_value]
  | null => rfl
  | bool b => rfl
  | int n => rfl
  | float d => rfl
  | str s => rfl

theorem meaning_value {tree : JsonTree D} (h : IJson F tree) : meaning (value tree) = meaning tree := by
  funext path
  unfold meaning
  induction path generalizing tree with
  | nil => cases tree <;> simp [at?, value, node, valueItems_eq]
  | cons step path ih =>
    simp only [at?, child?_value h]
    cases hchild : child? tree step with
    | none => rfl
    | some child => exact ih (h.child hchild)

/-! ### encodable texts -/

theorem isScalar_of_lt {c : Nat} (h : c < 128) : isScalar c = true := by
  simp only [isScalar, Bool.and_eq_true, decide_eq_true_eq, Bool.not_eq_true', Bool.and_eq_false_iff,
    decide_eq_false_iff_not]
  omega

theorem mem_escapeChar {c d : Nat} (h : c ∈ escapeChar d) : c = d ∨ c < 128 := by
  by_cases hd : d = 34 ∨ d = 92 ∨ d < 32
  · right
    rcases hd with rfl | rfl | hd
    · revert c
      decide
    · revert c
      decide
    · interval_cases d <;> revert c <;> decide
  · rw [escapeChar_of_not hd] at h
    exact .inl (List.mem_singleton.1 h)

theorem scalar_stringText {s : CodePoints} (hs : ∀ c ∈ s, isScalar c = true) {c : Nat} (h : c ∈ stringText s) :
    isScalar c = true := by
  rcases List.mem_append.1 h with h | h
  · obtain ⟨d, hd, hc⟩ := List.mem_flatMap.1 h
    rcases mem_escapeChar hc with rfl | hlt
    · exact hs _ hd
    · exact isScalar_of_lt hlt
  · obtain rfl := List.mem_singleton.1 h
    rfl

theorem mem_renderMoreItems {items : List (JsonTree D)} {c : Nat} (h : c ∈ renderMoreItems F items) :
    c < 128 ∨ ∃ item ∈ items, c ∈ render F item := by
  induction items with
  | nil =>
    obtain rfl := List.mem_singleton.1 h
    exact .inl (by decide)
  | cons item items ih =>
    rw [renderMoreItems, List.cons_append, List.mem_cons, List.mem_append] at h
    rcases h with rfl | h | h
    · exact .inl (by decide)
    · exact .inr ⟨item, List.mem_cons_self, h⟩
    · refine (ih h).imp_right fun hrest => ?_
      obtain ⟨t, ht, hc⟩ := hrest
      exact ⟨t, List.mem_cons_of_mem _ ht, hc⟩

theorem mem_renderItems {items : List (JsonTree D)} {c : Nat} (h : c ∈ renderItems F items) :
    c < 128 ∨ ∃ item ∈ items, c ∈ render F item := by
  cases items with
  | nil =>
    obtain rfl := List.mem_singleton.1 h
    exact .inl (by decide)
  | cons item items =>
    rcases List.mem_append.1 h with h | h
    · exact .inr ⟨item, List.mem_cons_self, h⟩
    · refine (mem_renderMoreItems h).imp_right fun hrest => ?_
      obtain ⟨t, ht, hc⟩ := hrest
      exact ⟨t, List.mem_cons_of_mem _ ht, hc⟩

theorem mem_renderMoreMembers {members : List (CodePoints × JsonTree D)} {c : Nat}
    (h : c ∈ renderMoreMembers F members) :
    c < 128 ∨ ∃ m ∈ members, c ∈ stringText m.1 ∨ c ∈ render F m.2 := by
  induction members with
  | nil =>
    obtain rfl := List.mem_singleton.1 h
    exact .inl (by decide)
  | cons m members ih =>
    obtain ⟨key, item⟩ := m
    simp only [renderMoreMembers, List.mem_cons, List.cons_append, List.mem_append, or_assoc] at h
    rcases h with rfl | rfl | h | rfl | h | h
    · exact .inl (by decide)
    · exact .inl (by decide)
    · exact .inr ⟨_, List.mem_cons_self, .inl h⟩
    · exact .inl (by decide)
    · exact .inr ⟨_, List.mem_cons_self, .inr h⟩
    · refine (ih h).imp_right fun hrest => ?_
      obtain ⟨t, ht, hc⟩ := hrest
      exact ⟨t, List.mem_cons_of_mem _ ht, hc⟩

theorem mem_renderMembers {members : List (CodePoints × JsonTree D)} {c : Nat} (h : c ∈ renderMembers F members) :
    c < 128 ∨ ∃ m ∈ members, c ∈ stringText m.1 ∨ c ∈ render F m.2 := by
  cases members with
  | nil =>
    obtain rfl := List.mem_singleton.1 h
    exact .inl (by decide)
  | cons m members =>
    obtain ⟨key, item⟩ := m
    -- the first member is written as the others are, without the comma
    exact mem_renderMoreMembers (List.mem_cons_of_mem comma h)

theorem intText_lt {n : Int} {c : Nat} (h : c ∈ intText n) : c < 128 := by
  have digit {c k : Nat} (h : c ∈ natText k) : c < 128 := by
    have hdigit := isDigit_of_mem_natText h
    simp only [isDigit, Bool.and_eq_true, decide_eq_true_eq] at hdigit
    omega
  unfold intText at h
  split at h
  · rcases List.mem_cons.1 h with rfl | h
    · decide
    · exact digit h
  · exact digit h

theorem isScalar_of_isIJsonChar {c : Nat} (h : isIJsonChar c = true) : isScalar c = true := by
  simp only [isIJsonChar, Bool.and_eq_true] at h
  exact h.1.1

theorem scalar_render (hF : F.Lawful) (tree : JsonTree D) : IJson F tree →
    (∀ t ∈ subtrees (value tree), writable F t = true) → ∀ c ∈ render F (value tree), isScalar c = true := by
  induction tree using JsonTree.induct with
  | null =>
    intro _ _
    change ∀ c ∈ nullText, isScalar c = true
    decide
  | bool b =>
    intro _ _
    cases b with
    | true =>
      change ∀ c ∈ trueText, isScalar c = true
      decide
    | false =>
      change ∀ c ∈ falseText, isScalar c = true
      decide
  | int n => exact fun _ _ c hc => isScalar_of_lt (intText_lt hc)
  | float d => exact fun _ h c hc => isScalar_of_lt (hF.ascii d (h _ (self_mem_subtrees _)) c hc)
  | str s =>
    intro h _ c hc
    have hnode := h _ (self_mem_subtrees _)
    simp only [isIJsonNode, List.all_eq_true] at hnode
    rcases List.mem_cons.1 hc with rfl | hc
    · rfl
    · exact scalar_stringText (fun c hc => isScalar_of_isIJsonChar (hnode c hc)) hc
  | arr items ih =>
    intro h hwritable c hc
    simp only [value, valueItems_eq] at hc hwritable
    rcases List.mem_cons.1 hc with rfl | hc
    · rfl
    rcases mem_renderItems hc with hlt | ⟨t, ht, hc⟩
    · exact isScalar_of_lt hlt
    · obtain ⟨item, hitem, rfl⟩ := List.mem_map.1 ht
      exact ih item hitem (fun t ht => h t (subtrees_of_item hitem ht))
        (fun u hu => hwritable u (subtrees_of_item ht hu)) c hc
  | obj members ih =>
    intro h hwritable c hc
    have hnode := h _ (self_mem_subtrees _)
    simp only [isIJsonNode, Bool.and_eq_true, List.all_eq_true] at hnode
    simp only [value, valueMembers_eq] at hc hwritable
    rcases List.mem_cons.1 hc with rfl | hc
    · rfl
    rcases mem_renderMembers hc with hlt | ⟨t, ht, hc⟩
    · exact isScalar_of_lt hlt
    · obtain ⟨m, hm, rfl⟩ := List.mem_map.1 (mem_ofMembers ht)
      rcases hc with hc | hc
      · exact scalar_stringText (fun c hc => isScalar_of_isIJsonChar (hnode.2 m hm c hc)) hc
      · exact ih m hm (fun t ht => h t (subtrees_of_member hm ht))
          (fun u hu => hwritable u (subtrees_of_member ht hu)) c hc

end values

end JsonText

end KnowledgeBase
