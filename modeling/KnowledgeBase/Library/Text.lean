import Mathlib.Data.List.Basic
import Mathlib.Data.List.Infix

/-!
# Text

Strings of a language whose strings are sequences of code points: whitespace, search from an offset, counting, and
the offsets of the UTF-8 encoding.
-/

namespace KnowledgeBase

/-- A string, as its code points. -/
abbrev Text := List Char

namespace Text

/-- The code points that `str.strip` removes. -/
def isSpace (c : Char) : Bool :=
  (9 ≤ c.toNat && c.toNat ≤ 13) || (28 ≤ c.toNat && c.toNat ≤ 32) || c.toNat == 133 || c.toNat == 160 ||
    c.toNat == 5760 || (8192 ≤ c.toNat && c.toNat ≤ 8202) || c.toNat == 8232 || c.toNat == 8233 ||
    c.toNat == 8239 || c.toNat == 8287 || c.toNat == 12288

/-- `str.rstrip`. -/
def rstrip (t : Text) : Text := (t.reverse.dropWhile isSpace).reverse

/-- Nothing is left after `strip`. -/
def isBlank (t : Text) : Bool := t.all isSpace

/-- The length of the UTF-8 encoding. -/
def utf8Length (t : Text) : Nat := t.foldr (fun c n => c.utf8Size + n) 0

/-- The order of strings, by code points. -/
def precedes : Text → Text → Bool
  | [], _ => true
  | _ :: _, [] => false
  | c :: t, d :: u => decide (c.toNat < d.toNat) || (c == d && precedes t u)

/-- `str.find` from an offset. -/
def findFrom (t sub : Text) (start : Nat) : Option Nat :=
  (List.range (t.length + 1)).find? fun i => decide (start ≤ i) && sub.isPrefixOf (t.drop i)

/-- `sub in t`. -/
def hasSub (t sub : Text) : Bool := (findFrom t sub 0).isSome

def countFrom : Nat → Text → Text → Nat
  | 0, _, _ => 0
  | n + 1, t, sub =>
    match findFrom t sub 0 with
    | none => 0
    | some i => 1 + countFrom n (t.drop (i + max sub.length 1)) sub

/-- `str.count`: the occurrences that do not overlap. -/
def count (t sub : Text) : Nat := countFrom (t.length + 1) t sub

/-- The byte offset of a code point. -/
def byteOffset (t : Text) (i : Nat) : Nat := utf8Length (t.take i)

/-- The code point at a byte offset that does not split one. -/
def charIndex? : Text → Nat → Option Nat
  | _, 0 => some 0
  | [], _ + 1 => none
  | c :: t, n + 1 => if c.utf8Size ≤ n + 1 then (charIndex? t (n + 1 - c.utf8Size)).map (· + 1) else none

/-- CRLF and CR become LF. -/
def unifyNewlines : Text → Text
  | '\r' :: '\n' :: t => '\n' :: unifyNewlines t
  | '\r' :: t => '\n' :: unifyNewlines t
  | c :: t => c :: unifyNewlines t
  | [] => []

/-- Decimal digits, at least four of them. -/
def padded4 (n : Nat) : Text :=
  List.replicate (4 - (Nat.toDigits 10 n).length) '0' ++ Nat.toDigits 10 n

theorem not_mem_unifyNewlines (t : Text) : '\r' ∉ unifyNewlines t := by
  induction t using unifyNewlines.induct with
  | case1 t ih => simp [unifyNewlines, ih]
  | case2 t h ih =>
    rw [unifyNewlines.eq_2 t h]
    simp [ih]
  | case3 c t h h' ih =>
    rw [unifyNewlines.eq_3 c t h h']
    simp only [List.mem_cons, not_or]
    exact ⟨fun hc => h' hc.symm, ih⟩
  | case4 => simp [unifyNewlines]

theorem unifyNewlines_of_not_mem {t : Text} (h : '\r' ∉ t) : unifyNewlines t = t := by
  induction t with
  | nil => rfl
  | cons c t ih =>
    simp only [List.mem_cons, not_or] at h
    rw [unifyNewlines.eq_3 c t (fun _ hc => absurd hc.symm h.1) (fun hc => absurd hc.symm h.1), ih h.2]

theorem length_padded4_eq_iff {n : Nat} : (padded4 n).length = 4 ↔ n < 10000 := by
  have hlen : (Nat.toDigits 10 n).length ≤ 4 ↔ n < 10 ^ 4 := Nat.length_toDigits_le_iff (by decide) (by decide)
  unfold padded4
  rw [List.length_append, List.length_replicate]
  omega

theorem isDigit_of_mem_padded4 {n : Nat} {c : Char} (h : c ∈ padded4 n) : c.isDigit = true := by
  rcases List.mem_append.1 h with h | h
  · obtain rfl := (List.mem_replicate.1 h).2
    decide
  · exact Nat.isDigit_of_mem_toDigits (by decide) (by decide) h

theorem ofDigitChars_padded4 (n : Nat) : Nat.ofDigitChars 10 (padded4 n) 0 = n := by
  unfold padded4
  rw [Nat.ofDigitChars_append, Nat.ofDigitChars_replicate_zero, Nat.mul_zero]
  exact Nat.ofDigitChars_toDigits (by decide) (by decide)

theorem padded4_injective : Function.Injective padded4 := by
  intro m n h
  rw [← ofDigitChars_padded4 m, h, ofDigitChars_padded4]

/-! ### the order -/

theorem precedes_total (t u : Text) : t.precedes u = true ∨ u.precedes t = true := by
  induction t generalizing u with
  | nil => exact Or.inl rfl
  | cons c t ih =>
    cases u with
    | nil => exact Or.inr rfl
    | cons d u =>
      unfold precedes
      simp only [Bool.or_eq_true, Bool.and_eq_true, decide_eq_true_eq, beq_iff_eq]
      rcases Nat.lt_trichotomy c.toNat d.toNat with hlt | heq | hgt
      · exact Or.inl (Or.inl hlt)
      · have hcd : c = d := Char.toNat_inj.1 heq
        rcases ih u with h | h
        · exact Or.inl (Or.inr ⟨hcd, h⟩)
        · exact Or.inr (Or.inr ⟨hcd.symm, h⟩)
      · exact Or.inr (Or.inl hgt)

theorem precedes_trans {t u v : Text} (htu : t.precedes u = true) (huv : u.precedes v = true) :
    t.precedes v = true := by
  induction t generalizing u v with
  | nil => rfl
  | cons c t ih =>
    cases u with
    | nil => cases htu
    | cons d u =>
      cases v with
      | nil => cases huv
      | cons e v =>
        unfold precedes at htu huv ⊢
        simp only [Bool.or_eq_true, Bool.and_eq_true, decide_eq_true_eq, beq_iff_eq] at htu huv ⊢
        rcases htu with hcd | ⟨rfl, htu⟩
        · rcases huv with hde | ⟨rfl, -⟩
          · exact Or.inl (hcd.trans hde)
          · exact Or.inl hcd
        · rcases huv with hde | ⟨rfl, huv⟩
          · exact Or.inl hde
          · exact Or.inr ⟨rfl, ih htu huv⟩

theorem precedes_antisymm {t u : Text} (htu : t.precedes u = true) (hut : u.precedes t = true) : t = u := by
  induction t generalizing u with
  | nil =>
    cases u with
    | nil => rfl
    | cons d u => cases hut
  | cons c t ih =>
    cases u with
    | nil => cases htu
    | cons d u =>
      unfold precedes at htu hut
      simp only [Bool.or_eq_true, Bool.and_eq_true, decide_eq_true_eq, beq_iff_eq] at htu hut
      rcases htu with hlt | ⟨rfl, htu⟩
      · rcases hut with hgt | ⟨rfl, -⟩
        · omega
        · omega
      · rcases hut with hgt | ⟨-, hut⟩
        · omega
        · rw [ih htu hut]

/-! ### blank texts -/

theorem ne_nil_of_not_blank {t : Text} (h : t.isBlank = false) : t ≠ [] := by
  rintro rfl
  cases h

theorem not_blank_of_subset {t u : Text} (h : u ⊆ t) (hu : u.isBlank = false) : t.isBlank = false := by
  rw [Bool.eq_false_iff] at hu ⊢
  intro ht
  refine hu ?_
  unfold isBlank at ht ⊢
  rw [List.all_eq_true] at ht ⊢
  exact fun c hc => ht c (h hc)

end Text

end KnowledgeBase
