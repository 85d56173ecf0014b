import KnowledgeBase.Library.Text
import Mathlib.Algebra.Group.Nat.Defs
import Mathlib.Algebra.Ring.Int.Defs

/-!
# Hexadecimal texts

The digits of a number at a fixed width: they are read back as the number, and their order as texts is the order of the
numbers. Also the reader of hexadecimal integers, with its blanks, sign, prefix and underscores.
-/

namespace KnowledgeBase

namespace Text

/-- The text stands strictly before the other. -/
def Before (t u : Text) : Prop := t.precedes u = true ∧ u.precedes t = false

theorem before_cons {c d : Char} {t u : Text} :
    Before (c :: t) (d :: u) ↔ c.toNat < d.toNat ∨ c = d ∧ Before t u := by
  unfold Before
  simp only [precedes, Bool.or_eq_true, decide_eq_true_iff, Bool.and_eq_true, beq_iff_eq, Bool.or_eq_false_iff,
    decide_eq_false_iff_not, Bool.and_eq_false_iff, beq_eq_false_iff_ne]
  constructor
  · rintro ⟨h | ⟨rfl, h⟩, -, h'⟩
    · exact .inl h
    · exact .inr ⟨rfl, h, h'.resolve_left fun hne => hne rfl⟩
  · rintro (h | ⟨rfl, h, h'⟩)
    · have hne : d ≠ c := by
        rintro rfl
        exact Nat.lt_irrefl _ h
      exact ⟨.inl h, by omega, .inl hne⟩
    · exact ⟨.inr ⟨rfl, h⟩, Nat.lt_irrefl _, .inr h'⟩

theorem not_before_self (t : Text) : ¬Before t t := by
  rintro ⟨h, h'⟩
  rw [h] at h'
  cases h'

/-- Texts with heads of one length are ordered by their heads, then by their rests. -/
theorem before_append {t t' u u' : Text} (h : t.length = t'.length) :
    Before (t ++ u) (t' ++ u') ↔ Before t t' ∨ t = t' ∧ Before u u' := by
  induction t generalizing t' with
  | nil =>
    obtain rfl := List.length_eq_zero_iff.1 h.symm
    constructor
    · exact fun hb => .inr ⟨rfl, hb⟩
    · rintro (hb | ⟨-, hb⟩)
      · exact absurd hb (not_before_self [])
      · exact hb
  | cons c t ih =>
    cases t' with
    | nil => cases h
    | cons c' t' =>
      rw [List.cons_append, List.cons_append, before_cons, before_cons, ih (Nat.succ.inj h)]
      constructor
      · rintro (hlt | ⟨rfl, hb | ⟨rfl, hb⟩⟩)
        · exact .inl (.inl hlt)
        · exact .inl (.inr ⟨rfl, hb⟩)
        · exact .inr ⟨rfl, hb⟩
      · rintro ((hlt | ⟨rfl, hb⟩) | ⟨heq, hb⟩)
        · exact .inl hlt
        · exact .inr ⟨rfl, .inl hb⟩
        · obtain ⟨rfl, rfl⟩ := List.cons.inj heq
          exact .inr ⟨rfl, .inr ⟨rfl, hb⟩⟩

/-- `t.replace(sub, "")` after so many characters of an occurrence. -/
def eraseFrom (sub : Text) : Nat → Text → Text
  | _, [] => []
  | skip + 1, _ :: t => eraseFrom sub skip t
  | 0, c :: t => if sub.isPrefixOf (c :: t) then eraseFrom sub (sub.length - 1) t else c :: eraseFrom sub 0 t

/-- `t.replace(sub, "")`. -/
def erase (t sub : Text) : Text := eraseFrom sub 0 t

theorem erase_of_not_mem {c : Char} {sub t : Text} (h : c ∉ t) : erase t (c :: sub) = t := by
  unfold erase
  induction t with
  | nil => rfl
  | cons d t ih =>
    obtain ⟨hne, ht⟩ := not_or.1 (List.mem_cons.not.1 h)
    rw [eraseFrom, if_neg, ih ht]
    simp [List.isPrefixOf, hne]

/-- `t.strip(chars)`. -/
def stripChars (chars t : Text) : Text :=
  ((t.dropWhile chars.contains).reverse.dropWhile chars.contains).reverse

theorem dropWhile_of_forall {p : Char → Bool} {t : Text} (h : ∀ c ∈ t, p c = false) : t.dropWhile p = t := by
  cases t with
  | nil => rfl
  | cons c t => rw [List.dropWhile_cons, h c List.mem_cons_self, if_neg Bool.false_ne_true]

theorem stripChars_of_forall {chars t : Text} (h : ∀ c ∈ t, chars.contains c = false) : stripChars chars t = t := by
  unfold stripChars
  rw [dropWhile_of_forall h, dropWhile_of_forall fun c hc => h c (List.mem_reverse.1 hc), List.reverse_reverse]

end Text

namespace Hex

/-- The lower-case digit of a number below sixteen. -/
def digit (n : Nat) : Char := if n < 10 then Char.ofNat (48 + n) else Char.ofNat (87 + n)

/-- The lowest digits of a number, so many of them. -/
def digits : Nat → Nat → Text
  | 0, _ => []
  | w + 1, n => digits w (n / 16) ++ [digit (n % 16)]

def value? (c : Char) : Option Nat :=
  if 48 ≤ c.toNat ∧ c.toNat ≤ 57 then some (c.toNat - 48)
  else if 97 ≤ c.toNat ∧ c.toNat ≤ 102 then some (c.toNat - 87)
  else if 65 ≤ c.toNat ∧ c.toNat ≤ 70 then some (c.toNat - 55)
  else none

/-- Digits, with single underscores between them, after those read so far. -/
def readDigits : Nat → Bool → Text → Option Nat
  | n, afterDigit, [] => if afterDigit then some n else none
  | n, afterDigit, c :: t =>
    if c = '_' then if afterDigit then readDigits n false t else none
    else (value? c).bind fun d => readDigits (16 * n + d) true t

/-- The digits after the prefix `0x`, if there is one. -/
def readPrefixed : Text → Option Nat
  | '0' :: x :: t =>
    if x = 'x' ∨ x = 'X' then readDigits 0 false (if t.head? = some '_' then t.tail else t)
    else readDigits 0 false ('0' :: x :: t)
  | t => readDigits 0 false t

/-- The number after its sign, if there is one. -/
def readSigned : Text → Option Int
  | [] => none
  | c :: t =>
    if c = '-' then (readPrefixed t).map fun n => -(n : Int)
    else if c = '+' then (readPrefixed t).map Int.ofNat
    else (readPrefixed (c :: t)).map Int.ofNat

/-- `int(t, 16)`, of ASCII digits. -/
def readInt (t : Text) : Option Int :=
  readSigned ((t.dropWhile Text.isSpace).reverse.dropWhile Text.isSpace).reverse

theorem length_digits (w n : Nat) : (digits w n).length = w := by
  induction w generalizing n with
  | zero => rfl
  | succ w ih => rw [digits, List.length_append, ih, List.length_singleton]

theorem forall_mem_digits {p : Char → Prop} (h : ∀ d, d < 16 → p (digit d)) (w n : Nat) : ∀ c ∈ digits w n, p c := by
  induction w generalizing n with
  | zero => exact fun _ hc => absurd hc List.not_mem_nil
  | succ w ih =>
    intro c hc
    rcases List.mem_append.1 hc with hc | hc
    · exact ih _ c hc
    · rw [List.mem_singleton.1 hc]
      exact h _ (Nat.mod_lt _ (by decide))

theorem toNat_digit_lt : ∀ a, a < 16 → ∀ b, b < 16 → a < b → (digit a).toNat < (digit b).toNat := by decide

theorem value?_digit : ∀ d, d < 16 → value? (digit d) = some d := by decide

theorem before_digits {w a b : Nat} (hb : b < 16 ^ w) (h : a < b) : Text.Before (digits w a) (digits w b) := by
  induction w generalizing a b with
  | zero =>
    rw [Nat.pow_zero] at hb
    omega
  | succ w ih =>
    have hlast : a % 16 < 16 := Nat.mod_lt _ (by decide)
    have hlast' : b % 16 < 16 := Nat.mod_lt _ (by decide)
    rw [digits, digits, Text.before_append (by rw [length_digits, length_digits])]
    rcases Nat.lt_or_ge (a / 16) (b / 16) with hhigh | hhigh
    · refine .inl (ih ?_ hhigh)
      rw [Nat.pow_succ] at hb
      exact Nat.div_lt_of_lt_mul (by rw [Nat.mul_comm]; exact hb)
    · have heq : a / 16 = b / 16 := by omega
      refine .inr ⟨by rw [heq], Text.before_cons.2 (.inl ?_)⟩
      exact toNat_digit_lt _ hlast _ hlast' (by omega)

theorem digit_ne_underscore : ∀ d, d < 16 → digit d ≠ '_' := by decide

theorem readDigits_digit {d : Nat} (h : d < 16) (n : Nat) (afterDigit : Bool) (t : Text) :
    readDigits n afterDigit (digit d :: t) = readDigits (16 * n + d) true t := by
  rw [readDigits, if_neg (digit_ne_underscore d h), value?_digit d h]
  rfl

theorem readDigits_append (w n acc : Nat) (afterDigit : Bool) (t : Text) (h : n < 16 ^ w) (hw : 0 < w) :
    readDigits acc afterDigit (digits w n ++ t) = readDigits (16 ^ w * acc + n) true t := by
  -- over the digits from the last one on: those before it are read into the accumulator first
  induction w generalizing n t with
  | zero => omega
  | succ w ih =>
    have hlast : n % 16 < 16 := Nat.mod_lt _ (by decide)
    have hhigh : n / 16 < 16 ^ w := by
      rw [Nat.pow_succ] at h
      exact Nat.div_lt_of_lt_mul (by rw [Nat.mul_comm]; exact h)
    rw [digits, List.append_assoc, List.singleton_append]
    rcases Nat.eq_zero_or_pos w with rfl | hpos
    · have hsmall : n / 16 = 0 := by
        rw [Nat.pow_zero] at hhigh
        omega
      rw [digits, List.nil_append, readDigits_digit hlast]
      congr 1
      omega
    · rw [ih _ _ hhigh hpos, readDigits_digit hlast]
      congr 1
      rw [Nat.pow_succ, Nat.mul_add, ← Nat.mul_assoc, Nat.mul_comm 16 (16 ^ w)]
      omega

theorem readDigits_digits {w n : Nat} (h : n < 16 ^ w) (hw : 0 < w) : readDigits 0 false (digits w n) = some n := by
  have hread := readDigits_append w n 0 false [] h hw
  rw [List.append_nil] at hread
  rw [hread, Nat.mul_zero, Nat.zero_add]
  rfl

theorem readPrefixed_of_not_mem {t : Text} (hx : 'x' ∉ t) (hX : 'X' ∉ t) : readPrefixed t = readDigits 0 false t := by
  unfold readPrefixed
  split
  · rename_i x t
    rw [if_neg]
    rintro (rfl | rfl)
    · exact hx (List.mem_cons_of_mem _ List.mem_cons_self)
    · exact hX (List.mem_cons_of_mem _ List.mem_cons_self)
  · rfl

theorem readInt_digits {w n : Nat} (h : n < 16 ^ w) (hw : 0 < w) : readInt (digits w n) = some (n : Int) := by
  have hspace : ∀ c ∈ digits w n, Text.isSpace c = false := forall_mem_digits (by decide) w n
  have hread : readPrefixed (digits w n) = some n := by
    rw [readPrefixed_of_not_mem, readDigits_digits h hw]
    · exact fun hmem => forall_mem_digits (p := (· ≠ 'x')) (by decide) w n _ hmem rfl
    · exact fun hmem => forall_mem_digits (p := (· ≠ 'X')) (by decide) w n _ hmem rfl
  have hminus : '-' ∉ digits w n := fun hmem => forall_mem_digits (p := (· ≠ '-')) (by decide) w n _ hmem rfl
  have hplus : '+' ∉ digits w n := fun hmem => forall_mem_digits (p := (· ≠ '+')) (by decide) w n _ hmem rfl
  unfold readInt
  rw [Text.dropWhile_of_forall hspace, Text.dropWhile_of_forall fun c hc => hspace c (List.mem_reverse.1 hc),
    List.reverse_reverse]
  cases hdigits : digits w n with
  | nil =>
    have hlength := length_digits w n
    rw [hdigits] at hlength
    exact absurd hlength (Nat.ne_of_lt hw)
  | cons c t =>
    rw [hdigits] at hread hminus hplus
    rw [readSigned, if_neg, if_neg, hread]
    · rfl
    · rintro rfl
      exact hplus List.mem_cons_self
    · rintro rfl
      exact hminus List.mem_cons_self

end Hex

end KnowledgeBase
