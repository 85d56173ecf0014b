import Mathlib.Data.Nat.Digits.Lemmas

/-!
# The numbers of JSON texts

A text is a list of code points, surrogates included. `lexNumber` reads the longest number at the start of a text: the
lexeme of its integer, and that of its fraction and exponent, which is empty for an integer. What is read of a text does
not depend on what follows after a delimiter.
-/

namespace KnowledgeBase

/-- A text that may have surrogates, as its code points. -/
abbrev CodePoints := List Nat

namespace JsonText

def isDigit (c : Nat) : Bool := 48 ≤ c && c ≤ 57

/-- A comma, a closing bracket or a closing brace. -/
def isDelimiter (c : Nat) : Bool := c = 44 || c = 93 || c = 125

/-- The end of the text, or a delimiter. -/
def Delimited (r : CodePoints) : Prop := ∀ c ∈ r.head?, isDelimiter c = true

/-- The minus sign of a number. -/
def lexSign : CodePoints → CodePoints × CodePoints
  | c :: rest => if c = 45 then ([c], rest) else ([], c :: rest)
  | [] => ([], [])

/-- A zero, or digits that do not start with one. -/
def lexDigits : CodePoints → Option (CodePoints × CodePoints)
  | c :: rest =>
    if c = 48 then some ([c], rest)
    else if isDigit c then some (c :: rest.takeWhile isDigit, rest.dropWhile isDigit)
    else none
  | [] => none

/-- A point with digits after it, or nothing. -/
def lexFraction : CodePoints → CodePoints × CodePoints
  | c :: rest =>
    if c = 46 && rest.head?.any isDigit then (c :: rest.takeWhile isDigit, rest.dropWhile isDigit)
    else ([], c :: rest)
  | [] => ([], [])

/-- The sign of an exponent. -/
def lexExponentSign : CodePoints → CodePoints × CodePoints
  | c :: rest => if c = 43 || c = 45 then ([c], rest) else ([], c :: rest)
  | [] => ([], [])

/-- An exponent with its digits, or nothing. -/
def lexExponent : CodePoints → CodePoints × CodePoints
  | c :: rest =>
    let (sign, digits) := lexExponentSign rest
    if (c = 101 || c = 69) && digits.head?.any isDigit then
      (c :: sign ++ digits.takeWhile isDigit, digits.dropWhile isDigit)
    else ([], c :: rest)
  | [] => ([], [])

/-- The integer of a number, its fraction with its exponent, and what is left. -/
def lexNumber (text : CodePoints) : Option (CodePoints × CodePoints × CodePoints) :=
  let (sign, text) := lexSign text
  (lexDigits text).map fun (digits, text) =>
    let (fraction, text) := lexFraction text
    let (exponent, text) := lexExponent text
    (sign ++ digits, fraction ++ exponent, text)

/-! ### what follows a number -/

section append

variable {r : CodePoints}

theorem not_digit_of_delimiter {c : Nat} (h : isDelimiter c = true) : isDigit c = false := by
  simp only [isDelimiter, Bool.or_eq_true, decide_eq_true_eq] at h
  rcases h with (rfl | rfl) | rfl <;> rfl

theorem takeWhile_digits_append (hr : Delimited r) (l : CodePoints) :
    (l ++ r).takeWhile isDigit = l.takeWhile isDigit := by
  induction l with
  | nil =>
    cases r with
    | nil => rfl
    | cons c r =>
      have hc := not_digit_of_delimiter (hr c rfl)
      simp [hc]
  | cons c l ih =>
    rw [List.cons_append, List.takeWhile_cons, List.takeWhile_cons, ih]

theorem dropWhile_digits_append (hr : Delimited r) (l : CodePoints) :
    (l ++ r).dropWhile isDigit = l.dropWhile isDigit ++ r := by
  induction l with
  | nil =>
    cases r with
    | nil => rfl
    | cons c r =>
      have hc := not_digit_of_delimiter (hr c rfl)
      simp [hc]
  | cons c l ih =>
    rw [List.cons_append, List.dropWhile_cons, List.dropWhile_cons]
    split
    · exact ih
    · rfl

theorem head_digit_append (hr : Delimited r) (l : CodePoints) : (l ++ r).head?.any isDigit = l.head?.any isDigit := by
  cases l with
  | nil =>
    cases r with
    | nil => rfl
    | cons c r => simp [not_digit_of_delimiter (hr c rfl)]
  | cons c l => rfl

theorem delimiter_ne {c : Nat} (h : isDelimiter c = true) : c ≠ 45 ∧ c ≠ 43 ∧ c ≠ 46 ∧ c ≠ 101 ∧ c ≠ 69 ∧ c ≠ 48 := by
  simp only [isDelimiter, Bool.or_eq_true, decide_eq_true_eq] at h
  rcases h with (rfl | rfl) | rfl <;> decide

theorem lexSign_append (hr : Delimited r) (l : CodePoints) :
    lexSign (l ++ r) = ((lexSign l).1, (lexSign l).2 ++ r) := by
  cases l with
  | nil =>
    cases r with
    | nil => rfl
    | cons c r => simp [lexSign, (delimiter_ne (hr c rfl)).1]
  | cons c l =>
    simp only [List.cons_append, lexSign]
    split <;> rfl

theorem lexExponentSign_append (hr : Delimited r) (l : CodePoints) :
    lexExponentSign (l ++ r) = ((lexExponentSign l).1, (lexExponentSign l).2 ++ r) := by
  cases l with
  | nil =>
    cases r with
    | nil => rfl
    | cons c r => simp [lexExponentSign, (delimiter_ne (hr c rfl)).1, (delimiter_ne (hr c rfl)).2.1]
  | cons c l =>
    simp only [List.cons_append, lexExponentSign]
    split <;> rfl

theorem lexDigits_append (hr : Delimited r) (l : CodePoints) :
    lexDigits (l ++ r) = (lexDigits l).map fun (digits, rest) => (digits, rest ++ r) := by
  cases l with
  | nil =>
    cases r with
    | nil => rfl
    | cons c r =>
      have hc := not_digit_of_delimiter (hr c rfl)
      simp [lexDigits, hc, (delimiter_ne (hr c rfl)).2.2.2.2.2]
  | cons c l =>
    simp only [List.cons_append, lexDigits, takeWhile_digits_append hr, dropWhile_digits_append hr]
    split
    · rfl
    · split <;> rfl

theorem lexFraction_append (hr : Delimited r) (l : CodePoints) :
    lexFraction (l ++ r) = ((lexFraction l).1, (lexFraction l).2 ++ r) := by
  cases l with
  | nil =>
    cases r with
    | nil => rfl
    | cons c r => simp [lexFraction, (delimiter_ne (hr c rfl)).2.2.1]
  | cons c l =>
    simp only [List.cons_append, lexFraction, takeWhile_digits_append hr, dropWhile_digits_append hr,
      head_digit_append hr]
    split <;> rfl

theorem lexExponent_append (hr : Delimited r) (l : CodePoints) :
    lexExponent (l ++ r) = ((lexExponent l).1, (lexExponent l).2 ++ r) := by
  cases l with
  | nil =>
    cases r with
    | nil => rfl
    | cons c r => simp [lexExponent, (delimiter_ne (hr c rfl)).2.2.2.1, (delimiter_ne (hr c rfl)).2.2.2.2.1]
  | cons c l =>
    simp only [List.cons_append, lexExponent, lexExponentSign_append hr, takeWhile_digits_append hr,
      dropWhile_digits_append hr, head_digit_append hr]
    split <;> rfl

theorem lexNumber_append (hr : Delimited r) (l : CodePoints) :
    lexNumber (l ++ r) = (lexNumber l).map fun (integer, tail, rest) => (integer, tail, rest ++ r) := by
  unfold lexNumber
  rw [lexSign_append hr]
  dsimp only
  rw [lexDigits_append hr]
  cases lexDigits (lexSign l).2 with
  | none => rfl
  | some d =>
    obtain ⟨digits, rest⟩ := d
    simp only [Option.map_some, lexFraction_append hr, lexExponent_append hr]

end append

/-! ### integers -/

/-- The digits of a number, the highest first. -/
def natText (n : Nat) : CodePoints := if n = 0 then [48] else (Nat.digits 10 n).reverse.map (· + 48)

/-- The number of a text of digits. -/
def natOf (digits : CodePoints) : Nat := Nat.ofDigits 10 (digits.reverse.map (· - 48))

def intText (n : Int) : CodePoints := if n < 0 then 45 :: natText n.natAbs else natText n.natAbs

def intOf (integer : CodePoints) : Int :=
  let (sign, digits) := lexSign integer
  if sign.isEmpty then (natOf digits : Int) else -(natOf digits : Int)

theorem natOf_natText (n : Nat) : natOf (natText n) = n := by
  unfold natOf natText
  split
  next h => rw [h]; rfl
  · have hmap : ((Nat.digits 10 n).map (· + 48)).map (· - 48) = Nat.digits 10 n := by
      rw [List.map_map]
      exact (List.map_congr_left fun d _ => Nat.add_sub_cancel d 48).trans (List.map_id _)
    simp only [List.map_reverse, List.reverse_reverse, hmap, Nat.ofDigits_digits]

theorem isDigit_of_mem_natText {n c : Nat} (h : c ∈ natText n) : isDigit c = true := by
  unfold natText at h
  split at h
  · obtain rfl := List.mem_singleton.1 h
    rfl
  · obtain ⟨d, hd, rfl⟩ := List.mem_map.1 h
    have hlt := Nat.digits_lt_base (by omega : 1 < 10) (List.mem_reverse.1 hd)
    simp [isDigit]
    omega

theorem natText_head {n : Nat} : natText n = [48] ∨ ∃ c rest, natText n = c :: rest ∧ c ≠ 48 := by
  unfold natText
  split
  · exact .inl rfl
  next hn =>
  right
  have hne : Nat.digits 10 n ≠ [] := Nat.digits_ne_nil_iff_ne_zero.2 hn
  have hlast := Nat.getLast_digit_ne_zero 10 hn
  obtain ⟨init, last, hdigits⟩ : ∃ init last, Nat.digits 10 n = init ++ [last] :=
    ⟨_, _, (List.dropLast_append_getLast hne).symm⟩
  simp only [hdigits, List.getLast_append_singleton] at hlast
  refine ⟨last + 48, (init.reverse).map (· + 48), by simp [hdigits], by omega⟩

theorem takeWhile_of_forall {l : CodePoints} (h : ∀ c ∈ l, isDigit c = true) :
    l.takeWhile isDigit = l ∧ l.dropWhile isDigit = [] := by
  induction l with
  | nil => exact ⟨rfl, rfl⟩
  | cons c l ih =>
    obtain ⟨htake, hdrop⟩ := ih fun d hd => h d (List.mem_cons_of_mem _ hd)
    simp [h c List.mem_cons_self, htake, hdrop]

theorem lexDigits_natText (n : Nat) : lexDigits (natText n) = some (natText n, []) := by
  have hdigits : ∀ c ∈ natText n, isDigit c = true := fun c hc => isDigit_of_mem_natText hc
  rcases @natText_head n with h | ⟨c, rest, h, hc⟩
  · rw [h]
    rfl
  · rw [h] at hdigits ⊢
    obtain ⟨htake, hdrop⟩ := takeWhile_of_forall fun d hd => hdigits d (List.mem_cons_of_mem _ hd)
    simp [lexDigits, hc, hdigits c List.mem_cons_self, htake, hdrop]

theorem natText_ne_minus (n : Nat) : lexSign (natText n) = ([], natText n) := by
  cases h : natText n with
  | nil => rfl
  | cons c rest =>
    have hc := isDigit_of_mem_natText (h ▸ List.mem_cons_self : c ∈ natText n)
    have hne : c ≠ 45 := by
      rintro rfl
      exact absurd hc (by decide)
    simp [lexSign, hne]

theorem lexNumber_intText (n : Int) : lexNumber (intText n) = some (intText n, [], []) := by
  unfold intText
  split
  · simp [lexNumber, lexSign, lexDigits_natText, lexFraction, lexExponent]
  · simp [lexNumber, natText_ne_minus, lexDigits_natText, lexFraction, lexExponent]

theorem intOf_intText (n : Int) : intOf (intText n) = n := by
  unfold intText intOf
  by_cases h : n < 0
  · have hsign : lexSign (45 :: natText n.natAbs) = ([45], natText n.natAbs) := rfl
    rw [if_pos h, hsign]
    simp only [List.isEmpty_cons, Bool.false_eq_true, if_false, natOf_natText]
    omega
  · rw [if_neg h, natText_ne_minus]
    simp only [List.isEmpty_nil, if_true, natOf_natText]
    omega

end JsonText

end KnowledgeBase
