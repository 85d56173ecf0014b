import KnowledgeBase.Identity.Uuid
import KnowledgeBase.Library.Run
import Mathlib.Data.Nat.Bitwise

/-!
# Generated identities in order

An identity is the high half that the generator remembers and random bits below it; it stands after the one before it
unless the sequence of a millisecond wraps around.
-/

namespace KnowledgeBase

/-! ### the text of an identity -/

namespace Uuid

variable {u v : Uuid}

theorem before_hyphenate (ks : List Nat) {t t' : Text} (hlength : t.length = t'.length) (h : Text.Before t t') :
    Text.Before (hyphenate ks t) (hyphenate ks t') := by
  induction ks generalizing t t' with
  | nil => exact h
  | cons k ks ih =>
    have htake : (t.take k).length = (t'.take k).length := by rw [List.length_take, List.length_take, hlength]
    have hdrop : (t.drop k).length = (t'.drop k).length := by rw [List.length_drop, List.length_drop, hlength]
    rw [← List.take_append_drop k t, ← List.take_append_drop k t', Text.before_append htake] at h
    rw [hyphenate, hyphenate, Text.before_append htake]
    rcases h with h | ⟨heq, h⟩
    · exact .inl h
    · exact .inr ⟨heq, Text.before_cons.2 (.inr ⟨rfl, ih hdrop h⟩)⟩

theorem str_before (h : u.int < v.int) : Text.Before u.str v.str :=
  before_hyphenate _ (by rw [Hex.length_digits, Hex.length_digits])
    (Hex.before_digits (Nat.lt_of_lt_of_eq v.bounded (by decide)) h)

theorem mem_hyphenate {ks : List Nat} {t : Text} {c : Char} (h : c ∈ hyphenate ks t) : c = '-' ∨ c ∈ t := by
  induction ks generalizing t with
  | nil => exact .inr h
  | cons k ks ih =>
    rw [hyphenate] at h
    rcases List.mem_append.1 h with h | h
    · exact .inr (List.mem_of_mem_take h)
    · rcases List.mem_cons.1 h with rfl | h
      · exact .inl rfl
      · exact (ih h).imp_right List.mem_of_mem_drop

theorem filter_hyphenate {ks : List Nat} {t : Text} (h : ∀ c ∈ t, c ≠ '-') :
    (hyphenate ks t).filter (· != '-') = t := by
  have hkeep {l : Text} (hl : ∀ c ∈ l, c ≠ '-') : l.filter (· != '-') = l :=
    List.filter_eq_self.2 fun c hc => bne_iff_ne.2 (hl c hc)
  induction ks generalizing t with
  | nil => exact hkeep h
  | cons k ks ih =>
    rw [hyphenate, List.filter_append, hkeep fun c hc => h c (List.mem_of_mem_take hc), List.filter_cons_of_neg (by simp),
      ih fun c hc => h c (List.mem_of_mem_drop hc), List.take_append_drop]

theorem forall_mem_str {p : Char → Prop} (hhyphen : p '-') (h : ∀ d, d < 16 → p (Hex.digit d)) (u : Uuid) :
    ∀ c ∈ u.str, p c := by
  intro c hc
  rcases mem_hyphenate hc with rfl | hc
  · exact hhyphen
  · exact Hex.forall_mem_digits h _ _ c hc

theorem ofInt_natCast {n : Nat} (h : n < 2 ^ 128) : ofInt (n : Int) = some ⟨n, h⟩ := dif_pos ⟨Int.natCast_nonneg n, h⟩

theorem parse_str (u : Uuid) : parse u.str = some u := by
  have hu : 'u' ∉ u.str := fun hmem => forall_mem_str (p := (· ≠ 'u')) (by decide) (by decide) u _ hmem rfl
  have hbraces : ∀ c ∈ u.str, ['{', '}'].contains c = false := forall_mem_str (by decide) (by decide) u
  have hfilter : u.str.filter (· != '-') = Hex.digits 32 u.int :=
    filter_hyphenate (Hex.forall_mem_digits (by decide) _ _)
  have hread : Hex.readInt (Hex.digits 32 u.int) = some (u.int : Int) :=
    Hex.readInt_digits (Nat.lt_of_lt_of_eq u.bounded (by decide)) (by decide)
  unfold parse
  rw [show "urn:".toList = 'u' :: "rn:".toList from rfl, show "uuid:".toList = 'u' :: "uid:".toList from rfl,
    Text.erase_of_not_mem hu, Text.erase_of_not_mem hu, Text.stripChars_of_forall hbraces, hfilter]
  simp only [Hex.length_digits, if_pos, hread, Option.bind_some]
  exact ofInt_natCast u.bounded

theorem validateUuid7_str (h : u.version = some 7) (field : String) : validateUuid7 u.str field = .ok u.str := by
  have hne : u.int ≠ 0 := by
    intro hzero
    unfold version isRfc4122 at h
    rw [hzero, Nat.zero_and] at h
    simp at h
  have hexternal : validateExternalUuid u.str field = .ok u.str := by
    unfold validateExternalUuid
    rw [parse_str]
    simp only [h]
    refine if_neg ?_
    rintro (hzero | hversion)
    · exact hne hzero
    · exact hversion (List.mem_cons_of_mem _ List.mem_cons_self)
  unfold validateUuid7
  simp only [hexternal, bind, Except.bind, parse_str, Option.bind_some, h, ne_eq, not_true_eq_false, if_false]

end Uuid

/-! ### the state of the generator -/

namespace Uuid7State

variable {s : Uuid7State} {draw : Draw}

/-- The sequence has twelve bits, and the clock is below its bound. -/
structure Valid (s : Uuid7State) : Prop where
  sequence : s.sequence < 4096
  millis : s.lastMillis < 2 ^ 48

/-- The clock has moved on, or the sequence has not reached its end. -/
def NoWrap (s : Uuid7State) (draw : Draw) : Prop := s.lastMillis < draw.millis ∨ s.sequence ≠ 0xFFF

theorem valid_initial : initial.Valid := ⟨by decide, by decide⟩

theorem valid_next (hs : s.Valid) (hdraw : draw.millis < 2 ^ 48) :
    (s.next draw).Valid ∧ 0 ≤ (s.next draw).lastMillis := by
  unfold next
  split
  · rename_i hle
    refine ⟨⟨?_, hs.millis⟩, Int.le_trans (Int.natCast_nonneg _) hle⟩
    show (s.sequence + 1) &&& 0xFFF < 4096
    exact Nat.lt_of_le_of_lt Nat.and_le_right (by decide)
  · refine ⟨⟨draw.randbits12.isLt, ?_⟩, Int.natCast_nonneg _⟩
    show (draw.millis : Int) < 2 ^ 48
    omega

theorem high_eq (h : s.sequence < 4096) : s.high = s.lastMillis.toNat * 65536 + 28672 + s.sequence := by
  have hversion : s.lastMillis.toNat <<< 16 ||| 0x7 <<< 12 = (s.lastMillis.toNat * 16 + 7) <<< 12 := by
    rw [← Nat.shiftLeft_add_eq_or_of_lt (by decide), Nat.shiftLeft_eq, Nat.shiftLeft_eq, Nat.shiftLeft_eq]
    omega
  unfold high
  rw [hversion, ← Nat.shiftLeft_add_eq_or_of_lt h, Nat.shiftLeft_eq]
  omega

theorem high_lt (hs : s.Valid) : s.high < 2 ^ 64 := by
  have hmillis := hs.millis
  have hsequence := hs.sequence
  rw [high_eq hsequence]
  omega

/-- The high half grows with each call, unless the sequence wraps around: then it falls. -/
theorem high_next (hs : s.Valid) (hmillis : 0 ≤ s.lastMillis) (hdraw : draw.millis < 2 ^ 48) :
    (NoWrap s draw → s.high < (s.next draw).high) ∧ (¬NoWrap s draw → (s.next draw).high < s.high) := by
  have hsequence := hs.sequence
  have hvalid := (valid_next hs hdraw).1.sequence
  rw [high_eq hsequence, high_eq hvalid]
  unfold NoWrap
  by_cases hle : (draw.millis : Int) ≤ s.lastMillis
  · -- the clock is clamped, so the sequence decides
    have hnext : s.next draw = ⟨s.lastMillis, (s.sequence + 1) &&& 0xFFF⟩ := if_pos hle
    have hmask : (s.sequence + 1) &&& 0xFFF = (s.sequence + 1) % 4096 := Nat.and_two_pow_sub_one_eq_mod _ 12
    rw [hnext, hmask]
    dsimp only
    constructor
    · rintro (hlt | hne)
      · omega
      · omega
    · intro hwrap
      omega
  · have hnext : s.next draw = ⟨draw.millis, draw.randbits12⟩ := if_neg hle
    rw [hnext]
    dsimp only
    constructor
    · intro _
      omega
    · intro hwrap
      omega

/-- What a call returns: the high half of its state, the variant and the random bits. -/
theorem uuid7_spec (hs : s.Valid) (hdraw : draw.millis < 2 ^ 48) :
    ∃ u, s.uuid7 draw = some u ∧ u.int = (s.next draw).high * 2 ^ 64 + 2 ^ 63 + draw.randbits62 := by
  have hrandom := draw.randbits62.isLt
  have hhigh := high_lt (valid_next hs hdraw).1
  have hlow : 0b10 <<< 62 ||| (draw.randbits62 : Nat) = 2 ^ 63 + draw.randbits62 := by
    rw [← Nat.shiftLeft_add_eq_or_of_lt hrandom, Nat.shiftLeft_eq, show 2 * 2 ^ 62 = 2 ^ 63 from rfl]
  have hint : (s.next draw).high <<< 64 ||| (0b10 <<< 62 ||| (draw.randbits62 : Nat)) =
      (s.next draw).high * 2 ^ 64 + 2 ^ 63 + draw.randbits62 := by
    rw [hlow, ← Nat.shiftLeft_add_eq_or_of_lt (by omega), Nat.shiftLeft_eq, Nat.add_assoc]
  have hbounded : (s.next draw).high * 2 ^ 64 + 2 ^ 63 + draw.randbits62 < 2 ^ 128 := by omega
  refine ⟨⟨_, hbounded⟩, ?_, rfl⟩
  unfold uuid7
  rw [hint]
  exact Uuid.ofInt_natCast hbounded

theorem version_of_int {u : Uuid} {m q r : Nat} (hq : q < 4096) (hr : r < 2 ^ 62)
    (h : u.int = (m * 65536 + 28672 + q) * 2 ^ 64 + 2 ^ 63 + r) : u.version = some 7 := by
  have hset : u.int.testBit 63 = true := by
    rw [Nat.testBit_eq_decide_div_mod_eq, decide_eq_true_iff]
    omega
  have hclear : u.int.testBit 62 = false := by
    rw [Nat.testBit_eq_decide_div_mod_eq, decide_eq_false_iff_not]
    omega
  have hvariant : u.isRfc4122 = true := by
    unfold Uuid.isRfc4122
    rw [show 0x8000 <<< 48 = 2 ^ 63 by decide, show 0x4000 <<< 48 = 2 ^ 62 by decide, Nat.and_comm, Nat.two_pow_and,
      Nat.and_comm, Nat.two_pow_and, hset, hclear]
    decide
  have hversion : u.int >>> 76 &&& 0xF = 7 := by
    rw [show (0xF : Nat) = 2 ^ 4 - 1 from rfl, Nat.and_two_pow_sub_one_eq_mod, Nat.shiftRight_eq_div_pow]
    omega
  unfold Uuid.version
  rw [if_pos hvariant, hversion]

theorem uuid7_version (hs : s.Valid) (hdraw : draw.millis < 2 ^ 48) {u : Uuid} (h : s.uuid7 draw = some u) :
    u.version = some 7 := by
  obtain ⟨u', hu', hint⟩ := uuid7_spec hs hdraw
  rw [h] at hu'
  cases hu'
  have hsequence := (valid_next hs hdraw).1.sequence
  rw [high_eq hsequence] at hint
  exact version_of_int hsequence draw.randbits62.isLt hint

/-! ### the order of the identities -/

/-- The identities that the calls return. -/
def ids (s : Uuid7State) (draws : List Draw) : List Uuid := observed next uuid7 s draws

/-- The identity is the last one that the generator returned. -/
structure Last (s : Uuid7State) (u : Uuid) : Prop where
  valid : s.Valid
  millis : 0 ≤ s.lastMillis
  high : u.int / 2 ^ 64 = s.high

theorem last_next (hs : s.Valid) (hdraw : draw.millis < 2 ^ 48) {u : Uuid} (h : s.uuid7 draw = some u) :
    Last (s.next draw) u := by
  obtain ⟨u', hu', hint⟩ := uuid7_spec hs hdraw
  rw [h] at hu'
  cases hu'
  obtain ⟨hvalid, hmillis⟩ := valid_next hs hdraw
  have hrandom := draw.randbits62.isLt
  exact ⟨hvalid, hmillis, by omega⟩

/-- An identity after another one, as an integer and as a text. -/
def After (u v : Uuid) : Prop := u.int < v.int ∧ Text.Before u.str v.str

theorem after_iff {u v : Uuid} : After u v ↔ u.int < v.int := ⟨fun h => h.1, fun h => ⟨h, Uuid.str_before h⟩⟩

theorem after_iff_noWrap {u v : Uuid} (hu : Last s u) (hdraw : draw.millis < 2 ^ 48) (h : s.uuid7 draw = some v) :
    After u v ↔ NoWrap s draw := by
  have hv := (last_next hu.valid hdraw h).high
  have hold := hu.high
  obtain ⟨hgrows, hfalls⟩ := high_next hu.valid hu.millis hdraw
  rw [after_iff]
  constructor
  · intro hlt
    by_contra hwrap
    have hhigh := hfalls hwrap
    have hle : u.int / 2 ^ 64 ≤ v.int / 2 ^ 64 := Nat.div_le_div_right (Nat.le_of_lt hlt)
    omega
  · intro hmoves
    have hhigh := hgrows hmoves
    rw [← hold, ← hv] at hhigh
    exact Nat.lt_of_div_lt_div hhigh

theorem isChain_iff {u : Uuid} (hu : Last s u) {draws : List Draw} (hclock : ∀ draw ∈ draws, draw.millis < 2 ^ 48) :
    (u :: ids s draws).IsChain After ↔ StepsMeet next NoWrap s draws := by
  induction draws generalizing s u with
  | nil => exact iff_of_true (.singleton u) trivial
  | cons draw draws ih =>
    have hdraw := hclock draw List.mem_cons_self
    obtain ⟨v, hv, -⟩ := uuid7_spec hu.valid hdraw
    have hids : ids s (draw :: draws) = v :: ids (s.next draw) draws := by
      show (s.uuid7 draw).toList ++ _ = _
      rw [hv]
      rfl
    rw [hids, List.isChain_cons_cons, after_iff_noWrap hu hdraw hv,
      ih (last_next hu.valid hdraw hv) fun d hd => hclock d (List.mem_cons_of_mem _ hd)]
    rfl

/-- Every call returns an identity, each after the one before it, and the validation accepts them as they are. -/
structure TimeSortable (draws : List Draw) : Prop where
  returned : (ids initial draws).length = draws.length
  sorted : (ids initial draws).IsChain After
  valid : ∀ u ∈ ids initial draws, ∀ field, validateUuid7 u.str field = .ok u.str

theorem ids_spec (hs : s.Valid) {draws : List Draw} (hclock : ∀ draw ∈ draws, draw.millis < 2 ^ 48) :
    (ids s draws).length = draws.length ∧ ∀ u ∈ ids s draws, u.version = some 7 := by
  induction draws generalizing s with
  | nil => exact ⟨rfl, fun _ h => absurd h List.not_mem_nil⟩
  | cons draw draws ih =>
    have hdraw := hclock draw List.mem_cons_self
    obtain ⟨v, hv, -⟩ := uuid7_spec hs hdraw
    have hids : ids s (draw :: draws) = v :: ids (s.next draw) draws := by
      show (s.uuid7 draw).toList ++ _ = _
      rw [hv]
      rfl
    obtain ⟨hlength, hversion⟩ := ih (valid_next hs hdraw).1 fun d hd => hclock d (List.mem_cons_of_mem _ hd)
    refine ⟨by rw [hids, List.length_cons, hlength, List.length_cons], fun u hu => ?_⟩
    rw [hids] at hu
    rcases List.mem_cons.1 hu with rfl | hu
    · exact uuid7_version hs hdraw hv
    · exact hversion u hu

/-- Generated identities are time-sortable and accepted exactly if no call finds the sequence of its millisecond at its
end. -/
theorem timeSortable_iff (draws : List Draw) (hclock : ∀ draw ∈ draws, draw.millis < 2 ^ 48) :
    TimeSortable draws ↔ StepsMeet next NoWrap initial draws := by
  obtain ⟨hlength, hversion⟩ := ids_spec valid_initial hclock
  have hsorted : (ids initial draws).IsChain After ↔ StepsMeet next NoWrap initial draws := by
    cases draws with
    | nil => exact iff_of_true .nil trivial
    | cons draw draws =>
      have hdraw := hclock draw List.mem_cons_self
      obtain ⟨v, hv, -⟩ := uuid7_spec valid_initial hdraw
      have hids : ids initial (draw :: draws) = v :: ids (initial.next draw) draws := by
        show (initial.uuid7 draw).toList ++ _ = _
        rw [hv]
        rfl
      have hfirst : NoWrap initial draw := .inl (Int.lt_of_lt_of_le (by decide) (Int.natCast_nonneg _))
      rw [hids, isChain_iff (last_next valid_initial hdraw hv) fun d hd => hclock d (List.mem_cons_of_mem _ hd)]
      exact ⟨fun h => ⟨hfirst, h⟩, fun h => h.2⟩
  rw [← hsorted]
  exact ⟨fun h => h.sorted, fun h => ⟨hlength, h, fun u hu field => Uuid.validateUuid7_str (hversion u hu) field⟩⟩

/-- Two calls in one millisecond, then a clock that goes back, and one that goes on. -/
def steadyDraws : List Draw := [⟨5, 4093, 3⟩, ⟨5, 9, 2⟩, ⟨3, 1, 0⟩, ⟨6, 4095, 1⟩]

theorem timeSortable_iff_steady : TimeSortable steadyDraws ∧ (ids initial steadyDraws).map
    (fun u => (u.int >>> 80, (u.int >>> 64) % 4096)) = [(5, 4093), (5, 4094), (5, 4095), (6, 4095)] :=
  ⟨(timeSortable_iff steadyDraws (by decide)).2
    ⟨.inl (by decide), .inr (by decide), .inr (by decide), .inl (by decide), trivial⟩, by decide +kernel⟩

/-! ### two calls in one millisecond -/

/-- A sequence that starts at its end. -/
def endDraws : List Draw := [⟨1, 4095, 0⟩, ⟨1, 0, 0⟩]

/-- The second of two identities stands before the first. -/
theorem timeSortable_wraps : ¬ ∀ draws : List Draw, (∀ draw ∈ draws, draw.millis < 2 ^ 48) → TimeSortable draws := by
  intro hall
  have hsorted := (hall endDraws (by decide)).sorted
  have hids : ids initial endDraws =
      [⟨4095 * 2 ^ 64 + 94208 * 2 ^ 64 + 2 ^ 63, by decide⟩, ⟨94208 * 2 ^ 64 + 2 ^ 63, by decide⟩] := by
    decide +kernel
  rw [hids, List.isChain_cons_cons] at hsorted
  exact absurd hsorted.1.1 (by decide)

end Uuid7State

end KnowledgeBase
