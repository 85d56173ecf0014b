import KnowledgeBase.Library.Run
import KnowledgeBase.Security.Admission

/-!
# The rate limit law

The limiter forgets the windows that are over, and it has room for a bounded number of keys. However its calls are
ordered, as long as no reading of the clock is more than one window behind an earlier one, it admits no key more often
than its limit in a window; while there is room it refuses a call only where the limit is used up; and it holds no more
keys than its capacity and the six that stand for the calls it had no room for.
-/

namespace KnowledgeBase

/-- A call of the limiter, with the reading of the clock. -/
structure LimitCall where
  dimension : LimitDimension
  identity : Text
  reading : Option ℚ

namespace RateLimits

variable (L : RateLimits)

/-- What a call is counted under. -/
def key (c : LimitCall) (now : ℚ) : BucketKey := (c.dimension, c.identity, windowOf L.windowSeconds now)

def key? (c : LimitCall) : Option BucketKey := c.reading.map (L.key c)

def limiterStep (s : RateLimiter) (c : LimitCall) : RateLimiter := (L.check s c.dimension c.identity c.reading).2

/-- The key of a call that is admitted. -/
def admitted? (s : RateLimiter) (c : LimitCall) : Option BucketKey :=
  if (L.check s c.dimension c.identity c.reading).1.allowed then L.key? c else none

/-- No reading is more than one window behind an earlier one. -/
def Lagged (calls : List LimitCall) : Prop :=
  calls.Pairwise fun c c' => ∀ k ∈ L.key? c, ∀ k' ∈ L.key? c', k.window ≤ k'.window + 1

/-- The keys that a reading leaves: those of its window, of the one before and of later ones. -/
def keepFrom (buckets : OrderedMap BucketKey Nat) (bucket : Int) : OrderedMap BucketKey Nat :=
  buckets.keep fun k => bucket - 1 ≤ k.window

/-- What the calls without room of a window and a dimension are counted under. -/
def overflowKey (dimension : LimitDimension) (bucket : Int) : BucketKey := (dimension, overflowIdentity, bucket)

/-- The call is one of a key that is there, or there is room for it. -/
def HasRoom (s : RateLimiter) (c : LimitCall) : Prop :=
  ∀ k ∈ L.key? c, (keepFrom s.buckets k.window).get? k = none → (keepFrom s.buckets k.window).size < L.maxBuckets

variable {L}

section step

variable {s : RateLimiter} {c : LimitCall} {now : ℚ} {k : BucketKey}

theorem key?_of_reading (h : c.reading = some now) : L.key? c = some (L.key c now) := by
  unfold key?
  rw [h]
  rfl

theorem limiterStep_of_none (h : c.reading = none) : (L.limiterStep s c).buckets = s.buckets := by
  unfold limiterStep check
  rw [h]

theorem admitted?_of_none (h : c.reading = none) : L.admitted? s c = none := by
  unfold admitted? check
  rw [h]
  rfl

theorem allow_eq (henabled : L.enabled = true) (k : BucketKey) (limit : Nat) {now : ℚ}
    (hwindow : windowOf L.windowSeconds now = k.window) (buckets : OrderedMap BucketKey Nat) :
    L.allow k.1 k.2.1 limit now buckets =
      if (keepFrom buckets k.window).get? k = none ∧ L.maxBuckets ≤ (keepFrom buckets k.window).size then
        (false, (keepFrom buckets k.window).put (overflowKey k.1 k.window)
          (((keepFrom buckets k.window).get? (overflowKey k.1 k.window)).getD 0 + 1))
      else
        (decide (((keepFrom buckets k.window).get? k).getD 0 + 1 ≤ limit),
          (keepFrom buckets k.window).put k (((keepFrom buckets k.window).get? k).getD 0 + 1)) := by
  have hkey : (k.1, k.2.1, k.window) = k := rfl
  have hfull (m : OrderedMap BucketKey Nat) :
      ((m.get? k).isNone && decide (L.maxBuckets ≤ m.size)) = true ↔ m.get? k = none ∧ L.maxBuckets ≤ m.size := by
    simp
  unfold allow
  simp only [henabled, Bool.not_true, Bool.false_eq_true, if_false, hwindow, hkey]
  exact if_congr (hfull (keepFrom buckets k.window)) rfl rfl

theorem call_of_allow {b : Bool} {m : OrderedMap BucketKey Nat} (hreading : c.reading = some now)
    (h : L.allow c.dimension c.identity (L.limit c.dimension) now s.buckets = (b, m)) :
    L.admitted? s c = (if b then L.key? c else none) ∧ (L.limiterStep s c).buckets = m := by
  unfold admitted? limiterStep check
  constructor <;> simp only [hreading, h]

/-- What a call can do: without room it is refused and counted as such, and otherwise it is counted under its key and
admitted while the limit is not used up. -/
theorem call_cases (henabled : L.enabled = true) (hkey : L.key? c = some k) :
    ((keepFrom s.buckets k.window).get? k = none ∧ L.maxBuckets ≤ (keepFrom s.buckets k.window).size ∧
      L.admitted? s c = none ∧ (L.limiterStep s c).buckets =
        (keepFrom s.buckets k.window).put (overflowKey k.1 k.window)
          (((keepFrom s.buckets k.window).get? (overflowKey k.1 k.window)).getD 0 + 1)) ∨
    (((keepFrom s.buckets k.window).get? k = none → (keepFrom s.buckets k.window).size < L.maxBuckets) ∧
      L.admitted? s c = (if ((keepFrom s.buckets k.window).get? k).getD 0 + 1 ≤ L.limit k.1 then some k else none) ∧
      (L.limiterStep s c).buckets =
        (keepFrom s.buckets k.window).put k (((keepFrom s.buckets k.window).get? k).getD 0 + 1)) := by
  obtain ⟨now, hreading, rfl⟩ := Option.map_eq_some_iff.1 hkey
  have hwindow : windowOf L.windowSeconds now = (L.key c now).window := rfl
  have hallow := allow_eq henabled (L.key c now) (L.limit c.dimension) hwindow s.buckets
  by_cases hfull : (keepFrom s.buckets (L.key c now).window).get? (L.key c now) = none ∧
      L.maxBuckets ≤ (keepFrom s.buckets (L.key c now).window).size
  · rw [if_pos hfull] at hallow
    obtain ⟨hadmitted, hbuckets⟩ := call_of_allow hreading hallow
    exact .inl ⟨hfull.1, hfull.2, hadmitted, hbuckets⟩
  · rw [if_neg hfull] at hallow
    obtain ⟨hadmitted, hbuckets⟩ := call_of_allow hreading hallow
    refine .inr ⟨fun hnone => ?_, ?_, hbuckets⟩
    · have hroom : ¬ L.maxBuckets ≤ (keepFrom s.buckets (L.key c now).window).size := fun h => hfull ⟨hnone, h⟩
      omega
    · rw [hadmitted, hkey]
      simp only [decide_eq_true_eq]
      rfl

theorem get?_keepFrom (buckets : OrderedMap BucketKey Nat) (bucket : Int) (k : BucketKey) :
    (keepFrom buckets bucket).get? k = if bucket - 1 ≤ k.window then buckets.get? k else none := by
  unfold keepFrom
  rw [OrderedMap.get?_keep]
  simp only [decide_eq_true_eq]

theorem get?_keepFrom_self (buckets : OrderedMap BucketKey Nat) (k : BucketKey) :
    (keepFrom buckets k.window).get? k = buckets.get? k := by
  rw [get?_keepFrom, if_pos (by omega)]

end step

theorem Lagged.tail {c : LimitCall} {calls : List LimitCall} (h : L.Lagged (c :: calls)) : L.Lagged calls :=
  (List.pairwise_cons.1 h).2

theorem Lagged.head {c d : LimitCall} {calls : List LimitCall} (h : L.Lagged (c :: calls)) (hd : d ∈ calls)
    {k k' : BucketKey} (hk : L.key? c = some k) (hk' : L.key? d = some k') : k.window ≤ k'.window + 1 :=
  (List.pairwise_cons.1 h).1 d hd k hk k' hk'

/-! ### the limit of a key -/

variable (L) in
/-- What is counted of a key that has been admitted a number of times: at least that number while the key is there, and
once it is not, there is no call of its window to come. -/
structure Spent (k : BucketKey) (admitted : Nat) (calls : List LimitCall) (buckets : OrderedMap BucketKey Nat) :
    Prop where
  counted : ∀ v, buckets.get? k = some v → admitted ≤ v
  gone : buckets.get? k = none → admitted = 0 ∨ ∀ c ∈ calls, ∀ k', L.key? c = some k' → k'.window ≠ k.window

theorem Spent.keepFrom {k k' : BucketKey} {a : Nat} {c : LimitCall} {calls : List LimitCall}
    {buckets : OrderedMap BucketKey Nat} (h : L.Spent k a (c :: calls) buckets) (hlag : L.Lagged (c :: calls))
    (hkey : L.key? c = some k') :
    (∀ v, (keepFrom buckets k'.window).get? k = some v → a ≤ v) ∧
      ((RateLimits.keepFrom buckets k'.window).get? k = none → a = 0 ∨
        k'.window ≠ k.window ∧ ∀ d ∈ calls, ∀ k'', L.key? d = some k'' → k''.window ≠ k.window) := by
  rw [get?_keepFrom]
  by_cases hold : k'.window - 1 ≤ k.window
  · rw [if_pos hold]
    refine ⟨h.counted, fun hnone => (h.gone hnone).imp id fun hgone => ?_⟩
    exact ⟨hgone c List.mem_cons_self k' hkey, fun d hd => hgone d (List.mem_cons_of_mem _ hd)⟩
  · rw [if_neg hold]
    refine ⟨fun v hv => absurd hv (by simp), fun _ => .inr ⟨by omega, fun d hd k'' hk'' heq => ?_⟩⟩
    have hle := hlag.head hd hkey hk''
    omega

theorem count_admitted_le (henabled : L.enabled = true) (k : BucketKey) (calls : List LimitCall) :
    ∀ (s : RateLimiter) (a : Nat), L.Lagged calls → a ≤ L.limit k.1 → L.Spent k a calls s.buckets →
      a + (observed L.limiterStep L.admitted? s calls).count k ≤ L.limit k.1 := by
  -- on the calls, with the number of times the key has been admitted before them
  induction calls with
  | nil => exact fun s a _ ha _ => ha
  | cons c calls ih =>
    intro s a hlag ha hspent
    unfold observed
    cases hreading : c.reading with
    | none =>
      rw [admitted?_of_none hreading]
      refine ih _ a hlag.tail ha ?_
      rw [limiterStep_of_none hreading]
      exact ⟨hspent.counted, fun hnone => (hspent.gone hnone).imp id fun h d hd => h d (List.mem_cons_of_mem _ hd)⟩
    | some now =>
      have hkey := key?_of_reading (L := L) hreading
      obtain ⟨hcounted, hgone⟩ := hspent.keepFrom hlag hkey
      generalize L.key c now = k' at hkey hcounted hgone
      -- a put under another key leaves the key as it is
      have other (j : BucketKey) (v : Nat) (hj : k ≠ j) :
          L.Spent k a calls ((RateLimits.keepFrom s.buckets k'.window).put j v) := by
        constructor
        · intro w hw
          rw [OrderedMap.get?_put_of_ne hj] at hw
          exact hcounted w hw
        · intro hnone
          rw [OrderedMap.get?_put_of_ne hj] at hnone
          exact (hgone hnone).imp id And.right
      -- a put under the key itself counts one more
      have self (hwindow : k'.window = k.window) (b : Nat) (hb : b ≤ a + 1) : ∀ v, (∀ w, (RateLimits.keepFrom s.buckets k'.window).get? k = some w → w ≤ v) →
          L.Spent k b calls ((RateLimits.keepFrom s.buckets k'.window).put k (v + 1)) := by
        intro v hv
        constructor
        · intro w hw
          rw [OrderedMap.get?_put_self] at hw
          have hw := Option.some.inj hw
          cases hget : (RateLimits.keepFrom s.buckets k'.window).get? k with
          | none =>
            rcases hgone hget with h | ⟨h, -⟩
            · omega
            · exact absurd hwindow h
          | some u =>
            have h₁ := hcounted u hget
            have h₂ := hv u hget
            omega
        · intro hnone
          rw [OrderedMap.get?_put_self] at hnone
          cases hnone
      rcases call_cases (s := s) henabled hkey with ⟨-, -, hrefused, hbuckets⟩ | ⟨-, hadmitted, hbuckets⟩
      · rw [hrefused]
        refine ih _ a hlag.tail ha ?_
        rw [hbuckets]
        by_cases hover : k = overflowKey k'.1 k'.window
        · have hwindow : k'.window = k.window := by rw [hover]; rfl
          rw [← hover]
          exact self hwindow a (by omega) _ fun w hw => by rw [hw]; exact le_refl _
        · exact other _ _ hover
      · rw [hadmitted]
        by_cases hk : k' = k
        · subst hk
          have hv (w : Nat) (hw : (RateLimits.keepFrom s.buckets k'.window).get? k' = some w) :
              w ≤ ((RateLimits.keepFrom s.buckets k'.window).get? k').getD 0 := by
            rw [hw]
            exact le_refl _
          by_cases hlimit : ((RateLimits.keepFrom s.buckets k'.window).get? k').getD 0 + 1 ≤ L.limit k'.1
          · rw [if_pos hlimit]
            have hle : a ≤ ((RateLimits.keepFrom s.buckets k'.window).get? k').getD 0 := by
              cases hget : (RateLimits.keepFrom s.buckets k'.window).get? k' with
              | none =>
                rcases hgone hget with h | ⟨h, -⟩
                · omega
                · exact absurd rfl h
              | some v => exact hcounted v hget
            have hrest := ih (L.limiterStep s c) (a + 1) hlag.tail (by omega) (by
              rw [hbuckets]
              exact self rfl (a + 1) (le_refl _) _ hv)
            simp only [Option.toList_some, List.singleton_append, List.count_cons_self]
            omega
          · rw [if_neg hlimit]
            refine ih _ a hlag.tail ha ?_
            rw [hbuckets]
            exact self rfl a (by omega) _ hv
        · have hskip : ((if ((RateLimits.keepFrom s.buckets k'.window).get? k').getD 0 + 1 ≤ L.limit k'.1 then some k'
              else none : Option BucketKey).toList ++ observed L.limiterStep L.admitted? (L.limiterStep s c) calls).count k =
              (observed L.limiterStep L.admitted? (L.limiterStep s c) calls).count k := by
            split
            · rw [Option.toList_some, List.singleton_append, List.count_cons_of_ne hk]
            · rfl
          rw [hskip]
          refine ih _ a hlag.tail ha ?_
          rw [hbuckets]
          exact other _ _ (Ne.symm hk)

/-! ### what is refused while there is room -/

variable (L) in
/-- The calls of the key. -/
def callsOf (k : BucketKey) (calls : List LimitCall) : Nat := calls.countP fun c => L.key? c = some k

variable (L) in
/-- What is counted of a key is the number of its calls, or there is no call of its window to come. -/
def Counted (k : BucketKey) (n : Nat) (calls : List LimitCall) (buckets : OrderedMap BucketKey Nat) : Prop :=
  (buckets.get? k).getD 0 = n ∨ ∀ c ∈ calls, ∀ k', L.key? c = some k' → k'.window ≠ k.window

theorem callsOf_cons (k : BucketKey) (c : LimitCall) (calls : List LimitCall) :
    L.callsOf k (c :: calls) = L.callsOf k calls + if L.key? c = some k then 1 else 0 := by
  unfold callsOf
  rw [List.countP_cons]
  simp only [decide_eq_true_eq]

theorem counted_run (henabled : L.enabled = true) (k : BucketKey) (rest calls : List LimitCall) :
    ∀ (s : RateLimiter) (n : Nat), L.Lagged (calls ++ rest) → StepsMeet L.limiterStep L.HasRoom s calls →
      L.Counted k n (calls ++ rest) s.buckets →
      L.Counted k (n + L.callsOf k calls) rest (runFrom L.limiterStep s calls).buckets := by
  induction calls with
  | nil => exact fun s n _ _ h => h
  | cons c calls ih =>
    intro s n hlag hroom hcounted
    rw [runFrom_cons, callsOf_cons]
    have later (h : ∀ d ∈ c :: calls ++ rest, ∀ k', L.key? d = some k' → k'.window ≠ k.window) :
        ∀ d ∈ calls ++ rest, ∀ k', L.key? d = some k' → k'.window ≠ k.window :=
      fun d hd => h d (List.mem_cons_of_mem _ hd)
    cases hreading : c.reading with
    | none =>
      have hnone : L.key? c = none := by
        unfold key?
        rw [hreading]
        rfl
      rw [hnone, if_neg (by simp)]
      refine ih _ n hlag.tail hroom.2 ?_
      unfold Counted
      rw [limiterStep_of_none hreading]
      exact hcounted.imp id later
    | some now =>
      have hkey := key?_of_reading (L := L) hreading
      generalize L.key c now = k' at hkey
      rcases call_cases (s := s) henabled hkey with ⟨hnone, hfull, -, -⟩ | ⟨-, -, hbuckets⟩
      · have hlt := hroom.1 k' hkey hnone
        omega
      rw [hkey]
      by_cases hold : k'.window - 1 ≤ k.window
      · have hget : (keepFrom s.buckets k'.window).get? k = s.buckets.get? k := by
          rw [get?_keepFrom, if_pos hold]
        by_cases hk : k' = k
        · subst hk
          rw [if_pos rfl, Nat.add_comm (L.callsOf k' calls), ← Nat.add_assoc]
          refine ih _ (n + 1) hlag.tail hroom.2 ?_
          rcases hcounted with hcounted | hgone
          · left
            rw [hbuckets, OrderedMap.get?_put_self, hget, hcounted]
            rfl
          · exact absurd rfl (hgone c List.mem_cons_self k' hkey)
        · rw [if_neg (by simpa using hk)]
          refine ih _ n hlag.tail hroom.2 ?_
          unfold Counted
          rw [hbuckets, OrderedMap.get?_put_of_ne (Ne.symm hk), hget]
          exact hcounted.imp id later
      · -- the window of the key is over, and so it is for every later call
        have hk : ¬ k' = k := by
          intro h
          subst h
          omega
        rw [if_neg (by simpa using hk)]
        refine ih _ n hlag.tail hroom.2 (.inr fun d hd k'' hk'' heq => ?_)
        have hle := hlag.head hd hkey hk''
        omega

/-- While there is room, a call is admitted if and only if fewer calls of its key came before it than its limit. -/
theorem admitted_iff (henabled : L.enabled = true) {before after : List LimitCall} {c : LimitCall} {k : BucketKey}
    (hlag : L.Lagged (before ++ c :: after)) (hroom : StepsMeet L.limiterStep L.HasRoom {} (before ++ c :: after))
    (hkey : L.key? c = some k) :
    L.admitted? (runFrom L.limiterStep {} before) c = some k ↔ L.callsOf k before < L.limit k.1 := by
  obtain ⟨hbefore, hc, -⟩ := stepsMeet_append.1 hroom
  have hcounted := counted_run henabled k (c :: after) before {} 0 hlag hbefore (.inl rfl)
  rw [Nat.zero_add] at hcounted
  rcases hcounted with hcounted | hgone
  · rcases call_cases (s := runFrom L.limiterStep {} before) henabled hkey with ⟨hnone, hfull, -, -⟩ | ⟨-, hadmitted, -⟩
    · have hlt := hc k hkey hnone
      omega
    · rw [hadmitted, get?_keepFrom_self, hcounted]
      by_cases hlimit : L.callsOf k before + 1 ≤ L.limit k.1
      · rw [if_pos hlimit]
        exact ⟨fun _ => hlimit, fun _ => rfl⟩
      · rw [if_neg hlimit]
        constructor
        · intro h
          cases h
        · intro h
          omega
  · exact absurd rfl (hgone c List.mem_cons_self k hkey)

/-! ### what is held -/

/-- A key that does not stand for calls without room. -/
def isOwn (k : BucketKey) : Bool := k.2.1 ≠ overflowIdentity

variable (L) in
/-- The keys that are held: their own are no more than the capacity, and none is more than one window ahead of a call to
come. -/
structure Held (calls : List LimitCall) (buckets : OrderedMap BucketKey Nat) : Prop where
  own : buckets.count isOwn ≤ L.maxBuckets
  ahead : ∀ k, buckets.get? k ≠ none → ∀ c ∈ calls, ∀ k', L.key? c = some k' → k.window ≤ k'.window + 1
  size : buckets.size ≤ L.maxBuckets + 6

/-- The keys that stand for the calls without room of three windows. -/
def overflowKeys (bucket : Int) : List BucketKey :=
  [overflowKey .ip (bucket - 1), overflowKey .ip bucket, overflowKey .ip (bucket + 1), overflowKey .token (bucket - 1),
    overflowKey .token bucket, overflowKey .token (bucket + 1)]

theorem mem_overflowKeys {k : BucketKey} {bucket : Int} (hover : isOwn k = false) (hlow : bucket - 1 ≤ k.window)
    (hhigh : k.window ≤ bucket + 1) : k ∈ overflowKeys bucket := by
  obtain ⟨dimension, identity, window⟩ := k
  have hidentity : identity = overflowIdentity := by simpa [isOwn] using hover
  have hwindow : window = bucket - 1 ∨ window = bucket ∨ window = bucket + 1 := by
    change bucket - 1 ≤ window at hlow
    change window ≤ bucket + 1 at hhigh
    omega
  subst hidentity
  cases dimension <;> rcases hwindow with rfl | rfl | rfl <;> simp [overflowKeys, overflowKey]

theorem size_eq (m : OrderedMap BucketKey Nat) : m.size = m.count isOwn + m.count fun k => !isOwn k := by
  unfold OrderedMap.size OrderedMap.count
  rw [List.length_eq_countP_add_countP fun e : BucketKey × Nat => isOwn e.1]
  simp

/-- A map whose keys are all near a window holds no more than its own keys and six. -/
theorem size_le {m : OrderedMap BucketKey Nat} (bucket : Int) (hown : m.count isOwn ≤ L.maxBuckets)
    (hnear : ∀ k, m.get? k ≠ none → bucket - 1 ≤ k.window ∧ k.window ≤ bucket + 1) : m.size ≤ L.maxBuckets + 6 := by
  have hover : (m.count fun k => !isOwn k) ≤ (overflowKeys bucket).length := by
    refine OrderedMap.count_le_length fun k hk hmem => ?_
    obtain ⟨hlow, hhigh⟩ := hnear k hmem
    exact mem_overflowKeys (by simpa using hk) hlow hhigh
  have hlength : (overflowKeys bucket).length = 6 := rfl
  have hsize := size_eq m
  omega

theorem Held.step (henabled : L.enabled = true) {s : RateLimiter} {c : LimitCall} {calls : List LimitCall}
    (hlag : L.Lagged (c :: calls)) (h : L.Held (c :: calls) s.buckets) :
    L.Held calls (L.limiterStep s c).buckets := by
  have hahead (k : BucketKey) (hk : s.buckets.get? k ≠ none) : ∀ d ∈ calls, ∀ k', L.key? d = some k' →
      k.window ≤ k'.window + 1 := fun d hd => h.ahead k hk d (List.mem_cons_of_mem _ hd)
  cases hreading : c.reading with
  | none =>
    rw [limiterStep_of_none hreading]
    exact ⟨h.own, hahead, h.size⟩
  | some now =>
    have hkey := key?_of_reading (L := L) hreading
    generalize L.key c now = k' at hkey
    -- whichever key of the window is put, it is near the window, as the keys that are kept are
    have put (j : BucketKey) (v : Nat) (hj : j.window = k'.window)
        (hown : ((keepFrom s.buckets k'.window).put j v).count isOwn ≤ L.maxBuckets) :
        L.Held calls ((keepFrom s.buckets k'.window).put j v) := by
      have kept (k : BucketKey) (hk : ((keepFrom s.buckets k'.window).put j v).get? k ≠ none) :
          k.window = k'.window ∨ k'.window - 1 ≤ k.window ∧ s.buckets.get? k ≠ none := by
        by_cases hkj : k = j
        · exact .inl (hkj ▸ hj)
        · rw [OrderedMap.get?_put_of_ne hkj, get?_keepFrom] at hk
          by_cases hold : k'.window - 1 ≤ k.window
          · rw [if_pos hold] at hk
            exact .inr ⟨hold, hk⟩
          · rw [if_neg hold] at hk
            exact absurd rfl hk
      refine ⟨hown, fun k hk d hd k'' hk'' => ?_, size_le k'.window hown fun k hk => ?_⟩
      · rcases kept k hk with hk | ⟨-, hk⟩
        · have hle := hlag.head hd hkey hk''
          omega
        · exact hahead k hk d hd k'' hk''
      · rcases kept k hk with hk | ⟨hold, hk⟩
        · omega
        · exact ⟨hold, h.ahead k hk c List.mem_cons_self k' hkey⟩
    have hkeep : (keepFrom s.buckets k'.window).count isOwn ≤ L.maxBuckets :=
      (OrderedMap.count_keep_le _ _).trans h.own
    rcases call_cases (s := s) henabled hkey with ⟨-, -, -, hbuckets⟩ | ⟨hroom, -, hbuckets⟩
    · rw [hbuckets]
      refine put _ _ rfl ?_
      have hover : isOwn (overflowKey k'.1 k'.window) = false := by simp [isOwn, overflowKey]
      rw [OrderedMap.count_put, if_neg (by simp [hover])]
      exact hkeep
    · rw [hbuckets]
      refine put _ _ rfl ?_
      rw [OrderedMap.count_put]
      by_cases hnew : (keepFrom s.buckets k'.window).get? k' = none ∧ isOwn k' = true
      · rw [if_pos hnew]
        have hlt := hroom hnew.1
        have hle := OrderedMap.count_le_size (p := isOwn) (keepFrom s.buckets k'.window)
        omega
      · rw [if_neg hnew]
        exact hkeep

theorem held_run (henabled : L.enabled = true) (calls : List LimitCall) : ∀ (s : RateLimiter), L.Lagged calls →
    L.Held calls s.buckets → L.Held [] (runFrom L.limiterStep s calls).buckets := by
  induction calls with
  | nil => exact fun s _ h => h
  | cons c calls ih => exact fun s hlag h => ih _ hlag.tail (h.step henabled hlag)

theorem held_empty (calls : List LimitCall) : L.Held calls .empty :=
  ⟨Nat.zero_le _, fun _ hk => absurd rfl hk, Nat.zero_le _⟩

end RateLimits

/-- The law of the rate limiter, over the calls of any parties in any order. -/
theorem rateLimits_law (L : RateLimits) (henabled : L.enabled = true) (calls : List LimitCall)
    (hlag : L.Lagged calls) :
    (∀ k : BucketKey, (observed L.limiterStep L.admitted? {} calls).count k ≤ L.limit k.1) ∧
      (StepsMeet L.limiterStep L.HasRoom {} calls → ∀ before c after k, calls = before ++ c :: after →
        L.key? c = some k → (L.admitted? (runFrom L.limiterStep {} before) c = some k ↔
          L.callsOf k before < L.limit k.1)) ∧
      (runFrom L.limiterStep {} calls).buckets.size ≤ L.maxBuckets + 6 := by
  refine ⟨fun k => ?_, fun hroom before c after k hcalls hkey => ?_, ?_⟩
  · have hspent : L.Spent k 0 calls OrderedMap.empty := ⟨fun v _ => Nat.zero_le v, fun _ => .inl rfl⟩
    have h := RateLimits.count_admitted_le henabled k calls {} 0 hlag (Nat.zero_le _) hspent
    omega
  · subst hcalls
    exact RateLimits.admitted_iff henabled hlag hroom hkey
  · exact (RateLimits.held_run henabled calls {} hlag (RateLimits.held_empty calls)).size

/-- A limiter that admits an address once in a window. -/
def onceLimits : RateLimits := { ipLimit := 1, positive := by decide }

def zeroCall : LimitCall := ⟨.ip, [], some 0⟩

theorem rateLimits_law_once : onceLimits.enabled = true ∧ onceLimits.Lagged [zeroCall, zeroCall] ∧
    StepsMeet onceLimits.limiterStep onceLimits.HasRoom {} [zeroCall, zeroCall] ∧
    (∀ k : BucketKey, (observed onceLimits.limiterStep onceLimits.admitted? {} [zeroCall, zeroCall]).count k ≤
      onceLimits.limit k.1) ∧
    onceLimits.admitted? {} zeroCall = onceLimits.key? zeroCall ∧
    (runFrom onceLimits.limiterStep {} [zeroCall, zeroCall]).buckets.size ≤ onceLimits.maxBuckets + 6 := by
  have hlag : onceLimits.Lagged [zeroCall, zeroCall] := by
    refine List.pairwise_pair.2 fun k hk k' hk' => ?_
    obtain rfl := Option.some.inj (Option.mem_def.1 hk)
    obtain rfl := Option.some.inj (Option.mem_def.1 hk')
    omega
  have hroom (s : RateLimiter) (hs : s.buckets.size < 4096) : onceLimits.HasRoom s zeroCall := fun k _ _ =>
    (OrderedMap.size_keep_le _ _).trans_lt hs
  have hsecond : (onceLimits.limiterStep {} zeroCall).buckets.size < 4096 := by decide +kernel
  have hrooms : StepsMeet onceLimits.limiterStep onceLimits.HasRoom {} [zeroCall, zeroCall] :=
    ⟨hroom {} (by decide), hroom _ hsecond, trivial⟩
  have h := rateLimits_law onceLimits rfl [zeroCall, zeroCall] hlag
  have hadmitted := (h.2.1 hrooms [] zeroCall [zeroCall] _ rfl rfl).2 (Nat.zero_lt_one)
  exact ⟨rfl, hlag, hrooms, h.1, hadmitted, h.2.2⟩

end KnowledgeBase
