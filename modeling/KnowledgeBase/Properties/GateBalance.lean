import KnowledgeBase.Inference.Facade

/-!
# Balance of the inference gate

Over every interleaving of facade invocations the counters of the gate are the numbers of the invocations that hold a
lease. A retry of `_invoke` sleeps without its lease; a retry of `_legacy_call` keeps it.
-/

namespace KnowledgeBase

open Counters (Moves Count)

namespace Invocation

/-! ### what an invocation keeps -/

/-- What the counts of an invocation say at every await. -/
structure Ledger (inv : Invocation) : Prop where
  releases : inv.acquired = inv.released + if inv.lease.isSome then 1 else 0
  calls : inv.acquired = 0 → inv.calls = 0
  refused (n : Nat) : inv.refusedAt = some n → inv.calls = n

/-- What an invocation holds at each await. -/
def AtAwait (inv : Invocation) : Prop :=
  match inv.pc with
  | .starting => inv.lease = none ∧ inv.acquired = 0 ∧ inv.refusedAt = none
  | .recordingRefusal _ => inv.lease = none
  | .calling _ => inv.lease.isSome ∧ inv.refusedAt = none
  | .recordingSuccess _ => inv.lease.isSome ∧ inv.refusedAt = none
  | .recordingFailure _ => True
  | .sleeping _ => (inv.kind = .legacy ↔ inv.lease.isSome) ∧ inv.refusedAt = none
  | .ended _ => inv.lease = none

/-- What a step makes of an invocation and of the counters. -/
structure StepOk (F : FacadeConfig) (inv : Invocation) (c : Counters String) (r : Invocation × Counters String) :
    Prop where
  moves : Moves c inv.lease r.1.lease r.2
  within : F.limits.Within c → F.limits.Within r.2
  ledger : r.1.Ledger
  atAwait : r.1.AtAwait
  kind : r.1.kind = inv.kind

variable {F : FacadeConfig} {inv : Invocation} {c c' : Counters String} {answer outcome : Answer} {raised : Raised}
  {attempt : Nat} {k : String}

/-- A lease that is held is counted. -/
def Counted (inv : Invocation) (c : Counters String) : Prop := ∀ k, inv.lease = some k → 1 ≤ c.total ∧ 1 ≤ c.of k

/-! ### the parts of a step -/

theorem stepOk_await {next : Await} (hl : inv.Ledger) (hn : AtAwait { inv with pc := next }) :
    StepOk F inv c ({ inv with pc := next }, c) :=
  ⟨.refl _ _, id, ⟨hl.releases, hl.calls, hl.refused⟩, hn, rfl⟩

theorem ledger_gaveBack {next : Await} (hl : inv.Ledger) (hk : inv.lease = some k) : (inv.gaveBack next).Ledger := by
  have hr := hl.releases
  rw [hk] at hr
  exact ⟨hr, hl.calls, hl.refused⟩

theorem stepOk_gaveBack {next : Await} (hl : inv.Ledger) (hk : inv.lease = some k)
    (hc : GateLimits.release c k = some c') (hn : AtAwait (inv.gaveBack next)) :
    StepOk F inv c (inv.gaveBack next, c') :=
  ⟨hk ▸ GateLimits.moves_release hc, fun h => GateLimits.within_release h hc, ledger_gaveBack hl hk,
    hn, rfl⟩

theorem stepOk_finish (hl : inv.Ledger) (hc : inv.Counted c) : StepOk F inv c (inv.finish outcome c) := by
  unfold finish
  cases hk : inv.lease with
  | none => exact stepOk_await hl hk
  | some k =>
    obtain ⟨ht, hof⟩ := hc k hk
    have hrelease := GateLimits.release_of_pos ht hof
    simp only [hrelease]
    exact stepOk_gaveBack hl hk hrelease rfl

theorem stepOk_acquire {whenFull : Await} (hl : inv.Ledger) (hlease : inv.lease = none) (hrefused : inv.refusedAt = none)
    (hw : AtAwait (inv.refused whenFull)) : StepOk F inv c (inv.acquire F attempt whenFull c) := by
  unfold acquire
  cases ha : F.limits.tryAcquire c inv.gateKey with
  | some c' =>
    have hr := hl.releases
    rw [hlease] at hr
    have hr : inv.acquired = inv.released := hr
    refine ⟨hlease ▸ GateLimits.moves_tryAcquire ha, fun h => GateLimits.within_tryAcquire h ha,
      ⟨?_, fun h => ?_, fun n hn => ?_⟩, ⟨rfl, hrefused⟩, rfl⟩
    · show inv.acquired + 1 = inv.released + 1
      rw [hr]
    · exact absurd h (Nat.succ_ne_zero _)
    · rw [show (inv.called attempt).refusedAt = inv.refusedAt from rfl, hrefused] at hn
      cases hn
  | none =>
    refine ⟨.refl _ _, id, ⟨hl.releases, hl.calls, fun n hn => ?_⟩, hw, rfl⟩
    cases hn
    rfl

theorem stepOk_attemptFailed (hl : inv.Ledger) (hc : inv.Counted c) (hlease : inv.lease.isSome)
    (hrefused : inv.refusedAt = none) (hkind : inv.kind ≠ .legacy) :
    StepOk F inv c (inv.attemptFailed F attempt raised c) := by
  unfold attemptFailed
  cases raised with
  | cancelled => exact stepOk_finish hl hc
  | exception => exact stepOk_await hl trivial
  | mkb code =>
    simp only
    split
    · exact stepOk_await hl trivial
    · split
      · obtain ⟨k, hk⟩ := Option.isSome_iff_exists.1 hlease
        obtain ⟨ht, hof⟩ := hc k hk
        have hrelease := GateLimits.release_of_pos ht hof
        simp only [hk, hrelease]
        refine stepOk_gaveBack hl hk hrelease ⟨?_, hrefused⟩
        exact ⟨fun h => absurd h hkind, fun h => nomatch h⟩
      · split
        · exact stepOk_await hl trivial
        · exact stepOk_await hl trivial

theorem stepOk_legacyFailed (hl : inv.Ledger) (hc : inv.Counted c) (hlease : inv.lease.isSome)
    (hrefused : inv.refusedAt = none) (hkind : inv.kind = .legacy) :
    StepOk F inv c (inv.legacyFailed F attempt raised c) := by
  unfold legacyFailed
  split
  · split
    · exact stepOk_finish hl hc
    · split
      · exact stepOk_finish hl hc
      · exact stepOk_await hl ⟨⟨fun _ => hlease, fun _ => hkind⟩, hrefused⟩
  · exact stepOk_finish hl hc

/-! ### one step -/

theorem stepOk_invokeStep {preflight : Option String} (hl : inv.Ledger) (ha : inv.AtAwait) (hc : inv.Counted c)
    (hkind : inv.kind ≠ .legacy) : StepOk F inv c (inv.invokeStep F preflight answer c) := by
  unfold AtAwait at ha
  unfold invokeStep
  cases hpc : inv.pc with
  | starting =>
    rw [hpc] at ha
    obtain ⟨hlease, -, hrefused⟩ := ha
    cases answer with
    | error e => exact stepOk_await hl hlease
    | ok u =>
      cases preflight with
      | some code => exact stepOk_await hl hlease
      | none => exact stepOk_acquire hl hlease hrefused hlease
  | recordingRefusal code =>
    rw [hpc] at ha
    cases answer with
    | error e => exact stepOk_await hl ha
    | ok u => exact stepOk_await hl ha
  | calling n =>
    rw [hpc] at ha
    cases answer with
    | error e => exact stepOk_attemptFailed hl hc ha.1 ha.2 hkind
    | ok u => exact stepOk_await hl ha
  | recordingSuccess n =>
    rw [hpc] at ha
    cases answer with
    | error e => exact stepOk_attemptFailed hl hc ha.1 ha.2 hkind
    | ok u => exact stepOk_finish hl hc
  | recordingFailure e =>
    cases answer with
    | error e => exact stepOk_finish hl hc
    | ok u => exact stepOk_finish hl hc
  | sleeping n =>
    rw [hpc] at ha
    have hlease : inv.lease = none := by
      cases h : inv.lease with
      | none => rfl
      | some k => exact absurd (ha.1.2 (by rw [h]; rfl)) hkind
    cases answer with
    | error e => exact stepOk_finish hl hc
    | ok u => exact stepOk_acquire hl hlease ha.2 trivial
  | ended o =>
    refine ⟨.refl _ _, id, hl, ?_, rfl⟩
    show inv.AtAwait
    unfold AtAwait
    exact ha

theorem stepOk_legacyStep (hl : inv.Ledger) (ha : inv.AtAwait) (hc : inv.Counted c) (hkind : inv.kind = .legacy) :
    StepOk F inv c (inv.legacyStep F answer c) := by
  have same : StepOk F inv c (inv, c) := ⟨.refl _ _, id, hl, ha, rfl⟩
  unfold AtAwait at ha
  unfold legacyStep
  cases hpc : inv.pc with
  | starting =>
    rw [hpc] at ha
    obtain ⟨hlease, -, hrefused⟩ := ha
    cases answer with
    | error e => exact stepOk_await hl hlease
    | ok u => exact stepOk_acquire hl hlease hrefused hlease
  | calling n =>
    rw [hpc] at ha
    cases answer with
    | error e => exact stepOk_legacyFailed hl hc ha.1 ha.2 hkind
    | ok u => exact stepOk_finish hl hc
  | sleeping n =>
    rw [hpc] at ha
    have hlease := ha.1.1 hkind
    cases answer with
    | error e => exact stepOk_finish hl hc
    | ok u =>
      refine ⟨.refl _ _, id, ⟨hl.releases, fun h => ?_, fun n hn => ?_⟩, ⟨hlease, ha.2⟩, rfl⟩
      · have hr := hl.releases
        rw [if_pos hlease] at hr
        have h : inv.acquired = 0 := h
        omega
      · have hn : inv.refusedAt = some n := hn
        rw [ha.2] at hn
        cases hn
  | recordingRefusal code => exact same
  | recordingSuccess n => exact same
  | recordingFailure e => exact same
  | ended o => exact same

theorem stepOk_step (F : FacadeConfig) (answer : Answer) (hl : inv.Ledger) (ha : inv.AtAwait) (hc : inv.Counted c) : StepOk F inv c (inv.step F answer c) := by
  unfold step
  cases hk : inv.kind with
  | invoke preflight => exact stepOk_invokeStep hl ha hc (by rw [hk]; exact nofun)
  | legacy => exact stepOk_legacyStep hl ha hc hk

/-! ### retries of `_legacy_call` -/

/-- The invocation is a `_legacy_call` that sleeps before a retry. -/
def LegacySleep (inv : Invocation) : Prop := inv.kind = .legacy ∧ ∃ n, inv.pc = .sleeping n

/-- The answer sends a `_legacy_call` to sleep. -/
def LegacyRetry (F : FacadeConfig) (inv : Invocation) (answer : Answer) : Prop :=
  inv.kind = .legacy ∧ answer = .error (.mkb "INFERENCE_TRANSPORT_RETRYABLE") ∧
    ∃ n, inv.pc = .calling n ∧ n + 1 ≠ F.maxAttempts

theorem finish_pc (inv : Invocation) (outcome : Answer) (c : Counters String) : ∃ o, (inv.finish outcome c).1.pc = .ended o := by
  unfold finish
  split
  · exact ⟨_, rfl⟩
  · split
    · exact ⟨_, rfl⟩
    · exact ⟨_, rfl⟩

theorem finish_not_sleeping {n : Nat} : (inv.finish outcome c).1.pc ≠ .sleeping n := by
  obtain ⟨o, ho⟩ := finish_pc inv outcome c
  rw [ho]
  exact nofun

theorem legacyStep_sleeping_iff (hkind : inv.kind = .legacy) (hs : ¬ inv.LegacySleep) :
    (∃ n, (inv.legacyStep F answer c).1.pc = .sleeping n) ↔ inv.LegacyRetry F answer := by
  have hpc0 : ∀ n, inv.pc ≠ .sleeping n := fun n hn => hs ⟨hkind, n, hn⟩
  constructor
  · rintro ⟨n, hn⟩
    unfold legacyStep at hn
    split at hn
    · cases hn
    · unfold acquire at hn
      split at hn
      · cases hn
      · cases hn
    · exact absurd hn finish_not_sleeping
    · rename_i attempt e hpc
      unfold legacyFailed at hn
      split at hn
      · rename_i code
        split at hn
        · exact absurd hn finish_not_sleeping
        · rename_i hcode
          split at hn
          · exact absurd hn finish_not_sleeping
          · rename_i hmax
            rw [not_not] at hcode
            exact ⟨hkind, by rw [hcode], attempt, hpc, hmax⟩
      · exact absurd hn finish_not_sleeping
    · rename_i attempt hpc
      exact absurd hpc (hpc0 _)
    · rename_i attempt e hpc
      exact absurd hpc (hpc0 _)
    · exact absurd hn (hpc0 n)
    · exact absurd hn (hpc0 n)
  · rintro ⟨-, rfl, n, hpc, hmax⟩
    refine ⟨n, ?_⟩
    unfold legacyStep legacyFailed
    simp only [hpc, ne_eq, not_true_eq_false, if_false, hmax]

theorem step_legacySleep (hs : ¬ inv.LegacySleep) (hr : ¬ inv.LegacyRetry F answer)
    (hkind : (inv.step F answer c).1.kind = inv.kind) : ¬ (inv.step F answer c).1.LegacySleep := by
  rintro ⟨hk, hsleep⟩
  have hk : inv.kind = .legacy := hkind ▸ hk
  unfold step at hsleep
  rw [hk] at hsleep
  exact hr ((legacyStep_sleeping_iff hk hs).1 hsleep)

theorem step_of_legacyRetry (c : Counters String) (hs : ¬ inv.LegacySleep) (hr : inv.LegacyRetry F answer) :
    ∃ n, (inv.step F answer c).1.pc = .sleeping n := by
  unfold step
  rw [hr.1]
  exact (legacyStep_sleeping_iff hr.1 hs).2 hr

end Invocation

namespace FacadeState

open Invocation (Ledger AtAwait LegacySleep LegacyRetry)

/-! ### runs -/

/-- The invariant of every interleaving. -/
structure Consistent (F : FacadeConfig) (s : FacadeState) : Prop where
  count : Count Invocation.lease s.gate s.invocations
  within : F.limits.Within s.gate
  ledger : ∀ inv ∈ s.invocations, inv.Ledger
  atAwait : ∀ inv ∈ s.invocations, inv.AtAwait

/-- The gate is balanced: what the counters and the invocations of a state satisfy. -/
structure Balanced (F : FacadeConfig) (s : FacadeState) : Prop where
  total : s.gate.total = Counters.holders Invocation.lease s.invocations
  of (k : String) : s.gate.of k = Counters.holdersOf Invocation.lease k s.invocations
  within : F.limits.Within s.gate
  callsHold : ∀ inv ∈ s.invocations, ∀ n, inv.pc = .calling n → inv.lease.isSome
  noCallWhenFull : ∀ inv ∈ s.invocations, ∀ n, inv.refusedAt = some n →
    inv.calls = n ∧ (inv.acquired = 0 → inv.calls = 0)
  sleepsFree : ∀ inv ∈ s.invocations, ∀ n, inv.pc = .sleeping n → inv.lease = none
  releases : ∀ inv ∈ s.invocations, inv.acquired = inv.released + if inv.lease.isSome then 1 else 0
  endsFree : ∀ inv ∈ s.invocations, ∀ o, inv.pc = .ended o → inv.lease = none ∧ inv.acquired = inv.released
  zero : (∀ inv ∈ s.invocations, ∃ o, inv.pc = .ended o) → s.gate.total = 0 ∧ ∀ k, s.gate.of k = 0

/-- The step does not send a `_legacy_call` to sleep. -/
def NoLegacyRetry (F : FacadeConfig) (s : FacadeState) (o : Nat × Answer) : Prop :=
  ∀ inv, s.invocations[o.1]? = some inv → ¬ inv.LegacyRetry F o.2

/-- No `_legacy_call` sleeps. -/
def NoLegacySleep (s : FacadeState) : Prop := ∀ inv ∈ s.invocations, ¬ inv.LegacySleep

variable {F : FacadeConfig} {s : FacadeState} {o : Nat × Answer}

theorem consistent_initial (calls : List (InvocationKind × String)) : (initial calls).Consistent F := by
  have new : ∀ inv ∈ (initial calls).invocations, ∃ kind key, inv = Invocation.new kind key := by
    intro inv hinv
    obtain ⟨call, -, rfl⟩ := List.mem_map.1 hinv
    exact ⟨_, _, rfl⟩
  refine ⟨Counters.count_empty fun inv hinv => ?_, GateLimits.within_empty, fun inv hinv => ?_, fun inv hinv => ?_⟩
  · obtain ⟨kind, key, rfl⟩ := new inv hinv
    rfl
  · obtain ⟨kind, key, rfl⟩ := new inv hinv
    exact ⟨rfl, fun _ => rfl, nofun⟩
  · obtain ⟨kind, key, rfl⟩ := new inv hinv
    exact ⟨rfl, rfl, rfl⟩

theorem counted_of_mem (h : s.Consistent F) {inv : Invocation} (hinv : inv ∈ s.invocations) : inv.Counted s.gate :=
  fun _ hk => h.count.pos hinv hk

theorem consistent_step (h : s.Consistent F) : (step F s o).Consistent F := by
  unfold step
  cases hi : s.invocations[o.1]? with
  | none => exact h
  | some inv =>
    have hmem := List.mem_of_getElem? hi
    have ok := Invocation.stepOk_step F o.2 (h.ledger inv hmem) (h.atAwait inv hmem)
      (counted_of_mem h hmem)
    refine ⟨h.count.set hi ok.moves, ok.within h.within, fun a ha => ?_, fun a ha => ?_⟩
    · rcases List.mem_or_eq_of_mem_set ha with ha | rfl
      · exact h.ledger a ha
      · exact ok.ledger
    · rcases List.mem_or_eq_of_mem_set ha with ha | rfl
      · exact h.atAwait a ha
      · exact ok.atAwait

theorem noLegacySleep_step (h : s.Consistent F) (hs : s.NoLegacySleep) (ho : s.NoLegacyRetry F o) :
    (step F s o).NoLegacySleep := by
  unfold step
  cases hi : s.invocations[o.1]? with
  | none => exact hs
  | some inv =>
    have hmem := List.mem_of_getElem? hi
    have ok := Invocation.stepOk_step F o.2 (h.ledger inv hmem) (h.atAwait inv hmem)
      (counted_of_mem h hmem)
    intro a ha
    rcases List.mem_or_eq_of_mem_set ha with ha | rfl
    · exact hs a ha
    · exact Invocation.step_legacySleep (hs inv hmem) (ho inv hi) ok.kind

theorem lease_of_ended (h : s.Consistent F) {inv : Invocation} (hinv : inv ∈ s.invocations) {o : Answer}
    (ho : inv.pc = .ended o) : inv.lease = none := by
  have ha := h.atAwait inv hinv
  unfold AtAwait at ha
  rw [ho] at ha
  exact ha

theorem balanced_of_consistent (h : s.Consistent F) (hs : s.NoLegacySleep) : s.Balanced F where
  total := h.count.total
  of := h.count.of
  within := h.within
  callsHold inv hinv n hn := by
    have ha := h.atAwait inv hinv
    unfold AtAwait at ha
    rw [hn] at ha
    exact ha.1
  noCallWhenFull inv hinv n hn := ⟨(h.ledger inv hinv).refused n hn, (h.ledger inv hinv).calls⟩
  sleepsFree inv hinv n hn := by
    have ha := h.atAwait inv hinv
    unfold AtAwait at ha
    rw [hn] at ha
    cases hlease : inv.lease with
    | none => rfl
    | some k => exact absurd ⟨ha.1.2 (by rw [hlease]; rfl), n, hn⟩ (hs inv hinv)
  releases inv hinv := (h.ledger inv hinv).releases
  endsFree inv hinv o ho := by
    have hlease := lease_of_ended h hinv ho
    have hr := (h.ledger inv hinv).releases
    rw [hlease] at hr
    exact ⟨hlease, hr⟩
  zero hall := by
    refine h.count.zero fun inv hinv => ?_
    obtain ⟨o, ho⟩ := hall inv hinv
    exact lease_of_ended h hinv ho

theorem noLegacySleep_of_balanced (h : s.Consistent F) (hb : s.Balanced F) : s.NoLegacySleep := by
  rintro inv hinv ⟨hkind, n, hn⟩
  have ha := h.atAwait inv hinv
  unfold AtAwait at ha
  rw [hn] at ha
  have hlease := ha.1.1 hkind
  rw [hb.sleepsFree inv hinv n hn] at hlease
  cases hlease

theorem noLegacyRetry_of_balanced (hs : s.NoLegacySleep) (hnext : (step F s o).NoLegacySleep)
    (hkind : ∀ inv, s.invocations[o.1]? = some inv → (inv.step F o.2 s.gate).1.kind = inv.kind) :
    s.NoLegacyRetry F o := by
  intro inv hi hr
  have hmem := List.mem_of_getElem? hi
  have hsleep := Invocation.step_of_legacyRetry s.gate (hs inv hmem) hr
  have hmem' : (inv.step F o.2 s.gate).1 ∈ (step F s o).invocations := by
    unfold step
    rw [hi]
    exact List.mem_set (List.getElem?_eq_some_iff.1 hi).1 _
  exact hnext _ hmem' ⟨by rw [hkind inv hi]; exact hr.1, hsleep⟩

theorem kind_step (h : s.Consistent F) {inv : Invocation} (hi : s.invocations[o.1]? = some inv) :
    (inv.step F o.2 s.gate).1.kind = inv.kind := by
  have hmem := List.mem_of_getElem? hi
  exact (Invocation.stepOk_step F o.2 (h.ledger inv hmem) (h.atAwait inv hmem) (counted_of_mem h hmem)).kind

theorem stepsMeet_of_balanced (h : s.Consistent F) (l : List (Nat × Answer))
    (hb : ∀ l₁ l₂, l = l₁ ++ l₂ → (runFrom (step F) s l₁).Balanced F) :
    StepsMeet (step F) (NoLegacyRetry F) s l := by
  induction l generalizing s with
  | nil => trivial
  | cons o l ih =>
    -- a legacy sleeper after the step would hold a slot, which balance excludes both before and after it
    have now := noLegacySleep_of_balanced h (hb [] (o :: l) rfl)
    have next := noLegacySleep_of_balanced (consistent_step h : (step F s o).Consistent F) (hb [o] l rfl)
    refine ⟨noLegacyRetry_of_balanced now next fun inv hi => kind_step h hi, ih (consistent_step h) fun l₁ l₂ hl => ?_⟩
    exact hb (o :: l₁) l₂ (by rw [hl]; rfl)

/-- The gate is balanced in every state of a run exactly if no step sends a `_legacy_call` to sleep. -/
theorem gateBalance_iff (F : FacadeConfig) (calls : List (InvocationKind × String)) (l : List (Nat × Answer)) :
    (∀ l₁ l₂, l = l₁ ++ l₂ → (runFrom (step F) (initial calls) l₁).Balanced F) ↔
      StepsMeet (step F) (NoLegacyRetry F) (initial calls) l := by
  constructor
  · exact stepsMeet_of_balanced (consistent_initial calls) l
  · rintro h l₁ l₂ rfl
    have awake : (initial calls).NoLegacySleep := by
      rintro inv hinv ⟨-, n, hn⟩
      obtain ⟨call, -, rfl⟩ := List.mem_map.1 hinv
      cases hn
    have run := runFrom_invariant (I := fun s => s.Consistent F ∧ s.NoLegacySleep)
      (fun s o hs (ho : NoLegacyRetry F s o) => ⟨consistent_step hs.1, noLegacySleep_step hs.1 hs.2 ho⟩)
      ⟨consistent_initial calls, awake⟩ (stepsMeet_append.1 h).1
    exact balanced_of_consistent run.1 run.2

/-! ### a reranker call that is retried -/

/-- The defaults of the facade. -/
def defaultFacade : FacadeConfig where
  limits := ⟨12, fun _ => none, by decide, nofun⟩
  maxAttempts := 3
  maxAttempts_range := by decide

def rerankRetried : List (Nat × Answer) := [(0, .ok ()), (0, .error (.mkb "INFERENCE_TRANSPORT_RETRYABLE"))]

/-- The call that sleeps after its first attempt. -/
def sleepingRerank : Invocation := ⟨.legacy, "rerank", .sleeping 0, some "rerank", 1, 1, 0, none⟩

/-- The retry of a reranker call sleeps with its slot. -/
theorem gateBalance_legacy : ¬ ∀ (F : FacadeConfig) (calls : List (InvocationKind × String)) (l : List (Nat × Answer)),
    (runFrom (step F) (initial calls) l).Balanced F := by
  intro h
  have hb := h defaultFacade [(.legacy, "rerank")] rerankRetried
  have hmem : sleepingRerank ∈
      (runFrom (step defaultFacade) (initial [(.legacy, "rerank")]) rerankRetried).invocations := by
    decide
  exact nomatch hb.sleepsFree _ hmem 0 rfl

end FacadeState

end KnowledgeBase
