import KnowledgeBase.Properties.Admission

/-!
# The volume of audit rows

Between the decision on a denial and the end of the write of its row other requests come, and a write that fails gives
its place back. However these are ordered, while the sampler has room no source has more rows in a window than its limit
and one summary, the awaited writes among them, and a denial leaves no row only where all of these are there.
-/

namespace KnowledgeBase

namespace AdmissionPolicy

variable (A : AdmissionPolicy)

/-- The samples that a reading leaves. -/
def keepSamples (samples : SampleBuckets) (bucket : Int) : SampleBuckets := samples.keep fun k => bucket - 1 ≤ k.window

/-- The rows of a key that are written or awaited: its summaries, or its details. -/
def volume (summary : Bool) (s : Admission) (k : SampleKey) : Nat :=
  (s.rows.countP fun e => e.1 = k && e.2.sampled == summary) +
    s.pending.countP fun p => p.key = k && p.row.sampled == summary

/-- The requests to come are all of later windows. -/
def Over (events : List AdmissionEvent) (k : SampleKey) : Prop :=
  ∀ r, .request r ∈ events → k.window < windowOf A.samples.windowSeconds r.sampleReading

/-- The sampler knows the volume of each key that is not over, which is within its limit. -/
structure Sampled (events : List AdmissionEvent) (s : Admission) : Prop where
  disposition : ∀ p ∈ s.pending, p.disposition = if p.row.sampled then .summary else .detail
  counted : ∀ k, A.Over events k ∨
    (s.samples.get? k).getD (0, false) = (volume false s k, decide (volume true s k = 1))
  bounded : ∀ k, volume false s k ≤ A.samples.limit k.1 ∧ volume true s k ≤ 1

/-- The readings of the sampler do not go back. -/
def SampleOrdered (events : List AdmissionEvent) : Prop :=
  events.Pairwise fun e e' => ∀ r r', e = .request r → e' = .request r' → r.sampleReading ≤ r'.sampleReading

variable {A}

theorem Over.tail {event : AdmissionEvent} {events : List AdmissionEvent} {k : SampleKey}
    (h : A.Over (event :: events) k) : A.Over events k := fun r hr => h r (List.mem_cons_of_mem _ hr)

section denial

variable {s : Admission} {r : AccessRequest}

theorem get?_keepSamples (samples : SampleBuckets) (bucket : Int) (k : SampleKey) :
    (keepSamples samples bucket).get? k = if bucket - 1 ≤ k.window then samples.get? k else none := by
  unfold keepSamples
  rw [OrderedMap.get?_keep]
  simp only [decide_eq_true_eq]

end denial

/-! ### what a step keeps -/

section steps

variable {s : Admission} {event : AdmissionEvent} {events : List AdmissionEvent}

theorem volume_append (summary : Bool) {s s' : Admission} {p : PendingAudit} (hrows : s'.rows = s.rows)
    (hpending : s'.pending = s.pending ++ [p]) (k : SampleKey) : volume summary s' k =
      volume summary s k + if p.key = k && p.row.sampled == summary then 1 else 0 := by
  unfold volume
  rw [hrows, hpending, List.countP_append, List.countP_singleton]
  omega

theorem counted_keepSamples (h : A.Sampled (event :: events) s) (hordered : SampleOrdered (event :: events))
    {r : AccessRequest} (hevent : event = .request r) (k : SampleKey) : A.Over events k ∨
    ((keepSamples s.samples (windowOf A.samples.windowSeconds r.sampleReading)).get? k).getD (0, false) =
      (volume false s k, decide (volume true s k = 1)) := by
  rw [get?_keepSamples]
  by_cases hold : windowOf A.samples.windowSeconds r.sampleReading - 1 ≤ k.window
  · rw [if_pos hold]
    exact (h.counted k).imp Over.tail id
  · refine .inl fun r' hr' => ?_
    have hle := windowOf_mono A.samples.windowSeconds
      ((List.pairwise_cons.1 hordered).1 (.request r') hr' r r' hevent rfl)
    omega

theorem Sampled.await (h : A.Sampled (event :: events) s) (hordered : SampleOrdered (event :: events)) {r : AccessRequest}
    (hevent : event = .request r) {base : Admission} (hrows : base.rows = s.rows) (p : PendingAudit)
    (hwindow : p.key.window = windowOf A.samples.windowSeconds r.sampleReading)
    (hdisposition : p.disposition = if p.row.sampled then .summary else .detail)
    (hbelow : if p.row.sampled then volume true s p.key = 0 else volume false s p.key < A.samples.limit p.key.1)
    {counts : Nat × Bool}
    (hcounts : counts = (volume false s p.key + (if p.row.sampled then 0 else 1),
      decide (volume true s p.key + (if p.row.sampled then 1 else 0) = 1))) :
    A.Sampled events { base with
      samples := (keepSamples s.samples p.key.window).put p.key counts
      pending := s.pending ++ [p] } := by
  have hvolume (summary : Bool) (k : SampleKey) :
      volume summary { base with
        samples := (keepSamples s.samples p.key.window).put p.key counts
        pending := s.pending ++ [p] } k = volume summary s k + if p.key = k && p.row.sampled == summary then 1 else 0 := by
    refine volume_append summary ?_ rfl k
    exact hrows
  refine ⟨fun q hq => ?_, fun k => ?_, fun k => ?_⟩
  · rcases List.mem_append.1 hq with hq | hq
    · exact h.disposition q hq
    · rw [List.mem_singleton.1 hq]
      exact hdisposition
  · rw [hvolume, hvolume]
    by_cases hk : p.key = k
    · subst hk
      right
      rw [OrderedMap.get?_put_self, hcounts]
      cases p.row.sampled <;> simp
    · rw [OrderedMap.get?_put_of_ne (Ne.symm hk), hwindow]
      simpa [hk] using counted_keepSamples h hordered hevent k
  · rw [hvolume, hvolume]
    have hbounded := h.bounded k
    by_cases hk : p.key = k
    · subst hk
      cases hsampled : p.row.sampled with
      | false =>
        simp only [hsampled, Bool.false_eq_true, if_false] at hbelow
        simp only [decide_true, Bool.true_and, beq_self_eq_true, if_true, beq_iff_eq, Bool.false_eq_true, if_false]
        omega
      | true =>
        simp only [hsampled, if_true] at hbelow
        simp only [decide_true, Bool.true_and, beq_self_eq_true, if_true, beq_iff_eq, Bool.true_eq_false, if_false]
        omega
    · simpa [hk] using hbounded

end steps

end AdmissionPolicy

end KnowledgeBase
