import KnowledgeBase.Invariant.Processes

/-!
# Dispatch pool capacity

Each pool has at most its running cap of Processes that a worker holds and at most its queued cap of Processes that
are ready and admitted. Admission stops at the queued cap, a claim takes a Process only from a pool with room, and a
Process that waits for a retry is not admitted: `poolCapacity`.
-/

namespace KnowledgeBase

open Transaction Database EngineInvariant

/-! ### Processes and pools -/

/-- Each pool within its caps. -/
structure WithinCaps (caps : DispatchCaps) (t : Table ProcessRow) : Prop where
  running : ∀ pool, (t.count fun _ p => p.isRunningIn pool) ≤ caps.running pool
  queued : ∀ pool, (t.count fun _ p => p.isQueuedIn pool) ≤ caps.queued pool

/-- A Process that waits for a retry is not admitted. -/
def RetriesUnadmitted (t : Table ProcessRow) : Prop :=
  ∀ p row, t.get? p = some row → row.status = .retryWait → row.dispatchAdmitted = false

theorem isRunningIn_iff {pool : DispatchPool} {p : ProcessRow} : p.isRunningIn pool = true ↔
    p.dispatchPool = some pool ∧ (p.status = .claimed ∨ p.status = .running) := by
  simp only [ProcessRow.isRunningIn, Bool.and_eq_true, Bool.or_eq_true, beq_iff_eq]

theorem isQueuedIn_iff {pool : DispatchPool} {p : ProcessRow} : p.isQueuedIn pool = true ↔
    p.dispatchPool = some pool ∧ p.status = .ready ∧ p.dispatchAdmitted = true := by
  simp only [ProcessRow.isQueuedIn, Bool.and_eq_true, beq_iff_eq, and_assoc]

theorem ProcessWrite.isRunningIn {row row' : ProcessRow} (h : ProcessWrite row row') {pool : DispatchPool}
    (hr : row'.isRunningIn pool = true) : row.isRunningIn pool = true := by
  rw [isRunningIn_iff] at hr ⊢
  cases h with
  | fence => simp at hr
  | cancel => simp at hr
  | fail => simp at hr
  | start now hs => exact ⟨hr.1, .inl hs⟩
  | beat now expires hs => exact ⟨hr.1, .inr hs⟩
  | succeed => simp at hr
  | await => simp at hr
  | promote => simp at hr
  | replay => simp at hr
  | cleanup => exact hr

/-- A rewrite queues no Process that was not queued, unless it was admitted while it waited for a retry. -/
theorem ProcessWrite.isQueuedIn {row row' : ProcessRow} (h : ProcessWrite row row')
    (hwait : row.status = .retryWait → row.dispatchAdmitted = false) {pool : DispatchPool}
    (hq : row'.isQueuedIn pool = true) : row.isQueuedIn pool = true := by
  rw [isQueuedIn_iff] at hq ⊢
  cases h with
  | fence => simp at hq
  | cancel => simp at hq
  | fail => simp at hq
  | start => simp at hq
  | beat now expires hs =>
    have hready := hq.2.1
    rw [hs] at hready
    cases hready
  | succeed => simp at hq
  | await => simp at hq
  | promote now hs =>
    have hadmitted : row.dispatchAdmitted = true := hq.2.2
    rw [hwait hs] at hadmitted
    cases hadmitted
  | replay => simp at hq
  | cleanup => exact hq

theorem ProcessWrite.retryWait {row row' : ProcessRow} (h : ProcessWrite row row')
    (hwait : row.status = .retryWait → row.dispatchAdmitted = false) (hs : row'.status = .retryWait) :
    row'.dispatchAdmitted = false := by
  cases h with
  | fence => cases hs
  | cancel => cases hs
  | fail => cases hs
  | start => cases hs
  | beat now expires hr =>
    rw [show row.status = .retryWait from hs] at hr
    cases hr
  | succeed => cases hs
  | await => rfl
  | promote => cases hs
  | replay => cases hs
  | cleanup => exact hwait hs

theorem ProcessWrite.dispatchPool {row row' : ProcessRow} (h : ProcessWrite row row')
    (hpool : row.dispatchAdmitted = false → row.dispatchPool = none) (hs : row'.dispatchAdmitted = false) :
    row'.dispatchPool = none := by
  cases h with
  | await => rfl
  | replay => rfl
  | _ => exact hpool hs

/-! ### admission -/

/-- The state of an admission that will admit rows of `l` only: within the caps, with the counts it keeps at least
those of the pools. -/
structure Admitting (caps : DispatchCaps) (l : List ProcessRecord) (n : DispatchPool → Nat) (s : Database) : Prop where
  caps : WithinCaps caps s.processes
  retries : RetriesUnadmitted s.processes
  ready : ∀ r ∈ l, ∃ row, s.processes.get? r.1 = some row ∧ row.status = .ready
  counted : ∀ pool, s.poolQueued pool ≤ n pool

/-- The counts after a Process was admitted to the pool. -/
def DispatchPool.charge (pool : Option DispatchPool) (n : DispatchPool → Nat) (q : DispatchPool) : Nat :=
  if pool = some q then n q + 1 else n q

theorem Admitting.mono {caps : DispatchCaps} {l : List ProcessRecord} {n n' : DispatchPool → Nat} {s : Database}
    (h : Admitting caps l n s) (hn : ∀ pool, n pool ≤ n' pool) : Admitting caps l n' s :=
  ⟨h.caps, h.retries, h.ready, fun pool => Nat.le_trans (h.counted pool) (hn pool)⟩

/-- The row of an admitted Process. -/
def ProcessRow.admitted (pool : Option DispatchPool) (now : Time) (p : ProcessRow) : ProcessRow :=
  { p with dispatchAdmitted := true, dispatchPool := pool, dispatchEnqueuedAt := some now }

theorem triple_admitOneTx {caps : DispatchCaps} {l : List ProcessRecord} {n : DispatchPool → Nat} (now : Time)
    {r : ProcessRecord} (hr : r ∈ l) {pool : Option DispatchPool} (hroom : ∀ q, pool = some q → n q < caps.queued q) :
    Triple (Admitting caps l n) (admitOneTx now r.1 pool) fun admitted s =>
      Admitting caps l (if admitted then DispatchPool.charge pool n else n) s := by
  refine Triple.casProcess (fun s h _ => h) fun s row h hrow hc => ?_
  obtain ⟨row', hrow', hready⟩ := h.ready r hr
  obtain rfl : row = row' := Option.some.inj (hrow.symm.trans hrow')
  have hrunning (q : DispatchPool) : ((s.processes.modify r.1 (ProcessRow.admitted pool now)).count fun _ p =>
      p.isRunningIn q) ≤ s.poolRunning q := by
    refine Table.count_modify_le fun p hp hrun => ?_
    obtain rfl := Option.some.inj (hp.symm.trans hrow)
    rw [isRunningIn_iff] at hrun
    simp [ProcessRow.admitted, hready] at hrun
  have hother (q : DispatchPool) (hq : pool ≠ some q) : ((s.processes.modify r.1 (ProcessRow.admitted pool now)).count
      fun _ p => p.isQueuedIn q) ≤ s.poolQueued q := by
    refine Table.count_modify_le fun p hp hqueue => ?_
    rw [isQueuedIn_iff] at hqueue
    exact absurd hqueue.1 hq
  have hqueued (q : DispatchPool) : ((s.processes.modify r.1 (ProcessRow.admitted pool now)).count fun _ p =>
      p.isQueuedIn q) ≤ DispatchPool.charge pool n q := by
    unfold DispatchPool.charge
    have hn := h.counted q
    by_cases hq : pool = some q
    · rw [if_pos hq]
      exact Nat.le_trans (Table.count_modify_le_succ _ _ _ _) (Nat.succ_le_succ hn)
    · rw [if_neg hq]
      exact Nat.le_trans (hother q hq) hn
  refine ⟨⟨fun q => Nat.le_trans (hrunning q) (h.caps.running q), fun q => ?_⟩, fun p q hq hs => ?_, fun p hp => ?_, hqueued⟩
  · by_cases hq : pool = some q
    · have hle := hqueued q
      have hlt := hroom q hq
      rw [DispatchPool.charge, if_pos hq] at hle
      exact Nat.le_trans hle hlt
    · exact Nat.le_trans (hother q hq) (h.caps.queued q)
  · obtain ⟨p', hp', rfl⟩ := get?_updateProcess hq
    by_cases hk : p = r.1
    · rw [if_pos hk] at hs
      rw [hk, hrow] at hp'
      obtain rfl := Option.some.inj hp'
      rw [show row.status = .retryWait from hs] at hready
      cases hready
    · rw [if_neg hk] at hs ⊢
      exact h.retries p p' hp' hs
  · obtain ⟨p', hp', hp'ready⟩ := h.ready p hp
    refine ⟨if p.1 = r.1 then ProcessRow.admitted pool now p' else p', ?_, ?_⟩
    · show (s.processes.modify r.1 (ProcessRow.admitted pool now)).get? p.1 = _
      rw [Table.get?_modify, hp']
      rfl
    · split
      · exact hp'ready
      · exact hp'ready

theorem triple_admitEmbedsTx {d : Deployment} {l : List ProcessRecord} (now : Time) (n : DispatchPool → Nat)
    {rs : List ProcessRecord} (hrs : rs ⊆ l) (queued : Nat) (hn : n .embed = queued) :
    Triple (Admitting d.dispatchCaps l n) (admitEmbedsTx d now rs queued) fun _ s =>
      ∃ n', (∀ pool, pool ≠ .embed → n' pool = n pool) ∧ Admitting d.dispatchCaps l n' s := by
  induction rs generalizing n queued with
  | nil => exact Triple.pure fun s h => ⟨n, fun _ _ => rfl, h⟩
  | cons r rs ih =>
    refine Triple.ite (fun _ => Triple.pure fun s h => ⟨n, fun _ _ => rfl, h⟩) fun hroom => ?_
    have hroomy : ∀ q, some DispatchPool.embed = some q → n q < d.dispatchCaps.queued q := by
      intro q hq
      obtain rfl := Option.some.inj hq
      rw [hn]
      exact Nat.lt_of_not_le hroom
    refine (triple_admitOneTx (n := n) now (hrs List.mem_cons_self) hroomy).bind fun admitted => ?_
    cases admitted with
    | false => exact ih n (fun x hx => hrs (List.mem_cons_of_mem r hx)) queued hn
    | true =>
      refine (ih (DispatchPool.charge (some .embed) n) (fun x hx => hrs (List.mem_cons_of_mem r hx)) (queued + 1)
        ?_).post fun _ s h => ?_
      · simp [DispatchPool.charge, hn]
      · obtain ⟨n', hn', h⟩ := h
        refine ⟨n', fun pool hp => (hn' pool hp).trans ?_, h⟩
        have hne : ¬ (some DispatchPool.embed = some pool) := fun he => hp (Option.some.inj he).symm
        rw [DispatchPool.charge, if_neg hne]

theorem triple_admitGeneratesTx {d : Deployment} {l : List ProcessRecord} (now : Time) (n : DispatchPool → Nat)
    {rs : List ProcessRecord} (hrs : rs ⊆ l) :
    Triple (Admitting d.dispatchCaps l n) (admitGeneratesTx d now rs (n .localInference) (n .nonInteractive))
      fun _ s => ∃ n', Admitting d.dispatchCaps l n' s := by
  induction rs generalizing n with
  | nil => exact Triple.pure fun s h => ⟨n, h⟩
  | cons r rs ih =>
    have hrest : rs ⊆ l := fun x hx => hrs (List.mem_cons_of_mem r hx)
    unfold admitGeneratesTx
    refine Triple.get_frame.bind fun db => ?_
    split
    · exact ih n hrest
    refine Triple.ite (fun _ => ih n hrest) fun _ => ?_
    split
    · refine Triple.ite (fun hroom => ?_) fun _ => ih n hrest
      refine (triple_admitOneTx now (hrs List.mem_cons_self) fun q hq => ?_).bind fun admitted => ?_
      · obtain rfl := Option.some.inj hq
        exact hroom
      · cases admitted with
        | false => exact ih n hrest
        | true => exact ih (DispatchPool.charge (some .localInference) n) hrest
    · refine Triple.ite (fun hroom => ?_) fun _ => ih n hrest
      refine (triple_admitOneTx now (hrs List.mem_cons_self) fun q hq => ?_).bind fun admitted => ?_
      · obtain rfl := Option.some.inj hq
        exact hroom
      · cases admitted with
        | false => exact ih n hrest
        | true => exact ih (DispatchPool.charge (some .nonInteractive) n) hrest
    · exact ih n hrest

/-- The pools before and after an admission or a claim. -/
def PoolsKept (caps : DispatchCaps) (s : Database) : Prop := WithinCaps caps s.processes ∧ RetriesUnadmitted s.processes

/-- The row of a Process whose reservation is released. -/
def ProcessRow.release (p : ProcessRow) : ProcessRow :=
  { p with dispatchAdmitted := false, dispatchPool := none, dispatchEnqueuedAt := none }

theorem poolsKept_releaseGated {caps : DispatchCaps} {s : Database} (h : PoolsKept caps s) :
    PoolsKept caps (releaseGatedReservations s) := by
  have hless (c : ProcessRow → Bool) (hc : ∀ p : ProcessRow, c p.release = false) :
      ((releaseGatedReservations s).processes.count fun _ p => c p) ≤ s.processes.count fun _ p => c p := by
    unfold releaseGatedReservations
    dsimp only
    refine Table.count_update_le fun k p _ _ hp => ?_
    have hno : c p.release = true := hp
    rw [hc p] at hno
    cases hno
  refine ⟨⟨fun pool => Nat.le_trans (hless _ fun p => rfl) (h.1.running pool),
    fun pool => Nat.le_trans (hless _ fun p => rfl) (h.1.queued pool)⟩, fun p row hrow hs => ?_⟩
  obtain ⟨q, hq, rfl⟩ := Table.get?_update_eq_some hrow
  split at hs
  · rename_i hc
    rw [if_pos hc]
  · rename_i hc
    rw [if_neg hc]
    exact h.2 p q hq hs

theorem triple_admitWaitingProcessesTx (d : Deployment) (now : Time) :
    Triple (PoolsKept d.dispatchCaps) (admitWaitingProcessesTx d now) fun _ => PoolsKept d.dispatchCaps := by
  refine Triple.ite_bind (Triple.modify fun s h => poolsKept_releaseGated h) (Triple.get.bind fun db => ?_)
  dsimp only
  generalize hwaiting : db.processes.select (fun _ p => p.status == .ready && !p.dispatchAdmitted &&
    p.availableAt ≤ now && db.dispatchable p) = waiting
  have hsub (key : ProcessRecord → List Nat) (kind : PoolKind) : sortRecords key (waiting.filter fun r =>
      poolKind r.2.processKey d.liveInference == kind) ⊆ waiting := by
    intro r hr
    exact (List.mem_filter.1 ((List.mem_insertionSort _).1 hr)).1
  refine Triple.pre (P := Admitting d.dispatchCaps waiting db.poolQueued) ?_ fun s h => ?_
  · refine (Triple.forEach fun r hr => ?_).bind fun _ => ?_
    · refine (triple_admitOneTx now (List.mem_filter.1 hr).1 fun q hq => by cases hq).bind fun admitted =>
        Triple.pure fun s h => h.mono fun pool => ?_
      cases admitted <;> exact Nat.le_refl _
    · refine (triple_admitEmbedsTx now db.poolQueued (hsub fifoKey .embed) _ rfl).bind fun _ => ?_
      refine Triple.exists fun n => Triple.intro fun hn => ?_
      have hgenerate := triple_admitGeneratesTx (d := d) now n (hsub generateKey .generate)
      rw [hn .localInference (by decide), hn .nonInteractive (by decide)] at hgenerate
      exact hgenerate.post fun _ s h => by
        obtain ⟨n', h⟩ := h
        exact ⟨h.caps, h.retries⟩
  · obtain ⟨rfl, hcaps, hretries⟩ := h
    refine ⟨hcaps, hretries, fun r hr => ?_, fun _ => Nat.le_refl _⟩
    rw [← hwaiting] at hr
    obtain ⟨hrow, hc⟩ := Table.mem_select.1 hr
    simp only [Bool.and_eq_true, beq_iff_eq] at hc
    exact ⟨r.2, hrow, hc.1.1.1⟩

/-! ### claims -/

theorem mem_of_head?_sort {key : ProcessRecord → List Nat} {l : List ProcessRecord} {c : ProcessRecord}
    (h : (sortRecords key l).head? = some c) : c ∈ l :=
  (List.mem_insertionSort _).1 (List.mem_of_mem_head? h)

theorem claimCandidate_ok {d : Deployment} {now : Time} {s : Database} {c : ProcessRecord}
    (h : s.claimCandidate d now = some c) : s.processes.get? c.1 = some c.2 ∧ c.2.status = .ready ∧
      ∀ pool, c.2.dispatchPool = some pool → s.poolRunning pool < d.dispatchCaps.running pool := by
  have hembed (r : ProcessRecord) (hr : s.embedCandidate d now = some r) : s.processes.get? r.1 = some r.2 ∧
      r.2.status = .ready ∧ ∀ pool, r.2.dispatchPool = some pool → s.poolRunning pool < d.dispatchCaps.running pool := by
    unfold embedCandidate at hr
    split at hr
    · rename_i hroom
      obtain ⟨hrow, hc⟩ := Table.mem_select.1 (mem_of_head?_sort hr)
      simp only [Bool.and_eq_true, beq_iff_eq] at hc
      refine ⟨hrow, hc.1.1.1.1.1, fun pool hpool => ?_⟩
      obtain rfl := Option.some.inj (hc.1.1.2.symm.trans hpool)
      exact hroom
    · cases hr
  have hother (r : ProcessRecord) (hr : s.otherCandidate d now = some r) : s.processes.get? r.1 = some r.2 ∧
      r.2.status = .ready ∧ ∀ pool, r.2.dispatchPool = some pool → s.poolRunning pool < d.dispatchCaps.running pool := by
    obtain ⟨hrow, hc⟩ := Table.mem_select.1 (mem_of_head?_sort hr)
    simp only [Bool.and_eq_true, Bool.or_eq_true, beq_iff_eq, decide_eq_true_eq] at hc
    refine ⟨hrow, hc.1.1.1.1.1, fun pool hpool => ?_⟩
    have hroom := hc.1.1.2
    rw [hpool] at hroom
    cases pool with
    | localInference => simpa [DispatchCaps.running] using hroom
    | nonInteractive => simpa [DispatchCaps.running] using hroom
    | embed => simp at hroom
  unfold Database.claimCandidate at h
  split at h
  · rename_i embed other he ho
    split at h
    · obtain rfl := Option.some.inj h
      exact hembed _ he
    · obtain rfl := Option.some.inj h
      exact hother _ ho
  · rename_i embed he ho
    obtain rfl := Option.some.inj h
    exact hembed _ he
  · exact hother c h

/-- The row of a claimed Process. -/
def ProcessRow.claim (request : ClaimRequest) (now : Time) (p : ProcessRow) : ProcessRow :=
  { p with
    status := .claimed
    claimToken := some request.token
    leaseOwner := some request.leaseOwner
    leaseExpiresAt := some (now + request.leaseSeconds * 1000000)
    fencingGeneration := p.fencingGeneration + 1
    deliveryCount := p.deliveryCount + 1
    rowRevision := p.rowRevision + 1 }

theorem triple_claimCandidateTx {d : Deployment} (now : Time) (request : ClaimRequest) (c : ProcessRecord) :
    Triple (fun s => PoolsKept d.dispatchCaps s ∧ s.claimCandidate d now = some c) (claimCandidateTx now request c)
      fun _ => PoolsKept d.dispatchCaps := by
  have hwrite : Triple (fun s => PoolsKept d.dispatchCaps s ∧ s.claimCandidate d now = some c)
      (casProcess c.1 (fun r => r.status == .ready && r.rowRevision == c.2.rowRevision && r.availableAt ≤ now)
        (ProcessRow.claim request now)) fun _ => PoolsKept d.dispatchCaps := by
    refine Triple.casProcess (fun s h _ => h.1) fun s row h hrow _ => ?_
    obtain ⟨⟨hcaps, hretries⟩, hcandidate⟩ := h
    obtain ⟨hc, -, hroom⟩ := claimCandidate_ok hcandidate
    obtain rfl : row = c.2 := Option.some.inj (hrow.symm.trans hc)
    refine ⟨⟨fun pool => ?_, fun pool => ?_⟩, fun p q hq hs => ?_⟩
    · by_cases hpool : c.2.dispatchPool = some pool
      · exact Nat.le_trans (Table.count_modify_le_succ _ _ _ _) (hroom pool hpool)
      · refine Nat.le_trans (Table.count_modify_le fun p hp hrun => ?_) (hcaps.running pool)
        obtain rfl := Option.some.inj (hp.symm.trans hrow)
        rw [isRunningIn_iff] at hrun
        exact absurd hrun.1 hpool
    · refine Nat.le_trans (Table.count_modify_le fun p _ hqueue => ?_) (hcaps.queued pool)
      rw [isQueuedIn_iff] at hqueue
      cases hqueue.2.1
    · obtain ⟨p', hp', rfl⟩ := get?_updateProcess hq
      by_cases hk : p = c.1
      · rw [if_pos hk] at hs
        cases hs
      · rw [if_neg hk] at hs ⊢
        exact hretries p p' hp' hs
  refine Triple.bind hwrite fun updated => Triple.ite (fun _ => ?_) fun _ => Triple.keep
  refine Triple.bind ((keeps_processWithExecution (f := Database.processes) c.1).triple fun t =>
    WithinCaps d.dispatchCaps t ∧ RetriesUnadmitted t) fun r => Triple.ofExcept_frame.bind fun _ => Triple.keep

/-! ### the invariant -/

/-- The pools are within their caps as long as no operator restarts a Process. -/
def dispatching (d : Deployment) : ProcessInvariant d where
  Holds t := WithinCaps d.dispatchCaps t ∧ RetriesUnadmitted t
  Restart _ _ := False
  insert {t row} h hnew := by
    have hless (c : ProcessRow → Bool) (hc : c row = false) : (t.insert row).count (fun _ p => c p) = t.count fun _ p => c p := by
      rw [Table.count_insert, hc]
      rfl
    refine ⟨⟨fun pool => ?_, fun pool => ?_⟩, fun p q hq hs => ?_⟩
    · rw [hless _ (by simp [ProcessRow.isRunningIn, hnew.unpooled])]
      exact h.1.running pool
    · rw [hless _ (by simp [ProcessRow.isQueuedIn, hnew.unpooled])]
      exact h.1.queued pool
    · rcases Table.get?_insert_eq_some hq with ⟨-, rfl⟩ | hq
      · exact hnew.unadmitted
      · exact h.2 p q hq hs
  update {t c f} h hw := by
    refine ⟨⟨fun pool => ?_, fun pool => ?_⟩, fun p q hq hs => ?_⟩
    · exact Nat.le_trans (Table.count_update_le fun k p hp hc hrun => (hw k p hp hc).isRunningIn hrun) (h.1.running pool)
    · exact Nat.le_trans (Table.count_update_le fun k p hp hc hqueue => (hw k p hp hc).isQueuedIn (h.2 k p hp) hqueue)
        (h.1.queued pool)
    · obtain ⟨p', hp', rfl⟩ := Table.get?_update_eq_some hq
      split at hs
      · rename_i hc
        rw [if_pos hc]
        exact (hw p p' hp' hc).retryWait (h.2 p p' hp') hs
      · rename_i hc
        rw [if_neg hc]
        exact h.2 p p' hp' hs
  admitWaiting now := triple_admitWaitingProcessesTx d now
  claimCandidate now request c := triple_claimCandidateTx now request c
  restart _ _ := fun _ _ _ h _ => h.2.elim

/-- A Process that is not admitted is in no pool. -/
def unpooled (d : Deployment) : ProcessInvariant d where
  Holds t := ∀ p row, t.get? p = some row → row.dispatchAdmitted = false → row.dispatchPool = none
  Restart _ _ := True
  insert h hnew p q hq hs := by
    rcases Table.get?_insert_eq_some hq with ⟨-, rfl⟩ | hq
    · exact hnew.unpooled
    · exact h p q hq hs
  update h hw p q hq hs := by
    obtain ⟨p', hp', rfl⟩ := Table.get?_update_eq_some hq
    split at hs
    · rename_i hc
      rw [if_pos hc]
      exact (hw p p' hp' hc).dispatchPool (h p p' hp') hs
    · rename_i hc
      rw [if_neg hc]
      exact h p p' hp' hs
  admitWaiting now := by
    refine Triple.admitWaitingProcessesTx (fun s h p q hq hs => ?_) fun r pool => Triple.casProcess (fun s h _ => h)
      fun s row h hrow _ p q hq hs => ?_
    · obtain ⟨p', hp', rfl⟩ := Table.get?_update_eq_some hq
      split at hs
      · rename_i hc
        rw [if_pos hc]
      · rename_i hc
        rw [if_neg hc]
        exact h p p' hp' hs
    · obtain ⟨p', hp', rfl⟩ := get?_updateProcess hq
      split at hs
      · cases hs
      · rename_i hk
        rw [if_neg hk]
        exact h p p' hp' hs
  claimCandidate now request c := by
    refine Triple.bind (Triple.casProcess (Q := fun _ s => ∀ p row, s.processes.get? p = some row →
      row.dispatchAdmitted = false → row.dispatchPool = none) (fun s h _ => h.1) fun s row h hrow _ p q hq hs => ?_)
      fun updated => Triple.ite (fun _ => ?_) fun _ => Triple.keep
    · obtain ⟨p', hp', rfl⟩ := get?_updateProcess hq
      split at hs
      · rename_i hk
        rw [if_pos hk]
        exact h.1 p p' hp' hs
      · rename_i hk
        rw [if_neg hk]
        exact h.1 p p' hp' hs
    · exact Triple.bind ((keeps_processWithExecution (f := Database.processes) c.1).triple fun t =>
        ∀ p row, t.get? p = some row → row.dispatchAdmitted = false → row.dispatchPool = none) fun r =>
          Triple.ofExcept_frame.bind fun _ => Triple.keep
  restart p fence := by
    refine Triple.casProcess (fun s h _ => h.1) fun s row h hrow _ k q hq hs => ?_
    obtain ⟨p', hp', rfl⟩ := get?_updateProcess hq
    split at hs
    · rename_i hk
      rw [if_pos hk]
      exact h.1 k p' hp' hs
    · rename_i hk
      rw [if_neg hk]
      exact h.1 k p' hp' hs

/-! ### runs -/

/-- No Process is admitted. -/
def NoneAdmitted (s : Database) : Prop := ∀ p row, s.processes.get? p = some row → row.dispatchAdmitted = false

/-- The operator's restart of a Process. -/
def Operation.IsRestart : Operation → Prop
  | .restartProcess _ _ => True
  | _ => False

theorem ProcessInvariant.admits_of_not_restart {d : Deployment} (I : ProcessInvariant d) (s : Database)
    {operation : Operation} (h : ¬ operation.IsRestart) : I.toEngine.Admits s operation where
  wake _ _ := trivial
  consume _ _ := trivial
  stop _ _ _ _ _ := trivial
  dead _ _ := trivial
  restart p hp := by
    cases operation with
    | restartProcess q command => exact absurd trivial h
    | _ => exact hp.elim

variable (d : Deployment)

theorem shaped_unpooled_run (events : List Event) :
    (runFrom (systemStep d) .empty events).Shaped none ∧ (unpooled d).Holds (runFrom (systemStep d) .empty events).processes := by
  refine sound_run (I := (unpooled d).toEngine) ⟨⟨.empty, by simp⟩, fun p row h => by cases h⟩
    ((stepsMeet_true _ events).mono fun s event _ => ⟨fun _ _ => trivial, fun _ _ => trivial, fun _ _ _ _ _ => trivial,
      fun _ _ => trivial, fun _ _ => trivial⟩)

/-- From a state of a run without an admitted Process on, each pool is within its caps in every state, unless an
operator restarts a Process. -/
theorem poolCapacity (before after : List Event) (hstart : NoneAdmitted (runFrom (systemStep d) .empty before))
    (hafter : ∀ event ∈ after, ¬ event.operation.IsRestart) (pool : DispatchPool) :
    (runFrom (systemStep d) .empty (before ++ after)).poolRunning pool ≤ d.dispatchCaps.running pool ∧
      (runFrom (systemStep d) .empty (before ++ after)).poolQueued pool ≤ d.dispatchCaps.queued pool := by
  obtain ⟨hshaped, hunpooled⟩ := shaped_unpooled_run d before
  rw [runFrom_append]
  generalize runFrom (systemStep d) .empty before = s at hstart hshaped hunpooled
  have hnone (c : ProcessRow → Bool) (hc : ∀ p : ProcessRow, p.dispatchPool = none → c p = false) :
      (s.processes.count fun _ p => c p) = 0 :=
    Table.count_eq_zero_iff.2 fun p row hrow => hc row (hunpooled p row hrow (hstart p row hrow))
  have hinit : (dispatching d).Holds s.processes := by
    refine ⟨⟨fun q => ?_, fun q => ?_⟩, fun p row hrow _ => hstart p row hrow⟩
    · rw [hnone _ fun p hp => by simp [ProcessRow.isRunningIn, hp]]
      exact Nat.zero_le _
    · rw [hnone _ fun p hp => by simp [ProcessRow.isQueuedIn, hp]]
      exact Nat.zero_le _
  have hmeet : StepsMeet (systemStep d) (fun s event => (dispatching d).toEngine.Admits s event.operation) s after := by
    clear hstart hunpooled hnone hinit hshaped
    induction after generalizing s with
    | nil => trivial
    | cons event after ih =>
      exact ⟨(dispatching d).admits_of_not_restart s (hafter event List.mem_cons_self),
        ih (fun e he => hafter e (List.mem_cons_of_mem event he)) _⟩
  have hrun := (sound_run (I := (dispatching d).toEngine) ⟨hshaped, hinit⟩ hmeet).2
  exact ⟨hrun.1.running pool, hrun.1.queued pool⟩

/-! ### a pool of one running and one queued place -/

def embeddingWorkflow : WorkflowDefinition :=
  { indexRebuildWorkflow with
    requiredProcessKeys := ["lsrag.vectorize"]
    steps := [{ stepKey := "start", stepKind := .start, hasPhase := false },
      sampleProcessStep "rebuild" "lsrag.vectorize", sampleTerminalStep "done" .success,
      sampleTerminalStep "failed" .failure] }

theorem validateDefinition_embedding : embeddingWorkflow.validateDefinition = .ok () := by decide +kernel

def embeddingDeployment : Deployment :=
  { sampleDeployment with
    plans := [(7, ⟨embeddingWorkflow, validateDefinition_embedding⟩)]
    dispatchCaps := { embedRunning := 1, embedQueued := 1 } }

/-- Three Tasks, their roots woken, and two claims. -/
def embeddingClaims : List Event :=
  let task : Operation := .createTask { team := 0, requestIntent := .indexRebuild, workflowRevision := 1, compiledDigest := 7 }
  [⟨1, task⟩, ⟨1, task⟩, ⟨1, task⟩, ⟨2, .materializeRoot 0⟩, ⟨2, .materializeRoot 1⟩, ⟨2, .materializeRoot 2⟩,
    ⟨5, .claimNext { leaseOwner := "worker", token := 9 }⟩, ⟨6, .claimNext { leaseOwner := "worker", token := 10 }⟩]

/-- Both places are taken, and the third Process waits. -/
theorem poolCapacity_claim :
    let s := runFrom (systemStep embeddingDeployment) .empty ([] ++ embeddingClaims)
    (s.poolRunning .embed ≤ 1 ∧ s.poolQueued .embed ≤ 1) ∧
      s.processes.rows.map (fun r => (r.2.status, r.2.dispatchAdmitted, r.2.dispatchPool)) =
        [(.claimed, true, some .embed), (.ready, true, some .embed), (.ready, false, none)] :=
  ⟨poolCapacity embeddingDeployment [] embeddingClaims (fun _ _ h => by cases h)
    (by simp [embeddingClaims, Operation.IsRestart]) .embed, by decide +kernel⟩

end KnowledgeBase
