import KnowledgeBase.Properties.Fencing

/-!
# Bounded delivery

A Process is delivered once, once more for each retry and each recovery it is charged, and once more for each restart
an operator applied to it. While it is ready or waits for a retry one delivery is still owed, so the deliveries made
are one fewer: `boundedDelivery`.
-/

namespace KnowledgeBase

open Transaction Database EngineInvariant

/-! ### the deliveries of a row -/

/-- The delivery a Process in the status still waits for. -/
def ProcessStatus.owed : ProcessStatus → Nat
  | .ready | .retryWait => 1
  | _ => 0

/-- The deliveries made and owed are those the first claim, the retries, the recoveries and `n` restarts account for. -/
structure ProcessRow.Bounded (n : Nat) (row : ProcessRow) : Prop where
  deliveries : row.deliveryCount + row.status.owed ≤ 1 + row.retryCount + row.recoveryCount + n
  retries : row.retryCount ≤ row.maxRetries
  recoveries : row.recoveryCount ≤ row.maxRecoveries

namespace ProcessRow.Bounded

variable {n : Nat} {row row' : ProcessRow}

theorem mono {n' : Nat} (h : row.Bounded n) (hn : n ≤ n') : row.Bounded n' :=
  ⟨Nat.le_trans h.deliveries (Nat.add_le_add_left hn _), h.retries, h.recoveries⟩

theorem of_isNew (h : row.IsNew) : row.Bounded n := by
  refine ⟨?_, ?_, ?_⟩
  · rw [h.deliveries, h.retries, h.recoveries, h.ready]
    show 0 + 1 ≤ 1 + 0 + 0 + n
    omega
  · rw [h.retries]
    exact Nat.zero_le _
  · rw [h.recoveries]
    exact Nat.zero_le _

theorem of_owed (h : row.Bounded n) (howed : row'.status.owed ≤ row.status.owed)
    (hcounts : (row'.deliveryCount, row'.retryCount, row'.recoveryCount, row'.maxRetries, row'.maxRecoveries) =
      (row.deliveryCount, row.retryCount, row.recoveryCount, row.maxRetries, row.maxRecoveries)) : row'.Bounded n := by
  simp only [Prod.mk.injEq] at hcounts
  obtain ⟨hdelivery, hretry, hrecovery, hretries, hrecoveries⟩ := hcounts
  refine ⟨?_, ?_, ?_⟩
  · have := h.deliveries
    omega
  · rw [hretry, hretries]
    exact h.retries
  · rw [hrecovery, hrecoveries]
    exact h.recoveries

theorem write (h : row.Bounded n) (hw : ProcessWrite row row') : row'.Bounded n := by
  cases hw with
  | fence => exact h.of_owed (Nat.zero_le _) rfl
  | cancel => exact h.of_owed (Nat.zero_le _) rfl
  | fail => exact h.of_owed (Nat.zero_le _) rfl
  | start => exact h.of_owed (Nat.zero_le _) rfl
  | beat => exact h.of_owed (Nat.le_refl _) rfl
  | succeed => exact h.of_owed (Nat.zero_le _) rfl
  | await due outcome errorCode hrunning hlt =>
    refine ⟨?_, hlt, h.recoveries⟩
    have hmade : row.deliveryCount ≤ 1 + row.retryCount + row.recoveryCount + n :=
      Nat.le_trans (Nat.le_add_right _ _) h.deliveries
    show row.deliveryCount + 1 ≤ 1 + (row.retryCount + 1) + row.recoveryCount + n
    omega
  | promote now hwait => exact h.of_owed (by rw [hwait]; exact Nat.le_refl _) rfl
  | replay now hleased hlt =>
    refine ⟨?_, h.retries, hlt⟩
    have hmade : row.deliveryCount ≤ 1 + row.retryCount + row.recoveryCount + n :=
      Nat.le_trans (Nat.le_add_right _ _) h.deliveries
    show row.deliveryCount + 1 ≤ 1 + row.retryCount + (row.recoveryCount + 1) + n
    omega
  | cleanup => exact h.of_owed (Nat.le_refl _) rfl

theorem claim (h : row.Bounded n) (hc : ProcessClaim row row') : row'.Bounded n := by
  obtain ⟨now, request, hready⟩ := hc
  refine ⟨?_, h.retries, h.recoveries⟩
  have howed : row.deliveryCount + 1 ≤ 1 + row.retryCount + row.recoveryCount + n := by
    have := h.deliveries
    rwa [hready] at this
  exact howed

end ProcessRow.Bounded

/-- The bound of every Process after `n p` restarts of each. A further restart needs one of `n` not used up yet. -/
def deliveryBounds (n : ProcessId → Nat) : RowInvariant where
  Holds p row := row.Bounded (n p)
  Restart p row := row.deliveryCount ≤ row.retryCount + row.recoveryCount + n p
  write h hw := h.write hw
  admission h ha := by
    cases ha
    exact h.of_owed (Nat.le_refl _) rfl
  claim h hc := h.claim hc
  restart {p row row'} h hmade hr := by
    cases hr
    refine ⟨?_, h.retries, h.recoveries⟩
    show row.deliveryCount + 1 ≤ 1 + row.retryCount + row.recoveryCount + n p
    omega

/-! ### applied restarts -/

section runs

variable {d : Deployment}

def bounds (d : Deployment) (n : ProcessId → Nat) : ProcessInvariant d :=
  RowInvariant.Lifts.toProcess (deliveryBounds n).lifts_everywhere fun h hnew => h.insert fun _ => .of_isNew hnew

theorem bounds_mono {n n' : ProcessId → Nat} (hn : ∀ p, n p ≤ n' p) {t : Table ProcessRow}
    (h : (bounds d n).Holds t) : (bounds d n').Holds t :=
  fun p row hrow => (h p row hrow).mono (hn p)

/-- The Process of the restart an event applies. -/
def Event.restart? (s : Database) (event : Event) : Option ProcessId :=
  match event.operation with
  | .restartProcess p c => if (restartProcessTx event.now p c).result? s = some true then some p else none
  | _ => none

theorem restartProcessTx_idle {now : Time} {p : ProcessId} {c : OperatorCommand} {s : Database}
    (h : (restartProcessTx now p c).result? s ≠ some true) : (restartProcessTx now p c).commit s = s := by
  have written : Triple (fun t => t = s) (restartProcessTx now p c) fun applied t => applied = false → t = s := by
    refine Triple.get_frame.bind fun db => Triple.ite (fun _ => Triple.pure fun t ht _ => ht) fun _ => ?_
    refine Triple.orRaise_frame.bind fun process => Triple.guard <| Triple.guard <| ?_
    refine Triple.bind (Q := fun _ _ => True) (fun _ _ _ _ _ => trivial) fun _ =>
      Triple.bind (Q := fun _ _ => True) (fun _ _ _ _ _ => trivial) fun _ =>
        Triple.bind (Q := fun _ _ => True) (fun _ _ _ _ _ => trivial) fun _ =>
          Triple.bind (Q := fun _ _ => True) (fun _ _ _ _ _ => trivial) fun _ => Triple.pure fun t _ => by simp
  unfold Transaction.commit
  cases hx : (restartProcessTx now p c).run s with
  | error e => rfl
  | ok r =>
    obtain ⟨applied, t⟩ := r
    refine written s applied t rfl hx ?_
    cases applied with
    | false => rfl
    | true => exact absurd (by simp [Transaction.result?, hx]) h

/-- The restarts of each Process after one more event. -/
def restarts (n : ProcessId → Nat) (s : Database) (event : Event) (p : ProcessId) : Nat :=
  n p + (event.restart? s).toList.count p

theorem bounds_systemStep {n : ProcessId → Nat} {s : Database} {event : Event} (hs : s.Shaped none)
    (h : (bounds d n).Holds s.processes) : (bounds d (restarts n s event)).Holds (systemStep d s event).processes := by
  have hmore : (bounds d (restarts n s event)).Holds s.processes := bounds_mono (fun p => Nat.le_add_right _ _) h
  have admitted (hlicense : ∀ p, event.operation.Restarts p → (bounds d (restarts n s event)).Restart p s) :
      (bounds d (restarts n s event)).Holds (systemStep d s event).processes :=
    (sound_systemStep (I := (bounds d (restarts n s event)).toEngine) ⟨hs, hmore⟩
      ⟨fun _ _ => trivial, fun _ _ => trivial, fun _ _ _ _ _ => trivial, fun _ _ => trivial, hlicense⟩).2
  obtain ⟨now, operation⟩ := event
  cases operation with
  | restartProcess p c =>
    by_cases happlied : (restartProcessTx now p c).result? s = some true
    · refine admitted fun q hq row hrow => ?_
      obtain rfl : q = p := hq
      have hcount : restarts n s ⟨now, .restartProcess q c⟩ q = n q + 1 := by
        simp [restarts, Event.restart?, happlied]
      have hmade := (h q row hrow).deliveries
      show row.deliveryCount ≤ row.retryCount + row.recoveryCount + restarts n s ⟨now, .restartProcess q c⟩ q
      rw [hcount]
      omega
    · have hidle : systemStep d s ⟨now, .restartProcess p c⟩ = s := restartProcessTx_idle happlied
      rw [hidle]
      exact hmore
  | _ => exact admitted fun p hp => hp.elim

theorem bounds_run {n : ProcessId → Nat} {s : Database} (hs : s.Shaped none) (h : (bounds d n).Holds s.processes)
    (events : List Event) :
    (bounds d fun p => n p + (observed (systemStep d) Event.restart? s events).count p).Holds
      (runFrom (systemStep d) s events).processes := by
  induction events generalizing s n with
  | nil => exact h
  | cons event events ih =>
    have rest := ih (evolution_systemStep hs event).1 (bounds_systemStep hs h)
    refine bounds_mono (fun p => ?_) rest
    simp only [restarts, observed, List.count_append]
    omega

/-! ### claims of a Process -/

/-- A row with at least the given number of deliveries. -/
def deliveredAtLeast (k : Nat) : RowInvariant where
  Holds _ row := k ≤ row.deliveryCount
  Restart _ _ := True
  write h hw := by cases hw <;> exact h
  admission h ha := by
    cases ha
    exact h
  claim h hc := by
    cases hc
    exact Nat.le_succ_of_le h
  restart h _ hr := by
    cases hr
    exact h

/-- A Process that was delivered so often, if it was at all. -/
def delivered (d : Deployment) (p : ProcessId) (k : Nat) : ProcessInvariant d :=
  RowInvariant.Lifts.toProcess (I := deliveredAtLeast k) (T := fun t => k = 0 ∨ (deliveredAtLeast k).Within p t)
    (fun h hf => h.imp_right fun h => (deliveredAtLeast k).lifts_within p h hf)
    fun h _ => h.imp_right fun h => h.insert _

theorem claimCandidateTx_delivered {p : ProcessId} {k : Nat} (now : Time) (request : ClaimRequest)
    (c : ProcessRecord) :
    Triple (fun s => (delivered d p k).Holds s.processes) (claimCandidateTx now request c) fun r s =>
      ∀ claimed, r = some claimed → claimed.process = p → (deliveredAtLeast (k + 1)).Within p s.processes := by
  refine (Triple.casProcess (Q := fun updated s => updated = true → c.1 = p → (deliveredAtLeast (k + 1)).Within p s.processes)
    (fun s _ _ => by simp) fun s row h hrow _ _ hp => ?_).bind fun updated => ?_
  · subst hp
    refine ⟨_, get?_updateProcess_self hrow, Nat.succ_le_succ ?_⟩
    rcases h with rfl | ⟨old, hold, hk⟩
    · exact Nat.zero_le _
    · obtain rfl := Option.some.inj (hold.symm.trans hrow)
      exact hk
  · refine Triple.ite (fun hu => ?_) fun _ => Triple.pure fun _ _ => by simp
    refine ((keeps_processWithExecution (f := Database.processes) c.1).triple fun t =>
      c.1 = p → (deliveredAtLeast (k + 1)).Within p t).pre (fun s h => h hu) |>.bind fun r => ?_
    refine (Triple.ofExcept (Q := fun claimed s => claimed.process = c.1 ∧ (c.1 = p → (deliveredAtLeast (k + 1)).Within p s.processes))
      fun s claimed h hc => ⟨?_, h⟩).bind fun claimed => Triple.pure fun s h claimed' hclaimed hp => ?_
    · exact (commandFromProcess_ok hc).1
    · obtain rfl := Option.some.inj hclaimed
      exact h.2 (h.1.symm.trans hp)

theorem claim?_delivered {s : Database} (hs : s.Shaped none) {event : Event} {p : ProcessId} {fence k : Nat}
    (hk : (delivered d p k).Holds s.processes) (h : event.claim? d s = some (p, fence)) :
    (deliveredAtLeast (k + 1)).Within p (systemStep d s event).processes := by
  obtain ⟨now, operation⟩ := event
  cases operation with
  | claimNext request =>
    obtain ⟨claimed, hclaimed, hp⟩ := Option.map_eq_some_iff.1 h
    obtain ⟨rfl, rfl⟩ := Prod.mk.inj hp
    let I := (delivered d claimed.process k).toEngine
    have promoted : I.Sound [] ((promoteDueRetriesTx now 64).commit s) :=
      (sound_promoteDueRetriesTx I now 64).commit ⟨hs, hk⟩
    obtain ⟨r, hr, rfl⟩ := Option.bind_eq_some_iff.1 hclaimed
    exact (sound_claimNextTx_result I now fun c =>
      (claimCandidateTx_delivered (d := d) (p := claimed.process) (k := k) now request c).pre fun s h => h.1.2) _ _ _
        promoted (run_of_result? hr) |>.2 claimed rfl rfl
  | _ => simp [Event.claim?] at h

theorem delivered_systemStep {s : Database} (hs : s.Shaped none) (event : Event) {p : ProcessId} {k : Nat}
    (hk : (delivered d p k).Holds s.processes) :
    (delivered d p (k + ((event.claim? d s).map Prod.fst).toList.count p)).Holds (systemStep d s event).processes := by
  have kept : (delivered d p k).Holds (systemStep d s event).processes :=
    (sound_systemStep (I := (delivered d p k).toEngine) ⟨hs, hk⟩
      ((delivered d p k).admits (fun _ _ _ _ => trivial) _ _)).2
  cases hclaim : event.claim? d s with
  | none => exact kept
  | some claim =>
    obtain ⟨q, fence⟩ := claim
    by_cases hq : q = p
    · subst hq
      have hcount : ((some (q, fence)).map Prod.fst).toList.count q = 1 := by simp
      rw [hcount]
      exact .inr (claim?_delivered hs hk hclaim)
    · have hcount : ((some (q, fence)).map Prod.fst).toList.count p = 0 := by simp [hq]
      rw [hcount]
      exact kept

/-- The claims of a Process returned in a run. -/
def claimedProcesses (d : Deployment) (s : Database) (events : List Event) : List ProcessId :=
  (observed (systemStep d) (Event.claim? d) s events).map Prod.fst

theorem delivered_run {s : Database} (hs : s.Shaped none) {p : ProcessId} {k : Nat}
    (hk : (delivered d p k).Holds s.processes) (events : List Event) :
    (delivered d p (k + (claimedProcesses d s events).count p)).Holds (runFrom (systemStep d) s events).processes := by
  induction events generalizing s k with
  | nil => exact hk
  | cons event events ih =>
    have rest := ih (evolution_systemStep hs event).1 (delivered_systemStep hs event hk)
    have hcount : k + (claimedProcesses d s (event :: events)).count p =
        k + ((event.claim? d s).map Prod.fst).toList.count p + (claimedProcesses d (systemStep d s event) events).count p := by
      unfold claimedProcesses
      rw [observed, List.map_append, List.count_append, Nat.add_assoc]
      cases event.claim? d s <;> rfl
    rw [hcount]
    exact rest

end runs

/-! ### the law -/

/-- In every state of a run the deliveries of a Process are at most one and those of its retries, its recoveries and
the restarts applied to it, the retries and the recoveries are within their bounds, and no worker was given the
Process more often than it was delivered: without a restart, never more than once and once for each retry and each
recovery it is allowed. -/
theorem boundedDelivery (d : Deployment) (events : List Event) {p : ProcessId} {row : ProcessRow}
    (hrow : (runFrom (systemStep d) .empty events).processes.get? p = some row) :
    row.deliveryCount ≤ 1 + row.retryCount + row.recoveryCount +
        (observed (systemStep d) Event.restart? .empty events).count p ∧
      row.retryCount ≤ row.maxRetries ∧ row.recoveryCount ≤ row.maxRecoveries ∧
      (claimedProcesses d .empty events).count p ≤ row.deliveryCount ∧
      (p ∉ observed (systemStep d) Event.restart? .empty events →
        (claimedProcesses d .empty events).count p ≤ row.maxRetries + row.maxRecoveries + 1) := by
  have hempty : (Database.empty).Shaped none := ⟨.empty, by simp⟩
  have bounded := bounds_run (d := d) (n := fun _ => 0) hempty (fun p row h => by cases h) events p row hrow
  have hclaims : 0 + (claimedProcesses d .empty events).count p ≤ row.deliveryCount := by
    rcases delivered_run (d := d) (p := p) (k := 0) hempty (.inl rfl) events with h | ⟨old, hold, h⟩
    · omega
    · obtain rfl := Option.some.inj (hold.symm.trans hrow)
      exact h
  rw [Nat.zero_add] at hclaims
  obtain ⟨hdeliveries, hretries, hrecoveries⟩ := bounded
  simp only [Nat.zero_add] at hdeliveries
  refine ⟨Nat.le_trans (Nat.le_add_right _ _) hdeliveries, hretries, hrecoveries, hclaims, fun hnone => ?_⟩
  rw [List.count_eq_zero.2 hnone] at hdeliveries
  omega

/-- The first claim of a deployment. -/
theorem boundedDelivery_claim : (claimedProcesses sampleDeployment .empty sampleClaim).count 0 ≤ 1 := by
  have first : ((runFrom (systemStep sampleDeployment) .empty sampleClaim).processes.get? 0).any
      (·.deliveryCount == 1) = true := by decide +kernel
  obtain ⟨row, hrow, hcount⟩ := (Option.any_eq_true _ _).1 first
  rw [← beq_iff_eq.1 hcount]
  exact (boundedDelivery sampleDeployment sampleClaim hrow).2.2.2.1

end KnowledgeBase
