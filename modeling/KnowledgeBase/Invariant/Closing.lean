import KnowledgeBase.Invariant.Terminal

/-!
# Closing an Execution

A `Notifier` is a notification of parents that keeps every terminal invariant. The closing operations keep the
invariants over any notifier, `notifyParentWith` is a notifier over any, and so all the nested notifications are.
-/

namespace KnowledgeBase

open Transaction Database

/-- The notification of a parent stays with the Execution in transit: that one is a root, and the parent, if there
is one. -/
def Scope (o : Option Transit) (parent : Option ExecutionId) : Prop :=
  ∀ tr ∈ o, tr.identity.root = tr.execution ∧ ∀ r ∈ parent, r = tr.execution

theorem Scope.nil (parent : Option ExecutionId) : Scope none parent := by simp [Scope]

structure Notifier (notify : Option ExecutionId → Tx Unit) : Prop where
  keeps : ∀ (I : TerminalInvariant) (o : Option Transit) (σ : Shape) (parent : Option ExecutionId), Scope o parent →
    Triple (I.On o σ) (notify parent) fun _ => I.On o σ

theorem Notifier.keeps_closed {notify : Option ExecutionId → Tx Unit} (hn : Notifier notify) (I : TerminalInvariant)
    (σ : Shape) (e : ExecutionId) (parent : Option ExecutionId) :
    Triple (fun s => I.On none σ s ∧ s.Closed e) (notify parent) fun _ s => I.On none σ s ∧ s.Closed e := by
  refine Triple.pre (Triple.post ((hn.keeps I none σ parent (Scope.nil _)).and
    (hn.keeps (statusInvariant Lasting.closed e) none σ parent (Scope.nil _))) fun _ s h => ⟨h.1, h.2.2.2⟩) fun s h => ?_
  exact ⟨h.1, h.1.1, h.1.2.1, h.2⟩

/-! ### the closing operations -/

/-! ### primitives -/

theorem keeps_shape_requestCancelling (now : Time) (e : ExecutionId) : Keeps shape (requestCancelling now e) := by
  refine (ExecutionFrame.shape.casExecution (fun _ => by rfl) _ _).bind fun updated => ?_
  exact (Keeps.modify fun s => by exact shape_of_tables rfl rfl).bind fun _ => Keeps.pure _

theorem get?_of_mem_cancellationTree {s : Database} {root e : ExecutionId} {includeRoot : Bool}
    (h : e ∈ s.cancellationTree root includeRoot) : ∃ row, s.executions.get? e = some row ∧ row.root = root ∧
      (includeRoot = false → e ≠ root) ∧ row.status.isTerminal = false := by
  simp only [cancellationTree, List.mem_map, List.mem_append, List.mem_filter, Prod.exists, exists_and_right,
    exists_eq_right, Table.mem_select] at h
  obtain ⟨row, h⟩ := h
  refine ⟨row, ?_⟩
  rcases h with h | h <;>
    simp only [Bool.and_eq_true, beq_iff_eq, Bool.or_eq_true, bne_iff_ne, ne_eq, Bool.not_eq_true'] at h <;>
    refine ⟨h.1.1, h.1.2.1.1, fun hr => ?_, h.1.2.2⟩ <;> simpa [hr] using h.1.2.1.2

theorem mem_cancellationTree {I : TerminalInvariant} {o : Option Transit} {σ : Shape} {s : Database}
    {root e : ExecutionId} (h : I.On o σ s) (he : e ∈ s.cancellationTree root false) :
    ∃ i, σ.1 e = some i ∧ i.root = root ∧ root ≠ e ∧ i.parent = some root := by
  obtain ⟨row, hrow, hr, hne, -⟩ := get?_of_mem_cancellationTree he
  have hi := identityOf_of_get? hrow
  have hp := h.2.1.1.parent_eq hi
  obtain rfl := h.1
  refine ⟨row.identity, hi, hr, (hne rfl).symm, ?_⟩
  have hroot : row.identity.root = root := hr
  rw [hp, hroot, if_neg (hne rfl).symm]

theorem closeTransit {I : TerminalInvariant} {tr : Transit} {σ : Shape} {x : Tx Bool} (hx : Keeps shape x)
    (h : Triple (fun s => s.Shaped (some tr) ∧ I.Holds (some tr) s) x fun _ => I.Holds none)
    (hc : Triple (fun s => (s.identityOf tr.execution).isSome) x fun _ s => s.Closed tr.execution) :
    Triple (I.On (some tr) σ) x fun _ s => I.On none σ s ∧ s.Closed tr.execution := by
  intro s a t hs ht
  have hs' := hs.2.1.of_shape (hx s a t ht)
  have known : (s.identityOf tr.execution).isSome := by rw [hs.2.1.2 tr rfl]; rfl
  exact ⟨⟨(hx s a t ht).trans hs.1, hs'.none, h s a t hs.2 ht⟩, hc s a t known ht⟩

section closing

variable {notify : Option ExecutionId → Tx Unit} (hn : Notifier notify) (I : TerminalInvariant) (now : Time)
  {σ : Shape}

include hn

theorem on_convergeCancellationWith {o : Option Transit} {e : ExecutionId}
    (hscope : ∀ i, σ.1 e = some i → Scope o i.parent) :
    Triple (I.On o σ) (convergeCancellationWith now notify e) fun _ => I.On o σ := by
  refine (Triple.execution (Q := fun current s => Scope o current.parent ∧ I.On o σ s ∧
    s.executions.get? e = some current) fun s row h hrow => ?_).bind fun current => ?_
  · obtain rfl := h.1
    exact ⟨hscope _ (identityOf_of_get? hrow), h, hrow⟩
  refine Triple.intro fun hscope => Triple.get.bind fun db => ?_
  refine Triple.ite (fun _ => Triple.pure fun s h => h.2.1) fun hstatus => ?_
  refine Triple.ite (fun _ => Triple.pure fun s h => h.2.1) fun hactive => ?_
  refine Triple.ite (fun _ => Triple.pure fun s h => h.2.1) fun hopen => ?_
  have close := TerminalInvariant.on_of_keeps (σ := σ) (R := fun _ _ => True)
    (ExecutionFrame.shape.closeCancelledTx now e current) (fun tr h => h)
    ((I.closeCancelled now o e current (by simpa using hstatus)).post fun _ _ h => ⟨h, trivial⟩)
  refine (close.pre fun s h => ?_).bind fun updated => ?_
  · obtain ⟨rfl, hI, hrow⟩ := h
    refine ⟨hI, hrow, by simpa using hactive, fun hroot => ?_⟩
    simpa [hroot] using hopen
  · exact Triple.ite (fun _ => ((hn.keeps I o σ _ hscope).pre fun _ h => h.1).bind fun _ => Triple.keep)
      fun _ => Triple.pure fun _ h => h.1

theorem on_cancelExecutionTreeWith {o : Option Transit} {root : ExecutionId} (ho : ∀ tr ∈ o, tr.execution = root) :
    Triple (I.On o σ) (cancelExecutionTreeWith now notify root false) fun _ => I.On o σ := by
  refine (Triple.execution (Q := fun row s => (row.root = root → ∀ tr ∈ o, tr.identity.root = tr.execution) ∧
    I.On o σ s) fun s row h hrow => ⟨fun hr tr htr => ?_, h⟩).bind fun row => Triple.intro fun hroot => ?_
  · have hi := h.2.1.2 tr htr
    rw [ho tr htr, identityOf_of_get? hrow] at hi
    rw [ho tr htr, ← Option.some.inj hi]
    exact hr
  refine (Triple.raiseIf (Q := fun _ s => row.root = root ∧ I.On o σ s)
    fun s h hc => ⟨by simpa using hc, h⟩).bind fun _ => Triple.intro fun hr => Triple.get.bind fun db => ?_
  have hroot := hroot hr
  refine Triple.pre (P := fun s => (∀ e ∈ db.cancellationTree root false, ∃ i, σ.1 e = some i ∧ i.root = root ∧
    root ≠ e ∧ i.parent = some root) ∧ I.On o σ s) (Triple.intro fun htree => ?_) ?_
  · refine (Triple.sumEach fun e he => ?_).bind fun changed => (Triple.forEach fun e he => ?_).bind fun _ =>
      Triple.keep
    · obtain ⟨i, hi, hr, hne, -⟩ := htree e he
      have cancel := TerminalInvariant.on_of_keeps (o := o) (σ := σ) (R := fun _ _ => True)
        (keeps_shape_requestCancelling now e) (fun _ h => h) ((I.cancelChild now o e i (by rw [hr]; exact hne)
          (by simpa [hr] using ho)).post fun _ _ h => ⟨h, trivial⟩)
      refine (cancel.pre fun s h => ⟨h, ?_⟩).post fun _ _ h => h.1
      obtain rfl := h.1
      exact hi
    · obtain ⟨i, hi, -, -, hp⟩ := htree e he
      refine (on_convergeCancellationWith hn I now fun j hj => ?_).bind fun _ => Triple.keep
      rw [hi] at hj
      obtain rfl := Option.some.inj hj
      exact fun tr htr => ⟨hroot tr htr, by simp [hp, ho tr htr]⟩
  · rintro s ⟨rfl, h⟩
    exact ⟨fun e he => mem_cancellationTree h he, h⟩

theorem on_cancelExecutionTreeWith_root {root : ExecutionId} :
    Triple (fun s => I.On none σ s ∧ I.Stop root s) (cancelExecutionTreeWith now notify root true)
      fun _ => I.On none σ := by
  refine (Triple.execution (Q := fun row s => I.On none σ s ∧ I.Stop root s) fun s row h _ => h).bind fun row => ?_
  refine (Triple.raiseIf (Q := fun _ s => I.On none σ s ∧ I.Stop root s) fun s h _ => h).bind fun _ =>
    Triple.get.bind fun db => ?_
  refine Triple.pre (P := fun s => (∀ e ∈ db.cancellationTree root true, ∃ i, σ.1 e = some i ∧ i.root = root) ∧
    I.On none σ s ∧ I.Stop root s) (Triple.intro fun htree => ?_) ?_
  · refine (Triple.sumEach fun e he => ?_).bind fun changed => ?_
    · obtain ⟨i, hi, hr⟩ := htree e he
      refine (TerminalInvariant.on_of_keeps (σ := σ) (keeps_shape_requestCancelling now e) (fun _ h => h)
        (I.cancelMember now root e i hr)).pre fun s h => ⟨h.1, ?_, h.2⟩
      obtain rfl := h.1.1
      exact hi
    · refine Triple.pre (P := I.On none σ) ?_ fun _ h => h.1
      refine (Triple.forEach fun e he => ?_).bind fun _ => Triple.keep
      exact (on_convergeCancellationWith hn I now fun i _ => Scope.nil _).bind fun _ => Triple.keep
  · rintro s ⟨rfl, h⟩
    refine ⟨fun e he => ?_, h⟩
    obtain ⟨row, hrow, hr⟩ := get?_of_mem_cancellationTree he
    obtain rfl := h.1.1
    exact ⟨row.identity, identityOf_of_get? hrow, hr.1⟩

theorem on_cancelScatterChildrenWith {o : Option Transit} {e : ExecutionId} {current : ExecutionRow}
    (ho : ∀ tr ∈ o, tr.execution = e) :
    Triple (I.On o σ) (cancelScatterChildrenWith now notify e current) fun _ => I.On o σ :=
  Triple.ite (fun _ => (on_cancelExecutionTreeWith hn I now ho).bind fun _ => Triple.keep)
    fun _ => Triple.keep

theorem on_failExecutionIntegrityWith {tr : Transit} {errorCode message : String} :
    Triple (I.On (some tr) σ) (failExecutionIntegrityWith now notify tr.execution errorCode message)
      fun _ s => I.On none σ s ∧ s.Closed tr.execution := by
  refine (Triple.execution (Q := fun current s => current.identity = tr.identity ∧ I.On (some tr) σ s)
    fun s row h hrow => ⟨?_, h⟩).bind fun current => Triple.intro fun hid => ?_
  · exact Option.some.inj ((identityOf_of_get? hrow).symm.trans (h.2.1.2 tr rfl))
  refine (on_cancelScatterChildrenWith hn I now (by simp)).bind fun _ => ?_
  refine (closeTransit (ExecutionFrame.shape.closeIntegrityTx now tr.execution current errorCode message)
    (I.closeIntegrity now tr current errorCode message hid)
    (closes_closeIntegrityTx now tr.execution current errorCode message)).bind fun updated => ?_
  exact Triple.ite (fun _ => hn.keeps_closed I σ _ _) fun _ => Triple.keep

theorem on_terminalizeExecutionWith {tr : Transit} {kind : Option WorkflowTerminalKind}
    {source : Option ProcessRecord} {routeDigest : RouteDigest} {errorCode : Option String}
    {disposition : Option ResultDisposition}
    (allows : ∀ k, kind = some k → tr.Allows ⟨k, source, routeDigest, errorCode, disposition⟩) :
    Triple (I.On (some tr) σ)
      (terminalizeExecutionWith now notify tr.execution kind source routeDigest errorCode disposition)
      fun _ s => I.On none σ s ∧ s.Closed tr.execution := by
  refine (Triple.orRaise (Q := fun k s => tr.Allows ⟨k, source, routeDigest, errorCode, disposition⟩ ∧
    I.On (some tr) σ s) fun s k h hk => ⟨allows k hk, h⟩).bind fun k => Triple.intro fun hk => ?_
  refine (Triple.execution (Q := fun current s => current.identity = tr.identity ∧ I.On (some tr) σ s ∧
    s.executions.get? tr.execution = some current) fun s row h hrow => ⟨?_, h, hrow⟩).bind fun current =>
      Triple.intro fun hid => ?_
  · exact Option.some.inj ((identityOf_of_get? hrow).symm.trans (h.2.1.2 tr rfl))
  refine Triple.ite (fun ht => Triple.pure fun s h => ⟨h.1.leave, current, h.2, ht⟩) fun _ => ?_
  have close : Triple (I.On (some tr) σ)
      (finishRouteWith now notify tr.execution current ⟨k, source, routeDigest, errorCode, disposition⟩)
      fun _ s => I.On none σ s ∧ s.Closed tr.execution := by
    unfold finishRouteWith
    split
    · exact on_failExecutionIntegrityWith hn I now
    · next hrefuse =>
      refine (I.on_refresh _ _).bind fun _ => (closeTransit (ExecutionFrame.shape.closeRouteTx now tr.execution
        current _) (I.closeRoute now tr current _ hid hk hrefuse)
        (closes_closeRouteTx now tr.execution current _)).bind fun updated => ?_
      exact Triple.ite (fun _ => hn.keeps_closed I σ _ _) fun _ => Triple.keep
  refine Triple.pre (P := I.On (some tr) σ) (Triple.ite (fun _ => ?_) fun _ => ?_) fun s h => h.1
  · exact (on_cancelScatterChildrenWith hn I now (by simp)).bind fun _ => close
  · exact close

/-! ### the join and the notifications -/

omit hn in
private theorem On.back {o : Option Transit} {root : ExecutionId} {s : Database} (ho : ∀ tr ∈ o, tr.execution = root)
    (hi : ∀ tr ∈ o, σ.1 tr.execution = some tr.identity) (h : I.On none σ s) (hc : s.Closed root) : I.On o σ s := by
  cases o with
  | none => exact h
  | some tr =>
    refine h.closed ?_ (by rw [ho tr rfl]; exact hc)
    obtain rfl := h.1
    exact hi tr rfl

theorem on_maybeConvergeScatterRootWith {o : Option Transit} {root : ExecutionId} (ho : ∀ tr ∈ o, tr.execution = root) :
    Triple (I.On o σ) (maybeConvergeScatterRootWith now notify root) fun _ => I.On o σ := by
  refine (Triple.execution (Q := fun current s => (∀ tr ∈ o, σ.1 tr.execution = some tr.identity) ∧ I.On o σ s ∧
    s.executions.get? root = some current) fun s row h hrow => ?_).bind fun current => Triple.intro fun hi => ?_
  · obtain rfl := h.1
    exact ⟨h.2.1.2, h, hrow⟩
  refine Triple.get.bind fun db => Triple.ite (fun _ => Triple.pure fun s h => h.2.1) fun hguard => ?_
  simp only [Bool.or_eq_true, bne_iff_ne, ne_eq, not_or, not_not] at hguard
  obtain ⟨⟨hrole, hstatus⟩, hreason⟩ := hguard
  let J : Transit := ⟨root, current.identity, .join⟩
  have enter : ∀ s, db = s ∧ I.On o σ s ∧ s.executions.get? root = some current → I.On (some J) σ s := by
    rintro s ⟨-, h, hrow⟩
    exact ⟨h.1, Shaped.some h.2.1.1 (identityOf_of_get? hrow),
      I.enterJoin h.2.1.none (I.leave h.2.2) hrow hrole hstatus hreason⟩
  have done (x : Tx Unit) (hx : Triple (I.On (some J) σ) x fun _ s => I.On none σ s ∧ s.Closed root) :
      Triple (fun s => db = s ∧ I.On o σ s ∧ s.executions.get? root = some current) (do x; pure true)
        fun _ => I.On o σ :=
    (hx.pre enter).bind fun _ => Triple.pure fun s h => On.back I ho hi h.1 h.2
  have fail (code message : String) :=
    done (failExecutionIntegrityWith now notify root code message) (on_failExecutionIntegrityWith hn I now)
  split
  · exact fail _ _
  split
  · exact fail _ _
  · split
    · exact fail _ _
    · exact done _ (on_terminalizeExecutionWith hn I now fun k hk => Or.inl (Option.some.inj hk).symm)
  split
  · exact fail _ _
  refine Triple.ite (fun _ => Triple.pure fun s h => h.2.1) fun _ => ?_
  dsimp only
  split
  · exact done _ (on_terminalizeExecutionWith hn I now fun k hk => Or.inr (Option.some.inj hk).symm)
  split
  · exact fail _ _
  · exact done _ (on_terminalizeExecutionWith hn I now fun k hk => Or.inl (Option.some.inj hk).symm)

theorem Notifier.notifyParentWith : Notifier (notifyParentWith now notify) where
  keeps I o σ parent hscope := by
    cases parent with
    | none => exact Triple.keep
    | some r =>
      have ho : ∀ tr ∈ o, tr.execution = r := fun tr htr => ((hscope tr htr).2 r rfl).symm
      refine (Triple.execution (Q := fun row s => (∀ i, σ.1 r = some i → Scope o i.parent) ∧ I.On o σ s)
        fun s row h hrow => ⟨fun i hi tr htr => ⟨(hscope tr htr).1, ?_⟩, h⟩).bind fun row => Triple.intro fun hp => ?_
      · have hroot := (hscope tr htr).1
        obtain rfl := h.1
        have hi' := h.2.1.2 tr htr
        rw [ho tr htr] at hi' hroot
        obtain rfl := Option.some.inj (hi.symm.trans hi')
        simp [h.2.1.1.parent_eq hi, hroot]
      · refine Triple.ite (fun _ => ?_) fun _ => Triple.ite (fun _ => ?_) fun _ => Triple.keep
        · exact (on_convergeCancellationWith hn I now hp).bind fun _ => Triple.keep
        · exact (on_maybeConvergeScatterRootWith hn I now ho).bind fun _ => Triple.keep

end closing

/-! ### the knot -/

theorem Notifier.notifyDepth (now : Time) (depth : Nat) : Notifier (notifyDepth now depth) := by
  induction depth with
  | zero => exact Notifier.notifyParentWith ⟨fun _ _ _ _ _ => Triple.keep⟩ now
  | succ depth ih => exact Notifier.notifyParentWith ih now

theorem Notifier.notifyScatterParentTerminalTx (now : Time) : Notifier (notifyScatterParentTerminalTx now) where
  keeps I o σ parent hscope := (Triple.get.post fun _ _ h => h.2).bind fun _ =>
    (Notifier.notifyDepth now _).keeps I o σ parent hscope

section closed

variable (I : TerminalInvariant) (now : Time) {σ : Shape}

theorem on_convergeCancellationTx (e : ExecutionId) :
    Triple (I.On none σ) (convergeCancellationTx now e) fun _ => I.On none σ :=
  on_convergeCancellationWith (Notifier.notifyScatterParentTerminalTx now) I now fun _ _ => Scope.nil _

theorem on_cancelExecutionTreeTx (root : ExecutionId) :
    Triple (I.On none σ) (cancelExecutionTreeTx now root false) fun _ => I.On none σ :=
  on_cancelExecutionTreeWith (Notifier.notifyScatterParentTerminalTx now) I now (by simp)

theorem on_cancelExecutionTreeTx_root (root : ExecutionId) :
    Triple (fun s => I.On none σ s ∧ I.Stop root s) (cancelExecutionTreeTx now root true) fun _ => I.On none σ :=
  on_cancelExecutionTreeWith_root (Notifier.notifyScatterParentTerminalTx now) I now

theorem on_failExecutionIntegrityTx (tr : Transit) (errorCode message : String) :
    Triple (I.On (some tr) σ) (failExecutionIntegrityTx now tr.execution errorCode message)
      fun _ s => I.On none σ s ∧ s.Closed tr.execution :=
  on_failExecutionIntegrityWith (Notifier.notifyScatterParentTerminalTx now) I now

theorem on_terminalizeExecutionTx (tr : Transit) {kind : Option WorkflowTerminalKind}
    {source : Option ProcessRecord} {routeDigest : RouteDigest} {errorCode : Option String}
    {disposition : Option ResultDisposition}
    (allows : ∀ k, kind = some k → tr.Allows ⟨k, source, routeDigest, errorCode, disposition⟩) :
    Triple (I.On (some tr) σ)
      (terminalizeExecutionTx now tr.execution kind source routeDigest errorCode disposition)
      fun _ s => I.On none σ s ∧ s.Closed tr.execution :=
  on_terminalizeExecutionWith (Notifier.notifyScatterParentTerminalTx now) I now allows

theorem on_maybeConvergeScatterRootTx (root : ExecutionId) :
    Triple (I.On none σ) (maybeConvergeScatterRootTx now root) fun _ => I.On none σ :=
  on_maybeConvergeScatterRootWith (Notifier.notifyScatterParentTerminalTx now) I now (by simp)

end closed

end KnowledgeBase
