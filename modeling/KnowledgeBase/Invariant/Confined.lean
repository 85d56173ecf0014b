import KnowledgeBase.Invariant.System

/-!
# Work confined to some trees

Work for an Execution writes no Task but the one whose current root is the root of that Execution. `Confines` states
it of two databases for a predicate on roots, `Confined` of a transaction, and the modules that follow carry it
through the engine: for the tree of one root, and for all of them.
-/

namespace KnowledgeBase

open Transaction Database

/-! ### the relation -/

/-- What work in the trees of certain roots leaves alone: the coordinates of every Execution, the head of every Task,
the restarts, and every Task whose current root is another one. -/
structure Confines (R : ExecutionId → Prop) (s t : Database) : Prop where
  wellFormed : t.WellFormed
  known : ∀ e i, s.identityOf e = some i → t.identityOf e = some i
  heads : t.headOf = s.headOf
  restarts : t.restarts = s.restarts
  fenced : ∀ k row, s.tasks.get? k = some row → ¬ R row.currentRoot → t.tasks.get? k = some row

/-- An Execution of one of the trees. -/
def Database.Within (R : ExecutionId → Prop) (s : Database) (e : ExecutionId) : Prop :=
  (∀ r, R r) ∨ s.WellFormed ∧ ∃ i, s.identityOf e = some i ∧ R i.root

/-- A row whose Execution and whose parent are in the trees. -/
def ExecutionRow.Placed (R : ExecutionId → Prop) (s : Database) (row : ExecutionRow) : Prop :=
  R row.root ∧ ∀ p, row.parent = some p → s.Within R p

section relation

variable {R : ExecutionId → Prop} {s t u : Database} {e : ExecutionId}

theorem Confines.refl (h : s.WellFormed) : Confines R s s :=
  ⟨h, fun _ _ h => h, rfl, rfl, fun _ _ h _ => h⟩

theorem Confines.trans (h : Confines R s t) (h' : Confines R t u) : Confines R s u where
  wellFormed := h'.wellFormed
  known e i hi := h'.known e i (h.known e i hi)
  heads := h'.heads.trans h.heads
  restarts := h'.restarts.trans h.restarts
  fenced k row hrow hR := h'.fenced k row (h.fenced k row hrow hR) hR

theorem Database.Within.of_identity (hs : s.WellFormed) {i : ExecutionIdentity} (hi : s.identityOf e = some i) (hR : R i.root) :
    s.Within R e :=
  Or.inr ⟨hs, i, hi, hR⟩

theorem Database.Within.placed (h : s.Within R e) (hst : Confines R s t) {row : ExecutionRow}
    (hrow : t.identityOf e = some row.identity) : row.Placed R s := by
  rcases h with h | ⟨hs, i, hi, hR⟩
  · exact ⟨h _, fun p _ => Or.inl h⟩
  have hid : i = row.identity := Option.some.inj ((hst.known e i hi).symm.trans hrow)
  subst hid
  refine ⟨hR, fun p hp => ?_⟩
  have hparent := hs.parent_eq hi
  rw [show row.identity.parent = some p from hp] at hparent
  split at hparent
  · cases hparent
  obtain rfl := Option.some.inj hparent
  obtain ⟨r, hr, hrr, -⟩ := hs.root_root hi
  exact Or.inr ⟨hs, r, hr, by rw [hrr]; exact hR⟩

end relation

/-! ### transactions -/

/-- A transaction that works in the trees of certain roots. -/
abbrev Confined (R : ExecutionId → Prop) (b : Database) {α : Type} (x : Tx α) : Prop :=
  Triple (Confines R b) x fun _ => Confines R b

/-- The Executions by their coordinates, the Tasks and the restarts. -/
def Database.ledger (s : Database) : (ExecutionId → Option ExecutionIdentity) × Table TaskRow × Table RestartRow :=
  (s.identityOf, s.tasks, s.restarts)

theorem ledger_updateExecution {g : ExecutionRow → ExecutionRow} (hg : ∀ row, (g row).identity = row.identity)
    (e : ExecutionId) (s : Database) : (s.updateExecution e g).ledger = s.ledger :=
  Prod.ext (funext fun k => identityOf_updateExecution hg e s k) rfl

theorem keeps_ledger_casExecution {g : ExecutionRow → ExecutionRow} (hg : ∀ row, (g row).identity = row.identity)
    (e : ExecutionId) (c : ExecutionRow → Bool) : Keeps ledger (casExecution e c g) :=
  keeps_compareAndSet fun s => ledger_updateExecution hg e s

theorem keeps_ledger_casProcess (p : ProcessId) (c : ProcessRow → Bool) (g : ProcessRow → ProcessRow) :
    Keeps ledger (casProcess p c g) :=
  keeps_compareAndSet fun _ => by rfl

theorem keeps_ledger_casOutbox (o : OutboxId) (c : OutboxRow → Bool) (g : OutboxRow → OutboxRow) :
    Keeps ledger (casOutbox o c g) :=
  keeps_compareAndSet fun _ => by rfl

theorem keeps_ledger_enqueueTx (now : Time) (team : TeamId) (payload : OutboxPayload) (key : DedupeKey) :
    Keeps ledger (enqueueTx now team payload key) :=
  Keeps.modify fun s => by split <;> rfl

theorem keeps_ledger_writeFactsTx (write : IntakeFacts → Except MkbError IntakeFacts) :
    Keeps ledger (writeFactsTx write) :=
  keeps_writeFactsTx_of_frame (fun _ _ => by rfl) write

theorem keeps_ledger_requestCancelling (now : Time) (e : ExecutionId) : Keeps ledger (requestCancelling now e) := by
  refine (keeps_ledger_casExecution (fun _ => by rfl) _ _).bind fun updated => ?_
  exact (Keeps.modify fun s => by rfl).bind fun _ => Keeps.pure _

section confined

variable {R : ExecutionId → Prop} {b : Database} {α β : Type}

theorem confined_of_ledger {x : Tx α} (hx : Keeps ledger x) : Confined R b x := by
  intro s a t hs ht
  have keep := hx s a t ht
  simp only [ledger, Prod.mk.injEq] at keep
  obtain ⟨hid, htasks, hrestarts⟩ := keep
  have heads : t.headOf = s.headOf := by
    unfold headOf
    rw [htasks]
  exact ⟨hs.wellFormed.of_shape (by unfold shape; rw [hid, heads]), fun e i hi => by rw [hid]; exact hs.known e i hi,
    heads.trans hs.heads, hrestarts.trans hs.restarts, fun k row hrow hR => by rw [htasks]; exact hs.fenced k row hrow hR⟩

theorem confined_get {f : Database → Tx α} (h : ∀ s, Confines R b s → Confined R s (f s)) :
    Confined R b (get >>= f) := by
  refine Triple.get.bind fun db => ?_
  rintro s a t ⟨rfl, hs⟩ ht
  exact hs.trans (h db hs db a t (Confines.refl hs.wellFormed) ht)

theorem confined_execution {e : ExecutionId} (he : b.Within R e) {f : ExecutionRow → Tx α}
    (h : ∀ row, row.Placed R b → Confined R b (f row)) : Confined R b (execution e >>= f) :=
  (Triple.execution (Q := fun row s => row.Placed R b ∧ Confines R b s) fun _ _ hs hrow =>
    ⟨he.placed hs (identityOf_of_get? hrow), hs⟩).bind fun row => Triple.intro (h row)

theorem Confines.updateTask {s : Database} (hs : Confines R b s) {k : TaskId} {f : TaskRow → TaskRow}
    (hf : ∀ row, (f row).head = row.head) {row : TaskRow} (hrow : s.tasks.get? k = some row)
    (hR : R row.currentRoot) : Confines R b (s.updateTask k f) := by
  have hshape := shape_updateTask hf k s
  refine ⟨hs.wellFormed.of_shape hshape, fun e i hi => ?_, ?_, hs.restarts, fun j q hq hne => ?_⟩
  · rw [identityOf_eq hshape]
    exact hs.known e i hi
  · exact (congrArg Prod.snd hshape).trans hs.heads
  · have hq' := hs.fenced j q hq hne
    have hjk : j ≠ k := by
      rintro rfl
      rw [hrow] at hq'
      obtain rfl := Option.some.inj hq'
      exact hne hR
    simp [Database.updateTask, Table.get?_modify, hq', hjk]

theorem confined_casTask {k : TaskId} {c : TaskRow → Bool} {f : TaskRow → TaskRow}
    (hf : ∀ row, (f row).head = row.head) (hc : ∀ row, c row = true → R row.currentRoot) :
    Confined R b (casTask k c f) :=
  Triple.casTask (fun _ h _ => h) fun _ row hs hrow hcrow => hs.updateTask hf hrow (hc row hcrow)

theorem confined_casTask_of_fence {e : ExecutionId} (he : b.Within R e) {k : TaskId} {c : TaskRow → Bool}
    {f : TaskRow → TaskRow} (hf : ∀ row, (f row).head = row.head) (hc : ∀ row, c row = true → row.currentRoot = e) :
    Confined R b (casTask k c f) := by
  refine Triple.casTask (fun _ h _ => h) fun s row hs hrow hcrow => hs.updateTask hf hrow ?_
  rcases he with h | ⟨-, i, hi, hR⟩
  · exact h _
  · obtain ⟨j, hj, hroot, -⟩ := hs.wellFormed.current k row.head (headOf_of_get? hrow)
    have hcur : row.head.currentRoot = e := hc row hcrow
    rw [hcur, hs.known e i hi] at hj
    obtain rfl := Option.some.inj hj
    rw [hc row hcrow, ← hcur, ← hroot]
    exact hR

theorem confined_projectTaskStatusTx (now : Time) (k : TaskId) {p : TaskProjection} {r : ExecutionId}
    (hp : p.currentRoot = some r) (hR : R r) : Confined R b (projectTaskStatusTx now k p) := by
  intro s a t hs ht
  rcases projectTaskStatusTx_ok ht with ⟨rfl, -⟩ | ⟨rfl, -, row, hrow, happlies, -⟩
  · exact hs
  · refine hs.updateTask (fun _ => rfl) hrow ?_
    simp only [TaskProjection.appliesTo, hp, Option.all_some, Bool.and_eq_true, beq_iff_eq] at happlies
    rw [← happlies.2]
    exact hR

theorem confined_projectRootTaskTx (now : Time) (e : ExecutionId) {row : ExecutionRow} (hR : R row.root)
    (status : TaskStatus) (source : Option ProcessRecord) (errorCode errorMessage : Option String)
    (disposition : Option ResultDisposition) :
    Confined R b (projectRootTaskTx now e row status source errorCode errorMessage disposition) := by
  refine Triple.ite (fun _ => Triple.keep) fun hroot => ?_
  have hroot : row.root = e := by simpa using hroot
  exact (confined_projectTaskStatusTx now _ rfl (hroot ▸ hR)).bind fun _ => Triple.keep

theorem confined_refreshExecutionCountsTx {e : ExecutionId} (he : b.Within R e) :
    Confined R b (refreshExecutionCountsTx e) := by
  have task (k : TaskId) (r : ExecutionId) (hR : R r) (f : TaskRow → TaskRow) (hf : ∀ row, (f row).head = row.head) :
      Confined R b (do let _ ← casTask k (fun row => row.currentRoot == r) f; pure ()) := by
    refine (confined_casTask hf fun row hrow => ?_).bind fun _ => Triple.keep
    rw [show row.currentRoot = r by simpa using hrow]
    exact hR
  refine (confined_of_ledger (Keeps.modify fun s => by exact ledger_updateExecution (fun _ => by rfl) e s)).bind
    fun _ => Triple.get.bind fun db => ?_
  refine (Triple.orRaise (Q := fun row s => row.Placed R b ∧ Confines R b s) fun s row h hrow => ?_).bind fun row =>
    Triple.intro fun hplaced => ?_
  · obtain ⟨rfl, hs⟩ := h
    exact ⟨he.placed hs (identityOf_of_get? hrow), hs⟩
  split
  · exact Triple.get_frame.bind fun _ => (confined_of_ledger (Keeps.modify fun s =>
      by exact ledger_updateExecution (fun _ => by rfl) _ s)).bind fun _ =>
      task _ _ hplaced.1 _ fun _ => rfl
  · exact task _ _ hplaced.1 _ fun _ => rfl

end confined

/-! ### the closing operations -/

section closing

variable {R : ExecutionId → Prop} {b : Database} (now : Time) {e : ExecutionId} {current : ExecutionRow}

theorem confined_closeCancelledTx (he : b.Within R e) (hR : R current.root) :
    Confined R b (closeCancelledTx now e current) := by
  refine (confined_of_ledger (keeps_ledger_casExecution (fun _ => by rfl) _ _)).bind fun updated => ?_
  split
  · have project : Confined R b (do
        projectRootTaskTx now e current .cancelled none none none none
        pure updated) :=
      (confined_projectRootTaskTx now e hR .cancelled none none none none).bind fun _ => Triple.keep
    split
    · exact (confined_refreshExecutionCountsTx he).bind fun _ => project
    · exact project
  · exact Triple.keep

theorem confined_closeIntegrityTx (hR : R current.root) (errorCode message : String) :
    Confined R b (closeIntegrityTx now e current errorCode message) := by
  refine (confined_of_ledger (keeps_ledger_casExecution (fun _ => by rfl) _ _)).bind fun updated => ?_
  split
  · exact (confined_projectRootTaskTx now e hR _ _ _ _ _).bind fun _ => Triple.keep
  · exact Triple.keep

theorem confined_closeRouteTx (he : b.Within R e) (hR : R current.root) (r : TerminalRoute) :
    Confined R b (closeRouteTx now e current r) := by
  refine confined_execution he fun row _ =>
    (confined_of_ledger (keeps_ledger_casExecution (fun _ => by rfl) _ _)).bind fun updated => ?_
  split
  · exact (confined_projectRootTaskTx now e hR _ _ _ _ _).bind fun _ => Triple.keep
  · exact Triple.keep

/-- A notification of parents that stays in the trees of the parent it notifies. -/
def ConfinedNotifier (R : ExecutionId → Prop) (notify : Option ExecutionId → Tx Unit) : Prop :=
  ∀ (b : Database) (parent : Option ExecutionId), (∀ p, parent = some p → b.Within R p) → Confined R b (notify parent)

variable {notify : Option ExecutionId → Tx Unit} (hn : ConfinedNotifier R notify)

include hn

theorem confined_convergeCancellationWith (he : b.Within R e) :
    Confined R b (convergeCancellationWith now notify e) := by
  refine confined_execution he fun current hplaced => Triple.get_frame.bind fun db => ?_
  refine Triple.ite (fun _ => Triple.keep) fun _ => ?_
  refine Triple.ite (fun _ => Triple.keep) fun _ => ?_
  refine Triple.ite (fun _ => Triple.keep) fun _ => ?_
  refine (confined_closeCancelledTx now he hplaced.1).bind fun updated => ?_
  exact Triple.ite (fun _ => (hn b _ hplaced.2).bind fun _ => Triple.keep) fun _ =>
    Triple.keep

theorem confined_cancelExecutionTreeWith {root : ExecutionId} (hroot : b.Within R root) (includeRoot : Bool) :
    Confined R b (cancelExecutionTreeWith now notify root includeRoot) := by
  refine confined_execution hroot fun row hplaced => (Triple.raiseIf (Q := fun _ s => row.root = root ∧ Confines R b s)
    fun s h hc => ⟨by simpa using hc, h⟩).bind fun _ => Triple.intro fun hr => ?_
  have hR : R root := hr ▸ hplaced.1
  refine confined_get fun db hdb => ?_
  have tree : ∀ e ∈ db.cancellationTree root includeRoot, db.Within R e := by
    intro e he
    obtain ⟨row, hrow, hroot, -⟩ := get?_of_mem_cancellationTree he
    exact .of_identity hdb.wellFormed (identityOf_of_get? hrow) (show R row.root by rw [hroot]; exact hR)
  refine (Triple.sumEach fun e _ => confined_of_ledger (keeps_ledger_requestCancelling now e)).bind fun changed => ?_
  refine (Triple.forEach fun e he => ?_).bind fun _ => Triple.keep
  exact (confined_convergeCancellationWith now hn (tree e he)).bind fun _ => Triple.keep

theorem confined_cancelScatterChildrenWith (he : b.Within R e) :
    Confined R b (cancelScatterChildrenWith now notify e current) :=
  Triple.ite (fun _ => (confined_cancelExecutionTreeWith now hn he false).bind fun _ => Triple.keep)
    fun _ => Triple.keep

theorem confined_failExecutionIntegrityWith (he : b.Within R e) (errorCode message : String) :
    Confined R b (failExecutionIntegrityWith now notify e errorCode message) := by
  refine confined_execution he fun current hplaced => (confined_cancelScatterChildrenWith now hn he).bind fun _ =>
    (confined_closeIntegrityTx now hplaced.1 errorCode message).bind fun updated => ?_
  exact Triple.ite (fun _ => hn b _ hplaced.2) fun _ => Triple.keep

theorem confined_terminalizeExecutionWith (he : b.Within R e) (kind : Option WorkflowTerminalKind)
    (source : Option ProcessRecord) (routeDigest : RouteDigest) (errorCode : Option String)
    (disposition : Option ResultDisposition) :
    Confined R b (terminalizeExecutionWith now notify e kind source routeDigest errorCode disposition) := by
  refine Triple.orRaise_frame.bind fun k => confined_execution he fun current hplaced => ?_
  have finish : Confined R b (finishRouteWith now notify e current ⟨k, source, routeDigest, errorCode, disposition⟩) := by
    unfold finishRouteWith
    split
    · exact confined_failExecutionIntegrityWith now hn he _ _
    · refine (confined_refreshExecutionCountsTx he).bind fun _ =>
        (confined_closeRouteTx now he hplaced.1 _).bind fun updated => ?_
      exact Triple.ite (fun _ => hn b _ hplaced.2) fun _ => Triple.keep
  refine Triple.ite (fun _ => Triple.keep) fun _ => Triple.ite (fun _ => ?_) fun _ => finish
  exact (confined_cancelScatterChildrenWith now hn he).bind fun _ => finish

theorem confined_maybeConvergeScatterRootWith (he : b.Within R e) :
    Confined R b (maybeConvergeScatterRootWith now notify e) := by
  refine confined_execution he fun current _ => Triple.get_frame.bind fun db =>
    Triple.ite (fun _ => Triple.keep) fun _ => ?_
  have fail (code message : String) : Confined R b (do failExecutionIntegrityWith now notify e code message; pure true) :=
    (confined_failExecutionIntegrityWith now hn he code message).bind fun _ => Triple.keep
  have finish (kind : Option WorkflowTerminalKind) (source : Option ProcessRecord) (digest : RouteDigest)
      (error : Option String) (disposition : Option ResultDisposition) :
      Confined R b (do terminalizeExecutionWith now notify e kind source digest error disposition; pure true) :=
    (confined_terminalizeExecutionWith now hn he kind source digest error disposition).bind fun _ =>
      Triple.keep
  split
  · exact fail _ _
  split
  · exact fail _ _
  · split
    · exact fail _ _
    · exact finish _ _ _ _ _
  split
  · exact fail _ _
  refine Triple.ite (fun _ => Triple.keep) fun _ => ?_
  dsimp only
  split
  · exact finish _ _ _ _ _
  split
  · exact fail _ _
  · exact finish _ _ _ _ _

theorem confined_notifyParentWith : ConfinedNotifier R (notifyParentWith now notify) := by
  intro b parent hparent
  cases parent with
  | none => exact Triple.keep
  | some p =>
    have hp := hparent p rfl
    refine confined_execution hp fun row _ => Triple.ite (fun _ => ?_) fun _ => Triple.ite (fun _ => ?_) fun _ =>
      Triple.keep
    · exact (confined_convergeCancellationWith now hn hp).bind fun _ => Triple.keep
    · exact (confined_maybeConvergeScatterRootWith now hn hp).bind fun _ => Triple.keep

end closing

/-! ### the knot -/

theorem confined_notifyDepth (R : ExecutionId → Prop) (now : Time) (depth : Nat) :
    ConfinedNotifier R (notifyDepth now depth) := by
  induction depth with
  | zero => exact confined_notifyParentWith now fun _ _ _ => Triple.keep
  | succ depth ih => exact confined_notifyParentWith now ih

theorem confined_notifyScatterParentTerminalTx (R : ExecutionId → Prop) (now : Time) :
    ConfinedNotifier R (notifyScatterParentTerminalTx now) :=
  fun b parent hparent => Triple.get_frame.bind fun _ => confined_notifyDepth R now _ b parent hparent

section closed

variable {R : ExecutionId → Prop} {b : Database} (now : Time) {e : ExecutionId} (he : b.Within R e)

include he

theorem confined_convergeCancellationTx : Confined R b (convergeCancellationTx now e) :=
  confined_convergeCancellationWith now (confined_notifyScatterParentTerminalTx R now) he

theorem confined_cancelExecutionTreeTx (includeRoot : Bool) : Confined R b (cancelExecutionTreeTx now e includeRoot) :=
  confined_cancelExecutionTreeWith now (confined_notifyScatterParentTerminalTx R now) he includeRoot

theorem confined_failExecutionIntegrityTx (errorCode message : String) :
    Confined R b (failExecutionIntegrityTx now e errorCode message) :=
  confined_failExecutionIntegrityWith now (confined_notifyScatterParentTerminalTx R now) he errorCode message

theorem confined_terminalizeExecutionTx (kind : Option WorkflowTerminalKind) (source : Option ProcessRecord)
    (routeDigest : RouteDigest) (errorCode : Option String) (disposition : Option ResultDisposition) :
    Confined R b (terminalizeExecutionTx now e kind source routeDigest errorCode disposition) :=
  confined_terminalizeExecutionWith now (confined_notifyScatterParentTerminalTx R now) he kind source routeDigest
    errorCode disposition

theorem confined_maybeConvergeScatterRootTx : Confined R b (maybeConvergeScatterRootTx now e) :=
  confined_maybeConvergeScatterRootWith now (confined_notifyScatterParentTerminalTx R now) he

end closed

end KnowledgeBase
