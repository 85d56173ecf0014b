import KnowledgeBase.Invariant.System

/-!
# Addressed deliveries

A delivery is addressed if its owner, its generation and its dead-delivery code are those of its payload, and the
generation is that of the Execution that owns it. `Posts` states it of a database reached from another one, with the
Executions of that one still what they were and its deliveries left as they were but for certain ones, `Posting` of a
transaction; most of the engine leaves the mail alone.
-/

namespace KnowledgeBase

open Transaction Database

/-! ### the relation -/

/-- The generation a payload names is that of the Execution it is addressed to. -/
def OutboxPayload.Dated (s : Database) (payload : OutboxPayload) : Prop :=
  ∀ e, payload.owner = .execution e →
    payload.ownerGeneration = 0 ∨ ∃ i, s.identityOf e = some i ∧ i.generation = payload.ownerGeneration

/-- A delivery that says of itself what its payload says. -/
structure OutboxRow.Addressed (s : Database) (row : OutboxRow) : Prop where
  owner : row.owner = row.payload.owner
  ownerGeneration : row.ownerGeneration = row.payload.ownerGeneration
  critical : row.critical = true
  deadErrorCode : row.deadErrorCode = row.payload.deadErrorCode
  dated : row.payload.Dated s

/-- The delivery is pending and under no lease. -/
def OutboxRow.Unleased (row : OutboxRow) : Prop := row.status = .pending ∧ row.leaseOwner = none

/-- The delivery is dead. -/
def Database.DeadDelivery (s : Database) (o : OutboxId) : Prop :=
  ∃ row, s.outbox.get? o = some row ∧ row.status = .dead

/-- The Executions of the first database are what they were, every delivery of the second one is addressed, and only
certain deliveries have been written again, and certain ones have died. -/
structure Posts (W D : OutboxId → Prop) (b s : Database) : Prop where
  known : ∀ e i, b.identityOf e = some i → s.identityOf e = some i
  addressed : ∀ o row, s.outbox.get? o = some row → row.Addressed s
  kept : ∀ o row, b.outbox.get? o = some row → W o ∨ s.outbox.get? o = some row
  new : ∀ o row, s.outbox.get? o = some row → W o ∨ b.outbox.get? o = some row ∨ row.Unleased
  died : ∀ o, s.DeadDelivery o → D o ∨ b.DeadDelivery o

/-- A transaction whose deliveries are addressed, and that writes again and kills only certain ones. -/
abbrev Posting (W D : OutboxId → Prop) (b : Database) {α : Type} (x : Tx α) : Prop :=
  Triple (Posts W D b) x fun _ => Posts W D b

/-- The Executions by their coordinates, and the deliveries. -/
def Database.mail (s : Database) : (ExecutionId → Option ExecutionIdentity) × Table OutboxRow := (s.identityOf, s.outbox)

section relation

variable {W D : OutboxId → Prop} {b s t : Database}

theorem OutboxPayload.Dated.mono {payload : OutboxPayload} (h : payload.Dated s)
    (hst : ∀ e i, s.identityOf e = some i → t.identityOf e = some i) : payload.Dated t := by
  intro e he
  rcases h e he with hzero | ⟨i, hi, hgeneration⟩
  · exact .inl hzero
  · exact .inr ⟨i, hst e i hi, hgeneration⟩

theorem dated_of_ownerGeneration {payload : OutboxPayload} (h : payload.ownerGeneration = 0) : payload.Dated s :=
  fun _ _ => .inl h

theorem OutboxRow.Addressed.mono {row : OutboxRow} (h : row.Addressed s)
    (hst : ∀ e i, s.identityOf e = some i → t.identityOf e = some i) : row.Addressed t :=
  ⟨h.owner, h.ownerGeneration, h.critical, h.deadErrorCode, h.dated.mono hst⟩

theorem Posts.refl (h : ∀ o row, s.outbox.get? o = some row → row.Addressed s) : Posts W D s s :=
  ⟨fun _ _ h => h, h, fun _ _ h => .inr h, fun _ _ h => .inr (.inl h), fun _ h => .inr h⟩

theorem Posts.trans {u : Database} (h : Posts W D b s) (h' : Posts W D s u) : Posts W D b u :=
  ⟨fun e i hi => h'.known e i (h.known e i hi), h'.addressed,
    fun o row hrow => (h.kept o row hrow).elim .inl (h'.kept o row),
    fun o row hrow => (h'.new o row hrow).elim .inl fun hold => hold.elim (h.new o row) fun hnew => .inr (.inr hnew),
    fun o ho => (h'.died o ho).elim .inl (h.died o)⟩

theorem Posts.of_outbox (h : Posts W D b s) (hknown : ∀ e i, s.identityOf e = some i → t.identityOf e = some i)
    (houtbox : t.outbox = s.outbox) : Posts W D b t := by
  refine ⟨fun e i hi => hknown e i (h.known e i hi), fun o row hrow => ?_,
    fun o row hrow => by rw [houtbox]; exact h.kept o row hrow,
    fun o row hrow => by rw [houtbox] at hrow; exact h.new o row hrow, fun o ho => h.died o ?_⟩
  · rw [houtbox] at hrow
    exact (h.addressed o row hrow).mono hknown
  · unfold DeadDelivery at ho ⊢
    rwa [houtbox] at ho

end relation

/-! ### transactions that leave the mail alone -/

theorem mail_updateExecution {g : ExecutionRow → ExecutionRow} (hg : ∀ row, (g row).identity = row.identity)
    (e : ExecutionId) (s : Database) : (s.updateExecution e g).mail = s.mail :=
  Prod.ext (funext fun k => identityOf_updateExecution hg e s k) rfl

theorem keeps_mail_casExecution {g : ExecutionRow → ExecutionRow} (hg : ∀ row, (g row).identity = row.identity)
    (e : ExecutionId) (c : ExecutionRow → Bool) : Keeps mail (casExecution e c g) :=
  keeps_compareAndSet fun s => mail_updateExecution hg e s

theorem keeps_mail_casProcess (p : ProcessId) (c : ProcessRow → Bool) (g : ProcessRow → ProcessRow) :
    Keeps mail (casProcess p c g) :=
  keeps_compareAndSet fun _ => by rfl

theorem keeps_mail_casTask (k : TaskId) (c : TaskRow → Bool) (g : TaskRow → TaskRow) : Keeps mail (casTask k c g) :=
  keeps_compareAndSet fun _ => by rfl

theorem keeps_mail_projectTaskStatusTx (now : Time) (k : TaskId) (p : TaskProjection) :
    Keeps mail (projectTaskStatusTx now k p) := by
  intro s b t h
  rcases projectTaskStatusTx_ok h with ⟨rfl, -⟩ | ⟨rfl, -⟩ <;> rfl

theorem keeps_mail_projectRootTaskTx (now : Time) (e : ExecutionId) (row : ExecutionRow) (status : TaskStatus)
    (source : Option ProcessRecord) (errorCode errorMessage : Option String) (disposition : Option ResultDisposition) :
    Keeps mail (projectRootTaskTx now e row status source errorCode errorMessage disposition) :=
  Keeps.ite (Keeps.pure _) ((keeps_mail_projectTaskStatusTx now _ _).bind fun _ => Keeps.pure _)

theorem keeps_mail_refreshExecutionCountsTx (e : ExecutionId) : Keeps mail (refreshExecutionCountsTx e) := by
  intro s a t h
  refine Triple.refreshExecutionCountsTx (P := fun u => u.mail = s.mail) (fun u k g hg hu => ?_) (fun u k g hg hu => hu)
    s a t rfl h
  refine (mail_updateExecution (fun row => ?_) k u).trans hu
  obtain ⟨p, c, hrow⟩ := hg row
  rw [hrow]
  rfl

theorem keeps_mail_writeFactsTx (write : IntakeFacts → Except MkbError IntakeFacts) : Keeps mail (writeFactsTx write) :=
  keeps_writeFactsTx_of_frame (fun _ _ => by rfl) write

theorem keeps_mail_requestCancelling (now : Time) (e : ExecutionId) : Keeps mail (requestCancelling now e) :=
  (keeps_mail_casExecution (fun _ => by rfl) _ _).bind fun _ => (Keeps.modify fun s => by rfl).bind fun _ => Keeps.pure _

section closing

variable (now : Time) {e : ExecutionId} {current : ExecutionRow}

theorem keeps_mail_closeCancelledTx : Keeps mail (closeCancelledTx now e current) := by
  refine (keeps_mail_casExecution (fun _ => by rfl) _ _).bind fun updated => ?_
  split
  · have project := (keeps_mail_projectRootTaskTx now e current .cancelled none none none none).bind fun _ =>
      Keeps.pure updated
    split
    · exact (keeps_mail_refreshExecutionCountsTx e).bind fun _ => project
    · exact project
  · exact Keeps.pure _

theorem keeps_mail_closeIntegrityTx (errorCode message : String) :
    Keeps mail (closeIntegrityTx now e current errorCode message) := by
  refine (keeps_mail_casExecution (fun _ => by rfl) _ _).bind fun updated => ?_
  split
  · exact (keeps_mail_projectRootTaskTx now _ _ _ _ _ _ _).bind fun _ => Keeps.pure _
  · exact Keeps.pure _

theorem keeps_mail_closeRouteTx (r : TerminalRoute) : Keeps mail (closeRouteTx now e current r) := by
  refine (keeps_execution e).bind fun row => (keeps_mail_casExecution (fun _ => by rfl) _ _).bind fun updated => ?_
  split
  · exact (keeps_mail_projectRootTaskTx now _ _ _ _ _ _ _).bind fun _ => Keeps.pure _
  · exact Keeps.pure _

variable {notify : Option ExecutionId → Tx Unit} (hn : ∀ parent, Keeps mail (notify parent))

include hn

theorem keeps_mail_convergeCancellationWith (e : ExecutionId) : Keeps mail (convergeCancellationWith now notify e) :=
  (keeps_execution e).bind fun _ => Keeps.get.bind fun _ => Keeps.ite (Keeps.pure _) (Keeps.ite (Keeps.pure _)
    (Keeps.ite (Keeps.pure _) ((keeps_mail_closeCancelledTx now).bind fun _ =>
      Keeps.ite ((hn _).bind fun _ => Keeps.pure _) (Keeps.pure _))))

theorem keeps_mail_cancelExecutionTreeWith (root : ExecutionId) (includeRoot : Bool) :
    Keeps mail (cancelExecutionTreeWith now notify root includeRoot) :=
  (keeps_execution root).bind fun _ => Keeps.guard <| Keeps.get.bind fun _ =>
    (Keeps.sumEach (keeps_mail_requestCancelling now)).bind fun _ => (Keeps.forEach fun e _ =>
      (keeps_mail_convergeCancellationWith now hn e).bind fun _ => Keeps.pure _).bind fun _ => Keeps.pure _

theorem keeps_mail_cancelScatterChildrenWith (e : ExecutionId) (current : ExecutionRow) :
    Keeps mail (cancelScatterChildrenWith now notify e current) :=
  Keeps.ite ((keeps_mail_cancelExecutionTreeWith now hn e false).bind fun _ => Keeps.pure _) (Keeps.pure _)

theorem keeps_mail_failExecutionIntegrityWith (e : ExecutionId) (errorCode message : String) :
    Keeps mail (failExecutionIntegrityWith now notify e errorCode message) :=
  (keeps_execution e).bind fun current => (keeps_mail_cancelScatterChildrenWith now hn e current).bind fun _ =>
    (keeps_mail_closeIntegrityTx now errorCode message).bind fun _ => Keeps.ite (hn _) (Keeps.pure _)

theorem keeps_mail_finishRouteWith (e : ExecutionId) (current : ExecutionRow) (r : TerminalRoute) :
    Keeps mail (finishRouteWith now notify e current r) := by
  unfold finishRouteWith
  split
  · exact keeps_mail_failExecutionIntegrityWith now hn e _ _
  · exact (keeps_mail_refreshExecutionCountsTx e).bind fun _ => (keeps_mail_closeRouteTx now r).bind fun _ =>
      Keeps.ite (hn _) (Keeps.pure _)

theorem keeps_mail_terminalizeExecutionWith (e : ExecutionId) (kind : Option WorkflowTerminalKind)
    (source : Option ProcessRecord) (routeDigest : RouteDigest) (errorCode : Option String)
    (disposition : Option ResultDisposition) :
    Keeps mail (terminalizeExecutionWith now notify e kind source routeDigest errorCode disposition) := by
  refine (Keeps.orRaise _ _).bind fun k => (keeps_execution e).bind fun current => Keeps.ite (Keeps.pure _) ?_
  have finish := keeps_mail_finishRouteWith now hn e current ⟨k, source, routeDigest, errorCode, disposition⟩
  split
  · exact (keeps_mail_cancelScatterChildrenWith now hn e current).bind fun _ => finish
  · exact finish

theorem keeps_mail_maybeConvergeScatterRootWith (e : ExecutionId) :
    Keeps mail (maybeConvergeScatterRootWith now notify e) := by
  refine (keeps_execution e).bind fun current => Keeps.get.bind fun db => Keeps.ite (Keeps.pure _) ?_
  have fail (code message : String) : Keeps mail (do failExecutionIntegrityWith now notify e code message; pure true) :=
    (keeps_mail_failExecutionIntegrityWith now hn e code message).bind fun _ => Keeps.pure _
  have finish (kind : Option WorkflowTerminalKind) (source : Option ProcessRecord) (digest : RouteDigest)
      (error : Option String) (disposition : Option ResultDisposition) :
      Keeps mail (do terminalizeExecutionWith now notify e kind source digest error disposition; pure true) :=
    (keeps_mail_terminalizeExecutionWith now hn e kind source digest error disposition).bind fun _ => Keeps.pure _
  split
  · exact fail _ _
  split
  · exact fail _ _
  · split
    · exact fail _ _
    · exact finish _ _ _ _ _
  split
  · exact fail _ _
  refine Keeps.ite (Keeps.pure _) ?_
  dsimp only
  split
  · exact finish _ _ _ _ _
  split
  · exact fail _ _
  · exact finish _ _ _ _ _

theorem keeps_mail_notifyParentWith (parent : Option ExecutionId) : Keeps mail (notifyParentWith now notify parent) := by
  cases parent with
  | none => exact Keeps.pure _
  | some p =>
    refine (keeps_execution p).bind fun row => Keeps.ite ?_ (Keeps.ite ?_ (Keeps.pure _))
    · exact (keeps_mail_convergeCancellationWith now hn p).bind fun _ => Keeps.pure _
    · exact (keeps_mail_maybeConvergeScatterRootWith now hn p).bind fun _ => Keeps.pure _

end closing

section closed

variable (now : Time) (e : ExecutionId)

theorem keeps_mail_notifyScatterParentTerminalTx (parent : Option ExecutionId) :
    Keeps mail (notifyScatterParentTerminalTx now parent) := by
  have depth (n : Nat) : ∀ parent, Keeps mail (notifyDepth now n parent) := by
    induction n with
    | zero => exact keeps_mail_notifyParentWith now fun _ => Keeps.pure _
    | succ n ih => exact keeps_mail_notifyParentWith now ih
  exact Keeps.get.bind fun _ => depth _ parent

theorem keeps_mail_convergeCancellationTx : Keeps mail (convergeCancellationTx now e) :=
  keeps_mail_convergeCancellationWith now (keeps_mail_notifyScatterParentTerminalTx now) e

theorem keeps_mail_cancelExecutionTreeTx (includeRoot : Bool) : Keeps mail (cancelExecutionTreeTx now e includeRoot) :=
  keeps_mail_cancelExecutionTreeWith now (keeps_mail_notifyScatterParentTerminalTx now) e includeRoot

theorem keeps_mail_failExecutionIntegrityTx (errorCode message : String) :
    Keeps mail (failExecutionIntegrityTx now e errorCode message) :=
  keeps_mail_failExecutionIntegrityWith now (keeps_mail_notifyScatterParentTerminalTx now) e errorCode message

theorem keeps_mail_terminalizeExecutionTx (kind : Option WorkflowTerminalKind) (source : Option ProcessRecord)
    (routeDigest : RouteDigest) (errorCode : Option String) (disposition : Option ResultDisposition) :
    Keeps mail (terminalizeExecutionTx now e kind source routeDigest errorCode disposition) :=
  keeps_mail_terminalizeExecutionWith now (keeps_mail_notifyScatterParentTerminalTx now) e kind source routeDigest
    errorCode disposition

theorem keeps_mail_maybeConvergeScatterRootTx : Keeps mail (maybeConvergeScatterRootTx now e) :=
  keeps_mail_maybeConvergeScatterRootWith now (keeps_mail_notifyScatterParentTerminalTx now) e

end closed

/-! ### transactions that post -/

section posting

variable {W D : OutboxId → Prop} {b : Database} {α : Type}

theorem posting_of_mail {x : Tx α} (hx : Keeps mail x) : Posting W D b x := by
  intro s a t hs ht
  have keep := hx s a t ht
  simp only [mail, Prod.mk.injEq] at keep
  obtain ⟨hid, houtbox⟩ := keep
  exact hs.of_outbox (fun e i hi => by rw [hid]; exact hi) houtbox

/-- The database a transaction starts from may be taken for the base, with what is known of it. -/
theorem posting_rebase {P : Database → Prop} {x : Tx α} (h : ∀ s, P s → Posting W D s x) :
    Triple (fun s => Posts W D b s ∧ P s) x fun _ => Posts W D b :=
  fun s a t hs ht => hs.1.trans (h s hs.2 s a t (.refl hs.1.addressed) ht)

theorem posting_get {f : Database → Tx α} (h : ∀ s, Posting W D s (f s)) : Posting W D b (get >>= f) := by
  refine Triple.get.bind fun db => (posting_rebase (P := (db = ·)) ?_).pre fun s hs => ⟨hs.2, hs.1⟩
  rintro s rfl
  exact h db

theorem posting_execution {e : ExecutionId} {f : ExecutionRow → Tx α} (h : ∀ row, Posting W D b (f row)) :
    Posting W D b (execution e >>= f) :=
  (posting_of_mail (keeps_execution e)).bind h

theorem Posts.insertExecution {s t : Database} (hs : Posts W D b s) {row : ExecutionRow}
    (h : t.executions = s.executions.insert row) (houtbox : t.outbox = s.outbox) : Posts W D b t :=
  hs.of_outbox (fun _ _ => identityOf_insert h) houtbox

theorem dated_insertExecution {s t : Database} (row : ExecutionRow) (h : t.executions = s.executions.insert row)
    (task : Option TaskId) : (OutboxPayload.wakeExecution s.executions.next task (some row.generation)).Dated t := by
  intro e he
  obtain rfl := OutboxOwner.execution.inj he
  exact .inr ⟨row.identity, identityOf_eq_some.2 ⟨row, by rw [h, Table.get?_insert_self], rfl⟩, rfl⟩

theorem Posts.insert {s : Database} (hs : Posts W D b s) {row : OutboxRow} (hrow : row.Addressed s)
    (hstatus : row.Unleased) : Posts W D b { s with outbox := s.outbox.insert row } := by
  refine ⟨hs.known, fun o r hr => ?_, fun o r hr => (hs.kept o r hr).imp_right fun hold => ?_,
    fun o r hr => ?_, fun o ⟨r, hr, hdead⟩ => ?_⟩
  · rcases Table.get?_insert_eq_some hr with ⟨-, rfl⟩ | hold
    · exact hrow.mono fun _ _ h => h
    · exact (hs.addressed o r hold).mono fun _ _ h => h
  · exact (Table.get?_insert_of_lt (Table.lt_next hold)).trans hold
  · rcases Table.get?_insert_eq_some hr with ⟨-, rfl⟩ | hold
    · exact .inr (.inr hstatus)
    · exact hs.new o r hold
  · rcases Table.get?_insert_eq_some hr with ⟨-, rfl⟩ | hold
    · exact absurd (hstatus.1.symm.trans hdead) (by simp)
    · exact hs.died o ⟨r, hold, hdead⟩

theorem posting_enqueueTx (now : Time) {team : TeamId} {payload : OutboxPayload} {key : DedupeKey}
    (hpayload : payload.Dated b) : Posting W D b (enqueueTx now team payload key) := by
  refine Triple.modify fun s hs => ?_
  split
  · exact hs
  · exact hs.insert ⟨rfl, rfl, rfl, rfl, hpayload.mono hs.known⟩ ⟨rfl, rfl⟩

theorem posting_casOutbox {o : OutboxId} {c : OutboxRow → Bool} {g : OutboxRow → OutboxRow}
    (hg : ∀ s row, row.Addressed s → (g row).Addressed s) (ho : W o)
    (hdies : ∀ row, (g row).status = .dead → D o ∨ row.status = .dead) : Posting W D b (casOutbox o c g) := by
  intro s a t hs h
  rcases compareAndSet_ok h with ⟨-, rfl, -⟩ | ⟨-, rfl, -⟩
  · exact hs
  have old {k : OutboxId} {row : OutboxRow} (hrow : (s.outbox.modify o g).get? k = some row) :
      ∃ r, s.outbox.get? k = some r ∧ row = if k = o then g r else r := by
    rw [Table.get?_modify] at hrow
    obtain ⟨r, hr, heq⟩ := Option.map_eq_some_iff.1 hrow
    exact ⟨r, hr, heq.symm⟩
  refine ⟨hs.known, fun k row hrow => ?_, fun k row hrow => ?_, fun k row hrow => ?_, fun k ⟨row, hrow, hdead⟩ => ?_⟩
  · obtain ⟨r, hr, rfl⟩ := old hrow
    have haddressed := hs.addressed k r hr
    split
    · exact (hg s r haddressed).mono fun _ _ h => h
    · exact haddressed.mono fun _ _ h => h
  · by_cases hk : k = o
    · exact .inl (hk ▸ ho)
    · exact (hs.kept k row hrow).imp_right fun hold => (Table.get?_modify_of_ne hk g).trans hold
  · by_cases hk : k = o
    · exact .inl (hk ▸ ho)
    · exact hs.new k row ((Table.get?_modify_of_ne hk g).symm.trans hrow)
  · obtain ⟨r, hr, rfl⟩ := old hrow
    split at hdead
    · next hk =>
      rcases hdies r hdead with hD | hr'
      · exact .inl (hk ▸ hD)
      · exact hs.died k ⟨r, hr, hr'⟩
    · exact hs.died k ⟨r, hr, hdead⟩

end posting

end KnowledgeBase
