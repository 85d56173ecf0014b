import KnowledgeBase.Invariant.Processes

/-!
# The actual binding

The actual binding of an Execution is sealed at most once, and no Process behind the clean boundary stands under an
Execution that is not sealed. `bindings` is this as an engine invariant, relative to a database the run passed
through; `follows_systemStep` and `bonded_systemStep` are what a step of the system keeps of it.
-/

namespace KnowledgeBase

open Transaction Database

/-! ### the contract of the bindings -/

/-- An actual binding as the engine leaves it: unsealed and absent, or sealed and present. -/
def ActualBond.Intact (b : ActualBond) : Prop := b = (.unsealed, none) ∨ ∃ binding, b = (.sealed, some binding)

namespace Database

/-- The part of the database the bindings are a property of. -/
def contract (s : Database) : (Shape × (ExecutionId → Option ActualBond)) × (ProcessId → Option (ExecutionId × String)) :=
  ((s.shape, s.bondOf), s.placeOf)

/-- A Process behind the clean boundary stands under a sealed Execution, unless the intent of its Task skips the seal. -/
def Covered (s : Database) (place : ExecutionId × String) : Prop :=
  requiresActualBinding place.2 = true → ∃ i h b, s.identityOf place.1 = some i ∧ s.headOf i.task = some h ∧
    s.bondOf place.1 = some b ∧ (h.requestIntent.skipsActualBinding = true ∨ b.1 = .sealed)

/-- The bindings of a database that follows another. -/
structure BindingsSince (s₀ s : Database) : Prop where
  follows : s₀.Follows s
  intact : ∀ e b, s.bondOf e = some b → b.Intact
  covered : ∀ p place, s.placeOf p = some place → s.Covered place

section contract

variable {s₀ s t : Database}

theorem BindingsSince.of_contract (h : t.contract = s.contract) (hs : s₀.BindingsSince s) : s₀.BindingsSince t := by
  obtain ⟨hsb, hplaces⟩ := Prod.mk.inj h
  obtain ⟨hshape, hbonds⟩ := Prod.mk.inj hsb
  refine ⟨hs.follows.trans (.of_bonds hbonds), fun e b hb => hs.intact e b (by rw [← hbonds]; exact hb),
    fun p place hp hreq => ?_⟩
  obtain ⟨i, k, b, hi, hk, hb, hc⟩ := hs.covered p place (by rw [← hplaces]; exact hp) hreq
  exact ⟨i, k, b, by rw [identityOf_eq hshape]; exact hi, by rw [headOf_eq hshape]; exact hk,
    by rw [hbonds]; exact hb, hc⟩

end contract

end Database

theorem ProcessFrame.contract : ProcessFrame Database.contract := (ProcessFrame.shape.prod .bonds).prod .places

theorem bindings_of_keeps {α : Type} {s₀ : Database} {x : Tx α} (hx : Keeps Database.contract x) :
    Triple (fun s => s₀.BindingsSince s) x fun _ s => s₀.BindingsSince s :=
  fun s a t hs ht => hs.of_contract (hx s a t ht)

/-! ### the seal -/

theorem bindings_sealActualBindingTx {s₀ : Database} (e : ExecutionId) (key : RouteDecisionPayload)
    (cleanStepKey cleanProcessKey : String) (strategy : CleanStrategy) :
    Triple (fun s => s₀.BindingsSince s) (sealActualBindingTx e key cleanStepKey cleanProcessKey strategy)
      fun _ s => s₀.BindingsSince s := by
  intro s a t hs ht
  have follows := follows_sealActualBindingTx e key cleanStepKey cleanProcessKey strategy s a t hs.follows ht
  have advances := follows_sealActualBindingTx e key cleanStepKey cleanProcessKey strategy s a t (.refl s) ht
  have shape := keeps_shape_sealActualBindingTx e key cleanStepKey cleanProcessKey strategy s a t ht
  have processes : t.processes = s.processes := by
    refine (Keeps.get.bind fun _ => (Keeps.orRaise _ _).bind fun _ => Keeps.bind (keeps_compareAndSet fun _ => ?_)
      fun _ => Keeps.raiseIf _ _ : Keeps Database.processes
        (sealActualBindingTx e key cleanStepKey cleanProcessKey strategy)) s a t ht
    rfl
  refine ⟨follows, fun k b hb => ?_, fun p place hp hreq => ?_⟩
  · -- the Execution was there before, and its binding is the one it had or a sealed one
    have hi : (t.identityOf k).isSome := by
      obtain ⟨row, hrow, -⟩ := Option.map_eq_some_iff.1 hb
      simp [identityOf, hrow]
    rw [identityOf_eq shape] at hi
    obtain ⟨i, hi⟩ := Option.isSome_iff_exists.1 hi
    obtain ⟨row, hrow, -⟩ := identityOf_eq_some.1 hi
    obtain ⟨c, hc, ha⟩ := advances k row hrow
    rw [hb] at hc
    obtain rfl := Option.some.inj hc
    rcases ha with rfl | ⟨-, binding, rfl⟩
    · exact hs.intact k row.bond (bondOf_of_get? hrow)
    · exact Or.inr ⟨binding, rfl⟩
  · have hplace : s.placeOf p = some place := by
      unfold placeOf at hp ⊢
      rwa [processes] at hp
    obtain ⟨i, h, b, hi, hh, hb, hc⟩ := hs.covered p place hplace hreq
    obtain ⟨row, hrow, rfl⟩ := Option.map_eq_some_iff.1 hb
    obtain ⟨b', hb', ha⟩ := advances place.1 row hrow
    refine ⟨i, h, b', by rw [identityOf_eq shape]; exact hi, by rw [headOf_eq shape]; exact hh, hb', ?_⟩
    rcases hc with hskip | hsealed
    · exact Or.inl hskip
    · rcases ha with rfl | ⟨-, binding, rfl⟩
      · exact Or.inr hsealed
      · exact Or.inr rfl

/-! ### a materialized Process -/

theorem sealed_of_recalls {s₀ s : Database} (hs : s₀.BindingsSince s) {e : ExecutionId} {row : ExecutionRow}
    {intent : RequestIntent} {processKey : String} (hrow : s.Recalls e row)
    (hfence : actualBindingError row intent processKey = none) (hreq : requiresActualBinding processKey = true) :
    ∃ b, s.bondOf e = some b ∧ (intent.skipsActualBinding = true ∨ b.1 = .sealed) := by
  obtain ⟨b, hb, ha⟩ := hrow
  refine ⟨b, hb, ?_⟩
  by_cases hskip : intent.skipsActualBinding = true
  · exact Or.inl hskip
  · right
    simp only [actualBindingError, hreq, hskip, Bool.not_false, Bool.and_self, if_true] at hfence
    have hne : row.bindingState ≠ .unsealed := by
      intro h
      simp [h] at hfence
    rcases ha with rfl | ⟨hu, -⟩
    · rcases hs.intact e _ hb with h | ⟨binding, h⟩
      · exact absurd (congrArg Prod.fst h) hne
      · rw [h]
    · exact absurd (congrArg Prod.fst hu) hne

theorem bindings_insertProcessTx {s₀ : Database} (now : Time) (e : ExecutionId) (process : ProcessRow) :
    Triple (fun s => s₀.BindingsSince s ∧ s.Covered process.place) (insertProcessTx now e process)
      fun _ s => s₀.BindingsSince s := by
  refine Triple.get_frame.bind fun db => (Triple.modify (Q := fun _ s => s₀.BindingsSince s) fun s h => ?_).bind
    fun _ => bindings_of_keeps <| (ProcessFrame.contract.casExecution (fun _ => by rfl) _ _).bind fun _ =>
      Keeps.guard <| ProcessFrame.contract.of_core (keeps_core_enqueueTx _ _ _ _)
  refine ⟨h.1.follows.trans (.of_bonds rfl), h.1.intact, fun p place hp => ?_⟩
  obtain ⟨row, hrow, rfl⟩ := Option.map_eq_some_iff.1 hp
  rcases Table.get?_insert_eq_some hrow with ⟨rfl, rfl⟩ | hrow
  · exact h.2
  · exact h.1.covered p row.place (by simp [placeOf, hrow])

/-! ### new Executions and new Tasks -/

/-- New Executions whose bindings are intact, and Tasks that keep their intents. -/
theorem Database.BindingsSince.grow {s₀ s t : Database} (hs : s₀.BindingsSince s) (hprocesses : t.processes = s.processes)
    (hold : ∀ e row, s.executions.get? e = some row → t.executions.get? e = some row)
    (hnew : ∀ e row, t.executions.get? e = some row → s.executions.get? e = some row ∨ row.bond.Intact)
    (htasks : ∀ k h, s.headOf k = some h → ∃ h', t.headOf k = some h' ∧ h'.requestIntent = h.requestIntent) :
    s₀.BindingsSince t := by
  refine ⟨hs.follows.trans fun e row hrow => .of_get? (hold e row hrow), fun e b hb => ?_, fun p place hp hreq => ?_⟩
  · obtain ⟨row, hrow, rfl⟩ := Option.map_eq_some_iff.1 hb
    rcases hnew e row hrow with h | h
    · exact hs.intact e row.bond (bondOf_of_get? h)
    · exact h
  · have hplace : s.placeOf p = some place := by
      unfold placeOf at hp ⊢
      rwa [hprocesses] at hp
    obtain ⟨i, h, b, hi, hh, hb, hc⟩ := hs.covered p place hplace hreq
    obtain ⟨row, hrow, rfl⟩ := identityOf_eq_some.1 hi
    obtain ⟨h', hh', hintent⟩ := htasks _ h hh
    rw [bondOf_of_get? hrow] at hb
    obtain rfl := Option.some.inj hb
    exact ⟨row.identity, h', row.bond, identityOf_of_get? (hold _ row hrow), hh', bondOf_of_get? (hold _ row hrow),
      by rwa [hintent]⟩

/-! ### the engine invariant -/

theorem contract_fenceExecution (now : Time) (e : ExecutionId) (s : Database) :
    (fenceExecution now e s).contract = s.contract := by
  refine Prod.ext rfl (funext fun p => ?_)
  dsimp only [Database.contract, placeOf, fenceExecution, updateProcessesOf]
  rw [place_update (by intro _; rfl), place_update (by intro _; rfl), place_update (by intro _; rfl)]

theorem contract_cancelTree (now : Time) (root : ExecutionId) (s : Database) :
    (cancelTree now root s).contract = s.contract := by
  have bonds : (cancelTree now root s).bondOf = s.bondOf := by
    funext e
    unfold cancelTree bondOf
    simp only [Table.get?_update, Option.map_map]
    congr 1
    funext row
    simp only [Function.comp_apply]
    split <;> rfl
  refine Prod.ext (Prod.ext (shape_cancelTree now root s) bonds) ?_
  funext p
  dsimp only [Database.contract, placeOf, cancelTree]
  rw [place_update (by intro _; rfl)]

theorem keeps_contract_requestCancelling (now : Time) (e : ExecutionId) :
    Keeps Database.contract (requestCancelling now e) :=
  (ProcessFrame.contract.casExecution (fun _ => by rfl) _ _).bind fun _ =>
    (Keeps.modify fun s => by exact contract_fenceExecution now e s).bind fun _ => Keeps.pure _

theorem keeps_contract_cancelTaskTx (now : Time) (t : TaskId) (expectedRevision : Nat) :
    Keeps Database.contract (cancelTaskTx now t expectedRevision) :=
  (keeps_visibleTask t).bind fun task => Keeps.guard <| Keeps.ite (Keeps.pure _)
    ((ProcessFrame.contract.casTask (fun _ => by rfl) _ _).bind fun _ => Keeps.guard <|
      (Keeps.modify fun s => by exact contract_cancelTree now task.currentRoot s).bind fun _ =>
        (ProcessFrame.contract.of_core (keeps_core_enqueueTx _ _ _ _)).bind fun _ => Keeps.pure _)

theorem keeps_contract_decideGateTx (d : Deployment) (now : Time) (request : GateDecisionRequest) :
    Keeps Database.contract (decideGateTx d now request) := by
  intro s a t h
  have tables := keeps_decideGateTx d now request s a t h
  simp only [Prod.mk.injEq] at tables
  obtain ⟨htasks, hexecutions, hprocesses⟩ := tables
  unfold Database.contract Database.shape identityOf headOf bondOf placeOf
  rw [htasks, hexecutions, hprocesses]

section instance_

variable (d : Deployment) (s₀ : Database)

/-- The bindings through the routes. -/
def bindingsRoute : RouteInvariant d where
  Holds _ s := s₀.BindingsSince s
  Stop _ _ := True
  leave h := h
  closed _ h _ := h
  enterJoin _ h _ _ _ _ := h
  refresh _ e := (bindings_of_keeps (ProcessFrame.contract.refreshExecutionCountsTx e)).pre fun _ h => h.2
  cancelChild now _ e _ _ _ := (bindings_of_keeps (keeps_contract_requestCancelling now e)).pre fun _ h => h.1.2
  cancelMember now _ e _ _ := ((bindings_of_keeps (keeps_contract_requestCancelling now e)).pre fun _ h => h.1.2).post
    fun _ _ h => ⟨h, trivial⟩
  closeCancelled now _ e current _ :=
    (bindings_of_keeps (ProcessFrame.contract.closeCancelledTx now e current)).pre fun _ h => h.1.2
  closeIntegrity now tr current errorCode message _ :=
    (bindings_of_keeps (ProcessFrame.contract.closeIntegrityTx now tr.execution current errorCode message)).pre
      fun _ h => h.2
  closeRoute now tr current r _ _ _ :=
    (bindings_of_keeps (ProcessFrame.contract.closeRouteTx now tr.execution current r)).pre fun _ h => h.2
  core {_ s t} hc h := BindingsSince.of_contract (ProcessFrame.contract.core t s hc) h
  insertProcess now tr _ _ _ _ _ _ target row task input key _ _ _ hid hfence := by
    refine (bindings_insertProcessTx now tr.execution (newProcess d now tr.execution row task target key input)).pre
      fun s h => ⟨h.1.2, fun hreq => ?_⟩
    obtain ⟨⟨hshaped, hs⟩, htask, hrow, -⟩ := h
    obtain ⟨b, hb, hc⟩ := sealed_of_recalls hs hrow hfence hreq
    refine ⟨row.identity, task.head, b, ?_, headOf_of_get? htask, hb, hc⟩
    rw [hid]
    exact hshaped.2 tr rfl
  openGate tr _ _ _ _ _ _ _ _ _ _ _ _ _ _ := (bindings_of_keeps <| Keeps.get.bind fun _ =>
    (Keeps.modify fun _ => by rfl).bind fun _ => (ProcessFrame.contract.casExecution (fun _ => by rfl) _ _).bind
      fun _ => Keeps.raiseIf _ _).pre fun _ h => h.1.2
  releaseChild now tr row changeSet child _ := (bindings_of_keeps <|
    (ProcessFrame.contract.casExecution (fun _ => by rfl) _ _).bind fun _ =>
      Keeps.ite (ProcessFrame.contract.of_core (keeps_core_enqueueTx _ _ _ _)) (Keeps.pure _)).pre fun _ h => h.1.2
  joinWait tr _ _ _ _ _ _ changeSet _ :=
    (bindings_of_keeps (ProcessFrame.contract.casExecution (fun _ => by rfl) _ _)).pre fun _ h => h.1.2
  zeroJoin _ _ h _ := h
  follow _ _ _ _ _ _ h := h
  unfollow _ _ _ h := h
  sealBinding tr key cleanStepKey cleanProcessKey strategy :=
    (bindings_sealActualBindingTx tr.execution key cleanStepKey cleanProcessKey strategy).pre fun _ h => h.2

theorem bindings_insertChildExecutionTx (now : Time) (e : ExecutionId) (root : ExecutionRow)
    (acceptance : ScatterCollectionAcceptance) (member : ScatterMember) :
    Triple (fun s => s₀.BindingsSince s ∧ s.Recalls e root) (insertChildExecutionTx now e root acceptance member)
      fun _ s => s₀.BindingsSince s := by
  refine Triple.get_frame.bind fun _ => (Triple.modify (Q := fun _ s => s₀.BindingsSince s) fun s hs => ?_).bind fun _ =>
    bindings_of_keeps (Keeps.ite (ProcessFrame.contract.of_core (keeps_core_enqueueTx _ _ _ _)) (Keeps.pure _))
  obtain ⟨h, b, hb, ha⟩ := hs
  have hroot : root.bond.Intact := by
    rcases ha with rfl | ⟨hu, -⟩
    · exact h.intact e _ hb
    · exact Or.inl hu
  refine h.grow rfl (fun k row hrow => ?_) (fun k row hrow => ?_) fun k head hhead => ⟨head, hhead, rfl⟩
  · simp [Table.get?_insert_of_lt (Table.lt_next hrow), hrow]
  · rcases Table.get?_insert_eq_some hrow with ⟨-, rfl⟩ | hrow
    · exact Or.inr hroot
    · exact Or.inl hrow

theorem bindings_createTaskTx (now : Time) (request : TaskCreateRequest) :
    Triple (fun s => s₀.BindingsSince s) (createTaskTx d now request) fun _ s => s₀.BindingsSince s := by
  refine Triple.ofExcept_frame.bind fun _ => Triple.guard <| Triple.get.bind fun db => ?_
  refine (Triple.set (Q := fun _ s => s₀.BindingsSince s) fun s h => ?_).bind fun _ =>
    (bindings_of_keeps (ProcessFrame.contract.of_core (keeps_core_enqueueTx _ _ _ _))).bind fun _ =>
      Triple.keep
  obtain ⟨rfl, h⟩ := h
  refine h.grow rfl (fun k row hrow => ?_) (fun k row hrow => ?_) fun k head hhead => ?_
  · simp [Table.get?_insert_of_lt (Table.lt_next hrow), hrow]
  · rcases Table.get?_insert_eq_some hrow with ⟨-, rfl⟩ | hrow
    · exact Or.inr (Or.inl rfl)
    · exact Or.inl hrow
  · obtain ⟨row, hrow, rfl⟩ := Option.map_eq_some_iff.1 hhead
    exact ⟨row.head, by simp [headOf, Table.get?_insert_of_lt (Table.lt_next hrow), hrow], rfl⟩

theorem bindings_retryTaskTx (now : Time) (t : TaskId) (expectedRevision reason : Nat) :
    Triple (fun s => s₀.BindingsSince s) (retryTaskTx d now t expectedRevision reason)
      fun _ s => s₀.BindingsSince s := by
  refine (bindings_of_keeps (keeps_visibleTask t)).bind fun task => Triple.get.bind fun db => ?_
  refine Triple.ite (fun _ => Triple.pure fun _ h => h.2) fun _ => ?_
  refine Triple.guard <| Triple.guard <| Triple.guard <|
    Triple.ofExcept_frame.bind fun _ => (Triple.orRaise (Q := fun previous s => db.executions.get? task.currentRoot =
      some previous ∧ db = s ∧ s₀.BindingsSince s) fun s previous h hp => ⟨hp, h⟩).bind fun previous => ?_
  refine Triple.guard <| Triple.guard <| Triple.guard <|
    Triple.guard <| ?_
  refine (Triple.set (Q := fun _ s => s₀.BindingsSince s) fun s h => ?_).bind fun _ => ?_
  · obtain ⟨hp, rfl, h⟩ := h
    refine h.grow rfl (fun k row hrow => ?_) (fun k row hrow => ?_) fun k head hhead => ⟨head, hhead, rfl⟩
    · simp [Table.get?_insert_of_lt (Table.lt_next hrow), hrow]
    · rcases Table.get?_insert_eq_some hrow with ⟨-, rfl⟩ | hrow
      · exact Or.inr (show previous.bond.Intact from h.intact _ _ (bondOf_of_get? hp))
      · exact Or.inl hrow
  · refine (Triple.casTask (Q := fun _ s => s₀.BindingsSince s) (fun _ h _ => h) fun s row h _ _ => ?_).bind fun _ =>
      (bindings_of_keeps (ProcessFrame.contract.of_core (keeps_core_enqueueTx _ _ _ _))).bind fun _ =>
        Triple.keep
    refine h.grow rfl (fun _ _ hrow => hrow) (fun _ _ hrow => Or.inl hrow) fun k head hhead => ?_
    obtain ⟨q, hq, rfl⟩ := Option.map_eq_some_iff.1 hhead
    by_cases hk : k = t
    · subst hk
      exact ⟨_, headOf_of_get? (get?_updateTask_self hq), rfl⟩
    · exact ⟨q.head, by simp [headOf, updateTask, Table.get?_modify, hq, hk], rfl⟩

/-- The bindings through every operation of the engine. -/
def bindings : EngineInvariant d where
  during _ := bindingsRoute d s₀
  Wake _ _ := True
  Consume _ _ := True
  Dead _ _ := True
  Restart _ _ := True
  dead_core _ _ := trivial
  drop h := h
  pendLeases _ h _ _ := h
  pendStalled _ h := h
  pendWaits _ h := h
  admitWaiting now := (bindings_of_keeps (ProcessFrame.contract.admitWaitingProcessesTx d now)).pre fun _ h => h.2
  claimCandidate now request c :=
    (bindings_of_keeps (ProcessFrame.contract.claimCandidateTx now request c)).pre fun _ h => h.1.2
  markRunning now p fence := (bindings_of_keeps (ProcessFrame.contract.markRunningTx now p fence)).pre fun _ h => h.2
  heartbeat now p fence leaseSeconds :=
    (bindings_of_keeps (ProcessFrame.contract.heartbeatTx now p fence leaseSeconds)).pre fun _ h => h.2
  acceptSnapshot _ e row snapshot changeSet :=
    (bindings_of_keeps (ProcessFrame.contract.acceptSnapshotTx e row.task snapshot changeSet)).pre fun _ h => h.1.2
  bindCollection _ e row acceptance :=
    (bindings_of_keeps (ProcessFrame.contract.bindCollectionTx e row.task acceptance)).pre fun _ h => h.1.2
  insertChild now _ e _ root acceptance member _ _ :=
    (bindings_insertChildExecutionTx s₀ now e root acceptance member).pre fun _ h => ⟨h.1.2, h.2.2⟩
  succeed now p _ _ outcome _ _ :=
    ((bindings_of_keeps (ProcessFrame.contract.succeedProcessTx now p outcome)).pre fun _ h => h.1.2).post
      fun _ _ h => ⟨h, fun _ _ _ _ _ => h⟩
  failEnter now _ p errorCode failureDisposition acceptedOutcome :=
    ((bindings_of_keeps (ProcessFrame.contract.failProcessTx now p errorCode failureDisposition acceptedOutcome)).pre
      fun _ h => h.1.2).post fun _ _ h _ _ _ _ _ _ => h
  awaitRetry p _ _ outcome due := (bindings_of_keeps (ProcessFrame.contract.awaitRetryTx p outcome due)).pre
    fun _ h => h.1.2
  awaitRetryDue p e due := (bindings_of_keeps (ProcessFrame.contract.awaitRetryDueTx e p due)).pre fun _ h => h.1.2
  promoteRetry now p := (bindings_of_keeps (ProcessFrame.contract.promoteRetryTx now p)).pre fun _ h => h.2
  cancelExpired now _ p := (bindings_of_keeps (ProcessFrame.contract.cancelExpiredTx now p)).pre fun _ h => h.2
  replayExpired now _ p _ := (bindings_of_keeps (ProcessFrame.contract.replayExpiredTx now p)).pre fun _ h => h.2
  stopHalted _ _ _ _ _ := trivial
  decideGate now request := (bindings_of_keeps (keeps_contract_decideGateTx d now request)).pre fun _ h => h.2
  resume _ _ g gate row := ((bindings_of_keeps (ExecutionFrame.resumeFromGateTx ProcessFrame.contract.toExecutionFrame
    gate.execution g row)).pre fun _ h => h.1.2).post fun _ _ h => ⟨h, fun _ _ _ _ _ _ _ _ _ _ _ => Or.inr h⟩
  wake _ h _ _ _ _ _ _ _ _ := Or.inr h
  stalled _ h _ _ := h
  breakWait _ h _ := h
  closeDead now e row errorCode error := (bindings_of_keeps (ExecutionFrame.closeDeadTx now
    ProcessFrame.contract.toExecutionFrame e row errorCode error)).pre fun _ h => h.1.2
  clearCurrent _ _ :=
    (bindings_of_keeps (ProcessFrame.contract.casExecution (fun _ => by rfl) _ _)).pre fun _ h => h.1.2
  projectTerminal now e row :=
    (bindings_of_keeps (ProcessFrame.contract.projectTaskStatusTx now _ _)).pre fun _ h => h.1.2
  markCleanup now p := (bindings_of_keeps (ProcessFrame.contract.markCleanupEligibleTx now p)).pre fun _ h => h.2
  createTask now request := (bindings_createTaskTx d s₀ now request).pre fun _ h => h.2
  patchTask t expectedRevision priority :=
    (bindings_of_keeps (ProcessFrame.contract.patchTaskTx d t expectedRevision priority)).pre fun _ h => h.2
  cancelTask now t expectedRevision :=
    (bindings_of_keeps (keeps_contract_cancelTaskTx now t expectedRevision)).pre fun _ h => h.2
  retryTask now t expectedRevision reason := (bindings_retryTaskTx d s₀ now t expectedRevision reason).pre fun _ h => h.2
  softDelete t expectedRevision :=
    (bindings_of_keeps (ProcessFrame.contract.softDeleteTaskTx t expectedRevision)).pre fun _ h => h.2
  restart p fence := (bindings_of_keeps (ProcessFrame.contract.fenceRestartTx p fence)).pre fun _ h => h.1.2

end instance_

end KnowledgeBase
