import KnowledgeBase.Simulation.Alike

/-!
# Projections and terminal transitions of alike stores

Every operation that counts, projects, cancels or closes keeps two stores alike; the operations that close an
Execution end its lag.
-/

namespace KnowledgeBase

open Transaction

variable {lag : Option ExecutionId}

/-! ### the Task status -/

/-- A projection without the texts of the failure. -/
def TaskProjection.shared (p : TaskProjection) : TaskProjection := { p with errorCode := none, errorMessage := none }

theorem TaskProjection.reads {γ : Type} {p p' : TaskProjection} (h : p.shared = p'.shared) (f : TaskProjection → γ)
    (hf : ∀ p : TaskProjection, f p = f p.shared) : f p = f p' := by
  rw [hf p, hf p', h]

theorem TaskRow.shared_project (now : Time) {p p' : TaskProjection} {r r' : TaskRow} (hp : p.shared = p'.shared)
    (hr : r.shared = r'.shared) : (TaskRow.project now p r).shared = (TaskRow.project now p' r').shared := by
  have h := congrArg₂ (fun (p : TaskProjection) (r : TaskRow) => (TaskRow.project now p r).shared) hp hr
  exact h

theorem paired_projectTaskStatusTx (now : Time) (k : TaskId) {p p' : TaskProjection} (hp : p.shared = p'.shared) :
    Paired lag (projectTaskStatusTx now k p) (projectTaskStatusTx now k p') := by
  refine Coupled.readBind fun a b hab => ?_
  have hrow := hab.task k
  generalize a.tasks.get? k = o at hrow
  generalize b.tasks.get? k = o' at hrow
  cases hrow with
  | none => exact Coupled.done
  | @some r r' hr =>
    have htarget : p.target = p'.target := TaskProjection.reads hp (·.target) fun _ => rfl
    have hgeneration : p.expectedGeneration = p'.expectedGeneration :=
      TaskProjection.reads hp (·.expectedGeneration) fun _ => rfl
    have hroot : p.currentRoot = p'.currentRoot := TaskProjection.reads hp (·.currentRoot) fun _ => rfl
    have hproof : p.proofRef = p'.proofRef := TaskProjection.reads hp (·.proofRef) fun _ => rfl
    have hdisposition : p.resultDisposition = p'.resultDisposition :=
      TaskProjection.reads hp (·.resultDisposition) fun _ => rfl
    have hstatus : r.status = r'.status := TaskRow.reads hr (·.status) fun _ => rfl
    have hrevision : r.rowRevision = r'.rowRevision := TaskRow.reads hr (·.rowRevision) fun _ => rfl
    have hintent : r.requestIntent = r'.requestIntent := TaskRow.reads hr (·.requestIntent) fun _ => rfl
    have hcurrent : r.currentGeneration = r'.currentGeneration := TaskRow.reads hr (·.currentGeneration) fun _ => rfl
    have hcurrentRoot : r.currentRoot = r'.currentRoot := TaskRow.reads hr (·.currentRoot) fun _ => rfl
    refine Coupled.ite (by rw [hgeneration, hcurrent]) (fun _ => Coupled.done) fun _ => ?_
    refine Coupled.ite (by rw [hroot, hcurrentRoot]) (fun _ => Coupled.done) fun _ => ?_
    refine (Coupled.raiseIf (by rw [htarget, hproof, hdisposition, hintent])).bind fun _ _ => ?_
    refine Coupled.pre ?_ fun s t hst => hst.2
    refine Coupled.ite (by rw [hstatus, htarget]) (fun _ => ?_) fun _ => Coupled.done
    refine coupled_casTask (fun q q' hq => ?_) fun q q' hq => ?_
    · rw [hstatus, hrevision, TaskRow.reads hq (·.status) fun _ => rfl, TaskRow.reads hq (·.rowRevision) fun _ => rfl]
    · exact TaskRow.shared_project now hp hq

theorem paired_projectRootTaskTx (now : Time) (e : ExecutionId) {row row' : ExecutionRow} {l : Prop}
    (hrow : row.Alike l row') (status : TaskStatus) (source : Option ProcessRecord)
    (errorCode errorCode' errorMessage errorMessage' : Option String) (disposition : Option ResultDisposition) :
    Paired lag (projectRootTaskTx now e row status source errorCode errorMessage disposition)
      (projectRootTaskTx now e row' status source errorCode' errorMessage' disposition) := by
  unfold projectRootTaskTx
  refine Coupled.ite (by rw [hrow.reads (·.root) fun _ => rfl]) (fun _ => Coupled.done)
    fun _ => ?_
  rw [hrow.reads (·.task) fun _ => rfl]
  refine Coupled.bindSame (paired_projectTaskStatusTx now row'.task ?_) fun _ => Coupled.done
  rfl

/-! ### counts -/

/-- Equal statuses, or a waiting one and a ready one. -/
def ExecutionStatus.Near (st st' : ExecutionStatus) : Prop := st = st' ∨ (st = .waiting ∧ st' = .ready)

theorem ExecutionRow.Alike.near {l : Prop} {r r' : ExecutionRow} (h : r.Alike l r') : r.status.Near r'.status :=
  h.status.imp (·.1) fun hl => ⟨hl.2.1, hl.2.2.2⟩

theorem ExecutionStatus.Near.reads {γ : Type} {st st' : ExecutionStatus} (h : st.Near st') {f : ExecutionStatus → γ}
    (hf : f .waiting = f .ready) : f st = f st' := by
  rcases h with rfl | ⟨rfl, rfl⟩
  · rfl
  · exact hf

theorem countP_of_near {l l' : List ExecutionStatus} (h : List.Forall₂ ExecutionStatus.Near l l')
    {p : ExecutionStatus → Bool} (hp : p .waiting = p .ready) : l.countP p = l'.countP p := by
  rw [List.countP_eq_length_filter, List.countP_eq_length_filter]
  exact (forall₂_filter_of_rel h fun st st' hst => hst.reads (f := p) hp).length_eq

theorem memberCounters_of_near {l l' : List ExecutionStatus} (h : List.Forall₂ ExecutionStatus.Near l l')
    (total required : Nat) : memberCounters total required l = memberCounters total required l' := by
  unfold memberCounters List.count
  rw [countP_of_near h (p := fun s => !s.isTerminal) rfl, countP_of_near h (p := (· == .succeeded)) rfl,
    countP_of_near h (p := (· == .failed)) rfl, countP_of_near h (p := (· == .cancelled)) rfl]

/-- Rows of the same Executions. -/
def AlikeRecord (lag : Option ExecutionId) (q q' : ExecutionId × ExecutionRow) : Prop :=
  q.1 = q'.1 ∧ q.2.Alike (lag = some q.1) q'.2

namespace Database.Alike

variable {s t : Database}

theorem select (h : s.Alike lag t) {c : ExecutionId → ExecutionRow → Bool}
    (hc : ∀ k r r', r.Alike (lag = some k) r' → c k r = c k r') :
    List.Forall₂ (AlikeRecord lag) (s.executions.select c) (t.executions.select c) :=
  h.executions.select hc

theorem childrenOf (h : s.Alike lag t) (k : TaskId) (root : ExecutionId) :
    List.Forall₂ (AlikeRecord lag) (s.childrenOf k root) (t.childrenOf k root) :=
  h.select fun _ _ _ hr => by
    rw [hr.reads (·.task) fun _ => rfl, hr.reads (·.root) fun _ => rfl, hr.reads (·.parent) fun _ => rfl]

theorem treeMembers (h : s.Alike lag t) (k : TaskId) (root : ExecutionId) :
    List.Forall₂ (AlikeRecord lag) (s.treeMembers k root) (t.treeMembers k root) := by
  have htree := h.select (c := fun _ row => row.task == k && row.root == root) fun _ _ _ hr => by
    rw [hr.reads (·.task) fun _ => rfl, hr.reads (·.root) fun _ => rfl]
  have hparent : ∀ q q', AlikeRecord lag q q' → q.2.parent.isSome = q'.2.parent.isSome := fun q q' hq => by
    rw [hq.2.reads (·.parent) fun _ => rfl]
  unfold Database.treeMembers
  dsimp only
  rw [any_eq_of_rel htree hparent]
  exact forall₂_filter_of_rel htree fun q q' hq => by rw [hparent q q' hq]

theorem acceptance (h : s.Alike lag t) (k : TaskId) (root : ExecutionId) :
    s.acceptance? k root = t.acceptance? k root := by
  have hrow := h.task k
  unfold Database.acceptance?
  generalize s.tasks.get? k = o at hrow
  generalize t.tasks.get? k = o' at hrow
  cases hrow with
  | none => rfl
  | @some r r' hr =>
    rw [Option.bind_eq_bind, Option.bind_eq_bind, Option.bind_some, Option.bind_some,
      TaskRow.reads hr (·.currentRoot) fun _ => rfl, TaskRow.reads hr (·.intakeSnapshot) fun _ => rfl,
      TaskRow.reads hr (·.changeSet) fun _ => rfl]

theorem processCounters (h : s.Alike lag t) (e : ExecutionId) : s.processCounters e = t.processCounters e := by
  unfold Database.processCounters Database.countProcesses
  rw [h.processes]

theorem scatterDenominator (h : s.Alike lag t) {l : Prop} {r r' : ExecutionRow} (hr : r.Alike l r') :
    s.scatterDenominator? r = t.scatterDenominator? r' := by
  unfold Database.scatterDenominator?
  rw [hr.reads (·.root) fun _ => rfl, hr.reads (·.task) fun _ => rfl, h.facts]
  have hroot := h.execution r'.root
  generalize s.executions.get? r'.root = o at hroot
  generalize t.executions.get? r'.root = o' at hroot
  cases hroot with
  | none => rfl
  | @some q q' hq =>
    rw [Option.bind_eq_bind, Option.bind_eq_bind, Option.bind_some, Option.bind_some,
      hq.reads (·.role) fun _ => rfl, h.acceptance]

end Database.Alike

theorem memberStatus_near {l l' : List (ExecutionId × ExecutionRow)} (h : List.Forall₂ (AlikeRecord lag) l l')
    (member : IntakeFacts.ExpectedMember) : (memberStatus l member).Near (memberStatus l' member) := by
  have hfound := forall₂_filter_of_rel h (p := fun c => c.2.target == some member.item)
    (q := fun c => c.2.target == some member.item) fun q q' hq => by rw [hq.2.reads (·.target) fun _ => rfl]
  unfold memberStatus
  generalize l.filter _ = m at hfound
  generalize l'.filter _ = m' at hfound
  cases hfound with
  | nil => exact Or.inl rfl
  | @cons q q' rest rest' hq hrest =>
    obtain ⟨k, r⟩ := q
    obtain ⟨k', r'⟩ := q'
    have hr := hq.2
    cases hrest with
    | cons _ _ => exact Or.inl rfl
    | nil =>
      simp only
      rw [hr.reads (·.role) fun _ => rfl, hr.reads (·.requiredness) fun _ => rfl, hr.reads (·.targetKind) fun _ => rfl,
        hr.reads (·.scatterIntakeRevision) fun _ => rfl, hr.reads (·.scatterMemberOrdinal) fun _ => rfl]
      split
      · exact hr.near
      · exact Or.inl rfl

theorem paired_refreshScatterTaskCountsTx (k : TaskId) (root : ExecutionId)
    (expected : List IntakeFacts.ExpectedMember) :
    Paired lag (refreshScatterTaskCountsTx k root expected) (refreshScatterTaskCountsTx k root expected) := by
  refine Coupled.readBind fun a b hab => ?_
  have hcounters : memberCounters expected.length expected.length
      ((expectedByItem expected).map (memberStatus (a.childrenOf k root))) =
      memberCounters expected.length expected.length
        ((expectedByItem expected).map (memberStatus (b.childrenOf k root))) := by
    refine memberCounters_of_near ?_ _ _
    refine List.forall₂_map_left_iff.2 (List.forall₂_map_right_iff.2 (List.forall₂_same.2 fun m _ => ?_))
    exact memberStatus_near (hab.childrenOf k root) m
  simp only [hcounters]
  refine (coupled_updateExecution fun _ _ _ r r' hr => hr.withChildCounters _).bindSame fun _ => ?_
  · refine (coupled_casTask (fun q q' hq => ?_) fun q q' hq => ?_).bindSame fun _ =>
      Coupled.done
    · rw [TaskRow.reads hq (·.currentRoot) fun _ => rfl]
    · exact TaskRow.shared_count hq _

theorem paired_refreshExecutionCountsTx (e : ExecutionId) :
    Paired lag (refreshExecutionCountsTx e) (refreshExecutionCountsTx e) := by
  unfold refreshExecutionCountsTx
  refine (coupled_updateExecution fun s t hst r r' hr => ?_).bindSame fun _ => ?_
  · rw [hst.processCounters]
    exact hr.withProcessCounters _
  · refine Coupled.readBind fun a b hab => ?_
    have hrow := hab.execution e
    generalize a.executions.get? e = o at hrow
    generalize b.executions.get? e = o' at hrow
    cases hrow with
    | none => exact fun _ _ _ => trivial
    | @some r r' hr =>
      simp only [Transaction.orRaise, pure_bind]
      rw [hab.scatterDenominator hr]
      cases b.scatterDenominator? r' with
      | some expected =>
        simp only
        rw [hr.reads (·.task) fun _ => rfl, hr.reads (·.root) fun _ => rfl]
        exact paired_refreshScatterTaskCountsTx r'.task r'.root expected
      | none =>
        simp only
        rw [hr.reads (·.task) fun _ => rfl, hr.reads (·.root) fun _ => rfl]
        have hmembers := hab.treeMembers r'.task r'.root
        have hrequired := forall₂_filter_of_rel hmembers (p := fun m => m.2.requiredness == .required)
          (q := fun m => m.2.requiredness == .required) fun q q' hq => by rw [hq.2.reads (·.requiredness) fun _ => rfl]
        have hstatuses : List.Forall₂ ExecutionStatus.Near ((a.treeMembers r'.task r'.root).map (·.2.status))
            ((b.treeMembers r'.task r'.root).map (·.2.status)) :=
          List.forall₂_map_left_iff.2 (List.forall₂_map_right_iff.2 (hmembers.imp fun q q' hq => hq.2.near))
        rw [hmembers.length_eq, hrequired.length_eq, memberCounters_of_near hstatuses]
        refine (coupled_casTask (fun q q' hq => ?_) fun q q' hq => TaskRow.shared_count hq _).bindSame fun _ =>
          Coupled.done
        rw [TaskRow.reads hq (·.currentRoot) fun _ => rfl]

/-! ### cancellation -/

section notified

variable {now : Time} {notify notify' : Option ExecutionId → Tx Unit}

theorem paired_closeCancelledTx (e : ExecutionId) {current current' : ExecutionRow} {l : Prop}
    (h : current.Alike l current') :
    Paired lag (closeCancelledTx now e current) (closeCancelledTx now e current') := by
  unfold closeCancelledTx
  refine (coupled_casExecution (fun r r' hr => hr.isCancelling) fun r r' hr => ?_).bindSame fun updated => ?_
  · exact hr.write (fun x => { x with
      cancelConvergedAt := some now
      completedAt := some now
      currentProcess := none
      summaryCompletedAt := some now }) rfl rfl rfl (by simp)
  · refine Coupled.ite Iff.rfl (fun _ => ?_) fun _ => Coupled.done
    have project : Paired lag (do projectRootTaskTx now e current .cancelled none none none none; pure updated)
        (do projectRootTaskTx now e current' .cancelled none none none none; pure updated) :=
      (paired_projectRootTaskTx now e h _ _ _ _ _ _ _).bindSame fun _ => Coupled.done
    refine Coupled.ite ?_ (fun _ => (paired_refreshExecutionCountsTx e).bindSame fun _ => project) fun _ => project
    rw [h.reads (·.root) fun _ => rfl]

theorem Database.Alike.hasOpenDescendant {s t : Database} (h : s.Alike lag t) (root : ExecutionId) :
    s.hasOpenDescendant root = t.hasOpenDescendant root :=
  h.executions.any fun k r r' hr => by rw [hr.reads (·.root) fun _ => rfl, hr.isTerminal]

theorem Database.Alike.hasActiveProcess {s t : Database} (h : s.Alike lag t) (e : ExecutionId) :
    s.hasActiveProcess e = t.hasActiveProcess e := by
  unfold Database.hasActiveProcess
  rw [h.processes]

theorem paired_convergeCancellationWith (hnotify : ∀ parent, Paired lag (notify parent) (notify' parent))
    (e : ExecutionId) : Paired lag (convergeCancellationWith now notify e) (convergeCancellationWith now notify' e) := by
  refine (coupled_executionSame e).bindRel fun r r' hr => Coupled.readBind fun a b hab => ?_
  have hcancelling : (r.status != .cancelling) = (r'.status != .cancelling) :=
    hr.statusOf (f := fun st => st != .cancelling) rfl
  refine Coupled.ite (by rw [hcancelling]) (fun _ => Coupled.done) fun _ => ?_
  refine Coupled.ite (by rw [hab.hasActiveProcess]) (fun _ => Coupled.done) fun _ => ?_
  refine Coupled.ite (by rw [hr.reads (·.root) fun _ => rfl, hab.hasOpenDescendant]) (fun _ => Coupled.done) fun _ => ?_
  refine (paired_closeCancelledTx e hr).bindSame fun updated => Coupled.ite Iff.rfl (fun _ => ?_) fun _ => Coupled.done
  rw [hr.reads (·.parent) fun _ => rfl]
  exact (hnotify r'.parent).bindSame fun _ => Coupled.done

theorem paired_requestCancelling (e : ExecutionId) :
    Paired lag (requestCancelling now e) (requestCancelling now e) := by
  refine (coupled_casExecution (fun r r' hr => hr.isOpen) fun r r' hr => ?_).bindSame fun updated => ?_
  · exact hr.write (fun x => { x with cancelRequestedAt := x.cancelRequestedAt.or (some now) }) rfl rfl rfl (by simp)
  · refine Coupled.bindSame (R := Database.Alike lag) (Coupled.modify fun s t hst => ?_) fun _ => Coupled.done
    exact hst.modify (Database.fenceExecution now e) (fun _ => rfl) (fun _ => rfl) fun _ _ => rfl

theorem Database.Alike.cancellationTree {s t : Database} (h : s.Alike lag t) (root : ExecutionId)
    (includeRoot : Bool) : s.cancellationTree root includeRoot = t.cancellationTree root includeRoot := by
  have hrows := h.select (c := fun e row => row.root == root && (includeRoot || e != root) && !row.status.isTerminal)
    fun _ _ _ hr => by rw [hr.reads (·.root) fun _ => rfl, hr.isTerminal]
  refine map_eq_of_rel (append_of_rel (forall₂_filter_of_rel hrows fun q q' hq => ?_)
    (forall₂_filter_of_rel hrows fun q q' hq => ?_)) fun q q' hq => hq.1
  · rw [hq.2.reads (·.parent) fun _ => rfl]
  · rw [hq.2.reads (·.parent) fun _ => rfl]

theorem paired_cancelExecutionTreeWith (hnotify : ∀ parent, Paired lag (notify parent) (notify' parent))
    (root : ExecutionId) (includeRoot : Bool) :
    Paired lag (cancelExecutionTreeWith now notify root includeRoot)
      (cancelExecutionTreeWith now notify' root includeRoot) := by
  refine (coupled_executionSame root).bindRel fun r r' hr => ?_
  refine (Coupled.raiseIf (by rw [hr.reads (·.root) fun _ => rfl])).bindRel fun _ _ _ => ?_
  refine Coupled.readBind fun a b hab => ?_
  simp only [hab.cancellationTree]
  refine (Coupled.sumEach fun e => paired_requestCancelling e).bindSame fun changed => ?_
  refine Coupled.bindSame (R := Database.Alike lag) (Coupled.forEach (V := Eq) (List.forall₂_same.2 fun _ _ => rfl)
    fun e e' he => ?_) fun _ => Coupled.done
  rw [he]
  exact (paired_convergeCancellationWith hnotify e').bindSame fun _ => Coupled.done

theorem paired_cancelScatterChildrenWith (hnotify : ∀ parent, Paired lag (notify parent) (notify' parent))
    (e : ExecutionId) {l : Prop} {current current' : ExecutionRow} (h : current.Alike l current') :
    Paired lag (cancelScatterChildrenWith now notify e current) (cancelScatterChildrenWith now notify' e current') := by
  refine Coupled.ite (by rw [h.reads (·.root) fun _ => rfl, h.reads (·.role) fun _ => rfl]) (fun _ => ?_)
    fun _ => Coupled.done
  exact (paired_cancelExecutionTreeWith hnotify e false).bindSame fun _ => Coupled.done

/-! ### closing -/

variable {lag' : Option ExecutionId}

theorem coupled_closeIntegrityTx {e : ExecutionId} (hl : Settles e lag lag') {l : Prop}
    {current current' : ExecutionRow} (h : current.Alike l current') (errorCode errorCode' message message' : String) :
    Coupled (Database.Alike lag) (closeIntegrityTx now e current errorCode message)
      (closeIntegrityTx now e current' errorCode' message') (Same (Database.Alike lag')) := by
  refine (coupled_casExecution_move hl (fun r r' hr => by rw [hr.isTerminal]) (fun r hr => by rw [hr]; rfl)
    fun r r' hr => ?_).bindSame fun updated => ?_
  · exact hr.write (fun x => { x with
      summaryCompletedAt := some now
      completedAt := some now
      currentProcess := none }) rfl rfl rfl (by simp)
  · refine Coupled.ite Iff.rfl (fun _ => ?_) fun _ => Coupled.done
    exact (paired_projectRootTaskTx now e h _ _ _ _ _ _ _).bindSame fun _ => Coupled.done

theorem coupled_failExecutionIntegrityWith {e : ExecutionId} (hl : Settles e lag lag')
    (hnotify : ∀ lag parent, Paired lag (notify parent) (notify' parent))
    (errorCode errorCode' message message' : String) :
    Coupled (Database.Alike lag) (failExecutionIntegrityWith now notify e errorCode message)
      (failExecutionIntegrityWith now notify' e errorCode' message') (Same (Database.Alike lag')) := by
  refine (coupled_executionSame e).bindRel fun r r' hr => ?_
  refine (paired_cancelScatterChildrenWith (hnotify lag) e hr).bindSame fun _ => ?_
  refine (coupled_closeIntegrityTx hl hr _ _ _ _).bindSame fun updated => ?_
  refine Coupled.ite Iff.rfl (fun _ => ?_) fun _ => Coupled.done
  rw [hr.reads (·.parent) fun _ => rfl]
  exact hnotify lag' r'.parent

theorem coupled_closeRouteTx {e : ExecutionId} (hl : Settles e lag lag') {l : Prop}
    {current current' : ExecutionRow} (h : current.Alike l current') (kind : WorkflowTerminalKind)
    (source : Option ProcessRecord) (digest digest' : RouteDigest) (errorCode errorCode' : Option String)
    (disposition : Option ResultDisposition) :
    Coupled (Database.Alike lag) (closeRouteTx now e current ⟨kind, source, digest, errorCode, disposition⟩)
      (closeRouteTx now e current' ⟨kind, source, digest', errorCode', disposition⟩) (Same (Database.Alike lag')) := by
  have hkind : kind.status ≠ .waiting := by cases kind <;> simp [WorkflowTerminalKind.status]
  refine (coupled_executionSame e).bindRel fun q q' _ => ?_
  refine (coupled_casExecution_move hl (fun r r' hr => by rw [hr.isTerminal]) (fun r hr => by rw [hr]; rfl)
    fun r r' hr => ?_).bindSame fun updated => ?_
  · exact hr.write (fun x => { x with
      currentProcess := none
      resultRef := source.bind (·.2.outputManifest)
      publicationProofRef := if disposition.isSome then none else source.bind (·.2.proof)
      summaryCompletedAt := some now
      completedAt := some now }) rfl rfl rfl hkind
  · refine Coupled.ite Iff.rfl (fun _ => ?_) fun _ => Coupled.done
    exact (paired_projectRootTaskTx now e h _ _ _ _ _ _ _).bindSame fun _ => Coupled.done

theorem coupled_finishRouteWith {e : ExecutionId} (hl : Settles e lag lag')
    (hnotify : ∀ lag parent, Paired lag (notify parent) (notify' parent)) {l : Prop}
    {current current' : ExecutionRow} (h : current.Alike l current') (kind : WorkflowTerminalKind)
    (source : Option ProcessRecord) (digest digest' : RouteDigest) (errorCode errorCode' : Option String)
    (disposition : Option ResultDisposition) :
    Coupled (Database.Alike lag)
      (finishRouteWith now notify e current ⟨kind, source, digest, errorCode, disposition⟩)
      (finishRouteWith now notify' e current' ⟨kind, source, digest', errorCode', disposition⟩)
      (Same (Database.Alike lag')) := by
  have hrefusal : TerminalRoute.refusal? ⟨kind, source, digest, errorCode, disposition⟩ =
      TerminalRoute.refusal? ⟨kind, source, digest', errorCode', disposition⟩ := rfl
  unfold finishRouteWith
  rw [hrefusal]
  cases TerminalRoute.refusal? ⟨kind, source, digest', errorCode', disposition⟩ with
  | some refusal => exact coupled_failExecutionIntegrityWith hl hnotify _ _ _ _
  | none =>
    refine (paired_refreshExecutionCountsTx e).bindSame fun _ => ?_
    refine (coupled_closeRouteTx hl h kind source digest digest' errorCode errorCode' disposition).bindSame
      fun updated => Coupled.ite Iff.rfl (fun _ => ?_) fun _ => Coupled.done
    rw [h.reads (·.parent) fun _ => rfl]
    exact hnotify lag' current'.parent

theorem coupled_terminalizeExecutionWith {e : ExecutionId} (hl : Settles e lag lag')
    (hnotify : ∀ lag parent, Paired lag (notify parent) (notify' parent)) (terminalKind : Option WorkflowTerminalKind)
    (source : Option ProcessRecord) (digest digest' : RouteDigest) (errorCode errorCode' : Option String)
    (disposition : Option ResultDisposition) :
    Coupled (Database.Alike lag)
      (terminalizeExecutionWith now notify e terminalKind source digest errorCode disposition)
      (terminalizeExecutionWith now notify' e terminalKind source digest' errorCode' disposition)
      (Same (Database.Alike lag')) := by
  have hkind : Option.Rel Eq terminalKind terminalKind := by
    cases terminalKind with
    | none => exact Option.Rel.none
    | some kind => exact Option.Rel.some rfl
  refine (Coupled.orRaise hkind).bindRel fun kind kind' hk => ?_
  subst hk
  refine (coupled_execution (fun _ _ h => h) e).bind fun r r' => ?_
  by_cases hterminal : r.status.isTerminal = true
  · rintro s t ⟨hr, hget, hst⟩
    rw [if_pos hterminal, if_pos (hr.isTerminal.symm.trans hterminal)]
    refine ⟨rfl, hl.alike hst fun q hq hwait => ?_⟩
    obtain rfl := Option.some.inj (hget.symm.trans hq)
    rw [hwait] at hterminal
    exact absurd hterminal (by decide)
  · rintro s t ⟨hr, -, hst⟩
    rw [if_neg hterminal, if_neg fun h => hterminal (hr.isTerminal.trans h)]
    have finish : Coupled (Database.Alike lag)
        (finishRouteWith now notify e r ⟨kind, source, digest, errorCode, disposition⟩)
        (finishRouteWith now notify' e r' ⟨kind, source, digest', errorCode', disposition⟩)
        (Same (Database.Alike lag')) :=
      coupled_finishRouteWith hl hnotify hr kind source digest digest' errorCode errorCode' disposition
    refine Coupled.ite Iff.rfl (fun _ => ?_) (fun _ => finish) s t hst
    exact (paired_cancelScatterChildrenWith (hnotify lag) e hr).bindSame fun _ => finish

/-! ### the collect-all join -/

theorem boundChild_of_alike {l l' : List (ExecutionId × ExecutionRow)} (h : List.Forall₂ (AlikeRecord lag) l l')
    (snapshot : SnapshotId) (changeSet : ChangeSetId) (member : IntakeFacts.ExpectedMember) :
    Option.Rel (AlikeRecord lag) (boundChild? snapshot changeSet l member)
      (boundChild? snapshot changeSet l' member) := by
  have hfound := forall₂_filter_of_rel h (p := fun c => c.2.target == some member.item)
    (q := fun c => c.2.target == some member.item) fun q q' hq => by rw [hq.2.reads (·.target) fun _ => rfl]
  unfold boundChild?
  generalize l.filter _ = m at hfound
  generalize l'.filter _ = m' at hfound
  cases hfound with
  | nil => exact Option.Rel.none
  | @cons q q' rest rest' hq hrest =>
    cases hrest with
    | cons _ _ => exact Option.Rel.none
    | nil =>
      have hbound : isBoundChild snapshot changeSet member q.2 = isBoundChild snapshot changeSet member q'.2 :=
        hq.2.reads (isBoundChild snapshot changeSet member) fun _ => rfl
      simp only
      rw [hbound]
      split
      · exact Option.Rel.some hq
      · exact Option.Rel.none

theorem boundChildren_of_alike {l l' : List (ExecutionId × ExecutionRow)} (h : List.Forall₂ (AlikeRecord lag) l l')
    (snapshot : SnapshotId) (changeSet : ChangeSetId) (expected : List IntakeFacts.ExpectedMember) :
    Option.Rel (List.Forall₂ (AlikeRecord lag)) (boundChildren? snapshot changeSet expected l)
      (boundChildren? snapshot changeSet expected l') := by
  have hall : (l.all fun c => (expectedByItem expected).any fun m => c.2.target == some m.item) =
      l'.all fun c => (expectedByItem expected).any fun m => c.2.target == some m.item := by
    rw [List.all_eq_not_any_not, List.all_eq_not_any_not]
    refine congrArg (!·) (any_eq_of_rel h fun q q' hq => ?_)
    rw [hq.2.reads (·.target) fun _ => rfl]
  have hmembers := mapM_option_of_rel (expectedByItem expected) (boundChild_of_alike h snapshot changeSet)
  unfold boundChildren?
  dsimp only
  rw [hall]
  generalize (expectedByItem expected).mapM (boundChild? snapshot changeSet l) = m at hmembers
  generalize (expectedByItem expected).mapM (boundChild? snapshot changeSet l') = m' at hmembers
  split
  · cases hmembers with
    | none => exact Option.Rel.none
    | some hbound =>
      simp only
      rw [hbound.length_eq]
      split
      · exact Option.Rel.some hbound
      · exact Option.Rel.none
  · exact Option.Rel.none

theorem publicationProcess_of_alike {s t : Database} (h : s.Alike lag t) {c c' : ExecutionId × ExecutionRow}
    (hc : AlikeRecord lag c c') (member : IntakeFacts.ExpectedMember) :
    publicationProcess s c member = publicationProcess t c' member := by
  unfold publicationProcess
  rw [h.facts, h.processes, hc.1, hc.2.reads (·.publicationProofRef) fun _ => rfl]

theorem proofs_of_alike {s t : Database} (h : s.Alike lag t) {l l' : List (ExecutionId × ExecutionRow)}
    (hl : List.Forall₂ (AlikeRecord lag) l l') (expected : List IntakeFacts.ExpectedMember) :
    ((childrenWithMembers l expected).mapM fun r => publicationProcess s r.1 r.2) =
      (childrenWithMembers l' expected).mapM fun r => publicationProcess t r.1 r.2 := by
  have hsorted := insertionSort_of_rel (r := fun a b : ExecutionId × ExecutionRow => a.2.target.getD 0 ≤ b.2.target.getD 0)
    (fun a b c d hab hcd => by
      rw [hab.2.reads (·.target) fun _ => rfl, hcd.2.reads (·.target) fun _ => rfl]) hl
  refine mapM_except_of_rel (zip_of_rel hsorted _) fun p q hpq => ?_
  rw [publicationProcess_of_alike h hpq.1, hpq.2]

theorem paired_maybeConvergeScatterRootWith (hnotify : ∀ lag parent, Paired lag (notify parent) (notify' parent))
    (root : ExecutionId) :
    Paired lag (maybeConvergeScatterRootWith now notify root) (maybeConvergeScatterRootWith now notify' root) := by
  have hl : Settles root lag lag := Or.inl rfl
  have fail : ∀ code message, Paired lag (do failExecutionIntegrityWith now notify root code message; pure true)
      (do failExecutionIntegrityWith now notify' root code message; pure true) := fun code message =>
    (coupled_failExecutionIntegrityWith hl hnotify code code message message).bindSame fun _ => Coupled.done
  refine (coupled_executionSame root).bindRel fun r r' hr => Coupled.readBind fun a b hab => ?_
  have hwaits : (r.role != .scatterRoot || r.status != .waiting || r.waitingReason != some .scatterChildren) =
      (r'.role != .scatterRoot || r'.status != .waiting || r'.waitingReason != some .scatterChildren) := by
    have h := hr.waits .scatterChildren (by decide) fun _ => true
    rw [Bool.and_true, Bool.and_true] at h
    rw [hr.reads (·.role) fun _ => rfl, Bool.or_assoc, Bool.or_assoc]
    have hn := congrArg (!·) h
    simp only [Bool.not_and] at hn
    exact congrArg _ hn
  refine Coupled.ite (by rw [hwaits]) (fun _ => Coupled.done) fun _ => ?_
  rw [hr.reads (·.task) fun _ => rfl, hab.acceptance, hab.facts]
  cases b.acceptance? r'.task root with
  | none => exact fail _ _
  | some accepted =>
    obtain ⟨snapshot, changeSet⟩ := accepted
    simp only
    cases b.facts.scatterExpectedMembers snapshot changeSet with
    | none => exact fail _ _
    | some expected =>
      cases expected with
      | nil =>
        have hproof : a.scatterRootTerminalProof root none = b.scatterRootTerminalProof root none := by
          unfold Database.scatterRootTerminalProof
          rw [hab.processes]
        simp only
        rw [hproof]
        cases b.scatterRootTerminalProof root none with
        | none => exact fail _ _
        | some proof =>
          exact (coupled_terminalizeExecutionWith hl hnotify _ _ _ _ _ _ _).bindSame fun _ => Coupled.done
      | cons member members =>
        simp only
        have hbound := boundChildren_of_alike (hab.childrenOf r'.task root) snapshot changeSet (member :: members)
        generalize boundChildren? snapshot changeSet (member :: members) (a.childrenOf r'.task root) = o at hbound
        generalize boundChildren? snapshot changeSet (member :: members) (b.childrenOf r'.task root) = o' at hbound
        cases hbound with
        | none => exact fail _ _
        | @some bound bound' hrows =>
          have hopen : (bound.any fun c => !c.2.status.isTerminal) = bound'.any fun c => !c.2.status.isTerminal :=
            any_eq_of_rel hrows fun q q' hq => by rw [hq.2.isTerminal]
          have hfailed := forall₂_filter_of_rel hrows (p := fun c => c.2.status == .failed)
            (q := fun c => c.2.status == .failed) fun q q' hq => hq.2.statusOf (f := fun st => st == .failed) rfl
          have hcancelled := forall₂_filter_of_rel hrows (p := fun c => c.2.status == .cancelled)
            (q := fun c => c.2.status == .cancelled) fun q q' hq => hq.2.statusOf (f := fun st => st == .cancelled) rfl
          have hchildren := append_of_rel hfailed hcancelled
          simp only
          refine Coupled.ite (by rw [hopen]) (fun _ => Coupled.done) fun _ => ?_
          generalize (bound.filter fun c => c.2.status == .failed) ++
            (bound.filter fun c => c.2.status == .cancelled) = losers at hchildren
          generalize (bound'.filter fun c => c.2.status == .failed) ++
            (bound'.filter fun c => c.2.status == .cancelled) = losers' at hchildren
          cases hchildren with
          | @cons child child' _ _ hchild _ =>
            have hlast : a.lastTerminalProcess child.1 = b.lastTerminalProcess child'.1 := by
              unfold Database.lastTerminalProcess
              rw [hab.processes, hchild.1]
            simp only
            rw [hlast]
            exact (coupled_terminalizeExecutionWith hl hnotify _ _ _ _ _ _ _).bindSame fun _ => Coupled.done
          | nil =>
            simp only
            rw [proofs_of_alike hab hrows]
            cases (childrenWithMembers bound' (member :: members)).mapM fun r => publicationProcess b r.1 r.2 with
            | error failure => exact fail _ _
            | ok proofs =>
              exact (coupled_terminalizeExecutionWith hl hnotify _ _ _ _ _ _ _).bindSame fun _ => Coupled.done

theorem paired_notifyParentWith (hnotify : ∀ lag parent, Paired lag (notify parent) (notify' parent))
    (parent : Option ExecutionId) :
    Paired lag (notifyParentWith now notify parent) (notifyParentWith now notify' parent) := by
  unfold notifyParentWith
  cases parent with
  | none => exact Coupled.done
  | some p =>
    refine (coupled_executionSame p).bindRel fun r r' hr => ?_
    refine Coupled.ite (by rw [hr.isCancelling]) (fun _ => ?_) fun _ => ?_
    · exact (paired_convergeCancellationWith (hnotify lag) p).bindSame fun _ => Coupled.done
    · refine Coupled.ite (by rw [hr.reads (·.role) fun _ => rfl]) (fun _ => ?_) fun _ => Coupled.done
      exact (paired_maybeConvergeScatterRootWith hnotify p).bindSame fun _ => Coupled.done

end notified

/-! ### the knot -/

section closed

variable (now : Time)

theorem paired_notifyDepth (depth : Nat) :
    ∀ lag parent, Paired lag (notifyDepth now depth parent) (notifyDepth now depth parent) := by
  induction depth with
  | zero => exact fun lag parent => paired_notifyParentWith (fun _ _ => Coupled.done) parent
  | succ depth ih => exact fun lag parent => paired_notifyParentWith ih parent

theorem Database.Alike.openExecutions {s t : Database} (h : s.Alike lag t) : s.openExecutions = t.openExecutions :=
  h.executions.count fun _ _ _ hr => by rw [hr.isTerminal]

theorem paired_notifyScatterParentTerminalTx (lag : Option ExecutionId) (parent : Option ExecutionId) :
    Paired lag (notifyScatterParentTerminalTx now parent) (notifyScatterParentTerminalTx now parent) := by
  refine Coupled.readBind fun a b hab => ?_
  rw [hab.openExecutions]
  exact paired_notifyDepth now b.openExecutions lag parent

theorem coupled_failExecutionIntegrityTx {lag' : Option ExecutionId} {e : ExecutionId} (hl : Settles e lag lag')
    (errorCode errorCode' message message' : String) :
    Coupled (Database.Alike lag) (failExecutionIntegrityTx now e errorCode message)
      (failExecutionIntegrityTx now e errorCode' message') (Same (Database.Alike lag')) :=
  coupled_failExecutionIntegrityWith hl (paired_notifyScatterParentTerminalTx now) _ _ _ _

theorem coupled_terminalizeExecutionTx {lag' : Option ExecutionId} {e : ExecutionId} (hl : Settles e lag lag')
    (terminalKind : Option WorkflowTerminalKind) (source : Option ProcessRecord) (digest digest' : RouteDigest)
    (errorCode errorCode' : Option String) (disposition : Option ResultDisposition) :
    Coupled (Database.Alike lag) (terminalizeExecutionTx now e terminalKind source digest errorCode disposition)
      (terminalizeExecutionTx now e terminalKind source digest' errorCode' disposition)
      (Same (Database.Alike lag')) :=
  coupled_terminalizeExecutionWith hl (paired_notifyScatterParentTerminalTx now) _ _ _ _ _ _ _

end closed

end KnowledgeBase
