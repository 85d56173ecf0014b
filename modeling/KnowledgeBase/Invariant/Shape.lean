import KnowledgeBase.Invariant.Writes

/-!
# The shape of the database

The coordinates of an Execution and the head of a Task never change once they are written, except for the Task's
current root on a retry. `Database.shape` is the part of the database they make up; every transition of the engine
keeps it, `WellFormed` is a property of it, and so is the tree an Execution belongs to.
-/

namespace KnowledgeBase

open Transaction

/-! ### coordinates -/

/-- The coordinates of an Execution. -/
structure ExecutionIdentity where
  team : TeamId
  task : TaskId
  generation : Nat
  root : ExecutionId
  parent : Option ExecutionId
  role : ExecutionRole
  workflowRevision : WorkflowRevisionId
  compiledDigest : Digest
  deriving DecidableEq

def ExecutionRow.identity (row : ExecutionRow) : ExecutionIdentity where
  team := row.team
  task := row.task
  generation := row.generation
  root := row.root
  parent := row.parent
  role := row.role
  workflowRevision := row.workflowRevision
  compiledDigest := row.compiledDigest

/-- What of a Task only a retry changes. -/
structure TaskHead where
  currentRoot : ExecutionId
  currentGeneration : Nat
  requestIntent : RequestIntent
  deriving DecidableEq

def TaskRow.head (row : TaskRow) : TaskHead := ⟨row.currentRoot, row.currentGeneration, row.requestIntent⟩

/-- The coordinates of every Execution and the head of every Task. -/
abbrev Shape := (ExecutionId → Option ExecutionIdentity) × (TaskId → Option TaskHead)

namespace Database

def identityOf (s : Database) (e : ExecutionId) : Option ExecutionIdentity :=
  (s.executions.get? e).map (·.identity)

def headOf (s : Database) (t : TaskId) : Option TaskHead := (s.tasks.get? t).map (·.head)

def shape (s : Database) : Shape := (s.identityOf, s.headOf)

theorem identityOf_eq {s t : Database} (h : s.shape = t.shape) (e : ExecutionId) : s.identityOf e = t.identityOf e :=
  congrFun (congrArg Prod.fst h) e

theorem headOf_eq {s t : Database} (h : s.shape = t.shape) (k : TaskId) : s.headOf k = t.headOf k :=
  congrFun (congrArg Prod.snd h) k

theorem identityOf_of_get? {s : Database} {e : ExecutionId} {row : ExecutionRow}
    (h : s.executions.get? e = some row) : s.identityOf e = some row.identity := by
  simp [identityOf, h]

theorem headOf_of_get? {s : Database} {k : TaskId} {row : TaskRow} (h : s.tasks.get? k = some row) :
    s.headOf k = some row.head := by
  simp [headOf, h]

theorem identityOf_eq_some {s : Database} {e : ExecutionId} {i : ExecutionIdentity} :
    s.identityOf e = some i ↔ ∃ row, s.executions.get? e = some row ∧ row.identity = i := by
  simp [identityOf]

/-! ### trees -/

/-- A root of a tree, or a child directly below the root of its tree, of the same Task and generation. -/
def PlacedIn (s : Database) (e : ExecutionId) (i : ExecutionIdentity) : Prop :=
  (i.root = e ∧ i.parent = none) ∨
    (i.root ≠ e ∧ i.parent = some i.root ∧ ∃ r, s.identityOf i.root = some r ∧ r.root = i.root ∧
      r.task = i.task ∧ r.generation = i.generation)

/-- Executions form trees of depth at most one under their Tasks, whose current roots are roots. -/
structure WellFormed (s : Database) : Prop where
  placed : ∀ e i, s.identityOf e = some i → s.PlacedIn e i ∧ (s.headOf i.task).isSome
  current : ∀ k h, s.headOf k = some h → ∃ i, s.identityOf h.currentRoot = some i ∧ i.root = h.currentRoot ∧
    i.task = k ∧ i.generation = h.currentGeneration

theorem WellFormed.of_shape {s t : Database} (h : t.shape = s.shape) (hs : s.WellFormed) : t.WellFormed := by
  constructor
  · intro e i hi
    rw [identityOf_eq h] at hi
    obtain ⟨hp, ht⟩ := hs.placed e i hi
    exact ⟨by simpa only [PlacedIn, identityOf_eq h] using hp, by rwa [headOf_eq h]⟩
  · intro k d hd
    rw [headOf_eq h] at hd
    simpa only [identityOf_eq h] using hs.current k d hd

theorem WellFormed.empty : WellFormed .empty :=
  ⟨fun e i h => by simp [identityOf, Database.empty] at h, fun k d h => by simp [headOf, Database.empty] at h⟩

theorem WellFormed.parent_eq {s : Database} (hs : s.WellFormed) {e : ExecutionId} {i : ExecutionIdentity}
    (h : s.identityOf e = some i) : i.parent = if i.root = e then none else some i.root := by
  rcases (hs.placed e i h).1 with ⟨hr, hp⟩ | ⟨hr, hp, -⟩
  · rw [if_pos hr, hp]
  · rw [if_neg hr, hp]

theorem WellFormed.root_root {s : Database} (hs : s.WellFormed) {e : ExecutionId} {i : ExecutionIdentity}
    (h : s.identityOf e = some i) : ∃ r, s.identityOf i.root = some r ∧ r.root = i.root ∧ r.task = i.task := by
  rcases (hs.placed e i h).1 with ⟨hr, -⟩ | ⟨-, -, r, hr, hrr, ht, -⟩
  · exact ⟨i, by rw [hr]; exact h, rfl, rfl⟩
  · exact ⟨r, hr, hrr, ht⟩

/-! ### writes that keep the shape -/

theorem identityOf_updateExecution {f : ExecutionRow → ExecutionRow} (hf : ∀ row, (f row).identity = row.identity)
    (e : ExecutionId) (s : Database) (k : ExecutionId) :
    (s.updateExecution e f).identityOf k = s.identityOf k := by
  unfold identityOf updateExecution
  rw [Table.get?_modify]
  cases s.executions.get? k with
  | none => rfl
  | some row =>
    simp only [Option.map_some]
    split
    · rw [hf]
    · rfl

theorem shape_updateExecution {f : ExecutionRow → ExecutionRow} (hf : ∀ row, (f row).identity = row.identity)
    (e : ExecutionId) (s : Database) : (s.updateExecution e f).shape = s.shape :=
  Prod.ext (funext (identityOf_updateExecution hf e s)) rfl

theorem shape_updateTask {f : TaskRow → TaskRow} (hf : ∀ row, (f row).head = row.head) (k : TaskId)
    (s : Database) : (s.updateTask k f).shape = s.shape := by
  refine Prod.ext rfl (funext fun j => ?_)
  show (s.updateTask k f).headOf j = s.headOf j
  unfold headOf updateTask
  rw [Table.get?_modify]
  cases s.tasks.get? j with
  | none => rfl
  | some row =>
    simp only [Option.map_some]
    split
    · rw [hf]
    · rfl

theorem shape_of_tables {s t : Database} (he : t.executions = s.executions) (ht : t.tasks = s.tasks) :
    t.shape = s.shape := by
  unfold shape identityOf headOf
  rw [he, ht]

theorem shape_of_core {s t : Database} (h : t.core = s.core) : t.shape = s.shape := by
  obtain ⟨ht, he, -, -⟩ := core_eq_iff.1 h
  exact shape_of_tables he ht

end Database

/-! ### actual bindings -/

/-- The state of the actual binding of an Execution and its seal. -/
abbrev ActualBond := ActualBindingState × Option ActualSeal

def ExecutionRow.bond (row : ExecutionRow) : ActualBond := (row.bindingState, row.binding)

/-- What of an Execution only the seal of its actual binding changes. -/
def ExecutionRow.fixed (row : ExecutionRow) : ExecutionIdentity × ActualBond := (row.identity, row.bond)

/-- A bond is written at most once, by a seal. -/
def ActualBond.Advances (b c : ActualBond) : Prop :=
  c = b ∨ (b = (.unsealed, none) ∧ ∃ binding, c = (.sealed, some binding))

theorem ActualBond.Advances.refl (b : ActualBond) : b.Advances b := Or.inl rfl

theorem ActualBond.Advances.trans {a b c : ActualBond} (h : a.Advances b) (h' : b.Advances c) : a.Advances c := by
  rcases h with rfl | ⟨ha, binding, rfl⟩
  · exact h'
  · rcases h' with rfl | ⟨hb, -⟩
    · exact Or.inr ⟨ha, binding, rfl⟩
    · cases congrArg Prod.fst hb

namespace Database

def bondOf (s : Database) (e : ExecutionId) : Option ActualBond := (s.executions.get? e).map (·.bond)

theorem bondOf_of_get? {s : Database} {e : ExecutionId} {row : ExecutionRow} (h : s.executions.get? e = some row) :
    s.bondOf e = some row.bond := by
  simp [bondOf, h]

/-- The row is one the Execution had, or has. -/
def Recalls (s : Database) (e : ExecutionId) (row : ExecutionRow) : Prop :=
  ∃ b, s.bondOf e = some b ∧ row.bond.Advances b

/-- Every Execution is still there, its bond written at most once since. -/
def Follows (s₀ s : Database) : Prop := ∀ e row, s₀.executions.get? e = some row → s.Recalls e row

theorem Recalls.of_get? {s : Database} {e : ExecutionId} {row : ExecutionRow} (h : s.executions.get? e = some row) :
    s.Recalls e row := ⟨row.bond, bondOf_of_get? h, .refl _⟩

theorem Follows.refl (s : Database) : s.Follows s := fun _ _ h => .of_get? h

theorem Recalls.follows {s t : Database} {e : ExecutionId} {row : ExecutionRow} (h : s.Recalls e row)
    (ht : s.Follows t) : t.Recalls e row := by
  obtain ⟨b, hb, ha⟩ := h
  obtain ⟨current, hcurrent, rfl⟩ := Option.map_eq_some_iff.1 hb
  obtain ⟨c, hc, hac⟩ := ht e current hcurrent
  exact ⟨c, hc, ha.trans hac⟩

theorem Follows.trans {s t u : Database} (h : s.Follows t) (h' : t.Follows u) : s.Follows u :=
  fun e row hrow => (h e row hrow).follows h'

theorem Follows.of_bonds {s t : Database} (h : t.bondOf = s.bondOf) : s.Follows t := by
  intro e row hrow
  exact ⟨row.bond, by rw [h]; exact bondOf_of_get? hrow, .refl _⟩

theorem bondOf_updateExecution {f : ExecutionRow → ExecutionRow} (hf : ∀ row, (f row).bond = row.bond)
    (e : ExecutionId) (s : Database) : (s.updateExecution e f).bondOf = s.bondOf := by
  funext k
  unfold bondOf updateExecution
  rw [Table.get?_modify]
  cases s.executions.get? k with
  | none => rfl
  | some row =>
    simp only [Option.map_some]
    split
    · rw [hf]
    · rfl

end Database

/-! ### frames of execution and task writes -/

theorem keeps_execution {γ : Type} {f : Database → γ} (e : ExecutionId) : Keeps f (execution e) :=
  Keeps.get.bind fun _ => Keeps.orRaise _ _

theorem keeps_shape_casExecution {g : ExecutionRow → ExecutionRow} (hg : ∀ row, (g row).identity = row.identity)
    (e : ExecutionId) (c : ExecutionRow → Bool) : Keeps Database.shape (casExecution e c g) :=
  keeps_compareAndSet fun s => Database.shape_updateExecution hg e s

/-- A part of the database that writes to Executions and Tasks keep as long as they keep what is fixed of them. -/
structure ExecutionFrame {γ : Type} (f : Database → γ) : Prop where
  execution : ∀ s e g, (∀ row : ExecutionRow, (g row).fixed = row.fixed) → f (s.updateExecution e g) = f s
  task : ∀ s k g, (∀ row : TaskRow, (g row).head = row.head) → f (s.updateTask k g) = f s
  core : ∀ s t : Database, s.core = t.core → f s = f t

theorem ExecutionFrame.shape : ExecutionFrame Database.shape where
  execution _ e _ hg := Database.shape_updateExecution (fun row => congrArg Prod.fst (hg row)) e _
  task _ k _ hg := Database.shape_updateTask hg k _
  core _ _ h := Database.shape_of_core h

theorem ExecutionFrame.bonds : ExecutionFrame Database.bondOf where
  execution _ e _ hg := Database.bondOf_updateExecution (fun row => congrArg Prod.snd (hg row)) e _
  task _ _ _ _ := rfl
  core _ _ h := by
    funext e
    unfold Database.bondOf
    rw [(Database.core_eq_iff.1 h).2.1]

theorem ExecutionFrame.processes : ExecutionFrame Database.processes where
  execution _ _ _ _ := rfl
  task _ _ _ _ := rfl
  core _ _ h := (Database.core_eq_iff.1 h).2.2.1

theorem ExecutionFrame.prod {γ δ : Type} {f : Database → γ} {g : Database → δ} (hf : ExecutionFrame f)
    (hg : ExecutionFrame g) : ExecutionFrame fun s => (f s, g s) where
  execution s e u hu := by rw [hf.execution s e u hu, hg.execution s e u hu]
  task s k u hu := by rw [hf.task s k u hu, hg.task s k u hu]
  core s t h := by rw [hf.core s t h, hg.core s t h]

/-! ### frames of process writes -/

/-- What of a Process nothing changes. -/
def ProcessRow.place (row : ProcessRow) : ExecutionId × String := (row.execution, row.processKey)

def Database.placeOf (s : Database) (p : ProcessId) : Option (ExecutionId × String) :=
  (s.processes.get? p).map (·.place)

/-- A part of the database that writes to Processes keep too, as long as they keep their place. -/
structure ProcessFrame {γ : Type} (f : Database → γ) : Prop extends ExecutionFrame f where
  process : ∀ (s : Database) c g, (∀ row : ProcessRow, (g row).place = row.place) →
    f { s with processes := s.processes.update c fun _ => g } = f s

theorem ProcessFrame.shape : ProcessFrame Database.shape := { ExecutionFrame.shape with process := fun _ _ _ _ => rfl }

theorem ProcessFrame.bonds : ProcessFrame Database.bondOf := { ExecutionFrame.bonds with process := fun _ _ _ _ => rfl }

theorem place_update {c : ProcessId → ProcessRow → Bool} {g : ProcessRow → ProcessRow}
    (hg : ∀ row, (g row).place = row.place) (t : Table ProcessRow) (p : ProcessId) :
    ((t.update c fun _ => g).get? p).map (·.place) = (t.get? p).map (·.place) := by
  simp only [Table.get?_update, Option.map_map]
  congr 1
  funext row
  simp only [Function.comp_apply]
  split
  · exact hg row
  · rfl

theorem ProcessFrame.places : ProcessFrame Database.placeOf where
  execution _ _ _ _ := rfl
  task _ _ _ _ := rfl
  core _ _ h := by
    funext p
    unfold Database.placeOf
    rw [(Database.core_eq_iff.1 h).2.2.1]
  process s _ _ hg := funext (place_update hg s.processes)

theorem ProcessFrame.prod {γ δ : Type} {f : Database → γ} {g : Database → δ} (hf : ProcessFrame f)
    (hg : ProcessFrame g) : ProcessFrame fun s => (f s, g s) :=
  { hf.toExecutionFrame.prod hg.toExecutionFrame with
    process := fun s c u hu => by rw [hf.process s c u hu, hg.process s c u hu] }

theorem ProcessFrame.casProcess {γ : Type} {f : Database → γ} (hf : ProcessFrame f) {g : ProcessRow → ProcessRow}
    (hg : ∀ row, (g row).place = row.place) (p : ProcessId) (c : ProcessRow → Bool) : Keeps f (casProcess p c g) :=
  keeps_compareAndSet fun s => hf.process s (fun j _ => j == p) g hg

namespace ExecutionFrame

variable {γ : Type} {f : Database → γ} (hf : ExecutionFrame f)

include hf

theorem casExecution {g : ExecutionRow → ExecutionRow} (hg : ∀ row, (g row).fixed = row.fixed)
    (e : ExecutionId) (c : ExecutionRow → Bool) : Keeps f (casExecution e c g) :=
  keeps_compareAndSet fun s => hf.execution s e g hg

theorem casTask {g : TaskRow → TaskRow} (hg : ∀ row, (g row).head = row.head) (k : TaskId)
    (c : TaskRow → Bool) : Keeps f (casTask k c g) :=
  keeps_compareAndSet fun s => hf.task s k g hg

theorem of_core {α : Type} {x : Tx α} (hx : Keeps Database.core x) : Keeps f x :=
  fun s a t h => hf.core t s (hx s a t h)

theorem projectTaskStatusTx (now : Time) (k : TaskId) (p : TaskProjection) :
    Keeps f (projectTaskStatusTx now k p) := by
  intro s b t h
  rcases projectTaskStatusTx_ok h with ⟨rfl, -⟩ | ⟨rfl, -⟩
  · rfl
  · exact hf.task s k _ fun _ => rfl

theorem projectRootTaskTx (now : Time) (e : ExecutionId) (row : ExecutionRow) (status : TaskStatus)
    (source : Option ProcessRecord) (errorCode errorMessage : Option String)
    (disposition : Option ResultDisposition) :
    Keeps f (projectRootTaskTx now e row status source errorCode errorMessage disposition) :=
  Keeps.ite (Keeps.pure _) ((hf.projectTaskStatusTx now _ _).bind fun _ => Keeps.pure _)

theorem refreshExecutionCountsTx (e : ExecutionId) : Keeps f (refreshExecutionCountsTx e) := by
  intro s a t h
  refine (Triple.refreshExecutionCountsTx (P := fun u => f u = f s) (fun u k g hg hu => ?_) (fun u k g hg hu => ?_))
    s a t rfl h
  · rw [hf.execution u k g fun row => by obtain ⟨p, c, h⟩ := hg row; rw [h]; rfl]
    exact hu
  · rw [hf.task u k g fun row => by obtain ⟨c, h⟩ := hg row; rw [h]; rfl]
    exact hu

theorem closeCancelledTx (now : Time) (e : ExecutionId) (current : ExecutionRow) :
    Keeps f (closeCancelledTx now e current) := by
  refine (hf.casExecution (fun _ => by rfl) _ _).bind fun updated => ?_
  split
  · have project := (hf.projectRootTaskTx now e current .cancelled none none none none).bind fun _ =>
      Keeps.pure updated
    split
    · exact (hf.refreshExecutionCountsTx e).bind fun _ => project
    · exact project
  · exact Keeps.pure _

theorem closeIntegrityTx (now : Time) (e : ExecutionId) (current : ExecutionRow) (errorCode message : String) :
    Keeps f (closeIntegrityTx now e current errorCode message) := by
  refine (hf.casExecution (fun _ => by rfl) _ _).bind fun updated => ?_
  split
  · exact (hf.projectRootTaskTx now _ _ _ _ _ _ _).bind fun _ => Keeps.pure _
  · exact Keeps.pure _

theorem closeRouteTx (now : Time) (e : ExecutionId) (current : ExecutionRow) (r : TerminalRoute) :
    Keeps f (closeRouteTx now e current r) := by
  refine (keeps_execution e).bind fun row => (hf.casExecution (fun _ => by rfl) _ _).bind fun updated => ?_
  split
  · exact (hf.projectRootTaskTx now _ _ _ _ _ _ _).bind fun _ => Keeps.pure _
  · exact Keeps.pure _

end ExecutionFrame

end KnowledgeBase
