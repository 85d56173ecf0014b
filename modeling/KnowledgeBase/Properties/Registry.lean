import KnowledgeBase.Engine.System
import KnowledgeBase.Library.Checked
import KnowledgeBase.Workflow.Registry

/-!
# The registry is append-only

What a successful registration does to the two tables is said once, in `Registers`. From it every run keeps the
registry sound, never changes a revision and never moves a workflow to other coordinates; so the coordinates an
Execution has frozen resolve to the plan that was registered under them, however many revisions came after.
-/

namespace KnowledgeBase

open WorkflowRegistry

variable {D : WorkflowDigests} {P : WorkflowDeclaration → Prop} {s t u : WorkflowRegistry} {decl : WorkflowDeclaration}
  {identity : WorkflowIdentity}

/-! ### what a registration does -/

/-- A workflow has the coordinates of the declaration. -/
structure WorkflowRegistryRow.Coordinates (row : WorkflowRegistryRow) (decl : WorkflowDeclaration) : Prop where
  key : row.workflowKey = decl.workflowKey
  domain : row.domainKey = decl.domainKey
  purpose : row.purposeKey = decl.purposeKey
  role : row.executionRole = decl.executionRole

theorem WorkflowRegistryRow.Coordinates.activate {row : WorkflowRegistryRow} (h : row.Coordinates decl)
    (active : Option WorkflowRevisionId) : ({ row with activeRevision := active }).Coordinates decl :=
  ⟨h.key, h.domain, h.purpose, h.role⟩

/-- A revision carries the digests of the declaration. -/
structure RegisteredRevisionRow.Carries (D : WorkflowDigests) (row : RegisteredRevisionRow)
    (decl : WorkflowDeclaration) : Prop where
  number : row.revisionNumber = decl.revisionNumber
  fingerprint : row.registrationFingerprint = D.registrationFingerprint decl
  canonical : row.canonicalDefinitionDigest = D.registrationFingerprint decl
  compiled : row.compiledDigest = D.compiled decl

/-- The tables after a registration: the row of the workflow and the row of the revision, and everything else. -/
structure Registers (D : WorkflowDigests) (s t : WorkflowRegistry) (decl : WorkflowDeclaration)
    (identity : WorkflowIdentity) (row : WorkflowRegistryRow) (revision : RegisteredRevisionRow) : Prop where
  returned : identity = identityOf D decl identity.workflow identity.workflowRevision
  workflows : ∀ w, t.workflows.get? w =
    if w = identity.workflow then some (activate identity.workflowRevision row) else s.workflows.get? w
  revisions : ∀ v, t.revisions.get? v =
    if v = identity.workflowRevision then some revision else s.revisions.get? v
  coordinates : row.Coordinates decl
  carries : revision.Carries D decl
  owner : revision.workflow = identity.workflow
  known : s.workflows.get? identity.workflow = some row ∨ s.workflows.get? identity.workflow = none ∧
    row.registryStatus = .enabled ∧ ∀ w q, s.workflows.get? w = some q → q.workflowKey ≠ decl.workflowKey
  kept : s.revisions.get? identity.workflowRevision = some revision ∨
    s.revisions.get? identity.workflowRevision = none ∧ revision = revisionOf D decl identity.workflow ∧
      ∀ v q, s.revisions.get? v = some q → q.workflow = identity.workflow → q.revisionNumber ≠ decl.revisionNumber

theorem get?_of_find? {ρ : Type} {T : Table ρ} {c : Nat × ρ → Bool} {k : Nat} {r : ρ}
    (h : T.rows.find? c = some (k, r)) : T.get? k = some r ∧ c (k, r) = true :=
  ⟨Table.get?_eq_some_iff.2 (List.mem_of_find?_eq_some h), List.find?_some h⟩

theorem not_of_find?_none {ρ : Type} {T : Table ρ} {c : Nat × ρ → Bool} (h : T.rows.find? c = none) {k : Nat} {r : ρ}
    (hr : T.get? k = some r) : c (k, r) = false := by
  have := List.find?_eq_none.1 h (k, r) (Table.get?_eq_some_iff.1 hr)
  simpa using this

theorem get?_next {ρ : Type} (T : Table ρ) : T.get? T.next = none := by
  cases h : T.get? T.next with
  | none => rfl
  | some r => exact absurd (Table.lt_next h) (Nat.lt_irrefl _)

theorem get?_activate {T : Table WorkflowRegistryRow} {w : WorkflowId} {row : WorkflowRegistryRow}
    (h : T.get? w = some row) (v : WorkflowRevisionId) (k : WorkflowId) :
    (T.modify w (activate v)).get? k = if k = w then some (activate v row) else T.get? k := by
  rw [Table.get?_modify]
  by_cases hk : k = w
  · subst hk
    simp [h]
  · simp [hk]

theorem eq_of_known {α : Type} {x : Option α} {a b : α} {p : Prop} (h : x = some b ∨ x = none ∧ p) (ha : x = some a) :
    a = b := by
  rcases h with hb | ⟨hnone, -⟩
  · exact Option.some.inj (ha.symm.trans hb)
  · rw [hnone] at ha
    cases ha

/-- Rows stay told apart by a mark when one is written whose mark no other row has. -/
theorem distinct_of_put {ρ σ : Type} {T T' : Table ρ} {f : ρ → σ} {k₀ : Nat} {r₀ : ρ}
    (hput : ∀ k, T'.get? k = if k = k₀ then some r₀ else T.get? k)
    (hold : ∀ k k' r r', T.get? k = some r → T.get? k' = some r' → f r = f r' → k = k')
    (hnew : ∀ k r, T.get? k = some r → f r = f r₀ → k = k₀) {k k' : Nat} {r r' : ρ} (hr : T'.get? k = some r)
    (hr' : T'.get? k' = some r') (hf : f r = f r') : k = k' := by
  rw [hput] at hr hr'
  by_cases hk : k = k₀
  · rw [if_pos hk] at hr
    obtain rfl := Option.some.inj hr
    by_cases hk' : k' = k₀
    · rw [hk, hk']
    · rw [if_neg hk'] at hr'
      exact hk.trans (hnew k' r' hr' hf.symm).symm
  · rw [if_neg hk] at hr
    by_cases hk' : k' = k₀
    · rw [if_pos hk'] at hr'
      obtain rfl := Option.some.inj hr'
      exact (hnew k r hr hf).trans hk'.symm
    · rw [if_neg hk'] at hr'
      exact hold k k' r r' hr hr' hf

theorem assertRegistryShape_ok {existing : WorkflowRegistryRow} (h : assertRegistryShape existing decl = .ok ())
    (hkey : existing.workflowKey = decl.workflowKey) : existing.Coordinates decl := by
  unfold assertRegistryShape at h
  split at h
  · next heq =>
    simp only [Prod.mk.injEq] at heq
    exact ⟨hkey, heq.1, heq.2.1, heq.2.2⟩
  · cases h

theorem insertDefinition_existing {w : WorkflowId} {row : WorkflowRegistryRow} (hrow : s.workflows.get? w = some row)
    (hcoordinates : row.Coordinates decl)
    (hfresh : ∀ v q, s.revisions.get? v = some q → q.workflow = w → q.revisionNumber ≠ decl.revisionNumber)
    (h : insertDefinition D decl (some w) s = .ok (identity, t)) :
    Registers D s t decl identity row (revisionOf D decl w) := by
  unfold insertDefinition at h
  dsimp only [Option.getD_some] at h
  split at h
  · cases h
  cases h
  exact {
    returned := rfl
    workflows := get?_activate hrow _
    revisions := fun v => by
      show (s.revisions.insert _).get? v = _
      rw [Table.get?_insert]
      rfl
    coordinates := hcoordinates
    carries := ⟨rfl, rfl, rfl, rfl⟩
    owner := rfl
    known := .inl hrow
    kept := .inr ⟨get?_next _, rfl, hfresh⟩ }

theorem insertDefinition_new (hfresh : ∀ w q, s.workflows.get? w = some q → q.workflowKey ≠ decl.workflowKey)
    (hnone : ∀ v q, s.revisions.get? v = some q → q.workflow ≠ s.workflows.next)
    (h : insertDefinition D decl none s = .ok (identity, t)) :
    Registers D s t decl identity (rowOf decl) (revisionOf D decl s.workflows.next) := by
  unfold insertDefinition at h
  dsimp only [Option.getD_none] at h
  split at h
  · cases h
  cases h
  exact {
    returned := rfl
    workflows := fun w => by
      show ((s.workflows.insert (rowOf decl)).modify s.workflows.next (activate s.revisions.next)).get? w = _
      have hself : (s.workflows.insert (rowOf decl)).get? s.workflows.next = some (rowOf decl) := by
        rw [Table.get?_insert, if_pos rfl]
      rw [get?_activate hself, Table.get?_insert]
      by_cases hw : w = s.workflows.next
      · subst hw
        simp [identityOf]
      · simp [hw, identityOf]
    revisions := fun v => by
      show (s.revisions.insert _).get? v = _
      rw [Table.get?_insert]
      rfl
    coordinates := ⟨rfl, rfl, rfl, rfl⟩
    carries := ⟨rfl, rfl, rfl, rfl⟩
    owner := rfl
    known := .inr ⟨get?_next _, rfl, hfresh⟩
    kept := .inr ⟨get?_next _, rfl, fun v q hq hw => absurd hw (hnone v q hq)⟩ }

/-- Every revision belongs to a workflow that is there. -/
def WorkflowRegistry.Owned (s : WorkflowRegistry) : Prop :=
  ∀ v q, s.revisions.get? v = some q → ∃ row, s.workflows.get? q.workflow = some row

theorem verifyRevision_ok {w : WorkflowId} {existing : WorkflowRegistryRow} {v : WorkflowRevisionId}
    {row : RegisteredRevisionRow} (hrow : s.workflows.get? w = some existing) (hcoordinates : existing.Coordinates decl)
    (hrevision : s.revisions.get? v = some row) (howner : row.workflow = w)
    (hnumber : row.revisionNumber = decl.revisionNumber)
    (h : verifyRevision D decl w existing v row s = .ok (identity, t)) :
    Registers D s t decl identity existing row := by
  unfold verifyRevision at h
  split at h
  · cases h
  next hdigests =>
  simp only [not_or, ne_eq, not_not] at hdigests
  simp only [Except.ok.injEq, Prod.mk.injEq] at h
  obtain ⟨rfl, rfl⟩ := h
  refine ⟨rfl, fun w' => ?_, fun v' => ?_, hcoordinates, ⟨hnumber, hdigests.1, hdigests.2.1, hdigests.2.2⟩, howner,
    .inl hrow, .inl hrevision⟩
  · by_cases hactive : existing.activeRevision = some v
    · have hsame : activate v existing = existing := by
        unfold activate
        rw [← hactive]
      rw [if_neg (by simpa using hactive)]
      by_cases hw : w' = w
      · simp [identityOf, hw, hsame, hrow]
      · simp [identityOf, hw]
    · rw [if_pos hactive]
      exact get?_activate hrow v w'
  · have hsame : ∀ r : WorkflowRegistry, r.revisions = s.revisions → r.revisions.get? v' =
        if v' = v then some row else s.revisions.get? v' := by
      intro r hr
      rw [hr]
      by_cases hv : v' = v
      · rw [if_pos hv, hv, hrevision]
      · rw [if_neg hv]
    apply hsame
    split <;> rfl

theorem registerExisting_ok {w : WorkflowId} {existing : WorkflowRegistryRow}
    (hrow : s.workflows.get? w = some existing) (hkey : existing.workflowKey = decl.workflowKey)
    (h : registerExisting D decl w existing s = .ok (identity, t)) :
    ∃ revision, Registers D s t decl identity existing revision := by
  unfold registerExisting at h
  obtain ⟨⟨⟩, hshape, h⟩ := Checked.bind_ok_iff.1 h
  have hcoordinates := assertRegistryShape_ok hshape hkey
  split at h
  · next hnone =>
    refine ⟨_, insertDefinition_existing hrow hcoordinates (fun v q hq hw hn => ?_) h⟩
    have hno := not_of_find?_none hnone hq
    simp [hw, hn] at hno
  · next v row hfound =>
    obtain ⟨hrevision, hnumber⟩ := get?_of_find? hfound
    simp only [Bool.and_eq_true, beq_iff_eq] at hnumber
    exact ⟨row, verifyRevision_ok hrow hcoordinates hrevision hnumber.1 hnumber.2 h⟩

theorem register_ok {capabilities : Option (List (String × String))} (hs : s.Owned)
    (h : register D capabilities decl s = .ok (identity, t)) :
    ∃ row revision, Registers D s t decl identity row revision := by
  unfold register at h
  obtain ⟨-, -, h⟩ := Checked.bind_ok_iff.1 h
  split at h
  · next hnone =>
    refine ⟨_, _, insertDefinition_new (fun w q hq heq => ?_) (fun v q hq heq => ?_) h⟩
    · have hno := not_of_find?_none hnone hq
      simp [heq] at hno
    · obtain ⟨row, hrow⟩ := hs v q hq
      rw [heq, get?_next] at hrow
      cases hrow
  · next w existing hfound =>
    obtain ⟨hrow, hkey⟩ := get?_of_find? hfound
    exact ⟨existing, registerExisting_ok hrow (by simpa using hkey) h⟩

/-! ### the invariant -/

/-- The revision was written for the declaration. -/
structure WorkflowDeclaration.Wrote (D : WorkflowDigests) (decl : WorkflowDeclaration) (row : WorkflowRegistryRow)
    (revision : RegisteredRevisionRow) : Prop where
  coordinates : row.Coordinates decl
  carries : revision.Carries D decl
  steps : revision.stepKeys = decl.steps.map (·.stepKey)

/-- The two tables fit together, and every revision was written for one of the declarations. -/
structure WorkflowRegistry.Sound (D : WorkflowDigests) (P : WorkflowDeclaration → Prop) (s : WorkflowRegistry) :
    Prop where
  keys : ∀ w w' row row', s.workflows.get? w = some row → s.workflows.get? w' = some row' →
    row.workflowKey = row'.workflowKey → w = w'
  numbers : ∀ v v' q q', s.revisions.get? v = some q → s.revisions.get? v' = some q' → q.workflow = q'.workflow →
    q.revisionNumber = q'.revisionNumber → v = v'
  active : ∀ w row, s.workflows.get? w = some row → row.registryStatus = .enabled ∧
    ∃ v q, row.activeRevision = some v ∧ s.revisions.get? v = some q ∧ q.workflow = w
  written : ∀ v q, s.revisions.get? v = some q → ∃ (row : WorkflowRegistryRow) (decl : WorkflowDeclaration),
    P decl ∧ s.workflows.get? q.workflow = some row ∧ decl.Wrote D row q

/-- No revision changes, and of a workflow only its active revision. -/
structure WorkflowRegistry.Extends (s t : WorkflowRegistry) : Prop where
  workflows : ∀ w row, s.workflows.get? w = some row →
    ∃ active, t.workflows.get? w = some { row with activeRevision := active }
  revisions : ∀ v q, s.revisions.get? v = some q → t.revisions.get? v = some q

theorem WorkflowRegistry.sound_empty : (WorkflowRegistry.empty).Sound D P where
  keys _ _ _ _ h := by cases h
  numbers _ _ _ _ h := by cases h
  active _ _ h := by cases h
  written _ _ h := by cases h

theorem WorkflowRegistry.Extends.refl (s : WorkflowRegistry) : s.Extends s :=
  ⟨fun _ row h => ⟨row.activeRevision, h⟩, fun _ _ h => h⟩

theorem WorkflowRegistry.Extends.trans (h : s.Extends t) (h' : t.Extends u) : s.Extends u := by
  refine ⟨fun w row hrow => ?_, fun v q hq => h'.revisions v q (h.revisions v q hq)⟩
  obtain ⟨active, hrow'⟩ := h.workflows w row hrow
  obtain ⟨active', hrow''⟩ := h'.workflows w _ hrow'
  exact ⟨active', hrow''⟩

theorem WorkflowRegistry.Sound.owned (hs : s.Sound D P) : s.Owned := fun v q hq => by
  obtain ⟨row, -, -, hrow, -⟩ := hs.written v q hq
  exact ⟨row, hrow⟩

namespace Registers

variable {row : WorkflowRegistryRow} {revision : RegisteredRevisionRow}

theorem key_owner (hs : s.Sound D P) (h : Registers D s t decl identity row revision) {w : WorkflowId}
    {q : WorkflowRegistryRow} (hq : s.workflows.get? w = some q) (hkey : q.workflowKey = decl.workflowKey) :
    w = identity.workflow := by
  rcases h.known with hrow | ⟨-, -, hnew⟩
  · exact hs.keys _ _ _ _ hq hrow (hkey.trans h.coordinates.key.symm)
  · exact absurd hkey (hnew w q hq)

theorem number_owner (hs : s.Sound D P) (h : Registers D s t decl identity row revision) {v : WorkflowRevisionId}
    {q : RegisteredRevisionRow} (hq : s.revisions.get? v = some q) (hw : q.workflow = identity.workflow)
    (hnumber : q.revisionNumber = decl.revisionNumber) : v = identity.workflowRevision := by
  rcases h.kept with hrevision | ⟨-, -, hnew⟩
  · exact hs.numbers _ _ _ _ hq hrevision (hw.trans h.owner.symm) (hnumber.trans h.carries.number.symm)
  · exact absurd hnumber (hnew v q hq hw)

theorem get?_workflow (h : Registers D s t decl identity row revision) :
    t.workflows.get? identity.workflow = some (activate identity.workflowRevision row) := by
  rw [h.workflows, if_pos rfl]

theorem get?_revision (h : Registers D s t decl identity row revision) :
    t.revisions.get? identity.workflowRevision = some revision := by
  rw [h.revisions, if_pos rfl]

theorem «extends» (h : Registers D s t decl identity row revision) : s.Extends t := by
  constructor
  · intro w q hq
    by_cases hw : w = identity.workflow
    · subst hw
      obtain rfl := eq_of_known h.known hq
      exact ⟨some identity.workflowRevision, h.get?_workflow⟩
    · exact ⟨q.activeRevision, by rw [h.workflows, if_neg hw, hq]⟩
  · intro v q hq
    by_cases hv : v = identity.workflowRevision
    · subst hv
      obtain rfl := eq_of_known h.kept hq
      exact h.get?_revision
    · rw [h.revisions, if_neg hv, hq]

theorem wrote (hs : s.Sound D P) (hP : P decl) (h : Registers D s t decl identity row revision) :
    ∃ decl' : WorkflowDeclaration, P decl' ∧ decl'.Wrote D (activate identity.workflowRevision row) revision := by
  rcases h.kept with hrevision | ⟨-, rfl, -⟩
  · obtain ⟨row', decl', hP', hrow', hwrote⟩ := hs.written _ _ hrevision
    rw [h.owner] at hrow'
    obtain rfl := eq_of_known h.known hrow'
    exact ⟨decl', hP', hwrote.coordinates.activate _, hwrote.carries, hwrote.steps⟩
  · exact ⟨decl, hP, h.coordinates.activate _, h.carries, rfl⟩

theorem sound (hs : s.Sound D P) (hP : P decl) (h : Registers D s t decl identity row revision) : t.Sound D P where
  keys _ _ _ _ := distinct_of_put h.workflows hs.keys
    fun _ _ hq hkey => h.key_owner hs hq (hkey.trans h.coordinates.key)
  numbers _ _ _ _ hq hq' hw hnumber := distinct_of_put (f := fun q => (q.workflow, q.revisionNumber)) h.revisions
    (fun v v' q q' hv hv' hf => hs.numbers v v' q q' hv hv' (Prod.mk.inj hf).1 (Prod.mk.inj hf).2)
    (fun _ _ hv hf => h.number_owner hs hv ((Prod.mk.inj hf).1.trans h.owner)
      ((Prod.mk.inj hf).2.trans h.carries.number)) hq hq' (Prod.ext hw hnumber)
  active w q hq := by
    rw [h.workflows] at hq
    by_cases hw : w = identity.workflow
    · rw [if_pos hw] at hq
      obtain rfl := Option.some.inj hq
      refine ⟨?_, identity.workflowRevision, revision, rfl, h.get?_revision, h.owner.trans hw.symm⟩
      rcases h.known with hrow | ⟨-, henabled, -⟩
      · exact (hs.active _ _ hrow).1
      · exact henabled
    · rw [if_neg hw] at hq
      obtain ⟨henabled, v, r, hactive, hr, howner⟩ := hs.active w q hq
      exact ⟨henabled, v, r, hactive, h.extends.revisions v r hr, howner⟩
  written v q hq := by
    rw [h.revisions] at hq
    by_cases hv : v = identity.workflowRevision
    · rw [if_pos hv] at hq
      obtain rfl := Option.some.inj hq
      obtain ⟨decl', hP', hwrote⟩ := h.wrote hs hP
      exact ⟨_, decl', hP', by rw [h.owner]; exact h.get?_workflow, hwrote⟩
    · rw [if_neg hv] at hq
      obtain ⟨row', decl', hP', hrow', hwrote⟩ := hs.written v q hq
      obtain ⟨active, hrow''⟩ := h.extends.workflows _ _ hrow'
      exact ⟨_, decl', hP', hrow'', hwrote.coordinates.activate active, hwrote.carries, hwrote.steps⟩

end Registers

/-! ### runs -/

theorem registryStep_of_ok {r : Registration}
    (h : register D r.capabilities r.declaration s = .ok (identity, t)) : registryStep D s r = t := by
  unfold registryStep
  rw [h]

theorem registryStep_sound (hs : s.Sound D P) {r : Registration} (hP : P r.declaration) :
    (registryStep D s r).Sound D P ∧ s.Extends (registryStep D s r) := by
  unfold registryStep
  split
  · next h =>
    obtain ⟨row, revision, hreg⟩ := register_ok hs.owned h
    exact ⟨hreg.sound hs hP, hreg.extends⟩
  · exact ⟨hs, .refl s⟩

theorem registry_run (hs : s.Sound D P) {l : List Registration} (hl : ∀ r ∈ l, P r.declaration) :
    (runFrom (registryStep D) s l).Sound D P ∧ s.Extends (runFrom (registryStep D) s l) := by
  induction l generalizing s with
  | nil => exact ⟨hs, .refl s⟩
  | cons r l ih =>
    obtain ⟨hsound, hext⟩ := registryStep_sound hs (hl r List.mem_cons_self)
    obtain ⟨hsound', hext'⟩ := ih hsound fun r' hr' => hl r' (List.mem_cons_of_mem _ hr')
    exact ⟨hsound', hext.trans hext'⟩

theorem reachable_sound (D : WorkflowDigests) (l : List Registration) :
    (runFrom (registryStep D) .empty l).Sound D fun _ => True :=
  (registry_run WorkflowRegistry.sound_empty fun _ _ => trivial).1

/-! ### one declaration for one coordinate -/

/-- The coordinates an Execution may have frozen are those of the declaration. -/
def Names (D : WorkflowDigests) (s : WorkflowRegistry) (decl : WorkflowDeclaration) (identity : WorkflowIdentity) :
    Prop :=
  identity = identityOf D decl identity.workflow identity.workflowRevision ∧
    ∃ row revision, s.workflows.get? identity.workflow = some row ∧ row.Coordinates decl ∧
      s.revisions.get? identity.workflowRevision = some revision ∧ revision.Carries D decl ∧
      revision.workflow = identity.workflow

theorem Names.extend (h : Names D s decl identity) (hext : s.Extends t) : Names D t decl identity := by
  obtain ⟨hid, row, revision, hrow, hcoordinates, hrevision, hcarries, howner⟩ := h
  obtain ⟨active, hrow'⟩ := hext.workflows _ _ hrow
  exact ⟨hid, _, revision, hrow', hcoordinates.activate active,
    hext.revisions _ _ hrevision, hcarries, howner⟩

theorem Registers.names {row : WorkflowRegistryRow} {revision : RegisteredRevisionRow}
    (h : Registers D s t decl identity row revision) : Names D t decl identity :=
  ⟨h.returned, _, revision, h.get?_workflow, h.coordinates.activate _, h.get?_revision, h.carries, h.owner⟩

theorem registered_names {capabilities : Option (List (String × String))} (hs : s.Sound D P) (hP : P decl)
    (h : register D capabilities decl s = .ok (identity, t)) :
    t.Sound D P ∧ s.Extends t ∧ Names D t decl identity := by
  obtain ⟨row, revision, hreg⟩ := register_ok hs.owned h
  exact ⟨hreg.sound hs hP, hreg.extends, hreg.names⟩

/-- The state after a run from the empty registry that ends in a registration, and whatever followed it. -/
theorem names_run {before after : List Registration} {r : Registration}
    (hP : ∀ q ∈ before ++ r :: after, P q.declaration)
    (h : register D r.capabilities r.declaration (runFrom (registryStep D) .empty before) = .ok (identity, u)) :
    (runFrom (registryStep D) .empty (before ++ r :: after)).Sound D P ∧
      Names D (runFrom (registryStep D) .empty (before ++ r :: after)) r.declaration identity := by
  have hbefore : (runFrom (registryStep D) .empty before).Sound D P :=
    (registry_run WorkflowRegistry.sound_empty fun q hq => hP q (List.mem_append_left _ hq)).1
  have hr : P r.declaration := hP r (List.mem_append_right _ List.mem_cons_self)
  obtain ⟨hsound, -, hnames⟩ := registered_names hbefore hr h
  rw [runFrom_append, runFrom_cons, registryStep_of_ok h]
  obtain ⟨hsound', hext⟩ := registry_run hsound fun q hq =>
    hP q (List.mem_append_right _ (List.mem_cons_of_mem _ hq))
  exact ⟨hsound', hnames.extend hext⟩

/-- A later registration of the same key and number finds the same revision, and only of the same declaration. -/
theorem Names.agree (hs : s.Sound D P) (h : Names D s decl identity) {decl' : WorkflowDeclaration}
    (hD : D.registrationFingerprint decl = D.registrationFingerprint decl' → decl = decl')
    {identity' : WorkflowIdentity}
    {row' : WorkflowRegistryRow} {revision' : RegisteredRevisionRow}
    (h' : Registers D s t decl' identity' row' revision') :
    (decl.workflowKey = decl'.workflowKey ∧ decl.revisionNumber = decl'.revisionNumber ↔
      identity.workflowRevision = identity'.workflowRevision) ∧
      (identity.workflowRevision = identity'.workflowRevision → decl = decl' ∧ identity = identity') := by
  obtain ⟨hid, row, revision, hrow, hcoordinates, hrevision, hcarries, howner⟩ := h
  have back : identity.workflowRevision = identity'.workflowRevision → decl = decl' ∧ identity = identity' := by
    intro hv
    rw [hv] at hrevision
    obtain rfl := eq_of_known h'.kept hrevision
    obtain rfl := hD (hcarries.fingerprint.symm.trans h'.carries.fingerprint)
    exact ⟨rfl, by rw [hid, h'.returned, ← howner, h'.owner, hv]⟩
  refine ⟨⟨fun ⟨hkey, hnumber⟩ => ?_, fun hv => ?_⟩, back⟩
  · have hw : identity.workflow = identity'.workflow := h'.key_owner hs hrow (hcoordinates.key.trans hkey)
    exact h'.number_owner hs hrevision (howner.trans hw) (hcarries.number.trans hnumber)
  · obtain rfl := (back hv).1
    exact ⟨rfl, rfl⟩

/-- Over every run of registrations, by services of any capabilities and of any declarations, two that succeed return
the same revision exactly when they are of one key and one number, and then they are of one declaration and return the
same coordinates: a revision, once written, is never another's. -/
theorem registry_coordinates (D : WorkflowDigests) (before between : List Registration) (r r' : Registration)
    (hD : D.registrationFingerprint r.declaration = D.registrationFingerprint r'.declaration →
      r.declaration = r'.declaration)
    (identity identity' : WorkflowIdentity) (t t' : WorkflowRegistry)
    (h : register D r.capabilities r.declaration (runFrom (registryStep D) .empty before) = .ok (identity, t))
    (h' : register D r'.capabilities r'.declaration (runFrom (registryStep D) .empty (before ++ r :: between)) =
      .ok (identity', t')) :
    (r.declaration.workflowKey = r'.declaration.workflowKey ∧
        r.declaration.revisionNumber = r'.declaration.revisionNumber ↔
      identity.workflowRevision = identity'.workflowRevision) ∧
    (identity.workflowRevision = identity'.workflowRevision →
      r.declaration = r'.declaration ∧ identity = identity') := by
  obtain ⟨hsound, hnames⟩ := names_run (P := fun _ => True) (fun _ _ => trivial) h
  obtain ⟨row', revision', hreg⟩ := register_ok hsound.owned h'
  exact hnames.agree hsound hD hreg

/-- Two revisions of one workflow. -/
def sampleDeclaration (revisionNumber : Nat) : WorkflowDeclaration where
  toWorkflowDefinition := indexRebuildWorkflow
  revisionNumber := revisionNumber
  purposeKey := "intake.rebuild"
  executionRole := .root
  displayName := "Index rebuild"
  description := "Rebuilds the index of an item"

def sampleDigests : WorkflowDigests where
  registrationFingerprint decl := 100 + decl.revisionNumber
  compiled decl := 200 + decl.revisionNumber

theorem isOk_register_first :
    (register sampleDigests none (sampleDeclaration 1)
      (runFrom (registryStep sampleDigests) .empty [])).isOk = true := by
  decide +kernel

theorem isOk_register_again :
    (register sampleDigests none (sampleDeclaration 1) (runFrom (registryStep sampleDigests) .empty
      ([] ++ ⟨none, sampleDeclaration 1⟩ :: [⟨none, sampleDeclaration 2⟩]))).isOk = true := by
  decide +kernel

theorem exists_of_isOk {ε α : Type} {x : Except ε α} (h : x.isOk = true) : ∃ a, x = .ok a := by
  cases x with
  | ok a => exact ⟨a, rfl⟩
  | error e => cases h

/-- The first revision registered again after the second. -/
theorem registry_coordinates_again :
    ∃ identity t identity' t',
      register sampleDigests none (sampleDeclaration 1) (runFrom (registryStep sampleDigests) .empty []) =
        .ok (identity, t) ∧
      register sampleDigests none (sampleDeclaration 1) (runFrom (registryStep sampleDigests) .empty
        ([] ++ ⟨none, sampleDeclaration 1⟩ :: [⟨none, sampleDeclaration 2⟩])) = .ok (identity', t') ∧
      identity = identity' := by
  obtain ⟨⟨identity, t⟩, h⟩ := exists_of_isOk isOk_register_first
  obtain ⟨⟨identity', t'⟩, h'⟩ := exists_of_isOk isOk_register_again
  obtain ⟨same, agree⟩ := registry_coordinates sampleDigests [] [⟨none, sampleDeclaration 2⟩]
    ⟨none, sampleDeclaration 1⟩ ⟨none, sampleDeclaration 1⟩ (fun _ => rfl) identity identity' t t' h h'
  exact ⟨identity, t, identity', t', h, h', (agree (same.1 ⟨rfl, rfl⟩)).2⟩

/-! ### the frozen binding -/

theorem lookup_map_value {ρ σ : Type} (f : ρ → σ) (l : List (Nat × ρ)) (k : Nat) :
    (l.map fun p => (p.1, f p.2)).lookup k = (l.lookup k).map f := by
  induction l with
  | nil => rfl
  | cons p l ih =>
    rw [List.map_cons, List.lookup_cons, List.lookup_cons, ih]
    by_cases hk : k == p.1 <;> simp [hk]

theorem lookup_append_self {ρ : Type} {l : List (Nat × ρ)} {k : Nat} (h : l.lookup k = none) (r : ρ) :
    (l ++ [(k, r)]).lookup k = some r := by
  simp [List.lookup_append, h]

theorem collectPlans_ok {keys : List String} {candidates : List ValidDeclaration}
    {plans plans' : List (Digest × ValidDeclaration)} (h : collectPlans D keys candidates plans = .ok plans') :
    (∀ k p, plans.lookup k = some p → plans'.lookup k = some p) ∧
      ∀ c ∈ candidates, keys.contains c.1.workflowKey = true ∧ plans'.lookup (D.compiled c.1) = some c := by
  induction candidates generalizing plans with
  | nil =>
    cases h
    exact ⟨fun _ _ hp => hp, fun c hc => by cases hc⟩
  | cons candidate rest ih =>
    unfold collectPlans at h
    split at h
    · cases h
    next hactive =>
    have hkey : keys.contains candidate.1.workflowKey = true := by simpa using hactive
    split at h
    · next existing hexisting =>
      split at h
      · cases h
      next hsame =>
      obtain rfl := not_not.1 hsame
      obtain ⟨keep, collect⟩ := ih h
      refine ⟨keep, fun c hc => ?_⟩
      rcases List.mem_cons.1 hc with rfl | hc
      · exact ⟨hkey, keep _ _ hexisting⟩
      · exact collect c hc
    · next hnone =>
      obtain ⟨keep, collect⟩ := ih h
      refine ⟨fun k p hp => keep k p ?_, fun c hc => ?_⟩
      · rw [List.lookup_append, hp]
        rfl
      · rcases List.mem_cons.1 hc with rfl | hc
        · exact ⟨hkey, keep _ _ (lookup_append_self hnone _)⟩
        · exact collect c hc

/-- A list that keeps some of the entries of a list with distinct keys finds what the list finds. -/
theorem lookup_filterMap_value {ρ σ : Type} (f : ρ → Option σ) {l : List (Nat × ρ)} (hl : (l.map Prod.fst).Nodup)
    (k : Nat) : (l.filterMap fun p => (f p.2).map (p.1, ·)).lookup k = (l.lookup k).bind f := by
  induction l with
  | nil => rfl
  | cons p l ih =>
    obtain ⟨j, x⟩ := p
    rw [List.map_cons, List.nodup_cons] at hl
    have rest := ih hl.2
    rw [List.filterMap_cons, List.lookup_cons]
    by_cases hk : k = j
    · subst hk
      have hnone : l.lookup k = none := by
        rw [List.lookup_eq_none_iff]
        intro q hq
        have hne : k ≠ q.1 := fun heq => hl.1 (List.mem_map.2 ⟨q, hq, heq.symm⟩)
        simpa using hne
      rw [hnone] at rest
      cases hf : f x with
      | none => simpa [hf] using rest
      | some b => simp [hf]
    · have hb : (k == j) = false := beq_eq_false_iff_ne.2 hk
      cases hf : f x with
      | none => simpa [hf, hb] using rest
      | some b => simpa [hf, hb, List.lookup_cons] using rest

theorem lookup_revisionRows (s : WorkflowRegistry) (v : WorkflowRevisionId) :
    s.revisionRows.lookup v = (s.revisions.get? v).bind s.joined :=
  lookup_filterMap_value s.joined s.revisions.nodup v

theorem stepKeys_of_carries (hs : s.Sound D P)
    (hD : ∀ a, P a → D.registrationFingerprint a = D.registrationFingerprint decl → a = decl)
    {v : WorkflowRevisionId} {q : RegisteredRevisionRow} (hq : s.revisions.get? v = some q) (h : q.Carries D decl) :
    q.stepKeys = decl.steps.map (·.stepKey) := by
  obtain ⟨row, decl', hP, -, hwrote⟩ := hs.written v q hq
  obtain rfl := hD decl' hP (hwrote.carries.fingerprint.symm.trans h.fingerprint)
  exact hwrote.steps

theorem stepKeys_agree (plan : WorkflowDefinition) :
    ((plan.steps.map (·.stepKey)).all (fun key => (plan.step? key).isSome) &&
      plan.steps.all fun step => (plan.steps.map (·.stepKey)).contains step.stepKey) = true := by
  simp only [Bool.and_eq_true, List.all_eq_true, List.mem_map, List.contains_eq_mem, decide_eq_true_eq]
  refine ⟨fun key hkey => ?_, fun step hstep => ⟨step, hstep, rfl⟩⟩
  obtain ⟨step, hstep, rfl⟩ := hkey
  unfold WorkflowDefinition.step?
  rw [List.find?_isSome]
  exact ⟨step, hstep, by simp⟩

theorem assertExecutionBinding_names (hs : s.Sound D P)
    (hD : ∀ a, P a → D.registrationFingerprint a = D.registrationFingerprint decl → a = decl)
    (h : Names D s decl identity) {settings d : Deployment} {compatibility active : List ValidDeclaration}
    (hd : runtimeOver D settings compatibility active s = .ok d) (hvalid : decl.validateDefinition = .ok ())
    (hmem : (⟨decl, hvalid⟩ : ValidDeclaration) ∈ compatibility ++ active) {row : ExecutionRow}
    (hrevision : row.workflowRevision = identity.workflowRevision)
    (hdigest : row.compiledDigest = identity.compiledDigest) :
    assertExecutionBinding d row = .ok decl.toWorkflowDefinition := by
  unfold runtimeOver at hd
  dsimp only at hd
  split at hd
  · cases hd
  obtain ⟨plans, hplans, hd⟩ := Checked.bind_ok_iff.1 hd
  obtain rfl := Checked.pure_ok_iff.1 hd
  obtain ⟨hactive, hplan⟩ := (collectPlans_ok hplans).2 _ hmem
  obtain ⟨hid, q, revision, hq, hcoordinates, hrev, hcarries, howner⟩ := h
  have hcompiled : row.compiledDigest = D.compiled decl := by
    rw [hdigest, hid]
    rfl
  have hlookup : (s.revisionRows.lookup row.workflowRevision) = some
      ⟨D.compiled decl, decl.workflowKey, q.executionRole, decl.steps.map (·.stepKey)⟩ := by
    rw [lookup_revisionRows, hrevision, hrev, Option.bind_some, joined, howner, hq, Option.map_some, hcarries.compiled,
      hcoordinates.key, stepKeys_of_carries hs hD hrev hcarries]
  unfold assertExecutionBinding
  dsimp only
  rw [hlookup]
  dsimp only
  rw [hcompiled, lookup_map_value (fun c : ValidDeclaration => (⟨c.1.toWorkflowDefinition, c.2⟩ : ValidWorkflow)),
    hplan]
  simp only [bne_self_eq_false, hactive, Bool.not_true, Bool.or_false, Bool.false_eq_true, if_false, Option.map_some]
  rw [if_pos (stepKeys_agree decl.toWorkflowDefinition)]

/-- An Execution that froze the coordinates a registration returned resolves to the plan that was registered, whatever
is registered afterwards, in every runtime that can be built over the registry with the declaration among its own. -/
theorem frozen_binding (D : WorkflowDigests) (before after : List Registration) (r : Registration)
    (hD : ∀ q ∈ before ++ r :: after, D.registrationFingerprint q.declaration =
      D.registrationFingerprint r.declaration → q.declaration = r.declaration)
    (identity : WorkflowIdentity) (t : WorkflowRegistry)
    (hregister : register D r.capabilities r.declaration (runFrom (registryStep D) .empty before) = .ok (identity, t))
    (settings d : Deployment) (compatibility active : List ValidDeclaration)
    (hd : runtimeOver D settings compatibility active (runFrom (registryStep D) .empty (before ++ r :: after)) = .ok d)
    (hvalid : r.declaration.validateDefinition = .ok ())
    (hmem : (⟨r.declaration, hvalid⟩ : ValidDeclaration) ∈ compatibility ++ active) (row : ExecutionRow)
    (hrevision : row.workflowRevision = identity.workflowRevision)
    (hdigest : row.compiledDigest = identity.compiledDigest) :
    assertExecutionBinding d row = .ok r.declaration.toWorkflowDefinition := by
  obtain ⟨hsound, hnames⟩ := names_run (P := fun decl => ∃ q ∈ before ++ r :: after, q.declaration = decl)
    (fun q hq => ⟨q, hq, rfl⟩) hregister
  have hdistinct : ∀ a, (∃ q ∈ before ++ r :: after, q.declaration = a) →
      D.registrationFingerprint a = D.registrationFingerprint r.declaration → a = r.declaration := by
    rintro a ⟨q, hq, rfl⟩ ha
    exact hD q hq ha
  exact assertExecutionBinding_names hsound hdistinct hnames hd hvalid hmem hrevision hdigest

def reviewedRevision (revisionNumber : Nat) : ValidDeclaration :=
  ⟨sampleDeclaration revisionNumber, validateDefinition_indexRebuild⟩

theorem isOk_runtimeOver :
    (runtimeOver sampleDigests sampleDeployment [reviewedRevision 1] [reviewedRevision 2]
      (runFrom (registryStep sampleDigests) .empty
        ([] ++ ⟨none, sampleDeclaration 1⟩ :: [⟨none, sampleDeclaration 2⟩]))).isOk = true := by
  decide +kernel

/-- The row of an Execution that froze the coordinates. -/
def frozenExecution (identity : WorkflowIdentity) : ExecutionRow where
  team := 0
  task := 0
  generation := 1
  root := 0
  workflowRevision := identity.workflowRevision
  compiledDigest := identity.compiledDigest

/-- An Execution of the first revision under a runtime in which the second is the active one. -/
theorem frozen_binding_first :
    ∃ (identity : WorkflowIdentity) (t : WorkflowRegistry) (d : Deployment),
      register sampleDigests none (sampleDeclaration 1) (runFrom (registryStep sampleDigests) .empty []) =
        .ok (identity, t) ∧
      assertExecutionBinding d (frozenExecution identity) = .ok indexRebuildWorkflow := by
  obtain ⟨⟨identity, t⟩, h⟩ := exists_of_isOk isOk_register_first
  obtain ⟨d, hd⟩ := exists_of_isOk isOk_runtimeOver
  exact ⟨identity, t, d, h, frozen_binding sampleDigests [] [⟨none, sampleDeclaration 2⟩] ⟨none, sampleDeclaration 1⟩
    (by decide +kernel) identity t h sampleDeployment d [reviewedRevision 1] [reviewedRevision 2] hd
    validateDefinition_indexRebuild List.mem_cons_self _ rfl rfl⟩

/-! ### resolution -/

theorem filterMap_eq_singleton {α β : Type} {f : α → Option β} {l : List α} (hl : l.Nodup) {a : α} (ha : a ∈ l) {b : β}
    (hf : f a = some b) (hne : ∀ c ∈ l, c ≠ a → f c = none) : l.filterMap f = [b] := by
  induction l with
  | nil => cases ha
  | cons c l ih =>
    rw [List.nodup_cons] at hl
    rw [List.filterMap_cons]
    by_cases hc : c = a
    · subst hc
      have hnone : l.filterMap f = [] := by
        rw [List.filterMap_eq_nil_iff]
        intro e he
        exact hne e (List.mem_cons_of_mem _ he) fun heq => hl.1 (heq ▸ he)
      rw [hf, hnone]
    · have hmem : a ∈ l := (List.mem_cons.1 ha).resolve_left (Ne.symm hc)
      rw [hne c List.mem_cons_self hc]
      exact ih hl.2 hmem fun e he => hne e (List.mem_cons_of_mem _ he)

theorem resolveByKey_of_get? (hs : s.Sound D P) {w : WorkflowId} {row : WorkflowRegistryRow}
    (hrow : s.workflows.get? w = some row) {v : WorkflowRevisionId} {q : RegisteredRevisionRow}
    (hactive : row.activeRevision = some v) (hq : s.revisions.get? v = some q) :
    resolveByKey row.workflowKey s =
      .ok ⟨row.workflowKey, w, v, q.compiledDigest, q.registrationFingerprint, row.executionRole⟩ := by
  have hbindings : (s.activeBindings fun r => r.workflowKey == row.workflowKey) =
      [⟨row.workflowKey, w, v, q.compiledDigest, q.registrationFingerprint, row.executionRole⟩] := by
    refine filterMap_eq_singleton (List.Nodup.of_map _ s.workflows.nodup) (Table.get?_eq_some_iff.1 hrow) ?_ ?_
    · simp [(hs.active w row hrow).1, hactive, hq]
    · intro c hc hne
      have hc' : s.workflows.get? c.1 = some c.2 := Table.get?_eq_some_iff.2 hc
      have hkey : c.2.workflowKey ≠ row.workflowKey := by
        intro heq
        obtain rfl := hs.keys c.1 w c.2 row hc' hrow heq
        rw [hrow] at hc'
        exact hne (Prod.ext rfl (Option.some.inj hc').symm)
      simp [hkey]
  unfold resolveByKey
  rw [hbindings]
  rfl

/-- The coordinates are those of the declaration, and its revision is the active one. -/
def Current (D : WorkflowDigests) (s : WorkflowRegistry) (decl : WorkflowDeclaration) (identity : WorkflowIdentity) :
    Prop :=
  Names D s decl identity ∧
    ∃ row, s.workflows.get? identity.workflow = some row ∧ row.activeRevision = some identity.workflowRevision

theorem Current.resolve (hs : s.Sound D P) (h : Current D s decl identity) :
    resolveByKey decl.workflowKey s = .ok identity := by
  obtain ⟨⟨hid, row, q, hrow, hcoordinates, hq, hcarries, howner⟩, row', hrow', hactive⟩ := h
  rw [hrow] at hrow'
  obtain rfl := Option.some.inj hrow'
  rw [← hcoordinates.key, resolveByKey_of_get? hs hrow hactive hq, hcarries.compiled, hcarries.fingerprint,
    hcoordinates.key, hcoordinates.role]
  exact congrArg Except.ok hid.symm

theorem Current.step (hs : s.Sound D P) (h : Current D s decl identity) {r : Registration}
    (hkey : r.declaration.workflowKey ≠ decl.workflowKey) : Current D (registryStep D s r) decl identity := by
  unfold registryStep
  split
  · next identity' t hreg =>
    obtain ⟨row', revision', hreg⟩ := register_ok hs.owned hreg
    obtain ⟨hnames, row, hrow, hactive⟩ := h
    refine ⟨hnames.extend hreg.extends, row, ?_, hactive⟩
    have hw : identity.workflow ≠ identity'.workflow := by
      intro hw
      obtain ⟨-, q, -, hq, hcoordinates, -⟩ := hnames
      rw [hw] at hq
      obtain rfl := eq_of_known hreg.known hq
      exact hkey (hreg.coordinates.key.symm.trans hcoordinates.key)
    rw [hreg.workflows, if_neg hw, hrow]
  · exact h

theorem Current.run (hs : s.Sound D P) (h : Current D s decl identity) {l : List Registration}
    (hP : ∀ r ∈ l, P r.declaration) (hl : ∀ r ∈ l, r.declaration.workflowKey ≠ decl.workflowKey) :
    Current D (runFrom (registryStep D) s l) decl identity := by
  induction l generalizing s with
  | nil => exact h
  | cons r l ih =>
    exact ih (registryStep_sound hs (hP r List.mem_cons_self)).1 (h.step hs (hl r List.mem_cons_self))
      (fun r' hr' => hP r' (List.mem_cons_of_mem _ hr')) fun r' hr' => hl r' (List.mem_cons_of_mem _ hr')

/-- A key resolves to the coordinates that the last registration under it returned, whether it wrote the revision,
added it to the workflow or went back to an older one. -/
theorem resolve_last_registration (D : WorkflowDigests) (before after : List Registration) (r : Registration)
    (identity : WorkflowIdentity) (t : WorkflowRegistry)
    (h : register D r.capabilities r.declaration (runFrom (registryStep D) .empty before) = .ok (identity, t))
    (hafter : ∀ q ∈ after, q.declaration.workflowKey ≠ r.declaration.workflowKey) :
    resolveByKey r.declaration.workflowKey (runFrom (registryStep D) .empty (before ++ r :: after)) = .ok identity := by
  have hs := reachable_sound D before
  obtain ⟨row, revision, hreg⟩ := register_ok hs.owned h
  have hsound : t.Sound D fun _ => True := hreg.sound hs trivial
  have hcurrent : Current D t r.declaration identity := ⟨hreg.names, _, hreg.get?_workflow, rfl⟩
  rw [runFrom_append, runFrom_cons, registryStep_of_ok h]
  exact (hcurrent.run hsound (fun _ _ => trivial) hafter).resolve (registry_run hsound fun _ _ => trivial).1

/-- The older revision is the active one after it is registered again. -/
theorem resolve_last_registration_again :
    ∃ identity, resolveByKey "index.rebuild" (runFrom (registryStep sampleDigests) .empty
      ([⟨none, sampleDeclaration 1⟩, ⟨none, sampleDeclaration 2⟩] ++ [⟨none, sampleDeclaration 1⟩])) =
        .ok identity := by
  obtain ⟨⟨identity, t⟩, h⟩ := exists_of_isOk isOk_register_again
  exact ⟨identity, resolve_last_registration sampleDigests [⟨none, sampleDeclaration 1⟩, ⟨none, sampleDeclaration 2⟩] []
    ⟨none, sampleDeclaration 1⟩ identity t h (fun q hq => by cases hq)⟩

/-! ### readiness -/

/-- A workflow has the key. -/
def HasKey (s : WorkflowRegistry) (key : String) : Prop :=
  ∃ w row, s.workflows.get? w = some row ∧ row.workflowKey = key

theorem HasKey.extend {key : String} (h : HasKey s key) (hext : s.Extends t) : HasKey t key := by
  obtain ⟨w, row, hrow, hkey⟩ := h
  obtain ⟨active, hrow'⟩ := hext.workflows w row hrow
  exact ⟨w, _, hrow', hkey⟩

theorem HasKey.resolve {key : String} (hs : s.Sound D P) (h : HasKey s key) :
    ∃ identity, resolveByKey key s = .ok identity ∧ identity.workflowKey = key := by
  obtain ⟨w, row, hrow, rfl⟩ := h
  obtain ⟨-, v, q, hactive, hq, -⟩ := hs.active w row hrow
  exact ⟨_, resolveByKey_of_get? hs hrow hactive hq, rfl⟩

theorem bootstrap_sound {capabilities : Option (List (String × String))} {builtin : List WorkflowDeclaration}
    (hs : s.Sound D fun _ => True) :
    (bootstrap D capabilities builtin s).1.Sound D (fun _ => True) ∧ s.Extends (bootstrap D capabilities builtin s).1 ∧
      ((bootstrap D capabilities builtin s).2 = true →
        ∀ decl ∈ builtin, HasKey (bootstrap D capabilities builtin s).1 decl.workflowKey) := by
  induction builtin generalizing s with
  | nil => exact ⟨hs, .refl s, fun _ decl hdecl => by cases hdecl⟩
  | cons decl builtin ih =>
    unfold bootstrap
    split
    · next identity t h =>
      obtain ⟨hsound, hext, hnames⟩ := registered_names hs trivial h
      obtain ⟨hsound', hext', hkeys⟩ := ih hsound
      refine ⟨hsound', hext.trans hext', fun hdone decl' hdecl' => ?_⟩
      rcases List.mem_cons.1 hdecl' with rfl | hdecl'
      · obtain ⟨-, row, -, hrow, hcoordinates, -⟩ := hnames
        exact HasKey.extend ⟨_, row, hrow, hcoordinates.key⟩ hext'
      · exact hkeys hdone decl' hdecl'
    · exact ⟨hs, .refl s, fun hdone => by cases hdone⟩

/-- Once a bootstrap has run to its end the registry is ready for its declarations, and stays ready over every later
registration. -/
theorem bootstrap_ready (D : WorkflowDigests) (before after : List Registration)
    (capabilities : Option (List (String × String))) (builtin : List WorkflowDeclaration)
    (hdone : (bootstrap D capabilities builtin (runFrom (registryStep D) .empty before)).2 = true) :
    readiness builtin
      (runFrom (registryStep D) (bootstrap D capabilities builtin (runFrom (registryStep D) .empty before)).1 after) =
        true := by
  have hs := reachable_sound D before
  obtain ⟨hsound, -, hkeys⟩ := bootstrap_sound hs
  obtain ⟨hsound', hext⟩ := registry_run (l := after) hsound fun _ _ => trivial
  unfold readiness
  rw [List.all_eq_true]
  intro decl hdecl
  obtain ⟨identity, hresolve, hkey⟩ := ((hkeys hdone decl hdecl).extend hext).resolve hsound'
  rw [hresolve]
  exact beq_iff_eq.2 hkey

theorem bootstrap_ready_sample :
    readiness [sampleDeclaration 2] (runFrom (registryStep sampleDigests) (bootstrap sampleDigests none
      [sampleDeclaration 2] (runFrom (registryStep sampleDigests) .empty [⟨none, sampleDeclaration 1⟩])).1
        [⟨none, sampleDeclaration 1⟩]) = true :=
  bootstrap_ready sampleDigests [⟨none, sampleDeclaration 1⟩] [⟨none, sampleDeclaration 1⟩] none [sampleDeclaration 2]
    (by decide +kernel)

end KnowledgeBase
