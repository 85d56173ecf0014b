import KnowledgeBase.Storage.CleanupRuns

/-!
# Replayed lifecycle commands

A lifecycle command is recognised as a replay by the ledger row of an earlier use of its key alone, and an honest
no-op writes none. `lifecycleReplay_exact` says which replays change nothing and report so, whatever was committed in
between: those of a key that some use has written a row under, and those that find their Item where they want it.
-/

namespace KnowledgeBase

open Checked Relational Serving

namespace Serving

/-! ### the command with its result -/

/-- `LifecycleTransitionResult`; the cleanup intent is the open one of the Item, if there is one. -/
structure LifecycleResult where
  team : TeamId
  item : ItemId
  action : ItemAction
  beforeLifecycle : IntakeLifecycle
  lifecycleState : IntakeLifecycle
  itemRevision : Nat
  servingRevisionCleared : Bool
  transitionFence : TransitionFence
  applied : Bool
  hasCleanupIntent : Bool
deriving DecidableEq

def LifecycleCommand.fence (c : LifecycleCommand) : TransitionFence := .lifecycle c.item c.action c.idempotencyKey

/-- `_result`. -/
def lifecycleResult (c : LifecycleCommand) (i : ItemRow) (beforeLifecycle : IntakeLifecycle) (applied : Bool)
    (s : Serving) : LifecycleResult where
  team := c.team
  item := c.item
  action := c.action
  beforeLifecycle := beforeLifecycle
  lifecycleState := i.lifecycleState
  itemRevision := i.rowRevision
  servingRevisionCleared := i.servingRevision.isNone
  transitionFence := c.fence
  applied := applied
  hasCleanupIntent := s.deleteCleanups.contains (c.team, c.item)

/-- The command is another use of the key, for the same Item and action. -/
def LifecycleCommand.SameUse (c first : LifecycleCommand) : Prop :=
  c.team = first.team ∧ c.item = first.item ∧ c.action = first.action ∧ c.idempotencyKey = first.idempotencyKey

theorem LifecycleCommand.sameUse_iff {c d : LifecycleCommand} :
    c.SameUse d ↔ (c.team, c.item) = (d.team, d.item) ∧ c.fence = d.fence := by
  unfold SameUse fence
  rw [Prod.mk.injEq, TransitionFence.lifecycle.injEq]
  constructor
  · rintro ⟨hteam, hitem, haction, hkey⟩
    exact ⟨⟨hteam, hitem⟩, hitem, haction, hkey⟩
  · rintro ⟨⟨hteam, hitem⟩, -, haction, hkey⟩
    exact ⟨hteam, hitem, haction, hkey⟩

end Serving

namespace Substrates

/-- `apply_tx`, with what it returns. -/
def applyTx (c : LifecycleCommand) (s : Substrates) : Except MkbError (Substrates × LifecycleResult) := do
  let i ← required (s.serving.item? c.team c.item) (notFoundError "intake-item-not-found" "Intake item was not found")
  let unchanged := (s, lifecycleResult c i i.lifecycleState false s.serving)
  if s.serving.hasTransition c.team c.item c.fence then return unchanged
  else
    failIf (c.expectedItemRevision.getD i.rowRevision != i.rowRevision)
      (conflictError "intake-item-revision-conflict" "Intake item revision is stale")
    match ← targetState c.action i.lifecycleState with
    | none => return unchanged
    | some target =>
      let serving ← s.serving.applyTransition c i target
      let updated := (serving.item? c.team c.item).getD i
      return ({ s with serving := serving, references := releaseForLifecycle c s.references },
        lifecycleResult c updated i.lifecycleState true serving)

/-- The ledger holds a row under the key of the command. -/
def IsRecorded (s : Substrates) (c : LifecycleCommand) : Prop := s.serving.hasTransition c.team c.item c.fence = true

/-- The Item is at the revision the command expects, if it expects one, and already in the state it asks for. -/
def IsAtTarget (s : Substrates) (c : LifecycleCommand) : Prop :=
  ∃ i, s.serving.item? c.team c.item = some i ∧ c.expectedItemRevision.getD i.rowRevision = i.rowRevision ∧
    targetState c.action i.lifecycleState = .ok none

/-- The command is applied. -/
def Applies (s : Substrates) (c : LifecycleCommand) : Prop :=
  ∃ s' result, s.applyTx c = .ok (s', result) ∧ result.applied = true

/-- The command changes nothing and reports that it was not applied. -/
def IsSilent (s : Substrates) (c : LifecycleCommand) : Prop :=
  ∃ result, s.applyTx c = .ok (s, result) ∧ result.applied = false

/-- One command of a run: a refused one is rolled back. -/
def commandStep (s : Substrates) (c : LifecycleCommand) : Substrates :=
  match s.applyTx c with
  | .ok (s', _) => s'
  | .error _ => s

/-- Some command of the run uses the key and is applied. -/
def SomeUseApplies (c : LifecycleCommand) : Substrates → List LifecycleCommand → Prop
  | _, [] => False
  | s, d :: commands => c.SameUse d ∧ s.Applies d ∨ SomeUseApplies c (s.commandStep d) commands

variable {s s' : Substrates} {c d : LifecycleCommand} {result : LifecycleResult}

/-! ### one command -/

theorem applyTx_cases (h : s.applyTx c = .ok (s', result)) :
    (s' = s ∧ result.applied = false ∧ (s.IsRecorded c ∨ s.IsAtTarget c)) ∨
      (∃ i target, s'.serving = c.applied i target s.serving) ∧ result.applied = true := by
  unfold applyTx at h
  obtain ⟨i, hi, h⟩ := bind_ok_iff.1 h
  rw [required_ok_iff] at hi
  simp only at h
  split at h
  · rename_i hrecorded
    obtain ⟨rfl, rfl⟩ := Prod.mk.inj (pure_ok_iff.1 h)
    exact Or.inl ⟨rfl, rfl, Or.inl hrecorded⟩
  · obtain ⟨_, hrevision, h⟩ := bind_ok_iff.1 h
    obtain ⟨target, htarget, h⟩ := bind_ok_iff.1 h
    rw [failIf_ok_iff, bne_eq_false_iff_eq] at hrevision
    cases target with
    | none =>
      obtain ⟨rfl, rfl⟩ := Prod.mk.inj (pure_ok_iff.1 h)
      exact Or.inl ⟨rfl, rfl, Or.inr ⟨i, hi, hrevision, htarget⟩⟩
    | some target =>
      obtain ⟨serving, hserving, h⟩ := bind_ok_iff.1 h
      obtain ⟨rfl, rfl⟩ := Prod.mk.inj (pure_ok_iff.1 h)
      exact Or.inr ⟨⟨i, target, applyTransition_ok hserving⟩, rfl⟩

theorem applyTx_fst (c : LifecycleCommand) (s : Substrates) : (s.applyTx c).map Prod.fst = s.applyLifecycle c := by
  unfold applyTx applyLifecycle LifecycleCommand.fence
  cases s.serving.item? c.team c.item with
  | none => rfl
  | some i =>
    simp only [required, bind, Except.bind]
    split
    · rfl
    · cases failIf (c.expectedItemRevision.getD i.rowRevision != i.rowRevision)
        (conflictError "intake-item-revision-conflict" "Intake item revision is stale") with
      | error e => rfl
      | ok u =>
        cases targetState c.action i.lifecycleState with
        | error e => rfl
        | ok target =>
          cases target with
          | none => rfl
          | some target =>
            dsimp only
            cases s.serving.applyTransition c i target with
            | error e => rfl
            | ok serving => rfl

/-- A use of the key changes nothing exactly if the key has its row or the Item is where the command wants it. -/
theorem isSilent_iff (hitem : (s.serving.item? c.team c.item).isSome = true) :
    s.IsSilent c ↔ s.IsRecorded c ∨ s.IsAtTarget c := by
  constructor
  · rintro ⟨result, h, happlied⟩
    rcases applyTx_cases h with ⟨-, -, hwhy⟩ | ⟨-, hyes⟩
    · exact hwhy
    · rw [happlied] at hyes
      cases hyes
  · intro hwhy
    obtain ⟨i, hi⟩ := Option.isSome_iff_exists.1 hitem
    refine ⟨lifecycleResult c i i.lifecycleState false s.serving, ?_, rfl⟩
    refine bind_ok_iff.2 ⟨i, required_ok_iff.2 hi, ?_⟩
    simp only
    split
    · rfl
    · rename_i hfresh
      rcases hwhy with hrecorded | ⟨j, hj, hrevision, htarget⟩
      · exact absurd hrecorded hfresh
      · obtain rfl := Option.some.inj (hi.symm.trans hj)
        refine bind_ok_iff.2 ⟨(), ?_, bind_ok_iff.2 ⟨none, htarget, rfl⟩⟩
        rw [failIf_ok_iff, bne_eq_false_iff_eq]
        exact hrevision

/-! ### the run in between -/

theorem transitions_applied (c : LifecycleCommand) (i : ItemRow) (target : IntakeLifecycle) (s : Serving) :
    (c.applied i target s).transitions = s.transitions ++ [c.transition i target] := by
  unfold LifecycleCommand.applied
  split <;> rfl

theorem keys_items_applied (c : LifecycleCommand) (i : ItemRow) (target : IntakeLifecycle) (s : Serving) :
    (c.applied i target s).items.map ItemRow.key = s.items.map ItemRow.key := by
  have hitems : (c.applied i target s).items = updateWhere (isAt i) (ItemRow.transition target c.now) s.items := by
    unfold LifecycleCommand.applied
    split <;> rfl
  rw [hitems]
  exact keys_updateWhere (ItemRow.key_transition target c.now) s.items

theorem isSome_item?_iff (s : Serving) (team : TeamId) (item : ItemId) :
    (s.item? team item).isSome = true ↔ (team, item) ∈ s.items.map ItemRow.key := by
  unfold item?
  rw [List.find?_isSome, List.mem_map]
  simp only [beq_iff_eq]

/-- The row of a key is there after a command exactly if it was before or the command is an applied use of the key. -/
theorem isRecorded_commandStep (s : Substrates) (c d : LifecycleCommand) :
    (s.commandStep d).IsRecorded c ↔ s.IsRecorded c ∨ c.SameUse d ∧ s.Applies d := by
  unfold commandStep Applies
  cases h : s.applyTx d with
  | error e => simp
  | ok p =>
    obtain ⟨s', result⟩ := p
    rcases applyTx_cases h with ⟨rfl, hno, -⟩ | ⟨⟨i, target, hserving⟩, hyes⟩
    · simp [hno]
    · have happlies : ∃ t r, (Except.ok (s', result) : Except MkbError (Substrates × LifecycleResult)) = .ok (t, r) ∧
          r.applied = true := ⟨s', result, rfl, hyes⟩
      have hrow : (d.transition i target).key = (d.team, d.item) ∧ (d.transition i target).fence = d.fence := ⟨rfl, rfl⟩
      unfold IsRecorded hasTransition
      rw [hserving, transitions_applied, List.any_append, Bool.or_eq_true, List.any_cons, List.any_nil, Bool.or_false,
        Bool.and_eq_true, beq_iff_eq, beq_iff_eq, hrow.1, hrow.2, LifecycleCommand.sameUse_iff]
      constructor
      · rintro (hbefore | ⟨hkey, hfence⟩)
        · exact Or.inl hbefore
        · exact Or.inr ⟨⟨hkey.symm, hfence.symm⟩, happlies⟩
      · rintro (hbefore | ⟨⟨hkey, hfence⟩, -⟩)
        · exact Or.inl hbefore
        · exact Or.inr ⟨hkey.symm, hfence.symm⟩

theorem isSome_item?_commandStep (s : Substrates) (d : LifecycleCommand) (team : TeamId) (item : ItemId) :
    ((s.commandStep d).serving.item? team item).isSome = (s.serving.item? team item).isSome := by
  unfold commandStep
  cases h : s.applyTx d with
  | error e => rfl
  | ok p =>
    obtain ⟨s', result⟩ := p
    rcases applyTx_cases h with ⟨rfl, -, -⟩ | ⟨⟨i, target, hserving⟩, -⟩
    · rfl
    · rw [Bool.eq_iff_iff, isSome_item?_iff, isSome_item?_iff, hserving, keys_items_applied]

theorem isRecorded_run (c : LifecycleCommand) (s : Substrates) (commands : List LifecycleCommand) :
    (commands.foldl commandStep s).IsRecorded c ↔ s.IsRecorded c ∨ SomeUseApplies c s commands := by
  induction commands generalizing s with
  | nil => simp [SomeUseApplies]
  | cons d commands ih =>
    rw [List.foldl_cons, ih, isRecorded_commandStep, or_assoc]
    rfl

theorem isSome_item?_run (s : Substrates) (commands : List LifecycleCommand) (team : TeamId) (item : ItemId) :
    ((commands.foldl commandStep s).serving.item? team item).isSome = (s.serving.item? team item).isSome := by
  induction commands generalizing s with
  | nil => rfl
  | cons d commands ih => rw [List.foldl_cons, ih, isSome_item?_commandStep]

/-! ### the replay -/

theorem commandStep_of_ok (h : s.applyTx c = .ok (s', result)) : s.commandStep c = s' := by
  unfold commandStep
  rw [h]

theorem isSome_item?_of_applyTx (h : s.applyTx c = .ok (s', result)) : (s.serving.item? c.team c.item).isSome = true := by
  obtain ⟨i, hi, -⟩ := bind_ok_iff.1 h
  rw [required_ok_iff.1 hi]
  rfl

/-- After a first use, any further commands and a replay of the first, the replay changes nothing and reports so
exactly if the key had its row before, some use of it was applied, or the Item is where the command wants it. -/
theorem lifecycleReplay_exact (s s₁ : Substrates) (first replay : LifecycleCommand) (result : LifecycleResult)
    (between : List LifecycleCommand) (hfirst : s.applyTx first = .ok (s₁, result)) (hreplay : replay.SameUse first) :
    (between.foldl commandStep s₁).IsSilent replay ↔
      s.IsRecorded replay ∨ SomeUseApplies replay s (first :: between) ∨
        (between.foldl commandStep s₁).IsAtTarget replay := by
  have hrun : between.foldl commandStep s₁ = (first :: between).foldl commandStep s := by
    rw [List.foldl_cons, commandStep_of_ok hfirst]
  have hitem : ((between.foldl commandStep s₁).serving.item? replay.team replay.item).isSome = true := by
    rw [hrun, isSome_item?_run, hreplay.1, hreplay.2.1]
    exact isSome_item?_of_applyTx hfirst
  rw [isSilent_iff hitem, ← or_assoc, ← isRecorded_run, hrun]

/-! ### an Item that leaves the state of the first use -/

/-- One active Item. -/
def oneActiveItem : Substrates :=
  { Substrates.empty with serving := { Serving.empty with items := [⟨1, 1, 1, 1, .active, some 10, none, 0, none⟩] } }

def reactivateUse : LifecycleCommand := ⟨1, 1, .reactivate, 7, none, 3⟩

def deactivateUse : LifecycleCommand := ⟨1, 1, .deactivate, 8, none, 4⟩

/-- A deactivation is replayed in silence after a reactivation under another key. -/
theorem lifecycleReplay_deactivate : ∃ s₁ result, oneActiveItem.applyTx deactivateUse = .ok (s₁, result) ∧
    ([reactivateUse].foldl commandStep s₁).IsSilent deactivateUse := by
  refine ⟨_, _, rfl, ?_⟩
  refine (lifecycleReplay_exact oneActiveItem _ deactivateUse deactivateUse _ [reactivateUse] rfl
    ⟨rfl, rfl, rfl, rfl⟩).2 (Or.inr (Or.inl (Or.inl ⟨⟨rfl, rfl, rfl, rfl⟩, ?_⟩)))
  exact ⟨_, _, rfl, rfl⟩

/-- A reactivation of an active Item is a no-op; its replay after a deactivation reactivates the Item. -/
theorem lifecycleReplay_reactivates : ∃ s₁ result, oneActiveItem.applyTx reactivateUse = .ok (s₁, result) ∧
    result.applied = false ∧ reactivateUse.SameUse reactivateUse ∧
    ¬ ([deactivateUse].foldl commandStep s₁).IsSilent reactivateUse := by
  refine ⟨_, _, rfl, rfl, ⟨rfl, rfl, rfl, rfl⟩, ?_⟩
  rintro ⟨result, h, happlied⟩
  have hreported : (([deactivateUse].foldl commandStep oneActiveItem).applyTx reactivateUse).map
      (fun p => p.2.applied) = .ok true := rfl
  have hsilent : (([deactivateUse].foldl commandStep oneActiveItem).applyTx reactivateUse).map
      (fun p => p.2.applied) = .ok result.applied := congrArg (Except.map fun p => p.2.applied) h
  rw [hreported, happlied] at hsilent
  cases hsilent

end Substrates

end KnowledgeBase
