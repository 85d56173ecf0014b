import KnowledgeBase.Library.Transaction
import Mathlib.Data.List.Forall2

/-!
# Two transactions side by side

`Coupled P x y Q` relates the runs of two transactions from stores related by `P`: both raise, or both commit and
leave results and stores related by `Q`. The rules follow the constructs transactions are written with, one step
of each side at a time; `Same R` is the postcondition of two transactions that return the same result and keep the
relation `R` of their stores.
-/

namespace KnowledgeBase

namespace Transaction

variable {σ ε α β γ δ : Type}

/-- Both runs raise, or both commit and are related. -/
def BothEnd (Q : α → β → σ → σ → Prop) : Except ε (α × σ) → Except ε (β × σ) → Prop
  | .ok (a, s), .ok (b, t) => Q a b s t
  | .error _, .error _ => True
  | _, _ => False

def Coupled (P : σ → σ → Prop) (x : Transaction σ ε α) (y : Transaction σ ε β) (Q : α → β → σ → σ → Prop) : Prop :=
  ∀ s t, P s t → BothEnd Q (x.run s) (y.run t)

/-- The same result, and stores related by `R`. -/
def Same (R : σ → σ → Prop) (a b : α) (s t : σ) : Prop := a = b ∧ R s t

theorem BothEnd.imp {Q Q' : α → β → σ → σ → Prop} {p : Except ε (α × σ)} {q : Except ε (β × σ)}
    (h : BothEnd Q p q) (hQ : ∀ a b s t, Q a b s t → Q' a b s t) : BothEnd Q' p q := by
  match p, q, h with
  | .ok (a, s), .ok (b, t), h => exact hQ a b s t h
  | .error _, .error _, _ => trivial

variable {P P' R : σ → σ → Prop} {Q Q' : α → β → σ → σ → Prop} {S : γ → δ → σ → σ → Prop}

theorem Coupled.pre {x : Transaction σ ε α} {y : Transaction σ ε β} (h : Coupled P x y Q)
    (hP : ∀ s t, P' s t → P s t) : Coupled P' x y Q :=
  fun s t hst => h s t (hP s t hst)

theorem Coupled.post {x : Transaction σ ε α} {y : Transaction σ ε β} (h : Coupled P x y Q)
    (hQ : ∀ a b s t, Q a b s t → Q' a b s t) : Coupled P x y Q' :=
  fun s t hst => (h s t hst).imp hQ

theorem Coupled.bind {x : Transaction σ ε α} {y : Transaction σ ε β} {f : α → Transaction σ ε γ}
    {g : β → Transaction σ ε δ} (hx : Coupled P x y Q) (hf : ∀ a b, Coupled (Q a b) (f a) (g b) S) :
    Coupled P (x >>= f) (y >>= g) S := by
  intro s t hst
  have h := hx s t hst
  rw [StateT.run_bind, StateT.run_bind]
  match x.run s, y.run t, h with
  | .ok (a, s'), .ok (b, t'), h => exact hf a b s' t' h
  | .error _, .error _, _ => trivial

theorem Coupled.bindSame {x y : Transaction σ ε α} {f : α → Transaction σ ε γ} {g : α → Transaction σ ε δ}
    (hx : Coupled P x y (Same R)) (hf : ∀ a, Coupled R (f a) (g a) S) : Coupled P (x >>= f) (y >>= g) S := by
  refine hx.bind fun a b s t hab => ?_
  obtain ⟨rfl, hst⟩ := hab
  exact hf a s t hst

/-- The first steps return related results, a fact apart from the store. -/
theorem Coupled.bindWith {V : α → β → Prop} {x : Transaction σ ε α} {y : Transaction σ ε β}
    {f : α → Transaction σ ε γ} {g : β → Transaction σ ε δ} (hx : Coupled P x y fun a b s t => V a b ∧ Q a b s t)
    (hf : ∀ a b, V a b → Coupled (Q a b) (f a) (g b) S) : Coupled P (x >>= f) (y >>= g) S := by
  refine hx.bind fun a b s t hab => ?_
  exact hf a b hab.1 s t hab.2

theorem Coupled.bindRel {V : α → β → Prop} {x : Transaction σ ε α} {y : Transaction σ ε β}
    {f : α → Transaction σ ε γ} {g : β → Transaction σ ε δ} (hx : Coupled P x y fun a b s t => V a b ∧ R s t)
    (hf : ∀ a b, V a b → Coupled R (f a) (g b) S) : Coupled P (x >>= f) (y >>= g) S :=
  hx.bindWith hf

theorem Coupled.pure {a : α} {b : β} (h : ∀ s t, P s t → Q a b s t) :
    Coupled P (Pure.pure a : Transaction σ ε α) (Pure.pure b) Q :=
  h

theorem Coupled.throw {e e' : ε} :
    Coupled P (MonadExcept.throw e : Transaction σ ε α) (MonadExcept.throw e' : Transaction σ ε β) Q :=
  fun _ _ _ => trivial

theorem Coupled.done {a : α} : Coupled R (Pure.pure a : Transaction σ ε α) (Pure.pure a) (Same R) :=
  fun _ _ hst => ⟨rfl, hst⟩

theorem Coupled.getBind {f : σ → Transaction σ ε γ} {g : σ → Transaction σ ε δ}
    (h : ∀ a b, P a b → Coupled (fun s t => P s t ∧ s = a ∧ t = b) (f a) (g b) S) :
    Coupled P (MonadState.get >>= f) (MonadState.get >>= g) S :=
  fun s t hst => h s t hst s t ⟨hst, rfl, rfl⟩

theorem Coupled.readBind {f : σ → Transaction σ ε γ} {g : σ → Transaction σ ε δ}
    (h : ∀ a b, P a b → Coupled P (f a) (g b) S) : Coupled P (MonadState.get >>= f) (MonadState.get >>= g) S :=
  Coupled.getBind fun a b hab => (h a b hab).pre fun _ _ hst => hst.1

theorem Coupled.modify {f g : σ → σ} (h : ∀ s t, P s t → R (f s) (g t)) :
    Coupled P (modify f : Transaction σ ε PUnit) (modify g : Transaction σ ε PUnit) (Same R) :=
  fun s t hst => ⟨rfl, h s t hst⟩

theorem Coupled.raiseIf {c c' : Bool} {e e' : ε} (h : c = c') :
    Coupled P (raiseIf c e) (raiseIf c' e') fun _ _ s t => c = false ∧ P s t := by
  subst h
  cases c with
  | false => exact fun s t hst => ⟨rfl, hst⟩
  | true => exact fun _ _ _ => trivial

theorem Coupled.orRaise {o : Option α} {o' : Option β} {e e' : ε} {V : α → β → Prop} (h : Option.Rel V o o') :
    Coupled P (orRaise o e) (orRaise o' e') fun a b s t => V a b ∧ P s t := by
  cases h with
  | none => exact fun _ _ _ => trivial
  | some hV => exact fun s t hst => ⟨hV, hst⟩

theorem Coupled.ofExcept {x y : Except ε α} (h : x = y) :
    Coupled P (ofExcept x) (ofExcept y) (Same P) := by
  subst h
  cases x with
  | error e => exact fun _ _ _ => trivial
  | ok a => exact fun s t hst => ⟨rfl, hst⟩

theorem Coupled.ite {c c' : Prop} [Decidable c] [Decidable c'] {x z : Transaction σ ε α} {y w : Transaction σ ε β}
    (h : c ↔ c') (hx : c → Coupled P x y Q) (hz : ¬ c → Coupled P z w Q) :
    Coupled P (if c then x else z) (if c' then y else w) Q := by
  by_cases hc : c
  · rw [if_pos hc, if_pos (h.1 hc)]
    exact hx hc
  · rw [if_neg hc, if_neg fun hc' => hc (h.2 hc')]
    exact hz hc

theorem Coupled.forEach {V : α → β → Prop} {l : List α} {l' : List β} {f : α → Transaction σ ε Unit}
    {g : β → Transaction σ ε Unit} (hl : List.Forall₂ V l l') (h : ∀ a b, V a b → Coupled R (f a) (g b) (Same R)) :
    Coupled R (forEach l f) (forEach l' g) (Same R) := by
  induction hl with
  | nil => exact Coupled.done
  | cons hab _ ih => exact (h _ _ hab).bindSame fun _ => ih

theorem Coupled.sumEach {l : List α} {f g : α → Transaction σ ε Nat} (h : ∀ a, Coupled R (f a) (g a) (Same R)) :
    Coupled R (sumEach l f) (sumEach l g) (Same R) := by
  induction l with
  | nil => exact Coupled.done
  | cons a l ih => exact (h a).bindSame fun n => ih.bindSame fun m => Coupled.done

theorem Coupled.anyEach {l : List α} {f g : α → Transaction σ ε Bool}
    (h : ∀ a ∈ l, Coupled R (f a) (g a) (Same R)) : Coupled R (anyEach l f) (anyEach l g) (Same R) := by
  induction l with
  | nil => exact Coupled.done
  | cons a l ih =>
    exact (h a List.mem_cons_self).bindSame fun b =>
      (ih fun c hc => h c (List.mem_cons_of_mem a hc)).bindSame fun c => Coupled.done

end Transaction

end KnowledgeBase
