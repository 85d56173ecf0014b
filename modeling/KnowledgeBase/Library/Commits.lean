import KnowledgeBase.Library.Transaction

/-!
# Runs that raise

Where a run raises its error, and the transactions that raise none: they commit from every store.
-/

namespace KnowledgeBase.Transaction

variable {σ ε α β : Type}

/-! ### raised errors -/

theorem run_bind_of_ok {x : Transaction σ ε α} {f : α → Transaction σ ε β} {s t : σ} {a : α} (h : x.run s = .ok (a, t)) :
    (x >>= f).run s = (f a).run t := by
  rw [StateT.run_bind, h]
  rfl

theorem run_bind_of_error {x : Transaction σ ε α} {f : α → Transaction σ ε β} {s : σ} {e : ε} (h : x.run s = .error e) :
    (x >>= f).run s = .error e := by
  rw [StateT.run_bind, h]
  rfl

theorem run_ofExcept_of_ok {x : Except ε α} {s : σ} {a : α} (h : x = .ok a) :
    (ofExcept x : Transaction σ ε α).run s = .ok (a, s) := by
  rw [h]
  rfl

theorem run_ofExcept_of_error {x : Except ε α} {s : σ} {e : ε} (h : x = .error e) :
    (ofExcept x : Transaction σ ε α).run s = .error e := by
  rw [h]
  rfl

/-! ### checks that committing runs have passed -/

section checks

variable {s : σ} {p : β × σ}

theorem run_raiseIf_bind {c : Bool} {e : ε} {f : Unit → Transaction σ ε β} :
    (raiseIf c e >>= f).run s = .ok p ↔ c = false ∧ (f ()).run s = .ok p := by
  cases c with
  | false => exact ⟨fun h => ⟨rfl, h⟩, fun h => h.2⟩
  | true =>
    constructor
    · rintro ⟨⟩
    · rintro ⟨⟨⟩, -⟩

theorem run_ofExcept_bind {x : Except ε α} {f : α → Transaction σ ε β} :
    (ofExcept x >>= f).run s = .ok p ↔ ∃ a, x = .ok a ∧ (f a).run s = .ok p := by
  cases x with
  | error e =>
    constructor
    · rintro ⟨⟩
    · rintro ⟨a, ⟨⟩, -⟩
  | ok a =>
    constructor
    · exact fun h => ⟨a, rfl, h⟩
    · rintro ⟨b, ⟨⟩, h⟩
      exact h

theorem run_orRaise_bind {o : Option α} {e : ε} {f : α → Transaction σ ε β} :
    (orRaise o e >>= f).run s = .ok p ↔ ∃ a, o = some a ∧ (f a).run s = .ok p := by
  cases o with
  | none =>
    constructor
    · rintro ⟨⟩
    · rintro ⟨a, ⟨⟩, -⟩
  | some a =>
    constructor
    · exact fun h => ⟨a, rfl, h⟩
    · rintro ⟨b, ⟨⟩, h⟩
      exact h

theorem run_ofExcept_when {c : Bool} {x : Except ε Unit} {f : Unit → Transaction σ ε β} :
    (if c then ofExcept x >>= f else f ()).run s = .ok p ↔ (c = true → x = .ok ()) ∧ (f ()).run s = .ok p := by
  cases c with
  | false => exact ⟨fun h => ⟨fun hc => Bool.noConfusion hc, h⟩, fun h => h.2⟩
  | true =>
    rw [if_pos rfl, run_ofExcept_bind]
    exact ⟨fun ⟨_, hx, h⟩ => ⟨fun _ => hx, h⟩, fun ⟨hx, h⟩ => ⟨(), hx rfl, h⟩⟩

end checks

/-! ### transactions that raise nothing -/

/-- The transaction commits from every store. -/
def Commits (x : Transaction σ ε α) : Prop :=
  ∀ s, ∃ a t, x.run s = .ok (a, t)

section commits

variable {x y : Transaction σ ε α}

theorem Commits.bind {f : α → Transaction σ ε β} (hx : Commits x) (hf : ∀ a, Commits (f a)) : Commits (x >>= f) := by
  intro s
  obtain ⟨a, t, h⟩ := hx s
  obtain ⟨b, u, h'⟩ := hf a t
  exact ⟨b, u, (run_bind_of_ok h).trans h'⟩

theorem Commits.pure (a : α) : Commits (Pure.pure a : Transaction σ ε α) := fun s => ⟨a, s, rfl⟩

theorem Commits.get : Commits (get : Transaction σ ε σ) := fun s => ⟨s, s, rfl⟩

theorem Commits.modify (f : σ → σ) : Commits (modify f : Transaction σ ε PUnit) := fun s => ⟨⟨⟩, f s, rfl⟩

theorem Commits.set (r : σ) : Commits (set r : Transaction σ ε PUnit) := fun _ => ⟨⟨⟩, r, rfl⟩

theorem Commits.ite {c : Prop} [Decidable c] (hx : Commits x) (hy : Commits y) : Commits (if c then x else y) := by
  by_cases h : c
  · rw [if_pos h]
    exact hx
  · rw [if_neg h]
    exact hy

theorem Commits.ite_bind {c : Prop} [Decidable c] {x : Transaction σ ε α} {y : Transaction σ ε β} (hx : Commits x)
    (hy : Commits y) : Commits (if c then x >>= fun _ => y else y) :=
  Commits.ite (hx.bind fun _ => hy) hy

theorem Commits.forEach {l : List α} {f : α → Transaction σ ε Unit} (h : ∀ a, Commits (f a)) : Commits (forEach l f) := by
  induction l with
  | nil => exact Commits.pure ()
  | cons a l ih => exact (h a).bind fun _ => ih

end commits

end KnowledgeBase.Transaction
