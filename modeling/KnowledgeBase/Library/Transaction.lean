import Mathlib.Logic.Relation

/-!
# Transactions

A transaction reads and writes a store and either commits with a result or raises, in which case nothing it wrote
is kept. `Triple P x Q` says that a committing run of `x` leads from `P` to `Q`; the rules follow the constructs
transactions are written with, so that a specification of each operation is all its callers need. `Keeps` is the
special case of a reflexive and transitive relation between the store before and the store after.
-/

namespace KnowledgeBase

/-- Reads and writes `σ`, raises `ε`. -/
abbrev Transaction (σ ε : Type) := StateT σ (Except ε)

namespace Transaction

variable {σ ε α β : Type}

/-- The store after the transaction: unchanged if it raises. -/
def commit (x : Transaction σ ε α) (s : σ) : σ :=
  match x.run s with
  | .ok (_, s') => s'
  | .error _ => s

/-- The result of a transaction that does not raise. -/
def result? (x : Transaction σ ε α) (s : σ) : Option α :=
  match x.run s with
  | .ok (a, _) => some a
  | .error _ => none

/-- Raises the error if the condition holds. -/
def raiseIf (c : Bool) (e : ε) : Transaction σ ε Unit := if c then throw e else pure ()

/-- The value, or the error in its absence. -/
def orRaise (o : Option α) (e : ε) : Transaction σ ε α :=
  match o with
  | some a => pure a
  | none => throw e

/-- A computation that may raise and does not touch the store. -/
def ofExcept (x : Except ε α) : Transaction σ ε α :=
  match x with
  | .ok a => pure a
  | .error e => throw e

/-- Runs the body on every element in order. -/
def forEach (l : List α) (f : α → Transaction σ ε Unit) : Transaction σ ε Unit :=
  match l with
  | [] => pure ()
  | a :: l => do
    f a
    forEach l f

/-- Runs the body on every element in order and adds up what it returns. -/
def sumEach (l : List α) (f : α → Transaction σ ε Nat) : Transaction σ ε Nat :=
  match l with
  | [] => pure 0
  | a :: l => do
    let n ← f a
    let m ← sumEach l f
    pure (n + m)

/-- Runs the body on every element in order and tells whether one of them returned `true`. -/
def anyEach (l : List α) (f : α → Transaction σ ε Bool) : Transaction σ ε Bool :=
  match l with
  | [] => pure false
  | a :: l => do
    let b ← f a
    let c ← anyEach l f
    pure (b || c)

/-! ### committing runs -/

theorem run_bind_ok {x : Transaction σ ε α} {f : α → Transaction σ ε β} {s t : σ} {b : β} :
    (x >>= f).run s = .ok (b, t) ↔ ∃ a s', x.run s = .ok (a, s') ∧ (f a).run s' = .ok (b, t) := by
  rw [StateT.run_bind]
  cases h : x.run s with
  | error e => simp [bind, Except.bind]
  | ok p =>
    obtain ⟨a, s'⟩ := p
    constructor
    · exact fun hf => ⟨a, s', rfl, hf⟩
    · rintro ⟨a', s'', hp, hf⟩
      cases hp
      exact hf

theorem run_pure_ok {a b : α} {s t : σ} :
    (pure a : Transaction σ ε α).run s = .ok (b, t) ↔ a = b ∧ s = t := by
  rw [StateT.run_pure]
  simp [pure, Except.pure]

theorem run_throw_ok {e : ε} {s t : σ} {b : α} :
    (throw e : Transaction σ ε α).run s = .ok (b, t) ↔ False := by
  simp [throw, throwThe, MonadExceptOf.throw, StateT.lift, StateT.run, bind, Except.bind]

theorem run_get_ok {s t u : σ} : (get : Transaction σ ε σ).run s = .ok (u, t) ↔ s = u ∧ s = t := by
  simp [get, getThe, MonadStateOf.get, StateT.get, StateT.run, pure, Except.pure]

theorem run_set_ok {r s t : σ} {u : PUnit} :
    (set r : Transaction σ ε PUnit).run s = .ok (u, t) ↔ r = t := by
  constructor
  · intro h
    cases h
    rfl
  · rintro rfl
    rfl

theorem run_modify_ok {f : σ → σ} {s t : σ} {u : PUnit} :
    (modify f : Transaction σ ε PUnit).run s = .ok (u, t) ↔ f s = t := by
  constructor
  · intro h
    cases h
    rfl
  · rintro rfl
    rfl

theorem run_raiseIf_ok {c : Bool} {e : ε} {s t : σ} {u : Unit} :
    (raiseIf c e : Transaction σ ε Unit).run s = .ok (u, t) ↔ c = false ∧ s = t := by
  cases c with
  | false => exact run_pure_ok.trans (by simp)
  | true => exact run_throw_ok.trans (by simp)

theorem run_orRaise_ok {o : Option α} {e : ε} {s t : σ} {a : α} :
    (orRaise o e : Transaction σ ε α).run s = .ok (a, t) ↔ o = some a ∧ s = t := by
  cases o with
  | none => exact run_throw_ok.trans (by simp)
  | some b => exact run_pure_ok.trans (by simp)

theorem run_ofExcept_ok {x : Except ε α} {s t : σ} {a : α} :
    (ofExcept x : Transaction σ ε α).run s = .ok (a, t) ↔ x = .ok a ∧ s = t := by
  cases x with
  | error e => exact run_throw_ok.trans (by simp)
  | ok b => exact run_pure_ok.trans (by simp)

theorem run_of_result? {x : Transaction σ ε α} {s : σ} {a : α} (h : x.result? s = some a) :
    x.run s = .ok (a, x.commit s) := by
  unfold result? at h
  unfold commit
  cases hx : x.run s with
  | error e => simp [hx] at h
  | ok p =>
    obtain ⟨b, t⟩ := p
    simp only [hx, Option.some.injEq] at h
    rw [h]

theorem commit_cases (x : Transaction σ ε α) (s : σ) :
    x.commit s = s ∨ ∃ a, x.run s = .ok (a, x.commit s) := by
  unfold commit
  cases h : x.run s with
  | error e => exact Or.inl rfl
  | ok p => exact Or.inr ⟨p.1, rfl⟩

/-! ### triples -/

/-- A committing run of `x` from a store satisfying `P` ends in a store satisfying `Q` of its result. -/
def Triple (P : σ → Prop) (x : Transaction σ ε α) (Q : α → σ → Prop) : Prop :=
  ∀ s a t, P s → x.run s = .ok (a, t) → Q a t

section triples

variable {P P' : σ → Prop} {Q Q' : α → σ → Prop} {R : β → σ → Prop}

theorem Triple.pre {x : Transaction σ ε α} (h : Triple P x Q) (hP : ∀ s, P' s → P s) : Triple P' x Q :=
  fun s a t hs => h s a t (hP s hs)

theorem Triple.post {x : Transaction σ ε α} (h : Triple P x Q) (hQ : ∀ a s, Q a s → Q' a s) : Triple P x Q' :=
  fun s a t hs hx => hQ a t (h s a t hs hx)

theorem Triple.bind {x : Transaction σ ε α} {f : α → Transaction σ ε β} (hx : Triple P x Q)
    (hf : ∀ a, Triple (Q a) (f a) R) : Triple P (x >>= f) R := by
  intro s b t hs h
  obtain ⟨a, s', h1, h2⟩ := run_bind_ok.1 h
  exact hf a s' b t (hx s a s' hs h1) h2

theorem Triple.pure {a : α} (h : ∀ s, P s → Q a s) : Triple P (Pure.pure a : Transaction σ ε α) Q := by
  intro s b t hs hb
  obtain ⟨rfl, rfl⟩ := run_pure_ok.1 hb
  exact h s hs

theorem Triple.keep {a : α} : Triple P (Pure.pure a : Transaction σ ε α) fun _ => P := Triple.pure fun _ h => h

theorem Triple.throw {e : ε} : Triple P (throw e : Transaction σ ε α) Q :=
  fun _ _ _ _ h => (run_throw_ok.1 h).elim

theorem Triple.get : Triple P (get : Transaction σ ε σ) fun u s => u = s ∧ P s := by
  intro s a t hs h
  obtain ⟨rfl, rfl⟩ := run_get_ok.1 h
  exact ⟨rfl, hs⟩

theorem Triple.modify {f : σ → σ} {Q : PUnit → σ → Prop} (h : ∀ s, P s → Q ⟨⟩ (f s)) :
    Triple P (modify f : Transaction σ ε PUnit) Q := by
  intro s a t hs hf
  obtain rfl := run_modify_ok.1 hf
  exact h s hs

theorem Triple.set {r : σ} {Q : PUnit → σ → Prop} (h : ∀ s, P s → Q ⟨⟩ r) :
    Triple P (set r : Transaction σ ε PUnit) Q := by
  intro s a t hs hr
  obtain rfl := run_set_ok.1 hr
  exact h s hs

theorem Triple.raiseIf {c : Bool} {e : ε} {Q : Unit → σ → Prop} (h : ∀ s, P s → c = false → Q () s) :
    Triple P (raiseIf c e : Transaction σ ε Unit) Q := by
  intro s a t hs hr
  obtain ⟨hc, rfl⟩ := run_raiseIf_ok.1 hr
  exact h s hs hc

theorem Triple.orRaise {o : Option α} {e : ε} (h : ∀ s a, P s → o = some a → Q a s) :
    Triple P (orRaise o e : Transaction σ ε α) Q := by
  intro s a t hs hr
  obtain ⟨ho, rfl⟩ := run_orRaise_ok.1 hr
  exact h s a hs ho

theorem Triple.ofExcept {x : Except ε α} (h : ∀ s a, P s → x = .ok a → Q a s) :
    Triple P (ofExcept x : Transaction σ ε α) Q := by
  intro s a t hs hr
  obtain ⟨hx, rfl⟩ := run_ofExcept_ok.1 hr
  exact h s a hs hx

/-! Reads and checks leave the precondition as it was. -/

theorem Triple.get_frame : Triple P (MonadState.get : Transaction σ ε σ) fun _ => P :=
  Triple.get.post fun _ _ h => h.2

theorem Triple.raiseIf_frame {c : Bool} {e : ε} : Triple P (Transaction.raiseIf c e : Transaction σ ε Unit) fun _ => P :=
  Triple.raiseIf fun _ h _ => h

theorem Triple.guard {c : Bool} {e : ε} {x : Transaction σ ε β} (h : Triple P x R) :
    Triple P (Transaction.raiseIf c e >>= fun _ => x) R := Triple.raiseIf_frame.bind fun _ => h

theorem Triple.orRaise_frame {o : Option α} {e : ε} : Triple P (Transaction.orRaise o e : Transaction σ ε α) fun _ => P :=
  Triple.orRaise fun _ _ h _ => h

theorem Triple.ofExcept_frame {x : Except ε α} : Triple P (Transaction.ofExcept x : Transaction σ ε α) fun _ => P :=
  Triple.ofExcept fun _ _ h _ => h

theorem Triple.ite {c : Prop} [Decidable c] {x y : Transaction σ ε α} (hx : c → Triple P x Q)
    (hy : ¬ c → Triple P y Q) : Triple P (if c then x else y) Q := by
  by_cases h : c
  · rw [if_pos h]; exact hx h
  · rw [if_neg h]; exact hy h

theorem Triple.and {x : Transaction σ ε α} (h : Triple P x Q) (h' : Triple P' x Q') :
    Triple (fun s => P s ∧ P' s) x fun a s => Q a s ∧ Q' a s :=
  fun s a t hs hx => ⟨h s a t hs.1 hx, h' s a t hs.2 hx⟩

theorem Triple.exists {ι : Sort*} {P : ι → σ → Prop} {x : Transaction σ ε α} (h : ∀ i, Triple (P i) x Q) :
    Triple (fun s => ∃ i, P i s) x Q :=
  fun s a t ⟨i, hi⟩ hx => h i s a t hi hx

theorem Triple.start {x : Transaction σ ε α} (h : ∀ s₀, P s₀ → Triple (fun s => s = s₀) x Q) : Triple P x Q :=
  fun s a t hs hx => h s hs s a t rfl hx

theorem Triple.intro {p : Prop} {x : Transaction σ ε α} (h : p → Triple P x Q) :
    Triple (fun s => p ∧ P s) x Q :=
  fun s a t hs hx => h hs.1 s a t hs.2 hx

theorem Triple.forEach {l : List α} {f : α → Transaction σ ε Unit}
    (h : ∀ a ∈ l, Triple P (f a) fun _ => P) : Triple P (forEach l f) fun _ => P := by
  induction l with
  | nil => exact Triple.pure fun _ hs => hs
  | cons a l ih =>
    exact (h a (by simp)).bind fun _ => ih fun b hb => h b (by simp [hb])

theorem Triple.sumEach {l : List α} {f : α → Transaction σ ε Nat}
    (h : ∀ a ∈ l, Triple P (f a) fun _ => P) : Triple P (sumEach l f) fun _ => P := by
  induction l with
  | nil => exact Triple.pure fun _ hs => hs
  | cons a l ih =>
    exact (h a (by simp)).bind fun _ => (ih fun b hb => h b (by simp [hb])).bind fun _ =>
      Triple.pure fun _ hs => hs

theorem Triple.anyEach {l : List α} {f : α → Transaction σ ε Bool}
    (h : ∀ a ∈ l, Triple P (f a) fun _ => P) : Triple P (anyEach l f) fun _ => P := by
  induction l with
  | nil => exact Triple.pure fun _ hs => hs
  | cons a l ih =>
    exact (h a (by simp)).bind fun _ => (ih fun b hb => h b (by simp [hb])).bind fun _ =>
      Triple.pure fun _ hs => hs

theorem Triple.commit {x : Transaction σ ε α} (h : Triple P x fun _ => P) {s : σ} (hs : P s) :
    P (x.commit s) := by
  rcases commit_cases x s with hc | ⟨a, ha⟩
  · rwa [hc]
  · exact h s a _ hs ha

end triples

/-! ### frames -/

/-- A committing run leaves the part `f` of the store as it was. -/
def Keeps {γ : Type} (f : σ → γ) (x : Transaction σ ε α) : Prop :=
  ∀ s a t, x.run s = .ok (a, t) → f t = f s

section frames

variable {γ : Type} {f : σ → γ}

theorem Keeps.bind {x : Transaction σ ε α} {g : α → Transaction σ ε β} (hx : Keeps f x) (hg : ∀ a, Keeps f (g a)) :
    Keeps f (x >>= g) := by
  intro s b t h
  obtain ⟨a, s', h1, h2⟩ := run_bind_ok.1 h
  exact (hg a s' b t h2).trans (hx s a s' h1)

theorem Keeps.pure (a : α) : Keeps f (Pure.pure a : Transaction σ ε α) :=
  fun _ _ _ h => by rw [(run_pure_ok.1 h).2]

theorem Keeps.throw (e : ε) : Keeps f (throw e : Transaction σ ε α) :=
  fun _ _ _ h => (run_throw_ok.1 h).elim

theorem Keeps.get : Keeps f (get : Transaction σ ε σ) :=
  fun _ _ _ h => by rw [(run_get_ok.1 h).2]

theorem Keeps.modify {g : σ → σ} (h : ∀ s, f (g s) = f s) : Keeps f (modify g : Transaction σ ε PUnit) :=
  fun s _ _ hg => by rw [← run_modify_ok.1 hg, h]

theorem Keeps.raiseIf (c : Bool) (e : ε) : Keeps f (raiseIf c e : Transaction σ ε Unit) :=
  fun _ _ _ h => by rw [(run_raiseIf_ok.1 h).2]

theorem Keeps.guard {c : Bool} {e : ε} {x : Transaction σ ε α} (h : Keeps f x) :
    Keeps f (Transaction.raiseIf c e >>= fun _ => x) := (Keeps.raiseIf c e).bind fun _ => h

theorem Keeps.orRaise (o : Option α) (e : ε) : Keeps f (orRaise o e : Transaction σ ε α) :=
  fun _ _ _ h => by rw [(run_orRaise_ok.1 h).2]

theorem Keeps.ofExcept (x : Except ε α) : Keeps f (ofExcept x : Transaction σ ε α) :=
  fun _ _ _ h => by rw [(run_ofExcept_ok.1 h).2]

theorem Keeps.ite {c : Prop} [Decidable c] {x y : Transaction σ ε α} (hx : Keeps f x) (hy : Keeps f y) :
    Keeps f (if c then x else y) := by
  split <;> assumption

theorem Triple.ite_bind {c : Prop} [Decidable c] {x : Transaction σ ε α} {y : Transaction σ ε β}
    (hx : Triple P x fun _ => P) (hy : Triple P y R) : Triple P (if c then x >>= fun _ => y else y) R :=
  Triple.ite (fun _ => hx.bind fun _ => hy) fun _ => hy

theorem Keeps.ite_bind {c : Prop} [Decidable c] {x : Transaction σ ε α} {y : Transaction σ ε β} (hx : Keeps f x)
    (hy : Keeps f y) : Keeps f (if c then x >>= fun _ => y else y) :=
  Keeps.ite (hx.bind fun _ => hy) hy

theorem Keeps.forEach {l : List β} {g : β → Transaction σ ε Unit} (h : ∀ a ∈ l, Keeps f (g a)) :
    Keeps f (forEach l g) := by
  induction l with
  | nil => exact Keeps.pure ()
  | cons a l ih => exact (h a (by simp)).bind fun _ => ih fun b hb => h b (by simp [hb])

theorem Keeps.sumEach {l : List β} {g : β → Transaction σ ε Nat} (h : ∀ a, Keeps f (g a)) : Keeps f (sumEach l g) := by
  induction l with
  | nil => exact Keeps.pure 0
  | cons a l ih => exact (h a).bind fun _ => ih.bind fun _ => Keeps.pure _

theorem Keeps.triple {x : Transaction σ ε α} (h : Keeps f x) (P : γ → Prop) :
    Triple (fun s => P (f s)) x fun _ s => P (f s) :=
  fun s a t hs hx => show P (f t) from (h s a t hx).symm ▸ hs

end frames

end Transaction

end KnowledgeBase
