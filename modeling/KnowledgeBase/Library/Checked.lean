import Mathlib.Data.List.Forall2

/-!
# Checked computations

A checked computation is a value of `Except ε`. It is written with guards that fail on a condition and with passes
over a list that stop at the first failure; the laws below say exactly when such a computation succeeds.
-/

namespace KnowledgeBase

theorem forall₂_map_eq {α γ δ : Type} {f : α → δ} {g : γ → δ} {R : α → γ → Prop} (h : ∀ a c, R a c → g c = f a)
    {l : List α} {l' : List γ} (hl : List.Forall₂ R l l') : l'.map g = l.map f := by
  induction hl with
  | nil => rfl
  | cons hab _ ih => rw [List.map_cons, List.map_cons, ih, h _ _ hab]

theorem forall₂_exists_of_mem_right {α γ : Type} {R : α → γ → Prop} {l : List α} {l' : List γ}
    (hl : List.Forall₂ R l l') {c : γ} (hc : c ∈ l') : ∃ a ∈ l, R a c := by
  induction hl with
  | nil => cases hc
  | cons hab _ ih =>
    rcases List.mem_cons.1 hc with rfl | hc
    · exact ⟨_, List.mem_cons_self, hab⟩
    · obtain ⟨a, ha, hr⟩ := ih hc
      exact ⟨a, List.mem_cons_of_mem _ ha, hr⟩

theorem exists_forall₂ {α γ : Type} {R : α → γ → Prop} {l : List α} (h : ∀ a ∈ l, ∃ c, R a c) :
    ∃ l', List.Forall₂ R l l' := by
  induction l with
  | nil => exact ⟨[], .nil⟩
  | cons a l ih =>
    obtain ⟨c, hc⟩ := h a List.mem_cons_self
    obtain ⟨l', hl'⟩ := ih fun b hb => h b (List.mem_cons_of_mem a hb)
    exact ⟨c :: l', .cons hc hl'⟩

theorem forall₂_of_zipIdx {α γ : Type} {R : α → γ → Prop} {l : List α} {l' : List γ}
    (h : List.Forall₂ (fun p c => R p.1 c) l.zipIdx l') : List.Forall₂ R l l' := by
  rw [← List.zipIdx_map_fst 0 l, List.forall₂_map_left_iff]
  exact h

theorem forall₂_zipWith {α γ δ : Type} (f : α → γ → δ) {l : List α} {l' : List γ} (h : l.length = l'.length) :
    List.Forall₂ (fun a d => ∃ c, d = f a c) l (List.zipWith f l l') := by
  induction l generalizing l' with
  | nil => exact .nil
  | cons a l ih =>
    cases l' with
    | nil => cases h
    | cons c l' => exact .cons ⟨c, rfl⟩ (ih (Nat.succ.inj h))

theorem map_zipWith_right {α γ δ : Type} {f : α → γ → δ} {g : δ → γ} (hg : ∀ a c, g (f a c) = c) {l : List α}
    {l' : List γ} (h : l.length = l'.length) : (List.zipWith f l l').map g = l' := by
  induction l generalizing l' with
  | nil => exact (List.length_eq_zero_iff.1 h.symm).symm
  | cons a l ih =>
    cases l' with
    | nil => cases h
    | cons c l' => rw [List.zipWith_cons_cons, List.map_cons, hg, ih (Nat.succ.inj h)]

namespace Checked

variable {ε α β γ : Type}

/-- Fails on the condition. -/
def failIf (c : Bool) (e : ε) : Except ε Unit := if c then .error e else .ok ()

/-- The value, or the failure in its absence. -/
def required (o : Option α) (e : ε) : Except ε α :=
  match o with
  | some a => .ok a
  | none => .error e

/-- The check on every element, up to the first failure. -/
def checkEach : List α → (α → Except ε Unit) → Except ε Unit
  | [], _ => .ok ()
  | a :: l, f => do
    f a
    checkEach l f

/-- The results on every element, up to the first failure. -/
def mapEach : List α → (α → Except ε β) → Except ε (List β)
  | [], _ => .ok []
  | a :: l, f => do
    let b ← f a
    let bs ← mapEach l f
    return b :: bs

/-- The pass that carries a value from element to element. -/
def foldEach (f : γ → α → Except ε γ) : γ → List α → Except ε γ
  | c, [] => .ok c
  | c, a :: l => do
    let c' ← f c a
    foldEach f c' l

/-- The results on every element, up to the first failure or the first key met before. -/
def eachDistinct {κ : Type} [BEq κ] (key : α → κ) (duplicate : ε) (f : α → Except ε β) :
    List κ → List α → Except ε (List β)
  | _, [] => .ok []
  | seen, a :: l => do
    failIf (seen.contains (key a)) duplicate
    let b ← f a
    let bs ← eachDistinct key duplicate f (seen ++ [key a]) l
    return b :: bs

theorem map_eq_ok {f : α → β} {x : Except ε α} {b : β} (h : x.map f = .ok b) : ∃ a, x = .ok a ∧ f a = b := by
  cases x with
  | ok a => exact ⟨a, rfl, Except.ok.inj h⟩
  | error e => cases h

theorem eq_ok_of_toOption {x : Except ε α} {a : α} (h : x.toOption = some a) : x = .ok a := by
  cases x with
  | error e => cases h
  | ok b => exact congrArg Except.ok (Option.some.inj h)

theorem bind_ok_iff {x : Except ε α} {f : α → Except ε β} {b : β} :
    (x >>= f) = .ok b ↔ ∃ a, x = .ok a ∧ f a = .ok b := by
  cases x with
  | error e => simp [bind, Except.bind]
  | ok a => simp [bind, Except.bind]

theorem bind_map {x : Except ε α} {f f' : α → Except ε β} {g : β → β} (h : ∀ a, f' a = (f a).map g) :
    x >>= f' = (x >>= f).map g := by
  cases x with
  | error e => rfl
  | ok a => exact h a

theorem pure_ok_iff {a b : α} : (pure a : Except ε α) = .ok b ↔ a = b := by
  simp [pure, Except.pure]

theorem mapError_ok_iff {ε' : Type} {x : Except ε α} {f : ε → ε'} {a : α} :
    x.mapError f = .ok a ↔ x = .ok a := by
  cases x with
  | error e => exact ⟨fun h => (by cases h), fun h => (by cases h)⟩
  | ok b => exact ⟨fun h => congrArg Except.ok (Except.ok.inj h), fun h => congrArg Except.ok (Except.ok.inj h)⟩

@[simp] theorem failIf_ok_iff {c : Bool} {e : ε} {u : Unit} : failIf c e = .ok u ↔ c = false := by
  cases c <;> simp [failIf]

@[simp] theorem required_ok_iff {o : Option α} {e : ε} {a : α} : required o e = .ok a ↔ o = some a := by
  cases o <;> simp [required]

theorem checkEach_ok_iff {l : List α} {f : α → Except ε Unit} {u : Unit} :
    checkEach l f = .ok u ↔ ∀ a ∈ l, f a = .ok () := by
  induction l with
  | nil => simp [checkEach]
  | cons a l ih =>
    unfold checkEach
    rw [bind_ok_iff]
    simp only [ih, List.mem_cons, forall_eq_or_imp]
    constructor
    · rintro ⟨⟨⟩, h, hl⟩
      exact ⟨h, hl⟩
    · rintro ⟨h, hl⟩
      exact ⟨(), h, hl⟩

theorem mapEach_ok_iff {l : List α} {f : α → Except ε β} {l' : List β} :
    mapEach l f = .ok l' ↔ List.Forall₂ (fun a b => f a = .ok b) l l' := by
  induction l generalizing l' with
  | nil =>
    rw [List.forall₂_nil_left_iff]
    simp only [mapEach, Except.ok.injEq]
    exact eq_comm
  | cons a l ih =>
    unfold mapEach
    rw [bind_ok_iff, List.forall₂_cons_left_iff]
    simp only [bind_ok_iff, pure_ok_iff, ih]
    constructor
    · rintro ⟨b, hb, bs, hbs, rfl⟩
      exact ⟨b, bs, hb, hbs, rfl⟩
    · rintro ⟨b, bs, hb, hbs, rfl⟩
      exact ⟨b, hb, bs, hbs, rfl⟩

theorem eachDistinct_ok_iff {κ : Type} [BEq κ] [LawfulBEq κ] {key : α → κ} {duplicate : ε} {f : α → Except ε β}
    {seen : List κ} {l : List α} {l' : List β} :
    eachDistinct key duplicate f seen l = .ok l' ↔
      (l.map key).Nodup ∧ (∀ a ∈ l, key a ∉ seen) ∧ List.Forall₂ (fun a b => f a = .ok b) l l' := by
  induction l generalizing seen l' with
  | nil =>
    rw [List.forall₂_nil_left_iff]
    simp only [eachDistinct, Except.ok.injEq, List.map_nil, List.nodup_nil, List.not_mem_nil, false_implies,
      implies_true, true_and]
    exact eq_comm
  | cons a l ih =>
    unfold eachDistinct
    rw [List.forall₂_cons_left_iff]
    simp only [bind_ok_iff, failIf_ok_iff, pure_ok_iff, ih, List.contains_eq_mem, decide_eq_false_iff_not,
      List.map_cons, List.nodup_cons, List.mem_cons, forall_eq_or_imp, List.mem_append, List.not_mem_nil, or_false, not_or]
    constructor
    · rintro ⟨_, ha, b, hb, bs, ⟨hnodup, hseen, hbs⟩, rfl⟩
      refine ⟨⟨fun hmem => ?_, hnodup⟩, ⟨ha, fun c hc => (hseen c hc).1⟩, b, bs, hb, hbs, rfl⟩
      obtain ⟨c, hc, heq⟩ := List.mem_map.1 hmem
      exact (hseen c hc).2 heq
    · rintro ⟨⟨hmem, hnodup⟩, ⟨ha, hseen⟩, b, bs, hb, hbs, rfl⟩
      refine ⟨(), ha, b, hb, bs, ⟨hnodup, fun c hc => ⟨hseen c hc, fun heq => ?_⟩, hbs⟩, rfl⟩
      exact hmem (List.mem_map.2 ⟨c, hc, heq⟩)

theorem foldEach_preserves {f : γ → α → Except ε γ} {P : γ → Prop} {l : List α}
    (hstep : ∀ c c' a, a ∈ l → P c → f c a = .ok c' → P c') {c c' : γ} (hc : P c) (h : foldEach f c l = .ok c') :
    P c' := by
  induction l generalizing c with
  | nil =>
    obtain rfl := Except.ok.inj h
    exact hc
  | cons a l ih =>
    unfold foldEach at h
    obtain ⟨d, hd, h⟩ := bind_ok_iff.1 h
    have hPd : P d := hstep c d a List.mem_cons_self hc hd
    exact ih (fun c c' b hb => hstep c c' b (List.mem_cons_of_mem a hb)) hPd h

/-- What the step of an element establishes and later steps keep, the pass establishes for each element. -/
theorem foldEach_reaches {f : γ → α → Except ε γ} {P : γ → Prop} {R : α → γ → Prop} {l : List α}
    (hstep : ∀ c c' a, a ∈ l → P c → f c a = .ok c' → P c' ∧ R a c')
    (hkeep : ∀ c c' a b, b ∈ l → P c → R a c → f c b = .ok c' → R a c') {c c' : γ} (hc : P c)
    (h : foldEach f c l = .ok c') : ∀ a ∈ l, R a c' := by
  induction l generalizing c with
  | nil => intro a ha; cases ha
  | cons b l ih =>
    unfold foldEach at h
    obtain ⟨d, hd, hrest⟩ := bind_ok_iff.1 h
    obtain ⟨hPd, hRd⟩ := hstep c d b List.mem_cons_self hc hd
    intro a ha
    rcases List.mem_cons.1 ha with rfl | ha
    · have hkept : P c' ∧ R a c' := foldEach_preserves (P := fun c => P c ∧ R a c)
        (fun c c' e hmem hce he => ⟨(hstep c c' e (List.mem_cons_of_mem _ hmem) hce.1 he).1,
          hkeep c c' a e (List.mem_cons_of_mem _ hmem) hce.1 hce.2 he⟩) ⟨hPd, hRd⟩ hrest
      exact hkept.2
    · exact ih (fun c c' a hmem => hstep c c' a (List.mem_cons_of_mem b hmem))
        (fun c c' a e hmem => hkeep c c' a e (List.mem_cons_of_mem b hmem)) hPd hrest a ha

theorem foldEach_map {f : γ → α → Except ε γ} {g : γ → γ} {h : α → α} (hf : ∀ c a, f (g c) (h a) = (f c a).map g)
    (c : γ) (l : List α) : foldEach f (g c) (l.map h) = (foldEach f c l).map g := by
  induction l generalizing c with
  | nil => rfl
  | cons a l ih =>
    rw [List.map_cons, foldEach, foldEach, hf]
    cases f c a with
    | error e => rfl
    | ok c' => exact ih c'

/-- A pass whose results are known element by element succeeds with them. -/
theorem mapEach_of_forall {l : List α} {f : α → Except ε β} {g : α → β} (h : ∀ a ∈ l, f a = .ok (g a)) :
    mapEach l f = .ok (l.map g) := by
  rw [mapEach_ok_iff, List.forall₂_map_right_iff, List.forall₂_same]
  exact h

theorem mapEach_isOk {l : List α} {f : α → Except ε β} (h : ∀ a ∈ l, ∃ b, f a = .ok b) :
    ∃ l', mapEach l f = .ok l' := by
  induction l with
  | nil => exact ⟨[], rfl⟩
  | cons a l ih =>
    obtain ⟨b, hb⟩ := h a List.mem_cons_self
    obtain ⟨bs, hbs⟩ := ih fun c hc => h c (List.mem_cons_of_mem a hc)
    unfold mapEach
    exact ⟨b :: bs, bind_ok_iff.2 ⟨b, hb, bind_ok_iff.2 ⟨bs, hbs, rfl⟩⟩⟩

theorem mapEach_forall {l : List α} {f : α → Except ε β} {l' : List β} (h : mapEach l f = .ok l') :
    ∀ a ∈ l, ∃ b ∈ l', f a = .ok b := by
  rw [mapEach_ok_iff] at h
  induction h with
  | nil => exact fun a ha => absurd ha List.not_mem_nil
  | cons hab _ ih =>
    intro c hc
    rcases List.mem_cons.1 hc with rfl | hc
    · exact ⟨_, List.mem_cons_self, hab⟩
    · obtain ⟨d, hd, hcd⟩ := ih c hc
      exact ⟨d, List.mem_cons_of_mem _ hd, hcd⟩

theorem mapEach_exists {l : List α} {f : α → Except ε β} {l' : List β} (h : mapEach l f = .ok l') :
    ∀ b ∈ l', ∃ a ∈ l, f a = .ok b := by
  rw [mapEach_ok_iff] at h
  induction h with
  | nil => exact fun a ha => absurd ha List.not_mem_nil
  | cons hab _ ih =>
    intro c hc
    rcases List.mem_cons.1 hc with rfl | hc
    · exact ⟨_, List.mem_cons_self, hab⟩
    · obtain ⟨d, hd, hcd⟩ := ih c hc
      exact ⟨d, List.mem_cons_of_mem _ hd, hcd⟩

theorem mapEach_perm {l l' : List α} {f : α → Except ε β} {bs : List β} (hperm : l.Perm l')
    (h : mapEach l f = .ok bs) : ∃ bs', mapEach l' f = .ok bs' ∧ bs.Perm bs' := by
  induction hperm generalizing bs with
  | nil => exact ⟨bs, h, List.Perm.refl _⟩
  | cons a _ ih =>
    obtain ⟨b, hb, h⟩ := bind_ok_iff.1 h
    obtain ⟨rest, hrest, hend⟩ := bind_ok_iff.1 h
    obtain ⟨rest', hrest', hperm'⟩ := ih hrest
    obtain rfl := pure_ok_iff.1 hend
    exact ⟨b :: rest', bind_ok_iff.2 ⟨b, hb, bind_ok_iff.2 ⟨rest', hrest', rfl⟩⟩, hperm'.cons b⟩
  | swap a a' l =>
    obtain ⟨b, hb, h⟩ := bind_ok_iff.1 h
    obtain ⟨bs', h', hend⟩ := bind_ok_iff.1 h
    obtain ⟨b', hb', h'⟩ := bind_ok_iff.1 h'
    obtain ⟨rest, hrest, hend'⟩ := bind_ok_iff.1 h'
    obtain rfl := pure_ok_iff.1 hend'
    obtain rfl := pure_ok_iff.1 hend
    refine ⟨b' :: b :: rest, bind_ok_iff.2 ⟨b', hb', bind_ok_iff.2 ⟨b :: rest, ?_, rfl⟩⟩, List.Perm.swap b' b rest⟩
    exact bind_ok_iff.2 ⟨b, hb, bind_ok_iff.2 ⟨rest, hrest, rfl⟩⟩
  | trans _ _ ih ih' =>
    obtain ⟨bs₁, h₁, hperm₁⟩ := ih h
    obtain ⟨bs₂, h₂, hperm₂⟩ := ih' h₁
    exact ⟨bs₂, h₂, hperm₁.trans hperm₂⟩

/-- What relates the elements in their order relates the results in theirs. -/
theorem mapEach_pairwise {R : α → α → Prop} {S : β → β → Prop} {l : List α} {f : α → Except ε β} {l' : List β}
    (hl : l.Pairwise R) (hS : ∀ a a' b b', R a a' → f a = .ok b → f a' = .ok b' → S b b') (h : mapEach l f = .ok l') :
    l'.Pairwise S := by
  induction l generalizing l' with
  | nil =>
    obtain rfl := Except.ok.inj h
    exact List.Pairwise.nil
  | cons a l ih =>
    unfold mapEach at h
    obtain ⟨b, hb, h⟩ := bind_ok_iff.1 h
    obtain ⟨bs, hbs, h⟩ := bind_ok_iff.1 h
    obtain rfl := pure_ok_iff.1 h
    rw [List.pairwise_cons] at hl ⊢
    refine ⟨fun c hc => ?_, ih hl.2 hbs⟩
    obtain ⟨d, hd, hdc⟩ := mapEach_exists hbs c hc
    exact hS a d b c (hl.1 d hd) hb hdc

/-! ### computations that succeed whenever another one does -/

/-- What the first computation returns, the second one returns. -/
def Refines (x y : Except ε α) : Prop := ∀ a, x = .ok a → y = .ok a

theorem Refines.refl (x : Except ε α) : Refines x x := fun _ h => h

theorem Refines.bind {x y : Except ε α} {f g : α → Except ε β} (hxy : Refines x y) (hfg : ∀ a, Refines (f a) (g a)) :
    Refines (x >>= f) (y >>= g) := by
  intro b h
  obtain ⟨a, ha, hb⟩ := bind_ok_iff.1 h
  exact bind_ok_iff.2 ⟨a, hxy a ha, hfg a b hb⟩

theorem Refines.failIf {c d : Bool} {e : ε} (h : c = false → d = false) : Refines (Checked.failIf c e) (Checked.failIf d e) := by
  intro u hu
  rw [failIf_ok_iff] at hu ⊢
  exact h hu

theorem Refines.required {o p : Option α} {e : ε} (h : ∀ a, o = some a → p = some a) :
    Refines (Checked.required o e) (Checked.required p e) := by
  intro a ha
  rw [required_ok_iff] at ha ⊢
  exact h a ha

theorem Refines.checkEach {l : List α} {f g : α → Except ε Unit} (h : ∀ a ∈ l, Refines (f a) (g a)) :
    Refines (Checked.checkEach l f) (Checked.checkEach l g) := by
  intro u hu
  rw [checkEach_ok_iff] at hu ⊢
  exact fun a ha => h a ha () (hu a ha)

end Checked

end KnowledgeBase
