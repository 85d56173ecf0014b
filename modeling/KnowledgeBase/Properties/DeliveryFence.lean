import Mathlib.Logic.Function.Basic
import KnowledgeBase.Library.Commits
import KnowledgeBase.Properties.CriticalDelivery

/-!
# The fence of a delivery

A dispatcher leases a delivery, handles it and completes or releases it, each in a transaction of its own, so that its
lease may be taken over while its handler runs. Every write of the delivery asks for the lease it was read under: a
delivery that is done or dead stays so, and nobody changes one but who leases it and the holder of its latest lease:
`deliveryFence`.
-/

namespace KnowledgeBase

open Transaction Database

/-! ### dispatchers -/

/-- How far a dispatcher is with the delivery it leased. -/
inductive Dispatcher
  | idle
  | leased (o : OutboxId) (token : Nat)
  | handled (o : OutboxId) (token : Nat)
  | failed (o : OutboxId) (token : Nat)

/-- The lease a dispatcher works under. -/
def Dispatcher.lease? : Dispatcher → Option (OutboxId × Nat)
  | idle => none
  | leased o token | handled o token | failed o token => some (o, token)

/-- The database and the dispatchers, with the leases that were given, the latest first, and those under which a handler
has returned. The token of a lease is new: no two leases share one. -/
structure Dispatching where
  db : Database
  dispatchers : Nat → Dispatcher
  tokens : Nat
  leases : List (OutboxId × Nat)
  returned : List (OutboxId × Nat)

def Dispatching.start : Dispatching := ⟨Database.empty, fun _ => .idle, 0, [], []⟩

/-- The steps of `dispatch_outbox_once`, taken by any dispatcher at any time, and the steps of the rest of the system. -/
inductive DispatchEvent
  /-- `_lease_outbox_row` -/
  | lease (i : Nat) (now : Time) (leaseSeconds : Nat)
  /-- `_parse_or_kill_outbox`, for a payload that cannot be read -/
  | kill (i : Nat) (now : Time) (error : String)
  /-- the handler runs its transaction, which commits or raises -/
  | handle (i : Nat) (now : Time) (vectorizeIntentValid : Bool)
  /-- the handler raises outside of its transaction -/
  | raise (i : Nat)
  /-- `_complete_outbox` -/
  | complete (i : Nat)
  /-- `_release_outbox` -/
  | release (i : Nat) (now : Time) (error : String)
  /-- the dispatcher is cancelled or its process dies -/
  | crash (i : Nat)
  | system (event : Event)

/-- The operations that are steps of a dispatcher. -/
def Operation.isDispatch : Operation → Bool
  | leaseOutbox .. | dispatchDelivery .. | completeOutbox .. | releaseOutbox .. => true
  | _ => false

namespace Dispatching

def setDispatcher (s : Dispatching) (i : Nat) (phase : Dispatcher) : Dispatching :=
  { s with dispatchers := Function.update s.dispatchers i phase }

/-- The latest lease of a delivery. -/
def latest (s : Dispatching) (o : OutboxId) : Option Nat := (s.leases.find? fun lease => lease.1 == o).map Prod.snd

/-- The dispatcher holds the latest lease of the delivery. -/
def Holds (s : Dispatching) (i : Nat) (o : OutboxId) : Prop :=
  ∃ token, (s.dispatchers i).lease? = some (o, token) ∧ s.latest o = some token

end Dispatching

def dispatchStep (d : Deployment) (s : Dispatching) : DispatchEvent → Dispatching
  | .lease i now leaseSeconds =>
    match s.dispatchers i with
    | .idle =>
      match (leaseOutboxRowTx now s.tokens leaseSeconds).run s.db with
      | .ok (some o, db) =>
        { s.setDispatcher i (.leased o s.tokens) with
          db := db, tokens := s.tokens + 1, leases := (o, s.tokens) :: s.leases }
      | .ok (none, db) => { s with db := db, tokens := s.tokens + 1 }
      | .error _ => { s with tokens := s.tokens + 1 }
    | _ => s
  | .kill i now error =>
    match s.dispatchers i with
    | .leased o token => { s.setDispatcher i .idle with db := (markOutboxDeadTx now o token error).commit s.db }
    | _ => s
  | .handle i now valid =>
    match s.dispatchers i with
    | .leased o token =>
      match (handleDeliveryTx d now o valid).run s.db with
      | .ok (_, db) => { s.setDispatcher i (.handled o token) with db := db, returned := (o, token) :: s.returned }
      | .error _ => s.setDispatcher i (.failed o token)
    | _ => s
  | .raise i =>
    match s.dispatchers i with
    | .leased o token => s.setDispatcher i (.failed o token)
    | _ => s
  | .complete i =>
    match s.dispatchers i with
    | .handled o token => { s.setDispatcher i .idle with db := (completeOutboxTx o token).commit s.db }
    | _ => s
  | .release i now error =>
    match s.dispatchers i with
    | .failed o token => { s.setDispatcher i .idle with db := (releaseOutboxTx now o token error).commit s.db }
    | _ => s
  | .crash i => s.setDispatcher i .idle
  | .system event => if event.operation.isDispatch then s else { s with db := systemStep d s.db event }

/-! ### what a step does to a delivery -/

/-- `ORDER BY available_at, created_at, outbox_id`. -/
def outboxKey (r : OutboxId × OutboxRow) : List Nat := [r.2.availableAt, r.2.createdAt, r.1]

/-- The first of the deliveries that can be leased. -/
def Database.FirstLeasable (s : Database) (now : Time) (o : OutboxId) (row : OutboxRow) : Prop :=
  s.outbox.get? o = some row ∧ row.leasable now = true ∧
    ∀ k r, s.outbox.get? k = some r → r.leasable now = true → lexLe (outboxKey (o, row)) (outboxKey (k, r)) = true

/-- A delivery under a new lease. -/
def OutboxRow.take (now : Time) (token leaseSeconds : Nat) (row : OutboxRow) : OutboxRow :=
  { row with
    status := .inFlight
    leaseOwner := some token
    leaseExpiresAt := some (now + leaseSeconds * 1000000)
    attempts := row.attempts + 1 }

/-- The change of a delivery under a step: a lease of the first delivery that can be leased, or the end of the work of a
dispatcher whose token is that of the delivery. -/
inductive DeliveryChange (s : Dispatching) (o : OutboxId) (row : OutboxRow) : DispatchEvent → OutboxRow → Prop
  | kept (event : DispatchEvent) : DeliveryChange s o row event row
  | leased {i : Nat} {now : Time} {leaseSeconds : Nat} (idle : s.dispatchers i = .idle)
      (first : s.db.FirstLeasable now o row) :
    DeliveryChange s o row (.lease i now leaseSeconds) (row.take now s.tokens leaseSeconds)
  | killed {i : Nat} {now : Time} {error : String} {token : Nat} (phase : s.dispatchers i = .leased o token)
      (inFlight : row.status = .inFlight) (owner : row.leaseOwner = some token) :
    DeliveryChange s o row (.kill i now error) { row with status := .dead, leaseOwner := none, leaseExpiresAt := none }
  | completed {i : Nat} {token : Nat} (phase : s.dispatchers i = .handled o token)
      (inFlight : row.status = .inFlight) (owner : row.leaseOwner = some token) :
    DeliveryChange s o row (.complete i) { row with status := .done, leaseOwner := none, leaseExpiresAt := none }
  | released {i : Nat} {now : Time} {error : String} {token : Nat} (phase : s.dispatchers i = .failed o token)
      (inFlight : row.status = .inFlight) (owner : row.leaseOwner = some token) :
    DeliveryChange s o row (.release i now error)
      { row with
        status := if row.attemptBudget ≤ row.attempts then .dead else .pending
        leaseOwner := none
        leaseExpiresAt := none
        availableAt := now + 1000000 }

section writes

variable {s t : Database} {o k : OutboxId} {now : Time}

theorem get?_casOutbox {c : OutboxRow → Bool} {g : OutboxRow → OutboxRow} {updated : Bool}
    (h : (casOutbox k c g).run s = .ok (updated, t)) :
    t.outbox.get? o = s.outbox.get? o ∨
      ∃ row, s.outbox.get? o = some row ∧ o = k ∧ c row = true ∧ t.outbox.get? o = some (g row) := by
  rcases compareAndSet_ok h with ⟨-, rfl, -⟩ | ⟨-, rfl, row, hrow, hc⟩
  · exact .inl rfl
  by_cases hk : o = k
  · subst hk
    refine .inr ⟨row, hrow, rfl, hc, ?_⟩
    change (s.outbox.modify o g).get? o = _
    rw [Table.get?_modify_self, hrow, Option.map_some]
  · exact .inl (Table.get?_modify_of_ne hk g)

theorem outbox_recordOutboxDeadTx {dead : OutboxRow} {error : String}
    (h : (recordOutboxDeadTx now dead error).run s = .ok ((), t)) : t.outbox = s.outbox :=
  congrArg Prod.snd (keeps_mail_recordOutboxDeadTx now dead error s () t h)

theorem holder_iff {row : OutboxRow} {token : Nat} :
    (row.status == .inFlight && row.leaseOwner == some token) = true ↔
      row.status = .inFlight ∧ row.leaseOwner = some token := by
  simp

theorem get?_completeOutboxTx (token : Nat) :
    ((completeOutboxTx k token).commit s).outbox.get? o = s.outbox.get? o ∨
      ∃ row, s.outbox.get? o = some row ∧ o = k ∧ row.status = .inFlight ∧ row.leaseOwner = some token ∧
        ((completeOutboxTx k token).commit s).outbox.get? o =
          some { row with status := .done, leaseOwner := none, leaseExpiresAt := none } := by
  rcases commit_cases (completeOutboxTx k token) s with h | ⟨_, h⟩
  · exact .inl (by rw [h])
  obtain ⟨updated, u, hcas, h⟩ := run_bind_ok.1 h
  obtain ⟨-, hu⟩ := run_pure_ok.1 h
  rw [← hu]
  rcases get?_casOutbox (o := o) hcas with hkept | ⟨row, hrow, hk, hc, hnew⟩
  · exact .inl hkept
  · exact .inr ⟨row, hrow, hk, (holder_iff.1 hc).1, (holder_iff.1 hc).2, hnew⟩

theorem get?_markOutboxDeadTx (token : Nat) (error : String) :
    ((markOutboxDeadTx now k token error).commit s).outbox.get? o = s.outbox.get? o ∨
      ∃ row, s.outbox.get? o = some row ∧ o = k ∧ row.status = .inFlight ∧ row.leaseOwner = some token ∧
        ((markOutboxDeadTx now k token error).commit s).outbox.get? o =
          some { row with status := .dead, leaseOwner := none, leaseExpiresAt := none } := by
  rcases commit_cases (markOutboxDeadTx now k token error) s with h | ⟨_, h⟩
  · exact .inl (by rw [h])
  obtain ⟨updated, u, hcas, h⟩ := run_bind_ok.1 h
  -- what follows the write records the death and leaves the deliveries alone
  have keep : ((markOutboxDeadTx now k token error).commit s).outbox = u.outbox := by
    cases updated with
    | false => exact congrArg Database.outbox (run_pure_ok.1 h).2.symm
    | true =>
      obtain ⟨db, u', hget, h⟩ := run_bind_ok.1 h
      obtain ⟨rfl, rfl⟩ := run_get_ok.1 hget
      split at h
      · exact congrArg Database.outbox (run_pure_ok.1 h).2.symm
      · exact outbox_recordOutboxDeadTx h
  rw [keep]
  rcases get?_casOutbox (o := o) hcas with hkept | ⟨row, hrow, hk, hc, hnew⟩
  · exact .inl hkept
  · exact .inr ⟨row, hrow, hk, (holder_iff.1 hc).1, (holder_iff.1 hc).2, hnew⟩

theorem get?_releaseOutboxTx (token : Nat) (error : String) :
    ((releaseOutboxTx now k token error).commit s).outbox.get? o = s.outbox.get? o ∨
      ∃ row, s.outbox.get? o = some row ∧ o = k ∧ row.status = .inFlight ∧ row.leaseOwner = some token ∧
        ((releaseOutboxTx now k token error).commit s).outbox.get? o =
          some { row with
            status := if row.attemptBudget ≤ row.attempts then .dead else .pending
            leaseOwner := none
            leaseExpiresAt := none
            availableAt := now + 1000000 } := by
  rcases commit_cases (releaseOutboxTx now k token error) s with h | ⟨_, h⟩
  · exact .inl (by rw [h])
  obtain ⟨db, s', hget, h⟩ := run_bind_ok.1 h
  obtain ⟨rfl, rfl⟩ := run_get_ok.1 hget
  cases hread : s.outbox.get? k with
  | none =>
    rw [hread] at h
    obtain ⟨-, hu⟩ := run_pure_ok.1 h
    exact .inl (by rw [← hu])
  | some read =>
    rw [hread] at h
    obtain ⟨updated, u, hcas, h⟩ := run_bind_ok.1 h
    have keep : ((releaseOutboxTx now k token error).commit s).outbox = u.outbox := by
      split at h
      · exact outbox_recordOutboxDeadTx h
      · exact congrArg Database.outbox (run_pure_ok.1 h).2.symm
    rw [keep]
    rcases get?_casOutbox (o := o) hcas with hkept | ⟨row, hrow, rfl, hc, hnew⟩
    · exact .inl hkept
    · obtain rfl := Option.some.inj (hrow.symm.trans hread)
      refine .inr ⟨row, hrow, rfl, (holder_iff.1 hc).1, (holder_iff.1 hc).2, hnew.trans ?_⟩
      simp

end writes

/-! ### the lease -/

theorem lexLe_total (a b : List Nat) : lexLe a b = true ∨ lexLe b a = true := by
  induction a generalizing b with
  | nil => exact .inl (by simp [lexLe])
  | cons x a ih =>
    cases b with
    | nil => exact .inr (by simp [lexLe])
    | cons y b =>
      have rest := ih b
      simp only [lexLe, Bool.or_eq_true, decide_eq_true_eq, Bool.and_eq_true, beq_iff_eq]
      rcases Nat.lt_trichotomy x y with h | h | h
      · exact .inl (.inl h)
      · exact rest.imp (fun hr => .inr ⟨h, hr⟩) fun hr => .inr ⟨h.symm, hr⟩
      · exact .inr (.inl h)

theorem lexLe_trans {a b c : List Nat} (hab : lexLe a b = true) (hbc : lexLe b c = true) : lexLe a c = true := by
  induction a generalizing b c with
  | nil => simp [lexLe]
  | cons x a ih =>
    cases b with
    | nil => simp [lexLe] at hab
    | cons y b =>
      cases c with
      | nil => simp [lexLe] at hbc
      | cons z c =>
        simp only [lexLe, Bool.or_eq_true, decide_eq_true_eq, Bool.and_eq_true, beq_iff_eq] at hab hbc ⊢
        rcases hab with hab | ⟨rfl, hab⟩
        · rcases hbc with hbc | ⟨rfl, -⟩
          · exact .inl (Nat.lt_trans hab hbc)
          · exact .inl hab
        · exact hbc.imp_right fun hbc => ⟨hbc.1, ih hab hbc.2⟩

theorem head_sortOutbox {l : List (OutboxId × OutboxRow)} {r : OutboxId × OutboxRow}
    (h : (sortOutbox l).head? = some r) :
    r ∈ l ∧ ∀ q ∈ l, lexLe (outboxKey r) (outboxKey q) = true := by
  have total : Std.Total fun a b : OutboxId × OutboxRow => lexLe (outboxKey a) (outboxKey b) = true :=
    ⟨fun _ _ => lexLe_total _ _⟩
  have trans : IsTrans (OutboxId × OutboxRow) fun a b => lexLe (outboxKey a) (outboxKey b) = true :=
    ⟨fun _ _ _ => lexLe_trans⟩
  have sorted : (sortOutbox l).Pairwise fun a b => lexLe (outboxKey a) (outboxKey b) = true :=
    List.pairwise_insertionSort (fun a b => lexLe (outboxKey a) (outboxKey b) = true) l
  have hmem (q : OutboxId × OutboxRow) : q ∈ sortOutbox l ↔ q ∈ l := List.mem_insertionSort _
  refine ⟨(hmem r).1 (List.mem_of_mem_head? h), fun q hq => ?_⟩
  obtain ⟨rest, hrest⟩ := List.head?_eq_some_iff.1 h
  rw [hrest] at sorted
  have hq := (hmem q).2 hq
  rw [hrest] at hq
  rcases List.mem_cons.1 hq with rfl | hq
  · exact (lexLe_total _ _).elim id id
  · exact (List.pairwise_cons.1 sorted).1 q hq

theorem leaseOutboxRowTx_run (s : Database) (now : Time) (token leaseSeconds : Nat) :
    (leaseOutboxRowTx now token leaseSeconds).run s = .ok (none, s) ∧
        (∀ o row, s.outbox.get? o = some row → row.leasable now = false) ∨
      ∃ o row, s.FirstLeasable now o row ∧ (leaseOutboxRowTx now token leaseSeconds).run s =
        .ok (some o, { s with outbox := s.outbox.modify o (OutboxRow.take now token leaseSeconds) }) := by
  cases hhead : (sortOutbox (s.outbox.select fun _ row => row.leasable now)).head? with
  | none =>
    refine .inl ⟨?_, fun o row hrow => ?_⟩
    · unfold leaseOutboxRowTx
      rw [run_bind_of_ok (run_get_ok.2 ⟨rfl, rfl⟩), hhead]
      rfl
    · by_contra hleasable
      have hmem : (o, row) ∈ sortOutbox (s.outbox.select fun _ row => row.leasable now) :=
        (List.mem_insertionSort _).2 (Table.mem_select.2 ⟨hrow, by simpa using hleasable⟩)
      rw [List.head?_eq_none_iff.1 hhead] at hmem
      cases hmem
  | some r =>
    obtain ⟨o, row⟩ := r
    obtain ⟨hmem, hfirst⟩ := head_sortOutbox hhead
    obtain ⟨hrow, hleasable⟩ := Table.mem_select.1 hmem
    refine .inr ⟨o, row, ⟨hrow, hleasable, fun k r hr hl => hfirst _ (Table.mem_select.2 ⟨hr, hl⟩)⟩, ?_⟩
    unfold leaseOutboxRowTx
    rw [run_bind_of_ok (run_get_ok.2 ⟨rfl, rfl⟩), hhead]
    dsimp only
    have hcas : (casOutbox o (·.leasable now) (OutboxRow.take now token leaseSeconds)).run s =
        .ok (true, { s with outbox := s.outbox.modify o (OutboxRow.take now token leaseSeconds) }) := by
      unfold casOutbox compareAndSet
      rw [run_bind_of_ok (run_get_ok.2 ⟨rfl, rfl⟩)]
      simp only [hrow, hleasable, if_true]
      rfl
    exact (run_bind_of_ok hcas).trans rfl

/-! ### what holds in every run -/

/-- The owner of a delivery in flight is its latest lease, and no other delivery has an owner. -/
def OutboxRow.OwnedBy (latest : Option Nat) (row : OutboxRow) : Prop :=
  row.leaseOwner = none ∧ row.status ≠ .inFlight ∨
    row.status = .inFlight ∧ row.leaseOwner.isSome ∧ row.leaseOwner = latest

structure Dispatching.Sound (s : Dispatching) : Prop where
  addressed : s.db.AllAddressed
  issued : ∀ lease ∈ s.leases, lease.2 < s.tokens
  held : ∀ i lease, (s.dispatchers i).lease? = some lease → lease ∈ s.leases
  unique : ∀ i j lease lease', (s.dispatchers i).lease? = some lease → (s.dispatchers j).lease? = some lease' →
    lease.2 = lease'.2 → i = j
  handled : ∀ i o token, s.dispatchers i = .handled o token → (o, token) ∈ s.returned
  given : ∀ lease ∈ s.returned, lease ∈ s.leases
  owned : ∀ o row, s.db.outbox.get? o = some row → row.OwnedBy (s.latest o)
  done : ∀ o row, s.db.outbox.get? o = some row → row.status = .done → ∃ token, (o, token) ∈ s.returned

namespace Dispatching

section sound

variable {s t : Dispatching} {o : OutboxId}

theorem setDispatcher_self (i : Nat) (phase : Dispatcher) : (s.setDispatcher i phase).dispatchers i = phase :=
  Function.update_self ..

theorem setDispatcher_of_ne {i j : Nat} (h : j ≠ i) (phase : Dispatcher) :
    (s.setDispatcher i phase).dispatchers j = s.dispatchers j :=
  Function.update_of_ne h ..

/-- A step that gives no lease: it takes a dispatcher on or lets it go, and every delivery it leaves or writes is one
that was there, one that nobody holds any more, or a new one. -/
theorem Sound.next (hs : s.Sound) (haddressed : t.db.AllAddressed) (hleases : t.leases = s.leases)
    (htokens : t.tokens = s.tokens) (hphases : ∀ i lease, (t.dispatchers i).lease? = some lease →
      (s.dispatchers i).lease? = some lease)
    (hhandled : ∀ i o token, t.dispatchers i = .handled o token → (o, token) ∈ t.returned)
    (hgiven : ∀ lease ∈ t.returned, lease ∈ s.leases) (hreturned : ∀ lease ∈ s.returned, lease ∈ t.returned)
    (hrows : ∀ o row, t.db.outbox.get? o = some row → s.db.outbox.get? o = some row ∨
      row.leaseOwner = none ∧ row.status ≠ .inFlight ∧ (row.status = .done → ∃ token, (o, token) ∈ s.returned)) :
    t.Sound where
  addressed := haddressed
  issued lease hlease := by
    rw [htokens]
    exact hs.issued lease (hleases ▸ hlease)
  held i lease h := hleases ▸ hs.held i lease (hphases i lease h)
  unique i j lease lease' h h' := hs.unique i j lease lease' (hphases i lease h) (hphases j lease' h')
  handled := hhandled
  given lease h := hleases ▸ hgiven lease h
  owned o row hrow := by
    rcases hrows o row hrow with hold | ⟨howner, hstatus, -⟩
    · have h := hs.owned o row hold
      unfold latest at h ⊢
      rwa [hleases]
    · exact .inl ⟨howner, hstatus⟩
  done o row hrow hdone := by
    rcases hrows o row hrow with hold | ⟨-, -, hreturn⟩
    · exact (hs.done o row hold hdone).imp fun token h => hreturned _ h
    · exact (hreturn hdone).imp fun token h => hreturned _ h

theorem Sound.lease (hs : s.Sound) {i leaseSeconds : Nat} {now : Time} {row : OutboxRow}
    (hidle : s.dispatchers i = .idle) (hrow : s.db.outbox.get? o = some row) (haddressed : t.db.AllAddressed)
    (hdb : t.db.outbox = s.db.outbox.modify o (OutboxRow.take now s.tokens leaseSeconds))
    (hphases : t.dispatchers = Function.update s.dispatchers i (.leased o s.tokens)) (htokens : t.tokens = s.tokens + 1)
    (hleases : t.leases = (o, s.tokens) :: s.leases) (hreturned : t.returned = s.returned) : t.Sound := by
  -- the other dispatchers are where they were, under older tokens
  have phase (j : Nat) (lease : OutboxId × Nat) (h : (t.dispatchers j).lease? = some lease) :
      j = i ∧ lease = (o, s.tokens) ∨ (s.dispatchers j).lease? = some lease ∧ lease.2 < s.tokens := by
    rw [hphases] at h
    by_cases hj : j = i
    · subst hj
      rw [Function.update_self] at h
      exact .inl ⟨rfl, (Option.some.inj h).symm⟩
    · rw [Function.update_of_ne hj] at h
      exact .inr ⟨h, hs.issued _ (hs.held j lease h)⟩
  have taken (k : OutboxId) (r : OutboxRow) (h : t.db.outbox.get? k = some r) :
      k = o ∧ r = row.take now s.tokens leaseSeconds ∨ k ≠ o ∧ s.db.outbox.get? k = some r := by
    rw [hdb] at h
    by_cases hk : k = o
    · subst hk
      rw [Table.get?_modify_self, hrow, Option.map_some] at h
      exact .inl ⟨rfl, (Option.some.inj h).symm⟩
    · exact .inr ⟨hk, (Table.get?_modify_of_ne hk _).symm.trans h⟩
  refine ⟨haddressed, fun lease h => ?_, fun j lease h => ?_, fun j k lease lease' h h' heq => ?_, fun j k token h => ?_,
    fun lease h => ?_, fun k r h => ?_, fun k r h hdone => ?_⟩
  · rw [hleases] at h
    rw [htokens]
    rcases List.mem_cons.1 h with rfl | h
    · exact Nat.lt_succ_self _
    · exact Nat.lt_succ_of_lt (hs.issued lease h)
  · rw [hleases]
    rcases phase j lease h with ⟨-, rfl⟩ | ⟨h, -⟩
    · exact List.mem_cons_self
    · exact List.mem_cons_of_mem _ (hs.held j lease h)
  · rcases phase j lease h with ⟨rfl, rfl⟩ | ⟨h, hlt⟩
    · rcases phase k lease' h' with ⟨rfl, -⟩ | ⟨-, hlt'⟩
      · rfl
      · exact absurd heq (Nat.ne_of_gt hlt')
    · rcases phase k lease' h' with ⟨-, rfl⟩ | ⟨h', -⟩
      · exact absurd heq (Nat.ne_of_lt hlt)
      · exact hs.unique j k lease lease' h h' heq
  · rw [hphases] at h
    rw [hreturned]
    by_cases hj : j = i
    · subst hj
      rw [Function.update_self] at h
      cases h
    · exact hs.handled j k token (by rwa [Function.update_of_ne hj] at h)
  · rw [hleases]
    exact List.mem_cons_of_mem _ (hs.given lease (hreturned ▸ h))
  · rcases taken k r h with ⟨rfl, rfl⟩ | ⟨hk, hold⟩
    · refine .inr ⟨rfl, rfl, ?_⟩
      unfold latest
      rw [hleases, List.find?_cons_of_pos (by simp)]
      rfl
    · have howned := hs.owned k r hold
      unfold latest at howned ⊢
      rwa [hleases, List.find?_cons_of_neg (by simpa using Ne.symm hk)]
  · rw [hreturned]
    rcases taken k r h with ⟨rfl, rfl⟩ | ⟨-, hold⟩
    · cases hdone
    · exact hs.done k r hold hdone

theorem lease?_setDispatcher {i : Nat} {phase : Dispatcher}
    (h : ∀ lease, phase.lease? = some lease → (s.dispatchers i).lease? = some lease) (j : Nat) (lease : OutboxId × Nat)
    (hj : ((s.setDispatcher i phase).dispatchers j).lease? = some lease) : (s.dispatchers j).lease? = some lease := by
  by_cases hji : j = i
  · subst hji
    rw [setDispatcher_self] at hj
    exact h lease hj
  · rwa [setDispatcher_of_ne hji] at hj

theorem handled_setDispatcher {i : Nat} {phase : Dispatcher} {returned : List (OutboxId × Nat)} (hs : s.Sound)
    (hphase : ∀ o token, phase = .handled o token → (o, token) ∈ returned)
    (hreturned : ∀ lease ∈ s.returned, lease ∈ returned) (j : Nat) (o : OutboxId) (token : Nat)
    (hj : (s.setDispatcher i phase).dispatchers j = .handled o token) : (o, token) ∈ returned := by
  by_cases hji : j = i
  · subst hji
    rw [setDispatcher_self] at hj
    exact hphase o token hj
  · rw [setDispatcher_of_ne hji] at hj
    exact hreturned _ (hs.handled j o token hj)

variable (d : Deployment)

theorem Sound.finish (hs : s.Sound) {i k token : Nat} (hlease : (s.dispatchers i).lease? = some (k, token)) {db : Database}
    (haddressed : db.AllAddressed)
    (hrows : ∀ o, db.outbox.get? o = s.db.outbox.get? o ∨ ∃ row, db.outbox.get? o = some row ∧ o = k ∧
      row.leaseOwner = none ∧ row.status ≠ .inFlight ∧ (row.status = .done → (k, token) ∈ s.returned)) :
    Sound { s.setDispatcher i .idle with db := db } := by
  refine hs.next haddressed rfl rfl (lease?_setDispatcher fun lease h => nomatch h)
    (handled_setDispatcher hs (fun o token h => nomatch h) fun _ h => h) hs.given (fun _ h => h) fun o row hrow => ?_
  rcases hrows o with hkept | ⟨written, hwritten, rfl, howner, hstatus, hdone⟩
  · exact .inl (hkept.symm.trans hrow)
  · obtain rfl := Option.some.inj (hrow.symm.trans hwritten)
    exact .inr ⟨howner, hstatus, fun h => ⟨token, hdone h⟩⟩

theorem rows_of_posts {D : OutboxId → Prop} {b t : Database} (h : Posts (fun _ => False) D b t) (o : OutboxId)
    (row : OutboxRow) (hrow : t.outbox.get? o = some row) : b.outbox.get? o = some row ∨
      row.leaseOwner = none ∧ row.status ≠ .inFlight ∧ (row.status = .done → ∃ token, (o, token) ∈ s.returned) := by
  rcases (h.new o row hrow).resolve_left id with hold | ⟨hstatus, howner⟩
  · exact .inl hold
  · refine .inr ⟨howner, ?_, fun hdone => ?_⟩
    · simp [hstatus]
    · simp [hstatus] at hdone

theorem posts_of_not_isDispatch {b : Database} (hb : b.AllAddressed) {event : Event}
    (h : event.operation.isDispatch = false) :
    Posts (fun _ => False) (DeliveryEvent.system event).Kills b (systemStep d b event) := by
  have posts := posts_systemStep d hb event
  have none (o : OutboxId) : ¬ (DeliveryEvent.system event).Writes o := by
    obtain ⟨now, operation⟩ := event
    cases operation <;> first | exact id | cases h
  exact ⟨posts.known, posts.addressed, fun o row hrow => .inr ((posts.kept o row hrow).resolve_left (none o)),
    fun o row hrow => .inr ((posts.new o row hrow).resolve_left (none o)), posts.died⟩

theorem posts_handleDeliveryTx {b db : Database} (hb : b.AllAddressed) {now : Time} {k : OutboxId} {valid : Bool}
    {u : Unit} (h : (handleDeliveryTx d now k valid).run b = .ok (u, db)) :
    Posts (fun _ => False) (fun _ => False) b db :=
  posting_handleDeliveryTx d now k valid b u db (.refl hb) h

theorem sound_lease (hs : s.Sound) (i : Nat) (now : Time) (leaseSeconds : Nat) :
    (dispatchStep d s (.lease i now leaseSeconds)).Sound := by
  unfold dispatchStep
  dsimp only
  split
  · next hidle =>
    have haddressed := (posts_deliveryStep d hs.addressed (.system ⟨now, .leaseOutbox s.tokens leaseSeconds⟩)).addressed
    rcases leaseOutboxRowTx_run s.db now s.tokens leaseSeconds with ⟨hrun, -⟩ | ⟨o, row, hfirst, hrun⟩
    · rw [hrun]
      exact ⟨hs.addressed, fun lease h => Nat.lt_succ_of_lt (hs.issued lease h), hs.held, hs.unique, hs.handled,
        hs.given, hs.owned, hs.done⟩
    · have hcommit : deliveryStep d s.db (.system ⟨now, .leaseOutbox s.tokens leaseSeconds⟩) =
          { s.db with outbox := s.db.outbox.modify o (OutboxRow.take now s.tokens leaseSeconds) } := by
        change (leaseOutboxRowTx now s.tokens leaseSeconds).commit s.db = _
        unfold commit
        rw [hrun]
      rw [hcommit] at haddressed
      rw [hrun]
      exact hs.lease hidle hfirst.1 haddressed rfl rfl rfl rfl rfl
  · exact hs

theorem sound_handle (hs : s.Sound) (i : Nat) (now : Time) (valid : Bool) :
    (dispatchStep d s (.handle i now valid)).Sound := by
  unfold dispatchStep
  dsimp only
  split
  · next k token hphase =>
    have hlease : (s.dispatchers i).lease? = some (k, token) := by rw [hphase]; rfl
    have goOn (phase : Dispatcher) (h : phase.lease? = some (k, token)) (lease : OutboxId × Nat)
        (hl : phase.lease? = some lease) : (s.dispatchers i).lease? = some lease := hlease.trans (h.symm.trans hl)
    split
    · next db hrun =>
      have posts := posts_handleDeliveryTx d hs.addressed hrun
      refine hs.next posts.addressed rfl rfl (lease?_setDispatcher (goOn (.handled k token) rfl))
        (handled_setDispatcher hs (fun o t h => ?_) fun _ h => List.mem_cons_of_mem _ h) (fun lease h => ?_)
        (fun _ h => List.mem_cons_of_mem _ h) (rows_of_posts posts)
      · cases h
        exact List.mem_cons_self
      · rcases List.mem_cons.1 h with rfl | h
        · exact hs.held i _ hlease
        · exact hs.given lease h
    · exact hs.next hs.addressed rfl rfl (lease?_setDispatcher (goOn (.failed k token) rfl))
        (handled_setDispatcher hs (fun o t h => nomatch h) fun _ h => h) hs.given (fun _ h => h) fun _ _ h => .inl h
  · exact hs

theorem sound_dispatchStep (hs : s.Sound) (event : DispatchEvent) : (dispatchStep d s event).Sound := by
  have addressed (event : DeliveryEvent) := (posts_deliveryStep d hs.addressed event).addressed
  cases event with
  | lease i now leaseSeconds => exact sound_lease d hs i now leaseSeconds
  | kill i now error =>
    unfold dispatchStep
    dsimp only
    split
    · next k token hphase =>
      refine hs.finish (by rw [hphase]; rfl) (addressed (.malformed now k token error)) fun o => ?_
      refine (get?_markOutboxDeadTx token error).imp id ?_
      rintro ⟨row, -, hk, -, -, hnew⟩
      exact ⟨_, hnew, hk, rfl, by simp, fun h => nomatch h⟩
    · exact hs
  | handle i now valid => exact sound_handle d hs i now valid
  | raise i =>
    unfold dispatchStep
    dsimp only
    split
    · next k token hphase =>
      refine hs.next hs.addressed rfl rfl (lease?_setDispatcher fun lease h => ?_)
        (handled_setDispatcher hs (fun o t h => nomatch h) fun _ h => h) hs.given (fun _ h => h) fun _ _ h => .inl h
      rw [hphase]
      exact h
    · exact hs
  | complete i =>
    unfold dispatchStep
    dsimp only
    split
    · next k token hphase =>
      refine hs.finish (by rw [hphase]; rfl) (addressed (.system ⟨0, .completeOutbox k token⟩)) fun o => ?_
      refine (get?_completeOutboxTx token).imp id ?_
      rintro ⟨row, -, hk, -, -, hnew⟩
      exact ⟨_, hnew, hk, rfl, by simp, fun _ => hs.handled i k token hphase⟩
    · exact hs
  | release i now error =>
    unfold dispatchStep
    dsimp only
    split
    · next k token hphase =>
      refine hs.finish (by rw [hphase]; rfl) (addressed (.system ⟨now, .releaseOutbox k token error⟩)) fun o => ?_
      refine (get?_releaseOutboxTx token error).imp id ?_
      rintro ⟨row, -, hk, -, -, hnew⟩
      refine ⟨_, hnew, hk, rfl, ?_, fun h => ?_⟩
      · dsimp only
        split <;> simp
      · dsimp only at h
        split at h <;> cases h
    · exact hs
  | crash i =>
    exact hs.next hs.addressed rfl rfl (lease?_setDispatcher fun lease h => nomatch h)
      (handled_setDispatcher hs (fun o t h => nomatch h) fun _ h => h) hs.given (fun _ h => h) fun _ _ h => .inl h
  | system event =>
    unfold dispatchStep
    dsimp only
    split
    · exact hs
    · next h =>
      have posts := posts_of_not_isDispatch d hs.addressed (by simpa using h)
      exact hs.next posts.addressed rfl rfl (fun _ _ h => h) hs.handled hs.given (fun _ h => h) (rows_of_posts posts)

/-! ### what a step changes -/

theorem change_dispatchStep (hs : s.Sound) (event : DispatchEvent) {row : OutboxRow}
    (hrow : s.db.outbox.get? o = some row) :
    ∃ row', (dispatchStep d s event).db.outbox.get? o = some row' ∧ DeliveryChange s o row event row' := by
  have kept : ∃ row', s.db.outbox.get? o = some row' ∧ DeliveryChange s o row event row' := ⟨row, hrow, .kept event⟩
  cases event with
  | lease i now leaseSeconds =>
    unfold dispatchStep
    dsimp only
    split
    · next hidle =>
      rcases leaseOutboxRowTx_run s.db now s.tokens leaseSeconds with ⟨hrun, -⟩ | ⟨k, r, hfirst, hrun⟩
      · rw [hrun]
        exact kept
      · rw [hrun]
        change ∃ row', (s.db.outbox.modify k _).get? o = some row' ∧ _
        by_cases hk : o = k
        · subst hk
          obtain rfl := Option.some.inj (hrow.symm.trans hfirst.1)
          rw [Table.get?_modify_self, hrow]
          exact ⟨_, rfl, .leased hidle hfirst⟩
        · rw [Table.get?_modify_of_ne hk]
          exact kept
    · exact kept
  | kill i now error =>
    unfold dispatchStep
    dsimp only
    split
    · next k token hphase =>
      rcases get?_markOutboxDeadTx (s := s.db) (o := o) (k := k) token error with
        hkept | ⟨r, hr, rfl, hstatus, howner, hnew⟩
      · exact ⟨row, hkept.trans hrow, .kept _⟩
      · obtain rfl := Option.some.inj (hrow.symm.trans hr)
        exact ⟨_, hnew, .killed hphase hstatus howner⟩
    · exact kept
  | handle i now valid =>
    unfold dispatchStep
    dsimp only
    split
    · next k token hphase =>
      split
      · next db hrun =>
        exact ⟨row, ((posts_handleDeliveryTx d hs.addressed hrun).kept o row hrow).resolve_left id, .kept _⟩
      · exact kept
    · exact kept
  | raise i =>
    unfold dispatchStep
    dsimp only
    split <;> exact kept
  | complete i =>
    unfold dispatchStep
    dsimp only
    split
    · next k token hphase =>
      rcases get?_completeOutboxTx (s := s.db) (o := o) (k := k) token with hkept | ⟨r, hr, rfl, hstatus, howner, hnew⟩
      · exact ⟨row, hkept.trans hrow, .kept _⟩
      · obtain rfl := Option.some.inj (hrow.symm.trans hr)
        exact ⟨_, hnew, .completed hphase hstatus howner⟩
    · exact kept
  | release i now error =>
    unfold dispatchStep
    dsimp only
    split
    · next k token hphase =>
      rcases get?_releaseOutboxTx (s := s.db) (o := o) (k := k) token error with
        hkept | ⟨r, hr, rfl, hstatus, howner, hnew⟩
      · exact ⟨row, hkept.trans hrow, .kept _⟩
      · obtain rfl := Option.some.inj (hrow.symm.trans hr)
        exact ⟨_, hnew, .released hphase hstatus howner⟩
    · exact kept
  | crash i => exact kept
  | system event =>
    unfold dispatchStep
    dsimp only
    split
    · exact kept
    · next h =>
      have hdispatch : event.operation.isDispatch = false := by simpa using h
      have posts := posts_of_not_isDispatch d hs.addressed hdispatch
      exact ⟨row, (posts.kept o row hrow).resolve_left id, .kept _⟩

end sound

end Dispatching

/-- The event leases the delivery. -/
def DispatchEvent.Leases (event : DispatchEvent) (s : Dispatching) (o : OutboxId) : Prop :=
  match event with
  | .lease i now _ => s.dispatchers i = .idle ∧ ∃ row, s.db.FirstLeasable now o row
  | _ => False

/-- The event ends the work of the dispatcher on its delivery. -/
def DispatchEvent.Ends (event : DispatchEvent) (i : Nat) : Prop :=
  match event with
  | .kill j _ _ | .complete j | .release j _ _ => j = i
  | _ => False

namespace Dispatching

section change

variable {s : Dispatching} {o : OutboxId} {row row' : OutboxRow} {event : DispatchEvent}

theorem Sound.holds (hs : s.Sound) {i token : Nat} (hrow : s.db.outbox.get? o = some row)
    (hlease : (s.dispatchers i).lease? = some (o, token)) (howner : row.leaseOwner = some token) : s.Holds i o := by
  refine ⟨token, hlease, ?_⟩
  rcases hs.owned o row hrow with ⟨hnone, -⟩ | ⟨-, -, hlatest⟩
  · cases hnone.symm.trans howner
  · exact hlatest.symm.trans howner

/-- A delivery that changes is leased, or it is in flight and its latest holder ends its work on it. -/
theorem Sound.change (hs : s.Sound) (hrow : s.db.outbox.get? o = some row) (h : DeliveryChange s o row event row')
    (hne : row' ≠ row) :
    event.Leases s o ∨ row.status = .inFlight ∧ ∃ i, event.Ends i ∧ s.Holds i o := by
  cases h with
  | kept => exact absurd rfl hne
  | leased hidle hfirst => exact .inl ⟨hidle, row, hfirst⟩
  | killed hphase hstatus howner => exact .inr ⟨hstatus, _, rfl, hs.holds hrow (by rw [hphase]; rfl) howner⟩
  | completed hphase hstatus howner => exact .inr ⟨hstatus, _, rfl, hs.holds hrow (by rw [hphase]; rfl) howner⟩
  | released hphase hstatus howner => exact .inr ⟨hstatus, _, rfl, hs.holds hrow (by rw [hphase]; rfl) howner⟩

theorem eq_of_final (h : DeliveryChange s o row event row') (hfinal : row.status = .done ∨ row.status = .dead) :
    row' = row := by
  cases h with
  | kept => rfl
  | leased hidle hfirst =>
    have hleasable := hfirst.2.1
    unfold OutboxRow.leasable at hleasable
    rcases hfinal with hfinal | hfinal <;> simp [hfinal] at hleasable
  | killed hphase hstatus => rcases hfinal with hfinal | hfinal <;> cases hfinal.symm.trans hstatus
  | completed hphase hstatus => rcases hfinal with hfinal | hfinal <;> cases hfinal.symm.trans hstatus
  | released hphase hstatus => rcases hfinal with hfinal | hfinal <;> cases hfinal.symm.trans hstatus

end change

section runs

variable (d : Deployment) {s : Dispatching} {o : OutboxId} {row : OutboxRow}

theorem sound_start : start.Sound where
  addressed _ _ h := nomatch h
  issued _ h := nomatch h
  held _ _ h := nomatch h
  unique _ _ _ _ h := nomatch h
  handled _ _ _ h := nomatch h
  given _ h := nomatch h
  owned _ _ h := nomatch h
  done _ _ h := nomatch h

theorem sound_runFrom (events : List DispatchEvent) : (runFrom (dispatchStep d) start events).Sound :=
  runFrom_invariant (I := Sound) (C := fun _ _ => True) (fun _ event hs _ => sound_dispatchStep d hs event) sound_start
    (stepsMeet_true _ _)

theorem final_runFrom (events : List DispatchEvent) : ∀ {s : Dispatching}, s.Sound → s.db.outbox.get? o = some row →
    row.status = .done ∨ row.status = .dead → (runFrom (dispatchStep d) s events).db.outbox.get? o = some row := by
  induction events with
  | nil => exact fun _ hrow _ => hrow
  | cons event events ih =>
    intro s hs hrow hfinal
    obtain ⟨row', hrow', hchange⟩ := change_dispatchStep d hs event hrow
    obtain rfl := eq_of_final hchange hfinal
    exact ih (sound_dispatchStep d hs event) hrow' hfinal

/-- The event neither leases the delivery nor ends the work of its latest holder. -/
def Spares (o : OutboxId) (s : Dispatching) (event : DispatchEvent) : Prop :=
  ¬ event.Leases s o ∧ ∀ i, event.Ends i → ¬ s.Holds i o

/-- A delivery is what it was after any steps that neither lease it nor end the work of its latest holder. -/
theorem spared_runFrom (events : List DispatchEvent) : ∀ {s : Dispatching}, s.Sound → s.db.outbox.get? o = some row →
    StepsMeet (dispatchStep d) (Spares o) s events →
      (runFrom (dispatchStep d) s events).db.outbox.get? o = some row := by
  induction events with
  | nil => exact fun _ hrow _ => hrow
  | cons event events ih =>
    intro s hs hrow hspares
    obtain ⟨row', hrow', hchange⟩ := change_dispatchStep d hs event hrow
    have heq : row' = row := by
      by_contra hne
      rcases hs.change hrow hchange hne with hleases | ⟨-, i, hends, hholds⟩
      · exact hspares.1.1 hleases
      · exact hspares.1.2 i hends hholds
    exact ih (sound_dispatchStep d hs event) (heq ▸ hrow') hspares.2

/-- The handler of the delivery returns in the state under the lease. -/
def Returns (s : Dispatching) (event : DispatchEvent) (lease : OutboxId × Nat) : Prop :=
  ∃ i now valid db, event = .handle i now valid ∧ s.dispatchers i = .leased lease.1 lease.2 ∧
    (handleDeliveryTx d now lease.1 valid).run s.db = .ok ((), db)

theorem returned_dispatchStep {event : DispatchEvent} {lease : OutboxId × Nat}
    (h : lease ∈ (dispatchStep d s event).returned) : lease ∈ s.returned ∨ Returns d s event lease := by
  cases event with
  | handle i now valid =>
    unfold dispatchStep at h
    dsimp only at h
    split at h
    · next k token hphase =>
      split at h
      · next db hrun =>
        rcases List.mem_cons.1 h with rfl | h
        · exact .inr ⟨i, now, valid, db, rfl, hphase, hrun⟩
        · exact .inl h
      · exact .inl h
    · exact .inl h
  | system event =>
    unfold dispatchStep at h
    dsimp only at h
    split at h <;> exact .inl h
  | crash i => exact .inl h
  | lease i now leaseSeconds =>
    unfold dispatchStep at h
    dsimp only at h
    split at h
    · split at h <;> exact .inl h
    · exact .inl h
  | kill | raise | complete | release =>
    unfold dispatchStep at h
    dsimp only at h
    split at h <;> exact .inl h

theorem returned_runFrom (events : List DispatchEvent) : ∀ {s : Dispatching} {lease : OutboxId × Nat},
    lease ∈ (runFrom (dispatchStep d) s events).returned → lease ∈ s.returned ∨
      ∃ before event after, events = before ++ event :: after ∧
        Returns d (runFrom (dispatchStep d) s before) event lease := by
  induction events with
  | nil => exact fun h => .inl h
  | cons event events ih =>
    intro s lease h
    rcases ih h with h | ⟨before, event', after, rfl, hreturns⟩
    · rcases returned_dispatchStep d h with h | hreturns
      · exact .inl h
      · exact .inr ⟨[], event, events, rfl, hreturns⟩
    · exact .inr ⟨event :: before, event', after, rfl, hreturns⟩

theorem leasable_mono {now later : Time} (h : now ≤ later) (hleasable : row.leasable now = true) :
    row.leasable later = true := by
  unfold OutboxRow.leasable at hleasable ⊢
  simp only [Bool.or_eq_true, Bool.and_eq_true, beq_iff_eq, decide_eq_true_eq, Option.any_eq_true] at hleasable ⊢
  rcases hleasable with ⟨hstatus, havailable⟩ | ⟨hstatus, expires, hexpires, hle⟩
  · exact .inl ⟨hstatus, Nat.le_trans havailable h⟩
  · exact .inr ⟨hstatus, expires, hexpires, Nat.le_trans hle h⟩

theorem lease_dispatchStep {i leaseSeconds : Nat} {now : Time} (hidle : s.dispatchers i = .idle)
    (hrow : s.db.outbox.get? o = some row) (hleasable : row.leasable now = true) :
    ∃ k r, s.db.FirstLeasable now k r ∧
      (dispatchStep d s (.lease i now leaseSeconds)).db.outbox.get? k = some (r.take now s.tokens leaseSeconds) ∧
      (dispatchStep d s (.lease i now leaseSeconds)).dispatchers i = .leased k s.tokens := by
  rcases leaseOutboxRowTx_run s.db now s.tokens leaseSeconds with ⟨-, hnone⟩ | ⟨k, r, hfirst, hrun⟩
  · cases hleasable.symm.trans (hnone o row hrow)
  refine ⟨k, r, hfirst, ?_⟩
  unfold dispatchStep
  dsimp only
  rw [hidle]
  dsimp only
  rw [hrun]
  refine ⟨?_, setDispatcher_self ..⟩
  change (s.db.outbox.modify k _).get? k = _
  rw [Table.get?_modify_self, hfirst.1]
  rfl

end runs

end Dispatching

/-! ### the fence -/

/-- What holds of the deliveries after the events of a run. -/
structure DeliveryFence (d : Deployment) (events : List DispatchEvent) (s : Dispatching) : Prop where
  /-- Done and dead deliveries stay as they are. -/
  absorbing : ∀ later o row, s.db.outbox.get? o = some row → row.status = .done ∨ row.status = .dead →
    (runFrom (dispatchStep d) s later).db.outbox.get? o = some row
  /-- A step that changes a delivery leases it, or ends the work of the holder of its latest lease, which has it in
  flight. -/
  fenced : ∀ event o row, s.db.outbox.get? o = some row → (dispatchStep d s event).db.outbox.get? o ≠ some row →
    event.Leases s o ∨ row.status = .inFlight ∧ ∃ i, event.Ends i ∧ s.Holds i o
  /-- One dispatcher at most holds the latest lease. -/
  holder : ∀ i j o, s.Holds i o → s.Holds j o → i = j
  /-- The handler of a delivery that is done returned at some step, under a lease of it. -/
  returned : ∀ o row, s.db.outbox.get? o = some row → row.status = .done → ∃ token before event after,
    events = before ++ event :: after ∧
      Dispatching.Returns d (runFrom (dispatchStep d) Dispatching.start before) event (o, token)
  /-- A delivery that waits for a lease is what it was, and can be leased, until it is leased or the holder of its latest
  lease ends its work, whatever the other dispatchers do. -/
  waits : ∀ later o row now, s.db.outbox.get? o = some row → row.leasable now = true →
    StepsMeet (dispatchStep d) (Dispatching.Spares o) s later →
      (runFrom (dispatchStep d) s later).db.outbox.get? o = some row ∧ ∀ t, now ≤ t → row.leasable t = true
  /-- A dispatcher that leases takes the first of the deliveries that wait. -/
  offered : ∀ i now leaseSeconds o row, s.dispatchers i = .idle → s.db.outbox.get? o = some row →
    row.leasable now = true → ∃ k r, s.db.FirstLeasable now k r ∧
      (dispatchStep d s (.lease i now leaseSeconds)).db.outbox.get? k = some (r.take now s.tokens leaseSeconds) ∧
      (dispatchStep d s (.lease i now leaseSeconds)).dispatchers i = .leased k s.tokens

/-- In every interleaving of dispatchers with each other and with the rest of the system, the deliveries are fenced. -/
theorem deliveryFence (d : Deployment) (events : List DispatchEvent) :
    DeliveryFence d events (runFrom (dispatchStep d) Dispatching.start events) := by
  have hs := Dispatching.sound_runFrom d events
  refine ⟨fun later o row hrow hfinal => Dispatching.final_runFrom d later hs hrow hfinal, fun event o row hrow hne => ?_,
    fun i j o hi hj => ?_, fun o row hrow hdone => ?_, fun later o row now hrow hleasable hspares => ?_,
    fun i now leaseSeconds o row => Dispatching.lease_dispatchStep d⟩
  · obtain ⟨row', hrow', hchange⟩ := Dispatching.change_dispatchStep d hs event hrow
    refine hs.change hrow hchange fun heq => hne ?_
    rw [hrow', heq]
  · obtain ⟨token, hlease, hlatest⟩ := hi
    obtain ⟨token', hlease', hlatest'⟩ := hj
    exact hs.unique i j _ _ hlease hlease' (Option.some.inj (hlatest.symm.trans hlatest'))
  · obtain ⟨token, hreturned⟩ := hs.done o row hrow hdone
    rcases Dispatching.returned_runFrom d events hreturned with h | ⟨before, event, after, heq, hreturns⟩
    · cases h
    · exact ⟨token, before, event, after, heq, hreturns⟩
  · exact ⟨Dispatching.spared_runFrom d later hs hrow hspares,
      fun t ht => Dispatching.leasable_mono ht hleasable⟩

/-- A dispatcher whose lease ran out and was taken over completes its work in vain: the delivery stays with the second
one. -/
example :
    let s := runFrom (dispatchStep sampleDeployment) Dispatching.start
      [.system ⟨1, .createTask { team := 0, requestIntent := .indexRebuild, workflowRevision := 1, compiledDigest := 7 }⟩,
        .lease 0 2 30, .handle 0 3 true, .lease 1 30000002 30, .complete 0]
    (s.db.outbox.get? 0).any (fun row => row.status == .inFlight && row.leaseOwner == some 1) = true := by
  decide +kernel

end KnowledgeBase
