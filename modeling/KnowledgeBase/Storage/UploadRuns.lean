import KnowledgeBase.Storage.UploadEffects

/-!
# Upload operations one by one

Sessions only go forward and terminal rows stay. A cancelled session, a scan and the two operations that select by the
object are traced to the holds they release.
-/

namespace KnowledgeBase

open Checked Relational Serving UploadStore

namespace UploadStore

variable {s s' : UploadStore} {now : Time}

/-! ### sessions follow -/

/-- Terminal rows stay, and no row opens again. -/
def Follows (s s' : UploadStore) : Prop :=
  ∀ q ∈ s.sessions, ∃ p ∈ s'.sessions, p.session = q.session ∧ (q.state.isTerminal = true → p = q) ∧
    (q.state.isOpen = false → p.state.isOpen = false)

theorem Follows.of_eq (h : s'.sessions = s.sessions) : s.Follows s' := by
  intro q hq
  rw [← h] at hq
  exact ⟨q, hq, rfl, fun _ => rfl, id⟩

theorem Follows.trans {s'' : UploadStore} (h : s.Follows s') (h' : s'.Follows s'') : s.Follows s'' := by
  intro q hq
  obtain ⟨p, hp, hps, hpt, hpo⟩ := h q hq
  obtain ⟨r, hr, hrs, hrt, hro⟩ := h' p hp
  refine ⟨r, hr, hrs.trans hps, fun ht => ?_, fun ho => hro (hpo ho)⟩
  have hpq := hpt ht
  subst hpq
  exact hrt ht

theorem Follows.of_update {d : UploadSessionRow → Bool} {f : UploadSessionRow → UploadSessionRow}
    (h : s'.sessions = updateWhere d f s.sessions) (hf : ∀ q, (f q).session = q.session)
    (hd : ∀ q, d q = true → q.state.isTerminal = false ∧ (f q).state.isOpen = false) : s.Follows s' := by
  intro q hq
  refine ⟨_, h ▸ mem_updateWhere_of_mem hq, ?_⟩
  split
  · rename_i hdq
    obtain ⟨hterminal, hopen⟩ := hd q hdq
    exact ⟨hf q, fun ht => absurd (hterminal.symm.trans ht) Bool.false_ne_true, fun _ => hopen⟩
  · exact ⟨rfl, fun _ => rfl, id⟩

theorem Follows.absorbing (h : s.Follows s') {q : UploadSessionRow} (hq : q ∈ s.sessions) (ht : q.state.isTerminal = true) :
    q ∈ s'.sessions := by
  obtain ⟨p, hp, -, hpt, -⟩ := h q hq
  rwa [hpt ht] at hp

theorem not_terminal_of_isOpen {x : UploadState} (h : x.isOpen = true) : x.isTerminal = false := by
  revert h
  cases x <;> decide

theorem reserved_of_isHeld {x : UploadState} (h : x.isHeld = true) (ho : x.isOpen = false) : x = .reserved := by
  revert h ho
  cases x <;> decide

/-! ### the operations on one session -/

theorem session?_eq {team : TeamId} {token : SessionToken} {e : UploadSessionRow} (h : s.session? team token = some e) :
    e ∈ s.sessions ∧ e.session = token.session := by
  unfold session? at h
  obtain ⟨hfind, -⟩ := Option.filter_eq_some_iff.1 h
  have hprop := List.find?_some hfind
  simp only [Bool.and_eq_true, beq_iff_eq] at hprop
  exact ⟨List.mem_of_find?_eq_some hfind, hprop.2⟩

theorem reserveSession_ok {team : TeamId} {token : SessionToken} {task : TaskId} {generation : Nat} {b : Bool}
    (h : s.reserveSession team token task generation = .ok (b, s')) :
    ∃ e, s.session? team token = some e ∧
      b = (s.sessions.countP (fun q => q.session == e.session && q.state == .committed) == 1) ∧
      s' = s.updated (fun q => q.session == e.session && q.state == .committed) (UploadSessionRow.reserve task generation)
        (fun _ => false) 0 := by
  unfold reserveSession at h
  obtain ⟨_, -, h⟩ := bind_ok_iff.1 h
  obtain ⟨e, he, h⟩ := bind_ok_iff.1 h
  rw [required_ok_iff] at he
  obtain ⟨rfl, rfl⟩ := Prod.mk.inj (pure_ok_iff.1 h)
  refine ⟨e, he, rfl, ?_⟩
  unfold updated
  rw [releaseWhere_false]

theorem consumeSession_ok {team : TeamId} {token : SessionToken} {b : Bool}
    (h : s.consumeSession team token now = .ok (b, s')) :
    b = false ∧ s' = s ∨ ∃ e, s.session? team token = some e ∧ b = true ∧
      s.sessions.countP (fun q => q.session == e.session && q.state == .reserved) = 1 ∧
      s' = s.updated (fun q => q.session == e.session && q.state == .reserved) (UploadSessionRow.finish .consumed now)
        (isSessionHold e.session) now := by
  unfold consumeSession at h
  obtain ⟨e, he, h⟩ := bind_ok_iff.1 h
  rw [required_ok_iff] at he
  split at h
  · obtain ⟨rfl, rfl⟩ := Prod.mk.inj (pure_ok_iff.1 h)
    exact .inl ⟨rfl, rfl⟩
  · rename_i hcount
    obtain ⟨rfl, rfl⟩ := Prod.mk.inj (pure_ok_iff.1 h)
    exact .inr ⟨e, he, rfl, by simpa using hcount, rfl⟩

theorem cancelSession_ok {team : TeamId} {token : SessionToken} {b : Bool}
    (h : s.cancelSession team token now = .ok (b, s')) :
    ∃ e, s.session? team token = some e ∧
      s' = s.updated (fun q => q.session == e.session && q.state.isOpen) (UploadSessionRow.finish .cancelled now)
        (isSessionHold e.session) now := by
  unfold cancelSession at h
  obtain ⟨e, he, h⟩ := bind_ok_iff.1 h
  rw [required_ok_iff] at he
  obtain ⟨rfl, rfl⟩ := Prod.mk.inj (pure_ok_iff.1 h)
  exact ⟨e, he, rfl⟩

theorem spares_updated {d : UploadSessionRow → Bool} {f : UploadSessionRow → UploadSessionRow} {c : ReferenceRow → Bool}
    {session : UploadSessionId} (hd : ∀ q, d q = true → q.session = session)
    (hc : ∀ r, c r = true → r.uploadSession = some session) :
    (∀ q ∈ s.sessions, q.session ≠ session → q ∈ (s.updated d f c now).sessions) ∧
      ∀ r ∈ s.references, r.uploadSession ≠ some session → r ∈ (s.updated d f c now).references := by
  refine ⟨fun q hq hne => mem_updateWhere.2 ⟨q, hq, if_neg fun h => hne (hd q h)⟩, fun r hr hne => ?_⟩
  exact mem_releaseWhere_of_not hr (Bool.eq_false_iff.2 fun h => hne (hc r h))

theorem session_of_isSessionHold {session : UploadSessionId} {r : ReferenceRow} (h : isSessionHold session r = true) :
    r.uploadSession = some session := by
  unfold isSessionHold at h
  simp only [Bool.and_eq_true, beq_iff_eq] at h
  exact h.1

theorem isSessionHold_of_ne {session : UploadSessionId} {r : ReferenceRow} (h : r.uploadSession ≠ some session) :
    isSessionHold session r = false := Bool.eq_false_iff.2 fun ht => h (session_of_isSessionHold ht)

theorem orderly_finish (hs : s.Orderly) {d : UploadSessionRow → Bool} {session : UploadSessionId} (state : UploadState)
    (hd : ∀ q, d q = true → q.session = session) :
    (s.updated d (UploadSessionRow.finish state now) (isSessionHold session) now).Orderly := by
  refine orderly_updated hs (fun _ => rfl) fun r hr _ hc q _ hsession hdq => ?_
  rw [hd q hdq] at hsession
  unfold isSessionHold at hc
  rw [hsession, hs.purposes r hr session hsession] at hc
  simp at hc

theorem holdsOwn_cancelSession_iff (hs : s.Orderly) (hown : s.HoldsOwn) {e : UploadSessionRow} (he : e ∈ s.sessions) :
    (s.updated (fun q => q.session == e.session && q.state.isOpen) (UploadSessionRow.finish .cancelled now)
      (isSessionHold e.session) now).HoldsOwn ↔ e.state ≠ .reserved := by
  constructor
  · intro h hreserved
    have hmem : e ∈ (s.updated (fun q => q.session == e.session && q.state.isOpen) (UploadSessionRow.finish .cancelled now)
        (isSessionHold e.session) now).sessions := by
      refine mem_updateWhere.2 ⟨e, he, if_neg ?_⟩
      rw [hreserved]
      simp [UploadState.isOpen]
    have hheld : e.state.isHeld = true := by
      rw [hreserved]
      rfl
    obtain ⟨r, hr, hlive, hpurpose, hsession⟩ := h e hmem hheld
    have hnot := ((mem_releaseWhere_iff hlive).1 hr).2
    unfold isSessionHold at hnot
    rw [hsession, hpurpose] at hnot
    simp at hnot
  · intro hne
    refine holdsOwn_updated hown (fun _ => rfl) fun q hq hheld => ?_
    split at hheld
    · cases hheld
    · rename_i hd
      refine ⟨hheld, fun r _ hsession => isSessionHold_of_ne fun h => ?_⟩
      have hkey : q.session = e.session := Option.some.inj (hsession.symm.trans h)
      have hqe := eq_of_key hs.sessions hq he hkey
      subst hqe
      refine hne (reserved_of_isHeld hheld (Bool.eq_false_iff.2 fun ho => hd ?_))
      rw [ho, beq_self_eq_true]
      rfl

theorem holdsOwn_consumeSession (hs : s.Orderly) (hown : s.HoldsOwn) {session : UploadSessionId}
    (hcount : s.sessions.countP (fun q => q.session == session && q.state == .reserved) = 1) :
    (s.updated (fun q => q.session == session && q.state == .reserved) (UploadSessionRow.finish .consumed now)
      (isSessionHold session) now).HoldsOwn := by
  obtain ⟨e, he, hreserved⟩ : ∃ e ∈ s.sessions, (e.session == session && e.state == .reserved) = true :=
    List.countP_pos_iff.1 (by omega)
  simp only [Bool.and_eq_true, beq_iff_eq] at hreserved
  refine holdsOwn_updated hown (fun _ => rfl) fun q hq hheld => ?_
  split at hheld
  · cases hheld
  · rename_i hd
    refine ⟨hheld, fun r _ hsession => isSessionHold_of_ne fun h => hd ?_⟩
    have hkey : q.session = session := Option.some.inj (hsession.symm.trans h)
    have hqe := eq_of_key hs.sessions hq he (hkey.trans hreserved.1.symm)
    subst hqe
    rw [hkey, hreserved.2]
    simp

/-! ### expiry -/

/-- The row read by the scan, in the states of its loop. -/
structure ScanReady (s : UploadStore) (r : ReferenceRow) : Prop where
  agrees : ∀ q ∈ s.references, q.reference = r.reference → q.uploadSession = r.uploadSession
  only : ∀ q ∈ s.references, q.isLive = true → ∀ session, q.uploadSession = some session →
    r.uploadSession = some session → q.reference = r.reference
  free : ∀ q ∈ s.sessions, r.uploadSession = some q.session → q.state ≠ .reserved

theorem scanReady_of_isExpired (hs : s.Orderly) {cutoff : Time} {r : ReferenceRow} (hr : r ∈ s.references)
    (h : s.isExpired cutoff r = true) : s.ScanReady r := by
  unfold isExpired at h
  simp only [Bool.and_eq_true] at h
  refine ⟨fun q hq hkey => ?_, fun q hq hlive session hqs hrs => ?_, fun q hq hsession he => ?_⟩
  · rw [eq_of_key hs.references hq hr hkey]
  · rw [hs.single q hq r hr hlive h.1.1.2 session hqs hrs]
  · have habandonable := h.2
    unfold isAbandonable at habandonable
    rw [hsession] at habandonable
    have hq' := List.all_eq_true.1 habandonable q hq
    rw [he] at hq'
    simp at hq'

/-- The sessions an expiry updates. -/
def expires (r : ReferenceRow) (q : UploadSessionRow) : Bool := r.uploadSession == some q.session && q.state.isOpen

theorem expireHold_eq (s : UploadStore) (now : Time) (r : ReferenceRow) :
    s.expireHold now r = s.updated (expires r) (UploadSessionRow.finish .expired now) (fun q => q.reference == r.reference) now := by
  have hsessions : (s.expireHold now r).sessions = updateWhere (expires r) (UploadSessionRow.finish .expired now) s.sessions := by
    unfold expireHold expires
    cases r.uploadSession with
    | none => exact (updateWhere_of_forall fun _ _ => rfl).symm
    | some session =>
      refine congrArg (updateWhere · _ s.sessions) (funext fun q => congrArg (· && q.state.isOpen) ?_)
      rw [Bool.eq_iff_iff, beq_iff_eq, beq_iff_eq]
      exact ⟨fun h => congrArg some h.symm, fun h => (Option.some.inj h).symm⟩
  unfold updated
  rw [← hsessions]
  rfl

theorem orderly_expireHold (hs : s.Orderly) {r : ReferenceRow} (h : s.ScanReady r) : (s.expireHold now r).Orderly := by
  rw [expireHold_eq]
  refine orderly_updated hs (fun _ => rfl) fun p hp hlive hc q _ hsession hd => ?_
  unfold expires at hd
  simp only [Bool.and_eq_true, beq_iff_eq] at hd
  rw [beq_iff_eq.2 (h.only p hp hlive q.session hsession hd.1)] at hc
  cases hc

theorem holdsOwn_expireHold (hown : s.HoldsOwn) {r : ReferenceRow} (h : s.ScanReady r) : (s.expireHold now r).HoldsOwn := by
  rw [expireHold_eq]
  intro p hp hheld
  obtain ⟨q, hq, rfl⟩ := mem_updateWhere.1 hp
  split at hheld
  · cases hheld
  · rename_i hd
    rw [if_neg hd]
    obtain ⟨x, hx, hlive, hpurpose, hsession⟩ := hown q hq hheld
    refine ⟨x, (mem_releaseWhere_iff hlive).2 ⟨hx, beq_eq_false_iff_ne.2 fun hkey => hd ?_⟩, hlive, hpurpose, hsession⟩
    -- the released row would be of this session, which is then committed and expires
    have hr : r.uploadSession = some q.session := (h.agrees x hx hkey).symm.trans hsession
    have hopen : q.state.isOpen = true := by
      cases ho : q.state.isOpen with
      | true => rfl
      | false => exact absurd (reserved_of_isHeld hheld ho) (h.free q hq hr)
    unfold expires
    rw [hr, hopen, beq_self_eq_true]
    rfl

theorem scanReady_expireHold {r x : ReferenceRow} (h : s.ScanReady x) : (s.expireHold now r).ScanReady x := by
  rw [expireHold_eq]
  refine ⟨fun q hq hkey => ?_, fun q hq hlive session hqs hxs => ?_, fun q hq hsession => ?_⟩
  · obtain ⟨p, hp, hpr, hps, -⟩ := exists_of_releaseWhere hq
    rw [hps]
    exact h.agrees p hp (hpr.symm.trans hkey)
  · exact h.only q ((mem_releaseWhere_iff hlive).1 hq).1 hlive session hqs hxs
  · obtain ⟨p, hp, rfl⟩ := mem_updateWhere.1 hq
    by_cases hd : expires r p = true
    · rw [if_pos hd]
      exact fun he => UploadState.noConfusion he
    · rw [if_neg hd] at hsession ⊢
      exact h.free p hp hsession

theorem follows_expireHold (s : UploadStore) (now : Time) (r : ReferenceRow) : s.Follows (s.expireHold now r) := by
  rw [expireHold_eq]
  refine Follows.of_update rfl (fun _ => rfl) fun q hd => ?_
  unfold expires at hd
  rw [Bool.and_eq_true] at hd
  exact ⟨not_terminal_of_isOpen hd.2, rfl⟩

/-! ### the loop of the scan -/

theorem follows_scan (l : List ReferenceRow) (s : UploadStore) : s.Follows (l.foldl (expireHold now) s) := by
  induction l generalizing s with
  | nil => exact .of_eq rfl
  | cons r l ih => exact (follows_expireHold s now r).trans (ih _)

theorem orderly_scan (l : List ReferenceRow) (hs : s.Orderly) (hl : ∀ r ∈ l, s.ScanReady r) :
    (l.foldl (expireHold now) s).Orderly := by
  induction l generalizing s with
  | nil => exact hs
  | cons r l ih =>
    exact ih (orderly_expireHold hs (hl r List.mem_cons_self)) fun x hx =>
      scanReady_expireHold (hl x (List.mem_cons_of_mem _ hx))

theorem holdsOwn_scan (l : List ReferenceRow) (hown : s.HoldsOwn) (hl : ∀ r ∈ l, s.ScanReady r) :
    (l.foldl (expireHold now) s).HoldsOwn := by
  induction l generalizing s with
  | nil => exact hown
  | cons r l ih =>
    exact ih (holdsOwn_expireHold hown (hl r List.mem_cons_self)) fun x hx =>
      scanReady_expireHold (hl x (List.mem_cons_of_mem _ hx))

theorem scanReady_expiredHolds (hs : s.Orderly) {limit : Nat} {cutoff : Time} {r : ReferenceRow}
    (h : r ∈ s.expiredHolds limit cutoff) : s.ScanReady r := by
  have hmem := List.mem_mergeSort.1 (List.mem_of_mem_take h)
  obtain ⟨hr, hexpired⟩ := List.mem_filter.1 hmem
  exact scanReady_of_isExpired hs hr hexpired

/-! ### cancel and acceptance -/

theorem newest?_mem {l : List ReferenceRow} {r : ReferenceRow} (h : newest? l = some r) : r ∈ l := by
  induction l generalizing r with
  | nil => cases h
  | cons x l ih =>
    unfold newest? at h
    cases hn : newest? l with
    | none =>
      rw [hn] at h
      obtain rfl := Option.some.inj h
      exact List.mem_cons_self
    | some q =>
      rw [hn] at h
      simp only at h
      split at h
      · obtain rfl := Option.some.inj h
        exact List.mem_cons_self
      · obtain rfl := Option.some.inj h
        exact List.mem_cons_of_mem _ (ih hn)

theorem isLive_of_isPublicHold {team : TeamId} {o : StoredObjectId} {r : ReferenceRow} (h : isPublicHold team o r = true) :
    r.isLive = true := by
  unfold isPublicHold at h
  rw [Bool.and_eq_true] at h
  exact h.2

theorem newestPublicHold?_mem {team : TeamId} {o : StoredObjectId} {r : ReferenceRow}
    (h : s.newestPublicHold? team o = some r) : r ∈ s.references ∧ r.isLive = true := by
  obtain ⟨hr, hc⟩ := List.mem_filter.1 (newest?_mem h)
  exact ⟨hr, isLive_of_isPublicHold hc⟩

theorem holdsOwn_cancel_iff (hs : s.Orderly) (hown : s.HoldsOwn) {r : ReferenceRow} (hr : r ∈ s.references)
    (hlive : r.isLive = true) :
    ({ s with references := releaseWhere (fun q => q.reference == r.reference) now s.references } : UploadStore).HoldsOwn ↔
      r.uploadSession = none := by
  rw [holdsOwn_release_iff hs hown]
  constructor
  · exact fun h => h r hr hlive (beq_self_eq_true _)
  · intro hnone q hq _ hkey
    rw [eq_of_key hs.references hq hr (beq_iff_eq.1 hkey)]
    exact hnone

theorem cancel_ok {team : TeamId} {digest : Digest} {b : Bool} (h : s.cancel team digest now = .ok (b, s')) :
    ∃ o, s.liveObject? team digest = some o ∧
      (s.newestPublicHold? team o.storedObject = none ∧ s' = s ∨ ∃ r, s.newestPublicHold? team o.storedObject = some r ∧
        s' = { s with references := releaseWhere (fun q => q.reference == r.reference) now s.references }) := by
  unfold cancel at h
  obtain ⟨o, ho, h⟩ := bind_ok_iff.1 h
  rw [required_ok_iff] at ho
  refine ⟨o, ho, ?_⟩
  cases hn : s.newestPublicHold? team o.storedObject with
  | none =>
    rw [hn] at h
    exact .inl ⟨rfl, (Prod.mk.inj (pure_ok_iff.1 h)).2.symm⟩
  | some r =>
    rw [hn] at h
    exact .inr ⟨r, rfl, (Prod.mk.inj (pure_ok_iff.1 h)).2.symm⟩

theorem acceptSource_ok {team : TeamId} {snapshot : SnapshotId} {o : StoredObjectId} {reference : ReferenceId}
    (h : s.acceptSource team snapshot o reference now = .ok s') :
    s' = { s with references := releaseWhere (isPublicHold team o) now s.references } ∨
      (∀ q ∈ s.references, q.reference ≠ reference) ∧ s' = { s with
        references := releaseWhere (isPublicHold team o) now
          (s.references ++ [sourceReference team snapshot o reference now]) } := by
  unfold acceptSource at h
  obtain ⟨references, hreferences, h⟩ := bind_ok_iff.1 h
  obtain rfl := pure_ok_iff.1 h
  unfold referenceSource at hreferences
  split at hreferences
  · rw [← Except.ok.inj hreferences]
    exact .inl rfl
  · obtain ⟨hfresh, rfl⟩ := insertUnique_eq_ok_iff.1 hreferences
    exact .inr ⟨hfresh, rfl⟩

theorem acceptSource_isOk (team : TeamId) (snapshot : SnapshotId) (o : StoredObjectId) {reference : ReferenceId} (now : Time)
    (hdrawn : ∀ r ∈ s.references, r.reference ≠ reference) : ∃ s', s.acceptSource team snapshot o reference now = .ok s' := by
  unfold acceptSource referenceSource
  by_cases hex : s.references.any (isSourceReferenceOf team snapshot o) = true
  · rw [if_pos hex]
    exact ⟨_, rfl⟩
  · rw [if_neg hex, insertUnique_eq_ok_iff.2 ⟨hdrawn, rfl⟩]
    exact ⟨_, rfl⟩

theorem orderly_source (hs : s.Orderly) {team : TeamId} {snapshot : SnapshotId} {o : StoredObjectId} {reference : ReferenceId}
    (hfresh : ∀ q ∈ s.references, q.reference ≠ reference) :
    ({ s with references := s.references ++ [sourceReference team snapshot o reference now] } : UploadStore).Orderly :=
  orderly_append hs hfresh rfl fun _ he => OwnerId.noConfusion he

theorem holdsOwn_acceptSource_iff (hs : s.Orderly) (hown : s.HoldsOwn) {team : TeamId} {snapshot : SnapshotId}
    {o : StoredObjectId} {reference : ReferenceId} (h : s.acceptSource team snapshot o reference now = .ok s') :
    s'.HoldsOwn ↔ ∀ r ∈ s.references, isPublicHold team o r = true → r.uploadSession = none := by
  obtain rfl | ⟨hfresh, rfl⟩ := acceptSource_ok h
  · rw [holdsOwn_release_iff hs hown]
    exact ⟨fun h r hr hc => h r hr (isLive_of_isPublicHold hc) hc, fun h r hr _ hc => h r hr hc⟩
  · refine (holdsOwn_release_iff (orderly_source hs hfresh) (holdsOwn_append hown _)).trans ?_
    refine ⟨fun h r hr hc => h r (List.mem_append_left _ hr) (isLive_of_isPublicHold hc) hc, fun h r hr _ hc => ?_⟩
    rcases List.mem_append.1 hr with hr | hr
    · exact h r hr hc
    · rw [List.mem_singleton.1 hr]
      rfl

end UploadStore

end KnowledgeBase
