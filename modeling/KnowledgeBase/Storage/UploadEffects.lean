import KnowledgeBase.Storage.UploadSessions

/-!
# What upload operations do to sessions and holds

A live pending reference that names a session is the only one of that session, which is committed or reserved. The
operations update sessions by key and release references by a condition; what that leaves of the holds is said once.
-/

namespace KnowledgeBase

open Checked Relational Serving

namespace UploadStore

variable {s s' : UploadStore} {c : ReferenceRow → Bool} {d : UploadSessionRow → Bool}
  {f : UploadSessionRow → UploadSessionRow} {now : Time}

/-- The session has a live pending reference of its own. -/
def HasHold (s : UploadStore) (session : UploadSessionId) : Prop :=
  ∃ r ∈ s.references, r.isLive = true ∧ r.purpose = .uploadPending ∧ r.uploadSession = some session

/-- Every committed or reserved session has its hold. -/
def HoldsOwn (s : UploadStore) : Prop := ∀ q ∈ s.sessions, q.state.isHeld = true → s.HasHold q.session

/-- What the keys of the tables and the single writers keep. -/
structure Orderly (s : UploadStore) : Prop where
  sessions : (s.sessions.map UploadSessionRow.session).Nodup
  references : (s.references.map ReferenceRow.reference).Nodup
  purposes : ∀ r ∈ s.references, ∀ session, r.uploadSession = some session → r.purpose = .uploadPending
  held : ∀ r ∈ s.references, r.isLive = true → ∀ session, r.uploadSession = some session →
    ∃ q ∈ s.sessions, q.session = session ∧ q.state.isHeld = true
  single : ∀ r ∈ s.references, ∀ p ∈ s.references, r.isLive = true → p.isLive = true →
    ∀ session, r.uploadSession = some session → p.uploadSession = some session → r = p
  owners : ∀ r ∈ s.references, ∀ session, r.owner = .uploadSession session → ∃ q ∈ s.sessions, q.session = session

theorem orderly_empty : UploadStore.empty.Orderly :=
  ⟨List.nodup_nil, List.nodup_nil, fun _ hr => absurd hr List.not_mem_nil, fun _ hr => absurd hr List.not_mem_nil,
    fun _ hr => absurd hr List.not_mem_nil, fun _ hr => absurd hr List.not_mem_nil⟩

theorem holdsOwn_empty : UploadStore.empty.HoldsOwn := fun _ hq => absurd hq List.not_mem_nil

/-! ### releases -/

theorem exists_of_releaseWhere {l : List ReferenceRow} {r : ReferenceRow} (h : r ∈ releaseWhere c now l) :
    ∃ q ∈ l, r.reference = q.reference ∧ r.uploadSession = q.uploadSession ∧ r.purpose = q.purpose ∧ r.owner = q.owner := by
  obtain ⟨q, hq, rfl⟩ := mem_updateWhere.1 h
  refine ⟨q, hq, ?_⟩
  split
  · exact ⟨rfl, rfl, rfl, rfl⟩
  · exact ⟨rfl, rfl, rfl, rfl⟩

theorem mem_releaseWhere_of_not {l : List ReferenceRow} {r : ReferenceRow} (hr : r ∈ l) (hc : c r = false) :
    r ∈ releaseWhere c now l := by
  refine mem_updateWhere.2 ⟨r, hr, if_neg ?_⟩
  rw [hc]
  exact Bool.false_ne_true

theorem releaseWhere_false (l : List ReferenceRow) : releaseWhere (fun _ => false) now l = l :=
  updateWhere_of_forall fun _ _ => rfl

/-- The sessions after an update by the condition, the references after a release by the other. -/
def updated (d : UploadSessionRow → Bool) (f : UploadSessionRow → UploadSessionRow) (c : ReferenceRow → Bool) (now : Time)
    (s : UploadStore) : UploadStore :=
  { s with sessions := updateWhere d f s.sessions, references := releaseWhere c now s.references }

theorem orderly_updated (hs : s.Orderly) (hf : ∀ q, (f q).session = q.session)
    (hheld : ∀ r ∈ s.references, r.isLive = true → c r = false → ∀ q ∈ s.sessions, r.uploadSession = some q.session →
      d q = true → (f q).state.isHeld = true) : (s.updated d f c now).Orderly := by
  refine ⟨nodup_keys_updateWhere hf hs.sessions, nodup_keys_updateWhere (fun _ => rfl) hs.references, ?_, ?_, ?_, ?_⟩
  · intro r hr session hsession
    obtain ⟨q, hq, -, hqs, hqp, -⟩ := exists_of_releaseWhere hr
    rw [hqp]
    exact hs.purposes q hq session (hqs.symm.trans hsession)
  · intro r hr hlive session hsession
    obtain ⟨hr, hc⟩ := (mem_releaseWhere_iff hlive).1 hr
    obtain ⟨q, hq, hqs, hqh⟩ := hs.held r hr hlive session hsession
    refine ⟨_, mem_updateWhere_of_mem hq, ?_⟩
    split
    · rename_i hd
      exact ⟨(hf q).trans hqs, hheld r hr hlive hc q hq (hsession.trans (congrArg some hqs.symm)) hd⟩
    · exact ⟨hqs, hqh⟩
  · intro r hr p hp hrl hpl session hrs hps
    exact hs.single r ((mem_releaseWhere_iff hrl).1 hr).1 p ((mem_releaseWhere_iff hpl).1 hp).1 hrl hpl session hrs hps
  · intro r hr session howner
    obtain ⟨q, hq, -, -, -, hqo⟩ := exists_of_releaseWhere hr
    obtain ⟨p, hp, hps⟩ := hs.owners q hq session (hqo.symm.trans howner)
    refine ⟨_, mem_updateWhere_of_mem hp, ?_⟩
    split
    · exact (hf p).trans hps
    · exact hps

theorem holdsOwn_updated (hs : s.HoldsOwn) (hf : ∀ q, (f q).session = q.session)
    (hkept : ∀ q ∈ s.sessions, (if d q then f q else q).state.isHeld = true →
      q.state.isHeld = true ∧ ∀ r, r.purpose = .uploadPending → r.uploadSession = some q.session → c r = false) :
    (s.updated d f c now).HoldsOwn := by
  intro p hp hheld
  obtain ⟨q, hq, rfl⟩ := mem_updateWhere.1 hp
  obtain ⟨hqh, hnone⟩ := hkept q hq hheld
  obtain ⟨r, hr, hlive, hpurpose, hsession⟩ := hs q hq hqh
  have hkey : (if d q = true then f q else q).session = q.session := by
    split
    · exact hf q
    · rfl
  rw [hkey]
  exact ⟨r, (mem_releaseWhere_iff hlive).2 ⟨hr, hnone r hpurpose hsession⟩, hlive, hpurpose, hsession⟩

theorem holdsOwn_release_iff (hs : s.Orderly) (hown : s.HoldsOwn) :
    ({ s with references := releaseWhere c now s.references } : UploadStore).HoldsOwn ↔
      ∀ r ∈ s.references, r.isLive = true → c r = true → r.uploadSession = none := by
  constructor
  · intro h r hr hlive hc
    cases hsession : r.uploadSession with
    | none => rfl
    | some session =>
      exfalso
      obtain ⟨q, hq, rfl, hheld⟩ := hs.held r hr hlive session hsession
      obtain ⟨p, hp, hpl, -, hps⟩ := h q hq hheld
      obtain ⟨hp, hpc⟩ := (mem_releaseWhere_iff hpl).1 hp
      rw [hs.single r hr p hp hlive hpl q.session hsession hps] at hc
      exact Bool.false_ne_true (hpc.symm.trans hc)
  · intro hnone q hq hheld
    obtain ⟨r, hr, hlive, hpurpose, hsession⟩ := hown q hq hheld
    refine ⟨r, (mem_releaseWhere_iff hlive).2 ⟨hr, Bool.eq_false_iff.2 fun hc => ?_⟩, hlive, hpurpose, hsession⟩
    rw [hnone r hr hlive hc] at hsession
    cases hsession

theorem orderly_release (hs : s.Orderly) (c : ReferenceRow → Bool) (now : Time) :
    ({ s with references := releaseWhere c now s.references } : UploadStore).Orderly := by
  have h : (s.updated (fun _ => false) id c now).Orderly :=
    orderly_updated hs (fun _ => rfl) fun _ _ _ _ _ _ _ hd => absurd hd Bool.false_ne_true
  unfold updated at h
  rwa [updateWhere_of_forall fun _ _ => rfl] at h

/-! ### further references -/

theorem orderly_append (hs : s.Orderly) {r : ReferenceRow} (hfresh : ∀ q ∈ s.references, q.reference ≠ r.reference)
    (hsession : r.uploadSession = none) (howner : ∀ session, r.owner ≠ .uploadSession session) :
    ({ s with references := s.references ++ [r] } : UploadStore).Orderly := by
  have hof {q : ReferenceRow} {session : UploadSessionId} (hq : q ∈ s.references ++ [r]) (h : q.uploadSession = some session) :
      q ∈ s.references := by
    rcases List.mem_append.1 hq with hq | hq
    · exact hq
    · rw [List.mem_singleton.1 hq, hsession] at h
      cases h
  refine ⟨hs.sessions, nodup_keys_append hs.references hfresh, ?_, ?_, ?_, ?_⟩
  · intro q hq session h
    exact hs.purposes q (hof hq h) session h
  · intro q hq hlive session h
    exact hs.held q (hof hq h) hlive session h
  · intro q hq p hp hql hpl session hqs hps
    exact hs.single q (hof hq hqs) p (hof hp hps) hql hpl session hqs hps
  · intro q hq session h
    rcases List.mem_append.1 hq with hq | hq
    · exact hs.owners q hq session h
    · rw [List.mem_singleton.1 hq] at h
      exact absurd h (howner session)

theorem holdsOwn_append (hs : s.HoldsOwn) (r : ReferenceRow) :
    ({ s with references := s.references ++ [r] } : UploadStore).HoldsOwn := by
  intro q hq hheld
  obtain ⟨p, hp, h⟩ := hs q hq hheld
  exact ⟨p, List.mem_append_left _ hp, h⟩

/-! ### a new session -/

/-- A committed upload that opened a session. -/
structure Opened (c : UploadCommand) (key : IdempotencyKey) (o : StoredObjectId) (pending : ReferenceRow)
    (record : ObjectUploadRecord) (s s' : UploadStore) : Prop where
  fresh : ∀ q ∈ s.sessions, q.session ≠ c.session
  found : (insertOrIgnore (referenceClash (pendingHold c o)) (pendingHold c o) s.references).find?
    (isPendingOf c.team o (pendingHold c o).owner) = some pending
  token : record.sessionToken = if c.idempotencyKey.isSome then some ⟨c.team, key, c.session⟩ else none
  state : s' = ⟨catalogObject c s.stored,
    s.sessions ++ [UploadSessionRow.commit pending.reference (promotedSession c key o)],
    insertOrIgnore (referenceClash (pendingHold c o)) (pendingHold c o) s.references⟩

theorem openSession_ok {c : UploadCommand} {key : IdempotencyKey} {record : ObjectUploadRecord}
    (h : s.openSession c key = .ok (record, s')) : ∃ o pending, Opened c key o pending record s s' := by
  unfold openSession at h
  obtain ⟨o, -, h⟩ := bind_ok_iff.1 h
  obtain ⟨_, hfresh, h⟩ := bind_ok_iff.1 h
  obtain ⟨pending, hpending, h⟩ := bind_ok_iff.1 h
  rw [failIf_ok_iff, List.any_eq_false] at hfresh
  rw [required_ok_iff] at hpending
  have hnew (q : UploadSessionRow) (hq : q ∈ s.sessions) : q.session ≠ c.session := by
    intro he
    have hq' := hfresh q hq
    unfold sessionClash at hq'
    simp only [Bool.or_eq_true, beq_iff_eq, not_or] at hq'
    exact hq'.1 he
  have hcommit : updateWhere (fun q => q.session == c.session && q.state == .promoted)
      (UploadSessionRow.commit pending.reference) (s.sessions ++ [promotedSession c key o]) =
        s.sessions ++ [UploadSessionRow.commit pending.reference (promotedSession c key o)] := by
    unfold updateWhere
    rw [List.map_append]
    refine congrArg₂ _ (updateWhere_of_forall fun q hq => ?_) ?_
    · rw [beq_eq_false_iff_ne.2 (hnew q hq)]
      rfl
    · show [if (c.session == c.session && true) = true then _ else _] = _
      rw [beq_self_eq_true]
      rfl
  obtain ⟨rfl, rfl⟩ := Prod.mk.inj (pure_ok_iff.1 h)
  refine ⟨o, pending, hnew, hpending, rfl, ?_⟩
  rw [hcommit]

theorem Opened.inserted {c : UploadCommand} {key : IdempotencyKey} {o : StoredObjectId} {pending : ReferenceRow}
    {record : ObjectUploadRecord} (h : Opened c key o pending record s s') (hs : s.Orderly)
    (hdrawn : ∀ r ∈ s.references, r.owner ≠ .other c.owner) :
    s'.references = s.references ++ [pendingHold c o] ∧ ∀ q ∈ s.references, q.reference ≠ c.reference := by
  rw [h.state]
  show insertOrIgnore _ _ _ = _ ∧ _
  have hfound := h.found
  unfold insertOrIgnore at hfound ⊢
  split at hfound
  · -- an older row cannot be of the owner
    exfalso
    have hmem := List.mem_of_find?_eq_some hfound
    have hprop := List.find?_some hfound
    unfold isPendingOf at hprop
    simp only [Bool.and_eq_true, beq_iff_eq] at hprop
    have howner := hprop.1.2
    unfold pendingHold at howner
    cases hkey : c.idempotencyKey.isSome with
    | true =>
      rw [hkey] at howner
      obtain ⟨q, hq, hqs⟩ := hs.owners pending hmem c.session howner
      exact h.fresh q hq hqs
    | false =>
      rw [hkey] at howner
      exact hdrawn pending hmem howner
  · rename_i hclash
    refine ⟨if_neg hclash, fun q hq he => hclash (List.any_eq_true.2 ⟨q, hq, ?_⟩)⟩
    unfold referenceClash
    rw [show (q.reference == (pendingHold c o).reference) = true from beq_iff_eq.2 he]
    rfl

theorem Opened.orderly {c : UploadCommand} {key : IdempotencyKey} {o : StoredObjectId} {pending : ReferenceRow}
    {record : ObjectUploadRecord} (h : Opened c key o pending record s s') (hs : s.Orderly)
    (hdrawn : ∀ r ∈ s.references, r.owner ≠ .other c.owner) : s'.Orderly := by
  obtain ⟨hreferences, hfresh⟩ := h.inserted hs hdrawn
  have hsessions : s'.sessions = s.sessions ++ [UploadSessionRow.commit pending.reference (promotedSession c key o)] := by
    rw [h.state]
  have hnone {r : ReferenceRow} (hr : r ∈ s.references) (hlive : r.isLive = true) : r.uploadSession ≠ some c.session := by
    intro he
    obtain ⟨q, hq, hqs, -⟩ := hs.held r hr hlive _ he
    exact h.fresh q hq hqs
  refine ⟨?_, ?_, ?_, ?_, ?_, ?_⟩
  · rw [hsessions]
    exact nodup_keys_append hs.sessions h.fresh
  · rw [hreferences]
    exact nodup_keys_append hs.references hfresh
  · rw [hreferences]
    intro r hr session hsession
    rcases List.mem_append.1 hr with hr | hr
    · exact hs.purposes r hr session hsession
    · rw [List.mem_singleton.1 hr]
      rfl
  · rw [hreferences, hsessions]
    intro r hr hlive session hsession
    rcases List.mem_append.1 hr with hr | hr
    · obtain ⟨q, hq, hqs⟩ := hs.held r hr hlive session hsession
      exact ⟨q, List.mem_append_left _ hq, hqs⟩
    · rw [List.mem_singleton.1 hr] at hsession
      exact ⟨_, List.mem_append_right _ List.mem_cons_self, Option.some.inj hsession, rfl⟩
  · rw [hreferences]
    intro r hr p hp hrl hpl session hrs hps
    rcases List.mem_append.1 hr with hr | hr
    · rcases List.mem_append.1 hp with hp | hp
      · exact hs.single r hr p hp hrl hpl session hrs hps
      · rw [List.mem_singleton.1 hp] at hps
        exact absurd (hrs.trans hps.symm) (hnone hr hrl)
    · rcases List.mem_append.1 hp with hp | hp
      · rw [List.mem_singleton.1 hr] at hrs
        exact absurd (hps.trans hrs.symm) (hnone hp hpl)
      · rw [List.mem_singleton.1 hr, List.mem_singleton.1 hp]
  · rw [hreferences, hsessions]
    intro r hr session howner
    rcases List.mem_append.1 hr with hr | hr
    · obtain ⟨q, hq, hqs⟩ := hs.owners r hr session howner
      exact ⟨q, List.mem_append_left _ hq, hqs⟩
    · rw [List.mem_singleton.1 hr] at howner
      refine ⟨_, List.mem_append_right _ List.mem_cons_self, ?_⟩
      unfold pendingHold at howner
      cases hkey : c.idempotencyKey.isSome with
      | true =>
        rw [hkey] at howner
        exact OwnerId.uploadSession.inj howner
      | false =>
        rw [hkey] at howner
        cases howner

theorem Opened.hasHold {c : UploadCommand} {key : IdempotencyKey} {o : StoredObjectId} {pending : ReferenceRow}
    {record : ObjectUploadRecord} (h : Opened c key o pending record s s') (hs : s.Orderly)
    (hdrawn : ∀ r ∈ s.references, r.owner ≠ .other c.owner) : s'.HasHold c.session := by
  refine ⟨pendingHold c o, ?_, rfl, rfl, rfl⟩
  rw [(h.inserted hs hdrawn).1]
  exact List.mem_append_right _ List.mem_cons_self

theorem Opened.holdsOwn {c : UploadCommand} {key : IdempotencyKey} {o : StoredObjectId} {pending : ReferenceRow}
    {record : ObjectUploadRecord} (h : Opened c key o pending record s s') (hs : s.Orderly) (hown : s.HoldsOwn)
    (hdrawn : ∀ r ∈ s.references, r.owner ≠ .other c.owner) : s'.HoldsOwn := by
  have hsessions : s'.sessions = s.sessions ++ [UploadSessionRow.commit pending.reference (promotedSession c key o)] := by
    rw [h.state]
  intro q hq hheld
  rw [hsessions] at hq
  rcases List.mem_append.1 hq with hq | hq
  · obtain ⟨r, hr, hprop⟩ := hown q hq hheld
    refine ⟨r, ?_, hprop⟩
    rw [(h.inserted hs hdrawn).1]
    exact List.mem_append_left _ hr
  · rw [List.mem_singleton.1 hq]
    exact h.hasHold hs hdrawn

/-! ### uploads -/

/-- A replay: the key is found with the same bytes and a live catalog row. -/
structure Replayed (c : UploadCommand) (e : UploadSessionRow) (s : UploadStore) : Prop where
  found : s.sessions.find? (fun q => q.team == c.team && q.idempotencyKey == c.effectiveKey) = some e
  bytes : e.digest = c.digest ∧ e.size = c.size
  stored : ((s.storedRow? c.team e.storedObject).filter (·.tombstonedAt.isNone)).isSome = true

theorem upload_ok {c : UploadCommand} {record : ObjectUploadRecord} (h : s.upload c = .ok (record, s')) :
    (∃ key o pending, Opened c key o pending record s s') ∨
      (∃ e, Replayed c e s ∧ s' = s ∧ c.idempotencyKey.isSome = true ∧ record.sessionToken = some e.token) ∨
      ∃ o, c.idempotencyKey = none ∧ record.sessionToken = none ∧ (∀ q ∈ s.references, q.reference ≠ c.reference) ∧
        s' = { s with references := s.references ++ [extraHold c o] } := by
  unfold upload at h
  obtain ⟨_, -, h⟩ := bind_ok_iff.1 h
  split at h
  · obtain ⟨o, pending, hopened⟩ := openSession_ok h
    exact .inl ⟨_, o, pending, hopened⟩
  · rename_i e he
    obtain ⟨_, hbytes, h⟩ := bind_ok_iff.1 h
    rw [failIf_ok_iff] at hbytes
    simp only [Bool.or_eq_false_iff, bne_eq_false_iff_eq] at hbytes
    split at h
    · rename_i o ho
      have hreplayed : Replayed c e s := by
        refine ⟨he, hbytes, ?_⟩
        rw [ho]
        rfl
      unfold replaySession at h
      split at h
      · rename_i hexplicit
        obtain ⟨rfl, rfl⟩ := Prod.mk.inj (Except.ok.inj h)
        exact .inr (.inl ⟨e, hreplayed, rfl, hexplicit, rfl⟩)
      · rename_i hlegacy
        obtain ⟨_, hclash, h⟩ := bind_ok_iff.1 h
        rw [failIf_ok_iff, List.any_eq_false] at hclash
        obtain ⟨rfl, rfl⟩ := Prod.mk.inj (pure_ok_iff.1 h)
        refine .inr (.inr ⟨o.storedObject, ?_, rfl, fun q hq hr => ?_, rfl⟩)
        · cases hc : c.idempotencyKey with
          | none => rfl
          | some key =>
            rw [hc] at hlegacy
            exact absurd rfl hlegacy
        · refine hclash q hq ?_
          unfold referenceClash
          rw [show (q.reference == (extraHold c o.storedObject).reference) = true from beq_iff_eq.2 hr]
          rfl
    · split at h
      · cases h
      · obtain ⟨o, pending, hopened⟩ := openSession_ok h
        exact .inl ⟨_, o, pending, hopened⟩

/-- A replay with an explicit key returns the token of the session found, whatever its state. -/
theorem upload_replayed {c : UploadCommand} {e : UploadSessionRow} (hc : c.idempotencyKey.isSome = true)
    (hblank : c.idempotencyKey ≠ some .blank) (h : Replayed c e s) : ∃ o, s.upload c = .ok (⟨o, true, some e.token⟩, s) := by
  obtain ⟨o, ho⟩ := Option.isSome_iff_exists.1 h.stored
  refine ⟨o.storedObject, ?_⟩
  unfold upload
  refine bind_ok_iff.2 ⟨(), failIf_ok_iff.2 (beq_eq_false_iff_ne.2 hblank), ?_⟩
  rw [h.found]
  refine bind_ok_iff.2 ⟨(), failIf_ok_iff.2 ?_, ?_⟩
  · rw [h.bytes.1, h.bytes.2]
    simp
  · simp only [ho]
    unfold replaySession
    exact if_pos hc

end UploadStore

end KnowledgeBase
