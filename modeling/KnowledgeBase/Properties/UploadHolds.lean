import KnowledgeBase.Storage.UploadRuns

/-!
# Upload sessions and their holds

When every committed or reserved session keeps its own pending reference over a run, and a replay with an explicit key
returns no session without one; terminal sessions never change, and a session is reserved and consumed at most once.
-/

namespace KnowledgeBase

open Checked Relational Serving UploadStore

/-! ### the property and the condition -/

/-- The uuids the step draws for an owner or a reference are in no reference. -/
def UploadStep.IsDrawn (s : UploadStore) : UploadStep → Prop
  | .upload c => ∀ r ∈ s.references, r.owner ≠ .other c.owner
  | .acceptSource _ _ _ reference _ => ∀ r ∈ s.references, r.reference ≠ reference
  | _ => True

/-- An operation on one session leaves the others and their references. -/
def UploadStep.SparesOthers (s s' : UploadStore) : UploadStep → Prop
  | .upload _ => (∀ q ∈ s.sessions, q ∈ s'.sessions) ∧ ∀ r ∈ s.references, r ∈ s'.references
  | .reserveSession _ token _ _ | .consumeSession _ token _ | .cancelSession _ token _ =>
    (∀ q ∈ s.sessions, q.session ≠ token.session → q ∈ s'.sessions) ∧
      ∀ r ∈ s.references, r.uploadSession ≠ some token.session → r ∈ s'.references
  | _ => True

/-- A token returned for an explicit key is of a session with its hold. -/
def UploadStep.ReturnsHeld (s : UploadStore) : UploadStep → Prop
  | .upload c => c.idempotencyKey.isSome = true → ∀ record s', s.upload c = .ok (record, s') →
    ∀ token, record.sessionToken = some token → s'.HasHold token.session
  | _ => True

structure UploadStep.KeepsSessions (s s' : UploadStore) (t : UploadStep) : Prop where
  holds : s'.HoldsOwn
  absorbing : ∀ q ∈ s.sessions, q.state.isTerminal = true → q ∈ s'.sessions
  others : t.SparesOthers s s'
  tokens : t.ReturnsHeld s

/-- The step loses no hold: a replay under an explicit key finds its session committed or reserved, a cancelled session is
not reserved, and the references selected by the object belong to no session. -/
def UploadStep.LosesNoHold (s : UploadStore) : UploadStep → Prop
  | .upload c => c.idempotencyKey.isSome = true → c.idempotencyKey ≠ some .blank → ∀ e, Replayed c e s → e.state.isHeld = true
  | .cancelSession team token _ => ∀ e, s.session? team token = some e → e.state ≠ .reserved
  | .cancel team digest _ => ∀ o, s.liveObject? team digest = some o →
    ∀ r, s.newestPublicHold? team o.storedObject = some r → r.uploadSession = none
  | .acceptSource team _ o _ _ => ∀ r ∈ s.references, isPublicHold team o r = true → r.uploadSession = none
  | _ => True

namespace UploadStore

variable {s s' : UploadStore} {now : Time}

/-! ### every step -/

theorem orderly_transact (hs : s.Orderly) {t : UploadStep} (hdrawn : t.IsDrawn s) (h : t.transact s = .ok s') : s'.Orderly := by
  cases t with
  | upload c =>
    obtain ⟨⟨record, x⟩, hupload, rfl⟩ := map_eq_ok h
    obtain ⟨key, o, pending, hopened⟩ | ⟨e, -, hsame, -⟩ | ⟨o, -, -, hfresh, hstate⟩ := upload_ok hupload
    · exact hopened.orderly hs hdrawn
    · show x.Orderly
      rw [hsame]
      exact hs
    · show x.Orderly
      rw [hstate]
      exact orderly_append hs hfresh rfl fun _ he => OwnerId.noConfusion he
  | reserveSession team token task generation =>
    obtain ⟨⟨b, x⟩, hreserve, rfl⟩ := map_eq_ok h
    obtain ⟨e, -, -, rfl⟩ := reserveSession_ok hreserve
    exact orderly_updated hs (fun _ => rfl) fun _ _ _ _ _ _ _ _ => rfl
  | consumeSession team token now =>
    obtain ⟨⟨b, x⟩, hconsume, rfl⟩ := map_eq_ok h
    obtain ⟨-, rfl⟩ | ⟨e, -, -, -, rfl⟩ := consumeSession_ok hconsume
    · exact hs
    · exact orderly_finish hs _ fun q hq => beq_iff_eq.1 (Bool.and_eq_true _ _ ▸ hq : _ ∧ _).1
  | cancelSession team token now =>
    obtain ⟨⟨b, x⟩, hcancel, rfl⟩ := map_eq_ok h
    obtain ⟨e, -, rfl⟩ := cancelSession_ok hcancel
    exact orderly_finish hs _ fun q hq => beq_iff_eq.1 (Bool.and_eq_true _ _ ▸ hq : _ ∧ _).1
  | cancel team digest now =>
    obtain ⟨⟨b, x⟩, hcancel, rfl⟩ := map_eq_ok h
    obtain ⟨o, -, ⟨-, rfl⟩ | ⟨r, -, rfl⟩⟩ := cancel_ok hcancel
    · exact hs
    · exact orderly_release hs _ now
  | scanOnce limit cutoff now =>
    obtain rfl := Except.ok.inj h
    exact orderly_scan _ hs fun r hr => scanReady_expiredHolds hs hr
  | acceptSource team snapshot o reference now =>
    obtain rfl | ⟨hfresh, rfl⟩ := acceptSource_ok h
    · exact orderly_release hs _ now
    · exact orderly_release (orderly_source hs hfresh) _ now
  | tombstone team o now =>
    obtain ⟨_, -, h⟩ := bind_ok_iff.1 h
    rw [← pure_ok_iff.1 h]
    exact ⟨hs.sessions, hs.references, hs.purposes, hs.held, hs.single, hs.owners⟩

theorem orderly_step (hs : s.Orderly) {t : UploadStep} (hdrawn : t.IsDrawn s) : (uploadStep s t).Orderly := by
  obtain h | h := uploadStep_cases (s := s) (t := t)
  · rw [h]
    exact hs
  · exact orderly_transact hs hdrawn h

theorem follows_transact {t : UploadStep} (h : t.transact s = .ok s') : s.Follows s' := by
  cases t with
  | upload c =>
    obtain ⟨⟨record, x⟩, hupload, rfl⟩ := map_eq_ok h
    obtain ⟨key, o, pending, hopened⟩ | ⟨e, -, hsame, -⟩ | ⟨o, -, -, hfresh, hstate⟩ := upload_ok hupload
    · intro q hq
      refine ⟨q, ?_, rfl, fun _ => rfl, id⟩
      rw [hopened.state]
      exact List.mem_append_left _ hq
    · refine .of_eq ?_
      show x.sessions = s.sessions
      rw [hsame]
    · refine .of_eq ?_
      show x.sessions = s.sessions
      rw [hstate]
  | reserveSession team token task generation =>
    obtain ⟨⟨b, x⟩, hreserve, rfl⟩ := map_eq_ok h
    obtain ⟨e, -, -, rfl⟩ := reserveSession_ok hreserve
    refine Follows.of_update rfl (fun _ => rfl) fun q hq => ?_
    simp only [Bool.and_eq_true, beq_iff_eq] at hq
    rw [hq.2]
    exact ⟨rfl, rfl⟩
  | consumeSession team token now =>
    obtain ⟨⟨b, x⟩, hconsume, rfl⟩ := map_eq_ok h
    obtain ⟨-, rfl⟩ | ⟨e, -, -, -, rfl⟩ := consumeSession_ok hconsume
    · exact .of_eq rfl
    · refine Follows.of_update rfl (fun _ => rfl) fun q hq => ?_
      simp only [Bool.and_eq_true, beq_iff_eq] at hq
      rw [hq.2]
      exact ⟨rfl, rfl⟩
  | cancelSession team token now =>
    obtain ⟨⟨b, x⟩, hcancel, rfl⟩ := map_eq_ok h
    obtain ⟨e, -, rfl⟩ := cancelSession_ok hcancel
    refine Follows.of_update rfl (fun _ => rfl) fun q hq => ?_
    rw [Bool.and_eq_true] at hq
    exact ⟨not_terminal_of_isOpen hq.2, rfl⟩
  | cancel team digest now =>
    obtain ⟨⟨b, x⟩, hcancel, rfl⟩ := map_eq_ok h
    obtain ⟨o, -, ⟨-, rfl⟩ | ⟨r, -, rfl⟩⟩ := cancel_ok hcancel
    · exact .of_eq rfl
    · exact .of_eq rfl
  | scanOnce limit cutoff now =>
    obtain rfl := Except.ok.inj h
    exact follows_scan _ s
  | acceptSource team snapshot o reference now =>
    obtain rfl | ⟨-, rfl⟩ := acceptSource_ok h
    · exact .of_eq rfl
    · exact .of_eq rfl
  | tombstone team o now =>
    obtain ⟨_, -, h⟩ := bind_ok_iff.1 h
    rw [← pure_ok_iff.1 h]
    exact .of_eq rfl

theorem follows_step (s : UploadStore) (t : UploadStep) : s.Follows (uploadStep s t) := by
  obtain h | h := uploadStep_cases (s := s) (t := t)
  · exact .of_eq (congrArg _ h)
  · exact follows_transact h

theorem spares_step (s : UploadStore) (t : UploadStep) : t.SparesOthers s (uploadStep s t) := by
  obtain h | h := uploadStep_cases (s := s) (t := t)
  · rw [h]
    cases t with
    | upload c => exact ⟨fun _ hq => hq, fun _ hr => hr⟩
    | reserveSession team token task generation => exact ⟨fun _ hq _ => hq, fun _ hr _ => hr⟩
    | consumeSession team token now => exact ⟨fun _ hq _ => hq, fun _ hr _ => hr⟩
    | cancelSession team token now => exact ⟨fun _ hq _ => hq, fun _ hr _ => hr⟩
    | _ => trivial
  · generalize uploadStep s t = s' at h
    cases t with
    | upload c =>
      obtain ⟨⟨record, x⟩, hupload, rfl⟩ := map_eq_ok h
      obtain ⟨key, o, pending, hopened⟩ | ⟨e, -, hsame, -⟩ | ⟨o, -, -, -, hstate⟩ := upload_ok hupload
      · refine ⟨fun q hq => ?_, fun r hr => ?_⟩
        · show q ∈ x.sessions
          rw [hopened.state]
          exact List.mem_append_left _ hq
        · show r ∈ x.references
          rw [hopened.state]
          exact subset_insertOrIgnore hr
      · show (∀ q ∈ s.sessions, q ∈ x.sessions) ∧ ∀ r ∈ s.references, r ∈ x.references
        rw [hsame]
        exact ⟨fun _ hq => hq, fun _ hr => hr⟩
      · show (∀ q ∈ s.sessions, q ∈ x.sessions) ∧ ∀ r ∈ s.references, r ∈ x.references
        rw [hstate]
        exact ⟨fun _ hq => hq, fun _ hr => List.mem_append_left _ hr⟩
    | reserveSession team token task generation =>
      obtain ⟨⟨b, x⟩, hreserve, rfl⟩ := map_eq_ok h
      obtain ⟨e, he, -, rfl⟩ := reserveSession_ok hreserve
      refine spares_updated (fun q hq => ?_) fun _ hr => absurd hr Bool.false_ne_true
      simp only [Bool.and_eq_true, beq_iff_eq] at hq
      exact hq.1.trans (session?_eq he).2
    | consumeSession team token now =>
      obtain ⟨⟨b, x⟩, hconsume, rfl⟩ := map_eq_ok h
      obtain ⟨-, rfl⟩ | ⟨e, he, -, -, rfl⟩ := consumeSession_ok hconsume
      · exact ⟨fun _ hq _ => hq, fun _ hr _ => hr⟩
      · refine spares_updated (fun q hq => ?_) fun r hr => ?_
        · simp only [Bool.and_eq_true, beq_iff_eq] at hq
          exact hq.1.trans (session?_eq he).2
        · rw [session_of_isSessionHold hr, (session?_eq he).2]
    | cancelSession team token now =>
      obtain ⟨⟨b, x⟩, hcancel, rfl⟩ := map_eq_ok h
      obtain ⟨e, he, rfl⟩ := cancelSession_ok hcancel
      refine spares_updated (fun q hq => ?_) fun r hr => ?_
      · rw [Bool.and_eq_true, beq_iff_eq] at hq
        exact hq.1.trans (session?_eq he).2
      · rw [session_of_isSessionHold hr, (session?_eq he).2]
    | _ => trivial

/-! ### the step that loses no hold -/

theorem holdsOwn_upload (hs : s.Orderly) (hown : s.HoldsOwn) {c : UploadCommand}
    (hdrawn : (UploadStep.upload c).IsDrawn s) : (uploadStep s (.upload c)).HoldsOwn := by
  obtain h | h := uploadStep_cases (s := s) (t := .upload c)
  · rw [h]
    exact hown
  · obtain ⟨⟨record, x⟩, hupload, hx⟩ := map_eq_ok h
    rw [← hx]
    obtain ⟨key, o, pending, hopened⟩ | ⟨e, -, hsame, -⟩ | ⟨o, -, -, -, hstate⟩ := upload_ok hupload
    · exact hopened.holdsOwn hs hown hdrawn
    · show x.HoldsOwn
      rw [hsame]
      exact hown
    · show x.HoldsOwn
      rw [hstate]
      exact holdsOwn_append hown _

/-- An upload returns a held session exactly if the session it replays is committed or reserved. -/
theorem holdsOwn_upload_iff (hs : s.Orderly) (hown : s.HoldsOwn) {c : UploadCommand}
    (hdrawn : (UploadStep.upload c).IsDrawn s) :
    (uploadStep s (.upload c)).HoldsOwn ∧ (UploadStep.upload c).ReturnsHeld s ↔ (UploadStep.upload c).LosesNoHold s := by
  constructor
  · rintro ⟨-, hreturns⟩ hexplicit hblank e he
    obtain ⟨o, hupload⟩ := upload_replayed hexplicit hblank he
    obtain ⟨r, hr, hlive, -, hsession⟩ := hreturns hexplicit _ _ hupload _ rfl
    obtain ⟨q, hq, hqs, hheld⟩ := hs.held r hr hlive _ hsession
    rwa [eq_of_key hs.sessions hq (List.mem_of_find?_eq_some he.found) hqs] at hheld
  · intro hcond
    refine ⟨holdsOwn_upload hs hown hdrawn, fun hexplicit record x hupload token htoken => ?_⟩
    obtain ⟨key, o, pending, hopened⟩ | ⟨e, he, hsame, -, hrecord⟩ | ⟨o, hnone, -⟩ := upload_ok hupload
    · rw [hopened.token, if_pos hexplicit] at htoken
      rw [← Option.some.inj htoken]
      exact hopened.hasHold hs hdrawn
    · rw [hrecord] at htoken
      rw [← Option.some.inj htoken, hsame]
      have hblank : c.idempotencyKey ≠ some .blank := by
        intro hb
        unfold upload at hupload
        obtain ⟨_, hnot, -⟩ := bind_ok_iff.1 hupload
        rw [failIf_ok_iff, hb] at hnot
        cases hnot
      exact hown e (List.mem_of_find?_eq_some he.found) (hcond hexplicit hblank e he)
    · rw [hnone] at hexplicit
      cases hexplicit

theorem holdsOwn_reserve (hown : s.HoldsOwn) (team : TeamId) (token : SessionToken) (task : TaskId) (generation : Nat) :
    (uploadStep s (.reserveSession team token task generation)).HoldsOwn := by
  obtain h | h := uploadStep_cases (s := s) (t := .reserveSession team token task generation)
  · rw [h]
    exact hown
  · obtain ⟨⟨b, x⟩, hreserve, hx⟩ := map_eq_ok h
    rw [← hx]
    obtain ⟨e, -, -, rfl⟩ := reserveSession_ok hreserve
    refine holdsOwn_updated hown (fun _ => rfl) fun q _ hheld => ⟨?_, fun _ _ _ => rfl⟩
    split at hheld
    · rename_i hd
      simp only [Bool.and_eq_true, beq_iff_eq] at hd
      rw [hd.2]
      rfl
    · exact hheld

theorem holdsOwn_consume (hs : s.Orderly) (hown : s.HoldsOwn) (team : TeamId) (token : SessionToken) (now : Time) :
    (uploadStep s (.consumeSession team token now)).HoldsOwn := by
  obtain h | h := uploadStep_cases (s := s) (t := .consumeSession team token now)
  · rw [h]
    exact hown
  · obtain ⟨⟨b, x⟩, hconsume, hx⟩ := map_eq_ok h
    rw [← hx]
    obtain ⟨-, rfl⟩ | ⟨e, -, -, hcount, rfl⟩ := consumeSession_ok hconsume
    · exact hown
    · exact holdsOwn_consumeSession hs hown hcount

theorem holdsOwn_cancelToken_iff (hs : s.Orderly) (hown : s.HoldsOwn) (team : TeamId) (token : SessionToken)
    (now : Time) : (uploadStep s (.cancelSession team token now)).HoldsOwn ∧
      (UploadStep.cancelSession team token now).ReturnsHeld s ↔
        (UploadStep.cancelSession team token now).LosesNoHold s := by
  cases he : s.session? team token with
  | none =>
    have herror : UploadStep.transact s (.cancelSession team token now) = .error sessionNotFound := by
      show (s.cancelSession team token now).map Prod.snd = _
      unfold cancelSession
      rw [he]
      rfl
    rw [uploadStep_of_error herror]
    refine iff_of_true ⟨hown, trivial⟩ fun e h => ?_
    rw [he] at h
    cases h
  | some e =>
    have hok : ∃ b, s.cancelSession team token now = .ok (b, s.updated (fun q => q.session == e.session && q.state.isOpen)
        (UploadSessionRow.finish .cancelled now) (isSessionHold e.session) now) := by
      unfold cancelSession
      rw [he]
      exact ⟨_, rfl⟩
    obtain ⟨b, hok⟩ := hok
    have hstep : UploadStep.transact s (.cancelSession team token now) = .ok (s.updated
        (fun q => q.session == e.session && q.state.isOpen) (UploadSessionRow.finish .cancelled now)
        (isSessionHold e.session) now) := by
      show (s.cancelSession team token now).map Prod.snd = _
      rw [hok]
      rfl
    rw [uploadStep_of_ok hstep]
    refine (and_iff_left trivial).trans ((holdsOwn_cancelSession_iff hs hown (session?_eq he).1).trans ?_)
    refine ⟨fun hne x hx => ?_, fun h => h e he⟩
    rw [he] at hx
    rwa [← Option.some.inj hx]

theorem holdsOwn_cancelDigest_iff (hs : s.Orderly) (hown : s.HoldsOwn) (team : TeamId) (digest : Digest) (now : Time) :
    (uploadStep s (.cancel team digest now)).HoldsOwn ↔ (UploadStep.cancel team digest now).LosesNoHold s := by
  cases ho : s.liveObject? team digest with
  | none =>
    have herror : UploadStep.transact s (.cancel team digest now) =
        .error (notFoundError "OBJECT_NOT_FOUND" "Object was not found") := by
      show (s.cancel team digest now).map Prod.snd = _
      unfold cancel
      rw [ho]
      rfl
    rw [uploadStep_of_error herror]
    refine iff_of_true hown fun o h => ?_
    rw [ho] at h
    cases h
  | some o =>
    cases hr : s.newestPublicHold? team o.storedObject with
    | none =>
      have hok : UploadStep.transact s (.cancel team digest now) = .ok s := by
        show (s.cancel team digest now).map Prod.snd = _
        simp only [UploadStore.cancel, ho, required, bind, Except.bind, hr]
        rfl
      rw [uploadStep_of_ok hok]
      refine iff_of_true hown fun x hx r h => ?_
      rw [ho] at hx
      rw [← Option.some.inj hx, hr] at h
      cases h
    | some r =>
      have hok : UploadStep.transact s (.cancel team digest now) =
          .ok { s with references := releaseWhere (fun q => q.reference == r.reference) now s.references } := by
        show (s.cancel team digest now).map Prod.snd = _
        simp only [UploadStore.cancel, ho, required, bind, Except.bind, hr]
        rfl
      rw [uploadStep_of_ok hok]
      obtain ⟨hmem, hlive⟩ := newestPublicHold?_mem hr
      refine (holdsOwn_cancel_iff hs hown hmem hlive).trans ⟨fun hnone x hx p hp => ?_, fun h => h o ho r hr⟩
      rw [ho] at hx
      rw [← Option.some.inj hx, hr] at hp
      rwa [← Option.some.inj hp]

theorem holdsOwn_step_iff (hs : s.Orderly) (hown : s.HoldsOwn) {t : UploadStep} (hdrawn : t.IsDrawn s) :
    (uploadStep s t).HoldsOwn ∧ t.ReturnsHeld s ↔ t.LosesNoHold s := by
  cases t with
  | upload c => exact holdsOwn_upload_iff hs hown hdrawn
  | reserveSession team token task generation =>
    exact iff_of_true ⟨holdsOwn_reserve hown team token task generation, trivial⟩ trivial
  | consumeSession team token now => exact iff_of_true ⟨holdsOwn_consume hs hown team token now, trivial⟩ trivial
  | cancelSession team token now => exact holdsOwn_cancelToken_iff hs hown team token now
  | cancel team digest now => exact (and_iff_left trivial).trans (holdsOwn_cancelDigest_iff hs hown team digest now)
  | scanOnce limit cutoff now =>
    refine iff_of_true ⟨?_, trivial⟩ trivial
    exact holdsOwn_scan _ hown fun r hr => scanReady_expiredHolds hs hr
  | acceptSource team snapshot o reference now =>
    obtain ⟨s', hok⟩ := acceptSource_isOk team snapshot o now hdrawn
    rw [uploadStep_of_ok (show UploadStep.transact s (.acceptSource team snapshot o reference now) = .ok s' from hok)]
    exact (and_iff_left trivial).trans (holdsOwn_acceptSource_iff hs hown hok)
  | tombstone team o now =>
    refine iff_of_true ⟨?_, trivial⟩ trivial
    obtain h | h := uploadStep_cases (s := s) (t := .tombstone team o now)
    · rw [h]
      exact hown
    · obtain ⟨_, -, h⟩ := bind_ok_iff.1 h
      rw [← pure_ok_iff.1 h]
      exact hown

theorem keepsSessions_iff (hs : s.Orderly) (hown : s.HoldsOwn) {t : UploadStep} (hdrawn : t.IsDrawn s) :
    t.KeepsSessions s (uploadStep s t) ↔ t.LosesNoHold s := by
  rw [← holdsOwn_step_iff hs hown hdrawn]
  refine ⟨fun h => ⟨h.holds, h.tokens⟩, fun h => ⟨h.1, fun q hq ht => ?_, spares_step s t, h.2⟩⟩
  exact (follows_step s t).absorbing hq ht

theorem keepsSessions_run_iff (hs : s.Orderly) (hown : s.HoldsOwn) {l : List UploadStep}
    (hdrawn : StepsMeet uploadStep (fun s t => t.IsDrawn s) s l) :
    StepsMeet uploadStep (fun s t => t.KeepsSessions s (uploadStep s t)) s l ↔
      StepsMeet uploadStep (fun s t => t.LosesNoHold s) s l := by
  induction l generalizing s with
  | nil => exact Iff.rfl
  | cons t l ih =>
    have hstep := keepsSessions_iff hs hown hdrawn.1
    have hs' := orderly_step hs hdrawn.1
    constructor
    · rintro ⟨hkeeps, hrest⟩
      exact ⟨hstep.1 hkeeps, (ih hs' hkeeps.holds hdrawn.2).1 hrest⟩
    · rintro ⟨hcond, hrest⟩
      exact ⟨hstep.2 hcond, (ih hs' (hstep.2 hcond).holds hdrawn.2).2 hrest⟩

/-! ### at most once -/

/-- The session has left the open states. -/
def IsPast (session : UploadSessionId) (s : UploadStore) : Prop :=
  ∃ q ∈ s.sessions, q.session = session ∧ q.state.isOpen = false

/-- The session is terminal. -/
def IsDone (session : UploadSessionId) (s : UploadStore) : Prop :=
  ∃ q ∈ s.sessions, q.session = session ∧ q.state.isTerminal = true

theorem isPast_step {session : UploadSessionId} (h : IsPast session s) (t : UploadStep) : IsPast session (uploadStep s t) := by
  obtain ⟨q, hq, hqs, hopen⟩ := h
  obtain ⟨p, hp, hps, -, hpo⟩ := follows_step s t q hq
  exact ⟨p, hp, hps.trans hqs, hpo hopen⟩

theorem isDone_step {session : UploadSessionId} (h : IsDone session s) (t : UploadStep) : IsDone session (uploadStep s t) := by
  obtain ⟨q, hq, hqs, hterminal⟩ := h
  exact ⟨q, (follows_step s t).absorbing hq hterminal, hqs, hterminal⟩

end UploadStore

/-- The session a step reserves. -/
def UploadStep.reserved? (s : UploadStore) : UploadStep → Option UploadSessionId
  | .reserveSession team token task generation =>
    match s.reserveSession team token task generation with
    | .ok (true, _) => some token.session
    | _ => none
  | _ => none

/-- The session a step consumes. -/
def UploadStep.consumed? (s : UploadStore) : UploadStep → Option UploadSessionId
  | .consumeSession team token now =>
    match s.consumeSession team token now with
    | .ok (true, _) => some token.session
    | _ => none
  | _ => none

namespace UploadStore

variable {s : UploadStore}

theorem reserved?_spent (hs : (s.sessions.map UploadSessionRow.session).Nodup) {t : UploadStep} {session : UploadSessionId}
    (h : t.reserved? s = some session) : ¬ IsPast session s ∧ IsPast session (uploadStep s t) := by
  cases t with
  | reserveSession team token task generation =>
    replace h : (match s.reserveSession team token task generation with
      | .ok (true, _) => some token.session
      | _ => none) = some session := h
    split at h
    · rename_i x hok
      obtain rfl := Option.some.inj h
      obtain ⟨e, he, hb, hx⟩ := reserveSession_ok hok
      obtain ⟨q, hq, hc⟩ : ∃ q ∈ s.sessions, (q.session == e.session && q.state == .committed) = true :=
        List.countP_pos_iff.1 (by have := beq_iff_eq.1 hb.symm; omega)
      have hc' := hc
      simp only [Bool.and_eq_true, beq_iff_eq] at hc'
      have hkey : q.session = token.session := hc'.1.trans (session?_eq he).2
      have hstep : uploadStep s (.reserveSession team token task generation) = x := by
        refine uploadStep_of_ok ?_
        show (s.reserveSession team token task generation).map Prod.snd = _
        rw [hok]
        rfl
      refine ⟨?_, ?_⟩
      · rintro ⟨p, hp, hps, hopen⟩
        rw [eq_of_key hs hp hq (hps.trans hkey.symm), hc'.2] at hopen
        cases hopen
      · rw [hstep, hx]
        have hmem := mem_updateWhere_of_mem (c := fun q => q.session == e.session && q.state == .committed)
          (f := UploadSessionRow.reserve task generation) hq
        rw [if_pos hc] at hmem
        exact ⟨_, hmem, hkey, rfl⟩
    · cases h
  | _ => cases h

theorem consumed?_spent (hs : (s.sessions.map UploadSessionRow.session).Nodup) {t : UploadStep} {session : UploadSessionId}
    (h : t.consumed? s = some session) : ¬ IsDone session s ∧ IsDone session (uploadStep s t) := by
  cases t with
  | consumeSession team token now =>
    replace h : (match s.consumeSession team token now with
      | .ok (true, _) => some token.session
      | _ => none) = some session := h
    split at h
    · rename_i x hok
      obtain rfl := Option.some.inj h
      obtain ⟨hfalse, -⟩ | ⟨e, he, -, hcount, hx⟩ := consumeSession_ok hok
      · exact absurd hfalse.symm Bool.false_ne_true
      · obtain ⟨q, hq, hc⟩ : ∃ q ∈ s.sessions, (q.session == e.session && q.state == .reserved) = true :=
          List.countP_pos_iff.1 (by omega)
        have hc' := hc
        simp only [Bool.and_eq_true, beq_iff_eq] at hc'
        have hkey : q.session = token.session := hc'.1.trans (session?_eq he).2
        have hstep : uploadStep s (.consumeSession team token now) = x := by
          refine uploadStep_of_ok ?_
          show (s.consumeSession team token now).map Prod.snd = _
          rw [hok]
          rfl
        refine ⟨?_, ?_⟩
        · rintro ⟨p, hp, hps, hterminal⟩
          rw [eq_of_key hs hp hq (hps.trans hkey.symm), hc'.2] at hterminal
          cases hterminal
        · rw [hstep, hx]
          have hmem := mem_updateWhere_of_mem (c := fun q => q.session == e.session && q.state == .reserved)
            (f := UploadSessionRow.finish .consumed now) hq
          rw [if_pos hc] at hmem
          exact ⟨_, hmem, hkey, rfl⟩
    · cases h
  | _ => cases h

theorem nodup_sessions_transact {s' : UploadStore} (hs : (s.sessions.map UploadSessionRow.session).Nodup) {t : UploadStep}
    (h : t.transact s = .ok s') : (s'.sessions.map UploadSessionRow.session).Nodup := by
  cases t with
  | upload c =>
    obtain ⟨⟨record, x⟩, hupload, rfl⟩ := map_eq_ok h
    show (x.sessions.map _).Nodup
    obtain ⟨key, o, pending, hopened⟩ | ⟨e, -, hsame, -⟩ | ⟨o, -, -, -, hstate⟩ := upload_ok hupload
    · rw [hopened.state]
      exact nodup_keys_append hs hopened.fresh
    · rw [hsame]
      exact hs
    · rw [hstate]
      exact hs
  | reserveSession team token task generation =>
    obtain ⟨⟨b, x⟩, hreserve, rfl⟩ := map_eq_ok h
    obtain ⟨e, -, -, rfl⟩ := reserveSession_ok hreserve
    exact nodup_keys_updateWhere (fun _ => rfl) hs
  | consumeSession team token now =>
    obtain ⟨⟨b, x⟩, hconsume, rfl⟩ := map_eq_ok h
    obtain ⟨-, rfl⟩ | ⟨e, -, -, -, rfl⟩ := consumeSession_ok hconsume
    · exact hs
    · exact nodup_keys_updateWhere (fun _ => rfl) hs
  | cancelSession team token now =>
    obtain ⟨⟨b, x⟩, hcancel, rfl⟩ := map_eq_ok h
    obtain ⟨e, -, rfl⟩ := cancelSession_ok hcancel
    exact nodup_keys_updateWhere (fun _ => rfl) hs
  | cancel team digest now =>
    obtain ⟨⟨b, x⟩, hcancel, rfl⟩ := map_eq_ok h
    obtain ⟨o, -, ⟨-, rfl⟩ | ⟨r, -, rfl⟩⟩ := cancel_ok hcancel
    · exact hs
    · exact hs
  | scanOnce limit cutoff now =>
    obtain rfl := Except.ok.inj h
    show (((s.expiredHolds limit cutoff).foldl (expireHold now) s).sessions.map _).Nodup
    induction s.expiredHolds limit cutoff generalizing s with
    | nil => exact hs
    | cons r l ih =>
      refine ih ?_ rfl
      rw [expireHold_eq]
      exact nodup_keys_updateWhere (fun _ => rfl) hs
  | acceptSource team snapshot o reference now =>
    obtain rfl | ⟨-, rfl⟩ := acceptSource_ok h
    · exact hs
    · exact hs
  | tombstone team o now =>
    obtain ⟨_, -, h⟩ := bind_ok_iff.1 h
    rw [← pure_ok_iff.1 h]
    exact hs

theorem nodup_sessions_step (hs : (s.sessions.map UploadSessionRow.session).Nodup) (t : UploadStep) :
    ((uploadStep s t).sessions.map UploadSessionRow.session).Nodup := by
  obtain h | h := uploadStep_cases (s := s) (t := t)
  · rw [h]
    exact hs
  · exact nodup_sessions_transact hs h

end UploadStore

/-- **Upload sessions and their holds.** In a run from the empty store every step keeps a hold for each committed or
reserved session, leaves terminal and other sessions as they are and returns no token without a hold, exactly when every
step loses no hold; in every run a session is reserved at most once and consumed at most once. -/
theorem uploadHolds (l : List UploadStep) (hdrawn : StepsMeet uploadStep (fun s t => t.IsDrawn s) .empty l) :
    (StepsMeet uploadStep (fun s t => t.KeepsSessions s (uploadStep s t)) .empty l ↔
        StepsMeet uploadStep (fun s t => t.LosesNoHold s) .empty l) ∧
      (observed uploadStep (fun s t => t.reserved? s) .empty l).Nodup ∧
      (observed uploadStep (fun s t => t.consumed? s) .empty l).Nodup := by
  refine ⟨keepsSessions_run_iff orderly_empty holdsOwn_empty hdrawn, ?_, ?_⟩
  · exact nodup_observed (I := fun s => (s.sessions.map UploadSessionRow.session).Nodup) (S := IsPast)
      (fun _ t hs => nodup_sessions_step hs t) (fun _ _ t _ h => isPast_step h t) (fun _ _ _ hs h => reserved?_spent hs h)
      List.nodup_nil l
  · exact nodup_observed (I := fun s => (s.sessions.map UploadSessionRow.session).Nodup) (S := IsDone)
      (fun _ t hs => nodup_sessions_step hs t) (fun _ _ t _ h => isDone_step h t) (fun _ _ _ hs h => consumed?_spent hs h)
      List.nodup_nil l

/-! ### a reserved session that is cancelled, and a replay of a cancelled one -/

def sampleUpload : UploadCommand := ⟨1, 7, 3, some (.text 5), 1, 1, 1, 1, 1, 0⟩
def sampleToken : SessionToken := ⟨1, .text 5, 1⟩

/-- An upload, reserved by a Task and consumed. -/
def sampleConsumed : List UploadStep :=
  [.upload sampleUpload, .reserveSession 1 sampleToken 4 1, .consumeSession 1 sampleToken 2]

theorem uploadHolds_consumed :
    StepsMeet uploadStep (fun s t => t.KeepsSessions s (uploadStep s t)) .empty sampleConsumed := by
  refine (uploadHolds sampleConsumed ⟨fun r hr => absurd hr List.not_mem_nil, trivial, trivial, trivial⟩).1.2
    ⟨fun _ _ e he => ?_, trivial, trivial, trivial⟩
  exact absurd he.found (by simp [UploadStore.empty])

/-- A cancelled reservation leaves the session reserved without its hold, and the replay of a cancelled session returns its
token. -/
theorem uploadHolds_cancelled :
    ¬ (runFrom uploadStep .empty
        [.upload sampleUpload, .reserveSession 1 sampleToken 4 1, .cancelSession 1 sampleToken 2]).HoldsOwn ∧
      ¬ (UploadStep.upload sampleUpload).ReturnsHeld
        (runFrom uploadStep .empty [.upload sampleUpload, .cancelSession 1 sampleToken 2]) := by
  refine ⟨fun h => ?_, fun h => ?_⟩
  · obtain ⟨r, hr, hlive, -⟩ := h _ List.mem_cons_self rfl
    obtain rfl := List.mem_singleton.1 hr
    exact absurd hlive (by decide)
  · obtain ⟨r, hr, hlive, -⟩ := h rfl _ _ rfl _ rfl
    obtain rfl := List.mem_singleton.1 hr
    exact absurd hlive (by decide)

end KnowledgeBase
