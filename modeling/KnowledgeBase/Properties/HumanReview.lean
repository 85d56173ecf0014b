import KnowledgeBase.Serving.Review
import KnowledgeBase.Serving.Effects

/-!
# Human review cannot be bypassed

A Revision first accepted for review is served only once a gate that froze it and its Snapshot was approved, in every
run whose acceptances by other Executions take up no Revision that still awaits its review.
-/

namespace KnowledgeBase

open Checked Relational Serving

/-! ### what is served -/

namespace Serving

variable {s s' s'' : Serving}

/-- The team serves the Revision. -/
def Serves (s : Serving) (team : TeamId) (r : RevisionId) : Prop :=
  ∃ i ∈ s.items, i.team = team ∧ i.servingRevision = some r

/-- Nothing new is served and nothing is handed to a publication. -/
structure KeepsServed (s s' : Serving) : Prop where
  serves : ∀ team r, s'.Serves team r → s.Serves team r
  handoffs : s'.handoffs = s.handoffs

theorem KeepsServed.refl (s : Serving) : KeepsServed s s := ⟨fun _ _ h => h, rfl⟩

theorem KeepsServed.trans (h : KeepsServed s s') (h' : KeepsServed s' s'') : KeepsServed s s'' :=
  ⟨fun team r hr => h.serves team r (h'.serves team r hr), h'.handoffs.trans h.handoffs⟩

theorem KeepsServed.of_items (hi : s'.items = s.items) (hh : s'.handoffs = s.handoffs) : KeepsServed s s' := by
  refine ⟨fun team r h => ?_, hh⟩
  unfold Serves at h ⊢
  rw [hi] at h
  exact h

theorem KeepsServed.updateItems {c : ItemRow → Bool} {f : ItemRow → ItemRow}
    (hi : s'.items = updateWhere c f s.items) (hh : s'.handoffs = s.handoffs)
    (hf : ∀ i, (f i).team = i.team ∧ ((f i).servingRevision = i.servingRevision ∨ (f i).servingRevision = none)) :
    KeepsServed s s' := by
  refine ⟨fun team r h => ?_, hh⟩
  obtain ⟨i, hmem, hteam, hserving⟩ := h
  rw [hi] at hmem
  obtain ⟨hmem, -⟩ | ⟨j, hj, -, rfl⟩ := mem_updateWhere_cases hmem
  · exact ⟨i, hmem, hteam, hserving⟩
  · obtain ⟨hfteam, hkept | hnone⟩ := hf j
    · exact ⟨j, hj, hfteam.symm.trans hteam, hkept.symm.trans hserving⟩
    · rw [hnone] at hserving
      cases hserving

theorem KeepsServed.appendItems (hl : ∀ i ∈ s'.items, i ∈ s.items ∨ i.servingRevision = none)
    (hh : s'.handoffs = s.handoffs) : KeepsServed s s' := by
  refine ⟨fun team r h => ?_, hh⟩
  obtain ⟨i, hmem, hteam, hserving⟩ := h
  obtain hmem | hnone := hl i hmem
  · exact ⟨i, hmem, hteam, hserving⟩
  · rw [hnone] at hserving
    cases hserving

theorem keepsServed_acceptSnapshot {c : AcceptSnapshot} (h : s.acceptSnapshot c = .ok s') : KeepsServed s s' := by
  have hoffered (s₁ : Serving) (hi : s₁.items = c.itemsOffered s) (hh : s₁.handoffs = s.handoffs) :
      KeepsServed s s₁ := by
    refine .appendItems (fun i hmem => ?_) hh
    rw [hi] at hmem
    obtain hmem | ⟨rfl, -⟩ := mem_insertOrIgnore hmem
    · exact Or.inl hmem
    · exact Or.inr rfl
  obtain ⟨before, -, -, ⟨-, rfl⟩ | ⟨-, -, rfl⟩⟩ := acceptSnapshot_ok h
  · exact hoffered _ rfl rfl
  · exact (hoffered { s with items := c.itemsOffered s } rfl rfl).trans
      (.updateItems rfl rfl fun _ => ⟨rfl, Or.inl rfl⟩)

theorem keepsServed_acceptCollection {c : AcceptCollection} (h : s.acceptCollection c = .ok s') : KeepsServed s s' := by
  refine foldEach_preserves (P := fun d => KeepsServed s d) (fun d d' m _ hd hm => ?_) (.refl s) h
  obtain ⟨-, rfl⟩ := insertMember_ok hm
  refine hd.trans (.appendItems (fun i hmem => ?_) rfl)
  obtain hmem | hmem := List.mem_append.1 hmem
  · exact Or.inl hmem
  · obtain rfl := List.mem_singleton.1 hmem
    exact Or.inr rfl

theorem keepsServed_acceptRebuild {t : FrozenTarget} {producer : ProcessFence}
    (h : s.acceptRebuild t producer = .ok s') : KeepsServed s s' := by
  obtain ⟨i, -, -, -, rfl⟩ := acceptRebuild_ok h
  exact .of_items rfl rfl

theorem keepsServed_acceptMetadataUpdate {t : FrozenTarget} {metadataRevision : Option RevisionId}
    {producer : ProcessFence} (h : s.acceptMetadataUpdate t metadataRevision producer = .ok s') : KeepsServed s s' := by
  obtain ⟨i, -, -, -, rfl | ⟨revision, rfl⟩⟩ := acceptMetadataUpdate_ok h
  · exact .of_items rfl rfl
  · exact .updateItems rfl rfl fun _ => ⟨rfl, Or.inl rfl⟩

theorem keepsServed_applyLifecycle {c : LifecycleCommand} (h : s.applyLifecycle c = .ok s') : KeepsServed s s' := by
  obtain rfl | ⟨i, -, -, target, -, rfl⟩ := applyLifecycle_ok h
  · exact .refl _
  · unfold LifecycleCommand.applied
    dsimp only
    split
    · exact .updateItems rfl rfl fun _ => ⟨rfl, Or.inr rfl⟩
    · exact .updateItems rfl rfl fun _ => ⟨rfl, Or.inr rfl⟩

theorem keepsServed_applyHumanReview (team : TeamId) (snapshot : SnapshotId) (decision : ReviewDecision) :
    KeepsServed s (s.applyHumanReview team snapshot decision) := by
  cases decision with
  | approve => exact .updateItems rfl rfl fun _ => ⟨rfl, Or.inl rfl⟩
  | reject => exact .updateItems rfl rfl fun _ => ⟨rfl, Or.inr rfl⟩

theorem keepsServed_scheduleRetirement {grace : Nat} {team : TeamId} {item : ItemId} {nspace : NamespaceId}
    {retired successor pointerRowRevision : Nat}
    (h : s.scheduleRetirement grace team item nspace retired successor pointerRowRevision = .ok s') :
    KeepsServed s s' := by
  obtain ⟨p, -, -, -, i, -, rfl⟩ := scheduleRetirement_ok h
  exact .of_items rfl rfl

theorem keepsServed_indexRebuild {grace : Nat} {c : IndexRebuild} (h : s.indexRebuild grace c = .ok s') :
    KeepsServed s s' := by
  refine foldEach_preserves (P := fun d => KeepsServed s d) (fun d d' p _ hd hp => ?_) (.refl s) h
  obtain ⟨i, -, -, sources, records, namespaces, -, -, -, -, -, s₁, h₁, rfl⟩ := commitPlan_ok hp
  have hcut : KeepsServed d (c.cutOver p sources records namespaces d) := .of_items rfl rfl
  exact hd.trans (hcut.trans ((keepsServed_scheduleRetirement h₁).trans (.of_items rfl rfl)))

theorem vectorize_handoffs {c : Vectorize} (h : s.vectorize c = .ok s') :
    s'.items = s.items ∧ s'.handoffs = s.handoffs ++ [c.handoff] := by
  obtain ⟨-, -, -, namespaces, records, -, rfl⟩ := vectorize_ok h
  exact ⟨rfl, rfl⟩

theorem publish_serves {grace : Nat} {c : Publish} (h : s.publish grace c = .ok s') : s'.handoffs = s.handoffs ∧
    ∃ k ∈ s.handoffs, k.execution = c.producer.execution ∧ k.team = c.team ∧
      ∀ team r, s'.Serves team r → s.Serves team r ∨ (team = c.team ∧ r = k.revision) := by
  obtain ⟨k, hk, hexecution, hteam, fetched, -, -, -, itemEpoch, s₁, s₂, before, h₁, h₂, h₃⟩ := publish_ok h
  have hpromoted : KeepsServed s s₁ := by
    obtain ⟨-, rfl⟩ | ⟨q, -, -, -, rfl⟩ := promotePointer_ok h₁
    · exact .of_items rfl rfl
    · exact .of_items rfl rfl
  have hretired : KeepsServed s₂ s' := by
    obtain rfl | ⟨q, -, j, -, -, rfl⟩ := retireSuperseded_ok h₃
    · exact .refl _
    · exact .of_items rfl rfl
  obtain ⟨i, -, -, -, rfl⟩ | ⟨i, hi, hkey, -, rfl⟩ := publishRevision_ok h₂
  · refine ⟨hretired.handoffs.trans hpromoted.handoffs, k, hk, hexecution, hteam, fun team r hr => Or.inl ?_⟩
    exact hpromoted.serves team r (hretired.serves team r hr)
  · refine ⟨hretired.handoffs.trans hpromoted.handoffs, k, hk, hexecution, hteam, fun team r hr => ?_⟩
    obtain ⟨q, hmem, hqteam, hserving⟩ := hretired.serves team r hr
    obtain ⟨hmem, -⟩ | ⟨j, hj, hc, rfl⟩ := mem_updateWhere_cases hmem
    · exact Or.inl (hpromoted.serves team r ⟨q, hmem, hqteam, hserving⟩)
    · simp only [servesNext, Bool.and_eq_true, beq_iff_eq] at hc
      have hjteam : j.team = c.team := (Prod.mk.inj (hc.1.1.1.trans hkey)).1
      exact Or.inr ⟨hqteam.symm.trans hjteam, (Option.some.inj hserving).symm⟩

theorem keepsServed_transact {grace : Nat} {t : ServingStep} (h : t.transact grace s = .ok s')
    (hv : ∀ c, t ≠ .vectorize c) (hp : ∀ c, t ≠ .publish c) : KeepsServed s s' := by
  cases t with
  | acceptSnapshot c => exact keepsServed_acceptSnapshot h
  | acceptCollection c => exact keepsServed_acceptCollection h
  | acceptRebuild t producer => exact keepsServed_acceptRebuild h
  | acceptMetadataUpdate t metadataRevision producer => exact keepsServed_acceptMetadataUpdate h
  | lifecycle c => exact keepsServed_applyLifecycle h
  | humanReview team snapshot decision =>
    obtain rfl := Except.ok.inj h
    exact keepsServed_applyHumanReview team snapshot decision
  | acceptConstruct a =>
    obtain ⟨-, -, rfl⟩ := acceptConstruct_ok h
    exact .of_items rfl rfl
  | vectorize c => exact absurd rfl (hv c)
  | publish c => exact absurd rfl (hp c)
  | indexRebuild c => exact keepsServed_indexRebuild h
  | discoverRetirement team item nspace retired =>
    obtain ⟨p, -, -, -, i, -, rfl⟩ := discoverRetirement_ok h
    exact .of_items rfl rfl
  | softPurge i now =>
    obtain ⟨-, rfl⟩ := softPurge_ok h
    exact .of_items rfl rfl
  | purgeGeneration c =>
    obtain rfl := purgeGeneration_ok h
    exact .of_items rfl rfl
  | cleanupVectors team item now =>
    obtain ⟨-, rfl⟩ := cleanupVectors_ok h
    exact .of_items rfl rfl

end Serving

/-! ### Revisions that await no review -/

namespace ReviewSystem

variable {s s' : ReviewSystem}

/-- Whatever review the Revision was first accepted for has been approved. -/
def Settled (s : ReviewSystem) (team : TeamId) (r : RevisionId) : Prop :=
  ∀ snapshot, ⟨team, snapshot, r⟩ ∈ s.reviewed → ⟨team, snapshot, r⟩ ∈ s.approved

/-- An Item serves a Revision first accepted for review only once a gate on the Revision and its Snapshot was
approved. -/
def ReviewKept (s : ReviewSystem) : Prop :=
  ∀ i ∈ s.serving.items, ∀ r, i.servingRevision = some r → s.Settled i.team r

/-- What holds of an Execution past its acceptance. -/
structure Carries (s : ReviewSystem) (x : ReviewedExecution) : Prop where
  accepted : ∀ r ∈ x.revisions, (x.team, r) ∈ s.revisions
  settled : x.cleared = true → ∀ r ∈ x.revisions, s.Settled x.team r
  own : ∀ r ∈ x.revisions, ∀ snapshot, ⟨x.team, snapshot, r⟩ ∈ s.reviewed →
    snapshot = x.snapshot ∨ ⟨x.team, snapshot, r⟩ ∈ s.approved
  approved : x.decision = some .approve → ∀ r ∈ x.revisions, x.target r ∈ s.approved

structure Sound (s : ReviewSystem) : Prop where
  served : ∀ team r, s.serving.Serves team r → (team, r) ∈ s.revisions ∧ s.Settled team r
  handed : ∀ k ∈ s.serving.handoffs, (k.team, k.revision) ∈ s.revisions ∧ s.Settled k.team k.revision
  executions : ∀ e x, s.executions e = some x → s.Carries x
  reviewed : ∀ q ∈ s.reviewed, (q.team, q.revision) ∈ s.revisions

theorem sound_review_empty : Sound {} where
  served team r h := by
    obtain ⟨i, hi, -⟩ := h
    cases hi
  handed k hk := by cases hk
  executions e x h := by cases h
  reviewed q hq := by cases hq

theorem Sound.kept (h : s.Sound) : s.ReviewKept :=
  fun i hi r hr => (h.served i.team r ⟨i, hi, rfl, hr⟩).2

/-! ### steps -/

theorem Sound.putExecution (h : s.Sound) {e : ExecutionId} {x : ReviewedExecution} (hx : s.Carries x) :
    (s.putExecution e x).Sound where
  served := h.served
  handed := h.handed
  executions e' x' he := by
    by_cases hne : e' = e
    · subst hne
      simp only [ReviewSystem.putExecution, Function.update_self, Option.some.injEq] at he
      subst he
      exact ⟨hx.accepted, hx.settled, hx.own, hx.approved⟩
    · simp only [ReviewSystem.putExecution, Function.update_of_ne hne] at he
      have hx' := h.executions e' x' he
      exact ⟨hx'.accepted, hx'.settled, hx'.own, hx'.approved⟩
  reviewed := h.reviewed

theorem Sound.write (h : s.Sound) {serving : Serving} (hk : KeepsServed s.serving serving) :
    Sound { s with serving := serving } where
  served team r hr := h.served team r (hk.serves team r hr)
  handed k hmem := h.handed k (hk.handoffs ▸ hmem)
  executions e x he := by
    have hx := h.executions e x he
    exact ⟨hx.accepted, hx.settled, hx.own, hx.approved⟩
  reviewed := h.reviewed

theorem Sound.approve (h : s.Sound) (l : List ReviewedRevision) : Sound { s with approved := s.approved ++ l } := by
  have hsettled {team : TeamId} {r : RevisionId} (hs : s.Settled team r) :
      Settled { s with approved := s.approved ++ l } team r :=
    fun snapshot hmem => List.mem_append_left l (hs snapshot hmem)
  refine ⟨fun team r hr => ?_, fun k hk => ?_, fun e x he => ?_, h.reviewed⟩
  · exact ⟨(h.served team r hr).1, hsettled (h.served team r hr).2⟩
  · exact ⟨(h.handed k hk).1, hsettled (h.handed k hk).2⟩
  · have hx := h.executions e x he
    refine ⟨hx.accepted, fun hc r hr => hsettled (hx.settled hc r hr), fun r hr snapshot hmem => ?_, fun hd r hr => ?_⟩
    · exact (hx.own r hr snapshot hmem).imp_right (List.mem_append_left l)
    · exact List.mem_append_left l (hx.approved hd r hr)

theorem awaits_eq {x : ReviewedExecution} {q : ReviewedRevision} (hq : q ∈ s.awaits x) :
    x.admission = .humanReviewRequired ∧ (q.team, q.revision) ∉ s.revisions ∧ q.team = x.team ∧
      q.snapshot = x.snapshot ∧ q.revision ∈ x.revisions := by
  unfold awaits at hq
  split at hq
  · rename_i hreview
    obtain ⟨r, hr, rfl⟩ := List.mem_map.1 hq
    obtain ⟨hmem, hnew⟩ := List.mem_filter.1 hr
    refine ⟨hreview, ?_, rfl, rfl, hmem⟩
    simpa [ReviewedExecution.target] using hnew
  · cases hq

/-- An acceptance of Revisions that await no review: the Execution carries them, what was settled stays so. -/
theorem Sound.enter (h : s.Sound) {serving : Serving} (hk : KeepsServed s.serving serving) (e : ExecutionId)
    {x : ReviewedExecution} (hcleared : x.cleared = true → x.admission = .autoAdmitted) (hdecision : x.decision = none)
    (hx : ∀ r ∈ x.revisions, s.Settled x.team r) : (s.enter serving e x).Sound := by
  have hrevisions {p : TeamId × RevisionId} (hp : p ∈ s.revisions) : p ∈ (s.enter serving e x).revisions :=
    List.mem_append_left _ hp
  have hsettled {team : TeamId} {r : RevisionId} (hr : (team, r) ∈ s.revisions) (hs : s.Settled team r) :
      (s.enter serving e x).Settled team r := by
    intro snapshot hmem
    obtain hmem | hmem := List.mem_append.1 hmem
    · exact hs snapshot hmem
    · exact absurd hr (awaits_eq hmem).2.1
  refine ⟨fun team r hr => ?_, fun k hmem => ?_, fun e' x' he => ?_, fun q hq => ?_⟩
  · obtain ⟨hmem, hs⟩ := h.served team r (hk.serves team r hr)
    exact ⟨hrevisions hmem, hsettled hmem hs⟩
  · obtain ⟨hmem, hs⟩ := h.handed k (hk.handoffs ▸ hmem)
    exact ⟨hrevisions hmem, hsettled hmem hs⟩
  · by_cases hne : e' = e
    · subst hne
      simp only [ReviewSystem.enter, Function.update_self, Option.some.injEq] at he
      subst he
      refine ⟨fun r hr => ?_, fun hc r hr snapshot hmem => ?_, fun r hr snapshot hmem => ?_, fun hd => ?_⟩
      · exact List.mem_append_right _ (List.mem_map.2 ⟨r, hr, rfl⟩)
      · obtain hmem | hmem := List.mem_append.1 hmem
        · exact hx r hr snapshot hmem
        · have hreview := (awaits_eq hmem).1
          rw [hcleared hc] at hreview
          cases hreview
      · obtain hmem | hmem := List.mem_append.1 hmem
        · exact Or.inr (hx r hr snapshot hmem)
        · exact Or.inl (awaits_eq hmem).2.2.2.1
      · rw [hdecision] at hd
        cases hd
    · simp only [ReviewSystem.enter, Function.update_of_ne hne] at he
      have hx' := h.executions e' x' he
      refine ⟨fun r hr => hrevisions (hx'.accepted r hr), fun hc r hr => ?_, fun r hr snapshot hmem => ?_, hx'.approved⟩
      · exact hsettled (hx'.accepted r hr) (hx'.settled hc r hr)
      · obtain hmem | hmem := List.mem_append.1 hmem
        · exact hx'.own r hr snapshot hmem
        · exact absurd (hx'.accepted r hr) (awaits_eq hmem).2.1
  · obtain hq | hq := List.mem_append.1 hq
    · exact hrevisions (h.reviewed q hq)
    · obtain ⟨-, -, hteam, -, hmem⟩ := awaits_eq hq
      rw [hteam]
      exact List.mem_append_right _ (List.mem_map.2 ⟨q.revision, hmem, rfl⟩)

theorem Sound.vectorize (h : s.Sound) {c : Vectorize} (hp : s.permits (.vectorize c) = true) {serving : Serving}
    (hc : s.serving.vectorize c = .ok serving) : Sound { s with serving := serving } := by
  obtain ⟨hitems, hhandoffs⟩ := vectorize_handoffs hc
  simp only [permits, Option.any_eq_true, Bool.and_eq_true, beq_iff_eq, List.contains_iff_mem] at hp
  obtain ⟨x, hx, ⟨⟨hcleared, -⟩, hteam⟩, hr⟩ := hp
  have hcarries := h.executions _ x hx
  refine ⟨fun team r hserves => ?_, fun k hk => ?_, fun e x he => ?_, h.reviewed⟩
  · obtain ⟨i, hi, hserving⟩ := hserves
    exact h.served team r ⟨i, hitems ▸ hi, hserving⟩
  · have hk' : k ∈ s.serving.handoffs ++ [c.handoff] := hhandoffs ▸ hk
    obtain hk | hk := List.mem_append.1 hk'
    · exact h.handed k hk
    · obtain rfl := List.mem_singleton.1 hk
      rw [show c.handoff.team = x.team from hteam.symm]
      exact ⟨hcarries.accepted _ hr, hcarries.settled hcleared _ hr⟩
  · have hx := h.executions e x he
    exact ⟨hx.accepted, hx.settled, hx.own, hx.approved⟩

theorem Sound.publish (h : s.Sound) {grace : Nat} {c : Publish} {serving : Serving}
    (hc : s.serving.publish grace c = .ok serving) : Sound { s with serving := serving } := by
  obtain ⟨hhandoffs, k, hk, -, hteam, hserves⟩ := publish_serves hc
  refine ⟨fun team r hr => ?_, fun k hmem => h.handed k (hhandoffs ▸ hmem), fun e x he => ?_, h.reviewed⟩
  · obtain hr | ⟨rfl, rfl⟩ := hserves team r hr
    · exact h.served team r hr
    · rw [← hteam]
      exact h.handed k hk
  · have hx := h.executions e x he
    exact ⟨hx.accepted, hx.settled, hx.own, hx.approved⟩

/-- The Revisions that the step takes up await no review: a new Execution accepts, replays, rebuilds or updates none
that another one was to have reviewed. -/
def TakesUpSettled (s : ReviewSystem) : ReviewEvent → Prop
  | .accept c => s.Settled c.team c.revision
  | .acceptCollection c _ => ∀ m ∈ c.members, s.Settled c.team m.revision
  | .replay _ source => ∀ x, s.executions source = some x → ∀ r ∈ x.revisions.take 1, s.Settled x.team r
  | .rebuild t _ _ => s.Settled t.team t.revision
  | .updateMetadata t _ metadataRevision _ => ∀ r ∈ metadataRevision.toList, s.Settled t.team r
  | _ => True

theorem cleared_acceptedExecution {team : TeamId} {snapshot : SnapshotId} {revisions : List RevisionId}
    {admission : AdmissionResult} (h : (acceptedExecution team snapshot revisions admission).cleared = true) :
    admission = .autoAdmitted := beq_iff_eq.1 h

theorem sound_decide (h : s.Sound) {e : ExecutionId} {decision : ReviewDecision} {grace : Nat}
    (hc : (ReviewEvent.decide e decision).transact grace s = .ok s') : s'.Sound := by
  simp only [ReviewEvent.transact, bind_ok_iff, required_ok_iff, failIf_ok_iff, pure_ok_iff] at hc
  obtain ⟨x, hx, -, -, -, hnone, -, -, rfl⟩ := hc
  have hcarries := h.executions e x hx
  cases decision with
  | approve =>
    have happroved := h.approve (x.revisions.map x.target)
    refine happroved.putExecution (e := e) (x := { x with decision := some .approve }) ?_
    have hx' := happroved.executions e x hx
    exact ⟨hx'.accepted, hx'.settled, hx'.own, fun _ r hr =>
      List.mem_append_right _ (List.mem_map.2 ⟨r, hr, rfl⟩)⟩
  | reject =>
    refine h.putExecution (x := { x with decision := some .reject }) ?_
    refine ⟨hcarries.accepted, hcarries.settled, hcarries.own, fun hd => ?_⟩
    cases hd

theorem sound_applyDecision (h : s.Sound) {e : ExecutionId} {grace : Nat}
    (hc : (ReviewEvent.applyDecision e).transact grace s = .ok s') : s'.Sound := by
  simp only [ReviewEvent.transact, bind_ok_iff, required_ok_iff, failIf_ok_iff, pure_ok_iff] at hc
  obtain ⟨x, hx, -, -, decision, hdecision, rfl⟩ := hc
  have hwrite := h.write (keepsServed_applyHumanReview x.team x.snapshot decision)
  have hcarries := hwrite.executions e x hx
  refine hwrite.putExecution ⟨hcarries.accepted, fun hcleared r hr snapshot hmem => ?_, hcarries.own, hcarries.approved⟩
  have happrove : decision = .approve := of_decide_eq_true hcleared
  subst happrove
  -- the gate froze the Snapshot of the Execution, and no other one is awaited
  obtain rfl | happroved := hcarries.own r hr snapshot hmem
  · exact hcarries.approved hdecision r hr
  · exact happroved

theorem sound_transact (h : s.Sound) {grace : Nat} {event : ReviewEvent} (htakes : s.TakesUpSettled event)
    (hc : event.transact grace s = .ok s') : s'.Sound := by
  cases event with
  | accept c =>
    simp only [ReviewEvent.transact, bind_ok_iff, pure_ok_iff] at hc
    obtain ⟨-, -, serving, hserving, rfl⟩ := hc
    refine h.enter (keepsServed_acceptSnapshot hserving) _ cleared_acceptedExecution rfl fun r hr => ?_
    obtain rfl := List.mem_singleton.1 hr
    exact htakes
  | acceptCollection c admission =>
    simp only [ReviewEvent.transact, bind_ok_iff, pure_ok_iff] at hc
    obtain ⟨-, -, serving, hserving, rfl⟩ := hc
    refine h.enter (keepsServed_acceptCollection hserving) _ cleared_acceptedExecution rfl fun r hr => ?_
    obtain ⟨m, hm, rfl⟩ := List.mem_map.1 hr
    exact htakes m hm
  | replay e source =>
    simp only [ReviewEvent.transact, bind_ok_iff, required_ok_iff, pure_ok_iff] at hc
    obtain ⟨-, -, x, hx, -, -, rfl⟩ := hc
    exact h.enter (.refl _) e cleared_acceptedExecution rfl (htakes x hx)
  | rebuild t snapshot producer =>
    simp only [ReviewEvent.transact, bind_ok_iff, pure_ok_iff] at hc
    obtain ⟨-, -, serving, hserving, rfl⟩ := hc
    refine h.enter (keepsServed_acceptRebuild hserving) _ cleared_acceptedExecution rfl fun r hr => ?_
    obtain rfl := List.mem_singleton.1 hr
    exact htakes
  | updateMetadata t snapshot metadataRevision producer =>
    simp only [ReviewEvent.transact, bind_ok_iff, pure_ok_iff] at hc
    obtain ⟨-, -, serving, hserving, rfl⟩ := hc
    exact h.enter (keepsServed_acceptMetadataUpdate hserving) _ cleared_acceptedExecution rfl htakes
  | dispatch child root revision =>
    simp only [ReviewEvent.transact, bind_ok_iff, required_ok_iff, failIf_ok_iff, pure_ok_iff,
      Bool.or_eq_false_iff, Bool.not_eq_false', List.contains_iff_mem] at hc
    obtain ⟨-, -, x, hx, -, ⟨-, hmem⟩, rfl⟩ := hc
    have hcarries := h.executions root x hx
    have hone {r : RevisionId} (hr : r ∈ [revision]) : r ∈ x.revisions := by
      obtain rfl := List.mem_singleton.1 hr
      exact hmem
    exact h.putExecution ⟨fun r hr => hcarries.accepted r (hone hr), fun hc r hr => hcarries.settled hc r (hone hr),
      fun r hr => hcarries.own r (hone hr), fun hd r hr => hcarries.approved hd r (hone hr)⟩
  | decide e decision => exact sound_decide h hc
  | applyDecision e => exact sound_applyDecision h hc
  | cancel e =>
    simp only [ReviewEvent.transact, bind_ok_iff, required_ok_iff, pure_ok_iff] at hc
    obtain ⟨x, hx, rfl⟩ := hc
    have hcarries := h.executions e x hx
    exact h.putExecution ⟨hcarries.accepted, hcarries.settled, hcarries.own, hcarries.approved⟩
  | write t =>
    simp only [ReviewEvent.transact, bind_ok_iff, failIf_ok_iff, Bool.not_eq_false', pure_ok_iff] at hc
    obtain ⟨-, hpermits, serving, hserving, rfl⟩ := hc
    by_cases hv : ∃ c, t = .vectorize c
    · obtain ⟨c, rfl⟩ := hv
      exact h.vectorize hpermits hserving
    by_cases hp : ∃ c, t = .publish c
    · obtain ⟨c, rfl⟩ := hp
      exact h.publish hserving
    · exact h.write (keepsServed_transact hserving (fun c hc => hv ⟨c, hc⟩) fun c hc => hp ⟨c, hc⟩)

end ReviewSystem

/-! ### runs -/

open ReviewSystem

/-- No Revision awaiting its review is served in a run whose steps take none up for an Execution of another. -/
theorem humanReview (grace : Nat) (l : List ReviewEvent) (hl : StepsMeet (reviewStep grace)
    (fun s event => ∀ s', event.transact grace s = .ok s' → s.TakesUpSettled event) {} l) :
    (runFrom (reviewStep grace) {} l).ReviewKept := by
  have hstep (s : ReviewSystem) (event : ReviewEvent) (h : s.Sound)
      (htakes : ∀ s', event.transact grace s = .ok s' → s.TakesUpSettled event) : (reviewStep grace s event).Sound := by
    unfold reviewStep
    cases hc : event.transact grace s with
    | ok s' => exact sound_transact h (htakes s' hc) hc
    | error e => exact h
  exact (runFrom_invariant hstep sound_review_empty hl).kept

/-- An Item that is reviewed, approved and published. -/
theorem humanReview_approved : (runFrom (reviewStep 3600) {} [.accept (sampleAccept true), .decide 1 .approve,
    .applyDecision 1, .write (.acceptConstruct ⟨1, 100, 1, 1, 10, 5, true, true⟩), .write (.vectorize sampleVectorize),
    .write (.publish ⟨1, ⟨1, 2, 1⟩, 0⟩)]).ReviewKept :=
  humanReview 3600 _ ⟨fun _ _ _ h => absurd h List.not_mem_nil, fun _ _ => trivial, fun _ _ => trivial, fun _ _ => trivial,
    fun _ _ => trivial, fun _ _ => trivial, trivial⟩

/-- The construct, vectorize and publish stages of an Execution that serves Revision 11 of the Item. -/
def sampleSecondPublication (e : ExecutionId) : List ReviewEvent :=
  [.write (.acceptConstruct ⟨1, 200, e, 1, 11, 6, true, true⟩),
    .write (.vectorize { sampleVectorize with
      execution := e
      revision := 11
      generationArtifact := 200
      indexGeneration := 2
      publicationProof := 2000
      records := [⟨8, 1, .original, 88⟩] }),
    .write (.publish ⟨1, ⟨e, 3, 1⟩, 50⟩)]

/-- A served Item whose second Revision is accepted for review; the Task is cancelled before a decision and retried:
the retry is auto admitted, and serves the Revision. -/
theorem humanReview_retried : ¬ ∀ grace l, (runFrom (reviewStep grace) {} l).ReviewKept := by
  intro h
  have hkept := h 3600 (.accept (sampleAccept false) :: samplePublication.tail.map .write ++
    [.accept { sampleAccept true with revision := 11, snapshot := 2, producer := ⟨2, 1, 1⟩ }, .cancel 2, .replay 3 2] ++
    sampleSecondPublication 3) ⟨1, 1, 1, 1, .active, some 11, some 11, 4, none⟩ List.mem_cons_self 11 rfl 2
    List.mem_cons_self
  cases hkept

end KnowledgeBase
