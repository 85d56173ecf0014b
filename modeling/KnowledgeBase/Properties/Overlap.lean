import KnowledgeBase.Serving.Coordinates

/-!
# Overlapping vectorize stages

A stage that reads its coordinates and claims them while other Items vectorize and publish ends as it would alone
exactly when none of them claims a generation of its namespace in between.
-/

namespace KnowledgeBase

open Checked Relational

open Serving

/-! ### the other stages -/

/-- The outcome of a vectorize or publish stage of another Execution. -/
def VectorizeStage.IsBeside (k : VectorizeStage) : ServingStep → Prop
  | .vectorize c => c.execution ≠ k.execution ∧ c.item ≠ k.item
  | .publish c => c.producer.execution ≠ k.execution
  | _ => False

/-- The ids a stage draws are in no row. -/
structure VectorizeStage.IsDrawn (k : VectorizeStage) (s : Serving) : Prop where
  nspace : ∀ n ∈ s.namespaces, n.nspace ≠ k.drawnNamespace
  records : ∀ r ∈ s.records, ∀ u ∈ k.units, r.record ≠ u.drawn

/-- The step is an accepted vectorize outcome for the Team and the Layer A of the stage. -/
def VectorizeStage.isClaimedBy (k : VectorizeStage) (s : Serving) : ServingStep → Bool
  | .vectorize c => c.team == k.team && c.layerA == k.layerA && (s.vectorize c).isOk
  | _ => false

/-- The stage has the current artifact of its Execution and its Item. -/
def VectorizeStage.isReady (k : VectorizeStage) (s : Serving) : Bool :=
  (s.artifact? k.team k.generationArtifact).any (fun a => a.fullValid && a.execution == k.execution && a.item == k.item &&
    a.revision == k.revision && a.current) && (s.item? k.team k.item).isSome

namespace Serving

variable {s s' : Serving} {grace : Nat} {k : VectorizeStage}

theorem beforeClaim_eq_ok_iff (coordinates : NamespaceId × Nat) (lookup : Serving) :
    s.beforeClaim (outcomeCommand k coordinates lookup) = .ok () ↔ k.isReady s = true := by
  unfold beforeClaim constructGate VectorizeStage.isReady
  show (((required (s.artifact? k.team k.generationArtifact) _ >>= _) >>= _) = _) ↔ _
  cases s.artifact? k.team k.generationArtifact with
  | none =>
    constructor
    · intro h
      cases h
    · intro h
      cases h
  | some a =>
    show (((failIf (!a.fullValid || a.execution != k.execution || a.item != k.item || a.revision != k.revision) _ >>= _)
      >>= fun _ => failIf (s.item? k.team k.item).isNone _) = _) ↔ _
    simp only [Option.any_some, bne]
    cases s.item? k.team k.item <;> cases a.fullValid <;> cases a.execution == k.execution <;>
      cases a.item == k.item <;> cases a.revision == k.revision <;> cases a.current <;>
      simp [failIf, bind, Except.bind]

/-! ### what the others leave -/

theorem artifacts_vectorize {c : Vectorize} (h : s.vectorize c = .ok s') : s'.artifacts = s.artifacts := by
  obtain ⟨-, -, -, namespaces, records, -, rfl⟩ := vectorize_ok h
  rfl

/-- What a stage finds after the others as before them. -/
structure SameFor (k : VectorizeStage) (s s' : Serving) : Prop where
  artifacts : s'.artifacts = s.artifacts
  items : s'.items.map ItemRow.key = s.items.map ItemRow.key
  handoffs : (∀ h ∈ s.handoffs, h.execution ≠ k.execution) → ∀ h ∈ s'.handoffs, h.execution ≠ k.execution

theorem SameFor.refl (k : VectorizeStage) (s : Serving) : SameFor k s s := ⟨rfl, rfl, id⟩

theorem SameFor.trans {s'' : Serving} (h : SameFor k s s') (h' : SameFor k s' s'') : SameFor k s s'' :=
  ⟨h'.artifacts.trans h.artifacts, h'.items.trans h.items, fun hs => h'.handoffs (h.handoffs hs)⟩

theorem sameFor_publish {c : Publish} (h : s.publish grace c = .ok s') : SameFor k s s' := by
  obtain ⟨j, hw⟩ := publish_writes h
  obtain ⟨j, -, -, -, fetched, -, -, -, itemEpoch, s₁, s₂, before, h₁, h₂, h₃⟩ := publish_ok h
  have hpromoted : s₁.artifacts = s.artifacts ∧ s₁.items = s.items := by
    obtain ⟨-, rfl⟩ | ⟨q, -, -, -, rfl⟩ := promotePointer_ok h₁
    · exact ⟨rfl, rfl⟩
    · exact ⟨rfl, rfl⟩
  have hserved : s₂.artifacts = s₁.artifacts ∧ s₂.items.map ItemRow.key = s₁.items.map ItemRow.key := by
    obtain ⟨i, -, -, -, rfl⟩ | ⟨i, -, -, -, rfl⟩ := publishRevision_ok h₂
    · exact ⟨rfl, rfl⟩
    · exact ⟨rfl, keys_updateWhere (ItemRow.key_serve j.revision) _⟩
  have hretired : s'.artifacts = s₂.artifacts ∧ s'.items = s₂.items := by
    obtain rfl | ⟨q, -, i, -, -, rfl⟩ := retireSuperseded_ok h₃
    · exact ⟨rfl, rfl⟩
    · exact ⟨rfl, rfl⟩
  refine ⟨?_, ?_, fun hs => ?_⟩
  · rw [hretired.1, hserved.1, hpromoted.1]
  · rw [hretired.2, hserved.2, hpromoted.2]
  · rw [hw.handoffs]
    exact hs

theorem sameFor_step {t : ServingStep} (ht : k.IsBeside t) : SameFor k s (servingStep grace s t) := by
  obtain h | h := servingStep_cases grace (s := s) (t := t)
  · rw [h]
    exact .refl k s
  · cases t with
    | vectorize c =>
      refine ⟨artifacts_vectorize h, ?_, fun hs q hq => ?_⟩
      · obtain ⟨-, -, -, namespaces, records, -, hs'⟩ := vectorize_ok h
        rw [hs']
      · rw [handoffs_vectorize h] at hq
        rcases List.mem_append.1 hq with hq | hq
        · exact hs q hq
        · rw [List.mem_singleton.1 hq]
          exact ht.1
    | publish c => exact sameFor_publish h
    | _ => exact ht.elim

theorem sameFor_run {l : List ServingStep} (hl : ∀ t ∈ l, k.IsBeside t) : SameFor k s (runFrom (servingStep grace) s l) := by
  induction l generalizing s with
  | nil => exact .refl k s
  | cons t l ih =>
    have hstep : SameFor k s (servingStep grace s t) := sameFor_step (hl t List.mem_cons_self)
    exact hstep.trans (ih fun q hq => hl q (List.mem_cons_of_mem t hq))

theorem isSome_item?_iff {team : TeamId} {item : ItemId} :
    (s.item? team item).isSome = true ↔ (team, item) ∈ s.items.map ItemRow.key := by
  unfold item?
  rw [List.find?_isSome, List.mem_map]
  simp only [beq_iff_eq]

theorem SameFor.beforeClaim (h : SameFor k s s') (coordinates coordinates' : NamespaceId × Nat) (lookup lookup' : Serving) :
    s'.beforeClaim (outcomeCommand k coordinates lookup) = s.beforeClaim (outcomeCommand k coordinates' lookup') := by
  refine beforeClaim_congr rfl rfl rfl rfl rfl h.artifacts ?_
  rw [← Option.not_isSome, ← Option.not_isSome]
  congr 1
  refine Bool.eq_iff_iff.2 ?_
  rw [isSome_item?_iff, isSome_item?_iff, h.items]

/-! ### the counter between the read and the claim -/

theorem coordinates_of_mem (hs : NamespacesKeyed s.namespaces) {n : NamespaceRow} (hn : n ∈ s.namespaces)
    (hb : isBinding k.team k.layerA n = true) : s.namespaceCoordinates k = (n.nspace, n.indexGeneration + 1) := by
  unfold namespaceCoordinates
  have hfind : (s.namespaces.find? fun n => isBinding k.team k.layerA n && n.isActive) = some n := by
    refine find?_of_unique hs.bindings hn (by rw [hb, hs.active n hn]; rfl) fun m _ hm => ?_
    simp only [isBinding, Bool.and_eq_true, beq_iff_eq] at hm hb
    exact Prod.ext (hm.1.1.trans hb.1.symm) (hm.1.2.trans hb.2.symm)
  rw [hfind]

theorem coordinates_of_none (h : ∀ n ∈ s.namespaces, isBinding k.team k.layerA n = false) :
    s.namespaceCoordinates k = (k.drawnNamespace, 1) := by
  unfold namespaceCoordinates
  have hfind : (s.namespaces.find? fun n => isBinding k.team k.layerA n && n.isActive) = none := by
    refine List.find?_eq_none.2 fun n hn => ?_
    rw [h n hn]
    exact Bool.false_ne_true
  rw [hfind]

theorem binding_cases (k : VectorizeStage) (s : Serving) :
    (∃ n ∈ s.namespaces, isBinding k.team k.layerA n = true) ∨ ∀ n ∈ s.namespaces, isBinding k.team k.layerA n = false := by
  by_cases h : ∃ n ∈ s.namespaces, isBinding k.team k.layerA n = true
  · exact .inl h
  · refine .inr fun n hn => Bool.eq_false_iff.2 fun hb => h ⟨n, hn, hb⟩

theorem isBinding_iff {n : NamespaceRow} : isBinding k.team k.layerA n = true ↔ n.binding = (k.team, k.layerA) := by
  simp [isBinding, NamespaceRow.binding]

theorem Ensured.claimed {c : Vectorize} {l l' : List NamespaceRow} (hl : NamespacesKeyed l) (h : Ensured c l l')
    {n : NamespaceRow} (hn : n ∈ l') (hc : isClaimable c n = true) : n.binding = (c.team, c.layerA) := by
  simp only [isClaimable, Bool.and_eq_true, beq_iff_eq] at hc
  have hl' := h.keyed hl
  rcases h with ⟨⟨m, hm, hb, hnspace⟩, rfl⟩ | ⟨-, -, rfl⟩
  · obtain rfl := eq_of_key hl'.nspaces hn hm (hc.1.1.1.trans hnspace.symm)
    simpa [isBinding, NamespaceRow.binding] using hb
  · have hlast : c.namespaceRow ∈ l ++ [c.namespaceRow] := List.mem_append_right _ List.mem_cons_self
    obtain rfl := eq_of_key hl'.nspaces hn hlast hc.1.1.1
    rfl

theorem coordinates_vectorize_beside (hs : s.Counted) {c : Vectorize} (h : s.vectorize c = .ok s')
    (hne : (c.team, c.layerA) ≠ (k.team, k.layerA)) : s'.namespaceCoordinates k = s.namespaceCoordinates k := by
  have hs' := counted_vectorize hs h
  obtain ⟨l, hl, -, hnamespaces⟩ := vectorize_claims h
  rcases binding_cases k s with ⟨n, hn, hb⟩ | hnone
  · rw [coordinates_of_mem hs.keyed hn hb]
    refine coordinates_of_mem hs'.keyed ?_ hb
    rw [hnamespaces]
    have hmem : n ∈ l := by
      rcases hl with ⟨-, rfl⟩ | ⟨-, -, rfl⟩
      · exact hn
      · exact List.mem_append_left _ hn
    refine mem_updateWhere.2 ⟨n, hmem, if_neg fun hc => hne ?_⟩
    rw [← hl.claimed hs.keyed hmem hc]
    exact isBinding_iff.1 hb
  · rw [coordinates_of_none hnone]
    refine coordinates_of_none fun n hn => ?_
    rw [hnamespaces] at hn
    have hbefore (m : NamespaceRow) (hm : m ∈ l) : isBinding k.team k.layerA m = false := by
      rcases hl with ⟨-, rfl⟩ | ⟨-, -, rfl⟩
      · exact hnone m hm
      · rcases List.mem_append.1 hm with hm | hm
        · exact hnone m hm
        · rw [List.mem_singleton.1 hm]
          exact Bool.eq_false_iff.2 fun hb => hne (isBinding_iff.1 hb)
    rcases mem_updateWhere_cases hn with ⟨hn, -⟩ | ⟨m, hm, -, rfl⟩
    · exact hbefore n hn
    · exact hbefore m hm

theorem coordinates_vectorize_claimed (hs : s.Counted) {c : Vectorize} (h : s.vectorize c = .ok s')
    (hbinding : (c.team, c.layerA) = (k.team, k.layerA)) :
    (s.namespaceCoordinates k).2 < (s'.namespaceCoordinates k).2 := by
  have hs' := counted_vectorize hs h
  obtain ⟨l, hl, ⟨n, hn, hclaim⟩, hnamespaces⟩ := vectorize_claims h
  have hb : isBinding k.team k.layerA n = true := isBinding_iff.2 ((hl.claimed hs.keyed hn hclaim).trans hbinding)
  have hraised : NamespaceRow.raise c.indexGeneration n ∈ s'.namespaces := by
    rw [hnamespaces]
    exact mem_updateWhere.2 ⟨n, hn, if_pos hclaim⟩
  rw [coordinates_of_mem hs'.keyed hraised hb]
  have hgen : n.indexGeneration + 1 = c.indexGeneration := by
    simp only [isClaimable, Bool.and_eq_true, beq_iff_eq] at hclaim
    exact hclaim.2
  have hbefore : (s.namespaceCoordinates k).2 = n.indexGeneration + 1 := by
    rcases hl with ⟨-, rfl⟩ | ⟨hfresh, -, rfl⟩
    · rw [coordinates_of_mem hs.keyed hn hb]
    · rcases List.mem_append.1 hn with hold | hnew
      · have hb' : n.binding = (c.team, c.layerA) := (isBinding_iff.1 hb).trans hbinding.symm
        have hfalse := hfresh n hold
        simp only [NamespaceRow.binding, Prod.mk.injEq] at hb'
        simp [isBinding, hb'.1, hb'.2] at hfalse
      · have hnone : ∀ m ∈ s.namespaces, isBinding k.team k.layerA m = false := by
          simp only [Prod.mk.injEq] at hbinding
          rw [← hbinding.1, ← hbinding.2]
          exact hfresh
        rw [coordinates_of_none hnone, List.mem_singleton.1 hnew]
        rfl
  rw [hbefore]
  show n.indexGeneration + 1 < max n.indexGeneration c.indexGeneration + 1
  omega

theorem isClaimedBy_iff {c : Vectorize} : k.isClaimedBy s (.vectorize c) = true ↔
    (c.team, c.layerA) = (k.team, k.layerA) ∧ ∃ s', s.vectorize c = .ok s' := by
  unfold VectorizeStage.isClaimedBy
  simp only [Bool.and_eq_true, beq_iff_eq, Prod.mk.injEq]
  refine and_congr_right fun _ => ?_
  cases s.vectorize c with
  | ok s' => exact ⟨fun _ => ⟨s', rfl⟩, fun _ => rfl⟩
  | error e =>
    refine ⟨fun h => absurd h Bool.false_ne_true, ?_⟩
    rintro ⟨s', h⟩
    cases h

theorem coordinates_step (grace : Nat) (hs : s.Counted) {t : ServingStep} (ht : k.IsBeside t) :
    k.isClaimedBy s t = false ∧ (servingStep grace s t).namespaceCoordinates k = s.namespaceCoordinates k ∨
      k.isClaimedBy s t = true ∧ (s.namespaceCoordinates k).2 < ((servingStep grace s t).namespaceCoordinates k).2 := by
  cases t with
  | vectorize c =>
    cases h : s.vectorize c with
    | error e =>
      have hstep : servingStep grace s (.vectorize c) = s := by
        unfold servingStep ServingStep.transact
        simp only [h]
      rw [hstep]
      refine .inl ⟨Bool.eq_false_iff.2 fun hc => ?_, rfl⟩
      obtain ⟨-, s', hs'⟩ := isClaimedBy_iff.1 hc
      rw [h] at hs'
      cases hs'
    | ok s' =>
      have hstep : servingStep grace s (.vectorize c) = s' := by
        unfold servingStep ServingStep.transact
        simp only [h]
      rw [hstep]
      by_cases hbinding : (c.team, c.layerA) = (k.team, k.layerA)
      · exact .inr ⟨isClaimedBy_iff.2 ⟨hbinding, s', h⟩, coordinates_vectorize_claimed hs h hbinding⟩
      · refine .inl ⟨Bool.eq_false_iff.2 fun hc => ?_, coordinates_vectorize_beside hs h hbinding⟩
        exact hbinding (isClaimedBy_iff.1 hc).1
  | publish c =>
    refine .inl ⟨rfl, ?_⟩
    obtain h | h := servingStep_cases grace (s := s) (t := .publish c)
    · rw [h]
    · unfold namespaceCoordinates
      rw [namespaces_publish hs h]
  | _ => exact ht.elim

theorem coordinates_run (grace : Nat) (hs : s.Counted) {l : List ServingStep} (hl : ∀ t ∈ l, k.IsBeside t) :
    StepsMeet (servingStep grace) (fun s t => k.isClaimedBy s t = false) s l ∧
        (runFrom (servingStep grace) s l).namespaceCoordinates k = s.namespaceCoordinates k ∨
      ¬ StepsMeet (servingStep grace) (fun s t => k.isClaimedBy s t = false) s l ∧
        (s.namespaceCoordinates k).2 < ((runFrom (servingStep grace) s l).namespaceCoordinates k).2 := by
  induction l generalizing s with
  | nil => exact .inl ⟨trivial, rfl⟩
  | cons t l ih =>
    have hstep := coordinates_step grace hs (hl t List.mem_cons_self)
    have hrest := ih (counted_step hs grace t) fun q hq => hl q (List.mem_cons_of_mem t hq)
    rcases hstep with ⟨hfree, heq⟩ | ⟨hclaimed, hlt⟩
    · rcases hrest with ⟨hmeet, heq'⟩ | ⟨hnot, hlt'⟩
      · exact .inl ⟨⟨hfree, hmeet⟩, heq'.trans heq⟩
      · refine .inr ⟨fun hmeet => hnot hmeet.2, ?_⟩
        rw [← heq]
        exact hlt'
    · refine .inr ⟨fun hmeet => ?_, ?_⟩
      · exact Bool.false_ne_true (hmeet.1.symm.trans hclaimed)
      · rcases hrest with ⟨-, heq'⟩ | ⟨-, hlt'⟩
        · show _ < ((runFrom (servingStep grace) (servingStep grace s t) l).namespaceCoordinates k).2
          rw [heq']
          exact hlt
        · exact hlt.trans hlt'

/-! ### the claim with the coordinates read -/

theorem find?_binding (hs : NamespacesKeyed s.namespaces) {team : TeamId} {layerA : EmbeddingModelRef} {n : NamespaceRow}
    (hn : n ∈ s.namespaces) (hb : n.binding = (team, layerA)) :
    (s.namespaces.find? fun n => n.team == team && n.layerA == layerA) = some n := by
  obtain ⟨rfl, rfl⟩ := Prod.mk.inj hb
  refine find?_of_unique hs.bindings hn (by simp) fun m _ hm => ?_
  simp only [Bool.and_eq_true, beq_iff_eq] at hm
  exact Prod.ext hm.1 hm.2

theorem claim_current (hs : s.Counted) {c : Vectorize} (hteam : c.team = k.team) (hlayer : c.layerA = k.layerA)
    (hcoordinates : (c.nspace, c.indexGeneration) = s.namespaceCoordinates k)
    (hdrawn : ∀ n ∈ s.namespaces, n.nspace ≠ k.drawnNamespace) (hl : Untouched c s.records)
    (hfresh : ∀ q ∈ s.handoffs, q.execution ≠ c.execution) :
    (s.claim c).map (fun _ => ()) = (ownRecords c).map fun _ => () := by
  obtain ⟨l, hensure, hcount⟩ : ∃ l, s.ensureNamespace c = .ok { s with namespaces := l } ∧ l.countP (isClaimable c) = 1 := by
    unfold ensureNamespace
    rcases binding_cases k s with ⟨n, hn, hb⟩ | hnone
    · rw [coordinates_of_mem hs.keyed hn hb, Prod.mk.injEq] at hcoordinates
      have hb' : n.team = k.team ∧ n.layerA = k.layerA := by simpa [isBinding] using hb
      have hbinding : n.binding = (c.team, c.layerA) := Prod.ext (hb'.1.trans hteam.symm) (hb'.2.trans hlayer.symm)
      rw [find?_binding hs.keyed hn hbinding]
      refine ⟨s.namespaces, ?_, ?_⟩
      · show (failIf (n.nspace != c.nspace) _ >>= fun _ => pure s) = .ok s
        rw [hcoordinates.1, bne_self_eq_false]
        rfl
      · refine countP_eq_one hs.keyed.nspaces hn ?_ fun p _ hp => ?_
        · simp only [isClaimable, Bool.and_eq_true, beq_iff_eq]
          exact ⟨⟨⟨hcoordinates.1.symm, hb'.1.trans hteam.symm⟩, hs.keyed.active n hn⟩, hcoordinates.2.symm⟩
        · simp only [isClaimable, Bool.and_eq_true, beq_iff_eq] at hp
          exact hp.1.1.1.trans hcoordinates.1
    · rw [coordinates_of_none hnone, Prod.mk.injEq] at hcoordinates
      have hfind : (s.namespaces.find? fun n => n.team == c.team && n.layerA == c.layerA) = none := by
        refine List.find?_eq_none.2 fun n hn => ?_
        rw [hteam, hlayer]
        exact Bool.eq_false_iff.1 (hnone n hn)
      rw [hfind]
      have hnew : ∀ n ∈ s.namespaces, n.nspace ≠ c.nspace := by
        rw [hcoordinates.1]
        exact hdrawn
      refine ⟨s.namespaces ++ [c.namespaceRow], ?_, ?_⟩
      · show (insertUnique NamespaceRow.nspace constraintViolation c.namespaceRow s.namespaces >>= _) = _
        rw [insertUnique_eq_ok_iff.2 ⟨hnew, rfl⟩]
        rfl
      · rw [List.countP_append, List.countP_eq_zero.2 fun n hn hc => ?_]
        · simp [isClaimable, Vectorize.namespaceRow, hcoordinates.2]
        · simp only [isClaimable, Bool.and_eq_true, beq_iff_eq] at hc
          exact hnew n hn hc.1.1.1
  have hhandoffs : insertUnique VectorizeHandoff.execution constraintViolation c.handoff s.handoffs =
      .ok (s.handoffs ++ [c.handoff]) := insertUnique_eq_ok_iff.2 ⟨hfresh, rfl⟩
  unfold claim
  rw [hensure]
  show Except.map _ (casWhere (isClaimable c) _ _ l >>= _) = _
  rw [casWhere_eq_ok_iff.2 ⟨hcount, rfl⟩]
  show Except.map _ (foldEach (upsertVectorRecord c) s.records c.records >>= _) = _
  rw [foldEach_untouched hl]
  cases ownRecords c with
  | error e => rfl
  | ok m =>
    show Except.map _ (insertUnique VectorizeHandoff.execution constraintViolation c.handoff s.handoffs >>= _) = _
    rw [hhandoffs]
    rfl

def isStaleRefusal (e : MkbError) : Prop :=
  e.code = "VECTORIZE_GENERATION_FENCE" ∨ e.code = "VECTOR_NAMESPACE_BINDING_CONFLICT"

theorem claim_stale {read : Serving} (hs : s.Counted) (hrise : NamespacesRise read.namespaces s.namespaces)
    {c : Vectorize} (hteam : c.team = k.team) (hlayer : c.layerA = k.layerA)
    (hcoordinates : (c.nspace, c.indexGeneration) = read.namespaceCoordinates k)
    (hlt : (read.namespaceCoordinates k).2 < (s.namespaceCoordinates k).2) :
    ∃ e, s.claim c = .error e ∧ isStaleRefusal e := by
  rcases binding_cases k s with ⟨n, hn, hb⟩ | hnone
  · have hb' : n.team = k.team ∧ n.layerA = k.layerA := by simpa [isBinding] using hb
    have hbinding : n.binding = (c.team, c.layerA) := Prod.ext (hb'.1.trans hteam.symm) (hb'.2.trans hlayer.symm)
    have hensure : s.ensureNamespace c = failIf (n.nspace != c.nspace)
        (conflictError "VECTOR_NAMESPACE_BINDING_CONFLICT" "Namespace binding conflicts") >>= fun _ => pure s := by
      unfold ensureNamespace
      rw [find?_binding hs.keyed hn hbinding]
    unfold claim
    rw [hensure]
    by_cases hnspace : n.nspace = c.nspace
    · refine ⟨conflictError "VECTORIZE_GENERATION_FENCE" "Index generation was reserved by a concurrent vectorize", ?_,
        .inl rfl⟩
      rw [hnspace, bne_self_eq_false]
      show (casWhere (isClaimable c) _ _ s.namespaces >>= _) = _
      have hcount : s.namespaces.countP (isClaimable c) = 0 := by
        refine List.countP_eq_zero.2 fun m hm hc => ?_
        simp only [isClaimable, Bool.and_eq_true, beq_iff_eq] at hc
        obtain rfl := eq_of_key hs.keyed.nspaces hm hn (hc.1.1.1.trans hnspace.symm)
        rw [coordinates_of_mem hs.keyed hn hb, ← hcoordinates] at hlt
        simp only at hlt
        omega
      unfold casWhere
      rw [hcount]
      rfl
    · refine ⟨conflictError "VECTOR_NAMESPACE_BINDING_CONFLICT" "Namespace binding conflicts", ?_, .inr rfl⟩
      rw [bne_iff_ne.2 hnspace]
      rfl
  · rw [coordinates_of_none hnone] at hlt
    rcases binding_cases k read with ⟨n, hn, hb⟩ | hnone'
    · obtain ⟨m, hm, -, hbinding, -⟩ := hrise n hn
      have hm' := hnone m hm
      rw [isBinding_iff.2 (hbinding.trans (isBinding_iff.1 hb))] at hm'
      cases hm'
    · rw [coordinates_of_none hnone'] at hlt
      exact absurd hlt (Nat.lt_irrefl _)

/-! ### the stage in a run -/

theorem isGated_of_isReady (hr : k.isReady s = true) (coordinates : NamespaceId × Nat) (lookup : Serving) :
    ∃ a ∈ s.artifacts, (outcomeCommand k coordinates lookup).IsGated a := by
  have hok := (beforeClaim_eq_ok_iff coordinates lookup).2 hr
  unfold beforeClaim at hok
  obtain ⟨_, hgate, -⟩ := bind_ok_iff.1 hok
  exact constructGate_ok hgate

theorem records_beside (hs : s.Keyed) (hp : s.Provenance) (hr : k.isReady s = true)
    (hfirst : ∀ h ∈ s.handoffs, h.execution ≠ k.execution) : ∀ r ∈ s.records, r.generationArtifact ≠ k.generationArtifact := by
  obtain ⟨a, ha, hgate⟩ := isGated_of_isReady hr (0, 0) s
  intro r hmem he
  have hused := hp.recordUsed r hmem
  rw [he] at hused
  exact hp.not_isUsed hs ha hgate hfirst hused

theorem SameFor.isReady (h : SameFor k s s') : k.isReady s' = k.isReady s := by
  refine Bool.eq_iff_iff.2 ?_
  rw [← beforeClaim_eq_ok_iff (0, 0) s, ← beforeClaim_eq_ok_iff (0, 0) s, h.beforeClaim (0, 0) (0, 0) s s]

theorem records_outcomeCommand (coordinates : NamespaceId × Nat) {lookup : Serving}
    (h : ∀ r ∈ lookup.records, r.generationArtifact ≠ k.generationArtifact) :
    (outcomeCommand k coordinates lookup).records = k.units.map fun u => ⟨u.drawn, u.unitId, u.channel, u.contentDigest⟩ := by
  unfold outcomeCommand
  refine List.map_congr_left fun u _ => ?_
  have hnone : lookup.existingCoordinate? k coordinates u = none := by
    unfold existingCoordinate?
    rw [Option.map_eq_none_iff]
    refine List.find?_eq_none.2 fun r hr hc => ?_
    simp only [Bool.and_eq_true, beq_iff_eq] at hc
    exact h r hr hc.1.1.1.1.1.1.2
  rw [hnone]
  rfl

theorem untouched_outcomeCommand {coordinates : NamespaceId × Nat} {lookup : Serving}
    (hlookup : ∀ r ∈ lookup.records, r.generationArtifact ≠ k.generationArtifact)
    (h : ∀ r ∈ s.records, r.generationArtifact ≠ k.generationArtifact) (hd : k.IsDrawn s) :
    Untouched (outcomeCommand k coordinates lookup) s.records := by
  refine ⟨h, fun r hr u hu => ?_⟩
  rw [records_outcomeCommand coordinates hlookup] at hu
  obtain ⟨v, hv, rfl⟩ := List.mem_map.1 hu
  exact hd.records r hr v hv

theorem disposition_eq (k : VectorizeStage) (read lookup commit : Serving) :
    disposition k read lookup commit =
      commit.beforeClaim (outcomeCommand k (read.namespaceCoordinates k) lookup) >>= fun _ =>
        (commit.claim (outcomeCommand k (read.namespaceCoordinates k) lookup)).map fun _ => () := by
  unfold disposition
  rw [vectorize_eq]
  cases commit.beforeClaim (outcomeCommand k (read.namespaceCoordinates k) lookup) with
  | error e => rfl
  | ok u => rfl

theorem namespacesRise_step (grace : Nat) (hs : s.Counted) {t : ServingStep} (ht : k.IsBeside t) :
    NamespacesRise s.namespaces (servingStep grace s t).namespaces := by
  obtain h | h := servingStep_cases grace (s := s) (t := t)
  · rw [h]
    exact .refl _
  · cases t with
    | vectorize c =>
      obtain ⟨l, hl, -, hnamespaces⟩ := vectorize_claims h
      rw [hnamespaces]
      exact hl.rise.trans (namespacesRise_raise _ _ _)
    | publish c =>
      rw [namespaces_publish hs h]
      exact .refl _
    | _ => exact ht.elim

theorem namespacesRise_run (hs : s.Counted) {l : List ServingStep} (hl : ∀ t ∈ l, k.IsBeside t) :
    NamespacesRise s.namespaces (runFrom (servingStep grace) s l).namespaces := by
  induction l generalizing s with
  | nil => exact .refl _
  | cons t l ih =>
    have hstep := namespacesRise_step grace hs (hl t List.mem_cons_self)
    exact hstep.trans (ih (counted_step hs grace t) fun q hq => hl q (List.mem_cons_of_mem t hq))

theorem isDrawn_of_later (hn : NamespacesRise s.namespaces s'.namespaces) (hr : RecordsKept s.records s'.records)
    (hd : k.IsDrawn s') : k.IsDrawn s := by
  refine ⟨fun n hmem he => ?_, fun r hmem u hu he => ?_⟩
  · obtain ⟨m, hm, hnspace, -⟩ := hn n hmem
    exact hd.nspace m hm (hnspace.trans he)
  · obtain ⟨q, hq, hplace⟩ := hr r hmem
    exact hd.records q hq u hu ((place_eq_iff.1 hplace).1.trans he)

theorem claim_of_current (hs : s.RunFacts) (hready : k.isReady s = true)
    (hfirst : ∀ h ∈ s.handoffs, h.execution ≠ k.execution) (hd : k.IsDrawn s) {coordinates : NamespaceId × Nat}
    (hcoordinates : coordinates = s.namespaceCoordinates k) {lookup : Serving}
    (hlookup : ∀ r ∈ lookup.records, r.generationArtifact ≠ k.generationArtifact) :
    (s.claim (outcomeCommand k coordinates lookup)).map (fun _ => ()) =
      (ownRecords (outcomeCommand k coordinates lookup)).map fun _ => () :=
  claim_current hs.counted rfl rfl hcoordinates hd.nspace
    (untouched_outcomeCommand hlookup (records_beside hs.keyed hs.provenance hready hfirst) hd) hfirst

end Serving

/-- A stage overlapping stages of other Items ends as alone exactly when none of them claims a generation of its
namespace between its read and its outcome, or it is refused before it claims. -/
theorem vectorizeAlone (grace : Nat) (l before window₁ window₂ : List ServingStep) (k : VectorizeStage)
    (hbeside : ∀ t ∈ before ++ (window₁ ++ window₂), k.IsBeside t)
    (hfirst : ∀ h ∈ (runFrom (servingStep grace) .empty l).handoffs, h.execution ≠ k.execution)
    (hdrawn : k.IsDrawn (runFrom (servingStep grace) .empty (l ++ (before ++ (window₁ ++ window₂))))) :
    let alone := runFrom (servingStep grace) .empty l
    let read := runFrom (servingStep grace) alone before
    let lookup := runFrom (servingStep grace) read window₁
    let commit := runFrom (servingStep grace) lookup window₂
    disposition k read lookup commit = disposition k alone alone alone ↔
      k.isReady alone = false ∨
        StepsMeet (servingStep grace) (fun s t => k.isClaimedBy s t = false) read (window₁ ++ window₂) := by
  intro alone read lookup commit
  rw [runFrom_append, runFrom_append, runFrom_append] at hdrawn
  have hbefore (t : ServingStep) (ht : t ∈ before) : k.IsBeside t := hbeside t (List.mem_append_left _ ht)
  have hwindow (t : ServingStep) (ht : t ∈ window₁ ++ window₂) : k.IsBeside t := hbeside t (List.mem_append_right _ ht)
  have hfalone : alone.RunFacts := runFacts_run runFacts_empty grace l
  have hfread : read.RunFacts := runFacts_run hfalone grace before
  have hflookup : lookup.RunFacts := runFacts_run hfread grace window₁
  have hfcommit : commit.RunFacts := runFacts_run hflookup grace window₂
  have hread : SameFor k alone read := sameFor_run hbefore
  have hlookup : SameFor k alone lookup := hread.trans (sameFor_run fun t ht => hwindow t (List.mem_append_left _ ht))
  have hcommit : SameFor k alone commit := hlookup.trans (sameFor_run fun t ht => hwindow t (List.mem_append_right _ ht))
  have hcommit_eq : commit = runFrom (servingStep grace) read (window₁ ++ window₂) := by
    rw [runFrom_append]
  have hlast : commit = runFrom (servingStep grace) alone (before ++ (window₁ ++ window₂)) := by
    rw [runFrom_append, runFrom_append]
  have hdalone : k.IsDrawn alone := by
    have hcommitted : k.IsDrawn commit := hdrawn
    refine isDrawn_of_later ?_ ?_ hcommitted
    · rw [hlast]
      exact namespacesRise_run hfalone.counted hbeside
    · rw [hlast]
      exact (advances_run hfalone.keyed grace _).records
  rw [disposition_eq, disposition_eq, hcommit.beforeClaim _ (alone.namespaceCoordinates k) _ alone]
  cases hready : k.isReady alone with
  | false =>
    refine iff_of_true ?_ (.inl rfl)
    cases hb : alone.beforeClaim (outcomeCommand k (alone.namespaceCoordinates k) alone) with
    | error e => rfl
    | ok u =>
      have hok := (beforeClaim_eq_ok_iff _ _).1 hb
      rw [hready] at hok
      cases hok
  | true =>
    rw [(beforeClaim_eq_ok_iff _ _).2 hready]
    have hbare := records_beside hfalone.keyed hfalone.provenance hready hfirst
    have hbare' := records_beside hflookup.keyed hflookup.provenance (hlookup.isReady.trans hready) (hlookup.handoffs hfirst)
    have halone := claim_of_current hfalone hready hfirst hdalone rfl hbare
    show Except.map _ (commit.claim (outcomeCommand k (read.namespaceCoordinates k) lookup)) =
      Except.map _ (alone.claim (outcomeCommand k (alone.namespaceCoordinates k) alone)) ↔ _
    rw [halone]
    rcases coordinates_run grace hfread.counted hwindow with ⟨hfree, heq⟩ | ⟨hnot, hlt⟩
    · refine iff_of_true ?_ (.inr hfree)
      rw [← hcommit_eq] at heq
      rw [claim_of_current hfcommit (hcommit.isReady.trans hready) (hcommit.handoffs hfirst) hdrawn heq.symm hbare']
      have hmoved : outcomeCommand k (read.namespaceCoordinates k) lookup =
          (outcomeCommand k (alone.namespaceCoordinates k) alone).moved (read.namespaceCoordinates k).1
            (read.namespaceCoordinates k).2 := by
        have hrecords := (records_outcomeCommand (read.namespaceCoordinates k) hbare').trans
          (records_outcomeCommand (alone.namespaceCoordinates k) hbare).symm
        unfold outcomeCommand at hrecords ⊢
        unfold Vectorize.moved
        simp only at hrecords ⊢
        rw [hrecords]
      rw [hmoved, ownRecords_moved]
      cases ownRecords (outcomeCommand k (alone.namespaceCoordinates k) alone) with
      | error e => rfl
      | ok m => rfl
    · refine iff_of_false (fun he => ?_) fun hor => hor.elim (fun hf => Bool.noConfusion hf) hnot
      rw [← hcommit_eq] at hlt
      have hrise : NamespacesRise read.namespaces commit.namespaces := by
        rw [hcommit_eq]
        exact namespacesRise_run hfread.counted hwindow
      obtain ⟨e, herror, hstale⟩ := claim_stale hfcommit.counted hrise
        (c := outcomeCommand k (read.namespaceCoordinates k) lookup) rfl rfl rfl hlt
      rw [herror] at he
      cases hown : ownRecords (outcomeCommand k (alone.namespaceCoordinates k) alone) with
      | ok m =>
        rw [hown] at he
        cases he
      | error e' =>
        rw [hown] at he
        obtain rfl := Except.error.inj he
        rcases ownRecords_error hown with hcode | rfl
        · rcases hstale with h | h
          · rw [hcode] at h
            exact absurd h (by decide)
          · rw [hcode] at h
            exact absurd h (by decide)
        · rcases hstale with h | h
          · exact absurd h (by decide)
          · exact absurd h (by decide)

/-! ### two Items of one Team -/

/-- Two accepted Items, each with its construct. -/
def sampleItems : List ServingStep :=
  [.acceptSnapshot (sampleAccept false),
    .acceptSnapshot { sampleAccept false with item := 2, externalKey := 2, revision := 20, snapshot := 2, producer := ⟨2, 3, 1⟩ },
    .acceptConstruct ⟨1, 100, 1, 1, 10, 5, true, true⟩, .acceptConstruct ⟨1, 200, 2, 2, 20, 6, true, true⟩]

def sampleStage : VectorizeStage where
  team := 1
  execution := 1
  item := 1
  revision := 10
  generationArtifact := 100
  layerA := sampleLayerA
  drawnNamespace := 1
  publicationProof := 1000
  units := [⟨7, 1, .original, 77⟩]

/-- The outcome of the other Item, with the namespace its own stage has drawn. -/
def sampleOther : Vectorize where
  team := 1
  execution := 2
  item := 2
  revision := 20
  generationArtifact := 200
  nspace := 2
  indexGeneration := 1
  publicationProof := 2000
  layerA := sampleLayerA
  records := [⟨8, 1, .original, 88⟩]

theorem vectorizeAlone_after : let alone := runFrom (servingStep 0) .empty sampleItems
    let read := runFrom (servingStep 0) alone [.vectorize sampleOther]
    let commit := runFrom (servingStep 0) read [.publish ⟨1, ⟨2, 4, 1⟩, 0⟩]
    disposition sampleStage read read commit = disposition sampleStage alone alone alone := by
  have hiff := vectorizeAlone 0 sampleItems [.vectorize sampleOther] [] [.publish ⟨1, ⟨2, 4, 1⟩, 0⟩] sampleStage
    (by
      intro t ht
      simp only [List.nil_append, List.cons_append, List.mem_cons, List.not_mem_nil, or_false] at ht
      obtain rfl | rfl := ht
      · exact ⟨by decide, by decide⟩
      · exact Nat.ne_of_beq_eq_false rfl)
    (by decide) ⟨by decide, by decide⟩
  exact hiff.2 (.inr ⟨rfl, trivial⟩)

/-- The first two Items of a namespace: the stage overtaken by the other outcome fails, and alone it is accepted. -/
theorem vectorizeAlone_overtaken : let alone := runFrom (servingStep 0) .empty sampleItems
    let commit := runFrom (servingStep 0) alone [.vectorize sampleOther]
    disposition sampleStage alone alone alone = .ok () ∧
      disposition sampleStage alone alone commit =
        .error (conflictError "VECTOR_NAMESPACE_BINDING_CONFLICT" "Namespace binding conflicts") := by
  exact ⟨rfl, rfl⟩

end KnowledgeBase
