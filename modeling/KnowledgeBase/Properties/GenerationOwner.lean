import KnowledgeBase.Serving.Ownership

/-!
# One owner for an index generation

As long as no rebuild takes a number that a vectorize outcome has claimed, the records and the proofs of an (Item,
namespace, generation) are of one artifact, and a handoff can be published until a greater generation of its Item has
been.
-/

namespace KnowledgeBase

open Checked Relational

namespace Serving

variable {s s' : Serving} {grace : Nat}

/-! ### runs -/

structure Accounted (s : Serving) : Prop where
  facts : s.RunFacts
  owners : s.SlotOwners
  waiting : s.Waiting

theorem accounted_empty : Serving.empty.Accounted := ⟨runFacts_empty, slotOwners_empty, waiting_empty⟩

end Serving

open Serving

/-- A vectorize outcome as its stage drew it. -/
def ServingStep.IsDrawn : ServingStep → Prop
  | .vectorize c => c.IsDrawn
  | _ => True

/-- A rebuild takes no number that a handoff has claimed. -/
def ServingStep.TakesUnclaimed (s : Serving) : ServingStep → Prop
  | .indexRebuild c => ∀ p ∈ c.plans, p.isUnclaimed c.team s = true
  | _ => True

namespace Serving

variable {s s' : Serving} {grace : Nat}

theorem handoffs_commitPlan {c : IndexRebuild} {p : IndexRebuildPlan} (h : s.commitPlan grace c p = .ok s') :
    s'.handoffs = s.handoffs := (commitPlan_writes h).handoffs

theorem isUnclaimed_congr {team : TeamId} {p : IndexRebuildPlan} (h : s'.handoffs = s.handoffs) :
    p.isUnclaimed team s' = p.isUnclaimed team s := by
  unfold IndexRebuildPlan.isUnclaimed
  rw [h]

theorem accounted_step (h : s.Accounted) {t : ServingStep} (hd : t.IsDrawn)
    (hc : ∀ s', t.transact grace s = .ok s' → t.TakesUnclaimed s) : (servingStep grace s t).Accounted := by
  have hfacts := runFacts_step h.facts grace t
  obtain he | ht := servingStep_cases grace (s := s) (t := t)
  · rw [he]
    exact h
  · by_cases hi : t.isIndexing = true
    · cases t with
      | vectorize c =>
        exact ⟨hfacts, slotOwners_vectorize h.facts.keyed h.facts.provenance h.facts.counted h.owners hd ht,
          waiting_vectorize h.facts.keyed h.facts.provenance h.waiting hd ht⟩
      | publish c =>
        exact ⟨hfacts, slotOwners_publish h.facts.keyed h.owners ht,
          waiting_publish h.facts.keyed h.facts.provenance h.waiting ht⟩
      | indexRebuild c =>
        have hfold : (servingStep grace s (.indexRebuild c)).SlotOwners ∧ (servingStep grace s (.indexRebuild c)).Waiting := by
          have hplans := foldEach_preserves
            (P := fun d : Serving => d.Keyed ∧ d.Provenance ∧ d.SlotOwners ∧ d.Waiting ∧ d.handoffs = s.handoffs)
            (fun d d' p hp hinv hstep => ?_)
            ⟨h.facts.keyed, h.facts.provenance, h.owners, h.waiting, rfl⟩ ht
          · exact ⟨hplans.2.2.1, hplans.2.2.2.1⟩
          · obtain ⟨hkeyed, hprov, howners, hwaiting, hhandoffs⟩ := hinv
            have hfree : p.isUnclaimed c.team d = true := by
              rw [isUnclaimed_congr hhandoffs]
              exact hc _ ht p hp
            exact ⟨(advances_commitPlan hkeyed hstep).keyed, provenance_commitPlan hprov hstep,
              slotOwners_commitPlan hkeyed howners hfree hstep, waiting_commitPlan hprov hwaiting hstep,
              (handoffs_commitPlan hstep).trans hhandoffs⟩
        exact ⟨hfacts, hfold.1, hfold.2⟩
      | _ => cases hi
    · have hquiet := quiet_transact (Bool.eq_false_iff.2 hi) ht
      exact ⟨hfacts, h.owners.quiet hquiet, h.waiting.quiet hquiet⟩

theorem accounted_run (h : s.Accounted) {l : List ServingStep} (hd : ∀ t ∈ l, t.IsDrawn)
    (hl : StepsMeet (servingStep grace) (fun s t => ∀ s', t.transact grace s = .ok s' → t.TakesUnclaimed s) s l) :
    (runFrom (servingStep grace) s l).Accounted := by
  induction l generalizing s with
  | nil => exact h
  | cons t l ih =>
    exact ih (accounted_step h (hd t List.mem_cons_self) hl.1) (fun q hq => hd q (List.mem_cons_of_mem t hq)) hl.2

/-! ### a waiting handoff can be published -/

theorem publishable_of_waiting (h : s.Accounted) {c : Publish} {k : VectorizeHandoff} (hk : k ∈ s.handoffs)
    (hteam : k.team = c.team) (hu : s.Unpublished k) :
    s.publishableRecords c k = .ok (s.records.filter (isOfHandoff c.team k)) := by
  have hfetched : s.records.filter (isOfHandoff c.team k) = s.ofArtifact k.generationArtifact := by
    refine List.filter_congr fun r hr => ?_
    refine Bool.eq_iff_iff.2 ?_
    rw [← hteam, mem_fetched_iff h.facts.provenance hk hr, beq_iff_eq]
  have hheld := h.waiting.held k hk
  have hlength : (s.ofArtifact k.generationArtifact).length = k.vectorRecords.length := by
    rw [← hheld, List.length_map]
  unfold publishableRecords
  rw [hfetched]
  have hnone : ((s.ofArtifact k.generationArtifact).any fun r =>
      r.publicationState != .withdrawn || r.indexGeneration != k.indexGeneration) = false := by
    refine List.any_eq_false.2 fun r hr hc => ?_
    obtain ⟨hmem, he⟩ := List.mem_filter.1 hr
    have hwritten := h.facts.provenance.writtenFor k hk r hmem (beq_iff_eq.1 he)
    rw [h.waiting.withdrawn k hk hu r hr, hwritten.indexGeneration, bne_self_eq_false, bne_self_eq_false] at hc
    exact Bool.false_ne_true hc
  have hperm : (s.ofArtifact k.generationArtifact |>.map VectorRecordRow.member).isPerm k.vectorRecords = true := by
    rw [hheld, List.isPerm_iff]
  show (failIf _ _ >>= fun _ => failIf _ _ >>= fun _ => pure _) = _
  rw [hlength, hnone, hperm, bne_self_eq_false]
  rfl

theorem manifests_of_waiting (h : s.Accounted) {k : VectorizeHandoff} (hk : k ∈ s.handoffs) (hu : s.Unpublished k) :
    ∀ m ∈ s.manifests, m.proof ≠ k.publicationProof ∧ m.key ≠ k.slot := by
  intro m hm
  obtain ⟨p, hp, hproof, hslot⟩ := h.waiting.manifests m hm
  refine ⟨fun he => hu p hp (hproof.trans he), fun he => hu p hp ?_⟩
  exact (h.owners.agree k hk p hp (he.symm.trans hslot.symm)).2

theorem pointers_of_waiting (h : s.Accounted) {k : VectorizeHandoff} (hk : k ∈ s.handoffs) (hu : s.Unpublished k)
    (hlater : ∀ p ∈ s.proofs, p.team = k.team → p.item = k.item → p.nspace = k.nspace →
      ¬ k.indexGeneration < p.indexGeneration) :
    ∀ q ∈ s.pointers, q.key = (k.team, k.item, k.nspace) → q.activeIndexGeneration < k.indexGeneration := by
  intro q hq hkey
  obtain ⟨p, hp, hslot⟩ := h.owners.pointed q hq
  simp only [PointerRow.key, Prod.mk.injEq] at hkey
  have hpq := hslot
  simp only [ProofRow.slot, PointerRow.slot, Prod.mk.injEq] at hpq
  have hle := hlater p hp (hpq.1.trans hkey.1) (hpq.2.1.trans hkey.2.1) (hpq.2.2.1.trans hkey.2.2)
  have hne : p.indexGeneration ≠ k.indexGeneration := by
    intro he
    refine hu p hp (h.owners.agree k hk p hp ?_).2
    simp only [ProofRow.slot, VectorizeHandoff.slot, Prod.mk.injEq]
    exact ⟨(hpq.1.trans hkey.1).symm, (hpq.2.1.trans hkey.2.1).symm, (hpq.2.2.1.trans hkey.2.2).symm, he.symm⟩
  omega

/-- The pointer of a proof that has just moved to it. -/
structure IsMovedTo (p : ProofRow) (before : Option PointerRow) (q : PointerRow) : Prop where
  key : q.key = (p.team, p.item, p.nspace)
  active : q.lifecycleState = .active
  generation : q.activeIndexGeneration = p.indexGeneration
  proof : q.lastProof = p.proof
  artifact : q.generationArtifact = p.generationArtifact
  epoch : ∀ r, before = some r → q.pointerRowRevision = r.pointerRowRevision + 1

theorem promotePointer_of_below (now : Time) (hs : (s.pointers.map PointerRow.key).Nodup) {p : ProofRow}
    (hbelow : ∀ q ∈ s.pointers, q.key = (p.team, p.item, p.nspace) → q.activeIndexGeneration < p.indexGeneration) :
    ∃ l q, s.promotePointer p now = .ok { s with pointers := l } ∧
      (l.find? fun r => r.key == (p.team, p.item, p.nspace)) = some q ∧
      IsMovedTo p (s.pointer? p.team p.item p.nspace) q := by
  unfold promotePointer
  cases hf : s.pointer? p.team p.item p.nspace with
  | none =>
    refine ⟨_, p.firstPointer now, rfl, ?_, ⟨rfl, rfl, rfl, rfl, rfl, fun _ hr => by cases hr⟩⟩
    unfold pointer? at hf
    rw [List.find?_append, hf, Option.none_or]
    exact List.find?_cons_of_pos (p := fun r : PointerRow => r.key == (p.team, p.item, p.nspace)) (beq_self_eq_true _)
  | some q =>
    obtain ⟨hq, hkey⟩ := pointer?_eq_some hf
    have hlt := hbelow q hq hkey
    have hsup : isSuperseded p q q = true := by
      simp [isSuperseded, hlt]
    have hcount : s.pointers.countP (isSuperseded p q) = 1 := by
      refine countP_eq_one hs hq hsup fun x _ hx => ?_
      simp only [isSuperseded, Bool.and_eq_true, beq_iff_eq] at hx
      exact hx.1.1
    have hcas : casWhere (isSuperseded p q) (PointerRow.promote p now)
        (conflictError "PUBLICATION_POINTER_FENCE" "Active index pointer changed concurrently") s.pointers =
        .ok (updateWhere (isSuperseded p q) (PointerRow.promote p now) s.pointers) := casWhere_eq_ok_iff.2 ⟨hcount, rfl⟩
    refine ⟨updateWhere (isSuperseded p q) (PointerRow.promote p now) s.pointers, PointerRow.promote p now q, ?_, ?_, ?_⟩
    · show (casWhere (isSuperseded p q) _ _ s.pointers >>= _) = _
      rw [hcas]
      rfl
    · have hmem : PointerRow.promote p now q ∈ updateWhere (isSuperseded p q) (PointerRow.promote p now) s.pointers :=
        mem_updateWhere.2 ⟨q, hq, if_pos hsup⟩
      have hfind := find?_of_key (nodup_keys_updateWhere (c := isSuperseded p q) (PointerRow.key_promote p now) hs) hmem
      rw [PointerRow.key_promote, hkey] at hfind
      exact hfind
    · refine ⟨hkey, rfl, rfl, rfl, rfl, fun r hr => ?_⟩
      obtain rfl := Option.some.inj hr
      rfl

/-- The Item still waits for the Revision. -/
def Awaits (s : Serving) (team : TeamId) (item : ItemId) (revision : RevisionId) : Prop :=
  ∃ i, s.item? team item = some i ∧ i.lifecycleState = .active ∧ i.latestRevision = some revision

theorem publishRevision_of_moved (hs : (s.items.map ItemRow.key).Nodup) {c : Publish} {k : VectorizeHandoff} {p : ProofRow}
    {before : Option PointerRow} {q : PointerRow} {i : ItemRow} (hi : s.item? c.team k.item = some i)
    (hactive : i.lifecycleState = .active) (hlatest : i.latestRevision = some k.revision)
    (hproof : (s.proofs.find? fun p => p.proof == k.publicationProof && p.team == c.team && p.item == k.item &&
        p.revision == k.revision && p.nspace == k.nspace && p.indexGeneration == k.indexGeneration) = some p)
    (hproducer : p.producer = c.producer) (hcomplete : p.isComplete = true)
    (hq : s.pointer? c.team k.item k.nspace = some q) (hmoved : IsMovedTo p before q)
    (hnone : s.hasTransition c.team k.item (.publication k.item k.revision k.publicationProof c.producer) = false) :
    s.publishRevision k.item k.revision k.publicationProof k.nspace k.indexGeneration c =
      .ok (c.served i k.revision k.publicationProof s) := by
  have hfields := List.find?_some hproof
  simp only [Bool.and_eq_true, beq_iff_eq] at hfields
  obtain ⟨hmem, hkey⟩ := item?_eq_some hi
  have hitem : i.item = k.item := (Prod.mk.inj hkey).2
  have hserves : servesNext i k.revision i = true := by simp [servesNext, hactive, hlatest]
  have hcount : s.items.countP (servesNext i k.revision) = 1 := by
    refine countP_eq_one hs hmem hserves fun j _ hj => ?_
    simp only [servesNext, Bool.and_eq_true, beq_iff_eq] at hj
    exact hj.1.1.1
  have hcas : casWhere (servesNext i k.revision) (ItemRow.serve k.revision)
      (servingFence "Serving revision changed concurrently") s.items =
      .ok (updateWhere (servesNext i k.revision) (ItemRow.serve k.revision) s.items) := casWhere_eq_ok_iff.2 ⟨hcount, rfl⟩
  unfold publishRevision
  rw [hi]
  show (if s.hasTransition c.team k.item _ then _ else _) = _
  rw [hnone]
  show (failIf (i.lifecycleState != .active) _ >>= fun _ => failIf (i.latestRevision != some k.revision) _ >>= _) = _
  rw [hactive, hlatest, bne_self_eq_false, bne_self_eq_false, hproof]
  show (failIf (p.producer != c.producer || !p.isComplete) _ >>= _) = _
  rw [hproducer, hcomplete, bne_self_eq_false, hq]
  show (failIf (q.lifecycleState != .active || q.activeIndexGeneration != k.indexGeneration ||
    q.lastProof != k.publicationProof || q.generationArtifact != p.generationArtifact) _ >>= _) = _
  rw [hmoved.active, hmoved.generation, hmoved.proof, hmoved.artifact, hfields.2, hfields.1.1.1.1.1, bne_self_eq_false,
    bne_self_eq_false, bne_self_eq_false, bne_self_eq_false]
  show (casWhere (servesNext i k.revision) _ _ s.items >>= _) = _
  rw [hcas]
  unfold Publish.served Publish.transition
  rw [hitem, hlatest]
  rfl

theorem scheduleRetirement_of_moved {team : TeamId} {item : ItemId} {nspace : NamespaceId} {retired : Nat} {p : ProofRow}
    {q : PointerRow} {epoch : Nat} (hq : s.pointer? team item nspace = some q) (hactive : q.lifecycleState = .active)
    (hgeneration : q.activeIndexGeneration = p.indexGeneration) (hepoch : q.pointerRowRevision = epoch)
    (hlt : retired < p.indexGeneration) (hn : (s.namespace? team nspace).any (·.isActive) = true)
    (hi : (s.item? team item).any (fun i => i.lifecycleState == .active && i.deletedAt.isNone && i.servingRevision.isSome) = true) :
    ∃ s', s.scheduleRetirement grace team item nspace retired p.indexGeneration epoch = .ok s' := by
  unfold scheduleRetirement
  rw [hq]
  show ∃ s', (failIf (!(s.namespace? team nspace).any (·.isActive) || _ || q.lifecycleState != .active ||
    q.activeIndexGeneration != p.indexGeneration || q.pointerRowRevision != epoch || decide (p.indexGeneration ≤ retired)) _ >>=
      _) = .ok s'
  rw [hn, hi, hactive, hgeneration, hepoch, bne_self_eq_false, bne_self_eq_false, bne_self_eq_false,
    decide_eq_false (Nat.not_le.2 hlt)]
  exact ⟨_, rfl⟩

theorem insertPublication_of_waiting {p : ProofRow} {fetched : List VectorRecordRow} {i : ItemRow}
    (hproofs : ∀ q ∈ s.proofs, q.proof ≠ p.proof) (hi : s.item? p.team p.item = some i)
    (hmanifests : ∀ m ∈ s.manifests, m.proof ≠ p.proof ∧ m.key ≠ p.slot) :
    s.insertPublication p fetched = .ok { s with
      proofs := s.proofs ++ [p], manifests := s.manifests ++ [p.manifest i.rowRevision fetched] } := by
  have hany : (s.manifests.any fun m => m.proof == p.proof) = false :=
    List.any_eq_false.2 fun m hm he => (hmanifests m hm).1 (beq_iff_eq.1 he)
  unfold insertPublication
  refine bind_ok_iff.2 ⟨_, insertUnique_eq_ok_iff.2 ⟨hproofs, rfl⟩, bind_ok_iff.2 ⟨i, required_ok_iff.2 hi,
    bind_ok_iff.2 ⟨(), failIf_ok_iff.2 hany, bind_ok_iff.2 ⟨_, insertUnique_eq_ok_iff.2 ⟨?_, rfl⟩, rfl⟩⟩⟩⟩
  exact fun m hm => (hmanifests m hm).2

theorem served_item (proof : ProofId) (hs : (s.items.map ItemRow.key).Nodup) {c : Publish} {i : ItemRow} {revision : RevisionId}
    {team : TeamId} {item : ItemId} (hi : s.item? team item = some i) (hactive : i.lifecycleState = .active)
    (hlatest : i.latestRevision = some revision) :
    (c.served i revision proof s).item? team item = some (i.serve revision) := by
  obtain ⟨hmem, hkey⟩ := item?_eq_some hi
  have hserves : servesNext i revision i = true := by simp [servesNext, hactive, hlatest]
  have hrow : i.serve revision ∈ updateWhere (servesNext i revision) (ItemRow.serve revision) s.items :=
    mem_updateWhere.2 ⟨i, hmem, if_pos hserves⟩
  have hfind := find?_of_key (nodup_keys_updateWhere (c := servesNext i revision) (ItemRow.key_serve revision) hs) hrow
  rw [ItemRow.key_serve, hkey] at hfind
  exact hfind

theorem find?_provedRow (c : Publish) {k : VectorizeHandoff} (hu : s.Unpublished k) :
    ((s.proofs ++ [c.provedRow k s]).find? fun p => p.proof == k.publicationProof && p.team == c.team &&
      p.item == k.item && p.revision == k.revision && p.nspace == k.nspace &&
        p.indexGeneration == k.indexGeneration) = some (c.provedRow k s) := by
  have hnone : s.proofs.find? (fun p => p.proof == k.publicationProof && p.team == c.team && p.item == k.item &&
      p.revision == k.revision && p.nspace == k.nspace && p.indexGeneration == k.indexGeneration) = none := by
    refine List.find?_eq_none.2 fun p hp hc => ?_
    simp only [Bool.and_eq_true, beq_iff_eq] at hc
    exact hu p hp hc.1.1.1.1.1
  rw [List.find?_append, hnone, Option.none_or]
  refine List.find?_cons_of_pos ?_
  simp [Publish.provedRow, Publish.proofRow]

theorem raisedNamespace_active (h : s.Accounted) {k : VectorizeHandoff} (hk : k ∈ s.handoffs) {team : TeamId}
    (hteam : k.team = team) : ((raiseNamespace team k.nspace k.indexGeneration s.namespaces).find? fun n =>
      n.nspace == k.nspace && n.team == team).any (·.isActive) = true := by
  subst hteam
  obtain ⟨n, hn, hnspace, hnteam, hle⟩ := h.facts.counted.handoffs k hk
  rw [raiseNamespace_of_covers h.facts.counted.keyed ⟨n, hn, hnspace, hnteam, hle⟩]
  cases hf : s.namespaces.find? fun n => n.nspace == k.nspace && n.team == k.team with
  | none =>
    have hne := List.find?_eq_none.1 hf n hn
    simp [hnspace, hnteam] at hne
  | some m => exact h.facts.counted.keyed.active m (List.mem_of_find?_eq_some hf)

theorem publish_of_waiting (h : s.Accounted) {c : Publish} {k : VectorizeHandoff} (hk : k ∈ s.handoffs)
    (hteam : k.team = c.team) (hexecution : k.execution = c.producer.execution) (hu : s.Unpublished k)
    (hlater : ∀ p ∈ s.proofs, p.team = k.team → p.item = k.item → p.nspace = k.nspace →
      ¬ k.indexGeneration < p.indexGeneration) (ha : s.Awaits k.team k.item k.revision) :
    ∃ s', s.publish grace c = .ok s' := by
  obtain ⟨i, hi, hactive, hlatest⟩ := ha
  rw [hteam] at hi
  obtain ⟨hmem, -⟩ := item?_eq_some hi
  have hfind : (s.handoffs.find? fun j => j.execution == c.producer.execution && j.team == c.team) = some k := by
    refine find?_of_unique h.facts.keyed.handoffs hk (by simp [hexecution, hteam]) fun j _ hj => ?_
    simp only [Bool.and_eq_true, beq_iff_eq] at hj
    exact hj.1.trans hexecution.symm
  have hrequired : k.vectorRecords.isEmpty = false := by
    rw [List.isEmpty_eq_false_iff]
    exact h.waiting.required k hk
  have hslot := provedRow_slot (s := s) hteam
  have hinsert : ({ s with records := updateWhere (isOfHandoff c.team k) VectorRecordRow.index s.records } : Serving).insertPublication
      (c.provedRow k s) (s.records.filter (isOfHandoff c.team k)) = .ok (c.inserted k i.rowRevision s) := by
    refine insertPublication_of_waiting hu hi fun m hm => ?_
    rw [hslot]
    exact manifests_of_waiting h hk hu m hm
  have hbelow : ∀ q ∈ (c.inserted k i.rowRevision s).pointers, q.key = (c.team, k.item, k.nspace) →
      q.activeIndexGeneration < k.indexGeneration := by
    rw [← hteam]
    exact pointers_of_waiting h hk hu hlater
  obtain ⟨l, q, hpromote, hq, hmoved⟩ := promotePointer_of_below (s := c.inserted k i.rowRevision s)
    (p := c.provedRow k s) c.now h.facts.keyed.pointers hbelow
  let s₁ : Serving := { c.inserted k i.rowRevision s with
    pointers := l, namespaces := raiseNamespace c.team k.nspace k.indexGeneration s.namespaces }
  have hproof : (s₁.proofs.find? fun p => p.proof == k.publicationProof && p.team == c.team && p.item == k.item &&
      p.revision == k.revision && p.nspace == k.nspace && p.indexGeneration == k.indexGeneration) = some (c.provedRow k s) :=
    find?_provedRow c hu
  have hnotransition : s₁.hasTransition c.team k.item
      (.publication k.item k.revision k.publicationProof c.producer) = false := by
    refine List.any_eq_false.2 fun t ht hc => ?_
    simp only [Bool.and_eq_true, beq_iff_eq] at hc
    obtain ⟨p, hp, he⟩ := h.waiting.transitions t ht k.item k.revision k.publicationProof c.producer hc.2
    exact hu p hp he
  have hcomplete : (c.provedRow k s).isComplete = true := by simp [ProofRow.isComplete, Publish.provedRow, Publish.proofRow]
  have hserve := publishRevision_of_moved (s := s₁) h.facts.keyed.items hi hactive hlatest hproof rfl hcomplete hq hmoved
    hnotransition
  obtain ⟨s', hretire⟩ : ∃ s', (c.served i k.revision k.publicationProof s₁).retireSuperseded grace (c.provedRow k s)
      ((c.inserted k i.rowRevision s).pointer? c.team k.item k.nspace) = .ok s' := by
    unfold retireSuperseded
    cases hb : (c.inserted k i.rowRevision s).pointer? c.team k.item k.nspace with
    | none => exact ⟨_, rfl⟩
    | some r =>
      obtain ⟨hr, hrkey⟩ := pointer?_eq_some hb
      have hlt : r.activeIndexGeneration < (c.provedRow k s).indexGeneration := hbelow r hr hrkey
      simp only
      rw [if_pos hlt]
      have hany : (s₁.namespace? c.team k.nspace).any (·.isActive) = true := raisedNamespace_active h hk hteam
      refine scheduleRetirement_of_moved (p := c.provedRow k s) hq hmoved.active hmoved.generation (hmoved.epoch r hb) hlt hany ?_
      have hitem := served_item (s := s₁) (c := c) k.publicationProof h.facts.keyed.items hi hactive hlatest
      show ((c.served i k.revision k.publicationProof s₁).item? c.team k.item).any _ = true
      have hlive := h.waiting.live i hmem (by rw [hactive]; exact fun he => IntakeLifecycle.noConfusion he)
      rw [hitem]
      simp [ItemRow.serve, hactive, hlive]
  refine ⟨s', ?_⟩
  unfold publish
  refine bind_ok_iff.2 ⟨k, required_ok_iff.2 hfind, bind_ok_iff.2 ⟨(), failIf_ok_iff.2 hrequired,
    bind_ok_iff.2 ⟨_, publishable_of_waiting h hk hteam hu, bind_ok_iff.2 ⟨_, hinsert, bind_ok_iff.2 ⟨_, hpromote,
      bind_ok_iff.2 ⟨_, hserve, hretire⟩⟩⟩⟩⟩⟩

end Serving

/-- In a run whose rebuilds take unclaimed numbers, every number of an Item and a namespace has one artifact, and an
accepted outcome can be published while its Item awaits it, until a greater generation has been. -/
theorem generationOwner (grace : Nat) (l : List ServingStep) (hd : ∀ t ∈ l, t.IsDrawn)
    (hl : StepsMeet (servingStep grace) (fun s t => ∀ s', t.transact grace s = .ok s' → t.TakesUnclaimed s) .empty l) :
    let s := runFrom (servingStep grace) .empty l
    s.OneArtifact ∧ ∀ k ∈ s.handoffs, s.Unpublished k → s.Awaits k.team k.item k.revision →
      (∀ p ∈ s.proofs, p.team = k.team → p.item = k.item → p.nspace = k.nspace → ¬ k.indexGeneration < p.indexGeneration) →
      ∀ c : Publish, k.team = c.team → k.execution = c.producer.execution → ∃ s', s.publish grace c = .ok s' := by
  have h := accounted_run accounted_empty hd hl
  exact ⟨h.owners.oneArtifact, fun k hk hu ha hlater c hteam hexecution =>
    publish_of_waiting h hk hteam hexecution hu hlater ha⟩

/-! ### a rebuild beside a revectorized Item -/

/-- The published Item is admitted for a rebuild, whose stage claims generation 2 without publishing yet. -/
def sampleRevectorized : List ServingStep :=
  samplePublication ++
    [.acceptRebuild ⟨1, 1, 2, 10⟩ ⟨5, 9, 1⟩, .acceptConstruct ⟨1, 101, 5, 1, 10, 6, true, true⟩,
      .vectorize { sampleVectorize with
        execution := 5, generationArtifact := 101, indexGeneration := 2, publicationProof := 1001
        records := [⟨8, 1, .original, 78⟩] }]

theorem generationOwner_revectorized : ∃ s', publish 0 ⟨1, ⟨5, 10, 1⟩, 0⟩
    (runFrom (servingStep 0) .empty sampleRevectorized) = .ok s' := by
  have howner := generationOwner 0 sampleRevectorized
    (by
      intro t ht
      simp only [sampleRevectorized, samplePublication, List.cons_append, List.nil_append, List.mem_cons, List.not_mem_nil,
        or_false] at ht
      obtain rfl | rfl | rfl | rfl | rfl | rfl | rfl := ht
      · trivial
      · trivial
      · exact ⟨by decide, by decide⟩
      · trivial
      · trivial
      · trivial
      · exact ⟨by decide, by decide⟩)
    (by exact ⟨fun _ _ => trivial, fun _ _ => trivial, fun _ _ => trivial, fun _ _ => trivial, fun _ _ => trivial,
      fun _ _ => trivial, fun _ _ => trivial, trivial⟩)
  refine howner.2 ⟨1, 5, 1, 10, 1, 2, 101, 1001, sampleLayerA, [(8, 78)]⟩ (by decide) ?_ ?_ ?_ _ rfl rfl
  · intro p hp
    exact List.forall_iff_forall_mem.1 (by decide : List.Forall (fun p : ProofRow => p.proof ≠ 1001)
      (runFrom (servingStep 0) .empty sampleRevectorized).proofs) p hp
  · exact ⟨_, rfl, rfl, rfl⟩
  · intro p hp _ _ _
    exact List.forall_iff_forall_mem.1 (by decide : List.Forall (fun p : ProofRow => ¬ 2 < p.indexGeneration)
      (runFrom (servingStep 0) .empty sampleRevectorized).proofs) p hp

/-- An index rebuild of the Item, planned from its active pointer. -/
def sampleIndexRebuild : IndexRebuild where
  team := 1
  producer := ⟨6, 11, 1⟩
  plans := [⟨1, 10, 2, 1, 1, 0, 1000, 100, 5, [(7, 77)], sampleLayerA, 102, 9, 1002, fun _ => 9⟩]
  now := 1

/-- The rebuild takes the number the waiting handoff has claimed: the slot has two artifacts, and the handoff cannot be
published. -/
theorem generationOwner_claimed_twice :
    let s := runFrom (servingStep 0) .empty (sampleRevectorized ++ [.indexRebuild sampleIndexRebuild])
    ¬ s.OneArtifact ∧ publish 0 ⟨1, ⟨5, 10, 1⟩, 2⟩ s =
      .error (conflictError "PUBLICATION_POINTER_FENCE" "Active index pointer changed concurrently") := by
  refine ⟨fun h => ?_, rfl⟩
  have hrecords := h.records _ (List.mem_cons_of_mem _ List.mem_cons_self) _
    (List.mem_cons_of_mem _ (List.mem_cons_of_mem _ List.mem_cons_self)) rfl
  exact absurd hrecords (by decide)

end KnowledgeBase
