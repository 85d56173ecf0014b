import KnowledgeBase.Serving.Provenance

/-!
# Namespaces

The generation counters. A Team has one namespace for a Layer A; a vectorize outcome claims the generation after the
counter of its namespace, a publication and a rebuild raise the counter to theirs. No writer removes a namespace,
deactivates one or lowers a counter, so every handoff and every proof stays at or below the counter of its namespace.
-/

namespace KnowledgeBase

open Checked Relational

def NamespaceRow.binding (n : NamespaceRow) : TeamId × EmbeddingModelRef := (n.team, n.layerA)

@[simp] theorem NamespaceRow.nspace_raise (generation : Nat) (n : NamespaceRow) :
    (NamespaceRow.raise generation n).nspace = n.nspace := rfl
@[simp] theorem NamespaceRow.binding_raise (generation : Nat) (n : NamespaceRow) :
    (NamespaceRow.raise generation n).binding = n.binding := rfl

/-! ### tables of namespaces -/

/-- The counter of the namespace has reached the generation. -/
def Covers (l : List NamespaceRow) (team : TeamId) (nspace : NamespaceId) (generation : Nat) : Prop :=
  ∃ n ∈ l, n.nspace = nspace ∧ n.team = team ∧ generation ≤ n.indexGeneration

/-- Every namespace stays, with its counter or a greater one. -/
def NamespacesRise (l l' : List NamespaceRow) : Prop :=
  ∀ n ∈ l, ∃ m ∈ l', m.nspace = n.nspace ∧ m.binding = n.binding ∧ n.indexGeneration ≤ m.indexGeneration

structure NamespacesKeyed (l : List NamespaceRow) : Prop where
  nspaces : (l.map NamespaceRow.nspace).Nodup
  bindings : (l.map NamespaceRow.binding).Nodup
  active : ∀ n ∈ l, n.isActive = true

theorem NamespacesRise.refl (l : List NamespaceRow) : NamespacesRise l l := fun n hn => ⟨n, hn, rfl, rfl, le_rfl⟩

theorem NamespacesRise.trans {l l' l'' : List NamespaceRow} (h : NamespacesRise l l') (h' : NamespacesRise l' l'') :
    NamespacesRise l l'' := by
  intro n hn
  obtain ⟨m, hm, hnspace, hbinding, hle⟩ := h n hn
  obtain ⟨k, hk, hnspace', hbinding', hle'⟩ := h' m hm
  exact ⟨k, hk, hnspace'.trans hnspace, hbinding'.trans hbinding, hle.trans hle'⟩

theorem Covers.rise {l l' : List NamespaceRow} (h : NamespacesRise l l') {team : TeamId} {nspace : NamespaceId}
    {generation : Nat} (hc : Covers l team nspace generation) : Covers l' team nspace generation := by
  obtain ⟨n, hn, rfl, rfl, hle⟩ := hc
  obtain ⟨m, hm, hnspace, hbinding, hle'⟩ := h n hn
  exact ⟨m, hm, hnspace, congrArg Prod.fst hbinding, hle.trans hle'⟩

theorem namespacesRise_append (l : List NamespaceRow) (n : NamespaceRow) : NamespacesRise l (l ++ [n]) :=
  fun m hm => ⟨m, List.mem_append_left _ hm, rfl, rfl, le_rfl⟩

theorem namespacesRise_raise (c : NamespaceRow → Bool) (generation : Nat) (l : List NamespaceRow) :
    NamespacesRise l (updateWhere c (NamespaceRow.raise generation) l) := by
  intro n hn
  refine ⟨_, mem_updateWhere_of_mem hn, ?_⟩
  split
  · exact ⟨rfl, rfl, Nat.le_max_left _ _⟩
  · exact ⟨rfl, rfl, le_rfl⟩

theorem NamespacesKeyed.raise {l : List NamespaceRow} (h : NamespacesKeyed l) (c : NamespaceRow → Bool)
    (generation : Nat) : NamespacesKeyed (updateWhere c (NamespaceRow.raise generation) l) := by
  refine ⟨nodup_keys_updateWhere (NamespaceRow.nspace_raise generation) h.nspaces,
    nodup_keys_updateWhere (NamespaceRow.binding_raise generation) h.bindings, fun n hn => ?_⟩
  rcases mem_updateWhere_cases hn with ⟨hn, -⟩ | ⟨m, hm, -, rfl⟩
  · exact h.active n hn
  · exact h.active m hm

theorem covers_raise (generation : Nat) {c : NamespaceRow → Bool} {l : List NamespaceRow} {n : NamespaceRow}
    (hn : n ∈ l) (hc : c n = true) :
    Covers (updateWhere c (NamespaceRow.raise generation) l) n.team n.nspace generation := by
  refine ⟨_, mem_updateWhere_of_mem hn, ?_⟩
  rw [if_pos hc]
  exact ⟨rfl, rfl, Nat.le_max_right _ _⟩

namespace Serving

variable {s s' : Serving}

/-! ### the claim of a vectorize outcome -/

def isBinding (team : TeamId) (layerA : EmbeddingModelRef) (n : NamespaceRow) : Bool :=
  n.team == team && n.layerA == layerA

/-- The namespace whose counter is one below the claimed generation. -/
def isClaimable (c : Vectorize) (n : NamespaceRow) : Bool :=
  n.nspace == c.nspace && n.team == c.team && n.isActive && n.indexGeneration + 1 == c.indexGeneration

/-- The row a first use of a Layer A inserts. -/
def Vectorize.namespaceRow (c : Vectorize) : NamespaceRow := ⟨c.nspace, c.team, c.layerA, true, 0⟩

/-- The namespaces a stage claims in: those it found, or with its own appended. -/
def Ensured (c : Vectorize) (l l' : List NamespaceRow) : Prop :=
  (∃ n ∈ l, isBinding c.team c.layerA n = true ∧ n.nspace = c.nspace) ∧ l' = l ∨
    (∀ n ∈ l, isBinding c.team c.layerA n = false) ∧ (∀ n ∈ l, n.nspace ≠ c.nspace) ∧ l' = l ++ [c.namespaceRow]

theorem ensureNamespace_claims {c : Vectorize} (h : s.ensureNamespace c = .ok s') :
    ∃ l, Ensured c s.namespaces l ∧ s' = { s with namespaces := l } := by
  unfold ensureNamespace at h
  split at h
  · rename_i n hn
    obtain ⟨_, hf, h⟩ := bind_ok_iff.1 h
    rw [failIf_ok_iff, bne_eq_false_iff_eq] at hf
    exact ⟨s.namespaces, .inl ⟨⟨n, List.mem_of_find?_eq_some hn, List.find?_some hn, hf⟩, rfl⟩,
      (pure_ok_iff.1 h).symm⟩
  · rename_i hn
    obtain ⟨l, hl, h⟩ := bind_ok_iff.1 h
    obtain ⟨hfresh, rfl⟩ := insertUnique_eq_ok_iff.1 hl
    refine ⟨_, .inr ⟨fun n hmem => ?_, hfresh, rfl⟩, (pure_ok_iff.1 h).symm⟩
    exact Bool.eq_false_iff.2 (List.find?_eq_none.1 hn n hmem)

theorem vectorize_claims {c : Vectorize} (h : s.vectorize c = .ok s') :
    ∃ l, Ensured c s.namespaces l ∧ (∃ n ∈ l, isClaimable c n = true) ∧
      s'.namespaces = updateWhere (isClaimable c) (NamespaceRow.raise c.indexGeneration) l := by
  unfold vectorize at h
  obtain ⟨_, -, h⟩ := bind_ok_iff.1 h
  obtain ⟨_, -, h⟩ := bind_ok_iff.1 h
  obtain ⟨s₁, h₁, h⟩ := bind_ok_iff.1 h
  obtain ⟨raised, hraised, h⟩ := bind_ok_iff.1 h
  obtain ⟨records, -, h⟩ := bind_ok_iff.1 h
  obtain ⟨handoffs, -, h⟩ := bind_ok_iff.1 h
  obtain rfl := pure_ok_iff.1 h
  obtain ⟨l, hl, rfl⟩ := ensureNamespace_claims h₁
  have hn := exists_of_casWhere hraised
  obtain ⟨-, rfl⟩ := casWhere_eq_ok_iff.1 hraised
  exact ⟨l, hl, hn, rfl⟩

theorem Ensured.rise {c : Vectorize} {l l' : List NamespaceRow} (h : Ensured c l l') : NamespacesRise l l' := by
  rcases h with ⟨-, rfl⟩ | ⟨-, -, rfl⟩
  · exact .refl l'
  · exact namespacesRise_append l _

theorem Ensured.keyed {c : Vectorize} {l l' : List NamespaceRow} (h : Ensured c l l') (hl : NamespacesKeyed l) :
    NamespacesKeyed l' := by
  rcases h with ⟨-, rfl⟩ | ⟨hbinding, hnspace, rfl⟩
  · exact hl
  · refine ⟨nodup_keys_append hl.nspaces hnspace, nodup_keys_append hl.bindings fun n hn he => ?_, fun n hn => ?_⟩
    · have hne := hbinding n hn
      simp only [NamespaceRow.binding, Vectorize.namespaceRow, Prod.mk.injEq] at he
      simp [isBinding, he.1, he.2] at hne
    · rcases List.mem_append.1 hn with hn | hn
      · exact hl.active n hn
      · rw [List.mem_singleton.1 hn]
        rfl

/-! ### the counter a rebuild raises -/

def IndexRebuildPlan.isNamespace (team : TeamId) (p : IndexRebuildPlan) (n : NamespaceRow) : Bool :=
  n.team == team && n.nspace == p.nspace && n.isActive && n.layerA == p.layerA

theorem commitPlan_raises {grace : Nat} {c : IndexRebuild} {p : IndexRebuildPlan} (h : s.commitPlan grace c p = .ok s') :
    (∃ n ∈ s.namespaces, p.isNamespace c.team n = true) ∧
      s'.namespaces = updateWhere (p.isNamespace c.team) (NamespaceRow.raise p.nextIndexGeneration) s.namespaces := by
  unfold commitPlan at h
  obtain ⟨⟨i, sources⟩, -, h⟩ := bind_ok_iff.1 h
  obtain ⟨artifacts, -, h⟩ := bind_ok_iff.1 h
  obtain ⟨records, -, h⟩ := bind_ok_iff.1 h
  obtain ⟨proofs, -, h⟩ := bind_ok_iff.1 h
  obtain ⟨pointers, -, h⟩ := bind_ok_iff.1 h
  obtain ⟨namespaces, hn, h⟩ := bind_ok_iff.1 h
  obtain ⟨s₁, hs₁, h⟩ := bind_ok_iff.1 h
  obtain rfl := pure_ok_iff.1 h
  obtain ⟨q, -, -, -, j, -, rfl⟩ := scheduleRetirement_ok hs₁
  have hrow := exists_of_casWhere hn
  obtain ⟨-, rfl⟩ := casWhere_eq_ok_iff.1 hn
  exact ⟨hrow, rfl⟩

/-! ### what a publication writes -/

/-- The pointer of the proof is inserted, or moved up to its generation. -/
def Promoted (p : ProofRow) (now : Time) (l l' : List PointerRow) : Prop :=
  (∀ q ∈ l, q.key ≠ (p.team, p.item, p.nspace)) ∧ l' = l ++ [p.firstPointer now] ∨
    ∃ q ∈ l, q.key = (p.team, p.item, p.nspace) ∧ (∃ r ∈ l, isSuperseded p q r = true) ∧
      l' = updateWhere (isSuperseded p q) (PointerRow.promote p now) l

/-- The proof of a publication, over the records found under its handoff. -/
def Publish.provedRow (c : Publish) (k : VectorizeHandoff) (s : Serving) : ProofRow :=
  c.proofRow k (s.records.filter (isOfHandoff c.team k))

/-- The index tables before and after the publication of a handoff. -/
structure Published (c : Publish) (k : VectorizeHandoff) (s s' : Serving) : Prop where
  handoff : k ∈ s.handoffs
  execution : k.execution = c.producer.execution
  team : k.team = c.team
  fresh : ∀ q ∈ s.proofs, q.proof ≠ k.publicationProof
  proofs : s'.proofs = s.proofs ++ [c.provedRow k s]
  manifests : ∃ itemEpoch, s'.manifests = s.manifests ++
    [(c.provedRow k s).manifest itemEpoch (s.records.filter (isOfHandoff c.team k))]
  records : s'.records = updateWhere (isOfHandoff c.team k) VectorRecordRow.index s.records
  handoffs : s'.handoffs = s.handoffs
  namespaces : s'.namespaces = raiseNamespace c.team k.nspace k.indexGeneration s.namespaces
  pointers : Promoted (c.provedRow k s) c.now s.pointers s'.pointers
  transitions : s'.transitions = s.transitions ∨ ∃ t : TransitionRow,
    t.fence = .publication k.item k.revision k.publicationProof c.producer ∧ s'.transitions = s.transitions ++ [t]
  items : s'.items = s.items ∨ ∃ c revision, s'.items = updateWhere c (ItemRow.serve revision) s.items

/-- The tables a serving advance and a retirement intent leave. -/
structure OnlyServes (fence : TransitionFence) (s s' : Serving) : Prop where
  proofs : s'.proofs = s.proofs
  manifests : s'.manifests = s.manifests
  records : s'.records = s.records
  handoffs : s'.handoffs = s.handoffs
  namespaces : s'.namespaces = s.namespaces
  pointers : s'.pointers = s.pointers
  transitions : s'.transitions = s.transitions ∨ ∃ t : TransitionRow, t.fence = fence ∧ s'.transitions = s.transitions ++ [t]
  items : s'.items = s.items ∨ ∃ c revision, s'.items = updateWhere c (ItemRow.serve revision) s.items

theorem onlyServes_publishRevision {item : ItemId} {revision : RevisionId} {proof : ProofId} {nspace : NamespaceId}
    {generation : Nat} {c : Publish} (h : s.publishRevision item revision proof nspace generation c = .ok s') :
    OnlyServes (.publication item revision proof c.producer) s s' := by
  obtain ⟨i, -, -, -, rfl⟩ | ⟨i, -, hkey, -, rfl⟩ := publishRevision_ok h
  · exact ⟨rfl, rfl, rfl, rfl, rfl, rfl, .inl rfl, .inl rfl⟩
  · have hitem : i.item = item := (Prod.mk.inj hkey).2
    refine ⟨rfl, rfl, rfl, rfl, rfl, rfl, .inr ⟨c.transition i revision proof, ?_, rfl⟩, .inr ⟨_, revision, rfl⟩⟩
    rw [← hitem]
    rfl

theorem OnlyServes.retireSuperseded {s'' : Serving} {fence : TransitionFence} (hs : OnlyServes fence s s') {grace : Nat}
    {p : ProofRow} {before : Option PointerRow} (h : s'.retireSuperseded grace p before = .ok s'') :
    OnlyServes fence s s'' := by
  obtain rfl | ⟨q, -, i, -, -, rfl⟩ := retireSuperseded_ok h
  · exact hs
  · exact ⟨hs.proofs, hs.manifests, hs.records, hs.handoffs, hs.namespaces, hs.pointers, hs.transitions, hs.items⟩

theorem publish_writes {grace : Nat} {c : Publish} (h : s.publish grace c = .ok s') :
    ∃ k, Published c k s s' := by
  obtain ⟨k, hk, hexecution, hteam, fetched, hfetched, hfresh, -, itemEpoch, s₁, s₂, before, h₁, h₂, h₃⟩ := publish_ok h
  obtain ⟨rfl, -⟩ := publishableRecords_ok hfetched
  obtain ⟨l, rfl, hpromoted⟩ : ∃ l, s₁ = { c.inserted k itemEpoch s with pointers := l } ∧
      Promoted (c.provedRow k s) c.now s.pointers l := by
    obtain ⟨hnone, rfl⟩ | ⟨q, hq, hkey, hr, rfl⟩ := promotePointer_ok h₁
    · exact ⟨_, rfl, .inl ⟨hnone, rfl⟩⟩
    · exact ⟨_, rfl, .inr ⟨q, hq, hkey, hr, rfl⟩⟩
  have hserved := (onlyServes_publishRevision h₂).retireSuperseded h₃
  exact ⟨k, hk, hexecution, hteam, hfresh, hserved.proofs, ⟨itemEpoch, hserved.manifests⟩, hserved.records,
    hserved.handoffs, hserved.namespaces, hserved.pointers ▸ hpromoted, hserved.transitions, hserved.items⟩

theorem raiseNamespace_of_covers {team : TeamId} {nspace : NamespaceId} {generation : Nat} {l : List NamespaceRow}
    (hl : NamespacesKeyed l) (h : Covers l team nspace generation) : raiseNamespace team nspace generation l = l := by
  obtain ⟨n, hn, rfl, rfl, hle⟩ := h
  have hsame (m : NamespaceRow) (hm : m ∈ l) :
      (if m.nspace == n.nspace && m.team == n.team && m.isActive then NamespaceRow.raise generation m else m) = m := by
    split
    · rename_i hc
      simp only [Bool.and_eq_true, beq_iff_eq] at hc
      obtain rfl := eq_of_key hl.nspaces hm hn hc.1.1
      simp only [NamespaceRow.raise, Nat.max_eq_left hle]
    · rfl
  unfold raiseNamespace updateWhere
  exact (List.map_congr_left hsame).trans (List.map_id l)

/-! ### writers that leave the index ledgers -/

end Serving

def ServingStep.isIndexing : ServingStep → Bool
  | .vectorize _ | .publish _ | .indexRebuild _ => true
  | _ => false

namespace Serving

variable {s s' : Serving}

/-- The ledgers only an indexing stage writes. -/
structure SameLedgers (s s' : Serving) : Prop where
  namespaces : s'.namespaces = s.namespaces
  handoffs : s'.handoffs = s.handoffs
  proofs : s'.proofs = s.proofs
  manifests : s'.manifests = s.manifests

theorem SameLedgers.refl (s : Serving) : s.SameLedgers s := ⟨rfl, rfl, rfl, rfl⟩

theorem SameLedgers.trans {s'' : Serving} (h : s.SameLedgers s') (h' : s'.SameLedgers s'') : s.SameLedgers s'' :=
  ⟨h'.namespaces.trans h.namespaces, h'.handoffs.trans h.handoffs, h'.proofs.trans h.proofs,
    h'.manifests.trans h.manifests⟩

theorem sameLedgers_applied (c : LifecycleCommand) (i : ItemRow) (target : IntakeLifecycle) :
    s.SameLedgers (c.applied i target s) := by
  unfold LifecycleCommand.applied
  by_cases hd : (c.action == .delete) = true
  · simp only [hd, ↓reduceIte]
    exact ⟨rfl, rfl, rfl, rfl⟩
  · simp only [hd]
    exact ⟨rfl, rfl, rfl, rfl⟩

theorem sameLedgers_transact {grace : Nat} {t : ServingStep} (ht : t.isIndexing = false)
    (h : t.transact grace s = .ok s') : s.SameLedgers s' := by
  cases t with
  | vectorize c => cases ht
  | publish c => cases ht
  | indexRebuild c => cases ht
  | acceptSnapshot c =>
    obtain ⟨before, -, -, ⟨-, rfl⟩ | ⟨-, -, rfl⟩⟩ := acceptSnapshot_ok h
    · exact ⟨rfl, rfl, rfl, rfl⟩
    · exact ⟨rfl, rfl, rfl, rfl⟩
  | acceptCollection c =>
    refine foldEach_preserves (P := s.SameLedgers) (fun d d' m _ hd hm => hd.trans ?_) (.refl s) h
    obtain ⟨-, rfl⟩ := insertMember_ok hm
    exact ⟨rfl, rfl, rfl, rfl⟩
  | acceptRebuild t producer =>
    obtain ⟨i, -, -, -, rfl⟩ := acceptRebuild_ok h
    exact ⟨rfl, rfl, rfl, rfl⟩
  | acceptMetadataUpdate t metadataRevision producer =>
    obtain ⟨i, -, -, -, rfl | ⟨revision, rfl⟩⟩ := acceptMetadataUpdate_ok h
    · exact ⟨rfl, rfl, rfl, rfl⟩
    · exact ⟨rfl, rfl, rfl, rfl⟩
  | lifecycle c =>
    obtain rfl | ⟨i, -, -, target, -, rfl⟩ := applyLifecycle_ok h
    · exact .refl s'
    · exact sameLedgers_applied c i target
  | humanReview team snapshot decision =>
    obtain rfl := Except.ok.inj h
    cases decision with
    | approve => exact ⟨rfl, rfl, rfl, rfl⟩
    | reject => exact ⟨rfl, rfl, rfl, rfl⟩
  | acceptConstruct a =>
    obtain ⟨-, -, rfl⟩ := acceptConstruct_ok h
    exact ⟨rfl, rfl, rfl, rfl⟩
  | discoverRetirement team item nspace retired =>
    obtain ⟨p, -, -, -, i, -, rfl⟩ := discoverRetirement_ok h
    exact ⟨rfl, rfl, rfl, rfl⟩
  | softPurge i now =>
    obtain ⟨-, rfl⟩ := softPurge_ok h
    exact ⟨rfl, rfl, rfl, rfl⟩
  | purgeGeneration c =>
    obtain rfl := purgeGeneration_ok h
    exact ⟨rfl, rfl, rfl, rfl⟩
  | cleanupVectors team item now =>
    obtain ⟨-, rfl⟩ := cleanupVectors_ok h
    exact ⟨rfl, rfl, rfl, rfl⟩

/-! ### counters cover what was claimed -/

structure Counted (s : Serving) : Prop where
  keyed : NamespacesKeyed s.namespaces
  handoffs : ∀ k ∈ s.handoffs, Covers s.namespaces k.team k.nspace k.indexGeneration
  proofs : ∀ p ∈ s.proofs, Covers s.namespaces p.team p.nspace p.indexGeneration

theorem counted_empty : Serving.empty.Counted :=
  ⟨⟨List.nodup_nil, List.nodup_nil, fun _ hn => absurd hn List.not_mem_nil⟩, fun _ hk => absurd hk List.not_mem_nil,
    fun _ hp => absurd hp List.not_mem_nil⟩

theorem Counted.sameLedgers (h : s.Counted) (hs : s.SameLedgers s') : s'.Counted := by
  refine ⟨?_, fun k hk => ?_, fun p hp => ?_⟩
  · rw [hs.namespaces]
    exact h.keyed
  · rw [hs.handoffs] at hk
    rw [hs.namespaces]
    exact h.handoffs k hk
  · rw [hs.proofs] at hp
    rw [hs.namespaces]
    exact h.proofs p hp

theorem handoffs_vectorize {c : Vectorize} (h : s.vectorize c = .ok s') : s'.handoffs = s.handoffs ++ [c.handoff] := by
  obtain ⟨-, -, -, namespaces, records, -, rfl⟩ := vectorize_ok h
  rfl

theorem proofs_vectorize {c : Vectorize} (h : s.vectorize c = .ok s') : s'.proofs = s.proofs := by
  obtain ⟨-, -, -, namespaces, records, -, rfl⟩ := vectorize_ok h
  rfl

theorem counted_vectorize (hs : s.Counted) {c : Vectorize} (h : s.vectorize c = .ok s') : s'.Counted := by
  obtain ⟨l, hl, ⟨n, hn, hclaim⟩, hnamespaces⟩ := vectorize_claims h
  have hrise : NamespacesRise s.namespaces s'.namespaces := by
    rw [hnamespaces]
    exact hl.rise.trans (namespacesRise_raise _ _ _)
  refine ⟨?_, fun k hk => ?_, fun p hp => ?_⟩
  · rw [hnamespaces]
    exact (hl.keyed hs.keyed).raise _ _
  · rw [handoffs_vectorize h] at hk
    rcases List.mem_append.1 hk with hk | hk
    · exact (hs.handoffs k hk).rise hrise
    · rw [List.mem_singleton.1 hk, hnamespaces]
      have hcovers := covers_raise c.indexGeneration hn hclaim
      simp only [isClaimable, Bool.and_eq_true, beq_iff_eq] at hclaim
      rw [hclaim.1.1.1, hclaim.1.1.2] at hcovers
      exact hcovers
  · rw [proofs_vectorize h] at hp
    exact (hs.proofs p hp).rise hrise

theorem counted_publish (hs : s.Counted) {grace : Nat} {c : Publish} (h : s.publish grace c = .ok s') : s'.Counted := by
  obtain ⟨k, hw⟩ := publish_writes h
  have hcovers := hs.handoffs k hw.handoff
  have hnamespaces : s'.namespaces = s.namespaces := by
    rw [hw.namespaces, ← hw.team]
    exact raiseNamespace_of_covers hs.keyed hcovers
  refine ⟨?_, fun j hj => ?_, fun p hp => ?_⟩
  · rw [hnamespaces]
    exact hs.keyed
  · rw [hw.handoffs] at hj
    rw [hnamespaces]
    exact hs.handoffs j hj
  · rw [hw.proofs] at hp
    rw [hnamespaces]
    rcases List.mem_append.1 hp with hp | hp
    · exact hs.proofs p hp
    · rw [List.mem_singleton.1 hp]
      show Covers s.namespaces c.team k.nspace k.indexGeneration
      rw [← hw.team]
      exact hcovers

theorem namespaces_publish (hs : s.Counted) {grace : Nat} {c : Publish} (h : s.publish grace c = .ok s') :
    s'.namespaces = s.namespaces := by
  obtain ⟨k, hw⟩ := publish_writes h
  rw [hw.namespaces, ← hw.team]
  exact raiseNamespace_of_covers hs.keyed (hs.handoffs k hw.handoff)

theorem counted_commitPlan (hs : s.Counted) {grace : Nat} {c : IndexRebuild} {p : IndexRebuildPlan}
    (h : s.commitPlan grace c p = .ok s') : s'.Counted := by
  obtain ⟨⟨n, hn, hnamespace⟩, hnamespaces⟩ := commitPlan_raises h
  obtain ⟨i, -, -, sources, records, namespaces, -, -, -, -, -, s₁, h₁, rfl⟩ := commitPlan_ok h
  obtain ⟨q, -, -, -, j, -, rfl⟩ := scheduleRetirement_ok h₁
  obtain rfl : namespaces = _ := hnamespaces
  have hrise := namespacesRise_raise (p.isNamespace c.team) p.nextIndexGeneration s.namespaces
  refine ⟨hs.keyed.raise _ _, fun k hk => (hs.handoffs k hk).rise hrise, fun r hr => ?_⟩
  rcases List.mem_append.1 hr with hr | hr
  · exact (hs.proofs r hr).rise hrise
  · rw [List.mem_singleton.1 hr]
    have hcovers := covers_raise p.nextIndexGeneration hn hnamespace
    simp only [IndexRebuildPlan.isNamespace, Bool.and_eq_true, beq_iff_eq] at hnamespace
    rw [hnamespace.1.1.1, hnamespace.1.1.2] at hcovers
    exact hcovers

theorem counted_transact (hs : s.Counted) {grace : Nat} {t : ServingStep} (h : t.transact grace s = .ok s') :
    s'.Counted := by
  by_cases ht : t.isIndexing = true
  · cases t with
    | vectorize c => exact counted_vectorize hs h
    | publish c => exact counted_publish hs h
    | indexRebuild c =>
      exact foldEach_preserves (P := Counted) (fun _ _ _ _ hd hp => counted_commitPlan hd hp) hs h
    | _ => cases ht
  · exact hs.sameLedgers (sameLedgers_transact (Bool.eq_false_iff.2 ht) h)

theorem counted_step (hs : s.Counted) (grace : Nat) (t : ServingStep) : (servingStep grace s t).Counted := by
  obtain h | h := servingStep_cases grace (s := s) (t := t)
  · rw [h]
    exact hs
  · exact counted_transact hs h

/-- What holds of every state of a run. -/
structure RunFacts (s : Serving) : Prop where
  keyed : s.Keyed
  provenance : s.Provenance
  counted : s.Counted

theorem runFacts_step (hs : s.RunFacts) (grace : Nat) (t : ServingStep) : (servingStep grace s t).RunFacts := by
  refine ⟨(advances_step hs.keyed grace t).keyed, ?_, counted_step hs.counted grace t⟩
  obtain h | h := servingStep_cases grace (s := s) (t := t)
  · rw [h]
    exact hs.provenance
  · exact provenance_transact hs.keyed hs.provenance h

theorem runFacts_run (hs : s.RunFacts) (grace : Nat) (l : List ServingStep) : (runFrom (servingStep grace) s l).RunFacts :=
  runFrom_invariant (I := RunFacts) (C := fun _ _ => True) (fun _ t hs _ => runFacts_step hs grace t) hs (stepsMeet_true s l)

theorem runFacts_empty : Serving.empty.RunFacts := ⟨keyed_empty, provenance_empty, counted_empty⟩

end Serving

end KnowledgeBase
